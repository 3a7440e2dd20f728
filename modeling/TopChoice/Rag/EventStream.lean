/-
# The event stream of a turn, and its replay

`_sse`, `_event_stream` and `replay_stream` of `apps/rag-svc/app/api/chat_routes.py`, with
`set_json` and `get_json` of `app/core/redis.py`.  The events of the agent are sent as frames
and kept in Redis when the stream ends, however it ends; a replay sends what is kept.  The
turns of a thread follow one another, Redis is healthy and nothing expires.

What `orjson` writes is a parameter (`Codec`): not every value can be written, and a value
that was written and read back is written as before.

The frame that tells the client of an exception is sent and not kept, and nothing is kept of
a turn with data that cannot be written.  So a replay is what the client of the last turn was
sent exactly when its iterator raised nothing, came to some event and had no such data, or
when what is kept of an earlier turn happens to be that (`replay_faithful_iff`).
-/

import Mathlib.Data.List.Basic

namespace TopChoice
namespace Rag
namespace Sse

/-! ### Frames -/

/-- The data of an event: a value, or a text as it is. -/
inductive Payload (ν : Type) where
  | value (v : ν)
  | text (s : String)
  deriving DecidableEq, Repr

/-- An event with its data. -/
structure Frame (ν : Type) where
  event : String
  data : Payload ν
  deriving DecidableEq, Repr

/-- The text of the data. -/
def Payload.dump {ν : Type} (dumps : ν → String) : Payload ν → String
  | .value v => dumps v
  | .text s => s

/-- `_sse`. -/
def sse {ν : Type} (dumps : ν → String) (frame : Frame ν) : String :=
  "event: " ++ frame.event ++ "\ndata: " ++ frame.data.dump dumps ++ "\n\n"

/-- What `orjson` writes of a value, where it can, and what is read back of it. -/
structure Codec (ν : Type) where
  dumps : ν → Option String
  reload : ν → ν
  /-- What was read back is written as before. -/
  dumps_reload : ∀ {v text}, dumps v = some text → dumps (reload v) = some text

section Stream

variable {ν : Type} (c : Codec ν)

/-- The data as it is sent. -/
def Codec.payload : Payload ν → Option String
  | .value v => c.dumps v
  | .text s => some s

/-- `_sse`, which raises where the data cannot be written. -/
def Codec.sse (frame : Frame ν) : Option String :=
  (c.payload frame.data).map fun text => Sse.sse id ⟨frame.event, .text text⟩

/-- The frame of an error of the route. -/
def errorFrame (code message : String) : String :=
  Sse.sse id ⟨"error",
    .text ("\x7b\"code\":\"" ++ code ++ "\",\"message\":\"" ++ message ++ "\"\x7d")⟩

/-- What is sent when the agent raises. -/
def streamFailed : String := errorFrame "STREAM_FAILED" "The assistant could not finish that reply"

/-- What is replayed when there is nothing. -/
def noActiveStream : String := errorFrame "NO_ACTIVE_STREAM" "There is nothing to replay"

/-! ### A turn -/

/-- How the iterator of the agent ends. -/
inductive Ending where
  | finished
  | raised
  | cancelled
  deriving DecidableEq, Repr

/-- An event of the agent, and whether the client was found to be gone when it came. -/
structure Arrival (ν : Type) where
  event : Frame ν
  disconnected : Bool := false

/-- A streamed turn: the token of a guest, and what the iterator of the agent does. -/
structure Turn (ν : Type) where
  guestToken : Option String := none
  arrivals : List (Arrival ν)
  ending : Ending := .finished

/-- The loop of `_event_stream`: what is sent, and the frames to be kept. -/
def bridge (ending : Ending) : List (Arrival ν) → List String × List (Frame ν)
  | [] => (if ending = .raised then [streamFailed] else [], [])
  | arrival :: rest =>
      if arrival.disconnected then ([], [])
      else
        match c.sse arrival.event with
        | none => ([streamFailed], [arrival.event])
        | some wire =>
            let (sent, frames) := bridge ending rest
            (wire :: sent, arrival.event :: frames)

/-- What the client is sent after the meta frame. -/
def Turn.sent (turn : Turn ν) : List String := (bridge c turn.ending turn.arrivals).1

/-- The frame that hands a guest the token of the thread. -/
def Turn.metaFrames (threadId : String) (turn : Turn ν) : List String :=
  turn.guestToken.toList.map fun token => Sse.sse id ⟨"meta", .text ("\x7b\"threadId\":\"" ++
    threadId ++ "\",\"guestToken\":\"" ++ token ++ "\"\x7d")⟩

/-- `_event_stream`. -/
def eventStream (threadId : String) (turn : Turn ν) : List String :=
  turn.metaFrames threadId ++ turn.sent c

/-! ### What is kept -/

/-- A frame as it is read back. -/
def Codec.reloadFrame (frame : Frame ν) : Frame ν where
  event := frame.event
  data :=
    match frame.data with
    | .value v => .value (c.reload v)
    | .text s => .text s

/-- `set_json` of the frames; where one cannot be written, what was kept stays. -/
def keep (kept : Option (List (Frame ν))) (turn : Turn ν) : Option (List (Frame ν)) :=
  let frames := (bridge c turn.ending turn.arrivals).2
  if frames.all fun frame => (c.payload frame.data).isSome then some (frames.map c.reloadFrame)
  else kept

/-- What is kept of a thread after some turns. -/
def keptAfter (turns : List (Turn ν)) : Option (List (Frame ν)) := turns.foldl (keep c) none

/-- The frames are sent until one cannot be written. -/
def sendAll : List (Frame ν) → List String
  | [] => []
  | frame :: rest =>
      match c.sse frame with
      | none => []
      | some wire => wire :: sendAll rest

/-- `replay_stream`. -/
def replayStream (kept : Option (List (Frame ν))) : List String :=
  let frames := kept.getD []
  if frames.isEmpty then [noActiveStream] else sendAll c frames

/-! ### What is sent and kept of a turn -/

/-- The events of the agent up to the one the client was found to be gone at. -/
def Turn.reached (turn : Turn ν) : List (Frame ν) :=
  (turn.arrivals.takeWhile fun arrival => !arrival.disconnected).map Arrival.event

/-- The iterator raises, with the client still there. -/
def Turn.BreaksOff (turn : Turn ν) : Prop :=
  turn.ending = .raised ∧ ∀ arrival ∈ turn.arrivals, arrival.disconnected = false

instance (turn : Turn ν) : Decidable turn.BreaksOff := inferInstanceAs (Decidable (_ ∧ _))

/-- The data of the frames can be written. -/
def Writable (frames : List (Frame ν)) : Prop :=
  ∀ frame ∈ frames, (c.payload frame.data).isSome = true

theorem breaksOff_cons {guestToken : Option String} {event : Frame ν} {rest : List (Arrival ν)}
    {ending : Ending} : (⟨guestToken, ⟨event, false⟩ :: rest, ending⟩ : Turn ν).BreaksOff ↔
      (⟨guestToken, rest, ending⟩ : Turn ν).BreaksOff :=
  and_congr_right fun _ => List.forall_mem_cons.trans (and_iff_right rfl)

theorem exists_sse {frame : Frame ν} (h : (c.payload frame.data).isSome = true) :
    ∃ wire, c.sse frame = some wire := by
  obtain ⟨text, htext⟩ := Option.isSome_iff_exists.1 h
  exact ⟨_, congrArg (Option.map _) htext⟩

/-- A turn whose data can be written is kept as it is sent; the client is told when the
iterator raises. -/
theorem bridge_of_writable {turn : Turn ν} (h : Writable c turn.reached) :
    bridge c turn.ending turn.arrivals =
      (sendAll c turn.reached ++ (if turn.BreaksOff then [streamFailed] else []), turn.reached) := by
  obtain ⟨guestToken, arrivals, ending⟩ := turn
  induction arrivals with
  | nil =>
    have hiff : (⟨guestToken, [], ending⟩ : Turn ν).BreaksOff ↔ ending = .raised :=
      and_iff_left fun _ h => absurd h List.not_mem_nil
    simp only [hiff]
    rfl
  | cons arrival rest ih =>
    obtain ⟨event, disconnected⟩ := arrival
    cases disconnected with
    | true =>
      have hnot : ¬ (⟨guestToken, ⟨event, true⟩ :: rest, ending⟩ : Turn ν).BreaksOff :=
        fun h => absurd (h.2 _ List.mem_cons_self) nofun
      rw [if_neg hnot]
      rfl
    | false =>
      obtain ⟨hevent, hrest⟩ := List.forall_mem_cons.1 h
      obtain ⟨wire, hwire⟩ := exists_sse c hevent
      have hbridge := ih hrest
      have hreached : (⟨guestToken, ⟨event, false⟩ :: rest, ending⟩ : Turn ν).reached =
        event :: (⟨guestToken, rest, ending⟩ : Turn ν).reached := rfl
      simp only [breaksOff_cons, hreached, bridge, sendAll, hwire] at hbridge ⊢
      rw [hbridge]
      rfl

/-- A turn with data that cannot be written breaks off there, and is not kept. -/
theorem bridge_of_not_writable {turn : Turn ν} (h : ¬ Writable c turn.reached) :
    (bridge c turn.ending turn.arrivals).1 = sendAll c turn.reached ++ [streamFailed] ∧
      ¬ Writable c (bridge c turn.ending turn.arrivals).2 := by
  obtain ⟨guestToken, arrivals, ending⟩ := turn
  induction arrivals with
  | nil => exact absurd (fun _ h => absurd h List.not_mem_nil) h
  | cons arrival rest ih =>
    obtain ⟨event, disconnected⟩ := arrival
    cases disconnected with
    | true => exact absurd (fun _ h => absurd h List.not_mem_nil) h
    | false =>
      have hreached : (⟨guestToken, ⟨event, false⟩ :: rest, ending⟩ : Turn ν).reached =
        event :: (⟨guestToken, rest, ending⟩ : Turn ν).reached := rfl
      cases hwire : c.sse event with
      | none =>
        simp only [hreached, bridge, sendAll, hwire]
        refine ⟨rfl, fun hall => ?_⟩
        obtain ⟨wire, hsome⟩ := exists_sse c (hall event (List.mem_singleton_self _))
        exact absurd (hwire.symm.trans hsome) nofun
      | some wire =>
        have hrest : ¬ Writable c (⟨guestToken, rest, ending⟩ : Turn ν).reached := by
          refine fun hrest => h (List.forall_mem_cons.2 ⟨?_, hrest⟩)
          obtain ⟨text, htext, -⟩ := Option.map_eq_some_iff.1 hwire
          exact Option.isSome_of_mem htext
        obtain ⟨hsent, hkept⟩ := ih hrest
        simp only [hreached, bridge, sendAll, hwire]
        exact ⟨congrArg _ hsent, fun hall => hkept fun frame hframe => hall frame (.tail _ hframe)⟩

/-! ### Replays -/

/-- What was kept is sent as it was sent before. -/
theorem sendAll_reload {frames : List (Frame ν)} (h : Writable c frames) :
    sendAll c (frames.map c.reloadFrame) = sendAll c frames := by
  induction frames with
  | nil => rfl
  | cons frame frames ih =>
    obtain ⟨hframe, hframes⟩ := List.forall_mem_cons.1 h
    have hsse : c.sse (c.reloadFrame frame) = c.sse frame := by
      obtain ⟨event, data⟩ := frame
      cases data with
      | text s => rfl
      | value v =>
        obtain ⟨text, htext⟩ := Option.isSome_iff_exists.1 hframe
        exact congrArg (Option.map _) ((c.dumps_reload htext).trans htext.symm)
    rw [List.map_cons, sendAll, sendAll, hsse, ih hframes]

/-- What is kept of a turn whose data can be written. -/
theorem keep_of_writable (kept : Option (List (Frame ν))) {turn : Turn ν}
    (h : Writable c turn.reached) : keep c kept turn = some (turn.reached.map c.reloadFrame) := by
  unfold keep
  rw [bridge_of_writable c h]
  exact if_pos (List.all_eq_true.2 h)

/-- Nothing is kept of another. -/
theorem keep_of_not_writable (kept : Option (List (Frame ν))) {turn : Turn ν}
    (h : ¬ Writable c turn.reached) : keep c kept turn = kept :=
  if_neg fun hall => (bridge_of_not_writable c h).2 (List.all_eq_true.1 hall)

/-- When a replay is what the client of the last turn was sent: its iterator raised nothing,
came to some event, and all its data could be written; or it could not, and what is kept of
an earlier turn is by chance what was sent. -/
def Replayable (kept : Option (List (Frame ν))) (turn : Turn ν) : Prop :=
  (Writable c turn.reached ∧ ¬ turn.BreaksOff ∧ turn.reached ≠ []) ∨
    (¬ Writable c turn.reached ∧
      replayStream c kept = sendAll c turn.reached ++ [streamFailed])

/-- **A replay is faithful** exactly then. -/
theorem replay_faithful_iff (threadId : String) (turns : List (Turn ν)) (last : Turn ν) :
    eventStream c threadId last =
        last.metaFrames threadId ++ replayStream c (keptAfter c (turns ++ [last])) ↔
      Replayable c (keptAfter c turns) last := by
  have hkept : keptAfter c (turns ++ [last]) = keep c (keptAfter c turns) last := by
    unfold keptAfter
    rw [List.foldl_append]
    rfl
  rw [eventStream, List.append_cancel_left_eq, eq_comm, hkept]
  unfold Turn.sent Replayable
  by_cases hwritable : Writable c last.reached
  · rw [keep_of_writable c _ hwritable, bridge_of_writable c hwritable]
    have hsome : replayStream c (some (last.reached.map c.reloadFrame)) =
        if last.reached = [] then [noActiveStream] else sendAll c last.reached := by
      unfold replayStream
      dsimp only
      rw [Option.getD_some, sendAll_reload c hwritable, List.isEmpty_map]
      simp only [List.isEmpty_iff]
    rw [hsome]
    by_cases hreached : last.reached = []
    · have hne : noActiveStream ≠ streamFailed := by decide
      rw [if_pos hreached, hreached]
      refine ⟨fun h => ?_, fun h => ?_⟩
      · split at h
        · exact absurd (List.singleton_inj.1 h) hne
        · exact absurd h (List.cons_ne_nil _ _)
      · rcases h with ⟨-, -, hnot⟩ | ⟨hnot, -⟩
        · exact absurd rfl hnot
        · exact absurd (hreached ▸ hwritable) hnot
    · rw [if_neg hreached]
      refine ⟨fun h => .inl ⟨hwritable, fun hbreaks => ?_, hreached⟩, fun h => ?_⟩
      · rw [if_pos hbreaks] at h
        exact absurd (List.self_eq_append_right.1 h) (List.cons_ne_nil _ _)
      · rcases h with ⟨-, hbreaks, -⟩ | ⟨hnot, -⟩
        · rw [if_neg hbreaks, List.append_nil]
        · exact absurd hwritable hnot
  · rw [keep_of_not_writable c _ hwritable, (bridge_of_not_writable c hwritable).1]
    exact ⟨fun h => .inr ⟨hwritable, h⟩, fun h => h.elim (fun h => absurd h.1 hwritable) And.right⟩

end Stream

/-- Values that are texts of JSON themselves. -/
def verbatim : Codec String where
  dumps := some
  reload := id
  dumps_reload h := h

/-- A turn that sends a token, and whose iterator raises then. -/
def brokenOff : Turn String where
  arrivals := [{ event := ⟨"token", .value "\x7b\"text\":\"Hello\"\x7d"⟩ }]
  ending := .raised

/-- The error is not replayed. -/
theorem not_faithful_brokenOff :
    eventStream verbatim "thread" brokenOff ≠ brokenOff.metaFrames "thread" ++
      replayStream verbatim (keptAfter verbatim [brokenOff]) := by
  decide

end Sse
end Rag
end TopChoice
