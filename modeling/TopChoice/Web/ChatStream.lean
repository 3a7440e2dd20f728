/-
# The frames of a streamed answer

`streamMessage` of `apps/web/src/lib/chat-client.ts` reads the frames the server has written
(`_sse`) from chunks: it splits what it holds back and the next chunk at blank lines, holds
back the last part, and reads an event name and data from each of the others (`parseFrames`,
`readFrame`); what is left at the end is read as a frame too.

What `orjson.dumps` writes and `JSON.parse` reads is a parameter, `ν` the type of the values.
A blank line is found as soon as it is complete, so the chunks do not matter
(`TopChoice.Lib.Splitting`), and a frame has no blank line inside: every event that is written
is dispatched, in its turn and once (`streamMessage_sse`).
-/

import TopChoice.Lib.Splitting
import TopChoice.Common.Text
import TopChoice.Rag.EventStream
import Mathlib.Data.List.Infix

namespace TopChoice
namespace Web

open Splitting Rag.Sse

section Codec

variable {ν : Type} (dumps : ν → String) (parse : String → Option ν)

/-! ### Breaks -/

/-- `\r?\n`, at the front of a text. -/
def stripLineBreak : List Char → Option (List Char)
  | '\n' :: rest => some rest
  | '\r' :: '\n' :: rest => some rest
  | _ => none

theorem length_stripLineBreak {s rest : List Char} (h : stripLineBreak s = some rest) :
    rest.length < s.length := by
  unfold stripLineBreak at h
  split at h
  · obtain rfl := Option.some.inj h
    exact Nat.lt_succ_self _
  · obtain rfl := Option.some.inj h
    exact Nat.lt_succ_of_lt (Nat.lt_succ_self _)
  · exact absurd h nofun

/-- `/\r?\n/`. -/
def lineBreak : Delimiter Char where
  strip := stripLineBreak
  length_lt := length_stripLineBreak

/-- `/\r?\n\r?\n/`. -/
def blankLine : Delimiter Char where
  strip s := (stripLineBreak s).bind stripLineBreak
  length_lt h := by
    obtain ⟨rest, hfirst, hsecond⟩ := Option.bind_eq_some_iff.1 h
    exact (length_stripLineBreak hsecond).trans (length_stripLineBreak hfirst)

/-! ### The reader -/

/-- `parseFrames`: the complete frames, and the rest. -/
def parseFrames (buffer : List Char) : List (List Char) × List Char := blankLine.split buffer

/-- A line of a frame is read: it may name the event, or be a line of its data. -/
def readLine (read : String × List String) (line : List Char) : String × List String :=
  if [':'].isPrefixOf line then read
  else if "event:".toList.isPrefixOf line then (trim (String.ofList (line.drop 6)), read.2)
  else if "data:".toList.isPrefixOf line then
    (read.1, read.2 ++ [trim (String.ofList (line.drop 5))])
  else read

/-- `readFrame`: a frame without data is none, and what is no JSON is a text. -/
def readFrame (frame : List Char) : Option (Frame ν) :=
  let lines := lineBreak.split frame
  let (event, dataLines) := (lines.1 ++ [lines.2]).foldl readLine ("message", [])
  if dataLines.isEmpty then none
  else
    let raw := "\n".intercalate dataLines
    some ⟨event, ((parse raw).map Payload.value).getD (.text raw)⟩

/-- The loop of `streamMessage`: what it dispatches. -/
def readLoop : List String → List Char → List (Frame ν)
  | [], buffer => (readFrame parse buffer).toList
  | value :: chunks, buffer =>
      let (frames, rest) := parseFrames (buffer ++ value.toList)
      frames.filterMap (readFrame parse) ++ readLoop chunks rest

/-- `streamMessage`: what it dispatches of the chunks of an event stream. -/
def streamMessage (chunks : List String) : List (Frame ν) := readLoop parse chunks []

/-! ### The chunks do not matter -/

theorem stripLineBreak_eq_some {s rest : List Char} :
    stripLineBreak s = some rest ↔ s = '\n' :: rest ∨ s = '\r' :: '\n' :: rest := by
  constructor
  · intro h
    unfold stripLineBreak at h
    split at h
    · exact .inl (Option.some.inj h ▸ rfl)
    · exact .inr (Option.some.inj h ▸ rfl)
    · exact absurd h nofun
  · rintro (rfl | rfl) <;> rfl

/-- A text that becomes a line break when more comes has nothing of it, or its first
character. -/
theorem stripLineBreak_late {s t rest : List Char} (hnone : stripLineBreak s = none)
    (hsome : stripLineBreak (s ++ t) = some rest) : s = [] ∨ s = ['\r'] := by
  cases s with
  | nil => exact .inl rfl
  | cons a s =>
    rcases stripLineBreak_eq_some.1 hsome with h | h
    · obtain ⟨rfl, -⟩ := List.cons.inj h
      exact absurd hnone nofun
    · obtain ⟨rfl, hrest⟩ := List.cons.inj h
      cases s with
      | nil => exact .inr rfl
      | cons b s =>
        obtain ⟨rfl, -⟩ := List.cons.inj hrest
        exact absurd hnone nofun

/-- The texts that may become a blank line have none at any of their ends. -/
theorem strip_partial_blankLine : ∀ s ∈ [[], ['\r'], ['\n'], ['\n', '\r'], ['\r', '\n'],
    ['\r', '\n', '\r']], ∀ u ∈ s.tails, blankLine.strip u = none := by
  decide

/-- **A blank line is found as soon as it is complete.** -/
theorem prompt_blankLine : blankLine.Prompt where
  keeps t h := by
    have hkeeps {s rest : List Char} (h : stripLineBreak s = some rest) :
        stripLineBreak (s ++ t) = some (rest ++ t) := by
      rcases stripLineBreak_eq_some.1 h with rfl | rfl <;> rfl
    obtain ⟨rest, hfirst, hsecond⟩ := Option.bind_eq_some_iff.1 h
    exact Option.bind_eq_some_iff.2 ⟨_, hkeeps hfirst, hkeeps hsecond⟩
  late {s t rest} hnone hsome u hu := by
    refine strip_partial_blankLine s ?_ u ((List.mem_tails u s).2 hu)
    obtain ⟨after, hfirst, hsecond⟩ := Option.bind_eq_some_iff.1 hsome
    cases hline : stripLineBreak s with
    | none =>
      rcases stripLineBreak_late hline hfirst with rfl | rfl <;> simp
    | some r =>
      have hkept : stripLineBreak (s ++ t) = some (r ++ t) := by
        rcases stripLineBreak_eq_some.1 hline with rfl | rfl <;> rfl
      obtain rfl := Option.some.inj (hkept.symm.trans hfirst)
      have hnone : (stripLineBreak s).bind stripLineBreak = none := hnone
      rw [hline] at hnone
      rcases stripLineBreak_late hnone hsecond with rfl | rfl <;>
        rcases stripLineBreak_eq_some.1 hline with rfl | rfl <;> simp

/-- **The loop reads the parts of the whole stream.** -/
theorem readLoop_eq (chunks : List String) (buffer : List Char) :
    readLoop parse chunks buffer =
      (blankLine.feed (chunks.map String.toList) buffer).1.filterMap (readFrame parse) ++
        (readFrame parse (blankLine.feed (chunks.map String.toList) buffer).2).toList := by
  induction chunks generalizing buffer with
  | nil => rfl
  | cons value chunks ih =>
    rw [readLoop, List.map_cons, Delimiter.feed]
    dsimp only
    rw [ih, List.filterMap_append, List.append_assoc]
    rfl

theorem streamMessage_eq (chunks : List String) :
    streamMessage parse chunks =
      (parseFrames (String.join chunks).toList).1.filterMap (readFrame parse) ++
        (readFrame parse (parseFrames (String.join chunks).toList).2).toList := by
  have hfeed := prompt_blankLine.feed_eq_split (chunks.map String.toList)
    (rfl : blankLine.cut [] = none)
  have hjoin : (chunks.map String.toList).flatten = (String.join chunks).toList := by
    rw [String.toList_join, List.flatMap_def]
  rw [streamMessage, readLoop_eq, hfeed, List.nil_append, hjoin]
  rfl

/-! ### A frame -/

/-- A text without line breaks. -/
def NoBreaks (s : List Char) : Prop := ∀ c ∈ s, c ≠ '\n' ∧ c ≠ '\r'

theorem NoBreaks.append {s t : List Char} (hs : NoBreaks s) (ht : NoBreaks t) : NoBreaks (s ++ t) :=
  List.forall_mem_append.2 ⟨hs, ht⟩

theorem NoBreaks.stripLineBreak_cons {s : List Char} (h : NoBreaks s) {c : Char} (hc : c ∈ s)
    (t : List Char) : stripLineBreak (c :: t) = none := by
  by_contra hne
  obtain ⟨rest, hrest⟩ := Option.ne_none_iff_exists'.1 hne
  rcases stripLineBreak_eq_some.1 hrest with heq | heq
  · exact (h c hc).1 (List.cons.inj heq).1
  · exact (h c hc).2 (List.cons.inj heq).1

theorem NoBreaks.plain_lineBreak {s : List Char} (h : NoBreaks s) : lineBreak.Plain s :=
  fun _ hc t => h.stripLineBreak_cons hc t

theorem NoBreaks.plain_blankLine {s : List Char} (h : NoBreaks s) : blankLine.Plain s :=
  fun _ hc t => Option.bind_eq_none_iff.2 fun _ hrest =>
    absurd ((h.stripLineBreak_cons hc t).symm.trans hrest) nofun

theorem noBreaks_of_all {s : List Char} (h : (s.all fun c => c ≠ '\n' && c ≠ '\r') = true) :
    NoBreaks s := by
  intro c hc
  have hchar := List.all_eq_true.1 h c hc
  simpa only [Bool.and_eq_true, decide_eq_true_eq] using hchar

theorem noBreaks_field : NoBreaks "event: ".toList ∧ NoBreaks "data: ".toList :=
  ⟨noBreaks_of_all (by decide), noBreaks_of_all (by decide)⟩

/-- The lines of a frame: the name of the event, and its data. -/
def frameText (event data : List Char) : List Char :=
  ("event: ".toList ++ event) ++ '\n' :: ("data: ".toList ++ data)

theorem toList_sse (frame : Frame ν) : (sse dumps frame).toList =
    frameText frame.event.toList (frame.data.dump dumps).toList ++ ['\n', '\n'] := by
  have happend (name event field data blank : String) :
      (name ++ event ++ field ++ data ++ blank).toList =
        (name.toList ++ event.toList) ++ (field.toList ++ data.toList) ++ blank.toList := by
    simp only [String.toList_append, List.append_assoc]
  exact happend "event: " frame.event "\ndata: " (frame.data.dump dumps) "\n\n"

/-- **A frame ends at its blank line**, and at no other. -/
theorem cut_frameText {event data : List Char} (hevent : NoBreaks event) (hdata : NoBreaks data)
    (t : List Char) :
    blankLine.cut (frameText event data ++ '\n' :: '\n' :: t) = some (frameText event data, t) := by
  have hname := (noBreaks_field.1.append hevent).plain_blankLine
  have hrest := (noBreaks_field.2.append hdata).plain_blankLine
  have hbreak (s : List Char) : blankLine.cut ('\n' :: ("data: ".toList ++ s)) =
      (blankLine.cut ("data: ".toList ++ s)).map fun (part, rest) => ('\n' :: part, rest) := rfl
  have hend : blankLine.cut ('\n' :: '\n' :: t) = some ([], t) := rfl
  unfold frameText
  rw [List.append_assoc, hname.cut_append, List.cons_append, List.append_assoc, hbreak,
    ← List.append_assoc "data: ".toList, hrest.cut_append, hend]
  simp only [Option.map_some, List.append_nil]

/-- The lines of a frame are its two fields. -/
theorem split_frameText {event data : List Char} (hevent : NoBreaks event) (hdata : NoBreaks data) :
    lineBreak.split (frameText event data) =
      (["event: ".toList ++ event], "data: ".toList ++ data) := by
  have hcut : lineBreak.cut (frameText event data) =
      some ("event: ".toList ++ event, "data: ".toList ++ data) := by
    have hend (s : List Char) : lineBreak.cut ('\n' :: s) = some ([], s) := rfl
    unfold frameText
    rw [(noBreaks_field.1.append hevent).plain_lineBreak.cut_append, hend]
    simp only [Option.map_some, List.append_nil]
  rw [Delimiter.split_of_cut_eq_some hcut, Delimiter.split_of_cut_eq_none
    (noBreaks_field.2.append hdata).plain_lineBreak.cut_eq_none]

/-- A blank before a text is stripped. -/
theorem trim_cons_space (s : List Char) : trim (String.ofList (' ' :: s)) = trim (String.ofList s) := by
  unfold trim
  rw [String.toList_ofList, String.toList_ofList, List.dropWhile_cons_of_pos (by decide)]

/-- **A frame is read as the event and the data it was written with.** -/
theorem readFrame_frameText {event data : String} (hevent : NoBreaks event.toList)
    (hdata : NoBreaks data.toList) (htrim : trim event = event) (htrim' : trim data = data) :
    readFrame parse (frameText event.toList data.toList) =
      some ⟨event, ((parse data).map Payload.value).getD (.text data)⟩ := by
  have hname : readLine ("message", []) ("event: ".toList ++ event.toList) = (event, []) := by
    show (trim (String.ofList (' ' :: event.toList)), []) = _
    rw [trim_cons_space, String.ofList_toList, htrim]
  have hline : readLine (event, []) ("data: ".toList ++ data.toList) = (event, [data]) := by
    show (event, [trim (String.ofList (' ' :: data.toList))]) = _
    rw [trim_cons_space, String.ofList_toList, htrim']
  unfold readFrame
  rw [split_frameText hevent hdata]
  dsimp only
  rw [List.singleton_append, List.foldl_cons, hname, List.foldl_cons, hline, List.foldl_nil,
    String.intercalate_singleton]
  rfl

/-! ### A stream -/

/-- An object as JSON is a text without control characters, between braces. -/
structure DumpsObjects : Prop where
  control : ∀ v, ∀ c ∈ (dumps v).toList, 0x20 ≤ c.toNat
  braces : ∀ v, ∃ body, (dumps v).toList = '\x7b' :: (body ++ ['\x7d'])

theorem DumpsObjects.noBreaks (h : DumpsObjects dumps) (v : ν) : NoBreaks (dumps v).toList := by
  intro c hc
  have hle := h.control v c hc
  constructor
  · rintro rfl
    exact absurd hle (by decide)
  · rintro rfl
    exact absurd hle (by decide)

theorem DumpsObjects.trim_eq (h : DumpsObjects dumps) (v : ν) : trim (dumps v) = dumps v := by
  obtain ⟨body, hbody⟩ := h.braces v
  unfold trim
  rw [hbody, List.dropWhile_cons_of_neg (by decide), ← List.cons_append,
    List.rdropWhile_concat_neg _ _ _ (by decide), List.cons_append, ← hbody, String.ofList_toList]

/-- The name of an event: a text without line breaks, and without blanks around it. -/
def IsEventName (event : String) : Prop := NoBreaks event.toList ∧ trim event = event

/-- The frames of a stream are its parts. -/
theorem parseFrames_sse (hdumps : DumpsObjects dumps) {frames : List (String × ν)}
    (hnames : ∀ frame ∈ frames, IsEventName frame.1) :
    parseFrames (String.join (frames.map fun frame => sse dumps ⟨frame.1, .value frame.2⟩)).toList =
      (frames.map fun frame => frameText frame.1.toList (dumps frame.2).toList, []) := by
  induction frames with
  | nil => exact Delimiter.split_of_cut_eq_none rfl
  | cons frame frames ih =>
    obtain ⟨hname, hrest⟩ := List.forall_mem_cons.1 hnames
    have hcut := cut_frameText hname.1 (hdumps.noBreaks dumps frame.2)
      (String.join (frames.map fun frame => sse dumps ⟨frame.1, .value frame.2⟩)).toList
    rw [List.map_cons, String.join_cons, String.toList_append, toList_sse, List.append_assoc]
    refine (Delimiter.split_of_cut_eq_some hcut).trans ?_
    rw [← parseFrames, ih hrest]
    rfl

/-- **The codec of the stream.**  However the frames of a stream are cut into chunks, the
client dispatches the events that were written, with their data, in their order and once. -/
theorem streamMessage_sse (hdumps : DumpsObjects dumps) (hparse : ∀ v, parse (dumps v) = some v)
    {frames : List (String × ν)} (hnames : ∀ frame ∈ frames, IsEventName frame.1)
    {chunks : List String} (hchunks : String.join chunks =
      String.join (frames.map fun frame => sse dumps ⟨frame.1, .value frame.2⟩)) :
    streamMessage parse chunks = frames.map fun frame => ⟨frame.1, .value frame.2⟩ := by
  have hread : ∀ frame ∈ frames,
      readFrame parse (frameText frame.1.toList (dumps frame.2).toList) =
        some ⟨frame.1, .value frame.2⟩ := by
    intro frame hframe
    obtain ⟨hbreaks, htrim⟩ := hnames frame hframe
    rw [readFrame_frameText parse hbreaks (hdumps.noBreaks dumps frame.2) htrim
      (hdumps.trim_eq dumps frame.2), hparse]
    rfl
  have hlast : readFrame parse [] = none := by
    unfold readFrame
    rw [Delimiter.split_of_cut_eq_none (rfl : lineBreak.cut [] = none)]
    rfl
  rw [streamMessage_eq, hchunks, parseFrames_sse dumps hdumps hnames]
  dsimp only
  rw [hlast, Option.toList_none, List.append_nil, List.filterMap_map, ← List.filterMap_eq_map]
  exact List.filterMap_congr hread

end Codec

/-- The objects with one flag, as JSON. -/
def dumpFlag (ok : Bool) : String :=
  if ok then "\x7b\"ok\":true\x7d" else "\x7b\"ok\":false\x7d"

/-- The flag of such an object. -/
def parseFlag (raw : String) : Option Bool :=
  if raw = dumpFlag true then some true else if raw = dumpFlag false then some false else none

theorem dumpsObjects_dumpFlag : DumpsObjects dumpFlag where
  control ok := by
    have hall : ((dumpFlag ok).toList.all fun c => 0x20 ≤ c.toNat) = true := by
      cases ok <;> decide
    exact fun c hc => of_decide_eq_true (List.all_eq_true.1 hall c hc)
  braces ok := by
    cases ok
    · exact ⟨"\"ok\":false".toList, by decide⟩
    · exact ⟨"\"ok\":true".toList, by decide⟩

/-- Two events in three chunks, the first of which ends inside of a field, and the second
inside of a blank line. -/
theorem streamMessage_sse_flags :
    streamMessage parseFlag ["event: tool_e", "nd\ndata: \x7b\"ok\":true\x7d\n",
      "\nevent: done\ndata: \x7b\"ok\":false\x7d\n\n"] =
        [⟨"tool_end", .value true⟩, ⟨"done", .value false⟩] := by
  have hnames : ∀ frame ∈ [("tool_end", true), ("done", false)], IsEventName frame.1 :=
    List.forall_mem_cons.2 ⟨⟨noBreaks_of_all (by decide), by decide⟩,
      List.forall_mem_singleton.2 ⟨noBreaks_of_all (by decide), by decide⟩⟩
  exact streamMessage_sse dumpFlag parseFlag dumpsObjects_dumpFlag (by decide) hnames (by decide)

end Web
end TopChoice
