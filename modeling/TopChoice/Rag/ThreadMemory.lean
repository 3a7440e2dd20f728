/-
# The memory of a chat thread

`apps/rag-svc/app/memory/thread_memory.py`, `format_history` of `app/graph/prompts.py`
and the end of a turn, `_persist` of `app/graph/builder.py`.  A turn loads the last
messages of its thread and the current summary, answers, and stores the question and
the answer; every eighth message past the window the loaded messages and the two new
ones are summarised, as far as 40 messages and 8000 characters go.

A message falls out of the window two at a time, a summary is written every four turns
and reaches back one turn beyond the window.  So nothing is forgotten exactly when the
thread is within the window, or the first summary is written in the very turn a message
first falls out, 40 messages reach that far, and each message that has fallen out was
within the characters of some summary (`memory_forgets_nothing_iff`).

Messages are numbered as they are stored, and a summary carries the numbers of the
messages whose lines were in a transcript it descends from; the code keeps neither.
-/

import Mathlib.Data.List.Basic
import Mathlib.Data.List.Nodup
import Mathlib.Data.List.Range
import TopChoice.Rag.PyText

namespace TopChoice
namespace Rag

/-- The role of a message. -/
inductive Role where
  | user
  | assistant
  | system
  | tool
  deriving DecidableEq, Repr

/-- `role.capitalize()`. -/
def Role.capitalized : Role → String
  | user => "User"
  | assistant => "Assistant"
  | system => "System"
  | tool => "Tool"

/-- A row of `chat_messages`, with its number in the thread. -/
structure ChatMessage where
  number : ℕ
  role : Role
  content : String
  deriving DecidableEq, Repr

/-- A row of `chat_summaries`, with the numbers of the messages it descends from. -/
structure ChatSummary where
  summary : String
  transcribed : List ℕ
  deriving DecidableEq, Repr

/-- A thread, its rows in the order they were stored. -/
structure Thread where
  messages : List ChatMessage
  summaries : List ChatSummary
  deriving DecidableEq, Repr

/-- `ThreadMemory`. -/
structure ThreadMemory where
  messages : List ChatMessage
  summary : Option ChatSummary
  messageCount : ℕ
  deriving DecidableEq, Repr

/-- `max(1, rag_memory_window)`. -/
def window (ragMemoryWindow : ℤ) : ℕ := (max 1 ragMemoryWindow).toNat

/-- `load`: the last `2 * window` messages, the last summary, and the message count. -/
def load (w : ℕ) (thread : Thread) : ThreadMemory :=
  let rows := (thread.messages.filter fun m => m.role = .user ∨ m.role = .assistant).reverse.take
    (w * 2)
  { messages := rows.reverse.filter fun m => m.content ≠ ""
    summary := thread.summaries.getLast?
    messageCount := thread.messages.length }

/-! ### Transcripts -/

/-- `SUMMARY_EVERY`. -/
def summaryEvery : ℕ := 8

/-- `SUMMARY_INPUT_CHARS`. -/
def summaryInputChars : ℕ := 8000

/-- The line of a message in a transcript. -/
def ChatMessage.line (m : ChatMessage) : String := m.role.capitalized ++ ": " ++ strip m.content

/-- The messages, a line each. -/
def historyText : List ChatMessage → String
  | [] => ""
  | [m] => m.line
  | m :: ms => m.line ++ "\n" ++ historyText ms

/-- The messages `format_history` renders. -/
def recent (limit : ℕ) (messages : List ChatMessage) : List ChatMessage :=
  (messages.drop (messages.length - limit)).filter fun m => m.content ≠ ""

/-- `format_history`. -/
def formatHistory (messages : List ChatMessage) (limit : ℕ) : String :=
  historyText (recent limit messages)

/-- The transcript the summariser is given. -/
def transcript (messages : List ChatMessage) : String :=
  firstChars (formatHistory messages 40) summaryInputChars

/-- The numbers of the messages whose lines are in the transcript to their end. -/
def transcribed (messages : List ChatMessage) : List ℕ :=
  (List.range (recent 40 messages).length).filterMap fun p =>
    if (historyText ((recent 40 messages).take (p + 1))).length ≤ summaryInputChars then
      ((recent 40 messages)[p]?).map ChatMessage.number
    else none

/-- `should_summarise`. -/
def shouldSummarise (w messageCount : ℕ) : Bool :=
  decide (w * 2 < messageCount) && messageCount % summaryEvery = 0

/-- The text the summariser is asked. -/
def summaryRequest (messages : List ChatMessage) (previous : Option ChatSummary) : String :=
  let previous := match previous with
    | some row => if row.summary = "" then "(none)" else row.summary
    | none => "(none)"
  "Previous summary:\n" ++ previous ++ "\n\nRecent conversation:\n" ++ transcript messages

/-- `refresh_summary`, with the answer of the summariser. -/
def refreshSummary (generate : String → String) (messages : List ChatMessage)
    (previous : Option ChatSummary) (thread : Thread) : Thread :=
  if messages.isEmpty then thread
  else
    let summary := strip (generate (summaryRequest messages previous))
    if summary = "" then thread
    else { thread with summaries := thread.summaries ++
      [⟨summary, (previous.elim [] ChatSummary.transcribed) ++ transcribed messages⟩] }

/-! ### Turns -/

/-- A completed turn: the question, the answer, and what the summariser answers to the
text it is asked, if it is. -/
structure Turn where
  question : String
  answer : String
  generate : String → String

/-- The two messages of a turn, numbered from the first. -/
def Turn.messages (turn : Turn) (number : ℕ) : List ChatMessage :=
  [⟨number, .user, turn.question⟩, ⟨number + 1, .assistant, turn.answer⟩]

/-- A turn: it loads the memory, answers, and `_persist`s. -/
def Turn.persist (w : ℕ) (thread : Thread) (turn : Turn) : Thread :=
  let state := load w thread
  let added := turn.messages thread.messages.length
  let thread := { thread with messages := thread.messages ++ added }
  if shouldSummarise w (load w thread).messageCount then
    refreshSummary turn.generate (state.messages ++ added) state.summary thread
  else thread

/-- The thread after some turns. -/
def threadAfter (w : ℕ) (turns : List Turn) : Thread := turns.foldl (Turn.persist w) ⟨[], []⟩

/-- The memory of the thread has the message: among the messages loaded, or in the
current summary. -/
def Remembers (w : ℕ) (thread : Thread) (number : ℕ) : Prop :=
  (∃ m ∈ (load w thread).messages, m.number = number) ∨
    ∃ row ∈ (load w thread).summary, number ∈ row.transcribed

/-- At the start of every turn the memory has every earlier message. -/
def ForgetsNothing (w : ℕ) (turns : List Turn) : Prop :=
  ∀ k ≤ turns.length, ∀ m ∈ (threadAfter w (turns.take k)).messages,
    m.role = .user ∨ m.role = .assistant →
      Remembers w (threadAfter w (turns.take k)) m.number

/-- The messages of some turns. -/
def rowsOf : ℕ → List Turn → List ChatMessage
  | _, [] => []
  | number, turn :: turns => turn.messages number ++ rowsOf (number + 2) turns

/-- The turns after which a summary is written. -/
def SummaryTurn (w r : ℕ) : Prop := w < r ∧ r % 4 = 0

/-- When nothing is forgotten. -/
def NothingLost (w : ℕ) (turns : List Turn) : Prop :=
  (∀ turn ∈ turns, turn.question ≠ "" ∧ turn.answer ≠ "") ∧
    (turns.length ≤ w ∨ (w % 4 = 3 ∧ w ≤ 19 ∧ ∀ number, number / 2 + w < turns.length →
      ∃ r, SummaryTurn w r ∧ number / 2 < r ∧ r ≤ number / 2 + w + 1 ∧
        (historyText (((rowsOf 0 turns).take (number + 1)).drop (2 * (r - 1 - w)))).length ≤
          summaryInputChars))

/-! ### The messages of a thread -/

theorem rowsOf_append (number : ℕ) (turns more : List Turn) :
    rowsOf number (turns ++ more) =
      rowsOf number turns ++ rowsOf (number + 2 * turns.length) more := by
  induction turns generalizing number with
  | nil => rfl
  | cons turn turns ih =>
    have hnumber : number + 2 + 2 * turns.length = number + 2 * (turn :: turns).length := by
      rw [List.length_cons]
      omega
    rw [List.cons_append, rowsOf, rowsOf, ih, hnumber, List.append_assoc]

theorem length_rowsOf (number : ℕ) (turns : List Turn) :
    (rowsOf number turns).length = 2 * turns.length := by
  induction turns generalizing number with
  | nil => rfl
  | cons turn turns ih =>
    rw [rowsOf, List.length_append, ih, List.length_cons, Turn.messages]
    simp only [List.length_cons, List.length_nil]
    omega

/-- The messages are numbered without a gap. -/
theorem number_rowsOf (number : ℕ) (turns : List Turn) :
    (rowsOf number turns).map ChatMessage.number = List.range' number (2 * turns.length) := by
  induction turns generalizing number with
  | nil => rfl
  | cons turn turns ih =>
    have hlength : 2 * (turn :: turns).length = 2 * turns.length + 1 + 1 := by
      rw [List.length_cons]
      omega
    rw [rowsOf, List.map_append, ih, hlength, List.range'_succ, List.range'_succ]
    rfl

/-- The messages from one to another, by their numbers. -/
theorem number_slice (turns : List Turn) (a : ℕ) {b : ℕ} (hb : b ≤ 2 * turns.length) :
    (((rowsOf 0 turns).take b).drop a).map ChatMessage.number = List.range' a (b - a) := by
  rw [List.map_drop, List.map_take, number_rowsOf, List.take_range'_of_length_ge hb,
    List.drop_range', Nat.mul_one, Nat.zero_add]

theorem mem_slice (turns : List Turn) (a : ℕ) {b : ℕ} (hb : b ≤ 2 * turns.length) (number : ℕ) :
    (∃ m ∈ ((rowsOf 0 turns).take b).drop a, m.number = number) ↔ a ≤ number ∧ number < b := by
  rw [← List.mem_map, number_slice turns a hb, List.mem_range'_1]
  omega

/-- The message of a slice at a place, by its number. -/
theorem getElem?_slice (turns : List Turn) (a : ℕ) {b : ℕ} (hb : b ≤ 2 * turns.length)
    (p number : ℕ) :
    (∃ m, (((rowsOf 0 turns).take b).drop a)[p]? = some m ∧ m.number = number) ↔
      number = a + p ∧ number < b := by
  have hmap : (∃ m, (((rowsOf 0 turns).take b).drop a)[p]? = some m ∧ m.number = number) ↔
      ((((rowsOf 0 turns).take b).drop a).map ChatMessage.number)[p]? = some number := by
    rw [List.getElem?_map, Option.map_eq_some_iff]
  rw [hmap, number_slice turns a hb, List.getElem?_eq_some_iff]
  constructor
  · rintro ⟨hp, hnumber⟩
    rw [List.length_range'] at hp
    rw [List.getElem_range'] at hnumber
    omega
  · rintro ⟨rfl, hin⟩
    have hp : p < (List.range' a (b - a)).length := by
      rw [List.length_range']
      omega
    refine ⟨hp, ?_⟩
    rw [List.getElem_range', Nat.one_mul]

/-- A message is the one of its number. -/
theorem eq_of_number_eq {turns : List Turn} {m m' : ChatMessage} (hm : m ∈ rowsOf 0 turns)
    (hm' : m' ∈ rowsOf 0 turns) (h : m.number = m'.number) : m = m' := by
  have hnodup : ((rowsOf 0 turns).map ChatMessage.number).Nodup := by
    rw [number_rowsOf]
    exact List.nodup_range'
  exact List.inj_on_of_nodup_map hnodup hm hm' h

/-- The messages of the first turns are the first messages. -/
theorem rowsOf_take (turns : List Turn) {r : ℕ} (hr : r ≤ turns.length) :
    rowsOf 0 (turns.take r) = (rowsOf 0 turns).take (2 * r) := by
  have hsplit : rowsOf 0 turns = rowsOf 0 (turns.take r) ++
      rowsOf (0 + 2 * (turns.take r).length) (turns.drop r) := by
    rw [← rowsOf_append, List.take_append_drop]
  have hlength : (rowsOf 0 (turns.take r)).length = 2 * r := by
    rw [length_rowsOf, List.length_take, Nat.min_eq_left hr]
  rw [hsplit, List.take_left' hlength]

/-- Every message is of the user or the assistant. -/
theorem role_rowsOf (number : ℕ) (turns : List Turn) :
    ∀ m ∈ rowsOf number turns, m.role = .user ∨ m.role = .assistant := by
  induction turns generalizing number with
  | nil => nofun
  | cons turn turns ih =>
    intro m hm
    rw [rowsOf, List.mem_append, Turn.messages, List.mem_pair] at hm
    rcases hm with (rfl | rfl) | hm
    · exact .inl rfl
    · exact .inr rfl
    · exact ih (number + 2) m hm

/-- A message is the question or the answer of a turn. -/
theorem content_rowsOf (number : ℕ) (turns : List Turn) :
    (∀ m ∈ rowsOf number turns, m.content ≠ "") ↔
      ∀ turn ∈ turns, turn.question ≠ "" ∧ turn.answer ≠ "" := by
  induction turns generalizing number with
  | nil => simp [rowsOf]
  | cons turn turns ih =>
    rw [rowsOf, List.forall_mem_append, ih, List.forall_mem_cons]
    simp [Turn.messages]

/-! ### Lines and characters -/

/-- The text of the first messages starts the text of all. -/
theorem historyText_take (n : ℕ) (messages : List ChatMessage) :
    (historyText (messages.take n)).toList <+: (historyText messages).toList := by
  induction messages generalizing n with
  | nil => simp
  | cons m ms ih =>
    cases n with
    | zero => exact List.nil_prefix
    | succ n =>
      cases ms with
      | nil => simp
      | cons m' ms =>
        cases n with
        | zero =>
          simp only [List.take_succ_cons, List.take_zero, historyText, String.toList_append,
            List.append_assoc]
          exact List.prefix_append _ _
        | succ n =>
          have hrest := ih (n + 1)
          simp only [List.take_succ_cons, historyText, String.toList_append] at hrest ⊢
          exact List.prefix_append_right_inj _ |>.2 hrest

theorem mem_transcribed {messages : List ChatMessage} {number : ℕ} :
    number ∈ transcribed messages ↔ ∃ p m, (recent 40 messages)[p]? = some m ∧
      m.number = number ∧
      (historyText ((recent 40 messages).take (p + 1))).length ≤ summaryInputChars := by
  rw [transcribed, List.mem_filterMap]
  constructor
  · rintro ⟨p, -, h⟩
    split at h
    · obtain ⟨m, hm, hnumber⟩ := Option.map_eq_some_iff.1 h
      exact ⟨p, m, hm, hnumber, ‹_›⟩
    · exact absurd h nofun
  · rintro ⟨p, m, hm, hnumber, hlength⟩
    have hp : p < (recent 40 messages).length := (List.getElem?_eq_some_iff.1 hm).1
    refine ⟨p, List.mem_range.2 hp, ?_⟩
    rw [if_pos hlength, hm, Option.map_some, hnumber]

/-- **A message is transcribed when the transcript has its line to the end**: the lines
up to it are the first characters of the transcript. -/
theorem transcribed_in_transcript {messages : List ChatMessage} {number : ℕ}
    (h : number ∈ transcribed messages) :
    ∃ p m, (recent 40 messages)[p]? = some m ∧ m.number = number ∧
      (historyText ((recent 40 messages).take (p + 1))).toList <+:
        (transcript messages).toList := by
  obtain ⟨p, m, hm, hnumber, hlength⟩ := mem_transcribed.1 h
  refine ⟨p, m, hm, hnumber, ?_⟩
  have hstart := historyText_take (p + 1) (recent 40 messages)
  rw [transcript, firstChars, String.toList_ofList, formatHistory]
  rw [← String.length_toList] at hlength
  exact List.prefix_take_iff.2 ⟨hstart, hlength⟩

/-! ### One turn -/

/-- The numbers of the messages the current summary descends from. -/
def Thread.summarised (thread : Thread) : List ℕ :=
  thread.summaries.getLast?.elim [] ChatSummary.transcribed

/-- What turn `r` gives to the summariser: the messages loaded when it began, and its own. -/
def historyAt (w : ℕ) (turns : List Turn) (r : ℕ) : List ChatMessage :=
  (((rowsOf 0 (turns.take (r - 1))).drop (2 * (r - 1) - w * 2)).filter fun m => m.content ≠ "") ++
    (rowsOf 0 (turns.take r)).drop (2 * (r - 1))

/-- What is loaded are the last messages that are not empty. -/
theorem messages_load {w : ℕ} {thread : Thread} {turns : List Turn}
    (h : thread.messages = rowsOf 0 turns) :
    (load w thread).messages =
      ((rowsOf 0 turns).drop (2 * turns.length - w * 2)).filter fun m => m.content ≠ "" := by
  have hroles : ((rowsOf 0 turns).filter fun m => m.role = .user ∨ m.role = .assistant) =
      rowsOf 0 turns :=
    List.filter_eq_self.2 fun m hm => decide_eq_true (role_rowsOf 0 turns m hm)
  rw [load, h, hroles, List.take_reverse, List.reverse_reverse, length_rowsOf]

/-- A summary is written past the window, every four turns. -/
theorem shouldSummarise_iff (w r : ℕ) : shouldSummarise w (2 * r) = true ↔ SummaryTurn w r := by
  rw [shouldSummarise, Bool.and_eq_true, decide_eq_true_iff, decide_eq_true_iff, SummaryTurn,
    summaryEvery]
  omega

/-- A turn ends the thread. -/
theorem threadAfter_append (w : ℕ) (turns : List Turn) (turn : Turn) :
    threadAfter w (turns ++ [turn]) = turn.persist w (threadAfter w turns) := by
  rw [threadAfter, List.foldl_append, List.foldl_cons, List.foldl_nil]
  rfl

theorem messages_refreshSummary (generate : String → String) (messages : List ChatMessage)
    (previous : Option ChatSummary) (thread : Thread) :
    (refreshSummary generate messages previous thread).messages = thread.messages := by
  unfold refreshSummary
  grind

/-- A turn stores its messages, and after its count of messages a summary or not. -/
theorem persist_eq (w : ℕ) (thread : Thread) (turn : Turn) :
    turn.persist w thread =
      if shouldSummarise w (thread.messages.length + 2) then
        refreshSummary turn.generate
          ((load w thread).messages ++ turn.messages thread.messages.length)
          thread.summaries.getLast?
          { thread with messages := thread.messages ++ turn.messages thread.messages.length }
      else { thread with messages := thread.messages ++ turn.messages thread.messages.length } := by
  have hcount : (thread.messages ++ turn.messages thread.messages.length).length =
      thread.messages.length + 2 := List.length_append
  rw [← hcount]
  rfl

theorem messages_persist (w : ℕ) (thread : Thread) (turn : Turn) :
    (turn.persist w thread).messages = thread.messages ++ turn.messages thread.messages.length := by
  unfold Turn.persist
  grind [messages_refreshSummary]

/-- Each turn adds its two messages. -/
theorem messages_threadAfter (w : ℕ) (turns : List Turn) :
    (threadAfter w turns).messages = rowsOf 0 turns := by
  induction turns using List.reverseRecOn with
  | nil => rfl
  | append_singleton turns turn ih =>
    rw [threadAfter_append, messages_persist, ih, rowsOf_append, length_rowsOf, Nat.zero_add,
      rowsOf, rowsOf, List.append_nil]

/-- A summary that is answered becomes the current one, and descends from the one before
and the transcript. -/
theorem summarised_refreshSummary {generate : String → String} {messages : List ChatMessage}
    {thread : Thread} (previous : Option ChatSummary) (hmessages : messages ≠ [])
    (hreply : ∀ request, strip (generate request) ≠ "") :
    (refreshSummary generate messages previous thread).summarised =
      previous.elim [] ChatSummary.transcribed ++ transcribed messages := by
  have hne : messages.isEmpty = false := List.isEmpty_eq_false_iff.2 hmessages
  rw [refreshSummary, hne, if_neg Bool.false_ne_true, if_neg (hreply _), Thread.summarised,
    List.getLast?_append_of_ne_nil _ (List.cons_ne_nil _ _)]
  rfl

/-- The history of a turn, from the thread it found. -/
theorem history_eq (w : ℕ) (turns : List Turn) (turn : Turn) :
    (load w (threadAfter w turns)).messages ++
        turn.messages (threadAfter w turns).messages.length =
      historyAt w (turns ++ [turn]) (turns.length + 1) := by
  have hmessages := messages_threadAfter w turns
  have hall : (turns ++ [turn]).take (turns.length + 1) = turns ++ [turn] :=
    List.take_of_length_le (by rw [List.length_append, List.length_singleton])
  have hadded : (rowsOf 0 (turns ++ [turn])).drop (2 * turns.length) =
      turn.messages (2 * turns.length) := by
    rw [rowsOf_append, ← length_rowsOf 0 turns, List.drop_left, length_rowsOf, Nat.zero_add,
      rowsOf, rowsOf, List.append_nil]
  rw [messages_load hmessages, hmessages, length_rowsOf, historyAt, Nat.add_sub_cancel,
    List.take_left, hall, hadded]

/-- **One turn**: in a summary turn the current summary takes in what is transcribed of
the history, in any other it stays. -/
theorem summarised_persist {w : ℕ} {turns : List Turn} {turn : Turn}
    (hreply : ∀ request, strip (turn.generate request) ≠ "") :
    (threadAfter w (turns ++ [turn])).summarised = (threadAfter w turns).summarised ++
      if shouldSummarise w (2 * (turns.length + 1)) then
        transcribed (historyAt w (turns ++ [turn]) (turns.length + 1)) else [] := by
  have hcount : (threadAfter w turns).messages.length + 2 = 2 * (turns.length + 1) := by
    rw [messages_threadAfter, length_rowsOf]
    omega
  have hne : historyAt w (turns ++ [turn]) (turns.length + 1) ≠ [] := by
    rw [← history_eq]
    exact List.append_ne_nil_of_right_ne_nil _ (List.cons_ne_nil _ _)
  rw [threadAfter_append, persist_eq, hcount, history_eq]
  split
  · exact summarised_refreshSummary _ hne hreply
  · rw [List.append_nil]
    rfl

/-- The history of a turn does not depend on the turns after it. -/
theorem historyAt_take (w : ℕ) (turns : List Turn) {r k : ℕ} (hr : r ≤ k) :
    historyAt w (turns.take k) r = historyAt w turns r := by
  have hprev : r - 1 ≤ k := by omega
  rw [historyAt, historyAt, List.take_take, List.take_take, Nat.min_eq_left hr,
    Nat.min_eq_left hprev]

/-- **A run**: the current summary descends from the transcripts of all the summary
turns. -/
theorem mem_summarised (w : ℕ) (turns : List Turn) (number : ℕ)
    (hreply : ∀ turn ∈ turns, ∀ request, strip (turn.generate request) ≠ "") :
    number ∈ (threadAfter w turns).summarised ↔
      ∃ r ≤ turns.length, SummaryTurn w r ∧ number ∈ transcribed (historyAt w turns r) := by
  induction turns using List.reverseRecOn with
  | nil =>
    constructor
    · exact fun h => absurd h nofun
    · rintro ⟨r, hr, hsummary, -⟩
      have hpast : w < r := hsummary.1
      have hzero : r ≤ 0 := hr
      omega
  | append_singleton turns turn ih =>
    have hbefore (r : ℕ) (hr : r ≤ turns.length) :
        historyAt w (turns ++ [turn]) r = historyAt w turns r := by
      rw [← historyAt_take w (turns ++ [turn]) hr, List.take_left]
    have hlength : (turns ++ [turn]).length = turns.length + 1 := by
      rw [List.length_append, List.length_singleton]
    rw [summarised_persist (hreply turn (List.mem_append_right _ (List.mem_singleton_self _))),
      List.mem_append, ih fun other hother => hreply other (List.mem_append_left _ hother), hlength]
    constructor
    · rintro (⟨r, hr, hsummary, hmem⟩ | h)
      · exact ⟨r, by omega, hsummary, by rwa [hbefore r hr]⟩
      · split at h
        · exact ⟨_, le_rfl, (shouldSummarise_iff w _).1 ‹_›, h⟩
        · exact absurd h nofun
    · rintro ⟨r, hr, hsummary, hmem⟩
      rcases Nat.le_succ_iff.1 hr with hr | rfl
      · exact .inl ⟨r, hr, hsummary, by rwa [← hbefore r hr]⟩
      · rw [if_pos ((shouldSummarise_iff w _).2 hsummary)]
        exact .inr hmem

/-! ### What is remembered -/

theorem remembers_iff (w : ℕ) (thread : Thread) (number : ℕ) :
    Remembers w thread number ↔
      (∃ m ∈ (load w thread).messages, m.number = number) ∨ number ∈ thread.summarised := by
  have hsummary : (load w thread).summary = thread.summaries.getLast? := rfl
  rw [Remembers, Thread.summarised, hsummary]
  cases thread.summaries.getLast? <;> simp

/-- The history of a turn is of messages of the thread. -/
theorem mem_of_mem_historyAt {w : ℕ} {turns : List Turn} {r : ℕ} (hr : r ≤ turns.length)
    {m : ChatMessage} (h : m ∈ historyAt w turns r) : m ∈ rowsOf 0 turns := by
  have hprev : r - 1 ≤ turns.length := by omega
  rw [historyAt, List.mem_append, rowsOf_take turns hr, rowsOf_take turns hprev] at h
  rcases h with h | h
  · exact List.mem_of_mem_take (List.mem_of_mem_drop (List.mem_of_mem_filter h))
  · exact List.mem_of_mem_take (List.mem_of_mem_drop h)

/-- A message that is remembered is not empty. -/
theorem content_of_remembers {w : ℕ} {turns : List Turn} {number : ℕ}
    (hreply : ∀ turn ∈ turns, ∀ request, strip (turn.generate request) ≠ "")
    (h : Remembers w (threadAfter w turns) number) :
    ∃ m ∈ rowsOf 0 turns, m.number = number ∧ m.content ≠ "" := by
  rw [remembers_iff, messages_load (messages_threadAfter w turns),
    mem_summarised w turns number hreply] at h
  rcases h with ⟨m, hm, hnumber⟩ | ⟨r, hr, -, hmem⟩
  · obtain ⟨hm, hcontent⟩ := List.mem_filter.1 hm
    exact ⟨m, List.mem_of_mem_drop hm, hnumber, of_decide_eq_true hcontent⟩
  · obtain ⟨p, m, hp, hnumber, -⟩ := mem_transcribed.1 hmem
    obtain ⟨hm, hcontent⟩ := List.mem_filter.1 (List.mem_of_getElem? hp)
    exact ⟨m, mem_of_mem_historyAt hr (List.mem_of_mem_drop hm), hnumber,
      of_decide_eq_true hcontent⟩

section Nonempty

variable {w : ℕ} {turns : List Turn} (hcontent : ∀ m ∈ rowsOf 0 turns, m.content ≠ "")
include hcontent

/-- Nothing of a slice is filtered out. -/
theorem filter_slice (a b : ℕ) :
    (((rowsOf 0 turns).take b).drop a).filter (fun m => m.content ≠ "") =
      ((rowsOf 0 turns).take b).drop a :=
  List.filter_eq_self.2 fun m hm =>
    decide_eq_true (hcontent m (List.mem_of_mem_take (List.mem_of_mem_drop hm)))

/-- **After `k` turns the last `2 * w` messages are loaded.** -/
theorem loaded_iff {k : ℕ} (hk : k ≤ turns.length) (number : ℕ) :
    (∃ m ∈ (load w (threadAfter w (turns.take k))).messages, m.number = number) ↔
      2 * k - 2 * w ≤ number ∧ number < 2 * k := by
  have hlength : (turns.take k).length = k := by rw [List.length_take, Nat.min_eq_left hk]
  have hb : 2 * k ≤ 2 * turns.length := by omega
  rw [messages_load (messages_threadAfter w _), hlength, rowsOf_take turns hk,
    filter_slice hcontent, mem_slice turns _ hb, Nat.mul_comm w 2]

/-- The history of turn `r` reaches one turn beyond the window. -/
theorem historyAt_eq {r : ℕ} (hpast : w < r) (hr : r ≤ turns.length) :
    historyAt w turns r = ((rowsOf 0 turns).take (2 * r)).drop (2 * (r - 1 - w)) := by
  have hprev : r - 1 ≤ turns.length := by omega
  have hstart : 2 * (r - 1) - w * 2 = 2 * (r - 1 - w) := by omega
  have hmin : min (2 * (r - 1)) (2 * r) = 2 * (r - 1) := by omega
  have hle : 2 * (r - 1 - w) ≤
      (((rowsOf 0 turns).take (2 * r)).take (2 * (r - 1))).length := by
    rw [List.length_take, List.length_take, length_rowsOf]
    omega
  rw [historyAt, rowsOf_take turns hprev, rowsOf_take turns hr, filter_slice hcontent, hstart]
  calc ((rowsOf 0 turns).take (2 * (r - 1))).drop (2 * (r - 1 - w)) ++
        ((rowsOf 0 turns).take (2 * r)).drop (2 * (r - 1))
      = (((rowsOf 0 turns).take (2 * r)).take (2 * (r - 1))).drop (2 * (r - 1 - w)) ++
        ((rowsOf 0 turns).take (2 * r)).drop (2 * (r - 1)) := by rw [List.take_take, hmin]
    _ = ((rowsOf 0 turns).take (2 * r)).drop (2 * (r - 1 - w)) := by
      rw [← List.drop_append_of_le_length hle, List.take_append_drop]

/-- **What turn `r` transcribes**: of the last 40 messages of the history, those that end
within the characters. -/
theorem transcribed_iff {r : ℕ} (hpast : w < r) (hr : r ≤ turns.length) (number : ℕ) :
    number ∈ transcribed (historyAt w turns r) ↔
      2 * (r - 1 - w) + (2 * w + 2 - 40) ≤ number ∧ number < 2 * r ∧
      (historyText (((rowsOf 0 turns).take (number + 1)).drop
        (2 * (r - 1 - w) + (2 * w + 2 - 40)))).length ≤ summaryInputChars := by
  have hb : 2 * r ≤ 2 * turns.length := by omega
  have hlength : (((rowsOf 0 turns).take (2 * r)).drop (2 * (r - 1 - w))).length - 40 =
      2 * w + 2 - 40 := by
    rw [List.length_drop, List.length_take, length_rowsOf]
    omega
  have hrecent : recent 40 (historyAt w turns r) =
      ((rowsOf 0 turns).take (2 * r)).drop (2 * (r - 1 - w) + (2 * w + 2 - 40)) := by
    rw [recent, historyAt_eq hcontent hpast hr, hlength, List.drop_drop, filter_slice hcontent]
  have hfirst (p : ℕ) (hp : 2 * (r - 1 - w) + (2 * w + 2 - 40) + p < 2 * r) :
      (((rowsOf 0 turns).take (2 * r)).drop (2 * (r - 1 - w) + (2 * w + 2 - 40))).take (p + 1) =
        ((rowsOf 0 turns).take (2 * (r - 1 - w) + (2 * w + 2 - 40) + p + 1)).drop
          (2 * (r - 1 - w) + (2 * w + 2 - 40)) := by
    rw [List.take_drop, List.take_take, ← Nat.add_assoc, Nat.min_eq_left hp]
  rw [mem_transcribed, hrecent]
  constructor
  · rintro ⟨p, m, hm, hnumber, hchars⟩
    obtain ⟨rfl, hto⟩ := (getElem?_slice turns _ hb p number).1 ⟨m, hm, hnumber⟩
    rw [hfirst p hto] at hchars
    exact ⟨Nat.le_add_right _ _, hto, hchars⟩
  · rintro ⟨hfrom, hto, hchars⟩
    obtain ⟨p, rfl⟩ := Nat.exists_eq_add_of_le hfrom
    obtain ⟨m, hm, hnumber⟩ := (getElem?_slice turns _ hb p _).2 ⟨rfl, hto⟩
    exact ⟨p, m, hm, hnumber, by rwa [hfirst p hto]⟩

end Nonempty

/-! ### When nothing is forgotten -/

/-- What is remembered after `k` turns: what is loaded, and what a summary turn up to
then transcribed. -/
theorem remembers_after_iff {w : ℕ} {turns : List Turn}
    (hreply : ∀ turn ∈ turns, ∀ request, strip (turn.generate request) ≠ "")
    (hcontent : ∀ m ∈ rowsOf 0 turns, m.content ≠ "") {k : ℕ} (hk : k ≤ turns.length)
    (number : ℕ) :
    Remembers w (threadAfter w (turns.take k)) number ↔
      (2 * k - 2 * w ≤ number ∧ number < 2 * k) ∨
      ∃ r ≤ k, SummaryTurn w r ∧ number ∈ transcribed (historyAt w turns r) := by
  have hlength : (turns.take k).length = k := by rw [List.length_take, Nat.min_eq_left hk]
  have hsummaries :
      (∃ r ≤ k, SummaryTurn w r ∧ number ∈ transcribed (historyAt w (turns.take k) r)) ↔
        ∃ r ≤ k, SummaryTurn w r ∧ number ∈ transcribed (historyAt w turns r) := by
    refine exists_congr fun r => and_congr_right fun hr => ?_
    rw [historyAt_take w turns hr]
  rw [remembers_iff, loaded_iff hcontent hk,
    mem_summarised w _ number fun turn hturn => hreply turn (List.mem_of_mem_take hturn), hlength,
    hsummaries]

/-- At the start of every turn the memory has every earlier message, by their numbers. -/
theorem forgetsNothing_iff (w : ℕ) (turns : List Turn) :
    ForgetsNothing w turns ↔ ∀ k ≤ turns.length, ∀ m ∈ rowsOf 0 (turns.take k),
      Remembers w (threadAfter w (turns.take k)) m.number := by
  refine forall_congr' fun k => forall_congr' fun _ => ?_
  rw [messages_threadAfter]
  exact forall_congr' fun m => forall_congr' fun hm =>
    forall_prop_of_true (role_rowsOf 0 _ m hm)

/-- Where nothing is forgotten no message is empty. -/
theorem ForgetsNothing.content {w : ℕ} {turns : List Turn}
    (hreply : ∀ turn ∈ turns, ∀ request, strip (turn.generate request) ≠ "")
    (h : ForgetsNothing w turns) : ∀ m ∈ rowsOf 0 turns, m.content ≠ "" := by
  intro m hm
  have hafter := (forgetsNothing_iff w turns).1 h turns.length le_rfl
  rw [List.take_length] at hafter
  obtain ⟨m', hm', hnumber, hcontent⟩ := content_of_remembers hreply (hafter m hm)
  rwa [← eq_of_number_eq hm' hm hnumber]

/-- The turn in which a message has just fallen out of the window: a summary turn of at
most then has transcribed it. -/
theorem ForgetsNothing.transcribed {w : ℕ} {turns : List Turn}
    (hreply : ∀ turn ∈ turns, ∀ request, strip (turn.generate request) ≠ "")
    (h : ForgetsNothing w turns) {number : ℕ} (hnumber : number / 2 + w < turns.length) :
    ∃ r, SummaryTurn w r ∧ r ≤ number / 2 + w + 1 ∧
      number ∈ transcribed (historyAt w turns r) := by
  have hcontent := h.content hreply
  have hk : number / 2 + w + 1 ≤ turns.length := hnumber
  have hb : 2 * (number / 2 + w + 1) ≤ 2 * turns.length := by omega
  obtain ⟨m, hm, hm'⟩ := (mem_slice turns 0 hb number).2 (by omega)
  rw [List.drop_zero, ← rowsOf_take turns hk] at hm
  have hremembers := (forgetsNothing_iff w turns).1 h _ hk m hm
  rw [hm', remembers_after_iff hreply hcontent hk] at hremembers
  rcases hremembers with hloaded | ⟨r, hr, hsummary, hmem⟩
  · omega
  · exact ⟨r, hsummary, hr, hmem⟩

/-- **The memory forgets nothing exactly when no message is empty and either the thread
is within the window, or a summary is written in the turn the first message falls out of
it, 40 messages are a window and a turn, and each message that falls out was within the
characters of a summary by then.**  Summaries fall on every fourth turn of the thread, not
of what is past the window, so of the windows up to 19 those of 3, 7, 11, 15 and 19 turns
are left. -/
theorem memory_forgets_nothing_iff (ragMemoryWindow : ℤ) (turns : List Turn)
    (hreply : ∀ turn ∈ turns, ∀ request, strip (turn.generate request) ≠ "") :
    ForgetsNothing (window ragMemoryWindow) turns ↔
      NothingLost (window ragMemoryWindow) turns := by
  generalize window ragMemoryWindow = w
  constructor
  · intro h
    have hcontent := h.content hreply
    refine ⟨(content_rowsOf 0 turns).1 hcontent, ?_⟩
    by_cases hwithin : turns.length ≤ w
    · exact .inl hwithin
    have hout : 0 / 2 + w < turns.length := by omega
    -- the first message falls out in turn `w + 1`, the only summary turn by then
    obtain ⟨r, hsummary, hr, hmem⟩ := h.transcribed hreply hout
    have hpast : w < r := hsummary.1
    have hfourth : r % 4 = 0 := hsummary.2
    have hlength : r ≤ turns.length := by omega
    obtain ⟨hfrom, -, -⟩ := (transcribed_iff hcontent hpast hlength 0).1 hmem
    have hw : w ≤ 19 := by omega
    refine .inr ⟨by omega, hw, fun number hnumber => ?_⟩
    obtain ⟨r, hsummary, hr, hmem⟩ := h.transcribed hreply hnumber
    have hpast : w < r := hsummary.1
    have hlength : r ≤ turns.length := by omega
    obtain ⟨-, hto, hchars⟩ := (transcribed_iff hcontent hpast hlength number).1 hmem
    have hlimit : 2 * w + 2 - 40 = 0 := by omega
    rw [hlimit, Nat.add_zero] at hchars
    exact ⟨r, hsummary, by omega, hr, hchars⟩
  · rintro ⟨hturns, hcases⟩
    have hcontent := (content_rowsOf 0 turns).2 hturns
    refine (forgetsNothing_iff w turns).2 fun k hk m hm => ?_
    have hb : 2 * k ≤ 2 * turns.length := by omega
    rw [rowsOf_take turns hk] at hm
    obtain ⟨-, hin⟩ := (mem_slice turns 0 hb m.number).1 ⟨m, by rwa [List.drop_zero], rfl⟩
    rw [remembers_after_iff hreply hcontent hk]
    by_cases hloaded : 2 * k - 2 * w ≤ m.number
    · exact .inl ⟨hloaded, hin⟩
    have hout : m.number / 2 + w < turns.length := by omega
    rcases hcases with hwithin | ⟨-, hw, hsummaries⟩
    · omega
    obtain ⟨r, hsummary, hbefore, hr, hchars⟩ := hsummaries m.number hout
    have hpast : w < r := hsummary.1
    have hlimit : 2 * w + 2 - 40 = 0 := by omega
    refine .inr ⟨r, by omega, hsummary, ?_⟩
    refine (transcribed_iff hcontent hpast (by omega) m.number).2 ⟨by omega, by omega, ?_⟩
    rwa [hlimit, Nat.add_zero]

/-- Some short turns. -/
def shortTurns (n : ℕ) : List Turn :=
  List.replicate n ⟨"Any flats in Zayed?", "Yes.", fun _ => "The buyer asks for flats in Zayed."⟩

/-- The hypothesis of `memory_forgets_nothing_iff` is satisfiable: with a window of three
turns the summary after the fourth has the turn that leaves it. -/
theorem memory_forgets_nothing_iff_demo : ForgetsNothing (window 3) (shortTurns 5) := by
  have hreply : ∀ turn ∈ shortTurns 5, ∀ request, strip (turn.generate request) ≠ "" := by
    intro turn hturn request
    rw [List.eq_of_mem_replicate hturn]
    show strip "The buyer asks for flats in Zayed." ≠ ""
    decide
  have hchars : ∀ number < 4,
      (historyText (((rowsOf 0 (shortTurns 5)).take (number + 1)).drop (2 * (4 - 1 - 3)))).length ≤
        summaryInputChars := by decide
  refine (memory_forgets_nothing_iff 3 (shortTurns 5) hreply).2
    ⟨by decide, .inr ⟨by decide, by decide, fun number hnumber => ?_⟩⟩
  have hout : number / 2 + 3 < 5 := hnumber
  refine ⟨4, ⟨by decide, rfl⟩, by omega, ?_, hchars number (by omega)⟩
  show 4 ≤ number / 2 + 3 + 1
  omega

/-- With the default window of ten turns the first question is neither loaded nor
summarised after eleven: it has left the window, and the first summary comes a turn
later. -/
theorem default_window_forgets : ¬ ForgetsNothing (window 10) (shortTurns 11) := by
  intro h
  have hloaded : ∀ m ∈ (load 10 (threadAfter 10 (shortTurns 11))).messages, m.number ≠ 0 := by
    decide
  have hsummary : (load 10 (threadAfter 10 (shortTurns 11))).summary = none := by decide
  rcases h 11 le_rfl ⟨0, .user, "Any flats in Zayed?"⟩ (by decide) (.inl rfl) with
    ⟨m, hm, hnumber⟩ | ⟨row, hrow, -⟩
  · exact hloaded m hm hnumber
  · have hnone : row ∈ (none : Option ChatSummary) := hsummary ▸ hrow
    exact absurd hnone nofun

end Rag
end TopChoice
