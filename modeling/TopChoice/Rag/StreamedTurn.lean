/-
# What is streamed is what is stored

`ChatAgent.stream`, `_stream_tools` and `_persist` of `apps/rag-svc/app/graph/builder.py`.  A
streamed turn that comes to its end does so in one of four ways: turned away by the guard,
answered, answered in part because generation failed, and any of the last two after tools
were called.  In each of them the events that were yielded say what the turn is, and so does
what the repository was handed of it (`delivers_stream`).

A turn comes to its end exactly when every node on its way can report (`TurnReady`); what a
node needs for that is spelt out by `Ready`, and some of it is a slip: a plan that cannot be
iterated over breaks the turn off after `tool_start`, with nothing stored and no `done`.
-/

import TopChoice.Rag.Executors
import TopChoice.Rag.ModelOutput

namespace TopChoice
namespace Rag
namespace Agent

open Effects Program

/-! ### What a log shows -/

/-- The events that were yielded. -/
def events (log : List Entry) : List Event := log.filterMap fun
  | .yielded event => some event
  | _ => none

/-- A message or tool calls handed to the repository. -/
def isStored : Entry → Bool
  | .stored _ | .recorded _ _ => true
  | _ => false

/-- The text of a token. -/
def Event.tokenText : Event → Option String
  | .token text => some text
  | _ => none

/-- The sources an event shows. -/
def Event.shownSources : Event → Option (List Json)
  | .sources cards => some cards
  | _ => none

/-- The end of a tool. -/
def Event.isToolEnd : Event → Bool
  | .toolEnd _ _ _ _ => true
  | _ => false

/-- The end of a turn. -/
def Event.isDone : Event → Bool
  | .done _ => true
  | _ => false

/-- What a part of a turn shows: the events it yields, and what it hands to the
repository. -/
def Shows {ω α : Type} (p : TurnProgram ω α)
    (Q : Except Raised α → List Event → List Entry → Prop) : Prop :=
  p.Meets fun result log => Q result (events log) (log.filter isStored)

section Streaming

variable {ω : Type} (c : Collaborators ω)

/-! ### What is stored -/

/-- The repository takes the messages of users. -/
def TakesQuestions : Prop :=
  ∀ message : StoredMessage, message.role = .user → ∀ w, ∃ id, (c.addMessage message w).1 = .ok id

/-- What is kept of a turn: nothing, its question, its question and its answer, or these and
its tool calls. -/
inductive Keeps (turn : AgentTurn) : List Entry → Prop
  | nothing : Keeps turn []
  | question {message : StoredMessage} : message.role = .user → Keeps turn [.stored message]
  | answer {message : StoredMessage} : message.role = .user →
      Keeps turn [.stored message, .stored (turn.assistantMessage turn.threadId)]
  | calls {message : StoredMessage} {messageId : Option String} : message.role = .user →
      Keeps turn [.stored message, .stored (turn.assistantMessage turn.threadId),
        .recorded messageId turn.toolResults]

/-- What is kept of a turn, and that its answer is where there is a thread and its question
was taken. -/
structure Kept (turn : AgentTurn) (entries : List Entry) : Prop where
  keeps : Keeps turn entries
  handed : turn.threadId ≠ "" → TakesQuestions c →
    .stored (turn.assistantMessage turn.threadId) ∈ entries

/-- The event of the sources, if there are any. -/
def sourceEvents (sources : List Json) : List Event :=
  if sources.isEmpty then [] else [.sources sources]

/-- The answer to a turn: its sources, its tokens, perhaps an error, and `done`. -/
structure Answers (turn : AgentTurn) (events : List Event) : Prop where
  shown : ∃ (pieces : List String) (failure : List Event),
    events = sourceEvents turn.sources ++ (pieces.map .token ++ (failure ++ [.done turn])) ∧
      String.join pieces = turn.answer ∧
      (failure = [] ∨ ∃ code message, failure = [.error code message])

/-- The answer to a turn begins with its sources, and goes on with tokens that make up the
answer, where nothing else is shown. -/
theorem Answers.split {turn : AgentTurn} {events : List Event} (h : Answers turn events) :
    ∃ rest, events = sourceEvents turn.sources ++ rest ∧
      String.join (rest.filterMap Event.tokenText) = turn.answer ∧
      (∀ event ∈ rest, event.shownSources = none ∧ event.isToolEnd = false) ∧
      ∃ before, rest = before ++ [.done turn] ∧ ∀ event ∈ before, event.isDone = false := by
  obtain ⟨pieces, failure, rfl, hanswer, hfailure⟩ := h
  have hpieces (event : Event) (h : event ∈ pieces.map Event.token) : event.shownSources = none ∧
      event.isToolEnd = false ∧ event.isDone = false := by
    obtain ⟨piece, -, rfl⟩ := List.mem_map.1 h
    exact ⟨rfl, rfl, rfl⟩
  have hfailed (event : Event) (h : event ∈ failure) : event.tokenText = none ∧
      event.shownSources = none ∧ event.isToolEnd = false ∧ event.isDone = false := by
    rcases hfailure with rfl | ⟨code, message, rfl⟩
    · exact absurd h List.not_mem_nil
    · obtain rfl := List.mem_singleton.1 h
      exact ⟨rfl, rfl, rfl, rfl⟩
  refine ⟨_, rfl, ?_, fun event hevent => ?_, pieces.map .token ++ failure,
    (List.append_assoc ..).symm, fun event hevent => ?_⟩
  · have htokens : (pieces.map Event.token).filterMap Event.tokenText = pieces :=
      (List.filterMap_map ..).trans List.filterMap_some
    rw [List.filterMap_append, List.filterMap_append, htokens,
      List.filterMap_eq_nil_iff.2 fun event h => (hfailed event h).1]
    exact (congrArg String.join (List.append_nil pieces)).trans hanswer
  · rcases List.mem_append.1 hevent with h | h
    · exact ⟨(hpieces event h).1, (hpieces event h).2.1⟩
    · rcases List.mem_append.1 h with h | h
      · exact ⟨(hfailed event h).2.1, (hfailed event h).2.2.1⟩
      · obtain rfl := List.mem_singleton.1 h
        exact ⟨rfl, rfl⟩
  · rcases List.mem_append.1 hevent with h | h
    · exact (hpieces event h).2.2
    · exact (hfailed event h).2.2.2

end Streaming

end Agent
end Rag
end TopChoice
