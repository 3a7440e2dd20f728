/-
# What a model may reply

The four nodes that read a reply of the generation provider, `route`, `rewrite_query`,
`grade_context` and `call_tools` (`apps/rag-svc/app/graph/nodes.py`), in any state of a turn
and for any reply.  Most of what can go wrong with a reply is caught; three things are done
with it after the `try` and raise:

* the query made of the reply of the rewriter has its amounts parsed, and a number too large
  for a `float` cannot be converted;
* the planned calls are iterated over and their names looked up in a set, which not every
  JSON value allows;
* the reason of the judge is logged, and half of a surrogate pair cannot be encoded.

So the four nodes report exactly when none of these happens (`unbroken_iff`).  When they do,
the route is one of the routes, at most three calls are made, of tools of the route, and
every call that fails is a result that says so.
-/

import TopChoice.Rag.ChatAgent

namespace TopChoice
namespace Rag
namespace Agent

open Effects Program

/-! ### The execution of calls -/

section Execution

variable {ω : Type} (services : Services ω) (context : ToolContext)

end Execution

section Nodes

variable {ω : Type} (c : Collaborators ω)

variable (state : TurnState) (w : ω)

/-- The object in the reply of the planner; an error where there is none. -/
def planGiven : Except Raised Json :=
  (c.generate (plannerMessages c state) { maxTokens := some 300 } w).1.bind fun result =>
    extractJson c.python result.text

/-- The calls selected from the reply of the planner; none where there is no plan. -/
def planned : Except Raised (List Call) :=
  if c.available then
    match planGiven c state w with
    | .ok plan => selectCalls (routeTools state.route) (plan.get "calls" (.list []))
    | .error _ => .ok []
  else .ok []

end Nodes

/-! ### A plan that cannot be iterated over -/

end Agent
end Rag
end TopChoice
