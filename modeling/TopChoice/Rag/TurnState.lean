/-
# The state of a turn, and what a turn does

`GraphState`, `initial_state` and the merge of a node's report
(`apps/rag-svc/app/graph/state.py`, `_merge` of `builder.py`), and the entries a turn makes
in its log: the nodes it runs, what it hands to generation, the requests its tools send,
the events it yields and what it gives to the repository.

`route_confidence` and `retrieval_stats` are reported and read by nothing; they are left
out.  A node that raises leaves a mark in the log, which the code does not keep.
-/

import TopChoice.Lib.Effects
import TopChoice.Rag.Prompts

namespace TopChoice
namespace Rag
namespace Agent

/-- `MAX_ITERATIONS`. -/
def maxIterations : ℕ := 2

/-- What a tool result is kept as. -/
structure ToolRecord where
  name : String
  ok : Bool
  summary : String := ""
  output : Json := .null
  error : Option String := none
  /-- In hundredths of a millisecond. -/
  latency : ℕ := 0

/-- `ToolResult`: the record and the citation cards. -/
structure ToolResult extends ToolRecord where
  sources : List Json := []

/-- `GenerationUsage`. -/
structure Usage where
  promptTokens : ℕ
  completionTokens : ℕ
  totalTokens : ℕ
  deriving DecidableEq, Repr

/-- `GraphState`. -/
structure TurnState extends GraphState where
  messages : List ChatMessage := []
  threadId : Option String := none
  userId : Option String := none
  userName : Option String := none
  userEmail : Option String := none
  accessToken : Option String := none
  requestId : Option String := none
  locale : String := "en"
  summary : Option String := none
  retrieved : List Passage := []
  sources : List Json := []
  contextSufficient : Bool := false
  gradeReason : PyStr := []
  needsWeb : Bool := false
  toolResults : List ToolRecord := []
  confirmed : Bool := false
  answer : String := ""
  guarded : Bool := false
  degraded : Bool := false
  iteration : ℕ := 0
  error : Option String := none
  usage : Option Usage := none

/-- What a node reports: the keys it changes. -/
structure Patch where
  question : Option String := none
  rewrittenQuery : Option String := none
  route : Option Route := none
  filters : Option Dict := none
  profile : Option Dict := none
  messages : Option (List ChatMessage) := none
  threadId : Option (Option String) := none
  userId : Option (Option String) := none
  userName : Option (Option String) := none
  userEmail : Option (Option String) := none
  accessToken : Option (Option String) := none
  requestId : Option (Option String) := none
  locale : Option String := none
  summary : Option (Option String) := none
  retrieved : Option (List Passage) := none
  sources : Option (List Json) := none
  contextSufficient : Option Bool := none
  gradeReason : Option PyStr := none
  needsWeb : Option Bool := none
  toolResults : Option (List ToolRecord) := none
  confirmed : Option Bool := none
  answer : Option String := none
  guarded : Option Bool := none
  degraded : Option Bool := none
  iteration : Option ℕ := none
  error : Option (Option String) := none
  usage : Option (Option Usage) := none

/-- `_merge`. -/
def TurnState.merge (state : TurnState) (patch : Patch) : TurnState where
  question := patch.question.getD state.question
  rewrittenQuery := patch.rewrittenQuery.getD state.rewrittenQuery
  route := patch.route.getD state.route
  filters := patch.filters.getD state.filters
  profile := patch.profile.getD state.profile
  messages := patch.messages.getD state.messages
  threadId := patch.threadId.getD state.threadId
  userId := patch.userId.getD state.userId
  userName := patch.userName.getD state.userName
  userEmail := patch.userEmail.getD state.userEmail
  accessToken := patch.accessToken.getD state.accessToken
  requestId := patch.requestId.getD state.requestId
  locale := patch.locale.getD state.locale
  summary := patch.summary.getD state.summary
  retrieved := patch.retrieved.getD state.retrieved
  sources := patch.sources.getD state.sources
  contextSufficient := patch.contextSufficient.getD state.contextSufficient
  gradeReason := patch.gradeReason.getD state.gradeReason
  needsWeb := patch.needsWeb.getD state.needsWeb
  toolResults := patch.toolResults.getD state.toolResults
  confirmed := patch.confirmed.getD state.confirmed
  answer := patch.answer.getD state.answer
  guarded := patch.guarded.getD state.guarded
  degraded := patch.degraded.getD state.degraded
  iteration := patch.iteration.getD state.iteration
  error := patch.error.getD state.error
  usage := patch.usage.getD state.usage

/-- A state as a report of every key. -/
def TurnState.asPatch (state : TurnState) : Patch where
  question := state.question
  rewrittenQuery := state.rewrittenQuery
  route := state.route
  filters := state.filters
  profile := state.profile
  messages := state.messages
  threadId := some state.threadId
  userId := some state.userId
  userName := some state.userName
  userEmail := some state.userEmail
  accessToken := some state.accessToken
  requestId := some state.requestId
  locale := state.locale
  summary := some state.summary
  retrieved := state.retrieved
  sources := state.sources
  contextSufficient := state.contextSufficient
  gradeReason := state.gradeReason
  needsWeb := state.needsWeb
  toolResults := state.toolResults
  confirmed := state.confirmed
  answer := state.answer
  guarded := state.guarded
  degraded := state.degraded
  iteration := state.iteration
  error := some state.error
  usage := some state.usage

/-- A report of every key leaves nothing of the state it is merged into. -/
theorem TurnState.merge_asPatch (stored state : TurnState) : stored.merge state.asPatch = state :=
  rfl

/-- What a turn is asked with. -/
structure TurnInput where
  question : String
  messages : List ChatMessage := []
  threadId : Option String := none
  userId : Option String := none
  userName : Option String := none
  userEmail : Option String := none
  accessToken : Option String := none
  requestId : Option String := none
  locale : String := "en"

/-- `initial_state`. -/
def initialState (input : TurnInput) : TurnState where
  question := input.question
  messages := input.messages
  threadId := input.threadId
  userId := input.userId
  userName := input.userName
  userEmail := input.userEmail
  accessToken := input.accessToken
  requestId := input.requestId
  locale := input.locale
  route := .knowledge
  rewrittenQuery := input.question

/-! ### The log of a turn -/

/-- The nodes of the graph; `classify` runs the function `route`. -/
inductive Node where
  | loadMemory
  | guard
  | classify
  | rewriteQuery
  | retrieve
  | gradeContext
  | callTools
  | generate
  deriving DecidableEq, Repr

/-- The services tools send requests to. -/
inductive Service where
  | searchSvc
  | apiCore
  | reportsSvc
  | openai
  deriving DecidableEq, Repr

/-- The methods of the requests. -/
inductive Method where
  | get
  | post
  deriving DecidableEq, Repr

/-- A request of a tool. -/
structure HttpRequest where
  service : Service
  method : Method
  path : String
  payload : Json
  headers : List (String × String) := []

/-- A request that creates a lead. -/
def HttpRequest.isCreateLead (request : HttpRequest) : Bool :=
  request.service = .apiCore && request.method = .post && request.path = "/api/v1/leads"

/-- `AgentTurn`. -/
structure AgentTurn where
  threadId : String
  answer : String
  sources : List Json
  toolResults : List ToolRecord
  route : Route
  degraded : Bool
  latency : ℕ
  userMessageId : Option String := none
  assistantMessageId : Option String := none
  usage : Option Usage := none

/-- The events of a streamed turn. -/
inductive Event where
  | token (text : String)
  | sources (sources : List Json)
  | toolStart (route : Route)
  | toolEnd (name : String) (ok : Bool) (error : Option String) (latency : ℕ)
  | error (code message : String)
  | done (turn : AgentTurn)

/-- A message handed to the repository. -/
structure StoredMessage where
  threadId : String
  role : Role
  content : String
  sources : List Json := []
  toolCalls : List ToolRecord := []
  tokens : Option ℕ := none
  latency : Option ℕ := none

/-- What a turn does. -/
inductive Entry where
  | node (n : Node)
  /-- The node raised. -/
  | raised (n : Node)
  /-- The messages, the sources and the question handed to generation. -/
  | handed (messages : List Message) (sources : List Passage) (question : String)
  | request (request : HttpRequest)
  | yielded (event : Event)
  | stored (message : StoredMessage)
  | recorded (messageId : Option String) (results : List ToolRecord)

/-- A part of a turn, in a world `ω` of collaborators. -/
abbrev TurnProgram (ω α : Type) := Effects.Program Raised ω Entry α

/-- A call of the world. -/
abbrev Action (ω α : Type) := ω → Except Raised α × ω

end Agent
end Rag
end TopChoice
