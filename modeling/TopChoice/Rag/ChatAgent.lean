/-
# The agent and its three executors

`apps/rag-svc/app/graph/builder.py`.  The same nodes are run by the compiled graph, by
`_run_sequential` and by `ChatAgent.stream`, which runs them up to generation, streams the
answer itself and yields events on the way; `_persist` writes the turn.

The two `while True` loops have fuel; `TopChoice.Rag.Executors` shows that two rounds
suffice.  A node that raises, or whose edge does, leaves a mark in the log.
-/

import TopChoice.Lib.StateGraph
import TopChoice.Rag.Nodes

namespace TopChoice
namespace Rag
namespace Agent

open Effects Program

section Agent

variable {ω : Type} (c : Collaborators ω)

/-- The function of a node. -/
def nodeFunction : Node → TurnState → TurnProgram ω Patch
  | .loadMemory => loadMemory c
  | .guard => guard c
  | .classify => route c
  | .rewriteQuery => rewriteQuery c
  | .retrieve => retrieve c
  | .gradeContext => gradeContext c
  | .callTools => callTools c
  | .generate => generate c

/-- A program of a node, which leaves a mark where it raises. -/
def marked {α : Type} (n : Node) (p : TurnProgram ω α) : TurnProgram ω α := do
  match ← attempt p with
  | .ok a => return a
  | .error raised =>
      tell (.raised n)
      raise raised

/-- A node is run. -/
def runNode (n : Node) (state : TurnState) : TurnProgram ω Patch := do
  tell (.node n)
  marked n (nodeFunction c n state)

/-- A node is run, and what it reports is merged. -/
def visit (n : Node) (state : TurnState) : TurnProgram ω TurnState := do
  let patch ← runNode c n state
  return state.merge patch

/-! ### Edges -/

/-- `_after_guard`. -/
def afterGuard (state : TurnState) : String := if state.guarded then "end" else "route"

/-- `wants_mortgage_calculation`. -/
def wantsMortgageCalculation (state : TurnState) : Except Raised Bool :=
  (mortgageArguments c.unicode state.query state.filters state.profile).map Option.isSome

/-- `_after_route`. -/
def afterRoute (state : TurnState) : Except Raised String :=
  match state.route with
  | .smalltalk => .ok "generate"
  | .knowledge => (wantsMortgageCalculation c state).map fun wanted =>
      if wanted then "call_tools" else "rewrite_query"
  | .listingSearch | .web | .handoff => .ok "call_tools"

/-- `_after_grade`. -/
def afterGrade (state : TurnState) : String :=
  if state.contextSufficient then "generate"
  else if state.iteration < maxIterations then "rewrite_query"
  else "call_tools"

/-- `_after_route`, run with the node it follows. -/
def branch (state : TurnState) : TurnProgram ω String :=
  marked .classify (ofExcept (afterRoute c state))

/-! ### The graph -/

/-- `build_graph`. -/
def graph : StateGraph.Graph Node TurnState Patch Raised ω Entry where
  node := runNode c
  merge := TurnState.merge
  start := .loadMemory
  edge
    | .loadMemory => .fixed (.node .guard)
    | .guard => .choose (fun state => pure (afterGuard state))
        [("route", .node .classify), ("end", .finish)]
    | .classify => .choose (branch c)
        [("rewrite_query", .node .rewriteQuery), ("call_tools", .node .callTools),
          ("generate", .node .generate)]
    | .rewriteQuery => .fixed (.node .retrieve)
    | .retrieve => .fixed (.node .gradeContext)
    | .gradeContext => .choose (fun state => pure (afterGrade state))
        [("generate", .node .generate), ("rewrite_query", .node .rewriteQuery),
          ("call_tools", .node .callTools)]
    | .callTools => .fixed (.node .generate)
    | .generate => .fixed .finish
  recursionError := ⟨"GraphRecursionError", "Recursion limit reached"⟩
  missingLabel label := ⟨"KeyError", label⟩

/-- The recursion limit of a graph that is given none. -/
def recursionLimit : ℕ := 25

/-- `_execute` with the graph; `stored` is what the checkpointer holds of the thread. -/
def runGraph (stored : TurnState) (input : TurnInput) : TurnProgram ω TurnState :=
  (graph c).invoke recursionLimit stored (initialState input).asPatch

/-! ### The sequential fallback -/

/-- What a loop out of fuel raises. -/
def outOfFuel : Raised := ⟨"OutOfFuel", ""⟩

/-- A round of the loop: rewrite, retrieve, grade. -/
def retrievalRound (state : TurnState) : TurnProgram ω TurnState := do
  let state ← visit c .rewriteQuery state
  let state ← visit c .retrieve state
  visit c .gradeContext state

/-- The loop of `_run_sequential`. -/
def sequentialLoop : ℕ → TurnState → TurnProgram ω TurnState
  | 0, _ => raise outOfFuel
  | fuel + 1, state => do
      let state ← retrievalRound c state
      let nextNode := afterGrade state
      if nextNode = "rewrite_query" then sequentialLoop fuel state
      else if nextNode = "call_tools" then visit c .callTools state
      else return state

/-- What `_run_sequential` runs on a branch. -/
def sequentialBranch (fuel : ℕ) (label : String) (state : TurnState) : TurnProgram ω TurnState :=
  if label = "rewrite_query" then sequentialLoop c fuel state
  else if label = "call_tools" then visit c .callTools state
  else pure state

/-- `_run_sequential`. -/
def runSequential (fuel : ℕ) (state : TurnState) : TurnProgram ω TurnState := do
  let state ← visit c .loadMemory state
  let state ← visit c .guard state
  if state.guarded then return state
  else
    let state ← visit c .classify state
    let label ← branch c state
    let state ← sequentialBranch c fuel label state
    visit c .generate state

/-! ### Persistence -/

/-- A message is handed to the repository. -/
def addMessage (message : StoredMessage) : TurnProgram ω (Option String) := do
  tell (.stored message)
  perform (c.addMessage message)

/-- The message of the user. -/
def TurnState.userMessage (state : TurnState) (threadId : String) : StoredMessage where
  threadId := threadId
  role := .user
  content := state.question

/-- The message of the assistant. -/
def AgentTurn.assistantMessage (turn : AgentTurn) (threadId : String) : StoredMessage where
  threadId := threadId
  role := .assistant
  content := turn.answer
  sources := turn.sources
  toolCalls := turn.toolResults
  tokens := turn.usage.map Usage.totalTokens
  latency := some (turn.latency / 100)

/-- The messages of a turn, and their ids. -/
def addMessages (state : TurnState) (turn : AgentTurn) (threadId : String) :
    TurnProgram ω (Option String × Option String) := do
  let userMessage ← addMessage c (state.userMessage threadId)
  let assistantMessage ← addMessage c (turn.assistantMessage threadId)
  return (userMessage, assistantMessage)

/-- The tool calls of a turn are handed to the repository. -/
def recordToolCalls (turn : AgentTurn) : TurnProgram ω Unit :=
  if turn.toolResults.isEmpty then pure ()
  else do
    tell (.recorded turn.assistantMessageId turn.toolResults)
    perform (c.recordToolCalls turn.assistantMessageId turn.toolResults)

/-- What follows the messages: the tool calls, the title, the profile and the summary. -/
def finishTurn (state : TurnState) (turn : AgentTurn) (threadId : String) :
    TurnProgram ω Unit := do
  recordToolCalls c turn
  let title := firstChars (strip state.question) 80
  let existing ← perform (c.getThread threadId)
  perform (c.touchThread threadId
    (if (existing.getD "" ≠ "") ∨ title = "" then none else some title))
  perform (c.persistProfile threadId state.profile)
  let history : List Message := (state.messages.map fun message => ⟨message.role, message.content⟩) ++
    [⟨.user, state.question⟩, ⟨.assistant, turn.answer⟩]
  let memory ← perform (c.loadMemory (some threadId))
  if c.shouldSummarise memory.messageCount then
    perform (c.refreshSummary threadId history state.summary)
  else pure ()

/-- The turn a state comes to. -/
def TurnState.turn (state : TurnState) (latency : ℕ) : AgentTurn where
  threadId := state.threadId.getD ""
  answer := state.answer
  sources := state.sources
  toolResults := state.toolResults
  route := state.route
  degraded := state.degraded
  latency := latency
  usage := state.usage

/-- `_persist`: what goes wrong does not fail the turn. -/
def persist (state : TurnState) : TurnProgram ω AgentTurn := do
  let latency ← perform fun w => (.ok (c.latency w), w)
  let turn := state.turn latency
  match state.threadId.filter (· ≠ "") with
  | none => return turn
  | some threadId =>
      match ← attempt (addMessages c state turn threadId) with
      | .error _ => return turn
      | .ok (userMessage, assistantMessage) =>
          let turn := { turn with
            userMessageId := userMessage
            assistantMessageId := assistantMessage }
          let _ ← attempt (finishTurn c state turn threadId)
          return turn

/-- `_execute`: the graph, or the sequential fallback where there is none. -/
def execute (usesLanggraph : Bool) (fuel : ℕ) (stored : TurnState) (input : TurnInput) :
    TurnProgram ω TurnState :=
  if usesLanggraph then runGraph c stored input else runSequential c fuel (initialState input)

/-- `answer`. -/
def answer (usesLanggraph : Bool) (fuel : ℕ) (stored : TurnState) (input : TurnInput) :
    TurnProgram ω AgentTurn := do
  let state ← execute c usesLanggraph fuel stored input
  persist c state

/-! ### Streaming -/

/-- An event is yielded. -/
def yieldEvent (event : Event) : TurnProgram ω Unit := tell (.yielded event)

/-- `tool_end`, of a result. -/
def toolEnd (result : ToolRecord) : Event :=
  .toolEnd result.name result.ok result.error result.latency

/-- `_stream_tools`. -/
def streamTools (state : TurnState) : TurnProgram ω TurnState := do
  let before := state.toolResults.length
  yieldEvent (.toolStart state.route)
  let state ← visit c .callTools state
  tellAll ((state.toolResults.drop before).map fun result => .yielded (toolEnd result))
  return state

/-- The loop of `stream`. -/
def streamLoop : ℕ → TurnState → TurnProgram ω TurnState
  | 0, _ => raise outOfFuel
  | fuel + 1, state => do
      let state ← retrievalRound c state
      let nextNode := afterGrade state
      if nextNode = "rewrite_query" then streamLoop fuel state
      else if nextNode = "call_tools" then streamTools c state
      else return state

/-- The turn is persisted, and `done` is yielded. -/
def finishStream (state : TurnState) : TurnProgram ω Unit := do
  let turn ← persist c state
  yieldEvent (.done turn)

/-- The sources of a turn are yielded. -/
def yieldSources (state : TurnState) : TurnProgram ω Unit :=
  if state.sources.isEmpty then pure () else yieldEvent (.sources state.sources)

/-- The token stream and what follows it. -/
def streamPieces (state : TurnState) : TurnProgram ω Unit := do
  let (pieces, ending) ← perform fun w =>
    let (answer, w) := c.stream (buildGenerationMessages c state) (answerSources state)
      state.question w
    (.ok answer, w)
  let chunks := pieces.filter (· ≠ "")
  tellAll (chunks.map fun piece => .yielded (.token piece))
  match ending with
  | some _ =>
      yieldEvent (.error "GENERATION_FAILED" "Could not generate a reply")
      finishStream c { state with answer := String.join chunks }
  | none => finishStream c { state with answer := String.join chunks }

/-- The answer to a turn: its sources, and the token stream of what is handed over. -/
def streamAnswer (state : TurnState) : TurnProgram ω Unit := do
  yieldSources state
  tell (handOver c state)
  streamPieces c state

/-- What `stream` runs on a branch. -/
def streamBranch (fuel : ℕ) (label : String) (state : TurnState) : TurnProgram ω TurnState :=
  if label = "rewrite_query" then streamLoop c fuel state
  else if label = "call_tools" then streamTools c state
  else pure state

/-- `ChatAgent.stream`. -/
def stream (fuel : ℕ) (input : TurnInput) : TurnProgram ω Unit := do
  let state ← visit c .loadMemory (initialState input)
  let state ← visit c .guard state
  if state.guarded then
    yieldEvent (.token state.answer)
    finishStream c state
  else
    let state ← visit c .classify state
    let label ← branch c state
    let state ← streamBranch c fuel label state
    streamAnswer c state

/-! ### What a node reports -/

/-- What a node may report. -/
structure Reports (n : Node) (state : TurnState) (patch : Patch) : Prop where
  question : patch.question = none
  threadId : patch.threadId = none
  iteration : patch.iteration = if n = .retrieve then some (state.iteration + 1) else none
  guarded : n ≠ .guard → patch.guarded = none
  confirmed : patch.confirmed =
    if n = .loadMemory then some (isConfirmation c.unicode state.question) else none
  toolResults : n ≠ .callTools → patch.toolResults = none
  sources : n ≠ .retrieve → n ≠ .callTools → patch.sources = none

/-- **What each node reports.** -/
theorem ends_nodeFunction (n : Node) (state : TurnState) :
    (nodeFunction c n state).Ends (Reports c n state) := by
  cases n with
  | loadMemory =>
    refine ends_bind fun memory => ends_bind fun profile => ends_pure ?_
    constructor <;> simp
  | guard =>
    unfold nodeFunction guard
    dsimp only
    split_ifs <;> exact ends_pure (by constructor <;> simp)
  | classify =>
    unfold nodeFunction route
    dsimp only
    split
    · refine ends_bind fun selected => ?_
      cases selected <;> exact ends_pure (by constructor <;> simp)
    · exact ends_pure (by constructor <;> simp)
  | rewriteQuery =>
    refine ends_bind fun rewritten => ends_bind fun filters => ends_pure ?_
    constructor <;> simp
  | retrieve =>
    refine ends_bind fun result => ends_pure ?_
    constructor <;> simp
  | gradeContext =>
    unfold nodeFunction gradeContext
    dsimp only
    split_ifs
    · exact ends_pure (by constructor <;> simp)
    · refine ends_bind fun graded => ?_
      cases graded with
      | error raised => exact ends_pure (by constructor <;> simp)
      | ok graded => exact ends_bind fun _ => ends_pure (by constructor <;> simp)
    · exact ends_pure (by constructor <;> simp)
  | callTools =>
    refine ends_bind fun filters => ?_
    split
    · exact ends_pure (by constructor <;> simp)
    · refine ends_bind fun requests => ends_bind fun ⟨results, sources⟩ => ends_pure ?_
      constructor <;> simp
  | generate =>
    unfold nodeFunction generate
    dsimp only
    split
    · exact ends_pure (by constructor <;> simp)
    · refine ends_bind fun _ => ends_bind fun result => ?_
      cases result <;> exact ends_pure (by constructor <;> simp)

/-- The part of a node that is marked returns what the node reports. -/
theorem ends_marked {α : Type} {P : α → Prop} {n : Node} {p : TurnProgram ω α} (h : p.Ends P) :
    (marked n p).Ends P := by
  refine ends_bind_of_ends (ends_attempt h) fun result hresult => ?_
  cases result with
  | ok a => exact ends_pure (hresult a rfl)
  | error raised => exact ends_bind fun _ => ends_raise raised

/-- What a node leaves of a state. -/
structure Visits (n : Node) (state state' : TurnState) : Prop where
  question : state'.question = state.question
  threadId : state'.threadId = state.threadId
  iteration : state'.iteration = state.iteration + if n = .retrieve then 1 else 0
  guarded : n ≠ .guard → state'.guarded = state.guarded
  confirmed : state'.confirmed =
    if n = .loadMemory then isConfirmation c.unicode state.question else state.confirmed
  toolResults : n ≠ .callTools → state'.toolResults = state.toolResults
  sources : n ≠ .retrieve → n ≠ .callTools → state'.sources = state.sources

/-- **What a visit to a node leaves of the state.** -/
theorem ends_visit (n : Node) (state : TurnState) :
    (visit c n state).Ends (Visits c n state) := by
  have hreports : (runNode c n state).Ends (Reports c n state) :=
    ends_bind fun _ => ends_marked (ends_nodeFunction c n state)
  refine ends_bind_of_ends hreports fun patch h => ends_pure ?_
  constructor
  · show patch.question.getD _ = _
    rw [h.question, Option.getD_none]
  · show patch.threadId.getD _ = _
    rw [h.threadId, Option.getD_none]
  · show patch.iteration.getD _ = _
    rw [h.iteration]
    split <;> rfl
  · intro hn
    show patch.guarded.getD _ = _
    rw [h.guarded hn, Option.getD_none]
  · show patch.confirmed.getD _ = _
    rw [h.confirmed]
    split <;> rfl
  · intro hn
    show patch.toolResults.getD _ = _
    rw [h.toolResults hn, Option.getD_none]
  · intro hretrieve hcall
    show patch.sources.getD _ = _
    rw [h.sources hretrieve hcall, Option.getD_none]

/-! ### The entries of a visit -/

section Charges

variable {c} {charge : Entry → Bool} {m : ℕ} (hraised : ∀ n, charge (.raised n) = false)

include hraised in
theorem charges_marked {α : Type} {n : Node} {p : TurnProgram ω α} (hp : Charges charge m p) :
    Charges charge m (marked n p) := by
  refine charges_bind_pure (charges_attempt hp) fun result => ?_
  cases result with
  | ok a => exact charges_pure a
  | error raised =>
    refine charges_bind_free ((charges_tell _).mono ?_) fun _ => charges_raise raised
    rw [hraised]
    exact le_refl 0

include hraised in
/-- A visit makes its own entry, and those of the node. -/
theorem charges_visit {n : Node} {state : TurnState}
    (hnode : Charges charge m (nodeFunction c n state)) :
    Charges charge ((if charge (.node n) then 1 else 0) + m) (visit c n state) :=
  charges_bind_pure (charges_bind (charges_tell _) fun _ => charges_marked hraised hnode)
    fun _ => charges_pure _

include hraised in
theorem charges_branch (state : TurnState) : Charges charge 0 (branch c state) :=
  charges_marked hraised (charges_ofExcept _)

/-- Only `call_tools` sends requests, and only `generate` hands over. -/
theorem charges_nodeFunction {n : Node}
    (hrequest : n = .callTools → ∀ request, charge (.request request) = false)
    (hhanded : n = .generate → ∀ messages sources question,
      charge (.handed messages sources question) = false)
    (state : TurnState) : Charges charge 0 (nodeFunction c n state) := by
  cases n with
  | loadMemory => exact charges_loadMemory state
  | guard => exact charges_guard state
  | classify => exact charges_route state
  | rewriteQuery => exact charges_rewriteQuery state
  | retrieve => exact charges_retrieve state
  | gradeContext => exact charges_gradeContext state
  | callTools =>
    exact charges_callTools (n := 0) (fun request _ => hrequest rfl request) fun _ args =>
      charges_send (hrequest rfl _)
  | generate => exact charges_generate (hhanded rfl) state

end Charges

end Agent

/-- Services that answer nothing. -/
def silentServices : Services Unit where
  searchListingsArgs _ := .error "detail"
  propertyDetailsArgs _ := .error "detail"
  mortgageArgs _ := .error "detail"
  createLeadArgs _ := .error "detail"
  escalateArgs _ := .error "detail"
  webSearchArgs _ := .error "detail"
  frontendUrl := ""
  generationModel := ""
  openaiEnabled := false
  http _ w := (.error ⟨"ConnectError", ""⟩, w)
  elapsed _ := 0
  renderListings _ _ _ := .error ⟨"KeyError", ""⟩
  renderProperty _ := .error ⟨"KeyError", ""⟩
  renderMortgage _ _ := .error ⟨"KeyError", ""⟩
  renderWeb _ _ := .error ⟨"KeyError", ""⟩
  describe := id

/-- Collaborators of a new thread: no provider, and nothing to be found. -/
def idle : Collaborators Unit where
  unicode := .ascii
  catalogue := []
  python := {
    loads := fun _ => .error .decode
    str := fun _ => ""
    isAlpha := Char.isAlpha
    isFloat := fun _ => false }
  prompts := ⟨"", "", "", "", "", "", ""⟩
  services := silentServices
  profileText _ := ""
  logsInfo := true
  loadMemory _ w := (.ok {}, w)
  available := false
  generate _ _ w := (.error ⟨"ProviderError", ""⟩, w)
  stream _ _ _ w := (([], none), w)
  search _ w := (.ok ⟨[], [], true⟩, w)
  addMessage _ w := (.ok none, w)
  recordToolCalls _ _ w := (.ok (), w)
  getThread _ w := (.ok none, w)
  touchThread _ _ w := (.ok (), w)
  persistProfile _ _ w := (.ok (), w)
  shouldSummarise _ := false
  refreshSummary _ _ _ w := (.ok (), w)
  latency _ := 0

end Agent
end Rag
end TopChoice
