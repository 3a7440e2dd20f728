/-
# The nodes of the assistant

`apps/rag-svc/app/graph/nodes.py`: each node reads the state of the turn, calls its
collaborators and reports what it changes.  The collaborators are parameters; the tools are
those of `TopChoice.Rag.Tools`.

A node raises where something outside its `try` does: the reader of amounts in a text, the
selection of the planned calls, and the line that logs a verdict.  Without a provider the
tools called are those of `TopChoice.Rag.BuyerProfile` (`planned_offline`).
-/

import TopChoice.Rag.Tools

namespace TopChoice
namespace Rag
namespace Agent

open Effects Program

/-- What the memory of a thread holds. -/
structure Memory where
  messages : List ChatMessage := []
  summary : Option String := none
  profile : Dict := ∅
  messageCount : ℕ := 0

/-- The options of a generation request. -/
structure GenerateOptions where
  maxTokens : Option ℕ := none
  sources : List Passage := []
  question : String := ""

/-- `GenerationResult`. -/
structure Generated where
  text : String
  usage : Usage := ⟨0, 0, 0⟩
  degraded : Bool := false

/-- `RetrievalResult`. -/
structure Retrieved where
  chunks : List Passage
  /-- `as_sources`. -/
  sources : List Json
  degraded : Bool

/-- The collaborators of a turn. -/
structure Collaborators (ω : Type) where
  unicode : Unicode
  catalogue : List Area
  python : Python
  prompts : Prompts
  services : Services ω
  /-- The entries of a profile, as the prompt lists them. -/
  profileText : Dict → String
  /-- Lines of the level `info` are logged. -/
  logsInfo : Bool
  loadMemory : Option String → Action ω Memory
  /-- `generation.available`. -/
  available : Bool
  generate : List Message → GenerateOptions → Action ω Generated
  /-- The pieces of a generation stream, and what it ends with when it raises. -/
  stream : List Message → List Passage → String → ω → (List String × Option Raised) × ω
  /-- `retriever.search(query, rerank=True)`. -/
  search : String → Action ω Retrieved
  /-- `add_message`: the id. -/
  addMessage : StoredMessage → Action ω (Option String)
  recordToolCalls : Option String → List ToolRecord → Action ω Unit
  /-- The title of the thread. -/
  getThread : String → Action ω (Option String)
  touchThread : String → Option String → Action ω Unit
  persistProfile : String → Dict → Action ω Unit
  shouldSummarise : ℕ → Bool
  refreshSummary : String → List Message → Option String → Action ω Unit
  /-- The time since the turn was started. -/
  latency : ω → ℕ

section Nodes

variable {ω : Type} (c : Collaborators ω)

/-- A text in a line of the log: what cannot be encoded is not written. -/
def logInfo (text : PyStr) : Except Raised Unit :=
  if c.logsInfo ∧ ¬text.isEncodable then
    .error ⟨"JSONEncodeError", "str is not valid UTF-8: surrogates not allowed"⟩
  else .ok ()

/-! ### Memory and guard -/

/-- `MAX_QUESTION_CHARS`. -/
def maxQuestionChars : ℕ := 4000

/-- `CONFIRMATION_PATTERNS`. -/
def confirmationPatterns : List String :=
  ["yes", "yes please", "go ahead", "please do", "book it", "confirm", "that's right", "correct",
    "sure", "ok", "okay", "نعم", "أيوة", "ايوه", "تمام", "موافق", "احجز", "أكيد"]

/-- `_is_confirmation`. -/
def isConfirmation (u : Unicode) (text : String) : Bool :=
  let marks := " .!؟?".toList
  let normalised := ((normalised u text).toList.dropWhile (· ∈ marks)).rdropWhile (· ∈ marks)
  confirmationPatterns.any (fun pattern => decide (normalised = pattern.toList)) ||
    ["yes ", "yes,", "نعم", "أيوة", "ايوه"].any fun start => start.toList.isPrefixOf normalised

/-- `load_memory`. -/
def loadMemory (state : TurnState) : TurnProgram ω Patch := do
  let memory ← perform (c.loadMemory state.threadId)
  let profile ← ofExcept (updateProfile c.unicode c.catalogue memory.profile state.question)
  return {
    messages := memory.messages
    summary := some memory.summary
    profile := profile
    locale := if state.locale = "" then detectLocale c.python state.question else state.locale
    confirmed := isConfirmation c.unicode state.question }

/-- `guard`. -/
def guard (state : TurnState) : TurnProgram ω Patch :=
  let question := strip state.question
  if question = "" then
    return {
      guarded := true
      answer := guardReply state.locale
      error := some "EMPTY_MESSAGE" }
  else if maxQuestionChars < question.length then
    return {
      guarded := true
      answer :=
        if state.locale ≠ "ar" then
          "That message is too long for me to read reliably — could you ask it " ++
            "in a sentence or two?"
        else "الرسالة طويلة جدًا — من فضلك اسأل في جملة أو اثنتين."
      error := some "MESSAGE_TOO_LONG" }
  else if looksLikeInjection c.unicode question then
    return { guarded := true, answer := guardReply state.locale }
  else if looksOutOfScope c.unicode question then
    return { guarded := true, answer := guardReply state.locale }
  else return { guarded := false }

/-! ### Routing and rewriting -/

/-- The request to the router. -/
def routerMessages (state : TurnState) : List Message :=
  let history := formatHistory state.messages 4
  [⟨.system, c.prompts.router⟩,
    ⟨.user, "Conversation so far:\n" ++
      (if history = "" then "(new conversation)" else history) ++ "\n\nLatest message:\n" ++
      state.question⟩]

/-- The text the router selects; it raises where the confidence is no number. -/
def selectedRoute (reply : String) : Except Raised PyStr := do
  let parsed ← extractJson c.python reply
  let selected := (c.python.text (parsed.get "route" (.text ""))).strip
  let confidence := parsed.get "confidence" (.float (some (1 / 2)))
  if ¬confidence.isTruthy ∨ c.python.floats confidence then return selected
  else .error ⟨"ValueError", "confidence"⟩

/-- `route`. -/
def route (state : TurnState) : TurnProgram ω Patch := do
  if c.available then
    let selected ← attempt do
      let result ← perform (c.generate (routerMessages c state) { maxTokens := some 60 })
      ofExcept (selectedRoute c result.text)
    match selected with
    | .error _ => return { route := keywordRoute c.unicode state.question }
    | .ok selected =>
        return { route := (Route.ofText selected).getD (keywordRoute c.unicode state.question) }
  else return { route := keywordRoute c.unicode state.question }

/-- The request to the rewriter. -/
def rewriterMessages (state : TurnState) : List Message :=
  [⟨.system, c.prompts.rewrite⟩,
    ⟨.user, "Conversation so far:\n" ++ formatHistory state.messages 6 ++
      "\n\nLatest message:\n" ++ state.question⟩]

/-- The query made of the reply of the rewriter: the question where the reply is empty, or
too long to be a query. -/
def rewritten (question reply : String) : String :=
  let candidate := String.ofList
    (((strip reply).toList.dropWhile (· = '"')).rdropWhile (· = '"'))
  if candidate ≠ "" ∧ candidate.length ≤ max 240 (question.length * 6) then candidate
  else question

/-- The query of the turn. -/
def rewriteQuestion (state : TurnState) : TurnProgram ω String :=
  if state.messages ≠ [] ∧ c.available then do
    match ← attempt (perform (c.generate (rewriterMessages c state) { maxTokens := some 120 })) with
    | .ok result => return rewritten state.question result.text
    | .error _ => return state.question
  else return state.question

/-- `rewrite_query`. -/
def rewriteQuery (state : TurnState) : TurnProgram ω Patch := do
  let rewritten ← rewriteQuestion c state
  let filters ← ofExcept (parseQueryFilters c.unicode c.catalogue rewritten)
  return { rewrittenQuery := rewritten, filters := filters.asDict }

/-! ### Retrieval and grading -/

/-- `retrieve`. -/
def retrieve (state : TurnState) : TurnProgram ω Patch := do
  let result ← perform (c.search state.query)
  return {
    retrieved := result.chunks
    sources := result.sources
    degraded := result.degraded
    iteration := some (state.iteration + 1) }

/-- The request to the judge. -/
def graderMessages (state : TurnState) : List Message :=
  let context := formatContextBlock
    (state.retrieved.map fun item => { title := item.title, content := firstChars item.content 800 })
  [⟨.system, c.prompts.grade⟩,
    ⟨.user, "QUESTION:\n" ++ state.query ++ "\n\n" ++ context⟩]

/-- The verdict of the judge, and its reason. -/
def verdict (reply : String) : Except Raised (Bool × PyStr) := do
  let parsed ← extractJson c.python reply
  return ((parsed.get "sufficient" (.bool true)).isTruthy,
    (c.python.text (parsed.get "reason" (.text ""))).take 120)

/-- `grade_context`. -/
def gradeContext (state : TurnState) : TurnProgram ω Patch := do
  if state.retrieved = [] then
    return {
      contextSufficient := false
      gradeReason := PyStr.ofString "nothing retrieved"
      needsWeb := true }
  else if c.available then
    let graded ← attempt do
      let result ← perform (c.generate (graderMessages c state) { maxTokens := some 80 })
      ofExcept (verdict c result.text)
    match graded with
    | .error _ =>
        return { contextSufficient := true, gradeReason := PyStr.ofString "grading errored" }
    | .ok (sufficient, reason) =>
        ofExcept (logInfo c reason)
        return {
          contextSufficient := sufficient
          gradeReason := reason
          needsWeb := decide (sufficient = false ∧ maxIterations ≤ state.iteration) }
  else return { contextSufficient := true, gradeReason := PyStr.ofString "grading unavailable" }

/-! ### Tool calls -/

/-- A call of a tool. -/
structure Call where
  name : String
  arguments : Json

/-- The request to the planner. -/
def plannerMessages (state : TurnState) : List Message :=
  let instruction :=
    "Decide which tools to call to answer the user. Respond with a JSON object " ++
    "\x7b\"calls\": [\x7b\"name\": \"<tool>\", \"arguments\": \x7b…\x7d\x7d]\x7d and nothing else. " ++
    "Return an empty list if no tool is needed. Never invent contact details."
  let catalogue := "\n".intercalate ((routeTools state.route).map c.services.describe)
  [⟨.system, instruction ++ "\n\nTools:\n" ++ catalogue⟩,
    ⟨.user, "Conversation:\n" ++ formatHistory state.messages 4 ++ "\n\nLatest message:\n" ++
      state.query⟩]

/-- What an element of the plan calls: an object with the name of an allowed tool. -/
def plannedCall (allowed : List String) (call : Json) : Except Raised (Option Call) :=
  if call.isDict then
    let name := call.get "name" .null
    if name.isHashable then
      match name with
      | .str text => .ok ((allowed.find? fun tool => text = .ofString tool).map fun tool =>
          ⟨tool, call.get "arguments" (.dict [])⟩)
      | _ => .ok none
    else .error ⟨"TypeError", "unhashable type"⟩
  else .ok none

/-- The calls of the elements of the plan. -/
def plannedCalls (allowed : List String) : List Json → Except Raised (List Call)
  | [] => .ok []
  | call :: rest => do
      let selected ← plannedCall allowed call
      let others ← plannedCalls allowed rest
      return selected.toList ++ others

/-- The calls of a plan, at most three. -/
def selectCalls (allowed : List String) (calls : Json) : Except Raised (List Call) :=
  match calls.items? with
  | none => .error ⟨"TypeError", "object is not iterable"⟩
  | some items => (plannedCalls allowed items).map (List.take 3)

/-- The calls made where the planner plans none. -/
def defaultCalls (state : TurnState) : Except Raised (List Call) :=
  (defaultToolCalls c.unicode state.toGraphState state.query).map fun requests =>
    requests.map fun request => ⟨request.name, request.arguments.toJson⟩

/-- `_plan_tool_calls`. -/
def planToolCalls (state : TurnState) : TurnProgram ω (List Call) := do
  if c.available then
    let parsed ← attempt do
      let result ← perform (c.generate (plannerMessages c state) { maxTokens := some 300 })
      ofExcept (extractJson c.python result.text)
    match parsed with
    | .error _ => ofExcept (defaultCalls c state)
    | .ok parsed =>
        let planned ← ofExcept (selectCalls (routeTools state.route) (parsed.get "calls" (.list [])))
        if planned.isEmpty then ofExcept (defaultCalls c state) else return planned
  else ofExcept (defaultCalls c state)

/-- The calls, one after the other; their records and citation cards are added to those
there are. -/
def runCalls (context : ToolContext) :
    List Call → List ToolRecord × List Json → TurnProgram ω (List ToolRecord × List Json)
  | [], done => return done
  | call :: rest, (results, sources) => do
      let result ← invokeTool c.services call.name call.arguments context
      runCalls context rest (results ++ [result.toToolRecord], sources ++ result.sources)

/-- What the tools are told of the turn. -/
def TurnState.toolContext (state : TurnState) : ToolContext where
  threadId := state.threadId
  userId := state.userId
  userName := state.userName
  userEmail := state.userEmail
  locale := state.locale
  accessToken := state.accessToken
  requestId := state.requestId
  confirmed := state.confirmed

/-- `call_tools`. -/
def callTools (state : TurnState) : TurnProgram ω Patch := do
  let filters ← ofExcept (state.turnFilters c.unicode c.catalogue)
  if routeTools state.route = [] then return { toolResults := state.toolResults }
  else
    let requests ← planToolCalls c { state with filters := filters }
    let (results, sources) ←
      runCalls c state.toolContext requests (state.toolResults, state.sources)
    let used := (requests.map Call.name).filter (· ≠ "")
    return {
      toolResults := results
      sources := sources
      filters := filters
      profile := state.profile.insert "lastTools" (.texts used) }

/-! ### Generation -/

/-- `answer_sources`. -/
def answerSources (state : TurnState) : List Passage :=
  ((state.retrieved.filter fun item => item.content ≠ "").map fun item =>
    { title := item.title, content := item.content }) ++
  (state.toolResults.filter fun result => result.ok && decide (result.summary ≠ "")).map fun result =>
    { title := result.name, content := result.summary }

/-- `format_tool_block`. -/
def formatToolBlock (results : List ToolRecord) : String :=
  if results.isEmpty then ""
  else "\n".intercalate ("TOOL RESULTS:" :: results.map fun result =>
    match result.error.filter (· ≠ "") with
    | some error => "- " ++ result.name ++ ": failed (" ++ error ++ ") — do not rely on it."
    | none => "- " ++ result.name ++ ": " ++
        (if result.summary = "" then c.python.str result.output else result.summary))

/-- `as_prompt_messages`. -/
def asPromptMessages (state : TurnState) : List Message :=
  ((state.summary.filter (· ≠ "")).toList.map fun summary =>
    ⟨.system, "Summary of the conversation so far:\n" ++ summary⟩) ++
  (if state.profile.entries = [] then []
    else [⟨.system, "What this buyer has told us previously: " ++ c.profileText state.profile ++
      ". Use it to personalise, but never state it as fact about a listing."⟩]) ++
  (state.messages.filter fun message =>
    (message.role = .user ∨ message.role = .assistant) ∧ message.content ≠ "").map fun message =>
      ⟨message.role, message.content⟩

/-- `build_generation_messages`. -/
def buildGenerationMessages (state : TurnState) : List Message :=
  let hasContext := !state.sources.isEmpty || !state.toolResults.isEmpty
  let system :=
    if state.route = .smalltalk then
      buildSystemPrompt c.prompts state.locale true false ++ "\n\n" ++ c.prompts.smalltalk
    else buildSystemPrompt c.prompts state.locale hasContext true
  let blocks := (if state.retrieved = [] then [] else [formatContextBlock state.retrieved]) ++
    (if state.toolResults.isEmpty then [] else [formatToolBlock c state.toolResults])
  let userContent :=
    if blocks = [] then state.question
    else "\n\n".intercalate blocks ++ "\n\nQUESTION: " ++ state.question
  ⟨.system, system⟩ :: asPromptMessages c state ++ [⟨.user, userContent⟩]

/-- What is handed to generation. -/
def handOver (state : TurnState) : Entry :=
  .handed (buildGenerationMessages c state) (answerSources state) state.question

/-- `generate`. -/
def generate (state : TurnState) : TurnProgram ω Patch := do
  if state.guarded then return { answer := state.answer }
  else
    tell (handOver c state)
    let result ← attempt (perform (c.generate (buildGenerationMessages c state)
      { sources := answerSources state, question := state.question }))
    match result with
    | .error _ =>
        return {
          answer :=
            if state.locale ≠ "ar" then
              "Sorry — I could not put together an answer just then. Please try again."
            else "عذرًا، لم أتمكن من تكوين إجابة الآن. من فضلك حاول مرة أخرى."
          error := some "GENERATION_FAILED" }
    | .ok result =>
        return {
          answer := result.text
          degraded := state.degraded || result.degraded
          usage := some result.usage }

/-! ### The calls of a turn -/

/-- The calls a route may make: at most three, of its tools. -/
structure Allowed (route : Route) (calls : List Call) : Prop where
  length : calls.length ≤ 3
  name : ∀ call ∈ calls, call.name ∈ routeTools route

theorem name_plannedCall {allowed : List String} {item : Json} {call : Call}
    (h : plannedCall allowed item = .ok (some call)) : call.name ∈ allowed := by
  unfold plannedCall at h
  split at h
  · dsimp only at h
    split at h
    · split at h
      · obtain ⟨tool, hfind, rfl⟩ := Option.map_eq_some_iff.1 (Except.ok.inj h)
        exact List.mem_of_find?_eq_some hfind
      · exact absurd (Except.ok.inj h) nofun
    · exact absurd h nofun
  · exact absurd (Except.ok.inj h) nofun

theorem name_plannedCalls {allowed : List String} {items : List Json} {calls : List Call}
    (h : plannedCalls allowed items = .ok calls) : ∀ call ∈ calls, call.name ∈ allowed := by
  induction items generalizing calls with
  | nil =>
    obtain rfl := Except.ok.inj h
    exact fun _ hcall => absurd hcall List.not_mem_nil
  | cons item rest ih =>
    obtain ⟨selected, hselected, h⟩ := Fallible.bind_eq_ok.1 h
    obtain ⟨others, hothers, h⟩ := Fallible.bind_eq_ok.1 h
    obtain rfl := Except.ok.inj h
    intro call hcall
    rcases List.mem_append.1 hcall with hhere | hthere
    · obtain rfl := Option.mem_toList.1 hhere
      exact name_plannedCall hselected
    · exact ih hothers call hthere

/-- **A plan calls at most three tools, of those allowed.** -/
theorem allowed_selectCalls {route : Route} {plan : Json} {calls : List Call}
    (h : selectCalls (routeTools route) plan = .ok calls) : Allowed route calls := by
  unfold selectCalls at h
  split at h
  · exact absurd h nofun
  next items _ =>
    cases hplanned : plannedCalls (routeTools route) items with
    | error raised =>
      rw [hplanned] at h
      exact absurd h nofun
    | ok planned =>
      rw [hplanned] at h
      obtain rfl := Except.ok.inj h
      exact ⟨List.length_take_le 3 planned, fun call hcall =>
        name_plannedCalls hplanned call (List.mem_of_mem_take hcall)⟩

/-- The calls made without a plan are at most one, of a tool of the route. -/
theorem allowed_defaultCalls {state : TurnState} {calls : List Call}
    (h : defaultCalls c state = .ok calls) : Allowed state.route calls := by
  have hone {name : String} {arguments : Json} (hname : name ∈ routeTools state.route) :
      Allowed state.route [⟨name, arguments⟩] :=
    ⟨Nat.le_of_ble_eq_true rfl, fun call hcall => List.mem_singleton.1 hcall ▸ hname⟩
  have hnone : Allowed state.route [] := ⟨Nat.zero_le 3, nofun⟩
  unfold defaultCalls defaultToolCalls at h
  cases hroute : state.route with
  | smalltalk =>
    rw [hroute] at h
    obtain rfl := Except.ok.inj h
    exact hroute ▸ hnone
  | knowledge =>
    rw [hroute] at h
    dsimp only at h
    cases harguments :
        mortgageArguments c.unicode state.query state.filters state.profile with
    | error raised => exact absurd (harguments ▸ h) nofun
    | ok found =>
      rw [harguments] at h
      cases found with
      | none =>
        obtain rfl := Except.ok.inj h
        exact hroute ▸ hnone
      | some arguments =>
        obtain rfl := Except.ok.inj h
        split
        · exact hroute ▸ hnone
        · exact hroute ▸ hone (hroute ▸ List.mem_of_elem_eq_true rfl)
  | listingSearch =>
    rw [hroute] at h
    obtain rfl := Except.ok.inj h
    exact hroute ▸ hone (hroute ▸ List.mem_of_elem_eq_true rfl)
  | web =>
    rw [hroute] at h
    obtain rfl := Except.ok.inj h
    exact hroute ▸ hone (hroute ▸ List.mem_of_elem_eq_true rfl)
  | handoff =>
    rw [hroute] at h
    obtain rfl := Except.ok.inj h
    exact hroute ▸ hone (hroute ▸ List.mem_of_elem_eq_true rfl)

/-- **Whatever the planner replies, the calls are allowed.** -/
theorem ends_planToolCalls (state : TurnState) :
    (planToolCalls c state).Ends (Allowed state.route) := by
  have hdefault : (ofExcept (defaultCalls c state) : TurnProgram ω _).Ends (Allowed state.route) :=
    ends_ofExcept fun _ h => allowed_defaultCalls c h
  unfold planToolCalls
  split
  · refine ends_bind fun parsed => ?_
    cases parsed with
    | error raised => exact hdefault
    | ok parsed =>
      refine ends_bind_of_ends (ends_ofExcept fun _ h => allowed_selectCalls h) fun planned h => ?_
      split
      · exact hdefault
      · exact ends_pure h
  · exact hdefault

/-- **Without a provider** the calls are those planned for the profile of the buyer. -/
theorem planned_offline (planner : Planner) (hplanner : planner.available = false)
    (hoffline : c.available = false) (state : TurnState) :
    planToolCalls c state =
      Program.ofExcept ((Rag.planToolCalls c.unicode planner state.toGraphState state.query).map
        fun requests => requests.map fun request =>
          (⟨request.name, request.arguments.toJson⟩ : Call)) := by
  rw [planToolCalls, if_neg (by rw [hoffline]; exact Bool.false_ne_true), Rag.planToolCalls,
    if_neg (by rw [hplanner]; exact Bool.false_ne_true), defaultCalls]

/-! ### The entries of a node -/

section Charges

variable {c} {charge : Entry → Bool} {n : ℕ}

theorem charges_planToolCalls (state : TurnState) : Charges charge 0 (planToolCalls c state) := by
  unfold planToolCalls
  split
  · refine charges_bind_free (charges_attempt (charges_bind_free (charges_perform _) fun _ =>
      charges_ofExcept _)) fun parsed => ?_
    cases parsed with
    | error raised => exact charges_ofExcept _
    | ok parsed =>
      refine charges_bind_free (charges_ofExcept _) fun planned => ?_
      split
      · exact charges_ofExcept _
      · exact charges_pure _
  · exact charges_ofExcept _

variable (h : ∀ request, request.isCreateLead = false → charge (.request request) = false)

include h in
theorem charges_runCalls {context : ToolContext}
    (hlead : context.confirmed = true → ∀ args : CreateLeadArgs,
      Charges charge n (send c.services (leadRequest args context)))
    (calls : List Call) (done : List ToolRecord × List Json) :
    Charges charge (n * calls.length) (runCalls c context calls done) := by
  induction calls generalizing done with
  | nil => exact charges_pure _
  | cons call rest ih =>
    obtain ⟨results, sources⟩ := done
    refine (charges_bind (charges_invokeTool h hlead _ _) fun result => ih _).mono ?_
    rw [List.length_cons, Nat.mul_succ, Nat.add_comm]

include h in
/-- The calls of a turn are three at most. -/
theorem charges_callTools {state : TurnState}
    (hlead : state.confirmed = true → ∀ args : CreateLeadArgs,
      Charges charge n (send c.services (leadRequest args state.toolContext))) :
    Charges charge (n * 3) (callTools c state) := by
  refine charges_bind_free (charges_ofExcept _) fun filters => ?_
  split
  · exact (charges_pure _).mono (Nat.zero_le _)
  · refine charges_bind_free_of_ends (charges_planToolCalls _) (ends_planToolCalls c _) ?_
    intro requests hallowed
    have hruns : Charges charge (n * requests.length)
        (runCalls c state.toolContext requests (state.toolResults, state.sources)) :=
      charges_runCalls h hlead _ _
    refine Charges.mono ?_ (Nat.mul_le_mul_left n hallowed.length)
    exact charges_bind_pure hruns fun done => charges_pure _

theorem charges_loadMemory (state : TurnState) : Charges charge 0 (loadMemory c state) :=
  charges_bind_free (charges_perform _) fun _ =>
    charges_bind_free (charges_ofExcept _) fun _ => charges_pure _

theorem charges_guard (state : TurnState) : Charges charge 0 (guard c state) := by
  unfold guard
  dsimp only
  split_ifs <;> exact charges_pure _

theorem charges_route (state : TurnState) : Charges charge 0 (route c state) := by
  unfold route
  split
  · refine charges_bind_free (charges_attempt (charges_bind_free (charges_perform _) fun _ =>
      charges_ofExcept _)) fun selected => ?_
    cases selected <;> exact charges_pure _
  · exact charges_pure _

theorem charges_rewriteQuery (state : TurnState) : Charges charge 0 (rewriteQuery c state) := by
  refine charges_bind_free ?_ fun _ => charges_bind_free (charges_ofExcept _) fun _ => charges_pure _
  unfold rewriteQuestion
  split
  · refine charges_bind_free (charges_attempt (charges_perform _)) fun result => ?_
    cases result <;> exact charges_pure _
  · exact charges_pure _

theorem charges_retrieve (state : TurnState) : Charges charge 0 (retrieve c state) :=
  charges_bind_free (charges_perform _) fun _ => charges_pure _

theorem charges_gradeContext (state : TurnState) : Charges charge 0 (gradeContext c state) := by
  unfold gradeContext
  split_ifs
  · exact charges_pure _
  · refine charges_bind_free (charges_attempt (charges_bind_free (charges_perform _) fun _ =>
      charges_ofExcept _)) fun graded => ?_
    cases graded with
    | error raised => exact charges_pure _
    | ok graded => exact charges_bind_free (charges_ofExcept _) fun _ => charges_pure _
  · exact charges_pure _

theorem charges_generate (hhanded : ∀ messages sources question,
    charge (.handed messages sources question) = false) (state : TurnState) :
    Charges charge 0 (generate c state) := by
  unfold generate
  split
  · exact charges_pure _
  · refine charges_bind_free ((charges_tell _).mono ?_) fun _ =>
      charges_bind_free (charges_attempt (charges_perform _)) fun result => ?_
    · rw [handOver, hhanded]
      exact le_refl 0
    · cases result <;> exact charges_pure _

end Charges

end Nodes

end Agent
end Rag
end TopChoice
