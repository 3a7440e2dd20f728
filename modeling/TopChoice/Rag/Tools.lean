/-
# The tools of the assistant

`apps/rag-svc/app/tools/`: a tool validates its arguments, runs, and contains what goes
wrong (`Tool.invoke` of `base.py`); the six tools and the requests they send
(`platform_tools.py`, `web_search.py`); the registry and the tools of a route
(`registry.py`).  The validation of arguments, the answers of the services and the
rendering of an answer are parameters (`Services`).

A request to create a lead is sent by one tool, in a confirmed turn, once in a run of it
(`charges_invokeTool`).
-/

import TopChoice.Rag.TurnState

namespace TopChoice
namespace Rag
namespace Agent

open Effects Program

/-- `ToolContext`. -/
structure ToolContext where
  threadId : Option String
  userId : Option String
  userName : Option String
  userEmail : Option String
  locale : String
  accessToken : Option String
  requestId : Option String
  confirmed : Bool

/-- `SearchListingsArgs`. -/
structure SearchListingsArgs where
  query : Option String := none
  propertyType : Option String := none
  minPrice : Option ℕ := none
  maxPrice : Option ℕ := none
  bedrooms : Option ℕ := none
  areaName : Option String := none
  compoundName : Option String := none
  limit : ℕ := 5

/-- `MortgageArgs`. -/
structure MortgageArgs where
  price : ℕ
  downPaymentPercent : ℚ := 10
  years : ℕ := 8
  annualRatePercent : ℚ := 0

/-- `CreateLeadArgs`. -/
structure CreateLeadArgs where
  name : String
  phone : String
  email : Option String := none
  propertyId : Option String := none
  message : Option String := none

/-- `EscalateArgs`. -/
structure EscalateArgs where
  reason : String
  summary : Option String := none

/-- `WebSearchArgs`. -/
structure WebSearchArgs where
  query : String
  recency : Option String := none

/-- A response. -/
structure Response where
  status : ℕ
  /-- `response.json()`. -/
  body : Except Raised Json

/-- What the tools take from outside: the validation of arguments, the settings, the answers
to their requests, the clock, and how an answer is rendered. -/
structure Services (ω : Type) where
  /-- `model_validate`; otherwise the detail of the errors. -/
  searchListingsArgs : Json → Except String SearchListingsArgs
  propertyDetailsArgs : Json → Except String String
  mortgageArgs : Json → Except String MortgageArgs
  createLeadArgs : Json → Except String CreateLeadArgs
  escalateArgs : Json → Except String EscalateArgs
  webSearchArgs : Json → Except String WebSearchArgs
  frontendUrl : String
  generationModel : String
  /-- `openai_enabled`. -/
  openaiEnabled : Bool
  http : HttpRequest → Action ω Response
  /-- The time since the tool was started. -/
  elapsed : ω → ℕ
  renderListings : (listings : List Json) → (limit : ℕ) → (relaxedNote : String) →
    Except Raised ToolResult
  renderProperty : Json → Except Raised ToolResult
  renderMortgage : MortgageArgs → Json → Except Raised ToolResult
  renderWeb : WebSearchArgs → Json → Except Raised ToolResult
  /-- The line of a tool in the catalogue the planner is given. -/
  describe : String → String

section Tools

variable {ω : Type} (services : Services ω)

/-! ### Requests -/

/-- A request is sent, and answered. -/
def send (request : HttpRequest) : TurnProgram ω Response := do
  tell (.request request)
  perform (services.http request)

/-- What `raise_for_status` raises. -/
def httpStatusError (status : ℕ) : Raised := ⟨"HTTPStatusError", toString status⟩

/-- `_get_json` and `_post_json`. -/
def sendJson (request : HttpRequest) : TurnProgram ω Json := do
  let response ← send services request
  if 200 ≤ response.status ∧ response.status < 300 then ofExcept response.body
  else raise (httpStatusError response.status)

/-- `_unwrap`. -/
def unwrap (body : Json) : Json :=
  match body.get? "data", body.get? "success" with
  | some data, some _ => data
  | _, _ => body

/-! ### The tools -/

/-- `Tool`: what it runs with arguments that are valid. -/
structure Tool (ω : Type) where
  name : String
  /-- In seconds. -/
  timeout : ℕ
  run : Json → Except String (ToolContext → TurnProgram ω ToolResult)

/-- A result that took its time. -/
def timed (result : ToolResult) : TurnProgram ω ToolResult :=
  perform fun w => (.ok { result with latency := services.elapsed w }, w)

/-- `Tool.invoke`: every failure becomes a result. -/
def Tool.invoke (tool : Tool ω) (rawArgs : Json) (context : ToolContext) :
    TurnProgram ω ToolResult :=
  let failed (error : String) : ToolResult := { name := tool.name, ok := false, error := error }
  match tool.run rawArgs.orEmpty with
  | .error detail => timed services (failed ("invalid arguments (" ++ detail ++ ")"))
  | .ok run => do
      match ← attempt (run context) with
      | .error raised =>
          if raised.code = "TimeoutError" then
            timed services (failed ("timed out after " ++ toString tool.timeout ++ "s"))
          else timed services (failed (firstChars raised.message 200))
      | .ok result => timed services result

/-- `PROPERTY_TYPES`. -/
def propertyTypes : List String :=
  ["apartment", "villa", "townhouse", "twinhouse", "duplex", "penthouse", "studio", "chalet",
    "office", "retail", "clinic"]

/-- `SearchListingsTool._params`. -/
def SearchListingsArgs.params (args : SearchListingsArgs) : List (String × Json) :=
  let parts := [args.query, args.areaName, args.compoundName].filterMap id
  let text := strip (" ".intercalate (parts.filter (· ≠ "")))
  let number (key : String) (value : Option ℕ) : List (String × Json) :=
    value.toList.map fun n => (key, .int n)
  [("limit", .int args.limit), ("page", .int 1)] ++
    (if text = "" then [] else [("q", .text text)]) ++
    ((args.propertyType.filter (· ∈ propertyTypes)).toList.map fun t => ("propertyType", .text t)) ++
    number "minPrice" args.minPrice ++ number "maxPrice" args.maxPrice ++
    number "bedrooms" args.bedrooms

/-- `SearchListingsTool._search`. -/
def searchOnce (params : List (String × Json)) : TurnProgram ω (List Json) := do
  let body ← sendJson services ⟨.searchSvc, .get, "/api/search", .object params, []⟩
  match (unwrap body).orEmpty with
  | .dict entries =>
      match (Json.dict entries).get? "results" with
      | some (.list results) => return results
      | _ => return []
  | _ => raise ⟨"AttributeError", "get"⟩

/-- The constraints a search is widened by, one at a time, and how the result is labelled. -/
def widenings : List (String × String) :=
  [("maxPrice", "above your budget"), ("bedrooms", "with a different number of bedrooms"),
    ("propertyType", "of another property type")]

/-- The first widened search that finds something, and its note. -/
def searchWidened (params : List (String × Json)) :
    List (String × String) → TurnProgram ω (List Json × String)
  | [] => return ([], "")
  | (dropped, label) :: rest =>
      if params.all fun param => param.1 ≠ dropped then searchWidened params rest
      else do
        let results ← searchOnce services (params.filter fun param => param.1 ≠ dropped)
        if results.isEmpty then searchWidened params rest
        else return (results,
          "Nothing matched exactly. The closest available units are " ++ label ++ ": ")

/-- The result of a search. -/
def renderFound (limit : ℕ) (found : List Json × String) : TurnProgram ω ToolResult := do
  if found.1.isEmpty then
    return {
      name := "search_listings"
      ok := true
      summary := "No listings matched those criteria, and widening the search did not " ++
        "surface anything either. A TopChoice consultant can check upcoming releases."
      output := .object [("results", .list []), ("count", .int 0)] }
  else
    let result ← ofExcept (services.renderListings found.1 limit found.2)
    return { result with name := "search_listings", ok := true }

/-- `SearchListingsTool.run`. -/
def searchListings (args : SearchListingsArgs) (_ : ToolContext) : TurnProgram ω ToolResult := do
  let results ← searchOnce services args.params
  if results.isEmpty then
    let found ← searchWidened services args.params widenings
    renderFound services args.limit found
  else renderFound services args.limit (results, "")

/-- `GetPropertyDetailsTool.run`. -/
def getPropertyDetails (idOrSlug : String) (_ : ToolContext) : TurnProgram ω ToolResult := do
  let body ← sendJson services
    ⟨.apiCore, .get, "/api/v1/properties/" ++ idOrSlug, .null, []⟩
  let listing := unwrap body
  if listing.isTruthy then
    let result ← ofExcept (services.renderProperty listing)
    return { result with name := "get_property_details", ok := true }
  else
    return {
      name := "get_property_details"
      ok := false
      error := "listing '" ++ idOrSlug ++ "' not found" }

/-- `CalculateMortgageTool.run`. -/
def calculateMortgage (args : MortgageArgs) (_ : ToolContext) : TurnProgram ω ToolResult := do
  let body ← sendJson services ⟨.reportsSvc, .post, "/api/reports/mortgage/calculate",
    .object [("price", .int args.price),
      ("downPaymentPercent", .float (some args.downPaymentPercent)), ("years", .int args.years),
      ("annualRatePercent", .float (some args.annualRatePercent))], []⟩
  let result ← ofExcept (services.renderMortgage args (unwrap body).orEmpty)
  return { result with name := "calculate_mortgage", ok := true }

/-- The request of `CreateLeadTool`. -/
def leadRequest (args : CreateLeadArgs) (context : ToolContext) : HttpRequest where
  service := .apiCore
  method := .post
  path := "/api/v1/leads"
  payload := .object [("name", .text args.name), ("phone", .text args.phone),
    ("email", .ofOption args.email), ("propertyId", .ofOption args.propertyId),
    ("message", .text ((args.message.filter (· ≠ "")).getD
      "Requested via the TopChoice assistant.")),
    ("source", .text "chatbot")]
  headers := ("content-type", "application/json") ::
    ((context.accessToken.filter (· ≠ "")).toList.map fun token =>
      ("authorization", "Bearer " ++ token))

/-- `CreateLeadTool.run`. -/
def createLead (args : CreateLeadArgs) (context : ToolContext) : TurnProgram ω ToolResult :=
  if context.confirmed then do
    let body ← sendJson services (leadRequest args context)
    return {
      name := "create_lead"
      ok := true
      summary := "Callback request recorded for " ++ args.name ++ " on " ++ args.phone ++
        ". A TopChoice consultant will be in touch."
      output := (unwrap body).orEmpty }
  else
    return {
      name := "create_lead"
      ok := false
      error := "not confirmed — ask the user to confirm their name and phone " ++
        "number before booking" }

/-- `EscalateToHumanTool.run`: nothing is sent. -/
def escalateToHuman (args : EscalateArgs) (_ : ToolContext) : TurnProgram ω ToolResult :=
  let contactUrl := services.frontendUrl ++ "/contact"
  return {
    name := "escalate_to_human"
    ok := true
    summary := "Handoff recorded (" ++ args.reason ++ "). Tell the user a TopChoice consultant " ++
      "will follow up, and that they can also reach the team at " ++ contactUrl ++
      ". Offer to take their name and phone number for a callback."
    output := .object [("escalated", .bool true), ("reason", .text args.reason),
      ("contactUrl", .text contactUrl)] }

/-- `WebSearchTool.run`. -/
def webSearch (args : WebSearchArgs) (_ : ToolContext) : TurnProgram ω ToolResult := do
  if services.openaiEnabled then
    let recency := match args.recency.filter (· ≠ "") with
      | some recency => " (prioritise results from the last " ++ recency ++ ")"
      | none => ""
    let kind : Json := .object [("type", .text "web_search")]
    let response ← send services ⟨.openai, .post, "/responses",
      .object [("model", .text services.generationModel), ("tools", .list [kind]),
        ("tool_choice", kind),
        ("input", .text ("Search the web and answer concisely, with sources: " ++ args.query ++
          recency))], []⟩
    if 400 ≤ response.status then
      return {
        name := "web_search"
        ok := false
        error := "web search unavailable (HTTP " ++ toString response.status ++ ")" }
    else
      let result ← ofExcept (response.body.bind (services.renderWeb args))
      return { result with name := "web_search", ok := true }
  else
    return {
      name := "web_search"
      ok := false
      error := "web access is not configured on this deployment — tell the user " ++
        "you cannot look up live external information right now" }

/-! ### The registry -/

/-- `build_tool_registry`. -/
def tools : List (Tool ω) := [
  ⟨"search_listings", 10, fun raw => (services.searchListingsArgs raw).map (searchListings services)⟩,
  ⟨"get_property_details", 8,
    fun raw => (services.propertyDetailsArgs raw).map (getPropertyDetails services)⟩,
  ⟨"calculate_mortgage", 8, fun raw => (services.mortgageArgs raw).map (calculateMortgage services)⟩,
  ⟨"create_lead", 8, fun raw => (services.createLeadArgs raw).map (createLead services)⟩,
  ⟨"escalate_to_human", 5, fun raw => (services.escalateArgs raw).map (escalateToHuman services)⟩,
  ⟨"web_search", 25, fun raw => (services.webSearchArgs raw).map (webSearch services)⟩]

/-- `ToolRegistry.invoke`: an unknown tool is a result too. -/
def invokeTool (name : String) (arguments : Json) (context : ToolContext) :
    TurnProgram ω ToolResult :=
  match (tools services).find? fun tool => tool.name = name with
  | some tool => tool.invoke services arguments context
  | none =>
      let known := ((tools services).map Tool.name).mergeSort
      return {
        name := name
        ok := false
        error := "unknown tool '" ++ name ++ "' — available: " ++ ", ".intercalate known }

/-! ### The requests of a tool -/

section Charges

variable {services} {charge : Entry → Bool} {n : ℕ}

theorem charges_send {request : HttpRequest} (h : charge (.request request) = false) :
    Charges charge 0 (send services request) := by
  refine charges_bind_pure ((charges_tell _).mono ?_) fun _ => charges_perform _
  rw [h]
  exact le_refl 0

theorem charges_sendJson {request : HttpRequest} (h : Charges charge n (send services request)) :
    Charges charge n (sendJson services request) := by
  refine charges_bind_pure h fun response => ?_
  split
  · exact charges_ofExcept _
  · exact charges_raise _

theorem charges_searchOnce (h : ∀ request, request.isCreateLead = false →
    charge (.request request) = false) (params : List (String × Json)) :
    Charges charge 0 (searchOnce services params) := by
  refine charges_bind_free (charges_sendJson (charges_send (h _ (by rfl)))) fun body => ?_
  split
  · split <;> exact charges_pure _
  · exact charges_raise _

theorem charges_searchWidened (h : ∀ request, request.isCreateLead = false →
    charge (.request request) = false) (params : List (String × Json))
    (widenings : List (String × String)) :
    Charges charge 0 (searchWidened services params widenings) := by
  induction widenings with
  | nil => exact charges_pure _
  | cons widening rest ih =>
    obtain ⟨dropped, label⟩ := widening
    rw [searchWidened]
    split
    · exact ih
    · refine charges_bind_free (charges_searchOnce h _) fun results => ?_
      split
      · exact ih
      · exact charges_pure _

theorem charges_searchListings (h : ∀ request, request.isCreateLead = false →
    charge (.request request) = false) (args : SearchListingsArgs) (context : ToolContext) :
    Charges charge 0 (searchListings services args context) := by
  have hrender (found : List Json × String) : Charges charge 0
      (renderFound services args.limit found) := by
    unfold renderFound
    split
    · exact charges_pure _
    · exact charges_bind_free (charges_ofExcept _) fun _ => charges_pure _
  refine charges_bind_free (charges_searchOnce h _) fun results => ?_
  split
  · exact charges_bind_free (charges_searchWidened h _ _) hrender
  · exact hrender _

theorem charges_getPropertyDetails (h : ∀ request, request.isCreateLead = false →
    charge (.request request) = false) (idOrSlug : String) (context : ToolContext) :
    Charges charge 0 (getPropertyDetails services idOrSlug context) := by
  refine charges_bind_free (charges_sendJson (charges_send (h _ ?_))) fun body => ?_
  · rfl
  · dsimp only
    split
    · exact charges_bind_free (charges_ofExcept _) fun _ => charges_pure _
    · exact charges_pure _

theorem charges_calculateMortgage (h : ∀ request, request.isCreateLead = false →
    charge (.request request) = false) (args : MortgageArgs) (context : ToolContext) :
    Charges charge 0 (calculateMortgage services args context) :=
  charges_bind_free (charges_sendJson (charges_send (h _ (by rfl)))) fun _ =>
    charges_bind_free (charges_ofExcept _) fun _ => charges_pure _

/-- A lead is requested in a confirmed turn only. -/
theorem charges_createLead {args : CreateLeadArgs} {context : ToolContext}
    (hlead : context.confirmed = true →
      Charges charge n (send services (leadRequest args context))) :
    Charges charge n (createLead services args context) := by
  unfold createLead
  split
  · exact charges_bind_pure (charges_sendJson (hlead ‹_›)) fun _ => charges_pure _
  · exact (charges_pure _).mono (Nat.zero_le n)

theorem charges_webSearch (h : ∀ request, request.isCreateLead = false →
    charge (.request request) = false) (args : WebSearchArgs) (context : ToolContext) :
    Charges charge 0 (webSearch services args context) := by
  unfold webSearch
  split
  · refine charges_bind_free (charges_send (h _ (by rfl))) fun response => ?_
    split
    · exact charges_pure _
    · exact charges_bind_free (charges_ofExcept _) fun _ => charges_pure _
  · exact charges_pure _

theorem charges_timed (result : ToolResult) : Charges charge 0 (timed services result) :=
  charges_perform _

/-- An invocation sends what the run of valid arguments sends. -/
theorem charges_invoke {tool : Tool ω} {context : ToolContext}
    (h : ∀ raw run, tool.run raw = .ok run → Charges charge n (run context)) (rawArgs : Json) :
    Charges charge n (tool.invoke services rawArgs context) := by
  unfold Tool.invoke
  dsimp only
  split
  · exact (charges_timed _).mono (Nat.zero_le n)
  · refine charges_bind_pure (charges_attempt (h _ _ ‹_›)) fun result => ?_
    split
    · split <;> exact charges_timed _
    · exact charges_timed _

/-- **The requests of a tool.**  Apart from requests that create a lead, made by one tool in
a confirmed turn, no request of a tool is charged. -/
theorem charges_invokeTool (h : ∀ request, request.isCreateLead = false →
    charge (.request request) = false) {context : ToolContext}
    (hlead : context.confirmed = true → ∀ args : CreateLeadArgs,
      Charges charge n (send services (leadRequest args context)))
    (name : String) (arguments : Json) :
    Charges charge n (invokeTool services name arguments context) := by
  unfold invokeTool
  split
  next tool hfind =>
    refine charges_invoke (fun raw run hrun => ?_) _
    have hmap {α : Type} {x : Except String α} {f : α → ToolContext → TurnProgram ω ToolResult}
        (hx : x.map f = .ok run) : ∃ a, run = f a := by
      cases x with
      | error detail => exact absurd hx nofun
      | ok a => exact ⟨a, (Except.ok.inj hx).symm⟩
    have hmem := List.mem_of_find?_eq_some hfind
    simp only [tools, List.mem_cons, List.not_mem_nil, or_false] at hmem
    obtain rfl | rfl | rfl | rfl | rfl | rfl := hmem
    · obtain ⟨args, rfl⟩ := hmap hrun
      exact (charges_searchListings h args context).mono (Nat.zero_le n)
    · obtain ⟨args, rfl⟩ := hmap hrun
      exact (charges_getPropertyDetails h args context).mono (Nat.zero_le n)
    · obtain ⟨args, rfl⟩ := hmap hrun
      exact (charges_calculateMortgage h args context).mono (Nat.zero_le n)
    · obtain ⟨args, rfl⟩ := hmap hrun
      exact charges_createLead fun hconfirmed => hlead hconfirmed args
    · obtain ⟨args, rfl⟩ := hmap hrun
      exact (charges_pure _).mono (Nat.zero_le n)
    · obtain ⟨args, rfl⟩ := hmap hrun
      exact (charges_webSearch h args context).mono (Nat.zero_le n)
  · exact (charges_pure _).mono (Nat.zero_le n)

end Charges

end Tools

end Agent
end Rag
end TopChoice
