/-
# The buyer profile and the searches made from it

`update_profile` of `apps/rag-svc/app/memory/thread_memory.py`, and `load_memory`,
`call_tools` and `_default_tool_calls` of `app/graph/nodes.py`, without a generation
provider.  Each message overwrites in the profile what it states; a search is made with
what the message states over what the profile carries, key by key.

A minimum and a maximum are two keys, so a search has the last minimum and the last
maximum that were stated, which need not be of one message (`lastStated`), and nothing
compares them.  The bounds of one message are in order, so a search contradicts itself
exactly when they come from two messages and do not agree
(`profile_consistent_iff`).
-/

import TopChoice.Lib.Fallible
import TopChoice.Rag.Filters
import TopChoice.Search.QueryBuilder

namespace TopChoice
namespace Rag

open Backtrack (Pattern)

/-! ### The profile -/

/-- The keys `update_profile` folds in. -/
def profileKeys : List String :=
  ["minPrice", "maxPrice", "bedrooms", "propertyType", "area", "compound"]

section Questions

variable (u : Unicode) (catalogue : List Area)

/-- `update_profile`. -/
def updateProfile (profile : Dict) (question : String) : Except Raised Dict := do
  let parsed ← parseQueryFilters u catalogue question
  let updated := Dictionary.setEach parsed.asDict.stated profileKeys profile
  match ← u.parseStatedAmount question with
  | some stated => return if stated = 0 then updated else updated.insert "statedPrice" (.int stated)
  | none => return updated

/-! ### Tool calls -/

/-- The routes. -/
inductive Route where
  | smalltalk
  | knowledge
  | listingSearch
  | web
  | handoff
  deriving DecidableEq, Repr

/-- `ROUTE_TOOLS`; all of them are registered. -/
def routeTools : Route → List String
  | .smalltalk => []
  | .knowledge => ["search_listings", "get_property_details", "calculate_mortgage"]
  | .listingSearch =>
      ["search_listings", "get_property_details", "calculate_mortgage", "create_lead"]
  | .web => ["web_search"]
  | .handoff => ["escalate_to_human", "create_lead"]

/-- The state of a turn, as far as the tool calls read it. -/
structure GraphState where
  question : String
  rewrittenQuery : String := ""
  route : Route := .knowledge
  filters : Dict := ∅
  profile : Dict := ∅

/-- `load_memory`, of the stored profile. -/
def GraphState.loadMemory (state : GraphState) (stored : Dict) : Except Raised GraphState := do
  let profile ← updateProfile u catalogue stored state.question
  return { state with profile := profile }

/-- `rewritten_query`, or the question. -/
def GraphState.query (state : GraphState) : String :=
  if state.rewrittenQuery = "" then state.question else state.rewrittenQuery

/-- A tool to call and its arguments. -/
structure ToolRequest where
  name : String
  arguments : Dict

/-- `_CARRIED_FILTER_KEYS`. -/
def carriedFilterKeys : List String :=
  ["minPrice", "maxPrice", "bedrooms", "propertyType", "area", "areaId", "compound"]

/-- The filters of this turn over what the buyer has already told. -/
def overlay (profile filters : Dict) : Dict :=
  if profile.entries = [] then filters
  else
    let carried := Dictionary.select (fun key value => key ∈ carriedFilterKeys && value.isStated)
      profile
    let thisTurn := Dictionary.select (fun _ value => value.isStated) filters
    thisTurn ∪ carried

/-- The filters of `call_tools`. -/
def GraphState.turnFilters (state : GraphState) : Except Raised Dict := do
  let filters ←
    if state.filters.entries = [] ∧ state.query ≠ "" then
      (parseQueryFilters u catalogue state.query).map QueryFilters.asDict
    else .ok state.filters
  return overlay state.profile filters

/-- `filters.get(key)`. -/
def Dict.getValue (d : Dict) (key : String) : Value := (d.lookup key).getD .null

/-- The truth of a value. -/
def Value.isTruthy (value : Value) : Bool := value.isStated && value ≠ .int 0

/-- A filter handed on as an argument, when it passes a test. -/
def handOn (filters : Dict) (test : Value → Bool) (key name : String) (arguments : Dict) : Dict :=
  let value := filters.getValue key
  if test value then arguments.insert name value else arguments

/-- The arguments of `search_listings`. -/
def listingArguments (filters : Dict) (question : String) : Dict :=
  let arguments : Dict := (AList.singleton "limit" (.int 5)
    |> handOn filters Value.isTruthy "minPrice" "minPrice"
    |> handOn filters Value.isTruthy "maxPrice" "maxPrice"
    |> handOn filters (· ≠ .null) "bedrooms" "bedrooms"
    |> handOn filters Value.isTruthy "propertyType" "propertyType"
    |> handOn filters Value.isTruthy "area" "areaName"
    |> handOn filters Value.isTruthy "compound" "compoundName")
  if arguments.entries.length = 1 then arguments.insert "query" (.text question) else arguments

/-- `\d{1,2}`, in a group, and a word for years. -/
def yearsRe : Pattern :=
  .all [.group "1" (.seq (.one u.isDecimal) (.opt (.one u.isDecimal))), blanks,
    .any [u.plural "year" "s", u.plural "yr" "s", u.word "سنة", u.word "سنوات"]]

/-- `_TERM_ONLY_RE`. -/
def termOnlyRe : Pattern :=
  .all [.opt (u.oneOf ["and", "what about", "و", "ماذا عن"]), blanks,
    .opt (u.oneOf ["over", "for", "على", "لمدة"]), blanks, yearsRe u, blanks,
    .opt (u.word "?")]

/-- `_MORTGAGE_TERMS`. -/
def mortgageTerms : List String :=
  ["monthly", "per month", "instal", "mortgage", "repay", "afford", "down payment", "payment plan",
    "شهري", "قسط", "تقسيط", "مقدم"]

/-- The number of a price, when it is not zero. -/
def Value.price : Value → Option ℕ
  | .int n => if n = 0 then none else some n
  | _ => none

/-- `_mortgage_arguments`. -/
def mortgageArguments (question : String) (filters profile : Dict) :
    Except Raised (Option Dict) := do
  let normalised := " ".intercalate (words (u.lower question))
  let followedOn : Bool := match profile.getValue "lastTools" with
    | .texts tools => decide ("calculate_mortgage" ∈ tools)
    | _ => false
  if (mortgageTerms.all fun term => !decide (term.toList <:+: normalised.toList)) ∧
      ¬(followedOn ∧ ((termOnlyRe u).fullMatch normalised.toList).isSome) then
    return none
  let stated ← u.parseStatedAmount normalised
  let price := (((stated.bind fun n => (Value.int n).price).or
    (filters.getValue "maxPrice").price).or (filters.getValue "minPrice").price).or
    (profile.getValue "statedPrice").price
  match price with
  | none => return none
  | some price =>
      let arguments : Dict := AList.singleton "price" (.int price)
      match (yearsRe u).search normalised.toList with
      | none => return some arguments
      | some place =>
          match PyFloat.digitsValue u ((place.group "1").getD []) with
          | some term =>
              return some (if 1 ≤ term ∧ term ≤ 30 then arguments.insert "years" (.int term)
                else arguments)
          | none => return some arguments

/-- `_default_tool_calls`. -/
def defaultToolCalls (state : GraphState) (question : String) :
    Except Raised (List ToolRequest) :=
  match state.route with
  | .listingSearch => .ok [⟨"search_listings", listingArguments state.filters question⟩]
  | .knowledge => do
      match ← mortgageArguments u question state.filters state.profile with
      | some arguments =>
          return if arguments.entries = [] then [] else [⟨"calculate_mortgage", arguments⟩]
      | none => return []
  | .web => .ok [⟨"web_search", AList.singleton "query" (.text question)⟩]
  | .handoff =>
      .ok [⟨"escalate_to_human", (AList.singleton "reason" (.text "user requested a human")).insert
        "summary" (.text (firstChars question 500))⟩]
  | .smalltalk => .ok []

/-- The generation provider: whether it is available, and the calls it plans, of the tools
of the route and at most three; none when it fails. -/
structure Planner where
  available : Bool
  plan : GraphState → String → List ToolRequest

/-- `_plan_tool_calls`. -/
def planToolCalls (planner : Planner) (state : GraphState) (question : String) :
    Except Raised (List ToolRequest) :=
  if planner.available then
    match planner.plan state question with
    | [] => defaultToolCalls u state question
    | planned => .ok planned
  else defaultToolCalls u state question

/-- `call_tools`: the calls it makes, and the state after them. -/
def callTools (planner : Planner) (state : GraphState) :
    Except Raised (List ToolRequest × GraphState) := do
  let filters ← state.turnFilters u catalogue
  if routeTools state.route = [] then return ([], state)
  let requests ← planToolCalls u planner { state with filters := filters } state.query
  let used := (requests.map ToolRequest.name).filter (· ≠ "")
  return (requests, { state with
    filters := filters
    profile := state.profile.insert "lastTools" (.texts used) })

/-- A message routed to the listing search, after some messages of its thread. -/
def searchTurn (planner : Planner) (messages : List String) (question : String) :
    Except Raised (List ToolRequest) := do
  let stored ← messages.foldlM (updateProfile u catalogue) ∅
  let state ← GraphState.loadMemory u catalogue { question := question } stored
  let answer ← callTools u catalogue planner { state with route := .listingSearch }
  return answer.1

/-! ### What a question states -/

/-- The bounds a question states; none when it raises. -/
def statedBounds (question : String) : Option ℕ × Option ℕ :=
  match u.parsePriceRange question with
  | .ok bounds => bounds
  | .error _ => (none, none)

/-- The readers of a question do not raise. -/
def Readable (question : String) : Prop :=
  (∃ bounds, u.parsePriceRange question = .ok bounds) ∧
    ∃ stated, u.parseStatedAmount question = .ok stated

/-- The last number the messages state. -/
def lastStated (f : String → Option ℕ) (messages : List String) : Option ℕ :=
  messages.foldl (fun last message => (f message).or last) none

/-- The number of message `i` stands: no later message states another. -/
def Stands (f : String → Option ℕ) (messages : List String) (i n : ℕ) : Prop :=
  messages[i]?.bind f = some n ∧ ∀ j, i < j → messages[j]?.bind f = none

/-- Where two different messages state the standing minimum and the standing maximum, the
two agree; or some message has a number too large to be read. -/
def BoundsAgree (messages : List String) : Prop :=
  (∀ message ∈ messages, Readable u message) →
    ∀ i j low high, i ≠ j → Stands (fun message => (statedBounds u message).1) messages i low →
      Stands (fun message => (statedBounds u message).2) messages j high → low ≤ high

/-- A minimum price above the maximum price. -/
def Contradicts (arguments : Dict) : Prop :=
  ∃ low high, arguments.lookup "minPrice" = some (.int low) ∧
    arguments.lookup "maxPrice" = some (.int high) ∧ high < low

/-! ### The last number stated -/

section Last

variable (f : String → Option ℕ) (messages : List String)

theorem lastStated_concat (message : String) :
    lastStated f (messages ++ [message]) = (f message).or (lastStated f messages) := by
  rw [lastStated, List.foldl_append, List.foldl_cons, List.foldl_nil]
  rfl

/-- One more message states a number of its own, or leaves the one that stands. -/
theorem stands_concat (message : String) (i n : ℕ) :
    Stands f (messages ++ [message]) i n ↔
      (i = messages.length ∧ f message = some n) ∨ (f message = none ∧ Stands f messages i n) := by
  have hlast : (messages ++ [message])[messages.length]?.bind f = f message := by
    rw [List.getElem?_concat_length, Option.bind_some]
  have hbefore (j : ℕ) (hj : j < messages.length) :
      (messages ++ [message])[j]?.bind f = messages[j]?.bind f := by
    rw [List.getElem?_append_left hj]
  have hbeyond (j : ℕ) (hj : messages.length ≤ j) : messages[j]?.bind f = none := by
    rw [List.getElem?_eq_none hj, Option.bind_none]
  constructor
  · rintro ⟨hi, hlater⟩
    rcases lt_trichotomy i messages.length with hlt | rfl | hgt
    · refine .inr ⟨hlast ▸ hlater messages.length hlt, hbefore i hlt ▸ hi, fun j hj => ?_⟩
      rcases lt_or_ge j messages.length with hin | hout
      · exact hbefore j hin ▸ hlater j hj
      · exact hbeyond j hout
    · exact .inl ⟨rfl, hlast ▸ hi⟩
    · rw [List.getElem?_eq_none (by rw [List.length_append, List.length_singleton]; omega)] at hi
      exact absurd hi nofun
  · rintro (⟨rfl, hn⟩ | ⟨hnone, hi, hlater⟩)
    · refine ⟨hlast.trans hn, fun j hj => ?_⟩
      rw [List.getElem?_eq_none (by rw [List.length_append, List.length_singleton]; omega)]
      rfl
    · have hlt : i < messages.length := by
        by_contra hout
        rw [hbeyond i (by omega)] at hi
        exact absurd hi nofun
      refine ⟨(hbefore i hlt).trans hi, fun j hj => ?_⟩
      rcases lt_trichotomy j messages.length with hin | rfl | hout
      · exact (hbefore j hin).trans (hlater j hj)
      · exact hlast.trans hnone
      · rw [List.getElem?_eq_none (by rw [List.length_append, List.length_singleton]; omega)]
        rfl

/-- **The last number stated is the one that stands.** -/
theorem lastStated_eq_some_iff (n : ℕ) :
    lastStated f messages = some n ↔ ∃ i, Stands f messages i n := by
  induction messages using List.reverseRecOn with
  | nil =>
    constructor
    · exact fun h => absurd h nofun
    · rintro ⟨i, hi, -⟩
      exact absurd hi nofun
  | append_singleton messages message ih =>
    have hstands : (∃ i, Stands f (messages ++ [message]) i n) ↔
        f message = some n ∨ (f message = none ∧ ∃ i, Stands f messages i n) := by
      simp only [stands_concat, exists_or, exists_eq_left, exists_and_left]
    rw [lastStated_concat, hstands, ← ih, Option.or_eq_some_iff]

end Last

/-! ### One message -/

/-- The bounds of a message are positive and in order. -/
theorem properBounds_statedBounds (question : String) : ProperBounds (statedBounds u question) := by
  unfold statedBounds
  split
  · exact u.properBounds_parsePriceRange ‹_›
  · exact ⟨nofun, nofun, nofun⟩

/-- The filters of a question have its bounds. -/
theorem bounds_parseQueryFilters {question : String} {filters : QueryFilters}
    (h : parseQueryFilters u catalogue question = .ok filters) :
    u.parsePriceRange question = .ok (filters.minPrice, filters.maxPrice) := by
  obtain ⟨bounds, hbounds, h⟩ := Fallible.bind_eq_ok.1 h
  obtain rfl := Except.ok.inj h
  exact hbounds

theorem exists_parseQueryFilters {question : String} (h : Readable u question) :
    ∃ filters, parseQueryFilters u catalogue question = .ok filters := by
  obtain ⟨⟨bounds, hbounds⟩, -⟩ := h
  rw [parseQueryFilters, hbounds]
  exact ⟨_, rfl⟩

/-- What is stated after some keys have been set. -/
theorem stated_setEach (parsed profile : Dict) {keys : List String} {key : String}
    (hkey : key ∈ keys) :
    Dict.stated (Dictionary.setEach parsed.stated keys profile) key =
      (parsed.stated key).or (Dict.stated profile key) := by
  rw [Dict.stated, Dictionary.lookup_setEach, if_pos hkey, Dict.stated, filter_or_stated]
  rfl

/-- The price the profile keeps for a mortgage is no filter. -/
theorem stated_insert_statedPrice (profile : Dict) (value : Value) {key : String}
    (hkey : key ∈ profileKeys) :
    Dict.stated (profile.insert "statedPrice" value) key = profile.stated key := by
  have hne : key ≠ "statedPrice" := by
    rintro rfl
    revert hkey
    decide
  rw [Dict.stated, AList.lookup_insert_ne hne]
  rfl

/-- **One message**: it is readable, and the profile states under a key what the message
states, or what it stated. -/
theorem stated_updateProfile {profile profile' : Dict} {question : String}
    (h : updateProfile u catalogue profile question = .ok profile') :
    Readable u question ∧ ∃ filters, parseQueryFilters u catalogue question = .ok filters ∧
      ∀ key ∈ profileKeys,
        profile'.stated key = (filters.asDict.stated key).or (profile.stated key) := by
  obtain ⟨filters, hfilters, h⟩ := Fallible.bind_eq_ok.1 h
  obtain ⟨stated, hstated, h⟩ := Fallible.bind_eq_ok.1 h
  have hreadable : Readable u question :=
    ⟨⟨_, bounds_parseQueryFilters u catalogue hfilters⟩, stated, hstated⟩
  refine ⟨hreadable, filters, hfilters, fun key hkey => ?_⟩
  have hset := stated_setEach filters.asDict profile hkey
  cases stated with
  | none =>
    obtain rfl := Except.ok.inj h
    exact hset
  | some stated =>
    have hprofile' := Except.ok.inj h
    subst hprofile'
    split
    · exact hset
    · rw [stated_insert_statedPrice _ _ hkey]
      exact hset

/-- A readable message updates every profile. -/
theorem exists_updateProfile {question : String} (h : Readable u question) (profile : Dict) :
    ∃ profile', updateProfile u catalogue profile question = .ok profile' := by
  obtain ⟨filters, hfilters⟩ := exists_parseQueryFilters u catalogue h
  obtain ⟨-, stated, hstated⟩ := h
  cases stated with
  | none =>
    exact ⟨_, Fallible.bind_eq_ok.2
      ⟨filters, hfilters, Fallible.bind_eq_ok.2 ⟨none, hstated, rfl⟩⟩⟩
  | some stated =>
    exact ⟨_, Fallible.bind_eq_ok.2
      ⟨filters, hfilters, Fallible.bind_eq_ok.2 ⟨some stated, hstated, rfl⟩⟩⟩

/-! ### The profile of a thread -/

/-- What the messages of a thread leave in its profile: they are readable, and the bounds
are the last ones stated. -/
structure ProfileOf (messages : List String) (profile : Dict) : Prop where
  readable : ∀ message ∈ messages, Readable u message
  minPrice : profile.stated "minPrice" =
    (lastStated (fun message => (statedBounds u message).1) messages).map .int
  maxPrice : profile.stated "maxPrice" =
    (lastStated (fun message => (statedBounds u message).2) messages).map .int

/-- A message leaves in the profile what it states. -/
theorem ProfileOf.concat {messages : List String} {profile profile' : Dict} {message : String}
    (hprofile : ProfileOf u messages profile)
    (h : updateProfile u catalogue profile message = .ok profile') :
    ProfileOf u (messages ++ [message]) profile' := by
  obtain ⟨hreadable, filters, hfilters, hstated⟩ := stated_updateProfile u catalogue h
  have hbounds : statedBounds u message = (filters.minPrice, filters.maxPrice) := by
    rw [statedBounds, bounds_parseQueryFilters u catalogue hfilters]
  have hor (first second : Option ℕ) :
      (first.map Value.int).or (second.map Value.int) = (first.or second).map .int := by
    cases first <;> rfl
  constructor
  · intro other hother
    rcases List.mem_append.1 hother with hother | hother
    · exact hprofile.readable other hother
    · rwa [List.mem_singleton.1 hother]
  · rw [hstated "minPrice" (by decide), stated_asDict_minPrice, hprofile.minPrice, hor,
      lastStated_concat, hbounds]
  · rw [hstated "maxPrice" (by decide), stated_asDict_maxPrice, hprofile.maxPrice, hor,
      lastStated_concat, hbounds]

/-- **A run**: the profile of a thread has the last minimum and the last maximum. -/
theorem profileOf_foldlM {messages : List String} {profile : Dict}
    (h : messages.foldlM (updateProfile u catalogue) ∅ = .ok profile) :
    ProfileOf u messages profile := by
  have hfirst : ProfileOf u [] ∅ := ⟨nofun, rfl, rfl⟩
  exact Fallible.foldlM_invariant hfirst
    (fun _ _ _ _ hprofile hstep => hprofile.concat u catalogue hstep) h

/-! ### The filters of a search -/

/-- What is stated over what is carried. -/
theorem stated_overlay (profile filters : Dict) {key : String} (hkey : key ∈ carriedFilterKeys) :
    (overlay profile filters).stated key = (filters.stated key).or (profile.stated key) := by
  unfold overlay
  split
  · have hempty : profile = ∅ := AList.ext ‹_›
    rw [hempty, Dict.stated_empty, Option.or_none]
  · have hcarried : (fun value : Value => decide (key ∈ carriedFilterKeys) && value.isStated) =
        Value.isStated := by
      funext value
      rw [decide_eq_true hkey, Bool.true_and]
    dsimp only
    rw [Dict.stated, Dictionary.lookup_union, Dictionary.lookup_select, Dictionary.lookup_select,
      hcarried, filter_or_stated, Option.filter_filter]
    simp only [Bool.and_self, Dict.stated]

/-- **The filters of a search** state what the profile states, which has the message
already. -/
theorem stated_turnFilters {stored profile filters : Dict} {question key : String}
    (hprofile : updateProfile u catalogue stored question = .ok profile)
    (hkey : key ∈ profileKeys) (hcarried : key ∈ carriedFilterKeys)
    (h : GraphState.turnFilters u catalogue
      { question := question, route := .listingSearch, profile := profile } = .ok filters) :
    filters.stated key = profile.stated key := by
  obtain ⟨-, parsed, hparsed, hstated⟩ := stated_updateProfile u catalogue hprofile
  unfold GraphState.turnFilters at h
  dsimp only at h
  split at h
  · obtain ⟨turn, hturn, h⟩ := Fallible.bind_eq_ok.1 h
    have hquery : GraphState.query
        { question := question, route := .listingSearch, profile := profile } = question :=
      if_pos rfl
    rw [hquery, hparsed] at hturn
    obtain rfl := Except.ok.inj hturn
    obtain rfl := Except.ok.inj h
    rw [stated_overlay _ _ hcarried, hstated key hkey, ← Option.or_assoc, Option.or_self]
  · obtain rfl := Except.ok.inj h
    rw [stated_overlay _ _ hcarried, Dict.stated_empty, Option.none_or]

/-! ### The arguments of a search -/

theorem lookup_handOn (filters : Dict) (test : Value → Bool) (key name : String)
    (arguments : Dict) :
    (handOn filters test key name arguments).lookup name =
      if test (filters.getValue key) then some (filters.getValue key)
      else arguments.lookup name := by
  unfold handOn
  dsimp only
  split
  · exact AList.lookup_insert arguments
  · rfl

theorem lookup_handOn_of_ne {name other : String} (h : other ≠ name) (filters : Dict)
    (test : Value → Bool) (key : String) (arguments : Dict) :
    (handOn filters test key name arguments).lookup other = arguments.lookup other := by
  unfold handOn
  dsimp only
  split
  · exact AList.lookup_insert_ne h
  · rfl

/-- A bound is handed on when it is truthy. -/
theorem lookup_listingArguments (filters : Dict) (question : String) {key : String}
    (hkey : key = "minPrice" ∨ key = "maxPrice") :
    (listingArguments filters question).lookup key =
      if (filters.getValue key).isTruthy then some (filters.getValue key) else none := by
  have hlimit : AList.lookup key
      (AList.singleton "limit" (.int 5) : Dict) = none := by
    rcases hkey with rfl | rfl <;> rfl
  have hquery (arguments : Dict) :
      (arguments.insert "query" (.text question)).lookup key = arguments.lookup key := by
    rcases hkey with rfl | rfl <;> exact AList.lookup_insert_ne (by decide)
  have hends (arguments : Dict) :
      (if arguments.entries.length = 1 then arguments.insert "query" (.text question)
        else arguments).lookup key = arguments.lookup key := by
    split
    · exact hquery arguments
    · rfl
  rw [listingArguments, hends]
  rcases hkey with rfl | rfl
  · simp (disch := decide) only [lookup_handOn_of_ne, lookup_handOn, hlimit]
  · simp (disch := decide) only [lookup_handOn_of_ne, lookup_handOn, hlimit]

/-- A positive bound that the filters state is an argument of the search. -/
theorem lookup_listingArguments_of_stated {filters : Dict} {key : String} {bound : Option ℕ}
    (hkey : key = "minPrice" ∨ key = "maxPrice") (hpos : ∀ n, bound = some n → 0 < n)
    (hstated : filters.stated key = bound.map .int) (question : String) :
    (listingArguments filters question).lookup key = bound.map .int := by
  rw [lookup_listingArguments filters question hkey]
  cases bound with
  | none =>
    have hnot : (filters.getValue key).isTruthy ≠ true := by
      intro htruthy
      have hvalue : (filters.getValue key).isStated = true := (Bool.and_eq_true_iff.1 htruthy).1
      rw [Dict.stated, Option.map_none, Option.filter_eq_none_iff] at hstated
      rw [Dict.getValue] at hvalue
      cases hlookup : filters.lookup key with
      | none =>
        rw [hlookup] at hvalue
        exact absurd hvalue (by decide)
      | some value =>
        rw [hlookup] at hvalue
        exact hstated value hlookup hvalue
    rw [if_neg hnot, Option.map_none]
  | some n =>
    have hlookup : filters.lookup key = some (.int n) :=
      (Option.filter_eq_some_iff.1 hstated).1
    have hvalue : filters.getValue key = .int n := by rw [Dict.getValue, hlookup, Option.getD_some]
    have htruthy : (Value.int n).isTruthy = true := by
      have hn : n ≠ 0 := (hpos n rfl).ne'
      simp [Value.isTruthy, Value.isStated, hn]
    rw [hvalue, if_pos htruthy, Option.map_some]

/-! ### Searches -/

/-- The bound that stands is positive. -/
theorem pos_of_lastStated {f : String → Option ℕ} (hf : ∀ message n, f message = some n → 0 < n)
    {messages : List String} {n : ℕ} (h : lastStated f messages = some n) : 0 < n := by
  obtain ⟨i, hi, -⟩ := (lastStated_eq_some_iff f messages n).1 h
  obtain ⟨message, -, hn⟩ := Option.bind_eq_some_iff.1 hi
  exact hf message n hn

/-- Without a provider the listing search makes one call. -/
theorem callTools_listingSearch {planner : Planner} (hoffline : planner.available = false)
    {state : GraphState} (hroute : state.route = .listingSearch) :
    (callTools u catalogue planner state).map Prod.fst =
      (state.turnFilters u catalogue).map fun filters =>
        [⟨"search_listings", listingArguments filters state.query⟩] := by
  have hplan (filters : Dict) :
      planToolCalls u planner { state with filters := filters } state.query =
        .ok [⟨"search_listings", listingArguments filters state.query⟩] := by
    rw [planToolCalls, hoffline, if_neg Bool.false_ne_true, defaultToolCalls, hroute]
  have htools : routeTools state.route ≠ [] := by
    rw [hroute]
    decide
  unfold callTools
  cases state.turnFilters u catalogue with
  | error raised => rfl
  | ok filters =>
    show Except.map Prod.fst (if routeTools state.route = [] then _ else _) = _
    rw [if_neg htools, hplan]
    rfl

/-- A search reads the messages, then its own, and then makes its call. -/
theorem searchTurn_eq {planner : Planner} (hoffline : planner.available = false)
    (messages : List String) (question : String) :
    searchTurn u catalogue planner messages question =
      messages.foldlM (updateProfile u catalogue) ∅ >>= fun stored =>
        updateProfile u catalogue stored question >>= fun profile =>
          (GraphState.turnFilters u catalogue
            { question := question, route := .listingSearch, profile := profile }).map
              fun filters => [⟨"search_listings", listingArguments filters question⟩] := by
  unfold searchTurn
  refine bind_congr fun stored => ?_
  have hload : GraphState.loadMemory u catalogue { question := question } stored =
      updateProfile u catalogue stored question >>= fun profile =>
        .ok { question := question, profile := profile } := rfl
  rw [hload]
  cases updateProfile u catalogue stored question with
  | error raised => rfl
  | ok profile =>
    have hfirst {answer : Except Raised (List ToolRequest × GraphState)} :
        (answer >>= fun answer => pure answer.1) = answer.map Prod.fst := by
      cases answer <;> rfl
    have hroute : GraphState.route
        { question := question, route := .listingSearch, profile := profile } = .listingSearch :=
      rfl
    have hquery : GraphState.query
        { question := question, route := .listingSearch, profile := profile } = question :=
      if_pos rfl
    have hcall := callTools_listingSearch u catalogue hoffline hroute
    rw [hquery] at hcall
    rw [← hfirst] at hcall
    exact hcall

/-- **A search** has the last minimum and the last maximum of the thread. -/
theorem searchTurn_eq_ok {planner : Planner} (hoffline : planner.available = false)
    {messages : List String} {question : String} {requests : List ToolRequest}
    (h : searchTurn u catalogue planner messages question = .ok requests) :
    (∀ message ∈ messages ++ [question], Readable u message) ∧
    ∃ arguments, requests = [⟨"search_listings", arguments⟩] ∧
      arguments.lookup "minPrice" = (lastStated (fun message => (statedBounds u message).1)
        (messages ++ [question])).map .int ∧
      arguments.lookup "maxPrice" = (lastStated (fun message => (statedBounds u message).2)
        (messages ++ [question])).map .int := by
  rw [searchTurn_eq u catalogue hoffline] at h
  obtain ⟨stored, hstored, h⟩ := Fallible.bind_eq_ok.1 h
  obtain ⟨profile, hprofile, h⟩ := Fallible.bind_eq_ok.1 h
  have hthread : ProfileOf u (messages ++ [question]) profile :=
    (profileOf_foldlM u catalogue hstored).concat u catalogue hprofile
  cases hfilters : GraphState.turnFilters u catalogue
      { question := question, route := .listingSearch, profile := profile } with
  | error raised =>
    rw [hfilters] at h
    exact absurd h nofun
  | ok filters =>
    rw [hfilters] at h
    obtain rfl := Except.ok.inj h
    refine ⟨hthread.readable, _, rfl, ?_, ?_⟩
    · refine lookup_listingArguments_of_stated (.inl rfl) (fun n hn => ?_) ?_ question
      · exact pos_of_lastStated
          (fun message n => (properBounds_statedBounds u message).minimum_pos n) hn
      · rw [← hthread.minPrice]
        exact stated_turnFilters u catalogue hprofile (by decide) (by decide) hfilters
    · refine lookup_listingArguments_of_stated (.inr rfl) (fun n hn => ?_) ?_ question
      · exact pos_of_lastStated
          (fun message n => (properBounds_statedBounds u message).maximum_pos n) hn
      · rw [← hthread.maxPrice]
        exact stated_turnFilters u catalogue hprofile (by decide) (by decide) hfilters

/-- A search is made when the messages are readable. -/
theorem exists_searchTurn {planner : Planner} (hoffline : planner.available = false)
    {messages : List String} {question : String}
    (h : ∀ message ∈ messages ++ [question], Readable u message) :
    ∃ requests, searchTurn u catalogue planner messages question = .ok requests := by
  have hquestion : Readable u question := h question (by simp)
  obtain ⟨stored, hstored⟩ := Fallible.exists_foldlM_eq_ok
    (fun message hmessage profile => exists_updateProfile u catalogue
      (h message (List.mem_append_left _ hmessage)) profile) (∅ : Dict)
  obtain ⟨profile, hprofile⟩ := exists_updateProfile u catalogue hquestion stored
  obtain ⟨parsed, hparsed⟩ := exists_parseQueryFilters u catalogue hquestion
  have hfilters : ∃ filters, GraphState.turnFilters u catalogue
      { question := question, route := .listingSearch, profile := profile } = .ok filters := by
    have hquery : GraphState.query
        { question := question, route := .listingSearch, profile := profile } = question :=
      if_pos rfl
    unfold GraphState.turnFilters
    dsimp only
    split
    · rw [hquery, hparsed]
      exact ⟨_, rfl⟩
    · exact ⟨_, rfl⟩
  obtain ⟨filters, hfilters⟩ := hfilters
  rw [searchTurn_eq u catalogue hoffline]
  refine ⟨[⟨"search_listings", listingArguments filters question⟩], Fallible.bind_eq_ok.2
    ⟨stored, hstored, Fallible.bind_eq_ok.2 ⟨profile, hprofile, ?_⟩⟩⟩
  rw [hfilters]
  rfl

/-- **A search never contradicts itself exactly when the standing bounds agree**: two
different messages that state the standing minimum and the standing maximum of the thread
state them in order.  The bounds of one message are in order already
(`properBounds_statedBounds`), and a bound that a later message states again counts no
more. -/
theorem profile_consistent_iff (planner : Planner) (hoffline : planner.available = false)
    (messages : List String) (question : String) :
    (∀ requests, searchTurn u catalogue planner messages question = .ok requests →
      ∀ request ∈ requests, request.name = "search_listings" → ¬ Contradicts request.arguments) ↔
      BoundsAgree u (messages ++ [question]) := by
  constructor
  · intro hconsistent hreadable i j low high _ hlow hhigh
    obtain ⟨requests, hsearch⟩ := exists_searchTurn u catalogue hoffline hreadable
    obtain ⟨-, arguments, rfl, hmin, hmax⟩ := searchTurn_eq_ok u catalogue hoffline hsearch
    rw [(lastStated_eq_some_iff _ _ low).2 ⟨i, hlow⟩] at hmin
    rw [(lastStated_eq_some_iff _ _ high).2 ⟨j, hhigh⟩] at hmax
    by_contra hlt
    exact hconsistent _ hsearch _ (List.mem_singleton_self _) rfl
      ⟨low, high, hmin, hmax, Nat.lt_of_not_le hlt⟩
  · rintro hagree requests hsearch request hrequest - ⟨low, high, hlow, hhigh, hlt⟩
    obtain ⟨hreadable, arguments, rfl, hmin, hmax⟩ := searchTurn_eq_ok u catalogue hoffline hsearch
    obtain rfl := List.mem_singleton.1 hrequest
    obtain ⟨n, hn, hvalue⟩ := Option.map_eq_some_iff.1 (hmin.symm.trans hlow)
    obtain rfl : n = low := Value.int.inj hvalue
    obtain ⟨m, hm, hvalue⟩ := Option.map_eq_some_iff.1 (hmax.symm.trans hhigh)
    obtain rfl : m = high := Value.int.inj hvalue
    obtain ⟨i, hi⟩ := (lastStated_eq_some_iff _ _ n).1 hn
    obtain ⟨j, hj⟩ := (lastStated_eq_some_iff _ _ m).1 hm
    have hle : n ≤ m := by
      by_cases hij : i = j
      · -- one message states both
        subst hij
        obtain ⟨message, hmessage, hmin⟩ := Option.bind_eq_some_iff.1 hi.1
        obtain ⟨message', hmessage', hmax⟩ := Option.bind_eq_some_iff.1 hj.1
        obtain rfl := Option.some.inj (hmessage.symm.trans hmessage')
        exact (properBounds_statedBounds u message).le n m hmin hmax
      · exact hagree hreadable i j n m hij hi hj
    omega

end Questions

/-- Arguments that contradict themselves are rejected by the search service. -/
theorem checkRanges_of_contradicts {arguments : Dict} {filters : Search.SearchFilters}
    (h : Contradicts arguments)
    (hmin : ∀ low : ℕ, arguments.lookup "minPrice" = some (.int low) → filters.minPrice = some ↑low)
    (hmax : ∀ high : ℕ, arguments.lookup "maxPrice" = some (.int high) →
      filters.maxPrice = some ↑high) :
    filters.checkRanges = .error "minPrice must be less than or equal to maxPrice" := by
  obtain ⟨low, high, hlow, hhigh, hlt⟩ := h
  have hcast : (high : ℚ) < low := Nat.cast_lt.2 hlt
  exact Search.SearchFilters.checkRanges_of_lt (hmin low hlow) (hmax high hhigh) hcast

/-- No generation provider. -/
def offlinePlanner : Planner := ⟨false, fun _ _ => []⟩

/-- The name of a call and the bounds among its arguments. -/
def ToolRequest.bounds (request : ToolRequest) : String × Option Value × Option Value :=
  (request.name, request.arguments.lookup "minPrice", request.arguments.lookup "maxPrice")

/-- A message that states a minimum and one that states a maximum: the search asks for both. -/
theorem bounds_searchTurn (u : Unicode) (catalogue : List Area) {first second : String}
    {low high : ℕ}
    (hlow : u.parsePriceRange first = .ok (some low, none))
    (hhigh : u.parsePriceRange second = .ok (none, some high))
    (hfirst : ∃ stated, u.parseStatedAmount first = .ok stated)
    (hsecond : ∃ stated, u.parseStatedAmount second = .ok stated) :
    (searchTurn u catalogue offlinePlanner [first] second).toOption.map
      (List.map ToolRequest.bounds) =
        some [("search_listings", some (.int low), some (.int high))] := by
  have hreadable : ∀ message ∈ [first] ++ [second], Readable u message := by
    simp only [List.cons_append, List.nil_append, List.forall_mem_cons]
    exact ⟨⟨⟨_, hlow⟩, hfirst⟩, ⟨⟨_, hhigh⟩, hsecond⟩, nofun⟩
  have hoffline : offlinePlanner.available = false := rfl
  obtain ⟨requests, hsearch⟩ := exists_searchTurn u catalogue hoffline hreadable
  obtain ⟨-, arguments, rfl, hmin, hmax⟩ := searchTurn_eq_ok u catalogue hoffline hsearch
  have hbounds : statedBounds u first = (some low, none) ∧
      statedBounds u second = (none, some high) := by
    simp only [statedBounds, hlow, hhigh, and_self]
  have hlast : lastStated (fun message => (statedBounds u message).1) ([first] ++ [second]) =
      some low ∧
      lastStated (fun message => (statedBounds u message).2) ([first] ++ [second]) =
        some high := by
    simp [lastStated, hbounds]
  rw [hlast.1] at hmin
  rw [hlast.2] at hmax
  simp [hsearch, ToolRequest.bounds, hmin, hmax, Except.toOption]

/-- The hypothesis of `profile_consistent_iff` is satisfiable: a minimum, and in the next
message a maximum above it. -/
theorem profile_consistent_iff_demo : BoundsAgree .ascii (["over 3m"] ++ ["under 8m"]) := by
  have hbounds : (searchTurn .ascii [] offlinePlanner ["over 3m"] "under 8m").toOption.map
      (List.map ToolRequest.bounds) =
        some [("search_listings", some (.int 3000000), some (.int 8000000))] :=
    bounds_searchTurn .ascii [] (by decide +kernel) (by decide +kernel)
      ⟨some 3000000, by decide +kernel⟩ ⟨some 8000000, by decide +kernel⟩
  refine (profile_consistent_iff .ascii [] offlinePlanner rfl ["over 3m"] "under 8m").1 ?_
  rintro requests hsearch request hrequest - ⟨low, high, hlow, hhigh, hlt⟩
  rw [hsearch] at hbounds
  have hmap : requests.map ToolRequest.bounds =
      [("search_listings", some (.int 3000000), some (.int 8000000))] := Option.some.inj hbounds
  have hmem : request.bounds ∈ requests.map ToolRequest.bounds := List.mem_map_of_mem hrequest
  rw [hmap, List.mem_singleton, ToolRequest.bounds, hlow, hhigh] at hmem
  simp only [Prod.mk.injEq, Option.some.injEq, Value.int.injEq] at hmem
  omega

/-- **Over ten million, then under five**: the search asks for both. -/
theorem over_then_under_contradicts :
    ∃ requests, searchTurn .ascii [] offlinePlanner ["over 10m"] "under 5m" = .ok requests ∧
      ∃ request ∈ requests, request.name = "search_listings" ∧ Contradicts request.arguments := by
  have hbounds : (searchTurn .ascii [] offlinePlanner ["over 10m"] "under 5m").toOption.map
      (List.map ToolRequest.bounds) =
        some [("search_listings", some (.int 10000000), some (.int 5000000))] :=
    bounds_searchTurn .ascii [] (by decide +kernel) (by decide +kernel)
      ⟨some 10000000, by decide +kernel⟩ ⟨some 5000000, by decide +kernel⟩
  cases hsearch : searchTurn .ascii [] offlinePlanner ["over 10m"] "under 5m" with
  | error raised =>
    rw [hsearch] at hbounds
    exact absurd hbounds nofun
  | ok requests =>
    rw [hsearch] at hbounds
    have hmap : requests.map ToolRequest.bounds =
        [("search_listings", some (.int 10000000), some (.int 5000000))] := Option.some.inj hbounds
    have hmem : ("search_listings", some (Value.int 10000000), some (Value.int 5000000)) ∈
        requests.map ToolRequest.bounds := by
      rw [hmap]
      exact List.mem_singleton_self _
    obtain ⟨request, hrequest, heq⟩ := List.mem_map.1 hmem
    simp only [ToolRequest.bounds, Prod.mk.injEq] at heq
    obtain ⟨hname, hlow, hhigh⟩ := heq
    exact ⟨requests, rfl, request, hrequest, hname, 10000000, 5000000, hlow, hhigh, by omega⟩

end Rag
end TopChoice
