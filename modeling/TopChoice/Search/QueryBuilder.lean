/-
# Queries of the search endpoints

`apps/search-svc/app/schemas/search.py` (`SearchFilters`) and
`app/services/query_builder.py`: the filter clauses by facet group, the query of
`GET /api/search`, and the aggregations of `GET /api/search/facets` that have one
bucket a value.

The clauses of `MapFilters` and highlighting are left out, as are the statistics and
histograms of the facets; paging and sorting have a module of their own.  A date is
the day it denotes, as a number.
-/

import TopChoice.Lib.Elastic
import TopChoice.Search.Source

namespace TopChoice
namespace Search

open Listing (PropertyType SaleType PropertyStatus FinishingType)

/-! ### Filters -/

/-- `SearchFilters`. -/
structure SearchFilters where
  q : Option String := none
  propertyType : List PropertyType := []
  saleType : Option SaleType := none
  status : Option PropertyStatus := none
  finishing : List FinishingType := []
  minPrice : Option ℚ := none
  maxPrice : Option ℚ := none
  bedrooms : List ℤ := []
  bathrooms : List ℤ := []
  minArea : Option ℚ := none
  maxArea : Option ℚ := none
  areaId : List String := []
  compoundId : List String := []
  developerId : List String := []
  amenities : List String := []
  deliveryBefore : Option ℤ := none
  maxDownPayment : Option ℚ := none
  minInstallmentYears : Option ℤ := none
  lat : Option ℚ := none
  lng : Option ℚ := none
  radiusKm : Option ℚ := none
  deriving DecidableEq, Repr

/-- A bound above the other one. -/
def above (low high : Option ℚ) : Bool :=
  match low, high with
  | some low, some high => high < low
  | _, _ => false

/-- `DEFAULT_RADIUS_KM`. -/
def defaultRadiusKm : ℚ := 5

/-- `_check_ranges`: the filters, or what the `ValueError` says. -/
def SearchFilters.checkRanges (filters : SearchFilters) : Except String SearchFilters :=
  if above filters.minPrice filters.maxPrice then
    .error "minPrice must be less than or equal to maxPrice"
  else if above filters.minArea filters.maxArea then
    .error "minArea must be less than or equal to maxArea"
  else if filters.lat.isNone ≠ filters.lng.isNone then
    .error "lat and lng must be provided together"
  else if filters.lat.isSome ∧ filters.radiusKm = none then
    .ok { filters with radiusKm := some defaultRadiusKm }
  else if filters.lat = none ∧ filters.radiusKm.isSome then
    .error "radiusKm requires lat and lng"
  else .ok filters

/-- A minimum price above the maximum price is rejected. -/
theorem SearchFilters.checkRanges_of_lt {filters : SearchFilters} {low high : ℚ}
    (hlow : filters.minPrice = some low) (hhigh : filters.maxPrice = some high)
    (h : high < low) :
    filters.checkRanges = .error "minPrice must be less than or equal to maxPrice" := by
  have habove : above filters.minPrice filters.maxPrice = true := by
    rw [hlow, hhigh]
    exact decide_eq_true h
  rw [checkRanges, if_pos habove]

/-- `FILTER_GROUPS`, by name. -/
inductive FilterGroup where
  | propertyType
  | saleType
  | status
  | finishing
  | bedrooms
  | bathrooms
  | price
  | areaSqm
  | areaId
  | compoundId
  | developerId
  | amenities
  | delivery
  | downPayment
  | installment
  | geo
  deriving DecidableEq, Repr

/-- `FILTER_GROUPS`: the order the clauses are emitted in. -/
def filterGroups : List FilterGroup :=
  [.propertyType, .saleType, .status, .finishing, .bedrooms, .bathrooms, .price, .areaSqm,
    .areaId, .compoundId, .developerId, .amenities, .delivery, .downPayment, .installment, .geo]

theorem mem_filterGroups (group : FilterGroup) : group ∈ filterGroups := by
  cases group <;> decide

/-- The clauses only Elasticsearch can evaluate: analysed text and distances. -/
inductive Native where
  | multiMatch (q : String)
  | geoDistance (radiusKm : Option ℚ) (lat lng : ℚ)
  deriving DecidableEq, Repr

/-- A clause of the service. -/
abbrev EsClause := Elastic.Clause Native

/-- `{"terms": {field: values}}`, when there are any. -/
def termsClauses (field : String) (values : List Elastic.Value) : List EsClause :=
  if values = [] then [] else [.terms field values]

/-- `_range_body` and its clause, when there is a bound. -/
def rangeClauses (field : String) (minimum maximum : Option ℚ) : List EsClause :=
  if minimum = none ∧ maximum = none then [] else [.range field minimum maximum]

/-- `filter_clauses`: a group that is not set has no clause. -/
def filterClauses (filters : SearchFilters) : FilterGroup → List EsClause
  | .propertyType => termsClauses "propertyType" (filters.propertyType.map (.keyword ·.text))
  | .saleType => (filters.saleType.map fun s => .term "saleType" (.keyword s.text)).toList
  | .status => (filters.status.map fun s => .term "status" (.keyword s.text)).toList
  | .finishing => termsClauses "finishing" (filters.finishing.map (.keyword ·.text))
  | .bedrooms => termsClauses "bedrooms" (filters.bedrooms.map .integer)
  | .bathrooms => termsClauses "bathrooms" (filters.bathrooms.map .integer)
  | .price => rangeClauses "price" filters.minPrice filters.maxPrice
  | .areaSqm => rangeClauses "areaSqm" filters.minArea filters.maxArea
  | .areaId => termsClauses "areaId" (filters.areaId.map .keyword)
  | .compoundId => termsClauses "compoundId" (filters.compoundId.map .keyword)
  | .developerId => termsClauses "developerId" (filters.developerId.map .keyword)
  -- a listing must carry every selected amenity
  | .amenities => filters.amenities.map fun a => .term "amenities" (.keyword a)
  | .delivery => rangeClauses "deliveryDate" none (filters.deliveryBefore.map fun d => (d : ℚ))
  | .downPayment => rangeClauses "downPaymentPercent" none filters.maxDownPayment
  | .installment =>
      rangeClauses "installmentYears" (filters.minInstallmentYears.map fun y => (y : ℚ)) none
  | .geo =>
      match filters.lat, filters.lng with
      | some lat, some lng => [.native (.geoDistance filters.radiusKm lat lng)]
      | _, _ => []

/-- `build_filter_list`. -/
def buildFilterList (filters : SearchFilters) (exclude : List FilterGroup) : List EsClause :=
  filterGroups.flatMap fun group =>
    if group ∈ exclude then [] else filterClauses filters group

/-! ### The search -/

/-- `build_text_query`. -/
def buildTextQuery (q : Option String) : EsClause :=
  match q with
  | none => .matchAll
  | some q => if q = "" then .matchAll else .native (.multiMatch q)

/-- `build_should_boosts`, as far as it selects: a `function_score` over
`match_all` matches every document. -/
def buildShouldBoosts (filters : SearchFilters) : List EsClause :=
  [.term "isFeatured" (.boolean true), .matchAll] ++
    if filters.minPrice = none ∧ filters.maxPrice = none then [] else [.matchAll]

/-- `build_query`. -/
def buildQuery (filters : SearchFilters) : Elastic.BoolQuery Native where
  must := [buildTextQuery filters.q]
  filter := buildFilterList filters []
  should := buildShouldBoosts filters
  minimumShouldMatch := 0

/-! ### The facets -/

/-- The facets with one bucket a value. -/
inductive TermsFacet where
  | propertyType
  | saleType
  | status
  | finishing
  | bedrooms
  | bathrooms
  | amenities
  | areas
  | compounds
  | developers
  | installmentYears
  deriving DecidableEq, Repr

/-- `FACET_FIELD_GROUPS`: the group a facet ignores. -/
def TermsFacet.group : TermsFacet → FilterGroup
  | .propertyType => .propertyType
  | .saleType => .saleType
  | .status => .status
  | .finishing => .finishing
  | .bedrooms => .bedrooms
  | .bathrooms => .bathrooms
  | .amenities => .amenities
  | .areas => .areaId
  | .compounds => .compoundId
  | .developers => .developerId
  | .installmentYears => .installment

/-- The `terms` aggregation of a facet. -/
def TermsFacet.terms : TermsFacet → Elastic.Terms
  | .propertyType => { field := "propertyType", size := 20 }
  | .saleType => { field := "saleType", size := 10 }
  | .status => { field := "status", size := 10 }
  | .finishing => { field := "finishing", size := 10 }
  | .bedrooms => { field := "bedrooms", size := 20, keyAsc := true }
  | .bathrooms => { field := "bathrooms", size := 20, keyAsc := true }
  | .amenities => { field := "amenities", size := 30 }
  | .areas => { field := "areaId", size := 50 }
  | .compounds => { field := "compoundId", size := 50 }
  | .developers => { field := "developerId", size := 50 }
  | .installmentYears => { field := "installmentYears", size := 25, keyAsc := true }

/-- The field a relation facet takes the display name from. -/
def TermsFacet.nameField : TermsFacet → Option String
  | .areas => some "areaName.keyword"
  | .compounds => some "compoundName.keyword"
  | .developers => some "developerName.keyword"
  | _ => none

/-- `_scoped_filter`: `match_all` when no clause is left. -/
def scopedFilter (filters : SearchFilters) (exclude : List FilterGroup) :
    Elastic.BoolQuery Native :=
  match buildFilterList filters exclude with
  | [] => { filter := [.matchAll] }
  | clauses => { filter := clauses }

/-- `build_facets_body`: the query, the scope of the total, and for each facet the
scope it is counted in. -/
structure FacetsBody where
  query : Elastic.BoolQuery Native
  total : Elastic.BoolQuery Native
  scope : TermsFacet → Elastic.BoolQuery Native

/-- `build_facets_body`. -/
def buildFacetsBody (filters : SearchFilters) : FacetsBody where
  query := { must := [buildTextQuery filters.q] }
  total := scopedFilter filters []
  scope facet := scopedFilter filters [facet.group]

/-! ### Selecting a value -/

/-- The member of an enumeration with a text. -/
def ofText {α : Type} (members : List α) (text : α → String) (s : String) : Option α :=
  members.find? fun a => text a = s

theorem text_ofText {α : Type} {members : List α} {text : α → String} {s : String} {a : α}
    (h : ofText members text s = some a) : text a = s := by
  simpa using List.find?_some h

/-- `PROPERTY_TYPES`. -/
def propertyTypes : List PropertyType :=
  [.apartment, .villa, .townhouse, .twinhouse, .duplex, .penthouse, .studio, .chalet, .office,
    .retail, .clinic]

/-- `SALE_TYPES`. -/
def saleTypes : List SaleType := [.primary, .resale, .rent]

/-- `STATUSES`. -/
def statuses : List PropertyStatus := [.available, .reserved, .sold, .offPlan, .delivered]

/-- `FINISHINGS`. -/
def finishings : List FinishingType := [.coreShell, .semiFinished, .fullyFinished, .furnished]

/-- `_split_multi`, of a list of texts. -/
def splitMulti (values : List String) : List String :=
  values.flatMap fun value =>
    ((value.toList.splitOn ',').map fun piece => strip (String.ofList piece)).filter (· ≠ "")

/-- The selection of one text, if the parameter can say it: it is not empty, holds
no comma and has no white space to strip. -/
def selectText (s : String) : Option (List String) :=
  if splitMulti [s] = [s] then some [s] else none

/-- The selection of one room count, which `_normalise_counts` bounds. -/
def selectCount (k : ℤ) : Option (List ℤ) := if 0 ≤ k ∧ k ≤ 20 then some [k] else none

/-- The filters with the facet's own selection replaced by one value, when the
validators of `SearchFilters` admit it. -/
def TermsFacet.select (filters : SearchFilters) : TermsFacet → Elastic.Value → Option SearchFilters
  | .propertyType, .keyword s => (ofText propertyTypes PropertyType.text s).map fun p =>
      { filters with propertyType := [p] }
  | .saleType, .keyword s => (ofText saleTypes SaleType.text s).map fun v =>
      { filters with saleType := some v }
  | .status, .keyword s => (ofText statuses PropertyStatus.text s).map fun v =>
      { filters with status := some v }
  | .finishing, .keyword s => (ofText finishings FinishingType.text s).map fun v =>
      { filters with finishing := [v] }
  | .bedrooms, .integer k => (selectCount k).map fun ks => { filters with bedrooms := ks }
  | .bathrooms, .integer k => (selectCount k).map fun ks => { filters with bathrooms := ks }
  | .amenities, .keyword s => (selectText s).map fun ss => { filters with amenities := ss }
  | .areas, .keyword s => (selectText s).map fun ss => { filters with areaId := ss }
  | .compounds, .keyword s => (selectText s).map fun ss => { filters with compoundId := ss }
  | .developers, .keyword s => (selectText s).map fun ss => { filters with developerId := ss }
  | .installmentYears, .integer k =>
      if 0 ≤ k ∧ k ≤ 40 then some { filters with minInstallmentYears := some k } else none
  | _, _ => none

end Search
end TopChoice
