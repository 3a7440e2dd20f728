/-
# Facet counts and search totals

`search` and `_facets` of `app/services/search_service.py`, and `map_facets` of
`app/services/result_mapper.py`, over the documents an Elasticsearch index holds:
any documents, any analysis of texts, any geometry.

A bucket of a facet counts the documents a search finds with the facet's own
selection replaced by the bucket's value (`facet_counts_exact`).  The facet on
instalment years is another matter: its filter is a lower bound.

The total of the facets is the total of the search, except that no match at all
makes it the number of documents the text alone finds (`facets_total_iff`).
-/

import TopChoice.Search.QueryBuilder

namespace TopChoice
namespace Search

open Elastic (Engine Bucket)
open Listing (PropertyType SaleType PropertyStatus FinishingType)

/-! ### The responses -/

/-- What the seed corpus says of a value. -/
structure Reference where
  en : Option String := none
  name : Option String := none
  ar : Option String := none
  slug : Option String := none
  deriving DecidableEq, Repr

/-- `str.title`, `str.isdigit` and `_reference_maps`. -/
structure Labels where
  title : String → String
  isDigit : String → Bool
  reference : TermsFacet → String → Reference

/-- An entry of a facet. -/
structure FacetEntry where
  value : String
  label : String
  labelAr : Option String
  slug : Option String
  count : ℕ
  deriving DecidableEq, Repr

/-- `str` of a bucket's key. -/
def str : Elastic.Value → String
  | .keyword s => s
  | .integer k => toString k
  | .double q => toString q
  | .boolean b => if b then "True" else "False"

/-- `humanize_enum`. -/
def humanizeEnum (labels : Labels) (text : String) : String :=
  if text = "" || labels.isDigit text then text
  else labels.title (String.ofList (text.toList.map fun c => if c = '_' || c = '-' then ' ' else c))

/-- A text that counts as present. -/
def present (text : Option String) : Option String := text.filter (· ≠ "")

/-- The facets on a number keep it as their label. -/
def TermsFacet.isNumber : TermsFacet → Bool
  | .bedrooms => true
  | .bathrooms => true
  | .installmentYears => true
  | _ => false

/-- An entry of `_simple_facet` or, for a relation, of `_relation_facet`;
`indexedName` is the first bucket of the display name. -/
def facetEntry (labels : Labels) (facet : TermsFacet) (indexedName : Option String) (b : Bucket) :
    FacetEntry :=
  let value := str b.key
  let reference := labels.reference facet value
  let known := if facet = .areas then reference.en else reference.name
  { value := value
    label :=
      if facet.nameField.isSome then
        ((present indexedName).or ((present known).or (present reference.name))).getD value
      else (present reference.en).getD
        (if facet.isNumber then value else humanizeEnum labels value)
    labelAr := present reference.ar
    slug := present reference.slug
    count := b.docCount }

/-- The total and the facets with one bucket a value. -/
structure FacetSet where
  total : ℕ
  terms : TermsFacet → List FacetEntry

section Service

variable {δ : Type} (e : Engine δ Native) (docs : List δ)

/-- `meta.total` of `GET /api/search`. -/
def searchTotal (filters : SearchFilters) : ℕ := (Elastic.hits e (buildQuery filters) docs).length

/-- The documents a facet is counted over. -/
def facetScope (filters : SearchFilters) (facet : TermsFacet) : List δ :=
  (Elastic.hits e (buildFacetsBody filters).query docs).filter
    (((buildFacetsBody filters).scope facet).holds e)

/-- The buckets of a facet in the response of Elasticsearch. -/
def facetBuckets (filters : SearchFilters) (facet : TermsFacet) : List Bucket :=
  facet.terms.buckets e (facetScope e docs filters facet)

/-- The first bucket of the display name within a bucket. -/
def indexedName (filters : SearchFilters) (facet : TermsFacet) (b : Bucket) : Option String :=
  facet.nameField.bind fun field =>
    let below := (facetScope e docs filters facet).filter fun d =>
      decide (b.key ∈ e.values d facet.terms.field)
    ((({ field := field, size := 1 } : Elastic.Terms).buckets e below).head?).map fun b => str b.key

/-- `_facets`. -/
def facets (labels : Labels) (filters : SearchFilters) : FacetSet :=
  let found := Elastic.hits e (buildFacetsBody filters).query docs
  let total := (found.filter ((buildFacetsBody filters).total.holds e)).length
  { total := if total = 0 then found.length else total
    terms := fun facet => (facetBuckets e docs filters facet).map fun b =>
      facetEntry labels facet (indexedName e docs filters facet b) b }

variable {e docs} {filters filters' : SearchFilters} {facet : TermsFacet} {key : Elastic.Value}
  {d : δ}

/-! ### What a query asks of a document -/

/-- The clauses left when some groups are excluded. -/
theorem all_buildFilterList (exclude : List FilterGroup) :
    (buildFilterList filters exclude).all (Elastic.Clause.holds e d) =
      filterGroups.all fun group => decide (group ∈ exclude) ||
        (filterClauses filters group).all (Elastic.Clause.holds e d) := by
  rw [buildFilterList, List.all_flatMap]
  congr 1
  funext group
  by_cases h : group ∈ exclude <;> simp [h]

/-- A search wants the text and every group. -/
theorem holds_buildQuery :
    (buildQuery filters).holds e d =
      ((buildTextQuery filters.q).holds e d &&
        filterGroups.all fun group =>
          (filterClauses filters group).all (Elastic.Clause.holds e d)) := by
  simp [buildQuery, Elastic.BoolQuery.holds, all_buildFilterList]

/-- The scope of a facet wants every group but the excluded ones. -/
theorem holds_scopedFilter (exclude : List FilterGroup) :
    (scopedFilter filters exclude).holds e d =
      filterGroups.all fun group => decide (group ∈ exclude) ||
        (filterClauses filters group).all (Elastic.Clause.holds e d) := by
  rw [← all_buildFilterList, scopedFilter]
  split
  · next h => simp [Elastic.BoolQuery.holds, Elastic.Clause.holds, h]
  · simp [Elastic.BoolQuery.holds]

/-- The facets are counted below the text alone. -/
theorem holds_facetsQuery :
    (buildFacetsBody filters).query.holds e d = (buildTextQuery filters.q).holds e d := by
  simp [buildFacetsBody, Elastic.BoolQuery.holds]

/-- All groups, one of them on its own. -/
theorem all_filterGroups_eq {P Q : FilterGroup → Bool} (group : FilterGroup)
    (h : ∀ g, g ≠ group → P g = Q g) :
    filterGroups.all P =
      (filterGroups.all (fun g => decide (g ∈ [group]) || Q g) && P group) := by
  rw [Bool.eq_iff_iff]
  simp only [List.all_eq_true, Bool.and_eq_true, Bool.or_eq_true, decide_eq_true_eq,
    List.mem_singleton]
  constructor
  · refine fun hall => ⟨fun g hg => ?_, hall group (mem_filterGroups group)⟩
    by_cases hgroup : g = group
    · exact Or.inl hgroup
    · exact Or.inr (h g hgroup ▸ hall g hg)
  · rintro ⟨hothers, hown⟩ g hg
    by_cases hgroup : g = group
    · exact hgroup ▸ hown
    · exact (h g hgroup).trans ((hothers g hg).resolve_left hgroup)

/-! ### What a selection changes -/

theorem selectText_some {s : String} {ss : List String} (h : selectText s = some ss) :
    ss = [s] := by
  unfold selectText at h
  split_ifs at h
  exact (Option.some.inj h).symm

theorem selectCount_some {k : ℤ} {ks : List ℤ} (h : selectCount k = some ks) : ks = [k] := by
  unfold selectCount at h
  split_ifs at h
  exact (Option.some.inj h).symm

/-- The text and the other groups stay as they were. -/
theorem filterClauses_select (h : facet.select filters key = some filters') :
    filters'.q = filters.q ∧
      ∀ group, group ≠ facet.group → filterClauses filters' group = filterClauses filters group := by
  cases facet <;> cases key <;> simp only [TermsFacet.select, reduceCtorEq] at h
  case installmentYears.integer =>
    split_ifs at h
    obtain rfl := Option.some.inj h
    refine ⟨rfl, fun group hne => ?_⟩
    cases group <;> first | rfl | exact absurd rfl hne
  all_goals
    obtain ⟨_, -, rfl⟩ := Option.map_eq_some_iff.1 h
    refine ⟨rfl, fun group hne => ?_⟩
    cases group <;> first | rfl | exact absurd rfl hne

/-- One clause on one value. -/
theorem all_termsClauses_singleton (field : String) (v : Elastic.Value) :
    (termsClauses field [v]).all (Elastic.Clause.holds e d) = decide (v ∈ e.values d field) := by
  simp [termsClauses, Elastic.holds_terms_singleton]

theorem all_term_singleton (field : String) (v : Elastic.Value) :
    ([.term field v] : List EsClause).all (Elastic.Clause.holds e d) =
      decide (v ∈ e.values d field) := by
  simp [Elastic.Clause.holds]

/-- **The facet's own group asks for the value**, unless it is a lower bound. -/
theorem holds_select (hfacet : facet ≠ .installmentYears)
    (h : facet.select filters key = some filters') :
    (filterClauses filters' facet.group).all (Elastic.Clause.holds e d) =
      decide (key ∈ e.values d facet.terms.field) := by
  cases facet <;> cases key <;> simp only [TermsFacet.select, reduceCtorEq] at h
  case installmentYears.integer => exact absurd rfl hfacet
  all_goals obtain ⟨v, hv, rfl⟩ := Option.map_eq_some_iff.1 h
  case propertyType.keyword | finishing.keyword =>
    obtain rfl := text_ofText hv
    exact all_termsClauses_singleton _ _
  case saleType.keyword | status.keyword =>
    obtain rfl := text_ofText hv
    exact all_term_singleton _ _
  case bedrooms.integer | bathrooms.integer =>
    rw [selectCount_some hv]
    exact all_termsClauses_singleton _ _
  case areas.keyword | compounds.keyword | developers.keyword =>
    rw [selectText_some hv]
    exact all_termsClauses_singleton _ _
  case amenities.keyword =>
    rw [selectText_some hv]
    exact all_term_singleton _ _

/-! ### Facet counts -/

/-- **A bucket counts the documents of its scope that hold its value.** -/
theorem docCount_facetBuckets {b : Bucket} (hb : b ∈ facetBuckets e docs filters facet) :
    b.docCount = docs.countP fun d => (buildTextQuery filters.q).holds e d &&
      filterGroups.all (fun group => decide (group ∈ [facet.group]) ||
        (filterClauses filters group).all (Elastic.Clause.holds e d)) &&
      decide (b.key ∈ e.values d facet.terms.field) := by
  rw [Elastic.Terms.docCount_below hb]
  congr 1
  funext d
  rw [holds_facetsQuery]
  simp only [buildFacetsBody, holds_scopedFilter]

/-- **A bucket has the count of the search for its value.** -/
theorem docCount_eq_searchTotal (hfacet : facet ≠ .installmentYears) {b : Bucket}
    (hb : b ∈ facetBuckets e docs filters facet)
    (h : facet.select filters b.key = some filters') :
    b.docCount = searchTotal e docs filters' := by
  obtain ⟨hq, hothers⟩ := filterClauses_select h
  rw [docCount_facetBuckets hb, searchTotal, Elastic.hits, ← List.countP_eq_length_filter]
  congr 1
  funext d
  have hgroups := all_filterGroups_eq facet.group
    (P := fun group => (filterClauses filters' group).all (Elastic.Clause.holds e d))
    (Q := fun group => (filterClauses filters group).all (Elastic.Clause.holds e d))
    fun group hne => by rw [hothers group hne]
  rw [holds_buildQuery, hq, hgroups, holds_select hfacet h, Bool.and_assoc]

end Service

section Results

variable {δ : Type} (e : Engine δ Native) (docs : List δ) (labels : Labels)
  (filters : SearchFilters)

/-- **Facet counts are exact.**  The entries of a facet carry the counts of its
buckets.  Where the facet's filter is a selection of values, a bucket has the
total of the search with the selection replaced by its value.  A bucket of the
instalment years has the number of documents with just that many years, among
those the search finds without the lower bound on them. -/
theorem facet_counts_exact (facet : TermsFacet) :
    ((facets e docs labels filters).terms facet).map FacetEntry.count =
        (facetBuckets e docs filters facet).map Bucket.docCount ∧
      ∀ b ∈ facetBuckets e docs filters facet,
        (facet ≠ .installmentYears → ∀ filters', facet.select filters b.key = some filters' →
          b.docCount = searchTotal e docs filters') ∧
        (facet = .installmentYears → b.docCount =
          docs.countP fun d =>
            (buildQuery { filters with minInstallmentYears := none }).holds e d &&
              decide (b.key ∈ e.values d "installmentYears")) := by
  refine ⟨by simp [facets, facetEntry, Function.comp_def], fun b hb =>
    ⟨fun hfacet filters' h => docCount_eq_searchTotal hfacet hb h, ?_⟩⟩
  rintro rfl
  rw [docCount_facetBuckets hb]
  congr 1
  funext d
  have hgroups := all_filterGroups_eq .installment
    (P := fun group => (filterClauses { filters with minInstallmentYears := none } group).all
      (Elastic.Clause.holds e d))
    (Q := fun group => (filterClauses filters group).all (Elastic.Clause.holds e d))
    fun group hne => by cases group <;> first | rfl | exact absurd rfl hne
  have hnone : (filterClauses { filters with minInstallmentYears := none } .installment).all
      (Elastic.Clause.holds e d) = true := rfl
  rw [holds_buildQuery, hgroups, hnone, Bool.and_true]
  rfl

/-- The documents a set of filters is about: the text and every filter group. -/
def Matching (d : δ) : Prop :=
  (buildTextQuery filters.q).holds e d = true ∧
    ∀ group, ∀ clause ∈ filterClauses filters group, clause.holds e d = true

variable {e docs labels filters}

theorem holds_buildQuery_iff {d : δ} :
    (buildQuery filters).holds e d = true ↔ Matching e filters d := by
  rw [holds_buildQuery, Bool.and_eq_true, List.all_eq_true, Matching]
  simp only [List.all_eq_true]
  exact and_congr_right' ⟨fun h group => h group (mem_filterGroups group), fun h group _ => h group⟩

/-- The total of the facets falls back on the hits of the text alone. -/
theorem facets_total :
    (facets e docs labels filters).total =
      if searchTotal e docs filters = 0 then
        docs.countP fun d => (buildTextQuery filters.q).holds e d
      else searchTotal e docs filters := by
  have htotal : ((Elastic.hits e (buildFacetsBody filters).query docs).filter
      ((buildFacetsBody filters).total.holds e)).length = searchTotal e docs filters := by
    rw [searchTotal, Elastic.hits, Elastic.hits, ← List.countP_eq_length_filter,
      ← List.countP_eq_length_filter, List.countP_filter]
    congr 1
    funext d
    rw [holds_facetsQuery, holds_buildQuery, buildFacetsBody, holds_scopedFilter, Bool.and_comm]
    simp
  have hfound : (Elastic.hits e (buildFacetsBody filters).query docs).length =
      docs.countP fun d => (buildTextQuery filters.q).holds e d := by
    rw [Elastic.hits, ← List.countP_eq_length_filter]
    congr 1
    funext d
    exact holds_facetsQuery
  simp only [facets, htotal, hfound]

variable (e docs labels filters)

/-- **The total of the facets is the total of the search** exactly when some
document matches the filters, or none matches even the text. -/
theorem facets_total_iff :
    (facets e docs labels filters).total = searchTotal e docs filters ↔
      (∃ d ∈ docs, Matching e filters d) ∨
        ∀ d ∈ docs, (buildTextQuery filters.q).holds e d = false := by
  have hsome : (∃ d ∈ docs, Matching e filters d) ↔ searchTotal e docs filters ≠ 0 := by
    rw [searchTotal, Elastic.hits, ← List.countP_eq_length_filter, ← Nat.pos_iff_ne_zero,
      List.countP_pos_iff]
    simp only [holds_buildQuery_iff]
  have hnone : (∀ d ∈ docs, (buildTextQuery filters.q).holds e d = false) ↔
      docs.countP (fun d => (buildTextQuery filters.q).holds e d) = 0 := by
    rw [List.countP_eq_zero]
    simp only [Bool.not_eq_true]
  rw [facets_total, hsome, hnone]
  by_cases hzero : searchTotal e docs filters = 0
  · simp [hzero]
  · simp [hzero]

end Results

/-! ### Two listings -/

/-- An index whose documents are their fields; every text matches. -/
def demoEngine : Engine (String → List Elastic.Value) Native where
  values d field := d field
  native _ _ := true

/-- Two villas, payable over five and over eight years. -/
def demoIndex : List (String → List Elastic.Value) :=
  [fun
    | "propertyType" => [.keyword "villa"]
    | "installmentYears" => [.integer 5]
    | _ => [],
  fun
    | "propertyType" => [.keyword "villa"]
    | "installmentYears" => [.integer 8]
    | _ => []]

/-- No reference data. -/
def demoLabels : Labels := ⟨id, fun _ => false, fun _ _ => {}⟩

/-- **The facet on instalment years counts one value, its filter is a lower
bound:** one listing is payable over five years, a search for five finds both. -/
theorem installment_bucket_is_not_total :
    ¬ ∀ (δ : Type) (e : Engine δ Native) (docs : List δ) (filters : SearchFilters)
      (facet : TermsFacet), ∀ b ∈ facetBuckets e docs filters facet, ∀ filters',
      facet.select filters b.key = some filters' → b.docCount = searchTotal e docs filters' := by
  intro h
  have hfive := h _ demoEngine demoIndex {} .installmentYears ⟨.integer 5, 1⟩ (by decide) _ rfl
  revert hfive
  decide

/-- **No match at all makes the facets report every listing:** nothing is an
office, and the total of the facets is two. -/
theorem facets_total_without_match :
    ¬ ∀ (δ : Type) (e : Engine δ Native) (docs : List δ) (labels : Labels)
      (filters : SearchFilters),
      (facets e docs labels filters).total = searchTotal e docs filters := by
  intro h
  have hoffice := h _ demoEngine demoIndex demoLabels { propertyType := [.office] }
  revert hoffice
  decide

end Search
end TopChoice
