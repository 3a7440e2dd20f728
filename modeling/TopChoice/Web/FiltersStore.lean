/-
# The filter store and the URL

`apps/web/src/store/filters.store.ts`: the filters of the search page, the draft of the
mobile sheet, and the actions on them.  `layout`, which no filter depends on, is left out,
with `setLayout`.

Every action but `syncFromQueryString` merges a patch into the filters as it comes, while
the sync reads the query string back and lays it over the defaults.  So the URL gives the
filters back as long as every value that is set is one that the reader leaves as it is, a
sort, a page and a limit are always set, and so is the whole point or none of it
(`InStep`).  A query in which a blank was typed last, or a cleared sort, is not
(`blank_falls_out_of_step`).
-/

import TopChoice.Lib.Machine
import TopChoice.Web.SearchFilters

namespace TopChoice
namespace Web

/-! ### The store -/

/-- `INITIAL`. -/
def initialFilters : SearchFilters
  | .sort => some ⟨"relevance", by decide⟩
  | .page => some (.finite 1)
  | .limit => some (.finite defaultPageSize)
  | _ => none

/-- `FiltersState`. -/
structure FiltersState where
  filters : SearchFilters
  draft : SearchFilters

/-- The store when the page is loaded. -/
def FiltersState.initial : FiltersState := ⟨initialFilters, initialFilters⟩

/-- A key of the patch that is not the page changes the shape of the result set. -/
def resetsPage (patch : Patch) : Bool := Key.ordered.any fun k => k ≠ .page && (patch k).isSome

/-- The patch of `withPageReset`. -/
def pageReset (patch : Patch) : Patch :=
  if resetsPage patch then patch.set .page (some (.finite 1)) else patch

/-- `withPageReset`. -/
def withPageReset (filters : SearchFilters) (patch : Patch) : SearchFilters :=
  mergeFilters filters (pageReset patch)

/-- `===` of numbers: `NaN` is not equal to itself. -/
def JsNumber.strictlyEqual (a b : JsNumber) : Bool := a = b && a ≠ .nan

/-- `a - b` is not positive; what is compared with `NaN` stays where it is. -/
def JsNumber.sortsBefore : JsNumber → JsNumber → Bool
  | .finite a, .finite b => a ≤ b
  | .finite _, .infinite negative => !negative
  | .infinite negative, .finite _ => negative
  | .infinite negative, .infinite other => negative || !other
  | _, _ => true

/-- `toggleInArray`. -/
def toggleInArray {α : Type} [DecidableEq α] (equal : α → α → Bool) (items : List α) (item : α) :
    List α :=
  if item ∈ items then items.filter fun entry => !equal entry item else items ++ [item]

namespace Kind

/-- What a list of a kind holds; other values are not toggled. -/
abbrev Item : Kind → Type
  | texts => String
  | choices members => { s : String // s ∈ members }
  | numbers => JsNumber
  | _ => Empty

/-- The list after a toggle; numbers are kept in order. -/
def toggled : (kind : Kind) → Option kind.Value → kind.Item → kind.Value
  | texts, current, value => toggleInArray (fun a b : String => a = b) (current.getD []) value
  | choices members, current, value =>
      toggleInArray (fun a b : { s : String // s ∈ members } => a = b) (current.getD []) value
  | numbers, current, value =>
      (toggleInArray JsNumber.strictlyEqual (current.getD []) value).mergeSort JsNumber.sortsBefore
  | text, _, value | choice _, _, value | number, _, value => nomatch value

end Kind

/-- The actions of the store; `toggle` is `toggleArrayFilter` and, of a list of numbers,
`toggleNumberFilter`. -/
inductive FilterAction where
  | setFilters (filters : SearchFilters)
  | patchFilters (patch : Patch)
  | setFilter (key : Key) (value : Option key.kind.Value)
  | toggle (key : Key) (value : key.kind.Item)
  | setPriceRange (min max : Option JsNumber)
  | setAreaRange (min max : Option JsNumber)
  | setSort (sort : { s : String // s ∈ searchSorts })
  | setPage (page : JsNumber)
  | setLimit (limit : JsNumber)
  | clearFilter (key : Key)
  | reset
  | openDraft
  | patchDraft (patch : Patch)
  | resetDraft
  | applyDraft
  | syncFromQueryString (query : String)

namespace FiltersState

variable (nt : NumberText) (lossy : List UInt8 → String)

/-- What a query string stands for, over the defaults. -/
def parsed (query : String) : SearchFilters :=
  mergeFilters initialFilters (.ofFilters (deserializeFilters nt lossy (.text query)))

/-- `syncFromQueryString`. -/
def syncFromQueryString (query : String) (s : FiltersState) : FiltersState :=
  if filtersEqual nt (parsed nt lossy query) s.filters then s
  else ⟨parsed nt lossy query, parsed nt lossy query⟩

/-- `toQueryString`. -/
def toQueryString (s : FiltersState) : String := serializeFilters nt s.filters

/-- An action of the store. -/
def act (s : FiltersState) : FilterAction → FiltersState
  | .setFilters filters =>
      ⟨mergeFilters (fun _ => none) (.ofFilters filters),
        mergeFilters (fun _ => none) (.ofFilters filters)⟩
  | .patchFilters patch => { s with filters := withPageReset s.filters patch }
  | .setFilter key value => { s with filters := withPageReset s.filters (Patch.empty.set key value) }
  | .toggle key value =>
      let next := key.kind.toggled (s.filters key) value
      { s with filters := withPageReset s.filters (Patch.empty.set key (some next)) }
  | .setPriceRange min max =>
      { s with filters :=
          withPageReset s.filters ((Patch.empty.set .minPrice min).set .maxPrice max) }
  | .setAreaRange min max =>
      { s with filters :=
          withPageReset s.filters ((Patch.empty.set .minArea min).set .maxArea max) }
  | .setSort sort =>
      { s with filters := withPageReset s.filters (Patch.empty.set .sort (some sort)) }
  | .setPage page =>
      { s with filters := mergeFilters s.filters (Patch.empty.set .page (some page)) }
  | .setLimit limit =>
      { s with filters := withPageReset s.filters (Patch.empty.set .limit (some limit)) }
  | .clearFilter key => { s with filters := withPageReset s.filters (Patch.empty.set key none) }
  | .reset => ⟨initialFilters, initialFilters⟩
  | .openDraft => { s with draft := s.filters }
  | .patchDraft patch => { s with draft := mergeFilters s.draft patch }
  | .resetDraft => { s with draft := initialFilters }
  | .applyDraft =>
      { s with filters := mergeFilters s.draft (Patch.empty.set .page (some (.finite 1))) }
  | .syncFromQueryString query => s.syncFromQueryString nt lossy query

/-- The store, one action after the other. -/
def machine : Machine FiltersState FilterAction where
  step s action := some (s.act nt lossy action)

/-- The query string of the filters gives the filters back. -/
def UrlStable (s : FiltersState) : Prop :=
  (s.syncFromQueryString nt lossy (s.toQueryString nt)).filters = s.filters

end FiltersState

/-! ### What a query string stands for -/

/-- Every value counts: none is empty. -/
def NoneEmptied (f : SearchFilters) : Prop := ∀ k, ∀ v ∈ f k, k.kind.isEmptied v = false

theorem noneEmptied_mergeFilters (base : SearchFilters) (patch : Patch) :
    NoneEmptied (mergeFilters base patch) := by
  intro k v hv
  have hkept := (Option.filter_eq_some_iff.1 hv).2
  rwa [Bool.not_eq_true'] at hkept

theorem not_emptied_of_legible {kind : Kind} {v : kind.Value} (h : Legible kind v)
    (hchoice : ∀ all, kind = .choice all → "" ∉ all) : kind.isEmptied v = false := by
  cases kind with
  | text => exact decide_eq_false h
  | choice all => exact decide_eq_false fun hempty => hchoice all rfl (hempty ▸ v.2)
  | number => rfl
  | texts => exact List.isEmpty_eq_false_iff.2 h.1
  | choices all => exact List.isEmpty_eq_false_iff.2 h.1
  | numbers => exact List.isEmpty_eq_false_iff.2 h.1

theorem empty_not_choice (k : Key) : ∀ all, k.kind = .choice all → "" ∉ all := by
  intro all hall
  cases k <;> cases hall <;> decide

/-- What is written for a value that counts. -/
theorem serialized_ne_nil (nt : NumberText) {kind : Kind} {v : kind.Value}
    (h : kind.isEmptied v = false) : serialized nt kind v ≠ [] := by
  cases kind with
  | text => simpa [serialized, Kind.isEmptied] using h
  | choice all => simpa [serialized, Kind.isEmptied] using h
  | number => exact List.cons_ne_nil _ _
  | texts => exact List.isEmpty_eq_false_iff.1 h
  | choices all => exact mt List.map_eq_nil_iff.1 (List.isEmpty_eq_false_iff.1 h)
  | numbers => exact mt List.map_eq_nil_iff.1 (List.isEmpty_eq_false_iff.1 h)

theorem serialized_injective {nt : NumberText} (hnt : nt.Lawful) {kind : Kind}
    {v w : kind.Value} (hv : kind.isEmptied v = false) (hw : kind.isEmptied w = false)
    (h : serialized nt kind v = serialized nt kind w) : v = w := by
  have hstring : Function.Injective nt.string := fun m n hmn => by
    rw [← hnt.number_string m, hmn, hnt.number_string]
  cases kind with
  | text =>
    rw [serialized, serialized, if_neg (of_decide_eq_false hv), if_neg (of_decide_eq_false hw)] at h
    exact List.singleton_injective h
  | choice all =>
    rw [serialized, serialized, if_neg (of_decide_eq_false hv), if_neg (of_decide_eq_false hw)] at h
    exact Subtype.ext (List.singleton_injective h)
  | number => exact hstring (List.singleton_injective h)
  | texts => exact h
  | choices all => exact List.map_injective_iff.2 Subtype.val_injective h
  | numbers => exact List.map_injective_iff.2 hstring h

/-- **Filters without emptied values are told apart by what is written for them.** -/
theorem eq_of_searchParams_eq {nt : NumberText} (hnt : nt.Lawful) {f g : SearchFilters}
    (hf : NoneEmptied f) (hg : NoneEmptied g) (h : searchParams nt f = searchParams nt g) :
    f = g := by
  funext k
  have hentries : entries nt f k = entries nt g k := by
    rw [← getAll_searchParams, h, getAll_searchParams]
  rw [entries, entries] at hentries
  cases hfk : f k with
  | none =>
    cases hgk : g k with
    | none => rfl
    | some w =>
      rw [hfk, hgk] at hentries
      exact absurd hentries.symm (serialized_ne_nil nt (hg k w hgk))
  | some v =>
    cases hgk : g k with
    | none =>
      rw [hfk, hgk] at hentries
      exact absurd hentries (serialized_ne_nil nt (hf k v hfk))
    | some w =>
      rw [hfk, hgk] at hentries
      exact congrArg some (serialized_injective hnt (hf k v hfk) (hg k w hgk) hentries)

/-- **Filters that the URL gives back**: each value is read back as it is, a sort, a page and
a limit are set, and so are both coordinates of a point or none. -/
structure InStep (f : SearchFilters) : Prop extends Shareable f where
  sorted : (f .sort).isSome = true
  paged : ∃ z : ℤ, 1 ≤ z ∧ f .page = some (.finite z)
  limited : (f .limit).isSome = true

theorem InStep.noneEmptied {f : SearchFilters} (h : InStep f) : NoneEmptied f := fun k v hv =>
  not_emptied_of_legible (h.legible k v hv) (empty_not_choice k)

theorem inStep_initialFilters : InStep initialFilters where
  legible k v hv := by
    have hall : ((initialFilters k).all fun v => decide (Legible k.kind v)) = true := by
      cases k <;> decide
    exact of_decide_eq_true ((Option.all_eq_true _ _).1 hall v hv)
  trimmed q hq := nomatch hq
  located := rfl
  around h := nomatch h
  page n hn := by
    cases hn
    exact ⟨1, rfl⟩
  limit n hn := by
    cases hn
    exact ⟨20, rfl⟩
  sorted := rfl
  paged := ⟨1, le_rfl, rfl⟩
  limited := rfl

theorem mergeFilters_ofFilters (base f : SearchFilters) (k : Key) :
    mergeFilters base (.ofFilters f) k = kept ((f k).or (base k)) := by
  rw [mergeFilters, Patch.ofFilters]
  cases f k <;> rfl

theorem kept_of_not_emptied {kind : Kind} {value : Option kind.Value}
    (h : ∀ v ∈ value, kind.isEmptied v = false) : kept value = value :=
  filter_of_forall fun v hv => by rw [h v hv]; rfl

/-- A default stands for the one value that is left out. -/
theorem filter_or_default {α : Type} {value : Option α} {p : α → Bool} {default : α}
    (hsome : value.isSome = true) (h : ∀ v ∈ value, p v = false → v = default) :
    (value.filter p).or (some default) = value := by
  obtain ⟨v, rfl⟩ := Option.isSome_iff_exists.1 hsome
  rw [Option.filter_some]
  split_ifs with hp
  · rfl
  · rw [h v rfl (Bool.eq_false_iff.2 hp), Option.none_or]

/-- Filters in step are read back whole. -/
theorem mergeFilters_read {f : SearchFilters} (h : InStep f) :
    mergeFilters initialFilters (.ofFilters f.read) = f := by
  obtain ⟨z, hz, hpage⟩ := h.paged
  have hfirst : ∀ n : JsNumber, n ∈ f .page → n.aboveOne = false → n = .finite 1 := by
    intro n hn habove
    obtain rfl : JsNumber.finite z = n := Option.some.inj (hpage.symm.trans hn)
    have hle : ¬(1 : ℚ) < z := of_decide_eq_false habove
    have hone : z = 1 := le_antisymm (by exact_mod_cast not_lt.1 hle) hz
    rw [hone, Int.cast_one]
  have hdefault : ∀ n : JsNumber, n ∈ f .limit →
      decide (n ≠ .finite defaultPageSize) = false → n = .finite defaultPageSize :=
    fun n _ hn => not_not.1 (of_decide_eq_false hn)
  have hread (k : Key) : (f.read k).or (initialFilters k) = f k := by
    cases k with
    | page => exact filter_or_default (hpage ▸ rfl) hfirst
    | limit => exact filter_or_default h.limited hdefault
    | sort => exact Option.or_of_isSome h.sorted
    | _ => exact Option.or_none
  funext k
  rw [mergeFilters_ofFilters, hread, kept_of_not_emptied (h.noneEmptied k)]

/-- **What a query string stands for is in step**, whatever it holds. -/
theorem inStep_parsed (nt : NumberText) (lossy : List UInt8 → String) (query : String) :
    InStep (FiltersState.parsed nt lossy query) := by
  have hread := shareable_readFilters nt (toURLSearchParams lossy (.text query))
  set f := readFilters nt (toURLSearchParams lossy (.text query))
  have hor (k : Key) : ∀ v ∈ (f k).or (initialFilters k), Legible k.kind v := by
    intro v hv
    obtain hv | ⟨-, hv⟩ := Option.or_eq_some_iff.1 hv
    · exact hread.legible k v hv
    · exact inStep_initialFilters.legible k v hv
  have hparsed (k : Key) : FiltersState.parsed nt lossy query k =
      (f k).or (initialFilters k) := by
    rw [FiltersState.parsed, mergeFilters_ofFilters]
    exact kept_of_not_emptied fun v hv =>
      not_emptied_of_legible (hor k v hv) (empty_not_choice k)
  have hsame {k : Key} (hk : initialFilters k = none) :
      FiltersState.parsed nt lossy query k = f k := by
    rw [hparsed, hk, Option.or_none]
  have hlat := hsame (k := .lat) rfl
  have hlng := hsame (k := .lng) rfl
  have hradius := hsame (k := .radiusKm) rfl
  have hinteger {k : Key} {n : k.kind.Value} {P : k.kind.Value → Prop}
      (hn : n ∈ FiltersState.parsed nt lossy query k) (h₁ : ∀ n ∈ f k, P n)
      (h₂ : ∀ n ∈ initialFilters k, P n) : P n := by
    rw [hparsed] at hn
    obtain hn | ⟨-, hn⟩ := Option.or_eq_some_iff.1 hn
    · exact h₁ n hn
    · exact h₂ n hn
  exact {
    legible := fun k v hv => hor k v (hparsed k ▸ hv)
    trimmed := fun q hq => hread.trimmed q (hsame (k := .q) rfl ▸ hq)
    located := by rw [hlat, hlng, hread.located]
    around := fun h => hlat ▸ hread.around (hradius ▸ h)
    page := fun n hn => hinteger hn hread.page inStep_initialFilters.page
    limit := fun n hn => hinteger hn hread.limit inStep_initialFilters.limit
    sorted := by
      rw [hparsed]
      cases f .sort <;> rfl
    paged := by
      rw [hparsed]
      cases hpage : f .page with
      | none => exact ⟨1, le_rfl, rfl⟩
      | some n =>
        obtain ⟨z, hz, rfl⟩ := page_readFilters (hpage : n ∈ f .page)
        exact ⟨z, hz, rfl⟩
    limited := by
      rw [hparsed]
      cases f .limit <;> rfl }

variable {nt : NumberText} (hnt : nt.Lawful) (lossy : List UInt8 → String)

include hnt in
/-- **The query string gives the filters back exactly when they are in step.** -/
theorem urlStable_iff {s : FiltersState} (h : NoneEmptied s.filters) :
    s.UrlStable nt lossy ↔ InStep s.filters := by
  have hstep := inStep_parsed nt lossy (s.toQueryString nt)
  constructor
  · intro hstable
    rw [FiltersState.UrlStable, FiltersState.syncFromQueryString] at hstable
    split_ifs at hstable with hequal
    · have hprint : searchParams nt (FiltersState.parsed nt lossy (s.toQueryString nt)) =
          searchParams nt s.filters :=
        FormUrlEncoded.print_injective (of_decide_eq_true hequal)
      exact eq_of_searchParams_eq hnt hstep.noneEmptied h hprint ▸ hstep
    · exact hstable ▸ hstep
  · intro hfilters
    have hback : FiltersState.parsed nt lossy (s.toQueryString nt) = s.filters := by
      rw [FiltersState.parsed, deserializeFilters, toURLSearchParams,
        FiltersState.toQueryString, serializeFilters, FormUrlEncoded.parse_print,
        readFilters_searchParams hnt hfilters.toShareable, mergeFilters_read hfilters]
    rw [FiltersState.UrlStable, FiltersState.syncFromQueryString, hback]
    split_ifs <;> rfl

/-! ### What an action may set -/

/-- `{ ...base, ...patch }`. -/
def Patch.over (patch : Patch) (base : SearchFilters) : SearchFilters := fun k =>
  (patch k).getD (base k)

/-- A patch that keeps filters in step: the values it sets are read back as they are or are
emptied, it leaves a sort, a first or later page and a whole limit, and the whole point or
none of it. -/
structure Patch.Tidy (base : SearchFilters) (patch : Patch) : Prop where
  legible : ∀ k v, patch k = some (some v) → k.kind.isEmptied v = true ∨ Legible k.kind v
  trimmed : ∀ q, patch .q = some (some q) → trim q = q
  located : (patch.over base .lat).isSome = (patch.over base .lng).isSome
  around : (patch.over base .radiusKm).isSome = true → (patch.over base .lat).isSome = true
  sorted : (patch.over base .sort).isSome = true
  paged : ∃ z : ℤ, 1 ≤ z ∧ patch.over base .page = some (.finite z)
  limited : ∃ z : ℤ, patch.over base .limit = some (.finite z)

theorem kept_number (value : Option Kind.number.Value) : kept value = value :=
  kept_of_not_emptied fun _ _ => rfl

theorem mem_kept {kind : Kind} {value : Option kind.Value} {v : kind.Value} :
    v ∈ kept value ↔ v ∈ value ∧ kind.isEmptied v = false := by
  rw [kept, Option.mem_def, Option.filter_eq_some_iff, Bool.not_eq_true', Option.mem_def]

/-- **A merge keeps filters in step exactly when the patch is tidy.** -/
theorem inStep_mergeFilters_iff {base : SearchFilters}
    (hlegible : ∀ k, ∀ v ∈ base k, Legible k.kind v) (htrimmed : ∀ q ∈ base .q, trim q = q)
    (patch : Patch) : InStep (mergeFilters base patch) ↔ patch.Tidy base := by
  have hmerge (k : Key) : mergeFilters base patch k = kept (patch.over base k) := rfl
  have hlat : mergeFilters base patch .lat = patch.over base .lat := kept_number _
  have hlng : mergeFilters base patch .lng = patch.over base .lng := kept_number _
  have hradius : mergeFilters base patch .radiusKm = patch.over base .radiusKm := kept_number _
  have hpage : mergeFilters base patch .page = patch.over base .page := kept_number _
  have hlimit : mergeFilters base patch .limit = patch.over base .limit := kept_number _
  have hsort : mergeFilters base patch .sort = patch.over base .sort :=
    kept_of_not_emptied fun v _ => not_emptied_of_legible trivial (empty_not_choice .sort)
  have hset {k : Key} {v : k.kind.Value} (hv : patch k = some (some v)) :
      patch.over base k = some v := by rw [Patch.over, hv]; rfl
  constructor
  · intro h
    refine ⟨fun k v hv => ?_, fun (q : String) hq => ?_, ?_, ?_, ?_, ?_, ?_⟩
    · cases hemptied : k.kind.isEmptied v with
      | true => exact .inl rfl
      | false =>
        refine .inr (h.legible k v ?_)
        rw [hmerge, mem_kept, hset hv]
        exact ⟨rfl, hemptied⟩
    · by_cases hempty : q = ""
      · rw [hempty]
        decide
      · exact h.trimmed q (mem_kept.2 ⟨hset hq, decide_eq_false hempty⟩)
    · rw [← hlat, ← hlng, h.located]
    · rw [← hradius, ← hlat]
      exact h.around
    · rw [← hsort]
      exact h.sorted
    · rw [← hpage]
      exact h.paged
    · obtain ⟨n, hn⟩ := Option.isSome_iff_exists.1 h.limited
      obtain ⟨z, rfl⟩ := h.limit n hn
      exact ⟨z, hlimit ▸ hn⟩
  · intro h
    have hcases {k : Key} {v : k.kind.Value} (hv : v ∈ mergeFilters base patch k) :
        (patch k = some (some v) ∨ v ∈ base k) ∧ k.kind.isEmptied v = false := by
      rw [hmerge, mem_kept, Patch.over] at hv
      refine ⟨?_, hv.2⟩
      cases hpatch : patch k with
      | none =>
        rw [hpatch] at hv
        exact .inr hv.1
      | some value =>
        rw [hpatch] at hv
        exact .inl (congrArg some hv.1)
    obtain ⟨z, hz, hfirst⟩ := h.paged
    obtain ⟨w, hwhole⟩ := h.limited
    exact {
      legible := fun k v hv => by
        obtain ⟨hv' | hv', hcounts⟩ := hcases hv
        · exact (h.legible k v hv').resolve_left (by rw [hcounts]; exact Bool.false_ne_true)
        · exact hlegible k v hv'
      trimmed := fun q hq => (hcases hq).1.elim (h.trimmed q) (htrimmed q)
      located := by rw [hlat, hlng, h.located]
      around := by
        rw [hlat, hradius]
        exact h.around
      page := fun n hn => ⟨z, Option.some.inj (hn.symm.trans (hpage.trans hfirst))⟩
      limit := fun n hn => ⟨w, Option.some.inj (hn.symm.trans (hlimit.trans hwhole))⟩
      sorted := by
        rw [hsort]
        exact h.sorted
      paged := ⟨z, hz, hpage.trans hfirst⟩
      limited := by
        rw [hlimit, hwhole]
        rfl }

/-- What an action merges, and into what; a draft is applied as a whole. -/
def FilterAction.merges (s : FiltersState) : FilterAction → Option (SearchFilters × Patch)
  | .setFilters filters => some (fun _ => none, .ofFilters filters)
  | .patchFilters patch => some (s.filters, pageReset patch)
  | .setFilter key value => some (s.filters, pageReset (Patch.empty.set key value))
  | .toggle key value =>
      some (s.filters,
        pageReset (Patch.empty.set key (some (key.kind.toggled (s.filters key) value))))
  | .setPriceRange min max =>
      some (s.filters, pageReset ((Patch.empty.set .minPrice min).set .maxPrice max))
  | .setAreaRange min max =>
      some (s.filters, pageReset ((Patch.empty.set .minArea min).set .maxArea max))
  | .setSort sort => some (s.filters, pageReset (Patch.empty.set .sort (some sort)))
  | .setPage page => some (s.filters, Patch.empty.set .page (some page))
  | .setLimit limit => some (s.filters, pageReset (Patch.empty.set .limit (some limit)))
  | .clearFilter key => some (s.filters, pageReset (Patch.empty.set key none))
  | .applyDraft => some (fun _ => none, (Patch.ofFilters s.draft).set .page (some (.finite 1)))
  | .reset | .openDraft | .patchDraft _ | .resetDraft | .syncFromQueryString _ => none

/-- What an action merges is tidy. -/
def FilterAction.Keeps (s : FiltersState) (action : FilterAction) : Prop :=
  ∀ base patch, action.merges s = some (base, patch) → patch.Tidy base

/-- A draft is merged with the page set in it. -/
theorem mergeFilters_draft (draft : SearchFilters) (page : JsNumber) :
    mergeFilters draft (Patch.empty.set .page (some page)) =
      mergeFilters (fun _ => none) ((Patch.ofFilters draft).set .page (some page)) := by
  funext k
  by_cases hk : k = .page
  · subst hk
    simp [mergeFilters, Patch.set]
  · simp only [mergeFilters, Patch.set, Patch.ofFilters, Patch.empty,
      Function.update_of_ne hk]
    cases draft k <;> rfl

/-- The filters after an action that merges. -/
theorem filters_act {s : FiltersState} {action : FilterAction} {base : SearchFilters}
    {patch : Patch} (h : action.merges s = some (base, patch)) :
    (s.act nt lossy action).filters = mergeFilters base patch := by
  cases action <;> cases h <;> first | rfl | exact mergeFilters_draft _ _

/-- The filters after any other action are the ones before, the defaults or those a query
string stands for. -/
theorem filters_act_of_none (nt : NumberText) {s : FiltersState} {action : FilterAction}
    (h : action.merges s = none) :
    (s.act nt lossy action).filters = s.filters ∨
      (s.act nt lossy action).filters = initialFilters ∨
        ∃ query, (s.act nt lossy action).filters = FiltersState.parsed nt lossy query := by
  cases action with
  | reset => exact .inr (.inl rfl)
  | openDraft => exact .inl rfl
  | patchDraft patch => exact .inl rfl
  | resetDraft => exact .inl rfl
  | syncFromQueryString query =>
    rw [FiltersState.act, FiltersState.syncFromQueryString]
    split_ifs
    · exact .inl rfl
    · exact .inr (.inr ⟨query, rfl⟩)
  | _ => exact absurd h nofun

/-- **What an action does to filters in step.**  They stay in step exactly when what it
merges is tidy. -/
theorem inStep_act_iff {s : FiltersState} (h : InStep s.filters) (action : FilterAction) :
    InStep (s.act nt lossy action).filters ↔ action.Keeps s := by
  cases hmerges : action.merges s with
  | none =>
    have hkeeps : action.Keeps s := fun base patch hsome => absurd (hmerges.symm.trans hsome) nofun
    refine iff_of_true ?_ hkeeps
    obtain hsame | hinitial | ⟨query, hquery⟩ := filters_act_of_none lossy nt hmerges
    · exact hsame ▸ h
    · exact hinitial ▸ inStep_initialFilters
    · exact hquery ▸ inStep_parsed nt lossy query
  | some merge =>
    obtain ⟨base, patch⟩ := merge
    have hbase : base = s.filters ∨ base = fun _ => none := by
      cases action <;> cases hmerges <;> first | exact .inl rfl | exact .inr rfl
    have hkeeps : action.Keeps s ↔ patch.Tidy base := by
      refine ⟨fun hkeeps => hkeeps base patch hmerges, fun htidy base' patch' hsome => ?_⟩
      obtain ⟨rfl, rfl⟩ := Prod.mk.inj (Option.some.inj (hmerges.symm.trans hsome))
      exact htidy
    rw [filters_act lossy hmerges, hkeeps]
    obtain rfl | rfl := hbase
    · exact inStep_mergeFilters_iff h.legible h.trimmed patch
    · exact inStep_mergeFilters_iff (fun _ v hv => absurd hv (Option.not_mem_none v))
        (fun q hq => absurd hq (Option.not_mem_none q)) patch

theorem noneEmptied_act {s : FiltersState} (h : InStep s.filters) (action : FilterAction) :
    NoneEmptied (s.act nt lossy action).filters := by
  cases hmerges : action.merges s with
  | none =>
    obtain hsame | hinitial | ⟨query, hquery⟩ := filters_act_of_none lossy nt hmerges
    · exact hsame ▸ h.noneEmptied
    · exact hinitial ▸ inStep_initialFilters.noneEmptied
    · exact hquery ▸ (inStep_parsed nt lossy query).noneEmptied
  | some merge =>
    rw [filters_act lossy hmerges]
    exact noneEmptied_mergeFilters _ _

/-! ### Runs -/

include hnt in
/-- One action, seen from the URL. -/
theorem urlStable_act_iff {s : FiltersState} (h : InStep s.filters) (action : FilterAction) :
    (s.act nt lossy action).UrlStable nt lossy ↔ action.Keeps s :=
  (urlStable_iff hnt lossy (noneEmptied_act lossy h action)).trans
    (inStep_act_iff lossy h action)

theorem inStep_of_step {s t : FiltersState} {action : FilterAction} (h : InStep s.filters)
    (hkeeps : action.Keeps s) (hstep : (FiltersState.machine nt lossy).step s action = some t) :
    InStep t.filters := by
  obtain rfl := Option.some.inj hstep
  exact (inStep_act_iff lossy h action).2 hkeeps

include hnt in
/-- **The store and the URL stay in step**: in every run whose actions merge tidy patches
only the query string of every state reached gives its filters back, and a run in which it
does after every action has merged no other patches. -/
theorem filters_follow_url (actions : List FilterAction) :
    ((FiltersState.machine nt lossy).Meets (fun s action => action.Keeps s) .initial actions →
      ∀ s, (FiltersState.machine nt lossy).run .initial actions = some s →
        s.UrlStable nt lossy) ∧
    ((FiltersState.machine nt lossy).Meets
        (fun s action => (s.act nt lossy action).UrlStable nt lossy) .initial actions →
      (FiltersState.machine nt lossy).Meets (fun s action => action.Keeps s) .initial actions) := by
  refine ⟨fun hmeets s hrun => ?_, fun hstable => ?_⟩
  · have hstep := Machine.run_invariant (M := FiltersState.machine nt lossy)
      (I := fun s => InStep s.filters) (fun _ _ _ h hkeeps hl => inStep_of_step lossy h hkeeps hl)
      actions inStep_initialFilters hmeets hrun
    exact (urlStable_iff hnt lossy hstep.noneEmptied).2 hstep
  · refine Machine.Meets.of_invariant (I := fun s => InStep s.filters) ?_ ?_ actions
      inStep_initialFilters hstable
    · exact fun s action t h hurl hl =>
        inStep_of_step lossy h ((urlStable_act_iff hnt lossy h action).1 hurl) hl
    · exact fun s action h hurl => (urlStable_act_iff hnt lossy h action).1 hurl

/-- Away from the point a patch is checked value by value. -/
theorem Patch.tidy_of_no_point {base : SearchFilters} {patch : Patch}
    (hlegible : ∀ k, ((patch k).all fun value => value.all fun v =>
      decide (k.kind.isEmptied v = true ∨ Legible k.kind v)) = true)
    (htrimmed : ∀ q : String, patch .q = some (some q) → trim q = q)
    (hlat : patch.over base .lat = none) (hlng : patch.over base .lng = none)
    (hradius : patch.over base .radiusKm = none)
    (hsorted : (patch.over base .sort).isSome = true)
    (hpaged : ∃ z : ℤ, 1 ≤ z ∧ patch.over base .page = some (.finite z))
    (hlimited : ∃ z : ℤ, patch.over base .limit = some (.finite z)) : patch.Tidy base where
  legible k v hv := by
    have hk := hlegible k
    rw [hv] at hk
    exact of_decide_eq_true hk
  trimmed := htrimmed
  located := by
    rw [hlat, hlng]
    rfl
  around h := by
    rw [hradius] at h
    exact absurd h nofun
  sorted := hsorted
  paged := hpaged
  limited := hlimited

/-- A search, and its second page. -/
def browse : List FilterAction := [.setFilter .q (some "villa"), .setPage (.finite 2)]

theorem keeps_browse :
    (FiltersState.machine .fractions fun _ => "").Meets (fun s action => action.Keeps s) .initial
      browse := by
  refine ⟨fun base patch h => ?_, fun s hs => ⟨fun base patch h => ?_, fun _ _ => trivial⟩⟩
  · cases h
    refine Patch.tidy_of_no_point (fun k => by cases k <;> decide) (fun q hq => ?_) rfl rfl rfl rfl
      ⟨1, le_rfl, rfl⟩ ⟨20, rfl⟩
    cases hq
    decide
  · cases hs
    cases h
    refine Patch.tidy_of_no_point (fun k => by cases k <;> decide) (fun q hq => ?_) rfl rfl rfl rfl
      ⟨2, by decide, rfl⟩ ⟨20, rfl⟩
    cases hq

theorem filters_follow_url_browse :
    ∃ s, (FiltersState.machine .fractions fun _ => "").run .initial browse = some s ∧
      s.UrlStable .fractions fun _ => "" :=
  ⟨_, rfl,
    (filters_follow_url NumberText.lawful_fractions (fun _ => "") browse).1 keeps_browse _ rfl⟩

/-- **A blank that was typed last is lost.**  The query string of the filters then stands for
other filters. -/
theorem blank_falls_out_of_step :
    ¬∀ actions s, (FiltersState.machine .fractions fun _ => "").run .initial actions = some s →
      s.UrlStable .fractions fun _ => "" := by
  intro h
  have hstable := h [.setFilter .q (some "villa ")] _ rfl
  have hstep := (urlStable_iff NumberText.lawful_fractions (fun _ => "")
    (noneEmptied_act (fun _ => "") inStep_initialFilters _)).1 hstable
  have htrim : trim "villa " = "villa " := hstep.trimmed _ rfl
  exact absurd htrim (by decide)

end Web
end TopChoice
