/-
# Blank entries of a search URL

`apps/web/src/lib/filters.ts`: what `deserializeFilters` reads when parameters with a blank
value, and blank entries of the parameters that hold lists, are deleted from the query
(`Deletes`).  Deleting the first of a repeated parameter that holds one value is left out,
the next one would be read in its place.

A deletion takes empty texts out of the trimmed entries of a list (`Thinned`), and changes
nothing in the value of another parameter unless it was blank (`Blanked`).  Most readers skip
what is blank.  A list of numbers does not: `Number('')` is zero, so a blank entry is the
zero that `eraseDups` may keep.  Nor does the delivery date, which is any text that is not
empty.  `Harmless` says when this does not show.
-/

import Mathlib.Logic.Relation
import TopChoice.Lib.Thinned
import TopChoice.Web.SearchFilters

namespace TopChoice
namespace Web

/-! ### Deleting what is blank -/

/-- Empty, or nothing but white space. -/
def Blank (s : String) : Prop := trim s = ""

instance (s : String) : Decidable (Blank s) := inferInstanceAs (Decidable (_ = _))

/-- The keys whose parameters hold lists. -/
def Key.isList (k : Key) : Bool :=
  match k.kind with
  | .texts | .choices _ | .numbers => true
  | .text | .choice _ | .number => false

/-- A parameter of which only the first is read. -/
def IsScalar (name : String) : Prop := ∃ k : Key, k.name = name ∧ k.isList = false

/-- `Deletes params params'`: one parameter with a blank value is deleted, not the first of a
repeated scalar, or one blank entry of a list. -/
inductive Deletes : SearchParams → SearchParams → Prop
  | parameter {name value : String} (before after : SearchParams) : Blank value →
      (IsScalar name → (∀ pair ∈ before, pair.1 ≠ name) → ∀ pair ∈ after, pair.1 ≠ name) →
      Deletes (before ++ (name, value) :: after) (before ++ after)
  | entry {k : Key} {value blank : String} (before after : SearchParams)
      (front back : List String) : k.isList = true → Blank blank →
      splitCommas value = front ++ blank :: back →
      Deletes (before ++ (k.name, value) :: after)
        (before ++ (k.name, ",".intercalate (front ++ back)) :: after)

/-! ### What a deletion leaves of a parameter -/

theorem Key.name_injective : Function.Injective Key.name := fun j k h =>
  List.inj_on_of_nodup_map Key.nodup_names (Key.mem_ordered j) (Key.mem_ordered k) h

namespace SearchParams

theorem getAll_append (p r : SearchParams) (name : String) :
    getAll (p ++ r) name = getAll p name ++ getAll r name := by
  simp [getAll]

theorem getAll_cons_self (name value : String) (p : SearchParams) :
    getAll ((name, value) :: p) name = value :: getAll p name := by
  simp [getAll]

theorem getAll_cons_of_ne {name other : String} (h : other ≠ name) (value : String)
    (p : SearchParams) : getAll ((other, value) :: p) name = getAll p name := by
  simp [getAll, h]

theorem getAll_eq_nil {p : SearchParams} {name : String} (h : ∀ pair ∈ p, pair.1 ≠ name) :
    getAll p name = [] := by
  rw [getAll, List.map_eq_nil_iff, List.filter_eq_nil_iff]
  exact fun pair hpair heq => h pair hpair (of_decide_eq_true heq)

theorem forall_ne_of_getAll_eq_nil {p : SearchParams} {name : String} (h : getAll p name = []) :
    ∀ pair ∈ p, pair.1 ≠ name := by
  rw [getAll, List.map_eq_nil_iff, List.filter_eq_nil_iff] at h
  exact fun pair hpair heq => h pair hpair (decide_eq_true heq)

/-- The entries under a name, trimmed. -/
def trimmed (params : SearchParams) (name : String) : List String :=
  ((params.getAll name).flatMap splitCommas).map trim

end SearchParams

/-- The value is as it was, or it was blank and there is none any more. -/
def Blanked (raw raw' : Option String) : Prop :=
  raw' = raw ∨ raw' = none ∧ ∀ s ∈ raw, Blank s

theorem Blanked.trans {raw raw' raw'' : Option String} (h : Blanked raw raw')
    (h' : Blanked raw' raw'') : Blanked raw raw'' := by
  obtain rfl | ⟨rfl, hblank⟩ := h
  · exact h'
  · obtain rfl | ⟨rfl, -⟩ := h'
    · exact .inr ⟨rfl, hblank⟩
    · exact .inr ⟨rfl, hblank⟩

/-- A blank text holds white space only, and no comma. -/
theorem splitCommas_of_blank {s : String} (h : Blank s) : splitCommas s = [s] := by
  refine splitCommas_of_not_mem fun hcomma => ?_
  exact stripped_ne_empty ⟨',', hcomma, by decide⟩ h

/-- Joined entries are split into themselves, where there are any. -/
theorem splitCommas_intercalate {entries : List String} (hne : entries ≠ [])
    (hplain : ∀ s ∈ entries, ',' ∉ s.toList) :
    splitCommas (",".intercalate entries) = entries := by
  have hcommas : ∀ cs ∈ entries.map String.toList, ',' ∉ cs := by
    intro cs hcs
    obtain ⟨s, hs, rfl⟩ := List.mem_map.1 hcs
    exact hplain s hs
  rw [splitCommas, String.toList_intercalate]
  have hsep : ",".toList = [','] := rfl
  rw [hsep, List.splitOn_intercalate ',' hcommas (by simpa using hne), List.map_map]
  refine (List.map_congr_left fun s _ => ?_).trans (List.map_id _)
  exact String.ofList_toList

namespace SearchParams

theorem trimmed_split (before after : SearchParams) (name value : String) :
    trimmed (before ++ (name, value) :: after) name =
      before.trimmed name ++ ((splitCommas value).map trim ++ after.trimmed name) := by
  simp only [trimmed, getAll_append, getAll_cons_self, List.flatMap_append, List.flatMap_cons,
    List.map_append]

theorem trimmed_split_of_ne {name other : String} (h : other ≠ name) (before after : SearchParams)
    (value : String) :
    trimmed (before ++ (other, value) :: after) name =
      before.trimmed name ++ after.trimmed name := by
  simp only [trimmed, getAll_append, getAll_cons_of_ne h, List.flatMap_append, List.map_append]

theorem trimmed_append (p r : SearchParams) (name : String) :
    trimmed (p ++ r) name = p.trimmed name ++ r.trimmed name := by
  simp only [trimmed, getAll_append, List.flatMap_append, List.map_append]

end SearchParams

/-- **A deletion takes empty texts out of the entries of a list.** -/
theorem Deletes.thinned {params params' : SearchParams} (h : Deletes params params')
    (name : String) : Thinned (· = "") (params.trimmed name) (params'.trimmed name) := by
  cases h with
  | @parameter other value before after hblank _ =>
    by_cases hname : other = name
    · subst hname
      have hempty : decide (trim value = "") = true := decide_eq_true hblank
      rw [SearchParams.trimmed_split, SearchParams.trimmed_append, splitCommas_of_blank hblank,
        List.map_singleton, List.singleton_append]
      exact Thinned.delete (p := fun s => decide (s = "")) hempty _ _
    · rw [SearchParams.trimmed_split_of_ne hname, SearchParams.trimmed_append]
      exact Thinned.refl _ _
  | @entry k value blank before after front back _ hblank hsplit =>
    by_cases hname : k.name = name
    · subst hname
      rw [SearchParams.trimmed_split, SearchParams.trimmed_split, hsplit]
      by_cases hnil : front ++ back = []
      · -- the parameter stays, with an entry as blank as the one deleted
        obtain ⟨rfl, rfl⟩ := List.append_eq_nil_iff.1 hnil
        have hempty : (splitCommas (",".intercalate ([] ++ []))).map trim = [trim blank] := by
          rw [hblank]
          decide
        rw [hempty]
        exact Thinned.refl _ _
      · have hplain : ∀ s ∈ front ++ back, ',' ∉ s.toList := by
          intro s hs
          have hmem : s ∈ splitCommas value := by
            rw [hsplit, List.mem_append]
            exact (List.mem_append.1 hs).imp_right (List.mem_cons_of_mem _)
          exact not_mem_of_mem_splitCommas hmem
        have hempty : decide (trim blank = "") = true := decide_eq_true hblank
        rw [splitCommas_intercalate hnil hplain]
        simp only [List.map_append, List.map_cons, List.append_assoc, List.cons_append]
        rw [← List.append_assoc, ← List.append_assoc]
        exact Thinned.delete (p := fun s => decide (s = "")) hempty _ _
    · rw [SearchParams.trimmed_split_of_ne hname, SearchParams.trimmed_split_of_ne hname]
      exact Thinned.refl _ _

/-- **A deletion leaves the value of a scalar**, unless it was blank. -/
theorem Deletes.blanked {params params' : SearchParams} (h : Deletes params params') {k : Key}
    (hk : k.isList = false) : Blanked (params.get k.name) (params'.get k.name) := by
  cases h with
  | @parameter other value before after hblank hfirst =>
    by_cases hname : other = k.name
    · subst hname
      simp only [SearchParams.get, SearchParams.getAll_append, SearchParams.getAll_cons_self]
      cases hbefore : before.getAll k.name with
      | nil =>
        have hafter := SearchParams.getAll_eq_nil
          (hfirst ⟨k, rfl, hk⟩ (SearchParams.forall_ne_of_getAll_eq_nil hbefore))
        rw [hafter]
        refine .inr ⟨rfl, fun s hs => ?_⟩
        cases hs
        exact hblank
      | cons raw values => exact .inl rfl
    · refine .inl ?_
      simp only [SearchParams.get, SearchParams.getAll_append,
        SearchParams.getAll_cons_of_ne hname]
  | @entry j value blank before after front back hj _ _ =>
    refine .inl ?_
    have hname : j.name ≠ k.name := by
      intro heq
      rw [Key.name_injective heq, hk] at hj
      cases hj
    simp only [SearchParams.get, SearchParams.getAll_append, SearchParams.getAll_cons_of_ne hname]

/-- What any number of deletions leave. -/
structure Kept (params params' : SearchParams) : Prop where
  thinned : ∀ name, Thinned (· = "") (params.trimmed name) (params'.trimmed name)
  blanked : ∀ k : Key, k.isList = false → Blanked (params.get k.name) (params'.get k.name)

/-- **Deletion after deletion**, the entries are thinned and a value stays or was blank. -/
theorem kept_of_deletions {params params' : SearchParams}
    (h : Relation.ReflTransGen Deletes params params') : Kept params params' := by
  induction h with
  | refl => exact ⟨fun name => Thinned.refl _ _, fun k _ => .inl rfl⟩
  | tail _ hdelete ih =>
    exact ⟨fun name => (ih.thinned name).trans (hdelete.thinned name),
      fun k hk => (ih.blanked k hk).trans (hdelete.blanked hk)⟩

/-! ### What is read after the deletions -/

/-- The finite numbers among the entries under a name. -/
def entryNumbers (nt : NumberText) (params : SearchParams) (name : String) : List JsNumber :=
  ((params.trimmed name).map nt.number).filter (·.isFinite)

/-- A zero that was there still is, and no number comes before the first one that did not. -/
def ZeroStays (numbers numbers' : List JsNumber) : Prop :=
  .finite 0 ∈ numbers →
    .finite 0 ∈ numbers' ∧ ∀ n ∈ numbers'.takeWhile (· ≠ .finite 0),
      n ∈ numbers.takeWhile (· ≠ .finite 0)

instance (numbers numbers' : List JsNumber) : Decidable (ZeroStays numbers numbers') :=
  inferInstanceAs (Decidable (_ → _ ∧ _))

/-- The deletions do not show: in the lists of numbers the zero that a blank entry is stays
where it was, and a delivery date is still there, unless it was empty. -/
structure Harmless (nt : NumberText) (params params' : SearchParams) : Prop where
  bedrooms : ZeroStays (entryNumbers nt params "bedrooms") (entryNumbers nt params' "bedrooms")
  bathrooms : ZeroStays (entryNumbers nt params "bathrooms") (entryNumbers nt params' "bathrooms")
  deliveryBefore : ∀ date ∈ params.get "deliveryBefore", date ≠ "" →
    params'.get "deliveryBefore" ≠ none

theorem nonEmpty_inj {α : Type} {values values' : List α} :
    nonEmpty values = nonEmpty values' ↔ values = values' := by
  cases values <;> cases values' <;> simp [nonEmpty]

theorem readNumberList_eq_entryNumbers (nt : NumberText) (params : SearchParams) (name : String) :
    readNumberList nt params name = nonEmpty (entryNumbers nt params name).eraseDups := by
  rw [readNumberList, entryNumbers, SearchParams.trimmed, List.map_map]
  rfl

section

variable {params params' : SearchParams} {name : String} {raw raw' : Option String}

/-- A list of texts skips what is blank. -/
theorem readStringList_of_thinned
    (h : Thinned (· = "") (params.trimmed name) (params'.trimmed name)) :
    readStringList params' name = readStringList params name := by
  have hfilter := h.filter_eq
  simp only [← decide_not] at hfilter
  have hread (params : SearchParams) : readStringList params name =
      nonEmpty ((params.trimmed name).filter (· ≠ "")).eraseDups := rfl
  rw [hread, hread, hfilter]

theorem readChoices_of_thinned (all : List String)
    (h : Thinned (· = "") (params.trimmed name) (params'.trimmed name)) :
    readChoices all params' name = readChoices all params name := by
  rw [readChoices, readChoices, readStringList_of_thinned h]

/-- A list of numbers reads it as a zero. -/
theorem readNumberList_of_thinned {nt : NumberText} (hempty : nt.number "" = .finite 0)
    (h : Thinned (· = "") (params.trimmed name) (params'.trimmed name)) :
    readNumberList nt params' name = readNumberList nt params name ↔
      ZeroStays (entryNumbers nt params name) (entryNumbers nt params' name) := by
  have hzero : Thinned (· = .finite 0) (entryNumbers nt params name)
      (entryNumbers nt params' name) := by
    refine (h.map fun s hs => ?_).filter _
    rw [of_decide_eq_true hs, hempty]
    exact decide_eq_true rfl
  rw [readNumberList_eq_entryNumbers, readNumberList_eq_entryNumbers, nonEmpty_inj]
  exact hzero.eraseDups_eq_iff

/-- A number skips what is blank. -/
theorem readNumber_of_blanked (nt : NumberText) (h : Blanked (params.get name) (params'.get name)) :
    readNumber nt params' name = readNumber nt params name := by
  rw [readNumber, readNumber]
  obtain heq | ⟨hnone, hblank⟩ := h
  · rw [heq]
  · rw [hnone]
    cases hget : params.get name with
    | none => rfl
    | some raw => exact (if_pos (hblank raw hget)).symm

/-- A trimmed text skips it too. -/
theorem trimmedText_of_blanked (h : Blanked (params.get name) (params'.get name)) :
    ((params'.get name).map trim).filter (fun q : String => q ≠ "") =
      ((params.get name).map trim).filter fun q : String => q ≠ "" := by
  obtain heq | ⟨hnone, hblank⟩ := h
  · rw [heq]
  · rw [hnone, Option.map_none, Option.filter_none]
    symm
    rw [Option.filter_eq_none_iff]
    intro q hq
    obtain ⟨raw, hraw, rfl⟩ := Option.map_eq_some_iff.1 hq
    exact fun hne => of_decide_eq_true hne (hblank raw hraw)

/-- A blank text is none of the choices. -/
theorem readChoice_of_blanked {all : List String} (hall : ∀ s ∈ all, ¬ Blank s)
    (h : Blanked (params.get name) (params'.get name)) :
    readChoice all params' name = readChoice all params name := by
  rw [readChoice, readChoice, readText, readText]
  obtain heq | ⟨hnone, hblank⟩ := h
  · rw [heq]
  · rw [hnone, Option.filter_none, Option.bind_none]
    symm
    rw [Option.bind_eq_none_iff]
    intro s hs
    have hget := (Option.filter_eq_some_iff.1 hs).1
    exact dif_neg fun hmem => hall s hmem (hblank s hget)

/-- Any text that is not empty is a date. -/
theorem readText_of_blanked (h : Blanked (params.get name) (params'.get name)) :
    readText params' name = readText params name ↔
      ∀ s ∈ params.get name, s ≠ "" → params'.get name ≠ none := by
  rw [readText, readText]
  obtain heq | ⟨hnone, hblank⟩ := h
  · rw [heq]
    refine iff_of_true rfl fun s hs _ hnone => ?_
    rw [hnone] at hs
    cases hs
  · rw [hnone, Option.filter_none]
    constructor
    · intro hread s hs hne
      rw [hs, Option.filter_some, if_pos (decide_eq_true hne)] at hread
      cases hread
    · intro hall
      symm
      rw [Option.filter_eq_none_iff]
      exact fun s hs hne => hall s hs (of_decide_eq_true hne) rfl

end

theorem not_blank_choices :
    ∀ all ∈ [saleTypes, propertyStatuses, searchSorts], ∀ s ∈ all, ¬ Blank s := by decide

/-- **Blank entries mean nothing**, if and only if no zero is lost or moved with them in the
lists of numbers, nor the only delivery date. -/
theorem blanks_deleted_iff {nt : NumberText} (hempty : nt.number "" = .finite 0)
    (lossy : List UInt8 → String) {query query' : String}
    (h : Relation.ReflTransGen Deletes (FormUrlEncoded.parse lossy query)
      (FormUrlEncoded.parse lossy query')) :
    deserializeFilters nt lossy (.text query') = deserializeFilters nt lossy (.text query) ↔
      Harmless nt (FormUrlEncoded.parse lossy query) (FormUrlEncoded.parse lossy query') := by
  have hkept := kept_of_deletions h
  simp only [deserializeFilters, toURLSearchParams]
  generalize FormUrlEncoded.parse lossy query = params at hkept ⊢
  generalize FormUrlEncoded.parse lossy query' = params' at hkept ⊢
  have hnumber (k : Key) (hk : k.isList = false) :
      readNumber nt params' k.name = readNumber nt params k.name :=
    readNumber_of_blanked nt (hkept.blanked k hk)
  have hlat : readNumber nt params' "lat" = readNumber nt params "lat" := hnumber .lat rfl
  have hlng : readNumber nt params' "lng" = readNumber nt params "lng" := hnumber .lng rfl
  have hradius : readNumber nt params' "radiusKm" = readNumber nt params "radiusKm" :=
    hnumber .radiusKm rfl
  have hpage : readNumber nt params' "page" = readNumber nt params "page" := hnumber .page rfl
  have hlimit : readNumber nt params' "limit" = readNumber nt params "limit" :=
    hnumber .limit rfl
  have hbedrooms := readNumberList_of_thinned hempty (hkept.thinned "bedrooms")
  have hbathrooms := readNumberList_of_thinned hempty (hkept.thinned "bathrooms")
  have hdate := readText_of_blanked (hkept.blanked .deliveryBefore rfl)
  constructor
  · intro heq
    exact ⟨hbedrooms.1 (congrFun heq .bedrooms), hbathrooms.1 (congrFun heq .bathrooms),
      hdate.1 (congrFun heq .deliveryBefore)⟩
  · intro hharmless
    funext k
    cases k with
    | q => exact trimmedText_of_blanked (hkept.blanked .q rfl)
    | propertyType => exact readChoices_of_thinned _ (hkept.thinned _)
    | finishing => exact readChoices_of_thinned _ (hkept.thinned _)
    | saleType =>
      exact readChoice_of_blanked (not_blank_choices _ (by simp)) (hkept.blanked .saleType rfl)
    | status =>
      exact readChoice_of_blanked (not_blank_choices _ (by simp)) (hkept.blanked .status rfl)
    | sort => exact readChoice_of_blanked (not_blank_choices _ (by simp)) (hkept.blanked .sort rfl)
    | bedrooms => exact hbedrooms.2 hharmless.bedrooms
    | bathrooms => exact hbathrooms.2 hharmless.bathrooms
    | areaId => exact readStringList_of_thinned (hkept.thinned _)
    | compoundId => exact readStringList_of_thinned (hkept.thinned _)
    | developerId => exact readStringList_of_thinned (hkept.thinned _)
    | amenities => exact readStringList_of_thinned (hkept.thinned _)
    | deliveryBefore => exact hdate.2 hharmless.deliveryBefore
    | minPrice => exact hnumber .minPrice rfl
    | maxPrice => exact hnumber .maxPrice rfl
    | minArea => exact hnumber .minArea rfl
    | maxArea => exact hnumber .maxArea rfl
    | maxDownPayment => exact hnumber .maxDownPayment rfl
    | minInstallmentYears => exact hnumber .minInstallmentYears rfl
    | lat => rw [readFilters, readFilters, hlat, hlng]
    | lng => rw [readFilters, readFilters, hlat, hlng]
    | radiusKm => rw [readFilters, readFilters, hlat, hlng, hradius]
    | page => rw [readFilters, readFilters, hpage]
    | limit => rw [readFilters, readFilters, hlimit]

/-- Three rooms or a studio, with two blank entries after them and a blank search. -/
theorem blanks_deleted_after_a_zero :
    deserializeFilters .fractions (fun _ => "") (.text "bedrooms=3,0&minPrice=5") =
        deserializeFilters .fractions (fun _ => "") (.text "bedrooms=3,0,,&q=+&minPrice=5") ↔
      Harmless .fractions (FormUrlEncoded.parse (fun _ => "") "bedrooms=3,0,,&q=+&minPrice=5")
        (FormUrlEncoded.parse (fun _ => "") "bedrooms=3,0&minPrice=5") := by
  refine blanks_deleted_iff (by decide) (fun _ => "") ?_
  have hquery : FormUrlEncoded.parse (fun _ => "") "bedrooms=3,0,,&q=+&minPrice=5" =
      [("bedrooms", "3,0,,"), ("q", " "), ("minPrice", "5")] := by
    decide
  have hquery' : FormUrlEncoded.parse (fun _ => "") "bedrooms=3,0&minPrice=5" =
      [("bedrooms", "3,0"), ("minPrice", "5")] := by
    decide
  rw [hquery, hquery']
  have hblank : Blank "" := by decide
  have hfirst : Deletes [("bedrooms", "3,0,,"), ("q", " "), ("minPrice", "5")]
      [("bedrooms", "3,0,"), ("q", " "), ("minPrice", "5")] :=
    Deletes.entry (k := .bedrooms) [] _ ["3", "0"] [""] rfl hblank (by decide)
  have hsecond : Deletes [("bedrooms", "3,0,"), ("q", " "), ("minPrice", "5")]
      [("bedrooms", "3,0"), ("q", " "), ("minPrice", "5")] :=
    Deletes.entry (k := .bedrooms) [] _ ["3", "0"] [] rfl hblank (by decide)
  have hthird : Deletes [("bedrooms", "3,0"), ("q", " "), ("minPrice", "5")]
      [("bedrooms", "3,0"), ("minPrice", "5")] :=
    Deletes.parameter [("bedrooms", "3,0")] [("minPrice", "5")] (by decide) fun _ _ => by decide
  exact ((Relation.ReflTransGen.single hfirst).tail hsecond).tail hthird

/-- A list of rooms that is left empty asks for studios, and deleting it does not. -/
theorem empty_rooms_are_studios :
    NumberText.fractions.number "" = .finite 0 ∧
      Deletes (FormUrlEncoded.parse (fun _ => "") "bedrooms=")
        (FormUrlEncoded.parse (fun _ => "") "") ∧
      deserializeFilters .fractions (fun _ => "") (.text "") ≠
        deserializeFilters .fractions (fun _ => "") (.text "bedrooms=") := by
  have hquery : FormUrlEncoded.parse (fun _ => "") "bedrooms=" = [("bedrooms", "")] := by decide
  have hquery' : FormUrlEncoded.parse (fun _ => "") "" = [] := by decide
  refine ⟨by decide, ?_, fun heq => ?_⟩
  · rw [hquery, hquery']
    exact Deletes.parameter [] [] (by decide) fun _ _ => by decide
  · have hrooms := congrFun heq .bedrooms
    simp only [deserializeFilters, toURLSearchParams, hquery, hquery'] at hrooms
    exact absurd hrooms (by decide)

end Web
end TopChoice
