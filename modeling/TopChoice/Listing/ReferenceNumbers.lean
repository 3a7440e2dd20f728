/-
# Reference numbers

`nextReferenceNo` of `properties.service.ts` counts on from the last reference number in the
order of the texts.  A number comes after the last one in that order, too, unless the digits of
the last one are all nines (`DecimalOrder.lt_toDigits_succ`): `TC-10000` comes before `TC-9999`,
so once it is in use it is handed out again and again.

The next number is fresh exactly when that power of ten is not in use; from 2^53 on, where a
`Number` is not exact, when the number it prints is not (`nextReferenceNo_fresh_iff`).
-/

import TopChoice.Lib.DecimalOrder
import TopChoice.Listing.PropertiesService
import Mathlib.Data.String.Basic

namespace TopChoice
namespace Listing

open DecimalOrder

/-- What `Number` does to whole numbers: below 2^53 the next one is exact, and no text of one has
white space. -/
structure Runtime.CountsExactly (r : Runtime) : Prop where
  exact : ∀ n, n < 2 ^ 53 → r.nextNumber n = some (toString (n + 1))
  noSpace : ∀ n text, r.nextNumber n = some text → ∀ c ∈ text.toList, isWhiteSpace c = false

/-- The digits of the latest reference number. -/
def latestDigits (s : ListingStore) : List Char := (latestReferenceNo s).toList.drop 3

/-- The number after the latest one is not in use: the power of ten after nines, and what a
`Number` that is not exact prints. -/
def CountsOn (r : Runtime) (s : ListingStore) : Prop :=
  (parseDigits (latestDigits s) < 2 ^ 53 → latestDigits s ≠ [] →
    (∀ c ∈ latestDigits s, c = '9') →
    ∀ d ∈ s.properties, d.referenceNo ≠ "TC-" ++ toString (10 ^ (latestDigits s).length)) ∧
  (2 ^ 53 ≤ parseDigits (latestDigits s) → ∀ d ∈ s.properties,
    d.referenceNo ≠ "TC-" ++ (r.nextNumber (parseDigits (latestDigits s))).getD "1001")

/-- The number handed out is in use by no listing. -/
def NextIsFresh (r : Runtime) (s : ListingStore) : Prop :=
  ∀ d ∈ s.properties, d.referenceNo ≠ nextReferenceNo r s

/-! ### Reference numbers as texts -/

theorem parseDigits_eq (digits : List Char) : parseDigits digits = value digits := by
  have hstep : (fun (n : ℕ) (c : Char) => n * 10 + (c.toNat - '0'.toNat)) =
      fun n c => 10 * n + (c.toNat - '0'.toNat) := by
    funext n c
    rw [Nat.mul_comm]
  rw [parseDigits, hstep, value, Nat.ofDigitChars_eq_foldl]

theorem toList_reference (digits : List Char) :
    ("TC-" ++ String.ofList digits).toList = 'T' :: 'C' :: '-' :: digits := by
  rw [String.toList_append, String.toList_ofList, String.toList_ofList]
  rfl

/-- **The texts that are counted.** -/
theorem isReferenceNo_iff {referenceNo : String} : isReferenceNo referenceNo = true ↔
    ∃ digits, digits ≠ [] ∧ AllDigits digits ∧ referenceNo = "TC-" ++ String.ofList digits := by
  have htexts : "TC-".toList = ['T', 'C', '-'] := by decide
  simp only [isReferenceNo, Bool.and_eq_true, decide_eq_true_eq, List.all_eq_true, htexts]
  constructor
  · rintro ⟨⟨htake, hne⟩, hdigits⟩
    refine ⟨_, hne, hdigits, ?_⟩
    rw [← String.toList_inj, toList_reference]
    calc referenceNo.toList = referenceNo.toList.take 3 ++ referenceNo.toList.drop 3 :=
          (List.take_append_drop ..).symm
      _ = _ := by rw [htake]; rfl
  · rintro ⟨digits, hne, hdigits, rfl⟩
    rw [toList_reference]
    exact ⟨⟨rfl, hne⟩, hdigits⟩

theorem isReferenceNo_toString (n : ℕ) : isReferenceNo ("TC-" ++ toString n) = true :=
  isReferenceNo_iff.2 ⟨Nat.toDigits 10 n, Nat.toDigits_ne_nil, allDigits_toDigits n, by
    rw [Nat.toString_eq_ofList_toDigits]⟩

theorem append_lt_append {digits digits' : List Char} (h : digits < digits') :
    "TC-" ++ String.ofList digits < "TC-" ++ String.ofList digits' := by
  rw [String.lt_iff_toList_lt, toList_reference, toList_reference]
  show ['T', 'C', '-'] ++ digits < ['T', 'C', '-'] ++ digits'
  exact List.append_left_lt h

/-! ### The latest one -/

/-- The greatest text of a list. -/
theorem foldl_greatest (texts : List String) (first : String) :
    let latest := texts.foldl (fun latest text => if latest < text then text else latest) first
    (latest = first ∨ latest ∈ texts) ∧ first ≤ latest ∧ ∀ text ∈ texts, text ≤ latest := by
  induction texts generalizing first with
  | nil => exact ⟨.inl rfl, le_rfl, fun _ h => nomatch h⟩
  | cons text texts ih =>
    rw [List.foldl_cons]
    obtain ⟨hmem, hfirst, hall⟩ := ih (if first < text then text else first)
    split_ifs at hmem hfirst hall ⊢ with hlt
    · exact ⟨.inr (List.mem_cons.2 hmem), hlt.le.trans hfirst,
        List.forall_mem_cons.2 ⟨hfirst, hall⟩⟩
    · exact ⟨hmem.imp_right (List.mem_cons_of_mem _), hfirst,
        List.forall_mem_cons.2 ⟨(not_lt.1 hlt).trans hfirst, hall⟩⟩

section Latest

variable (s : ListingStore)

/-- **No reference number that is counted comes after the latest one.** -/
theorem le_latestReferenceNo {d : Property} (hd : d ∈ s.properties)
    (h : isReferenceNo d.referenceNo = true) : d.referenceNo ≤ latestReferenceNo s :=
  (foldl_greatest _ "").2.2 _ (List.mem_filter.2 ⟨List.mem_map_of_mem hd, h⟩)

/-- The latest one is one, when there is one. -/
theorem latestReferenceNo_eq (h : latestReferenceNo s ≠ "") :
    latestDigits s ≠ [] ∧ AllDigits (latestDigits s) ∧
      latestReferenceNo s = "TC-" ++ String.ofList (latestDigits s) := by
  have hmem := (foldl_greatest ((s.properties.map Property.referenceNo).filter isReferenceNo)
    "").1.resolve_left h
  obtain ⟨digits, hne, hdigits, heq⟩ := isReferenceNo_iff.1 (List.mem_filter.1 hmem).2
  have heq : latestReferenceNo s = "TC-" ++ String.ofList digits := heq
  have hdrop : latestDigits s = digits := by
    rw [latestDigits, heq, toList_reference]
    rfl
  rw [hdrop]
  exact ⟨hne, hdigits, heq⟩

/-- The next one, below 2^53. -/
theorem nextReferenceNo_eq {r : Runtime} (hr : r.CountsExactly) (h : latestReferenceNo s ≠ "")
    (hexact : parseDigits (latestDigits s) < 2 ^ 53) :
    nextReferenceNo r s = "TC-" ++ toString (value (latestDigits s) + 1) := by
  rw [nextReferenceNo, if_neg h, ← latestDigits, hr.exact _ hexact, Option.getD_some, parseDigits_eq]

/-- **The next number is fresh** exactly when the listing counts on. -/
theorem fresh_iff {r : Runtime} (hr : r.CountsExactly) : NextIsFresh r s ↔ CountsOn r s := by
  by_cases hnone : latestReferenceNo s = ""
  · -- there is no reference number of this form, and the first is fresh
    have hdigits : latestDigits s = [] := by rw [latestDigits, hnone]; rfl
    have hnext : nextReferenceNo r s = "TC-" ++ toString 1001 := by
      rw [nextReferenceNo, if_pos hnone, hr.exact 1000 (by decide)]
      rfl
    refine iff_of_true (fun d hd heq => ?_) ⟨fun _ hne => absurd hdigits hne, fun hlarge => ?_⟩
    · have hcounted : isReferenceNo d.referenceNo = true := by
        rw [heq, hnext]
        exact isReferenceNo_toString 1001
      have hle := le_latestReferenceNo s hd hcounted
      rw [heq, hnext, hnone] at hle
      exact absurd hle (by decide)
    · rw [hdigits] at hlarge
      exact absurd hlarge (by decide)
  obtain ⟨hne, hdigits, hlatest⟩ := latestReferenceNo_eq s hnone
  rcases lt_or_ge (parseDigits (latestDigits s)) (2 ^ 53) with hsmall | hlarge
  · have hnext := nextReferenceNo_eq s hr hnone hsmall
    by_cases hnines : ∀ c ∈ latestDigits s, c = '9'
    · -- after nines comes the power of ten
      have hpow : value (latestDigits s) + 1 = 10 ^ (latestDigits s).length :=
        (value_add_one_eq_iff hdigits).2 hnines
      rw [NextIsFresh, hnext, hpow]
      exact ⟨fun h => ⟨fun _ _ _ => h, fun hlarge => absurd hsmall hlarge.not_gt⟩,
        fun h => h.1 hsmall hne hnines⟩
    · -- otherwise the next one comes after the latest
      refine iff_of_true (fun d hd heq => ?_) ⟨fun _ _ h => absurd h hnines,
        fun hlarge => absurd hsmall hlarge.not_gt⟩
      have hafter : latestReferenceNo s < nextReferenceNo r s := by
        rw [hnext, hlatest, Nat.toString_eq_ofList_toDigits]
        exact append_lt_append (lt_toDigits_succ hne hdigits hnines)
      have hle : d.referenceNo ≤ latestReferenceNo s :=
        le_latestReferenceNo s hd (by rw [heq, hnext]; exact isReferenceNo_toString _)
      rw [heq] at hle
      exact absurd hafter hle.not_gt
  · have hnext : nextReferenceNo r s =
        "TC-" ++ (r.nextNumber (parseDigits (latestDigits s))).getD "1001" := by
      rw [nextReferenceNo, if_neg hnone]
      rfl
    rw [NextIsFresh, hnext]
    exact ⟨fun h => ⟨fun hsmall => absurd hlarge hsmall.not_ge, fun _ => h⟩, fun h => h.2 hlarge⟩

end Latest

/-! ### Successive creates -/

/-- The reference number of the document a `create` passes on. -/
def CreatePropertyDto.storedReferenceNo (r : Runtime) (dto : CreatePropertyDto)
    (s : ListingStore) : String :=
  trim (dto.referenceNo.getD (nextReferenceNo r s))

theorem referenceNo_document (r : Runtime) (dto : CreatePropertyDto) (propertyId : String)
    (_id : ObjectId) (slug : String) (area : Catalog.Area) (compound : Catalog.Compound)
    (developer : Catalog.Developer) (s : PropertiesStore) :
    ((dto.document r propertyId _id slug (nextReferenceNo r s.listings) area compound developer
      s.now).cast r.unicode).referenceNo = dto.storedReferenceNo r s.listings := rfl

/-- A number handed out has no white space to trim. -/
theorem trim_nextReferenceNo {r : Runtime} (hr : r.CountsExactly) (s : ListingStore) :
    trim (nextReferenceNo r s) = nextReferenceNo r s := by
  refine stripped_eq_self fun c hc => ?_
  rw [nextReferenceNo, String.toList_append, List.mem_append] at hc
  rcases hc with hc | hc
  · have hfirst : ∀ c ∈ "TC-".toList, isWhiteSpace c = false := by simp [isWhiteSpace]
    exact hfirst c hc
  · set current := if latestReferenceNo s = "" then 1000
      else parseDigits ((latestReferenceNo s).toList.drop 3)
    cases hnext : r.nextNumber current with
    | none =>
      rw [hnext] at hc
      have hdefault : ∀ c ∈ "1001".toList, isWhiteSpace c = false := by simp [isWhiteSpace]
      exact hdefault c hc
    | some text =>
      rw [hnext] at hc
      exact hr.noSpace current text hnext c hc

/-- A `create` without a reference number passes on one that the unique index admits. -/
def IndexAdmits (r : Runtime) (s : PropertiesStore) : PropertyCall → Prop
  | .create dto _ _ _ => dto.referenceNo = none →
      ∀ d ∈ s.listings.properties, d.referenceNo ≠ dto.storedReferenceNo r s.listings
  | _ => True

/-- **The next number is fresh** exactly when the power of ten after nines, and what a `Number`
from 2^53 on prints, is not in use; along every run of calls before each of which that is so, the
unique index admits the number of every `create` that does not give one. -/
theorem nextReferenceNo_fresh_iff (r : Runtime) (hr : r.CountsExactly) :
    (∀ s : ListingStore, NextIsFresh r s ↔ CountsOn r s) ∧
      ∀ (s : PropertiesStore) (calls : List PropertyCall),
        (propertyCalls r).Meets (fun s _ => CountsOn r s.listings) s calls →
        (propertyCalls r).Meets (IndexAdmits r) s calls := by
  refine ⟨fun s => fresh_iff s hr, fun s calls hcounts => ?_⟩
  refine Machine.Meets.of_invariant (I := fun _ => True) (fun _ _ _ _ _ _ => trivial)
    (fun s call _ hcall => ?_) calls trivial hcounts
  cases call with
  | create dto _ _ _ =>
    intro hnone d hd heq
    rw [CreatePropertyDto.storedReferenceNo, hnone, Option.getD_none,
      trim_nextReferenceNo hr] at heq
    exact (fresh_iff s.listings hr).2 hcall d hd heq
  | findOne _ => trivial
  | update _ _ _ => trivial
  | remove _ _ => trivial
  | tick _ => trivial

theorem demoRuntime_countsExactly : demoRuntime.CountsExactly where
  exact _ _ := rfl
  noSpace n text h c hc := by
    obtain rfl := Option.some.inj h
    exact isWhiteSpace_of_slugChar (slugChar_of_mem_toString hc)

theorem nextReferenceNo_fresh_iff_demo :
    (∀ s : ListingStore, NextIsFresh demoRuntime s ↔ CountsOn demoRuntime s) ∧
      ∀ (s : PropertiesStore) (calls : List PropertyCall),
        (propertyCalls demoRuntime).Meets (fun s _ => CountsOn demoRuntime s.listings) s calls →
        (propertyCalls demoRuntime).Meets (IndexAdmits demoRuntime) s calls :=
  nextReferenceNo_fresh_iff demoRuntime demoRuntime_countsExactly

/-- Two listings, the second with one digit more. -/
def demoTenThousand : ListingStore :=
  { properties :=
      [{ demoProperty with referenceNo := "TC-9999" },
        { demoProperty with
          _id := demoObjectId
          propertyId := "11111111-1111-4111-8111-111111111111"
          slug := "sky-flat"
          referenceNo := "TC-10000" }]
    propertyIndex := [] }

/-- **The ten thousandth number is handed out twice.** -/
theorem reference_number_repeats :
    nextReferenceNo demoRuntime demoTenThousand = "TC-10000" ∧
      ∃ d ∈ demoTenThousand.properties, d.referenceNo = "TC-10000" := by
  decide

end Listing
end TopChoice
