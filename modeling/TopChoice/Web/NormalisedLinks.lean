/-
# Links that are read, written and read again

`apps/web/src/lib/filters.ts`: the filters of a link are written to another link, which is
read in its turn.  Everything that is read is shareable (`shareable_readFilters`), so the
second reading can only differ where `SearchFilters.read` does, in the page and the limit.
The reader tests both as they stand in the link and rounds them afterwards, and the second
reading tests what was rounded: a page of `1.5` is above one, its floor is not.
-/

import TopChoice.Web.SearchFilters

namespace TopChoice
namespace Web

/-- A number strictly between a whole number and the next, which rounding takes down to it. -/
def RoundsDownTo (z : ℤ) (n : Option JsNumber) : Prop :=
  ∃ q : ℚ, n = some (.finite q) ∧ (z : ℚ) < q ∧ q < z + 1

/-- **A test made before rounding survives another one after it** if and only if rounding
keeps what the test asks for. -/
theorem filter_map_floor_iff (p : JsNumber → Bool) (n : Option JsNumber) :
    ((n.filter p).map (·.floor)).filter p = (n.filter p).map (·.floor) ↔
      ∀ m ∈ n, p m = true → p m.floor = true := by
  cases n with
  | none => simp
  | some m =>
    by_cases hm : p m = true
    · rw [Option.filter_some, if_pos hm, Option.map_some, Option.filter_some]
      by_cases hfloor : p m.floor = true
      · simp [hfloor]
      · simp [hfloor, hm]
    · simp [Option.filter_some, hm]

/-- A page is above one and its floor is not: it lies between one and two. -/
theorem aboveOne_floor_iff (n : Option JsNumber) :
    (∀ m ∈ n, m.aboveOne = true → m.floor.aboveOne = true) ↔ ¬ RoundsDownTo 1 n := by
  constructor
  · rintro hall ⟨q, rfl, hlow, hhigh⟩
    have hfloor : ⌊q⌋ = 1 := Int.floor_eq_iff.2 ⟨by exact_mod_cast hlow.le, hhigh⟩
    have habove := hall _ rfl (decide_eq_true (by exact_mod_cast hlow))
    rw [JsNumber.floor, hfloor] at habove
    have hlt : (1 : ℚ) < (1 : ℤ) := of_decide_eq_true habove
    exact absurd hlt (by norm_num)
  · intro hnot m hm habove
    cases m with
    | finite q =>
      have hlow : 1 < q := of_decide_eq_true habove
      have hhigh : 2 ≤ q := by
        by_contra hlt
        exact hnot ⟨q, hm, by exact_mod_cast hlow, by push_cast; linarith⟩
      have hfloor : (2 : ℤ) ≤ ⌊q⌋ := Int.le_floor.2 (by exact_mod_cast hhigh)
      have hcast : (1 : ℚ) < ⌊q⌋ := by exact_mod_cast (show (1 : ℤ) < ⌊q⌋ by omega)
      exact decide_eq_true hcast
    | infinite negative => exact habove
    | nan => exact habove

/-- A limit is not the default one and its floor is: it lies just above the default. -/
theorem ne_default_floor_iff (n : Option JsNumber) :
    (∀ m ∈ n, decide (m ≠ .finite defaultPageSize) = true →
        decide (m.floor ≠ .finite defaultPageSize) = true) ↔ ¬ RoundsDownTo 20 n := by
  constructor
  · rintro hall ⟨q, rfl, hlow, hhigh⟩
    have hfloor : ⌊q⌋ = 20 := Int.floor_eq_iff.2 ⟨by exact_mod_cast hlow.le, hhigh⟩
    have hne : JsNumber.finite q ≠ .finite defaultPageSize := by
      intro heq
      rw [JsNumber.finite.inj heq] at hlow
      exact absurd hlow (by norm_num [defaultPageSize])
    refine of_decide_eq_true (hall _ rfl (decide_eq_true hne)) ?_
    rw [JsNumber.floor, hfloor]
    norm_num [defaultPageSize]
  · intro hnot m hm hne
    refine decide_eq_true fun hfloor => ?_
    cases m with
    | finite q =>
      have hcast : ((⌊q⌋ : ℤ) : ℚ) = 20 := JsNumber.finite.inj hfloor
      have hwhole : ⌊q⌋ = 20 := by exact_mod_cast hcast
      obtain ⟨hlow, hhigh⟩ := Int.floor_eq_iff.1 hwhole
      have hq : q ≠ 20 := fun hq => of_decide_eq_true hne (congrArg JsNumber.finite hq)
      exact hnot ⟨q, hm, lt_of_le_of_ne hlow (by exact_mod_cast hq.symm), hhigh⟩
    | infinite negative => exact of_decide_eq_true hne hfloor
    | nan => exact of_decide_eq_true hne hfloor

/-- Only the page and the limit can be read otherwise. -/
theorem SearchFilters.read_eq_self_iff (f : SearchFilters) :
    f.read = f ↔ f.read .page = f .page ∧ f.read .limit = f .limit := by
  constructor
  · intro h
    exact ⟨congrFun h .page, congrFun h .limit⟩
  · rintro ⟨hpage, hlimit⟩
    funext k
    cases k with
    | page => exact hpage
    | limit => exact hlimit
    | _ => rfl

/-- **Normalising a link a second time changes nothing**, if and only if its page does not
lie between one and two, nor its limit just above the default one. -/
theorem normalised_again_iff {nt : NumberText} (hnt : nt.Lawful) (lossy : List UInt8 → String)
    (query : String) :
    deserializeFilters nt lossy
          (.text (serializeFilters nt (deserializeFilters nt lossy (.text query)))) =
        deserializeFilters nt lossy (.text query) ↔
      ¬ RoundsDownTo 1 (readNumber nt (FormUrlEncoded.parse lossy query) "page") ∧
        ¬ RoundsDownTo 20 (readNumber nt (FormUrlEncoded.parse lossy query) "limit") := by
  have hread := readFilters_searchParams hnt
    (shareable_readFilters nt (FormUrlEncoded.parse lossy query))
  rw [← aboveOne_floor_iff, ← ne_default_floor_iff, ← filter_map_floor_iff,
    ← filter_map_floor_iff fun n => decide (n ≠ .finite defaultPageSize)]
  simp only [deserializeFilters, toURLSearchParams, serializeFilters, FormUrlEncoded.parse_print]
  rw [hread]
  exact SearchFilters.read_eq_self_iff _

/-- The second page of a search is the second page of its link. -/
theorem normalised_again_second_page :
    deserializeFilters .fractions (fun _ => "") (.text (serializeFilters .fractions
          (deserializeFilters .fractions (fun _ => "") (.text "page=2&q=villa")))) =
        deserializeFilters .fractions (fun _ => "") (.text "page=2&q=villa") ↔
      ¬ RoundsDownTo 1
          (readNumber .fractions (FormUrlEncoded.parse (fun _ => "") "page=2&q=villa") "page") ∧
        ¬ RoundsDownTo 20
          (readNumber .fractions (FormUrlEncoded.parse (fun _ => "") "page=2&q=villa") "limit") :=
  normalised_again_iff NumberText.lawful_fractions (fun _ => "") "page=2&q=villa"

/-- Texts in which one and a half is written as the language writes it. -/
def NumberText.oneAndAHalf : NumberText where
  string n := if n = .finite (3 / 2) then "1.5" else NumberText.fractions.string n
  number s := if s = "1.5" then .finite (3 / 2) else NumberText.fractions.number s

/-- No fraction is written with a point. -/
theorem string_fractions_ne_point (n : JsNumber) : NumberText.fractions.string n ≠ "1.5" := by
  cases n with
  | finite q =>
    intro htext
    have hpoint : '.' ∈ (NumberText.fractions.string (.finite q)).toList := by
      rw [htext]
      decide
    obtain h | h | h := mem_string_finite hpoint
    · exact absurd h (by decide)
    · exact absurd h (by decide)
    · exact absurd h (by decide)
  | infinite negative => cases negative <;> decide
  | nan => decide

theorem NumberText.lawful_oneAndAHalf : NumberText.oneAndAHalf.Lawful where
  number_string n := by
    by_cases hn : n = .finite (3 / 2)
    · simp [NumberText.oneAndAHalf, hn]
    · simp only [NumberText.oneAndAHalf, if_neg hn, if_neg (string_fractions_ne_point n)]
      exact NumberText.lawful_fractions.number_string n
  string_ne_empty n := by
    simp only [NumberText.oneAndAHalf]
    split_ifs
    · decide
    · exact NumberText.lawful_fractions.string_ne_empty n
  string_plain n := by
    simp only [NumberText.oneAndAHalf]
    split_ifs
    · have hall : "1.5".toList.all (fun c => c ≠ ',' && isWhiteSpace c = false) = true := by decide
      intro c hc
      simpa using List.all_eq_true.1 hall c hc
    · exact NumberText.lawful_fractions.string_plain n

/-- A page of one and a half is read as page one, whose link has no page. -/
theorem fraction_of_a_page_is_lost :
    NumberText.oneAndAHalf.Lawful ∧
      deserializeFilters .oneAndAHalf (fun _ => "") (.text (serializeFilters .oneAndAHalf
          (deserializeFilters .oneAndAHalf (fun _ => "") (.text "page=1.5")))) ≠
        deserializeFilters .oneAndAHalf (fun _ => "") (.text "page=1.5") := by
  have hget : SearchParams.get (FormUrlEncoded.parse (fun _ => "") "page=1.5") "page" =
      some "1.5" := by
    decide
  have hnumber : readNumber .oneAndAHalf (FormUrlEncoded.parse (fun _ => "") "page=1.5") "page" =
      some (.finite (3 / 2)) := by
    rw [readNumber, hget]
    rfl
  have hfloor : ⌊(3 / 2 : ℚ)⌋ = 1 := by norm_num
  have hrounded : ((some (.finite (3 / 2)) : Option JsNumber).filter (·.aboveOne)).map (·.floor) =
      some (.finite 1) := by
    have habove : JsNumber.aboveOne (.finite (3 / 2)) = true := decide_eq_true (by norm_num)
    rw [Option.filter_some, if_pos habove, Option.map_some, JsNumber.floor, hfloor, Int.cast_one]
  have hpage : deserializeFilters .oneAndAHalf (fun _ => "") (.text "page=1.5") .page =
      some (.finite 1) := by
    rw [← hnumber] at hrounded
    exact hrounded
  refine ⟨NumberText.lawful_oneAndAHalf, fun heq => ?_⟩
  have hread := readFilters_searchParams NumberText.lawful_oneAndAHalf
    (shareable_readFilters .oneAndAHalf (FormUrlEncoded.parse (fun _ => "") "page=1.5"))
  have hagain := congrFun heq .page
  rw [hpage] at hagain
  simp only [deserializeFilters, toURLSearchParams, serializeFilters,
    FormUrlEncoded.parse_print] at hpage hagain
  rw [hread, SearchFilters.read, hpage] at hagain
  cases hagain

end Web
end TopChoice
