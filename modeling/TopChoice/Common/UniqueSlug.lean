/-
# What `buildUniqueSlug` promises

`MAX_SLUG_LENGTH` cuts the base, and the suffix comes after the cut; the timestamp is the one
candidate that `isTaken` is not asked about; a fallback is taken as it is.  So the slug is free,
of the pattern `[a-z0-9]+(-[a-z0-9]+)*` and within the length iff nothing goes wrong in these
three places (`buildUniqueSlug_meets_iff`).
-/

import Mathlib.Data.Nat.Digits.Defs
import Mathlib.Tactic.IntervalCases
import TopChoice.Common.Text
import TopChoice.Lib.JoinedWords

namespace TopChoice

open JoinedWords

/-! ### The pattern -/

/-- `[a-z0-9]+(-[a-z0-9]+)*`. -/
def slugPattern : Language Char := joined (isSlugChar · = true) '-'

/-- Of the pattern and within `MAX_SLUG_LENGTH`. -/
def WellFormedSlug (s : String) : Prop := s.toList ∈ slugPattern ∧ s.length ≤ maxSlugLength

/-- `Number.prototype.toString(36)` writes the digit so. -/
def base36Digit (d : ℕ) : Char := Char.ofNat (if d < 10 then 48 + d else 87 + d)

/-- `Number.prototype.toString(36)` of a whole number. -/
def base36 (n : ℕ) : String :=
  if n = 0 then "0" else String.ofList ((Nat.digits 36 n).reverse.map base36Digit)

example : base36 1735689600000 = "m5d4ruo0" := by decide +kernel

theorem isSlugChar_dash : ¬isSlugChar '-' = true := by decide

theorem isSlugChar_base36Digit {d : ℕ} (hd : d < 36) : isSlugChar (base36Digit d) = true := by
  interval_cases d <;> decide

theorem base36_mem_word (n : ℕ) : (base36 n).toList ∈ word (isSlugChar · = true) := by
  unfold base36
  split_ifs with hn
  · exact ⟨by decide, by simp [isSlugChar]⟩
  · rw [String.toList_ofList]
    refine ⟨by simpa using Nat.digits_ne_nil_iff_ne_zero.2 hn, fun c hc => ?_⟩
    obtain ⟨d, hd, rfl⟩ := List.mem_map.1 hc
    exact isSlugChar_base36Digit (Nat.digits_lt_base (by decide) (List.mem_reverse.1 hd))

theorem toString_mem_word (n : ℕ) : (toString n).toList ∈ word (isSlugChar · = true) := by
  refine ⟨?_, fun c hc => ?_⟩
  · rw [Nat.toString_eq_repr, Nat.toList_repr]
    exact Nat.toDigits_ne_nil
  · rw [Nat.toString_eq_repr, Nat.toList_repr] at hc
    have hdigit := Nat.isDigit_of_mem_toDigits (by decide) (by decide) hc
    simp [isSlugChar, hdigit]

/-- A suffix keeps a slug well formed as far as there is room for it. -/
theorem wellFormedSlug_append_iff {base suffix : String}
    (hsuffix : suffix.toList ∈ word (isSlugChar · = true)) :
    WellFormedSlug (base ++ "-" ++ suffix) ↔
      WellFormedSlug base ∧ base.length + suffix.length < maxSlugLength := by
  have hlist : (base ++ "-" ++ suffix).toList = base.toList ++ '-' :: suffix.toList := by simp
  have hlength : (base ++ "-" ++ suffix).length = base.length + 1 + suffix.length := by
    rw [String.length_append, String.length_append]
    rfl
  rw [WellFormedSlug, WellFormedSlug, slugPattern, hlist, hlength,
    append_mem_joined_iff (p := (isSlugChar · = true)) isSlugChar_dash hsuffix]
  constructor
  · rintro ⟨hpattern, hroom⟩
    exact ⟨⟨hpattern, by omega⟩, by omega⟩
  · rintro ⟨⟨hpattern, -⟩, hroom⟩
    exact ⟨hpattern, by omega⟩

/-! ### `slugify` -/

/-- No two dashes are left next to each other. -/
theorem isChain_dashRuns (cs : List Char) :
    (dashRuns cs).IsChain fun a b => ¬(a = '-' ∧ b = '-') := by
  induction cs with
  | nil => exact List.isChain_nil
  | cons c cs ih =>
    rw [dashRuns]
    split
    · next hc =>
      refine List.isChain_cons.2 ⟨fun b _ h => ?_, ih⟩
      exact isSlugChar_dash (h.1 ▸ hc)
    · split
      · next rest hrest => exact hrest ▸ ih
      · next hrest =>
        refine List.isChain_cons.2 ⟨fun b hb h => ?_, ih⟩
        obtain ⟨tail, htail⟩ := List.head?_eq_some_iff.1 (Option.mem_def.1 hb)
        exact hrest tail (h.2 ▸ htail)

/-- The fallback stands in when nothing of the text is left. -/
theorem slugify_eq (u : Unicode) (value fallback : String) :
    slugify u value fallback =
      if slugify u value "" = "" then fallback else slugify u value "" := by
  simp only [slugify]
  split_ifs with hempty hlist hlist
  · rfl
  · exact absurd rfl hlist
  · exact absurd (by simpa using congrArg String.toList hlist) hempty
  · rfl

/-- **What `slugify` leaves of a text is well formed.** -/
theorem wellFormedSlug_slugify {u : Unicode} {value : String} (h : slugify u value "" ≠ "") :
    WellFormedSlug (slugify u value "") := by
  simp only [slugify] at h ⊢
  split_ifs at h ⊢ with hempty
  · exact absurd rfl h
  · generalize hlower : (u.toLowerCase _).toList.filter _ = lower at hempty ⊢
    have hchain := isChain_dashRuns lower
    have hstart := List.dropWhile_suffix (l := dashRuns lower) (· = '-')
    have hstop := List.rdropWhile_prefix (· = '-') ((dashRuns lower).dropWhile (· = '-'))
    have hcut := (List.take_prefix maxSlugLength _).trans hstop
    rw [WellFormedSlug, String.toList_ofList, String.length_ofList]
    refine ⟨rdropWhile_mem_joined (p := (isSlugChar · = true)) isSlugChar_dash
      (fun c hc => ?_) ?_ ?_ hempty, ?_⟩
    · exact slugChar_of_mem_dashRuns (hstart.subset (hcut.subset hc))
    · exact isChain_of_isPrefix hcut (hchain.suffix hstart)
    · exact head_of_isPrefix hcut head_dropWhile_ne
    · exact ((List.rdropWhile_prefix _ _).length_le.trans (List.length_take_le _ _))

theorem dashRuns_eq_self {cs : List Char} (hmem : ∀ c ∈ cs, isSlugChar c = true ∨ c = '-')
    (hsingle : cs.IsChain fun a b => ¬(a = '-' ∧ b = '-')) : dashRuns cs = cs := by
  induction cs with
  | nil => rfl
  | cons c cs ih =>
    obtain ⟨hhead, htail⟩ := List.isChain_cons.1 hsingle
    rw [dashRuns, ih (fun d hd => hmem d (List.mem_cons_of_mem c hd)) htail]
    split
    · rfl
    · next hc =>
      obtain rfl := (hmem c List.mem_cons_self).resolve_left hc
      split
      · next rest => exact absurd ⟨rfl, rfl⟩ (hhead '-' rfl)
      · rfl

/-- **A well-formed slug is left as it is**, where the tables leave it. -/
theorem slugify_eq_self {u : Unicode} {s : String} (hnfkd : u.nfkd s = s)
    (hlower : u.toLowerCase s = s) (h : WellFormedSlug s) (fallback : String) :
    slugify u s fallback = s := by
  have hspaced := (mem_joined_iff (p := (isSlugChar · = true)) isSlugChar_dash).1 h.1
  have hmarks : (s.toList.filter fun c => !(0x300 ≤ c.toNat && c.toNat ≤ 0x36F)) = s.toList := by
    rw [List.filter_eq_self]
    intro c hc
    have := toNat_of_slugChar (hspaced.mem c hc)
    simp only [Bool.not_eq_true', Bool.and_eq_false_iff, decide_eq_false_iff_not]
    omega
  have hquotes : (s.toList.filter fun c => !isQuote c) = s.toList := by
    rw [List.filter_eq_self]
    intro c hc
    have := toNat_of_slugChar (hspaced.mem c hc)
    simp only [isQuote, List.mem_cons, List.not_mem_nil, or_false, Bool.not_eq_true',
      decide_eq_false_iff_not]
    omega
  have hleft : s.toList.dropWhile (· = '-') = s.toList := by
    rw [List.dropWhile_eq_self_iff]
    intro hpos hdash
    apply hspaced.head
    rw [List.head?_eq_getElem?, List.getElem?_eq_getElem hpos, of_decide_eq_true hdash]
  have hright : s.toList.rdropWhile (· = '-') = s.toList := by
    rw [List.rdropWhile_eq_self_iff]
    intro hne hdash
    exact hspaced.last (by simpa [List.getLast?_eq_some_getLast hne] using hdash)
  have htake : s.toList.take maxSlugLength = s.toList :=
    List.take_of_length_le (String.length_toList ▸ h.2)
  simp only [slugify, hnfkd, hmarks, String.ofList_toList, hlower, hquotes,
    dashRuns_eq_self hspaced.mem hspaced.single, hleft, hright, htake, if_neg hspaced.ne_nil]

/-! ### `buildUniqueSlug` -/

/-- The candidate with this number. -/
def numbered (base : String) (k : ℕ) : String := base ++ "-" ++ toString k

/-- The candidate with the time. -/
def stamped (base : String) (now : ℕ) : String := base ++ "-" ++ base36 now

/-- The base is taken and this is the first number, up to `maxAttempts`, that is free. -/
structure FirstFree (base : String) (taken : Finset String) (k : ℕ) : Prop where
  base_taken : base ∈ taken
  two_le : 2 ≤ k
  le_maxAttempts : k ≤ 50
  before : ∀ j, 2 ≤ j → j < k → numbered base j ∈ taken
  free : numbered base k ∉ taken

/-- The base and every number up to `maxAttempts` are taken. -/
def AllTaken (base : String) (taken : Finset String) : Prop :=
  base ∈ taken ∧ ∀ k, 2 ≤ k → k ≤ 50 → numbered base k ∈ taken

/-- What the probing comes to. -/
inductive Probed (base : String) (now : ℕ) (taken : Finset String) : String → Prop
  | base : base ∉ taken → Probed base now taken base
  | numbered {k : ℕ} : FirstFree base taken k → Probed base now taken (numbered base k)
  | stamped : AllTaken base taken → Probed base now taken (stamped base now)

/-- **The spec of the probe loop.** -/
theorem probed_buildUniqueSlug (u : Unicode) (now : ℕ) (desired fallback : String)
    (taken : Finset String) :
    Probed (slugify u desired fallback) now taken
      (buildUniqueSlug u (base36 now) desired fallback fun c => decide (c ∈ taken)) := by
  unfold buildUniqueSlug
  generalize slugify u desired fallback = base
  simp only [slugCandidates, List.find?_map, Bool.not_eq_true', decide_eq_false_iff_not]
  split_ifs with hbase
  · cases hfind : (List.range 49).find?
        ((fun candidate => !decide (candidate ∈ taken)) ∘ fun n => base ++ "-" ++ toString (n + 2))
      with
    | none =>
      rw [List.find?_range_eq_none] at hfind
      refine .stamped ⟨hbase, fun k hk hk' => ?_⟩
      obtain ⟨n, rfl⟩ := Nat.exists_eq_add_of_le' hk
      simpa [numbered] using hfind n (by omega)
    | some n =>
      obtain ⟨hfree, hn, hbefore⟩ := List.find?_range_eq_some.1 hfind
      have hn := List.mem_range.1 hn
      refine .numbered (k := n + 2) ⟨hbase, by omega, by omega, fun j hj hj' => ?_, ?_⟩
      · obtain ⟨m, rfl⟩ := Nat.exists_eq_add_of_le' hj
        simpa [numbered] using hbefore m (by omega)
      · simpa [numbered] using hfree
  · exact .base hbase

theorem FirstFree.unique {base : String} {taken : Finset String} {j k : ℕ}
    (hj : FirstFree base taken j) (hk : FirstFree base taken k) : j = k := by
  rcases lt_trichotomy j k with h | h | h
  · exact absurd (hk.before j hj.two_le h) hj.free
  · exact h
  · exact absurd (hj.before k hk.two_le h) hk.free

theorem FirstFree.not_allTaken {base : String} {taken : Finset String} {k : ℕ}
    (hk : FirstFree base taken k) : ¬AllTaken base taken := fun h =>
  hk.free (h.2 k hk.two_le hk.le_maxAttempts)

/-- The suffix finds room after the base: the first free number does, and where there is none the
time does and is free. -/
structure SuffixFits (base : String) (now : ℕ) (taken : Finset String) : Prop where
  numbered : ∀ k, FirstFree base taken k → base.length + (toString k).length < maxSlugLength
  stamped : AllTaken base taken →
    stamped base now ∉ taken ∧ base.length + (base36 now).length < maxSlugLength

/-- **When a unique slug is one.**  The slug is free and well formed iff the fallback, where it is
needed, is well formed, and the suffix finds room after the base and is free. -/
theorem buildUniqueSlug_meets_iff (u : Unicode) (now : ℕ) (desired fallback : String)
    (taken : Finset String) :
    let slug := buildUniqueSlug u (base36 now) desired fallback fun c => decide (c ∈ taken)
    (slug ∉ taken ∧ slug.toList ∈ slugPattern ∧ slug.length ≤ maxSlugLength) ↔
      (slugify u desired "" = "" → WellFormedSlug fallback) ∧
        SuffixFits (slugify u desired fallback) now taken := by
  intro slug
  have hprobed : Probed (slugify u desired fallback) now taken slug :=
    probed_buildUniqueSlug u now desired fallback taken
  clear_value slug
  have hbase : (slugify u desired "" = "" → WellFormedSlug fallback) ↔
      WellFormedSlug (slugify u desired fallback) := by
    rw [slugify_eq u desired fallback]
    split_ifs with hempty
    · simp [hempty]
    · simp [hempty, wellFormedSlug_slugify hempty]
  rw [hbase]
  change _ ∧ WellFormedSlug slug ↔ _
  generalize slugify u desired fallback = base at hprobed
  cases hprobed with
  | base hfree =>
    refine ⟨fun h => ⟨h.2, fun k hk => absurd hk.base_taken hfree, fun h => absurd h.1 hfree⟩,
      fun h => ⟨hfree, h.1⟩⟩
  | numbered hk =>
    rw [numbered, wellFormedSlug_append_iff (toString_mem_word _)]
    constructor
    · rintro ⟨-, hwell, hroom⟩
      exact ⟨hwell, fun j hj => hj.unique hk ▸ hroom, fun h => absurd h hk.not_allTaken⟩
    · rintro ⟨hwell, hfits⟩
      exact ⟨hk.free, hwell, hfits.numbered _ hk⟩
  | stamped hall =>
    rw [stamped, wellFormedSlug_append_iff (base36_mem_word now)]
    constructor
    · rintro ⟨hfree, hwell, hroom⟩
      exact ⟨hwell, fun k hk => absurd hall hk.not_allTaken, fun _ => ⟨hfree, hroom⟩⟩
    · rintro ⟨hwell, hfits⟩
      exact ⟨(hfits.stamped hall).1, hwell, (hfits.stamped hall).2⟩

/-- A text of the length of the longest slug. -/
def longestSlug : String := String.ofList (List.replicate maxSlugLength 'a')

theorem wellFormedSlug_longestSlug : WellFormedSlug longestSlug := by
  rw [WellFormedSlug, longestSlug, String.toList_ofList, String.length_ofList,
    List.length_replicate]
  refine ⟨(mem_joined_iff (p := (isSlugChar · = true)) isSlugChar_dash).2
    (spaced_of_word isSlugChar_dash ⟨by decide, fun c hc => ?_⟩), le_rfl⟩
  rw [List.eq_of_mem_replicate hc]
  decide

/-- A title of 120 letters whose slug is taken: the number makes the slug longer than the longest
one. -/
theorem buildUniqueSlug_overlong :
    ¬∀ (u : Unicode) (now : ℕ) (desired fallback : String) (taken : Finset String),
      let slug := buildUniqueSlug u (base36 now) desired fallback fun c => decide (c ∈ taken)
      slug ∉ taken ∧ slug.toList ∈ slugPattern ∧ slug.length ≤ maxSlugLength := by
  intro h
  have hlower : Unicode.ascii.toLowerCase longestSlug = longestSlug := by
    simp only [Unicode.ascii, longestSlug, String.toList_ofList, List.map_replicate]
    rfl
  have hbase := slugify_eq_self rfl hlower wellFormedSlug_longestSlug "item"
  have hlength : longestSlug.length = maxSlugLength := by
    rw [longestSlug, String.length_ofList, List.length_replicate]
  have hprobed :=
    probed_buildUniqueSlug Unicode.ascii 1735689600000 longestSlug "item" {longestSlug}
  have hmeets := (h Unicode.ascii 1735689600000 longestSlug "item" {longestSlug}).2
  rw [hbase] at hprobed
  change WellFormedSlug _ at hmeets
  generalize buildUniqueSlug _ _ _ _ _ = slug at hprobed hmeets
  cases hprobed with
  | base hfree => exact hfree (Finset.mem_singleton_self _)
  | numbered hk =>
    have := ((wellFormedSlug_append_iff (toString_mem_word _)).1 hmeets).2
    omega
  | stamped hall =>
    have := ((wellFormedSlug_append_iff (base36_mem_word _)).1 hmeets).2
    omega

end TopChoice
