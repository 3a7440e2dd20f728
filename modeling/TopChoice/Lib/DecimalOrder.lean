/-
# Decimal texts in the order of texts

A text of decimal digits comes before that of the next number in the order of texts, whatever
zeros it begins with, unless all of its digits are nines (`lt_toDigits_succ`).  Then the next
number is a power of ten (`value_add_one_eq_iff`).
-/

import Mathlib.Algebra.Order.Ring.Nat
import Mathlib.Data.Char
import Mathlib.Tactic.IntervalCases
import Mathlib.Tactic.Linarith
import Mathlib.Tactic.Ring

namespace DecimalOrder

/-- The number a list of digits is read as. -/
def value (digits : List Char) : ℕ := Nat.ofDigitChars 10 digits 0

/-- All of them are decimal digits. -/
def AllDigits (digits : List Char) : Prop := ∀ c ∈ digits, c.isDigit = true

theorem digit_bounds {c : Char} (h : c.isDigit = true) : 48 ≤ c.toNat ∧ c.toNat ≤ 57 :=
  Char.isDigit_iff_toNat.1 h

theorem value_cons (c : Char) (digits : List Char) :
    value (c :: digits) = 10 ^ digits.length * (c.toNat - 48) + value digits := by
  rw [value, Nat.ofDigitChars_cons, Nat.ofDigitChars_eq_ofDigitChars_zero, Nat.mul_zero,
    Nat.zero_add]
  rfl

/-- A number has no more digits than its text. -/
theorem value_lt {digits : List Char} (h : AllDigits digits) :
    value digits < 10 ^ digits.length := by
  induction digits with
  | nil => exact Nat.one_pos
  | cons c digits ih =>
    have hrest := ih fun d hd => h d (List.mem_cons_of_mem c hd)
    have hc := digit_bounds (h c List.mem_cons_self)
    have hle : 10 ^ digits.length * (c.toNat - 48) ≤ 10 ^ digits.length * 9 :=
      Nat.mul_le_mul_left _ (by omega)
    rw [value_cons, List.length_cons, pow_succ]
    omega

/-- **Texts of one length are in the order of their numbers.** -/
theorem lt_of_value_lt {digits digits' : List Char} (h : AllDigits digits)
    (h' : AllDigits digits') (hlength : digits.length = digits'.length)
    (hlt : value digits < value digits') : digits < digits' := by
  induction digits generalizing digits' with
  | nil =>
    obtain rfl := List.length_eq_zero_iff.1 hlength.symm
    exact absurd hlt (lt_irrefl _)
  | cons c digits ih =>
    obtain ⟨c', rest, rfl⟩ := List.exists_cons_of_length_eq_add_one hlength.symm
    have hlength : digits.length = rest.length := Nat.succ.inj hlength
    have hrest := fun d hd => h d (List.mem_cons_of_mem c hd)
    have hrest' := fun d hd => h' d (List.mem_cons_of_mem c' hd)
    have hc := digit_bounds (h c List.mem_cons_self)
    have hc' := digit_bounds (h' c' List.mem_cons_self)
    rw [value_cons, value_cons, hlength] at hlt
    rw [List.cons_lt_cons_iff]
    rcases lt_trichotomy c.toNat c'.toNat with hhead | hhead | hhead
    · exact .inl (UInt32.lt_iff_toNat_lt.2 hhead)
    · rw [hhead] at hlt
      exact .inr ⟨Char.toNat_inj.1 hhead, ih hrest hrest' hlength (by omega)⟩
    · have hbound := value_lt hrest'
      have hmul : 10 ^ rest.length * (c'.toNat - 48 + 1) ≤ 10 ^ rest.length * (c.toNat - 48) :=
        Nat.mul_le_mul_left _ (by omega)
      rw [Nat.mul_add_one] at hmul
      omega

/-- Nines are the greatest number of their length, and nothing else is. -/
theorem value_add_one_eq_iff {digits : List Char} (h : AllDigits digits) :
    value digits + 1 = 10 ^ digits.length ↔ ∀ c ∈ digits, c = '9' := by
  induction digits with
  | nil => exact iff_of_true rfl fun _ hc => nomatch hc
  | cons c digits ih =>
    have hdigits : AllDigits digits := fun d hd => h d (List.mem_cons_of_mem c hd)
    have hc := digit_bounds (h c List.mem_cons_self)
    have hlt := value_lt hdigits
    have hnine : c = '9' ↔ c.toNat = 57 := Char.toNat_inj.symm
    rw [List.forall_mem_cons, ← ih hdigits, hnine, value_cons, List.length_cons, pow_succ]
    constructor
    · intro heq
      have hle : 10 ^ digits.length * 9 ≤ 10 ^ digits.length * (c.toNat - 48) := by omega
      have hhead := Nat.le_of_mul_le_mul_left hle (Nat.pow_pos (by decide))
      have hcode : c.toNat = 57 := by omega
      rw [hcode] at heq
      exact ⟨hcode, by omega⟩
    · rintro ⟨hcode, heq⟩
      rw [hcode]
      omega

/-- A positive number begins with a positive digit. -/
theorem exists_toDigits_eq_cons {n : ℕ} (hn : 0 < n) :
    ∃ c digits, Nat.toDigits 10 n = c :: digits ∧ '0' < c := by
  induction n using Nat.strong_induction_on with
  | h n ih =>
    rcases lt_or_ge n 10 with hlt | hge
    · refine ⟨n.digitChar, [], Nat.toDigits_of_lt_base hlt, ?_⟩
      interval_cases n <;> decide
    · obtain ⟨c, digits, heq, hc⟩ := ih (n / 10) (by omega) (by omega)
      exact ⟨c, _, by rw [Nat.toDigits_of_base_le (by decide) hge, heq, List.cons_append], hc⟩

theorem value_toDigits (n : ℕ) : value (Nat.toDigits 10 n) = n := Nat.ofDigitChars_ten_toDigits

theorem allDigits_toDigits (n : ℕ) : AllDigits (Nat.toDigits 10 n) :=
  fun _ hc => Nat.isDigit_of_mem_toDigits (by decide) (by decide) hc

/-- **The next number comes after a text of digits**, unless they are all nines. -/
theorem lt_toDigits_succ {digits : List Char} (hne : digits ≠ []) (h : AllDigits digits)
    (hnines : ¬∀ c ∈ digits, c = '9') : digits < Nat.toDigits 10 (value digits + 1) := by
  have hbound : value digits + 1 < 10 ^ digits.length :=
    lt_of_le_of_ne (value_lt h) fun heq => hnines ((value_add_one_eq_iff h).1 heq)
  obtain ⟨d, rest, rfl⟩ := List.exists_cons_of_ne_nil hne
  obtain ⟨c, digits, hnext, hc⟩ := exists_toDigits_eq_cons (Nat.succ_pos (value (d :: rest)))
  by_cases hzero : d = '0'
  · -- zeros in front come before any other digit
    rw [hnext, List.cons_lt_cons_iff, hzero]
    exact .inl hc
  have hd := digit_bounds (h d List.mem_cons_self)
  have hpositive : 1 ≤ d.toNat - 48 := by
    have hne48 : d.toNat ≠ 48 := fun hcode => hzero (Char.toNat_inj.1 hcode)
    omega
  have hlow : 10 ^ rest.length ≤ value (d :: rest) := by
    rw [value_cons]
    exact (Nat.le_mul_of_pos_right _ hpositive).trans (Nat.le_add_right ..)
  have hlength : (Nat.toDigits 10 (value (d :: rest) + 1)).length = (d :: rest).length := by
    refine le_antisymm ((Nat.length_toDigits_le_iff (by decide) (Nat.succ_pos _)).2 hbound) ?_
    rcases Nat.eq_zero_or_pos rest.length with hnil | hpos
    · rw [List.length_cons, hnil]
      exact Nat.length_toDigits_pos
    · refine not_lt.1 fun hshort => ?_
      have := (Nat.length_toDigits_le_iff (by decide) hpos).1 (Nat.lt_succ_iff.1 hshort)
      omega
  refine lt_of_value_lt h (allDigits_toDigits _) hlength.symm ?_
  rw [value_toDigits]
  exact Nat.lt_succ_self _

end DecimalOrder
