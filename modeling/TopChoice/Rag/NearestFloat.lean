/-
# How near a `float` is

The number a `float` stands for is within one part in 2^53 of the number that was rounded, or of
one where that is less (`abs_nearest_sub_le`), and a whole number below 2^53 is a `float` itself
(`nearest_natCast`).
-/

import Mathlib.Algebra.Order.Field.Power
import Mathlib.Data.Rat.Floor
import Mathlib.Tactic.FieldSimp
import Mathlib.Tactic.Linarith
import Mathlib.Tactic.NormNum
import Mathlib.Tactic.Positivity
import TopChoice.Rag.PyFloat

namespace TopChoice
namespace Rag
namespace PyFloat

open Search (pyRound)

/-- Rounding moves a number by a half at most. -/
theorem abs_pyRound_sub_le (q : ℚ) : |(pyRound q : ℚ) - q| ≤ 1 / 2 := by
  have hfloor : (q.floor : ℚ) ≤ q := Int.floor_le q
  have hlt : q < q.floor + 1 := Int.lt_floor_add_one q
  rw [abs_le, pyRound]
  split_ifs with hbelow habove heven
  · constructor <;> linarith
  · push_cast
    constructor <;> linarith
  · constructor <;> linarith
  · push_cast
    constructor <;> linarith

theorem twoPow_eq (e : ℤ) : twoPow e = 2 ^ e := by
  rw [twoPow, Rat.mkRat_eq_div]
  push_cast
  rcases le_total 0 e with he | he
  · have hneg : (-e).toNat = 0 := Int.toNat_eq_zero.2 (by omega)
    rw [hneg, pow_zero, div_one, ← zpow_natCast, Int.toNat_of_nonneg he]
  · have hpos : e.toNat = 0 := Int.toNat_eq_zero.2 he
    rw [hpos, pow_zero, ← zpow_natCast, Int.toNat_of_nonneg (by omega), zpow_neg, one_div, inv_inv]

/-- The powers of two around a positive number. -/
theorem twoPow_log2_le {q : ℚ} (hq : 0 < q) :
    (2 : ℚ) ^ ((Nat.log2 q.num.toNat : ℤ) - Nat.log2 q.den - 1) ≤ q := by
  have hnum : q.num.toNat ≠ 0 := by
    have hpos := Rat.num_pos.2 hq
    omega
  have hle : ((2 ^ Nat.log2 q.num.toNat : ℕ) : ℚ) ≤ q.num.toNat := by
    exact_mod_cast Nat.log2_self_le hnum
  have hlt : (q.den : ℚ) ≤ ((2 ^ (Nat.log2 q.den + 1) : ℕ) : ℚ) := by
    exact_mod_cast Nat.lt_log2_self.le
  have hq' : q = q.num.toNat / q.den := by
    have hcast : ((q.num.toNat : ℕ) : ℚ) = q.num := by
      have hnonneg := (Rat.num_pos.2 hq).le
      exact_mod_cast Int.toNat_of_nonneg hnonneg
    rw [hcast, Rat.num_div_den]
  have hden : (0 : ℚ) < q.den := by exact_mod_cast q.den_pos
  conv_rhs => rw [hq']
  rw [le_div_iff₀ hden]
  push_cast at hle hlt
  calc (2 : ℚ) ^ ((Nat.log2 q.num.toNat : ℤ) - Nat.log2 q.den - 1) * q.den
      ≤ 2 ^ ((Nat.log2 q.num.toNat : ℤ) - Nat.log2 q.den - 1) * 2 ^ (Nat.log2 q.den + 1) := by
        gcongr
    _ = 2 ^ Nat.log2 q.num.toNat := by
        rw [← zpow_natCast, ← zpow_natCast, ← zpow_add₀ (by norm_num)]
        congr 1
        push_cast
        ring
    _ ≤ q.num.toNat := hle

/-- A number has 53 bits down to its last place, or one has. -/
theorem twoPow_lastPlace_le {q : ℚ} (hq : 0 < q) : (2 : ℚ) ^ (lastPlace q + 52) ≤ max q 1 := by
  have hlog := twoPow_log2_le hq
  rw [lastPlace]
  rcases max_cases ((if q < twoPow ((Nat.log2 q.num.toNat : ℤ) - Nat.log2 q.den) then
      (Nat.log2 q.num.toNat : ℤ) - Nat.log2 q.den - 1
    else (Nat.log2 q.num.toNat : ℤ) - Nat.log2 q.den) - 52) (-1074) with ⟨hmax, -⟩ | ⟨hmax, -⟩
  · rw [hmax, sub_add_cancel]
    refine le_trans ?_ (le_max_left q 1)
    split_ifs with h
    · exact hlog
    · rw [twoPow_eq] at h
      exact not_lt.1 h
  · rw [hmax]
    refine le_trans ?_ (le_max_right q 1)
    exact zpow_le_one_of_nonpos₀ one_le_two (by norm_num)

theorem nearest_zero : nearest 0 = finite 0 := by decide +kernel

/-- A `float` of a number that is not negative is not negative. -/
theorem nearest_nonneg {q v : ℚ} (hq : 0 ≤ q) (h : nearest q = finite v) : 0 ≤ v := by
  rw [nearest] at h
  split_ifs at h
  obtain rfl := finite.inj h
  have hpow : (0 : ℚ) < twoPow (lastPlace q) := by
    rw [twoPow_eq]
    positivity
  have hround : 0 ≤ pyRound (q / twoPow (lastPlace q)) := by
    have hnonneg : 0 ≤ q / twoPow (lastPlace q) := by positivity
    have hfloor : 0 ≤ (q / twoPow (lastPlace q)).floor := Int.le_floor.2 (by exact_mod_cast hnonneg)
    rw [pyRound]
    split_ifs <;> omega
  have hcast : (0 : ℚ) ≤ (pyRound (q / twoPow (lastPlace q)) : ℚ) := by exact_mod_cast hround
  positivity

/-- **A `float` is within one part in 2^53** of the number it stands for, or of one. -/
theorem abs_nearest_sub_le {q v : ℚ} (hq : 0 ≤ q) (h : nearest q = finite v) :
    |v - q| ≤ max q 1 / 2 ^ 53 := by
  rcases hq.eq_or_lt with rfl | hq
  · rw [nearest_zero] at h
    obtain rfl := finite.inj h
    norm_num
  rw [nearest] at h
  split_ifs at h
  obtain rfl := finite.inj h
  set e := lastPlace q with he
  have hpow : (0 : ℚ) < twoPow e := by
    rw [twoPow_eq]
    positivity
  have hround := abs_pyRound_sub_le (q / twoPow e)
  have hlast : twoPow e * 2 ^ 52 ≤ max q 1 := by
    have hle := twoPow_lastPlace_le hq
    rw [zpow_add₀ (by norm_num), ← he, ← twoPow_eq] at hle
    exact_mod_cast hle
  have hsub : (pyRound (q / twoPow e) : ℚ) * twoPow e - q =
      (pyRound (q / twoPow e) - q / twoPow e) * twoPow e := by
    field_simp
  rw [hsub, abs_mul, abs_of_pos hpow]
  calc |(pyRound (q / twoPow e) : ℚ) - q / twoPow e| * twoPow e
      ≤ 1 / 2 * twoPow e := by gcongr
    _ ≤ max q 1 / 2 ^ 53 := by linarith

/-- **A whole number below 2^53 is a `float`.** -/
theorem nearest_natCast {n : ℕ} (hpos : 0 < n) (hn : n < 2 ^ 53) : nearest n = finite n := by
  have hlog : Nat.log2 n ≤ 52 := by
    have hlt := (Nat.log2_lt (by omega : n ≠ 0)).2 hn
    omega
  have hplace : lastPlace n ≤ 0 := by
    have htop : (Nat.log2 (n : ℚ).num.toNat : ℤ) - Nat.log2 (n : ℚ).den ≤ 52 := by
      rw [Rat.num_natCast, Int.toNat_natCast, Rat.den_natCast]
      omega
    rw [lastPlace]
    split_ifs <;> omega
  obtain ⟨k, hk⟩ := Int.eq_ofNat_of_zero_le (Int.neg_nonneg.2 hplace)
  have hpow : twoPow (lastPlace n) = (2 ^ k : ℚ)⁻¹ := by
    rw [twoPow_eq, ← zpow_natCast, ← zpow_neg, ← hk, neg_neg]
  have hdiv : (n : ℚ) / twoPow (lastPlace n) = ((n * 2 ^ k : ℕ) : ℚ) := by
    rw [hpow, div_inv_eq_mul]
    push_cast
    rfl
  have hvalue : (pyRound ((n : ℚ) / twoPow (lastPlace n)) : ℚ) * twoPow (lastPlace n) = n := by
    rw [hdiv, Search.pyRound_natCast, hpow]
    push_cast
    field_simp
  have hlt : ¬twoPow 1024 ≤ (n : ℚ) := by
    rw [twoPow_eq, not_le]
    calc (n : ℚ) < 2 ^ (53 : ℤ) := by exact_mod_cast hn
      _ ≤ 2 ^ (1024 : ℤ) := zpow_le_zpow_right₀ one_le_two (by norm_num)
  rw [nearest]
  simp only [hvalue]
  rw [if_neg hlt]

end PyFloat
end Rag
end TopChoice
