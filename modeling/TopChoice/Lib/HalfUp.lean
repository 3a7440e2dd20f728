/-
# Rounding half up

A number rounded to the multiples of `1 / m`, where a number between two of them goes to the
nearer one and a tie goes away from zero.  Rounding keeps the order (`toGrid_mono`), moves a
number by half a step at most (`abs_toGrid_sub_le`) and leaves the multiples where they are
(`OnGrid.toGrid_eq`); so sums and differences of rounded numbers need no rounding.
-/

import Mathlib.Algebra.BigOperators.Group.List.Basic
import Mathlib.Algebra.Order.Field.Basic
import Mathlib.Algebra.Order.Floor.Ring
import Mathlib.Tactic.FieldSimp
import Mathlib.Tactic.Linarith
import Mathlib.Tactic.Positivity
import Mathlib.Tactic.Ring

namespace HalfUp

variable {α : Type*} [Field α] [LinearOrder α] [IsStrictOrderedRing α] [FloorRing α]

/-- The nearest integer; of two, the one away from zero. -/
def nearest (x : α) : ℤ := if 0 ≤ x then ⌊x + 1 / 2⌋ else -⌊-x + 1 / 2⌋

/-- A number rounded to the multiples of `1 / m`. -/
def toGrid (m : ℕ) (x : α) : α := nearest (x * m) / m

/-- A multiple of `1 / m`. -/
def OnGrid (m : ℕ) (x : α) : Prop := ∃ k : ℤ, x = k / m

omit [IsStrictOrderedRing α] in
theorem nearest_of_nonneg {x : α} (hx : 0 ≤ x) : nearest x = ⌊x + 1 / 2⌋ := if_pos hx

theorem nearest_of_nonpos {x : α} (hx : x ≤ 0) : nearest x = -⌊-x + 1 / 2⌋ := by
  rcases hx.lt_or_eq with hlt | rfl
  · exact if_neg hlt.not_ge
  · rw [nearest_of_nonneg le_rfl, neg_zero, zero_add]
    have hhalf : ⌊(1 / 2 : α)⌋ = 0 := Int.floor_eq_zero_iff.2 ⟨by positivity, by norm_num⟩
    rw [hhalf, neg_zero]

theorem nearest_intCast (k : ℤ) : nearest (k : α) = k := by
  have hhalf : ⌊(1 / 2 : α)⌋ = 0 := Int.floor_eq_zero_iff.2 ⟨by positivity, by norm_num⟩
  rcases le_total 0 k with hk | hk
  · rw [nearest_of_nonneg (Int.cast_nonneg hk), Int.floor_intCast_add, hhalf, add_zero]
  · rw [nearest_of_nonpos (Int.cast_nonpos.2 hk), ← Int.cast_neg, Int.floor_intCast_add, hhalf,
      add_zero, neg_neg]

theorem nearest_nonneg {x : α} (hx : 0 ≤ x) : 0 ≤ nearest x := by
  rw [nearest_of_nonneg hx]
  exact Int.floor_nonneg.2 (by positivity)

theorem nearest_nonpos {x : α} (hx : x ≤ 0) : nearest x ≤ 0 := by
  rw [nearest_of_nonpos hx, neg_nonpos]
  exact Int.floor_nonneg.2 (add_nonneg (neg_nonneg.2 hx) (by positivity))

theorem nearest_mono {x y : α} (h : x ≤ y) : nearest x ≤ nearest y := by
  rcases le_total 0 x with hx | hx
  · rw [nearest_of_nonneg hx, nearest_of_nonneg (hx.trans h)]
    exact Int.floor_le_floor (by linarith)
  rcases le_total 0 y with hy | hy
  · exact (nearest_nonpos hx).trans (nearest_nonneg hy)
  · rw [nearest_of_nonpos hx, nearest_of_nonpos hy, neg_le_neg_iff]
    exact Int.floor_le_floor (by linarith)

theorem abs_nearest_sub_le (x : α) : |(nearest x : α) - x| ≤ 1 / 2 := by
  rcases le_total 0 x with hx | hx
  · have hle := Int.floor_le (x + 1 / 2)
    have hlt := Int.lt_floor_add_one (x + 1 / 2)
    rw [nearest_of_nonneg hx, abs_le]
    constructor <;> linarith
  · have hle := Int.floor_le (-x + 1 / 2)
    have hlt := Int.lt_floor_add_one (-x + 1 / 2)
    rw [nearest_of_nonpos hx, abs_le]
    push_cast
    constructor <;> linarith

/-- **The numbers that are rounded to a positive integer.** -/
theorem nearest_eq_iff {x : α} {n : ℤ} (hn : 0 < n) :
    nearest x = n ↔ (n : α) - 1 / 2 ≤ x ∧ x < n + 1 / 2 := by
  rcases le_or_gt 0 x with hx | hx
  · rw [nearest_of_nonneg hx, Int.floor_eq_iff]
    constructor <;> rintro ⟨hle, hlt⟩ <;> constructor <;> linarith
  · have hcast : (1 : α) ≤ n := by exact_mod_cast hn
    refine iff_of_false (fun h => ?_) fun h => ?_
    · exact (h ▸ nearest_nonpos hx.le).not_gt hn
    · linarith [h.1]

/-- **The rest of a number, once a part of it is rounded**: rounding it is rounding the whole,
and it is not negative, unless the part is the whole and lies between two integers. -/
theorem nearest_sub_nearest {x y : α} (hy : 0 ≤ y) (hle : y ≤ x)
    (htie : ¬(y = x ∧ Int.fract x = 1 / 2)) :
    nearest (x - nearest y) = nearest x - nearest y ∧ 0 ≤ nearest (x - nearest y) := by
  have hclose := abs_le.1 (abs_nearest_sub_le y)
  have hwhole : nearest x - nearest y = ⌊x - nearest y + 1 / 2⌋ := by
    rw [nearest_of_nonneg (hy.trans hle), ← Int.floor_sub_intCast, add_sub_right_comm]
  rcases le_or_gt 0 (x - nearest y) with hrest | hrest
  · exact ⟨by rw [nearest_of_nonneg hrest, hwhole], nearest_nonneg hrest⟩
  have hhalf : -(1 / 2) < x - nearest y := by
    refine lt_of_le_of_ne (by linarith [hclose.2]) fun hlow => htie ?_
    have hyx : y = x := le_antisymm hle (by linarith [hclose.2])
    have hfloor : ⌊x⌋ = nearest y - 1 := by
      rw [Int.floor_eq_iff]
      push_cast
      constructor <;> linarith
    refine ⟨hyx, ?_⟩
    rw [Int.fract, hfloor]
    push_cast
    linarith
  have hnone : ⌊-(x - nearest y) + 1 / 2⌋ = 0 :=
    Int.floor_eq_zero_iff.2 ⟨by linarith, by linarith⟩
  have hnone' : ⌊x - nearest y + 1 / 2⌋ = 0 :=
    Int.floor_eq_zero_iff.2 ⟨by linarith, by linarith⟩
  rw [nearest_of_nonpos hrest.le, hwhole, hnone, hnone']
  exact ⟨rfl, le_rfl⟩

/-- A number between two integers leaves half a step too much. -/
theorem nearest_sub_nearest_of_fract {x : α} (hx : 0 ≤ x) (htie : Int.fract x = 1 / 2) :
    nearest (x - nearest x) = -1 := by
  have hfloor := Int.floor_add_fract x
  have hnearest : nearest x = ⌊x⌋ + 1 := by
    rw [nearest_of_nonneg hx, Int.floor_eq_iff]
    push_cast
    constructor <;> linarith
  have hrest : x - nearest x = -(1 / 2) := by
    rw [hnearest]
    push_cast
    linarith
  have hone : ⌊(1 : α)⌋ = 1 := Int.floor_one
  rw [hrest, nearest_of_nonpos (by linarith [one_half_pos (α := α)]), neg_neg, add_halves, hone]

section Grid

variable {m : ℕ} {x y : α}

omit [IsStrictOrderedRing α] in
theorem toGrid_onGrid (m : ℕ) (x : α) : OnGrid m (toGrid m x) := ⟨_, rfl⟩

theorem toGrid_nonneg (m : ℕ) (hx : 0 ≤ x) : 0 ≤ toGrid m x :=
  div_nonneg (Int.cast_nonneg (nearest_nonneg (mul_nonneg hx m.cast_nonneg))) m.cast_nonneg

theorem toGrid_nonpos (m : ℕ) (hx : x ≤ 0) : toGrid m x ≤ 0 :=
  div_nonpos_of_nonpos_of_nonneg
    (Int.cast_nonpos.2 (nearest_nonpos (mul_nonpos_of_nonpos_of_nonneg hx m.cast_nonneg)))
    m.cast_nonneg

/-- **Rounding keeps the order.** -/
theorem toGrid_mono (m : ℕ) (h : x ≤ y) : toGrid m x ≤ toGrid m y :=
  div_le_div_of_nonneg_right
    (Int.cast_le.2 (nearest_mono (mul_le_mul_of_nonneg_right h m.cast_nonneg))) m.cast_nonneg

/-- **Rounding moves a number by half a step at most.** -/
theorem abs_toGrid_sub_le (hm : 0 < m) (x : α) : |toGrid m x - x| ≤ 1 / (2 * m) := by
  have hcast : (0 : α) < m := Nat.cast_pos.2 hm
  have hscaled : toGrid m x - x = ((nearest (x * m) : α) - x * m) / m := by
    rw [toGrid, sub_div, mul_div_cancel_right₀ x hcast.ne']
  rw [hscaled, abs_div, abs_of_pos hcast, div_le_iff₀ hcast]
  calc |(nearest (x * m) : α) - x * m| ≤ 1 / 2 := abs_nearest_sub_le _
    _ = 1 / (2 * m) * m := by field_simp

/-- **A multiple of the step stays where it is.** -/
theorem OnGrid.toGrid_eq (hm : 0 < m) (h : OnGrid m x) : toGrid m x = x := by
  obtain ⟨k, rfl⟩ := h
  have hcast : (m : α) ≠ 0 := Nat.cast_ne_zero.2 hm.ne'
  rw [toGrid, div_mul_cancel₀ _ hcast, nearest_intCast]

/-- **The numbers that are rounded to a positive multiple of the step.** -/
theorem toGrid_eq_iff (hm : 0 < m) {n : ℤ} (hn : 0 < n) :
    toGrid m x = n / m ↔ (n : α) - 1 / 2 ≤ x * m ∧ x * m < n + 1 / 2 := by
  have hcast : (m : α) ≠ 0 := Nat.cast_ne_zero.2 hm.ne'
  rw [toGrid, div_left_inj' hcast, Int.cast_inj, nearest_eq_iff hn]

/-- **A part and the rest, each rounded**, are the whole rounded, and the rest is not negative,
unless the part is the whole and lies between two multiples. -/
theorem toGrid_add_toGrid_sub (hm : 0 < m) (hy : 0 ≤ y) (hle : y ≤ x)
    (htie : ¬(y = x ∧ Int.fract (x * m) = 1 / 2)) :
    toGrid m y + toGrid m (x - toGrid m y) = toGrid m x ∧ 0 ≤ toGrid m (x - toGrid m y) := by
  have hcast : (0 : α) < m := Nat.cast_pos.2 hm
  have hscale : (x - toGrid m y) * m = x * m - nearest (y * m) := by
    rw [sub_mul, toGrid, div_mul_cancel₀ _ hcast.ne']
  obtain ⟨hrest, hnonneg⟩ := nearest_sub_nearest (mul_nonneg hy hcast.le)
    (mul_le_mul_of_nonneg_right hle hcast.le)
    fun h => htie ⟨mul_right_cancel₀ hcast.ne' h.1, h.2⟩
  have hvalue : toGrid m (x - toGrid m y) = nearest (x * m - nearest (y * m)) / m := by
    rw [← hscale]
    rfl
  refine ⟨?_, hvalue ▸ div_nonneg (Int.cast_nonneg hnonneg) hcast.le⟩
  have hpart : toGrid m y = nearest (y * m) / m := rfl
  rw [hvalue, hrest, hpart, ← add_div, ← Int.cast_add, add_sub_cancel]
  rfl

/-- A number between two multiples leaves a step that is not there. -/
theorem toGrid_sub_toGrid_of_fract (hm : 0 < m) (hx : 0 ≤ x) (htie : Int.fract (x * m) = 1 / 2) :
    toGrid m (x - toGrid m x) = -(1 / m) := by
  have hcast : (0 : α) < m := Nat.cast_pos.2 hm
  have hscale : (x - toGrid m x) * m = x * m - nearest (x * m) := by
    rw [sub_mul, toGrid, div_mul_cancel₀ _ hcast.ne']
  rw [toGrid, hscale, nearest_sub_nearest_of_fract (mul_nonneg hx hcast.le) htie, Int.cast_neg,
    Int.cast_one, neg_div]

omit [LinearOrder α] [IsStrictOrderedRing α] [FloorRing α]

theorem OnGrid.zero : OnGrid m (0 : α) := ⟨0, by rw [Int.cast_zero, zero_div]⟩

theorem OnGrid.add (hx : OnGrid m x) (hy : OnGrid m y) : OnGrid m (x + y) := by
  obtain ⟨k, rfl⟩ := hx
  obtain ⟨l, rfl⟩ := hy
  exact ⟨k + l, by rw [Int.cast_add, add_div]⟩

theorem OnGrid.sub (hx : OnGrid m x) (hy : OnGrid m y) : OnGrid m (x - y) := by
  obtain ⟨k, rfl⟩ := hx
  obtain ⟨l, rfl⟩ := hy
  exact ⟨k - l, by rw [Int.cast_sub, sub_div]⟩

theorem OnGrid.sum {xs : List α} (h : ∀ x ∈ xs, OnGrid m x) : OnGrid m xs.sum := by
  induction xs with
  | nil => exact OnGrid.zero
  | cons x xs ih =>
    rw [List.sum_cons]
    exact (h x List.mem_cons_self).add (ih fun y hy => h y (List.mem_cons_of_mem x hy))

end Grid

end HalfUp
