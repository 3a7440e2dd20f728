/-
# Level payments on a debt

A debt that earns interest each period and is paid off in level payments.  Interest may be
rounded, so it is any function of the debt; payments that do not cover it let the debt grow
(`le_owed`), and a debt that has been paid off stays so (`owed_nonpos`).  Where interest is close
to a rate, what is owed is close to what it would be at that rate, within what the error is
worth as an annuity (`abs_owed_sub_le`).
-/

import Mathlib.Algebra.Order.BigOperators.Group.Finset
import Mathlib.Algebra.Order.Ring.Abs
import Mathlib.Algebra.Ring.GeomSum
import Mathlib.Tactic.Linarith
import Mathlib.Tactic.Positivity
import Mathlib.Tactic.Ring

namespace Annuity

variable {α : Type*}

section Owed

variable [AddCommGroup α]

/-- What is owed after some level payments. -/
def owed (interest : α → α) (payment : α) : ℕ → α → α
  | 0, debt => debt
  | k + 1, debt => owed interest payment k (debt + interest debt - payment)

variable (interest : α → α) (payment : α)

/-- The last payment of all. -/
theorem owed_succ' (k : ℕ) (debt : α) :
    owed interest payment (k + 1) debt =
      owed interest payment k debt + interest (owed interest payment k debt) - payment := by
  induction k generalizing debt with
  | zero => rfl
  | succ k ih => exact ih (debt + interest debt - payment)

variable {interest payment} [LinearOrder α] [IsOrderedAddMonoid α]

/-- **A debt that is paid off stays so**, when interest on nothing is nothing. -/
theorem owed_nonpos (hinterest : ∀ debt ≤ 0, interest debt ≤ 0) (hpayment : 0 ≤ payment) (k : ℕ)
    {debt : α} (hdebt : debt ≤ 0) : owed interest payment k debt ≤ 0 := by
  induction k generalizing debt with
  | zero => exact hdebt
  | succ k ih =>
    refine ih ?_
    have hsum := add_nonpos hdebt (hinterest debt hdebt)
    exact sub_nonpos.2 (hsum.trans hpayment)

/-- **Payments that do not cover the interest** let the debt grow. -/
theorem le_owed (hmono : Monotone interest) (k : ℕ) {debt : α}
    (hdebt : payment ≤ interest debt) : debt ≤ owed interest payment k debt := by
  induction k generalizing debt with
  | zero => exact le_rfl
  | succ k ih =>
    have hgrows : debt ≤ debt + interest debt - payment := by
      rw [add_sub_assoc]
      exact le_add_of_nonneg_right (sub_nonneg.2 hdebt)
    exact hgrows.trans (ih (hdebt.trans (hmono hgrows)))

end Owed

section Rate

variable [Field α] [LinearOrder α] [IsStrictOrderedRing α]

/-- What a payment of one each period is worth at the end. -/
def worth (rate : α) (k : ℕ) : α := ∑ i ∈ Finset.range k, (1 + rate) ^ i

omit [LinearOrder α] [IsStrictOrderedRing α] in
theorem worth_zero (rate : α) : worth rate 0 = 0 := rfl

omit [LinearOrder α] [IsStrictOrderedRing α] in
theorem worth_succ (rate : α) (k : ℕ) : worth rate (k + 1) = (1 + rate) * worth rate k + 1 :=
  geom_sum_succ

omit [LinearOrder α] [IsStrictOrderedRing α] in
/-- It grows like the debt does. -/
theorem mul_worth (rate : α) (k : ℕ) : rate * worth rate k = (1 + rate) ^ k - 1 := by
  rw [← mul_geom_sum, add_sub_cancel_left, worth]

theorem worth_pos {rate : α} (hrate : 0 ≤ rate) {k : ℕ} (hk : 0 < k) : 0 < worth rate k :=
  Finset.sum_pos (fun _ _ => by positivity) (Finset.nonempty_range_iff.2 hk.ne')

/-- **Errors are worth an annuity.**  When interest is within `ε` of the rate and the payment is
within `ε'` of another one, what is owed is within their annuity of what is owed at that rate
with that payment. -/
theorem abs_owed_sub_le {interest : α → α} {rate payment level ε ε' : α} (hrate : 0 ≤ rate)
    (hinterest : ∀ debt, |interest debt - debt * rate| ≤ ε) (hpayment : |payment - level| ≤ ε')
    (k : ℕ) (debt : α) :
    |owed interest payment k debt - ((1 + rate) ^ k * debt - level * worth rate k)| ≤
      (ε + ε') * worth rate k := by
  induction k with
  | zero =>
    simp only [owed, worth_zero, pow_zero, one_mul, mul_zero, sub_zero, sub_self, abs_zero, le_refl]
  | succ k ih =>
    set before := owed interest payment k debt
    set exact := (1 + rate) ^ k * debt - level * worth rate k
    have hsplit : owed interest payment (k + 1) debt -
        ((1 + rate) ^ (k + 1) * debt - level * worth rate (k + 1)) =
        (1 + rate) * (before - exact) + (interest before - before * rate) - (payment - level) := by
      rw [owed_succ', worth_succ, pow_succ]
      ring
    rw [hsplit]
    have hgrown : |(1 + rate) * (before - exact)| ≤ (1 + rate) * ((ε + ε') * worth rate k) := by
      rw [abs_mul, abs_of_nonneg (by positivity : (0 : α) ≤ 1 + rate)]
      exact mul_le_mul_of_nonneg_left ih (by positivity)
    calc |(1 + rate) * (before - exact) + (interest before - before * rate) - (payment - level)|
        ≤ |(1 + rate) * (before - exact) + (interest before - before * rate)| +
            |payment - level| := abs_sub _ _
      _ ≤ |(1 + rate) * (before - exact)| + |interest before - before * rate| +
            |payment - level| := by gcongr; exact abs_add_le _ _
      _ ≤ (1 + rate) * ((ε + ε') * worth rate k) + ε + ε' := by
        gcongr
        exact hinterest before
      _ = (ε + ε') * worth rate (k + 1) := by rw [worth_succ]; ring

end Rate

end Annuity
