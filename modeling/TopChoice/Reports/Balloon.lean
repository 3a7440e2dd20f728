/-
# Balloons

When a mortgage of `apps/reports-svc/lib/finance.rb` ends with one large payment.  The level
payment is rounded to a piastre, and the last row pays whatever it has left over.  With rate
and term that is worth more than a piastre: at 24 % over 40 years half a piastre a month is a
third of a million piastres in the end, and at 96 % the rounded payment is the interest of the
first month, so that the first row pays the whole balance.

Every row pays at most twice the level payment exactly when all level payments leave one of
them owed at most (`no_balloon_iff`).  They do when a piastre a month is worth no more than a
level payment at the end of the term (`owed_le_of_worth`).
-/

import TopChoice.Lib.Annuity
import TopChoice.Reports.Mortgage

namespace TopChoice
namespace Reports
namespace Finance

open Annuity

/-- The interest of a month, in whole piastres. -/
def monthlyInterest (monthlyRate balance : ℚ) : ℚ := roundMoney (balance * monthlyRate)

/-- All level payments leave one of them owed at most. -/
def LeavesOnePayment (monthlyRate payment : ℚ) (months : ℕ) (balance : ℚ) : Prop :=
  owed (monthlyInterest monthlyRate) payment months balance ≤ payment

section Rows

variable {δ : Type} (shift : δ → ℕ → δ) {monthlyRate payment : ℚ} (months : ℕ)
  (startDate : Option δ)

theorem monthlyInterest_mono (hrate : 0 ≤ monthlyRate) : Monotone (monthlyInterest monthlyRate) :=
  fun _ _ h => roundMoney_mono (mul_le_mul_of_nonneg_right h hrate)

/-- **The rows of the months that are left**, where the level payment covers the interest. -/
theorem rows_le_iff (hrate : 0 ≤ monthlyRate) (hpayment : InPiastres payment) (n : ℕ) :
    ∀ (month : ℕ) {balance : ℚ}, month + n = months → 0 < balance → InPiastres balance →
      monthlyInterest monthlyRate balance < payment →
      ((∀ row ∈ amortiseFrom shift monthlyRate payment months startDate
          (List.range' month (n + 1)) balance, row.payment ≤ 2 * payment) ↔
        LeavesOnePayment monthlyRate payment (n + 1) balance) := by
  have hpaid {balance : ℚ} (hpositive : 0 < balance)
      (hcovers : monthlyInterest monthlyRate balance < payment) : 0 < payment :=
    (roundMoney_nonneg (mul_nonneg hpositive.le hrate)).trans_lt hcovers
  induction n with
  | zero =>
    intro month balance hlast hpositive hbalance hcovers
    have hrows : amortiseFrom shift monthlyRate payment months startDate (List.range' month 1)
        balance = [amortiseRow shift monthlyRate payment months startDate month balance] := by
      rw [List.range'_one, amortiseFrom, if_neg hpositive.not_ge]
      rfl
    have hprincipal : (amortiseRow shift monthlyRate payment months startDate month
        balance).principal = balance := by
      rcases principal_amortiseRow shift monthlyRate months startDate month hpayment
        hpositive with ⟨hall, -⟩ | ⟨hmonth, -⟩
      · exact hall
      · exact absurd hlast hmonth
    have hpays := (amortiseRow_pays shift monthlyRate months startDate month hpayment hpositive
      hbalance).1.payment
    have hinterest : (amortiseRow shift monthlyRate payment months startDate month
        balance).interest = monthlyInterest monthlyRate balance := rfl
    rw [hrows, List.forall_mem_singleton, hpays, hprincipal, hinterest, LeavesOnePayment, owed,
      owed]
    constructor <;> intro h <;> linarith
  | succ n ih =>
    intro month balance hlast hpositive hbalance hcovers
    have hcases := principal_amortiseRow shift monthlyRate months startDate month hpayment hpositive
    obtain ⟨hpays, hgrid, -⟩ :=
      amortiseRow_pays shift monthlyRate months startDate month hpayment hpositive hbalance
    rw [List.range'_succ, amortiseFrom, if_neg hpositive.not_ge]
    dsimp only
    set row := amortiseRow shift monthlyRate payment months startDate month balance
    have hinterest : row.interest = monthlyInterest monthlyRate balance := rfl
    dsimp only at hcases
    rw [hinterest] at hcases
    have howed : LeavesOnePayment monthlyRate payment (n + 1 + 1) balance ↔
        LeavesOnePayment monthlyRate payment (n + 1)
          (balance + monthlyInterest monthlyRate balance - payment) := Iff.rfl
    rw [howed, List.forall_mem_cons, hpays.payment, hinterest]
    rcases lt_or_ge (payment - monthlyInterest monthlyRate balance) balance with hlevel | hoff
    · -- the level payment, and the months after it
      have hprincipal : row.principal = payment - monthlyInterest monthlyRate balance := by
        rcases hcases with ⟨-, hmonth | hlt | hle⟩ | ⟨-, hpart, -⟩
        · omega
        · exact absurd hlt hlevel.not_gt
        · exact absurd hle (sub_pos.2 hcovers).not_ge
        · exact hpart
      have hbalance' : row.balance = balance + monthlyInterest monthlyRate balance - payment := by
        rw [hpays.balance, hprincipal]
        ring
      have hfalls : row.balance ≤ balance := by
        rw [hpays.balance]
        exact sub_le_self _ hpays.positive.le
      have hmore : 0 < row.balance := by
        rw [hbalance']
        linarith
      rw [← hbalance', ih (month + 1) (by omega) hmore hgrid
        ((monthlyInterest_mono hrate hfalls).trans_lt hcovers), hprincipal]
      have := hpaid hpositive hcovers
      exact and_iff_right (by linarith)
    · -- the balance is paid off, and level payments would leave nothing owed
      have hwhole : row.principal = balance := by
        rcases hcases with ⟨hall, -⟩ | ⟨-, hpart, -, hle⟩
        · exact hall
        · exact le_antisymm hle (hpart ▸ hoff)
      have hzero : row.balance = 0 := by rw [hpays.balance, hwhole, sub_self]
      have hdebt : balance + monthlyInterest monthlyRate balance - payment ≤ 0 := by linarith
      have hnothing : ∀ debt ≤ 0, monthlyInterest monthlyRate debt ≤ 0 := fun debt hdebt =>
        roundMoney_nonpos (mul_nonpos_of_nonpos_of_nonneg hdebt hrate)
      have hnone := owed_nonpos hnothing (hpaid hpositive hcovers).le (n + 1) hdebt
      rw [hzero, List.range'_succ, amortiseFrom, if_pos le_rfl, hwhole]
      have hpositive' := hpaid hpositive hcovers
      refine iff_of_true ⟨by linarith, fun _ h => absurd h List.not_mem_nil⟩ (hnone.trans hpositive'.le)

/-- **Every row pays at most twice the level payment** exactly when the level payments leave one
of them owed at most. -/
theorem amortise_le_iff {principal : ℚ} (hrate : 0 ≤ monthlyRate) (hpayment : InPiastres payment)
    (hpositive : 0 < principal) (hprincipal : InPiastres principal) {months : ℕ}
    (hmonths : 1 ≤ months) (hinterest : monthlyInterest monthlyRate principal < principal) :
    (∀ row ∈ amortise shift principal monthlyRate payment months startDate,
        row.payment ≤ 2 * payment) ↔ LeavesOnePayment monthlyRate payment months principal := by
  obtain ⟨n, rfl⟩ := Nat.exists_eq_add_of_le' hmonths
  rcases lt_or_ge (monthlyInterest monthlyRate principal) payment with hcovers | hshort
  · exact rows_le_iff shift (n + 1) startDate hrate hpayment n 1 (Nat.add_comm 1 n) hpositive
      hprincipal hcovers
  · -- the first row pays the whole balance, and level payments would never pay it off
    refine iff_of_false (fun hrows => ?_) fun howed => ?_
    · have hcases := principal_amortiseRow shift monthlyRate (n + 1) startDate 1 hpayment hpositive
      have hpays := (amortiseRow_pays shift monthlyRate (n + 1) startDate 1 hpayment hpositive
        hprincipal).1.payment
      have hfirst := hrows (amortiseRow shift monthlyRate payment (n + 1) startDate 1 principal) (by
        rw [amortise, List.range'_succ, amortiseFrom, if_neg hpositive.not_ge]
        exact List.mem_cons_self)
      have hcharged : (amortiseRow shift monthlyRate payment (n + 1) startDate 1
          principal).interest = monthlyInterest monthlyRate principal := rfl
      dsimp only at hcases
      rw [hcharged] at hcases hpays
      rcases hcases with ⟨hall, -⟩ | ⟨-, hpart, hpos, -⟩
      · rw [hpays, hall] at hfirst
        linarith
      · linarith
    · have hgrows := le_owed (monthlyInterest_mono hrate) (n + 1) hshort
      exact absurd (hgrows.trans howed) (not_le.2 (hshort.trans_lt hinterest))

end Rows

/-! ### Accepted loans -/

section Loan

variable {δ : Type} {decimals : Decimals} {parse : String → Option δ} {shift : δ → ℕ → δ}
  {arguments : MortgageArguments} {loan : Loan δ}

/-- A quotient of what is not negative. -/
theorem Decimals.div_bounds (decimals : Decimals) {a b : ℚ} (ha : 0 ≤ a) (hb : 0 < b) :
    0 ≤ decimals.div a b ∧ decimals.div a b ≤ a / b * (1 + 1 / 10 ^ 15) := by
  have hnonneg : 0 ≤ a / b := div_nonneg ha hb.le
  have hclose := abs_le.1 (decimals.div_close a b)
  rw [abs_of_nonneg hnonneg] at hclose
  constructor <;> linarith

/-- What the validation promises of a loan. -/
theorem loanOf_ok (h : loanOf decimals parse arguments = .ok loan) :
    0 < loan.principal ∧ InPiastres loan.principal ∧ 0 ≤ loan.monthlyRate ∧
      loan.monthlyRate ≤ 1 / 10 ∧ 1 ≤ loan.months := by
  obtain ⟨price, -, h⟩ := Fallible.bind_eq_ok.1 h
  obtain ⟨percent, -, h⟩ := Fallible.bind_eq_ok.1 h
  obtain ⟨years, hyears, h⟩ := Fallible.bind_eq_ok.1 h
  obtain ⟨rate, hrate, h⟩ := Fallible.bind_eq_ok.1 h
  obtain ⟨start, -, h⟩ := Fallible.bind_eq_ok.1 h
  dsimp only at h
  split_ifs at h with hprincipal
  obtain rfl := Except.ok.inj h
  obtain ⟨hrate₀, hrate₁⟩ := validateRate_ok hrate
  have hannual := decimals.div_bounds hrate₀ (by norm_num : (0 : ℚ) < 100)
  have hmonthly := decimals.div_bounds hannual.1 (by norm_num [monthsPerYear] :
    (0 : ℚ) < monthsPerYear)
  refine ⟨not_le.1 hprincipal, roundMoney_inPiastres _, hmonthly.1, ?_, ?_⟩
  · rw [maxRate] at hrate₁
    norm_num [monthsPerYear] at hannual hmonthly ⊢
    linarith
  · exact Nat.mul_pos (validateYears_ok hyears).1 (by decide)

/-- The interest of the first month is less than the principal. -/
theorem monthlyInterest_lt (h : loanOf decimals parse arguments = .ok loan) :
    monthlyInterest loan.monthlyRate loan.principal < loan.principal := by
  obtain ⟨hpositive, ⟨k, hk⟩, -, hrate, -⟩ := loanOf_ok h
  have hround := (abs_le.1 (abs_roundMoney_sub_le (loan.principal * loan.monthlyRate))).2
  have hpiastre : (1 : ℚ) / 100 ≤ loan.principal := by
    have hone : (1 : ℤ) ≤ k := by
      rw [hk] at hpositive
      by_contra hlt
      have hle : (k : ℚ) ≤ 0 := by exact_mod_cast Int.lt_add_one_iff.1 (not_le.1 hlt)
      have hnonpos := div_nonpos_of_nonpos_of_nonneg hle (Nat.cast_nonneg (α := ℚ) (10 ^ scale))
      exact absurd hpositive hnonpos.not_gt
    rw [hk]
    have hcast : (1 : ℚ) ≤ k := by exact_mod_cast hone
    norm_num [scale]
    linarith
  have hinterest : loan.principal * loan.monthlyRate ≤ loan.principal * (1 / 10) :=
    mul_le_mul_of_nonneg_left hrate hpositive.le
  rw [monthlyInterest]
  linarith

theorem levelPayment_inPiastres {principal monthlyRate payment : ℚ} {months : ℕ}
    (h : levelPayment decimals principal monthlyRate months = .ok payment) :
    InPiastres payment := by
  rw [levelPayment] at h
  dsimp only at h
  split_ifs at h <;> obtain rfl := Except.ok.inj h <;> exact roundMoney_inPiastres _

/-- What `mortgage` returns. -/
theorem mortgage_ok {m : Mortgage δ} (hloan : loanOf decimals parse arguments = .ok loan)
    (h : mortgage decimals parse shift arguments = .ok m) :
    ∃ payment, levelPayment decimals loan.principal loan.monthlyRate loan.months = .ok payment ∧
      m.monthlyPayment = payment ∧ m.schedule = (amortise shift loan.principal loan.monthlyRate
        payment loan.months loan.startDate).map fun row =>
          { row with
            payment := toMoney row.payment
            interest := toMoney row.interest
            principal := toMoney row.principal
            balance := toMoney row.balance } := by
  obtain ⟨loan', hloan', h⟩ := Fallible.bind_eq_ok.1 h
  obtain rfl := Except.ok.inj (hloan.symm.trans hloan')
  obtain ⟨payment, hpayment, h⟩ := Fallible.bind_eq_ok.1 h
  obtain rfl := Except.ok.inj h
  exact ⟨payment, hpayment, roundMoney_eq (levelPayment_inPiastres hpayment), rfl⟩

/-- The schedule of a mortgage, by its level payment. -/
theorem schedule_le_iff {m : Mortgage δ} (hloan : loanOf decimals parse arguments = .ok loan)
    (h : mortgage decimals parse shift arguments = .ok m) :
    ∃ payment, levelPayment decimals loan.principal loan.monthlyRate loan.months = .ok payment ∧
      m.monthlyPayment = payment ∧ ((∀ row ∈ m.schedule, row.payment ≤ 2 * payment) ↔
        LeavesOnePayment loan.monthlyRate payment loan.months loan.principal) := by
  obtain ⟨payment, hlevel, hm, hschedule⟩ := mortgage_ok hloan h
  obtain ⟨hpositive, hprincipal, hrate, -, hmonths⟩ := loanOf_ok hloan
  have hpayment := levelPayment_inPiastres hlevel
  have hgrid := (amortise_repays shift loan.monthlyRate loan.startDate hpositive hprincipal
    hpayment hmonths).1.inPiastres hpayment hprincipal
  refine ⟨payment, hlevel, hm, ?_⟩
  rw [← amortise_le_iff shift loan.startDate hrate hpayment hpositive hprincipal hmonths
    (monthlyInterest_lt hloan), hschedule, List.forall_mem_map]
  refine forall₂_congr fun row hrow => ?_
  have hshown : toMoney row.payment = row.payment := roundMoney_eq (hgrid row hrow).1
  rw [hshown]

/-- The level payment is that of the annuity, to half a piastre. -/
theorem abs_levelPayment_sub_le {principal monthlyRate payment : ℚ} {months : ℕ}
    (hrate : 0 ≤ monthlyRate)
    (h : levelPayment .exact principal monthlyRate months = .ok payment) :
    |payment - (1 + monthlyRate) ^ months * principal / worth monthlyRate months| ≤ 1 / 200 := by
  have hgrowth := mul_worth monthlyRate months
  rw [levelPayment] at h
  dsimp only [Decimals.exact] at h
  split_ifs at h with hzero <;> obtain rfl := Except.ok.inj h
  · obtain rfl := le_antisymm hzero hrate
    have hworth : worth (0 : ℚ) months = months := by
      simp only [worth, add_zero, one_pow, Finset.sum_const, Finset.card_range, nsmul_one]
    rw [hworth, add_zero, one_pow, one_mul]
    exact abs_roundMoney_sub_le _
  · have hlevel : principal * monthlyRate * (1 + monthlyRate) ^ months /
        ((1 + monthlyRate) ^ months - 1) =
          (1 + monthlyRate) ^ months * principal / worth monthlyRate months := by
      rw [← hgrowth, mul_assoc, mul_left_comm, mul_div_mul_left _ _ (not_le.1 hzero).ne',
        mul_comm principal]
    rw [← hlevel]
    exact abs_roundMoney_sub_le _

/-- **What the level payments leave** is at most what a piastre a month is worth. -/
theorem owed_le_of_worth {principal monthlyRate payment : ℚ} {months : ℕ}
    (hrate : 0 ≤ monthlyRate) (hmonths : 1 ≤ months)
    (h : levelPayment .exact principal monthlyRate months = .ok payment) :
    owed (monthlyInterest monthlyRate) payment months principal ≤
      worth monthlyRate months / 100 := by
  have hworth := worth_pos hrate hmonths
  have herror := abs_owed_sub_le hrate
    (fun debt => abs_roundMoney_sub_le (debt * monthlyRate)) (abs_levelPayment_sub_le hrate h)
    months principal
  rw [div_mul_cancel₀ _ hworth.ne', sub_self, sub_zero] at herror
  have hle := (abs_le.1 herror).2
  rw [show (1 : ℚ) / 200 + 1 / 200 = 1 / 100 by norm_num] at hle
  exact hle.trans_eq (by ring)

/-- **Small errors do no harm**: with exact powers and quotients, no row pays more than twice the
level payment when a piastre a month is worth no more than a level payment at the end. -/
theorem no_balloon_of_worth {m : Mortgage δ}
    (hloan : loanOf .exact parse arguments = .ok loan)
    (h : mortgage .exact parse shift arguments = .ok m)
    (hworth : worth loan.monthlyRate loan.months ≤ 100 * m.monthlyPayment) :
    ∀ row ∈ m.schedule, row.payment ≤ 2 * m.monthlyPayment := by
  obtain ⟨payment, hlevel, rfl, hiff⟩ := schedule_le_iff hloan h
  obtain ⟨-, -, hrate, -, hmonths⟩ := loanOf_ok hloan
  have howed := owed_le_of_worth hrate hmonths hlevel
  refine hiff.2 (howed.trans ?_)
  linarith

end Loan

end Finance
end Reports
end TopChoice
