/-
# A mortgage month by month

`mortgage`, `level_payment`, `amortise` and `yearly_rollup` of
`apps/reports-svc/lib/finance.rb`.  Three rules can end a schedule: the last month of the term,
a part of the principal that would overshoot the balance, and a payment that does not cover the
interest each pay the whole balance.

Whichever it is, the rows repay the loan (`Repays`): a row pays the interest on the balance and
a positive part of it, every row but the last pays the level payment, and the last one leaves
nothing.  What the schedule promises follows from that alone.
-/

import TopChoice.Lib.Grouping
import TopChoice.Reports.Finance

namespace TopChoice
namespace Reports
namespace Finance

open HalfUp

variable {δ : Type}

/-! ### The schedule -/

/-- A row of `amortise`. -/
structure AmortisationRow (δ : Type) where
  month : ℕ
  dueDate : Option δ
  payment : ℚ
  interest : ℚ
  principal : ℚ
  balance : ℚ
  deriving DecidableEq, Repr

/-- `level_payment`. -/
def levelPayment (decimals : Decimals) (principal monthlyRate : ℚ) (months : ℕ) :
    Except ValidationError ℚ :=
  if monthlyRate ≤ 0 then .ok (roundMoney (decimals.div principal months))
  else
    let growth := decimals.power (1 + monthlyRate) months
    let numerator := principal * monthlyRate * growth
    let denominator := growth - 1
    if denominator ≤ 0 then .error (.field "annualRatePercent" "produces a degenerate schedule")
    else .ok (roundMoney (decimals.div numerator denominator))

/-- The row of a month; `shift` is `Date#>>`. -/
def amortiseRow (shift : δ → ℕ → δ) (monthlyRate payment : ℚ) (months : ℕ) (startDate : Option δ)
    (month : ℕ) (balance : ℚ) : AmortisationRow δ :=
  let interest := roundMoney (balance * monthlyRate)
  let part := roundMoney (payment - interest)
  let part := if balance < part ∨ month = months then balance else part
  let part := if part ≤ 0 ∧ 0 < balance then balance else part
  { month := month
    dueDate := startDate.map fun date => shift date month
    payment := roundMoney (part + interest)
    interest := interest
    principal := part
    balance := roundMoney (balance - part) }

/-- The loop of `amortise`, over the months that are left. -/
def amortiseFrom (shift : δ → ℕ → δ) (monthlyRate payment : ℚ) (months : ℕ)
    (startDate : Option δ) : List ℕ → ℚ → List (AmortisationRow δ)
  | [], _ => []
  | month :: rest, balance =>
      if balance ≤ 0 then []
      else
        let row := amortiseRow shift monthlyRate payment months startDate month balance
        row :: amortiseFrom shift monthlyRate payment months startDate rest row.balance

/-- `amortise`. -/
def amortise (shift : δ → ℕ → δ) (principal monthlyRate payment : ℚ) (months : ℕ)
    (startDate : Option δ) : List (AmortisationRow δ) :=
  amortiseFrom shift monthlyRate payment months startDate (List.range' 1 months) principal

/-- A row of `yearly_rollup`. -/
structure YearlyRow where
  year : ℕ
  payments : ℕ
  paid : ℚ
  interest : ℚ
  principal : ℚ
  closingBalance : ℚ
  deriving DecidableEq, Repr

/-- `MONTHS_PER_YEAR`. -/
def monthsPerYear : ℕ := 12

/-- `yearly_rollup`. -/
def yearlyRollup (schedule : List (AmortisationRow δ)) : List YearlyRow :=
  (Grouping.groupBy (fun row => (row.month - 1) / monthsPerYear + 1) schedule).map fun group =>
    { year := group.1
      payments := group.2.length
      paid := toMoney (roundMoney (group.2.map (·.payment)).sum)
      interest := toMoney (roundMoney (group.2.map (·.interest)).sum)
      principal := toMoney (roundMoney (group.2.map (·.principal)).sum)
      closingBalance := toMoney ((group.2.getLast?.map (·.balance)).getD 0) }

/-! ### A loan -/

/-- The arguments of `mortgage`. -/
structure MortgageArguments where
  price : Argument
  downPaymentPercent : Argument
  years : Argument
  annualRatePercent : Argument
  startDate : Argument := .nil
  deriving DecidableEq, Repr

/-- What `mortgage` works out of its arguments before the payment. -/
structure Loan (δ : Type) where
  price : ℚ
  downPaymentPercent : ℚ
  years : ℕ
  annualRatePercent : ℚ
  startDate : Option δ
  downPayment : ℚ
  principal : ℚ
  monthlyRate : ℚ

/-- The number of months of a loan. -/
def Loan.months (loan : Loan δ) : ℕ := loan.years * monthsPerYear

/-- The start date, when one is given. -/
def startDateOf (parse : String → Option δ) : Argument → Except ValidationError (Option δ)
  | .nil => .ok none
  | value => (coerceDate parse value "startDate").map some

/-- The validation of `mortgage`. -/
def loanOf (decimals : Decimals) (parse : String → Option δ) (arguments : MortgageArguments) :
    Except ValidationError (Loan δ) := do
  let price ← validatePrice arguments.price
  let downPaymentPercent ← validatePercent arguments.downPaymentPercent "downPaymentPercent"
  let years ← validateYears arguments.years
  let annualRatePercent ← validateRate arguments.annualRatePercent
  let startDate ← startDateOf parse arguments.startDate
  let downPayment := roundMoney (decimals.div (price * downPaymentPercent) 100)
  let principal := roundMoney (price - downPayment)
  let monthlyRate := decimals.div (decimals.div annualRatePercent 100) monthsPerYear
  if principal ≤ 0 then
    .error (.field "downPaymentPercent"
      "leaves nothing to finance — the down payment covers the price")
  else
    .ok { price, downPaymentPercent, years, annualRatePercent, startDate, downPayment, principal,
          monthlyRate }

/-- The result of `mortgage`; `input` and `currency` repeat the arguments and are left out. -/
structure Mortgage (δ : Type) where
  price : ℚ
  downPayment : ℚ
  principal : ℚ
  months : ℕ
  payments : ℕ
  monthlyRate : ℚ
  monthlyPayment : ℚ
  firstPayment : ℚ
  lastPayment : ℚ
  totalInterest : ℚ
  totalPaid : ℚ
  totalCost : ℚ
  interestToPrincipalRatio : ℚ
  schedule : List (AmortisationRow δ)
  yearly : List YearlyRow

/-- `mortgage`; an amount is given before `to_f`. -/
def mortgage (decimals : Decimals) (parse : String → Option δ) (shift : δ → ℕ → δ)
    (arguments : MortgageArguments) : Except ValidationError (Mortgage δ) := do
  let loan ← loanOf decimals parse arguments
  let payment ← levelPayment decimals loan.principal loan.monthlyRate loan.months
  let schedule :=
    amortise shift loan.principal loan.monthlyRate payment loan.months loan.startDate
  let totalInterest := roundMoney (schedule.map (·.interest)).sum
  let totalPaid := roundMoney (schedule.map (·.payment)).sum
  .ok
    { price := toMoney loan.price
      downPayment := toMoney loan.downPayment
      principal := toMoney loan.principal
      months := loan.months
      payments := schedule.length
      monthlyRate := toGrid (10 ^ 10) loan.monthlyRate
      monthlyPayment := toMoney payment
      firstPayment := toMoney ((schedule.head?.map (·.payment)).getD 0)
      lastPayment := toMoney ((schedule.getLast?.map (·.payment)).getD 0)
      totalInterest := toMoney totalInterest
      totalPaid := toMoney totalPaid
      totalCost := toMoney (roundMoney (loan.downPayment + totalPaid))
      interestToPrincipalRatio := decimals.ratio totalInterest loan.principal
      schedule := schedule.map fun row =>
        { row with
          payment := toMoney row.payment
          interest := toMoney row.interest
          principal := toMoney row.principal
          balance := toMoney row.balance }
      yearly := yearlyRollup schedule }

/-! ### Repayment -/

/-- A row pays the interest on a balance and a part of it. -/
structure Pays (monthlyRate balance : ℚ) (row : AmortisationRow δ) : Prop where
  interest : row.interest = roundMoney (balance * monthlyRate)
  payment : row.payment = row.interest + row.principal
  positive : 0 < row.principal
  balance : row.balance = balance - row.principal

/-- Rows that repay a balance: all but the last pay the level payment and leave something, the
last one leaves nothing. -/
inductive Repays (monthlyRate payment : ℚ) : ℚ → List (AmortisationRow δ) → Prop
  | last {balance row} : Pays monthlyRate balance row → row.balance = 0 →
      Repays monthlyRate payment balance [row]
  | level {balance row rows} : Pays monthlyRate balance row → row.payment = payment →
      0 < row.balance → Repays monthlyRate payment row.balance rows →
      Repays monthlyRate payment balance (row :: rows)

section Row

variable (shift : δ → ℕ → δ) (monthlyRate : ℚ) {payment : ℚ} (months : ℕ) (startDate : Option δ)
  (month : ℕ) {balance : ℚ}

/-- **What a row pays of the principal**: what the level payment leaves after the interest, which
is positive and not more than the balance; or the whole balance, in the last month, where the
level payment would overshoot, and where it does not cover the interest. -/
theorem principal_amortiseRow (hpayment : InPiastres payment) (hpositive : 0 < balance) :
    let row := amortiseRow shift monthlyRate payment months startDate month balance
    row.principal = balance ∧
        (month = months ∨ balance < payment - row.interest ∨ payment - row.interest ≤ 0) ∨
      month ≠ months ∧ row.principal = payment - row.interest ∧
        0 < row.principal ∧ row.principal ≤ balance := by
  have hround : roundMoney (payment - roundMoney (balance * monthlyRate)) =
      payment - roundMoney (balance * monthlyRate) :=
    roundMoney_eq (hpayment.sub (roundMoney_inPiastres _))
  dsimp only [amortiseRow]
  rw [hround]
  by_cases hwhole : balance < payment - roundMoney (balance * monthlyRate) ∨ month = months
  · left
    rw [if_pos hwhole, ite_self]
    exact ⟨rfl, hwhole.elim (fun h => .inr (.inl h)) .inl⟩
  · rw [if_neg hwhole]
    by_cases hcovers : payment - roundMoney (balance * monthlyRate) ≤ 0
    · left
      exact ⟨if_pos ⟨hcovers, hpositive⟩, .inr (.inr hcovers)⟩
    · right
      obtain ⟨hovershoot, hmonth⟩ := not_or.1 hwhole
      rw [if_neg fun h => hcovers h.1]
      exact ⟨hmonth, rfl, not_le.1 hcovers, not_lt.1 hovershoot⟩

/-- **One row**: it pays the interest on the balance and a positive part of it, and leaves
something only when it pays the level payment before the last month. -/
theorem amortiseRow_pays (hpayment : InPiastres payment) (hpositive : 0 < balance)
    (hbalance : InPiastres balance) :
    let row := amortiseRow shift monthlyRate payment months startDate month balance
    Pays monthlyRate balance row ∧ InPiastres row.balance ∧
      (row.balance = 0 ∨ month ≠ months ∧ 0 < row.balance ∧ row.payment = payment) := by
  intro row
  have hinterest : InPiastres row.interest := roundMoney_inPiastres _
  have hcases := principal_amortiseRow shift monthlyRate months startDate month hpayment
    hpositive
  have hprincipal : InPiastres row.principal := by
    rcases hcases with ⟨hall, -⟩ | ⟨-, hlevel, -⟩
    · exact hall ▸ hbalance
    · exact hlevel ▸ hpayment.sub hinterest
  have hpays : row.payment = row.interest + row.principal := by
    have hround : row.payment = roundMoney (row.principal + row.interest) := rfl
    rw [hround, roundMoney_eq (hprincipal.add hinterest), add_comm]
  have hleft : row.balance = balance - row.principal :=
    roundMoney_eq (hbalance.sub hprincipal)
  refine ⟨⟨rfl, hpays, ?_, hleft⟩, roundMoney_inPiastres _, ?_⟩
  · rcases hcases with ⟨hall, -⟩ | ⟨-, -, hpart, -⟩
    · exact hall ▸ hpositive
    · exact hpart
  · rcases hcases with ⟨hall, -⟩ | ⟨hmonth, hlevel, -, hle⟩
    · left
      rw [hleft, hall, sub_self]
    · rcases hle.lt_or_eq with hlt | heq
      · right
        refine ⟨hmonth, hleft ▸ sub_pos.2 hlt, ?_⟩
        rw [hpays, hlevel]
        exact add_sub_cancel _ _
      · left
        rw [hleft, heq, sub_self]

/-- **The loop repays the balance** in the months that are left. -/
theorem amortiseFrom_repays (hpayment : InPiastres payment) (n : ℕ) :
    ∀ (month : ℕ) {balance : ℚ}, month + n = months → 0 < balance → InPiastres balance →
      let rows := amortiseFrom shift monthlyRate payment months startDate
        (List.range' month (n + 1)) balance
      Repays monthlyRate payment balance rows ∧ rows.length ≤ n + 1 := by
  induction n with
  | zero =>
    intro month balance hlast hpositive hbalance
    obtain ⟨hpays, -, hend⟩ :=
      amortiseRow_pays shift monthlyRate months startDate month hpayment hpositive hbalance
    have hzero := hend.resolve_right fun h => h.1 hlast
    have hrows : amortiseFrom shift monthlyRate payment months startDate (List.range' month 1)
        balance = [amortiseRow shift monthlyRate payment months startDate month balance] := by
      rw [List.range'_one, amortiseFrom, if_neg hpositive.not_ge]
      rfl
    rw [hrows]
    exact ⟨.last hpays hzero, le_rfl⟩
  | succ n ih =>
    intro month balance hlast hpositive hbalance
    obtain ⟨hpays, hgrid, hend⟩ :=
      amortiseRow_pays shift monthlyRate months startDate month hpayment hpositive hbalance
    rw [List.range'_succ, amortiseFrom, if_neg hpositive.not_ge]
    dsimp only
    set row := amortiseRow shift monthlyRate payment months startDate month balance
    rcases hend with hzero | ⟨-, hmore, hlevel⟩
    · rw [hzero, List.range'_succ, amortiseFrom, if_pos le_rfl]
      exact ⟨.last hpays hzero, Nat.le_add_left 1 _⟩
    · obtain ⟨hrest, hlength⟩ := ih (month + 1) (by omega) hmore hgrid
      exact ⟨.level hpays hlevel hmore hrest, Nat.succ_le_succ hlength⟩

end Row

/-! ### What rows that repay a balance have in common -/

namespace Repays

variable {monthlyRate payment balance : ℚ} {rows : List (AmortisationRow δ)}

theorem ne_nil (h : Repays monthlyRate payment balance rows) : rows ≠ [] := by
  cases h <;> exact List.cons_ne_nil _ _

/-- **The parts of the principal are the balance.** -/
theorem sum_principal (h : Repays monthlyRate payment balance rows) :
    (rows.map (·.principal)).sum = balance := by
  induction h with
  | last hpays hzero =>
    rw [List.map_singleton, List.sum_singleton]
    linarith [hpays.balance]
  | level hpays _ _ _ ih =>
    rw [List.map_cons, List.sum_cons, ih]
    linarith [hpays.balance]

/-- A row pays a positive part of the principal and interest that is not negative. -/
theorem parts (h : Repays monthlyRate payment balance rows) (hrate : 0 ≤ monthlyRate)
    (hbalance : 0 ≤ balance) : ∀ row ∈ rows,
      0 < row.principal ∧ 0 ≤ row.interest ∧ row.payment = row.interest + row.principal := by
  have hrow {balance : ℚ} {row : AmortisationRow δ} (hpays : Pays monthlyRate balance row)
      (hbalance : 0 ≤ balance) :
      0 < row.principal ∧ 0 ≤ row.interest ∧ row.payment = row.interest + row.principal :=
    ⟨hpays.positive, hpays.interest ▸ roundMoney_nonneg (mul_nonneg hbalance hrate),
      hpays.payment⟩
  induction h with
  | last hpays hzero =>
    intro row hmem
    obtain rfl := List.mem_singleton.1 hmem
    exact hrow hpays hbalance
  | level hpays _ hmore _ ih =>
    intro row hmem
    rcases List.mem_cons.1 hmem with rfl | hmem
    · exact hrow hpays hbalance
    · exact ih hmore.le row hmem

/-- **Balances fall**, from the balance that is repaid. -/
theorem decreasing (h : Repays monthlyRate payment balance rows) :
    (balance :: rows.map (·.balance)).IsChain (· > ·) := by
  induction h with
  | last hpays hzero =>
    refine List.isChain_pair.2 ?_
    linarith [hpays.balance, hpays.positive]
  | level hpays _ _ _ ih =>
    refine List.isChain_cons_cons.2 ⟨?_, ih⟩
    linarith [hpays.balance, hpays.positive]

theorem balance_nonneg (h : Repays monthlyRate payment balance rows) :
    ∀ row ∈ rows, 0 ≤ row.balance := by
  induction h with
  | last _ hzero =>
    intro row hmem
    obtain rfl := List.mem_singleton.1 hmem
    exact hzero.ge
  | level _ _ hmore _ ih =>
    intro row hmem
    rcases List.mem_cons.1 hmem with rfl | hmem
    · exact hmore.le
    · exact ih row hmem

/-- **The last row leaves nothing.** -/
theorem closed (h : Repays monthlyRate payment balance rows) :
    (rows.getLast?.map (·.balance)) = some 0 := by
  induction h with
  | last _ hzero => exact congrArg some hzero
  | @level _ row rows _ _ _ hrest ih =>
    obtain ⟨next, rest, rfl⟩ := List.exists_cons_of_ne_nil hrest.ne_nil
    rwa [List.getLast?_cons_cons]

/-- **The interest of a row** is that on the balance before it. -/
theorem interest_eq (h : Repays monthlyRate payment balance rows) :
    rows.map (·.interest) =
      (balance :: rows.map (·.balance)).dropLast.map fun before =>
        roundMoney (before * monthlyRate) := by
  induction h with
  | last hpays _ => exact congrArg (fun interest => [interest]) hpays.interest
  | level hpays _ _ _ ih =>
    rw [List.map_cons, List.map_cons, List.dropLast_cons_cons, List.map_cons, ih, hpays.interest]

/-- **Every row but the last pays the level payment.** -/
theorem level_payment (h : Repays monthlyRate payment balance rows) :
    ∀ row ∈ rows.dropLast, row.payment = payment := by
  induction h with
  | last _ _ => exact fun _ hmem => nomatch hmem
  | level _ hlevel _ hrest ih =>
    obtain ⟨next, rest, rfl⟩ := List.exists_cons_of_ne_nil hrest.ne_nil
    intro row hmem
    rcases List.mem_cons.1 hmem with rfl | hmem
    · exact hlevel
    · exact ih row hmem

/-- Rows pay whole piastres. -/
theorem inPiastres (h : Repays monthlyRate payment balance rows) (hpayment : InPiastres payment)
    (hbalance : InPiastres balance) : ∀ row ∈ rows,
      InPiastres row.payment ∧ InPiastres row.interest ∧ InPiastres row.principal := by
  have hrow {balance : ℚ} {row : AmortisationRow δ} (hpays : Pays monthlyRate balance row)
      (hprincipal : InPiastres row.principal) :
      InPiastres row.payment ∧ InPiastres row.interest ∧ InPiastres row.principal := by
    have hinterest : InPiastres row.interest := hpays.interest ▸ roundMoney_inPiastres _
    exact ⟨hpays.payment ▸ hinterest.add hprincipal, hinterest, hprincipal⟩
  induction h with
  | @last balance row hpays hzero =>
    have hall : row.principal = balance := by linarith [hpays.balance]
    intro row hmem
    obtain rfl := List.mem_singleton.1 hmem
    exact hrow hpays (hall ▸ hbalance)
  | @level balance row _ hpays hlevel _ _ ih =>
    have hpart : row.principal = payment - row.interest := by linarith [hpays.payment]
    have hprincipal : InPiastres row.principal :=
      hpart ▸ hpayment.sub (hpays.interest ▸ roundMoney_inPiastres _)
    intro row hmem
    rcases List.mem_cons.1 hmem with rfl | hmem
    · exact hrow hpays hprincipal
    · exact ih (hpays.balance ▸ hbalance.sub hprincipal) row hmem

end Repays

/-! ### The rollup -/

/-- A column of the rollup has the sum of the schedule, when the schedule has whole
piastres. -/
theorem sum_yearlyRollup (schedule : List (AmortisationRow δ)) (amount : AmortisationRow δ → ℚ)
    (column : YearlyRow → ℚ)
    (hcolumn : (yearlyRollup schedule).map column =
      (Grouping.groupBy (fun row => (row.month - 1) / monthsPerYear + 1) schedule).map
        fun group => toMoney (roundMoney (group.2.map amount).sum))
    (hamount : ∀ row ∈ schedule, InPiastres (amount row)) :
    ((yearlyRollup schedule).map column).sum = (schedule.map amount).sum := by
  rw [hcolumn, ← Grouping.sum_groupBy (fun row => (row.month - 1) / monthsPerYear + 1) amount]
  refine congrArg List.sum (List.map_congr_left fun group hgroup => ?_)
  have hsum : InPiastres (group.2.map amount).sum := by
    refine OnGrid.sum fun x hx => ?_
    obtain ⟨row, hrow, rfl⟩ := List.mem_map.1 hx
    exact hamount row ((Grouping.mem_groupBy group hgroup).2 row hrow).1
  rw [toMoney, roundMoney_eq (roundMoney_inPiastres _), roundMoney_eq hsum]

/-! ### Conservation -/

/-- What a schedule promises of the money it moves. -/
structure Conserves (principal monthlyRate payment : ℚ) (months : ℕ)
    (schedule : List (AmortisationRow δ)) : Prop where
  length_pos : 1 ≤ schedule.length
  length_le : schedule.length ≤ months
  sum_principal : (schedule.map (·.principal)).sum = principal
  parts : ∀ row ∈ schedule,
    0 < row.principal ∧ 0 ≤ row.interest ∧ row.payment = row.interest + row.principal
  decreasing : (principal :: schedule.map (·.balance)).IsChain (· > ·)
  balance_nonneg : ∀ row ∈ schedule, 0 ≤ row.balance
  closed : (schedule.getLast?.map (·.balance)) = some 0
  interest : schedule.map (·.interest) =
    (principal :: schedule.map (·.balance)).dropLast.map fun before =>
      roundMoney (before * monthlyRate)
  level : ∀ row ∈ schedule.dropLast, row.payment = payment
  paid : ((yearlyRollup schedule).map (·.paid)).sum = (schedule.map (·.payment)).sum
  yearlyInterest : ((yearlyRollup schedule).map (·.interest)).sum = (schedule.map (·.interest)).sum
  yearlyPrincipal :
    ((yearlyRollup schedule).map (·.principal)).sum = (schedule.map (·.principal)).sum
  totals : roundMoney (schedule.map (·.payment)).sum = (schedule.map (·.payment)).sum ∧
    roundMoney (schedule.map (·.interest)).sum = (schedule.map (·.interest)).sum

/-- Rows that repay a principal within the term conserve it. -/
theorem Repays.conserves {principal monthlyRate payment : ℚ} {months : ℕ}
    {schedule : List (AmortisationRow δ)} (h : Repays monthlyRate payment principal schedule)
    (hlength : schedule.length ≤ months) (hrate : 0 ≤ monthlyRate) (hpayment : InPiastres payment)
    (hnonneg : 0 ≤ principal) (hprincipal : InPiastres principal) :
    Conserves principal monthlyRate payment months schedule := by
  have hgrid := h.inPiastres hpayment hprincipal
  have htotal (amount : AmortisationRow δ → ℚ)
      (hamount : ∀ row ∈ schedule, InPiastres (amount row)) :
      roundMoney (schedule.map amount).sum = (schedule.map amount).sum := by
    refine roundMoney_eq (OnGrid.sum fun x hx => ?_)
    obtain ⟨row, hrow, rfl⟩ := List.mem_map.1 hx
    exact hamount row hrow
  exact {
    length_pos := List.length_pos_iff.2 h.ne_nil
    length_le := hlength
    sum_principal := h.sum_principal
    parts := h.parts hrate hnonneg
    decreasing := h.decreasing
    balance_nonneg := h.balance_nonneg
    closed := h.closed
    interest := h.interest_eq
    level := h.level_payment
    paid := sum_yearlyRollup schedule _ _ (List.map_map ..) fun row hrow => (hgrid row hrow).1
    yearlyInterest :=
      sum_yearlyRollup schedule _ _ (List.map_map ..) fun row hrow => (hgrid row hrow).2.1
    yearlyPrincipal :=
      sum_yearlyRollup schedule _ _ (List.map_map ..) fun row hrow => (hgrid row hrow).2.2
    totals := ⟨htotal _ fun row hrow => (hgrid row hrow).1,
      htotal _ fun row hrow => (hgrid row hrow).2.1⟩ }

section Amortise

variable (shift : δ → ℕ → δ) {principal monthlyRate payment : ℚ} {months : ℕ}
  (startDate : Option δ)

variable (monthlyRate) in
theorem amortise_repays (hpositive : 0 < principal) (hprincipal : InPiastres principal)
    (hpayment : InPiastres payment) (hmonths : 1 ≤ months) :
    let schedule := amortise shift principal monthlyRate payment months startDate
    Repays monthlyRate payment principal schedule ∧ schedule.length ≤ months := by
  obtain ⟨n, rfl⟩ := Nat.exists_eq_add_of_le' hmonths
  exact amortiseFrom_repays shift monthlyRate (n + 1) startDate hpayment n 1 (Nat.add_comm 1 n)
    hpositive hprincipal

/-- **Amortisation conserves money**, for every principal in whole piastres, every rate, every
level payment in whole piastres and every term. -/
theorem amortise_conserves (hpositive : 0 < principal) (hprincipal : InPiastres principal)
    (hrate : 0 ≤ monthlyRate) (hpayment : InPiastres payment)
    (hmonths : 1 ≤ months) :
    Conserves principal monthlyRate payment months
      (amortise shift principal monthlyRate payment months startDate) :=
  have hrepays := amortise_repays shift monthlyRate startDate hpositive hprincipal hpayment hmonths
  hrepays.1.conserves hrepays.2 hrate hpayment hpositive.le hprincipal

end Amortise

/-- A thousand pounds at one per cent a month, with 89 pounds a month. -/
theorem amortise_conserves_demo :
    Conserves 1000 (1 / 100) 89 12
      (amortise (fun date n => date + n) 1000 (1 / 100) 89 12 (some 0)) :=
  amortise_conserves (fun date n => date + n) (some 0) (by norm_num) ⟨100000, by norm_num [scale]⟩
    (by norm_num) ⟨8900, by norm_num [scale]⟩ (by decide)

end Finance
end Reports
end TopChoice
