/-
# The developer plan

`installment_schedule`, `build_installment_rows` and `installment_yearly_rollup` of
`apps/reports-svc/lib/finance.rb`: a down payment at contract, equal instalments over the
years, the last of which absorbs what rounding leaves, and a maintenance deposit on delivery.

The rows are the entries in the order of their due dates (`perm_schedule`), and an entry is in
whole piastres, so that no sum over them is rounded.  The instalments add up to the remainder
wherever the level instalment was capped (`sum_installmentEntries`).
-/

import Mathlib.Data.Prod.Lex
import TopChoice.Reports.Mortgage

namespace TopChoice
namespace Reports
namespace Finance

open HalfUp

variable {δ : Type}

/-- What the plan asks of `Date`, and of `to_s` for the number in a label. -/
structure Dates (δ : Type) where
  parse : String → Option δ
  today : δ
  shift : δ → ℕ → δ
  year : δ → ℤ
  display : ℚ → String

/-! ### The arguments -/

/-- The keys of `FREQUENCIES`. -/
inductive Frequency where
  | monthly
  | quarterly
  | semiAnnual
  | annual
  deriving DecidableEq, Repr

/-- `FREQUENCIES`: the instalments of a year. -/
def Frequency.perYear : Frequency → ℕ
  | .monthly => 12
  | .quarterly => 4
  | .semiAnnual => 2
  | .annual => 1

/-- `frequency_label`. -/
def Frequency.label : Frequency → String
  | .monthly => "Monthly"
  | .quarterly => "Quarterly"
  | .semiAnnual => "Semi-annual"
  | .annual => "Annual"

/-- `validate_frequency!`; no number, array or object prints as a frequency. -/
def validateFrequency (frequency : Argument) : Except ValidationError Frequency :=
  let text :=
    match frequency with
    | .nil => ""
    | .string text => String.ofList ((strip text).toList.map Char.toLower)
    | _ => "-"
  if text = "" ∨ text = "quarterly" then .ok .quarterly
  else if text = "monthly" then .ok .monthly
  else if text = "semi_annual" then .ok .semiAnnual
  else if text = "annual" then .ok .annual
  else .error (.field "frequency" "must be one of: monthly, quarterly, semi_annual, annual")

/-- The arguments of `installment_schedule`. -/
structure InstallmentArguments where
  price : Argument
  downPaymentPercent : Argument
  years : Argument
  deliveryDate : Argument := .nil
  frequency : Argument := .string "quarterly"
  startDate : Argument := .nil
  maintenancePercent : Argument := .number 8
  deriving DecidableEq, Repr

/-- The arguments of a plan, once they are validated. -/
structure Terms (δ : Type) where
  price : ℚ
  downPaymentPercent : ℚ
  years : ℕ
  frequency : Frequency
  startDate : δ
  deliveryDate : Option δ
  maintenancePercent : ℚ
  deriving DecidableEq, Repr

/-- A date that may be left out. -/
def optionalDate (parse : String → Option δ) (value : Argument) (field : String) :
    Except ValidationError (Option δ) :=
  if value = .nil then .ok none else (coerceDate parse value field).map some

/-- The validation of `installment_schedule`. -/
def termsOf (dates : Dates δ) (arguments : InstallmentArguments) :
    Except ValidationError (Terms δ) := do
  let price ← validatePrice arguments.price
  let downPaymentPercent ← validatePercent arguments.downPaymentPercent "downPaymentPercent"
  let years ← validateYears arguments.years
  let frequency ← validateFrequency arguments.frequency
  let startDate ← optionalDate dates.parse arguments.startDate "startDate"
  let deliveryDate ← optionalDate dates.parse arguments.deliveryDate "deliveryDate"
  let maintenancePercent ← validatePercent arguments.maintenancePercent "maintenancePercent"
  .ok { price, downPaymentPercent, years, frequency, startDate := startDate.getD dates.today,
        deliveryDate, maintenancePercent }

namespace Terms

variable (decimals : Decimals) (terms : Terms δ)

/-- `down_payment`. -/
def downPayment : ℚ := roundMoney (decimals.div (terms.price * terms.downPaymentPercent) 100)

/-- `remaining`. -/
def remaining : ℚ := roundMoney (terms.price - terms.downPayment decimals)

/-- `count`. -/
def count : ℕ := terms.years * terms.frequency.perYear

/-- `step_months`. -/
def stepMonths : ℕ := monthsPerYear / terms.frequency.perYear

/-- `maintenance`. -/
def maintenance : ℚ := roundMoney (decimals.div (terms.price * terms.maintenancePercent) 100)

/-- `base_installment`. -/
def baseInstallment : ℚ :=
  if 0 < terms.count then roundMoney (decimals.div (terms.remaining decimals) terms.count) else 0

end Terms

/-! ### Entries -/

/-- The type of an entry. -/
inductive EntryType where
  | downPayment
  | installment
  | maintenance
  deriving DecidableEq, Repr

/-- `type_weight`. -/
def EntryType.weight : EntryType → ℕ
  | .downPayment => 0
  | .installment => 1
  | .maintenance => 2

/-- An entry of a plan. -/
structure Entry (δ : Type) where
  sequence : ℕ
  type : EntryType
  label : String
  dueDate : δ
  amount : ℚ
  deriving DecidableEq, Repr

/-- The loop over the instalments, over the indices that are left. -/
def installmentEntries (dates : Dates δ) (decimals : Decimals) (terms : Terms δ) :
    List ℕ → ℚ → List (Entry δ)
  | [], _ => []
  | index :: rest, outstanding =>
      let amount := if index = terms.count then outstanding else terms.baseInstallment decimals
      let amount := if outstanding < amount then outstanding else amount
      { sequence := index
        type := .installment
        label := terms.frequency.label ++ " instalment " ++ toString index ++ " of "
          ++ toString terms.count
        dueDate := dates.shift terms.startDate (terms.stepMonths * index)
        amount := amount } ::
      installmentEntries dates decimals terms rest (roundMoney (outstanding - amount))

/-- The down payment. -/
def downPaymentEntry (dates : Dates δ) (decimals : Decimals) (terms : Terms δ) : Entry δ where
  sequence := 0
  type := .downPayment
  label := "Down payment (" ++ dates.display (toNumber terms.downPaymentPercent) ++ "%)"
  dueDate := terms.startDate
  amount := terms.downPayment decimals

/-- The maintenance deposit. -/
def maintenanceEntry (dates : Dates δ) (decimals : Decimals) (terms : Terms δ)
    (lastInstallmentDate : δ) : Entry δ where
  sequence := terms.count + 1
  type := .maintenance
  label := "Maintenance deposit (" ++ dates.display (toNumber terms.maintenancePercent) ++ "%)"
  dueDate := terms.deliveryDate.getD lastInstallmentDate
  amount := terms.maintenance decimals

/-- `entries`. -/
def entries (dates : Dates δ) (decimals : Decimals) (terms : Terms δ) : List (Entry δ) :=
  let entries := downPaymentEntry dates decimals terms ::
    installmentEntries dates decimals terms (List.range' 1 terms.count) (terms.remaining decimals)
  let lastInstallmentDate := (entries.getLast?.map (·.dueDate)).getD terms.startDate
  if 0 < terms.maintenance decimals then
    entries ++ [maintenanceEntry dates decimals terms lastInstallmentDate]
  else entries

/-! ### Rows -/

/-- A row of the schedule. -/
structure InstallmentRow (δ : Type) extends Entry δ where
  cumulativePaid : ℚ
  cumulativePercent : ℚ
  deriving DecidableEq, Repr

/-- `percent_of`, before `to_f`. -/
def percentOf (decimals : Decimals) (part whole : ℚ) : ℚ :=
  if whole = 0 then 0 else toGrid (10 ^ 2) (decimals.div part whole * 100)

/-- The rows of sorted entries, with `cumulative_cash` and `cumulative_price` so far. -/
def installmentRows (decimals : Decimals) (price : ℚ) :
    ℚ → ℚ → List (Entry δ) → List (InstallmentRow δ)
  | _, _, [] => []
  | cumulativeCash, cumulativePrice, entry :: rest =>
      let cumulativeCash := roundMoney (cumulativeCash + entry.amount)
      let cumulativePrice :=
        if entry.type = .maintenance then cumulativePrice
        else roundMoney (cumulativePrice + entry.amount)
      { entry with
        amount := toMoney entry.amount
        cumulativePaid := toMoney cumulativeCash
        cumulativePercent := percentOf decimals cumulativePrice price } ::
      installmentRows decimals price cumulativeCash cumulativePrice rest

variable [LinearOrder δ]

/-- What entries are sorted by. -/
def Entry.key (entry : Entry δ) : δ ×ₗ ℕ ×ₗ ℕ :=
  toLex (entry.dueDate, toLex (entry.type.weight, entry.sequence))

/-- `build_installment_rows`. -/
def buildInstallmentRows (decimals : Decimals) (entries : List (Entry δ)) (price : ℚ) :
    List (InstallmentRow δ) :=
  installmentRows decimals price 0 0 (Grouping.sortBy Entry.key entries)

/-- A row of `installment_yearly_rollup`. -/
structure YearlyInstallments where
  year : ℤ
  payments : ℕ
  paid : ℚ
  cumulativePercent : ℚ
  deriving DecidableEq, Repr

omit [LinearOrder δ] in
/-- `installment_yearly_rollup`. -/
def installmentYearlyRollup (year : δ → ℤ) (schedule : List (InstallmentRow δ)) :
    List YearlyInstallments :=
  (Grouping.sortBy Prod.fst (Grouping.groupBy (fun row => year row.dueDate) schedule)).map
    fun group =>
    { year := group.1
      payments := group.2.length
      paid := roundMoney (group.2.map (·.amount)).sum
      cumulativePercent := (group.2.getLast?.map (·.cumulativePercent)).getD 0 }

/-! ### The plan -/

/-- The result of `installment_schedule`; `input` and `currency` repeat the arguments and are
left out. -/
structure InstallmentPlan (δ : Type) where
  price : ℚ
  downPayment : ℚ
  remaining : ℚ
  installmentsCount : ℕ
  installmentsPerYear : ℕ
  installmentAmount : ℚ
  finalInstallmentAmount : ℚ
  monthlyEquivalent : ℚ
  maintenancePercent : ℚ
  maintenanceDeposit : ℚ
  totalPaid : ℚ
  firstDueDate : δ
  lastDueDate : δ
  deliveryDate : Option δ
  schedule : List (InstallmentRow δ)
  yearly : List YearlyInstallments

/-- The result of `installment_schedule` under the terms of a plan. -/
def planOf (dates : Dates δ) (decimals : Decimals) (terms : Terms δ) : InstallmentPlan δ :=
  let entries := entries dates decimals terms
  let schedule := buildInstallmentRows decimals entries terms.price
  { price := toMoney terms.price
    downPayment := toMoney (terms.downPayment decimals)
    remaining := toMoney (terms.remaining decimals)
    installmentsCount := terms.count
    installmentsPerYear := terms.frequency.perYear
    installmentAmount := toMoney (terms.baseInstallment decimals)
    finalInstallmentAmount :=
      toMoney (((entries.reverse.find? (·.type = .installment)).map (·.amount)).getD 0)
    monthlyEquivalent := toMoney
      (if 0 < terms.count then
        roundMoney (decimals.div (terms.remaining decimals) (terms.years * monthsPerYear : ℕ))
      else 0)
    maintenancePercent := toNumber terms.maintenancePercent
    maintenanceDeposit := toMoney (terms.maintenance decimals)
    totalPaid := toMoney (roundMoney (entries.map (·.amount)).sum)
    firstDueDate := terms.startDate
    lastDueDate := (schedule.getLast?.map (·.dueDate)).getD terms.startDate
    deliveryDate := terms.deliveryDate
    schedule := schedule
    yearly := installmentYearlyRollup dates.year schedule }

/-- `installment_schedule`; an amount is given before `to_f`. -/
def installmentSchedule (dates : Dates δ) (decimals : Decimals)
    (arguments : InstallmentArguments) : Except ValidationError (InstallmentPlan δ) := do
  let terms ← termsOf dates arguments
  .ok (planOf dates decimals terms)
theorem installmentSchedule_ok {dates : Dates δ} (decimals : Decimals)
    {arguments : InstallmentArguments} {terms : Terms δ} (h : termsOf dates arguments = .ok terms) :
    installmentSchedule dates decimals arguments = .ok (planOf dates decimals terms) := by
  rw [installmentSchedule, h]
  rfl

/-! ### What the entries are -/

section Entries

omit [LinearOrder δ]

variable (dates : Dates δ) (decimals : Decimals) (terms : Terms δ)

theorem length_installmentEntries (indices : List ℕ) (outstanding : ℚ) :
    (installmentEntries dates decimals terms indices outstanding).length = indices.length := by
  induction indices generalizing outstanding with
  | nil => rfl
  | cons index rest ih => exact congrArg (· + 1) (ih _)

theorem installmentEntries_type (indices : List ℕ) (outstanding : ℚ) :
    ∀ entry ∈ installmentEntries dates decimals terms indices outstanding,
      entry.type = .installment := by
  induction indices generalizing outstanding with
  | nil => exact fun _ h => nomatch h
  | cons index rest ih => exact List.forall_mem_cons.2 ⟨rfl, ih _⟩

theorem baseInstallment_inPiastres : InPiastres (terms.baseInstallment decimals) := by
  rw [Terms.baseInstallment]
  split_ifs
  · exact roundMoney_inPiastres _
  · exact OnGrid.zero

/-- **The amount of an instalment**: what is outstanding, at the last index and where the level
instalment would overshoot it, or the level instalment. -/
theorem installmentAmount_cases (index : ℕ) (outstanding base : ℚ) :
    let amount := if index = terms.count then outstanding else base
    let amount := if outstanding < amount then outstanding else amount
    amount = outstanding ∨ index ≠ terms.count ∧ amount = base ∧ base ≤ outstanding := by
  by_cases hlast : index = terms.count
  · simp [hlast]
  · by_cases hover : outstanding < base
    · simp [hlast, hover]
    · simp [hlast, hover, not_lt.1 hover]

/-- **The instalments that are left pay what is outstanding.** -/
theorem sum_installmentEntries (n : ℕ) : ∀ (index : ℕ) {outstanding : ℚ},
    index + n = terms.count → InPiastres outstanding →
      let entries := installmentEntries dates decimals terms (List.range' index (n + 1)) outstanding
      (∀ entry ∈ entries, InPiastres entry.amount) ∧
        (entries.map (·.amount)).sum = outstanding := by
  have hbase := baseInstallment_inPiastres decimals terms
  induction n with
  | zero =>
    intro index outstanding hlast houtstanding
    have hamount : (installmentEntries dates decimals terms (List.range' index 1)
        outstanding).map (·.amount) = [outstanding] := by
      have hindex : index = terms.count := hlast
      rw [List.range'_one, installmentEntries, if_pos hindex, ite_self]
      rfl
    refine ⟨fun entry hentry => ?_, ?_⟩
    · have hmem := List.mem_map_of_mem (f := (·.amount)) hentry
      rw [hamount] at hmem
      exact List.mem_singleton.1 hmem ▸ houtstanding
    · rw [hamount, List.sum_singleton]
  | succ n ih =>
    intro index outstanding hlast houtstanding
    rw [List.range'_succ, installmentEntries]
    have hcases := installmentAmount_cases terms index outstanding (terms.baseInstallment decimals)
    dsimp only at hcases ⊢
    set amount := if outstanding < if index = terms.count then outstanding
      else terms.baseInstallment decimals then outstanding
      else if index = terms.count then outstanding else terms.baseInstallment decimals
    have hamount : InPiastres amount := by
      rcases hcases with hall | ⟨-, hlevel, -⟩
      · exact hall ▸ houtstanding
      · exact hlevel ▸ hbase
    have hleft : roundMoney (outstanding - amount) = outstanding - amount :=
      roundMoney_eq (houtstanding.sub hamount)
    obtain ⟨hgrid, hsum⟩ := ih (index + 1) (by omega) (roundMoney_inPiastres (outstanding - amount))
    refine ⟨List.forall_mem_cons.2 ⟨hamount, hgrid⟩, ?_⟩
    rw [List.map_cons, List.sum_cons, hsum, hleft, add_sub_cancel]

end Entries

/-! ### What the rows are -/

section Rows

variable (dates : Dates δ) (decimals : Decimals) (terms : Terms δ)

/-- What is due for the price itself. -/
def coveredBy (rows : List (Entry δ)) : ℚ :=
  ((rows.filter (·.type ≠ .maintenance)).map (·.amount)).sum

omit [LinearOrder δ] in
theorem coveredBy_append (rows rows' : List (Entry δ)) :
    coveredBy (rows ++ rows') = coveredBy rows + coveredBy rows' := by
  rw [coveredBy, List.filter_append, List.map_append, List.sum_append]
  rfl

omit [LinearOrder δ] in
theorem coveredBy_singleton (entry : Entry δ) :
    coveredBy [entry] = if entry.type = .maintenance then 0 else entry.amount := by
  by_cases h : entry.type = .maintenance <;> simp [coveredBy, h]

omit [LinearOrder δ] in
/-- Rows are the entries they are made from. -/
theorem toEntry_installmentRows (price cash covered : ℚ) {entries : List (Entry δ)}
    (hentries : ∀ entry ∈ entries, InPiastres entry.amount) :
    (installmentRows decimals price cash covered entries).map (·.toEntry) = entries := by
  induction entries generalizing cash covered with
  | nil => rfl
  | cons entry rest ih =>
    have hfirst : toMoney entry.amount = entry.amount :=
      roundMoney_eq (hentries entry List.mem_cons_self)
    rw [installmentRows, List.map_cons, ih _ _ fun e he => hentries e (List.mem_cons_of_mem _ he)]
    dsimp only
    rw [hfirst]

omit [LinearOrder δ] in
/-- **A row has the totals of the rows up to it.** -/
theorem installmentRows_totals (price : ℚ) {entries : List (Entry δ)}
    (hentries : ∀ entry ∈ entries, InPiastres entry.amount) :
    ∀ {cash covered : ℚ}, InPiastres cash → InPiastres covered →
      ∀ before row after,
        installmentRows decimals price cash covered entries = before ++ row :: after →
        row.cumulativePaid = cash + (before.map (·.amount)).sum + row.amount ∧
          row.cumulativePercent = percentOf decimals
            (covered + coveredBy ((before ++ [row]).map (·.toEntry))) price := by
  induction entries with
  | nil => exact fun _ _ before _ _ h => absurd h (List.append_ne_nil_of_right_ne_nil before
      (List.cons_ne_nil _ _)).symm
  | cons entry rest ih =>
    intro cash covered hcash hcovered before row after h
    have hentry := hentries entry List.mem_cons_self
    have hpaid : roundMoney (cash + entry.amount) = cash + entry.amount :=
      roundMoney_eq (hcash.add hentry)
    have hround : roundMoney (covered + entry.amount) = covered + entry.amount :=
      roundMoney_eq (hcovered.add hentry)
    have hprice : (if entry.type = .maintenance then covered
        else roundMoney (covered + entry.amount)) = covered + coveredBy [entry] := by
      rw [coveredBy_singleton, hround]
      split_ifs
      · rw [add_zero]
      · rfl
    have hgrid : InPiastres (covered + coveredBy [entry]) := by
      rw [← hprice]
      split_ifs
      · exact hcovered
      · exact roundMoney_inPiastres _
    have hfirst : toMoney entry.amount = entry.amount := roundMoney_eq hentry
    rw [installmentRows, hpaid, hprice, hfirst] at h
    cases before with
    | nil =>
      obtain ⟨rfl, -⟩ := List.cons.inj h
      have hcash' : toMoney (cash + entry.amount) = cash + entry.amount :=
        roundMoney_eq (hcash.add hentry)
      refine ⟨?_, rfl⟩
      rw [List.map_nil, List.sum_nil, add_zero]
      exact hcash'
    | cons first before =>
      obtain ⟨rfl, htail⟩ := List.cons.inj h
      obtain ⟨hcash', hcovered'⟩ := ih (fun e he => hentries e (List.mem_cons_of_mem _ he))
        (hcash.add hentry) hgrid before row after htail
      refine ⟨?_, ?_⟩
      · rw [hcash', List.map_cons, List.sum_cons]
        ring
      · rw [hcovered', add_assoc, ← coveredBy_append]
        rfl

end Rows

/-! ### Conservation -/

theorem Frequency.perYear_pos (frequency : Frequency) : 0 < frequency.perYear := by
  cases frequency <;> decide

/-- What the validation grants of the terms of a plan. -/
structure Terms.Accepted (terms : Terms δ) : Prop where
  price_pos : 0 < terms.price
  price_le : terms.price ≤ maxPrice
  percent_nonneg : 0 ≤ terms.downPaymentPercent
  percent_le : terms.downPaymentPercent ≤ 100
  years_pos : 1 ≤ terms.years
  maintenance_nonneg : 0 ≤ terms.maintenancePercent

omit [LinearOrder δ] in
theorem termsOf_ok {dates : Dates δ} {arguments : InstallmentArguments} {terms : Terms δ}
    (h : termsOf dates arguments = .ok terms) : terms.Accepted := by
  obtain ⟨price, hprice, h⟩ := Fallible.bind_eq_ok.1 h
  obtain ⟨percent, hpercent, h⟩ := Fallible.bind_eq_ok.1 h
  obtain ⟨years, hyears, h⟩ := Fallible.bind_eq_ok.1 h
  obtain ⟨frequency, -, h⟩ := Fallible.bind_eq_ok.1 h
  obtain ⟨start, -, h⟩ := Fallible.bind_eq_ok.1 h
  obtain ⟨delivery, -, h⟩ := Fallible.bind_eq_ok.1 h
  obtain ⟨maintenance, hmaintenance, h⟩ := Fallible.bind_eq_ok.1 h
  obtain rfl := Except.ok.inj h
  exact {
    price_pos := (validatePrice_ok hprice).1
    price_le := (validatePrice_ok hprice).2
    percent_nonneg := (validatePercent_ok hpercent).1
    percent_le := (validatePercent_ok hpercent).2
    years_pos := (validateYears_ok hyears).1
    maintenance_nonneg := (validatePercent_ok hmaintenance).1 }

section Plan

variable (dates : Dates δ) (decimals : Decimals) (terms : Terms δ)

omit [LinearOrder δ] in
theorem entries_eq : ∃ deposit : List (Entry δ),
    entries dates decimals terms = downPaymentEntry dates decimals terms ::
      installmentEntries dates decimals terms (List.range' 1 terms.count)
        (terms.remaining decimals) ++ deposit ∧
    (∀ entry ∈ deposit, entry.type = .maintenance) ∧
    deposit.map (·.amount) =
      if 0 < terms.maintenance decimals then [terms.maintenance decimals] else [] := by
  rw [entries]
  split_ifs with hpositive
  · exact ⟨[_], rfl, List.forall_mem_singleton.2 rfl, rfl⟩
  · exact ⟨[], (List.append_nil _).symm, (fun _ h => nomatch h), rfl⟩

omit [LinearOrder δ] in
/-- **The entries of a type.** -/
theorem filter_entries (p : EntryType → Bool) :
    ((entries dates decimals terms).filter fun entry => p entry.type).map (·.amount) =
      (if p .downPayment then [terms.downPayment decimals] else []) ++
      (if p .installment then (installmentEntries dates decimals terms
        (List.range' 1 terms.count) (terms.remaining decimals)).map (·.amount) else []) ++
      (if p .maintenance ∧ 0 < terms.maintenance decimals then [terms.maintenance decimals]
        else []) := by
  obtain ⟨deposit, heq, htype, hamount⟩ := entries_eq dates decimals terms
  have hfilter (type : EntryType) (rows : List (Entry δ)) (hrows : ∀ row ∈ rows, row.type = type) :
      (rows.filter fun entry => p entry.type).map (·.amount) =
        if p type then rows.map (·.amount) else [] := by
    split_ifs with hp
    · rw [List.filter_eq_self.2 fun row hrow => by rw [hrows row hrow, hp]]
    · rw [List.filter_eq_nil_iff.2 fun row hrow => by rwa [hrows row hrow], List.map_nil]
  have hinstallments := installmentEntries_type dates decimals terms (List.range' 1 terms.count)
    (terms.remaining decimals)
  have hdown : ∀ row ∈ [downPaymentEntry dates decimals terms], row.type = .downPayment :=
    List.forall_mem_singleton.2 rfl
  rw [heq, ← List.singleton_append, List.filter_append, List.filter_append, List.map_append,
    List.map_append, hfilter _ _ hdown, hfilter _ _ hinstallments, hfilter _ _ htype, hamount,
    ite_and]
  rfl

variable {terms}

omit [LinearOrder δ] in
/-- What holds of the three kinds of amounts holds of every entry. -/
theorem forall_entries {P : ℚ → Prop} (hdown : P (terms.downPayment decimals))
    (hinstallments : ∀ entry ∈ installmentEntries dates decimals terms
      (List.range' 1 terms.count) (terms.remaining decimals), P entry.amount)
    (hmaintenance : 0 < terms.maintenance decimals → P (terms.maintenance decimals)) :
    ∀ entry ∈ entries dates decimals terms, P entry.amount := by
  obtain ⟨deposit, heq, -, hamount⟩ := entries_eq dates decimals terms
  rw [heq]
  intro entry hentry
  rcases List.mem_append.1 hentry with hentry | hentry
  · rcases List.mem_cons.1 hentry with rfl | hentry
    · exact hdown
    · exact hinstallments entry hentry
  · have hmem := List.mem_map_of_mem (f := (·.amount)) hentry
    rw [hamount] at hmem
    split_ifs at hmem with hpositive
    · exact List.mem_singleton.1 hmem ▸ hmaintenance hpositive
    · exact nomatch hmem

variable (haccepted : terms.Accepted)

include haccepted

omit [LinearOrder δ] in
theorem Terms.Accepted.count_pos : 0 < terms.count :=
  Nat.mul_pos haccepted.years_pos terms.frequency.perYear_pos

omit [LinearOrder δ] in
/-- **The instalments pay the remainder.** -/
theorem installments_pay :
    let entries := installmentEntries dates decimals terms (List.range' 1 terms.count)
      (terms.remaining decimals)
    (∀ entry ∈ entries, InPiastres entry.amount) ∧
      (entries.map (·.amount)).sum = terms.remaining decimals := by
  obtain ⟨n, hn⟩ := Nat.exists_eq_add_of_le' haccepted.count_pos
  rw [hn]
  exact sum_installmentEntries dates decimals terms n 1 (by omega) (roundMoney_inPiastres _)

omit [LinearOrder δ] in
theorem entries_inPiastres :
    ∀ entry ∈ entries dates decimals terms, InPiastres entry.amount :=
  forall_entries dates decimals (roundMoney_inPiastres _)
    (installments_pay dates decimals haccepted).1 fun _ => roundMoney_inPiastres _

omit [LinearOrder δ] in
theorem maintenance_nonneg : 0 ≤ terms.maintenance decimals :=
  roundMoney_nonneg (decimals.nonneg_div
    (mul_nonneg haccepted.price_pos.le haccepted.maintenance_nonneg) (by norm_num))

omit [LinearOrder δ] in
theorem sum_entries : ((entries dates decimals terms).map (·.amount)).sum =
    terms.downPayment decimals + terms.remaining decimals + terms.maintenance decimals := by
  have hall := filter_entries dates decimals terms fun _ => true
  rw [List.filter_true] at hall
  have hdeposit : (if true ∧ 0 < terms.maintenance decimals then [terms.maintenance decimals]
      else []).sum = terms.maintenance decimals := by
    split_ifs with hpositive
    · exact List.sum_singleton
    · have hzero : terms.maintenance decimals = 0 :=
        le_antisymm (not_lt.1 fun h => hpositive ⟨rfl, h⟩) (maintenance_nonneg decimals haccepted)
      rw [hzero, List.sum_nil]
  rw [hall, List.sum_append, List.sum_append, hdeposit, if_pos rfl, if_pos rfl,
    List.sum_singleton, (installments_pay dates decimals haccepted).2]

/-- The rows are the entries in the order of their keys. -/
theorem toEntry_schedule : (planOf dates decimals terms).schedule.map (·.toEntry) =
    Grouping.sortBy Entry.key (entries dates decimals terms) :=
  toEntry_installmentRows decimals terms.price 0 0 fun entry hentry =>
    entries_inPiastres dates decimals haccepted entry
      ((Grouping.perm_sortBy _ _).mem_iff.1 hentry)

/-- **The rows of a type.** -/
theorem perm_schedule (p : EntryType → Bool) :
    (((planOf dates decimals terms).schedule.filter fun row => p row.type).map
        (·.amount)).Perm
      (((entries dates decimals terms).filter fun entry => p entry.type).map (·.amount)) := by
  have hperm := ((Grouping.perm_sortBy Entry.key (entries dates decimals terms)).filter
    fun entry => p entry.type).map (·.amount)
  rwa [← toEntry_schedule dates decimals haccepted, List.filter_map, List.map_map] at hperm

theorem schedule_inPiastres :
    ∀ row ∈ (planOf dates decimals terms).schedule, InPiastres row.amount := by
  intro row hrow
  have hmem := List.mem_map_of_mem (f := (·.toEntry)) hrow
  rw [toEntry_schedule dates decimals haccepted] at hmem
  exact entries_inPiastres dates decimals haccepted _
    ((Grouping.perm_sortBy _ _).mem_iff.1 hmem)

theorem sum_schedule : ((planOf dates decimals terms).schedule.map (·.amount)).sum =
    terms.downPayment decimals + terms.remaining decimals + terms.maintenance decimals := by
  have hperm := perm_schedule dates decimals haccepted fun _ => true
  rw [List.filter_true, List.filter_true] at hperm
  rw [hperm.sum_eq, sum_entries dates decimals haccepted]

theorem totalPaid_eq : (planOf dates decimals terms).totalPaid =
    terms.downPayment decimals + terms.remaining decimals + terms.maintenance decimals := by
  have hgrid : InPiastres (terms.downPayment decimals + terms.remaining decimals +
      terms.maintenance decimals) :=
    ((roundMoney_inPiastres _).add (roundMoney_inPiastres _)).add (roundMoney_inPiastres _)
  have htotal : (planOf dates decimals terms).totalPaid =
      toMoney (roundMoney ((entries dates decimals terms).map (·.amount)).sum) := rfl
  rw [htotal, sum_entries dates decimals haccepted, roundMoney_eq hgrid, toMoney,
    roundMoney_eq hgrid]

/-- **A row shows the totals of the rows up to it.** -/
theorem schedule_totals (before : List (InstallmentRow δ)) (row : InstallmentRow δ)
    (after : List (InstallmentRow δ))
    (h : (planOf dates decimals terms).schedule = before ++ row :: after) :
    row.cumulativePaid = (before.map (·.amount)).sum + row.amount ∧
      row.cumulativePercent =
        percentOf decimals (coveredBy ((before ++ [row]).map (·.toEntry))) terms.price := by
  have hentries : ∀ entry ∈ Grouping.sortBy Entry.key (entries dates decimals terms),
      InPiastres entry.amount := fun entry hentry =>
    entries_inPiastres dates decimals haccepted entry
      ((Grouping.perm_sortBy _ _).mem_iff.1 hentry)
  obtain ⟨hpaid, hpercent⟩ := installmentRows_totals decimals terms.price hentries OnGrid.zero
    OnGrid.zero before row after h
  rw [zero_add] at hpaid hpercent
  exact ⟨hpaid, hpercent⟩

theorem sorted_schedule :
    ((planOf dates decimals terms).schedule.map (·.dueDate)).Pairwise (· ≤ ·) := by
  have hdates : (planOf dates decimals terms).schedule.map (·.dueDate) =
      (Grouping.sortBy Entry.key (entries dates decimals terms)).map (·.dueDate) := by
    rw [← toEntry_schedule dates decimals haccepted, List.map_map]
    rfl
  rw [hdates, List.pairwise_map]
  exact (Grouping.sortBy_pairwise Entry.key _).imp fun {a b} h =>
    Prod.Lex.monotone_fst a.key b.key h

/-- **The years pay what the rows pay.** -/
theorem sum_yearly : ((planOf dates decimals terms).yearly.map (·.paid)).sum =
    ((planOf dates decimals terms).schedule.map (·.amount)).sum := by
  set schedule := (planOf dates decimals terms).schedule
  set groups := Grouping.groupBy (fun row => dates.year row.dueDate) schedule
  have hgrid : ∀ group ∈ groups, InPiastres (group.2.map (·.amount)).sum := by
    intro group hgroup
    refine OnGrid.sum fun x hx => ?_
    obtain ⟨row, hrow, rfl⟩ := List.mem_map.1 hx
    exact schedule_inPiastres dates decimals haccepted row
      ((Grouping.mem_groupBy group hgroup).2 row hrow).1
  have hpaid : (planOf dates decimals terms).yearly.map (·.paid) =
      (Grouping.sortBy Prod.fst groups).map fun group =>
        roundMoney (group.2.map (·.amount)).sum := List.map_map
  calc ((planOf dates decimals terms).yearly.map (·.paid)).sum
      = (groups.map fun group => roundMoney (group.2.map (·.amount)).sum).sum := by
        rw [hpaid, ((Grouping.perm_sortBy Prod.fst groups).map _).sum_eq]
    _ = (groups.map fun group => (group.2.map (·.amount)).sum).sum :=
        congrArg List.sum
          (List.map_congr_left fun group hgroup => roundMoney_eq (hgrid group hgroup))
    _ = (schedule.map (·.amount)).sum := Grouping.sum_groupBy _ _ _

end Plan

/-- What a plan promises of the money it moves. -/
structure InstallmentPlan.Conserves (decimals : Decimals) (terms : Terms δ)
    (plan : InstallmentPlan δ) : Prop where
  downPayment : (plan.schedule.filter (·.type = .downPayment)).map (·.amount) =
    [terms.downPayment decimals]
  count : (plan.schedule.filter (·.type = .installment)).length =
    terms.years * terms.frequency.perYear
  maintenance : (plan.schedule.filter (·.type = .maintenance)).map (·.amount) =
    if 0 < terms.maintenance decimals then [terms.maintenance decimals] else []
  sorted : (plan.schedule.map (·.dueDate)).Pairwise (· ≤ ·)
  installments : ((plan.schedule.filter (·.type = .installment)).map (·.amount)).sum =
    roundMoney (terms.price - terms.downPayment decimals)
  running : ∀ before row after, plan.schedule = before ++ row :: after →
    row.cumulativePaid = (before.map (·.amount)).sum + row.amount
  last : plan.schedule.getLast?.map (·.cumulativePaid) = some plan.totalPaid
  totalPaid : plan.totalPaid = terms.downPayment decimals +
    ((plan.schedule.filter (·.type = .installment)).map (·.amount)).sum +
    terms.maintenance decimals
  yearly : (plan.yearly.map (·.paid)).sum = plan.totalPaid
  years : (plan.yearly.map (·.year)).Pairwise (· < ·)

/-- A plan under accepted terms conserves its amounts. -/
theorem planOf_conserves (dates : Dates δ) (decimals : Decimals) {terms : Terms δ}
    (haccepted : terms.Accepted) : (planOf dates decimals terms).Conserves decimals terms := by
  have hrows (type : EntryType) :=
    (perm_schedule dates decimals haccepted (decide <| · = type)).trans
      (.of_eq (filter_entries dates decimals terms (decide <| · = type)))
  obtain ⟨-, hpay⟩ := installments_pay dates decimals haccepted
  have hdown := hrows .downPayment
  have hinstallments := hrows .installment
  have hdeposit := hrows .maintenance
  simp only [decide_true, reduceCtorEq, decide_false, Bool.false_eq_true, if_true, if_false,
    true_and, false_and, List.append_nil, List.nil_append] at hdown hinstallments hdeposit
  have htotal := totalPaid_eq dates decimals haccepted
  have hsum : (((planOf dates decimals terms).schedule.filter (·.type = .installment)).map
      (·.amount)).sum = terms.remaining decimals := hinstallments.sum_eq.trans hpay
  have hschedule : (planOf dates decimals terms).schedule ≠ [] := by
    intro hnil
    rw [hnil] at hdown
    exact List.cons_ne_nil _ _ hdown.nil_eq.symm
  exact {
    downPayment := List.perm_singleton.1 hdown
    count := by
      have hlength := hinstallments.length_eq
      rwa [List.length_map, List.length_map, length_installmentEntries, List.length_range']
        at hlength
    maintenance := by
      split_ifs at hdeposit ⊢ with hpositive
      · exact List.perm_singleton.1 hdeposit
      · exact List.perm_nil.1 hdeposit
    sorted := sorted_schedule dates decimals haccepted
    installments := hsum
    running := fun before row after h =>
      (schedule_totals dates decimals haccepted before row after h).1
    last := by
      obtain ⟨before, row, hsplit⟩ := List.eq_nil_or_concat'  _ |>.resolve_left hschedule
      have hrow := (schedule_totals dates decimals haccepted before row [] hsplit).1
      have hsum := sum_schedule dates decimals haccepted
      rw [hsplit, List.map_append, List.sum_append, List.map_singleton, List.sum_singleton] at hsum
      rw [hsplit, List.getLast?_concat, Option.map_some, hrow, hsum, htotal]
    totalPaid := by rw [hsum, htotal]
    yearly := by
      rw [sum_yearly dates decimals haccepted, sum_schedule dates decimals haccepted, htotal]
    years := by
      have hyears : (planOf dates decimals terms).yearly.map (·.year) =
          (Grouping.sortBy Prod.fst (Grouping.groupBy (fun row => dates.year row.dueDate)
            (planOf dates decimals terms).schedule)).map Prod.fst := List.map_map
      rw [hyears]
      exact Grouping.strictMono_sortBy_groupBy _ _ }

/-- **The developer plan conserves its amounts**, for every input that is accepted. -/
theorem installmentSchedule_conserves (dates : Dates δ) (decimals : Decimals)
    {arguments : InstallmentArguments} {plan : InstallmentPlan δ}
    (h : installmentSchedule dates decimals arguments = .ok plan) :
    ∃ terms, termsOf dates arguments = .ok terms ∧ plan.Conserves decimals terms := by
  obtain ⟨terms, hterms, h⟩ := Fallible.bind_eq_ok.1 h
  obtain rfl := Except.ok.inj h
  exact ⟨terms, hterms, planOf_conserves dates decimals (termsOf_ok hterms)⟩

/-- Dates as numbers of months since January 2026. -/
def monthNumbers : Dates ℕ where
  parse text := if text = "2026-01" then some 0 else none
  today := 5
  shift date months := date + months
  year date := 2026 + (date / 12 : ℕ)
  display _ := "10"

/-- Ten per cent of a thousand pounds now, the rest in a year, delivered before the contract. -/
def earlyDelivery : InstallmentArguments where
  price := .number 1000
  downPaymentPercent := .number 10
  years := .number 1
  deliveryDate := .string "2026-01"

theorem termsOf_earlyDelivery :
    termsOf monthNumbers earlyDelivery = .ok ⟨1000, 10, 1, .quarterly, 5, some 0, 8⟩ := by
  decide +kernel

theorem installmentSchedule_conserves_demo :
    ∃ terms, termsOf monthNumbers earlyDelivery = .ok terms ∧
      (planOf monthNumbers Decimals.exact ⟨1000, 10, 1, .quarterly, 5, some 0, 8⟩).Conserves
        Decimals.exact terms :=
  installmentSchedule_conserves monthNumbers Decimals.exact
    (installmentSchedule_ok Decimals.exact termsOf_earlyDelivery)

end Finance
end Reports
end TopChoice
