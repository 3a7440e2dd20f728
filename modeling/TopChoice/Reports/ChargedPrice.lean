/-
# What a developer plan charges

Whether the plan of `installment_schedule` charges the price.  The price is never rounded to
piastres: the down payment is a rounded part of it, the remainder is rounded apart, and the
percentage of a row divides whole piastres by the price as it was given.

So the plan takes a piastre back from a price that lies between two piastres and is paid down
whole, and the last row shows something else than a hundred per cent for a small price that is
not in whole piastres; otherwise it charges the price (`installmentSchedule_charges_iff`), as
it does for every price in whole piastres and every other one from 101 pounds on
(`chargeable_of_inPiastres`, `chargeable_of_lt`).
-/

import TopChoice.Reports.Installments

namespace TopChoice
namespace Reports
namespace Finance

open HalfUp

variable {δ : Type} [LinearOrder δ]

/-- The plan charges exactly the price: no row is negative, the down payment and the instalments
are the price in whole piastres, and the last row of them shows a hundred per cent. -/
structure InstallmentPlan.Charges (terms : Terms δ) (plan : InstallmentPlan δ) : Prop where
  nonneg : ∀ row ∈ plan.schedule, 0 ≤ row.amount
  price : ((plan.schedule.filter (·.type ≠ .maintenance)).map (·.amount)).sum =
    roundMoney terms.price
  percent : (plan.schedule.filter (·.type ≠ .maintenance)).getLast?.map (·.cumulativePercent) =
    some 100

/-- A price that lies between two piastres and is paid down whole. -/
def Terms.SplitsPiastre (terms : Terms δ) : Prop :=
  terms.downPaymentPercent = 100 ∧ Int.fract (terms.price * 100) = 1 / 2

/-- The price in whole piastres is a hundred per cent of the price. -/
def Terms.RoundsToWhole (decimals : Decimals) (terms : Terms δ) : Prop :=
  99.995 ≤ decimals.div (roundMoney terms.price) terms.price * 100 ∧
    decimals.div (roundMoney terms.price) terms.price * 100 < 100.005

/-- Terms whose price a plan charges. -/
def Terms.Chargeable (decimals : Decimals) (terms : Terms δ) : Prop :=
  ¬terms.SplitsPiastre ∧ terms.RoundsToWhole decimals

section Amounts

omit [LinearOrder δ]

variable (dates : Dates δ) (decimals : Decimals) {terms : Terms δ} (haccepted : terms.Accepted)
  (hexact : ∀ a, decimals.div a 100 = a / 100)

theorem installmentEntries_nonneg (hbase : 0 ≤ terms.baseInstallment decimals)
    (indices : List ℕ) {outstanding : ℚ} (houtstanding : 0 ≤ outstanding) :
    ∀ entry ∈ installmentEntries dates decimals terms indices outstanding, 0 ≤ entry.amount := by
  induction indices generalizing outstanding with
  | nil => exact fun _ h => nomatch h
  | cons index rest ih =>
    have hcases := installmentAmount_cases terms index outstanding (terms.baseInstallment decimals)
    rw [installmentEntries]
    dsimp only at hcases
    set amount := if outstanding < if index = terms.count then outstanding
      else terms.baseInstallment decimals then outstanding
      else if index = terms.count then outstanding else terms.baseInstallment decimals
    have hamount : 0 ≤ amount ∧ amount ≤ outstanding := by
      rcases hcases with hall | ⟨-, hlevel, hle⟩
      · exact ⟨hall ▸ houtstanding, hall.le⟩
      · exact ⟨hlevel ▸ hbase, hlevel ▸ hle⟩
    exact List.forall_mem_cons.2
      ⟨hamount.1, ih (roundMoney_nonneg (sub_nonneg.2 hamount.2))⟩

include haccepted in
theorem downPayment_nonneg : 0 ≤ terms.downPayment decimals :=
  roundMoney_nonneg (decimals.nonneg_div
    (mul_nonneg haccepted.price_pos.le haccepted.percent_nonneg) (by norm_num))

include haccepted hexact

/-- The part of the price that is paid down, before it is rounded. -/
theorem downPayment_eq : ∃ part, terms.downPayment decimals = roundMoney part ∧ 0 ≤ part ∧
    part ≤ terms.price ∧ (part = terms.price ↔ terms.downPaymentPercent = 100) := by
  have hprice := haccepted.price_pos
  refine ⟨terms.price * terms.downPaymentPercent / 100, congrArg roundMoney (hexact _), ?_, ?_, ?_⟩
  · exact div_nonneg (mul_nonneg hprice.le haccepted.percent_nonneg) (by norm_num)
  · rw [div_le_iff₀ (by norm_num)]
    exact mul_le_mul_of_nonneg_left haccepted.percent_le hprice.le
  · rw [div_eq_iff (by norm_num)]
    exact mul_right_inj' hprice.ne'

/-- **The down payment and the remainder** are the price in whole piastres, and the remainder is
not negative, unless a price between two piastres is paid down whole. -/
theorem remaining_of_not_splits (hsplits : ¬terms.SplitsPiastre) :
    terms.downPayment decimals + terms.remaining decimals = roundMoney terms.price ∧
      0 ≤ terms.remaining decimals := by
  obtain ⟨part, hdown, hnonneg, hle, hwhole⟩ := downPayment_eq decimals haccepted hexact
  rw [Terms.remaining, hdown]
  exact toGrid_add_toGrid_sub (by decide) hnonneg hle fun h => hsplits ⟨hwhole.1 h.1, by
    simpa [scale] using h.2⟩

theorem remaining_of_splits (hsplits : terms.SplitsPiastre) :
    terms.downPayment decimals + terms.remaining decimals = roundMoney terms.price - 1 / 100 := by
  obtain ⟨part, hdown, -, -, hwhole⟩ := downPayment_eq decimals haccepted hexact
  rw [hwhole.2 hsplits.1] at hdown
  have htie : Int.fract (terms.price * (10 ^ scale : ℕ)) = 1 / 2 := by
    simpa [scale] using hsplits.2
  have hrest : terms.remaining decimals = -(1 / (10 ^ scale : ℕ)) := by
    rw [Terms.remaining, hdown]
    exact toGrid_sub_toGrid_of_fract (by decide) haccepted.price_pos.le htie
  rw [hrest, hdown, ← sub_eq_add_neg]
  norm_num [scale]

end Amounts

/-! ### The last row of the price -/

omit [LinearOrder δ] in
/-- Nothing is due for the price after its last row. -/
theorem coveredBy_maintenance {rows : List (Entry δ)}
    (hrows : ∀ row ∈ rows, row.type = .maintenance) : coveredBy rows = 0 := by
  rw [coveredBy, List.filter_eq_nil_iff.2 fun row hrow => by simp [hrows row hrow], List.map_nil,
    List.sum_nil]

omit [LinearOrder δ] in
theorem coveredBy_map (rows : List (InstallmentRow δ)) :
    coveredBy (rows.map (·.toEntry)) =
      ((rows.filter (·.type ≠ .maintenance)).map (·.amount)).sum := by
  rw [coveredBy, List.filter_map, List.map_map]
  rfl

section Plan

variable (dates : Dates δ) (decimals : Decimals) {terms : Terms δ} (haccepted : terms.Accepted)

include haccepted

/-- The rows of the price are the down payment and the instalments. -/
theorem perm_charged :
    (((planOf dates decimals terms).schedule.filter (·.type ≠ .maintenance)).map (·.amount)).Perm
      (terms.downPayment decimals :: (installmentEntries dates decimals terms
        (List.range' 1 terms.count) (terms.remaining decimals)).map (·.amount)) := by
  have hperm := (perm_schedule dates decimals haccepted (decide <| · ≠ .maintenance)).trans
    (.of_eq (filter_entries dates decimals terms (decide <| · ≠ .maintenance)))
  simpa only [ne_eq, reduceCtorEq, not_false_eq_true, decide_true, if_true, not_true_eq_false,
    decide_false, Bool.false_eq_true, false_and, if_false, List.append_nil,
    List.singleton_append] using hperm

theorem sum_charged :
    (((planOf dates decimals terms).schedule.filter (·.type ≠ .maintenance)).map (·.amount)).sum =
      terms.downPayment decimals + terms.remaining decimals := by
  rw [(perm_charged dates decimals haccepted).sum_eq, List.sum_cons,
    (installments_pay dates decimals haccepted).2]

/-- **The last row of the price** shows the percentage of all that is due for it. -/
theorem percent_of_last :
    ((planOf dates decimals terms).schedule.filter (·.type ≠ .maintenance)).getLast?.map
        (·.cumulativePercent) =
      some (percentOf decimals (terms.downPayment decimals + terms.remaining decimals)
        terms.price) := by
  set schedule := (planOf dates decimals terms).schedule with hschedule
  obtain ⟨row, hrow⟩ : ∃ row, (schedule.filter (·.type ≠ .maintenance)).getLast? = some row := by
    refine Option.ne_none_iff_exists'.1 fun hnone => ?_
    have hperm := perm_charged dates decimals haccepted
    rw [← hschedule, List.getLast?_eq_none_iff.1 hnone] at hperm
    exact List.cons_ne_nil _ _ hperm.nil_eq.symm
  have hfound := hrow
  rw [List.getLast?_filter] at hfound
  obtain ⟨-, after, before, hsplit, hafter⟩ := List.find?_eq_some_iff_append.1 hfound
  have hsplit' : schedule = before.reverse ++ row :: after.reverse := by
    rw [← List.reverse_reverse schedule, hsplit, List.reverse_append, List.reverse_cons,
      List.append_assoc, List.singleton_append]
  have hrest : coveredBy (after.reverse.map (·.toEntry)) = 0 := by
    refine coveredBy_maintenance fun entry hentry => ?_
    obtain ⟨row', hrow', rfl⟩ := List.mem_map.1 hentry
    simpa using hafter row' (List.mem_reverse.1 hrow')
  have hall : coveredBy ((before.reverse ++ [row]).map (·.toEntry)) =
      terms.downPayment decimals + terms.remaining decimals := by
    calc coveredBy ((before.reverse ++ [row]).map (·.toEntry))
        = coveredBy ((before.reverse ++ [row]).map (·.toEntry)) +
            coveredBy (after.reverse.map (·.toEntry)) := by rw [hrest, add_zero]
      _ = coveredBy (schedule.map (·.toEntry)) := by
          rw [← coveredBy_append, ← List.map_append, hsplit',
            List.append_cons before.reverse row after.reverse]
      _ = terms.downPayment decimals + terms.remaining decimals := by
          rw [coveredBy_map, sum_charged dates decimals haccepted]
  have hlast := schedule_totals dates decimals haccepted before.reverse row after.reverse hsplit'
  rw [hrow, Option.map_some, hlast.2, hall]

omit [LinearOrder δ] in
/-- The last row of the price shows a hundred per cent when what is due is the price in whole
piastres, and that is a hundred per cent of the price. -/
theorem percentOf_eq_iff :
    percentOf decimals (roundMoney terms.price) terms.price = 100 ↔
      terms.RoundsToWhole decimals := by
  have hhundred : (100 : ℚ) = ((10000 : ℤ) : ℚ) / (10 ^ 2 : ℕ) := by norm_num
  rw [percentOf, if_neg haccepted.price_pos.ne', hhundred,
    toGrid_eq_iff (by decide) (by decide), Terms.RoundsToWhole]
  push_cast
  constructor <;> rintro ⟨hle, hlt⟩ <;> constructor <;> linarith

/-- No row is negative when the remainder is not. -/
theorem schedule_nonneg (hremaining : 0 ≤ terms.remaining decimals) :
    ∀ row ∈ (planOf dates decimals terms).schedule, 0 ≤ row.amount := by
  have hbase : 0 ≤ terms.baseInstallment decimals := by
    rw [Terms.baseInstallment]
    split_ifs
    · exact roundMoney_nonneg (decimals.nonneg_div hremaining (Nat.cast_nonneg _))
    · exact le_rfl
  have hentries : ∀ entry ∈ entries dates decimals terms, 0 ≤ entry.amount :=
    forall_entries dates decimals (downPayment_nonneg decimals haccepted)
      (installmentEntries_nonneg dates decimals hbase _ hremaining) le_of_lt
  intro row hrow
  have hmem : row.toEntry ∈ entries dates decimals terms := by
    rw [← (Grouping.perm_sortBy Entry.key _).mem_iff, ← toEntry_schedule dates decimals haccepted]
    exact List.mem_map_of_mem hrow
  exact hentries _ hmem

/-- **When a plan charges the price.** -/
theorem planOf_charges_iff (hexact : ∀ a, decimals.div a 100 = a / 100) :
    (planOf dates decimals terms).Charges terms ↔ terms.Chargeable decimals := by
  by_cases hsplits : terms.SplitsPiastre
  · refine iff_of_false (fun h => ?_) fun h => h.1 hsplits
    have hprice := h.price
    rw [sum_charged dates decimals haccepted,
      remaining_of_splits decimals haccepted hexact hsplits] at hprice
    linarith
  obtain ⟨hsum, hnonneg⟩ := remaining_of_not_splits decimals haccepted hexact hsplits
  have hpercent := percent_of_last dates decimals haccepted
  rw [hsum] at hpercent
  calc (planOf dates decimals terms).Charges terms
      ↔ percentOf decimals (roundMoney terms.price) terms.price = 100 :=
        ⟨fun h => Option.some.inj (hpercent.symm.trans h.percent), fun h =>
          ⟨schedule_nonneg dates decimals haccepted hnonneg,
            (sum_charged dates decimals haccepted).trans hsum, by rw [hpercent, h]⟩⟩
    _ ↔ terms.RoundsToWhole decimals := percentOf_eq_iff decimals haccepted
    _ ↔ terms.Chargeable decimals := (and_iff_right hsplits).symm

end Plan

/-- **The plan charges exactly the price** when the price does not lie between two piastres and
is paid down whole, and the price in whole piastres is a hundred per cent of it; and only then. -/
theorem installmentSchedule_charges_iff (dates : Dates δ) (decimals : Decimals)
    (hexact : ∀ a, decimals.div a 100 = a / 100) {arguments : InstallmentArguments}
    {plan : InstallmentPlan δ} (h : installmentSchedule dates decimals arguments = .ok plan) :
    ∃ terms, termsOf dates arguments = .ok terms ∧
      (plan.Charges terms ↔ terms.Chargeable decimals) := by
  obtain ⟨terms, hterms, h⟩ := Fallible.bind_eq_ok.1 h
  obtain rfl := Except.ok.inj h
  exact ⟨terms, hterms, planOf_charges_iff dates decimals (termsOf_ok hterms) hexact⟩

theorem installmentSchedule_charges_iff_demo :
    ∃ terms, termsOf monthNumbers earlyDelivery = .ok terms ∧
      ((planOf monthNumbers Decimals.exact ⟨1000, 10, 1, .quarterly, 5, some 0, 8⟩).Charges terms ↔
        terms.Chargeable Decimals.exact) :=
  installmentSchedule_charges_iff monthNumbers Decimals.exact (fun _ => rfl)
    (installmentSchedule_ok Decimals.exact termsOf_earlyDelivery)

/-- Ten pounds and half a piastre, of which a tenth is paid down. -/
def halfPiastre : InstallmentArguments where
  price := .number 10.005
  downPaymentPercent := .number 10
  years := .number 1

/-- A pound and half a piastre, paid down whole. -/
def halfPiastreDown : InstallmentArguments where
  price := .number 1.005
  downPaymentPercent := .number 100
  years := .number 1

/-- The last row of the price shows 100.05 per cent for ten pounds and half a piastre, and a
pound and half a piastre that is paid down whole is followed by an instalment of less than
nothing. -/
theorem installmentSchedule_overcharges :
    (∃ plan, installmentSchedule monthNumbers Decimals.exact halfPiastre = .ok plan ∧
      (plan.schedule.filter (·.type ≠ .maintenance)).getLast?.map (·.cumulativePercent) =
        some 100.05) ∧
    ∃ plan, installmentSchedule monthNumbers Decimals.exact halfPiastreDown = .ok plan ∧
      (∃ row ∈ plan.schedule, row.amount = -0.01) ∧
      ((plan.schedule.filter (·.type ≠ .maintenance)).map (·.amount)).sum = 1 ∧
      roundMoney 1.005 = 1.01 := by
  have hterms : termsOf monthNumbers halfPiastre =
      .ok ⟨10.005, 10, 1, .quarterly, 5, none, 8⟩ := by decide +kernel
  have hterms' : termsOf monthNumbers halfPiastreDown =
      .ok ⟨1.005, 100, 1, .quarterly, 5, none, 8⟩ := by decide +kernel
  refine ⟨⟨_, installmentSchedule_ok Decimals.exact hterms, ?_⟩,
    _, installmentSchedule_ok Decimals.exact hterms', ?_⟩
  · decide +kernel
  · decide +kernel

/-! ### Prices that are charged -/

section Prices

omit [LinearOrder δ]

variable (decimals : Decimals) {terms : Terms δ} (hprice : 0 < terms.price)

include hprice

/-- A price that is close to whole piastres for its size. -/
theorem roundsToWhole_of_close (hclose : |roundMoney terms.price - terms.price| ≤
    terms.price / 20200) : terms.RoundsToWhole decimals := by
  set quotient := roundMoney terms.price / terms.price with hquotient
  have hsplit : quotient - 1 = (roundMoney terms.price - terms.price) / terms.price := by
    rw [hquotient, sub_div, div_self hprice.ne']
  have hone : |quotient - 1| ≤ 1 / 20200 := by
    rw [hsplit, abs_div, abs_of_pos hprice, div_le_iff₀ hprice]
    linarith
  have hdiv := abs_le.1 (decimals.div_close (roundMoney terms.price) terms.price)
  obtain ⟨hlow, hhigh⟩ := abs_le.1 hone
  rw [← hquotient, abs_of_nonneg (by linarith)] at hdiv
  refine ⟨?_, ?_⟩ <;> norm_num at hdiv ⊢ <;> linarith [hdiv.1, hdiv.2]

/-- **A plan charges every price in whole piastres.** -/
theorem chargeable_of_inPiastres (hgrid : InPiastres terms.price) : terms.Chargeable decimals := by
  refine ⟨fun hsplits => ?_, roundsToWhole_of_close decimals hprice ?_⟩
  · obtain ⟨k, hk⟩ := hgrid
    have hwhole : terms.price * 100 = k := by
      rw [hk]
      norm_num [scale]
    have hfract := hsplits.2
    rw [hwhole, Int.fract_intCast] at hfract
    norm_num at hfract
  · rw [roundMoney_eq hgrid, sub_self, abs_zero]
    positivity

/-- **A plan charges every price from 101 pounds on** that is not between two piastres and paid
down whole. -/
theorem chargeable_of_lt (hlarge : 101 ≤ terms.price) (hsplits : ¬terms.SplitsPiastre) :
    terms.Chargeable decimals :=
  ⟨hsplits, roundsToWhole_of_close decimals hprice
    ((abs_roundMoney_sub_le terms.price).trans (by linarith))⟩

end Prices

end Finance
end Reports
end TopChoice
