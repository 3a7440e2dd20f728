/-
# Derived prices

The price per metre and the monthly instalment of a listing, which
`PropertiesService.create` and `update` derive when the request does not give them.  An update
derives the one when it rewrites the `price` and the other when it rewrites the `paymentPlan`,
though the first also depends on the area among the `specs` and the second on the `price`.

So an update of the area alone leaves the price per metre of the old area, and one of the price
alone leaves the instalment of the old price, unless they happen to be the same
(`update_inStep_iff`).  Along every run without such an update they stay in step
(`prices_stay_inStep`).
-/

import TopChoice.Listing.PropertiesService

namespace TopChoice
namespace Listing

/-- What is derived from the price, the area and the plan of a listing is what they give. -/
structure Property.InStep (r : Runtime) (d : Property) : Prop where
  pricePerMeter : d.price.pricePerMeter = r.pricePerMeter d.price.amount d.specs.areaSqm
  monthlyInstallment : d.paymentPlan.monthlyInstallment = r.monthlyInstallment d.price.amount
    d.paymentPlan.downPaymentPercent d.paymentPlan.installmentYears

instance (r : Runtime) (d : Property) : Decidable (d.InStep r) :=
  decidable_of_iff
    (d.price.pricePerMeter = r.pricePerMeter d.price.amount d.specs.areaSqm ∧
      d.paymentPlan.monthlyInstallment = r.monthlyInstallment d.price.amount
        d.paymentPlan.downPaymentPercent d.paymentPlan.installmentYears)
    ⟨fun h => ⟨h.1, h.2⟩, fun h => ⟨h.1, h.2⟩⟩

/-- Every stored listing is in step. -/
def AllInStep (r : Runtime) (s : PropertiesStore) : Prop :=
  ∀ d ∈ s.listings.properties, d.InStep r

instance (r : Runtime) (s : PropertiesStore) : Decidable (AllInStep r s) :=
  inferInstanceAs (Decidable (∀ d ∈ s.listings.properties, d.InStep r))

/-- The request gives no derived price. -/
def UpdatePropertyDto.GivesNone (dto : UpdatePropertyDto) : Prop :=
  (∀ price ∈ dto.price, price.pricePerMeter = none) ∧
    ∀ plan ∈ dto.paymentPlan, plan.monthlyInstallment = none

instance (dto : UpdatePropertyDto) : Decidable dto.GivesNone :=
  inferInstanceAs (Decidable (_ ∧ _))

/-- What the request leaves of the price and the plan is worth the same with the new area and
the new price. -/
def UpdatePropertyDto.KeepsDerived (r : Runtime) (dto : UpdatePropertyDto) (existing : Property) :
    Prop :=
  (dto.price = none →
    r.pricePerMeter existing.price.amount
        ((dto.specs.map SpecsDto.areaSqm).getD existing.specs.areaSqm) =
      r.pricePerMeter existing.price.amount existing.specs.areaSqm) ∧
  (dto.paymentPlan = none →
    r.monthlyInstallment ((dto.price.map PriceDto.amount).getD existing.price.amount)
        existing.paymentPlan.downPaymentPercent existing.paymentPlan.installmentYears =
      r.monthlyInstallment existing.price.amount existing.paymentPlan.downPaymentPercent
        existing.paymentPlan.installmentYears)

instance (r : Runtime) (dto : UpdatePropertyDto) (existing : Property) :
    Decidable (dto.KeepsDerived r existing) :=
  inferInstanceAs (Decidable (_ ∧ _))

/-- A call that gives no derived price, and an update that keeps what it does not derive. -/
def DerivesPrices (r : Runtime) (s : PropertiesStore) : PropertyCall → Prop
  | .create dto _ _ _ =>
      dto.price.pricePerMeter = none ∧ dto.paymentPlan.monthlyInstallment = none
  | .update id dto _ => dto.GivesNone ∧
      ∀ existing ∈ s.listings.findOne id, existing.deletedAt = none → dto.KeepsDerived r existing
  | _ => True

instance (r : Runtime) (s : PropertiesStore) : ∀ call, Decidable (DerivesPrices r s call)
  | .create _ _ _ _ => inferInstanceAs (Decidable (_ ∧ _))
  | .update _ _ _ => inferInstanceAs (Decidable (_ ∧ _))
  | .findOne _ | .remove _ _ | .tick _ => isTrue trivial

section Changes

variable (r : Runtime) (dto : UpdatePropertyDto) (existing : Property) (slug : Option String)
  (area : Option Catalog.Area) (compound : Option (Catalog.Compound × Catalog.Developer))

/-- The prices, the area and the plan after an update that gives no derived price. -/
theorem derived_set_changes (hgives : dto.GivesNone) :
    let after := ((dto.changes r existing slug area compound).cast r.unicode).set existing
    let areaSqm := (dto.specs.map SpecsDto.areaSqm).getD existing.specs.areaSqm
    let amount := (dto.price.map PriceDto.amount).getD existing.price.amount
    after.specs.areaSqm = areaSqm ∧ after.price.amount = amount ∧
      after.price.pricePerMeter =
        (if dto.price = none then existing.price.pricePerMeter
        else r.pricePerMeter amount areaSqm) ∧
      after.paymentPlan.monthlyInstallment =
        (if dto.paymentPlan = none then existing.paymentPlan.monthlyInstallment
        else r.monthlyInstallment amount after.paymentPlan.downPaymentPercent
          after.paymentPlan.installmentYears) ∧
      (dto.paymentPlan = none → after.paymentPlan = existing.paymentPlan) := by
  obtain ⟨hprice, hplan⟩ := hgives
  refine ⟨?_, ?_, ?_, ?_, ?_⟩
  · cases h : dto.specs <;>
      simp [UpdatePropertyDto.changes, PropertyUpdate.cast, PropertyUpdate.set, h]
  · cases h : dto.price <;>
      simp [UpdatePropertyDto.changes, PropertyUpdate.cast, PropertyUpdate.set, h]
  · cases h : dto.price with
    | none => simp [UpdatePropertyDto.changes, PropertyUpdate.cast, PropertyUpdate.set, h]
    | some price =>
      simp [UpdatePropertyDto.changes, PropertyUpdate.cast, PropertyUpdate.set, h, hprice price h]
  · cases h : dto.paymentPlan with
    | none => simp [UpdatePropertyDto.changes, PropertyUpdate.cast, PropertyUpdate.set, h]
    | some plan =>
      simp [UpdatePropertyDto.changes, PropertyUpdate.cast, PropertyUpdate.set, h, hplan plan h]
  · intro h
    simp [UpdatePropertyDto.changes, PropertyUpdate.cast, PropertyUpdate.set, h]

/-- **An update keeps a listing in step** exactly when what it does not derive is worth the same
as before. -/
theorem update_inStep_iff (hgives : dto.GivesNone) (hstep : existing.InStep r) :
    (((dto.changes r existing slug area compound).cast r.unicode).set existing).InStep r ↔
      dto.KeepsDerived r existing := by
  obtain ⟨harea, hamount, hmeter, hmonthly, hplan⟩ :=
    derived_set_changes r dto existing slug area compound hgives
  set after := ((dto.changes r existing slug area compound).cast r.unicode).set existing
  have hfirst : after.price.pricePerMeter = r.pricePerMeter after.price.amount after.specs.areaSqm ↔
      (dto.price = none →
        r.pricePerMeter existing.price.amount
            ((dto.specs.map SpecsDto.areaSqm).getD existing.specs.areaSqm) =
          r.pricePerMeter existing.price.amount existing.specs.areaSqm) := by
    rw [hmeter, harea, hamount]
    by_cases h : dto.price = none
    · rw [if_pos h, h, Option.map_none, Option.getD_none, hstep.pricePerMeter, eq_comm]
      exact ⟨fun heq _ => heq, fun heq => heq rfl⟩
    · simp [h]
  have hsecond : after.paymentPlan.monthlyInstallment = r.monthlyInstallment after.price.amount
        after.paymentPlan.downPaymentPercent after.paymentPlan.installmentYears ↔
      (dto.paymentPlan = none →
        r.monthlyInstallment ((dto.price.map PriceDto.amount).getD existing.price.amount)
            existing.paymentPlan.downPaymentPercent existing.paymentPlan.installmentYears =
          r.monthlyInstallment existing.price.amount existing.paymentPlan.downPaymentPercent
            existing.paymentPlan.installmentYears) := by
    by_cases h : dto.paymentPlan = none
    · rw [hplan h, hamount, hstep.monthlyInstallment, eq_comm]
      exact ⟨fun heq _ => heq, fun heq => heq h⟩
    · rw [hmonthly, if_neg h, hamount]
      exact iff_of_true rfl fun hnone => absurd hnone h
  exact ⟨fun h => ⟨hfirst.1 h.1, hsecond.1 h.2⟩, fun h => ⟨hfirst.2 h.1, hsecond.2 h.2⟩⟩

end Changes

/-! ### Runs -/

section Runs

variable {r : Runtime} {s : PropertiesStore}

/-- A store all of whose listings, as they are looked up, are in step. -/
theorem AllInStep.of_findOne {t : PropertiesStore} (hindexed : t.listings.Indexed)
    (h : ∀ id d, t.listings.findOne id = some d → d.InStep r) : AllInStep r t :=
  fun d hd => h d.propertyId d (hindexed.findOne hd)

theorem AllInStep.findOne (h : AllInStep r s) {id : String} {d : Property}
    (hd : s.listings.findOne id = some d) : d.InStep r :=
  h d (Table.findUnique_some hd).1

/-- A new listing whose derived prices are not given is in step. -/
theorem CreatePropertyDto.Builds.inStep {dto : CreatePropertyDto} {propertyId : String}
    {_id : ObjectId} {doc : Property} (h : dto.Builds r propertyId _id s doc)
    (hmeter : dto.price.pricePerMeter = none) (hmonthly : dto.paymentPlan.monthlyInstallment = none) :
    doc.InStep r := by
  obtain ⟨area, -, compound, -, developer, -, isTaken, referenceNo, rfl⟩ := h
  exact ⟨congrArg (Option.getD · _) hmeter, congrArg (Option.getD · _) hmonthly⟩

/-- **One call** keeps the unique indexes and every listing in step. -/
theorem inStep_exec (hindexed : s.listings.Indexed) (hstep : AllInStep r s) (call : PropertyCall)
    (hderives : DerivesPrices r s call) :
    (call.exec r s).listings.Indexed ∧ AllInStep r (call.exec r s) := by
  obtain ⟨hafter, hleaves⟩ := exec_leaves (r := r) hindexed call
  refine ⟨hafter, .of_findOne hafter fun id d hd => ?_⟩
  cases hleaves id d hd with
  | stored hfound => exact hstep.findOne hfound
  | created hbuilds => exact hbuilds.inStep hderives.1 hderives.2
  | updated hfound hlive _ h =>
      obtain ⟨hgives, hkeeps⟩ := hderives
      rw [h]
      exact (update_inStep_iff r _ _ _ _ _ hgives (hstep.findOne hfound)).2
        (hkeeps _ hfound hlive)
  | removed hfound h =>
      have hexisting := hstep.findOne hfound
      rw [h]
      exact ⟨hexisting.pricePerMeter, hexisting.monthlyInstallment⟩

end Runs

/-- **Derived prices stay in step**: after each call of a run in which no call gives them and
every update leaves what it does not derive worth the same, every stored listing has the price
per metre and the instalment its price, area and plan give. -/
theorem prices_stay_inStep (r : Runtime) (s : PropertiesStore) (calls : List PropertyCall)
    (hindexed : s.listings.Indexed) (hstep : AllInStep r s)
    (hderives : (propertyCalls r).Meets (DerivesPrices r) s calls) :
    (propertyCalls r).Meets (fun s call => AllInStep r (call.exec r s)) s calls := by
  refine Machine.Meets.of_invariant (I := fun s => s.listings.Indexed ∧ AllInStep r s)
    (fun s call t hs hcall hnext => ?_) (fun s call hs hcall => ?_) calls ⟨hindexed, hstep⟩ hderives
  · obtain rfl := Option.some.inj hnext
    exact inStep_exec hs.1 hs.2 call hcall
  · exact (inStep_exec hs.1 hs.2 call hcall).2

/-- A new flat, a new price and plan for the villa, a larger garden. -/
def demoDerivedCalls : List PropertyCall :=
  [.create demoPropertyDto "11111111-1111-4111-8111-111111111111" demoObjectId .healthy,
    .update demoProperty.propertyId
      { price := some { amount := 11000000 }
        paymentPlan := some
          { downPaymentPercent := 20, installmentYears := 5, deliveryDate := "2028-01-31" } }
      .healthy,
    .update demoProperty.propertyId
      { specs := some { bedrooms := 4, bathrooms := 3, areaSqm := 300, gardenSqm := some 150 } }
      .healthy]

theorem prices_stay_inStep_demo :
    (propertyCalls demoRuntime).Meets (fun s call => AllInStep demoRuntime (call.exec demoRuntime s))
      demoMarketplace demoDerivedCalls :=
  prices_stay_inStep demoRuntime demoMarketplace demoDerivedCalls (by decide) (by decide)
    (by decide)

/-- A smaller area for the villa, and nothing else. -/
def demoAreaUpdate : UpdatePropertyDto :=
  { specs := some { bedrooms := 4, bathrooms := 3, areaSqm := 200 } }

/-- **An update of the area leaves the price per metre of the old area**, and one of the price
the instalment of the old price. -/
theorem update_leaves_derived :
    demoAreaUpdate.GivesNone ∧ AllInStep demoRuntime demoMarketplace ∧
      ¬ AllInStep demoRuntime ((PropertyCall.update demoProperty.propertyId demoAreaUpdate
        .healthy).exec demoRuntime demoMarketplace) ∧
      demoPriceUpdate.GivesNone ∧
      ¬ AllInStep demoRuntime ((PropertyCall.update demoProperty.propertyId demoPriceUpdate
        .healthy).exec demoRuntime demoMarketplace) := by
  decide

end Listing
end TopChoice
