/-
# The listings of an area are counted exactly

`propertyCount` of an area is the number of live rows of `property_index` with
that area.  A write recounts one area, the one the listing was in before it
(`afterWrite`).  That keeps every exact count exact, and makes the area of each
listing written exact (`propertyCount_exact`), unless an update moves a listing:
the area it enters is not recounted (`entered_area_is_miscounted`).
-/

import TopChoice.Listing.PropertiesService

namespace TopChoice
namespace Listing

open Catalog (Area Compound Developer)

/-- The area, if it has a row, has the number of its live rows in `propertyCount`. -/
def PropertyCountExact (areaId : String) (s : PropertiesStore) : Prop :=
  ∀ area, s.catalog.findArea areaId = some area →
    area.propertyCount = livePropertyCount areaId s.listings.propertyIndex

/-- A row that names an area names that of its document. -/
def AreasMirrored (s : ListingStore) : Prop :=
  ∀ id doc row, s.findOne id = some doc → s.findRow id = some row →
    ∀ areaId, row.areaId = some areaId → areaId = doc.location.areaId

/-- Postgres answers every statement of the call. -/
def PropertyCall.Healthy : PropertyCall → Prop
  | .create _ _ _ pg => pg = .healthy
  | .update _ _ pg => pg = .healthy
  | .remove _ pg => pg = .healthy
  | _ => True

/-- The call does not name another area for the listing than the one it is in. -/
def StaysInArea (s : PropertiesStore) : PropertyCall → Prop
  | .update id dto _ => ∀ existing ∈ s.listings.findOne id, ∀ location ∈ dto.location,
      location.areaId = existing.location.areaId
  | _ => True

instance (s : PropertiesStore) : ∀ call, Decidable (StaysInArea s call)
  | .update _ _ _ => inferInstanceAs (Decidable (∀ existing ∈ _, ∀ location ∈ _, _ = _))
  | .findOne _ => isTrue trivial
  | .create _ _ _ _ => isTrue trivial
  | .remove _ _ => isTrue trivial
  | .tick _ => isTrue trivial

/-- The call returns, and its listing is in the area, before or after it. -/
def Touches (r : Runtime) (areaId : String) (s : PropertiesStore) : PropertyCall → Prop
  | .create dto propertyId _id pg =>
      (create r dto propertyId _id pg s).1.isOk = true ∧ dto.location.areaId = areaId
  | .update id dto pg => (update r id dto pg s).1.isOk = true ∧
      ((∃ existing ∈ s.listings.findOne id, existing.location.areaId = areaId) ∨
        ∃ location ∈ dto.location, location.areaId = areaId)
  | .remove id pg => (remove id pg s).1.isOk = true ∧
      ∃ existing ∈ s.listings.findOne id, existing.location.areaId = areaId
  | _ => False

section

variable {r : Runtime} {s : PropertiesStore} {areaId : String}

/-- **A recount makes the area's count exact**, and keeps the others, when the
rows before it changed in that area alone. -/
theorem PropertyCountExact.afterWrite {id written : String} {slug : Option String}
    {listings : ListingStore}
    (hothers : areaId ≠ written → livePropertyCount areaId listings.propertyIndex =
      livePropertyCount areaId s.listings.propertyIndex)
    (h : areaId = written ∨ PropertyCountExact areaId s) :
    PropertyCountExact areaId
      (afterWrite .ok id written slug { s with listings := listings }) := by
  intro area hfind
  have hareas := Table.findUnique_updateOne_key (k := written) (j := areaId) Area.id
    (f := fun a => { a with propertyCount := livePropertyCount written listings.propertyIndex })
    (fun _ ha => ha) s.catalog.areas
  rw [listings_afterWrite]
  by_cases hid : areaId = written
  · subst hid
    rw [if_pos rfl] at hareas
    obtain ⟨a, -, rfl⟩ := Option.map_eq_some_iff.1 (hareas.symm.trans hfind)
    rfl
  · rw [if_neg hid] at hareas
    rw [hothers hid]
    exact h.resolve_left hid area (hareas.symm.trans hfind)

/-- A row with no area, or with the one written, counts for no other area. -/
theorem livePropertyCount_updateOne {rows : List PropertyIndexRow} {id written : String}
    {data : PropertyIndexRow → PropertyIndexRow} {row : PropertyIndexRow}
    (hfind : Table.findUnique (fun r => decide (r.id = id)) rows = some row)
    (hrow : ∀ a, row.areaId = some a → a = written)
    (hdata : ∀ a, (data row).areaId = some a → a = written) (hid : areaId ≠ written) :
    livePropertyCount areaId (Table.updateOne (fun r => r.id = id) data rows) =
      livePropertyCount areaId rows := by
  have hcount := Table.count_updateOne
    (p := fun r => decide (r.areaId = some areaId) && decide (r.deletedAt = none)) (f := data) hfind
  have hbefore : row.areaId ≠ some areaId := fun h => hid (hrow _ h)
  have hafter : (data row).areaId ≠ some areaId := fun h => hid (hdata _ h)
  simpa [livePropertyCount, hbefore, hafter] using hcount

/-- A new listing counts for its area alone. -/
theorem livePropertyCount_create {rows : List PropertyIndexRow} {doc : Property}
    (hid : areaId ≠ doc.location.areaId) :
    livePropertyCount areaId (Table.create (mirrorOf doc) rows) =
      livePropertyCount areaId rows := by
  have harea : (mirrorOf doc).areaId ≠ some areaId := fun h => hid (Option.some.inj h).symm
  simp [livePropertyCount, Table.count_create, harea]

/-- The area of an updated listing: the one named, or else the one it was in. -/
theorem areaId_set_changes {dto : UpdatePropertyDto} {existing : Property}
    {slug : Option String} {area : Option Area} {compound : Option (Compound × Developer)}
    (harea : area.map Area.id = dto.location.map LocationDto.areaId) :
    (((dto.changes r existing slug area compound).cast r.unicode).set existing).location.areaId =
      ((dto.location.map LocationDto.areaId).getD existing.location.areaId) := by
  cases hlocation : dto.location with
  | none => simp [UpdatePropertyDto.changes, PropertyUpdate.cast, PropertyUpdate.set, hlocation]
  | some location =>
      cases area with
      | none => simp [hlocation] at harea
      | some area =>
          simp only [hlocation, Option.map_some, Option.some.injEq] at harea
          simp [UpdatePropertyDto.changes, PropertyUpdate.cast, PropertyUpdate.set, hlocation,
            LocationDto.location, PropertyLocation.cast, harea]

/-- An insertion keeps rows and documents agreed on the area. -/
theorem AreasMirrored.inserted {s s' : ListingStore} {doc : Property} (h : AreasMirrored s)
    (hinserted : s.Inserted doc s') : AreasMirrored s' := by
  intro id doc' row hdoc hrow a ha
  rw [hinserted.findOne] at hdoc
  rw [hinserted.findRow] at hrow
  by_cases hid : id = doc.propertyId
  · rw [if_pos hid] at hdoc hrow
    obtain rfl := Option.some.inj hdoc
    obtain rfl := Option.some.inj hrow
    exact (Option.some.inj ha).symm
  · rw [if_neg hid] at hdoc hrow
    exact h id doc' row hdoc hrow a ha

/-- A rewriting that agrees on the area keeps them agreed. -/
theorem AreasMirrored.rewritten {s s' : ListingStore} {id : String} {f : Property → Property}
    {data : PropertyIndexRow → PropertyIndexRow} {existing : Property} {row : PropertyIndexRow}
    (h : AreasMirrored s) (hrewritten : s.Rewritten id f data existing row s')
    (hagree : ∀ a, (data row).areaId = some a → a = (f existing).location.areaId) :
    AreasMirrored s' := by
  intro id' doc' row' hdoc hrow a ha
  rw [hrewritten.findOne] at hdoc
  rw [hrewritten.findRow] at hrow
  by_cases hid : id' = id
  · rw [if_pos hid] at hdoc hrow
    obtain rfl := Option.some.inj hdoc
    obtain rfl := Option.some.inj hrow
    exact hagree a ha
  · rw [if_neg hid] at hdoc hrow
    exact h id' doc' row' hdoc hrow a ha

/-- What every call keeps: the unique indexes, and rows and documents agreed. -/
def WellMirrored (s : PropertiesStore) : Prop :=
  s.listings.Indexed ∧ AreasMirrored s.listings

/-- **One call** keeps exact counts exact and makes those it touches exact. -/
theorem propertyCountExact_exec (areaId : String) (hs : WellMirrored s) (call : PropertyCall)
    (hhealthy : call.Healthy) (hstays : StaysInArea s call) :
    WellMirrored (call.exec r s) ∧
      (Touches r areaId s call ∨ PropertyCountExact areaId s →
        PropertyCountExact areaId (call.exec r s)) := by
  obtain ⟨hindexed, hmirrored⟩ := hs
  cases call with
  | findOne idOrSlug =>
      rw [PropertyCall.exec]
      rcases findOne_spec (r := r) (s := s) idOrSlug with ⟨d, -, h⟩ | h | ⟨d, -, -, h⟩ <;>
        · rw [h]
          exact ⟨⟨hindexed, hmirrored⟩, fun hexact => hexact.resolve_left id⟩
  | create dto propertyId _id pg =>
      obtain rfl : pg = .healthy := hhealthy
      rw [PropertyCall.exec, Touches]
      rcases create_spec (r := r) .healthy hindexed dto propertyId _id with
        ⟨e, h⟩ | ⟨doc, listings, hid, hlocation, -, hinserted, h⟩
      · rw [h]
        exact ⟨⟨hindexed, hmirrored⟩, fun hexact => hexact.resolve_left fun hok => by
          simp [Except.isOk, Except.toBool] at hok⟩
      · rw [h]
        refine ⟨⟨by simpa using hinserted.indexed, by simpa using hmirrored.inserted hinserted⟩,
          fun hexact => ?_⟩
        refine PropertyCountExact.afterWrite (fun hne => ?_)
          (hexact.imp_left fun hok => hok.2.symm)
        rw [hinserted.rows, livePropertyCount_create (hlocation ▸ hne)]
  | update id dto pg =>
      obtain rfl : pg = .healthy := hhealthy
      rw [PropertyCall.exec, Touches]
      rcases update_spec (r := r) .healthy hindexed id dto with
        ⟨e, h⟩ | ⟨existing, row, slug, area, compound, changes, listings, -, hrelated, -,
          hchanges, hrewritten, h⟩
      · rw [h]
        exact ⟨⟨hindexed, hmirrored⟩, fun hexact => hexact.resolve_left fun hok => by
          simp [Except.isOk, Except.toBool] at hok⟩
      · have hsame : (changes.set existing).location.areaId = existing.location.areaId := by
          rw [hchanges, areaId_set_changes (UpdatePropertyDto.area_of_related hrelated)]
          cases hlocation : dto.location with
          | none => rfl
          | some location => exact hstays existing hrewritten.found location hlocation
        have hdata : ∀ a, (rewriteRow (mirrorOf (changes.set existing)) row).areaId = some a →
            a = (changes.set existing).location.areaId := fun a ha => (Option.some.inj ha).symm
        rw [h]
        refine ⟨⟨by simpa using hrewritten.indexed,
          by simpa using hmirrored.rewritten hrewritten hdata⟩, fun hexact => ?_⟩
        refine PropertyCountExact.afterWrite (fun hne => ?_) (hexact.imp_left fun hok => ?_)
        · rw [hrewritten.rows]
          exact livePropertyCount_updateOne hrewritten.foundRow
            (hmirrored id existing row hrewritten.found hrewritten.foundRow)
            (fun a ha => (hdata a ha).trans hsame) hne
        · rcases hok.2 with ⟨existing', hfound, hin⟩ | ⟨location, hlocation, hin⟩
          · obtain rfl := Option.some.inj (hrewritten.found.symm.trans hfound)
            exact hin.symm
          · exact hin.symm.trans (hstays existing hrewritten.found location hlocation)
  | remove id pg =>
      obtain rfl : pg = .healthy := hhealthy
      rw [PropertyCall.exec, Touches]
      rcases remove_spec .healthy hindexed id with
        ⟨e, h⟩ | ⟨existing, row, listings, -, hrewritten, h⟩
      · rw [h]
        exact ⟨⟨hindexed, hmirrored⟩, fun hexact => hexact.resolve_left fun hok => by
          simp [Except.isOk, Except.toBool] at hok⟩
      · have hrow := hmirrored id existing row hrewritten.found hrewritten.foundRow
        rw [h]
        refine ⟨⟨by simpa using hrewritten.indexed,
          by simpa using hmirrored.rewritten hrewritten hrow⟩, fun hexact => ?_⟩
        refine PropertyCountExact.afterWrite (fun hne => ?_) (hexact.imp_left fun hok => ?_)
        · rw [hrewritten.rows]
          exact livePropertyCount_updateOne hrewritten.foundRow hrow hrow hne
        · obtain ⟨existing', hfound, hin⟩ := hok.2
          obtain rfl := Option.some.inj (hrewritten.found.symm.trans hfound)
          exact hin.symm
  | tick ms => exact ⟨⟨hindexed, hmirrored⟩, fun hexact => hexact.resolve_left id⟩

/-- **The area a listing enters is miscounted:** its count was exact, the listing
moved in, and no recount followed. -/
theorem entered_area_is_miscounted (hs : WellMirrored s) {id : String} {dto : UpdatePropertyDto}
    {location : LocationDto} (hlocation : dto.location = some location) {existing : Property}
    (hfound : s.listings.findOne id = some existing)
    (hmoves : location.areaId ≠ existing.location.areaId)
    (hok : (update r id dto .healthy s).1.isOk = true)
    (hexact : PropertyCountExact location.areaId s)
    (hknown : (s.catalog.findArea location.areaId).isSome = true) :
    ¬ PropertyCountExact location.areaId (update r id dto .healthy s).2 := by
  rcases update_spec (r := r) .healthy hs.1 id dto with
    ⟨e, h⟩ | ⟨existing', row, slug, area, compound, changes, listings, hlive, hrelated, -,
      hchanges, hrewritten, h⟩
  · simp [h, Except.isOk, Except.toBool] at hok
  obtain rfl := Option.some.inj (hfound.symm.trans hrewritten.found)
  have hentered : (changes.set existing).location.areaId = location.areaId := by
    rw [hchanges, areaId_set_changes (UpdatePropertyDto.area_of_related hrelated), hlocation]
    rfl
  have hundeleted : (changes.set existing).deletedAt = none := by
    rw [hchanges]
    exact hlive
  have hbefore : row.areaId ≠ some location.areaId := fun hrow =>
    hmoves (hs.2 id existing row hfound hrewritten.foundRow _ hrow)
  have hcount := Table.count_updateOne
    (p := fun r => decide (r.areaId = some location.areaId) && decide (r.deletedAt = none))
    (f := rewriteRow (mirrorOf (changes.set existing))) hrewritten.foundRow
  have hafter : (rewriteRow (mirrorOf (changes.set existing)) row).areaId = some location.areaId ∧
      (rewriteRow (mirrorOf (changes.set existing)) row).deletedAt = none :=
    ⟨congrArg some hentered, hundeleted⟩
  simp only [hbefore, hafter, decide_false, decide_true, Bool.false_and, Bool.and_self,
    Bool.false_eq_true, if_false, if_true, Nat.add_zero] at hcount
  obtain ⟨entered, hentered⟩ := Option.isSome_iff_exists.1 hknown
  have hareas := Table.findUnique_updateOne_key (k := existing.location.areaId)
    (j := location.areaId) Area.id
    (f := fun a => { a with
      propertyCount := livePropertyCount existing.location.areaId listings.propertyIndex })
    (fun _ ha => ha) s.catalog.areas
  rw [if_neg hmoves] at hareas
  intro hexact'
  rw [h] at hexact'
  have hstale := hexact' entered (hareas.trans hentered)
  rw [listings_afterWrite, hrewritten.rows, hexact entered hentered] at hstale
  simp only [livePropertyCount] at hstale
  omega

end

/-- **The listings of every area are counted exactly** along every run of healthy
calls in which no update moves a listing: of the areas whose count was exact
before, and of those one of the calls touches. -/
theorem propertyCount_exact (r : Runtime) (s t : PropertiesStore) (calls : List PropertyCall)
    (hs : WellMirrored s) (hhealthy : ∀ call ∈ calls, call.Healthy)
    (hstays : (propertyCalls r).Meets StaysInArea s calls)
    (hrun : (propertyCalls r).run s calls = some t) (areaId : String)
    (h : PropertyCountExact areaId s ∨ (propertyCalls r).Hits (Touches r areaId) s calls) :
    PropertyCountExact areaId t := by
  have hcalls := Machine.Meets.and calls
    (Machine.Meets.of_forall_mem (M := propertyCalls r) s hhealthy) hstays
  have hmeets : (propertyCalls r).Meets
      (fun s call => WellMirrored s ∧ call.Healthy ∧ StaysInArea s call) s calls := by
    refine Machine.Meets.of_invariant (I := WellMirrored) (fun s call t hs hcall hstep => ?_)
      (fun s call hs hcall => ⟨hs, hcall⟩) calls hs hcalls
    obtain rfl := Option.some.inj hstep
    exact (propertyCountExact_exec areaId hs call hcall.1 hcall.2).1
  have hkeep : ∀ s call t, PropertyCountExact areaId s →
      (WellMirrored s ∧ call.Healthy ∧ StaysInArea s call) →
      (propertyCalls r).step s call = some t → PropertyCountExact areaId t := by
    rintro s call t hexact ⟨hs, hcall⟩ hstep
    obtain rfl := Option.some.inj hstep
    exact (propertyCountExact_exec areaId hs call hcall.1 hcall.2).2 (Or.inr hexact)
  rcases h with hexact | htouched
  · exact Machine.run_invariant hkeep calls hexact hmeets hrun
  · refine Machine.run_established hkeep ?_ calls htouched hmeets hrun
    rintro s call t htouches ⟨hs, hcall⟩ hstep
    obtain rfl := Option.some.inj hstep
    exact (propertyCountExact_exec areaId hs call hcall.1 hcall.2).2 (Or.inl htouches)

theorem wellMirrored_demoMarketplace : WellMirrored demoMarketplace := by
  refine ⟨by decide, fun id doc row hdoc hrow areaId hareaId => ?_⟩
  obtain rfl := List.mem_singleton.1 (Table.findUnique_some hdoc).1
  obtain rfl := List.mem_singleton.1 (Table.findUnique_some hrow).1
  exact (Option.some.inj hareaId).symm

/-- A listing added to the second area, a new price, a removal. -/
def demoWrites : List PropertyCall :=
  [.create demoPropertyDto "7c9e6679-7425-40de-944b-e07fc1f90ae7" demoObjectId .healthy,
    .update demoProperty.propertyId demoPriceUpdate .healthy,
    .remove demoProperty.propertyId .healthy]

theorem propertyCount_exact_demo :
    ∃ t, (propertyCalls demoRuntime).run demoMarketplace demoWrites = some t ∧
      PropertyCountExact "area-1" t ∧ PropertyCountExact "area-2" t := by
  have hexact : ∀ id ∈ ["area-1", "area-2"], PropertyCountExact id demoMarketplace := by
    unfold PropertyCountExact
    decide
  have hhealthy : ∀ call ∈ demoWrites, call.Healthy := by
    simp [demoWrites, PropertyCall.Healthy]
  have hstays : (propertyCalls demoRuntime).Meets StaysInArea demoMarketplace demoWrites := by
    decide
  exact ⟨_, rfl,
    propertyCount_exact demoRuntime demoMarketplace _ demoWrites wellMirrored_demoMarketplace
      hhealthy hstays rfl _ (Or.inl (hexact _ (by simp))),
    propertyCount_exact demoRuntime demoMarketplace _ demoWrites wellMirrored_demoMarketplace
      hhealthy hstays rfl _ (Or.inl (hexact _ (by simp)))⟩

/-- The listing moves to the second area. -/
def demoMove : UpdatePropertyDto :=
  { location := some ⟨"area-2", none, demoPropertyDto.location.geo⟩ }

/-- **A listing that moves is not counted where it arrives.** -/
theorem moved_listing_is_not_counted :
    ¬ ∀ (r : Runtime) (s t : PropertiesStore) (calls : List PropertyCall), WellMirrored s →
      (∀ call ∈ calls, call.Healthy) → (propertyCalls r).run s calls = some t → ∀ areaId,
      PropertyCountExact areaId s ∨ (propertyCalls r).Hits (Touches r areaId) s calls →
      PropertyCountExact areaId t := by
  intro h
  have hexact : PropertyCountExact "area-2" demoMarketplace := by
    unfold PropertyCountExact
    decide
  have hmoved := h demoRuntime demoMarketplace _ [.update demoProperty.propertyId demoMove .healthy]
    wellMirrored_demoMarketplace (by simp [PropertyCall.Healthy]) rfl "area-2" (Or.inl hexact)
  revert hmoved
  unfold PropertyCountExact
  decide

end Listing
end TopChoice
