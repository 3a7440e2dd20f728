/-
# The projects of a developer are counted exactly

`projectsCount` of a developer is the number of its active compounds.  A call of
`CompoundsService` changes the active compounds of one developer, or of two when
it moves a compound, and recounts each of them afterwards (`syncProjectsCount`),
so a count that was exact is exact after every call (`projectsCount_exact`).
-/

import TopChoice.Catalog.CompoundsService

namespace TopChoice
namespace Catalog

open Listing (demoProperty mirrorOf)

/-- The developer, if it has a row, has the number of its active compounds in
`projectsCount`. -/
def ProjectsExact (id : String) (s : CompoundsStore) : Prop :=
  ∀ developer, s.findDeveloper id = some developer →
    developer.projectsCount = activeCompounds id s.compounds

section Calls

variable {s s' s₁ : CompoundsStore} {id : String}

/-- A count stays exact when neither the developers nor its compounds change. -/
theorem ProjectsExact.congr (h : ProjectsExact id s) (hdevelopers : s'.developers = s.developers)
    (hcount : activeCompounds id s'.compounds = activeCompounds id s.compounds) :
    ProjectsExact id s' := by
  intro developer hfind
  rw [hcount]
  refine h developer ?_
  rwa [CatalogStore.findDeveloper, hdevelopers] at hfind

/-- A recount leaves the compounds alone. -/
theorem compounds_syncProjectsCount {developerId : String}
    (h : syncProjectsCount developerId s = some s') : s'.compounds = s.compounds := by
  unfold syncProjectsCount at h
  split at h
  · cases h
  · obtain rfl := Option.some.inj h
    rfl

/-- A recount looks no developer away from its row. -/
theorem findDeveloper_syncProjectsCount {developerId : String}
    (h : syncProjectsCount developerId s = some s') (id : String) :
    s'.findDeveloper id =
      if id = developerId then
        (s.findDeveloper id).map fun d =>
          { d with projectsCount := activeCompounds developerId s.compounds }
      else s.findDeveloper id := by
  unfold syncProjectsCount at h
  split at h
  · cases h
  · obtain rfl := Option.some.inj h
    refine (Table.findUnique_updateOne_key Developer.id
      (f := fun d => { d with projectsCount := activeCompounds developerId s.compounds })
      (fun _ h => h) s.developers).trans ?_
    by_cases hid : id = developerId
    · subst hid
      rfl
    · rw [if_neg hid, if_neg hid]
      rfl

/-- **A recount makes the developer's count exact**, and keeps the others. -/
theorem ProjectsExact.sync {developerId : String} (h : syncProjectsCount developerId s = some s')
    (hother : id ≠ developerId → ProjectsExact id s) : ProjectsExact id s' := by
  intro developer hfind
  rw [findDeveloper_syncProjectsCount h] at hfind
  rw [compounds_syncProjectsCount h]
  by_cases heq : id = developerId
  · subst heq
    rw [if_pos rfl] at hfind
    obtain ⟨d, -, rfl⟩ := Option.map_eq_some_iff.1 hfind
    rfl
  · rw [if_neg heq] at hfind
    exact hother heq developer hfind

/-- A developer without a row has no count to be wrong. -/
theorem ProjectsExact.of_sync_eq_none {developerId : String}
    (h : syncProjectsCount developerId s = none)
    (hother : id ≠ developerId → ProjectsExact id s) : ProjectsExact id s := by
  by_cases heq : id = developerId
  · intro developer hfind
    rw [syncProjectsCount, ← heq, hfind] at h
    cases h
  · exact hother heq

/-- A recount after a change that concerns this developer alone. -/
theorem ProjectsExact.sync_getD (h : ProjectsExact id s) (developerId : String)
    (hdevelopers : s₁.developers = s.developers)
    (hcount : id ≠ developerId → activeCompounds id s₁.compounds = activeCompounds id s.compounds) :
    ProjectsExact id ((syncProjectsCount developerId s₁).getD s₁) := by
  have hother : id ≠ developerId → ProjectsExact id s₁ := fun hid =>
    h.congr hdevelopers (hcount hid)
  cases hsync : syncProjectsCount developerId s₁ with
  | none => exact ProjectsExact.of_sync_eq_none hsync hother
  | some s₂ => exact ProjectsExact.sync hsync hother

/-! ### What each statement does to the counts -/

/-- A created compound is one more of its own developer. -/
theorem createCompound_spec {compound : Compound} {amenityIds : List String}
    (h : s.createCompound compound amenityIds = some s₁) :
    s₁.developers = s.developers ∧ ∀ id, id ≠ compound.developerId →
      activeCompounds id s₁.compounds = activeCompounds id s.compounds := by
  unfold CompoundsStore.createCompound at h
  split_ifs at h
  obtain rfl := Option.some.inj h
  refine ⟨rfl, fun id hid => ?_⟩
  rw [activeCompounds, Table.count_create]
  simp [activeCompounds, Ne.symm hid]

/-- An update concerns the developer the compound had and the one it gets. -/
theorem updateCompound_spec {cid : String} {data : Compound → Compound}
    {amenityIds : Option (List String)} (h : s.updateCompound cid data amenityIds = some s₁)
    {existing : Compound} (hexisting : s.findCompound cid = some existing) :
    s₁.developers = s.developers ∧ ∀ id, id ≠ existing.developerId →
      id ≠ (data existing).developerId →
        activeCompounds id s₁.compounds = activeCompounds id s.compounds := by
  unfold CompoundsStore.updateCompound at h
  rw [hexisting] at h
  simp only at h
  split_ifs at h
  obtain rfl := Option.some.inj h
  refine ⟨rfl, fun id hold hnew => ?_⟩
  have := Table.count_updateOne (p := fun c => decide (c.developerId = id) && c.isActive)
    (f := data) hexisting
  simpa [activeCompounds, Ne.symm hold, Ne.symm hnew] using this

/-- Deactivating or deleting a compound concerns its developer alone. -/
theorem deactivateOrDelete_spec {cid : String} {existing : Compound}
    (hexisting : s.findCompound cid = some existing) :
    (s.deactivateOrDelete cid).developers = s.developers ∧ ∀ id, id ≠ existing.developerId →
      activeCompounds id (s.deactivateOrDelete cid).compounds = activeCompounds id s.compounds := by
  unfold CompoundsStore.deactivateOrDelete
  simp only
  split_ifs
  · refine ⟨rfl, fun id hid => ?_⟩
    have := Table.count_updateOne (p := fun c => decide (c.developerId = id) && c.isActive)
      (f := fun c => { c with isActive := false }) hexisting
    simpa [activeCompounds, Ne.symm hid] using this
  · refine ⟨rfl, fun id hid => ?_⟩
    have := Table.count_deleteOne (p := fun c => decide (c.developerId = id) && c.isActive)
      hexisting
    simpa [activeCompounds, CompoundsStore.deleteCompound, Ne.symm hid] using this

/-- A developer that passes the check has a row. -/
theorem findDeveloper_of_assertRelationsExist {developerId : String} {areaId : Option String}
    (h : assertRelationsExist (some developerId) areaId s = none) :
    ∃ developer, s.findDeveloper developerId = some developer := by
  rw [assertRelationsExist, Option.or_eq_none_iff, Option.bind_some] at h
  have hcount := h.1
  split_ifs at hcount with hzero
  by_contra hnone
  refine hzero (List.countP_eq_zero.2 fun d hd hid => hnone ?_)
  exact Option.isSome_iff_exists.1 (List.find?_isSome.2 ⟨d, hd, hid⟩)

/-! ### What each call does to the counts -/

variable (u : Unicode) (timestamp : String)

theorem ProjectsExact.create (h : ProjectsExact id s) (dto : CreateCompoundDto) (cid : String) :
    ProjectsExact id (create u timestamp dto cid s).2 := by
  unfold Catalog.create
  split
  · exact h
  · simp only
    split
    · exact h
    · next s₁ hcreate =>
        obtain ⟨hdevelopers, hcount⟩ := createCompound_spec hcreate
        have hsync := h.sync_getD dto.developerId hdevelopers (hcount id)
        split <;> next hs => simpa [hs] using hsync

theorem ProjectsExact.update (h : ProjectsExact id s) (cid : String) (dto : UpdateCompoundDto) :
    ProjectsExact id (update u timestamp cid dto s).2 := by
  unfold Catalog.update
  split
  · exact h
  · next existing hexisting =>
      split
      · exact h
      · next hrelations =>
        simp only
        split
        · exact h
        · next s₁ hupdate =>
            obtain ⟨hdevelopers, hcount⟩ := updateCompound_spec hupdate hexisting
            have hother : id ≠ existing.developerId →
                id ≠ dto.developerId.getD existing.developerId → ProjectsExact id s₁ :=
              fun hold hnew => h.congr hdevelopers (hcount id hold hnew)
            split
            · next hnone =>
                -- the developer the compound moves to has a row, so it does not move
                refine .of_sync_eq_none hnone fun hnew => hother (fun hold => ?_) hnew
                cases hdto : dto.developerId with
                | none => exact hnew (by rw [hold, hdto]; rfl)
                | some developerId =>
                    rw [hdto] at hnone hrelations
                    obtain ⟨developer, hfind⟩ := findDeveloper_of_assertRelationsExist hrelations
                    simp only [Option.getD_some, syncProjectsCount, CatalogStore.findDeveloper,
                      hdevelopers] at hnone
                    rw [CatalogStore.findDeveloper] at hfind
                    simp [hfind] at hnone
            · next s₂ hs₂ =>
                have hsync : id ≠ existing.developerId → ProjectsExact id s₂ := fun hold =>
                  .sync hs₂ (hother hold)
                split_ifs with hmoved
                · split
                  · next hnone => exact .of_sync_eq_none hnone hsync
                  · next s₃ hs₃ => exact .sync hs₃ hsync
                · have hsame : dto.developerId.getD existing.developerId = existing.developerId := by
                    cases hdto : dto.developerId with
                    | none => rfl
                    | some developerId =>
                        by_contra hne
                        exact hmoved (by simpa [hdto] using hne)
                  exact .sync hs₂ fun hnew => hother (fun hold => hnew (hold.trans hsame.symm)) hnew

theorem ProjectsExact.remove (h : ProjectsExact id s) (cid : String) :
    ProjectsExact id (remove cid s).2 := by
  unfold Catalog.remove
  split
  · exact h
  · next existing hexisting =>
      obtain ⟨hdevelopers, hcount⟩ := deactivateOrDelete_spec hexisting
      have hsync := h.sync_getD existing.developerId hdevelopers (hcount id)
      simp only
      split <;> next hs => simpa [hs] using hsync

/-- **The projects of a developer are counted exactly.**  Along every run of
`create`, `update` (moves to another developer included) and `remove` calls, a
developer whose `projectsCount` was the number of its active compounds has it
right at the end. -/
theorem projectsCount_exact (s t : CompoundsStore) (calls : List CompoundCall)
    (hrun : (compoundCalls u timestamp).run s calls = some t) (id : String)
    (h : ProjectsExact id s) : ProjectsExact id t := by
  refine Machine.run_invariant_of_forall_mem (I := ProjectsExact id) (L := fun _ => True)
    (fun s call t h _ hstep => ?_) calls h (fun _ _ => trivial) hrun
  obtain rfl := Option.some.inj hstep
  cases call with
  | create dto cid => exact h.create u timestamp dto cid
  | update cid dto => exact h.update u timestamp cid dto
  | remove cid => exact h.remove cid

end Calls

/-- Two developers, and a compound of the first. -/
def demoCatalog : CompoundsStore where
  developers := [⟨"developer-1", "nile-homes", "Nile Homes", none, 1⟩,
    ⟨"developer-2", "delta-estates", "Delta Estates", none, 0⟩]
  areas := [⟨"area-1", "New Cairo", "Cairo", "Cairo", 1⟩]
  amenities := []
  compounds := [⟨"compound-1", "palm-court", "Palm Court", "developer-1", "area-1",
    ⟨"بالم كورت", none, none, none, none, none, none, none, none, none, [], none, 30, 31, [],
      false⟩, true⟩]
  compoundAmenities := []
  propertyIndex := [mirrorOf demoProperty]

/-- A second compound for the first developer. -/
def demoCompoundDto : CreateCompoundDto where
  name := "Nile View"
  nameAr := "نايل فيو"
  developerId := "developer-1"
  areaId := "area-1"
  lat := 30
  lng := 31

/-- A compound is added, the first one moves to the second developer and is then
removed, which deactivates it because a listing points at it. -/
def demoCompoundCalls : List CompoundCall :=
  [.create demoCompoundDto "compound-2",
    .update "compound-1" { developerId := some "developer-2" },
    .remove "compound-1"]

theorem projectsCount_exact_demo :
    ∃ t, (compoundCalls .ascii "m1x2").run demoCatalog demoCompoundCalls = some t ∧
      ProjectsExact "developer-1" t ∧ ProjectsExact "developer-2" t := by
  have hexact : ∀ id ∈ ["developer-1", "developer-2"], ProjectsExact id demoCatalog := by
    unfold ProjectsExact
    decide
  exact ⟨_, rfl,
    projectsCount_exact .ascii "m1x2" demoCatalog _ demoCompoundCalls rfl _ (hexact _ (by simp)),
    projectsCount_exact .ascii "m1x2" demoCatalog _ demoCompoundCalls rfl _ (hexact _ (by simp))⟩

end Catalog
end TopChoice
