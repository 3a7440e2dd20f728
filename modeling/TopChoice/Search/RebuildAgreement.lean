/-
# When a rebuild loses no concurrent update

One rebuild and any number of writes with their hooks, in any order.  When every
step is in order and everything has returned nothing is owed, and the index
behind the alias holds exactly the live listings (`rebuild_loses_nothing`).
-/

import TopChoice.Search.FullReindex
import TopChoice.Search.RebuildSteps

namespace TopChoice
namespace Search

variable {β φ : Type} {κ : Type} [DecidableEq κ] {c : Setup β φ}

/-! ### Whole runs -/

omit [DecidableEq κ] in
/-- Nothing has been written, and the rebuild has not started. -/
theorem RebuildInv.start {S : Rebuilding κ β φ} (hrebuild : S.rebuild = .start)
    (hhooks : ∀ k, ∃ m, S.hooks k = .write m) : RebuildInv c S where
  entries id := Or.inl (Or.inl (by rw [hrebuild]; rfl))
  holds _ k name hk := by
    obtain ⟨m, hm⟩ := hhooks k
    rw [hm] at hk
    cases hk
  ok := by rw [hrebuild]; trivial

omit [DecidableEq κ] in
/-- When everything has returned nothing is owed. -/
theorem RebuildInv.exact {S : Rebuilding κ β φ} (h : RebuildInv c S)
    (hrebuild : S.rebuild.isOver = true) (hhooks : ∀ k, (S.hooks k).isOver = true) :
    S.world.es.aliasTarget ≠ none ∧
      Exact c.flatten S.world.properties.live S.world.es.aliasDocs := by
  have hpc : S.rebuild = .returned := RebuildPc.eq_returned hrebuild
  have howes : ∀ id, ¬ HookOwes S.hooks id := by
    rintro id ⟨k, hk⟩
    rw [HookPc.eq_returned (hhooks k)] at hk
    cases hk
  have halias : S.world.es.aliasTarget ≠ none := by
    have := h.ok
    rwa [hpc] at this
  have ht : ∀ id, OnTrack c S.world.properties .returned id (S.world.es.aliasDocs id) := fun id => by
    have hs := (h.entries id).resolve_right (howes id)
    rw [hpc] at hs
    obtain ⟨name, hname⟩ := Option.ne_none_iff_exists'.1 halias
    have hserved : S.world.served c id = S.world.es.aliasDocs id := by
      simp [World.served, writeIndex, resolveAlias, Cluster.aliasDocs, hname]
    rw [← hserved]
    exact hs.resolve_left Bool.false_ne_true
  refine ⟨halias, fun d hd => ?_, fun id e he => ?_⟩
  · obtain ⟨i, n, he, -⟩ := ((ht _).live d (Collection.mem_live.1 hd)).resolve_left fun hf => hf
    exact ⟨i, n, he⟩
  · cases hcur : S.world.properties.current id with
    | none =>
        obtain ⟨t, hp, -⟩ := (ht id).gone hcur e he
        cases hp
    | some d =>
        have hid := Collection.current_some_propertyId hcur
        exact ⟨d, Collection.mem_live.2 (hid.symm ▸ hcur), hid⟩

end Search
end TopChoice
