/-
# When a zero-downtime rebuild serves no less than before

`zero_downtime_reindex` swaps the alias to the new index and deletes the old one
whatever came of filling it: `_populate` counts the bulk items that failed, and
nobody looks at the count (the run in place does, before it prunes).  So a rebuild
never serves less exactly when no bulk item fails and it reads every live listing
that was searchable (`neverServesLess_iff`), which it does when it reads Mongo.
-/

import TopChoice.Search.FullReindex

namespace TopChoice
namespace Search

variable {β φ : Type} {cfg : Settings} {flatten : SourceDoc β → ℕ → φ} {coll : Collection β}

/-- What a zero-downtime rebuild promises: a live listing searchable through the
alias before is searchable afterwards, and an index that was filled in part is
not swapped in and the index it would have replaced not deleted. -/
structure NeverServesLess (coll : Collection β) (before after : Cluster φ) (report : RunReport) :
    Prop where
  searchable : ∀ d ∈ coll.live, (before.aliasDocs d.propertyId).isSome = true →
    (after.aliasDocs d.propertyId).isSome = true
  complete : report.populated.failed ≠ 0 → after.aliasTarget = before.aliasTarget ∧
    ∀ name, before.aliasTarget = some name → after.indices name = before.indices name

/-- What is in the actions of a run, in terms of the documents it reads. -/
theorem exists_action_iff {indexedAt : ℕ} {transformedAt : ℕ → ℕ}
    {documents : List (SourceDoc β)} {id : String} (hne : id ≠ "") :
    (∃ a ∈ bulkActions flatten indexedAt transformedAt documents, a.id = id) ↔
      ∃ doc ∈ documents, isIndexable doc = true ∧ resolveDocumentId doc = some id := by
  constructor
  · rintro ⟨a, ha, rfl⟩
    obtain ⟨n, doc, hn, hdoc⟩ := mem_bulkActions.1 ha
    exact ⟨doc, List.mem_of_getElem? hn, bulkAction_some hdoc⟩
  · rintro ⟨doc, hdoc, hi, hid⟩
    obtain ⟨n, hn⟩ := List.getElem?_of_mem hdoc
    obtain ⟨a, ha, haid⟩ := bulkAction_isSome flatten indexedAt (transformedAt n) hi hid hne
    exact ⟨a, mem_bulkActions.2 ⟨n, doc, hn, ha⟩, haid⟩

/-- **When a zero-downtime rebuild serves no less than before.** -/
theorem neverServesLess_iff (cfg : Settings) (flatten : SourceDoc β → ℕ → φ)
    (coll : Collection β) (seed : Option (List (SourceDoc β))) (fails : ℕ → Bool)
    (clock : RunClock) (source : Source) (prune : Bool) (s s' : Cluster φ) (report : RunReport)
    (h : fullReindex cfg flatten seed coll.sources fails clock source true prune s =
      some (report, s')) :
    NeverServesLess coll s s' report ↔
      (∀ n < (bulkActions flatten clock.indexedAt clock.transformedAt (iterDocuments seed
        coll.sources (resolveSource cfg seed coll.sources source))).length, fails n = false) ∧
      ∀ d ∈ coll.live, (s.aliasDocs d.propertyId).isSome = true →
        ∃ doc ∈ iterDocuments seed coll.sources (resolveSource cfg seed coll.sources source),
          isIndexable doc = true ∧ resolveDocumentId doc = some d.propertyId := by
  obtain ⟨halias, hfailed, hnext, hdocs⟩ := fullReindex_zeroDowntime h rfl
  rw [report_source h] at hfailed hdocs
  have hafter : ∀ id, s'.aliasDocs id = s'.docs report.index id := fun id => by
    rw [Cluster.aliasDocs, halias]
  have hlen := length_executed fails (bulkActions flatten clock.indexedAt clock.transformedAt
    (iterDocuments seed coll.sources (resolveSource cfg seed coll.sources source)))
  constructor
  · intro hn
    have hall := hlen.2.1 <| by
      by_contra hlt
      -- something failed, and yet the alias has moved
      have hmoved := (hn.complete (by omega)).1
      rw [halias] at hmoved
      exact nextVersionName_ne report.index (hnext report.index hmoved.symm).symm
    refine ⟨hall, fun d hd hbefore => ?_⟩
    have := hn.searchable d hd hbefore
    rwa [hafter, hdocs, executed_eq_self hall, lastAction_isSome,
      exists_action_iff d.propertyId_ne_empty] at this
  · rintro ⟨hall, hread⟩
    refine ⟨fun d hd hbefore => ?_, fun hne => absurd ?_ hne⟩
    · rw [hafter, hdocs, executed_eq_self hall, lastAction_isSome, exists_action_iff d.propertyId_ne_empty]
      exact hread d hd hbefore
    · rw [hfailed, executed_eq_self hall, Nat.sub_self]

/-- A rebuild of the demo index, of which the items `fails` says fail. -/
def demoRebuild (fails : ℕ → Bool) : Option (RunReport × Cluster Listing.PropertyStatus) :=
  fullReindex .default (fun doc _ => doc.body.status) none
    (demoCollection Listing.demoProperty.slug).sources fails demoClock .mongo true true demoCluster

/-- The demo listing is still searchable after a rebuild in which nothing fails. -/
theorem neverServesLess_demo :
    ∃ report s', demoRebuild (fun _ => false) = some (report, s') ∧
      NeverServesLess (demoCollection Listing.demoProperty.slug) demoCluster s' report := by
  have hsome : (demoRebuild fun _ => false).isSome = true := by decide
  obtain ⟨⟨report, s'⟩, h⟩ := Option.isSome_iff_exists.1 hsome
  refine ⟨report, s', h, ?_⟩
  rw [demoRebuild] at h
  refine (neverServesLess_iff .default _ _ none _ demoClock .mongo true demoCluster s' report h).2
    ⟨fun _ _ => rfl, fun d hd _ => ?_⟩
  have hd' : d = demoDoc Listing.demoProperty.slug := List.mem_singleton.1 hd
  subst hd'
  exact ⟨_, List.mem_singleton_self _, by decide, resolveDocumentId_toSource _⟩

/-- **The defect.**  The only item fails: the alias moves to the new index, which
is empty, the listing is gone and the index that held it is deleted. -/
theorem partial_rebuild_swapped_in :
    ∃ report s', demoRebuild (fun n => n = 0) = some (report, s') ∧
      (report.populated.failed = 1 ∧ s'.aliasTarget = some "properties_v2" ∧
        s'.aliasDocs Listing.demoProperty.propertyId = none ∧
        s'.indices "properties_v1" = none) ∧
      ¬ NeverServesLess (demoCollection Listing.demoProperty.slug) demoCluster s' report := by
  have hrun : (demoRebuild fun n => n = 0).map (fun r => (r.1.populated.failed, r.2.aliasTarget,
      r.2.aliasDocs Listing.demoProperty.propertyId |>.isSome,
      (r.2.indices "properties_v1").isSome)) = some (1, some "properties_v2", false, false) := by
    decide
  obtain ⟨⟨report, s'⟩, h, hvalues⟩ := Option.map_eq_some_iff.1 hrun
  simp only [Prod.mk.injEq, Option.isSome_eq_false_iff, Option.isNone_iff_eq_none] at hvalues
  obtain ⟨hfailed, halias, hgone, hold⟩ := hvalues
  refine ⟨report, s', h, ⟨hfailed, halias, hgone, hold⟩, fun hn => ?_⟩
  have := (hn.complete (by omega)).1
  rw [halias] at this
  exact absurd this (by decide)

end Search
end TopChoice
