/-
# What a reindex of some ids leaves in the index

`index_ids` (`POST /reindex {ids:[...]}`) reads the live listings the ids select and indexes them.
A listing that is removed, or gone, is not among what it reads, so nothing takes it out of the
index: `index_one` deletes it and a full reindex prunes it, this path does neither.  And a listing
is not selected by its UUID (`selects_uuid`), so an id that is one refreshes nothing.

Hence the index is right about the requested ids iff it was right already about what the run does
not read (`indexIds_converges_iff`).
-/

import Mathlib.Data.List.Dedup
import TopChoice.Search.FullReindex

namespace TopChoice
namespace Search

section Indexer

variable {β φ : Type} (cfg : Settings) (flatten : SourceDoc β → ℕ → φ)

/-- `wanted`: the ids stripped, each once, without the blank ones. -/
def wantedIds (ids : List String) : List String :=
  ((ids.map strip).filter fun id => id ≠ "").dedup

/-- `_iter_seed`, given ids. -/
def iterSeed (seed : Option (List (SourceDoc β))) (wanted : List String) : List (SourceDoc β) :=
  (seed.getD []).filter fun doc => (resolveDocumentId doc).any fun id => id ∈ wanted

/-- The query of `_iter_documents`, given ids: the live listings one of them selects, and all of
the live listings when there are none. -/
def idsFilter (wanted : List String) (doc : SourceDoc β) : Bool :=
  liveFilter doc && (wanted = [] || wanted.any fun id => selects (identifierQuery id) doc)

/-- `_iter_documents`, given ids. -/
def iterDocumentsOf (seed : Option (List (SourceDoc β))) (mongo : List (SourceDoc β))
    (wanted : List String) : Source → List (SourceDoc β)
  | .seed => iterSeed seed wanted
  | _ => mongo.filter (idsFilter wanted)

/-- What is kept of `RunReport` after a partial run. -/
structure PartialReport extends RunReport where
  requested : ℕ
  missing : ℕ
  deriving DecidableEq, Repr

/-- `index_ids`; `none` when Elasticsearch refuses a request and the run is marked as failed. -/
def indexIds (seed : Option (List (SourceDoc β))) (mongo : List (SourceDoc β)) (fails : ℕ → Bool)
    (clock : RunClock) (source : Source) (ids : List String) (s : Cluster φ) :
    Option (PartialReport × Cluster φ) := do
  let wanted := wantedIds ids
  let resolvedSource := resolveSource cfg seed mongo source
  let s₀ ← ensureIndex cfg s
  let indexName := writeIndex cfg s₀
  let documents := iterDocumentsOf seed mongo wanted resolvedSource
  let (populated, s₁) := populate flatten fails clock documents indexName s₀
  pure (⟨⟨resolvedSource, indexName, populated⟩, wanted.length,
    wanted.length - populated.total⟩, s₁)

end Indexer

variable {β φ : Type} {cfg : Settings} {flatten : SourceDoc β → ℕ → φ} {coll : Collection β}
  {seed : Option (List (SourceDoc β))} {clock : RunClock}

/-! ### What the run is for -/

/-- The listing goes by the id: it is its UUID, or it selects it. -/
def ApiDoc.GoesBy (id : String) (d : ApiDoc β) : Prop :=
  d.propertyId = id ∨ selects (identifierQuery id) d.toSource = true

/-- The index holds the listing as it was transformed at some time. -/
def UpToDate (flatten : SourceDoc β → ℕ → φ) (ix : Index φ) (d : ApiDoc β) : Prop :=
  ∃ indexedAt now, ix d.propertyId =
    some (transformProperty flatten d.toSource (some indexedAt) now)

/-- The index is right about an id: it holds what goes by it as it is, nothing of what is removed,
and nothing under the id when no listing goes by it. -/
structure Converged (flatten : SourceDoc β → ℕ → φ) (coll : Collection β) (ix : Index φ)
    (id : String) : Prop where
  live : ∀ d ∈ coll.docs, d.GoesBy id → d.deletedAt = none → UpToDate flatten ix d
  removed : ∀ d ∈ coll.docs, d.GoesBy id → d.deletedAt ≠ none → ix d.propertyId = none
  gone : (∀ d ∈ coll.docs, ¬d.GoesBy id) → ix id = none

/-! ### What the run reads -/

/-- The run reads the listing, if it is live: an id selects it, or there is none. -/
def Refetched (wanted : List String) (d : ApiDoc β) : Prop :=
  wanted = [] ∨ ∃ id ∈ wanted, selects (identifierQuery id) d.toSource = true

theorem idsFilter_toSource {wanted : List String} {d : ApiDoc β} :
    idsFilter wanted d.toSource = true ↔ d.deletedAt = none ∧ Refetched wanted d := by
  simp [idsFilter, Refetched]

/-- What a run that reads Mongo reads. -/
theorem sources_idsFilter (coll : Collection β) (wanted : List String) :
    coll.sources.filter (idsFilter wanted) =
      (coll.docs.filter fun d => idsFilter wanted d.toSource).map ApiDoc.toSource :=
  List.filter_map

/-- It reads of a listing what Mongo holds, if it reads it. -/
theorem lastRecord_refetched {wanted : List String} {d : ApiDoc β} (hd : d ∈ coll.docs)
    (hlive : d.deletedAt = none) (hread : Refetched wanted d) :
    ∃ n, lastRecord (coll.sources.filter (idsFilter wanted)) d.propertyId =
      some (d.toSource, n) := by
  rw [sources_idsFilter]
  have hdocs : ∀ e ∈ coll.docs.filter fun e => idsFilter wanted e.toSource,
      e ∈ coll.docs ∧ e.deletedAt = none := by
    intro e he
    obtain ⟨he, hfilter⟩ := List.mem_filter.1 he
    exact ⟨he, (idsFilter_toSource.1 hfilter).1⟩
  exact lastRecord_listing hdocs (List.mem_filter.2 ⟨hd, idsFilter_toSource.2 ⟨hlive, hread⟩⟩)

/-- It reads nothing of an id whose live listing, if any, it does not read. -/
theorem lastRecord_not_refetched {wanted : List String} {id : String}
    (hno : ∀ d ∈ coll.docs, d.propertyId = id → d.deletedAt = none → ¬Refetched wanted d) :
    lastRecord (coll.sources.filter (idsFilter wanted)) id = none := by
  rw [sources_idsFilter]
  refine lastRecord_no_listing fun d hd hid => ?_
  obtain ⟨hd, hfilter⟩ := List.mem_filter.1 hd
  obtain ⟨hlive, hread⟩ := idsFilter_toSource.1 hfilter
  exact hno d hd hid hlive hread

/-- The seed corpus has no record for a blank id. -/
theorem lastRecord_iterSeed_empty (ids : List String) :
    lastRecord (iterSeed seed (wantedIds ids)) "" = none := by
  by_contra hne
  obtain ⟨r, hr⟩ := Option.ne_none_iff_exists'.1 hne
  obtain ⟨hdoc, -, hid⟩ := lastRecord_some hr
  have hwanted := (List.mem_filter.1 hdoc).2
  rw [hid, Option.any_some, decide_eq_true_eq, wantedIds, List.mem_dedup] at hwanted
  simpa using (List.mem_filter.1 hwanted).2

/-! ### When the index converges -/

/-- Of a live listing the run reads what Mongo holds, or it reads nothing of it and the index held
it before. -/
def Rereads (flatten : SourceDoc β → ℕ → φ) (clock : RunClock) (seed : Option (List (SourceDoc β)))
    (wanted : List String) (before : Index φ) (d : ApiDoc β) : Source → Prop
  | .seed =>
      match lastRecord (iterSeed seed wanted) d.propertyId with
      | some r => ∃ now, flatten r.1 (clock.transformedAt r.2) = flatten d.toSource now
      | none => UpToDate flatten before d
  | _ => Refetched wanted d ∨ UpToDate flatten before d

/-- Nothing was under the id before, and the seed corpus, if it is read, has nothing for it. -/
def Vacant (seed : Option (List (SourceDoc β))) (wanted : List String) (before : Index φ)
    (id : String) : Source → Prop
  | .seed => lastRecord (iterSeed seed wanted) id = none ∧ before id = none
  | _ => before id = none

/-- The run can leave the index right about an id. -/
structure Healable (flatten : SourceDoc β → ℕ → φ) (coll : Collection β) (clock : RunClock)
    (seed : Option (List (SourceDoc β))) (resolved : Source) (wanted : List String)
    (before : Index φ) (id : String) : Prop where
  live : ∀ d ∈ coll.docs, d.GoesBy id → d.deletedAt = none →
    Rereads flatten clock seed wanted before d resolved
  removed : ∀ d ∈ coll.docs, d.GoesBy id → d.deletedAt ≠ none →
    Vacant seed wanted before d.propertyId resolved
  gone : (∀ d ∈ coll.docs, ¬d.GoesBy id) → Vacant seed wanted before id resolved

section Written

variable (flatten : SourceDoc β → ℕ → φ) (clock : RunClock) (coll : Collection β)
  (seed : Option (List (SourceDoc β))) (resolved : Source) (ids : List String) (before : Index φ)

/-- The index after the run. -/
def after (id : String) : Option (EsDoc φ) :=
  (lastAction (bulkActions flatten clock.indexedAt clock.transformedAt
    (iterDocumentsOf seed coll.sources (wantedIds ids) resolved)) id).or (before id)

/-- What the run leaves of a live listing. -/
theorem upToDate_after_iff {d : ApiDoc β} (hd : d ∈ coll.docs) (hlive : d.deletedAt = none) :
    UpToDate flatten (after flatten clock coll seed resolved ids before) d ↔
      Rereads flatten clock seed (wantedIds ids) before d resolved := by
  have hmongo : UpToDate flatten (fun id => ((lastRecord (coll.sources.filter
        (idsFilter (wantedIds ids))) id).map fun r => transformProperty flatten r.1
          (some clock.indexedAt) (clock.transformedAt r.2)).or (before id)) d ↔
      Refetched (wantedIds ids) d ∨ UpToDate flatten before d := by
    by_cases hread : Refetched (wantedIds ids) d
    · obtain ⟨n, hn⟩ := lastRecord_refetched hd hlive hread
      exact iff_of_true ⟨clock.indexedAt, clock.transformedAt n, by simp [hn]⟩ (Or.inl hread)
    · have hnone : lastRecord (coll.sources.filter (idsFilter (wantedIds ids))) d.propertyId =
          none :=
        lastRecord_not_refetched fun e he hid _ => coll.eq_of_propertyId_eq he hd hid ▸ hread
      simp [UpToDate, hnone, hread]
  have hafter : UpToDate flatten (after flatten clock coll seed resolved ids before) d ↔
      UpToDate flatten (fun id => ((lastRecord (iterDocumentsOf seed coll.sources (wantedIds ids)
        resolved) id).map fun r => transformProperty flatten r.1 (some clock.indexedAt)
          (clock.transformedAt r.2)).or (before id)) d := by
    simp only [UpToDate, after, lastAction_bulkActions _ _ _ d.propertyId_ne_empty]
  rw [hafter]
  cases resolved with
  | auto => exact hmongo
  | mongo => exact hmongo
  | seed =>
    simp only [UpToDate, Rereads, iterDocumentsOf]
    cases hrecord : lastRecord (iterSeed seed (wantedIds ids)) d.propertyId with
    | none => simp
    | some r =>
      have hid := (lastRecord_some hrecord).2.2
      simp [transformProperty, hid]

/-- What the run leaves under an id no live listing it reads has. -/
theorem after_eq_none_iff (id : String)
    (hno : ∀ d ∈ coll.docs, d.propertyId = id → d.deletedAt ≠ none) :
    after flatten clock coll seed resolved ids before id = none ↔
      Vacant seed (wantedIds ids) before id resolved := by
  have hrecord : lastRecord (coll.sources.filter (idsFilter (wantedIds ids))) id = none :=
    lastRecord_not_refetched fun d hd hid hlive => absurd hlive (hno d hd hid)
  by_cases hid : id = ""
  · subst hid
    rw [after, lastAction_empty, Option.none_or]
    cases resolved <;> simp [Vacant, lastRecord_iterSeed_empty]
  · rw [after, lastAction_bulkActions _ _ _ hid]
    cases resolved <;> simp [Vacant, iterDocumentsOf, hrecord]

/-- **One id.**  The run leaves the index right about it iff it can. -/
theorem converged_after_iff (id : String) :
    Converged flatten coll (after flatten clock coll seed resolved ids before) id ↔
      Healable flatten coll clock seed resolved (wantedIds ids) before id := by
  have hlive {d : ApiDoc β} (hd : d ∈ coll.docs) (hd' : d.deletedAt = none) :=
    upToDate_after_iff flatten clock coll seed resolved ids before hd hd'
  have hremoved {d : ApiDoc β} (hd : d ∈ coll.docs) (hd' : d.deletedAt ≠ none) :=
    after_eq_none_iff flatten clock coll seed resolved ids before d.propertyId
      fun e he heq => coll.eq_of_propertyId_eq he hd heq ▸ hd'
  have hgone (hno : ∀ d ∈ coll.docs, ¬d.GoesBy id) :=
    after_eq_none_iff flatten clock coll seed resolved ids before id
      fun d hd heq => absurd (Or.inl heq) (hno d hd)
  constructor
  · intro h
    exact ⟨fun d hd hgoes hd' => (hlive hd hd').1 (h.live d hd hgoes hd'),
      fun d hd hgoes hd' => (hremoved hd hd').1 (h.removed d hd hgoes hd'),
      fun hno => (hgone hno).1 (h.gone hno)⟩
  · intro h
    exact ⟨fun d hd hgoes hd' => (hlive hd hd').2 (h.live d hd hgoes hd'),
      fun d hd hgoes hd' => (hremoved hd hd').2 (h.removed d hd hgoes hd'),
      fun hno => (hgone hno).2 (h.gone hno)⟩

end Written

/-- What a run without failures leaves in its index. -/
theorem docs_indexIds {fails : ℕ → Bool} {source : Source} {ids : List String} {s s' : Cluster φ}
    {report : PartialReport}
    (h : indexIds cfg flatten seed coll.sources fails clock source ids s = some (report, s'))
    (hfailed : report.populated.failed = 0) :
    s'.docs report.index = after flatten clock coll seed
      (resolveSource cfg seed coll.sources source) ids (s.docs (writeIndex cfg s)) := by
  unfold indexIds at h
  obtain ⟨s₀, h₀, h⟩ := Option.bind_eq_some_iff.1 h
  obtain ⟨rfl, rfl⟩ := Prod.mk.inj (Option.some.inj h)
  funext id
  simp only at hfailed ⊢
  obtain ⟨hle, hiff⟩ := length_executed fails (bulkActions flatten clock.indexedAt
    clock.transformedAt (iterDocumentsOf seed coll.sources (wantedIds ids)
      (resolveSource cfg seed coll.sources source)))
  have hexec := executed_eq_self (hiff.1 (by omega))
  rw [docs_runBulk, if_pos rfl, hexec, docs_ensureIndex h₀, (writeIndex_ensureIndex h₀).1, after]

/-- **When a reindex of some ids converges.**  A run without bulk failures leaves the index right
about the ids iff of each live listing that goes by one of them it reads what Mongo holds, or the
index held it before, and nothing was in the index of what is removed or gone. -/
theorem indexIds_converges_iff (cfg : Settings) (flatten : SourceDoc β → ℕ → φ)
    (coll : Collection β) (seed : Option (List (SourceDoc β))) (fails : ℕ → Bool)
    (clock : RunClock) (source : Source) (ids : List String) (s s' : Cluster φ)
    (report : PartialReport)
    (h : indexIds cfg flatten seed coll.sources fails clock source ids s = some (report, s'))
    (hfailed : report.populated.failed = 0) :
    (∀ id ∈ ids, Converged flatten coll (s'.docs report.index) (strip id)) ↔
      ∀ id ∈ ids, Healable flatten coll clock seed (resolveSource cfg seed coll.sources source)
        (wantedIds ids) (s.docs (writeIndex cfg s)) (strip id) := by
  rw [docs_indexIds h hfailed]
  exact forall₂_congr fun id _ =>
    converged_after_iff flatten clock coll seed _ ids (s.docs (writeIndex cfg s)) (strip id)

/-- The demo listing, requested by its slug, into an empty index. -/
theorem indexIds_converges_demo :
    ∃ report s', indexIds .default (fun doc _ => doc.body.status) none
        (demoCollection Listing.demoProperty.slug).sources (fun _ => false) demoClock .auto
        [Listing.demoProperty.slug] (emptyCluster Listing.PropertyStatus) = some (report, s') ∧
      ∀ id ∈ [Listing.demoProperty.slug], Converged (fun doc _ => doc.body.status)
        (demoCollection Listing.demoProperty.slug) (s'.docs report.index) (strip id) := by
  have hsome : ((indexIds .default (fun doc _ => doc.body.status) none
      (demoCollection Listing.demoProperty.slug).sources (fun _ => false) demoClock .auto
      [Listing.demoProperty.slug] (emptyCluster Listing.PropertyStatus)).any fun r =>
        r.1.populated.failed = 0) = true := by decide
  obtain ⟨⟨report, s'⟩, h, hfailed⟩ := (Option.any_eq_true ..).1 hsome
  refine ⟨report, s', h, (indexIds_converges_iff .default _
    (demoCollection Listing.demoProperty.slug) none _ demoClock .auto _ _ s' report h
      (of_decide_eq_true hfailed)).2 fun id hid => ⟨fun d hd _ _ => ?_, fun d hd _ hdeleted => ?_,
        fun _ => docs_emptyCluster ..⟩⟩
  · obtain rfl := List.mem_singleton.1 hd
    exact Or.inl (Or.inr ⟨Listing.demoProperty.slug, by decide, by decide⟩)
  · obtain rfl := List.mem_singleton.1 hd
    exact absurd rfl hdeleted

/-- The demo listing, removed, is in the index from before; requested by its UUID, it stays. -/
theorem indexIds_keeps_removed :
    ¬∀ (cfg : Settings) (flatten : SourceDoc Listing.Property → ℕ → Listing.PropertyStatus)
      (coll : Collection Listing.Property) (seed : Option (List (SourceDoc Listing.Property)))
      (fails : ℕ → Bool) (clock : RunClock) (source : Source) (ids : List String)
      (s s' : Cluster Listing.PropertyStatus) (report : PartialReport),
      indexIds cfg flatten seed coll.sources fails clock source ids s = some (report, s') →
        report.populated.failed = 0 →
          ∀ id ∈ ids, Converged flatten coll (s'.docs report.index) (strip id) := by
  intro h
  have hsome : ((indexIds .default (fun doc _ => doc.body.status) none
      removedCollection.sources (fun _ => false) demoClock .auto
      [Listing.demoProperty.propertyId] demoCluster).any fun r =>
        decide (r.1.populated.failed = 0) &&
          (r.2.docs r.1.index Listing.demoProperty.propertyId).isSome) = true := by decide
  obtain ⟨⟨report, s'⟩, hrun, hstays⟩ := (Option.any_eq_true ..).1 hsome
  rw [Bool.and_eq_true, decide_eq_true_eq] at hstays
  have hconverged := h .default _ removedCollection none _ demoClock .auto _ _ s' report hrun
    hstays.1 Listing.demoProperty.propertyId List.mem_cons_self
  have hstrip : strip Listing.demoProperty.propertyId = Listing.demoProperty.propertyId :=
    strip_uuid isUuid_demoProperty
  rw [hstrip] at hconverged
  have hnone : s'.docs report.index Listing.demoProperty.propertyId = none :=
    hconverged.removed _ List.mem_cons_self (Or.inl rfl) (by decide)
  exact absurd hstays.2 (by simp [hnone])

end Search
end TopChoice
