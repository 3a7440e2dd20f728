/-
# The indexing pipeline

`apps/search-svc/app/services/indexer.py`: where the documents of a run come
from, the bulk loop that fills an index, the full reindex (in place with a prune
of what the run did not refresh, or zero-downtime), and the single-listing hooks
api-core calls after a write.

Mongo is the list of the documents of `properties` in the order a query returns
them.  `fails` says which items of the bulk requests fail, by position.  The
counts of deleted documents and the log lines are left out, and so is the Redis
cache of search results, which is flushed at the end of every path.
-/

import TopChoice.Search.IndexManager

namespace TopChoice
namespace Search

/-- `source` of a run. -/
inductive Source where
  | auto
  | mongo
  | seed
  deriving DecidableEq, Repr

/-- The times of a run: its start, the stamp of the documents it indexes, and
when it transforms the document read at a position. -/
structure RunClock where
  startedAt : ℕ
  indexedAt : ℕ
  transformedAt : ℕ → ℕ
  startedAt_le : startedAt ≤ indexedAt

/-- What is kept of `RunReport`. -/
structure RunReport where
  source : Source
  index : String
  populated : Populated
  deriving DecidableEq, Repr

section Indexer

variable {β φ : Type} (cfg : Settings) (flatten : SourceDoc β → ℕ → φ)

/-! ### Where the documents come from -/

/-- `count_properties`: the live listings. -/
def countProperties (mongo : List (SourceDoc β)) : ℕ := (mongo.filter liveFilter).length

/-- `resolve_source`: Mongo when it holds listings, otherwise the seed corpus;
`seed` is `none` when there is no seed file. -/
def resolveSource (seed : Option (List (SourceDoc β))) (mongo : List (SourceDoc β)) :
    Source → Source
  | .mongo => .mongo
  | .seed => .seed
  | .auto =>
      if countProperties mongo > 0 then .mongo
      else if cfg.BOOTSTRAP_FROM_SEED && seed.isSome then .seed
      else .mongo

/-- `_iter_documents`, without ids. -/
def iterDocuments (seed : Option (List (SourceDoc β))) (mongo : List (SourceDoc β)) :
    Source → List (SourceDoc β)
  | .seed => seed.getD []
  | _ => mongo.filter liveFilter

/-! ### The bulk loop -/

/-- The action `_bulk_actions` yields for a document, if any. -/
def bulkAction (indexedAt now : ℕ) (doc : SourceDoc β) : Option (EsDoc φ) :=
  if isIndexable doc then
    let esDoc := transformProperty flatten doc (some indexedAt) now
    if esDoc.id = "" then none else some esDoc
  else none

/-- `_bulk_actions`. -/
def bulkActions (indexedAt : ℕ) (transformedAt : ℕ → ℕ) (documents : List (SourceDoc β)) :
    List (EsDoc φ) :=
  documents.zipIdx.filterMap fun d => bulkAction flatten indexedAt (transformedAt d.2) d.1

/-- The actions that do not fail. -/
def executed (fails : ℕ → Bool) (actions : List (EsDoc φ)) : List (EsDoc φ) :=
  (actions.zipIdx.filter fun a => !fails a.2).map Prod.fst

/-- `async_bulk`: the actions in order, those that fail left out. -/
def runBulk (fails : ℕ → Bool) (indexName : String) (actions : List (EsDoc φ)) (s : Cluster φ) :
    Cluster φ :=
  (executed fails actions).foldl (fun s a => s.index indexName a.id a) s

/-- `_populate`. -/
def populate (fails : ℕ → Bool) (clock : RunClock) (documents : List (SourceDoc β))
    (indexName : String) (s : Cluster φ) : Populated × Cluster φ :=
  let actions := bulkActions flatten clock.indexedAt clock.transformedAt documents
  (⟨documents.length, (executed fails actions).length,
    actions.length - (executed fails actions).length⟩, runBulk fails indexName actions s)

/-! ### Full runs -/

/-- `_prune_stale`: drops the documents that were not refreshed by this run. -/
def pruneStale (indexName : String) (startedAt : ℕ) (s : Cluster φ) : Cluster φ :=
  s.deleteByQuery indexName fun e => !decide (startedAt ≤ e.indexedAt)

/-- The branch of `full_reindex` that keeps the index: fill it, and prune it when
every document made it in and there was one. -/
def reindexInPlace (fails : ℕ → Bool) (clock : RunClock) (documents : List (SourceDoc β))
    (prune : Bool) (indexName : String) (s : Cluster φ) : Populated × Cluster φ :=
  let r := populate flatten fails clock documents indexName s
  (r.1,
    if prune && r.1.failed = 0 && r.1.indexed > 0 then pruneStale indexName clock.startedAt r.2
    else r.2)

/-- `full_reindex`; `none` when Elasticsearch refuses a request and the run is
marked as failed. -/
def fullReindex (seed : Option (List (SourceDoc β))) (mongo : List (SourceDoc β))
    (fails : ℕ → Bool) (clock : RunClock) (source : Source) (zeroDowntime prune : Bool)
    (s : Cluster φ) : Option (RunReport × Cluster φ) := do
  let resolvedSource := resolveSource cfg seed mongo source
  let documents := iterDocuments seed mongo resolvedSource
  let s₀ ← ensureIndex cfg s
  if zeroDowntime then
    let (result, populated, s₁) ←
      zeroDowntimeReindex cfg (populate flatten fails clock documents) s₀
    pure (⟨resolvedSource, result.newIndex, populated⟩, s₁)
  else
    let indexName := writeIndex cfg s₀
    let (populated, s₁) := reindexInPlace flatten fails clock documents prune indexName s₀
    pure (⟨resolvedSource, indexName, populated⟩, s₁)

/-! ### Single documents -/

/-- A seed record `fetch_source_document` takes for the identifier. -/
def seedMatches (identifier : String) (candidate : SourceDoc β) : Bool :=
  some identifier = resolveDocumentId candidate || some identifier = candidate.slug ||
    some identifier = candidate.mongoId

/-- `fetch_source_document`: Mongo (`none` when the lookup raises), then the seed
corpus. -/
def fetchSourceDocument (seed : Option (List (SourceDoc β)))
    (mongo : Option (List (SourceDoc β))) (identifier : String) : Option (SourceDoc β) :=
  match mongo.bind fun docs => docs.find? (selects (identifierQuery identifier)) with
  | some document => some document
  | none =>
      if cfg.BOOTSTRAP_FROM_SEED then (seed.getD []).find? (seedMatches identifier) else none

/-- `delete_one`: whether the listing was in the index. -/
def deleteOne (identifier : String) (s : Cluster φ) : Bool × Cluster φ :=
  s.delete (writeIndex cfg s) identifier

/-- What `index_one` reports. -/
inductive IndexOneResult (φ : Type) where
  | missing
  | deleted (id : String) (deleted : Bool)
  | indexed (index : String) (document : EsDoc φ)

/-- `index_one`: upserts a single listing. -/
def indexOne (seed : Option (List (SourceDoc β))) (mongo : Option (List (SourceDoc β)))
    (now : ℕ) (identifier : String) (s : Cluster φ) : Option (IndexOneResult φ × Cluster φ) :=
  match fetchSourceDocument cfg seed mongo identifier with
  | none => some (.missing, s)
  | some document =>
    if !isIndexable document then
      let (deleted, s') := deleteOne cfg identifier s
      some (.deleted identifier deleted, s')
    else do
      let s₀ ← ensureIndex cfg s
      let indexName := writeIndex cfg s₀
      let esDoc := transformProperty flatten document none now
      pure (.indexed indexName esDoc, s₀.index indexName esDoc.id esDoc)

end Indexer

/-! ### What the bulk loop leaves in an index -/

section Bulk

variable {β φ : Type} {flatten : SourceDoc β → ℕ → φ}

/-- The last action on an `_id`, which is the one that stays. -/
def lastAction (actions : List (EsDoc φ)) (_id : String) : Option (EsDoc φ) :=
  actions.reverse.find? fun a => a.id = _id

theorem lastAction_cons (a : EsDoc φ) (actions : List (EsDoc φ)) (_id : String) :
    lastAction (a :: actions) _id =
      (lastAction actions _id).or (if a.id = _id then some a else none) := by
  simp [lastAction, List.find?_append, List.find?_singleton]

theorem lastAction_concat (actions : List (EsDoc φ)) (a : EsDoc φ) (_id : String) :
    lastAction (actions ++ [a]) _id = if a.id = _id then some a else lastAction actions _id := by
  rw [lastAction, List.reverse_append]
  by_cases h : a.id = _id
  · simp [h]
  · simp [h, lastAction]

theorem lastAction_some {actions : List (EsDoc φ)} {_id : String} {a : EsDoc φ}
    (h : lastAction actions _id = some a) : a ∈ actions ∧ a.id = _id :=
  ⟨List.mem_reverse.1 (List.mem_of_find?_eq_some h), by simpa using List.find?_some h⟩

theorem lastAction_isSome {actions : List (EsDoc φ)} {_id : String} :
    (lastAction actions _id).isSome = true ↔ ∃ a ∈ actions, a.id = _id := by
  simp [lastAction, List.find?_isSome]

/-- Actions in order: the last one on an `_id` stays, the others are as before. -/
theorem docs_foldl_index (name : String) (actions : List (EsDoc φ)) (s : Cluster φ)
    (n i : String) :
    (actions.foldl (fun s a => s.index name a.id a) s).docs n i =
      if n = name then (lastAction actions i).or (s.docs n i) else s.docs n i := by
  induction actions generalizing s with
  | nil => simp [lastAction]
  | cons a actions ih =>
      rw [List.foldl_cons, ih, Cluster.docs_index, lastAction_cons]
      by_cases hn : n = name
      · by_cases hi : i = a.id
        · subst hi
          simp [hn]
        · simp [hn, hi, Ne.symm hi]
      · simp [hn]

/-- What the bulk loop leaves in an index. -/
theorem docs_runBulk (fails : ℕ → Bool) (name : String) (actions : List (EsDoc φ))
    (s : Cluster φ) (n i : String) :
    (runBulk fails name actions s).docs n i =
      if n = name then (lastAction (executed fails actions) i).or (s.docs n i)
      else s.docs n i :=
  docs_foldl_index name _ s n i

/-- No item failed when none of the positions sent did. -/
theorem length_executed (fails : ℕ → Bool) (actions : List (EsDoc φ)) :
    (executed fails actions).length ≤ actions.length ∧
      ((executed fails actions).length = actions.length ↔
        ∀ n < actions.length, fails n = false) := by
  have hlen : actions.zipIdx.length = actions.length := List.length_zipIdx
  rw [executed, List.length_map, ← hlen]
  refine ⟨List.length_filter_le .., ?_⟩
  rw [List.length_filter_eq_length_iff, hlen]
  constructor
  · intro h n hn
    have hmem : (actions[n], n) ∈ actions.zipIdx := by
      rw [List.mk_mem_zipIdx_iff_getElem?]
      exact List.getElem?_eq_getElem hn
    simpa using h _ hmem
  · intro h a ha
    have : a.2 < actions.length := by
      have := List.mk_mem_zipIdx_iff_getElem?.1 ha
      exact (List.getElem?_eq_some_iff.1 this).1
    simp [h _ this]

/-- All the actions are executed when none fails. -/
theorem executed_eq_self {fails : ℕ → Bool} {actions : List (EsDoc φ)}
    (h : ∀ n < actions.length, fails n = false) : executed fails actions = actions := by
  have hall : actions.zipIdx.filter (fun a => !fails a.2) = actions.zipIdx := by
    rw [List.filter_eq_self]
    intro a ha
    have := List.mk_mem_zipIdx_iff_getElem?.1 ha
    simp [h _ (List.getElem?_eq_some_iff.1 this).1]
  rw [executed, hall, List.zipIdx_map_fst]

/-- What the actions of a run are made of. -/
theorem mem_bulkActions {indexedAt : ℕ} {transformedAt : ℕ → ℕ} {documents : List (SourceDoc β)}
    {a : EsDoc φ} : a ∈ bulkActions flatten indexedAt transformedAt documents ↔
      ∃ n doc, documents[n]? = some doc ∧
        bulkAction flatten indexedAt (transformedAt n) doc = some a := by
  simp only [bulkActions, List.mem_filterMap, Prod.exists, List.mk_mem_zipIdx_iff_getElem?]
  exact exists_comm

/-- The document a bulk action comes from. -/
theorem bulkAction_some {indexedAt now : ℕ} {doc : SourceDoc β} {a : EsDoc φ}
    (h : bulkAction flatten indexedAt now doc = some a) :
    isIndexable doc = true ∧ resolveDocumentId doc = some a.id := by
  simp only [bulkAction] at h
  split_ifs at h with hi he
  obtain rfl := Option.some.inj h
  refine ⟨hi, ?_⟩
  rw [isIndexable, Bool.and_eq_true] at hi
  obtain ⟨id, hid⟩ := Option.isSome_iff_exists.1 hi.2
  simp [transformProperty, hid]

/-- The action for a document is the document flattened. -/
theorem bulkAction_eq {indexedAt now : ℕ} {doc : SourceDoc β} {a : EsDoc φ}
    (h : bulkAction flatten indexedAt now doc = some a) :
    a = transformProperty flatten doc (some indexedAt) now := by
  simp only [bulkAction] at h
  split_ifs at h
  exact (Option.some.inj h).symm

/-- There is an action for every indexable document with an `_id`. -/
theorem bulkAction_isSome (flatten : SourceDoc β → ℕ → φ) (indexedAt now : ℕ)
    {doc : SourceDoc β} {id : String}
    (hi : isIndexable doc = true) (hid : resolveDocumentId doc = some id) (hne : id ≠ "") :
    ∃ a : EsDoc φ, bulkAction flatten indexedAt now doc = some a ∧ a.id = id := by
  have htid : (transformProperty flatten doc (some indexedAt) now).id = id := by
    simp [transformProperty, hid]
  exact ⟨_, by rw [bulkAction, if_pos hi, if_neg (by rw [htid]; exact hne)], htid⟩

/-- The action for a live listing. -/
theorem bulkAction_toSource (indexedAt now : ℕ) {d : ApiDoc β} (hd : d.deletedAt = none) :
    bulkAction flatten indexedAt now d.toSource =
      some (transformProperty flatten d.toSource (some indexedAt) now) := by
  have hid : (transformProperty flatten d.toSource (some indexedAt) now).id = d.propertyId := by
    simp [transformProperty]
  simp [bulkAction, hd, hid, d.propertyId_ne_empty]

/-- The document the last action on an `_id` is made of, and its place among those read. -/
def lastRecord (documents : List (SourceDoc β)) (id : String) : Option (SourceDoc β × ℕ) :=
  documents.zipIdx.reverse.find? fun r => isIndexable r.1 && resolveDocumentId r.1 = some id

theorem lastRecord_some {documents : List (SourceDoc β)} {id : String} {r : SourceDoc β × ℕ}
    (h : lastRecord documents id = some r) :
    r.1 ∈ documents ∧ isIndexable r.1 = true ∧ resolveDocumentId r.1 = some id := by
  have hmem := List.mem_reverse.1 (List.mem_of_find?_eq_some h)
  have hfound := List.find?_some h
  rw [Bool.and_eq_true, decide_eq_true_eq] at hfound
  exact ⟨List.mem_of_getElem? (List.mk_mem_zipIdx_iff_getElem?.1 hmem), hfound⟩

theorem lastRecord_isSome {documents : List (SourceDoc β)} {id : String} {doc : SourceDoc β}
    (hmem : doc ∈ documents) (hindexable : isIndexable doc = true)
    (hid : resolveDocumentId doc = some id) : (lastRecord documents id).isSome = true := by
  obtain ⟨n, hn⟩ := List.getElem?_of_mem hmem
  rw [lastRecord, List.find?_isSome]
  exact ⟨(doc, n), List.mem_reverse.2 (List.mk_mem_zipIdx_iff_getElem?.2 hn),
    by rw [hindexable, hid, decide_eq_true rfl]; rfl⟩

/-- **The last action on an `_id`** is the last indexable document read that resolves to it,
transformed. -/
theorem lastAction_bulkActions (indexedAt : ℕ) (transformedAt : ℕ → ℕ)
    (documents : List (SourceDoc β)) {id : String} (hid : id ≠ "") :
    lastAction (bulkActions flatten indexedAt transformedAt documents) id =
      (lastRecord documents id).map fun r =>
        transformProperty flatten r.1 (some indexedAt) (transformedAt r.2) := by
  have hany : ∀ r : SourceDoc β × ℕ,
      (bulkAction flatten indexedAt (transformedAt r.2) r.1).any (fun a => a.id = id) =
        (isIndexable r.1 && decide (resolveDocumentId r.1 = some id)) := by
    intro r
    cases hindexable : isIndexable r.1 with
    | false => simp [bulkAction, hindexable]
    | true =>
      have hsome := hindexable
      rw [isIndexable, Bool.and_eq_true] at hsome
      obtain ⟨i, hi⟩ := Option.isSome_iff_exists.1 hsome.2
      by_cases hne : i = ""
      · simp [bulkAction, hindexable, transformProperty, hi, hne, Ne.symm hid]
      · simp [bulkAction, hindexable, transformProperty, hi, hne]
  rw [lastAction, bulkActions, ← List.filterMap_reverse, List.find?_filterMap]
  simp only [hany]
  rw [← lastRecord, Option.map_eq_bind]
  refine Option.bind_congr fun r hr => ?_
  obtain ⟨-, hindexable, hresolve⟩ := lastRecord_some hr
  simp [bulkAction, hindexable, transformProperty, hresolve, hid]

/-- There is no action on an empty `_id`. -/
theorem lastAction_empty (indexedAt : ℕ) (transformedAt : ℕ → ℕ) (documents : List (SourceDoc β)) :
    lastAction (bulkActions flatten indexedAt transformedAt documents) "" = none := by
  by_contra hne
  obtain ⟨a, ha⟩ := Option.ne_none_iff_exists'.1 hne
  obtain ⟨hmem, hid⟩ := lastAction_some ha
  obtain ⟨n, doc, -, hdoc⟩ := mem_bulkActions.1 hmem
  simp only [bulkAction] at hdoc
  split_ifs at hdoc with _ hempty
  exact hempty ((congrArg EsDoc.id (Option.some.inj hdoc)).trans hid)

end Bulk

end Search
end TopChoice
