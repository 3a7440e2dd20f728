/-
# A rebuild among the hooks

A `full_reindex` runs in the background while api-core goes on writing listings,
each write followed by its hook.  A step of the machine here is one request, or
one reading of the clock, of the rebuild or of one hook, so its runs are all the
interleavings of one rebuild with any number of hooks.

The rebuild streams the collection with a cursor.  A document that was there when
the cursor was opened is passed once, one inserted later at most once; it is
passed as it is at that moment, and its action is sent some time later, the
actions in the order they were read.  Where a chunk ends is left open.

`ensure_index`, `create_index` and `swap_alias` look before they write and are one
step each: what they look at only changes in between when another request fails.
-/

import TopChoice.Lib.Machine
import TopChoice.Search.HookReach

namespace TopChoice
namespace Search

open Listing (Date)

variable {β φ : Type}

/-! ### Writes to the collection -/

/-- The document with what is given set. -/
def ApiDoc.set (slug : Option String) (body : β → β) (deletedAt : Option Date) (doc : ApiDoc β) :
    ApiDoc β :=
  { doc with
    slug := slug.getD doc.slug
    body := body doc.body
    deletedAt := deletedAt.or doc.deletedAt }

namespace Collection

variable (coll : Collection β)

/-- The document of a listing. -/
def find (propertyId : String) : Option (ApiDoc β) :=
  coll.docs.find? fun d => d.propertyId = propertyId

/-- The document of a listing, when it is live. -/
def current (propertyId : String) : Option (ApiDoc β) :=
  (coll.find propertyId).filter fun d => d.deletedAt.isNone

/-- `insertOne`; refused when the UUID or the slug is taken. -/
def insertOne (doc : ApiDoc β) : Option (Collection β) :=
  if h : doc.propertyId ∉ coll.docs.map ApiDoc.propertyId ∧
      doc.slug ∉ coll.docs.map ApiDoc.slug then
    some {
      docs := coll.docs.concat doc
      unique_propertyId := by
        rw [List.map_concat]
        exact coll.unique_propertyId.concat h.1
      unique_slug := by
        rw [List.map_concat]
        exact coll.unique_slug.concat h.2 }
  else none

/-- `findOneAndUpdate` of a listing; refused when the slug is taken. -/
def updateOne (propertyId : String) (slug : Option String) (body : β → β)
    (deletedAt : Option Date) : Option (Collection β) :=
  let docs := coll.docs.map fun d =>
    if d.propertyId = propertyId then d.set slug body deletedAt else d
  if h : (docs.map ApiDoc.slug).Nodup then
    some {
      docs
      unique_propertyId := by
        have hid : ApiDoc.propertyId ∘ (fun d : ApiDoc β =>
            if d.propertyId = propertyId then d.set slug body deletedAt else d) =
              ApiDoc.propertyId := by
          funext d
          simp only [Function.comp]
          split_ifs <;> rfl
        rw [List.map_map, hid]
        exact coll.unique_propertyId
      unique_slug := h }
  else none

end Collection

/-- What api-core writes to a listing before it calls the hook. -/
inductive MongoWrite (β : Type) where
  | create (doc : ApiDoc β)
  | update (propertyId : String) (slug : Option String) (body : β → β)
  | softDelete (propertyId : String) (deletedAt : Date)

namespace MongoWrite

/-- The listing that is written. -/
def propertyId : MongoWrite β → String
  | create doc => doc.propertyId
  | update propertyId _ _ => propertyId
  | softDelete propertyId _ => propertyId

/-- The write; `none` when it fails. -/
def exec (coll : Collection β) : MongoWrite β → Option (Collection β)
  | create doc => coll.insertOne { doc with deletedAt := none }
  | update propertyId slug body =>
      if (coll.find propertyId).isSome then coll.updateOne propertyId slug body none else none
  | softDelete propertyId deletedAt =>
      if (coll.current propertyId).isSome then coll.updateOne propertyId none id (some deletedAt)
      else none

end MongoWrite

/-! ### The system -/

/-- What a deployment and a request for a rebuild fix: the settings, how a
document is flattened, the seed corpus, and the options of the request. -/
structure Setup (β φ : Type) where
  cfg : Settings
  flatten : SourceDoc β → ℕ → φ
  seed : Option (List (SourceDoc β))
  source : Source
  zeroDowntime : Bool
  prune : Bool

/-- Mongo, Elasticsearch and the clock. -/
structure World (β φ : Type) where
  properties : Collection β
  es : Cluster φ
  now : ℕ

/-- Where an api-core write and its hook are. -/
inductive HookPc (β φ : Type) where
  | write (m : MongoWrite β)
  -- index_one
  | fetch (identifier : String)
  | ensure (identifier : String) (document : SourceDoc β)
  | writeIndex (identifier : String) (document : SourceDoc β)
  | transform (identifier : String) (document : SourceDoc β) (indexName : String)
  | index (identifier : String) (indexName : String) (esDoc : EsDoc φ)
  -- delete_one
  | resolveDelete (identifier : String)
  | delete (identifier : String) (indexName : String)
  | returned

/-- The documents the rebuild is still to read: the listings the cursor has not
passed since it was opened, or the rest of the seed corpus. -/
inductive Cursor (β : Type) where
  | mongo (pending : List String)
  | seed (rest : List (SourceDoc β))

/-- Where `_populate` is in its bulk loop: the index it fills, the stamp, the
cursor, the listings passed and the documents read so far, the actions not sent
yet, and how many were. -/
structure Fill (β φ : Type) where
  indexName : String
  indexedAt : ℕ
  cursor : Cursor β
  passed : List String
  read : List (SourceDoc β)
  queue : List (EsDoc φ)
  indexed : ℕ

/-- `started_at` and `resolved_source` of a run. -/
structure RunStart where
  startedAt : ℕ
  source : Source

/-- Where the rebuild is. -/
inductive RebuildPc (β φ : Type) where
  | start
  | resolveSource (startedAt : ℕ)
  | ensure (run : RunStart)
  | writeIndex (run : RunStart)
  -- zero_downtime_reindex
  | resolveAlias (run : RunStart)
  | deleteStaleTarget (run : RunStart) (targetIndex : String)
  | createTarget (run : RunStart) (targetIndex : String)
  -- _populate
  | populate (run : RunStart) (indexName : String)
  | openCursor (run : RunStart) (indexName : String) (indexedAt : ℕ)
  | bulk (run : RunStart) (fill : Fill β φ)
  | prune (startedAt : ℕ) (indexName : String)
  -- zero_downtime_reindex
  | swap (run : RunStart) (fill : Fill β φ)
  | dropOld (detached : List String)
  | returned

/-- The hook is over. -/
def HookPc.isOver : HookPc β φ → Bool
  | returned => true
  | _ => false

/-- The rebuild is over. -/
def RebuildPc.isOver : RebuildPc β φ → Bool
  | returned => true
  | _ => false

theorem HookPc.eq_returned {p : HookPc β φ} (h : p.isOver = true) : p = returned := by
  cases p <;> first | rfl | cases h

theorem RebuildPc.eq_returned {pc : RebuildPc β φ} (h : pc.isOver = true) : pc = returned := by
  cases pc <;> first | rfl | cases h

/-! ### Steps of a hook -/

/-- The hook api-core calls after a write that went through. -/
def MongoWrite.hook : MongoWrite β → HookPc β φ
  | create doc => .fetch doc.propertyId
  | update propertyId _ _ => .fetch propertyId
  | softDelete propertyId _ => .resolveDelete propertyId

section Steps

variable (c : Setup β φ)

/-- One step of a write and its hook; `answers` says whether a lookup in Mongo
answers. -/
def HookPc.next (w : World β φ) (answers : Bool) : HookPc β φ → Option (World β φ × HookPc β φ)
  | write m =>
      match m.exec w.properties with
      | none => some (w, returned)
      | some properties => some ({ w with properties }, m.hook)
  | fetch identifier =>
      match fetchSourceDocument c.cfg c.seed (lookup answers w.properties) identifier with
      | none => some (w, returned)
      | some document =>
          some (w, if isIndexable document then ensure identifier document
            else resolveDelete identifier)
  | ensure identifier document =>
      (ensureIndex c.cfg w.es).map fun es => ({ w with es }, writeIndex identifier document)
  | writeIndex identifier document =>
      some (w, transform identifier document (Search.writeIndex c.cfg w.es))
  | transform identifier document indexName =>
      some (w, index identifier indexName (transformProperty c.flatten document none w.now))
  | index _ indexName esDoc => some ({ w with es := w.es.index indexName esDoc.id esDoc }, returned)
  | resolveDelete identifier => some (w, delete identifier (Search.writeIndex c.cfg w.es))
  | delete identifier indexName =>
      some ({ w with es := (w.es.delete indexName identifier).2 }, returned)
  | returned => none

/-! ### Steps of the rebuild -/

namespace Fill

/-- A document the cursor yields, made into an action. -/
def take (now : ℕ) (doc : SourceDoc β) (fill : Fill β φ) : Fill β φ :=
  match bulkAction c.flatten fill.indexedAt now doc with
  | none => fill
  | some a =>
      { fill with
        passed := a.id :: fill.passed
        read := fill.read ++ [doc]
        queue := fill.queue ++ [a] }

/-- The cursor passes the document of a listing, and yields it when it is live. -/
def pass (now : ℕ) (d : ApiDoc β) (pending : List String) (fill : Fill β φ) : Fill β φ :=
  let fill := { fill with cursor := .mongo (pending.erase d.propertyId) }
  if liveFilter d.toSource then fill.take c now d.toSource
  else { fill with passed := d.propertyId :: fill.passed }

/-- The next document, which for Mongo is that of the listing. -/
def readNext (coll : Collection β) (now : ℕ) (propertyId : String) (fill : Fill β φ) :
    Option (Fill β φ) :=
  match fill.cursor with
  | .mongo pending =>
      if propertyId ∈ fill.passed then none
      else (coll.find propertyId).map fun d => fill.pass c now d pending
  | .seed [] => none
  | .seed (doc :: rest) => some ({ fill with cursor := .seed rest }.take c now doc)

/-- Everything was read and sent. -/
def isDone (fill : Fill β φ) : Bool :=
  fill.queue.isEmpty && match fill.cursor with
    | .mongo pending => pending.isEmpty
    | .seed rest => rest.isEmpty

end Fill

/-- The cursor of a source. -/
def openCursor (coll : Collection β) : Source → Cursor β
  | .seed => .seed (c.seed.getD [])
  | _ => .mongo (coll.docs.map ApiDoc.propertyId)

namespace RebuildPc

/-- Where a run goes on once its bulk loop is over. -/
def afterFill (run : RunStart) (fill : Fill β φ) : RebuildPc β φ :=
  if c.zeroDowntime then swap run fill
  else if c.prune && fill.indexed > 0 then prune run.startedAt fill.indexName
  else returned

/-- One step of the rebuild outside its bulk loop; `answers` says whether the
count of the listings answers. -/
def next (w : World β φ) (answers : Bool) : RebuildPc β φ → Option (World β φ × RebuildPc β φ)
  | start => some (w, resolveSource w.now)
  | resolveSource startedAt =>
      some (w, ensure ⟨startedAt, Search.resolveSource c.cfg c.seed
        ((lookup answers w.properties).getD []) c.source⟩)
  | ensure run =>
      (ensureIndex c.cfg w.es).map fun es =>
        ({ w with es }, if c.zeroDowntime then resolveAlias run else writeIndex run)
  | writeIndex run => some (w, populate run (Search.writeIndex c.cfg w.es))
  | resolveAlias run =>
      (ensureAlias c.cfg w.es).map fun es =>
        ({ w with es }, deleteStaleTarget run (nextVersionName (Search.writeIndex c.cfg es)))
  | deleteStaleTarget run targetIndex =>
      (Search.deleteStaleTarget c.cfg targetIndex w.es).map fun es =>
        ({ w with es }, createTarget run targetIndex)
  | createTarget run targetIndex =>
      (createIndex c.cfg targetIndex false w.es).map fun es =>
        ({ w with es }, populate run targetIndex)
  | populate run indexName => some (w, openCursor run indexName w.now)
  | openCursor run indexName indexedAt =>
      some (w, bulk run
        ⟨indexName, indexedAt, Search.openCursor c w.properties run.source, [], [], [], 0⟩)
  | bulk run fill => if fill.isDone then some (w, afterFill c run fill) else none
  | prune startedAt indexName =>
      some ({ w with es := pruneStale indexName startedAt w.es }, returned)
  | swap _ fill =>
      (swapAlias c.cfg fill.indexName w.es).map fun r => ({ w with es := r.2 }, dropOld r.1)
  | dropOld [] => some (w, returned)
  | dropOld (old :: detached) =>
      (w.es.deleteIndex c.cfg old).map fun es => ({ w with es }, dropOld detached)
  | returned => none

/-- The bulk loop reads a document. -/
def read (w : World β φ) (propertyId : String) : RebuildPc β φ → Option (RebuildPc β φ)
  | bulk run fill => (fill.readNext c w.properties w.now propertyId).map (bulk run)
  | _ => none

/-- Elasticsearch executes the next action. -/
def flush (w : World β φ) : RebuildPc β φ → Option (World β φ × RebuildPc β φ)
  | bulk run fill =>
      match fill.queue with
      | [] => none
      | a :: queue =>
          some ({ w with es := w.es.index fill.indexName a.id a },
            bulk run { fill with queue, indexed := fill.indexed + 1 })
  | _ => none

end RebuildPc

/-! ### The machine -/

/-- A rebuild among hooks, one for each `k : κ`. -/
structure Rebuilding (κ β φ : Type) where
  world : World β φ
  rebuild : RebuildPc β φ
  hooks : κ → HookPc β φ

/-- Who takes the next step. -/
inductive RebuildLabel (κ : Type) where
  | hook (k : κ) (answers : Bool)
  | rebuild (answers : Bool)
  | read (propertyId : String)
  | flush
  | tick

end Steps

/-! ### What a lookup finds after a write -/

namespace Collection

variable {coll coll' : Collection β} {d doc : ApiDoc β} {propertyId : String}

theorem find_some (h : coll.find propertyId = some d) : d ∈ coll.docs ∧ d.propertyId = propertyId :=
  ⟨List.mem_of_find?_eq_some h, by simpa using List.find?_some h⟩

/-- A document is found under its UUID. -/
theorem find_of_mem (h : d ∈ coll.docs) : coll.find d.propertyId = some d := by
  have hsome : (coll.find d.propertyId).isSome = true :=
    List.find?_isSome.2 ⟨d, h, decide_eq_true rfl⟩
  obtain ⟨e, he⟩ := Option.isSome_iff_exists.1 hsome
  obtain ⟨hmem, hid⟩ := find_some he
  rw [he, coll.eq_of_propertyId_eq hmem h hid]

theorem current_eq_some :
    coll.current propertyId = some d ↔ coll.find propertyId = some d ∧ d.deletedAt = none := by
  simp [current, Option.filter_eq_some_iff]

theorem current_some_propertyId (h : coll.current propertyId = some d) :
    d.propertyId = propertyId :=
  (find_some (current_eq_some.1 h).1).2

/-- The live listings are the current documents. -/
theorem mem_live : d ∈ coll.live ↔ coll.current d.propertyId = some d := by
  rw [current_eq_some, live, List.mem_filter, Option.isNone_iff_eq_none]
  exact and_congr_left fun _ => ⟨find_of_mem, fun h => (find_some h).1⟩

/-- An inserted document is found, and no other lookup changes. -/
theorem find_insertOne (h : coll.insertOne doc = some coll') :
    coll.find doc.propertyId = none ∧
      ∀ id, id ≠ doc.propertyId → coll'.find id = coll.find id := by
  unfold insertOne at h
  split_ifs at h with hc
  obtain rfl := Option.some.inj h
  refine ⟨List.find?_eq_none.2 fun e he heq => hc.1 ?_, fun id hid => ?_⟩
  · exact List.mem_map.2 ⟨e, he, by simpa using heq⟩
  · simp [find, List.concat_eq_append, List.find?_append, Ne.symm hid]

/-- An update rewrites what the lookup of its listing finds. -/
theorem find_updateOne {slug : Option String} {body : β → β} {deletedAt : Option Date}
    (h : coll.updateOne propertyId slug body deletedAt = some coll') (id : String) :
    coll'.find id = if id = propertyId then (coll.find id).map (ApiDoc.set slug body deletedAt)
      else coll.find id := by
  simp only [updateOne] at h
  split_ifs at h with hc
  obtain rfl := Option.some.inj h
  have hpred : (fun d : ApiDoc β => decide (d.propertyId = id)) ∘ (fun d =>
      if d.propertyId = propertyId then d.set slug body deletedAt else d) =
        fun d => decide (d.propertyId = id) := by
    funext d
    simp only [Function.comp]
    split_ifs <;> rfl
  rw [find, List.find?_map, hpred, ← find]
  by_cases hid : id = propertyId
  · rw [if_pos hid]
    refine Option.map_congr fun d hd => ?_
    rw [if_pos ((find_some hd).2.trans hid)]
  · rw [if_neg hid]
    refine (Option.map_congr fun d hd => ?_).trans Option.map_id'
    rw [if_neg ((find_some hd).2.symm ▸ hid)]

/-- A listing that was deleted stays so when it is updated. -/
theorem current_updateOne {slug : Option String} {body : β → β} {deletedAt : Option Date}
    (h : coll.updateOne propertyId slug body deletedAt = some coll') {id : String}
    (hsome : (coll.find id).isSome = true) (hnone : coll.current id = none) :
    (coll'.find id).isSome = true ∧ coll'.current id = none := by
  have hfind := find_updateOne h id
  obtain ⟨d, hd⟩ := Option.isSome_iff_exists.1 hsome
  by_cases hid : id = propertyId
  · have hdel : d.deletedAt ≠ none := fun hdel => by
      rw [current_eq_some.2 ⟨hd, hdel⟩] at hnone
      cases hnone
    obtain ⟨date, hdate⟩ := Option.ne_none_iff_exists'.1 hdel
    rw [if_pos hid, hd] at hfind
    refine ⟨by rw [hfind]; rfl, ?_⟩
    rw [current, hfind]
    cases deletedAt <;> simp [ApiDoc.set, hdate]
  · rw [if_neg hid] at hfind
    exact ⟨by rw [hfind]; exact hsome, by rw [current, hfind]; exact hnone⟩

end Collection

/-- **What a write leaves alone:** the other listings, and that a listing is
deleted. -/
theorem MongoWrite.exec_spec {m : MongoWrite β} {coll coll' : Collection β}
    (h : m.exec coll = some coll') :
    (∀ id, id ≠ m.propertyId → coll'.find id = coll.find id) ∧
      ∀ id, (coll.find id).isSome = true → coll.current id = none →
        (coll'.find id).isSome = true ∧ coll'.current id = none := by
  cases m with
  | create doc =>
      obtain ⟨hnone, hfind⟩ := Collection.find_insertOne h
      refine ⟨hfind, fun id hsome hcur => ?_⟩
      have hid : id ≠ doc.propertyId := by
        rintro rfl
        rw [hnone] at hsome
        cases hsome
      have := hfind id hid
      exact ⟨by rw [this]; exact hsome, by rw [Collection.current, this]; exact hcur⟩
  | update propertyId slug body =>
      simp only [exec] at h
      split_ifs at h
      exact ⟨fun id hid => (Collection.find_updateOne h id).trans (if_neg hid), fun _ =>
        Collection.current_updateOne h⟩
  | softDelete propertyId deletedAt =>
      simp only [exec] at h
      split_ifs at h
      exact ⟨fun id hid => (Collection.find_updateOne h id).trans (if_neg hid), fun _ =>
        Collection.current_updateOne h⟩

end Search
end TopChoice
