/-
# Which listings the index hook reaches

After a write api-core calls `POST /api/search/index/{propertyId}`.  search-svc
looks the listing up with `identifier_query`, whose clauses for a UUID are on
`id`, `slug` and a string `_id`; api-core stores the UUID in `propertyId`, which
is none of them.  So the hook reaches a listing exactly when its slug is its
UUID (`hookReaches_iff`).  Otherwise it reports the listing missing, or takes a
seed record for it.
-/

import TopChoice.Search.Indexer

namespace TopChoice
namespace Search

variable {β φ : Type} {cfg : Settings} {flatten : SourceDoc β → ℕ → φ} {coll : Collection β}
  {d : ApiDoc β}

/-- What a lookup in Mongo sees: the collection, or nothing when it raises. -/
def lookup (answers : Bool) (coll : Collection β) : Option (List (SourceDoc β)) :=
  if answers then some coll.sources else none

/-- What the hook is for, of one document: the id search-svc resolves and the
UUID api-core sends both select it, and an `index_one` that goes through leaves
in the index what the document is now, whatever the index and the seed corpus
hold, and does not report it missing. -/
structure HookReaches (cfg : Settings) (flatten : SourceDoc β → ℕ → φ) (coll : Collection β)
    (answers : Bool) (d : ApiDoc β) : Prop where
  byResolvedId : ∀ id, resolveDocumentId d.toSource = some id →
    selects (identifierQuery id) d.toSource = true
  byUuid : selects (identifierQuery d.propertyId) d.toSource = true
  indexed : ∀ seed now s result s',
    indexOne cfg flatten seed (lookup answers coll) now d.propertyId s = some (result, s') →
      result ≠ .missing ∧ s'.docs (writeIndex cfg s') d.propertyId =
        if d.deletedAt = none then some (transformProperty flatten d.toSource none now) else none

/-- `find_one` with the UUID of a listing finds the listing with that slug. -/
theorem find_uuid (hd : d ∈ coll.docs) (hslug : d.slug = d.propertyId) :
    coll.sources.find? (selects (identifierQuery d.propertyId)) = some d.toSource := by
  have hfind : coll.docs.find? (fun e => decide (e.slug = d.propertyId)) = some d := by
    obtain ⟨e, he⟩ : ∃ e, coll.docs.find? (fun e => decide (e.slug = d.propertyId)) = some e := by
      rw [← Option.isSome_iff_exists, List.find?_isSome]
      exact ⟨d, hd, decide_eq_true hslug⟩
    have hslug' : e.slug = d.propertyId := by simpa using List.find?_some he
    rw [he, coll.eq_of_slug_eq (List.mem_of_find?_eq_some he) hd (hslug'.trans hslug.symm)]
  have hsel : (selects (identifierQuery d.propertyId) ∘ ApiDoc.toSource : ApiDoc β → Bool) =
      fun e => decide (e.slug = d.propertyId) := by
    funext e
    rw [Function.comp_apply, selects_uuid e d.isUuid]
  rw [Collection.sources, List.find?_map, hsel, hfind]
  rfl

/-- `index_one` of a listing that is found stores what it is now, or takes it
out when it is deleted. -/
theorem indexOne_found (seed : Option (List (SourceDoc β))) (mongo : Option (List (SourceDoc β)))
    (now : ℕ) (s s' : Cluster φ) (result : IndexOneResult φ)
    (hfetch : fetchSourceDocument cfg seed mongo d.propertyId = some d.toSource)
    (h : indexOne cfg flatten seed mongo now d.propertyId s = some (result, s')) :
    result ≠ .missing ∧ s'.docs (writeIndex cfg s') d.propertyId =
      if d.deletedAt = none then some (transformProperty flatten d.toSource none now) else none := by
  simp only [indexOne, hfetch, isIndexable_toSource] at h
  cases hdel : d.deletedAt with
  | some deletedAt =>
      obtain ⟨rfl, rfl⟩ : _ ∧ _ := Prod.mk.inj (Option.some.inj (by simpa [hdel] using h))
      refine ⟨(by rintro ⟨⟩), ?_⟩
      simp [deleteOne, writeIndex, resolveAlias, Cluster.docs_delete]
  | none =>
      simp only [hdel, Option.isNone_none, Bool.not_true, Bool.false_eq_true, if_false] at h
      obtain ⟨s₀, -, he⟩ := Option.bind_eq_some_iff.1 h
      obtain ⟨rfl, rfl⟩ := Prod.mk.inj (Option.some.inj he)
      refine ⟨(by rintro ⟨⟩), ?_⟩
      have hid : (transformProperty flatten d.toSource none now).id = d.propertyId := by
        simp [transformProperty]
      simp [writeIndex, resolveAlias, Cluster.docs_index, hid]

/-- **Which listings the index hook reaches:** those whose slug is their UUID,
while Mongo answers. -/
theorem hookReaches_iff (cfg : Settings) (flatten : SourceDoc β → ℕ → φ) (coll : Collection β)
    (answers : Bool) (d : ApiDoc β) (hd : d ∈ coll.docs) :
    HookReaches cfg flatten coll answers d ↔ answers = true ∧ d.slug = d.propertyId := by
  constructor
  · intro h
    have hslug : d.slug = d.propertyId := by
      have := h.byUuid
      rwa [selects_uuid d d.isUuid, decide_eq_true_eq] at this
    refine ⟨?_, hslug⟩
    -- without Mongo and without a seed corpus the listing is reported missing
    by_contra hanswers
    have hfetch : fetchSourceDocument cfg (none : Option (List (SourceDoc β)))
        (lookup answers coll) d.propertyId = none := by
      simp [fetchSourceDocument, lookup, hanswers]
    refine (h.indexed none 0 ⟨fun _ => none, none⟩ .missing ⟨fun _ => none, none⟩ ?_).1 rfl
    simp [indexOne, hfetch]
  · rintro ⟨rfl, hslug⟩
    have huuid : selects (identifierQuery d.propertyId) d.toSource = true := by
      rw [selects_uuid d d.isUuid, hslug, decide_eq_true rfl]
    refine ⟨fun id hid => ?_, huuid, fun seed now s result s' h => ?_⟩
    · rw [resolveDocumentId_toSource] at hid
      exact Option.some.inj hid ▸ huuid
    · refine indexOne_found seed _ now s s' result ?_ h
      simp [fetchSourceDocument, lookup, find_uuid hd hslug]

theorem isUuid_demoProperty : isUuidLike Listing.demoProperty.propertyId = true := by decide

/-- The demo listing as api-core writes it, under another slug. -/
def demoDoc (slug : String) : ApiDoc Listing.Property :=
  ofProperty { Listing.demoProperty with slug := slug } isUuid_demoProperty

/-- The collection that holds the demo listing alone. -/
def demoCollection (slug : String) : Collection Listing.Property :=
  ⟨[demoDoc slug], List.nodup_singleton _, List.nodup_singleton _⟩

/-- The seed record the demo listing was seeded from, when it was still reserved. -/
def demoSeed : SourceDoc Listing.Property where
  id := some Listing.demoProperty.propertyId
  propertyId := none
  uuid := none
  _id := none
  mongoId := some Listing.demoProperty._id.hex
  slug := some Listing.demoProperty.slug
  deletedAt := none
  body := { Listing.demoProperty with status := .reserved }

/-- An index behind the alias, empty. -/
def emptyCluster (φ : Type) : Cluster φ where
  indices name := if name = "properties_v1" then some fun _ => none else none
  aliasTarget := some "properties_v1"

theorem docs_emptyCluster (name _id : String) : (emptyCluster φ).docs name _id = none := by
  simp only [emptyCluster, Cluster.docs]
  split_ifs <;> rfl

/-- The demo listing with its UUID for a slug is reached. -/
theorem hookReaches_demo :
    HookReaches .default (fun doc _ => doc.body.status)
      (demoCollection Listing.demoProperty.propertyId) true
      (demoDoc Listing.demoProperty.propertyId) :=
  (hookReaches_iff _ _ _ true _ (List.mem_singleton_self _)).2 ⟨rfl, rfl⟩

/-- **The defect.**  The demo listing, under its own slug: its UUID does not
select it, the hook reports it missing, and with the seed corpus at hand the
hook stores the status the listing was seeded with. -/
theorem hook_misses_demo :
    selects (identifierQuery Listing.demoProperty.propertyId)
        (demoDoc Listing.demoProperty.slug).toSource = false ∧
      indexOne .default (fun doc _ => doc.body.status) none
        (lookup true (demoCollection Listing.demoProperty.slug)) 0 Listing.demoProperty.propertyId
        (emptyCluster Listing.PropertyStatus) =
          some (.missing, emptyCluster Listing.PropertyStatus) ∧
      (indexOne .default (fun doc _ => doc.body.status) (some [demoSeed])
        (lookup true (demoCollection Listing.demoProperty.slug)) 0 Listing.demoProperty.propertyId
        (emptyCluster Listing.PropertyStatus)).map
          (fun r => r.2.aliasDocs Listing.demoProperty.propertyId) =
            some (some ⟨Listing.demoProperty.propertyId, 0, .reserved⟩) ∧
      (demoDoc Listing.demoProperty.slug).body.status = .available := by
  refine ⟨by decide, ?_, by decide, rfl⟩
  have hfetch : fetchSourceDocument .default none
      (lookup true (demoCollection Listing.demoProperty.slug))
      Listing.demoProperty.propertyId = none := by decide
  rw [indexOne, hfetch]

end Search
end TopChoice
