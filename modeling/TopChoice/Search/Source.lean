/-
# The documents search-svc reads and the documents it indexes

`apps/search-svc/app/db/mongo.py`: the identifiers a listing may be looked up
by, and the Mongo query for one (`identifier_query`).
`apps/search-svc/app/services/transformer.py`: the Elasticsearch `_id` of a
document (`resolve_document_id`), what may be indexed (`is_indexable`), and
`transform_property`.

A document is read as a mapping.  The keys that identify it or take it out of
the index are fields of `SourceDoc`; the others are its `body`.  What
`transform_property` makes of them besides `id` and `indexedAt` is one value,
computed by a function `flatten` of the document and the reference time, which
is arbitrary throughout.

api-core writes `propertyId`, an `ObjectId` under `_id`, and neither `id` nor
`uuid` nor `mongoId` (`ApiDoc`); the seed records carry `id` and `mongoId`.
-/

import Mathlib.Data.List.Nodup
import TopChoice.Common.Text
import TopChoice.Listing.Property

namespace TopChoice
namespace Search

open Listing (Date ObjectId isLowerHexDigit)

/-! ### Identifiers -/

/-- `str.isspace`, of one character. -/
def isSpace (c : Char) : Bool :=
  (9 ≤ c.toNat && c.toNat ≤ 13) || (28 ≤ c.toNat && c.toNat ≤ 32) ||
    (0x2000 ≤ c.toNat && c.toNat ≤ 0x200A) ||
    c.toNat ∈ [0x85, 0xA0, 0x1680, 0x2028, 0x2029, 0x202F, 0x205F, 0x3000]

/-- `str.strip`. -/
def strip (s : String) : String :=
  String.ofList ((s.toList.dropWhile isSpace).rdropWhile isSpace)

/-- A hexadecimal digit of either case. -/
def isHexDigit (c : Char) : Bool :=
  c.isDigit || ('a' ≤ c && c ≤ 'f') || ('A' ≤ c && c ≤ 'F')

/-- The dashes of a UUID; an `x` stands for a hexadecimal digit. -/
def uuidTemplate : String := "xxxxxxxx-xxxx-xxxx-xxxx-xxxxxxxxxxxx"

/-- `is_uuid_like`. -/
def isUuidLike (value : String) : Bool :=
  value.toList.length = 36 &&
    (value.toList.zip uuidTemplate.toList).all fun p =>
      if p.2 = '-' then p.1 = '-' else isHexDigit p.1

/-- `to_object_id`: the `ObjectId` of 24 hexadecimal digits of either case. -/
def toObjectId (value : String) : Option ObjectId :=
  let hex := String.ofList (value.toList.map Char.toLower)
  if h : hex.toList.length = 24 ∧ hex.toList.all isLowerHexDigit = true then
    some ⟨hex, h.1, h.2⟩
  else none

/-- A Mongo `_id`. -/
inductive MongoId where
  | objectId (o : ObjectId)
  | string (s : String)
  deriving DecidableEq, Repr

/-- `str(doc["_id"])`. -/
def MongoId.toString : MongoId → String
  | .objectId o => o.hex
  | .string s => s

/-! ### Documents -/

/-- A document of the collection `properties` or a record of the seed corpus. -/
structure SourceDoc (β : Type) where
  id : Option String
  propertyId : Option String
  uuid : Option String
  _id : Option MongoId
  mongoId : Option String
  slug : Option String
  deletedAt : Option Date
  body : β
  deriving DecidableEq

/-- `_clean_text`. -/
def cleanText : Option String → Option String
  | none => none
  | some value => if strip value = "" then none else some (strip value)

/-- An Elasticsearch document. -/
structure EsDoc (φ : Type) where
  id : String
  indexedAt : ℕ
  fields : φ
  deriving DecidableEq

section Transformer

variable {β φ : Type}

/-- `resolve_document_id`. -/
def resolveDocumentId (doc : SourceDoc β) : Option String :=
  (cleanText doc.id).or <| (cleanText doc.propertyId).or <| (cleanText doc.uuid).or <|
    doc._id.map MongoId.toString

/-- `is_indexable`: false for soft-deleted or id-less documents. -/
def isIndexable (doc : SourceDoc β) : Bool :=
  doc.deletedAt.isNone && (resolveDocumentId doc).isSome

/-- `transform_property`, called without a reference time: `now` is the time of
the call. -/
def transformProperty (flatten : SourceDoc β → ℕ → φ) (doc : SourceDoc β)
    (indexedAt : Option ℕ) (now : ℕ) : EsDoc φ where
  id := (resolveDocumentId doc).getD ""
  indexedAt := indexedAt.getD now
  fields := flatten doc now

/-! ### Queries -/

/-- `live_filter`. -/
def liveFilter (doc : SourceDoc β) : Bool := doc.deletedAt.isNone

/-- One alternative of `identifier_query`. -/
inductive Clause where
  | id (s : String)
  | slug (s : String)
  | _id (m : MongoId)
  | mongoId (s : String)
  deriving DecidableEq, Repr

/-- The document has the value the clause asks for. -/
def Clause.selects : Clause → SourceDoc β → Bool
  | .id s, doc => doc.id = some s
  | .slug s, doc => doc.slug = some s
  | ._id m, doc => doc._id = some m
  | .mongoId s, doc => doc.mongoId = some s

/-- The `$or` of `identifier_query`. -/
def identifierQuery (identifier : String) : List Clause :=
  let identifier := strip identifier
  [.id identifier, .slug identifier] ++
    match toObjectId identifier with
    | some objectId => [._id (.objectId objectId), .mongoId identifier]
    | none => [._id (.string identifier)]

/-- The document matches the query. -/
def selects (query : List Clause) (doc : SourceDoc β) : Bool := query.any fun c => c.selects doc

end Transformer

/-! ### Documents written by api-core -/

/-- A listing document as api-core writes it. -/
structure ApiDoc (β : Type) where
  propertyId : String
  isUuid : isUuidLike propertyId = true
  _id : ObjectId
  slug : String
  deletedAt : Option Date
  body : β
  deriving DecidableEq

/-- The document as search-svc reads it. -/
def ApiDoc.toSource {β : Type} (doc : ApiDoc β) : SourceDoc β where
  id := none
  propertyId := some doc.propertyId
  uuid := none
  _id := some (.objectId doc._id)
  mongoId := none
  slug := some doc.slug
  deletedAt := doc.deletedAt
  body := doc.body

theorem ApiDoc.propertyId_ne_empty {β : Type} (doc : ApiDoc β) : doc.propertyId ≠ "" := by
  intro h
  have huuid := doc.isUuid
  rw [h] at huuid
  exact absurd huuid (by decide)

/-- The collection `properties`, with two of its unique indexes. -/
structure Collection (β : Type) where
  docs : List (ApiDoc β)
  unique_propertyId : (docs.map ApiDoc.propertyId).Nodup
  unique_slug : (docs.map ApiDoc.slug).Nodup

namespace Collection

variable {β : Type}

/-- The collection as search-svc reads it. -/
def sources (coll : Collection β) : List (SourceDoc β) := coll.docs.map ApiDoc.toSource

/-- The live listings. -/
def live (coll : Collection β) : List (ApiDoc β) := coll.docs.filter fun d => d.deletedAt.isNone

/-- A slug belongs to one listing. -/
theorem eq_of_slug_eq (coll : Collection β) {d e : ApiDoc β} (hd : d ∈ coll.docs)
    (he : e ∈ coll.docs) (h : d.slug = e.slug) : d = e :=
  List.inj_on_of_nodup_map coll.unique_slug hd he h

/-- A UUID belongs to one listing. -/
theorem eq_of_propertyId_eq (coll : Collection β) {d e : ApiDoc β} (hd : d ∈ coll.docs)
    (he : e ∈ coll.docs) (h : d.propertyId = e.propertyId) : d = e :=
  List.inj_on_of_nodup_map coll.unique_propertyId hd he h

end Collection

/-- A document of `properties` with a UUID, as `PropertiesService` creates it. -/
def ofProperty (doc : Listing.Property) (h : isUuidLike doc.propertyId = true) :
    ApiDoc Listing.Property :=
  ⟨doc.propertyId, h, doc._id, doc.slug, doc.deletedAt, doc⟩

/-! ### Texts without white space -/

/-- A printing character of ASCII is no white space. -/
theorem isSpace_of_printing {c : Char} (h : 33 ≤ c.toNat ∧ c.toNat < 127) : isSpace c = false := by
  simp only [isSpace, List.mem_cons, List.not_mem_nil, or_false, Bool.or_eq_false_iff,
    Bool.and_eq_false_iff, decide_eq_false_iff_not]
  omega

/-- A text without white space is clean. -/
theorem cleanText_eq_self {value : String} (hne : value ≠ "")
    (h : ∀ c ∈ value.toList, isSpace c = false) : cleanText (some value) = some value := by
  have hstrip : strip value = value := stripped_eq_self h
  simp [cleanText, hstrip, hne]

/-! ### What a UUID identifies -/

/-- A character of a UUID. -/
theorem isHexDigit_of_mem_uuid {value : String} (h : isUuidLike value = true) {c : Char}
    (hc : c ∈ value.toList) : isHexDigit c = true ∨ c = '-' := by
  rw [isUuidLike, Bool.and_eq_true, decide_eq_true_eq] at h
  obtain ⟨d, -, hfits⟩ := exists_fits (h.1.trans (by decide)) h.2 hc
  split_ifs at hfits
  · exact Or.inr (of_decide_eq_true hfits)
  · exact Or.inl hfits

/-- The characters of a UUID are no white space. -/
theorem isSpace_eq_false {c : Char} (h : isHexDigit c = true ∨ c = '-') : isSpace c = false := by
  refine isSpace_of_printing ?_
  rcases h with h | rfl
  · simp only [isHexDigit, Char.isDigit, Bool.or_eq_true, Bool.and_eq_true, decide_eq_true_eq,
      Char.le_def, UInt32.le_iff_toNat_le] at h
    rcases h with (h | h) | h
    · change 48 ≤ c.toNat ∧ c.toNat ≤ 57 at h
      omega
    · change 97 ≤ c.toNat ∧ c.toNat ≤ 102 at h
      omega
    · change 65 ≤ c.toNat ∧ c.toNat ≤ 70 at h
      omega
  · decide

/-- A UUID has no white space to strip. -/
theorem strip_uuid {value : String} (h : isUuidLike value = true) : strip value = value :=
  stripped_eq_self fun _ hc => isSpace_eq_false (isHexDigit_of_mem_uuid h hc)

/-- A UUID is no `ObjectId`: it is twelve characters too long. -/
theorem toObjectId_uuid {value : String} (h : isUuidLike value = true) :
    toObjectId value = none := by
  have hlen : value.toList.length = 36 := by
    rw [isUuidLike, Bool.and_eq_true, decide_eq_true_eq] at h
    exact h.1
  rw [toObjectId]
  refine dif_neg fun ⟨h24, _⟩ => ?_
  rw [String.toList_ofList, List.length_map, hlen] at h24
  exact absurd h24 (by decide)

/-- The query for a UUID. -/
theorem identifierQuery_uuid {value : String} (h : isUuidLike value = true) :
    identifierQuery value = [.id value, .slug value, ._id (.string value)] := by
  simp [identifierQuery, strip_uuid h, toObjectId_uuid h]

theorem cleanText_uuid {value : String} (h : isUuidLike value = true) :
    cleanText (some value) = some value := by
  refine cleanText_eq_self ?_ fun c hc => isSpace_eq_false (isHexDigit_of_mem_uuid h hc)
  rintro rfl
  exact absurd h (by decide)

section ApiDoc

variable {β : Type} (doc : ApiDoc β)

/-- The Elasticsearch `_id` of a listing is its UUID. -/
@[simp] theorem resolveDocumentId_toSource :
    resolveDocumentId doc.toSource = some doc.propertyId := by
  have hid : cleanText doc.toSource.propertyId = some doc.propertyId := cleanText_uuid doc.isUuid
  rw [resolveDocumentId, hid]
  rfl

@[simp] theorem isIndexable_toSource : isIndexable doc.toSource = doc.deletedAt.isNone := by
  rw [isIndexable, resolveDocumentId_toSource]
  exact Bool.and_true _

@[simp] theorem liveFilter_toSource : liveFilter doc.toSource = doc.deletedAt.isNone := rfl

/-- **A UUID selects by slug only.**  api-core writes no `id`, and its `_id` is
an `ObjectId`, so of the clauses for a UUID only the one on `slug` can hold. -/
theorem selects_uuid {value : String} (h : isUuidLike value = true) :
    selects (identifierQuery value) doc.toSource = decide (doc.slug = value) := by
  simp [identifierQuery_uuid h, selects, Clause.selects, ApiDoc.toSource]

end ApiDoc

end Search
end TopChoice
