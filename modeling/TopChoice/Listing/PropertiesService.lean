/-
# The calls of the listings service

`apps/api-core/src/modules/properties/properties.service.ts` (`findOne`,
`create`, `update`, `remove`) and `syncPropertyCount` of `areas.service.ts`:
whole calls, one after the other, with Mongo and Redis healthy.  Every statement
on Postgres may fail.

A cached listing is the document `JSON.parse` gives back.  The list cache the
writes flush and the index they notify are left out.
-/

import TopChoice.Lib.Memo
import TopChoice.Listing.MirroredWrite
import TopChoice.Listing.PropertyDto

namespace TopChoice
namespace Listing

open Catalog (CatalogStore Area Compound Developer unknownRelation)

/-- What the service reads and writes; `now` is in milliseconds. -/
structure PropertiesStore where
  listings : ListingStore
  catalog : CatalogStore
  cache : Memo String Property
  now : Date
  deriving DecidableEq, Repr

/-- How Postgres answers in the course of a call: the lookups of related rows,
the statement on the row of the listing, the recount of the area. -/
structure PostgresAnswers where
  lookup : Answer := .ok
  row : Answer := .ok
  sync : Answer := .ok
  deriving DecidableEq, Repr

/-- Postgres fails nowhere. -/
def PostgresAnswers.healthy : PostgresAnswers := {}

/-! ### Reads -/

/-- `cacheKeys.property`. -/
def cacheKey (id : String) : String := "cache:prop:" ++ id

/-- `CACHE_TTL.property`, in seconds. -/
def cacheTtl : ℕ := 300

/-- `identifierFilter`: the documents the identifier selects. -/
def identifierFilter (u : Unicode) (idOrSlug : String) (d : Property) : Bool :=
  if isUuid idOrSlug then d.propertyId = idOrSlug
  else if isObjectIdHex idOrSlug then
    d._id.hex.toList = idOrSlug.toList.map Char.toLower
  else d.slug = castSlug u idOrSlug

section Calls

variable (r : Runtime)

/-- `PropertiesService.findOne`. -/
def findOne (idOrSlug : String) (s : PropertiesStore) :
    Except Thrown Property × PropertiesStore :=
  match s.cache.get s.now (cacheKey idOrSlug) with
  | some property => (.ok property, s)
  | none =>
    match Table.findUnique (fun d => identifierFilter r.unicode idOrSlug d && d.deletedAt = none)
        s.listings.properties with
    | none => (.error (propertyNotFound idOrSlug), s)
    | some property =>
      (.ok property,
        { s with
          cache := s.cache.set (cacheKey idOrSlug) property (s.now + cacheTtl * 1000) })

/-! ### What follows a write -/

/-- The keys `invalidate` deletes; an empty slug names none. -/
def invalidatedKeys (propertyId : String) (slug : Option String) : List String :=
  cacheKey propertyId :: ((slug.filter fun slug => slug ≠ "").map cacheKey).toList

/-- `invalidate`. -/
def invalidate (propertyId : String) (slug : Option String) (s : PropertiesStore) :
    PropertiesStore :=
  { s with cache := s.cache.unlink (invalidatedKeys propertyId slug) }

/-- The rows of `property_index` with the area that are not deleted. -/
def livePropertyCount (areaId : String) (rows : List PropertyIndexRow) : ℕ :=
  Table.count (fun r => r.areaId = some areaId && r.deletedAt = none) rows

/-- `AreasService.syncPropertyCount`, its failure swallowed. -/
def syncPropertyCount (pg : Answer) (areaId : String) (s : PropertiesStore) : PropertiesStore :=
  match pg with
  | .error _ => s
  | .ok => { s with
      catalog := { s.catalog with
        areas := Table.updateOne (fun a => a.id = areaId)
          (fun a => { a with
            propertyCount := livePropertyCount areaId s.listings.propertyIndex })
          s.catalog.areas } }

/-- `afterWrite`. -/
def afterWrite (pg : Answer) (propertyId areaId : String) (previousSlug : Option String)
    (s : PropertiesStore) : PropertiesStore :=
  syncPropertyCount pg areaId (invalidate propertyId previousSlug s)

section

variable (pg : Answer) (propertyId areaId : String) (slug : Option String) (s : PropertiesStore)

@[simp] theorem listings_afterWrite :
    (afterWrite pg propertyId areaId slug s).listings = s.listings := by
  cases pg <;> rfl

@[simp] theorem cache_afterWrite :
    (afterWrite pg propertyId areaId slug s).cache =
      s.cache.unlink (invalidatedKeys propertyId slug) := by
  cases pg <;> rfl

@[simp] theorem now_afterWrite : (afterWrite pg propertyId areaId slug s).now = s.now := by
  cases pg <;> rfl

end

/-! ### Writes -/

/-- `prisma.area.findUnique`, with the error for an unknown area. -/
def lookupArea (pg : Answer) (areaId : String) (c : CatalogStore) : Except Thrown Area :=
  match pg with
  | .error m => .error (.driver m)
  | .ok =>
    match c.findArea areaId with
    | none => .error (.app (unknownRelation "Area" areaId "location.areaId" "unknown area"))
    | some area => .ok area

/-- `prisma.compound.findUnique` with the developer its foreign key points at,
and the error for an unknown compound. -/
def lookupCompound (pg : Answer) (compoundId : String) (c : CatalogStore) :
    Except Thrown (Compound × Developer) :=
  match pg with
  | .error m => .error (.driver m)
  | .ok =>
    match (c.findCompound compoundId).bind fun compound =>
        (c.findDeveloper compound.developerId).map fun developer => (compound, developer) with
    | none =>
        .error (.app (unknownRelation "Compound" compoundId "compoundId" "unknown compound"))
    | some found => .ok found

/-- `/^TC-\d+$/`. -/
def isReferenceNo (referenceNo : String) : Bool :=
  let digits := (referenceNo.toList.drop 3)
  referenceNo.toList.take 3 = "TC-".toList && digits ≠ [] && digits.all Char.isDigit

/-- `Number.parseInt` of a text of digits. -/
def parseDigits (digits : List Char) : ℕ :=
  digits.foldl (fun n c => n * 10 + (c.toNat - '0'.toNat)) 0

/-- The last of the reference numbers in the order of the texts; empty when there is none. -/
def latestReferenceNo (s : ListingStore) : String :=
  ((s.properties.map Property.referenceNo).filter isReferenceNo).foldl
    (fun latest referenceNo => if latest < referenceNo then referenceNo else latest) ""

/-- `nextReferenceNo`: one after the last in the order of the texts. -/
def nextReferenceNo (s : ListingStore) : String :=
  let latest := latestReferenceNo s
  let current := if latest = "" then 1000 else parseDigits (latest.toList.drop 3)
  "TC-" ++ (r.nextNumber current).getD "1001"

/-- `PropertiesService.create`; `propertyId` is the `uuidv4()`, `_id` the one the
driver generates. -/
def create (dto : CreatePropertyDto) (propertyId : String) (_id : ObjectId)
    (pg : PostgresAnswers) (s : PropertiesStore) : Except Thrown Property × PropertiesStore :=
  match lookupCompound pg.lookup dto.compoundId s.catalog with
  | .error e => (.error e, s)
  | .ok (compound, developer) =>
    match lookupArea pg.lookup dto.location.areaId s.catalog with
    | .error e => (.error e, s)
    | .ok area =>
      let slug := buildUniqueSlug r.unicode r.timestamp (dto.slug.getD dto.title.en) "property"
        fun candidate => decide (Table.count (fun d => d.slug = candidate) s.listings.properties > 0)
      let data := (dto.document r propertyId _id slug (nextReferenceNo r s.listings) area compound
        developer s.now).cast r.unicode
      match createWithMirror pg.row s.catalog data s.listings with
      | (.error e, listings) => (.error e, { s with listings := listings })
      | (.ok doc, listings) =>
        (.ok doc, afterWrite pg.sync doc.propertyId area.id none { s with listings := listings })

/-- The related rows an update names: the area first, then the compound. -/
def UpdatePropertyDto.related (pg : Answer) (c : CatalogStore) (dto : UpdatePropertyDto) :
    Except Thrown (Option Area × Option (Compound × Developer)) := do
  let area ← dto.location.mapM fun location => lookupArea pg location.areaId c
  let compound ← dto.compoundId.mapM fun compoundId => lookupCompound pg compoundId c
  return (area, compound)

/-- `PropertiesService.update`. -/
def update (id : String) (dto : UpdatePropertyDto) (pg : PostgresAnswers) (s : PropertiesStore) :
    Except Thrown Property × PropertiesStore :=
  match Table.findUnique (fun d => d.propertyId = id && d.deletedAt = none)
      s.listings.properties with
  | none => (.error (propertyNotFound id), s)
  | some existing =>
    let slug := (dto.slug.or (dto.title.map LocalizedText.en)).map fun desired =>
      buildUniqueSlug r.unicode r.timestamp desired "property" fun candidate => decide
        (Table.count (fun d => d.slug = candidate && d.propertyId ≠ id) s.listings.properties > 0)
    match dto.related pg.lookup s.catalog with
    | .error e => (.error e, s)
    | .ok (area, compound) =>
      let changes := (dto.changes r existing slug area compound).cast r.unicode
      match updateWithMirror pg.row s.catalog id changes s.listings with
      | (.error e, listings) => (.error e, { s with listings := listings })
      | (.ok doc, listings) =>
        (.ok doc, afterWrite pg.sync id existing.location.areaId (some existing.slug)
          { s with listings := listings })

/-- `PropertiesService.remove`; what follows its write is what `afterWrite` does. -/
def remove (id : String) (pg : PostgresAnswers) (s : PropertiesStore) :
    Except Thrown Unit × PropertiesStore :=
  match s.listings.findOne id with
  | none => (.error (propertyNotFound id), s)
  | some existing =>
    match softDeleteWithMirror pg.row s.now id s.listings with
    | (.error e, listings) => (.error e, { s with listings := listings })
    | (.ok (), listings) =>
      (.ok (), afterWrite pg.sync id existing.location.areaId (some existing.slug)
        { s with listings := listings })

/-! ### One call after the other -/

/-- A call, with how Postgres answers it, or the passage of time. -/
inductive PropertyCall where
  | findOne (idOrSlug : String)
  | create (dto : CreatePropertyDto) (propertyId : String) (_id : ObjectId) (pg : PostgresAnswers)
  | update (id : String) (dto : UpdatePropertyDto) (pg : PostgresAnswers)
  | remove (id : String) (pg : PostgresAnswers)
  | tick (ms : ℕ)
  deriving DecidableEq, Repr

/-- The store a call leaves behind, whether it returns or throws. -/
def PropertyCall.exec (s : PropertiesStore) : PropertyCall → PropertiesStore
  | .findOne idOrSlug => (Listing.findOne r idOrSlug s).2
  | .create dto propertyId _id pg => (Listing.create r dto propertyId _id pg s).2
  | .update id dto pg => (Listing.update r id dto pg s).2
  | .remove id pg => (Listing.remove id pg s).2
  | .tick ms => { s with now := s.now + ms }

/-- One call after the other. -/
def propertyCalls : Machine PropertiesStore PropertyCall where
  step s call := some (call.exec r s)

end Calls

/-! ### What a call leaves behind -/

section Specs

variable {r : Runtime} {s : PropertiesStore} (pg : PostgresAnswers)

/-- **A `findOne`** returns the cached copy, or throws, or returns a live document
of the collection and caches it. -/
theorem findOne_spec (idOrSlug : String) :
    (∃ d, s.cache.get s.now (cacheKey idOrSlug) = some d ∧ findOne r idOrSlug s = (.ok d, s)) ∨
      findOne r idOrSlug s = (.error (propertyNotFound idOrSlug), s) ∨
      ∃ d ∈ s.listings.properties, d.deletedAt = none ∧
        findOne r idOrSlug s = (.ok d, { s with
          cache := s.cache.set (cacheKey idOrSlug) d (s.now + cacheTtl * 1000) }) := by
  unfold findOne
  split
  · next d hcached => exact Or.inl ⟨d, hcached, rfl⟩
  · split
    · exact Or.inr (Or.inl rfl)
    · next d hfind =>
        obtain ⟨hmem, hp⟩ := Table.findUnique_some hfind
        exact Or.inr (Or.inr ⟨d, hmem, of_decide_eq_true (Bool.and_eq_true_iff.1 hp).2, rfl⟩)

/-- The area looked up is the one asked for. -/
theorem lookupArea_ok {answer : Answer} {areaId : String} {c : CatalogStore} {area : Area}
    (h : lookupArea answer areaId c = .ok area) : area ∈ c.areas ∧ area.id = areaId := by
  unfold lookupArea at h
  split at h
  · cases h
  · split at h
    · cases h
    · next found hfind =>
        obtain rfl := Except.ok.inj h
        exact (Table.findUnique_some hfind).imp_right of_decide_eq_true

/-- The compound looked up and its developer are rows of the catalogue. -/
theorem lookupCompound_ok {answer : Answer} {compoundId : String} {c : CatalogStore}
    {found : Compound × Developer} (h : lookupCompound answer compoundId c = .ok found) :
    found.1 ∈ c.compounds ∧ found.2 ∈ c.developers := by
  unfold lookupCompound at h
  split at h
  · cases h
  · split at h
    · cases h
    · next pair hfind =>
        obtain rfl := Except.ok.inj h
        obtain ⟨compound, hcompound, hfind⟩ := Option.bind_eq_some_iff.1 hfind
        obtain ⟨developer, hdeveloper, rfl⟩ := Option.map_eq_some_iff.1 hfind
        exact ⟨(Table.findUnique_some hcompound).1, (Table.findUnique_some hdeveloper).1⟩

/-- What a sequence of lookups that went through found. -/
theorem ok_of_bind {ε α β : Type} {x : Except ε α} {f : α → Except ε β} {b : β}
    (h : x >>= f = .ok b) : ∃ a, x = .ok a ∧ f a = .ok b := by
  cases x with
  | error e => cases h
  | ok a => exact ⟨a, rfl, h⟩

/-- What an optional lookup that went through found, it looked up. -/
theorem ok_of_mapM {ε α β : Type} {x : Option α} {f : α → Except ε β} {y : Option β}
    (h : x.mapM f = .ok y) :
    x = none ∧ y = none ∨ ∃ a b, x = some a ∧ y = some b ∧ f a = .ok b := by
  cases x with
  | none => exact Or.inl ⟨rfl, (Except.ok.inj h).symm⟩
  | some a =>
      rw [Option.mapM_some] at h
      obtain ⟨b, hb, h⟩ := ok_of_bind (x := f a) (f := fun b => Except.ok (some b)) h
      exact Or.inr ⟨a, b, rfl, (Except.ok.inj h).symm, hb⟩

/-- The two lookups of an update. -/
theorem UpdatePropertyDto.of_related {answer : Answer} {c : CatalogStore}
    {dto : UpdatePropertyDto} {area : Option Area} {compound : Option (Compound × Developer)}
    (h : dto.related answer c = .ok (area, compound)) :
    dto.location.mapM (fun location => lookupArea answer location.areaId c) = .ok area ∧
      dto.compoundId.mapM (fun compoundId => lookupCompound answer compoundId c) =
        .ok compound := by
  unfold UpdatePropertyDto.related at h
  obtain ⟨found, hfound, h⟩ := ok_of_bind h
  obtain ⟨pair, hpair, h⟩ := ok_of_bind h
  obtain ⟨rfl, rfl⟩ := Prod.mk.inj (Except.ok.inj h)
  exact ⟨hfound, hpair⟩

/-- The area an update names is found, when it names one. -/
theorem UpdatePropertyDto.area_of_related {answer : Answer} {c : CatalogStore}
    {dto : UpdatePropertyDto} {area : Option Area} {compound : Option (Compound × Developer)}
    (h : dto.related answer c = .ok (area, compound)) :
    area.map Area.id = dto.location.map LocationDto.areaId := by
  rcases ok_of_mapM (UpdatePropertyDto.of_related h).1 with
    ⟨hlocation, rfl⟩ | ⟨location, a, hlocation, rfl, ha⟩
  · rw [hlocation]
    rfl
  · rw [hlocation]
    exact congrArg some (lookupArea_ok ha).2

/-- The rows an update finds are rows of the catalogue. -/
theorem UpdatePropertyDto.mem_of_related {answer : Answer} {c : CatalogStore}
    {dto : UpdatePropertyDto} {area : Option Area} {compound : Option (Compound × Developer)}
    (h : dto.related answer c = .ok (area, compound)) :
    (∀ a ∈ area, a ∈ c.areas) ∧ ∀ p ∈ compound, p.1 ∈ c.compounds ∧ p.2 ∈ c.developers := by
  obtain ⟨harea, hcompound⟩ := UpdatePropertyDto.of_related h
  constructor
  · rintro a rfl
    rcases ok_of_mapM harea with ⟨-, hnone⟩ | ⟨location, b, -, hsome, hb⟩
    · cases hnone
    · obtain rfl := Option.some.inj hsome
      exact (lookupArea_ok hb).1
  · rintro p rfl
    rcases ok_of_mapM hcompound with ⟨-, hnone⟩ | ⟨compoundId, b, -, hsome, hb⟩
    · cases hnone
    · obtain rfl := Option.some.inj hsome
      exact lookupCompound_ok hb

/-- The document a `create` builds, from rows of the catalogue. -/
def CreatePropertyDto.Builds (r : Runtime) (dto : CreatePropertyDto) (propertyId : String)
    (_id : ObjectId) (s : PropertiesStore) (doc : Property) : Prop :=
  ∃ area ∈ s.catalog.areas, ∃ compound ∈ s.catalog.compounds, ∃ developer ∈ s.catalog.developers,
    ∃ isTaken referenceNo, doc = (dto.document r propertyId _id
      (buildUniqueSlug r.unicode r.timestamp (dto.slug.getD dto.title.en) "property" isTaken)
      referenceNo area compound developer s.now).cast r.unicode

/-- **A `create` that throws has changed nothing**, one that returns has inserted
the document with its row and then done what follows a write. -/
theorem create_spec (hindexed : s.listings.Indexed) (dto : CreatePropertyDto)
    (propertyId : String) (_id : ObjectId) :
    (∃ e, create r dto propertyId _id pg s = (.error e, s)) ∨
      ∃ doc listings, doc.propertyId = propertyId ∧ doc.location.areaId = dto.location.areaId ∧
        dto.Builds r propertyId _id s doc ∧ s.listings.Inserted doc listings ∧
        create r dto propertyId _id pg s =
          (.ok doc, afterWrite pg.sync propertyId dto.location.areaId none
            { s with listings := listings }) := by
  unfold create
  split
  · exact Or.inl ⟨_, rfl⟩
  · next compound developer hcompound =>
    split
    · exact Or.inl ⟨_, rfl⟩
    · next area harea =>
        obtain ⟨hmem, hid⟩ := lookupArea_ok harea
        obtain ⟨hcompound, hdeveloper⟩ := lookupCompound_ok hcompound
        simp only
        split
        · next e listings hmirror =>
            rcases createWithMirror_spec hindexed hmirror with ⟨e', he⟩ | ⟨s', he, -⟩
            · obtain ⟨-, rfl⟩ := Prod.mk.inj he
              exact Or.inl ⟨_, rfl⟩
            · cases (Prod.mk.inj he).1
        · next doc listings hmirror =>
            rcases createWithMirror_spec hindexed hmirror with ⟨e', he⟩ | ⟨s', he, hinserted⟩
            · cases (Prod.mk.inj he).1
            · obtain ⟨hdoc, rfl⟩ := Prod.mk.inj he
              obtain rfl := Except.ok.inj hdoc
              exact Or.inr ⟨_, _, rfl, hid, ⟨area, hmem, compound, hcompound, developer,
                hdeveloper, _, _, rfl⟩, hinserted, by rw [← hid]; rfl⟩

/-- **What an `update` writes**: nothing when it throws, and otherwise the changes it asks for,
the slug among them made of the requested one, or of the title. -/
theorem update_written (hindexed : s.listings.Indexed) (id : String) (dto : UpdatePropertyDto) :
    (∃ e, update r id dto pg s = (.error e, s)) ∨
      ∃ existing row isTaken slug area compound changes listings, existing.deletedAt = none ∧
        dto.related pg.lookup s.catalog = .ok (area, compound) ∧
        slug = ((dto.slug.or (dto.title.map LocalizedText.en)).map fun desired =>
          buildUniqueSlug r.unicode r.timestamp desired "property" isTaken) ∧
        changes = (dto.changes r existing slug area compound).cast r.unicode ∧
        s.listings.Rewritten id changes.set (rewriteRow (mirrorOf (changes.set existing)))
          existing row listings ∧
        update r id dto pg s =
          (.ok (changes.set existing), afterWrite pg.sync id existing.location.areaId
            (some existing.slug) { s with listings := listings }) := by
  unfold update
  split
  · exact Or.inl ⟨_, rfl⟩
  · next existing hfind =>
      obtain ⟨hmem, hlive⟩ := Table.findUnique_some hfind
      simp only [Bool.and_eq_true, decide_eq_true_eq] at hlive
      have hexisting : s.listings.findOne id = some existing := hlive.1 ▸ hindexed.findOne hmem
      simp only
      split
      · exact Or.inl ⟨_, rfl⟩
      · next area compound hrelated =>
          split
          · next e listings hmirror =>
              rcases updateWithMirror_spec hindexed hmirror with ⟨e', he⟩ | ⟨_, _, _, he, -⟩
              · obtain ⟨-, rfl⟩ := Prod.mk.inj he
                exact Or.inl ⟨_, rfl⟩
              · cases (Prod.mk.inj he).1
          · next doc listings hmirror =>
              rcases updateWithMirror_spec hindexed hmirror with
                ⟨e', he⟩ | ⟨before, row, s', he, hrewritten⟩
              · cases (Prod.mk.inj he).1
              · obtain ⟨hdoc, rfl⟩ := Prod.mk.inj he
                obtain rfl := Except.ok.inj hdoc
                obtain rfl := Option.some.inj (hexisting.symm.trans hrewritten.found)
                exact Or.inr ⟨existing, row, _, _, area, compound, _, _, hlive.2, hrelated, rfl,
                  rfl, hrewritten, rfl⟩

/-- **An `update` that throws has changed nothing**, one that returns has rewritten
a live document with its row and then done what follows a write. -/
theorem update_spec (hindexed : s.listings.Indexed) (id : String) (dto : UpdatePropertyDto) :
    (∃ e, update r id dto pg s = (.error e, s)) ∨
      ∃ existing row slug area compound changes listings, existing.deletedAt = none ∧
        dto.related pg.lookup s.catalog = .ok (area, compound) ∧
        (∀ chosen ∈ slug, ∃ desired isTaken,
          chosen = buildUniqueSlug r.unicode r.timestamp desired "property" isTaken) ∧
        changes = (dto.changes r existing slug area compound).cast r.unicode ∧
        s.listings.Rewritten id changes.set (rewriteRow (mirrorOf (changes.set existing)))
          existing row listings ∧
        update r id dto pg s =
          (.ok (changes.set existing), afterWrite pg.sync id existing.location.areaId
            (some existing.slug) { s with listings := listings }) := by
  refine (update_written pg hindexed id dto).imp_right ?_
  rintro ⟨existing, row, isTaken, slug, area, compound, changes, listings, hlive, hrelated, rfl,
    hrest⟩
  refine ⟨existing, row, _, area, compound, changes, listings, hlive, hrelated,
    fun chosen hchosen => ?_, hrest⟩
  obtain ⟨desired, -, rfl⟩ := Option.map_eq_some_iff.1 hchosen
  exact ⟨desired, isTaken, rfl⟩

/-- **A `remove` that throws has changed nothing**, one that returns has marked a
live document and its row and then done what follows a write. -/
theorem remove_spec (hindexed : s.listings.Indexed) (id : String) :
    (∃ e, remove id pg s = (.error e, s)) ∨
      ∃ existing row listings, existing.deletedAt = none ∧
        s.listings.Rewritten id (fun d => { d with deletedAt := some s.now })
          (fun r => { r with deletedAt := some s.now }) existing row listings ∧
        remove id pg s = (.ok (), afterWrite pg.sync id existing.location.areaId
          (some existing.slug) { s with listings := listings }) := by
  unfold remove
  split
  · exact Or.inl ⟨_, rfl⟩
  · next existing hfind =>
      split
      · next e listings hmirror =>
          rcases softDeleteWithMirror_spec hindexed hmirror with ⟨e', he⟩ | ⟨_, _, _, he, -⟩
          · obtain ⟨-, rfl⟩ := Prod.mk.inj he
            exact Or.inl ⟨_, rfl⟩
          · cases (Prod.mk.inj he).1
      · next listings hmirror =>
          rcases softDeleteWithMirror_spec hindexed hmirror with
            ⟨e', he⟩ | ⟨before, row, s', he, hlive, hrewritten⟩
          · cases (Prod.mk.inj he).1
          · obtain ⟨-, rfl⟩ := Prod.mk.inj he
            obtain rfl := Option.some.inj (hfind.symm.trans hrewritten.found)
            exact Or.inr ⟨existing, row, _, hlive, hrewritten, rfl⟩

/-- How a document comes to be what a call leaves of a listing: it was stored before, or the
call has built, rewritten or marked it. -/
inductive PropertyCall.Leaves (r : Runtime) (s : PropertiesStore) (id : String) (d : Property) :
    PropertyCall → Prop
  | stored {call : PropertyCall} (h : s.listings.findOne id = some d) : Leaves r s id d call
  | created {dto : CreatePropertyDto} {_id : ObjectId} {pg : PostgresAnswers}
      (h : dto.Builds r id _id s d) : Leaves r s id d (.create dto id _id pg)
  | updated {dto : UpdatePropertyDto} {pg : PostgresAnswers} {existing : Property}
      {isTaken : String → Bool} {area : Option Area} {compound : Option (Compound × Developer)}
      (hfound : s.listings.findOne id = some existing) (hlive : existing.deletedAt = none)
      (hrelated : dto.related pg.lookup s.catalog = .ok (area, compound))
      (h : d = ((dto.changes r existing
        ((dto.slug.or (dto.title.map LocalizedText.en)).map fun desired =>
          buildUniqueSlug r.unicode r.timestamp desired "property" isTaken)
        area compound).cast r.unicode).set existing) :
      Leaves r s id d (.update id dto pg)
  | removed {pg : PostgresAnswers} {existing : Property}
      (hfound : s.listings.findOne id = some existing)
      (h : d = { existing with deletedAt := some s.now }) : Leaves r s id d (.remove id pg)

/-- **What a call can do to a document.** -/
theorem exec_leaves (hindexed : s.listings.Indexed) (call : PropertyCall) :
    (call.exec r s).listings.Indexed ∧
      ∀ id d, (call.exec r s).listings.findOne id = some d → call.Leaves r s id d := by
  cases call with
  | findOne idOrSlug =>
      rcases findOne_spec (r := r) (s := s) idOrSlug with ⟨d, -, h⟩ | h | ⟨d, -, -, h⟩ <;>
        rw [PropertyCall.exec, h] <;> exact ⟨hindexed, fun _ _ hd => .stored hd⟩
  | create dto propertyId _id pg =>
      rw [PropertyCall.exec]
      rcases create_spec (r := r) pg hindexed dto propertyId _id with
        ⟨e, h⟩ | ⟨doc, listings, hid, -, hbuilds, hinserted, h⟩
      · rw [h]
        exact ⟨hindexed, fun _ _ hd => .stored hd⟩
      · rw [h]
        refine ⟨by simpa using hinserted.indexed, fun id d hd => ?_⟩
        rw [listings_afterWrite, hinserted.findOne] at hd
        split_ifs at hd with hnew
        · obtain rfl := Option.some.inj hd
          obtain rfl := hnew.trans hid
          exact .created hbuilds
        · exact .stored hd
  | update id dto pg =>
      rw [PropertyCall.exec]
      rcases update_written (r := r) pg hindexed id dto with
        ⟨e, h⟩ | ⟨existing, row, isTaken, slug, area, compound, changes, listings, hlive, hrelated,
          rfl, rfl, hrewritten, h⟩
      · rw [h]
        exact ⟨hindexed, fun _ _ hd => .stored hd⟩
      · rw [h]
        refine ⟨by simpa using hrewritten.indexed, fun id' d hd => ?_⟩
        rw [listings_afterWrite, hrewritten.findOne] at hd
        split_ifs at hd with hsame
        · obtain rfl := Option.some.inj hd
          subst hsame
          exact .updated hrewritten.found hlive hrelated rfl
        · exact .stored hd
  | remove id pg =>
      rw [PropertyCall.exec]
      rcases remove_spec pg hindexed id with ⟨e, h⟩ | ⟨existing, row, listings, -, hrewritten, h⟩
      · rw [h]
        exact ⟨hindexed, fun _ _ hd => .stored hd⟩
      · rw [h]
        refine ⟨by simpa using hrewritten.indexed, fun id' d hd => ?_⟩
        rw [listings_afterWrite, hrewritten.findOne] at hd
        split_ifs at hd with hsame
        · obtain rfl := Option.some.inj hd
          subst hsame
          exact .removed hrewritten.found rfl
        · exact .stored hd
  | tick ms => exact ⟨hindexed, fun _ _ hd => .stored hd⟩

end Specs

/-! ### A small marketplace -/

/-- A runtime for ASCII texts; the derived amounts are cut down to integers. -/
def demoRuntime : Runtime where
  unicode := .ascii
  timestamp := "m1x2"
  pricePerMeter := fun amount areaSqm => amount / areaSqm
  monthlyInstallment := fun price percent years => price * (100 - percent) / 100 / (years * 12)
  deriveMediaKey := fun url => "external/" ++ url
  nextNumber := fun n => some (toString (n + 1))

/-- One listing of a compound, in one of two areas, and nothing cached. -/
def demoMarketplace : PropertiesStore where
  listings := ⟨[demoProperty], [mirrorOf demoProperty]⟩
  catalog :=
    { developers := [⟨"developer-1", "nile-homes", "Nile Homes", none, 1⟩]
      areas := [⟨"area-1", "New Cairo", "Cairo", "Cairo", 1⟩,
        ⟨"area-2", "Sheikh Zayed", "Giza", "Giza", 0⟩]
      amenities := []
      compounds := [⟨"compound-1", "palm-court", "Palm Court", "developer-1", "area-1",
        ⟨"بالم كورت", none, none, none, none, none, none, none, none, none, [], none, 30, 31, [],
          false⟩, true⟩]
      compoundAmenities := [] }
  cache := .empty
  now := 5000

/-- A new price for the listing. -/
def demoPriceUpdate : UpdatePropertyDto := { price := some { amount := 11000000 } }

/-- A second listing, in the second area. -/
def demoPropertyDto : CreatePropertyDto where
  title := ⟨"Sky Flat", "شقة سكاي"⟩
  description := ⟨"Two rooms", "غرفتان"⟩
  propertyType := .apartment
  saleType := .primary
  finishing := .semiFinished
  price := { amount := 4000000 }
  paymentPlan := { downPaymentPercent := 10, installmentYears := 6, deliveryDate := "2027-01-31" }
  specs := { bedrooms := 2, bathrooms := 1, areaSqm := 100 }
  location := { areaId := "area-2", geo := ⟨30, 31, by decide, by decide⟩ }
  compoundId := "compound-1"

/-- An ObjectId no listing has. -/
def demoObjectId : ObjectId := ⟨"65f0c0de000000000000a002", by decide, by decide⟩

end Listing
end TopChoice
