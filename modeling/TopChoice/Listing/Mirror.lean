/-
# Writing a listing in both engines

`apps/api-core/src/modules/properties/property-mirror.service.ts`: the calls
`createWithMirror`, `updateWithMirror` and `softDeleteWithMirror` as the
sequences of Mongo and Postgres statements they await, compensation included.
Mongo is written first, then Postgres; if Postgres fails, the Mongo write is
undone.

A step is one statement, which succeeds (`Answer.ok`) or is rejected with a
message and leaves both engines as they were.  A statement that a unique index
or a missing row forbids can only be rejected.  The machine `mirroring` lets any
number of calls take their statements in any order, with the counters of
`properties.service.ts` (`$inc` on `stats`) in between.
-/

import Mathlib.Data.List.Infix
import TopChoice.Common.AppException
import TopChoice.Lib.Table
import TopChoice.Lib.Threads
import TopChoice.Listing.Property

namespace TopChoice
namespace Listing

/-- The collection `properties` and the table `property_index`. -/
structure ListingStore where
  properties : List Property
  propertyIndex : List PropertyIndexRow
  deriving DecidableEq, Repr

namespace ListingStore

/-- `propertyModel.findOne({ propertyId })`. -/
def findOne (propertyId : String) (s : ListingStore) : Option Property :=
  Table.findUnique (fun d => d.propertyId = propertyId) s.properties

/-- `prisma.propertyIndex.findUnique({ where: { id } })`. -/
def findRow (id : String) (s : ListingStore) : Option PropertyIndexRow :=
  Table.findUnique (fun r => r.id = id) s.propertyIndex

/-- Two documents that a unique index of `properties` keeps apart. -/
def clash (d e : Property) : Bool :=
  d._id = e._id || d.propertyId = e.propertyId || d.slug = e.slug ||
    d.referenceNo = e.referenceNo

/-- `propertyModel.create`. -/
def insertOne (doc : Property) (s : ListingStore) : Option ListingStore :=
  if s.properties.any (clash doc) then none
  else some { s with properties := Table.create doc s.properties }

/-- `propertyModel.deleteOne({ _id })`. -/
def deleteOne (_id : ObjectId) (s : ListingStore) : ListingStore :=
  { s with properties := Table.deleteMany (fun d => d._id = _id) s.properties }

/-- `propertyModel.updateOne`, on the first document of the listing that the
rest of the filter selects. -/
def updateOne (propertyId : String) (filter : Property → Bool) (f : Property → Property)
    (s : ListingStore) : ListingStore :=
  { s with
    properties := Table.updateOne (fun d => d.propertyId = propertyId && filter d) f s.properties }

/-- The document fits the unique indexes next to those of the other listings. -/
def fits (doc : Property) (s : ListingStore) : Bool :=
  s.properties.all fun d => d.propertyId = doc.propertyId || !clash doc d

/-- Two rows that a unique column of `property_index` keeps apart. -/
def rowClash (r q : PropertyIndexRow) : Bool :=
  r.id = q.id || r.mongoId = q.mongoId || r.slug = q.slug

/-- `prisma.propertyIndex.create`. -/
def createRow (row : PropertyIndexRow) (s : ListingStore) : Option ListingStore :=
  if s.propertyIndex.any (rowClash row) then none
  else some { s with propertyIndex := Table.create row s.propertyIndex }

/-- `prisma.propertyIndex.update({ where: { id }, data })`: rejected when there
is no such row or another row has the new slug. -/
def updateRow (id : String) (data : PropertyIndexRow → PropertyIndexRow) (s : ListingStore) :
    Option ListingStore :=
  match s.findRow id with
  | none => none
  | some row =>
    if s.propertyIndex.all fun q => q.id = id || !rowClash (data row) q then
      some { s with propertyIndex := Table.updateOne (fun r => r.id = id) data s.propertyIndex }
    else none

end ListingStore

/-- How a statement ends: carried out, or rejected with a message. -/
inductive Answer where
  | ok
  | error (message : String)
  deriving DecidableEq, Repr

/-- What a call throws: the error of the driver, or one of the application. -/
inductive Thrown where
  | driver (message : String)
  | app (exception : AppException)
  deriving DecidableEq, Repr

/-- `message.includes(text)`. -/
def includes (message text : String) : Bool := decide (text.toList <:+: message.toList)

/-- `asAppException`. -/
def asAppException (message operation : String) : AppException :=
  if includes message "Unique constraint" || includes message "P2002" then
    .conflict "A property with this slug or reference number already exists" .duplicateResource
  else if includes message "Foreign key constraint" || includes message "P2003" then
    .badRequest "The compound, developer or area referenced by this listing does not exist"
      .relatedResourceNotFound
  else
    .internal ("Could not " ++ operation ++
      " the listing — the relational mirror rejected the write") .databaseError

/-- `Property "…" was not found`. -/
def propertyNotFound (propertyId : String) : Thrown :=
  .app (.notFound ("Property \"" ++ propertyId ++ "\" was not found") .propertyNotFound)

/-- Where a call stands: the statement it issues next, with what it holds. -/
inductive MirrorPc where
  | create (data : Property)
  | createRow (doc : Property)
  | compensate (doc : Property) (cause : String)
  | update (propertyId : String) (changes : PropertyUpdate)
  | findOneAndUpdate (propertyId : String) (changes : PropertyUpdate) (before : Property)
  | updateRow (propertyId : String) (before after : Property)
  | rollback (propertyId : String) (before : Property) (cause : String)
  | softDelete (propertyId : String) (deletedAt : Date)
  | markRowDeleted (propertyId : String) (deletedAt : Date)
  | undelete (propertyId : String) (cause : String)
  | returned (doc : Option Property)
  | thrown (error : Thrown)
  deriving DecidableEq, Repr

/-- The `data` of the row update in `updateWithMirror`: every column of the
mirror but the ids. -/
def rewriteRow (mirror row : PropertyIndexRow) : PropertyIndexRow :=
  { row with
    toListingColumns := mirror.toListingColumns
    deletedAt := mirror.deletedAt }

/-- One statement of a call. -/
def MirrorPc.next (s : ListingStore) : MirrorPc → Answer → Option (ListingStore × MirrorPc)
  -- createWithMirror
  | .create data, .ok => (s.insertOne data).map fun s' => (s', .createRow data)
  | .create _, .error m => some (s, .thrown (.driver m))
  | .createRow doc, .ok => (s.createRow (mirrorOf doc)).map fun s' => (s', .returned (some doc))
  | .createRow doc, .error m => some (s, .compensate doc m)
  | .compensate doc m, .ok => some (s.deleteOne doc._id, .thrown (.app (asAppException m "create")))
  | .compensate _ m, .error _ => some (s, .thrown (.app (asAppException m "create")))
  -- updateWithMirror
  | .update id changes, .ok =>
      match s.findOne id with
      | none => some (s, .thrown (propertyNotFound id))
      | some before => some (s, .findOneAndUpdate id changes before)
  | .update _ _, .error m => some (s, .thrown (.driver m))
  | .findOneAndUpdate id changes before, .ok =>
      match s.findOne id with
      | none => some (s, .thrown (propertyNotFound id))
      | some doc =>
        if s.fits (changes.set doc) then
          some (s.updateOne id (fun _ => true) changes.set, .updateRow id before (changes.set doc))
        else none
  | .findOneAndUpdate _ _ _, .error m => some (s, .thrown (.driver m))
  | .updateRow id _ after, .ok =>
      (s.updateRow id (rewriteRow (mirrorOf after))).map fun s' => (s', .returned (some after))
  | .updateRow id before _, .error m => some (s, .rollback id before m)
  | .rollback id before m, .ok =>
      if s.fits before then
        some (s.updateOne id (fun _ => true) (fun d => { before with _id := d._id }),
          .thrown (.app (asAppException m "update")))
      else none
  | .rollback _ _ m, .error _ => some (s, .thrown (.app (asAppException m "update")))
  -- softDeleteWithMirror
  | .softDelete id deletedAt, .ok =>
      if s.properties.any fun d => d.propertyId = id && d.deletedAt = none then
        some (s.updateOne id (fun d => d.deletedAt = none)
          (fun d => { d with deletedAt := some deletedAt }), .markRowDeleted id deletedAt)
      else some (s, .thrown (propertyNotFound id))
  | .softDelete _ _, .error m => some (s, .thrown (.driver m))
  | .markRowDeleted id deletedAt, .ok =>
      (s.updateRow id fun r => { r with deletedAt := some deletedAt }).map
        fun s' => (s', .returned none)
  | .markRowDeleted id _, .error m => some (s, .undelete id m)
  | .undelete id m, .ok =>
      some (s.updateOne id (fun _ => true) (fun d => { d with deletedAt := none }),
        .thrown (.app (asAppException m "delete")))
  | .undelete _ m, .error _ => some (s, .thrown (.app (asAppException m "delete")))
  | .returned _, _ => none
  | .thrown _, _ => none

/-- The call is over. -/
def MirrorPc.isOver : MirrorPc → Bool
  | .returned _ => true
  | .thrown _ => true
  | _ => false

/-- The call is still to issue its first statement. -/
def MirrorPc.isStart : MirrorPc → Bool
  | .create _ => true
  | .update _ _ => true
  | .softDelete _ _ => true
  | _ => false

/-- The `$inc` statements on the counters of a listing. -/
inductive CounterStatement where
  | recordView (propertyId : String)
  | adjustFavoriteCount (propertyId : String) (delta : ℤ)
  | incrementLeadCount (propertyId : String)
  deriving DecidableEq, Repr

/-- The statement on the counters. -/
def CounterStatement.inc : CounterStatement → PropertyStats → PropertyStats
  | .recordView _, st => { st with views := st.views + 1 }
  | .adjustFavoriteCount _ delta, st => { st with favorites := st.favorites + delta }
  | .incrementLeadCount _, st => { st with leads := st.leads + 1 }

/-- The listing the statement is about. -/
def CounterStatement.propertyId : CounterStatement → String
  | .recordView id => id
  | .adjustFavoriteCount id _ => id
  | .incrementLeadCount id => id

/-- The statement executed. -/
def CounterStatement.exec (s : ListingStore) (c : CounterStatement) : ListingStore :=
  s.updateOne c.propertyId (fun _ => true) fun d => { d with stats := c.inc d.stats }

/-- Every interleaving of the calls, with counter statements in between. -/
def mirroring (ι : Type) [DecidableEq ι] :
    Machine (Threads.Sys ListingStore ι MirrorPc) (Threads.Action ι Answer CounterStatement) :=
  Threads.machine MirrorPc.next CounterStatement.exec

/-! ### What a lookup finds after a statement -/

namespace ListingStore

variable {s s' : ListingStore} {id id' : String}

/-- A created document is found, and no other lookup changes. -/
theorem findOne_insertOne {doc : Property} (h : s.insertOne doc = some s') :
    s.findOne doc.propertyId = none ∧ s'.propertyIndex = s.propertyIndex ∧
      ∀ id, s'.findOne id = if id = doc.propertyId then some doc else s.findOne id := by
  unfold insertOne at h
  split_ifs at h with hc
  obtain rfl := Option.some.inj h
  have hnone : s.findOne doc.propertyId = none := by
    refine List.find?_eq_none.2 fun d hd he => hc ?_
    refine List.any_eq_true.2 ⟨d, hd, ?_⟩
    simp [clash, of_decide_eq_true he]
  refine ⟨hnone, rfl, fun id => ?_⟩
  rw [findOne, Table.findUnique_create]
  by_cases hid : id = doc.propertyId
  · subst hid
    have hnone' : Table.findUnique _ s.properties = none := hnone
    simp [hnone']
  · simp [findOne, hid, Ne.symm hid]

/-- An update of a document rewrites what the lookup of its listing finds. -/
theorem findOne_updateOne {filter : Property → Bool} {f : Property → Property}
    (hf : ∀ d, d.propertyId = id → (f d).propertyId = id) :
    (s.updateOne id filter f).findOne id' =
      if id' = id then (s.findOne id).map fun d => if filter d then f d else d
      else s.findOne id' := by
  by_cases hid : id' = id
  · subst hid
    rw [if_pos rfl]
    refine (Table.findUnique_updateOne ?_ ?_ _).trans (Option.map_congr fun d hd => ?_)
    · exact fun d hd => (Bool.and_eq_true_iff.1 hd).1
    · exact fun d hd =>
        decide_eq_true (hf d (of_decide_eq_true (Bool.and_eq_true_iff.1 hd).1))
    · simp [of_decide_eq_true (Table.findUnique_some hd).2]
  · rw [if_neg hid]
    refine Table.findUnique_updateOne_of_disjoint (fun d hd => ?_) (fun d hd => ?_) _
    · have := of_decide_eq_true (Bool.and_eq_true_iff.1 hd).1
      simp [this, Ne.symm hid]
    · have := hf d (of_decide_eq_true (Bool.and_eq_true_iff.1 hd).1)
      simp [this, Ne.symm hid]

/-- A created row is found, and no other lookup changes. -/
theorem findRow_createRow {row : PropertyIndexRow} (h : s.createRow row = some s') :
    s.findRow row.id = none ∧ s'.properties = s.properties ∧
      ∀ id, s'.findRow id = if id = row.id then some row else s.findRow id := by
  unfold createRow at h
  split_ifs at h with hc
  obtain rfl := Option.some.inj h
  have hnone : s.findRow row.id = none := by
    refine List.find?_eq_none.2 fun r hr he => hc ?_
    refine List.any_eq_true.2 ⟨r, hr, ?_⟩
    simp [rowClash, of_decide_eq_true he]
  refine ⟨hnone, rfl, fun id => ?_⟩
  rw [findRow, Table.findUnique_create]
  by_cases hid : id = row.id
  · subst hid
    have hnone' : Table.findUnique _ s.propertyIndex = none := hnone
    simp [hnone']
  · simp [findRow, hid, Ne.symm hid]

/-- An update finds its row, and rewrites what the lookup of it finds. -/
theorem findRow_updateRow {data : PropertyIndexRow → PropertyIndexRow}
    (h : s.updateRow id data = some s') (hdata : ∀ r, (data r).id = r.id) :
    ∃ row, s.findRow id = some row ∧ s'.properties = s.properties ∧
      ∀ id', s'.findRow id' = if id' = id then some (data row) else s.findRow id' := by
  unfold updateRow at h
  cases hrow : s.findRow id with
  | none => simp [hrow] at h
  | some row =>
      simp only [hrow] at h
      split_ifs at h with hc
      obtain rfl := Option.some.inj h
      refine ⟨row, rfl, rfl, fun id' => ?_⟩
      have hlookup := Table.findUnique_updateOne_key (k := id) (j := id') PropertyIndexRow.id
        (f := data) (fun r hr => (hdata r).trans hr) s.propertyIndex
      refine hlookup.trans ?_
      rw [show Table.findUnique _ s.propertyIndex = some row from hrow, Option.map_some]
      rfl

end ListingStore

/-- The counters are all a counter statement changes, and of its listing alone. -/
theorem CounterStatement.findOne_exec (s : ListingStore) (c : CounterStatement) (id : String) :
    (exec s c).findOne id = (s.findOne id).map fun d =>
      if id = c.propertyId then { d with stats := c.inc d.stats } else d := by
  refine (ListingStore.findOne_updateOne (f := fun d => { d with stats := c.inc d.stats })
    fun d hd => hd).trans ?_
  by_cases hid : id = c.propertyId
  · simp [hid]
  · simp [hid]

end Listing
end TopChoice
