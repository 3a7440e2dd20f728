/-
# When the mirror agrees with the document

Each call writes Mongo first and then copies its own snapshot of the document to
Postgres, so with overlapping calls the order of the second writes decides what
the row says.  A call that has written Mongo and not yet Postgres owes the row
the columns it is going to write.  As long as no Postgres `UPDATE` puts a column
out of date that nobody else owes, every column of the row either agrees with
the document or is owed (`Agrees`, `Mirrored.act`); when every call is over
nothing is owed, and the row agrees (`mirror_agrees_at_rest`).
-/

import Mathlib.Data.Fintype.Basic
import Mathlib.Data.Fintype.Defs
import TopChoice.Listing.Mirror

namespace TopChoice
namespace Listing

open Threads

/-! ### What a call does when its statement succeeds -/

/-- The statements that succeed, and where their calls go on. -/
inductive MirrorPc.Succeeds (s : ListingStore) : MirrorPc → ListingStore → MirrorPc → Prop
  | inserted (doc : Property) (s' : ListingStore) (h : s.insertOne doc = some s') :
      Succeeds s (.create doc) s' (.createRow doc)
  | rowInserted (doc : Property) (s' : ListingStore) (h : s.createRow (mirrorOf doc) = some s') :
      Succeeds s (.createRow doc) s' (.returned (some doc))
  | removed (doc : Property) (cause : String) :
      Succeeds s (.compensate doc cause) (s.deleteOne doc._id)
        (.thrown (.app (asAppException cause "create")))
  | found (id : String) (changes : PropertyUpdate) (before : Property) :
      Succeeds s (.update id changes) s (.findOneAndUpdate id changes before)
  | updated (id : String) (changes : PropertyUpdate) (before doc : Property)
      (h : s.findOne id = some doc) :
      Succeeds s (.findOneAndUpdate id changes before)
        (s.updateOne id (fun _ => true) changes.set) (.updateRow id before (changes.set doc))
  | rowUpdated (id : String) (before after : Property) (s' : ListingStore)
      (h : s.updateRow id (rewriteRow (mirrorOf after)) = some s') :
      Succeeds s (.updateRow id before after) s' (.returned (some after))
  | restored (id : String) (before : Property) (cause : String) :
      Succeeds s (.rollback id before cause)
        (s.updateOne id (fun _ => true) fun d => { before with _id := d._id })
        (.thrown (.app (asAppException cause "update")))
  | deleted (id : String) (deletedAt : Date) :
      Succeeds s (.softDelete id deletedAt)
        (s.updateOne id (fun d => d.deletedAt = none)
          fun d => { d with deletedAt := some deletedAt }) (.markRowDeleted id deletedAt)
  | rowDeleted (id : String) (deletedAt : Date) (s' : ListingStore)
      (h : s.updateRow id (fun r => { r with deletedAt := some deletedAt }) = some s') :
      Succeeds s (.markRowDeleted id deletedAt) s' (.returned none)
  | undeleted (id : String) (cause : String) :
      Succeeds s (.undelete id cause)
        (s.updateOne id (fun _ => true) fun d => { d with deletedAt := none })
        (.thrown (.app (asAppException cause "delete")))
  | notFound (p : MirrorPc) (id : String)
      (hp : (∃ changes, p = .update id changes) ∨
        (∃ changes before, p = .findOneAndUpdate id changes before) ∨
        ∃ deletedAt, p = .softDelete id deletedAt) :
      Succeeds s p s (.thrown (propertyNotFound id))

/-- The call has written the document of the listing and is still to write the
columns of the row that only an update writes. -/
def MirrorPc.owesListing (id : String) : MirrorPc → Bool
  | .updateRow id' _ _ => id' = id
  | _ => false

/-- The call has written the document of the listing and is still to write the
`deletedAt` of the row. -/
def MirrorPc.owesDeletedAt (id : String) : MirrorPc → Bool
  | .updateRow id' _ _ => id' = id
  | .markRowDeleted id' _ => id' = id
  | _ => false

/-- The call has inserted the document of a listing and is still to insert the row. -/
def MirrorPc.inserting : MirrorPc → Option Property
  | .createRow doc => some doc
  | _ => none

/-- The call has written nothing yet. -/
def MirrorPc.isIdle : MirrorPc → Bool
  | .create _ => true
  | .update _ _ => true
  | .findOneAndUpdate _ _ _ => true
  | .softDelete _ _ => true
  | _ => false

/-- The call is undoing its Mongo write. -/
def MirrorPc.isUndoing : MirrorPc → Bool
  | .compensate .. => true
  | .rollback .. => true
  | .undelete .. => true
  | _ => false

variable {ι : Type} [DecidableEq ι]

/-- Somebody other than `i` owes it. -/
def OwedByOther (pc : ι → MirrorPc) (i : ι) (owes : MirrorPc → Bool) : Prop :=
  ∃ j, j ≠ i ∧ owes (pc j) = true

/-- A Postgres `UPDATE` that call `i` is about to issue writes to each column what
the document says at this moment, unless another call that has written the
document still owes the column. -/
def WritesCurrent (S : Sys ListingStore ι MirrorPc) (i : ι) : MirrorPc → Prop
  | .updateRow id _ after => ∀ doc ∈ S.shared.findOne id,
      ((mirrorOf after).toListingColumns = (mirrorOf doc).toListingColumns ∨
        OwedByOther S.pc i (MirrorPc.owesListing id)) ∧
      (after.deletedAt = doc.deletedAt ∨ OwedByOther S.pc i (MirrorPc.owesDeletedAt id))
  | .markRowDeleted id deletedAt => ∀ doc ∈ S.shared.findOne id,
      some deletedAt = doc.deletedAt ∨ OwedByOther S.pc i (MirrorPc.owesDeletedAt id)
  | _ => True

/-- The condition on a step: the statement succeeds, and if it is a Postgres
`UPDATE` it leaves no column out of date that nobody owes. -/
def InOrder (S : Sys ListingStore ι MirrorPc) : Action ι Answer CounterStatement → Prop
  | .act i answer => answer = .ok ∧ WritesCurrent S i (S.pc i)
  | .env _ => True

instance [Fintype ι] (pc : ι → MirrorPc) (i : ι) (owes : MirrorPc → Bool) :
    Decidable (OwedByOther pc i owes) :=
  inferInstanceAs (Decidable (∃ j, j ≠ i ∧ owes (pc j) = true))

instance [Fintype ι] (S : Sys ListingStore ι MirrorPc) (i : ι) :
    ∀ p : MirrorPc, Decidable (WritesCurrent S i p)
  | .updateRow id _ after =>
      inferInstanceAs (Decidable (∀ doc ∈ S.shared.findOne id,
        ((mirrorOf after).toListingColumns = (mirrorOf doc).toListingColumns ∨
          OwedByOther S.pc i (MirrorPc.owesListing id)) ∧
        (after.deletedAt = doc.deletedAt ∨ OwedByOther S.pc i (MirrorPc.owesDeletedAt id))))
  | .markRowDeleted id deletedAt =>
      inferInstanceAs (Decidable (∀ doc ∈ S.shared.findOne id,
        some deletedAt = doc.deletedAt ∨ OwedByOther S.pc i (MirrorPc.owesDeletedAt id)))
  | .create _ | .createRow _ | .compensate _ _ | .update _ _ | .findOneAndUpdate _ _ _
  | .rollback _ _ _ | .softDelete _ _ | .undelete _ _ | .returned _ | .thrown _ => isTrue trivial

instance [Fintype ι] (S : Sys ListingStore ι MirrorPc) :
    ∀ a : Action ι Answer CounterStatement, Decidable (InOrder S a)
  | .act i answer => inferInstanceAs (Decidable (answer = .ok ∧ WritesCurrent S i (S.pc i)))
  | .env _ => isTrue trivial

/-- The row says what the document says. -/
def RowAgrees (row : PropertyIndexRow) (doc : Property) : Prop :=
  row.toListingColumns = (mirrorOf doc).toListingColumns ∧
    row.deletedAt = (mirrorOf doc).deletedAt

/-- Every listing has a row exactly when it has a document, and the row agrees. -/
def InStep (s : ListingStore) : Prop :=
  ∀ id, match s.findOne id with
    | none => s.findRow id = none
    | some doc => ∃ row, s.findRow id = some row ∧ RowAgrees row doc

/-- The row says what the document says in every column that nobody owes. -/
structure Agrees (pc : ι → MirrorPc) (id : String) (row : PropertyIndexRow) (doc : Property) :
    Prop where
  listing : row.toListingColumns = (mirrorOf doc).toListingColumns ∨
    ∃ j, (pc j).owesListing id = true
  deletedAt : row.deletedAt = (mirrorOf doc).deletedAt ∨ ∃ j, (pc j).owesDeletedAt id = true

/-- The document of a listing has a row that agrees, or its creator is about to
insert one that does. -/
def Present (pc : ι → MirrorPc) (s : ListingStore) (id : String) (doc : Property) : Prop :=
  (∃ row, s.findRow id = some row ∧ Agrees pc id row doc) ∨
    s.findRow id = none ∧ ∃ i new, (pc i).inserting = some new ∧ new.propertyId = id ∧
      Agrees pc id (mirrorOf new) doc

/-- What holds of the two engines while calls are on their way and none of them
undoes its Mongo write. -/
structure Mirrored (S : Sys ListingStore ι MirrorPc) : Prop where
  undo : ∀ i, (S.pc i).isUndoing = false
  creator : ∀ i new, (S.pc i).inserting = some new → S.shared.findOne new.propertyId ≠ none
  alone : ∀ i j new new', (S.pc i).inserting = some new → (S.pc j).inserting = some new' →
    new.propertyId = new'.propertyId → i = j
  absent : ∀ id, S.shared.findOne id = none → S.shared.findRow id = none
  present : ∀ id doc, S.shared.findOne id = some doc → Present S.pc S.shared id doc

/-! ### One step -/

section Step

variable {pc : ι → MirrorPc} {s s' : ListingStore} {i : ι} {p : MirrorPc} {id : String}
  {row : PropertyIndexRow} {doc doc' : Property}

/-- What is owed stays owed when the call that moves owes it no less. -/
theorem Agrees.move (h : Agrees pc id row doc)
    (hl : (pc i).owesListing id = true → p.owesListing id = true)
    (hd : (pc i).owesDeletedAt id = true → p.owesDeletedAt id = true) :
    Agrees (Function.update pc i p) id row doc := by
  have keep : ∀ owes : MirrorPc → Bool, (owes (pc i) = true → owes p = true) →
      (∃ j, owes (pc j) = true) → ∃ j, owes (Function.update pc i p j) = true := by
    rintro owes hi ⟨j, hj⟩
    by_cases hji : j = i
    · subst hji
      exact ⟨j, by simpa using hi hj⟩
    · exact ⟨j, by simpa [Function.update_of_ne hji] using hj⟩
  exact ⟨h.listing.imp_right (keep _ hl), h.deletedAt.imp_right (keep _ hd)⟩

/-- What another call owes is still owed when call `i` moves. -/
theorem OwedByOther.move {owes : MirrorPc → Bool} (h : OwedByOther pc i owes) (p : MirrorPc) :
    ∃ j, owes (Function.update pc i p j) = true := by
  obtain ⟨j, hji, hj⟩ := h
  exact ⟨j, by rwa [Function.update_of_ne hji]⟩

/-- What makes a document present when the rows stay as they are. -/
theorem Present.move (h : Present pc s id doc) (hrow : s'.findRow id = s.findRow id)
    (hA : ∀ row, Agrees pc id row doc → Agrees (Function.update pc i p) id row doc')
    (hins : ∀ new, (pc i).inserting = some new → new.propertyId ≠ id) :
    Present (Function.update pc i p) s' id doc' := by
  rcases h with ⟨row, hr, ha⟩ | ⟨hr, j, new, hj, hid, ha⟩
  · exact Or.inl ⟨row, hrow.trans hr, hA row ha⟩
  · have hji : j ≠ i := by
      rintro rfl
      exact hins new hj hid
    exact Or.inr ⟨hrow.trans hr, j, new, by rwa [Function.update_of_ne hji], hid, hA _ ha⟩

/-- A call that is about to insert no row disturbs no creator. -/
theorem Mirrored.inserting_move {S : Sys ListingStore ι MirrorPc} (h : Mirrored S)
    (hp : p.inserting = none)
    (hkeep : ∀ id, S.shared.findOne id ≠ none → s'.findOne id ≠ none) :
    (∀ j new, (Function.update S.pc i p j).inserting = some new →
        s'.findOne new.propertyId ≠ none) ∧
      ∀ j k new new', (Function.update S.pc i p j).inserting = some new →
        (Function.update S.pc i p k).inserting = some new' →
          new.propertyId = new'.propertyId → j = k := by
  have old : ∀ j new, (Function.update S.pc i p j).inserting = some new →
      (S.pc j).inserting = some new := by
    intro j new hj
    by_cases hji : j = i
    · subst hji
      simp [hp] at hj
    · rwa [Function.update_of_ne hji] at hj
  exact ⟨fun j new hj => hkeep _ (h.creator j new (old j new hj)),
    fun j k new new' hj hk => h.alone j k new new' (old j new hj) (old k new' hk)⟩

/-- A call that has written nothing owes nothing. -/
theorem MirrorPc.isIdle_owes (h : p.isIdle = true) (id : String) :
    p.owesListing id = false ∧ p.owesDeletedAt id = false ∧ p.inserting = none := by
  cases p <;> first | exact ⟨rfl, rfl, rfl⟩ | cases h

/-- A first write to Mongo, or none: the rows stay, and where the document
changes the call owes what it changed. -/
theorem Mirrored.write_doc {S : Sys ListingStore ι MirrorPc} (h : Mirrored S)
    (hidle : (S.pc i).isIdle = true) (hundo : p.isUndoing = false) (hins : p.inserting = none)
    (hrow : ∀ id, s'.findRow id = S.shared.findRow id)
    (hnone : ∀ id, s'.findOne id = none ↔ S.shared.findOne id = none)
    (hA : ∀ id doc doc', S.shared.findOne id = some doc → s'.findOne id = some doc' →
      ∀ row, Agrees S.pc id row doc → Agrees (Function.update S.pc i p) id row doc') :
    Mirrored ⟨s', Function.update S.pc i p⟩ := by
  obtain ⟨hcr, hal⟩ := h.inserting_move (i := i) hins fun id hd => mt (hnone id).1 hd
  refine ⟨?_, hcr, hal, ?_, ?_⟩
  · exact pc_update_cases (P := fun _ (p : MirrorPc) => p.isUndoing = false) hundo
      fun j _ => h.undo j
  · exact fun id hd => (hrow id).trans (h.absent id ((hnone id).1 hd))
  · intro id doc' hd'
    obtain ⟨doc, hd⟩ := Option.ne_none_iff_exists'.1 (mt (hnone id).2 (by simp [hd']))
    refine (h.present id doc hd).move (hrow id) (hA id doc doc' hd hd') fun new hnew => ?_
    simp [(MirrorPc.isIdle_owes hidle id).2.2] at hnew

/-- A write to the row of listing `id`, the last of its call: the documents
stay, and the row agrees with its document as far as nobody else owes it. -/
theorem Mirrored.write_row {S : Sys ListingStore ι MirrorPc} (h : Mirrored S) {row' : PropertyIndexRow}
    (hundo : p.isUndoing = false) (hins : p.inserting = none) (hold : (S.pc i).inserting = none)
    (hother : ∀ id', id' ≠ id → (S.pc i).owesListing id' = false ∧
      (S.pc i).owesDeletedAt id' = false)
    (hdoc : ∀ id', s'.findOne id' = S.shared.findOne id')
    (hfind : S.shared.findRow id = some row)
    (hrow : ∀ id', s'.findRow id' = if id' = id then some row' else S.shared.findRow id')
    (hA : ∀ doc, S.shared.findOne id = some doc → Agrees S.pc id row doc →
      Agrees (Function.update S.pc i p) id row' doc) :
    Mirrored ⟨s', Function.update S.pc i p⟩ := by
  obtain ⟨hcr, hal⟩ := h.inserting_move (i := i) hins
    fun id hd => show s'.findOne id ≠ none by rwa [hdoc]
  refine ⟨?_, hcr, hal, fun id' hd => ?_, fun id' doc hd => ?_⟩
  · exact pc_update_cases (P := fun _ (p : MirrorPc) => p.isUndoing = false) hundo
      fun j _ => h.undo j
  · have habs := h.absent id' ((hdoc id').symm.trans hd)
    have hne : id' ≠ id := by
      rintro rfl
      simp [habs] at hfind
    exact (hrow id').trans ((if_neg hne).trans habs)
  · have hd' := (hdoc id').symm.trans hd
    by_cases hid : id' = id
    · subst hid
      rcases h.present id' doc hd' with ⟨r, hr, ha⟩ | ⟨hr, -⟩
      · obtain rfl := Option.some.inj (hfind.symm.trans hr)
        exact Or.inl ⟨row', (hrow id').trans (if_pos rfl), hA doc hd' ha⟩
      · simp [hr] at hfind
    · obtain ⟨hl, hdel⟩ := hother id' hid
      exact (h.present id' doc hd').move ((hrow id').trans (if_neg hid))
        (fun row ha => ha.move (by simp [hl]) (by simp [hdel])) (by simp [hold])

/-- Who is about to insert a row after call `i` has inserted a document. -/
theorem inserting_update_cases {new new' : Property} {j : ι}
    (h : (Function.update pc i (.createRow new) j).inserting = some new') :
    (j = i ∧ new' = new) ∨ (j ≠ i ∧ (pc j).inserting = some new') := by
  by_cases hji : j = i
  · subst hji
    rw [Function.update_self] at h
    exact Or.inl ⟨rfl, (Option.some.inj h).symm⟩
  · exact Or.inr ⟨hji, by rwa [Function.update_of_ne hji] at h⟩

variable {S : Sys ListingStore ι MirrorPc}

/-- `createWithMirror` inserts the document. -/
theorem Mirrored.inserted (h : Mirrored S) {new : Property} (hp : S.pc i = .create new)
    (hs : S.shared.insertOne new = some s') :
    Mirrored ⟨s', Function.update S.pc i (.createRow new)⟩ := by
  obtain ⟨hnone, hrows, hfind⟩ := ListingStore.findOne_insertOne hs
  have hrow : ∀ id, s'.findRow id = S.shared.findRow id := fun id => by
    rw [ListingStore.findRow, hrows, ListingStore.findRow]
  have hkeep : ∀ id, S.shared.findOne id ≠ none → s'.findOne id ≠ none := fun id hd => by
    rw [hfind]
    split_ifs <;> simp [hd]
  -- nobody else creates this listing, which had no document
  have hfresh : ∀ j new', (S.pc j).inserting = some new' → new'.propertyId ≠ new.propertyId :=
    fun j new' hj he => h.creator j new' hj (he ▸ hnone)
  refine ⟨?_, fun j new' hj => ?_, fun j k new' new'' hj hk he => ?_, fun id hd => ?_,
    fun id doc hd => ?_⟩
  · exact pc_update_cases (P := fun _ (p : MirrorPc) => p.isUndoing = false) rfl
      fun j _ => h.undo j
  · rcases inserting_update_cases hj with ⟨-, rfl⟩ | ⟨-, hj⟩
    · simp [hfind]
    · exact hkeep _ (h.creator j new' hj)
  · rcases inserting_update_cases hj with ⟨hji, rfl⟩ | ⟨-, hj'⟩ <;>
      rcases inserting_update_cases hk with ⟨hki, rfl⟩ | ⟨-, hk'⟩
    · rw [hji, hki]
    · exact absurd he.symm (hfresh k new'' hk')
    · exact absurd he (hfresh j new' hj')
    · exact h.alone j k new' new'' hj' hk' he
  · have hd' : S.shared.findOne id = none := Classical.not_not.1 fun hne => hkeep id hne hd
    exact (hrow id).trans (h.absent id hd')
  · by_cases hid : id = new.propertyId
    · subst hid
      obtain rfl := Option.some.inj (((if_pos rfl).symm.trans (hfind _).symm).trans hd)
      exact Or.inr ⟨(hrow _).trans (h.absent _ hnone), i, new, by simp [MirrorPc.inserting],
        rfl, Or.inl rfl, Or.inl rfl⟩
    · have hd' := (if_neg hid).symm.trans ((hfind id).symm.trans hd)
      refine (h.present id doc hd').move (hrow id) (fun row ha => ha.move ?_ ?_) ?_
      · simp [hp, MirrorPc.owesListing]
      · simp [hp, MirrorPc.owesDeletedAt]
      · simp [hp, MirrorPc.inserting]

/-- `createWithMirror` inserts the row. -/
theorem Mirrored.rowInserted (h : Mirrored S) {new : Property} (hp : S.pc i = .createRow new)
    (hs : S.shared.createRow (mirrorOf new) = some s') :
    Mirrored ⟨s', Function.update S.pc i (.returned (some new))⟩ := by
  obtain ⟨hnone, hprops, hrow⟩ := ListingStore.findRow_createRow hs
  have hdoc : ∀ id, s'.findOne id = S.shared.findOne id := fun id => by
    rw [ListingStore.findOne, hprops, ListingStore.findOne]
  have hi : (S.pc i).inserting = some new := by rw [hp]; rfl
  have hmove : ∀ {id row doc}, Agrees S.pc id row doc →
      Agrees (Function.update S.pc i (.returned (some new))) id row doc := fun ha =>
    ha.move (by simp [hp, MirrorPc.owesListing]) (by simp [hp, MirrorPc.owesDeletedAt])
  obtain ⟨hcr, hal⟩ := h.inserting_move (i := i) (p := .returned (some new)) rfl
    fun id hd => show s'.findOne id ≠ none by rwa [hdoc]
  refine ⟨?_, hcr, hal, fun id hd => ?_, fun id doc hd => ?_⟩
  · exact pc_update_cases (P := fun _ (p : MirrorPc) => p.isUndoing = false) rfl
      fun j _ => h.undo j
  · have hne : id ≠ new.propertyId := by
      rintro rfl
      exact h.creator i new hi ((hdoc _).symm.trans hd)
    exact (hrow id).trans ((if_neg hne).trans (h.absent id ((hdoc id).symm.trans hd)))
  · have hd' := (hdoc id).symm.trans hd
    by_cases hid : id = new.propertyId
    · subst hid
      rcases h.present _ doc hd' with ⟨row, hr, -⟩ | ⟨-, j, new', hj, he, ha⟩
      · exact absurd (hr.symm.trans hnone) (Option.some_ne_none _)
      · obtain rfl := h.alone j i new' new hj hi he
        obtain rfl := Option.some.inj (hj.symm.trans hi)
        exact Or.inl ⟨_, (hrow _).trans (if_pos rfl), hmove ha⟩
    · exact (h.present id doc hd').move ((hrow id).trans (if_neg hid)) (fun _ => hmove)
        fun new' hnew' => by
          obtain rfl := Option.some.inj (hi.symm.trans hnew')
          exact Ne.symm hid

/-- A call that has written nothing and leaves the engines as they are. -/
theorem Mirrored.quiet (h : Mirrored S) (hidle : (S.pc i).isIdle = true)
    (hundo : p.isUndoing = false) (hins : p.inserting = none) :
    Mirrored ⟨S.shared, Function.update S.pc i p⟩ := by
  refine h.write_doc hidle hundo hins (fun _ => rfl) (fun _ => Iff.rfl)
    fun id doc doc' hd hd' row ha => ?_
  obtain rfl := Option.some.inj (hd.symm.trans hd')
  obtain ⟨hl, hdel, -⟩ := MirrorPc.isIdle_owes hidle id
  exact ha.move (by simp [hl]) (by simp [hdel])

/-- A first write to the document of one listing, which leaves the call owing
what it changed. -/
theorem Mirrored.rewritten (h : Mirrored S) (hidle : (S.pc i).isIdle = true)
    (hundo : p.isUndoing = false) (hins : p.inserting = none) {filter : Property → Bool}
    {f : Property → Property} (hf : ∀ d, (f d).propertyId = d.propertyId)
    (hdel : p.owesDeletedAt id = true)
    (hl : p.owesListing id = true ∨
      ∀ d, (mirrorOf (f d)).toListingColumns = (mirrorOf d).toListingColumns) :
    Mirrored ⟨S.shared.updateOne id filter f, Function.update S.pc i p⟩ := by
  have hfind : ∀ id', (S.shared.updateOne id filter f).findOne id' =
      if id' = id then (S.shared.findOne id).map fun d => if filter d then f d else d
      else S.shared.findOne id' := fun id' =>
    ListingStore.findOne_updateOne fun d hd => (hf d).trans hd
  refine h.write_doc hidle hundo hins (fun _ => rfl) (fun id' => ?_) fun id' d d' hd hd' row ha => ?_
  · rw [hfind]
    by_cases hid : id' = id
    · subst hid
      simp
    · simp [hid]
  · obtain ⟨hli, hdi, -⟩ := MirrorPc.isIdle_owes hidle id'
    rw [hfind] at hd'
    by_cases hid : id' = id
    · subst hid
      have hd' : (if filter d then f d else d) = d' := by simpa [hd] using hd'
      have hcols : p.owesListing id' = true ∨
          (mirrorOf d').toListingColumns = (mirrorOf d).toListingColumns := by
        refine hl.imp_right fun hl => ?_
        rw [← hd']
        split_ifs
        · exact hl d
        · rfl
      refine ⟨?_, Or.inr ⟨i, by simpa using hdel⟩⟩
      rcases hcols with ho | he
      · exact Or.inr ⟨i, by simpa using ho⟩
      · rw [he]
        exact (ha.move (by simp [hli]) (by simp [hdi])).listing
    · obtain rfl := Option.some.inj (hd.symm.trans ((if_neg hid).symm.trans hd'))
      exact ha.move (by simp [hli]) (by simp [hdi])

/-- A row update is the last write of its call. -/
theorem Mirrored.rowRewritten (h : Mirrored S) (hundo : p.isUndoing = false)
    (hins : p.inserting = none) (hold : (S.pc i).inserting = none)
    (hother : ∀ id', id' ≠ id → (S.pc i).owesListing id' = false ∧
      (S.pc i).owesDeletedAt id' = false)
    {data : PropertyIndexRow → PropertyIndexRow} (hs : S.shared.updateRow id data = some s')
    (hdata : ∀ r, (data r).id = r.id)
    (hA : ∀ row doc, S.shared.findOne id = some doc → Agrees S.pc id row doc →
      Agrees (Function.update S.pc i p) id (data row) doc) :
    Mirrored ⟨s', Function.update S.pc i p⟩ := by
  obtain ⟨row, hr, hprops, hrow⟩ := ListingStore.findRow_updateRow hs hdata
  refine h.write_row hundo hins hold hother (fun id' => ?_) hr hrow (hA row)
  rw [ListingStore.findOne, hprops, ListingStore.findOne]

/-- **One statement that succeeds.**  A Mongo write leaves its call owing the
columns it may have changed; a Postgres write leaves them agreeing, by the
condition, or owed by another call. -/
theorem Mirrored.act (h : Mirrored S) (hmove : (S.pc i).Succeeds S.shared s' p)
    (hC : InOrder S (.act i .ok)) : Mirrored ⟨s', Function.update S.pc i p⟩ := by
  have hundo := h.undo i
  have hC := hC.2
  generalize hp : S.pc i = q at hmove hC hundo
  cases hmove with
  | removed doc cause => cases hundo
  | restored id before cause => cases hundo
  | undeleted id cause => cases hundo
  | inserted new _ hs => exact h.inserted hp hs
  | rowInserted new _ hs => exact h.rowInserted hp hs
  | found id changes before => exact h.quiet (by rw [hp]; rfl) rfl rfl
  | notFound _ id hform =>
      refine h.quiet ?_ rfl rfl
      rcases hform with ⟨changes, rfl⟩ | ⟨changes, before, rfl⟩ | ⟨deletedAt, rfl⟩ <;> rw [hp] <;> rfl
  | updated id changes before doc hdoc =>
      refine h.rewritten (by rw [hp]; rfl) rfl rfl (fun _ => rfl) ?_ (Or.inl ?_)
      · simp [MirrorPc.owesDeletedAt]
      · simp [MirrorPc.owesListing]
  | deleted id deletedAt =>
      refine h.rewritten (by rw [hp]; rfl) rfl rfl (fun _ => rfl) ?_ (Or.inr fun _ => rfl)
      simp [MirrorPc.owesDeletedAt]
  | rowUpdated id before after _ hs =>
      refine h.rowRewritten rfl rfl (by rw [hp]; rfl) (fun id' hid => ?_) hs (fun _ => rfl)
        fun row doc hd ha => ?_
      · simp [hp, MirrorPc.owesListing, MirrorPc.owesDeletedAt, Ne.symm hid]
      · obtain ⟨hcols, hdel⟩ := hC doc hd
        exact ⟨hcols.imp_right fun ho => ho.move _, hdel.imp_right fun ho => ho.move _⟩
  | rowDeleted id deletedAt _ hs =>
      refine h.rowRewritten rfl rfl (by rw [hp]; rfl) (fun id' hid => ?_) hs (fun _ => rfl)
        fun row doc hd ha => ⟨?_, (hC doc hd).imp_right fun ho => ho.move _⟩
      · simp [hp, MirrorPc.owesListing, MirrorPc.owesDeletedAt, Ne.symm hid]
      · refine ha.listing.imp_right fun ⟨j, hj⟩ => OwedByOther.move ⟨j, ?_, hj⟩ _
        rintro rfl
        simp [hp, MirrorPc.owesListing] at hj

omit [DecidableEq ι] in
/-- The counters are no part of the mirror. -/
theorem Mirrored.count (h : Mirrored S) (c : CounterStatement) :
    Mirrored { S with shared := CounterStatement.exec S.shared c } := by
  have hfind := CounterStatement.findOne_exec S.shared c
  refine ⟨h.undo, fun i new hi => ?_, h.alone, fun id hd => ?_, fun id doc hd => ?_⟩
  · have := h.creator i new hi
    simpa [hfind] using this
  · exact h.absent id (by simpa [hfind] using hd)
  · rw [hfind] at hd
    obtain ⟨d, hd', he⟩ := Option.map_eq_some_iff.1 hd
    have hm : mirrorOf doc = mirrorOf d := by
      rw [← he]
      split_ifs <;> rfl
    have hA : ∀ {row}, Agrees S.pc id row d → Agrees S.pc id row doc := fun ha =>
      ⟨by rw [hm]; exact ha.listing, by rw [hm]; exact ha.deletedAt⟩
    rcases h.present id d hd' with ⟨row, hr, ha⟩ | ⟨hr, i, new, hi, hid, ha⟩
    · exact Or.inl ⟨row, hr, hA ha⟩
    · exact Or.inr ⟨hr, i, new, hi, hid, hA ha⟩

end Step

/-! ### The condition is exact -/

/-- Nobody owes what nobody else owes and call `i`, once over, does not. -/
theorem not_owed_of_over {pc : ι → MirrorPc} {i : ι} {p : MirrorPc}
    {owes : MirrorPc → Bool} (hother : ¬ OwedByOther pc i owes) (hp : owes p = false) :
    ¬ ∃ j, owes (Function.update pc i p j) = true := by
  rintro ⟨j, hj⟩
  by_cases hji : j = i
  · subst hji
    simp [hp] at hj
  · exact hother ⟨j, hji, by rwa [Function.update_of_ne hji] at hj⟩

/-- **A step outside the condition breaks agreement.**  A row update that goes
through although it is not current leaves a column that neither agrees with the
document nor is owed by any call. -/
theorem not_agrees_of_not_writesCurrent {S : Sys ListingStore ι MirrorPc} {i : ι}
    {s' : ListingStore} {p' : MirrorPc} (hmove : (S.pc i).Succeeds S.shared s' p')
    (hC : ¬ WritesCurrent S i (S.pc i)) :
    ∃ id row doc, s'.findRow id = some row ∧ s'.findOne id = some doc ∧
      ¬ Agrees (Function.update S.pc i p') id row doc := by
  generalize S.pc i = p at hmove hC
  cases hmove with
  | rowUpdated id before after _ hs =>
      simp only [WritesCurrent, not_forall] at hC
      obtain ⟨doc, hd, hno⟩ := hC
      obtain ⟨row, -, hprops, hrow⟩ := ListingStore.findRow_updateRow hs fun _ => rfl
      refine ⟨id, _, doc, (hrow id).trans (if_pos rfl), ?_, fun ha => hno ⟨?_, ?_⟩⟩
      · rw [ListingStore.findOne, hprops]
        exact hd
      · refine or_iff_not_imp_right.2 fun ho => ha.listing.resolve_right ?_
        exact not_owed_of_over ho rfl
      · refine or_iff_not_imp_right.2 fun ho => ha.deletedAt.resolve_right ?_
        exact not_owed_of_over ho rfl
  | rowDeleted id deletedAt _ hs =>
      simp only [WritesCurrent, not_forall] at hC
      obtain ⟨doc, hd, hno⟩ := hC
      obtain ⟨row, -, hprops, hrow⟩ := ListingStore.findRow_updateRow hs fun _ => rfl
      refine ⟨id, _, doc, (hrow id).trans (if_pos rfl), ?_, fun ha => hno ?_⟩
      · rw [ListingStore.findOne, hprops]
        exact hd
      · refine or_iff_not_imp_right.2 fun ho => ha.deletedAt.resolve_right ?_
        exact not_owed_of_over ho rfl
  | notFound _ id hform =>
      rcases hform with ⟨changes, rfl⟩ | ⟨changes, before, rfl⟩ | ⟨deletedAt, rfl⟩ <;>
        exact absurd trivial hC
  | _ => exact absurd trivial hC

/-! ### Whole runs -/

omit [DecidableEq ι] in
/-- Engines that are in step, and no call that has written anything. -/
theorem Mirrored.start {S : Sys ListingStore ι MirrorPc} (hstep : InStep S.shared)
    (hstart : ∀ i, (S.pc i).isStart = true) : Mirrored S := by
  have hpc : ∀ i, (S.pc i).isUndoing = false ∧ (S.pc i).inserting = none := fun i => by
    have := hstart i
    generalize S.pc i = p at this
    cases p <;> first | exact ⟨rfl, rfl⟩ | cases this
  refine ⟨fun i => (hpc i).1, fun i new hi => ?_, fun i j new new' hi => ?_, fun id hd => ?_,
    fun id doc hd => ?_⟩
  · simp [(hpc i).2] at hi
  · simp [(hpc i).2] at hi
  · have := hstep id
    rwa [hd] at this
  · have := hstep id
    rw [hd] at this
    obtain ⟨row, hr, hcols, hdel⟩ := this
    exact Or.inl ⟨row, hr, Or.inl hcols, Or.inl hdel⟩

omit [DecidableEq ι] in
/-- With every call over nothing is owed. -/
theorem Mirrored.inStep {S : Sys ListingStore ι MirrorPc} (h : Mirrored S)
    (hover : ∀ i, (S.pc i).isOver = true) : InStep S.shared := by
  have howes : ∀ i id, (S.pc i).owesListing id = false ∧ (S.pc i).owesDeletedAt id = false ∧
      (S.pc i).inserting = none := fun i id => by
    have := hover i
    generalize S.pc i = p at this
    cases p <;> first | exact ⟨rfl, rfl, rfl⟩ | cases this
  intro id
  cases hd : S.shared.findOne id with
  | none => exact h.absent id hd
  | some doc =>
      rcases h.present id doc hd with ⟨row, hr, ha⟩ | ⟨-, i, new, hi, -⟩
      · refine ⟨row, hr, ha.listing.resolve_right ?_, ha.deletedAt.resolve_right ?_⟩
        · rintro ⟨j, hj⟩
          simp [(howes j id).1] at hj
        · rintro ⟨j, hj⟩
          simp [(howes j id).2.1] at hj
      · simp [(howes i id).2.2] at hi

end Listing
end TopChoice
