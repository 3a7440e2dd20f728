/-
# A mirrored write with nothing in between

`createWithMirror`, `updateWithMirror` and `softDeleteWithMirror` of
`property-mirror.service.ts` as whole calls on a healthy Mongo.  Postgres carries
the row statement out, rejects it for a constraint of its own, or fails.

Each of them is a run of `mirroring` with one thread (`*_isRun`).  A call that
returns has written both engines, one that throws has left them as they were
(`*_spec`), as long as the documents respect the unique indexes (`Indexed`),
which every call keeps.
-/

import Mathlib.Data.List.Pairwise
import TopChoice.Catalog.Store
import TopChoice.Listing.Mirror

namespace TopChoice
namespace Listing

open Catalog (CatalogStore)

/-! ### The calls -/

/-- The foreign keys of a row point at rows of the catalogue. -/
def referencesHold (c : CatalogStore) (row : PropertyIndexRow) : Bool :=
  row.compoundId.all (fun id => (c.findCompound id).isSome) &&
    row.developerId.all (fun id => (c.findDeveloper id).isSome) &&
    row.areaId.all fun id => (c.findArea id).isSome

/-- The message of a unique index of `properties`. -/
def duplicateKey : Thrown := .driver "E11000 duplicate key error"

/-- A row statement: what Postgres makes of it, or the message it is rejected with. -/
def rowStatement (pg : Answer) (references : Bool) (statement : Option ListingStore) :
    Except String ListingStore :=
  match pg with
  | .error m => .error m
  | .ok =>
    if references then
      match statement with
      | none => .error "Unique constraint failed"
      | some s => .ok s
    else .error "Foreign key constraint violated"

/-- `prisma.propertyIndex.update`, with the message for a missing row. -/
def updateRowStatement (pg : Answer) (references : Bool) (id : String)
    (data : PropertyIndexRow → PropertyIndexRow) (s : ListingStore) : Except String ListingStore :=
  match pg, s.findRow id with
  | .error m, _ => .error m
  | .ok, none => .error "Record to update not found"
  | .ok, some _ => rowStatement .ok references (s.updateRow id data)

/-- `createWithMirror`. -/
def createWithMirror (pg : Answer) (c : CatalogStore) (data : Property) (s : ListingStore) :
    Except Thrown Property × ListingStore :=
  match s.insertOne data with
  | none => (.error duplicateKey, s)
  | some s₁ =>
    match rowStatement pg (referencesHold c (mirrorOf data)) (s₁.createRow (mirrorOf data)) with
    | .ok s₂ => (.ok data, s₂)
    | .error m => (.error (.app (asAppException m "create")), s₁.deleteOne data._id)

/-- The `replaceOne` of the rollback, swallowed when it is rejected. -/
def restore (id : String) (before : Property) (s : ListingStore) : ListingStore :=
  if s.fits before then s.updateOne id (fun _ => true) fun d => { before with _id := d._id }
  else s

/-- `updateWithMirror`. -/
def updateWithMirror (pg : Answer) (c : CatalogStore) (id : String) (changes : PropertyUpdate)
    (s : ListingStore) : Except Thrown Property × ListingStore :=
  match s.findOne id with
  | none => (.error (propertyNotFound id), s)
  | some before =>
    let after := changes.set before
    if s.fits after then
      let s₁ := s.updateOne id (fun _ => true) changes.set
      match updateRowStatement pg (referencesHold c (mirrorOf after)) id
          (rewriteRow (mirrorOf after)) s₁ with
      | .ok s₂ => (.ok after, s₂)
      | .error m => (.error (.app (asAppException m "update")), restore id before s₁)
    else (.error duplicateKey, s)

/-- `softDeleteWithMirror`. -/
def softDeleteWithMirror (pg : Answer) (deletedAt : Date) (id : String) (s : ListingStore) :
    Except Thrown Unit × ListingStore :=
  if s.properties.any fun d => d.propertyId = id && d.deletedAt = none then
    let s₁ := s.updateOne id (fun d => d.deletedAt = none)
      fun d => { d with deletedAt := some deletedAt }
    match updateRowStatement pg true id (fun r => { r with deletedAt := some deletedAt }) s₁ with
    | .ok s₂ => (.ok (), s₂)
    | .error m => (.error (.app (asAppException m "delete")),
        s₁.updateOne id (fun _ => true) fun d => { d with deletedAt := none })
  else (.error (propertyNotFound id), s)

/-! ### Each call is a run of its statements -/

section Runs

variable {pg : Answer} {c : CatalogStore} {references : Bool} {id : String}

/-- A statement Postgres carries out is one the table allows. -/
theorem rowStatement_ok {statement : Option ListingStore} {s' : ListingStore}
    (h : rowStatement pg references statement = .ok s') :
    references = true ∧ statement = some s' := by
  unfold rowStatement at h
  split at h
  · cases h
  · split at h
    · next href =>
        split at h
        · cases h
        · exact ⟨href, congrArg some (Except.ok.inj h)⟩
    · cases h

/-- An update Postgres carries out is one the table allows. -/
theorem updateRowStatement_ok {data : PropertyIndexRow → PropertyIndexRow} {s s' : ListingStore}
    (h : updateRowStatement pg references id data s = .ok s') :
    references = true ∧ s.updateRow id data = some s' := by
  unfold updateRowStatement at h
  split at h
  · cases h
  · cases h
  · exact rowStatement_ok h

/-- The program point of a call that is over. -/
def MirrorPc.over : Except Thrown (Option Property) → MirrorPc
  | .ok doc => .returned doc
  | .error e => .thrown e

/-- One thread takes its call from `p` to the end `q`, answered by `answers`. -/
def IsRun (s : ListingStore) (p : MirrorPc) (answers : List Answer) (s' : ListingStore)
    (q : MirrorPc) : Prop :=
  (mirroring Unit).run ⟨s, fun _ => p⟩ (answers.map (Threads.Action.act ())) =
    some ⟨s', fun _ => q⟩

theorem IsRun.nil (s : ListingStore) (p : MirrorPc) : IsRun s p [] s p := rfl

/-- A run continues a statement. -/
theorem IsRun.cons {s s₁ s' : ListingStore} {p p₁ q : MirrorPc} {answer : Answer}
    {answers : List Answer} (h : p.next s answer = some (s₁, p₁)) (hrun : IsRun s₁ p₁ answers s' q) :
    IsRun s p (answer :: answers) s' q := by
  rw [IsRun, List.map_cons, mirroring, Threads.run_alone, h]
  exact hrun

/-- **`createWithMirror` is a run of its statements.** -/
theorem createWithMirror_isRun (data : Property) (s : ListingStore) :
    ∃ answers, IsRun s (.create data) answers (createWithMirror pg c data s).2
      (.over ((createWithMirror pg c data s).1.map some)) := by
  unfold createWithMirror
  cases hins : s.insertOne data with
  | none => exact ⟨[.error "E11000 duplicate key error"], .cons rfl (.nil ..)⟩
  | some s₁ =>
      have hstart : (MirrorPc.create data).next s .ok = some (s₁, .createRow data) := by
        simp [MirrorPc.next, hins]
      simp only
      split
      · next s₂ hrow =>
          refine ⟨[.ok, .ok], .cons hstart (.cons ?_ (.nil ..))⟩
          simp [MirrorPc.next, (rowStatement_ok hrow).2]
          rfl
      · next m hrow => exact ⟨[.ok, .error m, .ok], .cons hstart (.cons rfl (.cons rfl (.nil ..)))⟩

/-- **`updateWithMirror` is a run of its statements.** -/
theorem updateWithMirror_isRun (changes : PropertyUpdate) (s : ListingStore) :
    ∃ answers, IsRun s (.update id changes) answers (updateWithMirror pg c id changes s).2
      (.over ((updateWithMirror pg c id changes s).1.map some)) := by
  unfold updateWithMirror
  cases hfind : s.findOne id with
  | none =>
      refine ⟨[.ok], .cons ?_ (.nil ..)⟩
      simp [MirrorPc.next, hfind]
      rfl
  | some before =>
      have hread : (MirrorPc.update id changes).next s .ok =
          some (s, .findOneAndUpdate id changes before) := by
        simp [MirrorPc.next, hfind]
      simp only
      split
      · next hfits =>
          have hwrite : (MirrorPc.findOneAndUpdate id changes before).next s .ok =
              some (s.updateOne id (fun _ => true) changes.set,
                .updateRow id before (changes.set before)) := by
            simp [MirrorPc.next, hfind, hfits]
          split
          · next s₂ hrow =>
              refine ⟨[.ok, .ok, .ok], .cons hread (.cons hwrite (.cons ?_ (.nil ..)))⟩
              simp [MirrorPc.next, (updateRowStatement_ok hrow).2]
              rfl
          · next m hrow =>
              unfold restore
              split
              · next hback =>
                  refine ⟨[.ok, .ok, .error m, .ok],
                    .cons hread (.cons hwrite (.cons rfl (.cons ?_ (.nil ..))))⟩
                  simp [MirrorPc.next, hback]
                  rfl
              · exact ⟨[.ok, .ok, .error m, .error m],
                  .cons hread (.cons hwrite (.cons rfl (.cons rfl (.nil ..))))⟩
      · exact ⟨[.ok, .error "E11000 duplicate key error"], .cons hread (.cons rfl (.nil ..))⟩

/-- **`softDeleteWithMirror` is a run of its statements.** -/
theorem softDeleteWithMirror_isRun (deletedAt : Date) (s : ListingStore) :
    ∃ answers, IsRun s (.softDelete id deletedAt) answers
      (softDeleteWithMirror pg deletedAt id s).2
      (.over ((softDeleteWithMirror pg deletedAt id s).1.map fun _ => none)) := by
  unfold softDeleteWithMirror
  split
  · next hany =>
      have hmark : (MirrorPc.softDelete id deletedAt).next s .ok =
          some (s.updateOne id (fun d => d.deletedAt = none)
            (fun d => { d with deletedAt := some deletedAt }), .markRowDeleted id deletedAt) := by
        simp only [MirrorPc.next, hany, if_true]
      simp only
      split
      · next s₂ hrow =>
          refine ⟨[.ok, .ok], .cons hmark (.cons ?_ (.nil ..))⟩
          simp [MirrorPc.next, (updateRowStatement_ok hrow).2]
          rfl
      · next m hrow => exact ⟨[.ok, .error m, .ok], .cons hmark (.cons rfl (.cons rfl (.nil ..)))⟩
  · next hany =>
      refine ⟨[.ok], .cons ?_ (.nil ..)⟩
      simp [MirrorPc.next, hany]
      rfl

end Runs

/-! ### What a call leaves behind -/

/-- The documents respect the unique indexes of `properties`. -/
def ListingStore.Indexed (s : ListingStore) : Prop :=
  s.properties.Pairwise fun d e => clash d e = false

instance (s : ListingStore) : Decidable s.Indexed := List.instDecidablePairwise s.properties

namespace ListingStore

variable {s s' : ListingStore} {id : String}

theorem clash_symm {d e : Property} (h : clash d e = false) : clash e d = false := by
  simp only [clash, Bool.or_eq_false_iff, decide_eq_false_iff_not] at h ⊢
  obtain ⟨⟨⟨h₁, h₂⟩, h₃⟩, h₄⟩ := h
  exact ⟨⟨⟨Ne.symm h₁, Ne.symm h₂⟩, Ne.symm h₃⟩, Ne.symm h₄⟩

/-- A document is the one its listing is looked up as. -/
theorem Indexed.findOne (h : s.Indexed) {d : Property} (hd : d ∈ s.properties) :
    s.findOne d.propertyId = some d := by
  refine Table.findUnique_of_pairwise (h.imp fun hxy => ?_) hd (decide_eq_true rfl)
  rintro ⟨hx, hy⟩
  simp only [clash, Bool.or_eq_false_iff, decide_eq_false_iff_not] at hxy
  exact hxy.1.1.2 ((of_decide_eq_true hx).trans (of_decide_eq_true hy).symm)

/-- A document of the collection fits the indexes. -/
theorem Indexed.fits (h : s.Indexed) {d : Property} (hd : d ∈ s.properties) :
    s.fits d = true := by
  refine List.all_eq_true.2 fun x hx => ?_
  by_cases hxd : x = d
  · simp [hxd]
  · have : Std.Symm fun d e => clash d e = false := ⟨fun _ _ => clash_symm⟩
    have hclash := List.Pairwise.forall h hd hx (Ne.symm hxd)
    simp [hclash]

/-- A document the indexes admit may be added. -/
theorem Indexed.insertOne (h : s.Indexed) {doc : Property} (hins : s.insertOne doc = some s') :
    s'.Indexed := by
  unfold ListingStore.insertOne at hins
  split_ifs at hins with hc
  obtain rfl := Option.some.inj hins
  refine List.pairwise_append.2 ⟨h, List.pairwise_singleton .., fun d hd e he => ?_⟩
  obtain rfl := List.mem_singleton.1 he
  refine clash_symm (Bool.eq_false_iff.2 fun hde => hc (List.any_eq_true.2 ⟨d, hd, hde⟩))

/-- A document may be rewritten when the result fits the indexes. -/
theorem Indexed.updateOne_of_fits (h : s.Indexed) {f : Property → Property} {d : Property}
    (hd : s.findOne id = some d) (hid : (f d).propertyId = id) (hfits : s.fits (f d) = true) :
    (s.updateOne id (fun _ => true) f).Indexed := by
  refine Table.pairwise_updateOne (fun _ _ => clash_symm) h fun r hr x hx hrx => ?_
  obtain rfl : d = r := by
    simp only [Bool.and_true] at hr
    exact Option.some.inj (hd.symm.trans hr)
  have hd' := of_decide_eq_true (Table.findUnique_some hd).2
  have hfit := List.all_eq_true.1 hfits x hx
  simp only [Bool.or_eq_true, decide_eq_true_eq, Bool.not_eq_true'] at hfit
  refine hfit.resolve_left fun hxid => ?_
  simp only [clash, Bool.or_eq_false_iff, decide_eq_false_iff_not] at hrx
  exact hrx.1.1.2 (hd'.trans (hid.symm.trans hxid.symm))

/-- A document may be rewritten when its indexed fields stay. -/
theorem Indexed.updateOne_of_keys (h : s.Indexed) {filter : Property → Bool}
    {f : Property → Property} (hf : ∀ d e, clash (f d) e = clash d e) :
    (s.updateOne id filter f).Indexed :=
  Table.pairwise_updateOne (fun _ _ => clash_symm) h fun r _ x _ hrx => (hf r x).trans hrx

end ListingStore

/-- What an insertion that went through did. -/
structure ListingStore.Inserted (doc : Property) (s s' : ListingStore) : Prop where
  indexed : s'.Indexed
  isNew : s.findOne doc.propertyId = none
  findOne : ∀ id, s'.findOne id = if id = doc.propertyId then some doc else s.findOne id
  findRow : ∀ id, s'.findRow id = if id = doc.propertyId then some (mirrorOf doc) else s.findRow id
  rows : s'.propertyIndex = Table.create (mirrorOf doc) s.propertyIndex

/-- What a rewriting of a listing in both engines that went through did. -/
structure ListingStore.Rewritten (id : String) (f : Property → Property)
    (data : PropertyIndexRow → PropertyIndexRow) (before : Property) (row : PropertyIndexRow)
    (s s' : ListingStore) : Prop where
  indexed : s'.Indexed
  found : s.findOne id = some before
  findOne : ∀ id', s'.findOne id' = if id' = id then some (f before) else s.findOne id'
  foundRow : s.findRow id = some row
  findRow : ∀ id', s'.findRow id' = if id' = id then some (data row) else s.findRow id'
  rows : s'.propertyIndex = Table.updateOne (fun r => r.id = id) data s.propertyIndex

section Specs

variable {pg : Answer} {c : CatalogStore} {id : String} {s s₁ s' : ListingStore}

theorem ListingStore.Indexed.congr (h : s.Indexed) (heq : s'.properties = s.properties) :
    s'.Indexed := by
  rwa [ListingStore.Indexed, heq]

/-- Both statements of an insertion together. -/
theorem ListingStore.Inserted.of_statements (hindexed : s.Indexed) {doc : Property}
    (hins : s.insertOne doc = some s₁) (hrow : s₁.createRow (mirrorOf doc) = some s') :
    s.Inserted doc s' := by
  obtain ⟨hnew, hrows, hfind⟩ := ListingStore.findOne_insertOne hins
  obtain ⟨-, hproperties, hfindRow⟩ := ListingStore.findRow_createRow hrow
  refine ⟨(hindexed.insertOne hins).congr hproperties, hnew, fun id => ?_, fun id => ?_, ?_⟩
  · rw [← hfind id, ListingStore.findOne, hproperties]
    rfl
  · rw [hfindRow id, ListingStore.findRow, ListingStore.findRow, hrows]
    rfl
  · unfold ListingStore.createRow at hrow
    split_ifs at hrow
    obtain rfl := Option.some.inj hrow
    exact congrArg (Table.create (mirrorOf doc)) hrows

/-- Both statements of a rewriting together. -/
theorem ListingStore.Rewritten.of_statements {f : Property → Property}
    {data : PropertyIndexRow → PropertyIndexRow} {before : Property}
    (hindexed : (s.updateOne id (fun _ => true) f).Indexed) (hfind : s.findOne id = some before)
    (hrow : (s.updateOne id (fun _ => true) f).updateRow id data = some s')
    (hf : ∀ d, (f d).propertyId = d.propertyId) (hdata : ∀ r, (data r).id = r.id) :
    ∃ row, s.Rewritten id f data before row s' := by
  obtain ⟨row, hfound, hproperties, hfindRow⟩ := ListingStore.findRow_updateRow hrow hdata
  refine ⟨row, hindexed.congr hproperties, hfind, fun id' => ?_, hfound, hfindRow, ?_⟩
  · rw [ListingStore.findOne, hproperties]
    refine (ListingStore.findOne_updateOne (f := f) fun d hd => (hf d).trans hd).trans ?_
    simp [hfind]
  · unfold ListingStore.updateRow at hrow
    split at hrow
    · cases hrow
    · split_ifs at hrow
      obtain rfl := Option.some.inj hrow
      rfl

/-- **A `createWithMirror` that throws has changed nothing**, one that returns has
inserted the document and its row. -/
theorem createWithMirror_spec (hindexed : s.Indexed) {data : Property}
    {res : Except Thrown Property × ListingStore} (h : createWithMirror pg c data s = res) :
    (∃ e, res = (.error e, s)) ∨ ∃ s', res = (.ok data, s') ∧ s.Inserted data s' := by
  unfold createWithMirror at h
  split at h
  · exact Or.inl ⟨_, h.symm⟩
  · next s₁ hins =>
      split at h
      · next s₂ hrow =>
          exact Or.inr ⟨s₂, h.symm, .of_statements hindexed hins (rowStatement_ok hrow).2⟩
      · next m hrow =>
          refine Or.inl ⟨_, h.symm.trans (Prod.ext rfl ?_)⟩
          unfold ListingStore.insertOne at hins
          split_ifs at hins with hc
          obtain rfl := Option.some.inj hins
          have hback : Table.deleteMany (fun d => decide (d._id = data._id))
              (Table.create data s.properties) = s.properties := by
            refine Table.deleteMany_create (fun d hd => ?_) (by simp)
            refine decide_eq_false fun he => hc (List.any_eq_true.2 ⟨d, hd, ?_⟩)
            simp [ListingStore.clash, he]
          simp only [ListingStore.deleteOne, hback]

/-- The rollback puts the document back. -/
theorem restore_updateOne (hindexed : s.Indexed) {changes : PropertyUpdate} {before : Property}
    (hfind : s.findOne id = some before) :
    restore id before (s.updateOne id (fun _ => true) changes.set) = s := by
  obtain ⟨hmem, hid⟩ := Table.findUnique_some hfind
  have hid := of_decide_eq_true hid
  have hback : (s.updateOne id (fun _ => true) changes.set).fits before = true := by
    refine List.all_eq_true.2 fun d hd => ?_
    rcases Table.mem_updateOne hd with ⟨d₀, hd₀, rfl⟩ | hd
    · have hd₀ := (Table.findUnique_some hd₀).2
      simp only [Bool.and_true, decide_eq_true_eq] at hd₀
      simp [hd₀, hid]
    · exact List.all_eq_true.1 (hindexed.fits hmem) d hd
  have hundo : Table.updateOne (fun d => decide (d.propertyId = id))
      (fun d => { before with _id := d._id })
      (Table.updateOne (fun d => decide (d.propertyId = id)) changes.set s.properties) =
        s.properties :=
    Table.updateOne_undo hfind (by simp [hid]) rfl
  rw [restore, if_pos hback]
  simp only [ListingStore.updateOne, Bool.and_true, hundo]

/-- **An `updateWithMirror` that throws has changed nothing**, one that returns
has rewritten the document and its row. -/
theorem updateWithMirror_spec (hindexed : s.Indexed) {changes : PropertyUpdate}
    {res : Except Thrown Property × ListingStore} (h : updateWithMirror pg c id changes s = res) :
    (∃ e, res = (.error e, s)) ∨
      ∃ before row s', res = (.ok (changes.set before), s') ∧
        s.Rewritten id changes.set (rewriteRow (mirrorOf (changes.set before))) before row s' := by
  unfold updateWithMirror at h
  split at h
  · exact Or.inl ⟨_, h.symm⟩
  · next before hfind =>
      simp only at h
      split at h
      · next hfits =>
          split at h
          · next s₂ hrow =>
              have hid := of_decide_eq_true (Table.findUnique_some hfind).2
              obtain ⟨row, hrewritten⟩ := ListingStore.Rewritten.of_statements
                (hindexed.updateOne_of_fits (f := changes.set) hfind hid hfits) hfind
                (updateRowStatement_ok hrow).2 (fun _ => rfl) fun _ => rfl
              exact Or.inr ⟨before, row, s₂, h.symm, hrewritten⟩
          · next m hrow =>
              exact Or.inl ⟨_, h.symm.trans (Prod.ext rfl (restore_updateOne hindexed hfind))⟩
      · exact Or.inl ⟨_, h.symm⟩

/-- **A `softDeleteWithMirror` that throws has changed nothing**, one that
returns has marked the document, which was live, and its row. -/
theorem softDeleteWithMirror_spec (hindexed : s.Indexed) {deletedAt : Date}
    {res : Except Thrown Unit × ListingStore}
    (h : softDeleteWithMirror pg deletedAt id s = res) :
    (∃ e, res = (.error e, s)) ∨
      ∃ before row s', res = (.ok (), s') ∧ before.deletedAt = none ∧
        s.Rewritten id (fun d => { d with deletedAt := some deletedAt })
          (fun r => { r with deletedAt := some deletedAt }) before row s' := by
  unfold softDeleteWithMirror at h
  split at h
  · next hany =>
      obtain ⟨before, hmem, hlive⟩ := List.any_eq_true.1 hany
      simp only [Bool.and_eq_true, decide_eq_true_eq] at hlive
      have hfind : s.findOne id = some before := hlive.1 ▸ hindexed.findOne hmem
      have hfirst : s.updateOne id (fun d => d.deletedAt = none)
            (fun d => { d with deletedAt := some deletedAt }) =
          s.updateOne id (fun _ => true) fun d => { d with deletedAt := some deletedAt } := by
        simp only [ListingStore.updateOne, Bool.and_true]
        rw [Table.updateOne_and hfind (by simp [hlive.2])]
      simp only [hfirst] at h
      split at h
      · next s₂ hrow =>
          obtain ⟨row, hrewritten⟩ := ListingStore.Rewritten.of_statements
            (hindexed.updateOne_of_keys (f := fun d => { d with deletedAt := some deletedAt })
              fun _ _ => rfl) hfind (updateRowStatement_ok hrow).2 (fun _ => rfl) fun _ => rfl
          exact Or.inr ⟨before, row, s₂, h.symm, hlive.2, hrewritten⟩
      · next m hrow =>
          refine Or.inl ⟨_, h.symm.trans (Prod.ext rfl ?_)⟩
          have hundo : Table.updateOne (fun d => decide (d.propertyId = id))
              (fun d => { d with deletedAt := none })
              (Table.updateOne (fun d => decide (d.propertyId = id))
                (fun d => { d with deletedAt := some deletedAt }) s.properties) =
                s.properties :=
            Table.updateOne_undo hfind (by simp [hlive.1]) (by rw [← hlive.2])
          simp only [ListingStore.updateOne, Bool.and_true, hundo]
  · exact Or.inl ⟨_, h.symm⟩

end Specs

end Listing
end TopChoice
