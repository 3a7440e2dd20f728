/-
# Favourites and their counter

`apps/api-core/src/modules/favorites/favorites.module.ts`: `add` and `remove` as
the sequences of the statements they await, with `adjustFavoriteCount` of
`properties.service.ts`.  The row is in Postgres, unique for a user and a
listing; the counter is in Mongo.  A row created or deleted and not yet counted
is owed by its request, so the counter, the rows and what is owed move together
(`step_balance`), and once every request is over the counter has changed by what
the rows have (`favorites_counted`).

The key `adjustFavoriteCount` drops from Redis, the ids of the rows and
`createdAt` are left out.
-/

import Mathlib.Algebra.BigOperators.Group.Finset.Basic
import Mathlib.Algebra.Order.Ring.Int
import Mathlib.Data.Fintype.Basic
import TopChoice.Lib.Reservations
import TopChoice.Listing.Mirror

namespace TopChoice
namespace Favorites

open Listing (CounterStatement ListingStore Property Thrown demoProperty mirrorOf propertyNotFound)
open Threads

/-- A row of `favorites`. -/
structure Favorite where
  userId : String
  propertyId : String
  deriving DecidableEq, Repr

/-- The table `favorites` under its unique constraint. -/
structure FavoriteTable where
  rows : List Favorite
  unique : rows.Nodup
  deriving DecidableEq

namespace FavoriteTable

/-- `prisma.favorite.create`: rejected when the user has saved the listing. -/
def create (row : Favorite) (t : FavoriteTable) : Option FavoriteTable :=
  if h : row ∈ t.rows then none
  else some ⟨Table.create row t.rows, by
    rw [Table.create, List.nodup_append]
    refine ⟨t.unique, List.nodup_singleton row, fun a ha b hb => ?_⟩
    rintro rfl
    exact h (List.mem_singleton.1 hb ▸ ha)⟩

/-- `prisma.favorite.deleteMany`, of one user and listing. -/
def deleteMany (row : Favorite) (t : FavoriteTable) : FavoriteTable :=
  ⟨Table.deleteMany (fun r => r = row) t.rows, t.unique.filter _⟩

end FavoriteTable

/-- What the service reads and writes. -/
structure FavoriteStore where
  favorites : FavoriteTable
  listings : ListingStore
  deriving DecidableEq

/-- What a request returns. -/
inductive Reply where
  | added (propertyId : String) (added : Bool)
  | removed (propertyId : String) (removed : Bool)
  deriving DecidableEq, Repr

/-- Where a request stands: the statement it issues next, with what it holds. -/
inductive FavoritePc where
  | countProperty (row : Favorite)
  | countFavorite (row : Favorite)
  | create (row : Favorite)
  | deleteMany (row : Favorite)
  | adjust (propertyId : String) (delta : ℤ) (reply : Reply)
  | returned (reply : Reply)
  | thrown (error : Thrown)
  deriving DecidableEq, Repr

/-- One statement of a request. -/
def FavoritePc.next (s : FavoriteStore) : FavoritePc → Unit → Option (FavoriteStore × FavoritePc)
  -- add
  | .countProperty row, _ =>
      if Table.count (fun r => r.id = row.propertyId && r.deletedAt = none)
          s.listings.propertyIndex = 0 then
        some (s, .thrown (propertyNotFound row.propertyId))
      else some (s, .countFavorite row)
  | .countFavorite row, _ =>
      if Table.count (fun r => r = row) s.favorites.rows > 0 then
        some (s, .returned (.added row.propertyId false))
      else some (s, .create row)
  | .create row, _ =>
      match s.favorites.create row with
      | none => some (s, .thrown (.driver "Unique constraint failed"))
      | some favorites =>
          some ({ s with favorites }, .adjust row.propertyId 1 (.added row.propertyId true))
  -- remove
  | .deleteMany row, _ =>
      if Table.count (fun r => r = row) s.favorites.rows = 0 then
        some ({ s with favorites := s.favorites.deleteMany row },
          .returned (.removed row.propertyId false))
      else
        some ({ s with favorites := s.favorites.deleteMany row },
          .adjust row.propertyId (-1) (.removed row.propertyId true))
  -- adjustFavoriteCount
  | .adjust propertyId delta reply, _ =>
      some ({ s with
        listings := CounterStatement.exec s.listings (.adjustFavoriteCount propertyId delta) },
        .returned reply)
  | .returned _, _ => none
  | .thrown _, _ => none

/-- The request is still to issue its first statement. -/
def FavoritePc.isStart : FavoritePc → Bool
  | .countProperty _ => true
  | .deleteMany _ => true
  | _ => false

/-- The request is over. -/
def FavoritePc.isOver : FavoritePc → Bool
  | .returned _ => true
  | .thrown _ => true
  | _ => false

/-- Every interleaving of the requests. -/
def favouring (ι : Type) [DecidableEq ι] :
    Machine (Sys FavoriteStore ι FavoritePc) (Action ι Unit Empty) :=
  Threads.machine FavoritePc.next fun s _ => s

/-! ### The counter, the rows and what is owed -/

/-- How many users have saved the listing. -/
def favoriteCount (propertyId : String) (s : FavoriteStore) : ℕ :=
  Table.count (fun r => r.propertyId = propertyId) s.favorites.rows

/-- What the request is still to add to the counter of the listing. -/
def FavoritePc.owed (propertyId : String) : FavoritePc → ℤ
  | .adjust id delta _ => if id = propertyId then delta else 0
  | _ => 0

section Step

variable {s s' : FavoriteStore} {p p' : FavoritePc} {id : String}

/-- A created row counts for its listing. -/
theorem count_create {row : Favorite} {t t' : FavoriteTable} (h : t.create row = some t')
    (id : String) :
    Table.count (fun r => r.propertyId = id) t'.rows =
      Table.count (fun r => r.propertyId = id) t.rows + if row.propertyId = id then 1 else 0 := by
  unfold FavoriteTable.create at h
  split_ifs at h
  obtain rfl := Option.some.inj h
  rw [Table.count_create]
  by_cases hid : row.propertyId = id <;> simp [hid]

/-- The constraint leaves one row at most for a user and a listing, so a deletion
takes one from the count of the listing, or nothing. -/
theorem count_deleteMany (row : Favorite) (t : FavoriteTable) (id : String) :
    Table.count (fun r => r.propertyId = id) (t.deleteMany row).rows +
        (if row ∈ t.rows ∧ row.propertyId = id then 1 else 0) =
      Table.count (fun r => r.propertyId = id) t.rows := by
  have hboth : Table.count (fun r => decide (r.propertyId = id) && decide (r = row)) t.rows =
      if row ∈ t.rows ∧ row.propertyId = id then 1 else 0 := by
    by_cases hid : row.propertyId = id
    · have hcongr : ∀ r ∈ t.rows,
          (decide (r.propertyId = id) && decide (r = row)) = true ↔ (r == row) = true := by
        intro r _
        simp only [Bool.and_eq_true, decide_eq_true_eq, beq_iff_eq]
        exact ⟨fun h => h.2, fun h => ⟨h ▸ hid, h⟩⟩
      rw [Table.count, List.countP_congr hcongr]
      exact (t.unique.count).trans (by simp [hid])
    · have hnone : ∀ r ∈ t.rows,
          ¬ (decide (r.propertyId = id) && decide (r = row)) = true := by
        intro r _ h
        simp only [Bool.and_eq_true, decide_eq_true_eq] at h
        exact hid (h.2 ▸ h.1)
      rw [if_neg fun h => hid h.2]
      exact List.countP_eq_zero.2 hnone
  rw [← hboth]
  exact Table.count_deleteMany _ _ _

/-- **What a statement moves.**  On the listing's document, the counter and what
the request owes together move by what the rows do. -/
theorem step_balance {doc : Property} (h : p.next s () = some (s', p'))
    (hdoc : s.listings.findOne id = some doc) :
    ∃ doc', s'.listings.findOne id = some doc' ∧
      doc'.stats.favorites + p'.owed id - favoriteCount id s' =
        doc.stats.favorites + p.owed id - favoriteCount id s := by
  cases p with
  | countProperty row =>
      simp only [FavoritePc.next] at h
      split_ifs at h <;> obtain ⟨rfl, rfl⟩ := Prod.mk.inj (Option.some.inj h) <;>
        exact ⟨doc, hdoc, rfl⟩
  | countFavorite row =>
      simp only [FavoritePc.next] at h
      split_ifs at h <;> obtain ⟨rfl, rfl⟩ := Prod.mk.inj (Option.some.inj h) <;>
        exact ⟨doc, hdoc, rfl⟩
  | create row =>
      simp only [FavoritePc.next] at h
      split at h <;> obtain ⟨rfl, rfl⟩ := Prod.mk.inj (Option.some.inj h)
      · exact ⟨doc, hdoc, rfl⟩
      · next favorites hcreate =>
          refine ⟨doc, hdoc, ?_⟩
          simp only [favoriteCount, FavoritePc.owed, count_create hcreate]
          split_ifs <;> push_cast <;> omega
  | deleteMany row =>
      have hcount := count_deleteMany row s.favorites id
      simp only [FavoritePc.next] at h
      split_ifs at h with hzero <;> obtain ⟨rfl, rfl⟩ := Prod.mk.inj (Option.some.inj h) <;>
        refine ⟨doc, hdoc, ?_⟩
      · have hmem : row ∉ s.favorites.rows := fun hmem => by
          simpa using List.countP_eq_zero.1 hzero row hmem
        simp only [hmem, false_and, if_false, Nat.add_zero] at hcount
        simp [favoriteCount, FavoritePc.owed, hcount]
      · have hmem : row ∈ s.favorites.rows := by
          by_contra hmem
          refine hzero (List.countP_eq_zero.2 fun r hr heq => hmem ?_)
          exact of_decide_eq_true heq ▸ hr
        simp only [hmem, true_and] at hcount
        simp only [favoriteCount, FavoritePc.owed, ← hcount]
        split_ifs <;> push_cast <;> omega
  | adjust propertyId delta reply =>
      obtain ⟨rfl, rfl⟩ := Prod.mk.inj (Option.some.inj h)
      simp only [CounterStatement.findOne_exec, hdoc, Option.map_some, Option.some.injEq,
        exists_eq_left', CounterStatement.propertyId, CounterStatement.inc, favoriteCount,
        FavoritePc.owed]
      by_cases hid : id = propertyId
      · subst hid
        simp only [if_true]
        omega
      · simp [hid, Ne.symm hid]
  | returned reply => cases h
  | thrown error => cases h

end Step

/-! ### Whole runs -/

section Run

variable {ι : Type} [DecidableEq ι] [Fintype ι]

omit [DecidableEq ι] in
/-- Requests that have issued nothing or are over owe nothing. -/
theorem sum_owed_eq_zero {pc : ι → FavoritePc} (id : String)
    (h : ∀ i, (pc i).isStart = true ∨ (pc i).isOver = true) : ∑ j, (pc j).owed id = 0 := by
  refine Finset.sum_eq_zero fun j _ => ?_
  have := h j
  generalize pc j = p at this
  cases p <;> first | rfl | simp [FavoritePc.isStart, FavoritePc.isOver] at this

/-- **The counter matches the table.**  Any number of requests of any users save
and unsave listings, their statements in any order.  Once all of them are over,
`stats.favorites` of each listing has changed by what the number of its rows in
`favorites` has. -/
theorem favorites_counted (S T : Sys FavoriteStore ι FavoritePc) (as : List (Action ι Unit Empty))
    (hstart : ∀ i, (S.pc i).isStart = true) (hrun : (favouring ι).run S as = some T)
    (hover : ∀ i, (T.pc i).isOver = true) (id : String) (doc : Property)
    (hdoc : S.shared.listings.findOne id = some doc) :
    ∃ doc', T.shared.listings.findOne id = some doc' ∧
      doc'.stats.favorites - doc.stats.favorites =
        (favoriteCount id T.shared : ℤ) - favoriteCount id S.shared := by
  have hI := Machine.run_invariant_of_forall_mem
    (I := fun U : Sys FavoriteStore ι FavoritePc => ∃ doc', U.shared.listings.findOne id = some doc' ∧
      doc'.stats.favorites + ∑ j, (U.pc j).owed id - favoriteCount id U.shared =
        doc.stats.favorites - favoriteCount id S.shared)
    (L := fun _ => True) (fun U a V hU _ hV => ?_) as
    ⟨doc, hdoc, by rw [sum_owed_eq_zero id fun i => Or.inl (hstart i)]; omega⟩
    (fun _ _ => trivial) hrun
  · obtain ⟨doc', hdoc', hbalance⟩ := hI
    rw [sum_owed_eq_zero id fun i => Or.inr (hover i)] at hbalance
    exact ⟨doc', hdoc', by omega⟩
  · cases a with
    | env e => exact e.elim
    | act i c =>
        obtain ⟨s', p', hn, rfl⟩ := step_act.1 hV
        obtain ⟨doc₁, hdoc₁, hU⟩ := hU
        obtain ⟨doc₂, hdoc₂, hstep⟩ := step_balance hn hdoc₁
        have hsum := Threads.sum_update (fun p => p.owed id) U.pc i p'
        exact ⟨doc₂, hdoc₂, by simp only; omega⟩

end Run

/-- Two users have saved the demo listing. -/
def savedTwice : FavoriteStore where
  favorites := ⟨[⟨"user-1", demoProperty.propertyId⟩, ⟨"user-2", demoProperty.propertyId⟩],
    by decide⟩
  listings := ⟨[{ demoProperty with stats := ⟨7, 2, 0⟩ }], [mirrorOf demoProperty]⟩

/-- The third user double-clicks, the first one unsaves. -/
def doubleClick : Fin 3 → FavoritePc
  | 0 => .countProperty ⟨"user-3", demoProperty.propertyId⟩
  | 1 => .countProperty ⟨"user-3", demoProperty.propertyId⟩
  | 2 => .deleteMany ⟨"user-1", demoProperty.propertyId⟩

/-- Both clicks find no row, one creates it and the other is refused. -/
theorem favorites_counted_demo :
    ∃ T, (favouring (Fin 3)).run ⟨savedTwice, doubleClick⟩
        [.act 0 (), .act 1 (), .act 0 (), .act 1 (), .act 2 (), .act 0 (), .act 1 (), .act 2 (),
          .act 0 ()] = some T ∧
      ∃ doc', T.shared.listings.findOne demoProperty.propertyId = some doc' ∧
        doc'.stats.favorites - 2 =
          (favoriteCount demoProperty.propertyId T.shared : ℤ) -
            favoriteCount demoProperty.propertyId savedTwice := by
  have hrun : (((favouring (Fin 3)).run ⟨savedTwice, doubleClick⟩
      [.act 0 (), .act 1 (), .act 0 (), .act 1 (), .act 2 (), .act 0 (), .act 1 (), .act 2 (),
        .act 0 ()]).map fun T => decide (∀ i, (T.pc i).isOver = true)) = some true := by decide
  obtain ⟨T, hT, hover⟩ := Option.map_eq_some_iff.1 hrun
  exact ⟨T, hT, favorites_counted ⟨savedTwice, doubleClick⟩ T _ (by decide) hT
    (of_decide_eq_true hover) demoProperty.propertyId { demoProperty with stats := ⟨7, 2, 0⟩ } rfl⟩

end Favorites
end TopChoice
