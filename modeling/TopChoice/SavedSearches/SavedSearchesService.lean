/-
# Saved searches and their quota

`apps/api-core/src/modules/saved-searches/saved-searches.module.ts`: `create`, `update` and
`remove` as the sequences of the statements they await.  `create` counts the searches of the
user and inserts a row when there are fewer than `MAX_SAVED_SEARCHES`; nothing keeps another
request of the user from inserting in between.

A create that has counted and not inserted yet holds a claim.  The quota is kept in every run
in which no create finds room that the claims before it have taken (`quota_kept`), and once one
does the inserts that are due exceed it (`quota_exceeded`).

`list` only reads; the columns `lastRunAt`, `createdAt` and `updatedAt` are left out.
-/

import Mathlib.Data.Fintype.EquivFin
import Mathlib.Data.Countable.Basic
import TopChoice.Lib.Reservations
import TopChoice.Lib.Table
import TopChoice.Listing.Mirror

namespace TopChoice
namespace SavedSearches

open Listing (Thrown)
open Threads

/-- A row of `saved_searches`; the criteria are JSON. -/
structure SavedSearch where
  id : String
  userId : String
  name : String
  criteria : String
  alertEnabled : Bool
  deriving DecidableEq, Repr

/-- `CreateSavedSearchDto`. -/
structure CreateSavedSearchDto where
  name : String
  criteria : String
  alertEnabled : Option Bool := none
  deriving DecidableEq, Repr

/-- `UpdateSavedSearchDto`. -/
structure UpdateSavedSearchDto where
  name : Option String := none
  criteria : Option String := none
  alertEnabled : Option Bool := none
  deriving DecidableEq, Repr

/-- `MAX_SAVED_SEARCHES`. -/
def maxSavedSearches : ℕ := 50

/-- What a request returns. -/
inductive Reply where
  | saved (row : SavedSearch)
  | deleted (id : String)
  deriving DecidableEq, Repr

/-- Where a request stands: the statement it issues next, with what it holds. -/
inductive SavedSearchPc where
  | count (userId : String) (dto : CreateSavedSearchDto)
  | create (userId : String) (dto : CreateSavedSearchDto)
  | ensureOwnedUpdate (userId id : String) (dto : UpdateSavedSearchDto)
  | update (id : String) (dto : UpdateSavedSearchDto)
  | ensureOwnedRemove (userId id : String)
  | delete (id : String)
  | returned (reply : Reply)
  | thrown (error : Thrown)
  deriving DecidableEq, Repr

/-- The row `prisma.savedSearch.create` inserts. -/
def newRow (id userId : String) (dto : CreateSavedSearchDto) : SavedSearch where
  id := id
  userId := userId
  name := dto.name
  criteria := dto.criteria
  alertEnabled := dto.alertEnabled.getD false

/-- The `data` of `prisma.savedSearch.update`. -/
def rewrite (dto : UpdateSavedSearchDto) (row : SavedSearch) : SavedSearch :=
  { row with
    name := dto.name.getD row.name
    criteria := dto.criteria.getD row.criteria
    alertEnabled := dto.alertEnabled.getD row.alertEnabled }

/-- `ERROR_CODES.BAD_REQUEST` of a create over the quota. -/
def tooMany : Thrown :=
  .app (.badRequest
    ("You can save at most " ++ toString maxSavedSearches ++ " searches — delete one first")
    .badRequest)

/-- `SAVED_SEARCH_NOT_FOUND`. -/
def savedSearchNotFound (id : String) : Thrown :=
  .app (.notFound ("Saved search \"" ++ id ++ "\" was not found") .savedSearchNotFound)

/-- What Prisma rejects a statement on a missing row with. -/
def recordNotFound : Thrown := .driver "No record was found (P2025)"

/-- `count({ where: { userId } })`. -/
def savedCount (userId : String) (rows : List SavedSearch) : ℕ :=
  Table.count (fun row => row.userId = userId) rows

/-- `ensureOwned`. -/
def ensureOwned (userId id : String) (rows : List SavedSearch) (go : SavedSearchPc) :
    SavedSearchPc :=
  if Table.count (fun row => row.id = id && row.userId = userId) rows = 0 then
    .thrown (savedSearchNotFound id)
  else go

/-- One statement of a request; the choice is the id a new row gets. -/
def SavedSearchPc.next (rows : List SavedSearch) :
    SavedSearchPc → String → Option (List SavedSearch × SavedSearchPc)
  -- create
  | .count userId dto, _ =>
      if maxSavedSearches ≤ savedCount userId rows then some (rows, .thrown tooMany)
      else some (rows, .create userId dto)
  | .create userId dto, id =>
      if rows.any (fun row => row.id = id) then none
      else some (Table.create (newRow id userId dto) rows, .returned (.saved (newRow id userId dto)))
  -- update
  | .ensureOwnedUpdate userId id dto, _ => some (rows, ensureOwned userId id rows (.update id dto))
  | .update id dto, _ =>
      match Table.findUnique (fun row => row.id = id) rows with
      | none => some (rows, .thrown recordNotFound)
      | some row =>
        some (Table.updateOne (fun row => row.id = id) (rewrite dto) rows,
          .returned (.saved (rewrite dto row)))
  -- remove
  | .ensureOwnedRemove userId id, _ => some (rows, ensureOwned userId id rows (.delete id))
  | .delete id, _ =>
      match Table.findUnique (fun row => row.id = id) rows with
      | none => some (rows, .thrown recordNotFound)
      | some _ => some (Table.deleteOne (fun row => row.id = id) rows, .returned (.deleted id))
  | .returned _, _ => none
  | .thrown _, _ => none

/-- The request is still to issue its first statement. -/
def SavedSearchPc.isStart : SavedSearchPc → Bool
  | .count _ _ => true
  | .ensureOwnedUpdate _ _ _ => true
  | .ensureOwnedRemove _ _ => true
  | _ => false

/-- Every interleaving of the requests. -/
def saving (ι : Type) [DecidableEq ι] :
    Machine (Sys (List SavedSearch) ι SavedSearchPc) (Action ι String Empty) :=
  Threads.machine SavedSearchPc.next fun rows _ => rows

/-! ### Claims -/

/-- The rows a request has found room for and not inserted yet. -/
def SavedSearchPc.claim (userId : String) : SavedSearchPc → ℕ
  | .create user _ => if user = userId then 1 else 0
  | _ => 0

/-- What a count grants: the room for one row, when it finds fewer than the quota. -/
def SavedSearchPc.grant (userId : String) (rows : List SavedSearch) : SavedSearchPc → ℕ
  | .count user _ =>
      if user = userId ∧ savedCount userId rows < maxSavedSearches then 1 else 0
  | _ => 0

section Step

variable {rows rows' : List SavedSearch} {p p' : SavedSearchPc} {id : String} (userId : String)

theorem claim_ensureOwned {user id : String} {go : SavedSearchPc} (hgo : go.claim userId = 0) :
    (ensureOwned user id rows go).claim userId = 0 := by
  unfold ensureOwned
  split_ifs
  · rfl
  · exact hgo

/-- **What a statement uses and claims** is what it did before, and what a count grants. -/
theorem claim_next (h : p.next rows id = some (rows', p')) :
    savedCount userId rows' + p'.claim userId ≤
      savedCount userId rows + p.claim userId + p.grant userId rows := by
  cases p with
  | count user dto =>
    rw [SavedSearchPc.next] at h
    split_ifs at h with hfull <;> obtain ⟨rfl, rfl⟩ := Prod.mk.inj (Option.some.inj h)
    · exact Nat.le_add_right _ _
    · simp only [SavedSearchPc.claim, SavedSearchPc.grant]
      by_cases huser : user = userId
      · subst huser
        rw [if_pos rfl, if_pos ⟨rfl, Nat.lt_of_not_le hfull⟩]
      · rw [if_neg huser, if_neg fun h => huser h.1]
  | create user dto =>
    rw [SavedSearchPc.next] at h
    split_ifs at h
    obtain ⟨rfl, rfl⟩ := Prod.mk.inj (Option.some.inj h)
    simp only [savedCount, Table.count_create, SavedSearchPc.claim, newRow, decide_eq_true_eq]
    omega
  | ensureOwnedUpdate user id dto =>
    obtain ⟨rfl, rfl⟩ := Prod.mk.inj (Option.some.inj h)
    rw [claim_ensureOwned userId rfl]
    exact Nat.le_add_right _ _
  | update id dto =>
    rw [SavedSearchPc.next] at h
    split at h <;> obtain ⟨rfl, rfl⟩ := Prod.mk.inj (Option.some.inj h)
    · exact Nat.le_add_right _ _
    next row hrow =>
      have hcount := Table.count_updateOne (p := fun row => decide (row.userId = userId))
        (f := rewrite dto) hrow
      have hsame : (rewrite dto row).userId = row.userId := rfl
      rw [hsame] at hcount
      exact (Nat.add_right_cancel hcount).le.trans (Nat.le_add_right _ _)
  | ensureOwnedRemove user id =>
    obtain ⟨rfl, rfl⟩ := Prod.mk.inj (Option.some.inj h)
    rw [claim_ensureOwned userId rfl]
    exact Nat.le_add_right _ _
  | delete id =>
    rw [SavedSearchPc.next] at h
    split at h <;> obtain ⟨rfl, rfl⟩ := Prod.mk.inj (Option.some.inj h)
    · exact Nat.le_add_right _ _
    next row hrow =>
      have hcount := Table.count_deleteOne (p := fun row => decide (row.userId = userId)) hrow
      simp only [savedCount, SavedSearchPc.claim, SavedSearchPc.grant]
      omega
  | returned reply => cases h
  | thrown error => cases h

end Step

/-! ### The quota -/

section Quota

variable {ι : Type} [DecidableEq ι] [Fintype ι] (userId : String)

/-- A create that finds room for its row finds room for those of the creates that have counted
before it and not inserted yet as well. -/
def RoomForClaims (S : Sys (List SavedSearch) ι SavedSearchPc) :
    Action ι String Empty → Prop :=
  Room (savedCount userId) (SavedSearchPc.claim userId) (SavedSearchPc.grant userId)
    maxSavedSearches S

instance (S : Sys (List SavedSearch) ι SavedSearchPc) (action : Action ι String Empty) :
    Decidable (RoomForClaims userId S action) :=
  inferInstanceAs (Decidable (Room ..))

/-- **The quota is kept** by any number of requests, their statements in any order, as long as
every create that passes its check finds room for the creates that passed theirs before it and
have not inserted yet. -/
theorem quota_kept (S T : Sys (List SavedSearch) ι SavedSearchPc)
    (actions : List (Action ι String Empty)) (hstart : ∀ i, (S.pc i).isStart = true)
    (hquota : savedCount userId S.shared ≤ maxSavedSearches)
    (hroom : (saving ι).Meets (RoomForClaims userId) S actions)
    (hrun : (saving ι).run S actions = some T) :
    savedCount userId T.shared ≤ maxSavedSearches := by
  have hnone : ∑ i, (S.pc i).claim userId = 0 := by
    refine Finset.sum_eq_zero fun i _ => ?_
    have hi := hstart i
    cases hpc : S.pc i <;> rw [hpc] at hi <;> first | rfl | cases hi
  have hcommitted : committed (savedCount userId) (SavedSearchPc.claim userId) S ≤
      maxSavedSearches := by
    rw [committed, hnone]
    exact hquota
  have hend := committed_le (fun h => claim_next userId h) (fun _ e => e.elim) actions hcommitted
    hroom hrun
  exact (Nat.le_add_right _ _).trans hend

/-- A create that is due can insert its row. -/
theorem claim_used (rows : List SavedSearch) (p : SavedSearchPc) (hclaim : 0 < p.claim userId) :
    ∃ id rows' p', p.next rows id = some (rows', p') ∧
      savedCount userId rows' = savedCount userId rows + p.claim userId ∧
      p'.claim userId = 0 := by
  cases p with
  | create user dto =>
    obtain ⟨id, hid⟩ := Infinite.exists_notMem_finset (rows.map SavedSearch.id).toFinset
    have hfresh : ¬rows.any (fun row => row.id = id) = true := by
      intro hany
      obtain ⟨row, hrow, heq⟩ := List.any_eq_true.1 hany
      exact hid (List.mem_toFinset.2 (List.mem_map.2 ⟨row, hrow, of_decide_eq_true heq⟩))
    refine ⟨id, _, _, if_neg hfresh, ?_, rfl⟩
    simp only [savedCount, Table.count_create, SavedSearchPc.claim, newRow, decide_eq_true_eq]
  | count user dto => cases hclaim
  | ensureOwnedUpdate user id dto => cases hclaim
  | update id dto => cases hclaim
  | ensureOwnedRemove user id => cases hclaim
  | delete id => cases hclaim
  | returned reply => cases hclaim
  | thrown error => cases hclaim

/-- **The condition leaves nothing out:** a create that passes its check without that room can
be followed by the inserts that are due, and they exceed the quota. -/
theorem quota_exceeded {S T : Sys (List SavedSearch) ι SavedSearchPc}
    {action : Action ι String Empty} (hstep : (saving ι).step S action = some T)
    (hroom : ¬RoomForClaims userId S action) :
    ∃ actions U, (saving ι).run T actions = some U ∧
      maxSavedSearches < savedCount userId U.shared := by
  cases action with
  | env e => exact e.elim
  | act i c =>
    obtain ⟨hgrant, hover⟩ := not_or.1 hroom
    obtain ⟨rows', p', hnext, rfl, hcount⟩ :=
      committed_act (savedCount userId) (SavedSearchPc.claim userId) hstep
    have hclaimed : savedCount userId rows' + p'.claim userId =
        savedCount userId S.shared + (S.pc i).claim userId +
          (S.pc i).grant userId S.shared := by
      cases hpc : S.pc i with
      | count user dto =>
        rw [hpc] at hnext hgrant
        have hfree : user = userId ∧ savedCount userId S.shared < maxSavedSearches := by
          by_contra hfull
          exact hgrant (if_neg hfull)
        have hgranted : (SavedSearchPc.count user dto).grant userId S.shared = 1 := if_pos hfree
        obtain ⟨rfl, hlt⟩ := hfree
        rw [SavedSearchPc.next, if_neg (Nat.not_le.2 hlt)] at hnext
        obtain ⟨rfl, rfl⟩ := Prod.mk.inj (Option.some.inj hnext)
        have hclaimed : (SavedSearchPc.create user dto).claim user = 1 := if_pos rfl
        rw [hgranted, hclaimed]
        rfl
      | _ => rw [hpc] at hgrant; exact absurd rfl hgrant
    obtain ⟨actions, U, hrun, hU⟩ := run_claims SavedSearchPc.next (fun rows _ => rows)
      (claim_used userId) ⟨rows', Function.update S.pc i p'⟩
    refine ⟨actions, U, hrun, ?_⟩
    rw [hU]
    omega

end Quota

/-- A row of the demo user. -/
def demoRow (id : String) : SavedSearch := ⟨id, "u1", "New Cairo", "\x7b\x7d", false⟩

/-- The demo user has saved as many searches. -/
def savedRows (n : ℕ) : List SavedSearch :=
  (List.range n).map fun i => demoRow (String.ofList (List.replicate i 'a'))

/-- A request to save a search, and one to remove the first of them. -/
def saveAndRemove : Bool → SavedSearchPc
  | true => .count "u1" { name := "Zamalek", criteria := "\x7b\x7d" }
  | false => .ensureOwnedRemove "u1" ""

theorem quota_kept_demo :
    ∃ T, (saving Bool).run ⟨savedRows 2, saveAndRemove⟩
        [.act false "", .act true "", .act false "", .act true "b"] = some T ∧
      savedCount "u1" T.shared ≤ maxSavedSearches :=
  ⟨_, rfl, quota_kept "u1" ⟨savedRows 2, saveAndRemove⟩ _
    [.act false "", .act true "", .act false "", .act true "b"] (by decide) (by decide)
    (by decide) rfl⟩

/-- Two creates that count before either inserts. -/
theorem quota_not_kept :
    ∃ T : Sys (List SavedSearch) Bool SavedSearchPc,
      (saving Bool).run
          ⟨savedRows 49, fun _ => .count "u1" { name := "Zamalek", criteria := "\x7b\x7d" }⟩
          [.act true "", .act false "", .act true "b", .act false "c"] = some T ∧
        savedCount "u1" T.shared = 51 :=
  ⟨_, rfl, rfl⟩

end SavedSearches
end TopChoice
