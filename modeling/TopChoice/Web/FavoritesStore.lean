/-
# Optimistic favourites

`apps/web/src/store/favorites.store.ts` of one tab, over `GET /favorites`,
`POST /favorites/{id}` and `DELETE /favorites/{id}`: the local ids, the ids the server
holds, the `add` and `remove` calls whose request is open, and the runs of
`syncWithServer`.  The server answers requests in any order and the answers arrive in
any order; a request it rejects changes nothing there.  409 is for an id the server
holds and 404, on a `DELETE`, for one it does not.

`add` and `remove` move the id at once.  A rejected `add` takes the id out again, a
rejected `remove` puts back the whole list of the moment it was called, and a sync
writes the list it has put together before its last awaits, with the ids whose push was
rejected.  So a write of one call can undo what another has done
(`favourites_diverge`).  As long as each write is about what is still the case the
list converges to the server's (`favourites_converge`).

`pending`, which only the buttons read, and `lastSyncedAt` are left out.
-/

import Mathlib.Data.Finset.Dedup
import Mathlib.Data.Finset.Erase
import Mathlib.Data.Finset.Insert
import TopChoice.Lib.Threads

namespace TopChoice
namespace Web

/-! ### The store -/

/-- An answer of the server. -/
inductive Answer where
  | ok
  | error (status : ℕ)
  deriving DecidableEq, Repr

/-- `add` or `remove`, with the list it was called on. -/
inductive Mutation (α : Type) where
  | add
  | remove (snapshot : List α)
  deriving DecidableEq, Repr

/-- A call whose request is open, and the answer of the server, if it has answered. -/
structure FavoriteCall (α : Type) where
  id : α
  mutation : Mutation α
  answer : Option Answer
  deriving DecidableEq, Repr

/-- Where a `syncWithServer` stands: it has asked for the list, the server has answered,
or the pushes left to do are open. -/
inductive Sync (α : Type) where
  | listing (localIds : List α)
  | listed (localIds : List α) (items : Option (List α))
  | pushing (serverIds missingOnServer todo : List α)
  deriving DecidableEq, Repr

/-- The tab and the server; a call or a sync that is over is `none`. -/
structure Favorites (α ι κ : Type) where
  signedIn : Bool
  ids : List α
  server : Finset α
  calls : ι → Option (FavoriteCall α)
  syncs : κ → Option (Sync α)
  /-- Some sync has completed its list call. -/
  listed : Bool
  /-- Some sync has written its list. -/
  synced : Bool

/-- What happens next. -/
inductive FavoriteEvent (α ι κ : Type) where
  | add (i : ι) (id : α)
  | remove (i : ι) (id : α)
  | toggle (i : ι) (id : α)
  /-- The server answers the request of a call. -/
  | answer (i : ι) (answer : Answer)
  /-- The answer arrives. -/
  | arrive (i : ι)
  | syncWithServer (k : κ)
  /-- The server answers the list call of a sync: its ids in some order, or a rejection. -/
  | list (k : κ) (items : Option (List α))
  /-- The list arrives. -/
  | listArrives (k : κ)
  /-- The server answers the push of one id. -/
  | push (k : κ) (id : α) (answer : Answer)
  /-- The answers to all pushes have arrived. -/
  | write (k : κ)
  deriving DecidableEq

/-- The answer makes the call put its id, or its list, back. -/
def Mutation.rollsBack {α : Type} : Mutation α → Answer → Bool
  | _, .ok => false
  | .add, .error status => decide (status ≠ 409)
  | .remove _, .error status => decide (status ≠ 404)

/-- The server has rejected the call. -/
def FavoriteCall.rejected {α : Type} (call : FavoriteCall α) : Bool :=
  call.answer.any call.mutation.rollsBack

/-- The ids a sync is pushing. -/
def Sync.pushes {α : Type} : Sync α → List α
  | .pushing _ missingOnServer _ => missingOnServer
  | _ => []

/-- The list a sync is about to write. -/
def Sync.written {α : Type} : Sync α → Option (List α)
  | .pushing serverIds missingOnServer [] => some (serverIds ++ missingOnServer)
  | _ => none

section Machine

variable {α ι κ : Type} [DecidableEq α] [DecidableEq ι] [DecidableEq κ]

/-- What a `POST` leaves on the server. -/
def posted (id : α) (answer : Answer) (server : Finset α) : Option (Finset α) :=
  match answer with
  | .ok => some (insert id server)
  | .error status => if status = 409 ∧ id ∉ server then none else some server

/-- What a `DELETE` leaves on the server. -/
def deleted (id : α) (answer : Answer) (server : Finset α) : Option (Finset α) :=
  match answer with
  | .ok => some (server.erase id)
  | .error status => if status = 404 ∧ id ∈ server then none else some server

/-- What a request leaves on the server. -/
def FavoriteCall.served (call : FavoriteCall α) (answer : Answer) (server : Finset α) :
    Option (Finset α) :=
  match call.mutation with
  | .add => posted call.id answer server
  | .remove _ => deleted call.id answer server

/-- The local ids after the answer to a call. -/
def FavoriteCall.settle (call : FavoriteCall α) (answer : Answer) (ids : List α) : List α :=
  if call.mutation.rollsBack answer then
    match call.mutation with
    | .add => ids.filter (· ≠ call.id)
    | .remove snapshot => snapshot
  else ids

namespace Favorites

/-- A call opens its request; signed out there is none. -/
def openRequest (s : Favorites α ι κ) (i : ι) (call : FavoriteCall α) (ids : List α) :
    Option (Favorites α ι κ) :=
  if !s.signedIn then some { s with ids := ids }
  else match s.calls i with
    | some _ => none
    | none => some { s with ids := ids, calls := Function.update s.calls i (some call) }

/-- `add`. -/
def add (s : Favorites α ι κ) (i : ι) (id : α) : Option (Favorites α ι κ) :=
  if id ∈ s.ids then some s else s.openRequest i ⟨id, .add, none⟩ (id :: s.ids)

/-- `remove`. -/
def remove (s : Favorites α ι κ) (i : ι) (id : α) : Option (Favorites α ι κ) :=
  if id ∉ s.ids then some s
  else s.openRequest i ⟨id, .remove s.ids, none⟩ (s.ids.filter (· ≠ id))

/-- One event. -/
def step (s : Favorites α ι κ) : FavoriteEvent α ι κ → Option (Favorites α ι κ)
  | .add i id => s.add i id
  | .remove i id => s.remove i id
  | .toggle i id => if id ∈ s.ids then s.remove i id else s.add i id
  | .answer i answer =>
      (s.calls i).bind fun call =>
        if call.answer.isSome then none
        else (call.served answer s.server).map fun server =>
          { s with
            server := server
            calls := Function.update s.calls i (some { call with answer := some answer }) }
  | .arrive i =>
      (s.calls i).bind fun call => call.answer.map fun answer =>
        { s with
          ids := call.settle answer s.ids
          calls := Function.update s.calls i none }
  | .syncWithServer k =>
      if !s.signedIn then some s
      else match s.syncs k with
        | some _ => none
        | none => some { s with syncs := Function.update s.syncs k (some (.listing s.ids)) }
  | .list k items =>
      match s.syncs k with
      | some (.listing localIds) =>
          if items.any (fun items => decide (items.toFinset ≠ s.server)) then none
          else some { s with syncs := Function.update s.syncs k (some (.listed localIds items)) }
      | _ => none
  | .listArrives k =>
      match s.syncs k with
      | some (.listed localIds (some serverIds)) =>
          let missingOnServer := localIds.filter (· ∉ serverIds)
          some { s with
            listed := true
            syncs := Function.update s.syncs k
              (some (.pushing serverIds missingOnServer missingOnServer)) }
      -- offline or 401: the local list is kept
      | some (.listed _ none) => some { s with syncs := Function.update s.syncs k none }
      | _ => none
  | .push k id answer =>
      match s.syncs k with
      | some (.pushing serverIds missingOnServer todo) =>
          if id ∉ todo then none
          else (posted id answer s.server).map fun server =>
            { s with
              server := server
              syncs := Function.update s.syncs k
                (some (.pushing serverIds missingOnServer (todo.erase id))) }
      | _ => none
  | .write k =>
      match s.syncs k with
      | some (.pushing serverIds missingOnServer []) => some
          { s with
            ids := (serverIds ++ missingOnServer).eraseDups
            synced := true
            syncs := Function.update s.syncs k none }
      | _ => none

/-- A page that has just loaded, whatever it found in its storage. -/
def start (ids : List α) (server : Finset α) : Favorites α ι κ where
  signedIn := true
  ids := ids
  server := server
  calls _ := none
  syncs _ := none
  listed := false
  synced := false

end Favorites

namespace Favorites

variable (s : Favorites α ι κ)

/-- A call on the id is open. -/
def Called (id : α) : Prop := ∃ i, ∃ call ∈ s.calls i, call.id = id

/-- A sync is pushing the id. -/
def Pushed (id : α) : Prop := ∃ k, ∃ sync ∈ s.syncs k, id ∈ sync.pushes

/-- Another sync is pushing the id. -/
def PushedBeside (k : κ) (id : α) : Prop := ∃ k', k' ≠ k ∧ ∃ sync ∈ s.syncs k', id ∈ sync.pushes

/-- Everything has settled. -/
def Settled : Prop := (∀ i, s.calls i = none) ∧ ∀ k, s.syncs k = none

/-- Calls on one id do not overlap. -/
def Apart : FavoriteEvent α ι κ → Prop
  | .add _ id => ¬ s.Called id
  | .remove _ id => ¬ s.Called id
  | .toggle _ id => ¬ s.Called id
  | _ => True

/-- The list a sync is about to write fits: it has the ids of open `add`s and not those
of open `remove`s, unless the server has rejected them, and of the other ids those the
server holds. -/
def Fits (k : κ) (list : List α) : Prop :=
  (∀ i, ∀ call ∈ s.calls i, call.rejected = false → (call.id ∈ list ↔ call.mutation = .add)) ∧
    ∀ id, ¬ s.Called id → ¬ s.PushedBeside k id → (id ∈ list ↔ id ∈ s.server)

/-- The rollback of a rejected call fits: of an `add` when the server does not hold the
id; of a `remove` when it does, and the list the call was made on is the present one with
the id. -/
def RollbackFits (call : FavoriteCall α) : Prop :=
  match call.mutation with
  | .add => call.id ∉ s.server ∨ s.Pushed call.id
  | .remove snapshot => (call.id ∈ s.server ∨ s.Pushed call.id) ∧
      ∀ id, id ∈ snapshot ↔ id ∈ s.ids ∨ id = call.id

/-- The condition on an event: what a sync writes fits, and so does what a rejected call
puts back after the first sync. -/
def Undisturbed : FavoriteEvent α ι κ → Prop
  | .arrive i => s.synced = true → ∀ call ∈ s.calls i, call.rejected = true → s.RollbackFits call
  | .write k => ∀ sync ∈ s.syncs k, ∀ list ∈ sync.written, s.Fits k list
  | _ => True

end Favorites

/-! ### One event -/

/-- A request changes the server's set at its own id only. -/
theorem mem_served {call : FavoriteCall α} {answer : Answer} {server server' : Finset α} {id : α}
    (h : call.served answer server = some server') (hid : id ≠ call.id) :
    id ∈ server' ↔ id ∈ server := by
  cases hm : call.mutation <;> cases answer <;>
    simp only [FavoriteCall.served, hm, posted, deleted] at h
  case add.error => split_ifs at h; obtain rfl := Option.some.inj h; rfl
  case remove.error => split_ifs at h; obtain rfl := Option.some.inj h; rfl
  case add.ok =>
    obtain rfl := Option.some.inj h
    simp [hid]
  case remove.ok =>
    obtain rfl := Option.some.inj h
    simp [hid]

/-- What a request that is not rejected has made sure of. -/
theorem served_self {call : FavoriteCall α} {answer : Answer} {server server' : Finset α}
    (h : call.served answer server = some server') (hok : call.mutation.rollsBack answer = false) :
    call.id ∈ server' ↔ call.mutation = .add := by
  cases hm : call.mutation <;> cases answer <;>
    simp only [FavoriteCall.served, hm, posted, deleted] at h <;>
    simp only [hm, Mutation.rollsBack, decide_eq_false_iff_not, not_not] at hok
  case add.ok =>
    obtain rfl := Option.some.inj h
    simp
  case add.error =>
    split_ifs at h with hnot
    obtain rfl := Option.some.inj h
    simpa using not_not.1 fun hmem => hnot ⟨hok, hmem⟩
  case remove.ok =>
    obtain rfl := Option.some.inj h
    simp
  case remove.error =>
    split_ifs at h with hnot
    obtain rfl := Option.some.inj h
    simpa using fun hmem => hnot ⟨hok, hmem⟩

/-- A push only adds its id. -/
theorem mem_posted (id' : α) {id : α} {answer : Answer} {server server' : Finset α}
    (h : posted id answer server = some server') :
    (id' ∈ server → id' ∈ server') ∧ (id' ≠ id → (id' ∈ server' ↔ id' ∈ server)) := by
  cases answer with
  | ok =>
      obtain rfl := Option.some.inj h
      exact ⟨fun hmem => Finset.mem_insert_of_mem hmem, fun hne => by simp [hne]⟩
  | error status =>
      simp only [posted] at h
      split_ifs at h
      obtain rfl := Option.some.inj h
      exact ⟨fun hmem => hmem, fun _ => Iff.rfl⟩

namespace Favorites

variable {s s' : Favorites α ι κ}

/-- After the first sync the list agrees with the server wherever nothing is open; open
calls that are not rejected have moved their id; and what the server has answered is so. -/
structure Converging (s : Favorites α ι κ) : Prop where
  signedIn : s.signedIn = true
  alone : ∀ i j call call', s.calls i = some call → s.calls j = some call' →
    call.id = call'.id → i = j
  todo : ∀ k serverIds missingOnServer todo,
    s.syncs k = some (.pushing serverIds missingOnServer todo) →
      ∀ id ∈ todo, id ∈ missingOnServer
  served : ∀ i call, s.calls i = some call → call.answer.isSome = true → call.rejected = false →
    (call.id ∈ s.server ↔ call.mutation = .add) ∨ (call.mutation ≠ .add ∧ s.Pushed call.id)
  promised : s.listed = true → s.synced = true ∨ ∃ k serverIds missingOnServer todo,
    s.syncs k = some (.pushing serverIds missingOnServer todo)
  agree : s.synced = true → ∀ id, ¬ s.Called id → ¬ s.Pushed id → (id ∈ s.ids ↔ id ∈ s.server)
  optimistic : s.synced = true → ∀ i call, s.calls i = some call → call.rejected = false →
    (call.id ∈ s.ids ↔ call.mutation = .add)

omit [DecidableEq α] [DecidableEq ι] [DecidableEq κ] in
theorem Converging.start (ids : List α) (server : Finset α) :
    Converging (start ids server : Favorites α ι κ) where
  signedIn := rfl
  alone _ _ _ _ h := by cases h
  todo _ _ _ _ h := by cases h
  served _ _ h := by cases h
  promised h := by cases h
  agree h := by cases h
  optimistic h := by cases h

omit [DecidableEq α] [DecidableEq κ] in
/-- A call moves its id and opens its request. -/
theorem Converging.openRequest (h : Converging s) {i : ι} {call : FavoriteCall α} {ids : List α}
    (hcall : call.answer = none) (hfree : ¬ s.Called call.id)
    (hmoved : call.id ∈ ids ↔ call.mutation = .add)
    (hrest : ∀ id, id ≠ call.id → (id ∈ ids ↔ id ∈ s.ids))
    (hstep : s.openRequest i call ids = some s') : Converging s' := by
  rw [Favorites.openRequest, if_neg (by simp [h.signedIn])] at hstep
  split at hstep
  · cases hstep
  · next hi =>
      obtain rfl := Option.some.inj hstep
      refine ⟨h.signedIn, ?_, h.todo, ?_, h.promised, ?_, ?_⟩
      · intro j k call₁ call₂ hj hk hid
        rcases Threads.pc_update_eq hj with ⟨hji, he⟩ | ⟨hji, hj'⟩ <;>
          rcases Threads.pc_update_eq hk with ⟨hki, he'⟩ | ⟨hki, hk'⟩
        · rw [hji, hki]
        · obtain rfl := Option.some.inj he
          exact absurd ⟨k, call₂, hk', hid.symm⟩ hfree
        · obtain rfl := Option.some.inj he'
          exact absurd ⟨j, call₁, hj', hid⟩ hfree
        · exact h.alone j k call₁ call₂ hj' hk' hid
      · intro j call' hj hanswer hlive
        rcases Threads.pc_update_eq hj with ⟨-, he⟩ | ⟨-, hj'⟩
        · obtain rfl := Option.some.inj he
          rw [hcall] at hanswer
          cases hanswer
        · exact h.served j call' hj' hanswer hlive
      · intro hsynced id hcalled hpushed
        have hne : id ≠ call.id := fun he => hcalled ⟨i, call, by simp, he.symm⟩
        have hcalled' : ¬ s.Called id := fun ⟨j, call', hj, hid⟩ =>
          hcalled ⟨j, call', by
            have hji : j ≠ i := fun he => by rw [he, hi] at hj; cases hj
            simpa [Function.update_of_ne hji] using hj, hid⟩
        exact (hrest id hne).trans (h.agree hsynced id hcalled' hpushed)
      · intro hsynced j call' hj hlive
        rcases Threads.pc_update_eq hj with ⟨-, he⟩ | ⟨-, hj'⟩
        · obtain rfl := Option.some.inj he
          exact hmoved
        · have hne : call'.id ≠ call.id := fun he => hfree ⟨j, call', hj', he⟩
          exact (hrest _ hne).trans (h.optimistic hsynced j call' hj' hlive)

omit [DecidableEq κ] in
/-- The server answers a call. -/
theorem Converging.answer (h : Converging s) {i : ι} {call : FavoriteCall α} {answer : Answer}
    {server : Finset α} (hi : s.calls i = some call) (hopen : call.answer = none)
    (hserved : call.served answer s.server = some server) :
    Converging { s with
      server := server
      calls := Function.update s.calls i (some { call with answer := some answer }) } := by
  -- whoever is called was called, and the other ids are as they were
  have hold : ∀ {j call'}, Function.update s.calls i (some { call with answer := some answer }) j =
      some call' → ∃ old, s.calls j = some old ∧ old.id = call'.id ∧ old.mutation = call'.mutation ∧
        (call'.rejected = false → old.rejected = false) := by
    intro j call' hj
    rcases Threads.pc_update_eq hj with ⟨rfl, he⟩ | ⟨-, hj'⟩
    · obtain rfl := Option.some.inj he
      exact ⟨call, hi, rfl, rfl, fun _ => by simp [FavoriteCall.rejected, hopen]⟩
    · exact ⟨call', hj', rfl, rfl, fun hlive => hlive⟩
  refine ⟨h.signedIn, ?_, h.todo, ?_, h.promised, ?_, ?_⟩
  · intro j k call₁ call₂ hj hk hid
    obtain ⟨old₁, hj', hid₁, -, -⟩ := hold hj
    obtain ⟨old₂, hk', hid₂, -, -⟩ := hold hk
    exact h.alone j k old₁ old₂ hj' hk' (by rw [hid₁, hid₂, hid])
  · intro j call' hj hanswer hlive
    rcases Threads.pc_update_eq hj with ⟨-, he⟩ | ⟨hji, hj'⟩
    · obtain rfl := Option.some.inj he
      exact Or.inl (served_self hserved (by simpa [FavoriteCall.rejected] using hlive))
    · have hne : call'.id ≠ call.id := fun he => hji (h.alone j i call' call hj' hi he)
      exact (h.served j call' hj' hanswer hlive).imp_left fun hiff => (mem_served hserved hne).trans hiff
  · intro hsynced id hcalled hpushed
    have hcalled' : ¬ s.Called id := by
      rintro ⟨j, call', hj, hid⟩
      by_cases hji : j = i
      · subst hji
        obtain rfl := Option.some.inj (hi.symm.trans hj)
        exact hcalled ⟨j, { call with answer := some answer }, by simp, hid⟩
      · exact hcalled ⟨j, call', by simpa [Function.update_of_ne hji] using hj, hid⟩
    have hne : id ≠ call.id := fun he => hcalled' ⟨i, call, hi, he.symm⟩
    exact (h.agree hsynced id hcalled' hpushed).trans (mem_served hserved hne).symm
  · intro hsynced j call' hj hlive
    obtain ⟨old, hj', hid, hmutation, hlive'⟩ := hold hj
    rw [← hid, ← hmutation]
    exact h.optimistic hsynced j old hj' (hlive' hlive)

omit [DecidableEq ι] [DecidableEq κ] in
/-- What an answer does to the list, when its rollback fits. -/
theorem mem_settle {call : FavoriteCall α} {answer : Answer} (hanswer : call.answer = some answer)
    (hfits : call.rejected = true → s.RollbackFits call) :
    (∀ id, id ≠ call.id → (id ∈ call.settle answer s.ids ↔ id ∈ s.ids)) ∧
      (call.rejected = true → ¬ s.Pushed call.id →
        (call.id ∈ call.settle answer s.ids ↔ call.id ∈ s.server)) := by
  by_cases hback : call.mutation.rollsBack answer = true
  · have hrejected : call.rejected = true := by simpa [FavoriteCall.rejected, hanswer] using hback
    have hfits := hfits hrejected
    cases hm : call.mutation with
    | add =>
        have hback' : Mutation.rollsBack (.add : Mutation α) answer = true := hm ▸ hback
        simp only [RollbackFits, hm] at hfits
        simp only [FavoriteCall.settle, hm, hback', if_true, List.mem_filter, decide_eq_true_eq]
        refine ⟨fun id hne => by simp [hne], fun _ hpushed => ?_⟩
        have := hfits.resolve_right hpushed
        simp [this]
    | remove snapshot =>
        have hback' : (Mutation.remove snapshot).rollsBack answer = true := hm ▸ hback
        simp only [RollbackFits, hm] at hfits
        simp only [FavoriteCall.settle, hm, hback', if_true]
        refine ⟨fun id hne => by simp [hfits.2, hne], fun _ hpushed => ?_⟩
        have := hfits.1.resolve_right hpushed
        simp [hfits.2, this]
  · have hkept : call.settle answer s.ids = s.ids := if_neg hback
    rw [hkept]
    refine ⟨fun _ _ => Iff.rfl, fun hrejected => absurd ?_ hback⟩
    simpa [FavoriteCall.rejected, hanswer] using hrejected

omit [DecidableEq κ] in
/-- The answer to a call arrives. -/
theorem Converging.arrive (h : Converging s) {i : ι} {call : FavoriteCall α} {answer : Answer}
    (hi : s.calls i = some call) (hanswer : call.answer = some answer)
    (hC : s.synced = true → call.rejected = true → s.RollbackFits call) :
    Converging { s with
      ids := call.settle answer s.ids
      calls := Function.update s.calls i none } := by
  have hold : ∀ {j call'}, Function.update s.calls i none j = some call' →
      j ≠ i ∧ s.calls j = some call' := by
    intro j call' hj
    rcases Threads.pc_update_eq hj with ⟨-, he⟩ | hj'
    · cases he
    · exact hj'
  refine ⟨h.signedIn, ?_, h.todo, ?_, h.promised, ?_, ?_⟩
  · intro j k call₁ call₂ hj hk hid
    exact h.alone j k call₁ call₂ (hold hj).2 (hold hk).2 hid
  · intro j call' hj hanswer' hlive
    exact h.served j call' (hold hj).2 hanswer' hlive
  · intro hsynced id hcalled hpushed
    have hsettle := mem_settle hanswer (hC hsynced)
    by_cases hid : id = call.id
    · subst hid
      cases hlive : call.rejected with
      | true => exact hsettle.2 hlive hpushed
      | false =>
          have hkept : call.settle answer s.ids = s.ids := by
            have hback : call.mutation.rollsBack answer = false := by
              simpa [FavoriteCall.rejected, hanswer] using hlive
            simp [FavoriteCall.settle, hback]
          have hids := h.optimistic hsynced i call hi hlive
          have hserver := (h.served i call hi (by rw [hanswer]; rfl) hlive).resolve_right
            fun hp => hpushed hp.2
          simp only [hkept]
          exact hids.trans hserver.symm
    · have hcalled' : ¬ s.Called id := by
        rintro ⟨j, call', hj, hid'⟩
        have hji : j ≠ i := by
          rintro rfl
          obtain rfl := Option.some.inj (hi.symm.trans hj)
          exact hid hid'.symm
        exact hcalled ⟨j, call', by simpa [Function.update_of_ne hji] using hj, hid'⟩
      exact (hsettle.1 id hid).trans (h.agree hsynced id hcalled' hpushed)
  · intro hsynced j call' hj hlive
    obtain ⟨hji, hj'⟩ := hold hj
    have hne : call'.id ≠ call.id := fun he => hji (h.alone j i call' call hj' hi he)
    exact ((mem_settle hanswer (hC hsynced)).1 _ hne).trans (h.optimistic hsynced j call' hj' hlive)

omit [DecidableEq ι] in
/-- A sync goes on, pushes what it pushed, and changes no list. -/
theorem Converging.resync (h : Converging s) {k : κ} {sync? : Option (Sync α)} {listed : Bool}
    {server : Finset α}
    (hpushes : ∀ sync ∈ s.syncs k, ∀ id ∈ sync.pushes, ∃ sync' ∈ sync?, id ∈ sync'.pushes)
    (htodo : ∀ serverIds missingOnServer todo,
      sync? = some (.pushing serverIds missingOnServer todo) → ∀ id ∈ todo, id ∈ missingOnServer)
    (hlisted : listed = true → s.listed = true ∨
      ∃ serverIds missingOnServer todo, sync? = some (.pushing serverIds missingOnServer todo))
    (hstay : ∀ serverIds missingOnServer todo,
      s.syncs k = some (.pushing serverIds missingOnServer todo) →
        ∃ serverIds' missingOnServer' todo',
          sync? = some (.pushing serverIds' missingOnServer' todo'))
    (hserver : ∀ id, (id ∈ server ↔ id ∈ s.server) ∨
      (id ∈ server ∧ ∃ sync ∈ sync?, id ∈ sync.pushes)) :
    Converging { s with
      server := server
      listed := listed
      syncs := Function.update s.syncs k sync? } := by
  have hpushed : ∀ id, s.Pushed id → Pushed { s with
      server := server
      listed := listed
      syncs := Function.update s.syncs k sync? } id := by
    rintro id ⟨k', sync, hk', hid⟩
    by_cases he : k' = k
    · subst he
      obtain ⟨sync', hsync', hid'⟩ := hpushes sync hk' id hid
      exact ⟨k', sync', by simpa using hsync', hid'⟩
    · exact ⟨k', sync, by simpa [Function.update_of_ne he] using hk', hid⟩
  have hserver' : ∀ id, (id ∈ server ↔ id ∈ s.server) ∨ (id ∈ server ∧ Pushed { s with
      server := server
      listed := listed
      syncs := Function.update s.syncs k sync? } id) := fun id =>
    (hserver id).imp_right fun ⟨hmem, sync, hsync, hid⟩ =>
      ⟨hmem, k, sync, by simpa using hsync, hid⟩
  refine ⟨h.signedIn, h.alone, ?_, ?_, ?_, ?_, h.optimistic⟩
  · intro k' serverIds missingOnServer todo hk'
    rcases Threads.pc_update_eq hk' with ⟨-, he⟩ | ⟨-, hk'⟩
    · exact htodo serverIds missingOnServer todo he
    · exact h.todo k' serverIds missingOnServer todo hk'
  · intro i call hi hanswer hlive
    rcases h.served i call hi hanswer hlive with hiff | ⟨hne, hp⟩
    · rcases hserver' call.id with hsame | ⟨hmem, hp⟩
      · exact Or.inl (hsame.trans hiff)
      · by_cases hadd : call.mutation = .add
        · exact Or.inl ⟨fun _ => hadd, fun _ => hmem⟩
        · exact Or.inr ⟨hadd, hp⟩
    · exact Or.inr ⟨hne, hpushed _ hp⟩
  · intro hl
    have hown : (∃ serverIds missingOnServer todo,
        sync? = some (.pushing serverIds missingOnServer todo)) →
        ∃ k' serverIds missingOnServer todo, Function.update s.syncs k sync? k' =
          some (.pushing serverIds missingOnServer todo) := fun ⟨a, b, c, he⟩ =>
      ⟨k, a, b, c, by simpa using he⟩
    rcases hlisted hl with hold | hnew
    · refine (h.promised hold).imp_right fun ⟨k', serverIds, missingOnServer, todo, hk'⟩ => ?_
      by_cases he : k' = k
      · subst he
        exact hown (hstay serverIds missingOnServer todo hk')
      · exact ⟨k', serverIds, missingOnServer, todo, by simpa [Function.update_of_ne he] using hk'⟩
    · exact Or.inr (hown hnew)
  · intro hsynced id hcalled hnot
    have hsame := (hserver' id).resolve_right fun hp => hnot hp.2
    exact (h.agree hsynced id hcalled fun hp => hnot (hpushed id hp)).trans hsame.symm

omit [DecidableEq ι] in
/-- A sync writes its list, which fits. -/
theorem Converging.write (h : Converging s) {k : κ} {serverIds missingOnServer : List α}
    (hk : s.syncs k = some (.pushing serverIds missingOnServer []))
    (hfits : s.Fits k (serverIds ++ missingOnServer)) :
    Converging { s with
      ids := (serverIds ++ missingOnServer).eraseDups
      synced := true
      syncs := Function.update s.syncs k none } := by
  have hold : ∀ {k' sync}, Function.update s.syncs k none k' = some sync →
      k' ≠ k ∧ s.syncs k' = some sync := by
    intro k' sync hk'
    rcases Threads.pc_update_eq hk' with ⟨-, he⟩ | hk'
    · cases he
    · exact hk'
  refine ⟨h.signedIn, h.alone, ?_, ?_, fun _ => Or.inl rfl, fun _ id hcalled hpushed => ?_,
    fun _ i call hi hlive => ?_⟩
  · intro k' a b c hk'
    exact h.todo k' a b c (hold hk').2
  · intro i call hi hanswer hlive
    refine (h.served i call hi hanswer hlive).imp_right fun ⟨hne, k', sync, hk', hid⟩ => ?_
    -- what this sync has pushed is in its list, and the id of an open `remove` is not
    have hother : k' ≠ k := by
      rintro rfl
      obtain rfl := Option.some.inj (hk.symm.trans hk')
      have hmem : call.id ∈ serverIds ++ missingOnServer := List.mem_append_right _ hid
      exact hne ((hfits.1 i call hi hlive).1 hmem)
    exact ⟨hne, k', sync, by simpa [Function.update_of_ne hother] using hk', hid⟩
  · rw [List.mem_eraseDups]
    refine hfits.2 id hcalled fun ⟨k', hother, sync, hk', hid⟩ => hpushed ⟨k', sync, ?_, hid⟩
    simpa [Function.update_of_ne hother] using hk'
  · rw [List.mem_eraseDups]
    exact hfits.1 i call hi hlive

omit [DecidableEq κ] in
/-- A new call moves its own id. -/
theorem Converging.add (h : Converging s) {i : ι} {id : α} (hfree : ¬ s.Called id)
    (hstep : s.add i id = some s') : Converging s' := by
  simp only [Favorites.add] at hstep
  split_ifs at hstep
  · obtain rfl := Option.some.inj hstep
    exact h
  · exact h.openRequest rfl hfree (by simp) (fun id' hne => by simp [hne]) hstep

omit [DecidableEq κ] in
theorem Converging.remove (h : Converging s) {i : ι} {id : α} (hfree : ¬ s.Called id)
    (hstep : s.remove i id = some s') : Converging s' := by
  simp only [Favorites.remove] at hstep
  split_ifs at hstep
  · exact h.openRequest rfl hfree (by simp) (fun id' hne => by simp [hne]) hstep
  · obtain rfl := Option.some.inj hstep
    exact h

/-- **One event keeps the list converging.** -/
theorem Converging.step (h : Converging s) {event : FavoriteEvent α ι κ} (hA : s.Apart event)
    (hC : s.Undisturbed event) (hstep : s.step event = some s') : Converging s' := by
  cases event with
  | add i id => exact h.add hA hstep
  | remove i id => exact h.remove hA hstep
  | toggle i id =>
      simp only [Favorites.step] at hstep
      split_ifs at hstep
      · exact h.remove hA hstep
      · exact h.add hA hstep
  | answer i answer =>
      obtain ⟨call, hi, hanswer⟩ := Option.bind_eq_some_iff.1 hstep
      split_ifs at hanswer with hopen
      obtain ⟨server, hserved, rfl⟩ := Option.map_eq_some_iff.1 hanswer
      exact h.answer hi (by simpa using hopen) hserved
  | arrive i =>
      obtain ⟨call, hi, harrive⟩ := Option.bind_eq_some_iff.1 hstep
      obtain ⟨answer, hanswer, rfl⟩ := Option.map_eq_some_iff.1 harrive
      exact h.arrive hi hanswer fun hsynced => hC hsynced call hi
  | syncWithServer k =>
      simp only [Favorites.step] at hstep
      split at hstep
      · obtain rfl := Option.some.inj hstep
        exact h
      · split at hstep
        · cases hstep
        · next hk =>
            obtain rfl := Option.some.inj hstep
            exact h.resync (by simp [hk]) (by simp) Or.inl (by simp [hk]) fun id => Or.inl Iff.rfl
  | list k items =>
      simp only [Favorites.step] at hstep
      split at hstep
      · next hk =>
          split_ifs at hstep
          obtain rfl := Option.some.inj hstep
          exact h.resync (by simp [hk, Sync.pushes]) (by simp) Or.inl (by simp [hk])
            fun id => Or.inl Iff.rfl
      · cases hstep
  | listArrives k =>
      simp only [Favorites.step] at hstep
      split at hstep
      · next localIds serverIds hk =>
          obtain rfl := Option.some.inj hstep
          refine h.resync (by simp [hk, Sync.pushes]) ?_ (fun _ => Or.inr ⟨_, _, _, rfl⟩)
            (by simp [hk]) fun id => Or.inl Iff.rfl
          rintro a b c ⟨⟩
          exact fun id hid => hid
      · next hk =>
          obtain rfl := Option.some.inj hstep
          exact h.resync (by simp [hk, Sync.pushes]) (by simp) Or.inl (by simp [hk])
            fun id => Or.inl Iff.rfl
      · cases hstep
  | push k id answer =>
      simp only [Favorites.step] at hstep
      split at hstep
      · next serverIds missingOnServer todo hk =>
          split_ifs at hstep with hnot
          obtain ⟨server, hposted, rfl⟩ := Option.map_eq_some_iff.1 hstep
          have hid : id ∈ missingOnServer := h.todo k _ _ _ hk id hnot
          refine h.resync (by simp [hk, Sync.pushes]) ?_ Or.inl (fun _ _ _ _ => ⟨_, _, _, rfl⟩) ?_
          · rintro a b c ⟨⟩
            exact fun id' hid' => h.todo k _ _ _ hk id' (List.mem_of_mem_erase hid')
          · intro id'
            obtain ⟨hkeep, hsame⟩ := mem_posted id' hposted
            by_cases he : id' = id
            · subst he
              by_cases hmem : id' ∈ server
              · exact Or.inr ⟨hmem, _, rfl, hid⟩
              · exact Or.inl ⟨fun hin => absurd hin hmem, hkeep⟩
            · exact Or.inl (hsame he)
      · cases hstep
  | write k =>
      simp only [Favorites.step] at hstep
      split at hstep
      · next serverIds missingOnServer hk =>
          obtain rfl := Option.some.inj hstep
          exact h.write hk (hC _ hk _ rfl)
      · cases hstep

end Favorites

end Machine

/-! ### Two listings -/

section Demo

variable (s : Favorites Bool Bool Bool)

instance (id : Bool) : Decidable (s.Called id) :=
  inferInstanceAs (Decidable (∃ i, ∃ call ∈ s.calls i, call.id = id))

instance (id : Bool) : Decidable (s.Pushed id) :=
  inferInstanceAs (Decidable (∃ k, ∃ sync ∈ s.syncs k, id ∈ sync.pushes))

instance (k id : Bool) : Decidable (s.PushedBeside k id) :=
  inferInstanceAs (Decidable (∃ k', k' ≠ k ∧ ∃ sync ∈ s.syncs k', id ∈ sync.pushes))

instance : Decidable s.Settled :=
  inferInstanceAs (Decidable ((∀ i, s.calls i = none) ∧ ∀ k, s.syncs k = none))

instance : ∀ event, Decidable (s.Apart event)
  | .add _ id => inferInstanceAs (Decidable (¬ s.Called id))
  | .remove _ id => inferInstanceAs (Decidable (¬ s.Called id))
  | .toggle _ id => inferInstanceAs (Decidable (¬ s.Called id))
  | .answer .. | .arrive _ | .syncWithServer _ | .list .. | .listArrives _ | .push .. | .write _ =>
      isTrue trivial

instance (k : Bool) (list : List Bool) : Decidable (s.Fits k list) :=
  inferInstanceAs (Decidable ((∀ i, ∀ call ∈ s.calls i, call.rejected = false →
    (call.id ∈ list ↔ call.mutation = .add)) ∧
      ∀ id, ¬ s.Called id → ¬ s.PushedBeside k id → (id ∈ list ↔ id ∈ s.server)))

instance : ∀ call, Decidable (s.RollbackFits call)
  | ⟨id, .add, _⟩ => inferInstanceAs (Decidable (id ∉ s.server ∨ s.Pushed id))
  | ⟨id, .remove snapshot, _⟩ => inferInstanceAs (Decidable ((id ∈ s.server ∨ s.Pushed id) ∧
      ∀ id', id' ∈ snapshot ↔ id' ∈ s.ids ∨ id' = id))

instance : ∀ event, Decidable (s.Undisturbed event)
  | .arrive i => inferInstanceAs (Decidable (s.synced = true → ∀ call ∈ s.calls i,
      call.rejected = true → s.RollbackFits call))
  | .write k => inferInstanceAs (Decidable (∀ sync ∈ s.syncs k, ∀ list ∈ sync.written,
      s.Fits k list))
  | .add .. | .remove .. | .toggle .. | .answer .. | .syncWithServer _ | .list .. | .listArrives _
  | .push .. => isTrue trivial

end Demo

end Web
end TopChoice
