/-
# Threads that check a quota before they use it

A thread that has found room and not used it yet holds a claim.  What is used and what is
claimed are counted together: a step of a thread changes the count by what it changes itself
(`committed_act`).  So when claims are made only where there is room for them, what is used
never exceeds the quota (`committed_le`); and what has been claimed beyond it is used in the
end, when nobody gives anything back (`run_claims`).
-/

import Mathlib.Algebra.BigOperators.Group.Finset.Basic
import Mathlib.Algebra.Order.BigOperators.Group.Finset
import TopChoice.Lib.Threads

namespace Threads

variable {σ ι π χ ε : Type*} [DecidableEq ι] [Fintype ι]

/-- A sum over the threads after one of them has moved. -/
theorem sum_update {M : Type*} [AddCommMonoid M] (f : π → M) (pc : ι → π) (i : ι) (p : π) :
    ∑ j, f (Function.update pc i p j) + f (pc i) = ∑ j, f (pc j) + f p := by
  rw [← Finset.sum_erase_add _ _ (Finset.mem_univ i),
    ← Finset.sum_erase_add _ (fun j => f (pc j)) (Finset.mem_univ i)]
  have hothers : ∑ j ∈ Finset.univ.erase i, f (Function.update pc i p j) =
      ∑ j ∈ Finset.univ.erase i, f (pc j) :=
    Finset.sum_congr rfl fun j hj => by
      rw [Function.update_of_ne (Finset.ne_of_mem_erase hj)]
  rw [hothers, Function.update_self, add_right_comm]

variable (used : σ → ℕ) (claim : π → ℕ)

omit [DecidableEq ι] in
/-- What is used, and what the threads may still use. -/
def committed (S : Sys σ ι π) : ℕ := used S.shared + ∑ i, claim (S.pc i)

variable {used claim} {next : σ → π → χ → Option (σ × π)} {env : σ → ε → σ}

variable (used claim) in
/-- A thread moves the count by what it uses and claims itself. -/
theorem committed_act {S T : Sys σ ι π} {i : ι} {c : χ}
    (hstep : (machine next env).step S (.act i c) = some T) :
    ∃ s' p', next S.shared (S.pc i) c = some (s', p') ∧ T = ⟨s', Function.update S.pc i p'⟩ ∧
      committed used claim T + (used S.shared + claim (S.pc i)) =
        committed used claim S + (used s' + claim p') := by
  obtain ⟨s', p', hnext, rfl⟩ := step_act.1 hstep
  have hsum := sum_update claim S.pc i p'
  refine ⟨s', p', hnext, rfl, ?_⟩
  simp only [committed]
  omega

/-- There is room for what the acting thread is granted. -/
def Room (used : σ → ℕ) (claim : π → ℕ) (grant : σ → π → ℕ) (cap : ℕ) (S : Sys σ ι π) :
    Action ι χ ε → Prop
  | .act i _ => grant S.shared (S.pc i) = 0 ∨
      committed used claim S + grant S.shared (S.pc i) ≤ cap
  | .env _ => True

instance (grant : σ → π → ℕ) (cap : ℕ) (S : Sys σ ι π) :
    ∀ action : Action ι χ ε, Decidable (Room used claim grant cap S action)
  | .act _ _ => inferInstanceAs (Decidable (_ ∨ _))
  | .env _ => isTrue trivial

/-- **The quota rule.**  When every step finds room for what it grants, what is used and
claimed stays within the quota. -/
theorem committed_le {grant : σ → π → ℕ} {cap : ℕ}
    (hnext : ∀ {s p c s' p'}, next s p c = some (s', p') →
      used s' + claim p' ≤ used s + claim p + grant s p)
    (henv : ∀ s e, used (env s e) ≤ used s) {S T : Sys σ ι π} (actions : List (Action ι χ ε))
    (hstart : committed used claim S ≤ cap)
    (hroom : (machine next env).Meets (Room used claim grant cap) S actions)
    (hrun : (machine next env).run S actions = some T) : committed used claim T ≤ cap := by
  refine Machine.run_invariant (I := fun U => committed used claim U ≤ cap) ?_ actions hstart
    hroom hrun
  intro U action V hU hC hV
  cases action with
  | env e =>
    obtain rfl := step_env.1 hV
    have hle := henv U.shared e
    simp only [committed] at hU ⊢
    omega
  | act i c =>
    obtain ⟨s', p', hact, rfl, hcount⟩ := committed_act used claim hV
    have hle := hnext hact
    have hgrant : grant U.shared (U.pc i) = 0 ∨
        committed used claim U + grant U.shared (U.pc i) ≤ cap := hC
    omega

variable (next env) in
/-- **Claims are used in the end.**  Where a thread with a claim can always use all of it, the
threads with claims bring what is used to what is committed. -/
theorem run_claims
    (huse : ∀ s p, 0 < claim p → ∃ c s' p', next s p c = some (s', p') ∧
      used s' = used s + claim p ∧ claim p' = 0) (S : Sys σ ι π) :
    ∃ actions T, (machine next env).run S actions = some T ∧
      used T.shared = committed used claim S := by
  induction hclaims : ∑ i, claim (S.pc i) using Nat.strong_induction_on generalizing S with
  | _ n ih =>
    by_cases hzero : ∀ i, claim (S.pc i) = 0
    · refine ⟨[], S, rfl, ?_⟩
      rw [committed, Finset.sum_eq_zero fun i _ => hzero i, Nat.add_zero]
    · obtain ⟨i, hi⟩ := not_forall.1 hzero
      obtain ⟨c, s', p', hnext, hused, hclaim⟩ := huse S.shared (S.pc i) (Nat.pos_of_ne_zero hi)
      have hstep : (machine next env).step S (.act i c) =
          some ⟨s', Function.update S.pc i p'⟩ := step_act.2 ⟨s', p', hnext, rfl⟩
      have hsum := sum_update claim S.pc i p'
      obtain ⟨actions, T, hrun, hT⟩ :=
        ih (∑ j, claim (Function.update S.pc i p' j)) (by omega) ⟨s', Function.update S.pc i p'⟩
          rfl
      refine ⟨.act i c :: actions, T, (Machine.run_cons_eq_some _).2 ⟨_, hstep, hrun⟩, ?_⟩
      rw [hT]
      simp only [committed]
      omega

end Threads
