/-
# Machines that keep a log

A machine whose steps also write entries to a log (`Machine.logged`), and what holds of each
entry of a log at the time it was written (`History.Each`).  What the entries of one step
meet after the log so far, the entries of a run meet (`History.Each.append`).
-/

import TopChoice.Lib.Machine

universe u v w

/-- The machine with a log of what its steps write. -/
def Machine.logged {σ : Type u} {ℓ : Type v} {ε : Type w} (M : Machine σ ℓ)
    (entries : σ → ℓ → List ε) : Machine (σ × List ε) ℓ where
  step s l := (M.step s.1 l).map fun t => (t, s.2 ++ entries s.1 l)

theorem Machine.logged_step_eq_some {σ : Type u} {ℓ : Type v} {ε : Type w} {M : Machine σ ℓ}
    {entries : σ → ℓ → List ε} {s t : σ × List ε} {l : ℓ} :
    (M.logged entries).step s l = some t ↔
      M.step s.1 l = some t.1 ∧ t.2 = s.2 ++ entries s.1 l := by
  rw [Machine.logged, Option.map_eq_some_iff]
  constructor
  · rintro ⟨t', ht', rfl⟩
    exact ⟨ht', rfl⟩
  · rintro ⟨hstep, hlog⟩
    exact ⟨t.1, hstep, Prod.ext rfl hlog.symm⟩

namespace History

variable {ε : Type w}

/-- Every entry of the log meets the condition, on what was written before it. -/
def Each (Q : List ε → ε → Prop) (log : List ε) : Prop :=
  ∀ before e after, log = before ++ e :: after → Q before e

theorem each_nil (Q : List ε → ε → Prop) : Each Q [] := fun _ _ _ h =>
  absurd h.symm (List.append_ne_nil_of_right_ne_nil _ (List.cons_ne_nil _ _))

/-- **The log goes on.**  The entries that are added meet the condition after the log so far. -/
theorem Each.append {Q : List ε → ε → Prop} {log new : List ε} (h : Each Q log)
    (hnew : Each (fun before e => Q (log ++ before) e) new) : Each Q (log ++ new) := by
  intro before e after hsplit
  obtain ⟨rest, hbefore, hrest⟩ | ⟨rest, hlog, hrest⟩ := List.append_eq_append_iff.1 hsplit
  · rw [hbefore]
    exact hnew rest e after hrest
  · cases rest with
    | nil =>
      rw [List.append_nil] at hlog
      rw [← hlog, ← List.append_nil log]
      exact hnew [] e after hrest.symm
    | cons first rest =>
      obtain ⟨rfl, hafter⟩ := List.cons.inj hrest
      exact h before e rest hlog

/-- A condition that few entries are subject to. -/
theorem each_of_forall_mem {Q : List ε → ε → Prop} {log : List ε}
    (h : ∀ e ∈ log, ∀ before, Q before e) : Each Q log := by
  intro before e after hsplit
  exact h e (hsplit ▸ List.mem_append_right _ List.mem_cons_self) before

theorem each_singleton {Q : List ε → ε → Prop} {e : ε} (h : Q [] e) : Each Q [e] := by
  intro before e' after hsplit
  cases before with
  | nil =>
    obtain ⟨rfl, -⟩ := List.cons.inj hsplit
    exact h
  | cons first before =>
    have hlength := congrArg List.length hsplit
    simp only [List.length_cons, List.length_append, List.length_nil] at hlength
    omega

end History
