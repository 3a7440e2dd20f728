/-
# Threads over one shared state

Any number of threads, each at a program point of its own, act on one shared
state.  An action takes one thread one atomic step further; between the actions
the environment may change the shared state (a clock that advances).  The steps
of different threads may come in any order, so the runs of `Threads.machine` are
all the interleavings.
-/

import TopChoice.Lib.Machine

universe u

namespace Threads

variable {σ ι π χ ε : Type*}

/-- The shared state and the program point of every thread. -/
@[ext]
structure Sys (σ ι π : Type*) where
  /-- What every thread reads and writes. -/
  shared : σ
  /-- Where each thread is. -/
  pc : ι → π

/-- A step of an interleaving: thread `i` acts, with a choice `c` where the
thread leaves one open, or the environment acts. -/
inductive Action (ι χ ε : Type*) where
  | act (i : ι) (c : χ)
  | env (e : ε)
  deriving DecidableEq

/-- The interleavings of threads whose atomic steps are `next`. -/
def machine [DecidableEq ι] (next : σ → π → χ → Option (σ × π)) (env : σ → ε → σ) :
    Machine (Sys σ ι π) (Action ι χ ε) where
  step s
    | .act i c => (next s.shared (s.pc i) c).map fun r => ⟨r.1, Function.update s.pc i r.2⟩
    | .env e => some { s with shared := env s.shared e }

variable [DecidableEq ι] {next : σ → π → χ → Option (σ × π)} {env : σ → ε → σ}

/-- What an action of a thread does: one of its steps, and no other thread moves. -/
theorem step_act {s t : Sys σ ι π} {i : ι} {c : χ} :
    (machine next env).step s (.act i c) = some t ↔
      ∃ sh p, next s.shared (s.pc i) c = some (sh, p) ∧ t = ⟨sh, Function.update s.pc i p⟩ := by
  simp only [machine, Option.map_eq_some_iff, Prod.exists]
  constructor
  · rintro ⟨sh, p, hn, rfl⟩
    exact ⟨sh, p, hn, rfl⟩
  · rintro ⟨sh, p, hn, rfl⟩
    exact ⟨sh, p, hn, rfl⟩

/-- What the environment does: no thread moves. -/
theorem step_env {s t : Sys σ ι π} {e : ε} :
    (machine (ι := ι) next env).step s (.env e) = some t ↔
      t = { s with shared := env s.shared e } := by
  simp only [machine, Option.some.injEq, eq_comm]

/-- The other threads stay where they are when thread `i` moves. -/
theorem pc_update_cases {P : ι → π → Prop} {pc : ι → π} {i : ι} {p : π} (hi : P i p)
    (hj : ∀ j, j ≠ i → P j (pc j)) (j : ι) : P j (Function.update pc i p j) := by
  by_cases h : j = i
  · subst h; simpa using hi
  · simpa [Function.update_of_ne h] using hj j h

/-- Where a thread is after thread `i` moved to `p`. -/
theorem pc_update_eq {pc : ι → π} {i j : ι} {p q : π} (h : Function.update pc i p j = q) :
    (j = i ∧ p = q) ∨ (j ≠ i ∧ pc j = q) := by
  by_cases hj : j = i
  · subst hj
    exact Or.inl ⟨rfl, by simpa using h⟩
  · exact Or.inr ⟨hj, by rwa [Function.update_of_ne hj] at h⟩

/-- A thread alone takes its steps one after the other. -/
theorem run_alone {sh : σ} {p : π} {c : χ} {as : List (Action Unit χ ε)} :
    (machine next env).run ⟨sh, fun _ => p⟩ (.act () c :: as) =
      (next sh p c).bind fun r => (machine next env).run ⟨r.1, fun _ => r.2⟩ as := by
  have hpc : ∀ q, Function.update (fun _ : Unit => p) () q = fun _ => q := fun q =>
    funext fun _ => Function.update_self ..
  have hstep : (machine next env).step ⟨sh, fun _ => p⟩ (.act () c) =
      (next sh p c).map fun r => ⟨r.1, fun _ => r.2⟩ := by
    simp only [machine, hpc]
  rw [Machine.run, hstep, Option.bind_map]
  rfl

/-- **The simulation rule for threads.**  Where the steps of a thread are those of another, over
related shared states and from related program points, so are the actions. -/
theorem step_simulates {σ' π' : Type*} {next' : σ' → π' → χ → Option (σ' × π')}
    {env' : σ' → ε → σ'} {R : σ → σ' → Prop} {P : π → π' → Prop}
    (hnext : ∀ sh sh' p p' c r, R sh sh' → P p p' → next sh p c = some r →
      ∃ r', next' sh' p' c = some r' ∧ R r.1 r'.1 ∧ P r.2 r'.2)
    (henv : ∀ sh sh' e, R sh sh' → R (env sh e) (env' sh' e)) {s : Sys σ ι π} {s' : Sys σ' ι π'}
    {a : Action ι χ ε} {t : Sys σ ι π} (hR : R s.shared s'.shared)
    (hP : ∀ i, P (s.pc i) (s'.pc i)) (h : (machine next env).step s a = some t) :
    ∃ t', (machine next' env').step s' a = some t' ∧ R t.shared t'.shared ∧
      ∀ i, P (t.pc i) (t'.pc i) := by
  cases a with
  | act i c =>
    obtain ⟨sh, p, hn, rfl⟩ := step_act.1 h
    obtain ⟨⟨sh', p'⟩, hn', hsh, hp⟩ := hnext _ _ _ _ _ _ hR (hP i) hn
    refine ⟨_, step_act.2 ⟨sh', p', hn', rfl⟩, hsh, fun j => ?_⟩
    by_cases hj : j = i
    · subst hj
      simpa using hp
    · simpa [Function.update_of_ne hj] using hP j
  | env e =>
    obtain rfl := step_env.1 h
    exact ⟨_, step_env.2 rfl, henv _ _ e hR, hP⟩

end Threads
