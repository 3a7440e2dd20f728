/-
# Fixed windows

A counter of a Redis-like store that callers increment, where the one that opens it sets its
expiry with a second command.  The clock is in milliseconds, and an entry is visible up to the
millisecond it expires at.

Between the two commands the counter has no expiry.  If the second command is not lost, then
at every moment a counter without an expiry has a caller on its way to set it, and any other
expires within a window (`Armed`); so a counter that nobody touches for a window is gone.
`Moves` are the steps that keep this, for threads of any program (`armed_step`).
-/

import TopChoice.Lib.Threads
import Mathlib.Data.Nat.Basic
import Mathlib.Order.Basic

/-- A counter, and the last instant it is visible at. -/
structure Counter where
  count : ℕ
  expiry : Option ℕ
  deriving DecidableEq, Repr

namespace FixedWindow

/-! ### Commands -/

/-- What becomes of a command: it is answered, it is not executed, or it is executed and its
answer is lost. -/
inductive Outcome where
  | answered
  | failed
  | lost
  deriving DecidableEq, Repr

/-- Whether a command is executed. -/
def Outcome.executed : Outcome → Bool
  | .failed => false
  | _ => true

/-- What a key holds at an instant. -/
def read (now : ℕ) (key : Option Counter) : Option Counter :=
  key.filter fun c => c.expiry.all fun t => now ≤ t

/-- `INCR`. -/
def incr (now : ℕ) (key : Option Counter) : Counter :=
  match read now key with
  | none => ⟨1, none⟩
  | some c => { c with count := c.count + 1 }

/-- `EXPIRE`, in seconds. -/
def expire (now : ℕ) (seconds : ℤ) (key : Option Counter) : Option Counter :=
  (read now key).bind fun c =>
    if seconds ≤ 0 then none else some { c with expiry := some (now + 1000 * seconds.toNat) }

/-- `TTL`, rounded to seconds. -/
def ttl (now : ℕ) (key : Option Counter) : ℤ :=
  match read now key with
  | none => -2
  | some ⟨_, none⟩ => -1
  | some ⟨_, some t⟩ => ((t - now + 500) / 1000 : ℕ)

/-! ### Armed counters -/

/-- A counter that has no expiry is about to get one, and any other expires within a window. -/
def Armed (now : ℕ) (seconds : ℤ) (arming : Prop) (key : Option Counter) : Prop :=
  ∀ c, key = some c →
    (c.expiry = none → arming) ∧ ∀ t, c.expiry = some t → t ≤ now + 1000 * seconds.toNat

section Armed

variable {now now' : ℕ} {seconds : ℤ} {P Q : Prop} {key : Option Counter} {c : Counter}

theorem armed_none : Armed now seconds P none := nofun

theorem Armed.mono (h : Armed now seconds P key) (hnow : now ≤ now') (hPQ : P → Q) :
    Armed now' seconds Q key := fun c hc =>
  ⟨fun hnone => hPQ ((h c hc).1 hnone), fun t ht => ((h c hc).2 t ht).trans (by omega)⟩

theorem read_eq_some (h : read now key = some c) : key = some c :=
  (Option.filter_eq_some_iff.1 h).1

theorem incr_of_read_eq_none (h : read now key = none) : incr now key = ⟨1, none⟩ := by
  rw [incr, h]

/-- `INCR` keeps the expiry of a counter, and opens one without. -/
theorem Armed.incr (h : Armed now seconds P key) (hopens : read now key = none → Q)
    (hPQ : P → Q) : Armed now seconds Q (some (incr now key)) := by
  intro c hc
  obtain rfl := Option.some.inj hc
  unfold FixedWindow.incr
  cases hread : read now key with
  | none => exact ⟨fun _ => hopens hread, nofun⟩
  | some c => exact (h.mono (le_refl now) hPQ) c (read_eq_some hread)

/-- `EXPIRE` leaves no counter without an expiry. -/
theorem armed_expire : Armed now seconds P (expire now seconds key) := by
  intro c hc
  obtain ⟨c', -, hc'⟩ := Option.bind_eq_some_iff.1 hc
  split_ifs at hc' with hle
  obtain rfl := Option.some.inj hc'
  exact ⟨nofun, fun t ht => (Option.some.inj ht).ge⟩

/-- **A counter nobody is about to arm is gone after a window**, but for the millisecond it
expires at. -/
theorem Armed.read_eq_none (h : Armed now seconds P key) (hP : ¬ P)
    (hnow : now + 1000 * seconds.toNat ≤ now')
    (hexpiry : ∀ c, key = some c → c.expiry ≠ some now') : read now' key = none := by
  refine Option.eq_none_iff_forall_ne_some.2 fun c hread => ?_
  obtain ⟨hkey, hvisible⟩ := Option.filter_eq_some_iff.1 hread
  cases hc : c.expiry with
  | none => exact hP ((h c hkey).1 hc)
  | some t =>
    rw [hc] at hvisible
    have hle : now' ≤ t := of_decide_eq_true hvisible
    have hne : t ≠ now' := fun he => hexpiry c hkey (he ▸ hc)
    have hbound := (h c hkey).2 t hc
    omega

end Armed

/-! ### Callers -/

/-- What a step of a caller may do to a counter: callers in `arming` are about to set the
expiry. -/
inductive Moves {π : Type*} (now : ℕ) (seconds : ℤ) (arming : π → Prop) :
    Option Counter → π → Option Counter → π → Prop where
  | incr {key p p'} (hopens : read now key = none → arming p') (hp : ¬ arming p) :
      Moves now seconds arming key p (some (incr now key)) p'
  | expire {key p p'} : Moves now seconds arming key p (expire now seconds key) p'
  | stay {key p p'} (hp : ¬ arming p) : Moves now seconds arming key p key p'

section Callers

variable {σ ι π χ ε : Type*} [DecidableEq ι] {next : σ → π → χ → Option (σ × π)}
  {env : σ → ε → σ} {clock : σ → ℕ} {key : σ → Option Counter} {seconds : ℤ} {arming : π → Prop}

/-- The counter of callers is armed. -/
def ArmedBy (clock : σ → ℕ) (key : σ → Option Counter) (seconds : ℤ) (arming : π → Prop)
    (s : Threads.Sys σ ι π) : Prop :=
  Armed (clock s.shared) seconds (∃ i, arming (s.pc i)) (key s.shared)

/-- **Callers whose steps are such moves keep the counter armed**, with time passing in
between. -/
theorem armed_step {C : Threads.Sys σ ι π → Threads.Action ι χ ε → Prop}
    (hact : ∀ s i c sh p, C s (.act i c) → next s.shared (s.pc i) c = some (sh, p) →
      clock sh = clock s.shared ∧
        Moves (clock s.shared) seconds arming (key s.shared) (s.pc i) (key sh) p)
    (henv : ∀ sh e, clock sh ≤ clock (env sh e) ∧ key (env sh e) = key sh)
    (s : Threads.Sys σ ι π) (l : Threads.Action ι χ ε) (t : Threads.Sys σ ι π)
    (hs : ArmedBy clock key seconds arming s) (hC : C s l)
    (hstep : (Threads.machine next env).step s l = some t) :
    ArmedBy clock key seconds arming t := by
  cases l with
  | env e =>
    obtain rfl := Threads.step_env.1 hstep
    obtain ⟨hclock, hkey⟩ := henv s.shared e
    have hmono := hs.mono hclock id
    rwa [← hkey] at hmono
  | act i c =>
    obtain ⟨sh, p, hnext, rfl⟩ := Threads.step_act.1 hstep
    obtain ⟨hclock, hmoves⟩ := hact s i c sh p hC hnext
    -- whoever else was about to set the expiry still is
    have hothers : ¬ arming (s.pc i) → (∃ j, arming (s.pc j)) →
        ∃ j, arming (Function.update s.pc i p j) := by
      rintro hi ⟨j, hj⟩
      have hji : j ≠ i := fun he => hi (he ▸ hj)
      exact ⟨j, by rwa [Function.update_of_ne hji]⟩
    have hself : arming p → ∃ j, arming (Function.update s.pc i p j) :=
      fun hp => ⟨i, by rwa [Function.update_self]⟩
    show Armed (clock sh) seconds (∃ j, arming (Function.update s.pc i p j)) (key sh)
    rw [hclock]
    generalize key sh = key' at hmoves
    generalize hp : s.pc i = q at hmoves hothers
    cases hmoves with
    | incr hopens hq => exact Armed.incr hs (fun hread => hself (hopens hread)) (hothers hq)
    | expire => exact armed_expire
    | stay hq => exact hs.mono (le_refl _) (hothers hq)

end Callers

end FixedWindow
