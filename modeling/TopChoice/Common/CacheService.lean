/-
# The counters of the cache

`CacheService.increment` of `apps/api-core/src/redis/cache.service.ts`, as callers of one key
run it: `INCR`, then `EXPIRE` by the caller that finds the count at one.  A command may fail at
any point, and then the caller returns 0; a command that failed may have been executed.

A counter that is left without an expiry, by a caller whose `EXPIRE` fails, is never gone.  In
a run without such a loss the count begins at one again after a pause (`returnsToOne_of_arms`).
-/

import TopChoice.Lib.FixedWindow
import Mathlib.Data.Rat.Floor
import Mathlib.Tactic.Linarith

namespace TopChoice
namespace CacheService

open FixedWindow

/-- The key, and the clock in milliseconds. -/
structure Redis where
  now : ℕ
  key : Option Counter
  deriving DecidableEq, Repr

/-- Where a call of `increment` stands. -/
inductive Pc where
  | idle
  | expire (count : ℕ)
  | done (count : ℕ)
  deriving DecidableEq, Repr

/-- A call that is about to set the expiry. -/
def Pc.Arming (pc : Pc) : Prop := ∃ count, pc = .expire count

/-- A call that is not under way. -/
def Pc.Settled : Pc → Prop
  | .expire _ => False
  | _ => True

/-- The next command of `increment`, and what becomes of it. -/
def next (ttlSeconds : ℚ) (redis : Redis) : Pc → Outcome → Option (Redis × Pc)
  | .idle, outcome =>
    let counted := incr redis.now redis.key
    match outcome with
    | .answered =>
      some ({ redis with key := some counted },
        if counted.count = 1 ∧ 0 < ttlSeconds then .expire counted.count else .done counted.count)
    | .failed => some (redis, .done 0)
    | .lost => some ({ redis with key := some counted }, .done 0)
  | .expire count, outcome =>
    let armed := { redis with key := expire redis.now ⌊ttlSeconds⌋ redis.key }
    match outcome with
    | .answered => some (armed, .done count)
    | .failed => some (redis, .done 0)
    | .lost => some (armed, .done 0)
  | .done _, _ => none

/-- Time passes. -/
def tick (redis : Redis) (milliseconds : ℕ) : Redis :=
  { redis with now := redis.now + milliseconds }

/-- The calls of `increment` on one key. -/
abbrev System := Threads.Sys Redis ℕ Pc

/-- A command of a call, or time that passes. -/
abbrev Event := Threads.Action ℕ Outcome ℕ

/-- The interleavings of the calls. -/
def machine (ttlSeconds : ℚ) : Machine System Event := Threads.machine (next ttlSeconds) tick

/-- No counter, and no call. -/
def start (now : ℕ) : System := ⟨⟨now, none⟩, fun _ => .idle⟩

/-- No `EXPIRE` fails to be executed, and no `INCR` that opens a counter loses its answer. -/
def Arms (s : System) : Event → Prop
  | .act i outcome =>
    match s.pc i with
    | .idle => outcome = .lost → read s.shared.now s.shared.key ≠ none
    | .expire _ => outcome ≠ .failed
    | .done _ => True
  | .env _ => True

/-- The commands of a call are answered. -/
def Answered (i : ℕ) (events : List Event) : Prop := ∀ outcome, .act i outcome ∈ events →
  outcome = .answered

/-- **The count begins at one after a pause.**  When no call is under way, and nothing happens
for `ttlSeconds`, the next call returns 1 if its commands are answered.  The millisecond the
counter expires at is not yet after the pause. -/
def ReturnsToOne (ttlSeconds : ℚ) (C : System → Event → Prop) : Prop :=
  ∀ now before s (pause : ℕ) i after u count,
    (machine ttlSeconds).run (start now) before = some s →
    (machine ttlSeconds).Meets C (start now) before →
    (∀ j, (s.pc j).Settled) → s.pc i = .idle →
    1000 * ttlSeconds ≤ pause →
    (∀ c, s.shared.key = some c → c.expiry ≠ some (s.shared.now + pause)) →
    (machine ttlSeconds).run s (.env pause :: .act i .answered :: after) = some u →
    Answered i after → u.pc i = .done count → count = 1

variable {ttlSeconds : ℚ}

/-- **What a call does to the counter.** -/
theorem moves_of_next (hpos : 0 < ttlSeconds) {s : System} {i : ℕ} {outcome : Outcome}
    {redis : Redis} {pc : Pc} (harms : Arms s (.act i outcome))
    (hnext : next ttlSeconds s.shared (s.pc i) outcome = some (redis, pc)) :
    redis.now = s.shared.now ∧
      Moves s.shared.now ⌊ttlSeconds⌋ Pc.Arming s.shared.key (s.pc i) redis.key pc := by
  simp only [Arms] at harms
  generalize s.pc i = p at harms hnext
  cases p with
  | idle =>
    have hidle : ¬ Pc.Arming .idle := nofun
    cases outcome <;> simp only [next, Option.some.injEq, Prod.mk.injEq] at hnext <;>
      obtain ⟨rfl, rfl⟩ := hnext
    · refine ⟨rfl, .incr (fun hread => ?_) hidle⟩
      rw [incr_of_read_eq_none hread, if_pos ⟨rfl, hpos⟩]
      exact ⟨1, rfl⟩
    · exact ⟨rfl, .stay hidle⟩
    · exact ⟨rfl, .incr (fun hread => absurd hread (harms rfl)) hidle⟩
  | expire count =>
    cases outcome <;> simp only [next, Option.some.injEq, Prod.mk.injEq] at hnext
    · obtain ⟨rfl, rfl⟩ := hnext
      exact ⟨rfl, .expire⟩
    · exact absurd rfl harms
    · obtain ⟨rfl, rfl⟩ := hnext
      exact ⟨rfl, .expire⟩
  | done count => exact absurd hnext nofun

/-- The counter is armed in every state of a run that loses no expiry. -/
theorem armed_of_run (hpos : 0 < ttlSeconds) {now : ℕ} {events : List Event} {s : System}
    (hrun : (machine ttlSeconds).run (start now) events = some s)
    (harms : (machine ttlSeconds).Meets Arms (start now) events) :
    ArmedBy Redis.now Redis.key ⌊ttlSeconds⌋ Pc.Arming s := by
  have htick : ∀ redis milliseconds, redis.now ≤ (tick redis milliseconds).now ∧
      (tick redis milliseconds).key = redis.key :=
    fun redis milliseconds => ⟨Nat.le_add_right _ _, rfl⟩
  have hact : ∀ (s : System) i outcome redis pc, Arms s (.act i outcome) →
      next ttlSeconds s.shared (s.pc i) outcome = some (redis, pc) →
      redis.now = s.shared.now ∧
        Moves s.shared.now ⌊ttlSeconds⌋ Pc.Arming s.shared.key (s.pc i) redis.key pc :=
    fun _ _ _ _ _ => moves_of_next hpos
  have hstart : ArmedBy Redis.now Redis.key ⌊ttlSeconds⌋ Pc.Arming (start now) := armed_none
  exact Machine.run_invariant (armed_step hact htick) events hstart harms hrun

/-- A call that has counted one. -/
def Pc.CountedOne (pc : Pc) : Prop := pc = .expire 1 ∨ pc = .done 1

/-- A call whose commands are answered returns what it has counted. -/
theorem countedOne_of_run {i : ℕ} {events : List Event} {s t : System}
    (hanswered : Answered i events) (hs : (s.pc i).CountedOne)
    (hrun : (machine ttlSeconds).run s events = some t) : (t.pc i).CountedOne := by
  refine Machine.run_invariant_of_forall_mem (I := fun s : System => (s.pc i).CountedOne)
    (L := fun l => ∀ outcome, l = .act i outcome → outcome = .answered) ?_ events hs
    (fun l hl outcome he => hanswered outcome (he ▸ hl)) hrun
  intro s l t hs hl hstep
  cases l with
  | env e =>
    obtain rfl := Threads.step_env.1 hstep
    exact hs
  | act j outcome =>
    obtain ⟨redis, pc, hnext, rfl⟩ := Threads.step_act.1 hstep
    by_cases hij : i = j
    · subst hij
      obtain rfl := hl outcome rfl
      show Pc.CountedOne (Function.update s.pc i pc i)
      rw [Function.update_self]
      rcases hs with hs | hs
      · rw [hs] at hnext
        obtain ⟨-, rfl⟩ := Prod.mk.inj (Option.some.inj hnext)
        exact .inr rfl
      · rw [hs] at hnext
        exact absurd hnext nofun
    · show Pc.CountedOne (Function.update s.pc j pc i)
      rwa [Function.update_of_ne hij]

/-- **A run that loses no expiry begins again at one.** -/
theorem returnsToOne_of_arms (hpos : 0 < ttlSeconds) : ReturnsToOne ttlSeconds Arms := by
  intro now before s pause i after u count hrun harms hsettled hidle hpause hexpiry hafter
    hanswered hcount
  have harmed := armed_of_run hpos hrun harms
  have hnobody : ¬ ∃ j, (s.pc j).Arming := by
    rintro ⟨j, n, hj⟩
    have := hsettled j
    rwa [hj] at this
  have hwindow : 1000 * ⌊ttlSeconds⌋.toNat ≤ pause := by
    have hfloor : ((⌊ttlSeconds⌋.toNat : ℤ) : ℚ) ≤ ttlSeconds := by
      rw [Int.toNat_of_nonneg (Int.floor_nonneg.2 hpos.le)]
      exact Int.floor_le ttlSeconds
    have hcast : ((1000 * ⌊ttlSeconds⌋.toNat : ℕ) : ℚ) ≤ pause := by
      push_cast at hfloor ⊢
      linarith
    exact_mod_cast hcast
  have hread : read (s.shared.now + pause) s.shared.key = none :=
    harmed.read_eq_none hnobody (Nat.add_le_add_left hwindow _) hexpiry
  obtain ⟨v, hv, hafter⟩ := Machine.run_cons_eq_some _ |>.1 hafter
  obtain rfl := Threads.step_env.1 hv
  obtain ⟨w, hw, hafter⟩ := Machine.run_cons_eq_some _ |>.1 hafter
  obtain ⟨redis, pc, hnext, rfl⟩ := Threads.step_act.1 hw
  have hone : pc = .expire 1 := by
    simp only [hidle, next, tick, incr_of_read_eq_none hread, true_and, if_pos hpos,
      Option.some.injEq, Prod.mk.injEq] at hnext
    exact hnext.2.symm
  have hself : (Function.update s.pc i pc i).CountedOne := by
    rw [Function.update_self, hone]
    exact .inl rfl
  rcases countedOne_of_run hanswered hself hafter with h | h
  · exact absurd (h.symm.trans hcount) nofun
  · exact (Pc.done.inj (h.symm.trans hcount)).symm

end CacheService
end TopChoice
