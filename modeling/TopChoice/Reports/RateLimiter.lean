/-
# The limiter of the reports

`RateLimiter.check` of `apps/reports-svc/lib/rate_limiter.rb`, as callers of one key run it in
any number of processes: `INCR`, then `EXPIRE` by the caller that finds the count at one, then
`TTL`.  `DB.redis_safe` ends the commands of a call at the first that fails, keeps what was
executed, and stays away from Redis for five seconds after; a call that learned no count is
served.

A counter that is left without an expiry, by a caller whose `EXPIRE` fails, is never gone, and
once it is over the limit it stays over it (`denied_for_good`).  In a run without such a loss
a check is allowed again after a pause (`pausesEndWindows_of_arms`).
-/

import TopChoice.Common.CacheService

namespace TopChoice
namespace Reports
namespace RateLimiter

open FixedWindow

/-- `RateLimiter::Result`. -/
structure Result where
  allowed : Bool
  limit : ℤ
  remaining : ℤ
  resetIn : ℤ
  deriving DecidableEq, Repr

variable {ρ : Type} [DecidableEq ρ]

/-- The key, the clock in milliseconds, and `@redis_failed_at` of each process. -/
structure Redis (ρ : Type) where
  now : ℕ
  key : Option Counter
  failedAt : ρ → Option ℕ

/-- Where a call of `check` stands: the process it runs in, and its count. -/
inductive Pc (ρ : Type) where
  | idle
  | expire (process : ρ) (count : ℕ)
  | ttl (process : ρ) (count : ℕ)
  | done (result : Result)
  deriving DecidableEq, Repr

/-- A call that is about to set the expiry. -/
def Pc.Arming (pc : Pc ρ) : Prop := ∃ process count, pc = .expire process count

/-- A call that is not under way. -/
def Pc.Settled : Pc ρ → Prop
  | .idle | .done _ => True
  | _ => False

/-- `redis_breaker_open?`: a failure of less than five seconds ago, which is forgotten when it
is older. -/
def breaker (redis : Redis ρ) (process : ρ) : Bool × Redis ρ :=
  match redis.failedAt process with
  | none => (false, redis)
  | some t =>
    if redis.now - t < 5000 then (true, redis)
    else (false, { redis with failedAt := Function.update redis.failedAt process none })

/-- What `redis_safe` notes of a failure. -/
def failure (redis : Redis ρ) (process : ρ) : Redis ρ :=
  { redis with failedAt := Function.update redis.failedAt process (some redis.now) }

/-- The result of a call that learned no count. -/
def failOpen (limit window : ℤ) : Result where
  allowed := true
  limit := limit
  remaining := limit
  resetIn := window

/-- The result of a call. -/
def result (limit : ℤ) (count : ℕ) (ttl : ℤ) : Result where
  allowed := count ≤ limit
  limit := limit
  remaining := max (limit - count) 0
  resetIn := ttl

section Check

variable (enabled : Bool) (limit window : ℤ)

/-- The next command of `check`, in the process it runs in, and what becomes of it. -/
def next (redis : Redis ρ) : Pc ρ → ρ × Outcome → Option (Redis ρ × Pc ρ)
  | .idle, (process, outcome) =>
    if !enabled then some (redis, .done (failOpen limit window))
    else
      let (isOpen, redis) := breaker redis process
      if isOpen then some (redis, .done (failOpen limit window))
      else
        let counted := incr redis.now redis.key
        match outcome with
        | .answered => some ({ redis with key := some counted },
            if counted.count = 1 then .expire process counted.count else .ttl process counted.count)
        | .failed => some (failure redis process, .done (failOpen limit window))
        | .lost => some (failure { redis with key := some counted } process,
            .done (failOpen limit window))
  | .expire process count, (_, outcome) =>
    let armed := { redis with key := expire redis.now window redis.key }
    match outcome with
    | .answered => some (armed, .ttl process count)
    | .failed => some (failure redis process, .done (result limit count window))
    | .lost => some (failure armed process, .done (result limit count window))
  | .ttl process count, (_, outcome) =>
    let ttl := FixedWindow.ttl redis.now redis.key
    match outcome with
    | .answered => some (redis, .done (result limit count (if ttl < 0 then window else ttl)))
    | _ => some (failure redis process, .done (result limit count window))
  | .done _, _ => none

/-- What happens between the commands: time passes, or another command of a process fails. -/
inductive Env (ρ : Type) where
  | tick (milliseconds : ℕ)
  | failure (process : ρ)
  deriving DecidableEq, Repr

/-- What it changes. -/
def Env.apply (redis : Redis ρ) : Env ρ → Redis ρ
  | .tick milliseconds => { redis with now := redis.now + milliseconds }
  | .failure process => RateLimiter.failure redis process

/-- The calls of `check` on one key. -/
abbrev System (ρ : Type) := Threads.Sys (Redis ρ) ℕ (Pc ρ)

/-- A command of a call, or what happens between the commands. -/
abbrev Event (ρ : Type) := Threads.Action ℕ (ρ × Outcome) (Env ρ)

/-- The interleavings of the calls. -/
def machine : Machine (System ρ) (Event ρ) :=
  Threads.machine (next enabled limit window) Env.apply

/-- No counter, and no call. -/
def start (now : ℕ) : System ρ := ⟨⟨now, none, fun _ => none⟩, fun _ => .idle⟩

/-- No `EXPIRE` fails to be executed, and no `INCR` that opens a counter loses its answer. -/
def Arms (s : System ρ) : Event ρ → Prop
  | .act i (_, outcome) =>
    match s.pc i with
    | .idle => outcome = .lost → read s.shared.now s.shared.key ≠ none
    | .expire _ _ => outcome ≠ .failed
    | _ => True
  | .env _ => True

/-- Nothing but time passes, and failures that are none of the key's. -/
def Pause (events : List (Event ρ)) : Prop := ∀ l ∈ events, ∃ e, l = .env e

/-- **A pause ends a window.**  When no call is under way, and there is none for `window`
seconds, the next check is allowed.  The millisecond the counter expires at is not yet after
the pause. -/
def PausesEndWindows (C : System ρ → Event ρ → Prop) : Prop :=
  ∀ now before s pause t i choice after u result,
    (machine enabled limit window).run (start now) before = some s →
    (machine enabled limit window).Meets C (start now) before →
    (∀ j, (s.pc j).Settled) → s.pc i = .idle →
    Pause pause → (machine enabled limit window).run s pause = some t →
    s.shared.now + 1000 * window ≤ t.shared.now →
    (∀ c, t.shared.key = some c → c.expiry ≠ some t.shared.now) →
    (machine enabled limit window).run t (.act i choice :: after) = some u →
    u.pc i = .done result → result.allowed = true

variable {enabled limit window}

@[simp] theorem breaker_now (redis : Redis ρ) (process : ρ) :
    (breaker redis process).2.now = redis.now := by
  unfold breaker
  split
  · rfl
  · split_ifs <;> rfl

@[simp] theorem breaker_key (redis : Redis ρ) (process : ρ) :
    (breaker redis process).2.key = redis.key := by
  unfold breaker
  split
  · rfl
  · split_ifs <;> rfl

/-- **What the first step of a call does**: it ends without a count, or it counts. -/
theorem next_idle {redis redis' : Redis ρ} {process : ρ} {outcome : Outcome} {pc : Pc ρ}
    (h : next enabled limit window redis .idle (process, outcome) = some (redis', pc)) :
    redis'.now = redis.now ∧
      ((redis'.key = redis.key ∧ pc = .done (failOpen limit window)) ∨
        redis'.key = some (incr redis.now redis.key) ∧
          (outcome = .answered ∧ pc = (if (incr redis.now redis.key).count = 1
              then .expire process (incr redis.now redis.key).count
              else .ttl process (incr redis.now redis.key).count) ∨
            outcome = .lost ∧ pc = .done (failOpen limit window))) := by
  simp only [next] at h
  by_cases henabled : (!enabled) = true
  · rw [if_pos henabled] at h
    obtain ⟨rfl, rfl⟩ := Prod.mk.inj (Option.some.inj h)
    exact ⟨rfl, .inl ⟨rfl, rfl⟩⟩
  rw [if_neg henabled] at h
  by_cases hopen : (breaker redis process).1 = true
  · rw [if_pos hopen] at h
    obtain ⟨rfl, rfl⟩ := Prod.mk.inj (Option.some.inj h)
    exact ⟨breaker_now redis process, .inl ⟨breaker_key redis process, rfl⟩⟩
  rw [if_neg hopen] at h
  cases outcome with
  | answered =>
    obtain ⟨rfl, rfl⟩ := Prod.mk.inj (Option.some.inj h)
    rw [breaker_now, breaker_key]
    exact ⟨rfl, .inr ⟨rfl, .inl ⟨rfl, rfl⟩⟩⟩
  | failed =>
    obtain ⟨rfl, rfl⟩ := Prod.mk.inj (Option.some.inj h)
    exact ⟨breaker_now redis process, .inl ⟨breaker_key redis process, rfl⟩⟩
  | lost =>
    obtain ⟨rfl, rfl⟩ := Prod.mk.inj (Option.some.inj h)
    rw [breaker_now, breaker_key]
    exact ⟨rfl, .inr ⟨rfl, .inr ⟨rfl, rfl⟩⟩⟩

/-- **What a call does to the counter.** -/
theorem moves_of_next {s : System ρ} {i : ℕ} {choice : ρ × Outcome} {redis : Redis ρ}
    {pc : Pc ρ} (harms : Arms s (.act i choice))
    (hnext : next enabled limit window s.shared (s.pc i) choice = some (redis, pc)) :
    redis.now = s.shared.now ∧
      Moves s.shared.now window Pc.Arming s.shared.key (s.pc i) redis.key pc := by
  obtain ⟨process, outcome⟩ := choice
  simp only [Arms] at harms
  generalize s.pc i = p at harms hnext
  cases p with
  | idle =>
    have hidle : ¬ Pc.Arming (.idle : Pc ρ) := nofun
    obtain ⟨hnow, ⟨hkey, -⟩ | ⟨hkey, ⟨-, hpc⟩ | ⟨hlost, -⟩⟩⟩ := next_idle hnext
    · exact ⟨hnow, hkey ▸ .stay hidle⟩
    · refine ⟨hnow, hkey ▸ .incr (fun hread => ?_) hidle⟩
      rw [incr_of_read_eq_none hread] at hpc
      exact ⟨process, 1, hpc⟩
    · exact ⟨hnow, hkey ▸ .incr (fun hread => absurd hread (harms hlost)) hidle⟩
  | expire process' count =>
    cases outcome with
    | answered =>
      obtain ⟨rfl, -⟩ := Prod.mk.inj (Option.some.inj hnext)
      exact ⟨rfl, .expire⟩
    | failed => exact absurd rfl harms
    | lost =>
      obtain ⟨rfl, -⟩ := Prod.mk.inj (Option.some.inj hnext)
      exact ⟨rfl, .expire⟩
  | ttl process' count =>
    have httl : ¬ Pc.Arming (.ttl process' count) := nofun
    cases outcome <;> obtain ⟨rfl, -⟩ := Prod.mk.inj (Option.some.inj hnext) <;>
      exact ⟨rfl, .stay httl⟩
  | done r => exact absurd hnext nofun

/-- The counter is armed in every state of a run that loses no expiry. -/
theorem armed_of_run {now : ℕ} {events : List (Event ρ)} {s : System ρ}
    (hrun : (machine enabled limit window).run (start now) events = some s)
    (harms : (machine enabled limit window).Meets Arms (start now) events) :
    ArmedBy Redis.now Redis.key window Pc.Arming s := by
  have henv : ∀ (redis : Redis ρ) e, redis.now ≤ (Env.apply redis e).now ∧
      (Env.apply redis e).key = redis.key := by
    intro redis e
    cases e with
    | tick milliseconds => exact ⟨Nat.le_add_right _ _, rfl⟩
    | failure process => exact ⟨le_refl _, rfl⟩
  have hact : ∀ (s : System ρ) i choice redis pc, Arms s (.act i choice) →
      next enabled limit window s.shared (s.pc i) choice = some (redis, pc) →
      redis.now = s.shared.now ∧
        Moves s.shared.now window Pc.Arming s.shared.key (s.pc i) redis.key pc :=
    fun _ _ _ _ _ => moves_of_next
  have hstart : ArmedBy Redis.now Redis.key window Pc.Arming (start now : System ρ) := armed_none
  exact Machine.run_invariant (armed_step hact henv) events hstart harms hrun

/-- A pause changes no counter and moves no call. -/
theorem run_pause {pause : List (Event ρ)} {s t : System ρ} (hpause : Pause pause)
    (hrun : (machine enabled limit window).run s pause = some t) :
    t.pc = s.pc ∧ t.shared.key = s.shared.key ∧ s.shared.now ≤ t.shared.now := by
  refine Machine.run_invariant_of_forall_mem
    (I := fun t : System ρ =>
      t.pc = s.pc ∧ t.shared.key = s.shared.key ∧ s.shared.now ≤ t.shared.now)
    ?_ pause ⟨rfl, rfl, le_refl _⟩ hpause hrun
  rintro u l v ⟨hpc, hkey, hnow⟩ ⟨e, rfl⟩ hstep
  obtain rfl := Threads.step_env.1 hstep
  cases e with
  | tick milliseconds => exact ⟨hpc, hkey, hnow.trans (Nat.le_add_right _ _)⟩
  | failure process => exact ⟨hpc, hkey, hnow⟩

/-- A call that will be served, since its count is within the limit or it learned none. -/
def Pc.Within (limit : ℤ) : Pc ρ → Prop
  | .idle => False
  | .expire _ count | .ttl _ count => count ≤ limit
  | .done r => r.allowed = true

/-- A call keeps to its count. -/
theorem next_within {redis redis' : Redis ρ} {pc pc' : Pc ρ} {choice : ρ × Outcome}
    (hpc : pc.Within limit)
    (hnext : next enabled limit window redis pc choice = some (redis', pc')) :
    pc'.Within limit := by
  obtain ⟨process, outcome⟩ := choice
  cases pc with
  | idle => exact hpc.elim
  | expire process' count =>
    cases outcome <;> obtain ⟨-, rfl⟩ := Prod.mk.inj (Option.some.inj hnext)
    · exact hpc
    · exact decide_eq_true hpc
    · exact decide_eq_true hpc
  | ttl process' count =>
    cases outcome <;> obtain ⟨-, rfl⟩ := Prod.mk.inj (Option.some.inj hnext) <;>
      exact decide_eq_true hpc
  | done r => exact absurd hnext nofun

/-- Whatever happens, a call within the limit stays within it. -/
theorem within_of_run {i : ℕ} {events : List (Event ρ)} {s t : System ρ}
    (hs : (s.pc i).Within limit) (hrun : (machine enabled limit window).run s events = some t) :
    (t.pc i).Within limit := by
  refine Machine.run_invariant_of_forall_mem (I := fun s : System ρ => (s.pc i).Within limit)
    (L := fun _ => True) ?_ events hs (fun _ _ => trivial) hrun
  intro s l t hs _ hstep
  cases l with
  | env e =>
    obtain rfl := Threads.step_env.1 hstep
    exact hs
  | act j choice =>
    obtain ⟨redis, pc, hnext, rfl⟩ := Threads.step_act.1 hstep
    show Pc.Within limit (Function.update s.pc j pc i)
    by_cases hij : i = j
    · subst hij
      rw [Function.update_self]
      exact next_within hs hnext
    · rwa [Function.update_of_ne hij]

/-- **A run that loses no expiry** locks nobody out. -/
theorem pausesEndWindows_of_arms (enabled : Bool) (window : ℤ) (hlimit : 1 ≤ limit) :
    PausesEndWindows (ρ := ρ) enabled limit window Arms := by
  intro now before s pause t i choice after u r hrun harms hsettled hidle hpause hpaused hlong
    hexpiry hafter hdone
  obtain ⟨hpc, hkey, hnow⟩ := run_pause hpause hpaused
  have hnobody : ¬ ∃ j, (s.pc j).Arming := by
    rintro ⟨j, process, n, hj⟩
    have := hsettled j
    rwa [hj] at this
  have hread : read t.shared.now t.shared.key = none := by
    rw [hkey] at hexpiry ⊢
    exact (armed_of_run hrun harms).read_eq_none hnobody (by omega) hexpiry
  obtain ⟨v, hv, hafter⟩ := Machine.run_cons_eq_some _ |>.1 hafter
  obtain ⟨redis, pc, hnext, rfl⟩ := Threads.step_act.1 hv
  have hwithin : pc.Within limit := by
    rw [hpc, hidle] at hnext
    obtain ⟨-, ⟨-, rfl⟩ | ⟨-, ⟨-, rfl⟩ | ⟨-, rfl⟩⟩⟩ := next_idle hnext
    · exact rfl
    · rw [incr_of_read_eq_none hread]
      exact hlimit
    · exact rfl
  have hself : (Function.update t.pc i pc i).Within limit := by
    rwa [Function.update_self]
  have hlast := within_of_run hself hafter
  rwa [hdone] at hlast

/-! ### Calls return -/

/-- How many commands a call may still send. -/
def Pc.left : Pc ρ → ℕ
  | .idle => 3
  | .expire _ _ => 2
  | .ttl _ _ => 1
  | .done _ => 0

/-- Every step of a call leaves it fewer commands. -/
theorem next_left {redis redis' : Redis ρ} {pc pc' : Pc ρ} {choice : ρ × Outcome}
    (hnext : next enabled limit window redis pc choice = some (redis', pc')) :
    pc'.left < pc.left := by
  obtain ⟨process, outcome⟩ := choice
  cases pc with
  | idle =>
    obtain ⟨-, ⟨-, rfl⟩ | ⟨-, ⟨-, rfl⟩ | ⟨-, rfl⟩⟩⟩ := next_idle hnext
    · exact Nat.zero_lt_succ 2
    · split_ifs
      · exact Nat.lt_succ_self 2
      · exact (by decide : 1 < 3)
    · exact Nat.zero_lt_succ 2
  | expire process' count =>
    cases outcome <;> obtain ⟨-, rfl⟩ := Prod.mk.inj (Option.some.inj hnext)
    · exact Nat.lt_succ_self 1
    · exact Nat.zero_lt_succ 1
    · exact Nat.zero_lt_succ 1
  | ttl process' count =>
    cases outcome <;> obtain ⟨-, rfl⟩ := Prod.mk.inj (Option.some.inj hnext) <;>
      exact Nat.zero_lt_succ 0
  | done r => exact absurd hnext nofun

/-- A call that has not returned has a next step, whatever becomes of its command. -/
theorem next_isSome {redis : Redis ρ} {pc : Pc ρ} (hpc : ∀ r, pc ≠ .done r)
    (choice : ρ × Outcome) : (next enabled limit window redis pc choice).isSome = true := by
  obtain ⟨process, outcome⟩ := choice
  cases pc with
  | idle =>
    simp only [next]
    split_ifs
    · rfl
    · rfl
    · cases outcome <;> rfl
    · cases outcome <;> rfl
  | expire process' count => cases outcome <;> rfl
  | ttl process' count => cases outcome <;> rfl
  | done r => exact absurd rfl (hpc r)

/-! ### A counter without an expiry -/

/-- A counter over the limit that nobody will set the expiry of. -/
def Stuck (limit : ℤ) (s : System ρ) : Prop :=
  (∃ m : ℕ, s.shared.key = some ⟨m, none⟩ ∧ 1 ≤ m ∧ limit ≤ m) ∧ ∀ j, ¬ (s.pc j).Arming

/-- A call that will be denied, or that learned no count. -/
def Pc.Over (limit window : ℤ) : Pc ρ → Prop
  | .idle | .expire _ _ => False
  | .ttl _ count => limit < count
  | .done r => r.allowed = false ∨ r = failOpen limit window

theorem incr_of_endless (now m : ℕ) : incr now (some ⟨m, none⟩) = ⟨m + 1, none⟩ := rfl

/-- The first step of a call that finds such a counter. -/
theorem next_idle_of_stuck {redis redis' : Redis ρ} {m : ℕ} {choice : ρ × Outcome} {pc : Pc ρ}
    (hkey : redis.key = some ⟨m, none⟩) (hm : 1 ≤ m) (hlimit : limit ≤ m)
    (hnext : next enabled limit window redis .idle choice = some (redis', pc)) :
    (redis'.key = some ⟨m, none⟩ ∨ redis'.key = some ⟨m + 1, none⟩) ∧ pc.Over limit window := by
  obtain ⟨process, outcome⟩ := choice
  have hidle := next_idle hnext
  rw [hkey, incr_of_endless, if_neg (by simp only; omega)] at hidle
  obtain ⟨-, ⟨hkey', rfl⟩ | ⟨hkey', ⟨-, rfl⟩ | ⟨-, rfl⟩⟩⟩ := hidle
  · exact ⟨.inl hkey', .inr rfl⟩
  · refine ⟨.inr hkey', ?_⟩
    show limit < (m + 1 : ℕ)
    omega
  · exact ⟨.inr hkey', .inr rfl⟩

/-- A step of another kind leaves the counter as it is. -/
theorem next_of_stuck {redis redis' : Redis ρ} {choice : ρ × Outcome} {pc pc' : Pc ρ}
    (hidle : pc ≠ .idle) (harming : ¬ pc.Arming)
    (hnext : next enabled limit window redis pc choice = some (redis', pc')) :
    redis'.key = redis.key ∧ (pc.Over limit window → pc'.Over limit window) ∧ ¬ pc'.Arming := by
  obtain ⟨process, outcome⟩ := choice
  cases pc with
  | idle => exact absurd rfl hidle
  | expire process' count => exact absurd ⟨process', count, rfl⟩ harming
  | ttl process' count =>
    have hdenied : limit < count → (count : ℤ) ≤ limit → False := fun h h' => absurd h' h.not_ge
    cases outcome <;> obtain ⟨rfl, rfl⟩ := Prod.mk.inj (Option.some.inj hnext) <;>
      exact ⟨rfl, fun h => .inl (decide_eq_false (hdenied h)), nofun⟩
  | done r => exact absurd hnext nofun

/-- **No step arms such a counter.** -/
theorem stuck_step (s : System ρ) (l : Event ρ) (t : System ρ) (hs : Stuck limit s)
    (hstep : (machine enabled limit window).step s l = some t) : Stuck limit t := by
  obtain ⟨⟨m, hkey, hm, hlimit⟩, harming⟩ := hs
  cases l with
  | env e =>
    obtain rfl := Threads.step_env.1 hstep
    cases e <;> exact ⟨⟨m, hkey, hm, hlimit⟩, harming⟩
  | act i choice =>
    obtain ⟨redis, pc, hnext, rfl⟩ := Threads.step_act.1 hstep
    have hpc : ¬ pc.Arming → ∀ j, ¬ Pc.Arming (Function.update s.pc i pc j) := fun h j =>
      Threads.pc_update_cases (P := fun _ pc => ¬ Pc.Arming pc) h (fun j _ => harming j) j
    by_cases hidle : s.pc i = .idle
    · rw [hidle] at hnext
      obtain ⟨hkey', hover⟩ := next_idle_of_stuck hkey hm hlimit hnext
      refine ⟨?_, hpc ?_⟩
      · rcases hkey' with hkey' | hkey'
        · exact ⟨m, hkey', hm, hlimit⟩
        · exact ⟨m + 1, hkey', by omega, by omega⟩
      · rintro ⟨process, count, rfl⟩
        exact hover
    · obtain ⟨hkey', -, hpc'⟩ := next_of_stuck hidle (harming i) hnext
      exact ⟨⟨m, hkey'.trans hkey, hm, hlimit⟩, hpc hpc'⟩

/-- **A counter over the limit that has no expiry denies for good**: whatever happens, and
however much time passes, every later check that learns its count is denied. -/
theorem denied_for_good {s t u : System ρ} {i : ℕ} {choice : ρ × Outcome}
    {before after : List (Event ρ)} {r : Result} (hs : Stuck limit s)
    (hbefore : (machine enabled limit window).run s before = some t) (hidle : t.pc i = .idle)
    (hafter : (machine enabled limit window).run t (.act i choice :: after) = some u)
    (hdone : u.pc i = .done r) : r.allowed = false ∨ r = failOpen limit window := by
  have ht : Stuck limit t := Machine.run_invariant_of_forall_mem (L := fun _ => True)
    (fun s l t hs _ => stuck_step s l t hs) before hs (fun _ _ => trivial) hbefore
  obtain ⟨v, hv, hafter⟩ := Machine.run_cons_eq_some _ |>.1 hafter
  have hvstuck := stuck_step t _ v ht hv
  obtain ⟨redis, pc, hnext, rfl⟩ := Threads.step_act.1 hv
  rw [hidle] at hnext
  obtain ⟨⟨m, hkey, hm, hlimit⟩, -⟩ := ht
  have hover : Pc.Over limit window (Function.update t.pc i pc i) := by
    rw [Function.update_self]
    exact (next_idle_of_stuck hkey hm hlimit hnext).2
  have hlast := Machine.run_invariant_of_forall_mem
    (I := fun s : System ρ => Stuck limit s ∧ (s.pc i).Over limit window) (L := fun _ => True)
    ?_ after ⟨hvstuck, hover⟩ (fun _ _ => trivial) hafter
  · have := hlast.2
    rwa [hdone] at this
  rintro s l t ⟨hs, hover⟩ - hstep
  refine ⟨stuck_step s l t hs hstep, ?_⟩
  cases l with
  | env e =>
    obtain rfl := Threads.step_env.1 hstep
    exact hover
  | act j choice =>
    obtain ⟨redis, pc, hnext, rfl⟩ := Threads.step_act.1 hstep
    show Pc.Over limit window (Function.update s.pc j pc i)
    by_cases hij : i = j
    · subst hij
      have hidle : s.pc i ≠ .idle := fun he => by rwa [he] at hover
      rw [Function.update_self]
      exact (next_of_stuck hidle (hs.2 i) hnext).2.1 hover
    · rwa [Function.update_of_ne hij]

/-- **A pause ends every window**, of the limiter and of the counters of the cache, in each run
that loses no expiry. -/
theorem pause_ends_windows (enabled : Bool) (window : ℤ) (hlimit : 1 ≤ limit) {ttlSeconds : ℚ}
    (hpos : 0 < ttlSeconds) :
    PausesEndWindows (ρ := ρ) enabled limit window Arms ∧
      CacheService.ReturnsToOne ttlSeconds CacheService.Arms :=
  ⟨pausesEndWindows_of_arms enabled window hlimit, CacheService.returnsToOne_of_arms hpos⟩

end Check

/-- A limit of one check a minute, and of one view in half an hour. -/
theorem pause_ends_windows_minute :
    PausesEndWindows (ρ := Unit) true 1 60 Arms ∧
      CacheService.ReturnsToOne 1800 CacheService.Arms :=
  pause_ends_windows true 60 (by decide) (by decide)

/-- A check whose `EXPIRE` fails. -/
def unarmed : List (Event Unit) := [.act 0 ((), .answered), .act 0 ((), .failed)]

/-- A call of `increment` whose `EXPIRE` fails. -/
def unarmedView : List CacheService.Event := [.act 0 .answered, .act 0 .failed]

/-- A day later the check is denied, and the count is two. -/
theorem not_pause_ends_windows_unarmed :
    ¬ PausesEndWindows true 1 60 (fun (_ : System Unit) _ => True) ∧
      ¬ CacheService.ReturnsToOne 1800 fun _ _ => True := by
  refine ⟨fun h => ?_, fun h => ?_⟩
  · have hallowed := h 0 unarmed _ [.env (.tick 86400000)] _ 1 ((), .answered)
      [.act 1 ((), .answered)] _ _ rfl (Machine.Meets.of_forall_mem _ fun _ _ => trivial)
      (fun j => ?_) rfl (fun l hl => ⟨_, List.mem_singleton.1 hl⟩) rfl (by decide) ?_ rfl rfl
    · exact absurd hallowed (by decide)
    · cases j <;> exact trivial
    · rintro c hc
      obtain rfl := Option.some.inj hc
      exact nofun
  · have hone := h 0 unarmedView _ 86400000 1 [] _ _ rfl
      (Machine.Meets.of_forall_mem _ fun _ _ => trivial) (fun j => ?_) rfl (by norm_num) ?_ rfl
      (fun _ hl => absurd hl List.not_mem_nil) rfl
    · exact absurd hone (by decide)
    · cases j <;> exact trivial
    · rintro c hc
      obtain rfl := Option.some.inj hc
      exact nofun

end RateLimiter
end Reports
end TopChoice
