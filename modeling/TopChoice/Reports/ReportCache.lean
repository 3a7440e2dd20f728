/-
# The cache of the reports

`cache` of `apps/reports-svc/lib/db.rb`, as calls of it run in any number of processes over one
Redis: a read, and where it finds nothing the payload, normalised, and a write of its text.
`redis_safe` swallows what a command raises and stays away from Redis for five seconds after.
Between the commands time passes, other commands fail, and keys are deleted.

What a call makes of its payload, stores and reads back is a `Codec`.  With the codec of the
service the cache simulates, step by step, one that keeps the payloads themselves
(`keptPayloads`): what a call returns is encoded as the payload that is returned there
(`cache_simulates`).
-/

import TopChoice.Lib.FixedWindow
import TopChoice.Lib.Memo
import TopChoice.Reports.JsonCodec

namespace TopChoice
namespace Reports
namespace ReportCache

open JsonCodec
open FixedWindow (Outcome)

variable {ρ υ τ : Type} [DecidableEq ρ]

/-! ### The calls -/

/-- The clock in milliseconds, what is stored, and `@redis_failed_at` of each process. -/
structure Redis (ρ τ : Type) where
  now : ℕ
  entries : Memo String τ
  failedAt : ρ → Option ℕ

/-- `redis_breaker_open?`: a failure of less than five seconds ago, which is forgotten when it
is older. -/
def breaker (redis : Redis ρ τ) (process : ρ) : Bool × Redis ρ τ :=
  match redis.failedAt process with
  | none => (false, redis)
  | some t =>
    if redis.now - t < 5000 then (true, redis)
    else (false, { redis with failedAt := Function.update redis.failedAt process none })

/-- What `redis_safe` notes of a failure. -/
def failure (redis : Redis ρ τ) (process : ρ) : Redis ρ τ :=
  { redis with failedAt := Function.update redis.failedAt process (some redis.now) }

/-- `redis_safe`, of a block that raises or sends a command: its answer, and what it stores. -/
def redisSafe {α : Type} (redis : Redis ρ τ) (process : ρ) (outcome : Outcome)
    (block : Option (α × Memo String τ)) : Option α × Redis ρ τ :=
  let (isOpen, redis) := breaker redis process
  if isOpen then (none, redis)
  else
    match block with
    | none => (none, failure redis process)
    | some (answer, entries) =>
      match outcome with
      | .answered => (some answer, { redis with entries := entries })
      | .failed => (none, failure redis process)
      | .lost => (none, failure { redis with entries := entries } process)

/-- What is made of a payload, what is stored for it and what is read of that; `none` is an
error. -/
structure Codec (υ τ : Type) where
  normalize : RubyValue → υ
  generate : υ → Option τ
  parse : τ → Option υ

/-- A call: the process it runs in, its arguments, and what its block returns. -/
structure Call (ρ : Type) where
  process : ρ
  key : String
  ttl : ℤ
  payload : RubyValue

/-- Where a call stands. -/
inductive Pc (ρ υ : Type) where
  | reading (call : Call ρ)
  | writing (call : Call ρ) (value : υ)
  | done (call : Call ρ) (value : υ)

/-- The next command of `cache`, and what becomes of it. -/
def next (codec : Codec υ τ) (redis : Redis ρ τ) : Pc ρ υ → Outcome → Option (Redis ρ τ × Pc ρ υ)
  | .reading call, outcome =>
    let (cached, redis) := redisSafe redis call.process outcome
      (some (redis.entries.get redis.now call.key, redis.entries))
    match cached.join with
    | some cached =>
      -- a text that is not parsed is passed over
      some (redis, .done call ((codec.parse cached).getD (codec.normalize call.payload)))
    | none => some (redis, .writing call (codec.normalize call.payload))
  | .writing call value, outcome =>
    let (_, redis) := redisSafe redis call.process outcome
      ((codec.generate value).bind fun text =>
        -- Redis takes no other time to live
        if 0 < call.ttl then
          some ((), redis.entries.set call.key text (redis.now + 1000 * call.ttl.toNat))
        else none)
    some (redis, .done call value)
  | .done _ _, _ => none

/-- What happens between the commands: time passes, another command of a process fails, or keys
are deleted. -/
inductive Env (ρ : Type) where
  | tick (milliseconds : ℕ)
  | failure (process : ρ)
  | deleteCache (keys : List String)

/-- What it changes. -/
def Env.apply (redis : Redis ρ τ) : Env ρ → Redis ρ τ
  | .tick milliseconds => { redis with now := redis.now + milliseconds }
  | .failure process => ReportCache.failure redis process
  | .deleteCache keys => { redis with entries := redis.entries.unlink keys }

/-- The calls. -/
abbrev System (ρ υ τ : Type) := Threads.Sys (Redis ρ τ) ℕ (Pc ρ υ)

/-- A command of a call, or what happens between the commands. -/
abbrev Event (ρ : Type) := Threads.Action ℕ Outcome (Env ρ)

/-- The interleavings of the calls. -/
def machine (codec : Codec υ τ) : Machine (System ρ υ τ) (Event ρ) :=
  Threads.machine (next codec) Env.apply

/-- Nothing is stored, and no call has begun. -/
def start (now : ℕ) (calls : ℕ → Call ρ) : System ρ υ τ :=
  ⟨⟨now, .empty, fun _ => none⟩, fun i => .reading (calls i)⟩

/-! ### The two codecs -/

section

variable (ruby : Conversions) (json : JsonLibrary)

/-- The codec of the service. -/
def jsonCodec : Codec RubyValue String where
  normalize := normalize ruby
  generate value := (json.generate value).toOption
  parse text := (decode json text).toOption

/-- The cache that keeps the payloads themselves, where they can be encoded. -/
def keptPayloads : Codec RubyValue RubyValue where
  normalize := id
  generate payload := if (encode ruby json payload).isOk then some payload else none
  parse := some

end

/-! ### Simulation -/

/-- What two codecs make of the same payloads is related: a value to a value, what is stored to
what is stored. -/
structure Codec.Simulates {υ' τ' : Type} (V : υ → υ' → Prop) (S : τ → τ' → Prop)
    (codec : Codec υ τ) (codec' : Codec υ' τ') : Prop where
  normalize : ∀ payload, V (codec.normalize payload) (codec'.normalize payload)
  generate : ∀ {v v'}, V v v' → Option.Rel S (codec.generate v) (codec'.generate v')
  parse : ∀ {t t'}, S t t' → Option.Rel V (codec.parse t) (codec'.parse t')

section

variable {υ' τ' : Type} {V : υ → υ' → Prop} {S : τ → τ' → Prop} {codec : Codec υ τ}
  {codec' : Codec υ' τ'}

/-- The clocks and the breakers are the same, and what is stored is related. -/
structure Redis.Related (S : τ → τ' → Prop) (redis : Redis ρ τ) (redis' : Redis ρ τ') : Prop where
  now : redis.now = redis'.now
  entries : redis.entries.Related S redis'.entries
  failedAt : redis.failedAt = redis'.failedAt

/-- The calls stand at the same point, with related values. -/
inductive Pc.Related (V : υ → υ' → Prop) : Pc ρ υ → Pc ρ υ' → Prop
  | reading (call : Call ρ) : Pc.Related V (.reading call) (.reading call)
  | writing (call : Call ρ) {value : υ} {value' : υ'} : V value value' →
      Pc.Related V (.writing call value) (.writing call value')
  | done (call : Call ρ) {value : υ} {value' : υ'} : V value value' →
      Pc.Related V (.done call value) (.done call value')

theorem Redis.Related.failure {redis : Redis ρ τ} {redis' : Redis ρ τ'} (h : redis.Related S redis')
    (process : ρ) : (failure redis process).Related S (failure redis' process) where
  now := h.now
  entries := h.entries
  failedAt := by rw [ReportCache.failure, ReportCache.failure, h.failedAt, h.now]

theorem Redis.Related.breaker {redis : Redis ρ τ} {redis' : Redis ρ τ'} (h : redis.Related S redis')
    (process : ρ) : (breaker redis process).1 = (breaker redis' process).1 ∧
      (breaker redis process).2.Related S (breaker redis' process).2 := by
  rw [ReportCache.breaker, ReportCache.breaker, ← h.failedAt, ← h.now]
  cases redis.failedAt process with
  | none => exact ⟨rfl, h⟩
  | some t =>
    dsimp only
    split_ifs
    · exact ⟨rfl, h⟩
    · exact ⟨rfl, rfl, h.entries, rfl⟩

/-- A block that answers and stores what is related leaves what is related. -/
theorem Redis.Related.redisSafe {α α' : Type} {A : α → α' → Prop} {redis : Redis ρ τ}
    {redis' : Redis ρ τ'} (h : redis.Related S redis') (process : ρ) (outcome : Outcome)
    {block : Option (α × Memo String τ)} {block' : Option (α' × Memo String τ')}
    (hblock : Option.Rel (fun b b' => A b.1 b'.1 ∧ b.2.Related S b'.2) block block') :
    Option.Rel A (redisSafe redis process outcome block).1
        (redisSafe redis' process outcome block').1 ∧
      (redisSafe redis process outcome block).2.Related S
        (redisSafe redis' process outcome block').2 := by
  obtain ⟨hopen, hafter⟩ := h.breaker process
  rw [ReportCache.redisSafe, ReportCache.redisSafe]
  generalize ReportCache.breaker redis process = before at hopen hafter ⊢
  generalize ReportCache.breaker redis' process = before' at hopen hafter ⊢
  obtain ⟨isOpen, after⟩ := before
  obtain ⟨isOpen', after'⟩ := before'
  obtain rfl : isOpen = isOpen' := hopen
  cases isOpen with
  | true => exact ⟨.none, hafter⟩
  | false =>
    cases hblock with
    | none => exact ⟨.none, hafter.failure process⟩
    | @some b b' hb =>
      have hstored : ({ after with entries := b.2 } : Redis ρ τ).Related S
          { after' with entries := b'.2 } :=
        ⟨hafter.now, hb.2, hafter.failedAt⟩
      cases outcome with
      | answered => exact ⟨.some hb.1, hstored⟩
      | failed => exact ⟨.none, hafter.failure process⟩
      | lost => exact ⟨.none, hstored.failure process⟩

theorem rel_join {a : Option (Option τ)} {a' : Option (Option τ')}
    (h : Option.Rel (Option.Rel S) a a') : Option.Rel S a.join a'.join := by
  cases h with
  | none => exact .none
  | some h => exact h

theorem rel_getD {a : Option υ} {a' : Option υ'} {v : υ} {v' : υ'} (h : Option.Rel V a a')
    (hv : V v v') : V (a.getD v) (a'.getD v') := by
  cases h with
  | none => exact hv
  | some h => exact h

/-- **What one command does**, with the one codec and with the other. -/
theorem next_simulates (hcodec : codec.Simulates V S codec') {redis : Redis ρ τ}
    {redis' : Redis ρ τ'} {pc : Pc ρ υ} {pc' : Pc ρ υ'} {outcome : Outcome}
    {r : Redis ρ τ × Pc ρ υ} (hredis : redis.Related S redis') (hpc : pc.Related V pc')
    (h : next codec redis pc outcome = some r) :
    ∃ r', next codec' redis' pc' outcome = some r' ∧ r.1.Related S r'.1 ∧
      r.2.Related V r'.2 := by
  cases hpc with
  | reading call =>
    have hget : Option.Rel S (redis.entries.get redis.now call.key)
        (redis'.entries.get redis'.now call.key) := by
      rw [← hredis.now]
      exact hredis.entries.get redis.now call.key
    obtain ⟨hcached, hafter⟩ := hredis.redisSafe call.process outcome
      (.some (a := (redis.entries.get redis.now call.key, redis.entries))
        (b := (redis'.entries.get redis'.now call.key, redis'.entries)) ⟨hget, hredis.entries⟩)
    rw [next] at h ⊢
    generalize redisSafe redis call.process outcome _ = answer at h hcached hafter
    generalize redisSafe redis' call.process outcome _ = answer' at hcached hafter ⊢
    obtain ⟨cached, after⟩ := answer
    obtain ⟨cached', after'⟩ := answer'
    have hjoin := rel_join hcached
    dsimp only at h hjoin ⊢
    generalize cached.join = found at h hjoin
    generalize cached'.join = found' at hjoin ⊢
    cases hjoin with
    | none =>
      obtain rfl := Option.some.inj h
      exact ⟨_, rfl, hafter, .writing call (hcodec.normalize call.payload)⟩
    | some htext =>
      obtain rfl := Option.some.inj h
      exact ⟨_, rfl, hafter,
        .done call (rel_getD (hcodec.parse htext) (hcodec.normalize call.payload))⟩
  | @writing call value value' hvalue =>
    have hblock : Option.Rel (fun b b' => True ∧ b.2.Related S b'.2)
        ((codec.generate value).bind fun text =>
          if 0 < call.ttl then
            some ((), redis.entries.set call.key text (redis.now + 1000 * call.ttl.toNat))
          else none)
        ((codec'.generate value').bind fun text =>
          if 0 < call.ttl then
            some ((), redis'.entries.set call.key text (redis'.now + 1000 * call.ttl.toNat))
          else none) := by
      have hgenerate := hcodec.generate hvalue
      generalize codec.generate value = stored at hgenerate ⊢
      generalize codec'.generate value' = stored' at hgenerate ⊢
      cases hgenerate with
      | none => exact .none
      | some htext =>
        rw [Option.bind_some, Option.bind_some, ← hredis.now]
        split_ifs
        · exact .some ⟨trivial, hredis.entries.set call.key htext _⟩
        · exact .none
    obtain ⟨-, hafter⟩ := hredis.redisSafe (A := fun _ _ => True) call.process outcome hblock
    obtain rfl := Option.some.inj h
    exact ⟨_, rfl, hafter, .done call hvalue⟩
  | done call hvalue => exact absurd h nofun

/-- **A run with the one codec** is a run with the other. -/
theorem run_simulates (hcodec : codec.Simulates V S codec') {now : ℕ} {calls : ℕ → Call ρ}
    {events : List (Event ρ)} {s : System ρ υ τ}
    (hrun : (machine codec).run (start now calls) events = some s) :
    ∃ t : System ρ υ' τ', (machine codec').run (start now calls) events = some t ∧
      s.shared.Related S t.shared ∧ ∀ i, (s.pc i).Related V (t.pc i) := by
  have hnext : ∀ redis redis' pc pc' outcome r, redis.Related S redis' → pc.Related V pc' →
      next (ρ := ρ) codec redis pc outcome = some r →
      ∃ r', next codec' redis' pc' outcome = some r' ∧ r.1.Related S r'.1 ∧ r.2.Related V r'.2 :=
    fun _ _ _ _ _ _ hredis hpc h => next_simulates hcodec hredis hpc h
  have henv : ∀ (redis : Redis ρ τ) (redis' : Redis ρ τ') (e : Env ρ), redis.Related S redis' →
      (Env.apply redis e).Related S (Env.apply redis' e) := by
    intro redis redis' e h
    cases e with
    | tick milliseconds => exact ⟨congrArg (· + milliseconds) h.now, h.entries, h.failedAt⟩
    | failure process => exact h.failure process
    | deleteCache keys => exact ⟨h.now, h.entries.unlink keys, h.failedAt⟩
  have hstart : (start now calls : System ρ υ τ).shared.Related S
      (start now calls : System ρ υ' τ').shared :=
    ⟨rfl, Memo.related_empty, rfl⟩
  refine Machine.run_simulates (R := fun (s : System ρ υ τ) (t : System ρ υ' τ') =>
    s.shared.Related S t.shared ∧ ∀ i, (s.pc i).Related V (t.pc i))
    (fun s t event s' hrel hstep => ?_) events
    ⟨hstart, fun i => Pc.Related.reading (calls i)⟩ hrun
  exact Threads.step_simulates hnext henv hrel.1 hrel.2 hstep

end

/-! ### What the payload cache returns -/

section

variable {ruby : Conversions} {json : JsonLibrary}

/-- `redis_safe` answers what the block does, or nothing, and stores what the block does, or
nothing. -/
theorem redisSafe_spec {α : Type} (redis : Redis ρ τ) (process : ρ) (outcome : Outcome)
    (block : Option (α × Memo String τ)) :
    (redisSafe redis process outcome block).2.now = redis.now ∧
      ((redisSafe redis process outcome block).2.entries = redis.entries ∨
        ∃ b ∈ block, (redisSafe redis process outcome block).2.entries = b.2) ∧
      ∀ a ∈ (redisSafe redis process outcome block).1, ∃ b ∈ block, b.1 = a := by
  have hbreaker : (breaker redis process).2.now = redis.now ∧
      (breaker redis process).2.entries = redis.entries := by
    rw [breaker]
    cases redis.failedAt process with
    | none => exact ⟨rfl, rfl⟩
    | some t =>
      dsimp only
      split_ifs
      · exact ⟨rfl, rfl⟩
      · exact ⟨rfl, rfl⟩
  rw [redisSafe]
  generalize breaker redis process = before at hbreaker ⊢
  obtain ⟨isOpen, after⟩ := before
  obtain ⟨hnow, hentries⟩ := hbreaker
  cases isOpen with
  | true => exact ⟨hnow, .inl hentries, nofun⟩
  | false =>
    cases block with
    | none => exact ⟨hnow, .inl hentries, nofun⟩
    | some b =>
      cases outcome with
      | answered =>
        refine ⟨hnow, .inr ⟨b, rfl, rfl⟩, fun a ha => ⟨b, rfl, ?_⟩⟩
        exact Option.some.inj ha
      | failed => exact ⟨hnow, .inl hentries, nofun⟩
      | lost => exact ⟨hnow, .inr ⟨b, rfl, rfl⟩, nofun⟩

/-- The payload of a call for the key. -/
def IsPayload (calls : ℕ → Call ρ) (key : String) (payload : RubyValue) : Prop :=
  ∃ j, (calls j).key = key ∧ (calls j).payload = payload

/-- What a call has of a payload cache is the payload of a call for its key, its own where it
has found nothing. -/
def Pc.Honest (calls : ℕ → Call ρ) (i : ℕ) : Pc ρ RubyValue → Prop
  | .reading call => call = calls i
  | .writing call payload => call = calls i ∧ payload = call.payload
  | .done call payload => call = calls i ∧ IsPayload calls call.key payload

/-- The payloads that are kept are those of calls for their keys. -/
structure Honest (calls : ℕ → Call ρ) (s : System ρ RubyValue RubyValue) : Prop where
  entries : s.shared.entries.Holds s.shared.now (IsPayload calls)
  pc : ∀ i, (s.pc i).Honest calls i

/-- **A command keeps the payloads honest.** -/
theorem honest_next {calls : ℕ → Call ρ} {redis : Redis ρ RubyValue} {i : ℕ}
    {pc : Pc ρ RubyValue} {outcome : Outcome} {r : Redis ρ RubyValue × Pc ρ RubyValue}
    (hentries : redis.entries.Holds redis.now (IsPayload calls)) (hpc : pc.Honest calls i)
    (h : next (keptPayloads ruby json) redis pc outcome = some r) :
    r.1.entries.Holds r.1.now (IsPayload calls) ∧ r.2.Honest calls i := by
  cases pc with
  | reading call =>
    obtain ⟨hnow, hstored, hanswer⟩ := redisSafe_spec redis call.process outcome
      (some (redis.entries.get redis.now call.key, redis.entries))
    rw [next] at h
    generalize redisSafe redis call.process outcome _ = answer at h hnow hstored hanswer
    obtain ⟨cached, after⟩ := answer
    have hafter : after.entries.Holds after.now (IsPayload calls) := by
      have hsame : after.entries = redis.entries := by
        obtain hsame | ⟨b, hb, hsame⟩ := hstored
        · exact hsame
        · cases hb
          exact hsame
      have hnow' : after.now = redis.now := hnow
      rw [hsame, hnow']
      exact hentries
    dsimp only at h
    cases hjoin : cached.join with
    | none =>
      rw [hjoin] at h
      obtain rfl := Option.some.inj h
      exact ⟨hafter, hpc, rfl⟩
    | some payload =>
      rw [hjoin] at h
      obtain rfl := Option.some.inj h
      obtain ⟨b, hb, hfound⟩ := hanswer (some payload) (Option.join_eq_some_iff.1 hjoin)
      cases hb
      exact ⟨hafter, hpc, hentries call.key payload hfound⟩
  | writing call payload =>
    obtain ⟨rfl, rfl⟩ := hpc
    have hown : IsPayload calls (calls i).key (calls i).payload := ⟨i, rfl, rfl⟩
    obtain ⟨hnow, hstored, -⟩ := redisSafe_spec redis (calls i).process outcome
      (((keptPayloads ruby json).generate (calls i).payload).bind fun text =>
        if 0 < (calls i).ttl then
          some ((), redis.entries.set (calls i).key text
            (redis.now + 1000 * (calls i).ttl.toNat))
        else none)
    rw [next] at h
    generalize redisSafe redis (calls i).process outcome _ = answer at h hnow hstored
    obtain ⟨written, after⟩ := answer
    dsimp only at hnow hstored
    obtain rfl := Option.some.inj h
    refine ⟨?_, rfl, hown⟩
    rw [hnow]
    obtain hsame | ⟨b, hb, hset⟩ := hstored
    · rw [hsame]
      exact hentries
    · rw [hset]
      obtain ⟨text, htext, hblock⟩ := Option.bind_eq_some_iff.1 hb
      have hpayload : text = (calls i).payload := by
        simp only [keptPayloads] at htext
        split at htext
        · exact (Option.some.inj htext).symm
        · exact absurd htext nofun
      split at hblock
      · obtain rfl := Option.some.inj hblock
        exact hentries.set (hpayload ▸ hown)
      · exact absurd hblock nofun
  | done call payload => exact absurd h nofun

/-- **In every run** the payloads are honest. -/
theorem honest_of_run {now : ℕ} {calls : ℕ → Call ρ} {events : List (Event ρ)}
    {s : System ρ RubyValue RubyValue}
    (hrun : (machine (keptPayloads ruby json)).run (start now calls) events = some s) :
    Honest calls s := by
  have hstep : ∀ (s : System ρ RubyValue RubyValue) (event : Event ρ) t, Honest calls s →
      (machine (keptPayloads ruby json)).step s event = some t → Honest calls t := by
    intro s event t hs hstep
    cases event with
    | act i outcome =>
      obtain ⟨redis, pc, hnext, rfl⟩ := Threads.step_act.1 hstep
      obtain ⟨hentries, hpc⟩ := honest_next hs.entries (hs.pc i) hnext
      exact ⟨hentries, Threads.pc_update_cases hpc fun j _ => hs.pc j⟩
    | env e =>
      obtain rfl := Threads.step_env.1 hstep
      refine ⟨?_, hs.pc⟩
      cases e with
      | tick milliseconds => exact hs.entries.later (Nat.le_add_right _ _)
      | failure process => exact hs.entries
      | deleteCache keys => exact hs.entries.unlink fun _ _ _ _ h => h
  have hstart : Honest calls (start now calls : System ρ RubyValue RubyValue) :=
    ⟨Memo.holds_empty, fun i => rfl⟩
  exact Machine.run_invariant_of_forall_mem (L := fun _ => True)
    (fun s event t hs _ h => hstep s event t hs h) events hstart (fun _ _ => trivial) hrun

/-! ### Hits and misses -/

/-- **The codec of the service simulates the payloads**: a value is a payload, normalised, and a
text is a payload, encoded. -/
theorem jsonCodec_simulates (hjson : json.Lawful) :
    (jsonCodec ruby json).Simulates (fun value payload => value = normalize ruby payload)
      (fun text payload => encode ruby json payload = .ok text) (keptPayloads ruby json) where
  normalize payload := rfl
  generate := by
    rintro _ payload rfl
    simp only [jsonCodec, keptPayloads]
    cases hencode : encode ruby json payload with
    | error e =>
      rw [encode] at hencode
      rw [hencode]
      exact .none
    | ok text =>
      have htext := hencode
      rw [encode] at htext
      rw [htext]
      exact .some hencode
  parse := by
    intro text payload htext
    simp only [jsonCodec, keptPayloads, decode_encode hjson htext]
    exact .some rfl

/-- **A hit of the cache equals a miss.**  What is normalised stays as it is when it is
normalised again, what is encoded is decoded and encoded to the same text, and in every run each
call that is done returns a value that is encoded as the payload a cache of payloads returns
there: the payload of a call for the same key, so its own where these calls have the same. -/
theorem hit_equals_miss (ruby : Conversions) {json : JsonLibrary} (hjson : json.Lawful) :
    (∀ payload, normalize ruby (normalize ruby payload) = normalize ruby payload) ∧
      (∀ payload text, encode ruby json payload = .ok text →
        ∃ decoded, decode json text = .ok decoded ∧ encode ruby json decoded = .ok text) ∧
      ∀ (now : ℕ) (calls : ℕ → Call ρ) (events : List (Event ρ)) (s : System ρ RubyValue String),
        (machine (jsonCodec ruby json)).run (start now calls) events = some s →
        ∃ t, (machine (keptPayloads ruby json)).run (start now calls) events = some t ∧
          ∀ i call value, s.pc i = .done call value → call = calls i ∧
            (∃ payload, t.pc i = .done call payload ∧ IsPayload calls call.key payload ∧
              encode ruby json value = encode ruby json payload) ∧
            ((∀ j, (calls j).key = call.key → (calls j).payload = call.payload) →
              encode ruby json value = encode ruby json call.payload) := by
  refine ⟨normalize_normalize, fun payload text h => encode_decode_encode hjson h,
    fun now calls events s hrun => ?_⟩
  obtain ⟨t, ht, -, hpcs⟩ := run_simulates (jsonCodec_simulates hjson) hrun
  refine ⟨t, ht, fun i call value hdone => ?_⟩
  have hrel := hpcs i
  have hhonest := (honest_of_run ht).pc i
  rw [hdone] at hrel
  generalize hpc : t.pc i = pc at hrel hhonest
  cases hrel with
  | @done _ _ payload hvalue =>
    obtain ⟨hcall, hpayload⟩ := hhonest
    have hencode : encode ruby json value = encode ruby json payload := by
      rw [hvalue, encode_normalize]
    refine ⟨hcall, ⟨payload, rfl, hpayload, hencode⟩, fun hsame => ?_⟩
    obtain ⟨j, hkey, rfl⟩ := hpayload
    rw [hencode, hsame j hkey]

end

/-- The conversions as far as ASCII names and the number 1.5 need them. -/
def onePointFive : Conversions where
  upcase c := String.singleton c.toUpper
  bigDecimalToF
    | .finite 15 (-1) => ⟨0x3ff8000000000000⟩
    | _ => ⟨0⟩
  rationalToF _ := ⟨0⟩

/-- The text of a report of one price. -/
def priceText : String := "\x7b\"avgPrice\":1.5\x7d"

/-- The library, as far as a report of one price needs it. -/
def priceLibrary : JsonLibrary where
  generate
    | .hash [(.string "avgPrice", .float ⟨0x3ff8000000000000⟩)] => .ok priceText
    | _ => .error ⟨"not a report of one price"⟩
  parse text :=
    if text = priceText then .ok (.hash [(.string "avgPrice", .float ⟨0x3ff8000000000000⟩)])
    else .error ⟨"not a report of one price"⟩

theorem priceLibrary_generate {value : RubyValue} {text : String}
    (h : priceLibrary.generate value = .ok text) :
    value = .hash [(.string "avgPrice", .float ⟨0x3ff8000000000000⟩)] ∧ text = priceText := by
  simp only [priceLibrary] at h
  split at h
  · exact ⟨rfl, (Except.ok.inj h).symm⟩
  · exact absurd h nofun

theorem lawful_priceLibrary : priceLibrary.Lawful where
  parse_generate _ _ h := by
    obtain ⟨rfl, rfl⟩ := priceLibrary_generate h
    rfl
  allFinite _ h := by
    obtain ⟨rfl, -⟩ := priceLibrary_generate h
    have hfloats : ∀ f ∈ [(⟨0x3ff8000000000000⟩ : RubyFloat)], f.isFinite = true := by decide
    exact hfloats

/-- A call for a report of one price. -/
def priceCall : Call Unit :=
  ⟨(), "cache:list:0", 300, .hash [(.symbol "avg_price", .bigDecimal (.finite 15 (-1)))]⟩

/-- The first call misses and writes, the second one hits. -/
theorem hit_equals_miss_price :
    ∃ (s : System Unit RubyValue String) (value : RubyValue),
      (machine (jsonCodec onePointFive priceLibrary)).run (start 0 fun _ => priceCall)
        [.act 0 .answered, .act 0 .answered, .act 1 .answered] = some s ∧
      s.pc 1 = .done priceCall value ∧
      encode onePointFive priceLibrary value =
        encode onePointFive priceLibrary priceCall.payload ∧
      encode onePointFive priceLibrary priceCall.payload = .ok priceText := by
  have hrun : ∃ (s : System Unit RubyValue String) (value : RubyValue),
      (machine (jsonCodec onePointFive priceLibrary)).run (start 0 fun _ => priceCall)
        [.act 0 .answered, .act 0 .answered, .act 1 .answered] = some s ∧
      s.pc 1 = .done priceCall value :=
    ⟨_, _, rfl, rfl⟩
  obtain ⟨s, value, hrun, hdone⟩ := hrun
  obtain ⟨t, -, hall⟩ := (hit_equals_miss onePointFive lawful_priceLibrary).2.2 0
    (fun _ => priceCall) [.act 0 .answered, .act 0 .answered, .act 1 .answered] s hrun
  exact ⟨s, value, hrun, hdone, (hall 1 priceCall value hdone).2.2 fun _ _ => rfl, rfl⟩

end ReportCache
end Reports
end TopChoice
