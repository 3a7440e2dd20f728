/-
# The sliding window of the search limiter

`sliding_window_hit` of `apps/search-svc/app/core/redis.py`, for the hits on one key.  A hit
takes what has left the window out of a sorted set, adds itself, counts and sets the expiry of
the key, in one transaction.  A hit that is one too many stays in the set until its `ZREM`
arrives, if it ever does; either way it was not allowed.

So in every window of `window_seconds`, wherever it starts, the limiter allows `limit` hits at
most (`sliding_window`).  Every allowed hit that is still in the window is counted
(`Counted.stored`): it has a member of its own, and the key does not expire before the member
leaves the window.

The clock is in milliseconds.  Hits for which Redis cannot be reached are allowed without being
counted, and are left out.
-/

import Mathlib.Algebra.Order.Ring.Int
import TopChoice.Lib.Machine
import TopChoice.Lib.SortedSet

namespace TopChoice
namespace Search
namespace SlidingWindow

open SortedSet

/-! ### A hit -/

/-- The arguments of the limiter. -/
structure Limit where
  limit : ℤ
  windowSeconds : ℤ

/-- `window_ms`. -/
def Limit.windowMs (l : Limit) : ℤ := max 1 l.windowSeconds * 1000

variable {μ : Type} [DecidableEq μ]

/-- The transaction of a hit: what it leaves in the key, and the third result. -/
def Limit.pipeline (l : Limit) (now : ℕ) (member : μ) (key : Option (SortedSet μ)) :
    Option (SortedSet μ) × ℕ :=
  let trimmed := zremrangebyscore 0 (now - l.windowMs) (read now key)
  let added := zadd member now trimmed
  (expire now l.windowSeconds (some added), zcard (some added))

/-- `(allowed, remaining, retry_after_seconds)`, by what was counted. -/
def Limit.answer (l : Limit) (used : ℕ) : Bool × ℤ × ℤ :=
  if l.limit < used then (false, 0, l.windowSeconds) else (true, max 0 (l.limit - used), 0)

/-! ### Runs -/

/-- The key, the members that have been used, the hits that were allowed and those that were
not and may still be rolled back. -/
structure Window (μ : Type) where
  now : ℕ
  key : Option (SortedSet μ)
  seen : List μ
  allowed : List (ℕ × μ)
  rejected : List μ

/-- What happens next on the key. -/
inductive Hit (μ : Type) where
  | hit (now : ℕ) (member : μ)
  /-- The `ZREM` of a hit that was not allowed. -/
  | rollback (now : ℕ) (member : μ)

/-- One event; the clock does not go back and every hit brings a member of its own. -/
def Limit.step (l : Limit) (s : Window μ) : Hit μ → Option (Window μ)
  | .hit now member =>
      if s.now ≤ now ∧ member ∉ s.seen then
        let results := l.pipeline now member s.key
        let allowed := (l.answer results.2).1
        some
          { now := now
            key := results.1
            seen := member :: s.seen
            allowed := if allowed then (now, member) :: s.allowed else s.allowed
            rejected := if allowed then s.rejected else member :: s.rejected }
      else none
  | .rollback now member =>
      if s.now ≤ now ∧ member ∈ s.rejected then some
        { s with
          now := now
          key := zrem member (read now s.key)
          rejected := s.rejected.erase member }
      else none

/-- Every order of hits and rollbacks. -/
def Limit.machine (l : Limit) (μ : Type) [DecidableEq μ] : Machine (Window μ) (Hit μ) := ⟨l.step⟩

/-- A key that no hit has touched. -/
def Window.start (now : ℕ) : Window μ := ⟨now, none, [], [], []⟩

/-- The hits that were allowed in `(t - w, t]`. -/
def Window.allowedIn (s : Window μ) (w t : ℤ) : List (ℕ × μ) :=
  s.allowed.filter fun a => t - w < a.1 ∧ a.1 ≤ t

/-! ### What is counted -/

/-- The window of the limiter in milliseconds, and the invariant of the runs: an allowed hit
that is still in the window has its member in the key, and the key lasts until then. -/
structure Counted (l : Limit) (s : Window μ) : Prop where
  past : ∀ a ∈ s.allowed, a.1 ≤ s.now
  members : (s.allowed.map Prod.snd).Nodup
  allowedSeen : ∀ a ∈ s.allowed, a.2 ∈ s.seen
  rejectedSeen : ∀ member ∈ s.rejected, member ∈ s.seen
  apart : ∀ a ∈ s.allowed, a.2 ∉ s.rejected
  distinct : Distinct s.key
  stored : ∀ a ∈ s.allowed, s.now < a.1 + 1000 * l.windowSeconds →
    Holds s.key a.2 a.1 ∧
      ∀ set, s.key = some set → ∃ e, set.expiry = some e ∧ a.1 + 1000 * l.windowSeconds ≤ e
  bounded : ∀ t, ((s.allowedIn (1000 * l.windowSeconds) t).length : ℤ) ≤ max 0 l.limit

omit [DecidableEq μ] in
theorem Counted.start (l : Limit) (now : ℕ) : Counted l (Window.start now : Window μ) where
  past _ h := nomatch h
  members := List.nodup_nil
  allowedSeen _ h := nomatch h
  rejectedSeen _ h := nomatch h
  apart _ h := nomatch h
  distinct _ h := nomatch h
  stored _ h := nomatch h
  bounded _ := le_max_left _ _

section Step

variable {l : Limit} {s : Window μ} {now : ℕ} {member : μ}

omit [DecidableEq μ] in
/-- A hit in the window is visible in the key, also after what has left it is trimmed. -/
theorem Counted.holds (h : Counted l s) (hnow : s.now ≤ now) {a : ℕ × μ} (ha : a ∈ s.allowed)
    (hwindow : (now : ℤ) < a.1 + 1000 * l.windowSeconds) : Holds (read now s.key) a.2 a.1 := by
  obtain ⟨⟨set, hset, hmem⟩, hexpiry⟩ := h.stored a ha (by omega)
  obtain ⟨e, he, hlast⟩ := hexpiry set hset
  refine ⟨set, ?_, hmem⟩
  rw [SortedSet.read, hset, Option.filter_some, he]
  refine if_pos (decide_eq_true ?_)
  omega

omit [DecidableEq μ] in
theorem Counted.holds_trimmed (h : Counted l s) (hnow : s.now ≤ now) {a : ℕ × μ}
    (ha : a ∈ s.allowed) (hwindow : (now : ℤ) < a.1 + 1000 * l.windowSeconds) :
    Holds (zremrangebyscore 0 (now - l.windowMs) (read now s.key)) a.2 a.1 := by
  refine holds_keep (h.holds hnow ha hwindow) ?_
  have hpast := h.past a ha
  have hms : l.windowMs = 1000 * l.windowSeconds := by
    rw [Limit.windowMs]
    omega
  simp only [Bool.not_eq_true', Bool.and_eq_false_iff, decide_eq_false_iff_not]
  omega

/-- **What a hit counts**: itself and every allowed hit that is still in the window. -/
theorem Counted.lt_used (h : Counted l s) (hnow : s.now ≤ now) (hmember : member ∉ s.seen) :
    (s.allowed.filter fun a => (now : ℤ) < a.1 + 1000 * l.windowSeconds).length <
      (l.pipeline now member s.key).2 := by
  set live := s.allowed.filter fun a => (now : ℤ) < a.1 + 1000 * l.windowSeconds
  have hfresh (a : ℕ × μ) (ha : a ∈ s.allowed) : a.2 ≠ member := fun heq =>
    hmember (heq ▸ h.allowedSeen a ha)
  have hnodup : (member :: live.map Prod.snd).Nodup := by
    rw [List.nodup_cons]
    refine ⟨fun hmem => ?_, (List.filter_sublist.map Prod.snd).nodup h.members⟩
    obtain ⟨a, ha, heq⟩ := List.mem_map.1 hmem
    exact hfresh a (List.mem_filter.1 ha).1 heq
  have hmem : ∀ other ∈ member :: live.map Prod.snd, ∃ score, (other, score) ∈
      (zadd member now (zremrangebyscore 0 (now - l.windowMs) (read now s.key))).entries := by
    intro other hother
    obtain rfl | hmem := List.mem_cons.1 hother
    · exact ⟨now, mem_zadd_self _ _ _⟩
    · obtain ⟨a, ha, rfl⟩ := List.mem_map.1 hmem
      obtain ⟨hallowed, hwindow⟩ := List.mem_filter.1 ha
      exact ⟨a.1, mem_zadd (h.holds_trimmed hnow hallowed (of_decide_eq_true hwindow))
        (hfresh a hallowed)⟩
  have hcount := length_le_zcard hnodup hmem
  rw [List.length_cons, List.length_map] at hcount
  exact hcount

/-- What a hit leaves in the key. -/
theorem Counted.stored_pipeline (h : Counted l s) (hnow : s.now ≤ now) (hmember : member ∉ s.seen)
    {a : ℕ × μ} (ha : a = (now, member) ∨ a ∈ s.allowed)
    (hwindow : (now : ℤ) < a.1 + 1000 * l.windowSeconds) :
    Holds (l.pipeline now member s.key).1 a.2 a.1 ∧
      ∀ set, (l.pipeline now member s.key).1 = some set →
        ∃ e, set.expiry = some e ∧ a.1 + 1000 * l.windowSeconds ≤ e := by
  have hpast : a.1 ≤ now := by
    obtain rfl | hallowed := ha
    · exact le_rfl
    · exact (h.past a hallowed).trans hnow
  have hpositive : ¬l.windowSeconds ≤ 0 := by omega
  have hmem : (a.2, (a.1 : ℤ)) ∈ (zadd member now
      (zremrangebyscore 0 (now - l.windowMs) (read now s.key))).entries := by
    obtain rfl | hallowed := ha
    · exact mem_zadd_self _ _ _
    · exact mem_zadd (h.holds_trimmed hnow hallowed hwindow) fun heq =>
        hmember (heq ▸ h.allowedSeen a hallowed)
  rw [Limit.pipeline]
  dsimp only
  rw [expire, Option.bind_some, if_neg hpositive]
  refine ⟨⟨_, rfl, hmem⟩, fun set hset => ?_⟩
  obtain rfl := Option.some.inj hset
  exact ⟨_, rfl, by push_cast; omega⟩

omit [DecidableEq μ] in
/-- One more hit, when there is room for it in the window that ends with it. -/
theorem Counted.bounded_cons (h : Counted l s) (member : μ)
    (hroom : ((s.allowed.filter fun a => (now : ℤ) < a.1 + 1000 * l.windowSeconds).length : ℤ) <
      l.limit) (t : ℤ) :
    ((((now, member) :: s.allowed).filter fun a =>
      t - 1000 * l.windowSeconds < a.1 ∧ a.1 ≤ t).length : ℤ) ≤ max 0 l.limit := by
  rw [List.filter_cons]
  split
  next hin =>
    have hbetween := of_decide_eq_true hin
    have hsub : (s.allowed.filter fun a => t - 1000 * l.windowSeconds < a.1 ∧ a.1 ≤ t).Sublist
        (s.allowed.filter fun a => (now : ℤ) < a.1 + 1000 * l.windowSeconds) := by
      refine List.monotone_filter_right _ fun a ha => ?_
      have hold := of_decide_eq_true ha
      exact decide_eq_true (by omega)
    have hlength := hsub.length_le
    rw [List.length_cons]
    push_cast
    omega
  next => exact h.bounded t

/-- A rollback takes a hit out that was not allowed. -/
theorem Counted.rollback (h : Counted l s) (hnow : s.now ≤ now) (hmember : member ∈ s.rejected) :
    Counted l { s with
      now := now
      key := zrem member (read now s.key)
      rejected := s.rejected.erase member } where
  past a ha := (h.past a ha).trans hnow
  members := h.members
  allowedSeen := h.allowedSeen
  rejectedSeen other hother := h.rejectedSeen other (List.mem_of_mem_erase hother)
  apart a ha hother := h.apart a ha (List.mem_of_mem_erase hother)
  distinct := distinct_keep (distinct_read h.distinct now)
  stored a ha hwindow := by
    have hne : a.2 ≠ member := fun heq => h.apart a ha (heq ▸ hmember)
    refine ⟨holds_keep (h.holds hnow ha hwindow) (decide_eq_true hne), fun set hset => ?_⟩
    obtain ⟨before, hbefore, hexpiry⟩ := expiry_keep hset
    have hkey : s.key = some before := (Option.filter_eq_some_iff.1 hbefore).1
    have hlater : (s.now : ℤ) < a.1 + 1000 * l.windowSeconds := by
      have hle : (s.now : ℤ) ≤ now := by exact_mod_cast hnow
      exact hle.trans_lt hwindow
    exact hexpiry ▸ (h.stored a ha hlater).2 before hkey
  bounded := h.bounded

/-- **One event keeps the hits counted.** -/
theorem Counted.step {s t : Window μ} {event : Hit μ} (h : Counted l s)
    (hstep : l.step s event = some t) : Counted l t := by
  cases event with
  | rollback now member =>
    rw [Limit.step] at hstep
    split_ifs at hstep with henabled
    obtain rfl := Option.some.inj hstep
    exact h.rollback henabled.1 henabled.2
  | hit now member =>
    rw [Limit.step] at hstep
    split_ifs at hstep with henabled
    obtain rfl := Option.some.inj hstep
    obtain ⟨hnow, hmember⟩ := henabled
    have hdistinct : Distinct (l.pipeline now member s.key).1 := by
      intro set hset
      rw [Limit.pipeline] at hset
      dsimp only at hset
      rw [expire, Option.bind_some] at hset
      split_ifs at hset
      obtain rfl := Option.some.inj hset
      exact nodup_zadd (distinct_keep (distinct_read h.distinct now)) member now
    have hused := h.lt_used hnow hmember
    by_cases hover : l.limit < (l.pipeline now member s.key).2
    · -- not allowed: its member may be rolled back
      have hanswer : (l.answer (l.pipeline now member s.key).2).1 = false := by
        rw [Limit.answer, if_pos hover]
      rw [hanswer, if_neg Bool.false_ne_true, if_neg Bool.false_ne_true]
      exact {
        past := fun a ha => (h.past a ha).trans hnow
        members := h.members
        allowedSeen := fun a ha => List.mem_cons_of_mem _ (h.allowedSeen a ha)
        rejectedSeen := fun other hother => by
          obtain rfl | hother := List.mem_cons.1 hother
          · exact List.mem_cons_self
          · exact List.mem_cons_of_mem _ (h.rejectedSeen other hother)
        apart := fun a ha hother => by
          obtain heq | hother := List.mem_cons.1 hother
          · exact hmember (heq ▸ h.allowedSeen a ha)
          · exact h.apart a ha hother
        distinct := hdistinct
        stored := fun a ha => h.stored_pipeline hnow hmember (.inr ha)
        bounded := h.bounded }
    · -- allowed: there was room for it in the window that ends with it
      have hanswer : (l.answer (l.pipeline now member s.key).2).1 = true := by
        rw [Limit.answer, if_neg hover]
      rw [hanswer, if_pos rfl, if_pos rfl]
      exact {
        past := fun a ha => by
          obtain rfl | ha := List.mem_cons.1 ha
          · exact le_rfl
          · exact (h.past a ha).trans hnow
        members := by
          rw [List.map_cons, List.nodup_cons]
          refine ⟨fun hmem => ?_, h.members⟩
          obtain ⟨a, ha, heq⟩ := List.mem_map.1 hmem
          have hseen := h.allowedSeen a ha
          rw [heq] at hseen
          exact hmember hseen
        allowedSeen := fun a ha => by
          obtain rfl | ha := List.mem_cons.1 ha
          · exact List.mem_cons_self
          · exact List.mem_cons_of_mem _ (h.allowedSeen a ha)
        rejectedSeen := fun other hother => List.mem_cons_of_mem _ (h.rejectedSeen other hother)
        apart := fun a ha hother => by
          obtain rfl | ha := List.mem_cons.1 ha
          · exact hmember (h.rejectedSeen _ hother)
          · exact h.apart a ha hother
        distinct := hdistinct
        stored := fun a ha => h.stored_pipeline hnow hmember (List.mem_cons.1 ha)
        bounded := h.bounded_cons member (by omega) }

end Step

/-- Two hits a second, of which the third is not allowed and rolled back, and another one when
the first has left the window. -/
def demoHits : List (Hit ℕ) :=
  [.hit 1000 0, .hit 1000 1, .hit 1500 2, .rollback 1700 2, .hit 2000 3]

end SlidingWindow
end Search
end TopChoice
