/-
# Sorted sets whose key expires

The commands of a Redis-like store on one sorted set: members with a score each, and the
last instant the key is visible at, if it expires.  The clock is in milliseconds.  A set
that loses its last member is gone, and so is one whose expiry is set to a moment that has
passed.
-/

import Mathlib.Data.Int.Notation
import Mathlib.Data.List.Nodup
import Mathlib.Data.List.Perm.Subperm

/-- The members, each with its score, and the last instant the key is visible at. -/
structure SortedSet (μ : Type*) where
  entries : List (μ × ℤ)
  expiry : Option ℕ

namespace SortedSet

variable {μ : Type*}

/-- What the key holds at an instant. -/
def read (now : ℕ) (key : Option (SortedSet μ)) : Option (SortedSet μ) :=
  key.filter fun set => set.expiry.all fun t => now ≤ t

/-- A set without members is no set. -/
def keep (p : μ × ℤ → Bool) (key : Option (SortedSet μ)) : Option (SortedSet μ) :=
  key.bind fun set =>
    match set.entries.filter p with
    | [] => none
    | entries => some { set with entries := entries }

/-- `ZREMRANGEBYSCORE key low high`. -/
def zremrangebyscore (low high : ℤ) (key : Option (SortedSet μ)) : Option (SortedSet μ) :=
  keep (fun entry => !(low ≤ entry.2 && entry.2 ≤ high)) key

/-- `ZREM key member`. -/
def zrem [DecidableEq μ] (member : μ) (key : Option (SortedSet μ)) : Option (SortedSet μ) :=
  keep (fun entry => entry.1 ≠ member) key

/-- `ZADD key {member: score}`; a new key has no expiry. -/
def zadd [DecidableEq μ] (member : μ) (score : ℤ) : Option (SortedSet μ) → SortedSet μ
  | none => ⟨[(member, score)], none⟩
  | some set => { set with entries := (member, score) :: set.entries.filter (·.1 ≠ member) }

/-- `ZCARD key`. -/
def zcard (key : Option (SortedSet μ)) : ℕ := (key.map fun set => set.entries.length).getD 0

/-- `EXPIRE key seconds`. -/
def expire (now : ℕ) (seconds : ℤ) (key : Option (SortedSet μ)) : Option (SortedSet μ) :=
  key.bind fun set =>
    if seconds ≤ 0 then none else some { set with expiry := some (now + 1000 * seconds.toNat) }

/-! ### Members -/

/-- The key holds the member with the score. -/
def Holds (key : Option (SortedSet μ)) (member : μ) (score : ℤ) : Prop :=
  ∃ set, key = some set ∧ (member, score) ∈ set.entries

/-- The members are told apart. -/
def Distinct (key : Option (SortedSet μ)) : Prop :=
  ∀ set, key = some set → (set.entries.map Prod.fst).Nodup

theorem holds_keep {p : μ × ℤ → Bool} {key : Option (SortedSet μ)} {member : μ} {score : ℤ}
    (h : Holds key member score) (hp : p (member, score) = true) :
    Holds (keep p key) member score := by
  obtain ⟨set, rfl, hmem⟩ := h
  have hkept : (member, score) ∈ set.entries.filter p := List.mem_filter.2 ⟨hmem, hp⟩
  rw [keep, Option.bind_some]
  split
  next hnil =>
    rw [hnil] at hkept
    exact absurd hkept List.not_mem_nil
  next => exact ⟨_, rfl, hkept⟩

theorem distinct_keep {p : μ × ℤ → Bool} {key : Option (SortedSet μ)} (h : Distinct key) :
    Distinct (keep p key) := by
  intro set hset
  obtain ⟨before, rfl, hkeep⟩ := Option.bind_eq_some_iff.1 hset
  split at hkeep
  · cases hkeep
  next =>
    obtain rfl := Option.some.inj hkeep
    exact (List.filter_sublist.map Prod.fst).nodup (h before rfl)

/-- What the key keeps of a set, its expiry is. -/
theorem expiry_keep {p : μ × ℤ → Bool} {key : Option (SortedSet μ)} {set : SortedSet μ}
    (h : keep p key = some set) : ∃ before, key = some before ∧ before.expiry = set.expiry := by
  obtain ⟨before, rfl, hkeep⟩ := Option.bind_eq_some_iff.1 h
  split at hkeep
  · cases hkeep
  next =>
    obtain rfl := Option.some.inj hkeep
    exact ⟨before, rfl, rfl⟩

theorem distinct_read {key : Option (SortedSet μ)} (h : Distinct key) (now : ℕ) :
    Distinct (read now key) := fun set hset => h set (Option.filter_eq_some_iff.1 hset).1

variable [DecidableEq μ]

theorem mem_zadd {key : Option (SortedSet μ)} {member other : μ} {score s : ℤ}
    (h : Holds key other s) (hne : other ≠ member) :
    (other, s) ∈ (zadd member score key).entries := by
  obtain ⟨set, rfl, hmem⟩ := h
  exact List.mem_cons_of_mem _ (List.mem_filter.2 ⟨hmem, decide_eq_true hne⟩)

theorem mem_zadd_self (member : μ) (score : ℤ) (key : Option (SortedSet μ)) :
    (member, score) ∈ (zadd member score key).entries := by
  cases key <;> exact List.mem_cons_self

theorem nodup_zadd {key : Option (SortedSet μ)} (h : Distinct key) (member : μ) (score : ℤ) :
    ((zadd member score key).entries.map Prod.fst).Nodup := by
  cases key with
  | none => exact List.nodup_singleton _
  | some set =>
    rw [zadd, List.map_cons, List.nodup_cons]
    refine ⟨fun hmem => ?_, (List.filter_sublist.map Prod.fst).nodup (h set rfl)⟩
    obtain ⟨entry, hentry, rfl⟩ := List.mem_map.1 hmem
    exact of_decide_eq_true (List.mem_filter.1 hentry).2 rfl

omit [DecidableEq μ] in
/-- **Members of a sorted set are counted once.**  No list of distinct members of a set is
longer than the set. -/
theorem length_le_zcard {set : SortedSet μ} {members : List μ} (hnodup : members.Nodup)
    (hmem : ∀ member ∈ members, ∃ score, (member, score) ∈ set.entries) :
    members.length ≤ zcard (some set) := by
  have hsubset : members ⊆ set.entries.map Prod.fst := by
    intro member hmember
    obtain ⟨score, hscore⟩ := hmem member hmember
    exact List.mem_map.2 ⟨_, hscore, rfl⟩
  have hlength := (List.subperm_of_subset hnodup hsubset).length_le
  rwa [List.length_map] at hlength

end SortedSet
