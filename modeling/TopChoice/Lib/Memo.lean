/-
# A cache whose entries hold a value and expire

`GET`, `SET key value EX ttl` and `UNLINK` of a Redis-like store that keeps
values.  `Holds` says something of every entry a read can still see.  It
survives a write, a deletion and the passage of time, and a deletion leaves it to
be shown only for the keys it does not select.
-/

import Mathlib.Data.List.Basic
import Mathlib.Data.List.Forall2

/-- The entries, newest first: a key, its value and the last instant it is
visible at. -/
structure Memo (κ ν : Type*) where
  /-- The stored triples. -/
  entries : List (κ × ν × ℕ)
  deriving DecidableEq, Repr

namespace Memo

variable {κ ν : Type*} [DecidableEq κ]

/-- The cache with no entry. -/
def empty : Memo κ ν := ⟨[]⟩

/-- `GET key` at an instant. -/
def get (c : Memo κ ν) (now : ℕ) (k : κ) : Option ν :=
  ((c.entries.find? fun e => e.1 = k).filter fun e => now ≤ e.2.2).map fun e => e.2.1

/-- `SET key value`, visible up to an instant: replaces whatever the key held. -/
def set (c : Memo κ ν) (k : κ) (v : ν) (expiry : ℕ) : Memo κ ν :=
  ⟨(k, v, expiry) :: c.entries.filter fun e => e.1 ≠ k⟩

/-- `UNLINK` of some keys. -/
def unlink (c : Memo κ ν) (keys : List κ) : Memo κ ν :=
  ⟨c.entries.filter fun e => e.1 ∉ keys⟩

/-- `P` holds of every entry visible at an instant. -/
def Holds (c : Memo κ ν) (now : ℕ) (P : κ → ν → Prop) : Prop :=
  ∀ k v, c.get now k = some v → P k v

variable {c : Memo κ ν} {now : ℕ} {P Q : κ → ν → Prop}

theorem get_set (k k' : κ) (v : ν) (expiry : ℕ) :
    (c.set k v expiry).get now k' =
      if k' = k then (if now ≤ expiry then some v else none) else c.get now k' := by
  by_cases hk : k' = k
  · subst hk
    by_cases hnow : now ≤ expiry <;> simp [get, set, Option.filter, hnow]
  · have hne : ¬ k = k' := fun h => hk h.symm
    rw [if_neg hk]
    simp only [get, set, List.find?_cons, hne, decide_false, List.find?_filter]
    congr 3
    funext e
    by_cases he : e.1 = k' <;> simp [he, hk]

theorem get_unlink (keys : List κ) (k : κ) :
    (c.unlink keys).get now k = if k ∈ keys then none else c.get now k := by
  simp only [get, unlink, List.find?_filter]
  by_cases hk : k ∈ keys
  · rw [if_pos hk, List.find?_eq_none.2]
    · rfl
    · intro e _ he
      obtain ⟨hmem, rfl⟩ := (by simpa using he : e.1 ∉ keys ∧ e.1 = k)
      exact hmem hk
  · rw [if_neg hk]
    congr 3
    funext e
    by_cases he : e.1 = k <;> simp [he, hk]

/-- What is visible later is visible now. -/
theorem get_of_le {t : ℕ} {k : κ} {v : ν} (h : now ≤ t) (hget : c.get t k = some v) :
    c.get now k = some v := by
  simp only [get, Option.map_eq_some_iff, Option.filter_eq_some_iff, decide_eq_true_eq] at hget ⊢
  obtain ⟨e, ⟨hfind, ht⟩, hv⟩ := hget
  exact ⟨e, ⟨hfind, Nat.le_trans h ht⟩, hv⟩

/-- A visible entry is stored. -/
theorem exists_entry_of_get {k : κ} {v : ν} (h : c.get now k = some v) :
    ∃ e ∈ c.entries, e.1 = k := by
  simp only [get, Option.map_eq_some_iff, Option.filter_eq_some_iff] at h
  obtain ⟨e, ⟨hfind, -⟩, -⟩ := h
  exact ⟨e, List.mem_of_find?_eq_some hfind, by simpa using List.find?_some hfind⟩

instance [∀ k v, Decidable (P k v)] : Decidable (c.Holds now P) :=
  decidable_of_iff (∀ e ∈ c.entries, ∀ v ∈ c.get now e.1, P e.1 v)
    ⟨fun h k v hget => by
      obtain ⟨e, he, rfl⟩ := exists_entry_of_get hget
      exact h e he v hget,
    fun h e _ v hv => h e.1 v hv⟩

theorem holds_empty : (empty : Memo κ ν).Holds now P := by
  intro k v h
  simp [get, empty] at h

/-- **The rule of a write:** what holds of the entry written and of the entries
before it. -/
theorem Holds.set {k : κ} {v : ν} {expiry : ℕ} (h : c.Holds now P) (hv : P k v) :
    (c.set k v expiry).Holds now P := by
  intro k' v' hget
  rw [get_set] at hget
  by_cases hk : k' = k
  · subst hk
    rw [if_pos rfl] at hget
    split_ifs at hget
    exact Option.some.inj hget ▸ hv
  · rw [if_neg hk] at hget
    exact h k' v' hget

/-- **The rule of a deletion:** what is to be shown of the keys it leaves. -/
theorem Holds.unlink {keys : List κ} (h : c.Holds now P)
    (hkeep : ∀ k v, k ∉ keys → c.get now k = some v → P k v → Q k v) :
    (c.unlink keys).Holds now Q := by
  intro k v hget
  rw [get_unlink] at hget
  split_ifs at hget with hk
  exact hkeep k v hk hget (h k v hget)

/-- **The rule of time:** entries expire and do not come back. -/
theorem Holds.later {t : ℕ} (h : c.Holds now P) (hle : now ≤ t) : c.Holds t P :=
  fun k v hget => h k v (get_of_le hle hget)

theorem Holds.imp (h : c.Holds now P) (himp : ∀ k v, P k v → Q k v) : c.Holds now Q :=
  fun k v hget => himp k v (h k v hget)

/-! ### Two caches -/

/-- The keys and the instants of one are those of the other, and the values are related. -/
def Related {ν' : Type*} (S : ν → ν' → Prop) (c : Memo κ ν) (c' : Memo κ ν') : Prop :=
  List.Forall₂ (fun e e' => e.1 = e'.1 ∧ S e.2.1 e'.2.1 ∧ e.2.2 = e'.2.2) c.entries c'.entries

section Related

variable {ν' : Type*} {S : ν → ν' → Prop} {c' : Memo κ ν'}

omit [DecidableEq κ] in
theorem related_empty : (empty : Memo κ ν).Related S (empty : Memo κ ν') := .nil

/-- What a read finds in one is related to what it finds in the other. -/
theorem Related.get (h : c.Related S c') (now : ℕ) (k : κ) :
    Option.Rel S (c.get now k) (c'.get now k) := by
  obtain ⟨entries⟩ := c
  obtain ⟨entries'⟩ := c'
  simp only [Related] at h
  induction h with
  | nil => exact .none
  | @cons e e' entries entries' he _ ih =>
    obtain ⟨hkey, hvalue, hexpiry⟩ := he
    by_cases hk : e.1 = k
    · have hk' : e'.1 = k := hkey ▸ hk
      by_cases hnow : now ≤ e.2.2
      · have hnow' : now ≤ e'.2.2 := hexpiry ▸ hnow
        simpa [Memo.get, Option.filter, hk, hk', hnow, hnow'] using Option.Rel.some hvalue
      · have hnow' : ¬ now ≤ e'.2.2 := hexpiry ▸ hnow
        simp [Memo.get, Option.filter, hk, hk', hnow, hnow']
    · have hk' : ¬ e'.1 = k := hkey ▸ hk
      simpa [Memo.get, hk, hk'] using ih

omit [DecidableEq κ] in
theorem Related.filter (h : c.Related S c') (p : κ → Bool) :
    List.Forall₂ (fun e e' => e.1 = e'.1 ∧ S e.2.1 e'.2.1 ∧ e.2.2 = e'.2.2)
      (c.entries.filter fun e => p e.1) (c'.entries.filter fun e => p e.1) :=
  List.rel_filter (fun e e' he => by
    have hp : p e.1 = true ↔ p e'.1 = true := by rw [he.1]
    exact hp) h

theorem Related.set (h : c.Related S c') (k : κ) {v : ν} {v' : ν'} (hv : S v v') (expiry : ℕ) :
    (c.set k v expiry).Related S (c'.set k v' expiry) :=
  .cons ⟨rfl, hv, rfl⟩ (h.filter fun key => key ≠ k)

theorem Related.unlink (h : c.Related S c') (keys : List κ) :
    (c.unlink keys).Related S (c'.unlink keys) :=
  h.filter fun key => key ∉ keys

end Related

end Memo
