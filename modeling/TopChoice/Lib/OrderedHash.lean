/-
# Hashes that keep the order of insertion

A hash is the list of its entries, in the order in which their keys were first stored.
Storing under a key that is there replaces the value where it stands.  The pairs of a list
stored one after the other (`ofPairs`) leave every key once, and a list of distinct keys as it
is.
-/

import Mathlib.Data.List.Nodup

namespace OrderedHash

variable {κ υ : Type*} [DecidableEq κ]

/-- `hash[key] = value`. -/
def store (key : κ) (value : υ) : List (κ × υ) → List (κ × υ)
  | [] => [(key, value)]
  | entry :: hash =>
      if entry.1 = key then (key, value) :: hash else entry :: store key value hash

/-- The pairs stored one after the other. -/
def ofPairs (pairs : List (κ × υ)) : List (κ × υ) :=
  pairs.foldl (fun hash pair => store pair.1 pair.2 hash) []

variable {key : κ} {value : υ} {hash pairs : List (κ × υ)} {entry : κ × υ}

theorem mem_store (h : entry ∈ store key value hash) : entry = (key, value) ∨ entry ∈ hash := by
  induction hash with
  | nil => exact .inl (List.mem_singleton.1 h)
  | cons first hash ih =>
    rw [store] at h
    split at h
    · exact (List.mem_cons.1 h).imp_right (List.mem_cons_of_mem _)
    · obtain rfl | h := List.mem_cons.1 h
      · exact .inr List.mem_cons_self
      · exact (ih h).imp_right (List.mem_cons_of_mem _)

theorem keys_store : (store key value hash).map Prod.fst =
    if key ∈ hash.map Prod.fst then hash.map Prod.fst else hash.map Prod.fst ++ [key] := by
  induction hash with
  | nil => rfl
  | cons first hash ih =>
    rw [store]
    by_cases hfirst : first.1 = key
    · rw [if_pos hfirst, List.map_cons, List.map_cons, hfirst, if_pos List.mem_cons_self]
    · have hmem : key ∈ first.1 :: hash.map Prod.fst ↔ key ∈ hash.map Prod.fst := by
        rw [List.mem_cons, or_iff_right fun heq : key = first.1 => hfirst heq.symm]
      rw [if_neg hfirst, List.map_cons, List.map_cons, ih, if_congr hmem rfl rfl]
      split_ifs
      · rfl
      · rfl

theorem nodup_keys_store (h : (hash.map Prod.fst).Nodup) :
    ((store key value hash).map Prod.fst).Nodup := by
  rw [keys_store]
  split_ifs with hkey
  · exact h
  · exact h.append (List.nodup_singleton key) (List.disjoint_singleton.2 hkey)

/-- A new key goes to the end. -/
theorem store_of_not_mem (h : key ∉ hash.map Prod.fst) :
    store key value hash = hash ++ [(key, value)] := by
  induction hash with
  | nil => rfl
  | cons first hash ih =>
    rw [List.map_cons, List.mem_cons, not_or] at h
    rw [store, if_neg fun heq => h.1 heq.symm, ih h.2, List.cons_append]

theorem mem_foldl_store
    (h : entry ∈ pairs.foldl (fun hash pair => store pair.1 pair.2 hash) hash) :
    entry ∈ hash ∨ entry ∈ pairs := by
  induction pairs generalizing hash with
  | nil => exact .inl h
  | cons pair pairs ih =>
    obtain hhash | hpairs := ih h
    · obtain rfl | hmem := mem_store hhash
      · exact .inr List.mem_cons_self
      · exact .inl hmem
    · exact .inr (List.mem_cons_of_mem _ hpairs)

/-- Every entry is one of the pairs. -/
theorem mem_of_mem_ofPairs (h : entry ∈ ofPairs pairs) : entry ∈ pairs :=
  (mem_foldl_store h).resolve_left List.not_mem_nil

theorem nodup_keys_foldl_store (h : (hash.map Prod.fst).Nodup) :
    ((pairs.foldl (fun hash pair => store pair.1 pair.2 hash) hash).map Prod.fst).Nodup := by
  induction pairs generalizing hash with
  | nil => exact h
  | cons pair pairs ih => exact ih (nodup_keys_store h)

/-- **Every key is there once.** -/
theorem nodup_keys_ofPairs : ((ofPairs pairs).map Prod.fst).Nodup :=
  nodup_keys_foldl_store List.nodup_nil

theorem foldl_store_of_nodup (h : ((hash ++ pairs).map Prod.fst).Nodup) :
    pairs.foldl (fun hash pair => store pair.1 pair.2 hash) hash = hash ++ pairs := by
  induction pairs generalizing hash with
  | nil => exact (List.append_nil hash).symm
  | cons pair pairs ih =>
    have hnew : pair.1 ∉ hash.map Prod.fst := by
      intro hmem
      rw [List.map_append, List.map_cons] at h
      exact (List.disjoint_of_nodup_append h) hmem List.mem_cons_self
    have happend : hash ++ pair :: pairs = hash ++ [pair] ++ pairs := by
      rw [List.append_assoc, List.singleton_append]
    rw [List.foldl_cons, store_of_not_mem hnew, happend]
    exact ih (happend ▸ h)

/-- **Distinct keys are stored as they are.** -/
theorem ofPairs_of_nodup (h : (pairs.map Prod.fst).Nodup) : ofPairs pairs = pairs :=
  foldl_store_of_nodup h

end OrderedHash
