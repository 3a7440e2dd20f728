/-
# Dictionaries

Association lists without repeated keys, with what a dictionary comprehension, a merge of
two dictionaries and a loop of assignments look up: the items a condition selects, the
union in which the first dictionary counts, and the values set key by key.
-/

import Mathlib.Data.List.AList

namespace Dictionary

universe v

variable {κ : Type*} {υ : Type v} [DecidableEq κ]

/-- The items a condition selects. -/
def select (p : κ → υ → Bool) (d : AList fun _ : κ => υ) : AList fun _ : κ => υ where
  entries := d.entries.filter fun item => p item.1 item.2
  nodupKeys := d.nodupKeys.sublist List.filter_sublist

/-- A selected item is one of the dictionary that meets the condition. -/
theorem lookup_select (p : κ → υ → Bool) (d : AList fun _ : κ => υ) (key : κ) :
    (select p d).lookup key = (d.lookup key).filter (p key) := by
  ext value
  have hselect : value ∈ (select p d).lookup key ↔
      (⟨key, value⟩ : Sigma fun _ : κ => υ) ∈ (select p d).entries :=
    AList.mem_lookup_iff
  rw [Option.filter_eq_some_iff]
  rw [← Option.mem_def, hselect, select, List.mem_filter, ← AList.mem_lookup_iff, Option.mem_def]

/-- The first dictionary counts, then the second. -/
theorem lookup_union (d e : AList fun _ : κ => υ) (key : κ) :
    (d ∪ e).lookup key = (d.lookup key).or (e.lookup key) := by
  by_cases h : key ∈ d
  · obtain ⟨value, hvalue⟩ := Option.isSome_iff_exists.1 (AList.lookup_isSome.2 h)
    rw [AList.lookup_union_left h, hvalue, Option.some_or]
  · rw [AList.lookup_union_right h, AList.lookup_eq_none.2 h, Option.none_or]

/-- The value of a key, set where there is one. -/
def setSome (key : κ) (value : Option υ) (d : AList fun _ : κ => υ) : AList fun _ : κ => υ :=
  match value with
  | some value => d.insert key value
  | none => d

theorem lookup_setSome (key : κ) (value : Option υ) (d : AList fun _ : κ => υ) :
    (setSome key value d).lookup key = value.or (d.lookup key) := by
  cases value with
  | none => rfl
  | some value => exact AList.lookup_insert d

theorem lookup_setSome_of_ne {key other : κ} (h : other ≠ key) (value : Option υ)
    (d : AList fun _ : κ => υ) : (setSome key value d).lookup other = d.lookup other := by
  cases value with
  | none => rfl
  | some value => exact AList.lookup_insert_ne h

/-- The values of some keys, set one after the other. -/
def setEach (value : κ → Option υ) (keys : List κ) (d : AList fun _ : κ => υ) :
    AList fun _ : κ => υ :=
  keys.foldl (fun d key => setSome key (value key) d) d

/-- **The rule of the loop.**  Of the keys that are set the new value counts where there is
one, and the other keys keep theirs. -/
theorem lookup_setEach (value : κ → Option υ) (keys : List κ) (d : AList fun _ : κ => υ)
    (key : κ) :
    (setEach value keys d).lookup key =
      if key ∈ keys then (value key).or (d.lookup key) else d.lookup key := by
  induction keys generalizing d with
  | nil => rfl
  | cons first keys ih =>
    have hloop : setEach value (first :: keys) d =
        setEach value keys (setSome first (value first) d) := rfl
    rw [hloop, ih]
    by_cases hkey : key = first
    · subst hkey
      have hagain : (value key).or ((value key).or (d.lookup key)) =
          (value key).or (d.lookup key) := by
        rw [← Option.or_assoc, Option.or_self]
      rw [lookup_setSome, hagain, ite_self, if_pos List.mem_cons_self]
    · have hmem : key ∈ first :: keys ↔ key ∈ keys := by
        rw [List.mem_cons, or_iff_right hkey]
      rw [lookup_setSome_of_ne hkey, if_congr hmem rfl rfl]

end Dictionary
