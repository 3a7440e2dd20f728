/-
# Ranks

The distinct elements of a list in the order in which they first come (`eraseDups`), and the
rank of an element, its place among them counted from one.  A list without repetitions that is
sorted by a relation holds of two of its elements first the one that the relation puts first
(`pair_sublist_of_pairwise`).
-/

import Mathlib.Data.List.Nodup
import Mathlib.Data.List.Perm.Basic
import Mathlib.Data.List.Flatten
import Mathlib.Data.Nat.Init

namespace Ranks

variable {α : Type*} [DecidableEq α] {a b : α} {l : List α}

/-! ### Distinct elements -/

theorem filter_eraseDups (p : α → Bool) (l : List α) :
    (l.filter p).eraseDups = l.eraseDups.filter p := by
  induction hn : l.length using Nat.strong_induction_on generalizing l with
  | _ n ih =>
    cases l with
    | nil => rfl
    | cons a l =>
      have hlt : (l.filter fun b => !b == a).length < n := by
        have hle := List.length_filter_le (fun b => !b == a) l
        rw [List.length_cons] at hn
        omega
      have hrest := ih _ hlt (l.filter fun b => !b == a) rfl
      rw [List.filter_filter] at hrest
      rw [List.eraseDups_cons, List.filter_cons, List.filter_cons]
      split_ifs with ha
      · rw [List.eraseDups_cons, List.filter_filter, ← hrest]
        simp only [Bool.and_comm]
      · -- The elements that are taken out with `a` do not meet the condition anyway.
        have hsame : (l.filter fun b => p b && !b == a) = l.filter p := by
          refine List.filter_congr fun b _ => ?_
          by_cases hb : b = a
          · subst hb
            simpa using ha
          · simp [hb]
        rw [← hrest, hsame]

theorem nodup_eraseDups (l : List α) : l.eraseDups.Nodup := by
  induction hn : l.length using Nat.strong_induction_on generalizing l with
  | _ n ih =>
    cases l with
    | nil => exact List.nodup_nil
    | cons a l =>
      have hlt : (l.filter fun b => !b == a).length < n := by
        have hle := List.length_filter_le (fun b => !b == a) l
        rw [List.length_cons] at hn
        omega
      rw [List.eraseDups_cons]
      refine List.nodup_cons.2 ⟨?_, ih _ hlt _ rfl⟩
      rw [List.mem_eraseDups, List.mem_filter]
      simp

theorem eraseDups_of_nodup (hl : l.Nodup) : l.eraseDups = l := by
  induction l with
  | nil => rfl
  | cons a l ih =>
    obtain ⟨ha, hl⟩ := List.nodup_cons.1 hl
    have hfilter : (l.filter fun b => !b == a) = l := by
      refine List.filter_eq_self.2 fun b hb => ?_
      have hne : b ≠ a := fun h => ha (h ▸ hb)
      simp [hne]
    rw [List.eraseDups_cons, hfilter, ih hl]

/-- Repetitions within the parts do not count. -/
theorem eraseDups_flatten_map (parts : List (List α)) :
    ((parts.map List.eraseDups).flatten).eraseDups = parts.flatten.eraseDups := by
  induction parts with
  | nil => rfl
  | cons part parts ih =>
    have hremove (rest : List α) : rest.removeAll part.eraseDups = rest.removeAll part := by
      refine List.filter_congr fun x _ => ?_
      simp
    rw [List.map_cons, List.flatten_cons, List.flatten_cons, List.eraseDups_append,
      List.eraseDups_append, eraseDups_of_nodup (nodup_eraseDups part), hremove, List.removeAll,
      List.removeAll, filter_eraseDups, filter_eraseDups, ih]

/-! ### Ranks -/

/-- The rank of an element: its place among the distinct elements, counted from one. -/
def rank (l : List α) (a : α) : ℕ := l.eraseDups.idxOf a + 1

/-! ### Sorted lists -/

omit [DecidableEq α] in
/-- Of two elements of a list one comes first. -/
theorem pair_sublist_or (ha : a ∈ l) (hb : b ∈ l) (hne : a ≠ b) :
    [a, b].Sublist l ∨ [b, a].Sublist l := by
  induction l with
  | nil => cases ha
  | cons x l ih =>
    rcases List.mem_cons.1 ha with rfl | hal <;> rcases List.mem_cons.1 hb with rfl | hbl
    · exact absurd rfl hne
    · exact .inl (.cons_cons _ (List.singleton_sublist.2 hbl))
    · exact .inr (.cons_cons _ (List.singleton_sublist.2 hal))
    · exact (ih hal hbl).imp (.cons _) (.cons _)

omit [DecidableEq α] in
/-- **In a sorted list the element that goes first comes first.** -/
theorem pair_sublist_of_pairwise {before : α → α → Prop} (hl : l.Pairwise before) (ha : a ∈ l)
    (hb : b ∈ l) (hab : before a b) (hasymm : before a b → ¬before b a) (hne : a ≠ b) :
    [a, b].Sublist l := by
  refine (pair_sublist_or ha hb hne).resolve_right fun hba => hasymm hab ?_
  exact List.pairwise_iff_forall_sublist.1 hl hba

end Ranks
