/-
# Lists with some elements deleted

`Thinned p l l'`: what is left of `l` when some of the elements that satisfy `p` are deleted
from it.  The others are all there, in order.

Where only one value may be deleted, the first of each element (`List.eraseDups`) is the same
list as before if and only if that value is still there, and still before all that it was
before (`Thinned.eraseDups_eq_iff`).
-/

import Mathlib.Data.List.Basic

/-- `l'` is `l` without some of the elements that satisfy `p`. -/
structure Thinned {α : Type*} (p : α → Bool) (l l' : List α) : Prop where
  sublist : l'.Sublist l
  filter_eq : l'.filter (fun a => !p a) = l.filter fun a => !p a

namespace Thinned

variable {α β : Type*} {p : α → Bool} {l l' l'' : List α}

theorem refl (p : α → Bool) (l : List α) : Thinned p l l := ⟨.refl l, rfl⟩

theorem trans (h : Thinned p l l') (h' : Thinned p l' l'') : Thinned p l l'' :=
  ⟨h'.sublist.trans h.sublist, h'.filter_eq.trans h.filter_eq⟩

/-- One element is deleted. -/
theorem delete {a : α} (ha : p a = true) (before after : List α) :
    Thinned p (before ++ a :: after) (before ++ after) where
  sublist := (List.Sublist.refl before).append (List.sublist_cons_self a after)
  filter_eq := by
    rw [List.filter_append, List.filter_append, List.filter_cons_of_neg (by simp [ha])]

theorem map {q : β → Bool} {f : α → β} (hf : ∀ a, p a = true → q (f a) = true)
    (h : Thinned p l l') : Thinned q (l.map f) (l'.map f) where
  sublist := h.sublist.map f
  filter_eq := by
    have hfilter (l : List α) : (l.map f).filter (fun b => !q b) =
        ((l.filter fun a => !p a).map f).filter fun b => !q b := by
      rw [List.filter_map, List.filter_map, List.filter_filter]
      refine congrArg _ (List.filter_congr fun a _ => ?_)
      rw [Function.comp_apply]
      cases ha : p a with
      | false => simp
      | true => simp [hf a ha]
    rw [hfilter l', hfilter l, h.filter_eq]

theorem filter (r : α → Bool) (h : Thinned p l l') : Thinned p (l.filter r) (l'.filter r) where
  sublist := h.sublist.filter r
  filter_eq := by
    rw [List.filter_comm _ r l', List.filter_comm _ r l, h.filter_eq]

/-! ### The first of each -/

section

variable [DecidableEq α] {z : α} {first second rest others : List α}

theorem takeWhile_of_not_mem (h : z ∉ first) :
    (first ++ z :: rest).takeWhile (· ≠ z) = first := by
  have hpos : ∀ a ∈ first, decide (a ≠ z) = true := by
    rintro a ha
    exact decide_eq_true fun heq : a = z => h (heq ▸ ha)
  rw [List.takeWhile_append_of_pos hpos, List.takeWhile_cons_of_neg (by simp), List.append_nil]

/-- What is left after the first `z`, when what stands before it is longer. -/
theorem exists_append (h : Thinned (· = z) (first ++ z :: rest) (second ++ z :: others))
    (hfirst : z ∉ first) (hsecond : z ∉ second) :
    ∃ passed, second = first ++ passed ∧
      rest.filter (· ≠ z) = passed ++ others.filter (· ≠ z) := by
  have hkeep {l : List α} (hl : z ∉ l) : l.filter (· ≠ z) = l :=
    List.filter_eq_self.2 fun a ha => decide_eq_true fun heq => hl (heq ▸ ha)
  have hfilter : second ++ others.filter (· ≠ z) = first ++ rest.filter (· ≠ z) := by
    have heq := h.filter_eq
    simp only [← decide_not, List.filter_append] at heq
    rw [List.filter_cons_of_neg (by simp), List.filter_cons_of_neg (by simp), hkeep hfirst,
      hkeep hsecond] at heq
    exact heq
  -- the first `z` that is left is not before the first one that there was
  have hrest : others.Sublist rest := by
    have hcons : (z :: others).Sublist (first ++ z :: rest) :=
      (List.sublist_append_right second _).trans h.sublist
    obtain ⟨l₁, l₂, hl, hl₁, hl₂⟩ := List.sublist_append_iff.1 hcons
    cases l₁ with
    | nil =>
      rw [List.nil_append] at hl
      exact List.cons_sublist_cons.1 (hl ▸ hl₂)
    | cons a l₁ =>
      obtain ⟨rfl, -⟩ := List.cons.inj hl
      exact absurd (hl₁.subset List.mem_cons_self) hfirst
  have hlength : first.length ≤ second.length := by
    have hle := (hrest.filter (· ≠ z)).length_le
    have hsum := congrArg List.length hfilter
    rw [List.length_append, List.length_append] at hsum
    omega
  obtain ⟨passed, hpassed⟩ := List.prefix_of_prefix_length_le
    ⟨_, hfilter.symm⟩ (List.prefix_append second _) hlength
  refine ⟨passed, hpassed.symm, ?_⟩
  rw [← hpassed, List.append_assoc] at hfilter
  exact (List.append_cancel_left hfilter).symm

/-- The first of each, around the first `z`. -/
theorem eraseDups_around (hfirst : z ∉ first) : (first ++ z :: rest).eraseDups =
    first.eraseDups ++ z :: ((rest.filter (· ≠ z)).filter (· ∉ first)).eraseDups := by
  rw [List.eraseDups_append, List.removeAll, List.filter_cons_of_pos (by simpa using hfirst),
    List.eraseDups_cons, List.filter_filter, List.filter_filter]
  refine congrArg (fun l => first.eraseDups ++ z :: l.eraseDups)
    (List.filter_congr fun a _ => ?_)
  by_cases haz : a = z <;> by_cases ha : a ∈ first <;> simp [haz, ha]

/-- **The first of each stays**, if and only if a deleted value is still there and nothing
has come before it. -/
theorem eraseDups_eq_iff (h : Thinned (· = z) l l') :
    l'.eraseDups = l.eraseDups ↔
      (z ∈ l → z ∈ l' ∧ ∀ a ∈ l'.takeWhile (· ≠ z), a ∈ l.takeWhile (· ≠ z)) := by
  by_cases hz : z ∈ l
  · rw [forall_prop_of_true hz]
    obtain ⟨first, rest, rfl, hfirst⟩ := List.eq_append_cons_of_mem hz
    by_cases hz' : z ∈ l'
    · obtain ⟨second, others, rfl, hsecond⟩ := List.eq_append_cons_of_mem hz'
      obtain ⟨passed, rfl, hrest⟩ := exists_append h hfirst hsecond
      rw [takeWhile_of_not_mem hfirst, takeWhile_of_not_mem hsecond, eraseDups_around hfirst,
        eraseDups_around hsecond, hrest]
      constructor
      · intro heq
        refine ⟨hz', fun a ha => ?_⟩
        have hbefore := congrArg (List.takeWhile (· ≠ z)) heq
        rw [takeWhile_of_not_mem (mt List.mem_eraseDups.1 hsecond),
          takeWhile_of_not_mem (mt List.mem_eraseDups.1 hfirst)] at hbefore
        exact List.mem_eraseDups.1 (hbefore ▸ List.mem_eraseDups.2 ha)
      · rintro ⟨-, hall⟩
        have hpassed : ∀ a ∈ passed, a ∈ first := fun a ha =>
          hall a (List.mem_append_right _ ha)
        have hnone : passed.filter (· ∉ first) = [] :=
          List.filter_eq_nil_iff.2 fun a ha => by simpa using hpassed a ha
        have hsame : (others.filter (· ≠ z)).filter (· ∉ first ++ passed) =
            (others.filter (· ≠ z)).filter (· ∉ first) := by
          refine List.filter_congr fun a _ => decide_eq_decide.2 (not_congr ?_)
          rw [List.mem_append]
          exact or_iff_left_of_imp (hpassed a)
        have hremoved : passed.removeAll first = [] := by
          rw [List.removeAll, List.filter_eq_nil_iff]
          intro a ha
          simpa using hpassed a ha
        rw [List.eraseDups_append, hremoved, List.eraseDups_nil, List.append_nil, hsame,
          List.filter_append, hnone, List.nil_append]
    · refine iff_of_false (fun heq => hz' ?_) fun hkept => hz' hkept.1
      exact List.mem_eraseDups.1 (heq ▸ List.mem_eraseDups.2 hz)
  · have hkeep : ∀ {m : List α}, z ∉ m → m.filter (fun a => !decide (a = z)) = m := fun hm =>
      List.filter_eq_self.2 fun a ha => by simpa using fun heq : a = z => hm (heq ▸ ha)
    have hsame : l' = l := by
      have heq := h.filter_eq
      rwa [hkeep hz, hkeep fun hmem => hz (h.sublist.subset hmem)] at heq
    exact iff_of_true (congrArg _ hsame) fun hmem => absurd hmem hz

end

end Thinned
