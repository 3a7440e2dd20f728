/-
# The first of the least elements

What a stable minimum returns: of the elements with the least key the one that
comes first (`FirstLeast`).  `minBy` finds it in every list that is not empty
(`exists_minBy`), also when it looks at the elements through a map (`minBy_map`).
-/

import Mathlib.Data.Int.Notation

/-- `a` is the first of the elements of `l` with the least key. -/
def FirstLeast {α : Type*} (key : α → ℤ) (l : List α) (a : α) : Prop :=
  ∃ before after, l = before ++ a :: after ∧ (∀ x ∈ before, key a < key x) ∧
    ∀ x ∈ after, key a ≤ key x

/-- The minimum by a key. -/
def minBy {α : Type*} (key : α → ℤ) : List α → Option α
  | [] => none
  | a :: l =>
      match minBy key l with
      | none => some a
      | some b => if key b < key a then some b else some a

section

variable {α β : Type*} {key : α → ℤ}

theorem FirstLeast.mem {l : List α} {a : α} (h : FirstLeast key l a) : a ∈ l := by
  obtain ⟨before, after, rfl, -, -⟩ := h
  simp

/-- **`minBy` finds the first of the least.** -/
theorem exists_minBy (key : α → ℤ) : ∀ {l : List α}, l ≠ [] →
    ∃ a, minBy key l = some a ∧ FirstLeast key l a
  | [], h => (h rfl).elim
  | [a], _ => ⟨a, rfl, [], [], rfl, fun _ h => (nomatch h), fun _ h => (nomatch h)⟩
  | a :: b :: l, _ => by
      obtain ⟨c, hmin, before, after, heq, hbefore, hafter⟩ :=
        exists_minBy key (List.cons_ne_nil b l)
      rw [minBy, hmin]
      by_cases hca : key c < key a
      · refine ⟨c, if_pos hca, a :: before, after, by rw [heq]; rfl, fun x hx => ?_, hafter⟩
        rcases List.mem_cons.1 hx with rfl | hx
        · exact hca
        · exact hbefore x hx
      · refine ⟨a, if_neg hca, [], b :: l, rfl, fun _ h => (nomatch h), fun x hx => ?_⟩
        rw [heq, List.mem_append, List.mem_cons] at hx
        rcases hx with hx | rfl | hx
        · have := hbefore x hx
          omega
        · omega
        · have := hafter x hx
          omega

/-- The elements may be looked at through a map. -/
theorem minBy_map (f : β → α) (l : List β) :
    minBy key (l.map f) = (minBy (fun b => key (f b)) l).map f := by
  induction l with
  | nil => rfl
  | cons b l ih =>
      rw [List.map_cons, minBy, minBy, ih]
      cases minBy (fun b => key (f b)) l with
      | none => rfl
      | some c =>
          simp only [Option.map_some]
          split <;> rfl

end
