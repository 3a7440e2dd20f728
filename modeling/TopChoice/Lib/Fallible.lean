/-
# Computations that may raise

How a computation in `Except` that succeeds is taken apart: a sequence of two into the
two, and a fold whose step may raise into its steps, with an invariant that each step
keeps.
-/

import Mathlib.Data.List.Induction

namespace Fallible

universe v

variable {ε α : Type*} {σ τ : Type v}

/-- A sequence succeeds when both parts do. -/
theorem bind_eq_ok {x : Except ε σ} {f : σ → Except ε τ} {b : τ} :
    x >>= f = .ok b ↔ ∃ a, x = .ok a ∧ f a = .ok b := by
  constructor
  · intro h
    match x, h with
    | .ok a, h => exact ⟨a, rfl, h⟩
  · rintro ⟨a, rfl, h⟩
    exact h

/-- A fold over one more element. -/
theorem foldlM_concat_eq_ok {f : σ → α → Except ε σ} {xs : List α} {x : α} {s t : σ} :
    (xs ++ [x]).foldlM f s = .ok t ↔ ∃ r, xs.foldlM f s = .ok r ∧ f r x = .ok t := by
  rw [List.foldlM_append, bind_eq_ok]
  refine exists_congr fun r => and_congr_right fun _ => ?_
  rw [List.foldlM_cons, bind_eq_ok]
  constructor
  · rintro ⟨t', ht, hpure⟩
    obtain rfl : t' = t := Except.ok.inj hpure
    exact ht
  · exact fun ht => ⟨t, ht, rfl⟩

/-- **The run rule.**  What holds at first, of no elements, and is kept by every step that
succeeds holds of the elements folded over. -/
theorem foldlM_invariant {f : σ → α → Except ε σ} {P : List α → σ → Prop} {s : σ} (hfirst : P [] s)
    (hstep : ∀ xs r x t, P xs r → f r x = .ok t → P (xs ++ [x]) t) {xs : List α} {t : σ}
    (h : xs.foldlM f s = .ok t) : P xs t := by
  induction xs using List.reverseRecOn generalizing t with
  | nil =>
    obtain rfl : s = t := Except.ok.inj h
    exact hfirst
  | append_singleton xs x ih =>
    obtain ⟨r, hr, hx⟩ := foldlM_concat_eq_ok.1 h
    exact hstep xs r x t (ih hr) hx

/-- A fold succeeds when its step does at every element, whatever the state. -/
theorem exists_foldlM_eq_ok {f : σ → α → Except ε σ} {xs : List α}
    (h : ∀ x ∈ xs, ∀ s, ∃ t, f s x = .ok t) (s : σ) : ∃ t, xs.foldlM f s = .ok t := by
  induction xs generalizing s with
  | nil => exact ⟨s, rfl⟩
  | cons x xs ih =>
    obtain ⟨r, hr⟩ := h x List.mem_cons_self s
    obtain ⟨t, ht⟩ := ih (fun y hy => h y (List.mem_cons_of_mem x hy)) r
    refine ⟨t, ?_⟩
    rw [List.foldlM_cons, hr]
    exact ht

end Fallible
