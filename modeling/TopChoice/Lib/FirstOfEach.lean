/-
# The first of each, up to a limit

A list is gone through in order: an element is kept unless one of those kept before it is the
same, and the walk ends when as many are kept as the limit allows (`Picks`).  The relation that
must keep an element out (`same`) may be finer than the one that may (`near`).

The loop that remembers the keys it has seen does this for elements that share a key
(`picks_pickFrom`).
-/

import Mathlib.Data.List.Basic
import Mathlib.Data.Int.Order.Basic

namespace FirstOfEach

variable {α κ : Type*} {same near same' near' : α → α → Prop} {limit : ℤ} {kept l r : List α}
  {e : α}

/-- `Picks same near limit kept l r`: with `kept` kept so far, `r` is what the walk keeps of
`l`. -/
inductive Picks (same near : α → α → Prop) (limit : ℤ) : List α → List α → List α → Prop
  | nil (kept : List α) : Picks same near limit kept [] []
  | full {kept : List α} (l : List α) : limit ≤ kept.length → Picks same near limit kept l []
  | keep {kept l r : List α} {e : α} : kept.length < limit → (∀ k ∈ kept, ¬same k e) →
      Picks same near limit (kept ++ [e]) l r → Picks same near limit kept (e :: l) (e :: r)
  | drop {kept l r : List α} {e : α} : (∃ k ∈ kept, near k e) →
      Picks same near limit kept l r → Picks same near limit kept (e :: l) r

namespace Picks

theorem mono (hsame : ∀ a b, same' a b → same a b) (hnear : ∀ a b, near a b → near' a b)
    (h : Picks same near limit kept l r) : Picks same' near' limit kept l r := by
  induction h with
  | nil kept => exact .nil kept
  | full l hfull => exact .full l hfull
  | keep hroom hnew _ ih => exact .keep hroom (fun k hk hke => hnew k hk (hsame _ _ hke)) ih
  | drop hold _ ih =>
    obtain ⟨k, hk, hke⟩ := hold
    exact .drop ⟨k, hk, hnear _ _ hke⟩ ih

/-- What is kept is there, in order. -/
theorem sublist (h : Picks same near limit kept l r) : r.Sublist l := by
  induction h with
  | nil kept => exact List.Sublist.refl _
  | full l _ => exact List.nil_sublist l
  | keep _ _ _ ih => exact ih.cons_cons _
  | drop _ _ ih => exact ih.cons _

/-- No more is kept than the limit. -/
theorem length_le (h : Picks same near limit kept l r) (hkept : kept.length ≤ limit) :
    (kept.length + r.length : ℤ) ≤ limit := by
  induction h with
  | nil kept => simpa using hkept
  | full l _ => simpa using hkept
  | keep hroom _ _ ih =>
    simp only [List.length_append, List.length_cons, List.length_nil] at ih ⊢
    have := ih (by omega)
    omega
  | drop _ _ ih => exact ih hkept

/-- No two that are kept are the same. -/
theorem pairwise (h : Picks same near limit kept l r) :
    (∀ k ∈ kept, ∀ x ∈ r, ¬same k x) ∧ r.Pairwise fun a b => ¬same a b := by
  induction h with
  | nil kept => exact ⟨fun _ _ _ hx => (nomatch hx), List.Pairwise.nil⟩
  | full l _ => exact ⟨fun _ _ _ hx => (nomatch hx), List.Pairwise.nil⟩
  | keep _ hnew _ ih =>
    refine ⟨fun k hk x hx => ?_, List.pairwise_cons.2 ⟨fun x hx => ?_, ih.2⟩⟩
    · rcases List.mem_cons.1 hx with rfl | hx
      · exact hnew k hk
      · exact ih.1 k (List.mem_append_left _ hk) x hx
    · exact ih.1 _ (List.mem_append_right _ (List.mem_singleton_self _)) x hx
  | drop _ _ ih => exact ih

/-- While there is room, nothing new is left out. -/
theorem near_of_omitted (h : Picks same near limit kept (e :: l) []) (hroom : kept.length < limit) :
    ∃ k ∈ kept, near k e := by
  cases h with
  | full _ hfull => omega
  | drop hold _ => exact hold

/-- Of two elements, the second is left out only near the first. -/
theorem near_of_second {a b : α} (h : Picks same near limit [] [a, b] [a]) (hroom : 1 < limit) :
    near a b := by
  cases h with
  | keep _ _ hrest =>
    obtain ⟨k, hk, hnear⟩ := hrest.near_of_omitted (by simpa using hroom)
    obtain rfl := List.mem_singleton.1 hk
    exact hnear
  | drop hold _ =>
    obtain ⟨k, hk, -⟩ := hold
    cases hk

end Picks

/-! ### The loop -/

section Loop

variable [DecidableEq κ] (keys : α → List κ)

/-- The elements share a key. -/
def ShareKey (a b : α) : Prop := ∃ k ∈ keys a, k ∈ keys b

/-- The loop: the keys seen, how many were kept, and what is still to come. -/
def pickFrom (limit : ℤ) (seen : List κ) (found : ℕ) : List α → List α
  | [] => []
  | e :: l =>
      if (keys e).any fun k => k ∈ seen then pickFrom limit seen found l
      else e :: if limit ≤ found + 1 then [] else pickFrom limit (keys e ++ seen) (found + 1) l

/-- **The loop picks the first of each.** -/
theorem picks_pickFrom {seen : List κ} {found : ℕ} (hfound : found = kept.length)
    (hroom : (found : ℤ) < limit) (hseen : ∀ k, k ∈ seen ↔ ∃ a ∈ kept, k ∈ keys a) :
    Picks (ShareKey keys) (ShareKey keys) limit kept l (pickFrom keys limit seen found l) := by
  induction l generalizing kept seen found with
  | nil => exact .nil kept
  | cons e l ih =>
    have hany : ((keys e).any fun k => k ∈ seen) = true ↔ ∃ k ∈ kept, ShareKey keys k e := by
      simp only [List.any_eq_true, decide_eq_true_eq, hseen]
      constructor
      · rintro ⟨k, hk, a, ha, hka⟩
        exact ⟨a, ha, k, hka, hk⟩
      · rintro ⟨a, ha, k, hka, hk⟩
        exact ⟨k, hk, a, ha, hka⟩
    rw [pickFrom]
    split_ifs with hold hfull
    · exact .drop (hany.1 hold) (ih hfound hroom hseen)
    · refine .keep (hfound ▸ hroom) (fun k hk hke => hold (hany.2 ⟨k, hk, hke⟩)) (.full l ?_)
      rw [List.length_append, ← hfound]
      exact hfull
    · refine .keep (hfound ▸ hroom) (fun k hk hke => hold (hany.2 ⟨k, hk, hke⟩))
        (ih (by simp [hfound]) (by push_cast; omega) fun k => ?_)
      simp only [List.mem_append, List.mem_singleton, hseen]
      constructor
      · rintro (hk | ⟨a, ha, hk⟩)
        · exact ⟨e, Or.inr rfl, hk⟩
        · exact ⟨a, Or.inl ha, hk⟩
      · rintro ⟨a, ha | rfl, hk⟩
        · exact Or.inr ⟨a, ha, hk⟩
        · exact Or.inl hk

end Loop

end FirstOfEach
