/-
# A key store whose entries expire

The part of a Redis-like store that expiry concerns: `set` with or without a
time to live, `unlink`, and `exists`.  Stored values are left out, a key is
present or it is not.  An entry is kept until its instant has passed and is
invisible afterwards.  `Lasts` is the bound most users want: the key is visible
at every instant before `T`.
-/

import Mathlib.Data.List.Basic

/-- The entries, newest first: a key and the last instant it is visible at, or
`none` for a key that never expires. -/
structure Expiring (κ : Type*) where
  /-- The stored pairs. -/
  entries : List (κ × Option ℕ)

namespace Expiring

variable {κ : Type*} [DecidableEq κ]

/-- The store with no key. -/
def empty : Expiring κ := ⟨[]⟩

/-- `SET key value [EX ttl]`: replaces whatever the key held. -/
def set (st : Expiring κ) (k : κ) (expiry : Option ℕ) : Expiring κ :=
  ⟨(k, expiry) :: st.entries.filter fun e => e.1 ≠ k⟩

/-- `UNLINK` of every key the test selects. -/
def unlink (st : Expiring κ) (p : κ → Bool) : Expiring κ :=
  ⟨st.entries.filter fun e => !p e.1⟩

/-- The keys of the store, expired or not. -/
def keys (st : Expiring κ) : List κ := st.entries.map Prod.fst

/-- The entry of a key. -/
def get (st : Expiring κ) (k : κ) : Option (Option ℕ) :=
  (st.entries.find? fun e => e.1 = k).map Prod.snd

/-- Whether an entry is still visible. -/
def visible (now : ℕ) : Option ℕ → Bool
  | none => true
  | some t => decide (now ≤ t)

/-- `EXISTS key` at an instant. -/
def has (st : Expiring κ) (now : ℕ) (k : κ) : Bool :=
  match st.get k with
  | none => false
  | some e => visible now e

/-- The key is visible at every instant before `T`. -/
def Lasts (st : Expiring κ) (k : κ) (T : ℕ) : Prop := ∀ t, t < T → st.has t k = true

@[simp] theorem get_set_self (st : Expiring κ) (k : κ) (e : Option ℕ) :
    (st.set k e).get k = some e := by
  simp [get, set]

theorem get_set_of_ne (st : Expiring κ) {k k' : κ} (h : k' ≠ k) (e : Option ℕ) :
    (st.set k e).get k' = st.get k' := by
  have hk : ¬ k = k' := fun he => h he.symm
  simp only [get, set, List.find?_cons, hk, decide_false, List.find?_filter]
  congr 2
  funext x
  by_cases hx : x.1 = k' <;> simp [hx, h]

theorem get_unlink (st : Expiring κ) (p : κ → Bool) (k : κ) :
    (st.unlink p).get k = if p k then none else st.get k := by
  simp only [get, unlink, List.find?_filter]
  split_ifs with hp
  · rw [Option.map_eq_none_iff, List.find?_eq_none]
    intro x _ hx
    obtain ⟨h1, h2⟩ := (by simpa using hx : p x.1 = false ∧ x.1 = k)
    rw [h2, hp] at h1
    exact Bool.noConfusion h1
  · congr 2
    funext x
    by_cases hx : x.1 = k <;> simp [hx, hp]

/-- A key with no entry is not visible. -/
theorem has_of_get_eq_none {st : Expiring κ} {k : κ} (h : st.get k = none) (now : ℕ) :
    st.has now k = false := by
  simp [has, h]

/-- A visible key has an entry. -/
theorem get_ne_none_of_has {st : Expiring κ} {now : ℕ} {k : κ} (h : st.has now k = true) :
    st.get k ≠ none := fun hn => by
  rw [has_of_get_eq_none hn] at h
  exact Bool.noConfusion h

/-- A key that will still be visible is visible. -/
theorem has_of_le {st : Expiring κ} {k : κ} {t t' : ℕ} (hle : t ≤ t') (h : st.has t' k = true) :
    st.has t k = true := by
  unfold has at h ⊢
  cases hg : st.get k with
  | none => rw [hg] at h; exact h
  | some e =>
      rw [hg] at h
      cases e with
      | none => rfl
      | some e => exact decide_eq_true (Nat.le_trans hle (of_decide_eq_true h))

theorem has_congr {st st' : Expiring κ} {k : κ} (h : st'.get k = st.get k) (now : ℕ) :
    st'.has now k = st.has now k := by
  simp [has, h]

theorem Lasts.congr {st st' : Expiring κ} {k : κ} {T : ℕ} (hl : st.Lasts k T)
    (h : st'.get k = st.get k) : st'.Lasts k T := fun t ht => by
  rw [has_congr h]
  exact hl t ht

/-- A key just set lasts until its instant. -/
theorem lasts_set {st : Expiring κ} {k : κ} {e T : ℕ} (h : T ≤ e + 1) :
    (st.set k (some e)).Lasts k T := fun t ht => by
  simp only [has, get_set_self, visible, decide_eq_true_eq]
  omega

/-- A key set without an instant lasts. -/
theorem lasts_set_none {st : Expiring κ} {k : κ} {T : ℕ} : (st.set k none).Lasts k T :=
  fun t _ => by simp only [has, get_set_self, visible]

end Expiring
