/-
# Labelled machines and the runs they make

A machine is a partial step function: in a state `s` the label `l` either takes
it to a state or is not enabled.  A run is a list of labels, executed from left
to right.  Two facts are wanted of runs.  An invariant that every step keeps
holds at the end of every run (`run_invariant`), also when only the steps that
meet a side condition keep it; and what an invariant says about the next step
holds of every step of such a run (`Meets.of_invariant`).
-/

import Mathlib.Logic.Function.Basic
import Mathlib.Data.Option.Basic

universe u v

/-- A machine with states `σ` and labels `ℓ`; `none` is a label not enabled. -/
structure Machine (σ : Type u) (ℓ : Type v) where
  /-- The state a label leads to. -/
  step : σ → ℓ → Option σ

namespace Machine

variable {σ : Type u} {ℓ : Type v} (M : Machine σ ℓ)

/-- The state a list of labels leads to, when each of them is enabled in turn. -/
def run : σ → List ℓ → Option σ
  | s, [] => some s
  | s, l :: ls => (M.step s l).bind fun t => run t ls

/-- Every step of the run meets the condition in the state it is taken from. -/
def Meets (C : σ → ℓ → Prop) : σ → List ℓ → Prop
  | _, [] => True
  | s, l :: ls => C s l ∧ ∀ t, M.step s l = some t → Meets C t ls

instance Meets.decidable {C : σ → ℓ → Prop} [∀ s l, Decidable (C s l)] :
    ∀ (s : σ) (ls : List ℓ), Decidable (M.Meets C s ls)
  | _, [] => isTrue trivial
  | s, l :: ls =>
      match h : M.step s l with
      | none => decidable_of_iff (C s l) (by simp [Meets, h])
      | some t =>
          have := Meets.decidable (C := C) t ls
          decidable_of_iff (C s l ∧ M.Meets C t ls) (by simp [Meets, h])

/-- Some step of the run meets the condition in the state it is taken from. -/
def Hits (P : σ → ℓ → Prop) : σ → List ℓ → Prop
  | _, [] => False
  | s, l :: ls => P s l ∨ ∃ t, M.step s l = some t ∧ Hits P t ls

@[simp] theorem run_nil (s : σ) : M.run s [] = some s := rfl

/-- A run that starts with `l` is a step of `l` and a run from where it leads. -/
theorem run_cons_eq_some {s u : σ} {l : ℓ} {ls : List ℓ} :
    M.run s (l :: ls) = some u ↔ ∃ t, M.step s l = some t ∧ M.run t ls = some u := by
  rw [run, Option.bind_eq_some_iff]

variable {M}

/-- **The invariant rule, under a condition on the steps.**  What every step
that meets `C` keeps holds at the end of every run whose steps all meet `C`. -/
theorem run_invariant {I : σ → Prop} {C : σ → ℓ → Prop}
    (hstep : ∀ s l t, I s → C s l → M.step s l = some t → I t) :
    ∀ {s u : σ} (ls : List ℓ), I s → M.Meets C s ls → M.run s ls = some u → I u
  | s, u, [], hs, _, hr => by
      obtain rfl := Option.some.inj hr
      exact hs
  | s, u, l :: ls, hs, hC, hr => by
      obtain ⟨t, hl, ht⟩ := M.run_cons_eq_some.1 hr
      exact run_invariant hstep ls (hstep s l t hs hC.1 hl) (hC.2 t hl) ht

/-- **What the invariant says of a step holds of every step of the run.** -/
theorem Meets.of_invariant {I : σ → Prop} {C P : σ → ℓ → Prop}
    (hstep : ∀ s l t, I s → C s l → M.step s l = some t → I t)
    (hP : ∀ s l, I s → C s l → P s l) :
    ∀ {s : σ} (ls : List ℓ), I s → M.Meets C s ls → M.Meets P s ls
  | _, [], _, _ => trivial
  | s, l :: ls, hs, hC =>
      ⟨hP s l hs hC.1, fun t ht =>
        Meets.of_invariant hstep hP ls (hstep s l t hs hC.1 ht) (hC.2 t ht)⟩

/-- Conditions met one by one are met together. -/
theorem Meets.and {C D : σ → ℓ → Prop} :
    ∀ {s : σ} (ls : List ℓ), M.Meets C s ls → M.Meets D s ls → M.Meets (fun s l => C s l ∧ D s l) s ls
  | _, [], _, _ => trivial
  | _, _ :: ls, hC, hD => ⟨⟨hC.1, hD.1⟩, fun t ht => Meets.and ls (hC.2 t ht) (hD.2 t ht)⟩

/-- **What a step establishes and every step keeps** holds at the end of every
run with such a step. -/
theorem run_established {I : σ → Prop} {C P : σ → ℓ → Prop}
    (hkeep : ∀ s l t, I s → C s l → M.step s l = some t → I t)
    (hset : ∀ s l t, P s l → C s l → M.step s l = some t → I t) :
    ∀ {s u : σ} (ls : List ℓ), M.Hits P s ls → M.Meets C s ls → M.run s ls = some u → I u
  | _, _, [], hP, _, _ => hP.elim
  | s, u, l :: ls, hP, hC, hr => by
      obtain ⟨t, hl, ht⟩ := M.run_cons_eq_some.1 hr
      rcases hP with hP | ⟨t', ht', hP⟩
      · exact run_invariant hkeep ls (hset s l t hP hC.1 hl) (hC.2 t hl) ht
      · obtain rfl := Option.some.inj (hl.symm.trans ht')
        exact run_established hkeep hset ls hP (hC.2 t hl) ht

/-- A condition on the labels alone is met when every label meets it. -/
theorem Meets.of_forall_mem {L : ℓ → Prop} :
    ∀ (s : σ) {ls : List ℓ}, (∀ l ∈ ls, L l) → M.Meets (fun _ l => L l) s ls
  | _, [], _ => trivial
  | _, l :: _, h => ⟨h l (List.mem_cons_self ..), fun t _ =>
      Meets.of_forall_mem t fun m hm => h m (List.mem_cons_of_mem _ hm)⟩

/-- The invariant rule for the runs of one kind of labels. -/
theorem run_invariant_of_forall_mem {I : σ → Prop} {L : ℓ → Prop}
    (hstep : ∀ s l t, I s → L l → M.step s l = some t → I t) {s u : σ} (ls : List ℓ)
    (hs : I s) (hL : ∀ l ∈ ls, L l) (hr : M.run s ls = some u) : I u :=
  run_invariant hstep ls hs (Meets.of_forall_mem s hL) hr

/-- **The simulation rule.**  Where each step of a machine is one of another, from related
states to related states, each run is. -/
theorem run_simulates {τ : Type*} {N : Machine τ ℓ} {R : σ → τ → Prop}
    (hstep : ∀ s t l s', R s t → M.step s l = some s' → ∃ t', N.step t l = some t' ∧ R s' t') :
    ∀ {s u : σ} {t : τ} (ls : List ℓ), R s t → M.run s ls = some u →
      ∃ v, N.run t ls = some v ∧ R u v
  | s, u, t, [], hs, hr => by
      obtain rfl := Option.some.inj hr
      exact ⟨t, rfl, hs⟩
  | s, u, t, l :: ls, hs, hr => by
      obtain ⟨s', hl, hs'⟩ := M.run_cons_eq_some.1 hr
      obtain ⟨t', hl', ht'⟩ := hstep s t l s' hs hl
      obtain ⟨v, hv, huv⟩ := run_simulates hstep ls ht' hs'
      exact ⟨v, N.run_cons_eq_some.2 ⟨t', hl', hv⟩, huv⟩

end Machine
