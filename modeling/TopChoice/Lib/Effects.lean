/-
# Computations with effects

A computation that may raise, acts on a world and keeps a log of what it does.  What was
done before something is raised stands: the world and the log go on from there, also where
the exception is caught.

Three kinds of rules.  Two computations that do the same as far as some entries of the
log go can be told apart neither alone nor in a sequence (`SameTrace`).  A bound on how
many entries of a kind are made adds up over a sequence (`Charges`).  And what always
returns, with a result of some kind, is put together from parts that do (`Returns`).
-/

import Mathlib.Data.List.Basic
import Mathlib.Data.Nat.Basic

namespace Effects

variable {ε ω τ α β γ : Type}

/-- What a computation comes to: a result or an exception, the world it leaves and the
entries it made. -/
structure Outcome (ε ω τ α : Type) where
  result : Except ε α
  world : ω
  log : List τ

/-- A computation. -/
structure Program (ε ω τ α : Type) where
  run : ω → Outcome ε ω τ α

namespace Program

theorem ext_run {p q : Program ε ω τ α} (h : ∀ w, p.run w = q.run w) : p = q := by
  obtain ⟨run⟩ := p
  obtain ⟨run'⟩ := q
  obtain rfl : run = run' := funext h
  rfl

instance : Monad (Program ε ω τ) where
  pure a := ⟨fun w => ⟨.ok a, w, []⟩⟩
  bind p f := ⟨fun w =>
    match p.run w with
    | ⟨.ok a, w', log⟩ =>
        let rest := (f a).run w'
        ⟨rest.result, rest.world, log ++ rest.log⟩
    | ⟨.error e, w', log⟩ => ⟨.error e, w', log⟩⟩

/-- `raise`. -/
def raise (e : ε) : Program ε ω τ α := ⟨fun w => ⟨.error e, w, []⟩⟩

/-- An entry in the log. -/
def tell (t : τ) : Program ε ω τ Unit := ⟨fun w => ⟨.ok (), w, [t]⟩⟩

/-- Entries in the log, one after the other. -/
def tellAll (ts : List τ) : Program ε ω τ Unit := ⟨fun w => ⟨.ok (), w, ts⟩⟩

/-- A call of the world. -/
def perform (action : ω → Except ε α × ω) : Program ε ω τ α :=
  ⟨fun w => ⟨(action w).1, (action w).2, []⟩⟩

/-- A value that may have raised. -/
def ofExcept (x : Except ε α) : Program ε ω τ α := ⟨fun w => ⟨x, w, []⟩⟩

/-- `try`: the exception as a value. -/
def attempt (p : Program ε ω τ α) : Program ε ω τ (Except ε α) :=
  ⟨fun w => ⟨.ok (p.run w).result, (p.run w).world, (p.run w).log⟩⟩

section Run

variable (w : ω)

@[simp] theorem run_pure (a : α) :
    (pure a : Program ε ω τ α).run w = ⟨.ok a, w, []⟩ := rfl

@[simp] theorem run_raise (e : ε) : (raise e : Program ε ω τ α).run w = ⟨.error e, w, []⟩ := rfl

@[simp] theorem run_tell (t : τ) : (tell t : Program ε ω τ Unit).run w = ⟨.ok (), w, [t]⟩ := rfl

@[simp] theorem run_tellAll (ts : List τ) :
    (tellAll ts : Program ε ω τ Unit).run w = ⟨.ok (), w, ts⟩ := rfl

variable {w}

/-- A sequence goes on from what its first part returns. -/
theorem run_bind_of_ok {p : Program ε ω τ α} (f : α → Program ε ω τ β) {a : α}
    (h : (p.run w).result = .ok a) :
    (p >>= f).run w =
      ⟨((f a).run (p.run w).world).result, ((f a).run (p.run w).world).world,
        (p.run w).log ++ ((f a).run (p.run w).world).log⟩ := by
  show (match p.run w with
    | ⟨.ok a, w', log⟩ => _
    | ⟨.error e, w', log⟩ => _) = _
  generalize p.run w = outcome at h ⊢
  obtain ⟨result, w', log⟩ := outcome
  obtain rfl : result = .ok a := h
  rfl

/-- A sequence ends where its first part raises. -/
theorem run_bind_of_error {p : Program ε ω τ α} (f : α → Program ε ω τ β) {e : ε}
    (h : (p.run w).result = .error e) :
    (p >>= f).run w = ⟨.error e, (p.run w).world, (p.run w).log⟩ := by
  show (match p.run w with
    | ⟨.ok a, w', log⟩ => _
    | ⟨.error e, w', log⟩ => _) = _
  generalize p.run w = outcome at h ⊢
  obtain ⟨result, w', log⟩ := outcome
  obtain rfl : result = .error e := h
  rfl

end Run

theorem id_map_run (p : Program ε ω τ α) : id <$> p = p := by
  refine ext_run fun w => ?_
  change (p >>= pure).run w = p.run w
  cases h : (p.run w).result with
  | ok a => rw [run_bind_of_ok _ h, run_pure, List.append_nil, ← h]
  | error e => rw [run_bind_of_error _ h, ← h]

theorem bind_assoc_run (p : Program ε ω τ α) (f : α → Program ε ω τ β)
    (g : β → Program ε ω τ γ) : p >>= f >>= g = p >>= fun a => f a >>= g := by
  refine ext_run fun w => ?_
  cases h : (p.run w).result with
  | ok a =>
    rw [run_bind_of_ok _ h]
    cases h' : ((f a).run (p.run w).world).result with
    | ok b =>
      have hpf : ((p >>= f).run w).result = .ok b := by rw [run_bind_of_ok _ h, h']
      rw [run_bind_of_ok _ hpf, run_bind_of_ok _ h', run_bind_of_ok _ h, List.append_assoc]
    | error e =>
      have hpf : ((p >>= f).run w).result = .error e := by rw [run_bind_of_ok _ h, h']
      rw [run_bind_of_error _ hpf, run_bind_of_error _ h', run_bind_of_ok _ h]
  | error e =>
    have hpf : ((p >>= f).run w).result = .error e := by rw [run_bind_of_error _ h]
    rw [run_bind_of_error _ hpf, run_bind_of_error _ h, run_bind_of_error _ h]

instance : LawfulMonad (Program ε ω τ) :=
  LawfulMonad.mk' _ id_map_run (fun _ _ => rfl) bind_assoc_run

/-! ### What holds of a result and a log -/

/-- However the world is, what the computation comes to and what it logs meet a condition. -/
def Meets (p : Program ε ω τ α) (Q : Except ε α → List τ → Prop) : Prop :=
  ∀ w, Q (p.run w).result (p.run w).log

section Meets

variable {p : Program ε ω τ α} {f : α → Program ε ω τ β}

theorem Meets.mono {Q R : Except ε α → List τ → Prop} (h : p.Meets R)
    (hmono : ∀ result log, R result log → Q result log) : p.Meets Q :=
  fun w => hmono _ _ (h w)

theorem meets_pure {a : α} {Q : Except ε α → List τ → Prop} (h : Q (.ok a) []) :
    (pure a : Program ε ω τ α).Meets Q :=
  fun _ => h

theorem meets_raise {e : ε} {Q : Except ε α → List τ → Prop} (h : Q (.error e) []) :
    (raise e : Program ε ω τ α).Meets Q :=
  fun _ => h

theorem meets_tell {t : τ} {Q : Except ε Unit → List τ → Prop} (h : Q (.ok ()) [t]) :
    (tell t : Program ε ω τ Unit).Meets Q :=
  fun _ => h

theorem meets_attempt {Q : Except ε (Except ε α) → List τ → Prop}
    (h : p.Meets fun result log => Q (.ok result) log) : p.attempt.Meets Q :=
  fun w => h w

/-- **The rule of a sequence.** -/
theorem meets_bind {R : Except ε α → List τ → Prop} {Q : Except ε β → List τ → Prop}
    (hp : p.Meets R) (hraised : ∀ e log, R (.error e) log → Q (.error e) log)
    (hf : ∀ a log, R (.ok a) log → (f a).Meets fun result more => Q result (log ++ more)) :
    (p >>= f).Meets Q := by
  intro w
  have h := hp w
  cases hresult : (p.run w).result with
  | ok a =>
    rw [run_bind_of_ok f hresult]
    rw [hresult] at h
    exact hf a _ h _
  | error e =>
    rw [run_bind_of_error f hresult]
    rw [hresult] at h
    exact hraised e _ h

end Meets

/-! ### What is returned -/

/-- What a computation returns, where it returns, is of a kind. -/
def Ends (p : Program ε ω τ α) (P : α → Prop) : Prop :=
  p.Meets fun result _ => ∀ a, result = .ok a → P a

section Ends

variable {P : α → Prop} {Q : β → Prop} {p : Program ε ω τ α} {f g : α → Program ε ω τ β}

theorem Ends.mono {P' : α → Prop} (h : p.Ends P) (hmono : ∀ a, P a → P' a) : p.Ends P' :=
  Meets.mono h fun _ _ h a ha => hmono a (h a ha)

theorem ends_pure {a : α} (h : P a) : (pure a : Program ε ω τ α).Ends P :=
  meets_pure fun _ ha => Except.ok.inj ha ▸ h

theorem ends_raise (e : ε) : (raise e : Program ε ω τ α).Ends P := meets_raise nofun

theorem ends_ofExcept {x : Except ε α} (h : ∀ a, x = .ok a → P a) :
    (ofExcept x : Program ε ω τ α).Ends P :=
  fun _ a ha => h a ha

theorem ends_attempt (h : p.Ends P) : p.attempt.Ends fun result => ∀ a, result = .ok a → P a :=
  meets_attempt (Meets.mono h fun _ _ h _ hresult => Except.ok.inj hresult ▸ h)

/-- What the second part returns depends on what the first part returned. -/
theorem ends_bind_of_ends (hp : p.Ends P) (hf : ∀ a, P a → (f a).Ends Q) : (p >>= f).Ends Q :=
  meets_bind hp (fun _ _ _ => nofun) fun a _ h => hf a (h a rfl)

theorem ends_bind (hf : ∀ a, (f a).Ends Q) : (p >>= f).Ends Q :=
  ends_bind_of_ends (P := fun _ => True) (fun _ _ _ => trivial) fun a _ => hf a

/-- Sequences are the same when they go on in the same way from what is returned. -/
theorem bind_congr_of_ends (hp : p.Ends P) (hfg : ∀ a, P a → f a = g a) : p >>= f = p >>= g := by
  refine ext_run fun w => ?_
  cases h : (p.run w).result with
  | ok a => rw [run_bind_of_ok f h, run_bind_of_ok g h, hfg a (hp w a h)]
  | error e => rw [run_bind_of_error f h, run_bind_of_error g h]

end Ends

/-! ### Bounds on the entries of a kind -/

/-- At most so many entries of a kind are made. -/
def Charges (charge : τ → Bool) (n : ℕ) (p : Program ε ω τ α) : Prop :=
  p.Meets fun _ log => log.countP charge ≤ n

section Charges

variable {charge : τ → Bool} {m n : ℕ} {p : Program ε ω τ α} {f : α → Program ε ω τ β}

theorem Charges.mono (h : Charges charge m p) (hmn : m ≤ n) : Charges charge n p :=
  Meets.mono h fun _ _ h => le_trans h hmn

theorem charges_pure (a : α) : Charges charge 0 (pure a : Program ε ω τ α) := fun _ => le_refl 0

theorem charges_raise (e : ε) : Charges charge 0 (raise e : Program ε ω τ α) := fun _ => le_refl 0

theorem charges_perform (action : ω → Except ε α × ω) :
    Charges charge 0 (perform action : Program ε ω τ α) :=
  fun _ => le_refl 0

theorem charges_ofExcept (x : Except ε α) :
    Charges charge 0 (ofExcept x : Program ε ω τ α) := fun _ => le_refl 0

theorem charges_tell (t : τ) :
    Charges charge (if charge t then 1 else 0) (tell t : Program ε ω τ Unit) :=
  meets_tell (le_of_eq List.countP_singleton)

theorem charges_attempt (h : Charges charge n p) : Charges charge n p.attempt := meets_attempt h

/-- What one part may charge depends on what the part before it returned. -/
theorem charges_bind_of_ends {P : α → Prop} (hp : Charges charge m p) (hends : p.Ends P)
    (hf : ∀ a, P a → Charges charge n (f a)) : Charges charge (m + n) (p >>= f) := by
  refine meets_bind (R := fun result log => log.countP charge ≤ m ∧ ∀ a, result = .ok a → P a)
    (fun w => ⟨hp w, hends w⟩) (fun e log h => le_trans h.1 (Nat.le_add_right m n)) ?_
  intro a log h w
  rw [List.countP_append]
  exact Nat.add_le_add h.1 (hf a (h.2 a rfl) w)

/-- **The charges of a sequence add up.** -/
theorem charges_bind (hp : Charges charge m p) (hf : ∀ a, Charges charge n (f a)) :
    Charges charge (m + n) (p >>= f) :=
  charges_bind_of_ends (P := fun _ => True) hp (fun _ _ _ => trivial) fun a _ => hf a

/-- A first part that charges nothing. -/
theorem charges_bind_free (hp : Charges charge 0 p) (hf : ∀ a, Charges charge n (f a)) :
    Charges charge n (p >>= f) :=
  (charges_bind hp hf).mono (le_of_eq (Nat.zero_add n))

/-- A second part that charges nothing. -/
theorem charges_bind_pure (hp : Charges charge n p) (hf : ∀ a, Charges charge 0 (f a)) :
    Charges charge n (p >>= f) :=
  (charges_bind hp hf).mono (le_of_eq (Nat.add_zero n))

/-- A first part that charges nothing, and returns what the second part depends on. -/
theorem charges_bind_free_of_ends {P : α → Prop} (hp : Charges charge 0 p) (hends : p.Ends P)
    (hf : ∀ a, P a → Charges charge n (f a)) : Charges charge n (p >>= f) :=
  (charges_bind_of_ends hp hends hf).mono (le_of_eq (Nat.zero_add n))

end Charges

/-! ### What always returns -/

/-- However the world is, the computation returns, and what it returns is of a kind. -/
def Returns (p : Program ε ω τ α) (P : α → Prop) : Prop :=
  p.Meets fun result _ => ∃ a, result = .ok a ∧ P a

section Returns

variable {P : α → Prop} {p : Program ε ω τ α}

theorem Returns.mono {Q : α → Prop} (h : p.Returns P) (hmono : ∀ a, P a → Q a) : p.Returns Q :=
  Meets.mono h fun _ _ ⟨a, ha, hP⟩ => ⟨a, ha, hmono a hP⟩

theorem returns_pure {a : α} (h : P a) : (pure a : Program ε ω τ α).Returns P :=
  fun _ => ⟨a, rfl, h⟩

theorem returns_tell (t : τ) : (tell t : Program ε ω τ Unit).Returns fun _ => True :=
  fun _ => ⟨(), rfl, trivial⟩

end Returns

/-! ### The same, as far as some entries go -/

/-- Two computations come to the same, and log the same entries among those that count. -/
def Agree (counts : τ → Bool) (p q : Program ε ω τ α) : Prop :=
  ∀ w, (p.run w).result = (q.run w).result ∧ (p.run w).world = (q.run w).world ∧
    (p.run w).log.filter counts = (q.run w).log.filter counts

/-- Two computations log the same entries among those that count. -/
def SameTrace (counts : τ → Bool) (p : Program ε ω τ α) (q : Program ε ω τ β) : Prop :=
  ∀ w, (p.run w).log.filter counts = (q.run w).log.filter counts

/-- The entries a computation makes that count are these. -/
def Traces (counts : τ → Bool) (p : Program ε ω τ α) (entries : List τ) : Prop :=
  p.Meets fun _ log => log.filter counts = entries

/-- None of the entries a computation makes counts. -/
def Silent (counts : τ → Bool) (p : Program ε ω τ α) : Prop := Traces counts p []

section Agree

variable {counts : τ → Bool} {p q : Program ε ω τ α} {f g : α → Program ε ω τ β}

theorem agree_refl (p : Program ε ω τ α) : Agree counts p p := fun _ => ⟨rfl, rfl, rfl⟩

theorem Agree.trans {r : Program ε ω τ α} (h : Agree counts p q) (h' : Agree counts q r) :
    Agree counts p r :=
  fun w => ⟨(h w).1.trans (h' w).1, (h w).2.1.trans (h' w).2.1, (h w).2.2.trans (h' w).2.2⟩

/-- What agrees returns the same. -/
theorem Agree.ends {P : α → Prop} (h : Agree counts p q) (hq : q.Ends P) : p.Ends P :=
  fun w a ha => hq w a ((h w).1 ▸ ha)

/-- **Sequences of parts that agree agree.** -/
theorem agree_bind (h : Agree counts p q) (hfg : ∀ a, Agree counts (f a) (g a)) :
    Agree counts (p >>= f) (q >>= g) := by
  intro w
  obtain ⟨hresult, hworld, hlog⟩ := h w
  cases hp : (p.run w).result with
  | ok a =>
    obtain ⟨hresult', hworld', hlog'⟩ := hfg a (p.run w).world
    rw [run_bind_of_ok f hp, run_bind_of_ok g (hresult ▸ hp), List.filter_append,
      List.filter_append, hlog, hlog', ← hworld]
    exact ⟨hresult', hworld', rfl⟩
  | error e =>
    rw [run_bind_of_error f hp, run_bind_of_error g (hresult ▸ hp)]
    exact ⟨rfl, hworld, hlog⟩

/-- After parts that agree, the same entries are made by parts that make the same. -/
theorem sameTrace_bind_of_ends {P : α → Prop} {g : α → Program ε ω τ γ} (h : Agree counts p q)
    (hends : p.Ends P) (hfg : ∀ a, P a → SameTrace counts (f a) (g a)) :
    SameTrace counts (p >>= f) (q >>= g) := by
  intro w
  obtain ⟨hresult, hworld, hlog⟩ := h w
  cases hp : (p.run w).result with
  | ok a =>
    rw [run_bind_of_ok f hp, run_bind_of_ok g (hresult ▸ hp), List.filter_append,
      List.filter_append, hlog, hfg a (hends w a hp), hworld]
  | error e =>
    rw [run_bind_of_error f hp, run_bind_of_error g (hresult ▸ hp)]
    exact hlog

/-- Entries that do not count, before a computation. -/
theorem agree_tellAll_bind {ts : List τ} (h : ∀ t ∈ ts, counts t = false)
    (p : Program ε ω τ α) : Agree counts (tellAll ts >>= fun _ => p) p := by
  intro w
  refine ⟨rfl, rfl, ?_⟩
  have hnone : ts.filter counts = [] :=
    List.filter_eq_nil_iff.2 fun t ht => by rw [h t ht]; exact Bool.false_ne_true
  rw [run_bind_of_ok _ rfl, List.filter_append]
  change ts.filter counts ++ _ = _
  rw [hnone, List.nil_append]
  rfl

theorem Traces.sameTrace {q : Program ε ω τ β} {entries : List τ} (h : Traces counts p entries)
    (h' : Traces counts q entries) : SameTrace counts p q :=
  fun w => (h w).trans (h' w).symm

theorem traces_tell {t : τ} (ht : counts t = true) :
    Traces counts (tell t : Program ε ω τ Unit) [t] :=
  fun _ => List.filter_cons_of_pos ht

theorem traces_attempt {entries : List τ} (h : Traces counts p entries) :
    Traces counts p.attempt entries :=
  meets_attempt h

/-- What follows makes no entry that counts. -/
theorem traces_bind_silent {entries : List τ} (h : Traces counts p entries)
    (hf : ∀ a, Silent counts (f a)) : Traces counts (p >>= f) entries :=
  meets_bind h (fun _ _ h => h) fun a log h w => by
    change List.filter counts (log ++ _) = entries
    rw [List.filter_append, h, hf a w, List.append_nil]

/-- What comes first returns, and makes no entry that counts. -/
theorem traces_bind_of_returns {P : α → Prop} {entries : List τ} (hp : Silent counts p)
    (hreturns : p.Returns P) (hf : ∀ a, Traces counts (f a) entries) :
    Traces counts (p >>= f) entries := by
  intro w
  obtain ⟨a, ha, -⟩ := hreturns w
  rw [run_bind_of_ok f ha, List.filter_append, hp w, List.nil_append]
  exact hf a _

/-- An entry that does not count. -/
theorem agree_tell_bind {t : τ} (ht : counts t = false) (p : Program ε ω τ α) :
    Agree counts (tell t >>= fun _ => p) p :=
  fun w => ⟨rfl, rfl, List.filter_cons_of_neg (by rw [ht]; exact Bool.false_ne_true)⟩

theorem silent_pure (a : α) : Silent counts (pure a : Program ε ω τ α) := fun _ => rfl

theorem silent_perform (action : ω → Except ε α × ω) :
    Silent counts (perform action : Program ε ω τ α) :=
  fun _ => rfl

theorem silent_tell {t : τ} (ht : counts t = false) :
    Silent counts (tell t : Program ε ω τ Unit) :=
  fun _ => List.filter_cons_of_neg (by rw [ht]; exact Bool.false_ne_true)

theorem silent_tellAll {ts : List τ} (h : ∀ t ∈ ts, counts t = false) :
    Silent counts (tellAll ts : Program ε ω τ Unit) :=
  fun _ => List.filter_eq_nil_iff.2 fun t ht => by rw [h t ht]; exact Bool.false_ne_true

/-- A computation that is charged nothing is silent. -/
theorem silent_of_charges (h : Charges counts 0 p) : Silent counts p :=
  Meets.mono h fun _ _ h => List.filter_eq_nil_iff.2 (List.countP_eq_zero.1 (Nat.le_zero.1 h))

theorem silent_attempt (h : Silent counts p) : Silent counts p.attempt := traces_attempt h

theorem silent_bind (h : Silent counts p) (hf : ∀ a, Silent counts (f a)) :
    Silent counts (p >>= f) :=
  traces_bind_silent h hf

end Agree

end Program

end Effects
