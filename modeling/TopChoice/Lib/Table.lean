/-
# A relational table and its statements

Rows in a list, and the statements an ORM issues on them: `findUnique`,
`findMany`, `count`, `updateOne`, `updateMany`, `deleteOne`, `deleteMany`,
`create`.  One statement is one function of the table, so an interleaving of
statements is an interleaving of these.
-/

import Mathlib.Data.List.Basic

namespace Table

variable {ρ : Type*}

/-- `findUnique` / `findFirst`: the first row the condition selects. -/
def findUnique (p : ρ → Bool) (rows : List ρ) : Option ρ := rows.find? p

/-- `findMany`: every row the condition selects. -/
def findMany (p : ρ → Bool) (rows : List ρ) : List ρ := rows.filter p

/-- `count`: how many rows the condition selects. -/
def count (p : ρ → Bool) (rows : List ρ) : ℕ := rows.countP p

/-- `updateOne`: rewrites the first row the condition selects. -/
def updateOne (p : ρ → Bool) (f : ρ → ρ) : List ρ → List ρ
  | [] => []
  | r :: rows => if p r then f r :: rows else r :: updateOne p f rows

/-- `updateMany`: rewrites every row the condition selects. -/
def updateMany (p : ρ → Bool) (f : ρ → ρ) (rows : List ρ) : List ρ :=
  rows.map fun r => if p r then f r else r

/-- `deleteMany`: drops every row the condition selects. -/
def deleteMany (p : ρ → Bool) (rows : List ρ) : List ρ := rows.filter fun r => !p r

/-- `delete`: drops the first row the condition selects. -/
def deleteOne (p : ρ → Bool) (rows : List ρ) : List ρ := rows.eraseP p

/-- `create`: appends one row. -/
def create (row : ρ) (rows : List ρ) : List ρ := rows ++ [row]

theorem findUnique_some {p : ρ → Bool} {rows : List ρ} {r : ρ} (h : findUnique p rows = some r) :
    r ∈ rows ∧ p r = true :=
  ⟨List.mem_of_find?_eq_some h, List.find?_some h⟩

@[simp] theorem mem_findMany {p : ρ → Bool} {rows : List ρ} {r : ρ} :
    r ∈ findMany p rows ↔ r ∈ rows ∧ p r = true := List.mem_filter

@[simp] theorem mem_create {rows : List ρ} {row r : ρ} :
    r ∈ create row rows ↔ r ∈ rows ∨ r = row := by
  simp [create]

@[simp] theorem mem_deleteMany {p : ρ → Bool} {rows : List ρ} {r : ρ} :
    r ∈ deleteMany p rows ↔ r ∈ rows ∧ p r = false := by
  simp [deleteMany]

/-- A row of the updated table is a selected row rewritten or a row left alone. -/
theorem mem_updateMany {p : ρ → Bool} {f : ρ → ρ} {rows : List ρ} {r : ρ} :
    r ∈ updateMany p f rows ↔
      (∃ r₀ ∈ rows, p r₀ = true ∧ f r₀ = r) ∨ (r ∈ rows ∧ p r = false) := by
  simp only [updateMany, List.mem_map]
  constructor
  · rintro ⟨r₀, h₀, h⟩
    cases hp : p r₀ with
    | true => exact Or.inl ⟨r₀, h₀, hp, by simpa [hp] using h⟩
    | false =>
        have : r₀ = r := by simpa [hp] using h
        exact Or.inr ⟨this ▸ h₀, this ▸ hp⟩
  · rintro (⟨r₀, h₀, hp, h⟩ | ⟨h₀, hp⟩)
    · exact ⟨r₀, h₀, by simpa [hp] using h⟩
    · exact ⟨r, h₀, by simp [hp]⟩

/-- **The update rule.**  A property of all rows survives an update whose
rewriting keeps it on the selected rows. -/
theorem forall_mem_updateMany {P : ρ → Prop} {p : ρ → Bool} {f : ρ → ρ} {rows : List ρ}
    (h : ∀ r ∈ rows, P r) (hf : ∀ r ∈ rows, p r = true → P (f r)) :
    ∀ r ∈ updateMany p f rows, P r := by
  intro r hr
  rcases mem_updateMany.1 hr with ⟨r₀, h₀, hp, rfl⟩ | ⟨h₀, _⟩
  · exact hf r₀ h₀ hp
  · exact h r h₀

/-! ### Looking a row up after a write -/

/-- What a lookup finds after a row is added: the row found before, or the new one. -/
theorem findUnique_create (p : ρ → Bool) (row : ρ) (rows : List ρ) :
    findUnique p (create row rows) =
      (findUnique p rows).or (if p row then some row else none) := by
  rw [findUnique, findUnique, create, List.find?_append, List.find?_singleton]

/-- **The update rule for lookups.**  When an update selects only rows the
lookup selects and does not take them out of it, the lookup finds the row it
found before, rewritten if it was selected. -/
theorem findUnique_updateOne {p q : ρ → Bool} {f : ρ → ρ} (hp : ∀ r, p r = true → q r = true)
    (hf : ∀ r, p r = true → q (f r) = true) (rows : List ρ) :
    findUnique q (updateOne p f rows) =
      (findUnique q rows).map fun r => if p r then f r else r := by
  induction rows with
  | nil => rfl
  | cons r rows ih =>
      rw [updateOne]
      by_cases hpr : p r = true
      · simp [findUnique, hpr, hp r hpr, hf r hpr]
      · by_cases hqr : q r = true
        · simp [findUnique, hpr, hqr]
        · simpa [findUnique, hpr, hqr] using ih

/-- The other lookups find what they found. -/
theorem findUnique_updateOne_of_disjoint {p q : ρ → Bool} {f : ρ → ρ}
    (hp : ∀ r, p r = true → q r = false) (hf : ∀ r, p r = true → q (f r) = false)
    (rows : List ρ) : findUnique q (updateOne p f rows) = findUnique q rows := by
  induction rows with
  | nil => rfl
  | cons r rows ih =>
      rw [updateOne]
      by_cases hpr : p r = true
      · simp [findUnique, hpr, hp r hpr, hf r hpr]
      · by_cases hqr : q r = true
        · simp [findUnique, hpr, hqr]
        · simpa [findUnique, hpr, hqr] using ih

/-- **The update rule for lookups by a key:** the update of the row of a key
rewrites what the lookup of that key finds, and no other lookup. -/
theorem findUnique_updateOne_key {κ : Type*} [DecidableEq κ] (key : ρ → κ) {k j : κ} {f : ρ → ρ}
    (hf : ∀ r, key r = k → key (f r) = k) (rows : List ρ) :
    findUnique (fun r => decide (key r = j)) (updateOne (fun r => decide (key r = k)) f rows) =
      if j = k then (findUnique (fun r => decide (key r = k)) rows).map f
      else findUnique (fun r => decide (key r = j)) rows := by
  by_cases hk : j = k
  · subst hk
    rw [if_pos rfl]
    refine (findUnique_updateOne (fun _ h => h) (fun r hr => ?_) rows).trans
      (Option.map_congr fun r hr => ?_)
    · exact decide_eq_true (hf r (of_decide_eq_true hr))
    · rw [if_pos (findUnique_some hr).2]
  · rw [if_neg hk]
    refine findUnique_updateOne_of_disjoint (fun r hr => ?_) (fun r hr => ?_) rows
    · simp [of_decide_eq_true hr, Ne.symm hk]
    · simp [hf r (of_decide_eq_true hr), Ne.symm hk]

/-- The condition `q` selects one row at most, so a lookup finds any row it selects. -/
theorem findUnique_of_pairwise {p : ρ → Bool} {rows : List ρ} {r : ρ}
    (h : rows.Pairwise fun x y => ¬ (p x = true ∧ p y = true)) (hr : r ∈ rows) (hp : p r = true) :
    findUnique p rows = some r := by
  induction rows with
  | nil => cases hr
  | cons x rows ih =>
      obtain ⟨hx, hrows⟩ := List.pairwise_cons.1 h
      rcases List.mem_cons.1 hr with rfl | hmem
      · simp [findUnique, hp]
      · have hpx : ¬ p x = true := fun hpx => hx r hmem ⟨hpx, hp⟩
        simpa [findUnique, hpx] using ih hrows hmem

/-- A further condition that the row found meets changes nothing. -/
theorem updateOne_and {p q : ρ → Bool} {f : ρ → ρ} {rows : List ρ} {r : ρ}
    (h : findUnique p rows = some r) (hq : q r = true) :
    updateOne (fun x => p x && q x) f rows = updateOne p f rows := by
  induction rows with
  | nil => rfl
  | cons x rows ih =>
      by_cases hx : p x = true
      · obtain rfl : x = r := by simpa [findUnique, hx] using h
        simp [updateOne, hx, hq]
      · have hrows : findUnique p rows = some r := by simpa [findUnique, hx] using h
        simp [updateOne, hx, ih hrows]

/-- **The undo rule:** an update that puts the row found back undoes the one before it. -/
theorem updateOne_undo {p : ρ → Bool} {f g : ρ → ρ} {rows : List ρ} {r : ρ}
    (h : findUnique p rows = some r) (hp : p (f r) = true) (hg : g (f r) = r) :
    updateOne p g (updateOne p f rows) = rows := by
  induction rows with
  | nil => rfl
  | cons x rows ih =>
      by_cases hx : p x = true
      · obtain rfl : x = r := by simpa [findUnique, hx] using h
        simp [updateOne, hx, hp, hg]
      · have hrows : findUnique p rows = some r := by simpa [findUnique, hx] using h
        simp [updateOne, hx, ih hrows]

/-- The deletion of the row just created undoes its creation. -/
theorem deleteMany_create {q : ρ → Bool} {rows : List ρ} {row : ρ} (h : ∀ r ∈ rows, q r = false)
    (hrow : q row = true) : deleteMany q (create row rows) = rows := by
  have hkeep : rows.filter (fun r => !q r) = rows :=
    List.filter_eq_self.2 fun r hr => by simp [h r hr]
  simp [deleteMany, create, List.filter_append, hkeep, hrow]

/-- A row of a table with one row updated is that row rewritten or a row left alone. -/
theorem mem_updateOne {p : ρ → Bool} {f : ρ → ρ} {rows : List ρ} {r : ρ}
    (h : r ∈ updateOne p f rows) : (∃ r₀, findUnique p rows = some r₀ ∧ r = f r₀) ∨ r ∈ rows := by
  induction rows with
  | nil => exact Or.inr h
  | cons x rows ih =>
      by_cases hx : p x = true
      · rw [updateOne, if_pos hx] at h
        rcases List.mem_cons.1 h with rfl | hmem
        · exact Or.inl ⟨x, by simp [findUnique, hx], rfl⟩
        · exact Or.inr (List.mem_cons_of_mem _ hmem)
      · rw [updateOne, if_neg hx] at h
        rcases List.mem_cons.1 h with rfl | hmem
        · exact Or.inr (List.mem_cons_self ..)
        · rcases ih hmem with ⟨r₀, hfind, rfl⟩ | hold
          · exact Or.inl ⟨r₀, by simpa [findUnique, hx] using hfind, rfl⟩
          · exact Or.inr (List.mem_cons_of_mem _ hold)

/-- Where any two rows are related, an updated table holds the row found, rewritten,
and rows related to it as it was. -/
theorem mem_updateOne_of_pairwise {R : ρ → ρ → Prop} (hsymm : ∀ x y, R x y → R y x)
    {p : ρ → Bool} {f : ρ → ρ} {rows : List ρ} {r x : ρ} (h : rows.Pairwise R)
    (hr : findUnique p rows = some r) (hx : x ∈ updateOne p f rows) :
    x = f r ∨ x ∈ rows ∧ R r x := by
  induction rows with
  | nil => cases hr
  | cons y rows ih =>
      obtain ⟨hy, hrows⟩ := List.pairwise_cons.1 h
      by_cases hp : p y = true
      · obtain rfl : y = r := by simpa [findUnique, hp] using hr
        rw [updateOne, if_pos hp] at hx
        rcases List.mem_cons.1 hx with rfl | hmem
        · exact Or.inl rfl
        · exact Or.inr ⟨List.mem_cons_of_mem _ hmem, hy x hmem⟩
      · have hr' : findUnique p rows = some r := by simpa [findUnique, hp] using hr
        rw [updateOne, if_neg hp] at hx
        rcases List.mem_cons.1 hx with rfl | hmem
        · exact Or.inr ⟨List.mem_cons_self .., hsymm _ _ (hy r (findUnique_some hr').1)⟩
        · exact (ih hrows hr' hmem).imp_right fun h => ⟨List.mem_cons_of_mem _ h.1, h.2⟩

/-- **The update rule for a relation between any two rows:** it is to be shown of
the row rewritten and each other row. -/
theorem pairwise_updateOne {R : ρ → ρ → Prop} (hsymm : ∀ x y, R x y → R y x) {p : ρ → Bool}
    {f : ρ → ρ} {rows : List ρ} (h : rows.Pairwise R)
    (hf : ∀ r, findUnique p rows = some r → ∀ x ∈ rows, R r x → R (f r) x) :
    (updateOne p f rows).Pairwise R := by
  induction rows with
  | nil => exact h
  | cons x rows ih =>
      obtain ⟨hx, hrows⟩ := List.pairwise_cons.1 h
      by_cases hpx : p x = true
      · rw [updateOne, if_pos hpx]
        refine List.pairwise_cons.2 ⟨fun y hy => ?_, hrows⟩
        exact hf x (by simp [findUnique, hpx]) y (List.mem_cons_of_mem _ hy) (hx y hy)
      · have hfind : ∀ r, findUnique p rows = some r → findUnique p (x :: rows) = some r :=
          fun r hr => by simpa [findUnique, hpx] using hr
        rw [updateOne, if_neg hpx]
        refine List.pairwise_cons.2 ⟨fun y hy => ?_, ih hrows fun r hr y hy =>
          hf r (hfind r hr) y (List.mem_cons_of_mem _ hy)⟩
        rcases mem_updateOne hy with ⟨r, hr, rfl⟩ | hmem
        · refine hsymm _ _ (hf r (hfind r hr) x (List.mem_cons_self ..) (hsymm _ _ ?_))
          exact hx r (findUnique_some hr).1
        · exact hx y hmem

/-! ### Counting after a write -/

/-- A created row counts when it is selected. -/
theorem count_create (p : ρ → Bool) (row : ρ) (rows : List ρ) :
    count p (create row rows) = count p rows + if p row then 1 else 0 := by
  simp [count, create, List.countP_singleton]

/-- A deletion takes out of the count the rows both conditions select. -/
theorem count_deleteMany (p q : ρ → Bool) (rows : List ρ) :
    count p (deleteMany q rows) + count (fun r => p r && q r) rows = count p rows := by
  induction rows with
  | nil => rfl
  | cons r rows ih =>
      simp only [count, deleteMany, List.countP_cons, List.filter_cons] at ih ⊢
      cases hq : q r <;> cases hp : p r <;> simp [hp] <;> omega

/-- The deletion of one row takes that row out of the count. -/
theorem count_deleteOne {p q : ρ → Bool} {rows : List ρ} {r : ρ}
    (h : findUnique q rows = some r) :
    count p (deleteOne q rows) + (if p r then 1 else 0) = count p rows := by
  induction rows with
  | nil => cases h
  | cons x rows ih =>
      by_cases hx : q x = true
      · obtain rfl : x = r := by simpa [findUnique, hx] using h
        simp [deleteOne, hx, count, List.countP_cons]
      · have hrows : findUnique q rows = some r := by simpa [findUnique, hx] using h
        have := ih hrows
        simp only [deleteOne, count, List.countP_cons, List.eraseP_cons, hx, cond_false] at this ⊢
        omega

/-- **The update rule for counts.**  An update of one row moves the count by what
it does to that row. -/
theorem count_updateOne {p q : ρ → Bool} {f : ρ → ρ} {rows : List ρ} {r : ρ}
    (h : findUnique q rows = some r) :
    count p (updateOne q f rows) + (if p r then 1 else 0) =
      count p rows + if p (f r) then 1 else 0 := by
  induction rows with
  | nil => cases h
  | cons x rows ih =>
      by_cases hx : q x = true
      · obtain rfl : x = r := by simpa [findUnique, hx] using h
        simp only [updateOne, hx, if_true, count, List.countP_cons]
        omega
      · have hrows : findUnique q rows = some r := by simpa [findUnique, hx] using h
        have := ih hrows
        simp only [updateOne, hx, count, List.countP_cons] at this ⊢
        simp only [Bool.false_eq_true, if_false, List.countP_cons]
        omega

end Table
