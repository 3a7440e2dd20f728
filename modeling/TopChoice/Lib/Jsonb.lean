/-
# JSON values in a query

The `jsonb` values of PostgreSQL with their operators `->` and `->>`, their order against a
number, and conditions of three values, where an unknown one (`none`) admits nothing.  Values
of different kinds are ordered by their kinds: an empty array, `null`, texts, numbers,
booleans, other arrays, objects.

What `->>` writes for a value that is not a text is a parameter.
-/

import Mathlib.Algebra.Order.Ring.Rat
import Mathlib.Order.Compare

/-- A `jsonb` value; the keys of an object differ. -/
inductive Jsonb where
  | null
  | bool (b : Bool)
  | number (q : ℚ)
  | string (s : String)
  | array (items : List Jsonb)
  | object (entries : List (String × Jsonb))

namespace Jsonb

/-- `value -> 'key'`. -/
def get? (value : Jsonb) (key : String) : Option Jsonb :=
  match value with
  | object entries => entries.lookup key
  | _ => none

/-- `value ->> 'key'`. -/
def text? (written : Jsonb → String) (value : Jsonb) (key : String) : Option String :=
  match value.get? key with
  | none => none
  | some null => none
  | some (string s) => some s
  | some other => some (written other)

/-- A value against a number. -/
def compareNumber (value : Jsonb) (q : ℚ) : Ordering :=
  match value with
  | array [] => .lt
  | null => .lt
  | string _ => .lt
  | number p => compare p q
  | bool _ => .gt
  | array _ => .gt
  | object _ => .gt

/-! ### Conditions -/

/-- `a AND b AND ...`. -/
def allOf : List (Option Bool) → Option Bool
  | [] => some true
  | some true :: conditions => allOf conditions
  | some false :: _ => some false
  | none :: conditions => if allOf conditions = some false then some false else none

/-- `a OR b OR ...`. -/
def anyOf : List (Option Bool) → Option Bool
  | [] => some false
  | some false :: conditions => anyOf conditions
  | some true :: _ => some true
  | none :: conditions => if anyOf conditions = some true then some true else none

/-- **A conjunction holds when all its parts do.** -/
theorem allOf_eq_true {conditions : List (Option Bool)} :
    allOf conditions = some true ↔ ∀ condition ∈ conditions, condition = some true := by
  induction conditions with
  | nil => simp [allOf]
  | cons condition conditions ih =>
    rw [List.forall_mem_cons]
    match condition with
    | some true => rw [allOf, ih, eq_self_iff_true, true_and]
    | some false => simp [allOf]
    | none =>
      rw [allOf]
      split_ifs <;> simp

/-- **A disjunction holds when one of its parts does.** -/
theorem anyOf_eq_true {conditions : List (Option Bool)} :
    anyOf conditions = some true ↔ ∃ condition ∈ conditions, condition = some true := by
  induction conditions with
  | nil => simp [anyOf]
  | cons condition conditions ih =>
    simp only [List.mem_cons, exists_eq_or_imp]
    match condition with
    | some true => simp [anyOf]
    | some false => simp [anyOf, ih]
    | none =>
      rw [anyOf]
      split_ifs with h
      · simpa using ih.1 h
      · simpa using h ∘ ih.2

/-- A number is compared as a number. -/
@[simp] theorem compareNumber_number (p q : ℚ) : (number p).compareNumber q = compare p q := rfl

end Jsonb
