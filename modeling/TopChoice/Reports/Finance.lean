/-
# The arguments and the money of the calculators

What the calculators of `apps/reports-svc/lib/finance.rb` share: the arguments as they come out
of a request body, their validation, and money rounded to piastres.  A `BigDecimal` is a
rational number here; sums, differences and products of them are exact.  Quotients and powers
are not, so both are parameters (`Decimals`).

`to_f`, with which an amount leaves the service, is left out: an amount is given as the decimal
it is a `Float` of.
-/

import Mathlib.Data.Rat.Floor
import TopChoice.Lib.Fallible
import TopChoice.Lib.HalfUp
import TopChoice.Reports.TimeRange

namespace TopChoice
namespace Reports
namespace Finance

open HalfUp

/-! ### Decimals -/

/-- The operations of `BigDecimal` that round: a quotient has fifteen correct digits or more. -/
structure Decimals where
  div : ℚ → ℚ → ℚ
  power : ℚ → ℕ → ℚ
  div_close : ∀ a b, |div a b - a / b| ≤ |a / b| / 10 ^ 15

/-- The operations without rounding. -/
def Decimals.exact : Decimals where
  div a b := a / b
  power base exponent := base ^ exponent
  div_close a b := by
    rw [sub_self, abs_zero]
    positivity

theorem Decimals.nonneg_div (decimals : Decimals) {a b : ℚ} (ha : 0 ≤ a) (hb : 0 ≤ b) :
    0 ≤ decimals.div a b := by
  have hq : 0 ≤ a / b := div_nonneg ha hb
  have hclose := (abs_le.1 (decimals.div_close a b)).1
  rw [abs_of_nonneg hq] at hclose
  linarith

/-- `SCALE`. -/
def scale : ℕ := 2

/-- `round_money`. -/
def roundMoney (value : ℚ) : ℚ := toGrid (10 ^ scale) value

/-- Whole piastres. -/
abbrev InPiastres (value : ℚ) : Prop := OnGrid (10 ^ scale) value

/-- `to_money`, before `to_f`. -/
def toMoney (value : ℚ) : ℚ := roundMoney value

/-- `ratio`, before `to_f`. -/
def Decimals.ratio (decimals : Decimals) (numerator denominator : ℚ) : ℚ :=
  if denominator = 0 then 0 else toGrid (10 ^ 4) (decimals.div numerator denominator)

/-- `to_number`, before `to_f`. -/
def toNumber (value : ℚ) : ℚ := if value = ⌊value⌋ then value else toGrid (10 ^ 4) value

theorem roundMoney_inPiastres (value : ℚ) : InPiastres (roundMoney value) := toGrid_onGrid _ value

theorem roundMoney_eq {value : ℚ} (h : InPiastres value) : roundMoney value = value :=
  OnGrid.toGrid_eq (by decide) h

theorem roundMoney_nonneg {value : ℚ} (h : 0 ≤ value) : 0 ≤ roundMoney value := toGrid_nonneg _ h

theorem roundMoney_nonpos {value : ℚ} (h : value ≤ 0) : roundMoney value ≤ 0 := toGrid_nonpos _ h

theorem roundMoney_mono {value value' : ℚ} (h : value ≤ value') :
    roundMoney value ≤ roundMoney value' :=
  toGrid_mono _ h

/-- Half a piastre. -/
theorem abs_roundMoney_sub_le (value : ℚ) : |roundMoney value - value| ≤ 1 / 200 := by
  have h := abs_toGrid_sub_le (m := 10 ^ scale) (by decide) value
  have hstep : (1 : ℚ) / (2 * (10 ^ scale : ℕ)) = 1 / 200 := by norm_num [scale]
  exact h.trans_eq hstep

/-! ### Arguments -/

/-- A value of a request body. -/
inductive Argument where
  | nil
  | number (value : ℚ)
  | string (text : String)
  | other
  deriving DecidableEq, Repr

/-- `/\A-?\d+(\.\d+)?\z/`, and the number it reads. -/
def decimal? (text : String) : Option ℚ :=
  let digits (cs : List Char) : Option ℕ :=
    if cs ≠ [] ∧ cs.all Char.isDigit then
      some (cs.foldl (fun n c => 10 * n + (c.toNat - '0'.toNat)) 0)
    else none
  let unsigned (cs : List Char) : Option ℚ :=
    match cs.dropWhile (· ≠ '.') with
    | [] => (digits cs).map fun n => (n : ℚ)
    | _ :: fraction =>
      match digits (cs.takeWhile (· ≠ '.')), digits fraction with
      | some n, some f => some (n + f / 10 ^ fraction.length)
      | _, _ => none
  match text.toList with
  | '-' :: cs => (unsigned cs).map fun q => -q
  | cs => unsigned cs

/-- `numeric!`. -/
def numeric (value : Argument) (field : String) : Except ValidationError ℚ :=
  match value with
  | .nil => .error (.field field "is required")
  | .number q => .ok q
  | .string text =>
    if strip text = "" then .error (.field field "is required")
    else
      match decimal? (strip text) with
      | some q => .ok q
      | none => .error (.field field "must be a number")
  | .other => .error (.field field "must be a number")

/-- `MAX_YEARS`. -/
def maxYears : ℤ := 40

/-- `MAX_RATE`. -/
def maxRate : ℚ := 100

/-- `MAX_PRICE`. -/
def maxPrice : ℚ := 100000000000

/-- `validate_price!`. -/
def validatePrice (price : Argument) : Except ValidationError ℚ := do
  let value ← numeric price "price"
  if value ≤ 0 then .error (.field "price" "must be greater than zero")
  else if maxPrice < value then .error (.field "price" "is unrealistically large")
  else .ok value

/-- `validate_percent!`. -/
def validatePercent (percent : Argument) (field : String) : Except ValidationError ℚ := do
  let value ← numeric percent field
  if value < 0 ∨ 100 < value then .error (.field field "must be between 0 and 100")
  else .ok value

/-- `validate_years!`. -/
def validateYears (years : Argument) : Except ValidationError ℕ := do
  let value ← numeric years "years"
  if value ≠ ⌊value⌋ then .error (.field "years" "must be a whole number of years")
  else if ⌊value⌋ ≤ 0 then .error (.field "years" "must be greater than zero")
  else if maxYears < ⌊value⌋ then .error (.field "years" "must not exceed 40")
  else .ok ⌊value⌋.toNat

/-- `validate_rate!`. -/
def validateRate (rate : Argument) : Except ValidationError ℚ := do
  let value ← numeric rate "annualRatePercent"
  if value < 0 then .error (.field "annualRatePercent" "must not be negative")
  else if maxRate < value then .error (.field "annualRatePercent" "must not exceed 100")
  else .ok value

/-- `coerce_date!`; `parse` is `Date.parse`. -/
def coerceDate {δ : Type} (parse : String → Option δ) (value : Argument) (field : String) :
    Except ValidationError δ :=
  match value with
  | .string text =>
    if strip text = "" then .error (.field field "must be an ISO date (YYYY-MM-DD)")
    else
      match parse (strip text) with
      | some date => .ok date
      | none => .error (.field field "must be an ISO date (YYYY-MM-DD)")
  | _ => .error (.field field "must be an ISO date (YYYY-MM-DD)")

section Accepted

variable {value : Argument}

theorem validatePrice_ok {price : ℚ} (h : validatePrice value = .ok price) :
    0 < price ∧ price ≤ maxPrice := by
  obtain ⟨q, -, h⟩ := Fallible.bind_eq_ok.1 h
  split_ifs at h with hlow hhigh
  obtain rfl := Except.ok.inj h
  exact ⟨not_le.1 hlow, not_lt.1 hhigh⟩

theorem validatePercent_ok {field : String} {percent : ℚ}
    (h : validatePercent value field = .ok percent) : 0 ≤ percent ∧ percent ≤ 100 := by
  obtain ⟨q, -, h⟩ := Fallible.bind_eq_ok.1 h
  split_ifs at h with hrange
  obtain rfl := Except.ok.inj h
  exact (not_or.1 hrange).imp not_lt.1 not_lt.1

theorem validateYears_ok {years : ℕ} (h : validateYears value = .ok years) :
    1 ≤ years ∧ (years : ℤ) ≤ maxYears := by
  obtain ⟨q, -, h⟩ := Fallible.bind_eq_ok.1 h
  split_ifs at h with _ hlow hhigh
  obtain rfl := Except.ok.inj h
  omega

theorem validateRate_ok {rate : ℚ} (h : validateRate value = .ok rate) :
    0 ≤ rate ∧ rate ≤ maxRate := by
  obtain ⟨q, -, h⟩ := Fallible.bind_eq_ok.1 h
  split_ifs at h with hlow hhigh
  obtain rfl := Except.ok.inj h
  exact ⟨not_lt.1 hlow, not_lt.1 hhigh⟩

end Accepted

end Finance
end Reports
end TopChoice
