/-
# Numbers that are not negative, as `float`

`float(text)`, the product with a whole number, `round` and `int`.  A `float` is the
rational number it stands for, so that each operation is the exact one rounded to 53
bits, ties to the even neighbour.
-/

import Mathlib.Data.Rat.Defs
import TopChoice.Rag.Loaders
import TopChoice.Rag.PyText
import TopChoice.Search.PyValue

namespace TopChoice
namespace Rag

/-- A `float` that is not negative. -/
inductive PyFloat where
  | finite (value : ℚ)
  | inf
  deriving DecidableEq, Repr

namespace PyFloat

/-- A power of two. -/
def twoPow (e : ℤ) : ℚ := mkRat (2 ^ e.toNat) (2 ^ (-e).toNat)

/-- The exponent of the last of the 53 bits of a number; below the normal numbers that of
the least one. -/
def lastPlace (q : ℚ) : ℤ :=
  let top : ℤ := (Nat.log2 q.num.toNat : ℤ) - Nat.log2 q.den
  max ((if q < twoPow top then top - 1 else top) - 52) (-1074)

/-- The nearest `float`. -/
def nearest (q : ℚ) : PyFloat :=
  let value := Search.pyRound (q / twoPow (lastPlace q)) * twoPow (lastPlace q)
  if twoPow 1024 ≤ value then inf else finite value

/-- What the digits are worth. -/
def digitsValue (u : Unicode) (digits : List Char) : Option ℕ :=
  digits.foldlM (fun n c => (u.decimal c).map (10 * n + ·)) 0

/-- `float(text)`, of a text of digits and points; `none` is a `ValueError`. -/
def ofText (u : Unicode) (text : List Char) : Option PyFloat :=
  match text.splitOn '.' with
  | [whole] =>
      if whole = [] then none else (digitsValue u whole).map fun n => nearest n
  | [whole, decimals] =>
      if whole ++ decimals = [] then none
      else (digitsValue u (whole ++ decimals)).map fun n => nearest (mkRat n (10 ^ decimals.length))
  | _ => none

/-- The product with a positive whole number. -/
def mul : PyFloat → ℕ → PyFloat
  | finite value, n => nearest (value * n)
  | inf, _ => inf

/-- What a conversion of infinity raises. -/
def overflow : Raised := ⟨"OverflowError", "cannot convert float infinity to integer"⟩

/-- `round(value)`. -/
def round : PyFloat → Except Raised ℤ
  | finite value => .ok (Search.pyRound value)
  | inf => .error overflow

/-- `int(value)`. -/
def toInt : PyFloat → Except Raised ℤ
  | finite value => .ok value.floor
  | inf => .error overflow

/-- `number <= value`. -/
def atLeast (number : ℕ) : PyFloat → Bool
  | finite value => decide (number ≤ value)
  | inf => true

end PyFloat

end Rag
end TopChoice
