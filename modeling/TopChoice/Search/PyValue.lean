/-
# Values of a document, read by name

`apps/search-svc/app/services/transformer.py`: the helpers that look a value up
along a path of keys (`_get`) and bring it to a type (`_to_int`, `_to_float`,
`_to_bool`, `_clean_text`, `_to_iso`, `_dedupe`).

A number of a document is a double already, so `float()` leaves it as it is; an
`int` and the `float` of the same value are one number.  What Python reads out of
a text, writes for a date and computes in floating point is a parameter
(`Python`), as is the text of a value that is no text.
-/

import Mathlib.Data.Rat.Cast.Defs
import TopChoice.Search.Source

namespace TopChoice
namespace Search

/-- A value of a document; a `datetime` is in milliseconds, in UTC. -/
inductive PyValue where
  | null
  | bool (b : Bool)
  | num (q : ℚ)
  | str (s : String)
  | datetime (ms : ℕ)
  | objectId (hex : String)
  | list (values : List PyValue)
  | dict (items : List (String × PyValue))

/-- What Python computes on texts, dates and floating-point numbers. -/
structure Python where
  /-- `str`, of a value that is no text. -/
  str : PyValue → String
  /-- `float`, of a text. -/
  float : String → Option ℚ
  /-- `int`, of a text. -/
  int : String → Option ℤ
  /-- `str.lower`. -/
  lower : String → String
  /-- The ASCII characters of the NFKD form. -/
  asciiOnly : String → String
  /-- `datetime.isoformat` with a `Z`, of a time in milliseconds. -/
  isoformat : ℚ → String
  /-- `datetime.fromisoformat`, in milliseconds; a time without a zone is in UTC. -/
  fromisoformat : String → Option ℤ
  /-- `int(round(price / area_sqm))`. -/
  pricePerMeter : ℚ → ℚ → ℤ
  /-- `int(round(price * down_payment_percent / 100.0))`. -/
  downPaymentAmount : ℚ → ℚ → ℤ
  /-- `round(haversine_km(lat1, lng1, lat2, lng2), 2)`. -/
  distanceKm : ℚ → ℚ → ℚ → ℚ → ℚ

namespace PyValue

/-- `source.get(key)`, of a mapping. -/
def get (source : PyValue) (key : String) : PyValue :=
  match source with
  | .dict items => (items.lookup key).getD .null
  | _ => .null

/-- `source.get(key, default)`, of a mapping. -/
def getOr (source : PyValue) (key : String) (default : PyValue) : PyValue :=
  match source with
  | .dict items => (items.lookup key).getD default
  | _ => default

/-- `_get`. -/
def getPath (current : PyValue) (path : List String) (default : PyValue) : PyValue :=
  match path, current with
  | [], .null => default
  | [], current => current
  | key :: path, .dict items =>
      match (items.lookup key).getD .null with
      | .null => default
      | current => getPath current path default
  | _ :: _, _ => default

/-- `bool(value)`. -/
def truthy : PyValue → Bool
  | .null => false
  | .bool b => b
  | .num q => q ≠ 0
  | .str s => s ≠ ""
  | .datetime _ => true
  | .objectId _ => true
  | .list values => !values.isEmpty
  | .dict items => !items.isEmpty

/-- `value or other`. -/
def or (value other : PyValue) : PyValue := if value.truthy then value else other

/-- The elements of a list. -/
def elements : PyValue → List PyValue
  | .list values => values
  | _ => []

/-- `isinstance(value, Mapping)`. -/
def isMapping : PyValue → Bool
  | .dict _ => true
  | _ => false

@[simp] theorem elements_or_list (values : List PyValue) :
    ((list values).or (.list [])).elements = values := by
  cases values <;> rfl

/-- A text or `None`. -/
def ofText : Option String → PyValue
  | none => .null
  | some s => .str s

/-- Two texts are not written as one value. -/
theorem ofText_injective : Function.Injective ofText := by
  rintro (_ | s) (_ | t) h
  · rfl
  · cases h
  · cases h
  · exact congrArg some (PyValue.str.inj h)

/-- A number or `None`. -/
def ofNumber : Option ℚ → PyValue
  | none => .null
  | some q => .num q

/-- An `int` or `None`. -/
def ofInt (n : Option ℤ) : PyValue := ofNumber (n.map fun n => n)

@[simp] theorem ofInt_some (n : ℤ) : ofInt (some n) = .num n := rfl

end PyValue

/-- `int(round(value))`: halves go to the even neighbour. -/
def pyRound (value : ℚ) : ℤ :=
  let below := value.floor
  if value - below < 1 / 2 then below
  else if 1 / 2 < value - below then below + 1
  else if below % 2 = 0 then below
  else below + 1

/-- An integer is its own rounding. -/
@[simp] theorem pyRound_intCast (n : ℤ) : pyRound n = n := by
  have hhalf : (n : ℚ) - n < 1 / 2 := by
    rw [sub_self]
    decide +kernel
  rw [pyRound, Rat.floor_intCast]
  exact if_pos hhalf

@[simp] theorem pyRound_natCast (n : ℕ) : pyRound n = n := pyRound_intCast n

namespace Python

variable (py : Python)

/-- `str(value)`. -/
def text : PyValue → String
  | .str s => s
  | value => py.str value

/-- `float(value)`, `none` where it raises. -/
def asFloat : PyValue → Option ℚ
  | .num q => some q
  | .str s => py.float s
  | .bool b => some (if b then 1 else 0)
  | _ => none

/-- `_to_float`. -/
def toFloat (default : Option ℚ) : PyValue → Option ℚ
  | .num q => some q
  | .str s => (py.float s).or default
  | _ => default

/-- `_to_int`. -/
def toInt (default : Option ℤ) : PyValue → Option ℤ
  | .num q => some (pyRound q)
  | .str s => ((py.float s).map pyRound).or default
  | _ => default

/-- `_to_bool`, where the default is `False`. -/
def toBool : PyValue → Bool
  | .bool b => b
  | .str s => py.lower (strip s) ∈ ["1", "true", "yes", "y"]
  | .num q => q ≠ 0
  | _ => false

/-- `_clean_text`. -/
def cleanText : PyValue → Option String
  | .null => none
  | .str s => Search.cleanText (some s)
  | value => Search.cleanText (some (py.str value))

/-- `_to_iso`. -/
def toIso : PyValue → Option String
  | .null => none
  | .datetime ms => some (py.isoformat ms)
  | .num q => some (py.isoformat q)
  | .str s => Search.cleanText (some s)
  | value => Search.cleanText (some (py.str value))

/-- `_year_of`. -/
def yearOf (isoValue : Option String) : Option ℤ :=
  isoValue.bind fun iso =>
    if iso.toList.length < 4 then none else py.int (String.ofList (iso.toList.take 4))

/-- `_is_past`. -/
def isPast (isoValue : Option String) (now : ℕ) : Bool :=
  match isoValue.filter fun iso => iso ≠ "" with
  | none => false
  | some iso =>
    let candidate := iso.toList.flatMap fun c => if c = 'Z' then "+00:00".toList else [c]
    match (py.fromisoformat (String.ofList candidate)).or
        (py.fromisoformat (String.ofList (candidate.take 10))) with
    | none => false
    | some parsed => parsed ≤ now

/-- The loop of `_dedupe`: the texts not seen before, in their order. -/
def dedupeFrom (seen : List String) : List PyValue → List String
  | [] => []
  | value :: values =>
      match py.cleanText value with
      | none => dedupeFrom seen values
      | some text =>
          if text ∈ seen then dedupeFrom seen values
          else text :: dedupeFrom (text :: seen) values

/-- `_dedupe`. -/
def dedupe (values : List PyValue) : List String := py.dedupeFrom [] values

/-- `slugify`. -/
def slugify (value : Option String) : Option String :=
  match value.filter fun text => text ≠ "" with
  | none => none
  | some text =>
    let lower := (py.lower (py.asciiOnly text)).toList
    let slug := ((dashRuns lower).dropWhile (· = '-')).rdropWhile (· = '-')
    if slug = [] then none else some (String.ofList slug)

/-! ### What the helpers do to the values of a listing -/

variable (default : Option ℤ)

@[simp] theorem toInt_intCast (n : ℤ) : py.toInt default (.num n) = some n := by
  rw [toInt, pyRound_intCast]

@[simp] theorem toBool_bool (b : Bool) : py.toBool (.bool b) = b := rfl

@[simp] theorem cleanText_str (s : String) : py.cleanText (.str s) = Search.cleanText (some s) :=
  rfl

/-- What the loop keeps: texts it had not seen, each once. -/
theorem nodup_dedupeFrom (values : List PyValue) : ∀ seen : List String,
    (py.dedupeFrom seen values).Nodup ∧ ∀ text ∈ py.dedupeFrom seen values, text ∉ seen := by
  induction values with
  | nil => exact fun seen => ⟨List.nodup_nil, fun _ h => (nomatch h)⟩
  | cons value values ih =>
      intro seen
      rw [dedupeFrom]
      cases py.cleanText value with
      | none => exact ih seen
      | some text =>
          simp only
          split_ifs with hseen
          · exact ih seen
          · obtain ⟨hnodup, hnew⟩ := ih (text :: seen)
            refine ⟨List.nodup_cons.2 ⟨fun h => hnew text h (List.mem_cons_self ..), hnodup⟩, ?_⟩
            intro other hother
            rcases List.mem_cons.1 hother with rfl | hother
            · exact hseen
            · exact fun h => hnew other hother (List.mem_cons_of_mem _ h)

/-- The loop keeps the order of the texts. -/
theorem dedupeFrom_sublist (values : List PyValue) : ∀ seen : List String,
    (py.dedupeFrom seen values).Sublist (values.filterMap py.cleanText) := by
  induction values with
  | nil => exact fun seen => List.Sublist.refl _
  | cons value values ih =>
      intro seen
      rw [dedupeFrom, List.filterMap_cons]
      cases py.cleanText value with
      | none => exact ih seen
      | some text =>
          simp only
          split_ifs
          · exact (ih seen).cons _
          · exact (ih _).cons_cons _

/-- The loop drops no text it has not seen. -/
theorem mem_dedupeFrom {text : String} {values : List PyValue}
    (h : text ∈ values.filterMap py.cleanText) :
    ∀ {seen : List String}, text ∉ seen → text ∈ py.dedupeFrom seen values := by
  induction values with
  | nil => exact (nomatch h)
  | cons value values ih =>
      intro seen hseen
      rw [List.filterMap_cons] at h
      rw [dedupeFrom]
      cases hvalue : py.cleanText value with
      | none =>
          rw [hvalue] at h
          exact ih h hseen
      | some found =>
          rw [hvalue] at h
          by_cases hfirst : text = found
          · simp [← hfirst, hseen]
          · have h := (List.mem_cons.1 h).resolve_left hfirst
            simp only
            split_ifs
            · exact ih h hseen
            · exact List.mem_cons_of_mem _ (ih h (by simp [hfirst, hseen]))

end Python

end Search
end TopChoice
