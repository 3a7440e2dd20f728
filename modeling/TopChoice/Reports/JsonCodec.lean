/-
# The JSON codec of the reports

`normalize`, `camelize`, `encode` and `decode` of `apps/reports-svc/lib/json_codec.rb`, on the
values a payload is built of.  A time is the fields it has in UTC, its own offset, which `utc`
drops, is left out; a `Float` is its 64 bits.  The conversions of numbers to `Float`, and the
letters of Unicode, are a parameter (`Conversions`), and so is the JSON library, whose parser
undoes its generator on plain values (`JsonLibrary.Lawful`).

What is normalised is plain (`plain_normalize`), with every key there once, however many keys of
the payload are rewritten to the same one; and what is plain is normalised to itself
(`normalize_of_plain`).
-/

import Mathlib.Data.List.DropRight
import Mathlib.Data.Rat.Floor
import TopChoice.Lib.OrderedHash

namespace TopChoice
namespace Reports
namespace JsonCodec

/-! ### Values -/

/-- `Float`. -/
structure RubyFloat where
  bits : UInt64
  deriving DecidableEq, Repr

/-- `Float#finite?`: not all bits of the exponent are set. -/
def RubyFloat.isFinite (f : RubyFloat) : Bool := (f.bits >>> 52) &&& 0x7ff ≠ 0x7ff

/-- `BigDecimal`. -/
inductive BigDecimal where
  | finite (coefficient exponent : ℤ)
  | negativeZero
  | infinite (negative : Bool)
  | nan
  deriving DecidableEq, Repr

/-- `Date`. -/
structure Date where
  year : ℤ
  month : ℕ
  day : ℕ
  deriving DecidableEq, Repr

/-- `Time`, and `DateTime`, in UTC. -/
structure Time where
  date : Date
  hour : ℕ
  minute : ℕ
  second : ℕ
  subsec : ℚ
  deriving DecidableEq, Repr

/-- A key of a hash. -/
inductive RubyKey where
  | symbol (name : String)
  | string (s : String)
  | int (n : ℤ)
  deriving DecidableEq, Repr

/-- A value of a payload. -/
inductive RubyValue where
  | nil
  | bool (b : Bool)
  | int (n : ℤ)
  | float (f : RubyFloat)
  | string (s : String)
  | symbol (name : String)
  | bigDecimal (d : BigDecimal)
  | rational (q : ℚ)
  | time (t : Time)
  | dateTime (t : Time)
  | date (d : Date)
  | array (values : List RubyValue)
  | hash (entries : List (RubyKey × RubyValue))

/-- `String#upcase`, of one letter, and `to_f`. -/
structure Conversions where
  upcase : Char → String
  bigDecimalToF : BigDecimal → RubyFloat
  rationalToF : ℚ → RubyFloat

/-! ### Dates -/

/-- A number with leading zeros. -/
def padded (width n : ℕ) : String := String.ofList ((Nat.toDigits 10 n).leftpad width '0')

/-- `Date#iso8601`. -/
def Date.iso8601 (d : Date) : String :=
  (if d.year < 0 then "-" else "") ++ padded 4 d.year.natAbs ++ "-" ++ padded 2 d.month ++ "-" ++
    padded 2 d.day

/-- `utc.iso8601(3)`. -/
def Time.iso8601 (t : Time) : String :=
  t.date.iso8601 ++ "T" ++ padded 2 t.hour ++ ":" ++ padded 2 t.minute ++ ":" ++
    padded 2 t.second ++ "." ++ padded 3 ⌊t.subsec * 1000⌋₊ ++ "Z"

/-! ### Normalising -/

section

variable (ruby : Conversions)

/-- `string.split(/[_-]/)`: the empty parts at the end are dropped. -/
def splitName (string : String) : List (List Char) :=
  (string.toList.splitOnP fun c => c = '_' || c = '-').rdropWhile (· = [])

/-- A part after the first: `part[0].upcase + part[1..]`. -/
def capitalized : List Char → List Char
  | [] => []
  | first :: rest => (ruby.upcase first).toList ++ rest

/-- `camelize`. -/
def camelize (string : String) : String :=
  match splitName string with
  | head :: part :: rest =>
      String.ofList (head ++ ((part :: rest).map (capitalized ruby)).flatten)
  | _ => string

/-- `normalize_key`. -/
def normalizeKey : RubyKey → String
  | .symbol name => camelize ruby name
  | .string key => key
  | .int n => toString n

mutual

/-- `normalize`. -/
def normalize : RubyValue → RubyValue
  | .hash entries => .hash (OrderedHash.ofPairs (normalizeEntries entries))
  | .array values => .array (normalizeAll values)
  | .bigDecimal d => .float (ruby.bigDecimalToF d)
  | .rational q => .float (ruby.rationalToF q)
  | .time t => .string t.iso8601
  | .dateTime t => .string t.iso8601
  | .date d => .string d.iso8601
  | .symbol name => .string name
  | .nil => .nil
  | .bool b => .bool b
  | .int n => .int n
  | .float f => .float f
  | .string s => .string s

/-- The values of an array. -/
def normalizeAll : List RubyValue → List RubyValue
  | [] => []
  | value :: values => normalize value :: normalizeAll values

/-- What is stored for the entries of a hash, in turn. -/
def normalizeEntries : List (RubyKey × RubyValue) → List (RubyKey × RubyValue)
  | [] => []
  | (key, value) :: entries =>
      (.string (normalizeKey ruby key), normalize value) :: normalizeEntries entries

end

end

/-! ### Plain values -/

/-- The values of JSON: every key is a text, and is there once. -/
inductive Plain : RubyValue → Prop
  | nil : Plain .nil
  | bool (b : Bool) : Plain (.bool b)
  | int (n : ℤ) : Plain (.int n)
  | float (f : RubyFloat) : Plain (.float f)
  | string (s : String) : Plain (.string s)
  | array {values : List RubyValue} : (∀ value ∈ values, Plain value) → Plain (.array values)
  | hash {entries : List (RubyKey × RubyValue)} :
      (∀ entry ∈ entries, ∃ key, entry.1 = .string key) →
      (entries.map Prod.fst).Nodup → (∀ entry ∈ entries, Plain entry.2) → Plain (.hash entries)

mutual

/-- The `Float`s of a value. -/
def floats : RubyValue → List RubyFloat
  | .float f => [f]
  | .array values => floatsAll values
  | .hash entries => floatsEntries entries
  | _ => []

/-- The `Float`s of an array. -/
def floatsAll : List RubyValue → List RubyFloat
  | [] => []
  | value :: values => floats value ++ floatsAll values

/-- The `Float`s of a hash. -/
def floatsEntries : List (RubyKey × RubyValue) → List RubyFloat
  | [] => []
  | (_, value) :: entries => floats value ++ floatsEntries entries

end

/-- Neither an infinite number nor `NaN`. -/
def AllFinite (value : RubyValue) : Prop := ∀ f ∈ floats value, f.isFinite = true

section

variable {ruby : Conversions}

theorem normalizeAll_eq_map (values : List RubyValue) :
    normalizeAll ruby values = values.map (normalize ruby) := by
  induction values with
  | nil => rfl
  | cons value values ih => rw [normalizeAll, ih, List.map_cons]

theorem normalizeEntries_eq_map (entries : List (RubyKey × RubyValue)) :
    normalizeEntries ruby entries =
      entries.map fun e => (.string (normalizeKey ruby e.1), normalize ruby e.2) := by
  induction entries with
  | nil => rfl
  | cons entry entries ih =>
    obtain ⟨key, value⟩ := entry
    rw [normalizeEntries, ih, List.map_cons]

/-- **What is normalised is plain.**  By induction on the value; in a hash the entries stored
are entries of the payload, normalised. -/
theorem plain_normalize (value : RubyValue) : Plain (normalize ruby value) := by
  refine RubyValue.rec
    (motive_1 := fun value => Plain (normalize ruby value))
    (motive_2 := fun values => ∀ value ∈ values, Plain (normalize ruby value))
    (motive_3 := fun entries => ∀ entry ∈ entries, Plain (normalize ruby entry.2))
    (motive_4 := fun entry => Plain (normalize ruby entry.2))
    ?nil ?bool ?int ?float ?string ?symbol ?bigDecimal ?rational ?time ?dateTime ?date ?array
    ?hash ?noValue ?values ?noEntry ?entries ?entry value
  case nil => exact .nil
  case bool => exact fun b => .bool b
  case int => exact fun n => .int n
  case float => exact fun f => .float f
  case string => exact fun s => .string s
  case symbol => exact fun name => .string name
  case bigDecimal => exact fun d => .float _
  case rational => exact fun q => .float _
  case time => exact fun t => .string _
  case dateTime => exact fun t => .string _
  case date => exact fun d => .string _
  case array =>
    intro values ih
    rw [normalize, normalizeAll_eq_map]
    refine .array fun value hvalue => ?_
    obtain ⟨payload, hpayload, rfl⟩ := List.mem_map.1 hvalue
    exact ih payload hpayload
  case hash =>
    intro entries ih
    rw [normalize, normalizeEntries_eq_map]
    refine .hash (fun entry hentry => ?_) OrderedHash.nodup_keys_ofPairs fun entry hentry => ?_
    · obtain ⟨stored, -, rfl⟩ := List.mem_map.1 (OrderedHash.mem_of_mem_ofPairs hentry)
      exact ⟨_, rfl⟩
    · obtain ⟨stored, hstored, rfl⟩ := List.mem_map.1 (OrderedHash.mem_of_mem_ofPairs hentry)
      exact ih stored hstored
  case noValue => exact fun value hvalue => absurd hvalue List.not_mem_nil
  case values =>
    intro first values hfirst ih value hvalue
    obtain rfl | hvalue := List.mem_cons.1 hvalue
    · exact hfirst
    · exact ih value hvalue
  case noEntry => exact fun entry hentry => absurd hentry List.not_mem_nil
  case entries =>
    intro first entries hfirst ih entry hentry
    obtain rfl | hentry := List.mem_cons.1 hentry
    · exact hfirst
    · exact ih entry hentry
  case entry => exact fun key value hvalue => hvalue

/-- **What is plain stays as it is.**  In a hash its entries are stored in order, each under a
key of its own. -/
theorem normalize_of_plain {value : RubyValue} (h : Plain value) :
    normalize ruby value = value := by
  induction h with
  | nil => rfl
  | bool b => rfl
  | int n => rfl
  | float f => rfl
  | string s => rfl
  | @array values _ ih =>
    rw [normalize, normalizeAll_eq_map]
    exact congrArg _ ((List.map_congr_left ih).trans (List.map_id _))
  | @hash entries hkeys hnodup _ ih =>
    have hentries : normalizeEntries ruby entries = entries := by
      rw [normalizeEntries_eq_map]
      refine (List.map_congr_left fun entry hentry => ?_).trans (List.map_id _)
      obtain ⟨key, hkey⟩ := hkeys entry hentry
      rw [hkey, normalizeKey, ih entry hentry, ← hkey]
      rfl
    rw [normalize, hentries, OrderedHash.ofPairs_of_nodup hnodup]

/-- `normalize` is idempotent. -/
theorem normalize_normalize (value : RubyValue) :
    normalize ruby (normalize ruby value) = normalize ruby value :=
  normalize_of_plain (plain_normalize value)

end

/-! ### Texts -/

/-- `JSON::GeneratorError`. -/
structure GeneratorError where
  message : String
  deriving DecidableEq, Repr

/-- `JSON::ParserError`. -/
structure ParserError where
  message : String
  deriving DecidableEq, Repr

/-- `JSON`. -/
structure JsonLibrary where
  generate : RubyValue → Except GeneratorError String
  parse : String → Except ParserError RubyValue

/-- What it documents of plain values: the parser reads back what is generated, and an infinite
number or `NaN` raises. -/
structure JsonLibrary.Lawful (json : JsonLibrary) : Prop where
  parse_generate : ∀ {value : RubyValue} {text : String}, Plain value → AllFinite value →
    json.generate value = .ok text → json.parse text = .ok value
  allFinite : ∀ {value : RubyValue} {text : String}, Plain value →
    json.generate value = .ok text → AllFinite value

section

variable (ruby : Conversions) (json : JsonLibrary)

/-- `encode`. -/
def encode (value : RubyValue) : Except GeneratorError String :=
  json.generate (normalize ruby value)

/-- `decode`. -/
def decode (string : String) : Except ParserError RubyValue := json.parse string

theorem encode_normalize (value : RubyValue) :
    encode ruby json (normalize ruby value) = encode ruby json value := by
  rw [encode, encode, normalize_normalize]

variable {ruby json}

/-- **What is encoded is decoded** to the payload, normalised. -/
theorem decode_encode (hjson : json.Lawful) {value : RubyValue} {text : String}
    (h : encode ruby json value = .ok text) : decode json text = .ok (normalize ruby value) :=
  hjson.parse_generate (plain_normalize value) (hjson.allFinite (plain_normalize value) h) h

/-- What is decoded is encoded to the same text. -/
theorem encode_decode_encode (hjson : json.Lawful) {value : RubyValue} {text : String}
    (h : encode ruby json value = .ok text) :
    ∃ decoded, decode json text = .ok decoded ∧ encode ruby json decoded = .ok text :=
  ⟨normalize ruby value, decode_encode hjson h, (encode_normalize ruby json value).trans h⟩

end

end JsonCodec
end Reports
end TopChoice
