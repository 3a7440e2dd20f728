/-
# What a model replies, read as JSON

`_extract_json` of `apps/rag-svc/app/graph/nodes.py`, and the values it may come to: a
reply is untrusted text, so the parsed value has any shape.  `json.loads` and the
conversions of values to texts and numbers are parameters (`Python`).

A JSON text can spell half of a surrogate pair; such a text is a value like any other
until something has to encode it.
-/

import TopChoice.Rag.Filters
import TopChoice.Rag.PyFloat

namespace TopChoice
namespace Rag

/-- A code point of a Python text: a character, or half of a surrogate pair. -/
inductive CodePoint where
  | char (c : Char)
  | surrogate (unit : ℕ)
  deriving DecidableEq, Repr

/-- A Python text. -/
abbrev PyStr := List CodePoint

/-- A text of characters. -/
def PyStr.ofString (s : String) : PyStr := s.toList.map .char

/-- The text can be encoded. -/
def PyStr.isEncodable (text : PyStr) : Bool := text.all fun
  | .char _ => true
  | .surrogate _ => false

/-- `str.strip`. -/
def PyStr.strip (text : PyStr) : PyStr :=
  let isBlank : CodePoint → Bool
    | .char c => isSpace c
    | .surrogate _ => false
  (text.dropWhile isBlank).rdropWhile isBlank

/-- A JSON value. -/
inductive Json where
  | null
  | bool (b : Bool)
  | int (n : ℤ)
  /-- A `float`; `none` for the infinities and for `nan`. -/
  | float (value : Option ℚ)
  | str (text : PyStr)
  | list (items : List Json)
  | dict (entries : List (PyStr × Json))

namespace Json

/-- A text of characters. -/
def text (s : String) : Json := .str (.ofString s)

/-- The truth of a value. -/
def isTruthy : Json → Bool
  | null => false
  | bool b => b
  | int n => decide (n ≠ 0)
  | float value => decide (value ≠ some 0)
  | str text => !text.isEmpty
  | list items => !items.isEmpty
  | dict entries => !entries.isEmpty

/-- The entries of an object; of anything else none. -/
def entries : Json → List (PyStr × Json)
  | dict entries => entries
  | _ => []

/-- `value.get(key)`. -/
def get? (value : Json) (key : String) : Option Json := value.entries.lookup (.ofString key)

/-- `value.get(key, default)`. -/
def get (value : Json) (key : String) (default : Json) : Json := (value.get? key).getD default

/-- A text or `None`. -/
def ofOption : Option String → Json
  | some s => text s
  | none => null

/-- An object, its keys texts of characters. -/
def object (entries : List (String × Json)) : Json :=
  dict (entries.map fun entry => (.ofString entry.1, entry.2))

/-- `value or {}`. -/
def orEmpty (value : Json) : Json := if value.isTruthy then value else dict []

/-- It is an object. -/
def isDict : Json → Bool
  | dict _ => true
  | _ => false

/-- It can be in a `set`. -/
def isHashable : Json → Bool
  | list _ | dict _ => false
  | _ => true

/-- The elements of what can be iterated over: of an object its keys, of a text its
characters. -/
def items? : Json → Option (List Json)
  | list items => some items
  | dict entries => some (entries.map fun entry => .str entry.1)
  | str text => some (text.map fun c => .str [c])
  | null | bool _ | int _ | float _ => none

end Json

/-- A value of the profile or of the filters, as JSON. -/
def Value.toJson : Value → Json
  | null => .null
  | int n => .int n
  | text s => .text s
  | texts values => .list (values.map .text)

/-- A `dict` as JSON. -/
def Dict.toJson (d : Dict) : Json :=
  .dict (d.entries.map fun entry => (.ofString entry.1, entry.2.toJson))

/-- Why `json.loads` raises. -/
inductive LoadsError where
  /-- `JSONDecodeError`. -/
  | decode
  /-- Too deep, or a number with too many digits. -/
  | other (raised : Raised)

/-- What is taken from Python: `json.loads`, `str` of a value that is no text (which escapes
what cannot be encoded), `isalpha`, and which texts `float` reads. -/
structure Python where
  loads : String → Except LoadsError Json
  str : Json → String
  isAlpha : Char → Bool
  isFloat : PyStr → Bool

namespace Python

variable (python : Python)

/-- `str(value)`. -/
def text : Json → PyStr
  | .str text => text
  | value => .ofString (python.str value)

/-- `float(value)` does not raise. -/
def floats : Json → Bool
  | .bool _ | .float _ => true
  | .int n => decide (PyFloat.nearest n.natAbs ≠ .inf)
  | .str text => python.isFloat text
  | .null | .list _ | .dict _ => false

end Python

/-- A fence. -/
def fence : List Char := "```".toList

/-- A line without the fence at its start and at its end. -/
def unfenceLine (line : List Char) : List Char :=
  let line :=
    if fence.isPrefixOf line then
      let line := line.drop fence.length
      if "json".toList.isPrefixOf line then line.drop "json".toList.length else line
    else line
  if fence.isSuffixOf line then line.take (line.length - fence.length) else line

/-- The text without its fences: what matches ``^```(?:json)?|```$`` is left out. -/
def unfence (text : String) : String :=
  String.ofList (['\n'].intercalate ((text.toList.splitOn '\n').map unfenceLine))

/-- What matches `\{.*\}`: from the first opening brace to the last closing one. -/
def braces (text : String) : Option String :=
  match (text.toList.dropWhile (· ≠ '\x7b')).rdropWhile (· ≠ '\x7d') with
  | [] => none
  | inner => some (String.ofList inner)

/-- `_extract_json`: an object, empty where there is none. -/
def extractJson (python : Python) (text : String) : Except Raised Json :=
  let object (value : Json) : Json := Json.dict value.entries
  let candidate := strip text
  let candidate :=
    if fence.isPrefixOf candidate.toList then strip (unfence candidate) else candidate
  match python.loads candidate with
  | .ok value => .ok (object value)
  | .error (.other raised) => .error raised
  | .error .decode =>
      match braces candidate with
      | none => .ok (.dict [])
      | some inner =>
          match python.loads inner with
          | .ok value => .ok (object value)
          | .error (.other raised) => .error raised
          | .error .decode => .ok (.dict [])

example : braces "it is \x7b1: \x7b\x7d\x7d so\x7d." = some "\x7b1: \x7b\x7d\x7d so\x7d" := by decide

end Rag
end TopChoice
