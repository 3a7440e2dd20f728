/-
# Texts as Python handles them

The `str` methods the retrieval service uses: `isspace`, `strip`, `split`,
`splitlines`, `join`, slicing from the front.  A text is a list of characters inside
these functions and a `String` outside.
-/

import Mathlib.Data.List.DropRight

namespace TopChoice
namespace Rag

/-- What all characters of a text are is checked along the text, not over all characters there
are. -/
instance (priority := 2000) decidableForallMemChar {p : Char → Prop} [DecidablePred p]
    (cs : List Char) : Decidable (∀ c ∈ cs, p c) :=
  List.decidableBAll p cs

/-- What Python takes from the Unicode tables. -/
structure Unicode where
  /-- `str.lower`. -/
  lower : String → String
  /-- The value of a decimal digit; the class `\d`. -/
  decimal : Char → Option ℕ
  /-- A letter, a digit or an underscore; the class `\w`. -/
  isWord : Char → Bool
  /-- The letter of a pattern and a character that is the same without regard to case. -/
  same : Char → Char → Bool

/-- The tables, of the first 128 characters. -/
def Unicode.ascii : Unicode where
  lower := String.toLower
  decimal c := if c.isDigit then some (c.toNat - '0'.toNat) else none
  isWord c := c.isAlphanum || c = '_'
  same a c := a = c || a.toLower = c.toLower

/-- `str.isspace`, of one character; the class `\s`. -/
def isSpace (c : Char) : Bool :=
  (9 ≤ c.toNat && c.toNat ≤ 13) || (0x1C ≤ c.toNat && c.toNat ≤ 0x20) ||
    (0x2000 ≤ c.toNat && c.toNat ≤ 0x200A) ||
    c.toNat ∈ [0x85, 0xA0, 0x1680, 0x2028, 0x2029, 0x202F, 0x205F, 0x3000]

/-- The characters `str.splitlines` breaks lines at. -/
def isLineBreak (c : Char) : Bool :=
  (10 ≤ c.toNat && c.toNat ≤ 13) || (0x1C ≤ c.toNat && c.toNat ≤ 0x1E) ||
    c.toNat ∈ [0x85, 0x2028, 0x2029]

/-- `str.rstrip`. -/
def rstrip (s : String) : String := String.ofList (s.toList.rdropWhile isSpace)

/-- `str.strip`. -/
def strip (s : String) : String :=
  String.ofList ((s.toList.dropWhile isSpace).rdropWhile isSpace)

/-- `not text.strip()`. -/
def isBlank (s : String) : Bool := s.toList.all isSpace

/-- The words collected so far, and the word being read, its last letter first. -/
def wordsFrom (word : List Char) : List Char → List String
  | [] => if word.isEmpty then [] else [String.ofList word.reverse]
  | c :: rest =>
      if isSpace c then
        if word.isEmpty then wordsFrom [] rest else String.ofList word.reverse :: wordsFrom [] rest
      else wordsFrom (c :: word) rest

/-- `str.split()`. -/
def words (s : String) : List String := wordsFrom [] s.toList

/-- The lines, the one being read with its last character first. -/
def linesFrom (line : List Char) : List Char → List String
  | [] => if line.isEmpty then [] else [String.ofList line.reverse]
  | '\r' :: '\n' :: rest => String.ofList line.reverse :: linesFrom [] rest
  | c :: rest =>
      if isLineBreak c then String.ofList line.reverse :: linesFrom [] rest
      else linesFrom (c :: line) rest

/-- `str.splitlines`. -/
def splitlines (s : String) : List String := linesFrom [] s.toList

/-- The pieces between single blanks, the one being read with its last character first. -/
def blankPiecesFrom (piece : List Char) : List Char → List String
  | [] => [String.ofList piece.reverse]
  | c :: rest =>
      if c = ' ' then String.ofList piece.reverse :: blankPiecesFrom [] rest
      else blankPiecesFrom (c :: piece) rest

/-- `str.split(" ")`. -/
def splitBlanks (s : String) : List String := blankPiecesFrom [] s.toList

/-- `str.removeprefix`. -/
def removeprefix (s start : String) : String :=
  if start.toList.isPrefixOf s.toList then String.ofList (s.toList.drop start.toList.length) else s

/-- `text[:n]`. -/
def firstChars (s : String) (n : ℕ) : String := String.ofList (s.toList.take n)

end Rag
end TopChoice
