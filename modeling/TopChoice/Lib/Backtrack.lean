/-
# Backtracking patterns

Regular expressions with the order of choice of a backtracking engine: the first
alternative before the second, a repetition once more before it stops, or the other
way round when it is lazy.  A pattern is run at a place in a text and gives every
way to go on, the preferred one first; the match is the first way.

A repetition goes on only when its body has consumed something.
-/

import Mathlib.Data.List.Basic

namespace Backtrack

/-- A place in a text: the characters before it, the last one first, those that follow,
and what the named groups have captured, the last capture first. -/
structure Place where
  before : List Char
  rest : List Char
  groups : List (String × List Char)
  deriving DecidableEq, Repr

/-- The place before the first character. -/
def Place.start (text : List Char) : Place := ⟨[], text, []⟩

/-- What a group has captured. -/
def Place.group (place : Place) (name : String) : Option (List Char) := place.groups.lookup name

/-- What lies between two places. -/
def Place.between (s t : Place) : List Char :=
  (t.before.take (t.before.length - s.before.length)).reverse

/-- A pattern. -/
inductive Pattern where
  | empty
  /-- One character of a class. -/
  | one (p : Char → Bool)
  /-- `(?<=[...])`. -/
  | behind (p : Char → Bool)
  /-- `\b`, between a word character and another or none. -/
  | boundary (isWord : Char → Bool)
  /-- `$`: the end of the text, or a line feed there. -/
  | finish
  | seq (a b : Pattern)
  | alt (a b : Pattern)
  /-- `a*`. -/
  | star (a : Pattern)
  /-- `a*?`. -/
  | lazyStar (a : Pattern)
  /-- `a{0,n}`. -/
  | upTo (n : ℕ) (a : Pattern)
  | group (name : String) (a : Pattern)

/-- The repetitions of a step, the longest first; at most so many. -/
def repeated (step : Place → List Place) : ℕ → Place → List Place
  | 0, s => [s]
  | n + 1, s =>
      ((step s).filter fun t => decide (t.rest.length < s.rest.length)).flatMap (repeated step n)
        ++ [s]

/-- The repetitions of a step, the shortest first; at most so many. -/
def lazyRepeated (step : Place → List Place) : ℕ → Place → List Place
  | 0, s => [s]
  | n + 1, s =>
      s :: ((step s).filter fun t => decide (t.rest.length < s.rest.length)).flatMap
        (lazyRepeated step n)

/-- The ways a pattern can go on from a place. -/
def Pattern.ways : Pattern → Place → List Place
  | .empty, s => [s]
  | .one p, s =>
      match s.rest with
      | c :: rest => if p c then [{ s with before := c :: s.before, rest := rest }] else []
      | [] => []
  | .behind p, s => if s.before.head?.any p then [s] else []
  | .boundary isWord, s => if s.before.head?.any isWord = s.rest.head?.any isWord then [] else [s]
  | .finish, s => if s.rest = [] ∨ s.rest = ['\n'] then [s] else []
  | .seq a b, s => (a.ways s).flatMap b.ways
  | .alt a b, s => a.ways s ++ b.ways s
  | .star a, s => repeated a.ways s.rest.length s
  | .lazyStar a, s => lazyRepeated a.ways s.rest.length s
  | .upTo n a, s => repeated a.ways n s
  | .group name a, s =>
      (a.ways s).map fun t => { t with groups := (name, s.between t) :: t.groups }

namespace Pattern

/-- `a+`. -/
def plus (a : Pattern) : Pattern := .seq a (.star a)

/-- `a+?`. -/
def lazyPlus (a : Pattern) : Pattern := .seq a (.lazyStar a)

/-- `a?`. -/
def opt (a : Pattern) : Pattern := .upTo 1 a

/-- The patterns one after the other. -/
def all : List Pattern → Pattern
  | [] => .empty
  | [a] => a
  | a :: as => .seq a (all as)

/-- The patterns as alternatives. -/
def any : List Pattern → Pattern
  | [] => .one fun _ => false
  | [a] => a
  | a :: as => .alt a (any as)

/-- A word, letter by letter. -/
def word (same : Char → Char → Bool) (text : String) : Pattern :=
  all (text.toList.map fun c => .one (same c))

/-- `re.match`. -/
def matchAt (a : Pattern) (s : Place) : Option Place := (a.ways s).head?

/-- The match at the first place that has one: where it starts and where it ends. -/
def searchFrom (a : Pattern) (before : List Char) : List Char → Option (Place × Place)
  | [] => (a.matchAt ⟨before, [], []⟩).map fun t => (⟨before, [], []⟩, t)
  | c :: rest =>
      match a.matchAt ⟨before, c :: rest, []⟩ with
      | some t => some (⟨before, c :: rest, []⟩, t)
      | none => searchFrom a (c :: before) rest

/-- `re.search`: where the match ends. -/
def search (a : Pattern) (text : List Char) : Option Place :=
  (a.searchFrom [] text).map Prod.snd

/-- `re.fullmatch`. -/
def fullMatch (a : Pattern) (text : List Char) : Option Place :=
  (a.ways (.start text)).find? fun t => t.rest.isEmpty

/-- Where the matches end, of which there are at most so many. -/
def findFrom (a : Pattern) : ℕ → Place → List Place
  | 0, _ => []
  | n + 1, s =>
      match a.searchFrom s.before s.rest with
      | some (_, j) => j :: findFrom a n { j with groups := [] }
      | none => []

/-- `re.finditer`, of matches that are not empty. -/
def findIter (a : Pattern) (text : List Char) : List Place := a.findFrom text.length (.start text)

/-- The pieces between the matches, of which there are at most so many. -/
def splitFrom (a : Pattern) : ℕ → Place → List (List Char)
  | 0, s => [s.rest]
  | n + 1, s =>
      match a.searchFrom s.before s.rest with
      | some (i, j) => s.between i :: splitFrom a n { j with groups := [] }
      | none => [s.rest]

/-- `re.split`, at matches that are not empty. -/
def split (a : Pattern) (text : List Char) : List (List Char) :=
  a.splitFrom text.length (.start text)

end Pattern

end Backtrack
