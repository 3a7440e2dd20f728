/-
# Comma-separated values

Rows of fields as one text.  A field that is absent (`none`) is written as nothing and the empty
text as two quotes, so the two are told apart.  A text is written between quotes, its own quotes
doubled, when the writer says so (`Dialect.quotable`); it has to where the text holds a quote, a
comma or the end of a line.  Fields are joined by commas, and each row ends its line.

The reader goes through the text once (`Reader.read`), so it may be fed in pieces.  What is
written is read back (`parse_flatMap_generateLine`), and of a text that was cut off the rows
whose lines have ended (`rows_prefix_of_cut`).
-/

import Mathlib.Data.List.Basic

namespace Csv

/-- A field, which may be absent. -/
abbrev Field := Option String

abbrev Row := List Field

/-- The characters that end a field, and the quote. -/
def isSpecial (c : Char) : Bool := c = '"' || c = ',' || c = '\n' || c = '\r'

/-! ### Writing -/

/-- The texts that are written between quotes. -/
structure Dialect where
  quotable : String → Bool
  quotable_special : ∀ s : String, s.toList.any isSpecial = true → quotable s = true

/-- No text is quoted that need not be. -/
def Dialect.minimal : Dialect where
  quotable s := s.toList.any isSpecial
  quotable_special _ h := h

/-- The quotes of a text, doubled. -/
def escape : List Char → List Char
  | [] => []
  | c :: s => if c = '"' then '"' :: '"' :: escape s else c :: escape s

variable (d : Dialect)

def writeField : Field → List Char
  | none => []
  | some s =>
      if s = "" then ['"', '"']
      else if d.quotable s then '"' :: (escape s.toList ++ ['"'])
      else s.toList

/-- The fields of a row, joined by commas. -/
def writeFields : Row → List Char
  | [] => []
  | [field] => writeField d field
  | field :: rest => writeField d field ++ ',' :: writeFields rest

/-- A row and the end of its line. -/
def generateLine (row : Row) : List Char := writeFields d row ++ ['\n']

/-! ### Reading -/

/-- Where a reader stands in a field: before it, in a text without quotes, between quotes, or
behind a quote that may end the text.  A text that is no row of fields breaks it. -/
inductive Cell where
  | blank
  | bare (s : List Char)
  | quoted (s : List Char)
  | closed (s : List Char)
  | broken
  deriving DecidableEq, Repr

structure Reader where
  rows : List Row := []
  fields : Row := []
  cell : Cell := .blank
  deriving DecidableEq, Repr

namespace Reader

/-- A comma ends a field. -/
def endField (r : Reader) (field : Field) : Reader :=
  { r with fields := r.fields ++ [field], cell := .blank }

/-- The end of the line ends a field and its row. -/
def endRow (r : Reader) (field : Field) : Reader :=
  { rows := r.rows ++ [r.fields ++ [field]], fields := [], cell := .blank }

/-- A character behind the whole of a field: it has to end it. -/
def finish (r : Reader) (field : Field) (c : Char) : Reader :=
  if c = ',' then r.endField field
  else if c = '\n' then r.endRow field
  else { r with cell := .broken }

/-- A character is read. -/
def read (r : Reader) (c : Char) : Reader :=
  match r.cell with
  | .blank =>
      if c = '"' then { r with cell := .quoted [] }
      else if isSpecial c then r.finish none c
      else { r with cell := .bare [c] }
  | .bare s =>
      if isSpecial c then r.finish (some (String.ofList s)) c
      else { r with cell := .bare (s ++ [c]) }
  | .quoted s =>
      if c = '"' then { r with cell := .closed s } else { r with cell := .quoted (s ++ [c]) }
  | .closed s =>
      if c = '"' then { r with cell := .quoted (s ++ [c]) }
      else r.finish (some (String.ofList s)) c
  | .broken => r

def feed (r : Reader) (text : List Char) : Reader := text.foldl read r

/-- The rows, at the end of the text: the last line need not be ended. -/
def result (r : Reader) : Option (List Row) :=
  match r.cell with
  | .blank => if r.fields = [] then some r.rows else some (r.rows ++ [r.fields ++ [none]])
  | .bare s | .closed s => some (r.rows ++ [r.fields ++ [some (String.ofList s)]])
  | .quoted _ | .broken => none

@[simp] theorem feed_nil (r : Reader) : r.feed [] = r := rfl

@[simp] theorem feed_cons (r : Reader) (c : Char) (text : List Char) :
    r.feed (c :: text) = (r.read c).feed text := rfl

@[simp] theorem feed_append (r : Reader) (text more : List Char) :
    r.feed (text ++ more) = (r.feed text).feed more := List.foldl_append

end Reader

/-- The rows of a text. -/
def parse (text : List Char) : Option (List Row) := (({} : Reader).feed text).result

/-! ### What is written is read back -/

section RoundTrip

variable {d} (r : Reader)

theorem quote_special : isSpecial '"' = true := by decide

theorem comma_special : isSpecial ',' = true := by decide

theorem newline_special : isSpecial '\n' = true := by decide

/-- Between quotes a text is read as it is, its quotes doubled. -/
theorem feed_escape (s acc : List Char) :
    ({ r with cell := .quoted acc } : Reader).feed (escape s) =
      { r with cell := .quoted (acc ++ s) } := by
  induction s generalizing acc with
  | nil => simp [escape]
  | cons c s ih =>
    rw [escape]
    split_ifs with hc
    · subst hc
      have hread := ih (acc ++ ['"'])
      simpa [Reader.read] using hread
    · have hread := ih (acc ++ [c])
      simpa [Reader.read, hc] using hread

/-- A text without special characters is read as it is. -/
theorem feed_bare {s : List Char} (h : ∀ c ∈ s, isSpecial c = false) (acc : List Char) :
    ({ r with cell := .bare acc } : Reader).feed s = { r with cell := .bare (acc ++ s) } := by
  induction s generalizing acc with
  | nil => simp
  | cons c s ih =>
    have hc : isSpecial c = false := h c List.mem_cons_self
    have hread := ih (fun c hc => h c (List.mem_cons_of_mem _ hc)) (acc ++ [c])
    simpa [Reader.read, hc] using hread

/-- What stands behind a field that was read. -/
def Reader.After (before after : Reader) (field : Field) : Prop :=
  after.read ',' = before.endField field ∧ after.read '\n' = before.endRow field

theorem after_of_finish {after : Reader} {field : Field}
    (h : ∀ c, isSpecial c = true → c ≠ '"' → after.read c = r.finish field c) :
    r.After after field :=
  ⟨h ',' comma_special (by decide), h '\n' newline_special (by decide)⟩

/-- **A field is read back**, up to the character that ends it. -/
theorem feed_writeField (h : r.cell = .blank) (field : Field) :
    r.After (r.feed (writeField d field)) field := by
  apply after_of_finish
  intro c hspecial hquote
  obtain ⟨rows, fields, cell⟩ := r
  obtain rfl : cell = .blank := h
  cases field with
  | none => simp [writeField, Reader.read, hspecial, hquote]
  | some s =>
    rw [writeField]
    split_ifs with hempty hquotable
    · subst hempty
      simp [Reader.read, hquote, Reader.finish, Reader.endField, Reader.endRow]
    · have hread := feed_escape ⟨rows, fields, .blank⟩ s.toList []
      simp only [List.nil_append] at hread
      simp [Reader.read, hread, hquote, Reader.finish, Reader.endField, Reader.endRow]
    · -- a text that is not quoted has no special character, and it has a first one
      have hplain : ∀ c ∈ s.toList, isSpecial c = false := by
        intro c hc
        by_contra hspec
        exact hquotable (d.quotable_special s (List.any_eq_true.2 ⟨c, hc, by simpa using hspec⟩))
      cases hchars : s.toList with
      | nil => exact absurd (String.toList_eq_nil_iff.1 hchars) hempty
      | cons first rest =>
        rw [hchars] at hplain
        have hfirst : isSpecial first = false := hplain first List.mem_cons_self
        have hnot : first ≠ '"' := fun heq => by simp [heq, quote_special] at hfirst
        have hread := feed_bare ⟨rows, fields, .blank⟩
          (fun c hc => hplain c (List.mem_cons_of_mem _ hc)) [first]
        simp only [List.singleton_append, ← hchars] at hread
        simp [Reader.read, hfirst, hnot, hread, hspecial, Reader.finish, Reader.endField,
          Reader.endRow]

/-- **A row is read back.** -/
theorem feed_generateLine (h : r.cell = .blank) {row : Row} (hrow : row ≠ []) :
    r.feed (generateLine d row) =
      { rows := r.rows ++ [r.fields ++ row], fields := [], cell := .blank } := by
  induction row generalizing r with
  | nil => exact absurd rfl hrow
  | cons field rest ih =>
    obtain ⟨hcomma, hline⟩ := feed_writeField (d := d) r h field
    cases rest with
    | nil => simpa [generateLine, writeFields, Reader.endRow] using hline
    | cons next rest =>
      have hrest := ih (r.endField field) rfl (List.cons_ne_nil _ _)
      simp only [generateLine, writeFields, List.append_assoc, List.cons_append,
        Reader.feed_append, Reader.feed_cons, hcomma] at hrest ⊢
      simpa [Reader.endField] using hrest

/-- **Rows are read back**, behind those read before. -/
theorem feed_flatMap_generateLine {rows : List Row} (h : ∀ row ∈ rows, row ≠ []) (before : List Row) :
    ({ rows := before } : Reader).feed (rows.flatMap (generateLine d)) =
      { rows := before ++ rows } := by
  induction rows generalizing before with
  | nil => simp
  | cons row rest ih =>
    have hrow := feed_generateLine (d := d) { rows := before } rfl (h row List.mem_cons_self)
    have hrest := ih (fun row hrow => h row (List.mem_cons_of_mem _ hrow)) (before ++ [row])
    rw [List.flatMap_cons, Reader.feed_append, hrow]
    simpa using hrest

variable (d) in
/-- **What is written is read back.** -/
theorem parse_flatMap_generateLine {rows : List Row} (h : ∀ row ∈ rows, row ≠ []) :
    parse (rows.flatMap (generateLine d)) = some rows := by
  rw [parse, feed_flatMap_generateLine h []]
  simp [Reader.result]

end RoundTrip

/-! ### Texts that were cut off -/

/-- A character adds to the rows that are there. -/
theorem rows_of_read (r : Reader) (c : Char) : r.rows <+: (r.read c).rows := by
  have hfinish (field : Field) : r.rows <+: (r.finish field c).rows := by
    unfold Reader.finish
    split_ifs
    · exact List.prefix_rfl
    · exact List.prefix_append _ _
    · exact List.prefix_rfl
  obtain ⟨rows, fields, cell⟩ := r
  cases cell with
  | broken => exact List.prefix_rfl
  | blank | bare | quoted | closed =>
    simp only [Reader.read]
    split_ifs <;> first | exact List.prefix_rfl | exact hfinish _

theorem rows_of_feed (r : Reader) (text : List Char) : r.rows <+: (r.feed text).rows := by
  induction text generalizing r with
  | nil => exact List.prefix_rfl
  | cons c text ih => exact (rows_of_read r c).trans (ih (r.read c))

/-- **Of a text that was cut off, the rows whose lines have ended are read.** -/
theorem rows_prefix_of_cut {d : Dialect} {rows : List Row} (h : ∀ row ∈ rows, row ≠ [])
    {text : List Char} (hcut : text <+: rows.flatMap (generateLine d)) :
    (({} : Reader).feed text).rows <+: rows := by
  obtain ⟨more, hmore⟩ := hcut
  have hwhole := feed_flatMap_generateLine (d := d) h []
  rw [← hmore, Reader.feed_append] at hwhole
  have hrows := rows_of_feed (({} : Reader).feed text) more
  rwa [hwhole] at hrows

end Csv
