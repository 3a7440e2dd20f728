/-
# Chunks are covering windows

What `split` of `apps/rag-svc/app/ingestion/chunker.py` makes of a section.  Its sentences are
packed by one rule and the words of a sentence over the budget by another (`unitRule`,
`wordRule`), and both loops are the packing of `Lib.Windows` with what each part becomes
(`hardSplit_eq`, `splitSection_eq`).  So the windows cover: sentences, words and characters
stay in order and none is lost, but for pieces of nothing but white space, which
`_hard_split` leaves out, and the white space around a piece, which `_make` strips.
-/

import Mathlib.Data.List.Flatten
import TopChoice.Lib.Windows
import TopChoice.Rag.Chunker
import TopChoice.Rag.PyWords

namespace TopChoice
namespace Rag
namespace TokenAwareChunker

open Windows

variable (chunker : TokenAwareChunker)

/-! ### Tails -/

section Tail

variable (cost : String → ℕ) (budget : ℕ)

/-- A tail that is collected: pieces of the end, their cost, and within the budget. -/
theorem tailFrom_spec (tail : List String) (total : ℕ) (earlier : List String) :
    ∃ front back, earlier = back ++ front ∧
      (tailFrom cost budget tail total earlier).1 = back.reverse ++ tail ∧
      (tailFrom cost budget tail total earlier).2 = total + (back.map cost).sum ∧
      (total ≤ budget → (tailFrom cost budget tail total earlier).2 ≤ budget) := by
  induction earlier generalizing tail total with
  | nil => exact ⟨[], [], rfl, rfl, rfl, id⟩
  | cons piece earlier ih =>
    rw [tailFrom]
    split_ifs with hover
    · exact ⟨piece :: earlier, [], rfl, rfl, rfl, id⟩
    · obtain ⟨front, back, rfl, htail, htotal, hbudget⟩ := ih (piece :: tail) (total + cost piece)
      refine ⟨front, piece :: back, rfl, ?_, ?_, fun _ => hbudget (not_lt.1 hover)⟩
      · rw [htail, List.reverse_cons, List.append_assoc]
        rfl
      · rw [htotal, List.map_cons, List.sum_cons, Nat.add_assoc]

/-- The tail of the pieces is the end of them, with its cost, within the budget. -/
theorem tailWithin_spec (pieces : List String) :
    (tailWithin cost budget pieces).1 <:+ pieces ∧
      (tailWithin cost budget pieces).2 = ((tailWithin cost budget pieces).1.map cost).sum ∧
      (tailWithin cost budget pieces).2 ≤ budget := by
  obtain ⟨front, back, hpieces, htail, htotal, hbudget⟩ :=
    tailFrom_spec cost budget [] 0 pieces.reverse
  rw [List.append_nil] at htail
  have hwhole : pieces = front.reverse ++ back.reverse := by
    rw [← List.reverse_append, ← hpieces, List.reverse_reverse]
  refine ⟨⟨front.reverse, ?_⟩, ?_, hbudget (Nat.zero_le _)⟩
  · rw [tailWithin, htail, hwhole]
  · rw [tailWithin, htotal, htail, Nat.zero_add, List.map_reverse, List.sum_reverse]

end Tail

theorem overlapTail_spec (units : List String) (overlapBudget : ℕ) :
    (chunker.overlapTail units overlapBudget).1 <:+ units ∧
      (chunker.overlapTail units overlapBudget).2 =
        ((chunker.overlapTail units overlapBudget).1.map chunker.count).sum ∧
      (chunker.overlapTail units overlapBudget).2 ≤ overlapBudget := by
  rw [overlapTail]
  split_ifs
  · exact ⟨List.nil_suffix, rfl, Nat.zero_le _⟩
  · exact tailWithin_spec chunker.count overlapBudget units

theorem wordOverlap_spec (words : List String) (overlapBudget : ℕ) :
    (chunker.wordOverlap words overlapBudget).1 <:+ words ∧
      (chunker.wordOverlap words overlapBudget).2 =
        ((chunker.wordOverlap words overlapBudget).1.map chunker.wordTokens).sum ∧
      (chunker.wordOverlap words overlapBudget).2 ≤ overlapBudget := by
  rw [wordOverlap]
  split_ifs
  · exact ⟨List.nil_suffix, rfl, Nat.zero_le _⟩
  · exact tailWithin_spec chunker.wordTokens overlapBudget words

/-! ### The two loops -/

section Loop

variable {π : Type} (rule : Rule String) (emit : List π → Segment String → List π)

/-- What is done when the pieces that wait are given up as well. -/
def finish (s : Packing π) : List π :=
  if s.current.isEmpty then s.done else emit s.done (.run s.current)

/-- One step of both loops, by how the parts are emitted. -/
def packStep (s : Packing π) (item : String) : Packing π :=
  if rule.budget < rule.cost item then ⟨emit (finish emit s) (.oversize item), [], 0⟩
  else if !s.current.isEmpty && decide (rule.budget < s.currentTokens + rule.cost item) then
    let kept := rule.kept s.current item
    ⟨emit s.done (.run s.current), kept ++ [item], rule.total kept + rule.cost item⟩
  else ⟨s.done, s.current ++ [item], s.currentTokens + rule.cost item⟩

/-- A state of a loop and one of the packing. -/
structure Follows (start : List π) (s : Packing π) (t : State String) : Prop where
  closed : s.done = t.closed.foldl emit start
  current : s.current = t.current
  tokens : s.currentTokens = rule.total t.current

variable {rule emit} {start : List π} {s : Packing π} {t : State String}

variable (rule) in
/-- The tail that the next pieces begin with: it is dropped when it leaves no room. -/
theorem kept_eq (tail : List String × ℕ) (current : List String) {item : String}
    (htail : tail.1 = rule.tail current) (htotal : tail.2 = rule.total tail.1)
    (hitem : rule.cost item ≤ rule.budget) :
    (if (!tail.1.isEmpty && decide (rule.budget < tail.2 + rule.cost item)) = true then ([], 0)
      else tail) = (rule.kept current item, rule.total (rule.kept current item)) := by
  rw [htotal, htail, Rule.kept]
  by_cases hover : rule.budget < rule.total (rule.tail current) + rule.cost item
  · have hnonempty : rule.tail current ≠ [] := by
      intro hnil
      rw [hnil] at hover
      exact absurd hover (by simpa [Rule.total] using hitem)
    rw [if_pos hover, if_pos (by simpa [hnonempty] using hover)]
    rfl
  · rw [if_neg hover, if_neg (by simp [hover]), ← htail, ← htotal]

theorem Follows.finish (h : Follows rule emit start s t) :
    finish emit s = (Rule.close t).foldl emit start := by
  rw [TokenAwareChunker.finish, Rule.close, h.current, h.closed]
  split_ifs
  · rfl
  · rw [List.foldl_append]
    rfl

/-- **A step of the loop is one of the packing.** -/
theorem Follows.step (h : Follows rule emit start s t) (item : String) :
    Follows rule emit start (packStep rule emit s item) (rule.step t item) := by
  have hwaits : (!s.current.isEmpty && decide (rule.budget < s.currentTokens + rule.cost item)) =
      true ↔ t.current ≠ [] ∧ rule.budget < rule.total t.current + rule.cost item := by
    rw [h.current, h.tokens]
    simp
  rw [packStep, Rule.step]
  by_cases hover : rule.budget < rule.cost item
  · rw [if_pos hover, if_pos hover]
    exact ⟨by rw [h.finish, List.foldl_append]; rfl, rfl, rfl⟩
  rw [if_neg hover, if_neg hover]
  by_cases hfull : t.current ≠ [] ∧ rule.budget < rule.total t.current + rule.cost item
  · rw [if_pos (hwaits.2 hfull), if_pos hfull]
    refine ⟨?_, by rw [h.current], ?_⟩
    · rw [h.closed, h.current, List.foldl_append]
      rfl
    · rw [rule.total_append, rule.total_singleton, h.current]
  · rw [if_neg (mt hwaits.1 hfull), if_neg hfull]
    refine ⟨h.closed, by rw [h.current], ?_⟩
    rw [rule.total_append, rule.total_singleton, h.tokens]

variable (rule emit) in
/-- **A loop is the packing**, its parts emitted one after the other. -/
theorem finish_foldl (start : List π) (items : List String) :
    finish emit (items.foldl (packStep rule emit) ⟨start, [], 0⟩) =
      (rule.pack items).foldl emit start := by
  have hrun (s : Packing π) (t : State String) (h : Follows rule emit start s t) :
      Follows rule emit start (items.foldl (packStep rule emit) s) (items.foldl rule.step t) := by
    induction items generalizing s t with
    | nil => exact h
    | cons item items ih => exact ih _ _ (h.step item)
  exact (hrun ⟨start, [], 0⟩ ⟨[], []⟩ ⟨rfl, rfl, rfl⟩).finish

end Loop

/-! ### The words of a sentence -/

/-- How `_hard_split` packs words. -/
def wordRule (budget overlapBudget : ℕ) : Rule String where
  cost := chunker.wordTokens
  budget := budget
  overlap := overlapBudget
  tail words := (chunker.wordOverlap words overlapBudget).1
  tail_suffix words := (chunker.wordOverlap_spec words overlapBudget).1
  tail_cost words := (chunker.wordOverlap_spec words overlapBudget).2.1 ▸
    (chunker.wordOverlap_spec words overlapBudget).2.2

/-- The pieces of a part: its words with blanks between them, or the slices of a word over the
budget. -/
def wordPieces (budget : ℕ) : Segment String → List String
  | .run words => [" ".intercalate words]
  | .oversize word => splitByCharacters word budget

theorem hardSplitWord_eq (budget overlapBudget : ℕ) :
    chunker.hardSplitWord budget overlapBudget =
      packStep (chunker.wordRule budget overlapBudget)
        fun pieces part => pieces ++ wordPieces budget part := by
  funext s word
  rw [hardSplitWord, packStep]
  dsimp only
  by_cases hover : budget < chunker.wordTokens word
  · exact (if_pos hover).trans (if_pos hover).symm
  · have hkept := kept_eq (chunker.wordRule budget overlapBudget)
      (chunker.wordOverlap s.current overlapBudget) s.current rfl
      (chunker.wordOverlap_spec s.current overlapBudget).2.1 (not_lt.1 hover)
    refine (if_neg hover).trans (.trans ?_ (if_neg hover).symm)
    refine if_congr Iff.rfl ?_ rfl
    exact congrArg (fun kept => (⟨_, kept.1 ++ [word], kept.2 + _⟩ : Packing String)) hkept

/-- **`_hard_split` packs the words**, and leaves out the pieces of white space. -/
theorem hardSplit_eq (unit : String) (budget overlapBudget : ℕ) :
    chunker.hardSplit unit budget overlapBudget =
      (((chunker.wordRule budget overlapBudget).pack (splitBlanks unit)).flatMap
        (wordPieces budget)).filter fun piece => !isBlank piece := by
  have hloop := finish_foldl (chunker.wordRule budget overlapBudget)
    (fun pieces part => pieces ++ wordPieces budget part) [] (splitBlanks unit)
  rw [← chunker.hardSplitWord_eq] at hloop
  have hflat (parts : List (Segment String)) (pieces : List String) :
      parts.foldl (fun pieces part => pieces ++ wordPieces budget part) pieces =
        pieces ++ parts.flatMap (wordPieces budget) := by
    induction parts generalizing pieces with
    | nil => rw [List.foldl_nil, List.flatMap_nil, List.append_nil]
    | cons part parts ih => rw [List.foldl_cons, ih, List.flatMap_cons, List.append_assoc]
  rw [hflat, List.nil_append] at hloop
  rw [hardSplit, ← hloop]
  rfl

/-! ### The sentences of a section -/

section Sentences

variable {υ : Type} [JsonValue υ]

/-- How `split` packs sentences. -/
def unitRule (f : Frame υ) : Rule String where
  cost := chunker.count
  budget := f.budget
  overlap := f.overlapBudget
  tail units := (chunker.overlapTail units f.overlapBudget).1
  tail_suffix units := (chunker.overlapTail_spec units f.overlapBudget).1
  tail_cost units := (chunker.overlapTail_spec units f.overlapBudget).2.1 ▸
    (chunker.overlapTail_spec units f.overlapBudget).2.2

/-- The units of the chunks of a part: its sentences, or one piece each of a sentence over the
budget. -/
def unitPieces (f : Frame υ) : Segment String → List (List String)
  | .run units => [units]
  | .oversize unit => (chunker.hardSplit unit f.budget f.overlapBudget).map fun piece => [piece]

theorem splitUnit_eq (f : Frame υ) :
    chunker.splitUnit f =
      packStep (chunker.unitRule f) fun chunks part =>
        (chunker.unitPieces f part).foldl (chunker.emit f) chunks := by
  funext s unit
  rw [splitUnit, packStep]
  dsimp only
  by_cases hover : f.budget < chunker.count unit
  · refine (if_pos hover).trans (.trans ?_ (if_pos hover).symm)
    rw [unitPieces, List.foldl_map]
    rfl
  · have hkept := kept_eq (chunker.unitRule f) (chunker.overlapTail s.current f.overlapBudget)
      s.current rfl
      (chunker.overlapTail_spec s.current f.overlapBudget).2.1 (not_lt.1 hover)
    refine (if_neg hover).trans (.trans ?_ (if_neg hover).symm)
    refine if_congr Iff.rfl ?_ rfl
    exact congrArg (fun kept => (⟨_, kept.1 ++ [unit], kept.2 + _⟩ : Packing (Chunk υ))) hkept

/-- The units of the chunks of a section. -/
def sectionPieces (f : Frame υ) (units : List String) : List (List String) :=
  ((chunker.unitRule f).pack units).flatMap (chunker.unitPieces f)

/-- **`split` packs the sentences of a section.** -/
theorem splitSection_eq (metadata : Metadata υ) (chunks : List (Chunk υ)) (part : Section) :
    chunker.splitSection metadata chunks part =
      (chunker.sectionPieces (chunker.frame metadata part.path) part.units).foldl
        (chunker.emit (chunker.frame metadata part.path)) chunks := by
  have hloop := finish_foldl (chunker.unitRule (chunker.frame metadata part.path))
    (fun chunks piece => (chunker.unitPieces (chunker.frame metadata part.path) piece).foldl
      (chunker.emit (chunker.frame metadata part.path)) chunks) chunks part.units
  rw [← chunker.splitUnit_eq] at hloop
  rw [sectionPieces, List.foldl_flatMap, ← hloop]
  rfl

/-! ### The chunks of a text -/

/-- The units of a chunk, under the headings of their section. -/
structure Slice where
  path : List String
  units : List String
  deriving DecidableEq, Repr

/-- What `split` cuts a text into, before a stub at the end is folded. -/
def slicesOf (metadata : Metadata υ) (text : String) : List Slice :=
  (iterSections text).flatMap fun part =>
    (chunker.sectionPieces (chunker.frame metadata part.path) part.units).map fun units =>
      ⟨part.path, units⟩

/-- The chunk of a slice. -/
def chunkOf (metadata : Metadata υ) (slice : Slice) (ordinal : ℕ) : Chunk υ :=
  chunker.make ordinal (chunker.frame metadata slice.path).start slice.units
    (chunker.frame metadata slice.path).heading (chunker.frame metadata slice.path).metadata

/-- The chunks before a stub at the end is folded. -/
def rawChunks (metadata : Metadata υ) (text : String) : List (Chunk υ) :=
  (iterSections text).foldl (chunker.splitSection metadata) []

theorem split_eq (metadata : Metadata υ) (text : String) :
    chunker.split text metadata =
      chunker.mergeTrailingStub (chunker.rawChunks metadata text) := rfl

theorem foldl_emit (metadata : Metadata υ) (path : List String) (pieces : List (List String))
    (chunks : List (Chunk υ)) :
    pieces.foldl (chunker.emit (chunker.frame metadata path)) chunks =
      chunks ++ ((pieces.map fun units => (⟨path, units⟩ : Slice)).zipIdx chunks.length).map
        fun slice => chunker.chunkOf metadata slice.1 slice.2 := by
  induction pieces generalizing chunks with
  | nil => exact (List.append_nil chunks).symm
  | cons units pieces ih =>
    rw [List.foldl_cons, ih, emit, List.append_assoc, List.length_append, List.map_cons,
      List.zipIdx_cons]
    rfl

/-- **The chunks of a text are those of its slices, numbered.** -/
theorem rawChunks_eq (metadata : Metadata υ) (text : String) :
    chunker.rawChunks metadata text =
      ((chunker.slicesOf metadata text).zipIdx).map
        fun slice => chunker.chunkOf metadata slice.1 slice.2 := by
  have hfold (parts : List Section) (chunks : List (Chunk υ)) :
      parts.foldl (chunker.splitSection metadata) chunks =
        chunks ++ ((parts.flatMap fun part =>
          (chunker.sectionPieces (chunker.frame metadata part.path) part.units).map fun units =>
            (⟨part.path, units⟩ : Slice)).zipIdx chunks.length).map
              fun slice => chunker.chunkOf metadata slice.1 slice.2 := by
    induction parts generalizing chunks with
    | nil => exact (List.append_nil chunks).symm
    | cons part parts ih =>
      rw [List.foldl_cons, ih, splitSection_eq, foldl_emit, List.flatMap_cons, List.zipIdx_append,
        List.map_append, List.append_assoc]
      simp only [List.length_append, List.length_map, List.length_zipIdx]
  exact hfold (iterSections text) []

/-! ### What is in a chunk -/

/-- The heading of a section, or nothing. -/
def headingText (metadata : Metadata υ) (path : List String) : String :=
  (chunker.frame metadata path).heading.getD ""

/-- The text of units as `_make` joins them. -/
def body (units : List String) : String := " ".intercalate ((units.map strip).filter (· ≠ ""))

omit [JsonValue υ] in
theorem start_frame (metadata : Metadata υ) (path : List String) :
    (chunker.frame metadata path).start =
      if chunker.headingText metadata path = "" then ""
      else chunker.headingText metadata path ++ "\n" := by
  have hstart : (chunker.frame metadata path).start =
      ((chunker.frame metadata path).heading.filter (· ≠ "")).elim "" (· ++ "\n") := by
    simp only [frame]
    generalize Option.filter (fun heading => decide (heading ≠ "")) _ = heading
    cases heading with
    | none => rfl
    | some heading => rfl
  rw [hstart, headingText]
  cases hheading : (chunker.frame metadata path).heading with
  | none => rfl
  | some heading =>
    rw [Option.getD_some]
    split_ifs with hempty
    · rw [hempty]
      rfl
    · rw [Option.filter_some, if_pos (by simp [hempty]), Option.elim_some]

theorem content_chunkOf (metadata : Metadata υ) (slice : Slice) (ordinal : ℕ) :
    (chunker.chunkOf metadata slice ordinal).content =
      strip ((chunker.frame metadata slice.path).start ++ body slice.units) := rfl

omit [JsonValue υ] in
/-- The words of a body are those of its units. -/
theorem words_body (units : List String) : words (body units) = units.flatMap words := by
  rw [body, words_intercalate]
  induction units with
  | nil => rfl
  | cons unit units ih =>
    rw [List.map_cons, List.flatMap_cons, ← words_strip unit]
    by_cases hempty : strip unit = ""
    · rw [List.filter_cons_of_neg (by simp [hempty]), ih, hempty]
      rfl
    · rw [List.filter_cons_of_pos (by simp [hempty]), List.flatMap_cons, ih]

/-- **The words of a chunk** are those of its heading and its units. -/
theorem words_chunkOf (metadata : Metadata υ) (slice : Slice) (ordinal : ℕ) :
    words (chunker.chunkOf metadata slice ordinal).content =
      words (chunker.headingText metadata slice.path) ++ slice.units.flatMap words := by
  rw [content_chunkOf, start_frame, ← words_body slice.units]
  split_ifs with hempty
  · rw [hempty, String.empty_append, words_strip]
    rfl
  · exact words_heading _ _

/-- The words that folding a stub adds: those of its chunk, with or without the heading. -/
theorem words_stub (metadata : Metadata υ) (slice : Slice) (ordinal : ℕ) :
    words (strip ( removeprefix (chunker.chunkOf metadata slice ordinal).content
        (chunker.headingText metadata slice.path))) = slice.units.flatMap words ∨
      words (strip ( removeprefix (chunker.chunkOf metadata slice ordinal).content
        (chunker.headingText metadata slice.path))) =
          words (chunker.headingText metadata slice.path) ++ slice.units.flatMap words := by
  rw [words_strip, content_chunkOf, start_frame, ← words_body slice.units]
  split_ifs with hempty
  · left
    have hkept (s : String) : removeprefix s "" = s := String.ofList_toList
    rw [hempty, hkept, String.empty_append, words_strip]
  · exact words_removeprefix _ _

/-- A slice of a word is not empty, and the slices are the word. -/
theorem splitByCharacters_spec (word : String) (budget : ℕ) :
    (splitByCharacters word budget).flatMap String.toList = word.toList ∧
      ∀ piece ∈ splitByCharacters word budget, piece ≠ "" := by
  have hpieces : splitByCharacters word budget =
      (slices (max 1 (budget * 3)) word.toList).map String.ofList := by
    rw [splitByCharacters, slices, List.map_map, String.length_toList]
    rfl
  rw [hpieces]
  constructor
  · rw [List.flatMap_map, ← flatten_slices (m := max 1 (budget * 3)) (by omega) word.toList]
    conv_rhs => rw [← List.flatMap_id]
    simp only [String.toList_ofList, flatten_slices (m := max 1 (budget * 3)) (by omega)]
    rfl
  · intro piece hpiece
    obtain ⟨part, hpart, rfl⟩ := List.mem_map.1 hpiece
    intro hempty
    have hnil := congrArg String.toList hempty
    rw [String.toList_ofList] at hnil
    exact (of_mem_slices hpart).1 hnil

/-! ### Windows -/

/-- How a sentence over the budget is cut: windows of its words, of which pieces of white space
are left out, and a word over the budget in slices. -/
structure WordWindows (budget overlapBudget : ℕ) (unit : String) (ws : List (Rule.Window String)) :
    Prop where
  words : " ".intercalate (splitBlanks unit) = unit
  covering : (chunker.wordRule budget overlapBudget).Covering (splitBlanks unit) ws
  pieces : chunker.hardSplit unit budget overlapBudget =
    (ws.flatMap fun w => wordPieces budget w.part).filter fun piece => !isBlank piece
  characters : ∀ w ∈ ws, ∀ word, w.part = .oversize word →
    (splitByCharacters word budget).flatMap String.toList = word.toList ∧
      ∀ piece ∈ splitByCharacters word budget, piece ≠ ""

/-- How a section is cut: windows of its sentences, and sentences over the budget in pieces. -/
structure SentenceWindows (f : Frame υ) (units : List String) (ws : List (Rule.Window String)) :
    Prop where
  covering : (chunker.unitRule f).Covering units ws
  pieces : chunker.sectionPieces f units = ws.flatMap fun w => chunker.unitPieces f w.part
  oversize : ∀ w ∈ ws, ∀ unit, w.part = .oversize unit →
    ∃ vs, chunker.WordWindows f.budget f.overlapBudget unit vs

omit [JsonValue υ] in
theorem exists_wordWindows (budget overlapBudget : ℕ) (unit : String) :
    ∃ ws, chunker.WordWindows budget overlapBudget unit ws := by
  obtain ⟨ws, hparts, hcovering⟩ :=
    (chunker.wordRule budget overlapBudget).pack_covering (splitBlanks unit)
  refine ⟨ws, intercalate_splitBlanks unit, hcovering, ?_, fun w _ word _ =>
    splitByCharacters_spec word budget⟩
  rw [hardSplit_eq, ← hparts, List.flatMap_map]

omit [JsonValue υ] in
/-- **A section is cut into covering windows.** -/
theorem exists_sentenceWindows (f : Frame υ) (units : List String) :
    ∃ ws, chunker.SentenceWindows f units ws := by
  obtain ⟨ws, hparts, hcovering⟩ := (chunker.unitRule f).pack_covering units
  refine ⟨ws, hcovering, ?_, fun w _ unit _ => chunker.exists_wordWindows _ _ unit⟩
  rw [sectionPieces, ← hparts, List.flatMap_map]

/-! ### No letter is lost -/

omit [JsonValue υ] in
/-- The letters of the pieces of a part of a sentence are those of its words. -/
theorem letters_wordPieces (budget : ℕ) (part : Segment String) :
    (wordPieces budget part).flatMap letters = part.items.flatMap letters := by
  cases part with
  | run items => exact List.flatMap_singleton .. |>.trans (letters_intercalate items)
  | oversize word =>
    have hletters : (splitByCharacters word budget).flatMap letters =
        ((splitByCharacters word budget).flatMap String.toList).filter fun c => !isSpace c := by
      rw [List.filter_flatMap]
      rfl
    rw [wordPieces, hletters, (splitByCharacters_spec word budget).1]
    exact (List.flatMap_singleton ..).symm

omit [JsonValue υ] in
/-- **A sentence over the budget keeps its letters.** -/
theorem letters_hardSplit (unit : String) (budget overlapBudget : ℕ) :
    (letters unit).Sublist ((chunker.hardSplit unit budget overlapBudget).flatMap letters) := by
  obtain ⟨ws, hws⟩ := chunker.exists_wordWindows budget overlapBudget unit
  have hfilter (pieces : List String) :
      (pieces.filter fun piece => !isBlank piece).flatMap letters = pieces.flatMap letters := by
    induction pieces with
    | nil => rfl
    | cons piece pieces ih =>
      cases hblank : isBlank piece with
      | true =>
        rw [List.filter_cons_of_neg (by simp [hblank]), ih, List.flatMap_cons,
          letters_of_isBlank hblank, List.nil_append]
      | false =>
        rw [List.filter_cons_of_pos (by simp [hblank]), List.flatMap_cons, List.flatMap_cons, ih]
  have hcover := hws.covering.sublist
  rw [List.take_length] at hcover
  rw [hws.pieces, hfilter, List.flatMap_assoc, ← hws.words, letters_intercalate]
  refine (hcover.flatMap letters).trans ?_
  rw [List.flatMap_assoc]
  refine List.Sublist.flatMap_right ws fun w _ => ?_
  rw [letters_wordPieces]

omit [JsonValue υ] in
/-- **A section keeps its letters.** -/
theorem letters_sectionPieces (f : Frame υ) (units : List String) :
    (units.flatMap letters).Sublist
      ((chunker.sectionPieces f units).flatMap fun piece => piece.flatMap letters) := by
  obtain ⟨ws, hws⟩ := chunker.exists_sentenceWindows f units
  have hcover := hws.covering.sublist
  rw [List.take_length] at hcover
  rw [hws.pieces, List.flatMap_assoc]
  refine (hcover.flatMap letters).trans ?_
  rw [List.flatMap_assoc]
  refine List.Sublist.flatMap_right ws fun w _ => ?_
  cases w.part with
  | run items => exact (List.flatMap_singleton ..).symm ▸ List.Sublist.refl _
  | oversize unit =>
    rw [unitPieces, List.flatMap_map, Segment.items, List.flatMap_singleton]
    simp only [List.flatMap_singleton]
    exact chunker.letters_hardSplit unit f.budget f.overlapBudget

/-! ### The stub at the end -/

omit [JsonValue υ] in
/-- **What folding a stub does**: nothing, or the last two chunks of one heading become one. -/
theorem mergeTrailingStub_cases (chunks : List (Chunk υ)) :
    chunker.mergeTrailingStub chunks = chunks ∨
      ∃ rest previous last content, chunks = rest ++ [previous, last] ∧
        last.heading = previous.heading ∧
        content = strip (previous.content ++ " " ++
          strip ( removeprefix last.content (previous.heading.getD ""))) ∧
        chunker.mergeTrailingStub chunks = rest ++
          [{ previous with content := content, tokenCount := chunker.count content }] := by
  rw [mergeTrailingStub]
  split
  next last previous rest hreverse =>
    have hchunks : chunks = rest.reverse ++ [previous, last] := by
      rw [← List.reverse_reverse chunks, hreverse]
      simp
    split_ifs with hkeep
    · exact .inl rfl
    · obtain ⟨-, hkeep⟩ := not_or.1 hkeep
      obtain ⟨hheading, -⟩ := not_or.1 hkeep
      exact .inr ⟨rest.reverse, previous, last, _, hchunks, not_ne_iff.1 hheading, rfl, rfl⟩
  next => exact .inl rfl

/-- A chunk holds the text of slices, which are all under its heading. -/
structure Holds (metadata : Metadata υ) (slices : List Slice) (chunk : Chunk υ) : Prop where
  heading : ∀ slice ∈ slices, (chunker.frame metadata slice.path).heading = chunk.heading
  nothingElse : ∀ w ∈ words chunk.content,
    w ∈ words (chunk.heading.getD "") ∨ w ∈ slices.flatMap fun slice => slice.units.flatMap words
  all : (slices.flatMap fun slice => slice.units.flatMap words).Sublist (words chunk.content)

theorem holds_chunkOf (metadata : Metadata υ) (slice : Slice) (ordinal : ℕ) :
    chunker.Holds metadata [slice] (chunker.chunkOf metadata slice ordinal) := by
  have hwords := chunker.words_chunkOf metadata slice ordinal
  refine ⟨fun other hother => ?_, fun w hw => ?_, ?_⟩
  · obtain rfl := List.mem_singleton.1 hother
    rfl
  · rw [hwords] at hw
    rw [List.flatMap_singleton]
    exact List.mem_append.1 hw
  · rw [hwords, List.flatMap_singleton]
    exact List.sublist_append_right _ _

/-- The chunk of two slices, the second one folded into the first. -/
theorem holds_merged (metadata : Metadata υ) {a b : Slice} {i j : ℕ} {content : String}
    (tokenCount : ℕ)
    (hheading : (chunker.chunkOf metadata b j).heading = (chunker.chunkOf metadata a i).heading)
    (hcontent : content = strip ((chunker.chunkOf metadata a i).content ++ " " ++
      strip ( removeprefix (chunker.chunkOf metadata b j).content
        ((chunker.chunkOf metadata a i).heading.getD "")))) :
    chunker.Holds metadata [a, b]
      { chunker.chunkOf metadata a i with content := content, tokenCount := tokenCount } := by
  have htext : (chunker.chunkOf metadata a i).heading.getD "" =
      chunker.headingText metadata b.path := congrArg (Option.getD · "") hheading.symm
  have hwords : words content = words (chunker.headingText metadata b.path) ++
      a.units.flatMap words ++ words (strip ( removeprefix (chunker.chunkOf metadata b j).content
        (chunker.headingText metadata b.path))) := by
    rw [hcontent, words_strip, words_append_blank, words_chunkOf, htext, ← htext]
    rfl
  have hstub := chunker.words_stub metadata b j
  refine ⟨?_, fun w hw => ?_, ?_⟩
  · rintro slice hslice
    rcases List.mem_cons.1 hslice with rfl | hslice
    · rfl
    · obtain rfl := List.mem_singleton.1 hslice
      exact hheading
  · rw [List.flatMap_cons, List.flatMap_singleton]
    change w ∈ words ((chunker.chunkOf metadata a i).heading.getD "") ∨ _
    rw [htext]
    dsimp only at hw
    rw [hwords] at hw
    rcases hstub with hstub | hstub <;> rw [hstub] at hw <;> grind
  · rw [List.flatMap_cons, List.flatMap_singleton]
    dsimp only
    rw [hwords]
    refine (List.sublist_append_right _ _).append ?_
    rcases hstub with hstub | hstub <;> rw [hstub]
    exact List.sublist_append_right _ _

/-- **After the merge each chunk holds the text of slices of one heading.** -/
theorem split_holds (metadata : Metadata υ) (text : String) :
    ∃ groups : List (List Slice), groups.flatten = chunker.slicesOf metadata text ∧
      List.Forall₂ (chunker.Holds metadata) groups (chunker.split text metadata) := by
  have halone (numbered : List (Slice × ℕ)) : List.Forall₂ (chunker.Holds metadata)
      (numbered.map fun slice => [slice.1])
      (numbered.map fun slice => chunker.chunkOf metadata slice.1 slice.2) := by
    rw [List.forall₂_map_left_iff, List.forall₂_map_right_iff, List.forall₂_same]
    exact fun slice _ => chunker.holds_chunkOf metadata slice.1 slice.2
  have hflatten (numbered : List (Slice × ℕ)) :
      (numbered.map fun slice => [slice.1]).flatten = numbered.map Prod.fst := by
    rw [← List.flatMap_def, List.map_eq_flatMap]
  have hslices : ((chunker.slicesOf metadata text).zipIdx).map Prod.fst =
      chunker.slicesOf metadata text := List.zipIdx_map_fst 0 _
  rw [split_eq, rawChunks_eq]
  rcases chunker.mergeTrailingStub_cases _ with hsame |
    ⟨rest, previous, last, content, hchunks, hheading, hcontent, hmerged⟩
  · rw [hsame]
    exact ⟨_, (hflatten _).trans hslices, halone _⟩
  · rw [hmerged]
    obtain ⟨front, back, hnumbered, rfl, hback⟩ := List.map_eq_append_iff.1 hchunks
    obtain ⟨a, back, rfl, rfl, hlast⟩ := List.map_eq_cons_iff.1 hback
    obtain ⟨b, rfl, rfl⟩ := List.map_eq_singleton_iff.1 hlast
    refine ⟨front.map (fun slice => [slice.1]) ++ [[a.1, b.1]], ?_, ?_⟩
    · rw [List.flatten_append, hflatten, ← hslices, hnumbered, List.map_append]
      rfl
    · refine List.rel_append (halone front) (.cons ?_ .nil)
      exact chunker.holds_merged metadata _ hheading hcontent

/-! ### Ordinals -/

omit [JsonValue υ] in
/-- Folding a stub leaves the ordinals and the metadata of the chunks that remain. -/
theorem mergeTrailingStub_prefix (chunks : List (Chunk υ)) :
    ((chunker.mergeTrailingStub chunks).map fun chunk => (chunk.ordinal, chunk.metadata)) <+:
      chunks.map fun chunk => (chunk.ordinal, chunk.metadata) := by
  rcases chunker.mergeTrailingStub_cases chunks with hsame |
    ⟨rest, previous, last, content, rfl, -, -, hmerged⟩
  · rw [hsame]
  · rw [hmerged, List.map_append, List.map_append]
    exact ⟨[(last.ordinal, last.metadata)], List.append_assoc ..⟩

theorem lookup_ordinal (metadata : Metadata υ) (slice : Slice) (ordinal : ℕ) :
    (chunker.chunkOf metadata slice ordinal).metadata.lookup "ordinal" =
      some (JsonValue.num ordinal) := by
  rw [chunkOf, make]
  dsimp only
  split
  · rw [Metadata.lookup_set_of_ne _ (by decide), Metadata.lookup_set_self]
  · exact Metadata.lookup_set_self _ _ _

/-- **The ordinals count the chunks**, and the metadata say the same. -/
theorem split_ordinals (metadata : Metadata υ) (text : String) :
    (chunker.split text metadata).map Chunk.ordinal =
        List.range (chunker.split text metadata).length ∧
      ∀ chunk ∈ chunker.split text metadata,
        chunk.metadata.lookup "ordinal" = some (JsonValue.num chunk.ordinal) := by
  have hprefix := chunker.mergeTrailingStub_prefix (chunker.rawChunks metadata text)
  rw [← split_eq] at hprefix
  constructor
  · have hordinals : (chunker.rawChunks metadata text).map Chunk.ordinal =
        List.range (chunker.slicesOf metadata text).length := by
      rw [rawChunks_eq, List.map_map, List.range_eq_range', ← List.zipIdx_map_snd]
      rfl
    have hrange := hprefix.map Prod.fst
    rw [List.map_map, List.map_map] at hrange
    change (chunker.split text metadata).map Chunk.ordinal <+:
      (chunker.rawChunks metadata text).map Chunk.ordinal at hrange
    have hlength := hrange.length_le
    rw [hordinals, List.length_map, List.length_range] at hlength
    rw [List.prefix_iff_eq_take.1 hrange, hordinals, List.length_map, List.take_range,
      Nat.min_eq_left hlength]
  · intro chunk hchunk
    have hmem := hprefix.subset (List.mem_map_of_mem hchunk)
    rw [rawChunks_eq, List.map_map, List.mem_map] at hmem
    obtain ⟨⟨slice, ordinal⟩, -, hsame⟩ := hmem
    obtain ⟨hordinal, hmetadata⟩ := Prod.mk.inj hsame
    rw [← hmetadata, ← hordinal]
    exact chunker.lookup_ordinal metadata slice ordinal

/-! ### The whole text -/

/-- A text in chunks: before a stub is folded, windows that cover each section, and after it
chunks of one heading each, numbered. -/
structure CoveringWindows (metadata : Metadata υ) (text : String) : Prop where
  windows : ∀ part ∈ iterSections text,
    ∃ ws, chunker.SentenceWindows (chunker.frame metadata part.path) part.units ws
  letters : ∀ part ∈ iterSections text, (part.units.flatMap letters).Sublist
    ((chunker.sectionPieces (chunker.frame metadata part.path) part.units).flatMap fun piece =>
      piece.flatMap letters)
  chunks : chunker.rawChunks metadata text = ((chunker.slicesOf metadata text).zipIdx).map
    fun slice => chunker.chunkOf metadata slice.1 slice.2
  words : ∀ slice ∈ chunker.slicesOf metadata text, ∀ ordinal,
    words (chunker.chunkOf metadata slice ordinal).content =
      words (chunker.headingText metadata slice.path) ++ slice.units.flatMap words
  headings : ∃ groups : List (List Slice), groups.flatten = chunker.slicesOf metadata text ∧
    List.Forall₂ (chunker.Holds metadata) groups (chunker.split text metadata)
  ordinals : (chunker.split text metadata).map Chunk.ordinal =
    List.range (chunker.split text metadata).length
  metadataOrdinals : ∀ chunk ∈ chunker.split text metadata,
    chunk.metadata.lookup "ordinal" = some (JsonValue.num chunk.ordinal)

/-- **Chunks are covering windows**, and but for white space nothing of the text is lost. -/
theorem coveringWindows (metadata : Metadata υ) (text : String) :
    chunker.CoveringWindows metadata text where
  windows part _ := chunker.exists_sentenceWindows _ part.units
  letters part _ := chunker.letters_sectionPieces _ part.units
  chunks := chunker.rawChunks_eq metadata text
  words slice _ ordinal := chunker.words_chunkOf metadata slice ordinal
  headings := chunker.split_holds metadata text
  ordinals := (chunker.split_ordinals metadata text).1
  metadataOrdinals := (chunker.split_ordinals metadata text).2

end Sentences

/-- A counter of twenty tokens a character: a chunk has room for one token under a heading. -/
def narrowChunker : TokenAwareChunker where
  count s := 20 * s.length
  chunkTokens := 32
  overlapTokens := 0
  minTokens := 1
  chunkTokens_ge := le_rfl
  overlapTokens_le := Nat.zero_le _
  minTokens_pos := le_rfl
  minTokens_le := by decide

/-- A sentence with wide spaces in it, under a heading. -/
def spacedText : String := "# h\na　　　　　　　　b"

/-- **White space is lost**: slices of nothing else are left out. -/
theorem spaces_lost :
    ¬(((iterSections spacedText).flatMap Section.units).flatMap String.toList).Sublist
      ((narrowChunker.rawChunks ([] : Metadata String) spacedText).flatMap
        fun chunk => chunk.content.toList) := by
  decide +kernel

end TokenAwareChunker
end Rag
end TopChoice
