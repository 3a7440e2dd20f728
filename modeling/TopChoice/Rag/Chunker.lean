/-
# Token-aware chunks

`apps/rag-svc/app/ingestion/chunker.py`: a text is cut at its markdown headings into
sections, a section into sentences, and the sentences are packed into chunks of a token
budget; a chunk repeats the last sentences of the one before, and a sentence over the
budget is cut into words.  The token counter is a parameter.

`metadata` is a `dict` with values of any type that holds numbers and texts.
-/

import TopChoice.Lib.Backtrack
import TopChoice.Rag.PyText

namespace TopChoice
namespace Rag

/-- The values of a `dict` the chunker and the loaders put there. -/
class JsonValue (υ : Type) where
  num : ℕ → υ
  str : String → υ
  /-- The text of a value that is one and is not empty. -/
  text : υ → Option String

/-- A `dict` of texts. -/
instance : JsonValue String where
  num := toString
  str := id
  text s := if s = "" then none else some s

/-- A `dict`, its keys in the order they were set. -/
abbrev Metadata (υ : Type) := List (String × υ)

/-- `metadata[key] = value`. -/
def Metadata.set {υ : Type} (metadata : Metadata υ) (key : String) (value : υ) : Metadata υ :=
  if metadata.any (·.1 = key) then
    metadata.map fun item => if item.1 = key then (key, value) else item
  else metadata ++ [(key, value)]

/-- `metadata[key]`, of what was set there. -/
theorem Metadata.lookup_set_self {υ : Type} (metadata : Metadata υ) (key : String) (value : υ) :
    (metadata.set key value).lookup key = some value := by
  rw [Metadata.set]
  split_ifs with hany
  · induction metadata with
    | nil => cases hany
    | cons item metadata ih =>
      rw [List.map_cons]
      by_cases hkey : item.1 = key
      · rw [if_pos hkey, List.lookup_cons_self]
      · rw [if_neg hkey, List.lookup_cons, beq_eq_false_iff_ne.2 (Ne.symm hkey)]
        rw [List.any_cons, decide_eq_false hkey, Bool.false_or] at hany
        exact ih hany
  · have hnone : metadata.lookup key = none := by
      rw [List.lookup_eq_none_iff]
      intro item hitem
      rw [bne_iff_ne]
      rintro rfl
      exact hany (List.any_eq_true.2 ⟨item, hitem, decide_eq_true rfl⟩)
    rw [List.lookup_append, hnone, List.lookup_cons_self]
    rfl

/-- Setting a key leaves the others. -/
theorem Metadata.lookup_set_of_ne {υ : Type} (metadata : Metadata υ) {key other : String}
    (h : other ≠ key) (value : υ) :
    (metadata.set key value).lookup other = metadata.lookup other := by
  rw [Metadata.set]
  split_ifs with hany
  · clear hany
    induction metadata with
    | nil => rfl
    | cons item metadata ih =>
      rw [List.map_cons]
      by_cases hkey : item.1 = key
      · rw [if_pos hkey, List.lookup_cons, List.lookup_cons, hkey, beq_eq_false_iff_ne.2 h, ih]
      · rw [if_neg hkey, List.lookup_cons, List.lookup_cons, ih]
  · rw [List.lookup_append, List.lookup_cons, beq_eq_false_iff_ne.2 h]
    exact Option.or_none

/-- One slice of a document. -/
structure Chunk (υ : Type) where
  ordinal : ℕ
  content : String
  tokenCount : ℕ
  heading : Option String
  metadata : Metadata υ
  deriving DecidableEq, Repr

/-! ### Sections and sentences -/

open Backtrack (Pattern)

/-- `HEADING_RE`: `^(#{1,6})\s+(.+?)\s*#*$`. -/
def headingRe : Pattern :=
  .all [.group "1" (.all [.one (· = '#'), .upTo 5 (.one (· = '#'))]), .plus (.one isSpace),
    .group "2" (.lazyPlus (.one (· ≠ '\n'))), .star (.one isSpace), .star (.one (· = '#')), .finish]

/-- `SENTENCE_SPLIT_RE`: white space behind `.`, `!`, `?`, `؟`, `۔` or `…`. -/
def sentenceSplitRe : Pattern :=
  .all [.behind fun c => decide (c.toNat ∈ [0x2E, 0x21, 0x3F, 0x61F, 0x6D4, 0x2026]),
    .plus (.one isSpace)]

/-- `WHITESPACE_RE.sub(" ", line)`: runs of blanks, tabs and no-break spaces. -/
def collapseBlanks : List Char → List Char
  | [] => []
  | c :: rest =>
      if c.toNat ∈ [0x20, 0x09, 0xA0] then
        match collapseBlanks rest with
        | ' ' :: rest' => ' ' :: rest'
        | rest' => ' ' :: rest'
      else c :: collapseBlanks rest

/-- `split_sentences`. -/
def splitSentences (line : String) : List String :=
  let cleaned := strip (String.ofList (collapseBlanks line.toList))
  if cleaned.isEmpty then []
  else ((sentenceSplitRe.split cleaned.toList).map fun part => strip (String.ofList part)).filter
    (· ≠ "")

/-- A heading path and the sentences under it. -/
structure Section where
  path : List String
  units : List String
  deriving DecidableEq, Repr

/-- `iter_sections`, with the headings above the present line and the sentences read
since the last one. -/
def sectionsFrom (headingStack units : List String) : List String → List Section
  | [] => if units.isEmpty then [] else [⟨headingStack, units⟩]
  | line :: lines =>
      match headingRe.matchAt (.start (strip line).toList) with
      | some place =>
          let level := ((place.group "1").getD []).length
          let title := strip (String.ofList ((place.group "2").getD []))
          let rest := sectionsFrom (headingStack.take (level - 1) ++ [title]) [] lines
          if units.isEmpty then rest else ⟨headingStack, units⟩ :: rest
      | none =>
          if isBlank line then sectionsFrom headingStack units lines
          else sectionsFrom headingStack (units ++ splitSentences (rstrip line)) lines

/-- `iter_sections`. -/
def iterSections (text : String) : List Section := sectionsFrom [] [] (splitlines text)

/-! ### The chunker -/

/-- `TokenAwareChunker`: the counter and the limits. -/
structure TokenAwareChunker where
  count : String → ℕ
  chunkTokens : ℕ
  overlapTokens : ℕ
  minTokens : ℕ
  chunkTokens_ge : 32 ≤ chunkTokens
  overlapTokens_le : overlapTokens ≤ chunkTokens / 2
  minTokens_pos : 1 ≤ minTokens
  minTokens_le : minTokens ≤ chunkTokens

/-- `TokenAwareChunker(counter, settings=...)`. -/
def TokenAwareChunker.ofSettings (count : String → ℕ) (ragChunkTokens ragChunkOverlapTokens
    ragChunkMinTokens : ℤ) : TokenAwareChunker where
  count := count
  chunkTokens := (max 32 ragChunkTokens).toNat
  overlapTokens := (max 0 (min ragChunkOverlapTokens (max 32 ragChunkTokens / 2))).toNat
  minTokens := (max 1 (min ragChunkMinTokens (max 32 ragChunkTokens))).toNat
  chunkTokens_ge := by omega
  overlapTokens_le := by omega
  minTokens_pos := by omega
  minTokens_le := by omega

namespace TokenAwareChunker

variable (chunker : TokenAwareChunker)

/-- The tail collected so far and its cost, and the pieces before it, the last one first. -/
def tailFrom (cost : String → ℕ) (budget : ℕ) (tail : List String) (total : ℕ) :
    List String → List String × ℕ
  | [] => (tail, total)
  | piece :: earlier =>
      if budget < total + cost piece then (tail, total)
      else tailFrom cost budget (piece :: tail) (total + cost piece) earlier

/-- The longest tail of the pieces that costs at most so many tokens, and its cost. -/
def tailWithin (cost : String → ℕ) (budget : ℕ) (pieces : List String) : List String × ℕ :=
  tailFrom cost budget [] 0 pieces.reverse

/-- `_overlap_tail`. -/
def overlapTail (units : List String) (overlapBudget : ℕ) : List String × ℕ :=
  if overlapBudget = 0 ∨ units.isEmpty then ([], 0)
  else tailWithin chunker.count overlapBudget units

/-- `self.counter.count(word) or 1`. -/
def wordTokens (word : String) : ℕ := if chunker.count word = 0 then 1 else chunker.count word

/-- `_word_overlap`. -/
def wordOverlap (words : List String) (overlapBudget : ℕ) : List String × ℕ :=
  if overlapBudget = 0 then ([], 0) else tailWithin chunker.wordTokens overlapBudget words

/-- `_split_by_characters`. -/
def splitByCharacters (word : String) (budget : ℕ) : List String :=
  (List.range ((word.length + max 1 (budget * 3) - 1) / max 1 (budget * 3))).map fun k =>
    String.ofList ((word.toList.drop (k * max 1 (budget * 3))).take (max 1 (budget * 3)))

/-- The pieces cut so far, and those that wait with their cost. -/
structure Packing (π : Type) where
  done : List π
  current : List String
  currentTokens : ℕ

/-- One word of `_hard_split`. -/
def hardSplitWord (budget overlapBudget : ℕ) (s : Packing String) (word : String) :
    Packing String :=
  let tokens := chunker.wordTokens word
  if budget < tokens then
    ⟨(if s.current.isEmpty then s.done else s.done ++ [" ".intercalate s.current]) ++
      splitByCharacters word budget, [], 0⟩
  else if !s.current.isEmpty && decide (budget < s.currentTokens + tokens) then
    let kept := chunker.wordOverlap s.current overlapBudget
    let kept := if !kept.1.isEmpty && decide (budget < kept.2 + tokens) then ([], 0) else kept
    ⟨s.done ++ [" ".intercalate s.current], kept.1 ++ [word], kept.2 + tokens⟩
  else ⟨s.done, s.current ++ [word], s.currentTokens + tokens⟩

/-- `_hard_split`. -/
def hardSplit (unit : String) (budget overlapBudget : ℕ) : List String :=
  let s := (splitBlanks unit).foldl (chunker.hardSplitWord budget overlapBudget) ⟨[], [], 0⟩
  (if s.current.isEmpty then s.done else s.done ++ [" ".intercalate s.current]).filter
    fun piece => !isBlank piece

variable {υ : Type} [JsonValue υ]

/-- `_make`. -/
def make (ordinal : ℕ) (start : String) (units : List String) (heading : Option String)
    (metadata : Metadata υ) : Chunk υ :=
  let body := " ".intercalate ((units.map strip).filter (· ≠ ""))
  let content := strip (start ++ body)
  let metadata := metadata.set "ordinal" (JsonValue.num ordinal)
  { ordinal := ordinal
    content := content
    tokenCount := chunker.count content
    heading := heading
    metadata :=
      match heading.filter (· ≠ "") with
      | some heading => metadata.set "heading" (JsonValue.str heading)
      | none => metadata }

/-- What `split` keeps fixed over a section. -/
structure Frame (υ : Type) where
  start : String
  heading : Option String
  metadata : Metadata υ
  budget : ℕ
  overlapBudget : ℕ

/-- The frame of a section. -/
def frame (metadata : Metadata υ) (path : List String) : Frame υ :=
  let heading := if path.isEmpty then none else some (" > ".intercalate path)
  let start := match heading.filter (· ≠ "") with
    | some heading => heading ++ "\n"
    | none => ""
  let budget := max chunker.minTokens (chunker.chunkTokens - chunker.count start)
  ⟨start, heading, metadata, budget, min chunker.overlapTokens (budget / 2)⟩

/-- One more chunk. -/
def emit (f : Frame υ) (chunks : List (Chunk υ)) (units : List String) : List (Chunk υ) :=
  chunks ++ [chunker.make chunks.length f.start units f.heading f.metadata]

/-- One sentence of a section. -/
def splitUnit (f : Frame υ) (s : Packing (Chunk υ)) (unit : String) : Packing (Chunk υ) :=
  let tokens := chunker.count unit
  if f.budget < tokens then
    let chunks := if s.current.isEmpty then s.done else chunker.emit f s.done s.current
    ⟨(chunker.hardSplit unit f.budget f.overlapBudget).foldl
      (fun chunks piece => chunker.emit f chunks [piece]) chunks, [], 0⟩
  else if !s.current.isEmpty && decide (f.budget < s.currentTokens + tokens) then
    let kept := chunker.overlapTail s.current f.overlapBudget
    -- the overlap would push the new chunk over budget: it is dropped
    let kept := if !kept.1.isEmpty && decide (f.budget < kept.2 + tokens) then ([], 0) else kept
    ⟨chunker.emit f s.done s.current, kept.1 ++ [unit], kept.2 + tokens⟩
  else ⟨s.done, s.current ++ [unit], s.currentTokens + tokens⟩

/-- One section. -/
def splitSection (metadata : Metadata υ) (chunks : List (Chunk υ)) (part : Section) :
    List (Chunk υ) :=
  let f := chunker.frame metadata part.path
  let s := part.units.foldl (chunker.splitUnit f) ⟨chunks, [], 0⟩
  if s.current.isEmpty then s.done else chunker.emit f s.done s.current

/-- `_merge_trailing_stub`. -/
def mergeTrailingStub (chunks : List (Chunk υ)) : List (Chunk υ) :=
  match chunks.reverse with
  | last :: previous :: rest =>
      if chunker.minTokens ≤ last.tokenCount ∨ last.heading ≠ previous.heading ∨
          chunker.chunkTokens < previous.tokenCount + last.tokenCount then chunks
      else
        let tail := strip <| removeprefix last.content (previous.heading.getD "")
        let mergedContent := strip (previous.content ++ " " ++ tail)
        rest.reverse ++ [{ previous with
          content := mergedContent
          tokenCount := chunker.count mergedContent }]
  | _ => chunks

/-- `split`. -/
def split (text : String) (metadata : Metadata υ) : List (Chunk υ) :=
  chunker.mergeTrailingStub ((iterSections text).foldl (chunker.splitSection metadata) [])

end TokenAwareChunker

end Rag
end TopChoice
