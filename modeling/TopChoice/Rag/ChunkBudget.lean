/-
# What a chunk of estimated tokens holds

The chunker of `apps/rag-svc/app/ingestion/chunker.py` adds up the tokens of sentences, each
rounded on its own, and sets the tokens of the heading aside; the tokens of a chunk are those
of the joined text.  With `estimate_tokens` the two differ: the quarters that rounding drops
and the blanks between sentences add up, a heading may leave no room at all, slices of an
Arabic word are cut for a third of a token a letter, and folding a stub joins once more.  So
a chunk fits exactly where the letters of its pieces do (`tokenCounts_le_iff`).
-/

import Mathlib.Algebra.BigOperators.Ring.List
import TopChoice.Rag.ChunkWindows
import TopChoice.Rag.Tokens

namespace TopChoice
namespace Rag

/-- The quarters of a token that the letters of a text are: an Arabic letter is two. -/
def weight (text : String) : ℕ := (letters text).length + (letters text).countP isArabicChar

/-- The texts have room in `n` tokens: their letters with the blanks between the words, and
their words at three quarters each; half a token more is rounded down to an even `n`. -/
def HasRoom (n : ℕ) (texts : List String) : Prop :=
  (texts.map weight).sum + ((texts.map fun text => (words text).length).sum - 1) ≤
      4 * n + 2 - n % 2 ∧
    3 * (texts.map fun text => (words text).length).sum ≤ 4 * n + 2 - n % 2

/-- Texts that have room by their counts: no count leaves out a quarter of its letters, with a
blank behind them, or of its words. -/
theorem hasRoom_of_counts {n : ℕ} {texts : List String}
    (hcovers : ∀ text ∈ texts, weight text + (words text).length ≤ 4 * countTokens text ∧
      3 * (words text).length ≤ 4 * countTokens text)
    (hsum : (texts.map countTokens).sum ≤ n) : HasRoom n texts := by
  have hletters : (texts.map weight).sum + (texts.map fun text => (words text).length).sum ≤
      4 * (texts.map countTokens).sum := by
    rw [← List.sum_map_add, ← List.sum_map_mul_left]
    exact List.sum_le_sum fun text htext => (hcovers text htext).1
  have hwords : 3 * (texts.map fun text => (words text).length).sum ≤
      4 * (texts.map countTokens).sum := by
    rw [← List.sum_map_mul_left, ← List.sum_map_mul_left]
    exact List.sum_le_sum fun text htext => (hcovers text htext).2
  constructor <;> omega

namespace TokenAwareChunker

variable (chunker : TokenAwareChunker)

/-- The chunker where `tiktoken` has no encoding. -/
def offline : TokenAwareChunker := { chunker with count := countTokens }

/-! The last two of a list, by its reverse. -/

theorem eq_append_of_reverse {α : Type} {l rest : List α} {a b : α}
    (h : l.reverse = b :: a :: rest) : l = rest.reverse ++ [a, b] := by
  rw [← List.reverse_reverse l, h]
  simp

theorem length_lt_two_of_reverse {α : Type} {l : List α}
    (h : ∀ b a rest, l.reverse = b :: a :: rest → False) : l.length < 2 := by
  rw [← List.length_reverse]
  match hcase : l.reverse with
  | [] => exact Nat.zero_lt_two
  | [b] => exact Nat.one_lt_two
  | b :: a :: rest => exact (h b a rest hcase).elim

variable {υ : Type} [JsonValue υ]

section Pieces

variable (metadata : Metadata υ)

/-- The text of a slice's chunk. -/
def sliceText (slice : Slice) : String :=
  strip ((chunker.frame metadata slice.path).start ++ body slice.units)

/-- What is left of a stub when it is folded. -/
def stubText (slice : Slice) : String :=
  strip ( removeprefix (chunker.sliceText metadata slice)
    (chunker.headingText metadata slice.path))

/-- Whether the second of the last two slices is a stub that is folded into the first. -/
def Folds (a b : Slice) : Prop :=
  chunker.count (chunker.sliceText metadata b) < chunker.minTokens ∧
    (chunker.frame metadata b.path).heading = (chunker.frame metadata a.path).heading ∧
    chunker.count (chunker.sliceText metadata a) + chunker.count (chunker.sliceText metadata b) ≤
      chunker.chunkTokens

instance (a b : Slice) : Decidable (chunker.Folds metadata a b) :=
  inferInstanceAs (Decidable (_ ∧ _ ∧ _))

/-- The heading and the units of a slice. -/
def texts (slice : Slice) : List String :=
  chunker.headingText metadata slice.path :: slice.units

/-- The texts that are joined to each chunk. -/
def pieces (text : String) : List (List String) :=
  match (chunker.slicesOf metadata text).reverse with
  | b :: a :: rest =>
      if chunker.Folds metadata a b then
        (rest.reverse.map (chunker.texts metadata)) ++
          [chunker.texts metadata a ++ [chunker.stubText metadata b]]
      else (chunker.slicesOf metadata text).map (chunker.texts metadata)
  | _ => (chunker.slicesOf metadata text).map (chunker.texts metadata)

end Pieces

omit [JsonValue υ] in
/-- Two chunks at the end. -/
theorem mergeTrailingStub_append (chunks : List (Chunk υ)) (previous last : Chunk υ) :
    chunker.mergeTrailingStub (chunks ++ [previous, last]) =
      if last.tokenCount < chunker.minTokens ∧ last.heading = previous.heading ∧
          previous.tokenCount + last.tokenCount ≤ chunker.chunkTokens then
        chunks ++ [{ previous with
          content := strip (previous.content ++ " " ++
            strip ( removeprefix last.content (previous.heading.getD "")))
          tokenCount := chunker.count (strip (previous.content ++ " " ++
            strip ( removeprefix last.content (previous.heading.getD "")))) }]
      else chunks ++ [previous, last] := by
  have hreverse : (chunks ++ [previous, last]).reverse = last :: previous :: chunks.reverse :=
    List.reverse_append
  rw [mergeTrailingStub, hreverse]
  dsimp only
  rw [List.reverse_reverse]
  split_ifs with hkeep hfold hfold
  · exact absurd hkeep (by rw [not_or, not_or, not_le, not_ne_iff, not_lt]; exact hfold)
  · rfl
  · rfl
  · rw [not_or, not_or, not_le, not_ne_iff, not_lt] at hkeep
    exact absurd hkeep hfold

omit [JsonValue υ] in
/-- One chunk is not folded. -/
theorem mergeTrailingStub_of_length_lt {chunks : List (Chunk υ)} (h : chunks.length < 2) :
    chunker.mergeTrailingStub chunks = chunks := by
  match chunks, h with
  | [], _ => rfl
  | [chunk], _ => rfl

/-- The chunks of numbered slices hold their texts. -/
theorem words_numbered (metadata : Metadata υ) (slices : List Slice) (n : ℕ) :
    ((slices.zipIdx n).map fun slice => chunker.chunkOf metadata slice.1 slice.2).map
        (fun chunk => words chunk.content) =
      (slices.map (chunker.texts metadata)).map fun texts => texts.flatMap words := by
  induction slices generalizing n with
  | nil => rfl
  | cons slice slices ih =>
    rw [List.zipIdx_cons, List.map_cons, List.map_cons, ih, List.map_cons, List.map_cons,
      words_chunkOf, texts, List.flatMap_cons]

/-- The chunks of numbered slices, up to the last two and the last two. -/
theorem numbered_append (metadata : Metadata υ) (slices : List Slice) (a b : Slice) :
    ((slices ++ [a, b]).zipIdx.map fun slice => chunker.chunkOf metadata slice.1 slice.2) =
      (slices.zipIdx.map fun slice => chunker.chunkOf metadata slice.1 slice.2) ++
        [chunker.chunkOf metadata a slices.length,
          chunker.chunkOf metadata b (slices.length + 1)] := by
  rw [List.zipIdx_append, List.map_append, Nat.zero_add]
  rfl

/-- **The words of the chunks** are those of the texts that are joined. -/
theorem words_split (metadata : Metadata υ) (text : String) :
    (chunker.split text metadata).map (fun chunk => words chunk.content) =
      (chunker.pieces metadata text).map fun texts => texts.flatMap words := by
  rw [split_eq, rawChunks_eq, pieces]
  generalize chunker.slicesOf metadata text = slices
  split
  next b a rest hreverse =>
    have hnumbered := chunker.numbered_append metadata rest.reverse a b
    rw [← eq_append_of_reverse hreverse] at hnumbered
    have hmerge := chunker.mergeTrailingStub_append
      (rest.reverse.zipIdx.map fun slice => chunker.chunkOf metadata slice.1 slice.2)
      (chunker.chunkOf metadata a rest.reverse.length)
      (chunker.chunkOf metadata b (rest.reverse.length + 1))
    by_cases hfolds : chunker.Folds metadata a b
    · have hheading : (chunker.chunkOf metadata a rest.reverse.length).heading.getD "" =
          chunker.headingText metadata b.path := congrArg (Option.getD · "") hfolds.2.1.symm
      rw [hnumbered, hmerge.trans (if_pos hfolds), if_pos hfolds, List.map_append,
        List.map_append, words_numbered, List.map_singleton, List.map_singleton, words_strip,
        words_append_blank, words_chunkOf, hheading, texts, List.cons_append, List.flatMap_cons,
        List.flatMap_append, List.flatMap_singleton, List.append_assoc]
      rfl
    · rw [hnumbered, hmerge.trans (if_neg hfolds), if_neg hfolds, ← hnumbered, words_numbered]
  next hshort =>
    have hlength := length_lt_two_of_reverse hshort
    rw [mergeTrailingStub_of_length_lt _ (by simpa using hlength), words_numbered]

/-- How many tokens the text of a slice has, by its words. -/
theorem countTokens_sliceText_le_iff (metadata : Metadata υ) (slice : Slice) {n : ℕ}
    (hn : 1 ≤ n) :
    countTokens (chunker.sliceText metadata slice) ≤ n ↔
      quarters ((chunker.texts metadata slice).flatMap words) ≤ 4 * n + 2 - n % 2 := by
  have hwords := chunker.words_chunkOf metadata slice 0
  rw [content_chunkOf, ← List.flatMap_cons] at hwords
  rw [countTokens_le_iff _ hn, sliceText, hwords, texts]

omit [JsonValue υ] in
/-- **But for the rounding the packing keeps the budget**: a run of sentences under a heading
that leaves room has room, where the counts cover what is counted. -/
theorem hasRoom_run (metadata : Metadata υ) (path : List String) {xs units : List String}
    {w : Windows.Rule.Window String}
    (hshows : (chunker.offline.unitRule (chunker.offline.frame metadata path)).Shows xs w)
    (hrun : w.part = .run units)
    (hheading : chunker.minTokens + countTokens (chunker.offline.headingText metadata path) ≤
      chunker.chunkTokens)
    (hcovers : ∀ text ∈ chunker.offline.texts metadata ⟨path, units⟩,
      weight text + (words text).length ≤ 4 * countTokens text ∧
        3 * (words text).length ≤ 4 * countTokens text) :
    HasRoom chunker.chunkTokens (chunker.offline.texts metadata ⟨path, units⟩) := by
  have hstart : countTokens (chunker.offline.frame metadata path).start =
      countTokens (chunker.offline.headingText metadata path) := by
    rw [start_frame]
    split_ifs with hempty
    · rw [hempty]
    · refine countTokens_congr ?_
      rw [words_append (t := "\n") rfl (by decide)]
      exact List.append_nil _
  have hbudget : (chunker.offline.frame metadata path).budget = max chunker.minTokens
      (chunker.chunkTokens - countTokens (chunker.offline.frame metadata path).start) := rfl
  obtain ⟨-, -, hpart⟩ := hshows
  rw [hrun] at hpart
  have htotal : (units.map countTokens).sum ≤ (chunker.offline.frame metadata path).budget :=
    hpart.2
  rw [hbudget, hstart] at htotal
  refine hasRoom_of_counts hcovers ?_
  rw [texts, List.map_cons, List.sum_cons]
  change countTokens (chunker.offline.headingText metadata path) + (units.map countTokens).sum ≤ _
  omega

end TokenAwareChunker
end Rag
end TopChoice
