/-
# What a folded stub repeats

`TokenAwareChunker.split` of `apps/rag-svc/app/ingestion/chunker.py` begins a chunk with a tail of
the one before it, and `_merge_trailing_stub` folds the last chunk into the one before it.  A chunk
covers a stretch of its section, sentence by sentence or piece by piece, unless the stub that is
folded begins with such a tail or is of another section with the same heading
(`split_covers_iff`): the counts of the two are rounded, so that a tail may survive.
-/

import TopChoice.Rag.ChunkBudget
import TopChoice.Rag.HeadingTitles

namespace TopChoice
namespace Rag
namespace TokenAwareChunker

open Windows (Rule Segment)
open Windows.Rule (Window length_slice slice slice_append)

/-- A slice with the number of its section and the window it is cut from. -/
structure Placed where
  number : ℕ
  window : Window String
  slice : Slice

variable (chunker : TokenAwareChunker) {υ : Type} (metadata : Metadata υ)

/-- The slices of a section. -/
def placedSection (number : ℕ) (part : Section) : List Placed :=
  ((chunker.unitRule (chunker.frame metadata part.path)).windows part.units).flatMap fun w =>
    (chunker.unitPieces (chunker.frame metadata part.path) w.part).map fun units =>
      ⟨number, w, part.path, units⟩

/-- The slices of a text. -/
def placed (text : String) : List Placed :=
  ((iterSections text).zipIdx).flatMap fun part => chunker.placedSection metadata part.2 part.1

/-- The slices that each chunk is made of: the last two together when the last is folded. -/
def covers (text : String) : List (List Placed) :=
  match (chunker.placed metadata text).reverse with
  | b :: a :: rest =>
      if chunker.Folds metadata a.slice b.slice then
        (rest.reverse.map fun s => [s]) ++ [[a, b]]
      else (chunker.placed metadata text).map fun s => [s]
  | _ => (chunker.placed metadata text).map fun s => [s]

/-- The slices are pieces of one sentence, or their sentences are those of a stretch, from where
the first one begins to where the last one ends. -/
def OfStretch (units : List String) (group : List Placed) : Prop :=
  (∃ w, ∀ s ∈ group, s.window = w) ∨
    ∃ first last, group.head? = some first ∧ group.getLast? = some last ∧
      (group.flatMap fun s => s.window.part.items) =
        slice units first.window.start last.window.stop

/-- A chunk has behind its heading the words of its slices, and these are of one stretch of one
section. -/
def CoversStretch (text : String) (chunk : Chunk υ) (group : List Placed) : Prop :=
  ∃ number part, (iterSections text)[number]? = some part ∧ (∀ s ∈ group, s.number = number) ∧
    words chunk.content = words (chunker.headingText metadata part.path) ++
      group.flatMap (fun s => s.slice.units.flatMap words) ∧
    OfStretch part.units group

/-- A stub that is folded is of the section of the chunk before it and begins where that ends, or
both are pieces of one sentence. -/
def FoldsInOrder (text : String) : Prop :=
  ∀ a b rest, (chunker.placed metadata text).reverse = b :: a :: rest →
    chunker.Folds metadata a.slice b.slice →
      a.number = b.number ∧ (a.window = b.window ∨ a.window.stop = b.window.start)

/-! ### Slices and their places -/

theorem placed_slices (text : String) :
    (chunker.placed metadata text).map Placed.slice = chunker.slicesOf metadata text := by
  have hsection (number : ℕ) (part : Section) :
      (chunker.placedSection metadata number part).map Placed.slice =
        (chunker.sectionPieces (chunker.frame metadata part.path) part.units).map fun units =>
          ⟨part.path, units⟩ := by
    rw [placedSection, sectionPieces, ← Rule.windows_part, List.flatMap_map, List.map_flatMap,
      List.map_flatMap]
    simp only [List.map_map]
    rfl
  have hsections := List.flatMap_map (f := Prod.fst) (l := (iterSections text).zipIdx)
    (g := fun part => (chunker.sectionPieces (chunker.frame metadata part.path) part.units).map
      fun units => (⟨part.path, units⟩ : Slice))
  rw [List.zipIdx_map_fst] at hsections
  rw [placed, List.map_flatMap, slicesOf, hsections]
  simp only [hsection]

/-- Where a slice comes from. -/
structure Cut (part : Section) (s : Placed) : Prop where
  path : s.slice.path = part.path
  shows : (chunker.unitRule (chunker.frame metadata part.path)).Shows part.units s.window
  units : s.slice.units ∈ chunker.unitPieces (chunker.frame metadata part.path) s.window.part

theorem exists_cut {text : String} {s : Placed} (h : s ∈ chunker.placed metadata text) :
    ∃ part, (iterSections text)[s.number]? = some part ∧ chunker.Cut metadata part s := by
  obtain ⟨⟨part, number⟩, hpart, h⟩ := List.mem_flatMap.1 h
  obtain ⟨w, hw, h⟩ := List.mem_flatMap.1 h
  obtain ⟨units, hunits, rfl⟩ := List.mem_map.1 h
  exact ⟨part, List.mem_zipIdx_iff_getElem?.1 hpart,
    rfl, (Rule.windows_covering _ part.units).shows w hw, hunits⟩

/-- **A slice has words.** -/
theorem Cut.words_ne_nil {part : Section} {s : Placed} (h : chunker.Cut metadata part s)
    (hpart : WellRead part) : s.slice.units.flatMap words ≠ [] := by
  obtain ⟨hstart, hstop, hpiece⟩ := h.shows
  have hunits := h.units
  cases hcase : s.window.part with
  | run items =>
    rw [hcase] at hpiece hunits
    obtain rfl : s.slice.units = items := List.mem_singleton.1 hunits
    have hlength := length_slice part.units s.window.start hstop
    rw [← hpiece.1] at hlength
    obtain ⟨unit, hunit⟩ := List.exists_mem_of_length_pos (l := s.slice.units) (by omega)
    have hmem : unit ∈ part.units := by
      rw [hpiece.1] at hunit
      exact List.mem_of_mem_drop (List.mem_of_mem_take hunit)
    intro hnone
    exact (hpart.sentences unit hmem).words_ne_nil (List.flatMap_eq_nil_iff.1 hnone unit hunit)
  | oversize item =>
    rw [hcase] at hunits
    obtain ⟨piece, hpiece, hsingle⟩ := List.mem_map.1 hunits
    rw [← hsingle, List.flatMap_singleton]
    exact words_ne_nil_of_isBlank (by simpa using (List.mem_filter.1 hpiece).2)

/-! ### What a chunk covers -/

/-- **What is left of a stub has its words**: the heading is taken off. -/
theorem words_stubText {slice : Slice} (hpath : ∀ title ∈ slice.path, BeginsWithLetter title)
    (hunits : slice.units.flatMap words ≠ []) :
    words (chunker.stubText metadata slice) = slice.units.flatMap words := by
  rw [← words_body] at hunits ⊢
  rw [stubText, words_strip, sliceText, start_frame]
  rcases chunker.headingText_cases metadata hpath with hempty | hheading
  · have hkept (s : String) : removeprefix s "" = s := String.ofList_toList
    rw [if_pos hempty, hempty, hkept, String.empty_append, words_strip]
  · have hne : chunker.headingText metadata slice.path ≠ "" := by
      intro hempty
      exact hheading.words_ne_nil (hempty ▸ rfl)
    rw [if_neg hne]
    exact words_removeprefix_heading hheading hunits

section Chunks

variable [JsonValue υ] {text : String}

/-- A slice of its own is of the stretch of its window. -/
theorem coversStretch_single {s : Placed} (hs : s ∈ chunker.placed metadata text) (ordinal : ℕ) :
    chunker.CoversStretch metadata text (chunker.chunkOf metadata s.slice ordinal) [s] := by
  obtain ⟨part, hpart, hcut⟩ := chunker.exists_cut metadata hs
  refine ⟨s.number, part, hpart, by simp, ?_, .inl ⟨s.window, by simp⟩⟩
  rw [words_chunkOf, hcut.path, List.flatMap_singleton]

/-- Chunks of one slice each. -/
theorem forall₂_coversStretch {slices : List Placed}
    (h : ∀ s ∈ slices, s ∈ chunker.placed metadata text) (n : ℕ) :
    List.Forall₂ (chunker.CoversStretch metadata text)
      (((slices.map Placed.slice).zipIdx n).map fun slice =>
        chunker.chunkOf metadata slice.1 slice.2)
      (slices.map fun s => [s]) := by
  induction slices generalizing n with
  | nil => exact .nil
  | cons s slices ih =>
    obtain ⟨hs, hslices⟩ := List.forall_mem_cons.1 h
    exact .cons (chunker.coversStretch_single metadata hs n) (ih hslices (n + 1))

omit [JsonValue υ] in
/-- **Two slices that are joined** are of a stretch where the second begins at the end of the
first, or both are of one sentence. -/
theorem coversStretch_pair_iff {a b : Placed} (ha : a ∈ chunker.placed metadata text)
    (hb : b ∈ chunker.placed metadata text) {chunk : Chunk υ}
    (hwords : words chunk.content = words (chunker.headingText metadata a.slice.path) ++
      (a.slice.units.flatMap words ++ b.slice.units.flatMap words)) :
    chunker.CoversStretch metadata text chunk [a, b] ↔
      a.number = b.number ∧ (a.window = b.window ∨ a.window.stop = b.window.start) := by
  obtain ⟨part, hpart, hcut⟩ := chunker.exists_cut metadata ha
  obtain ⟨part', hpart', hcut'⟩ := chunker.exists_cut metadata hb
  constructor
  · rintro ⟨number, part'', hpart'', hnumber, -, hstretch⟩
    obtain rfl := hnumber a List.mem_cons_self
    obtain hsame : b.number = a.number := hnumber b (List.mem_cons_of_mem a List.mem_cons_self)
    refine ⟨hsame.symm, ?_⟩
    rw [hsame] at hpart'
    obtain rfl := Option.some.inj (hpart.symm.trans hpart')
    obtain rfl := Option.some.inj (hpart.symm.trans hpart'')
    rcases hstretch with ⟨w, hw⟩ | ⟨first, last, hfirst, hlast, hitems⟩
    · exact .inl ((hw a List.mem_cons_self).trans
        (hw b (List.mem_cons_of_mem a List.mem_cons_self)).symm)
    · right
      obtain rfl : first = a := (Option.some.inj hfirst).symm
      obtain rfl : last = b := (Option.some.inj hlast).symm
      -- Both have at least one sentence, and together as many as the stretch.
      obtain ⟨hstart, hstop, -⟩ := hcut.shows
      obtain ⟨hstart', hstop', -⟩ := hcut'.shows
      have hlength := congrArg List.length hitems
      rw [List.flatMap_cons, List.flatMap_singleton, List.length_append, hcut.shows.items_eq,
        hcut'.shows.items_eq, length_slice _ _ hstop, length_slice _ _ hstop',
        length_slice _ _ hstop'] at hlength
      omega
  · rintro ⟨hnumber, hplace⟩
    rw [← hnumber] at hpart'
    obtain rfl := Option.some.inj (hpart.symm.trans hpart')
    refine ⟨a.number, part, hpart, by simp [hnumber], ?_, ?_⟩
    · rw [hwords, hcut.path, List.flatMap_cons, List.flatMap_singleton]
    · rcases hplace with hwindow | hnext
      · exact .inl ⟨a.window, by simp [hwindow]⟩
      · refine .inr ⟨a, b, rfl, rfl, ?_⟩
        rw [List.flatMap_cons, List.flatMap_singleton, hcut.shows.items_eq, hcut'.shows.items_eq,
          ← hnext]
        exact slice_append _ hcut.shows.1.le (hnext ▸ hcut'.shows.1.le)

/-- The chunk of a slice with a stub folded into it. -/
def foldedChunk (a b : Slice) (ordinal : ℕ) : Chunk υ :=
  let content := strip ((chunker.chunkOf metadata a ordinal).content ++ " " ++
    chunker.stubText metadata b)
  { chunker.chunkOf metadata a ordinal with
    content := content
    tokenCount := chunker.count content }

theorem mergeTrailingStub_of_folds (chunks : List (Chunk υ)) {a b : Slice}
    (hfolds : chunker.Folds metadata a b) (m n : ℕ) :
    chunker.mergeTrailingStub
        (chunks ++ [chunker.chunkOf metadata a m, chunker.chunkOf metadata b n]) =
      chunks ++ [chunker.foldedChunk metadata a b m] := by
  have hheading : (chunker.chunkOf metadata a m).heading.getD "" =
      chunker.headingText metadata b.path := congrArg (Option.getD · "") hfolds.2.1.symm
  rw [mergeTrailingStub_append, hheading]
  exact if_pos hfolds

theorem mergeTrailingStub_of_not_folds (chunks : List (Chunk υ)) {a b : Slice}
    (hfolds : ¬chunker.Folds metadata a b) (m n : ℕ) :
    chunker.mergeTrailingStub
        (chunks ++ [chunker.chunkOf metadata a m, chunker.chunkOf metadata b n]) =
      chunks ++ [chunker.chunkOf metadata a m, chunker.chunkOf metadata b n] := by
  rw [mergeTrailingStub_append]
  exact if_neg hfolds

/-- **The words of a folded chunk** are those of both slices, behind one heading. -/
theorem words_foldedChunk (a : Slice) {b : Placed} (hb : b ∈ chunker.placed metadata text)
    (ordinal : ℕ) :
    words (chunker.foldedChunk metadata a b.slice ordinal).content =
      words (chunker.headingText metadata a.path) ++
        (a.units.flatMap words ++ b.slice.units.flatMap words) := by
  obtain ⟨part, hpart, hcut⟩ := chunker.exists_cut metadata hb
  have hread := wellRead_of_mem_iterSections (List.mem_of_getElem? hpart)
  rw [foldedChunk, words_strip, words_append_blank, words_chunkOf, List.append_assoc,
    words_stubText chunker metadata (hcut.path ▸ hread.titles)
      (hcut.words_ne_nil chunker metadata hread)]

omit [JsonValue υ] in
/-- The last two slices, when there are two. -/
theorem foldsInOrder_iff {a b : Placed} {rest : List Placed}
    (hreverse : (chunker.placed metadata text).reverse = b :: a :: rest) :
    chunker.FoldsInOrder metadata text ↔ (chunker.Folds metadata a.slice b.slice →
      a.number = b.number ∧ (a.window = b.window ∨ a.window.stop = b.window.start)) := by
  rw [FoldsInOrder, hreverse]
  refine ⟨fun h => h a b rest rfl, fun h a' b' rest' hsame => ?_⟩
  simp only [List.cons.injEq] at hsame
  obtain ⟨rfl, rfl, -⟩ := hsame
  exact h

/-- **A chunk covers a stretch of its section** unless the stub that is folded begins with a tail
of the chunk before it, or is of another section. -/
theorem split_covers_iff (text : String) :
    List.Forall₂ (chunker.CoversStretch metadata text) (chunker.split text metadata)
        (chunker.covers metadata text) ↔
      chunker.FoldsInOrder metadata text := by
  have hall : ∀ s ∈ chunker.placed metadata text, s ∈ chunker.placed metadata text :=
    fun s hs => hs
  have hsingles := chunker.forall₂_coversStretch metadata hall 0
  rw [split_eq, rawChunks_eq, ← placed_slices, covers]
  split
  next b a rest hreverse =>
    have hplaced := eq_append_of_reverse hreverse
    have hmem : ∀ s ∈ rest.reverse ++ [a, b], s ∈ chunker.placed metadata text :=
      fun s hs => hplaced ▸ hs
    have hrest := chunker.forall₂_coversStretch metadata
      (fun s hs => hmem s (List.mem_append_left _ hs)) 0
    have hslices : (chunker.placed metadata text).map Placed.slice =
        rest.reverse.map Placed.slice ++ [a.slice, b.slice] := by
      rw [hplaced, List.map_append]
      rfl
    have hnumbered := chunker.numbered_append metadata (rest.reverse.map Placed.slice) a.slice
      b.slice
    rw [← hslices] at hnumbered
    rw [foldsInOrder_iff chunker metadata hreverse, hnumbered]
    by_cases hfolds : chunker.Folds metadata a.slice b.slice
    · rw [mergeTrailingStub_of_folds chunker metadata _ hfolds, if_pos hfolds,
        imp_iff_right hfolds, ← chunker.coversStretch_pair_iff metadata (hmem a (by simp))
          (hmem b (by simp)) (chunker.words_foldedChunk metadata a.slice (hmem b (by simp)) _)]
      constructor
      · intro hall
        have hlast := List.forall₂_drop_append _ _ _ hall
        rw [List.drop_left' (by simp)] at hlast
        exact (List.forall₂_cons.1 hlast).1
      · intro hpair
        exact List.rel_append hrest (.cons hpair .nil)
    · rw [mergeTrailingStub_of_not_folds chunker metadata _ hfolds, if_neg hfolds, ← hnumbered]
      exact iff_of_true hsingles fun h => absurd h hfolds
  next hshort =>
    have hlength := length_lt_two_of_reverse hshort
    rw [mergeTrailingStub_of_length_lt _ (by simpa using hlength)]
    exact iff_of_true hsingles fun a b rest hreverse => (hshort b a rest hreverse).elim

end Chunks

/-- The least budget, with an overlap, for chunks of half of it. -/
def overlappingChunker : TokenAwareChunker :=
  { narrowChunker with
    count := countTokens
    overlapTokens := 2
    minTokens := 16
    overlapTokens_le := by decide
    minTokens_pos := by decide
    minTokens_le := by decide }

/-- Lines of two words, a token and a half counted as two, and a short line before the last. -/
def twoWordLines : String := "\n".intercalate (List.replicate 15 "a b" ++ ["z", "a b"])

/-- **A sentence is repeated**: the chunk of the lines holds the short one twice. -/
theorem short_line_twice :
    ((iterSections twoWordLines).flatMap Section.units).count "z" = 1 ∧
      (overlappingChunker.split twoWordLines ([] : Metadata String)).map
        (fun chunk => (words chunk.content).count "z") = [2] := by
  have hsections : iterSections twoWordLines =
      [⟨[], List.replicate 15 "a b" ++ ["z", "a b"]⟩] := by
    rw [iterSections, twoWordLines, splitlines_intercalate (by decide)]
    decide +kernel
  have hpacked : overlappingChunker.sectionPieces
      (overlappingChunker.frame ([] : Metadata String) [])
        (List.replicate 15 "a b" ++ ["z", "a b"]) =
      [List.replicate 15 "a b" ++ ["z"], ["z", "a b"]] := by
    decide +kernel
  have hslices : overlappingChunker.slicesOf ([] : Metadata String) twoWordLines =
      [⟨[], List.replicate 15 "a b" ++ ["z"]⟩, ⟨[], ["z", "a b"]⟩] := by
    rw [slicesOf, hsections, List.flatMap_singleton, hpacked]
    rfl
  have hcount : overlappingChunker.count = countTokens := rfl
  have hlines : countTokens (overlappingChunker.sliceText ([] : Metadata String)
      ⟨[], List.replicate 15 "a b" ++ ["z"]⟩) ≤ 29 :=
    (overlappingChunker.countTokens_sliceText_le_iff _ _ (by decide)).2 (by decide +kernel)
  have hstub : countTokens (overlappingChunker.sliceText ([] : Metadata String)
      ⟨[], ["z", "a b"]⟩) ≤ 3 :=
    (overlappingChunker.countTokens_sliceText_le_iff _ _ (by decide)).2 (by decide +kernel)
  have hfolds : overlappingChunker.Folds ([] : Metadata String)
      ⟨[], List.replicate 15 "a b" ++ ["z"]⟩ ⟨[], ["z", "a b"]⟩ := by
    rw [Folds, hcount]
    exact ⟨hstub.trans_lt (by decide), rfl, Nat.add_le_add hlines hstub⟩
  have hpieces : overlappingChunker.pieces ([] : Metadata String) twoWordLines =
      [overlappingChunker.texts ([] : Metadata String) ⟨[], List.replicate 15 "a b" ++ ["z"]⟩ ++
        [overlappingChunker.stubText ([] : Metadata String) ⟨[], ["z", "a b"]⟩]] := by
    rw [pieces, hslices]
    exact if_pos hfolds
  have hwords := overlappingChunker.words_split ([] : Metadata String) twoWordLines
  rw [hpieces] at hwords
  rw [hsections]
  refine ⟨by decide, ?_⟩
  calc (overlappingChunker.split twoWordLines ([] : Metadata String)).map
        (fun chunk => (words chunk.content).count "z")
      = ((overlappingChunker.split twoWordLines ([] : Metadata String)).map
          fun chunk => words chunk.content).map (List.count "z") := List.map_map.symm
    _ = [2] := by
      rw [hwords]
      decide +kernel

end TokenAwareChunker
end Rag
end TopChoice
