/-
# The words of a text

What the chunker does to a text keeps its words: joining texts with white space puts their
words together (`words_append`, `words_intercalate`), and stripping takes none away
(`words_strip`).  The characters that are not white space are those of the words
(`letters_eq`).  Lines put one under the other are its lines (`splitlines_intercalate`).
-/

import TopChoice.Rag.PyText

namespace TopChoice
namespace Rag

section Chars

variable {c : Char} {xs ys : List Char}

theorem wordsFrom_cons_space (hc : isSpace c = true) (ys : List Char) :
    wordsFrom [] (c :: ys) = wordsFrom [] ys := by
  rw [wordsFrom, if_pos hc]
  rfl

theorem wordsFrom_cons_letter (hc : isSpace c = false) (word ys : List Char) :
    wordsFrom word (c :: ys) = wordsFrom (c :: word) ys := by
  rw [wordsFrom, if_neg (by rw [hc]; decide)]

/-- **White space ends a word.** -/
theorem wordsFrom_append_space (hc : isSpace c = true) (word xs ys : List Char) :
    wordsFrom word (xs ++ c :: ys) = wordsFrom word xs ++ wordsFrom [] ys := by
  induction xs generalizing word with
  | nil =>
    rw [List.nil_append, wordsFrom, wordsFrom, if_pos hc]
    cases word with
    | nil => rfl
    | cons d word => rfl
  | cons x xs ih =>
    rw [List.cons_append]
    cases hx : isSpace x with
    | false => rw [wordsFrom_cons_letter hx, wordsFrom_cons_letter hx, ih]
    | true =>
      rw [wordsFrom, wordsFrom, if_pos hx, if_pos hx, ih]
      cases word with
      | nil => rfl
      | cons d word => rfl

/-- White space at the end holds no words. -/
theorem wordsFrom_append_blank (word xs : List Char) (hys : ∀ c ∈ ys, isSpace c = true) :
    wordsFrom word (xs ++ ys) = wordsFrom word xs := by
  cases ys with
  | nil => rw [List.append_nil]
  | cons c ys =>
    have hblank : wordsFrom [] ys = [] := by
      have hrest : ∀ d ∈ ys, isSpace d = true := fun d hd => hys d (List.mem_cons_of_mem c hd)
      clear hys
      induction ys with
      | nil => rfl
      | cons d ys ih =>
        rw [wordsFrom_cons_space (hrest d List.mem_cons_self)]
        exact ih fun e he => hrest e (List.mem_cons_of_mem d he)
    rw [wordsFrom_append_space (hys c List.mem_cons_self), hblank, List.append_nil]

theorem wordsFrom_dropWhile (xs : List Char) :
    wordsFrom [] (xs.dropWhile isSpace) = wordsFrom [] xs := by
  induction xs with
  | nil => rfl
  | cons c xs ih =>
    cases hc : isSpace c with
    | false => rw [List.dropWhile_cons_of_neg (by rw [hc]; decide)]
    | true => rw [List.dropWhile_cons_of_pos hc, ih, wordsFrom_cons_space hc]

theorem wordsFrom_rdropWhile (word xs : List Char) :
    wordsFrom word (xs.rdropWhile isSpace) = wordsFrom word xs := by
  have hsplit := List.rdropWhile_append_rtakeWhile (p := isSpace) (l := xs)
  conv_rhs => rw [← hsplit]
  exact (wordsFrom_append_blank word _ fun c hc => List.mem_rtakeWhile_imp hc).symm

/-- A word is not empty and has no white space in it. -/
theorem of_mem_wordsFrom {word : List Char} (hword : ∀ c ∈ word, isSpace c = false) {w : String}
    (hw : w ∈ wordsFrom word xs) : w ≠ "" ∧ ∀ c ∈ w.toList, isSpace c = false := by
  have hread {word : List Char} (hne : ¬word.isEmpty = true)
      (hword : ∀ c ∈ word, isSpace c = false) :
      String.ofList word.reverse ≠ "" ∧
        ∀ c ∈ (String.ofList word.reverse).toList, isSpace c = false := by
    rw [String.toList_ofList]
    refine ⟨fun hempty => ?_, fun c hc => hword c (List.mem_reverse.1 hc)⟩
    have hnil := congrArg String.toList hempty
    rw [String.toList_ofList] at hnil
    exact hne (List.isEmpty_iff.2 (List.reverse_eq_nil_iff.1 hnil))
  induction xs generalizing word with
  | nil =>
    rw [wordsFrom] at hw
    split_ifs at hw with hne
    · cases hw
    · obtain rfl := List.mem_singleton.1 hw
      exact hread hne hword
  | cons c xs ih =>
    have hnil : ∀ c ∈ ([] : List Char), isSpace c = false := fun _ h => nomatch h
    cases hc : isSpace c with
    | false =>
      rw [wordsFrom_cons_letter hc] at hw
      exact ih (List.forall_mem_cons.2 ⟨hc, hword⟩) hw
    | true =>
      rw [wordsFrom, if_pos hc] at hw
      split_ifs at hw with hne
      · exact ih hnil hw
      · rcases List.mem_cons.1 hw with rfl | hw
        · exact hread hne hword
        · exact ih hnil hw

/-- The characters of the words read from here on. -/
theorem flatMap_wordsFrom (word xs : List Char) :
    (wordsFrom word xs).flatMap String.toList =
      word.reverse ++ xs.filter fun c => !isSpace c := by
  induction xs generalizing word with
  | nil =>
    cases word with
    | nil => rfl
    | cons d word => simp [wordsFrom]
  | cons c xs ih =>
    cases hc : isSpace c with
    | false =>
      rw [wordsFrom_cons_letter hc, ih, List.filter_cons_of_pos (by rw [hc]; rfl),
        List.reverse_cons, List.append_assoc]
      rfl
    | true =>
      rw [wordsFrom, if_pos hc, List.filter_cons_of_neg (by rw [hc]; decide)]
      cases word with
      | nil => exact ih []
      | cons d word =>
        rw [if_neg (by simp), List.flatMap_cons, ih, String.toList_ofList]
        rfl

end Chars

theorem of_mem_words {s w : String} (hw : w ∈ words s) :
    w ≠ "" ∧ ∀ c ∈ w.toList, isSpace c = false :=
  of_mem_wordsFrom (fun _ h => (List.not_mem_nil h).elim) hw

/-- The characters of a text that are not white space. -/
def letters (s : String) : List Char := s.toList.filter fun c => !isSpace c

/-- **The letters of a text are those of its words.** -/
theorem letters_eq (s : String) : letters s = (words s).flatMap String.toList :=
  (flatMap_wordsFrom [] s.toList).symm

/-- **Stripping keeps the words.** -/
theorem words_strip (s : String) : words (strip s) = words s := by
  rw [words, strip, String.toList_ofList, wordsFrom_rdropWhile, wordsFrom_dropWhile, words]

/-- A text that begins with white space adds its words. -/
theorem words_append {s t : String} {c : Char} {rest : List Char} (ht : t.toList = c :: rest)
    (hc : isSpace c = true) : words (s ++ t) = words s ++ words t := by
  rw [words, String.toList_append, ht, wordsFrom_append_space hc, words, words, ht,
    wordsFrom_cons_space hc]

/-- A blank between two texts. -/
theorem words_append_blank (s t : String) : words (s ++ " " ++ t) = words s ++ words t := by
  rw [String.append_assoc, words_append (t := " " ++ t) (String.toList_append ..) (by decide)]
  congr 1
  rw [words, String.toList_append]
  exact wordsFrom_cons_space (by decide) _

/-- **The words of texts with blanks between them.** -/
theorem words_intercalate (texts : List String) :
    words (" ".intercalate texts) = texts.flatMap words := by
  induction texts with
  | nil => rfl
  | cons s texts ih =>
    cases texts with
    | nil => rw [String.intercalate_singleton, List.flatMap_singleton]
    | cons t texts =>
      rw [String.intercalate_cons_cons, words_append_blank, ih, ← List.flatMap_cons]

/-- The letters of texts are those of their words. -/
theorem flatMap_letters (texts : List String) :
    texts.flatMap letters = (texts.flatMap words).flatMap String.toList := by
  rw [List.flatMap_assoc]
  exact congrArg texts.flatMap (funext letters_eq)

/-- The letters of texts with blanks between them. -/
theorem letters_intercalate (texts : List String) :
    letters (" ".intercalate texts) = texts.flatMap letters := by
  rw [letters_eq, words_intercalate, flatMap_letters]

/-- White space has no letters. -/
theorem letters_of_isBlank {s : String} (h : isBlank s = true) : letters s = [] := by
  rw [isBlank, List.all_eq_true] at h
  rw [letters, List.filter_eq_nil_iff]
  intro c hc
  rw [h c hc]
  decide

theorem blankPiecesFrom_ne_nil (piece chars : List Char) : blankPiecesFrom piece chars ≠ [] := by
  induction chars generalizing piece with
  | nil => exact List.cons_ne_nil _ _
  | cons c chars ih =>
    rw [blankPiecesFrom]
    split_ifs
    · exact List.cons_ne_nil _ _
    · exact ih (c :: piece)

/-- **The pieces between single blanks are the text.** -/
theorem intercalate_splitBlanks (s : String) : " ".intercalate (splitBlanks s) = s := by
  have hpieces (piece chars : List Char) :
      (" ".intercalate (blankPiecesFrom piece chars)).toList = piece.reverse ++ chars := by
    induction chars generalizing piece with
    | nil => rw [blankPiecesFrom, String.intercalate_singleton, String.toList_ofList,
        List.append_nil]
    | cons c chars ih =>
      rw [blankPiecesFrom]
      split_ifs with hc
      · rw [String.intercalate_cons_of_ne_nil (blankPiecesFrom_ne_nil [] chars),
          String.toList_append, String.toList_append, ih, String.toList_ofList, hc,
          List.append_assoc]
        rfl
      · rw [ih, List.reverse_cons, List.append_assoc]
        rfl
  exact String.toList_injective (hpieces [] s.toList)

/-! ### Lines -/

/-- The characters of a line are read into it. -/
theorem linesFrom_append {chars : List Char} (h : ∀ c ∈ chars, isLineBreak c = false)
    (line rest : List Char) :
    linesFrom line (chars ++ rest) = linesFrom (chars.reverse ++ line) rest := by
  induction chars generalizing line with
  | nil => rfl
  | cons c chars ih =>
    obtain ⟨hc, hchars⟩ := List.forall_mem_cons.1 h
    have hreturn : c = '\r' → False := by
      rintro rfl
      exact absurd hc (by decide)
    rw [List.cons_append, linesFrom, if_neg (by rw [hc]; decide), ih hchars, List.reverse_cons,
      List.append_assoc]
    · rfl
    · exact fun rest hcrlf _ => hreturn hcrlf

/-- **Lines put one under the other** are read as they are. -/
theorem splitlines_intercalate {lines : List String}
    (h : ∀ line ∈ lines, line ≠ "" ∧ ∀ c ∈ line.toList, isLineBreak c = false) :
    splitlines ("\n".intercalate lines) = lines := by
  have hline (line : String) : String.ofList (line.toList.reverse ++ []).reverse = line := by
    rw [List.append_nil, List.reverse_reverse, String.ofList_toList]
  rw [splitlines]
  induction lines with
  | nil => rfl
  | cons line lines ih =>
    obtain ⟨⟨hempty, hplain⟩, hlines⟩ := List.forall_mem_cons.1 h
    cases lines with
    | nil =>
      have hread := linesFrom_append hplain [] []
      rw [List.append_nil, linesFrom, hline] at hread
      rw [String.intercalate_singleton, hread, if_neg (by simpa using hempty)]
    | cons next lines =>
      have hbreak (rest : List Char) : linesFrom (line.toList.reverse ++ []) ('\n' :: rest) =
          line :: linesFrom [] rest := by
        rw [linesFrom, if_pos (by decide), hline]
        simp
      rw [String.intercalate_cons_cons, String.toList_append, String.toList_append,
        List.append_assoc, linesFrom_append hplain]
      exact (hbreak _).trans (congrArg _ (ih hlines))

/-! ### A heading in front -/

/-- A stripped text does not begin with white space. -/
theorem isSpace_of_strip_cons {s : String} {c : Char} {rest : List Char}
    (h : (strip s).toList = c :: rest) : isSpace c = false := by
  rw [strip, String.toList_ofList] at h
  have hsplit := List.rdropWhile_append_rtakeWhile (p := isSpace) (l := s.toList.dropWhile isSpace)
  rw [h, List.cons_append] at hsplit
  have hhead := List.head?_dropWhile_not isSpace s.toList
  rw [← hsplit] at hhead
  simpa using hhead

/-- The words of a text behind a heading. -/
theorem words_heading (heading body : String) :
    words (strip (heading ++ "\n" ++ body)) = words heading ++ words body := by
  rw [words_strip, String.append_assoc, words_append (t := "\n" ++ body)
    (String.toList_append ..) (by decide)]
  congr 1
  rw [words, String.toList_append]
  exact wordsFrom_cons_space (by decide) _

/-- A heading that a text begins with is taken off. -/
theorem words_removeprefix_of_begins {heading body : String}
    (hbegins : heading.toList <+: (strip (heading ++ "\n" ++ body)).toList) :
    words ( removeprefix (strip (heading ++ "\n" ++ body)) heading) = words body := by
  obtain ⟨rest, hrest⟩ := hbegins
  rw [ removeprefix, if_pos (List.isPrefixOf_iff_prefix.2 ⟨rest, hrest⟩), ← hrest, List.drop_left]
  cases hheading : heading.toList with
  | nil =>
    have hwords := words_heading heading body
    rw [words, ← hrest, hheading, words, hheading] at hwords
    rw [words, String.toList_ofList]
    exact hwords
  | cons c chars =>
    have hletter : isSpace c = false := by
      rw [hheading, List.cons_append] at hrest
      exact isSpace_of_strip_cons hrest.symm
    have htext : (heading ++ "\n" ++ body).toList = heading.toList ++ '\n' :: body.toList := by
      rw [String.toList_append, String.toList_append, List.append_assoc]
      rfl
    have hkept : (heading ++ "\n" ++ body).toList.dropWhile isSpace =
        (heading ++ "\n" ++ body).toList := by
      rw [htext, hheading, List.cons_append, List.dropWhile_cons_of_neg (by rw [hletter]; decide)]
    have hsplit := List.rdropWhile_append_rtakeWhile (p := isSpace)
      (l := (heading ++ "\n" ++ body).toList)
    rw [strip, String.toList_ofList, hkept] at hrest
    rw [← hrest, htext, List.append_assoc, List.append_cancel_left_eq] at hsplit
    have hblank : wordsFrom [] (rest ++ (heading ++ "\n" ++ body).toList.rtakeWhile isSpace) =
        wordsFrom [] rest :=
      wordsFrom_append_blank [] rest fun c hc => List.mem_rtakeWhile_imp hc
    rw [htext, hsplit] at hblank
    rw [words, String.toList_ofList, ← hblank]
    exact wordsFrom_cons_space (by decide) _

/-- **The heading is taken off**, or, where it begins with white space, it stays. -/
theorem words_removeprefix (heading body : String) :
    words ( removeprefix (strip (heading ++ "\n" ++ body)) heading) = words body ∨
      words ( removeprefix (strip (heading ++ "\n" ++ body)) heading) =
        words heading ++ words body := by
  by_cases hbegins : heading.toList.isPrefixOf (strip (heading ++ "\n" ++ body)).toList
  · exact .inl (words_removeprefix_of_begins (List.isPrefixOf_iff_prefix.1 hbegins))
  · right
    rw [ removeprefix, if_neg hbegins]
    exact words_heading heading body

end Rag
end TopChoice
