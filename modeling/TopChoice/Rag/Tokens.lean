/-
# Estimated tokens

`estimate_tokens` of `apps/rag-svc/app/core/tokens.py`, the count that `TokenCounter` falls
back to where `tiktoken` has no encoding.  An estimate is computed from the text with single
blanks between its words (`normalize_eq`), so it depends on the words alone: in quarters of a
token, a letter counts one, an Arabic letter two, a blank one, and a word three at least
(`estimateTokens_eq`).  It is rounded to the nearest integer, halves to the even one; how many
quarters fit into so many tokens is `estimateTokens_le_iff`.

The quotients by two and by four are exact in floating point, so they are rational here.
-/

import Mathlib.Data.Rat.Floor
import TopChoice.Rag.PyWords
import TopChoice.Search.PyValue

namespace TopChoice
namespace Rag

open Search (pyRound)

/-- `_ARABIC_RE`. -/
def isArabicChar (c : Char) : Bool :=
  (0x600 ≤ c.toNat && c.toNat ≤ 0x6FF) || (0x750 ≤ c.toNat && c.toNat ≤ 0x77F) ||
    (0x8A0 ≤ c.toNat && c.toNat ≤ 0x8FF) || (0xFB50 ≤ c.toNat && c.toNat ≤ 0xFDFF) ||
    (0xFE70 ≤ c.toNat && c.toNat ≤ 0xFEFF)

/-- `_WHITESPACE_RE.sub(" ", text)`. -/
def collapseSpaces : List Char → List Char
  | [] => []
  | c :: rest =>
      if isSpace c then
        match collapseSpaces rest with
        | ' ' :: rest' => ' ' :: rest'
        | rest' => ' ' :: rest'
      else c :: collapseSpaces rest

/-- `estimate_tokens`. -/
def estimateTokens (text : String) : ℕ :=
  if text = "" then 0
  else
    let normalized := strip (String.ofList (collapseSpaces text.toList))
    if normalized = "" then 0
    else
      let arabicChars := normalized.toList.countP isArabicChar
      let otherChars := normalized.length - arabicChars
      let estimate : ℚ := arabicChars / 2 + otherChars / 4
      let words := normalized.toList.count ' ' + 1
      max 1 (pyRound (max estimate (words * (3 / 4)))).toNat

/-- `TokenCounter.count`, without an encoding. -/
def countTokens (text : String) : ℕ := if text = "" then 0 else estimateTokens text

/-! ### The words of a normalized text -/

section Normalize

/-- A text with no white space in front, or one blank. -/
def OneBlank (cs : List Char) : Prop :=
  cs = cs.dropWhile isSpace ∨ cs = ' ' :: cs.dropWhile isSpace

/-- White space in front of a collapsed text is one blank. -/
theorem collapseSpaces_of_oneBlank {c : Char} (hc : isSpace c = true) {cs : List Char}
    (h : OneBlank (collapseSpaces cs)) :
    collapseSpaces (c :: cs) = ' ' :: (collapseSpaces cs).dropWhile isSpace := by
  rw [collapseSpaces, if_pos hc]
  split
  next rest hrest =>
    rw [hrest, OneBlank, List.dropWhile_cons_of_pos (by decide)] at h
    rw [hrest, List.dropWhile_cons_of_pos (by decide)]
    rcases h with h | h
    · have hlength := (List.dropWhile_suffix isSpace (l := rest)).length_le
      rw [← h, List.length_cons] at hlength
      omega
    · exact h
  next hrest =>
    rcases h with h | h
    · exact congrArg _ h
    · exact absurd h (hrest _)

theorem collapseSpaces_cons_letter {c : Char} (hc : isSpace c = false) (cs : List Char) :
    collapseSpaces (c :: cs) = c :: collapseSpaces cs := by
  rw [collapseSpaces, if_neg (by rw [hc]; decide)]

theorem oneBlank_collapseSpaces (cs : List Char) : OneBlank (collapseSpaces cs) := by
  induction cs with
  | nil => exact .inl rfl
  | cons c cs ih =>
    cases hc : isSpace c with
    | false =>
      left
      rw [collapseSpaces_cons_letter hc, List.dropWhile_cons_of_neg (by simp [hc])]
    | true =>
      right
      rw [collapseSpaces_of_oneBlank hc ih, List.dropWhile_cons_of_pos (by decide),
        List.dropWhile_idempotent]

/-- White space that is collapsed is one blank, in front of what follows it. -/
theorem collapseSpaces_cons_space {c : Char} (hc : isSpace c = true) (cs : List Char) :
    collapseSpaces (c :: cs) = ' ' :: (collapseSpaces cs).dropWhile isSpace :=
  collapseSpaces_of_oneBlank hc (oneBlank_collapseSpaces cs)

/-- White space at the end of a text that ends in none belongs to what follows. -/
theorem rdropWhile_append (word ys : List Char) (hword : ∀ c ∈ word.getLast?, isSpace c = false) :
    (word ++ ys).rdropWhile isSpace = word ++ ys.rdropWhile isSpace := by
  induction ys using List.reverseRecOn with
  | nil =>
    rw [List.append_nil, List.rdropWhile_nil, List.append_nil, List.rdropWhile_eq_self_iff]
    intro hne
    rw [hword _ (List.getLast?_eq_getLast_of_ne_nil hne)]
    decide
  | append_singleton ys c ih =>
    rw [← List.append_assoc, List.rdropWhile_concat, List.rdropWhile_concat, ih]
    split_ifs
    · rfl
    · rw [List.append_assoc]

/-- A blank stays where something follows it. -/
theorem rdropWhile_cons_space (ys : List Char) :
    (' ' :: ys).rdropWhile isSpace =
      if ys.rdropWhile isSpace = [] then [] else ' ' :: ys.rdropWhile isSpace := by
  rw [List.rdropWhile, List.reverse_cons, List.dropWhile_append, List.rdropWhile]
  by_cases hys : ys.reverse.dropWhile isSpace = []
  · rw [hys]
    rfl
  · rw [if_neg (by simpa using hys), if_neg (by simpa using hys), List.reverse_append]
    rfl

theorem intercalate_ne_empty {w : String} (hw : w ≠ "") (ws : List String) :
    " ".intercalate (w :: ws) ≠ "" := by
  cases ws with
  | nil => rwa [String.intercalate_singleton]
  | cons v ws =>
    intro hempty
    rw [String.intercalate_cons_cons] at hempty
    simp at hempty

/-- **Words with single blanks between them**: what is left of a collapsed text when it is
stripped as well, and behind the letters of a word that is being read. -/
theorem rdropWhile_collapseSpaces (cs : List Char) :
    ((collapseSpaces cs).dropWhile isSpace).rdropWhile isSpace =
        (" ".intercalate (wordsFrom [] cs)).toList ∧
      ∀ word : List Char, word ≠ [] → (∀ c ∈ word, isSpace c = false) →
        (word.reverse ++ collapseSpaces cs).rdropWhile isSpace =
          (" ".intercalate (wordsFrom word cs)).toList := by
  have hstart {word : List Char} (hword : ∀ c ∈ word, isSpace c = false) (ys : List Char) :
      (word.reverse ++ ys).rdropWhile isSpace = word.reverse ++ ys.rdropWhile isSpace :=
    rdropWhile_append _ ys fun c hc => hword c (List.mem_reverse.1 (List.mem_of_getLast? hc))
  induction cs with
  | nil =>
    refine ⟨rfl, fun word hne hword => ?_⟩
    rw [collapseSpaces, hstart hword, List.rdropWhile_nil, List.append_nil, wordsFrom,
      if_neg (by simpa using hne), String.intercalate_singleton, String.toList_ofList]
  | cons c cs ih =>
    obtain ⟨ihstripped, ihword⟩ := ih
    cases hc : isSpace c with
    | false =>
      rw [collapseSpaces_cons_letter hc]
      constructor
      · rw [List.dropWhile_cons_of_neg (by simp [hc]), wordsFrom_cons_letter hc]
        exact ihword [c] (List.cons_ne_nil _ _) fun d hd => List.mem_singleton.1 hd ▸ hc
      · intro word _ hword
        have hlonger := ihword (c :: word) (List.cons_ne_nil _ _)
          (List.forall_mem_cons.2 ⟨hc, hword⟩)
        rw [List.reverse_cons, List.append_assoc] at hlonger
        rw [wordsFrom_cons_letter hc]
        exact hlonger
    | true =>
      rw [collapseSpaces_cons_space hc]
      constructor
      · rw [List.dropWhile_cons_of_pos (by decide), List.dropWhile_idempotent,
          wordsFrom_cons_space hc]
        exact ihstripped
      · intro word hne hword
        have hletters : wordsFrom word (c :: cs) =
            String.ofList word.reverse :: wordsFrom [] cs := by
          rw [wordsFrom, if_pos hc, if_neg (by simpa using hne)]
        rw [hletters, hstart hword, rdropWhile_cons_space, ihstripped]
        cases hwords : wordsFrom [] cs with
        | nil =>
          have hnil : (" ".intercalate ([] : List String)).toList = [] := rfl
          rw [hnil, if_pos rfl, List.append_nil, String.intercalate_singleton,
            String.toList_ofList]
        | cons w ws =>
          have hw : w ≠ "" :=
            (of_mem_wordsFrom (fun _ h => (List.not_mem_nil h).elim) (hwords ▸ List.mem_cons_self)).1
          rw [if_neg (mt String.toList_eq_nil_iff.1 (intercalate_ne_empty hw ws)), String.intercalate_cons_cons,
            String.toList_append, String.toList_append, String.toList_ofList, List.append_assoc]
          rfl

/-- **A normalized text** is its words with single blanks between them. -/
theorem normalize_eq (text : String) :
    strip (String.ofList (collapseSpaces text.toList)) = " ".intercalate (words text) := by
  rw [strip, String.toList_ofList, (rdropWhile_collapseSpaces text.toList).1, String.ofList_toList,
    words]

end Normalize

/-! ### Quarters of a token -/

/-- The quarters of a token that the letters of a word are. -/
def wordWeight (word : String) : ℕ := word.length + word.toList.countP isArabicChar

/-- The quarters of a token that words are, with the blanks between them; a word is three
quarters at least. -/
def quarters (words : List String) : ℕ :=
  max ((words.map wordWeight).sum + (words.length - 1)) (3 * words.length)

/-- What is counted in words with blanks between them. -/
theorem countP_intercalate (p : Char → Bool) (words : List String) :
    (" ".intercalate words).toList.countP p =
      (words.map fun w => w.toList.countP p).sum + if p ' ' then words.length - 1 else 0 := by
  induction words with
  | nil => simp
  | cons w words ih =>
    cases words with
    | nil => simp
    | cons v words =>
      have hsum : ((w :: v :: words).map fun w => w.toList.countP p).sum =
          w.toList.countP p + ((v :: words).map fun w => w.toList.countP p).sum := List.sum_cons
      have hblank : (" " : String).toList.countP p = if p ' ' then 1 else 0 := by
        change [' '].countP p = _
        rw [List.countP_singleton]
      rw [String.intercalate_cons_cons, String.toList_append, String.toList_append,
        List.countP_append, List.countP_append, ih, hblank, hsum]
      simp only [List.length_cons]
      split_ifs <;> omega

/-- **Rounding quarters**: halves go to the even neighbour. -/
theorem pyRound_quarters (q : ℕ) :
    pyRound ((q : ℚ) / 4) =
      ((if q % 4 < 2 ∨ q % 4 = 2 ∧ q / 4 % 2 = 0 then q / 4 else q / 4 + 1 : ℕ) : ℤ) := by
  have hfloor : ((q : ℚ) / 4).floor = ((q / 4 : ℕ) : ℤ) := Rat.floor_natCast_div_natCast q 4
  have hrest : (q : ℚ) / 4 - ((q / 4 : ℕ) : ℤ) = (q % 4 : ℕ) / 4 := by
    have hq : (4 : ℚ) * (q / 4 : ℕ) + (q % 4 : ℕ) = q := by exact_mod_cast Nat.div_add_mod q 4
    rw [Int.cast_natCast]
    linarith
  have hparity : ((q / 4 : ℕ) : ℤ) % 2 = 0 ↔ q / 4 % 2 = 0 := by omega
  rw [pyRound, hfloor, hrest]
  have hcases : q % 4 = 0 ∨ q % 4 = 1 ∨ q % 4 = 2 ∨ q % 4 = 3 := by omega
  rcases hcases with h | h | h | h <;> rw [h]
  · rw [if_pos (by norm_num), if_pos (by omega)]
  · rw [if_pos (by norm_num), if_pos (by omega)]
  · rw [if_neg (by norm_num), if_neg (by norm_num)]
    by_cases heven : q / 4 % 2 = 0
    · rw [if_pos (hparity.2 heven), if_pos (.inr ⟨rfl, heven⟩)]
    · rw [if_neg (mt hparity.1 heven), if_neg (by omega)]
      rfl
  · rw [if_neg (by norm_num), if_pos (by norm_num), if_neg (by omega)]
    rfl

/-- **How many quarters fit**: a half is rounded up where the tokens are odd. -/
theorem pyRound_quarters_le_iff (q n : ℕ) :
    pyRound ((q : ℚ) / 4) ≤ n ↔ q ≤ 4 * n + 2 - n % 2 := by
  rw [pyRound_quarters, Nat.cast_le]
  split_ifs with h
  · rcases Nat.mod_two_eq_zero_or_one n with hn | hn <;> omega
  · omega

/-- **The estimate of words with blanks between them**, in quarters. -/
theorem estimate_intercalate {w : String} {ws : List String}
    (hwords : ∀ v ∈ w :: ws, ∀ c ∈ v.toList, isSpace c = false) :
    max (((" ".intercalate (w :: ws)).toList.countP isArabicChar : ℚ) / 2 +
        ((" ".intercalate (w :: ws)).length -
          (" ".intercalate (w :: ws)).toList.countP isArabicChar : ℕ) / 4)
      (((" ".intercalate (w :: ws)).toList.count ' ' + 1 : ℕ) * (3 / 4)) =
        (quarters (w :: ws) : ℚ) / 4 := by
  set normalized := " ".intercalate (w :: ws)
  have hfew : normalized.toList.countP isArabicChar ≤ normalized.length :=
    String.length_toList (s := normalized) ▸ List.countP_le_length
  have hnone : ((w :: ws).map fun v => v.toList.countP (· == ' ')).sum = 0 := by
    refine List.sum_eq_zero fun n hn => ?_
    obtain ⟨v, hv, rfl⟩ := List.mem_map.1 hn
    refine List.countP_eq_zero.2 fun c hc hblank => ?_
    rw [beq_iff_eq.1 hblank] at hc
    exact absurd (hwords v hv _ hc) (by decide)
  have hblanks : normalized.toList.count ' ' = ws.length := by
    rw [List.count, countP_intercalate, hnone]
    simp
  have hlength : normalized.length =
      ((w :: ws).map fun v => v.toList.countP fun _ => true).sum + ws.length := by
    rw [← String.length_toList, ← List.countP_true, countP_intercalate]
    simp
  have harabic : normalized.toList.countP isArabicChar =
      ((w :: ws).map fun v => v.toList.countP isArabicChar).sum := by
    rw [countP_intercalate]
    exact Nat.add_zero _
  have hweight : ((w :: ws).map wordWeight).sum + ws.length =
      normalized.length + normalized.toList.countP isArabicChar := by
    have hsum : ((w :: ws).map wordWeight).sum =
        ((w :: ws).map fun v => v.toList.countP fun _ => true).sum +
          ((w :: ws).map fun v => v.toList.countP isArabicChar).sum := by
      rw [← List.sum_map_add]
      simp only [List.countP_true, String.length_toList]
      rfl
    rw [hsum, hlength, harabic]
    omega
  have hquarters : quarters (w :: ws) =
      max (normalized.length + normalized.toList.countP isArabicChar) (3 * (ws.length + 1)) := by
    rw [quarters, ← hweight]
    rfl
  rw [hquarters, hblanks, Nat.cast_max, ← max_div_div_right (by norm_num : (0 : ℚ) ≤ 4)]
  congr 1
  · rw [Nat.cast_sub hfew]
    push_cast
    ring
  · push_cast
    ring

/-- **An estimate depends on the words alone.** -/
theorem estimateTokens_eq (text : String) :
    estimateTokens text =
      if words text = [] then 0 else max 1 (pyRound ((quarters (words text) : ℚ) / 4)).toNat := by
  have hnothing : words "" = [] := rfl
  rw [estimateTokens]
  by_cases htext : text = ""
  · rw [if_pos htext, htext, hnothing, if_pos rfl]
  rw [if_neg htext, normalize_eq]
  dsimp only
  cases hwords : words text with
  | nil => rw [String.intercalate_nil, if_pos rfl, if_pos rfl]
  | cons w ws =>
    have hword : ∀ v ∈ w :: ws, v ≠ "" ∧ ∀ c ∈ v.toList, isSpace c = false :=
      fun v hv => of_mem_words (hwords ▸ hv)
    rw [if_neg (intercalate_ne_empty (hword w List.mem_cons_self).1 ws), if_neg (by simp),
      estimate_intercalate fun v hv => (hword v hv).2]

theorem countTokens_eq (text : String) : countTokens text = estimateTokens text := by
  rw [countTokens]
  split_ifs with htext
  · rw [htext, estimateTokens, if_pos rfl]
  · rfl

/-- Texts of the same words have the same tokens. -/
theorem countTokens_congr {s t : String} (h : words s = words t) :
    countTokens s = countTokens t := by
  rw [countTokens_eq, countTokens_eq, estimateTokens_eq, estimateTokens_eq, h]

/-- **How much text fits into so many tokens.** -/
theorem countTokens_le_iff (text : String) {n : ℕ} (hn : 1 ≤ n) :
    countTokens text ≤ n ↔ quarters (words text) ≤ 4 * n + 2 - n % 2 := by
  rw [countTokens_eq, estimateTokens_eq]
  split_ifs with hwords
  · have hnone : quarters (words text) = 0 := by rw [hwords]; rfl
    rw [hnone]
    omega
  · rw [← pyRound_quarters_le_iff, max_le_iff, Int.toNat_le]
    exact ⟨And.right, fun h => ⟨hn, h⟩⟩

end Rag
end TopChoice
