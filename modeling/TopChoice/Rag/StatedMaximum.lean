/-
# A stated maximum

`parse_price_range` on `under`, a whole amount and whatever follows it.  The pattern of an
amount ends with a magnitude word without a word boundary, so the first letters of the next word
are taken for one: `under 5,000,000 maadi` is five million millions.  And the test that tells an
area from a price takes the number 2 for the exponent of a square metre.  The maximum is read
exactly when what follows is neither (`LeavesAmount`) and the amount is kept by a `float`
(`stated_maximum_iff`).
-/

import Mathlib.Data.Nat.Digits.Defs
import TopChoice.Rag.NearestFloat
import TopChoice.Rag.PriceCues
import TopChoice.Rag.PyWords

namespace TopChoice
namespace Rag

open Backtrack (Pattern Place)

/-! ### Amounts as they are written -/

/-- The digits an amount is written in. -/
inductive Script where
  | ascii
  | arabicIndic
  deriving DecidableEq, Repr

/-- The digit of a value below ten. -/
def Script.digit : Script → ℕ → Char
  | ascii, d => Char.ofNat (0x30 + d)
  | arabicIndic, d => Char.ofNat (0x660 + d)

/-- The commas between groups of digits: of ASCII and of Arabic texts. -/
def groupCommas : List Char := [',', '٬', '،']

/-- The digits from the last one on, with a comma behind every third one that is not the
first of the amount. -/
def groupThrees (comma : Char) : List Char → List Char
  | a :: b :: c :: d :: rest => a :: b :: c :: comma :: groupThrees comma (d :: rest)
  | short => short

/-- A whole amount as it is written, plain or in groups of three. -/
def written (script : Script) (comma : Option Char) (n : ℕ) : List Char :=
  let digits := (Nat.digits 10 n).map script.digit
  ((comma.map fun comma => groupThrees comma digits).getD digits).reverse

/-- The amount as `normalize` leaves it. -/
def normalAmount (comma : Option Char) (n : ℕ) : List Char :=
  written .ascii (comma.map fun _ => ',') n

section Written

variable {comma : Char} {digits : List Char}

theorem map_groupThrees (f : Char → Char) (comma : Char) (digits : List Char) :
    (groupThrees comma digits).map f = groupThrees (f comma) (digits.map f) := by
  fun_induction groupThrees comma digits with
  | case1 a b c d rest ih =>
    rw [List.map_cons, List.map_cons, List.map_cons, List.map_cons, ih]
    rfl
  | case2 short hshort =>
    match short, hshort with
    | [], _ => rfl
    | [a], _ => rfl
    | [a, b], _ => rfl
    | [a, b, c], _ => rfl
    | a :: b :: c :: d :: rest, hshort => exact (hshort a b c d rest rfl).elim

/-- Without the commas the digits are left. -/
theorem filter_groupThrees (hdigits : ∀ c ∈ digits, c ≠ comma) :
    (groupThrees comma digits).filter (· ≠ comma) = digits := by
  have hall (l : List Char) (hl : ∀ c ∈ l, c ≠ comma) : l.filter (· ≠ comma) = l :=
    List.filter_eq_self.2 fun c hc => decide_eq_true (hl c hc)
  fun_induction groupThrees comma digits with
  | case1 a b c d rest ih =>
    simp only [List.forall_mem_cons] at hdigits
    obtain ⟨ha, hb, hc, hrest⟩ := hdigits
    have htail := ih (List.forall_mem_cons.2 hrest)
    simp only [List.filter_cons, ne_eq, ha, hb, hc, not_false_eq_true, decide_true, if_true,
      not_true_eq_false, decide_false, Bool.false_eq_true, if_false] at htail ⊢
    rw [htail]
  | case2 short hshort => exact hall short hdigits

/-- A comma, and the last one stands before three digits. -/
theorem takeWhile_groupThrees (hdigits : ∀ c ∈ digits, c ≠ comma) :
    (groupThrees comma digits).count comma = 0 ∨
      ((groupThrees comma digits).takeWhile (· ≠ comma)).length = 3 := by
  fun_induction groupThrees comma digits with
  | case1 a b c d rest ih =>
    simp only [List.forall_mem_cons] at hdigits
    obtain ⟨ha, hb, hc, -⟩ := hdigits
    right
    simp [ha, hb, hc]
  | case2 short hshort =>
    exact .inl (List.count_eq_zero.2 fun hmem => hdigits comma hmem rfl)

/-- The amount in groups is a number. -/
theorem exists_figure_groupThrees {isDigit : Char → Bool} (hcomma : isSeparator comma = true)
    (hne : digits ≠ []) (hdigits : ∀ c ∈ digits, isDigit c = true) :
    ∃ f : Figure isDigit, f.text = (groupThrees comma digits).reverse := by
  fun_induction groupThrees comma digits with
  | case1 a b c d rest ih =>
    simp only [List.forall_mem_cons] at hdigits
    obtain ⟨ha, hb, hc, hrest⟩ := hdigits
    obtain ⟨f, hf⟩ := ih (List.cons_ne_nil d rest) (List.forall_mem_cons.2 hrest)
    refine ⟨⟨f.first, f.groups ++ [(comma, [c, b, a])], f.first_ne, f.first_digits, ?_⟩, ?_⟩
    · refine List.forall_mem_append.2 ⟨f.group, ?_⟩
      simp [hcomma, ha, hb, hc]
    · rw [Figure.text] at hf
      simp only [Figure.text, groupsText, List.flatMap_append, List.flatMap_cons, List.flatMap_nil,
        List.append_nil, List.reverse_cons, List.append_assoc, ← hf]
      rfl
  | case2 short hshort =>
    refine ⟨⟨short.reverse, [], by simpa using hne, ?_, List.forall_mem_nil _⟩, ?_⟩
    · exact fun c hc => hdigits c (List.mem_reverse.1 hc)
    · rw [Figure.text, groupsText, List.flatMap_nil, List.append_nil]

end Written

section Normal

variable {u : Unicode} (hu : u.Lawful) {n : ℕ}

theorem isDigit_digit {d : ℕ} (hd : d < 10) :
    (Script.ascii.digit d).isDigit = true ∧ (Script.ascii.digit d).toNat < 0x80 ∧
      (Script.ascii.digit d).toNat - '0'.toNat = d := by
  revert d
  decide

theorem translateDigit_digit {d : ℕ} (hd : d < 10) (script : Script) :
    Unicode.translateDigit (script.digit d) = Script.ascii.digit d := by
  revert d
  cases script <;> decide

/-- The digits of an amount in ASCII, the last one first. -/
theorem forall_digits (n : ℕ) : ∀ c ∈ (Nat.digits 10 n).map Script.ascii.digit,
    c.isDigit = true ∧ c.toNat < 0x80 ∧ c ≠ ',' ∧ c ≠ '.' := by
  intro c hc
  obtain ⟨d, hd, rfl⟩ := List.mem_map.1 hc
  obtain ⟨hdigit, hascii, -⟩ := isDigit_digit (Nat.digits_lt_base (by decide) hd)
  refine ⟨hdigit, hascii, ?_, ?_⟩
  · intro h
    rw [h] at hdigit
    exact absurd hdigit (by decide)
  · intro h
    rw [h] at hdigit
    exact absurd hdigit (by decide)

/-- **`normalize` writes the digits in ASCII.** -/
theorem translate_written (script : Script) {comma : Option Char}
    (hcomma : ∀ c, comma = some c → c ∈ groupCommas) (n : ℕ) :
    (written script comma n).map Unicode.translateDigit = normalAmount comma n := by
  have hdigits : ((Nat.digits 10 n).map script.digit).map Unicode.translateDigit =
      (Nat.digits 10 n).map Script.ascii.digit := by
    rw [List.map_map]
    exact List.map_congr_left fun d hd =>
      translateDigit_digit (Nat.digits_lt_base (by decide) hd) script
  cases comma with
  | none =>
    simp only [written, normalAmount, Option.map_none, Option.getD_none, List.map_reverse, hdigits]
  | some comma =>
    have htranslated : Unicode.translateDigit comma = ',' := by
      have hall : ∀ c ∈ groupCommas, Unicode.translateDigit c = ',' := by decide
      exact hall comma (hcomma comma rfl)
    simp only [written, normalAmount, Option.map_some, Option.getD_some, List.map_reverse,
      map_groupThrees, hdigits, htranslated]

/-- The commas taken out. -/
theorem cleaned_normalAmount (comma : Option Char) (n : ℕ) :
    Unicode.cleaned (normalAmount comma n) =
      ((Nat.digits 10 n).map Script.ascii.digit).reverse := by
  have hdigits : ∀ c ∈ (Nat.digits 10 n).map Script.ascii.digit, c ≠ ',' := fun c hc =>
    (forall_digits n c hc).2.2.1
  cases comma with
  | none =>
    have hcount : ((Nat.digits 10 n).map Script.ascii.digit).reverse.count ',' = 0 :=
      List.count_eq_zero.2 fun hmem => hdigits ',' (List.mem_reverse.1 hmem) rfl
    rw [normalAmount, written, Option.map_none]
    simp only [Option.map_none, Option.getD_none]
    rw [Unicode.cleaned, hcount, if_neg (by simp), List.filter_eq_self]
    exact fun c hc => decide_eq_true (hdigits c (List.mem_reverse.1 hc))
  | some comma =>
    rw [normalAmount, written, Option.map_some]
    simp only [Option.map_some, Option.getD_some]
    rw [Unicode.cleaned, List.reverse_reverse, List.count_reverse, if_neg, List.filter_reverse,
      filter_groupThrees hdigits]
    rintro ⟨hone, hlength⟩
    rcases takeWhile_groupThrees hdigits with hzero | hthree
    · rw [hzero] at hone
      cases hone
    · exact hlength hthree

/-- The amount is a number. -/
theorem exists_figure_normalAmount (hu : u.Lawful) (comma : Option Char) (hn : n ≠ 0) :
    ∃ f : Figure u.isDecimal, f.text = normalAmount comma n := by
  have hne : (Nat.digits 10 n).map Script.ascii.digit ≠ [] := by
    rw [Ne, List.map_eq_nil_iff]
    exact Nat.digits_ne_nil_iff_ne_zero.2 hn
  have hdigits : ∀ c ∈ (Nat.digits 10 n).map Script.ascii.digit, u.isDecimal c = true := by
    intro c hc
    obtain ⟨hdigit, hascii, -⟩ := forall_digits n c hc
    rw [hu.isDecimal_eq hascii, hdigit]
  cases comma with
  | none =>
    refine ⟨⟨_, [], by simpa using hne, ?_, nofun⟩, List.append_nil _⟩
    exact fun c hc => hdigits c (List.mem_reverse.1 hc)
  | some comma => exact exists_figure_groupThrees rfl hne hdigits

include hu

/-- **The digits of an amount are worth the amount.** -/
theorem digitsValue_digits (n : ℕ) :
    PyFloat.digitsValue u ((Nat.digits 10 n).map Script.ascii.digit).reverse = some n := by
  have hvalue (ds : List ℕ) (hds : ∀ d ∈ ds, d < 10) :
      PyFloat.digitsValue u (ds.map Script.ascii.digit).reverse = some (Nat.ofDigits 10 ds) := by
    induction ds with
    | nil => rfl
    | cons d ds ih =>
      obtain ⟨hd, hds⟩ := List.forall_mem_cons.1 hds
      obtain ⟨hdigit, hascii, hworth⟩ := isDigit_digit hd
      have hdecimal : u.decimal (Script.ascii.digit d) = some d := by
        rw [hu.decimal _ hascii, if_pos hdigit, hworth]
      have hfirst := ih hds
      rw [PyFloat.digitsValue] at hfirst ⊢
      rw [List.map_cons, List.reverse_cons, List.foldlM_append, hfirst]
      simp only [List.foldlM_cons, List.foldlM_nil, Option.bind_eq_bind, Option.bind_some, hdecimal,
        Option.map_some, Option.pure_def, Nat.ofDigits_cons, Option.some_inj]
      omega
  rw [hvalue _ fun d hd => Nat.digits_lt_base (by decide) hd, Nat.ofDigits_digits]

/-- `float` reads the amount. -/
theorem ofText_cleaned (comma : Option Char) (hn : n ≠ 0) :
    PyFloat.ofText u (Unicode.cleaned (normalAmount comma n)) = some (PyFloat.nearest n) := by
  have hpoint : '.' ∉ ((Nat.digits 10 n).map Script.ascii.digit).reverse := fun hmem =>
    (forall_digits n '.' (List.mem_reverse.1 hmem)).2.2.2 rfl
  have hne : ((Nat.digits 10 n).map Script.ascii.digit).reverse ≠ [] := by
    rw [Ne, List.reverse_eq_nil_iff, List.map_eq_nil_iff]
    exact Nat.digits_ne_nil_iff_ne_zero.2 hn
  rw [cleaned_normalAmount, PyFloat.ofText, List.splitOn_eq_singleton hpoint]
  simp only [if_neg hne, digitsValue_digits hu]
  rfl

end Normal

/-! ### The amount and what follows it -/

namespace Unicode

variable (u : Unicode)

/-- What follows the number is taken for no magnitude and for no unit of area. -/
structure LeavesAmount (rest : List Char) : Prop where
  magnitude : multipliers.lookup (u.unitKey rest) = none
  area : u.unitKey rest = "" → u.isAreaUnit (u.taken rest).rest = false

end Unicode

/-- `round(float(n) * 1)` is the amount again. -/
def KeptByFloat (n : ℕ) : Prop := ((PyFloat.nearest n).mul 1).round = .ok (n : ℤ)

/-- **Amounts below 2^53 are kept.** -/
theorem keptByFloat_of_lt {n : ℕ} (hpos : 0 < n) (hn : n < 2 ^ 53) : KeptByFloat n := by
  have hnearest := PyFloat.nearest_natCast hpos hn
  rw [KeptByFloat, hnearest, PyFloat.mul, Nat.cast_one, mul_one, hnearest, PyFloat.round,
    Search.pyRound_natCast]

/-- A magnitude makes another amount of it. -/
theorem round_mul_ne {n m : ℕ} (hn : 0 < n) (hm : 1000 ≤ m) :
    ((PyFloat.nearest n).mul m).round ≠ .ok (n : ℤ) := by
  have hn' : (1 : ℚ) ≤ n := by exact_mod_cast hn
  have hm' : (1000 : ℚ) ≤ m := by exact_mod_cast hm
  cases hnearest : PyFloat.nearest n with
  | inf => exact nofun
  | finite v =>
    have hv := (abs_le.1 (PyFloat.abs_nearest_sub_le (by linarith) hnearest)).1
    rw [max_eq_left hn'] at hv
    have hhalf : (n : ℚ) / 2 ≤ v := by
      norm_num at hv ⊢
      linarith
    have hprod : (500 : ℚ) * n ≤ v * m := by nlinarith
    cases hproduct : PyFloat.nearest (v * m) with
    | inf =>
      rw [PyFloat.mul, hproduct]
      exact nofun
    | finite w =>
      have hw := (abs_le.1 (PyFloat.abs_nearest_sub_le (by linarith) hproduct)).1
      rw [max_eq_left (by linarith)] at hw
      have hround := (abs_le.1 (PyFloat.abs_pyRound_sub_le w)).1
      rw [PyFloat.mul, hproduct, PyFloat.round]
      intro heq
      rw [Except.ok.inj heq] at hround
      push_cast at hround
      norm_num at hw hround
      linarith

/-- **The amount read** is the one written exactly when what follows leaves it and a `float`
keeps it. -/
theorem toAmount_normalAmount {u : Unicode} (hu : u.Lawful) {n : ℕ} (hn : 100000 ≤ n)
    (comma : Option Char) (rest : List Char) :
    u.toAmount (normalAmount comma n) ((u.taken rest).group "unit") (u.taken rest).rest =
        .ok (some n) ↔ u.LeavesAmount rest ∧ KeptByFloat n := by
  rw [Unicode.toAmount, ofText_cleaned hu comma (by omega)]
  have hkey : u.lower (strip (String.ofList (((u.taken rest).group "unit").getD []))) =
      u.unitKey rest := rfl
  simp only [hkey]
  cases hlookup : Unicode.multipliers.lookup (u.unitKey rest) with
  | some m =>
    have hm : 1000 ≤ m := by
      have hall : ∀ entry ∈ Unicode.multipliers, 1000 ≤ entry.2 := by decide
      obtain ⟨before, after, hsplit, -⟩ := List.lookup_eq_some_iff.1 hlookup
      exact hall (_, m) (hsplit ▸ List.mem_append_right _ List.mem_cons_self)
    refine iff_of_false (fun h => ?_) fun h => ?_
    · rw [Option.getD_some] at h
      split_ifs at h with hunit hempty
      · cases h
      · cases h
      · obtain ⟨amount, hamount, h⟩ := Fallible.bind_eq_ok.1 h
        split_ifs at h with hsmall hpos
        · cases h
        · have hn' : amount.toNat = n := Option.some.inj (Except.ok.inj h)
          have hround : amount = n := by omega
          exact round_mul_ne (by omega) hm (hround ▸ hamount)
        · cases h
    · rw [h.1.magnitude] at hlookup
      cases hlookup
  | none =>
    have hmetre : ¬(u.unitKey rest ∈ ["m", "mn", "mio"] ∧
        u.isAreaUnit (u.taken rest).rest = true) := by
      rintro ⟨hmem, -⟩
      have hall : ∀ key ∈ ["m", "mn", "mio"], Unicode.multipliers.lookup key ≠ none := by decide
      exact hall _ hmem hlookup
    rw [if_neg hmetre, Option.getD_none]
    by_cases harea : u.unitKey rest = "" ∧ u.isAreaUnit (u.taken rest).rest = true
    · rw [if_pos harea]
      refine iff_of_false (fun h => nomatch h) fun h => ?_
      have hleft := h.1.area harea.1
      rw [harea.2] at hleft
      cases hleft
    · have hleaves : u.LeavesAmount rest := by
        refine ⟨hlookup, fun hempty => ?_⟩
        exact Bool.eq_false_iff.2 fun h => harea ⟨hempty, h⟩
      rw [if_neg harea, Fallible.bind_eq_ok]
      constructor
      · rintro ⟨amount, hamount, h⟩
        split_ifs at h with hsmall hpos
        · cases h
        · have hn' : amount.toNat = n := Option.some.inj (Except.ok.inj h)
          have hround : amount = n := by omega
          exact ⟨hleaves, by rw [KeptByFloat, ← hround, hamount]⟩
        · cases h
      · rintro ⟨-, hkept⟩
        refine ⟨n, hkept, ?_⟩
        have hlarge : ¬(1 = 1 ∧ (n : ℤ) < Unicode.minBarePrice) := by
          rintro ⟨-, hlt⟩
          have hmin : Unicode.minBarePrice = 100000 := rfl
          omega
        rw [if_neg hlarge, if_pos (by omega), Int.toNat_natCast]
        rfl

/-! ### The text -/

/-- The text: a maximum, and what follows. -/
def underText (script : Script) (comma : Option Char) (n : ℕ) (continuation : String) : String :=
  "under " ++ String.ofList (written script comma n) ++ continuation

/-- The normalized continuation behind the number. -/
def behind (w : List Char) : List Char := if w = [] then [] else ' ' :: w

/-- What a continuation is: empty, or a blank with a word or a number that is no magnitude, no
currency and no unit of area, and it has no other price in it that a cue announces. -/
structure Continuation (u : Unicode) (text : String) : Prop where
  start : text = "" ∨ ∃ more, text = " " ++ more
  word : ∀ first, (words (u.normalize text)).head? = some first →
    first ∉ Unicode.multipliers.map Prod.fst ∧
    first ∉ ["egp", "le", "pound", "pounds", "جنيه", "جم"] ∧
    first ∉ ["²", "m²", "m2", "sqm", "sq", "meter", "meters", "metre", "metres", "متر", "م2", "م²"]
  cue : ∀ re ∈ [u.rangeRe, u.maxRe, u.minRe, u.budgetRe],
    re.search (u.normalize text).toList = none

section Text

variable {u : Unicode} (hu : u.Lawful) {n : ℕ} {comma : Option Char}

/-- The characters of an amount. -/
def amountChars : List Char := ['0', '1', '2', '3', '4', '5', '6', '7', '8', '9', ',']

theorem mem_amountChars {c : Char} (hc : c ∈ normalAmount comma n) : c ∈ amountChars := by
  have hall : ∀ d < 10, Script.ascii.digit d ∈ amountChars := by decide
  have hdigit (c : Char) (hc : c ∈ (Nat.digits 10 n).map Script.ascii.digit) :
      c ∈ amountChars := by
    obtain ⟨d, hd, rfl⟩ := List.mem_map.1 hc
    exact hall d (Nat.digits_lt_base (by decide) hd)
  have hgrouped (digits : List Char) (hdigits : ∀ c ∈ digits, c ∈ amountChars) :
      ∀ c ∈ groupThrees ',' digits, c ∈ amountChars := by
    fun_induction groupThrees ',' digits with
    | case1 a b d e rest ih =>
      simp only [List.forall_mem_cons] at hdigits ⊢
      obtain ⟨ha, hb, hd, hrest⟩ := hdigits
      exact ⟨ha, hb, hd, by decide, ih (List.forall_mem_cons.2 hrest)⟩
    | case2 short hshort => exact hdigits
  rw [normalAmount, written, List.mem_reverse] at hc
  cases comma with
  | none => exact hdigit c hc
  | some comma => exact hgrouped _ hdigit c hc

theorem isPlain_normalAmount {c : Char} (hc : c ∈ normalAmount comma n) : IsPlain c := by
  have hall : ∀ c ∈ amountChars, IsPlain c := by decide
  exact hall c (mem_amountChars hc)

theorem not_isSpace_normalAmount {c : Char} (hc : c ∈ normalAmount comma n) :
    isSpace c = false := by
  have hall : ∀ c ∈ amountChars, isSpace c = false := by decide
  exact hall c (mem_amountChars hc)

/-- A text without white space is a word. -/
theorem words_of_letters {s : String} (hne : s ≠ "") (hs : ∀ c ∈ s.toList, isSpace c = false) :
    words s = [s] := by
  have hread (word letters : List Char) (hletters : ∀ c ∈ letters, isSpace c = false) :
      wordsFrom word letters =
        if (letters.reverse ++ word).isEmpty then []
        else [String.ofList (letters.reverse ++ word).reverse] := by
    induction letters generalizing word with
    | nil => rfl
    | cons c letters ih =>
      obtain ⟨hc, hletters⟩ := List.forall_mem_cons.1 hletters
      rw [wordsFrom_cons_letter hc, ih _ hletters, List.reverse_cons, List.append_assoc]
      rfl
  have hnil : ¬(s.toList.reverse ++ []).isEmpty = true := by
    rw [List.append_nil, List.isEmpty_reverse, List.isEmpty_iff, String.toList_eq_nil_iff]
    exact hne
  rw [words, hread [] _ hs, if_neg hnil, List.append_nil, List.reverse_reverse,
    String.ofList_toList]

/-- The translated text. -/
def translated (text : String) : String := String.ofList (text.toList.map Unicode.translateDigit)

theorem translated_append (s t : String) : translated (s ++ t) = translated s ++ translated t := by
  rw [translated, String.toList_append, List.map_append, String.ofList_append, translated,
    translated]

/-- The amount behind the cue, normalized. -/
def underAmount (comma : Option Char) (n : ℕ) : String :=
  "under" ++ " " ++ String.ofList (normalAmount comma n)

theorem translated_underText (script : Script)
    (hcomma : ∀ c, comma = some c → c ∈ groupCommas) (continuation : String) :
    translated (underText script comma n continuation) =
      underAmount comma n ++ translated continuation := by
  have hunder : translated "under " = "under" ++ " " := by decide
  have hamount : translated (String.ofList (written script comma n)) =
      String.ofList (normalAmount comma n) := by
    rw [translated, String.toList_ofList, translate_written script hcomma]
  rw [underText, translated_append, translated_append, hunder, hamount, underAmount]

theorem isPlain_underAmount : ∀ c ∈ (underAmount comma n).toList, IsPlain c := by
  have hunder : ∀ c ∈ ("under" ++ " ").toList, IsPlain c := by decide
  rw [underAmount, String.toList_append, String.toList_ofList]
  exact List.forall_mem_append.2 ⟨hunder, fun c hc => isPlain_normalAmount hc⟩

include hu

theorem words_underAmount (hn : n ≠ 0) :
    words (underAmount comma n) = ["under", String.ofList (normalAmount comma n)] := by
  obtain ⟨f, hf⟩ := exists_figure_normalAmount hu comma hn
  have hne : String.ofList (normalAmount comma n) ≠ "" := by
    intro hempty
    have hnil := congrArg String.toList hempty
    rw [String.toList_ofList, ← hf, Figure.text] at hnil
    exact f.first_ne (List.append_eq_nil_iff.1 hnil).1
  rw [underAmount, words_append_blank, words_of_letters (by decide) (by decide),
    words_of_letters hne fun c hc => ?_]
  · rfl
  · rw [String.toList_ofList] at hc
    exact not_isSpace_normalAmount hc

/-- **The normalized text**: the cue, the amount and the normalized continuation. -/
theorem normalize_underText (hn : n ≠ 0) (script : Script)
    (hcomma : ∀ c, comma = some c → c ∈ groupCommas) {continuation : String}
    (hstart : continuation = "" ∨ ∃ more, continuation = " " ++ more) :
    (u.normalize (underText script comma n continuation)).toList =
      (underAmount comma n).toList ++ behind (u.normalize continuation).toList := by
  have hamount : " ".intercalate ["under", String.ofList (normalAmount comma n)] =
      underAmount comma n := by
    rw [String.intercalate_cons_cons, String.intercalate_singleton, underAmount]
  have hnormal (text : String) : u.normalize text =
      " ".intercalate (words (u.lower (translated text))) := rfl
  rw [hnormal, translated_underText script hcomma]
  rcases hstart with rfl | ⟨more, rfl⟩
  · have hempty : u.normalize "" = "" := by
      have hnil : translated "" = "" := by decide
      rw [hnormal, hnil, hu.lower_plain "" (by simp)]
      rfl
    have hnil : translated "" = "" := by decide
    rw [hnil, String.append_empty, hu.lower_plain _ isPlain_underAmount, words_underAmount hu hn,
      hamount, hempty]
    exact (List.append_nil _).symm
  · have hblank : translated (" " ++ more) = " " ++ translated more := by
      have hone : translated " " = " " := by decide
      rw [translated_append, hone]
    have hself : words (u.lower (" " ++ translated more)) = words (u.lower (translated more)) := by
      have happend := hu.lower_append "" (translated more) (by simp)
      rw [String.empty_append] at happend
      have hwords := words_append_blank "" (u.lower (translated more))
      rw [String.empty_append] at hwords
      rw [happend, hwords]
      rfl
    rw [hnormal, hblank, hself, ← String.append_assoc,
      hu.lower_append _ _ isPlain_underAmount, words_append_blank, words_underAmount hu hn]
    cases hrest : words (u.lower (translated more)) with
    | nil =>
      rw [List.append_nil, hamount]
      exact (List.append_nil _).symm
    | cons first rest =>
      have hne : (" ".intercalate (first :: rest)).toList ≠ [] := by
        intro hnil
        have hfirst : first ∈ words (u.lower (translated more)) := hrest ▸ List.mem_cons_self
        have hwords := words_intercalate (first :: rest)
        rw [String.toList_eq_nil_iff.1 hnil] at hwords
        have hself := words_of_letters (of_mem_words hfirst).1 (of_mem_words hfirst).2
        rw [List.flatMap_cons, hself] at hwords
        exact absurd hwords nofun
      rw [behind, if_neg hne]
      have hcons : " ".intercalate (["under", String.ofList (normalAmount comma n)] ++
          first :: rest) = underAmount comma n ++ (" " ++ " ".intercalate (first :: rest)) := by
        rw [List.cons_append, List.cons_append, List.nil_append, String.intercalate_cons_cons,
          String.intercalate_cons_cons, underAmount]
        simp only [String.append_assoc]
      rw [hcons, String.toList_append, String.toList_append]
      rfl

/-- The characters before the continuation. -/
def underChars : List Char := ['u', 'n', 'd', 'e', 'r', ' '] ++ amountChars

/-- None of the characters before the continuation begins another cue. -/
theorem same_underAmount (w : List Char) {letters : List Char}
    (hletters : letters ⊆ Unicode.cueLetters) :
    ∀ c ∈ (underAmount comma n).toList ++ (behind w).take 1, ∀ p ∈ letters.map u.same,
      p c = false := by
  have hmem : ∀ c ∈ (underAmount comma n).toList ++ (behind w).take 1, c ∈ underChars := by
    have hunder : ∀ c ∈ ("under" ++ " ").toList, c ∈ underChars := by decide
    have hblank : ∀ c ∈ (behind w).take 1, c = ' ' := by
      intro c hc
      rw [behind] at hc
      split_ifs at hc
      · cases hc
      · simpa using hc
    rw [underAmount, String.toList_append, String.toList_ofList]
    refine List.forall_mem_append.2 ⟨List.forall_mem_append.2 ⟨hunder, fun c hc => ?_⟩,
      fun c hc => ?_⟩
    · exact List.mem_append_right _ (mem_amountChars hc)
    · rw [hblank c hc]
      decide
  have hdiffer : ∀ a ∈ Unicode.cueLetters, ∀ c ∈ underChars,
      IsPatternLetter a ∧ c.toNat < 0x80 ∧ a.toLower ≠ c.toLower := by
    decide
  intro c hc p hp
  obtain ⟨a, ha, rfl⟩ := List.mem_map.1 hp
  obtain ⟨hletter, hascii, hne⟩ := hdiffer a (hletters ha) c (hmem c hc)
  exact Bool.eq_false_iff.2 fun hsame => hne (hu.same_ascii a c hletter hascii hsame)

/-- **Another cue** is found only in the continuation. -/
theorem search_underAmount (n : ℕ) (comma : Option Char) {re : Pattern} {letters : List Char}
    (hheads : re.heads = some (letters.map u.same)) (hletters : letters ⊆ Unicode.cueLetters)
    (hforward : re.forward = true) {w : List Char} (hw : re.search w = none) :
    re.search ((underAmount comma n).toList ++ behind w) = none := by
  have hsplit : (underAmount comma n).toList ++ behind w =
      ((underAmount comma n).toList ++ (behind w).take 1) ++ w := by
    rw [behind]
    split_ifs with hempty
    · rw [hempty, List.take_nil, List.append_nil, List.append_nil]
    · rw [List.append_assoc]
      rfl
  rw [hsplit]
  exact Pattern.search_append_eq_none hheads hforward (same_underAmount hu w hletters) hw

/-- Behind the amount no number goes on. -/
theorem stops_behind (w : List Char) : Stops u.isDecimal (behind w) := by
  intro c more h
  rw [behind] at h
  split_ifs at h
  obtain ⟨rfl, -⟩ := List.cons.inj h
  exact ⟨(hu.isDecimal_eq (by decide)).trans (by decide), fun hsep => absurd hsep (by decide)⟩

/-- A digit is neither white space nor a letter of a currency. -/
theorem matchAt_currency (before rest : List Char) {c : Char} (hc : c ∈ amountChars) :
    u.currency.matchAt ⟨before, c :: rest, []⟩ = some ⟨before, c :: rest, []⟩ := by
  have hspace : ∀ c ∈ amountChars, isSpace c = false := by decide
  have hdiffer : ∀ a ∈ ['e', 'l', 'p', 'p', 'ج', 'ج'], ∀ c ∈ amountChars,
      IsPatternLetter a ∧ c.toNat < 0x80 ∧ a.toLower ≠ c.toLower := by
    decide
  refine Pattern.matchAt_opt_none (List.eq_nil_iff_forall_not_mem.2 fun t ht => ?_)
  obtain ⟨r, hr, ht⟩ := List.mem_flatMap.1 ht
  have hclasses : ∀ p ∈ blanks.classes, ∀ c, p c = true → isSpace c = true := by
    intro p hp d hd
    obtain rfl := List.mem_singleton.1 hp
    exact hd
  obtain ⟨word, hword, hblank⟩ := Pattern.ways_over hclasses hr
  have hheads : (u.oneOf ["egp", "le", "pound", "pounds", "جنيه", "جم"]).heads =
      some (['e', 'l', 'p', 'p', 'ج', 'ج'].map u.same) := rfl
  obtain ⟨d, more, ⟨p, hp, hd⟩, hletter⟩ := Pattern.ways_heads hheads ht
  obtain ⟨a, ha, rfl⟩ := List.mem_map.1 hp
  have hrest := hword.rest
  cases word with
  | nil =>
    rw [List.nil_append, hletter.rest] at hrest
    obtain ⟨rfl, -⟩ := List.cons.inj hrest
    obtain ⟨hpattern, hascii, hne⟩ := hdiffer a ha c hc
    exact hne (hu.same_ascii a c hpattern hascii hd)
  | cons e word =>
    obtain ⟨rfl, -⟩ := List.cons.inj hrest
    have hblank' := hblank c List.mem_cons_self
    rw [hspace c hc] at hblank'
    cases hblank'

/-- **The maximum is read off the amount**, with what is taken behind it. -/
theorem cueAmount_maxRe (comma : Option Char) (hn : n ≠ 0) (w : List Char) :
    u.cueAmount u.maxRe ((underAmount comma n).toList ++ behind w) =
      u.toAmount (normalAmount comma n) ((u.taken (behind w)).group "unit")
        (u.taken (behind w)).rest := by
  obtain ⟨f, hf⟩ := exists_figure_normalAmount hu comma hn
  obtain ⟨c, rest, hfirst⟩ := List.exists_cons_of_ne_nil f.first_ne
  have hc : c ∈ amountChars := by
    have hmem : c ∈ normalAmount comma n := by
      rw [← hf, Figure.text, hfirst]
      exact List.mem_cons_self
    exact mem_amountChars hmem
  have htext : f.text ++ behind w = c :: (rest ++ groupsText f.groups ++ behind w) := by
    rw [Figure.text, hfirst]
    rfl
  have hblank : isSpace c = false := by
    have hall : ∀ c ∈ amountChars, isSpace c = false := by decide
    exact hall c hc
  have hstart : (underAmount comma n).toList ++ behind w =
      "under".toList ++ (' ' :: (f.text ++ behind w)) := by
    have hlist : (String.ofList (normalAmount comma n)).toList = normalAmount comma n :=
      String.toList_ofList
    rw [underAmount, String.toList_append, String.toList_append, hlist, hf, List.append_assoc,
      List.append_assoc]
    rfl
  -- The keyword, the blank, no currency, no blank: then the number.
  have hkeyword : u.maxKeywords.matchAt
      ⟨[], "under".toList ++ (' ' :: (f.text ++ behind w)), []⟩ =
        some ⟨"under".toList.reverse ++ [], ' ' :: (f.text ++ behind w), []⟩ :=
    Pattern.matchAt_alt_left (Pattern.matchAt_word u.same hu.same_refl "under" [] _ [])
  have hspaces : blanks.matchAt ⟨"under".toList.reverse ++ [], ' ' :: (f.text ++ behind w), []⟩ =
      some ⟨[' '].reverse ++ ("under".toList.reverse ++ []), f.text ++ behind w, []⟩ := by
    refine @Pattern.matchAt_star_one isSpace [' '] _ (by decide) (fun d more hd => ?_) _ []
    obtain ⟨rfl, -⟩ := List.cons.inj (htext.symm.trans hd)
    exact hblank
  have hnone : blanks.matchAt
      ⟨[' '].reverse ++ ("under".toList.reverse ++ []), f.text ++ behind w, []⟩ =
        some ⟨[' '].reverse ++ ("under".toList.reverse ++ []), f.text ++ behind w, []⟩ := by
    refine @Pattern.matchAt_star_one isSpace [] _ (List.forall_mem_nil _) (fun d more hd => ?_) _ []
    obtain ⟨rfl, -⟩ := List.cons.inj (htext.symm.trans hd)
    exact hblank
  have hcurrency := matchAt_currency hu ([' '].reverse ++ ("under".toList.reverse ++ []))
    (rest ++ groupsText f.groups ++ behind w) hc
  rw [← htext] at hcurrency
  have hrest := stops_behind hu w
  have hnumber := Pattern.matchAt_seq
    (hu.matchAt_number f hrest "num" ([' '].reverse ++ ("under".toList.reverse ++ [])) [])
    (u.matchAt_afterNumber _ (behind w) _)
  have hmatch := Pattern.matchAt_seq hkeyword (Pattern.matchAt_seq hspaces
    (Pattern.matchAt_seq hcurrency (Pattern.matchAt_seq hnone hnumber)))
  have hsearch := Pattern.search_of_matchAt_start (a := u.maxRe) (hstart ▸ hmatch)
  rw [Unicode.cueAmount, hsearch, ← hf]
  exact u.amountFromMatch_eq hu hrest hnumber

/-- **The bounds of the text** are the maximum alone. -/
theorem parsePriceRange_underText (hn : n ≠ 0) (script : Script)
    (hcomma : ∀ c, comma = some c → c ∈ groupCommas) {continuation : String}
    (h : Continuation u continuation) :
    u.parsePriceRange (underText script comma n continuation) =
      (u.toAmount (normalAmount comma n)
        ((u.taken (behind (u.normalize continuation).toList)).group "unit")
        (u.taken (behind (u.normalize continuation).toList)).rest).map fun maximum =>
          (none, maximum) := by
  have hnormal := normalize_underText hu hn script hcomma h.start
  have hrange := search_underAmount hu n comma u.heads_rangeRe (by decide) u.forward_rangeRe
    (h.cue _ (by simp))
  have hmin := search_underAmount hu n comma u.heads_minRe (by decide) u.forward_minRe
    (h.cue _ (by simp))
  have hbudget := search_underAmount hu n comma u.heads_budgetRe (by decide) u.forward_budgetRe
    (h.cue _ (by simp))
  have hmax := cueAmount_maxRe hu comma hn (u.normalize continuation).toList
  have hrangeAmounts : u.rangeAmounts ((underAmount comma n).toList ++
      behind (u.normalize continuation).toList) = .ok (none, none) := by
    rw [Unicode.rangeAmounts, hrange]
  have hminAmount : u.cueAmount u.minRe ((underAmount comma n).toList ++
      behind (u.normalize continuation).toList) = .ok none := by
    rw [Unicode.cueAmount, hmin]
  have hbudgetAmount : u.cueAmount u.budgetRe ((underAmount comma n).toList ++
      behind (u.normalize continuation).toList) = .ok none := by
    rw [Unicode.cueAmount, hbudget]
  rw [Unicode.parsePriceRange, hnormal]
  simp only [hrangeAmounts, hmax, hminAmount, hbudgetAmount, bind, Except.bind, pure, Except.pure]
  cases u.toAmount (normalAmount comma n)
      ((u.taken (behind (u.normalize continuation).toList)).group "unit")
      (u.taken (behind (u.normalize continuation).toList)).rest with
  | error e => rfl
  | ok maximum =>
    cases maximum with
    | none => rfl
    | some high => rfl

end Text

/-! ### Continuations in ASCII -/

theorem normalize_empty : Unicode.ascii.normalize "" = "" := by
  rw [Unicode.normalize_ascii]
  decide

theorem normalize_maadi : Unicode.ascii.normalize " maadi" = "maadi" := by
  rw [Unicode.normalize_ascii]
  decide

/-- Nothing follows. -/
theorem continuation_empty : Continuation .ascii "" where
  start := .inl rfl
  word first hfirst := by
    rw [normalize_empty] at hfirst
    cases hfirst
  cue re hre := by
    rw [normalize_empty]
    simp only [List.mem_cons, List.not_mem_nil, or_false] at hre
    rcases hre with rfl | rfl | rfl | rfl <;> decide

/-- A place is neither a magnitude nor a currency nor a unit of area. -/
theorem continuation_maadi : Continuation .ascii " maadi" where
  start := .inr ⟨"maadi", rfl⟩
  word first hfirst := by
    have hwords : (words "maadi").head? = some "maadi" := by decide
    rw [normalize_maadi, hwords] at hfirst
    obtain rfl := Option.some.inj hfirst
    decide
  cue re hre := by
    rw [normalize_maadi]
    simp only [List.mem_cons, List.not_mem_nil, or_false] at hre
    rcases hre with rfl | rfl | rfl | rfl <;> decide

/-- **A stated maximum is read exactly when what follows leaves the amount** and a `float` keeps
it; and the bounds of any text are in order. -/
theorem stated_maximum_iff {u : Unicode} (hu : u.Lawful) :
    (∀ (n : ℕ) (script : Script) (comma : Option Char) (continuation : String), 100000 ≤ n →
      (∀ c, comma = some c → c ∈ groupCommas) → Continuation u continuation →
        (u.parsePriceRange (underText script comma n continuation) = .ok (none, some n) ↔
          u.LeavesAmount (behind (u.normalize continuation).toList) ∧ KeptByFloat n)) ∧
    ∀ (text : String) (low high : ℕ), u.parsePriceRange text = .ok (some low, some high) →
      low ≤ high := by
  refine ⟨fun n script comma continuation hn hcomma h => ?_, fun text low high h => ?_⟩
  · rw [parsePriceRange_underText hu (by omega) script hcomma h,
      ← toAmount_normalAmount hu hn comma]
    cases u.toAmount (normalAmount comma n)
        ((u.taken (behind (u.normalize continuation).toList)).group "unit")
        (u.taken (behind (u.normalize continuation).toList)).rest with
    | error e => exact iff_of_false nofun nofun
    | ok maximum => simp [Except.map]
  · exact (u.properBounds_parsePriceRange h).le low high rfl rfl

/-- An amount of five millions in Arabic-Indic digits is the maximum where nothing follows. -/
theorem stated_maximum_five_million :
    (Unicode.ascii.parsePriceRange (underText .arabicIndic (some '٬') 5000000 "") =
        .ok (none, some 5000000) ↔
      Unicode.ascii.LeavesAmount (behind (Unicode.ascii.normalize "").toList) ∧
        KeptByFloat 5000000) ∧
      Unicode.ascii.parsePriceRange "from 2 million to 1 million" =
        .ok (some 1000000, some 2000000) ∧ 1000000 ≤ 2000000 := by
  have hstated := stated_maximum_iff lawful_ascii
  have hrange : Unicode.ascii.parsePriceRange "from 2 million to 1 million" =
      .ok (some 1000000, some 2000000) := by decide +kernel
  have hcomma : ∀ c ∈ some '٬', c ∈ groupCommas := by
    rintro c ⟨⟩
    decide
  exact ⟨hstated.1 5000000 .arabicIndic (some '٬') "" (by decide) hcomma continuation_empty,
    hrange, hstated.2 _ _ _ hrange⟩

/-- **Five million is read as five million millions** before a word that begins with `m`. -/
theorem under_five_million_maadi :
    Continuation .ascii " maadi" ∧
      Unicode.ascii.parsePriceRange (underText .ascii (some ',') 5000000 " maadi") =
        .ok (none, some 5000000000000) := by
  refine ⟨continuation_maadi, ?_⟩
  have hcomma : ∀ c ∈ some ',', c ∈ groupCommas := by
    rintro c ⟨⟩
    decide
  rw [parsePriceRange_underText lawful_ascii (by decide) .ascii hcomma continuation_maadi,
    normalize_maadi]
  decide +kernel

end Rag
end TopChoice
