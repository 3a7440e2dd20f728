/-
# Two readers of one amount

`parse_price_range` and `parse_stated_amount` of `app/retrieval/filters.py` read the amounts of a
text with patterns and conversions of their own.  On a text with one number (`OneNumber`) both
come to that number: no cue begins inside it (`toAmount_of_bound`), and the stated amount is read
off it with the separators behind it (`parseStatedAmount_eq`).  They agree where the second reads
nothing, or both scale the digits alike and truncation makes of the product what rounding does
(`amount_readers_agree_iff`).
-/

import Mathlib.Tactic.GCongr
import Mathlib.Tactic.Ring
import TopChoice.Rag.NearestFloat
import TopChoice.Rag.PriceCues

namespace TopChoice
namespace Rag

open Backtrack (Consumes Pattern Place)

/-- What `re` does on digits: they have no case, no letter is one, and no white space. -/
structure Unicode.DigitLawful (u : Unicode) : Prop extends Unicode.Lawful u where
  same_number : ∀ a c, u.isDecimal c = true ∨ isSeparator c = true → u.same a c = true → a = c
  letter : ∀ c, 0x621 ≤ c.toNat ∧ c.toNat ≤ 0x64A ∨ c = '–' → u.isDecimal c = false
  space : ∀ c, isSpace c = true → u.isDecimal c = false

/-- A text with one number, normalized. -/
structure OneNumber (u : Unicode) (text : String) where
  before : List Char
  figure : Figure u.isDecimal
  rest : List Char
  text_eq : (u.normalize text).toList = before ++ figure.text ++ rest
  before_none : ∀ c ∈ before, u.isDecimal c = false
  rest_none : ∀ c ∈ rest, u.isDecimal c = false

/-! ### Letters and numbers -/

/-- A character of a keyword. -/
def isKeywordLetter (a : Char) : Bool :=
  a.toNat < 0x80 && !a.isDigit && !isSeparator a || 0x621 ≤ a.toNat && a.toNat ≤ 0x64A || a = '–'

/-- A part of a text between two that do not have a character of it. -/
theorem split_middle {α : Type} {before middle after head tail : List α} {c : α}
    (h : before ++ middle ++ after = head ++ c :: tail) (hbefore : c ∉ before)
    (hafter : c ∉ after) :
    ∃ left right, middle = left ++ c :: right ∧ head = before ++ left ∧
      tail = right ++ after := by
  rw [List.append_assoc] at h
  rcases List.append_eq_append_iff.1 h with ⟨part, rfl, hpart⟩ | ⟨part, rfl, hpart⟩
  · rcases List.append_eq_append_iff.1 hpart with ⟨more, rfl, hmore⟩ | ⟨more, rfl, hmore⟩
    · exact absurd (hmore ▸ List.mem_append_right more List.mem_cons_self) hafter
    · cases more with
      | nil => exact absurd (hmore ▸ List.mem_cons_self : c ∈ [] ++ after) hafter
      | cons d more =>
        obtain ⟨rfl, rfl⟩ := List.cons.inj hmore
        exact ⟨part, more, rfl, rfl, rfl⟩
  · cases part with
    | nil =>
      cases middle with
      | nil =>
        have hmem : c ∈ [] ++ ([] ++ after) := hpart ▸ List.mem_cons_self
        exact absurd hmem hafter
      | cons d middle =>
        obtain ⟨rfl, rfl⟩ := List.cons.inj hpart
        exact ⟨[], middle, rfl, by simp, rfl⟩
    | cons d part =>
      obtain ⟨rfl, -⟩ := List.cons.inj hpart
      exact absurd (List.mem_append_right head List.mem_cons_self) hbefore

theorem Figure.mem_text {isDigit : Char → Bool} (f : Figure isDigit) {c : Char}
    (hc : c ∈ f.text) : isDigit c = true ∨ isSeparator c = true := by
  rcases List.mem_append.1 hc with hc | hc
  · exact .inl (f.first_digits c hc)
  · obtain ⟨g, hg, hc⟩ := List.mem_flatMap.1 hc
    obtain ⟨hseparator, -, hdigits⟩ := f.group g hg
    rcases List.mem_cons.1 hc with rfl | hc
    · exact .inr hseparator
    · exact .inl (hdigits c hc)

/-- The first digit of a number. -/
theorem Figure.exists_text_eq_cons {isDigit : Char → Bool} (f : Figure isDigit) :
    ∃ c more, f.text = c :: more ∧ isDigit c = true := by
  obtain ⟨c, more, hfirst⟩ := List.exists_cons_of_ne_nil f.first_ne
  refine ⟨c, more ++ groupsText f.groups, by rw [Figure.text, hfirst]; rfl, ?_⟩
  exact f.first_digits c (hfirst ▸ List.mem_cons_self)

section Letters

variable {u : Unicode} (hu : u.DigitLawful)

include hu

/-- No letter of a keyword is taken for a character of a number. -/
theorem same_of_isKeywordLetter {a c : Char} (ha : isKeywordLetter a = true)
    (hc : u.isDecimal c = true ∨ isSeparator c = true) : u.same a c = false := by
  refine Bool.eq_false_iff.2 fun hsame => ?_
  obtain rfl := hu.same_number a c hc hsame
  have hcases : a.toNat < 0x80 ∧ a.isDigit = false ∧ isSeparator a = false ∨
      0x621 ≤ a.toNat ∧ a.toNat ≤ 0x64A ∨ a = '–' := by
    simpa [isKeywordLetter, and_assoc, or_assoc] using ha
  rcases hcases with ⟨hascii, hdigit, hseparator⟩ | hletter
  · rw [hu.isDecimal_eq hascii, hdigit, hseparator] at hc
    exact hc.elim nofun nofun
  · rw [hu.letter a hletter] at hc
    have hseparator : isSeparator a = false := by
      have hne : a ≠ '.' ∧ a ≠ ',' := by
        constructor <;> rintro rfl <;> exact absurd hletter (by decide)
      simp [isSeparator, hne]
    rw [hseparator] at hc
    exact hc.elim nofun nofun

variable {c : Char} (hc : u.isDecimal c = true)

include hc

theorem avoids_word {text : String} (htext : text.toList.all isKeywordLetter = true) :
    (u.word text).Avoids c :=
  Pattern.avoids_word.2 fun a ha =>
    same_of_isKeywordLetter hu (List.all_eq_true.1 htext a ha) (.inl hc)

theorem avoids_oneOf {texts : List String}
    (htexts : texts.all (fun text => text.toList.all isKeywordLetter) = true) :
    (u.oneOf texts).Avoids c := by
  refine Pattern.avoids_any.2 (List.forall_mem_map.2 fun text ht => ?_)
  exact avoids_word hu hc (List.all_eq_true.1 htexts text ht)

theorem avoids_blanks : blanks.Avoids c := by
  refine List.forall_mem_singleton.2 (Bool.eq_false_iff.2 fun hspace => ?_)
  rw [hu.space c hspace] at hc
  cases hc

theorem avoids_phrase {texts : List String}
    (htexts : texts.all (fun text => text.toList.all isKeywordLetter) = true) :
    (u.phrase texts).Avoids c := by
  have hblank : someBlanks.Avoids c := Pattern.avoids_seq.2
    ⟨avoids_blanks hu hc, avoids_blanks hu hc⟩
  refine Pattern.avoids_all.2 ?_
  induction texts with
  | nil => exact nofun
  | cons text texts ih =>
    obtain ⟨htext, htexts⟩ := Bool.and_eq_true_iff.1 htexts
    have hword := avoids_word hu hc htext
    cases texts with
    | nil => exact List.forall_mem_singleton.2 hword
    | cons next texts =>
      exact List.forall_mem_cons.2 ⟨hword, List.forall_mem_cons.2 ⟨hblank, ih htexts⟩⟩

theorem avoids_currency : u.currency.Avoids c :=
  Pattern.avoids_seq.2 ⟨avoids_blanks hu hc, avoids_oneOf hu hc rfl⟩

theorem avoids_maxKeywords : u.maxKeywords.Avoids c := by
  refine Pattern.avoids_any.2 ?_
  simp only [List.forall_mem_cons, List.not_mem_nil, false_imp_iff, implies_true, and_true]
  refine ⟨avoids_word hu hc rfl, avoids_word hu hc rfl, avoids_phrase hu hc rfl,
    avoids_phrase hu hc rfl, avoids_phrase hu hc rfl, avoids_phrase hu hc rfl,
    Pattern.avoids_seq.2 ⟨avoids_word hu hc rfl, avoids_word hu hc rfl⟩,
    avoids_phrase hu hc rfl, avoids_word hu hc rfl, avoids_phrase hu hc rfl,
    avoids_phrase hu hc rfl, avoids_word hu hc rfl, avoids_phrase hu hc rfl,
    avoids_phrase hu hc rfl, avoids_phrase hu hc rfl⟩

/-- **Behind a cue** there is a number, after a letter and characters that the cue takes. -/
theorem exists_number_of_cue {keywords middle : Pattern} {letters : List Char}
    (hheads : keywords.heads = some (letters.map u.same)) (hkeywords : keywords.Avoids c)
    (hmiddle : middle.Avoids c) (hknames : keywords.names = []) (hmnames : middle.names = [])
    {s r : Place} (h : (Pattern.all [keywords, middle, u.amount]).matchAt s = some r) :
    ∃ first word t, (∃ a ∈ letters, u.same a first = true) ∧ Consumes (first :: word) s t ∧
      c ∉ first :: word ∧ t.groups = s.groups ∧
      (Pattern.seq (u.number "num") u.afterNumber).matchAt t = some r := by
  obtain ⟨t₁, h₁, h⟩ := Pattern.matchAt_seq_inv h
  obtain ⟨t₂, h₂, h⟩ := Pattern.matchAt_seq_inv h
  obtain ⟨t₃, h₃, h⟩ := Pattern.matchAt_seq_inv h
  obtain ⟨t₄, h₄, h⟩ := Pattern.matchAt_seq_inv h
  obtain ⟨first, word, ⟨p, hp, hfirst⟩, hword⟩ := Pattern.ways_heads hheads h₁
  obtain ⟨a, ha, rfl⟩ := List.mem_map.1 hp
  obtain ⟨word₁, hword₁, hc₁⟩ := hkeywords.ways h₁
  obtain rfl : first :: word = word₁ :=
    List.append_cancel_right (hword.rest.symm.trans hword₁.rest)
  obtain ⟨word₂, hword₂, hc₂⟩ := hmiddle.ways h₂
  obtain ⟨word₃, hword₃, hc₃⟩ := (avoids_currency hu hc).ways h₃
  obtain ⟨word₄, hword₄, hc₄⟩ := (avoids_blanks hu hc).ways h₄
  refine ⟨first, word ++ word₂ ++ word₃ ++ word₄, t₄, ⟨a, ha, hfirst⟩,
    ((hword.trans hword₂).trans hword₃).trans hword₄, ?_, ?_, h⟩
  · simp only [← List.cons_append, List.mem_append, not_or]
    exact ⟨⟨⟨hc₁, hc₂⟩, hc₃⟩, hc₄⟩
  · rw [Pattern.groups_of_names_eq_nil rfl h₄, Pattern.groups_of_names_eq_nil rfl h₃,
      Pattern.groups_of_names_eq_nil hmnames h₂, Pattern.groups_of_names_eq_nil hknames h₁]

end Letters

/-! ### The price -/

namespace OneNumber

variable {u : Unicode} {text : String} (o : OneNumber u text)

theorem stops : Stops u.isDecimal o.rest := by
  intro c more h
  have hall := o.rest_none
  rw [h] at hall
  obtain ⟨hc, hmore⟩ := List.forall_mem_cons.1 hall
  refine ⟨hc, fun _ d more' hd => ?_⟩
  rw [hd] at hmore
  exact hmore d List.mem_cons_self

/-- A digit of the text is one of the number. -/
theorem split_digit {head tail : List Char} {c : Char} (hc : u.isDecimal c = true)
    (h : (u.normalize text).toList = head ++ c :: tail) :
    ∃ left right, o.figure.text = left ++ c :: right ∧ head = o.before ++ left ∧
      tail = right ++ o.rest := by
  refine split_middle (o.text_eq.symm.trans h) (fun hmem => ?_) fun hmem => ?_
  · rw [o.before_none c hmem] at hc
    cases hc
  · rw [o.rest_none c hmem] at hc
    cases hc

/-- What the price patterns read of the number. -/
def price : Except Raised (Option ℕ) :=
  u.toAmount o.figure.text ((u.taken o.rest).group "unit") (u.taken o.rest).rest

variable {o}

/-- **The amount behind a cue** is the number's. -/
theorem amountFromMatch_of_cue (hu : u.DigitLawful) (keywords middle : Pattern)
    {letters : List Char} (hheads : keywords.heads = some (letters.map u.same))
    (hletters : letters.all isKeywordLetter = true) {c : Char} {more : List Char}
    (htext : o.figure.text = c :: more) (hc : u.isDecimal c = true)
    (hkeywords : keywords.Avoids c) (hmiddle : middle.Avoids c)
    (hknames : keywords.names = []) (hmnames : middle.names = []) {r : Place}
    (h : (Pattern.all [keywords, middle, u.amount]).search (u.normalize text).toList = some r) :
    u.amountFromMatch r = o.price := by
  obtain ⟨skipped, rest, hsplit, hmatch⟩ := Pattern.search_inv h
  obtain ⟨first, word, t, ⟨a, ha, hfirst⟩, hword, hnot, hgroups, hnumber⟩ :=
    exists_number_of_cue hu hc hheads hkeywords hmiddle hknames hmnames hmatch
  have hnumberHeads : (Pattern.seq (u.number "num") u.afterNumber).heads =
      some [u.isDecimal] := rfl
  obtain ⟨d, tail, ⟨p, hp, hd⟩, hdigit⟩ :=
    Pattern.ways_heads hnumberHeads (Pattern.mem_ways_of_matchAt hnumber)
  obtain rfl := List.mem_singleton.1 hp
  have htrest : t.rest = d :: (tail ++ r.rest) := hdigit.rest
  have hwhole : (u.normalize text).toList =
      (skipped ++ first :: word) ++ d :: (tail ++ r.rest) := by
    rw [hsplit, List.append_assoc, ← htrest]
    exact congrArg (skipped ++ ·) hword.rest
  obtain ⟨left, right, hfigure, hhead, htail⟩ := o.split_digit hd hwhole
  -- The cue ends before the number: it takes no first digit, and begins with a letter.
  have hleft : left = [] := by
    cases left with
    | nil => rfl
    | cons e left =>
      obtain ⟨rfl, -⟩ := List.cons.inj (htext.symm.trans hfigure)
      rcases List.append_eq_append_iff.1 hhead with ⟨part, -, hpart⟩ | ⟨part, -, hpart⟩
      · exact absurd (hpart ▸ List.mem_append_right part List.mem_cons_self) hnot
      · cases part with
        | nil =>
          obtain ⟨rfl, -⟩ := List.cons.inj hpart
          exact absurd List.mem_cons_self hnot
        | cons e part =>
          obtain ⟨-, hleft⟩ := List.cons.inj hpart
          have hmem : first ∈ o.figure.text := by
            rw [hfigure, hleft]
            simp
          have hsame := same_of_isKeywordLetter hu (List.all_eq_true.1 hletters a ha)
            (o.figure.mem_text hmem)
          rw [hfirst] at hsame
          cases hsame
  subst hleft
  obtain ⟨before, trest, groups⟩ := t
  obtain rfl : groups = [] := hgroups
  have hplace : trest = o.figure.text ++ o.rest := by
    have hcons : trest = d :: (tail ++ r.rest) := htrest
    rw [hcons, htail, hfigure]
    rfl
  rw [hplace] at hnumber
  exact u.amountFromMatch_eq hu.toLawful o.stops hnumber

theorem cueAmount_maxRe (hu : u.DigitLawful) (o : OneNumber u text) {v : ℕ}
    (h : u.cueAmount u.maxRe (u.normalize text).toList = .ok (some v)) :
    o.price = .ok (some v) := by
  rw [Unicode.cueAmount] at h
  split at h
  · rename_i r hr
    obtain ⟨c, more, htext, hc⟩ := o.figure.exists_text_eq_cons
    rw [← h]
    exact (amountFromMatch_of_cue hu u.maxKeywords blanks u.heads_maxRe rfl htext hc
      (avoids_maxKeywords hu hc) (avoids_blanks hu hc) rfl rfl hr).symm
  · cases h

end OneNumber

/-! ### The stated amount -/

namespace OneNumber

variable {u : Unicode} {text : String} (o : OneNumber u text)

/-- The digits and separators that are stated: the number, and the separators behind it. -/
def raw : List Char := o.figure.text ++ o.rest.takeWhile isSeparator

variable {o}

end OneNumber

/-! ### What the digits are worth -/

namespace PyFloat

/-- How many digits stand behind the decimal mark. -/
def decimals (text : List Char) : ℕ :=
  match text.splitOn '.' with
  | [_, behind] => behind.length
  | _ => 0

end PyFloat

namespace OneNumber

variable {u : Unicode} {text : String} (o : OneNumber u text)

variable {o}

end OneNumber

/-! ### Numbers in ASCII -/

end Rag
end TopChoice
