/-
# The number behind a cue

What the price patterns of `app/retrieval/filters.py` read of a text, whatever the text.  Their
keywords begin with letters, so none of them begins inside a number, and a cue takes the whole
number (`matchAt_number`); what it takes of the text behind the number depends on that text
alone (`taken`).

The tables of Python are a parameter that agrees with ASCII (`Lawful`).
-/

import TopChoice.Lib.FirstWay
import TopChoice.Rag.Filters

namespace TopChoice
namespace Rag

open Backtrack (Consumes Pattern Place)

/-- A letter of a pattern: an ASCII character or an Arabic letter. -/
def IsPatternLetter (a : Char) : Prop := a.toNat < 0x80 ∨ 0x600 ≤ a.toNat ∧ a.toNat ≤ 0x6FF

instance (a : Char) : Decidable (IsPatternLetter a) := inferInstanceAs (Decidable (_ ∨ _))

/-- A character of a price as it is stated, which is its own lower case. -/
def IsPlain (c : Char) : Prop := 'a' ≤ c ∧ c ≤ 'z' ∨ '0' ≤ c ∧ c ≤ '9' ∨ c ∈ [' ', ',', '.']

instance (c : Char) : Decidable (IsPlain c) := inferInstanceAs (Decidable (_ ∨ _))

/-- What `str.lower` and the classes of `re` do on ASCII characters. -/
structure Unicode.Lawful (u : Unicode) : Prop where
  /-- `\d` has of the ASCII characters the digits, with their values. -/
  decimal : ∀ c, c.toNat < 0x80 →
    u.decimal c = if c.isDigit then some (c.toNat - '0'.toNat) else none
  same_refl : ∀ c, u.same c c = true
  /-- Without regard to case an ASCII character is one letter of a pattern. -/
  same_ascii : ∀ a c, IsPatternLetter a → c.toNat < 0x80 → u.same a c = true →
    a.toLower = c.toLower
  lower_plain : ∀ text : String, (∀ c ∈ text.toList, IsPlain c) → u.lower text = text
  /-- Behind a blank a text has the lower case it has by itself. -/
  lower_append : ∀ head tail : String, (∀ c ∈ head.toList, IsPlain c) →
    u.lower (head ++ " " ++ tail) = head ++ " " ++ u.lower tail

namespace Unicode

variable (u : Unicode)

/-! ### Keywords -/

/-- The letters that the keywords of a range, a minimum and a budget begin with. -/
def cueLetters : List Char := ['a', 'b', 'f', 'm', 'o', 'p', 's', 'أ', 'ا', 'ب', 'ف', 'ل', 'م']

theorem heads_rangeRe : u.rangeRe.heads = some (['b', 'f', 'م'].map u.same) := rfl

theorem heads_minRe : u.minRe.heads =
    some (['o', 'a', 'm', 'a', 's', 'm', 'أ', 'ا', 'ف', 'ب', 'ا', 'ل'].map u.same) := rfl

theorem heads_maxRe : u.maxRe.heads =
    some (['u', 'b', 'l', 'u', 'n', 'a', 'm', 'c', 'w', 'أ', 'ا', 'ح', 'ف', 'ب', 'م'].map
      u.same) := rfl

theorem heads_budgetRe : u.budgetRe.heads = some (['b', 'a', 'p', 'م', 'ب', 'م'].map u.same) := rfl

theorem forward_rangeRe : u.rangeRe.forward = true := rfl

theorem forward_minRe : u.minRe.forward = true := rfl

theorem forward_budgetRe : u.budgetRe.forward = true := rfl

end Unicode

/-! ### Numbers -/

/-- A point or a comma. -/
def isSeparator (c : Char) : Bool := c = '.' || c = ','

/-- A number: digits, and groups of digits behind a point or a comma. -/
structure Figure (isDigit : Char → Bool) where
  first : List Char
  groups : List (Char × List Char)
  first_ne : first ≠ []
  first_digits : ∀ c ∈ first, isDigit c = true
  group : ∀ g ∈ groups, isSeparator g.1 = true ∧ g.2 ≠ [] ∧ ∀ c ∈ g.2, isDigit c = true

/-- The groups as they are written. -/
def groupsText (groups : List (Char × List Char)) : List Char := groups.flatMap fun g => g.1 :: g.2

/-- The number as it is written. -/
def Figure.text {isDigit : Char → Bool} (f : Figure isDigit) : List Char :=
  f.first ++ groupsText f.groups

/-- What follows does not go on with a number. -/
def Stops (isDigit : Char → Bool) (rest : List Char) : Prop :=
  ∀ c more, rest = c :: more → isDigit c = false ∧
    (isSeparator c = true → ∀ d more', more = d :: more' → isDigit d = false)

namespace Unicode

section Number

variable {u : Unicode} (hu : u.Lawful)

include hu

theorem Lawful.isDecimal_eq {c : Char} (hc : c.toNat < 0x80) : u.isDecimal c = c.isDigit := by
  rw [isDecimal, hu.decimal c hc]
  split_ifs with h
  · exact h.symm
  · exact (Bool.eq_false_iff.2 h).symm

theorem Lawful.isDecimal_separator {c : Char} (hc : isSeparator c = true) :
    u.isDecimal c = false := by
  rw [isSeparator, Bool.or_eq_true, decide_eq_true_iff, decide_eq_true_iff] at hc
  rcases hc with rfl | rfl
  · exact (hu.isDecimal_eq (by decide)).trans (by decide)
  · exact (hu.isDecimal_eq (by decide)).trans (by decide)

/-- Behind the digits of a group come a group, or what follows the number. -/
theorem Lawful.not_isDecimal_groupsText {groups : List (Char × List Char)}
    (hgroups : ∀ g ∈ groups, isSeparator g.1 = true ∧ g.2 ≠ [] ∧ ∀ c ∈ g.2, u.isDecimal c = true)
    {rest : List Char} (hrest : Stops u.isDecimal rest) (c : Char) (more : List Char)
    (h : groupsText groups ++ rest = c :: more) : u.isDecimal c = false := by
  cases groups with
  | nil => exact (hrest c more h).1
  | cons g groups =>
    obtain ⟨rfl, -⟩ := List.cons.inj h
    exact hu.isDecimal_separator (hgroups g List.mem_cons_self).1

/-- **A number is taken whole.** -/
theorem Lawful.matchAt_number (f : Figure u.isDecimal) {rest : List Char}
    (hrest : Stops u.isDecimal rest) (name : String) (before : List Char)
    (groups : List (String × List Char)) :
    (u.number name).matchAt ⟨before, f.text ++ rest, groups⟩ =
      some ⟨f.text.reverse ++ before, rest, (name, f.text) :: groups⟩ := by
  have hgroups : ∀ (gs : List (Char × List Char)) (before : List Char),
      (∀ g ∈ gs, isSeparator g.1 = true ∧ g.2 ≠ [] ∧ ∀ c ∈ g.2, u.isDecimal c = true) →
      (Pattern.star (.seq (.one isSeparator) u.digits)).matchAt
          ⟨before, groupsText gs ++ rest, groups⟩ =
        some ⟨(groupsText gs).reverse ++ before, rest, groups⟩ := by
    intro gs
    induction gs with
    | nil =>
      intro before _
      refine Pattern.matchAt_star_stop (List.eq_nil_iff_forall_not_mem.2 fun t ht => ?_)
      obtain ⟨r, hr, ht⟩ := List.mem_flatMap.1 ht
      obtain ⟨c, hc, hcons⟩ := Pattern.mem_ways_one hr
      have hheads : u.digits.heads = some [u.isDecimal] := rfl
      obtain ⟨d, word, ⟨p, hp, hd⟩, hword⟩ := Pattern.ways_heads hheads ht
      obtain rfl := List.mem_singleton.1 hp
      have hstop := (hrest c r.rest hcons.rest).2 hc d _ hword.rest
      rw [hstop] at hd
      cases hd
    | cons g gs ih =>
      intro before hgs
      obtain ⟨⟨hsep, hne, hdigits⟩, hgs⟩ := List.forall_mem_cons.1 hgs
      have hrun := Pattern.matchAt_run hne hdigits (hu.not_isDecimal_groupsText hgs hrest)
        (g.1 :: before) groups
      have hone := Pattern.matchAt_one (p := isSeparator) hsep before
        (g.2 ++ (groupsText gs ++ rest)) groups
      have htext : groupsText (g :: gs) ++ rest = g.1 :: (g.2 ++ (groupsText gs ++ rest)) := by
        simp [groupsText]
      rw [htext]
      refine Pattern.matchAt_star_step (Pattern.matchAt_seq hone hrun) ?_ ?_
      · simp only [List.length_cons, List.length_append]
        omega
      · rw [ih _ hgs]
        simp [groupsText]
  have hfirst := Pattern.matchAt_run f.first_ne f.first_digits
    (hu.not_isDecimal_groupsText f.group hrest) before groups
  have hbody : (Pattern.seq u.digits (.star (.seq (.one isSeparator) u.digits))).matchAt
      ⟨before, f.text ++ rest, groups⟩ = some ⟨f.text.reverse ++ before, rest, groups⟩ := by
    rw [Figure.text, List.append_assoc]
    refine Pattern.matchAt_seq hfirst ?_
    rw [hgroups f.groups _ f.group, List.reverse_append, List.append_assoc]
  exact Pattern.matchAt_group name hbody ⟨rfl, rfl, [], rfl⟩

end Number

/-! ### What is taken behind a number -/

variable (u : Unicode)

/-- What may follow the number of an amount: a magnitude word and a currency. -/
def afterNumber : Pattern := .seq u.unit u.currency

theorem isSome_matchAt_afterNumber (s : Place) : (u.afterNumber.matchAt s).isSome :=
  Pattern.isSome_matchAt_seq (Pattern.isSome_matchAt_opt _ s) fun t =>
    Pattern.isSome_matchAt_opt _ t

/-- What is taken of the text behind a number: the place after it, and the magnitude word. -/
def taken (rest : List Char) : Place :=
  (u.afterNumber.matchAt (.start rest)).get (u.isSome_matchAt_afterNumber _)

/-- The key under which the magnitude of an amount is looked up, by what follows the number. -/
def unitKey (rest : List Char) : String :=
  u.lower (strip (String.ofList (((u.taken rest).group "unit").getD [])))

/-- **What is taken behind a number** depends on the text there alone. -/
theorem matchAt_afterNumber (before rest : List Char) (groups : List (String × List Char)) :
    u.afterNumber.matchAt ⟨before, rest, groups⟩ = some ((u.taken rest).shift before groups) := by
  have hshift := Pattern.matchAt_shift before groups (a := u.afterNumber)
    (s := .start rest) (.inl rfl)
  rw [← Option.some_get (u.isSome_matchAt_afterNumber (.start rest))] at hshift
  exact hshift

/-- Behind a number only a magnitude word is captured. -/
theorem names_taken (rest : List Char) : ∀ g ∈ (u.taken rest).groups, g.1 = "unit" := by
  obtain ⟨captured, hcaptured, hnames⟩ := Pattern.ways_names
    (Pattern.mem_ways_of_matchAt (u.matchAt_afterNumber [] rest []))
  have hgroups : (u.taken rest).groups = captured := by
    simpa [Place.shift] using hcaptured
  have hnames' : u.afterNumber.names = ["unit"] := rfl
  intro g hg
  rw [hnames'] at hnames
  exact List.mem_singleton.1 (hnames g (hgroups ▸ hg))

/-- **The amount behind a cue**: of the number there, with what is taken behind it. -/
theorem amountFromMatch_eq (hu : u.Lawful) {f : Figure u.isDecimal} {rest : List Char}
    (hrest : Stops u.isDecimal rest) {before : List Char} {place : Place}
    (h : (Pattern.seq (u.number "num") u.afterNumber).matchAt ⟨before, f.text ++ rest, []⟩ =
      some place) :
    u.amountFromMatch place =
      u.toAmount f.text ((u.taken rest).group "unit") (u.taken rest).rest := by
  have hmatch := Pattern.matchAt_seq (hu.matchAt_number f hrest "num" before [])
    (u.matchAt_afterNumber (f.text.reverse ++ before) rest [("num", f.text)])
  obtain rfl := Option.some.inj (h.symm.trans hmatch)
  have hnum : (u.taken rest).groups.lookup "num" = none := by
    rw [List.lookup_eq_none_iff]
    intro g hg
    rw [u.names_taken rest g hg]
    decide
  have hgroup (name : String) : ((u.taken rest).shift (f.text.reverse ++ before)
      [("num", f.text)]).group name =
        ((u.taken rest).groups.lookup name).or (List.lookup name [("num", f.text)]) := by
    rw [Place.group, Place.shift, List.lookup_append]
  have hunit : (((u.taken rest).shift (f.text.reverse ++ before) [("num", f.text)]).group
      "unit") = (u.taken rest).group "unit" := by
    rw [hgroup]
    exact Option.or_none
  rw [amountFromMatch, hgroup "num", hnum, hunit]
  rfl

end Unicode

/-! ### ASCII -/

theorem toLower_of_isPlain {c : Char} (hc : IsPlain c) : c.toLower = c := by
  have hcapital : ¬(65 ≤ c.val.toNat ∧ c.val.toNat ≤ 90) := by
    rcases hc with ⟨hlow, -⟩ | ⟨-, hhigh⟩ | hc
    · have hlow : 97 ≤ c.val.toNat := hlow
      omega
    · have hhigh : c.val.toNat ≤ 57 := hhigh
      omega
    · have hall : ∀ c ∈ [' ', ',', '.'], ¬(65 ≤ c.val.toNat ∧ c.val.toNat ≤ 90) := by decide
      exact hall c hc
  exact dif_neg hcapital

/-- The tables of the ASCII characters. -/
theorem lawful_ascii : Unicode.ascii.Lawful where
  decimal _ _ := rfl
  same_refl c := by simp [Unicode.ascii]
  same_ascii a c _ _ h := by
    simp only [Unicode.ascii, Bool.or_eq_true, decide_eq_true_eq] at h
    exact h.elim (congrArg Char.toLower) id
  lower_plain text h := by
    refine String.toList_injective ?_
    have hmap : (Unicode.ascii.lower text).toList = text.toList.map Char.toLower :=
      String.toList_map
    rw [hmap]
    exact (List.map_congr_left fun c hc => toLower_of_isPlain (h c hc)).trans (List.map_id _)
  lower_append head tail h := by
    have hmap (text : String) : (Unicode.ascii.lower text).toList = text.toList.map Char.toLower :=
      String.toList_map
    refine String.toList_injective ?_
    have hhead : head.toList.map Char.toLower = head.toList :=
      (List.map_congr_left fun c hc => toLower_of_isPlain (h c hc)).trans (List.map_id _)
    have hblank : " ".toList.map Char.toLower = " ".toList := rfl
    rw [hmap, String.toList_append, String.toList_append, List.map_append, List.map_append, hhead,
      hblank, String.toList_append, String.toList_append, hmap]

end Rag
end TopChoice
