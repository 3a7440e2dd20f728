/-
# Words joined by a separator

The regular language `[p]+(sep[p]+)*`: one or more words of letters, with a single separator
between one word and the next.  A text is in it iff it is not empty, has letters and separators
only, and its separators stand alone and inside (`mem_joined_iff`).
-/

import Mathlib.Computability.Language
import Mathlib.Data.List.Chain
import Mathlib.Data.List.DropRight

namespace JoinedWords

open Computability

variable {α : Type*} {p : α → Prop} {sep : α} {l w : List α}

/-- `[p]+`: the words. -/
def word (p : α → Prop) : Language α := {w | w ≠ [] ∧ ∀ a ∈ w, p a}

/-- `sep[p]+`: a further word. -/
def further (p : α → Prop) (sep : α) : Language α := {l | ∃ w ∈ word p, l = sep :: w}

/-- `[p]+(sep[p]+)*`: the words joined. -/
def joined (p : α → Prop) (sep : α) : Language α := word p * (further p sep)∗

/-- Letters and separators only, no separator next to another one or at the end. -/
structure Tail (p : α → Prop) (sep : α) (l : List α) : Prop where
  mem : ∀ a ∈ l, p a ∨ a = sep
  last : l.getLast? ≠ some sep
  single : l.IsChain fun a b => ¬(a = sep ∧ b = sep)

/-- Separators stand alone and inside. -/
structure Spaced (p : α → Prop) (sep : α) (l : List α) : Prop extends Tail p sep l where
  ne_nil : l ≠ []
  head : l.head? ≠ some sep

theorem head_of_word (hsep : ¬p sep) (hw : w ∈ word p) : w.head? ≠ some sep := fun h =>
  hsep (hw.2 sep (List.mem_of_mem_head? h))

theorem tail_of_word (hsep : ¬p sep) (hw : w ∈ word p) : Tail p sep w where
  mem a ha := Or.inl (hw.2 a ha)
  last h := hsep (hw.2 sep (List.mem_of_mem_getLast? h))
  single := by
    rw [List.isChain_iff_getElem]
    intro i hi hboth
    exact hsep (hboth.1 ▸ hw.2 _ (List.getElem_mem _))

theorem spaced_of_word (hsep : ¬p sep) (hw : w ∈ word p) : Spaced p sep w where
  toTail := tail_of_word hsep hw
  ne_nil := hw.1
  head := head_of_word hsep hw

/-- A further word. -/
theorem Spaced.append (hsep : ¬p sep) (hl : Spaced p sep l) (hw : w ∈ word p) :
    Spaced p sep (l ++ sep :: w) := by
  have htail := tail_of_word hsep hw
  refine ⟨⟨fun a ha => ?_, ?_, ?_⟩, ?_, ?_⟩
  · rcases List.mem_append.1 ha with ha | ha
    · exact hl.mem a ha
    · rcases List.mem_cons.1 ha with rfl | ha
      · exact Or.inr rfl
      · exact htail.mem a ha
  · rw [List.getLast?_append_of_ne_nil _ (List.cons_ne_nil sep w),
      ← List.singleton_append, List.getLast?_append_of_ne_nil _ hw.1]
    exact htail.last
  · refine List.isChain_append.2 ⟨hl.single, List.isChain_cons.2 ⟨?_, htail.single⟩, ?_⟩
    · rintro b hb ⟨-, rfl⟩
      exact head_of_word hsep hw hb
    · rintro a ha b - ⟨rfl, -⟩
      exact hl.last ha
  · simp
  · rw [List.head?_append_of_ne_nil _ hl.ne_nil]
    exact hl.head

theorem Spaced.append_flatten (hsep : ¬p sep) {rest : List (List α)} (hl : Spaced p sep l)
    (hrest : ∀ y ∈ rest, y ∈ further p sep) : Spaced p sep (l ++ rest.flatten) := by
  induction rest generalizing l with
  | nil => simpa using hl
  | cons y rest ih =>
    obtain ⟨w, hw, rfl⟩ := hrest y List.mem_cons_self
    have hstep := ih (hl.append hsep hw) fun z hz => hrest z (List.mem_cons_of_mem _ hz)
    simpa using hstep

theorem cons_mem_joined {a : α} (ha : p a) (hl : l ∈ joined p sep ∨ l ∈ (further p sep)∗) :
    a :: l ∈ joined p sep := by
  rcases hl with hl | hl
  · obtain ⟨w, hw, rest, hrest, rfl⟩ := Language.mem_mul.1 hl
    refine Language.mem_mul.2 ⟨a :: w, ⟨List.cons_ne_nil a w, fun b hb => ?_⟩, rest, hrest, rfl⟩
    rcases List.mem_cons.1 hb with rfl | hb
    · exact ha
    · exact hw.2 b hb
  · refine Language.mem_mul.2 ⟨[a], ⟨List.cons_ne_nil a [], fun b hb => ?_⟩, l, hl, rfl⟩
    rw [List.mem_singleton.1 hb]
    exact ha

theorem cons_mem_kstar (hl : l ∈ joined p sep) : sep :: l ∈ (further p sep)∗ := by
  obtain ⟨w, hw, rest, ⟨words, rfl, hwords⟩, rfl⟩ := Language.mem_mul.1 hl
  refine ⟨(sep :: w) :: words, by simp, fun y hy => ?_⟩
  rcases List.mem_cons.1 hy with rfl | hy
  · exact ⟨w, hw, rfl⟩
  · exact hwords y hy

/-- What may follow a word is words joined, or further words. -/
theorem Tail.mem_or (h : Tail p sep l) :
    (l ≠ [] → l.head? ≠ some sep → l ∈ joined p sep) ∧
      (l = [] ∨ l.head? = some sep → l ∈ (further p sep)∗) := by
  induction l with
  | nil => exact ⟨fun hne => absurd rfl hne, fun _ => Language.nil_mem_kstar _⟩
  | cons a l ih =>
    have hchain := List.isChain_cons.1 h.single
    have htail : Tail p sep l := by
      refine ⟨fun b hb => h.mem b (List.mem_cons_of_mem a hb), fun hlast => h.last ?_, hchain.2⟩
      rw [List.getLast?_cons, hlast, Option.getD_some]
    obtain ⟨hjoined, hstar⟩ := ih htail
    refine ⟨fun _ hhead => ?_, fun hhead => ?_⟩
    · have ha : p a := (h.mem a List.mem_cons_self).resolve_right fun hsep => hhead (hsep ▸ rfl)
      by_cases hl : l = [] ∨ l.head? = some sep
      · exact cons_mem_joined ha (Or.inr (hstar hl))
      · rw [not_or] at hl
        exact cons_mem_joined ha (Or.inl (hjoined hl.1 hl.2))
    · obtain rfl : a = sep := by simpa using hhead
      have hne : l ≠ [] := by
        rintro rfl
        exact h.last rfl
      exact cons_mem_kstar (hjoined hne fun hl => hchain.1 a hl ⟨rfl, rfl⟩)

/-- **The words joined**: not empty, letters and separators only, and the separators stand alone
and inside. -/
theorem mem_joined_iff (hsep : ¬p sep) : l ∈ joined p sep ↔ Spaced p sep l := by
  refine ⟨fun h => ?_, fun h => h.toTail.mem_or.1 h.ne_nil h.head⟩
  obtain ⟨w, hw, rest, ⟨words, rfl, hwords⟩, rfl⟩ := Language.mem_mul.1 h
  exact (spaced_of_word hsep hw).append_flatten hsep hwords

/-- A further word is in the language iff what it follows is. -/
theorem append_mem_joined_iff (hsep : ¬p sep) (hw : w ∈ word p) :
    l ++ sep :: w ∈ joined p sep ↔ l ∈ joined p sep := by
  rw [mem_joined_iff hsep, mem_joined_iff hsep]
  refine ⟨fun h => ?_, fun h => h.append hsep hw⟩
  obtain ⟨hleft, -, hjoin⟩ := List.isChain_append.1 h.single
  have hne : l ≠ [] := by
    rintro rfl
    exact h.head rfl
  refine ⟨⟨fun a ha => h.mem a (List.mem_append_left _ ha), fun hlast => ?_, hleft⟩, hne, ?_⟩
  · exact hjoin sep hlast sep rfl ⟨rfl, rfl⟩
  · have hhead := h.head
    rwa [List.head?_append_of_ne_nil _ hne] at hhead

theorem head_of_isPrefix {m : List α} (hm : m <+: l) (hl : l.head? ≠ some sep) :
    m.head? ≠ some sep := by
  obtain ⟨t, rfl⟩ := hm
  intro h
  rw [List.head?_append, h] at hl
  exact hl rfl

theorem isChain_of_isPrefix {m : List α} {r : α → α → Prop} (hm : m <+: l) (hl : l.IsChain r) :
    m.IsChain r := by
  obtain ⟨t, rfl⟩ := hm
  exact hl.left_of_append

section strip

variable [DecidableEq α]

theorem head_dropWhile_ne : (l.dropWhile (· = sep)).head? ≠ some sep := by
  intro h
  have := List.head?_dropWhile_not (fun a => decide (a = sep)) l
  rw [h] at this
  simp at this

/-- Stripped at the end, a text whose separators stand alone and that does not begin with one is
in the language, or nothing is left of it. -/
theorem rdropWhile_mem_joined (hsep : ¬p sep) (hmem : ∀ a ∈ l, p a ∨ a = sep)
    (hsingle : l.IsChain fun a b => ¬(a = sep ∧ b = sep)) (hhead : l.head? ≠ some sep)
    (hne : l.rdropWhile (· = sep) ≠ []) : l.rdropWhile (· = sep) ∈ joined p sep := by
  have hsub := List.rdropWhile_prefix (fun a => decide (a = sep)) l
  refine (mem_joined_iff hsep).2
    ⟨⟨fun a ha => hmem a (hsub.subset ha), fun h => ?_, isChain_of_isPrefix hsub hsingle⟩, hne,
      head_of_isPrefix hsub hhead⟩
  have hlast := List.rdropWhile_last_not (fun a => decide (a = sep)) l hne
  rw [List.getLast?_eq_some_getLast hne, Option.some.injEq] at h
  exact hlast (decide_eq_true h)

end strip

end JoinedWords
