/-
# Splitting a text that arrives in chunks

A delimiter is found at the front of what is left of a text, and leaves the rest after it
(`Delimiter`).  A text is split at the delimiters found from the left: the parts they end,
and the part after the last one (`split`).

A reader of chunks splits what it holds back of a text and the next chunk, takes the parts
and holds back the last one (`feed`).  For a delimiter that is found as soon as it is
complete, whatever comes after it, the reader finds the parts of the whole text, however the
text is cut into chunks (`feed_eq_split`).
-/

import Mathlib.Data.List.Basic

namespace Splitting

variable {α : Type*}

/-- What ends a part of a text: the rest after it, where a text starts with it. -/
structure Delimiter (α : Type*) where
  strip : List α → Option (List α)
  length_lt : ∀ {s rest}, strip s = some rest → rest.length < s.length

namespace Delimiter

variable (d : Delimiter α)

/-! ### Splitting -/

/-- The part before the first delimiter, and the rest after it. -/
def cut : List α → Option (List α × List α)
  | [] => none
  | a :: s =>
      match d.strip (a :: s) with
      | some rest => some ([], rest)
      | none => (cut s).map fun (part, rest) => (a :: part, rest)

theorem length_cut {s part rest : List α} (h : d.cut s = some (part, rest)) :
    rest.length < s.length := by
  induction s generalizing part with
  | nil => exact absurd h nofun
  | cons a s ih =>
    rw [cut] at h
    split at h
    next rest' hstrip =>
      obtain ⟨-, rfl⟩ := Prod.mk.inj (Option.some.inj h)
      exact d.length_lt hstrip
    · obtain ⟨⟨part', rest'⟩, hcut, heq⟩ := Option.map_eq_some_iff.1 h
      obtain ⟨-, rfl⟩ := Prod.mk.inj heq
      exact Nat.lt_succ_of_lt (ih hcut)

/-- The parts that a delimiter ends, and the part after the last one. -/
def split (s : List α) : List (List α) × List α :=
  match h : d.cut s with
  | none => ([], s)
  | some (part, rest) =>
      have := d.length_cut h
      (part :: (split rest).1, (split rest).2)
termination_by s.length

variable {d}

theorem split_of_cut_eq_none {s : List α} (h : d.cut s = none) : d.split s = ([], s) := by
  rw [split]
  split
  · rfl
  next hsome => exact absurd (h.symm.trans hsome) nofun

theorem split_of_cut_eq_some {s part rest : List α} (h : d.cut s = some (part, rest)) :
    d.split s = (part :: (d.split rest).1, (d.split rest).2) := by
  rw [split]
  split
  next hnone => exact absurd (h.symm.trans hnone) nofun
  next part' rest' hsome =>
    obtain ⟨rfl, rfl⟩ := Prod.mk.inj (Option.some.inj (h.symm.trans hsome))
    rfl

/-- A text has no delimiter when none of its ends starts with one. -/
theorem cut_eq_none {s : List α} (h : ∀ t, t <:+ s → d.strip t = none) : d.cut s = none := by
  induction s with
  | nil => rfl
  | cons a s ih =>
    rw [cut, h _ List.suffix_rfl, ih fun t ht => h t (ht.trans (List.suffix_cons a s))]
    rfl

/-- **The part after the last delimiter has none.** -/
theorem cut_split (s : List α) : d.cut (d.split s).2 = none := by
  induction s using split.induct d with
  | case1 s hcut =>
    rw [split_of_cut_eq_none hcut]
    exact hcut
  | case2 s part rest hcut _ ih =>
    rw [split_of_cut_eq_some hcut]
    exact ih

/-! ### Reading chunks -/

variable (d) in
/-- The reader of chunks: the parts it finds, and what it holds back in the end. -/
def feed : List (List α) → List α → List (List α) × List α
  | [], buffer => ([], buffer)
  | chunk :: chunks, buffer =>
      let parts := d.split (buffer ++ chunk)
      let later := feed chunks parts.2
      (parts.1 ++ later.1, later.2)

variable (d) in
/-- A delimiter is found as soon as it is complete: what comes after a text neither changes
the one it starts with, nor makes it start with one that has another inside. -/
structure Prompt : Prop where
  keeps : ∀ {s rest : List α} (t), d.strip s = some rest → d.strip (s ++ t) = some (rest ++ t)
  late : ∀ {s t rest : List α}, d.strip s = none → d.strip (s ++ t) = some rest →
    ∀ u, u <:+ s → d.strip u = none

namespace Prompt

variable (h : d.Prompt)

include h in
/-- The first delimiter stays the first. -/
theorem cut_append {s part rest : List α} (t : List α) (hcut : d.cut s = some (part, rest)) :
    d.cut (s ++ t) = some (part, rest ++ t) := by
  induction s generalizing part with
  | nil => exact absurd hcut nofun
  | cons a s ih =>
    rw [List.cons_append, cut]
    cases hstrip : d.strip (a :: s) with
    | some rest' =>
      rw [cut, hstrip] at hcut
      obtain ⟨rfl, rfl⟩ := Prod.mk.inj (Option.some.inj hcut)
      rw [← List.cons_append, h.keeps t hstrip]
    | none =>
      cases hlate : d.strip (a :: (s ++ t)) with
      | some rest' => exact absurd (hcut.symm.trans (cut_eq_none (h.late hstrip hlate))) nofun
      | none =>
        rw [cut, hstrip] at hcut
        obtain ⟨⟨part', rest'⟩, hcut', heq⟩ := Option.map_eq_some_iff.1 hcut
        obtain ⟨rfl, rfl⟩ := Prod.mk.inj heq
        rw [ih hcut']
        rfl

include h in
/-- **What is held back and the next chunk are split as the text they are the end of.** -/
theorem split_append (s t : List α) :
    d.split (s ++ t) =
      ((d.split s).1 ++ (d.split ((d.split s).2 ++ t)).1, (d.split ((d.split s).2 ++ t)).2) := by
  induction s using split.induct d with
  | case1 s hcut => rw [split_of_cut_eq_none hcut, List.nil_append]
  | case2 s part rest hcut _ ih =>
    rw [split_of_cut_eq_some (h.cut_append t hcut), split_of_cut_eq_some hcut, ih]
    rfl

include h in
/-- **The reader finds the parts of the whole text**, however it is cut into chunks. -/
theorem feed_eq_split (chunks : List (List α)) {buffer : List α} (hbuffer : d.cut buffer = none) :
    d.feed chunks buffer = d.split (buffer ++ chunks.flatten) := by
  induction chunks generalizing buffer with
  | nil => rw [List.flatten_nil, List.append_nil, split_of_cut_eq_none hbuffer, feed]
  | cons chunk chunks ih =>
    rw [feed, List.flatten_cons, ← List.append_assoc, h.split_append (buffer ++ chunk),
      ih (cut_split _)]

end Prompt

/-! ### Texts put together from parts -/

/-- No delimiter begins with one of these. -/
def Plain (d : Delimiter α) (part : List α) : Prop := ∀ a ∈ part, ∀ s, d.strip (a :: s) = none

/-- Before the first delimiter nothing is cut off. -/
theorem Plain.cut_append {part : List α} (h : d.Plain part) (s : List α) :
    d.cut (part ++ s) = (d.cut s).map fun (before, rest) => (part ++ before, rest) := by
  induction part with
  | nil => exact Option.map_id'.symm
  | cons a part ih =>
    obtain ⟨ha, hpart⟩ := List.forall_mem_cons.1 h
    rw [List.cons_append, cut, ha, ih hpart, Option.map_map]
    rfl

/-- A text where no delimiter begins has none. -/
theorem Plain.cut_eq_none {part : List α} (h : d.Plain part) : d.cut part = none := by
  rw [← List.append_nil part, h.cut_append]
  rfl

end Delimiter

end Splitting
