/-
# The first way of a pattern

What a backtracking pattern matches, without running it.  Every way of a pattern consumes a
word (`ways_over`), a pattern whose first character is of some classes consumes one of them first
(`ways_heads`), and the ways of a pattern that does not look back depend on nothing but the
text that follows (`ways_shift`).

The match is the first way, so it is put together from first ways: of a sequence
(`matchAt_seq`), of a repetition, which goes on as long as it can (`matchAt_star_step`,
`matchAt_run`).  The other way round, the match of a sequence is the first way of its second
part after some way of its first (`matchAt_seq_inv`).
-/

import Mathlib.Data.List.Flatten
import TopChoice.Lib.Backtrack

namespace Backtrack

/-! ### What is consumed -/

/-- Between two places a word is consumed, and the captures are only added to. -/
structure Consumes (word : List Char) (s t : Place) : Prop where
  rest : s.rest = word ++ t.rest
  before : t.before = word.reverse ++ s.before
  groups : ∃ captured, t.groups = captured ++ s.groups

namespace Consumes

variable {v w : List Char} {r s t : Place}

theorem refl (s : Place) : Consumes [] s s := ⟨rfl, rfl, [], rfl⟩

theorem trans (hv : Consumes v r s) (hw : Consumes w s t) : Consumes (v ++ w) r t where
  rest := by rw [hv.rest, hw.rest, List.append_assoc]
  before := by rw [hw.before, hv.before, List.reverse_append, List.append_assoc]
  groups := by
    obtain ⟨x, hx⟩ := hv.groups
    obtain ⟨y, hy⟩ := hw.groups
    exact ⟨y ++ x, by rw [hy, hx, List.append_assoc]⟩

/-- What lies between the places is the word. -/
theorem between (h : Consumes w s t) : s.between t = w := by
  rw [Place.between, h.before, List.length_append, List.length_reverse, Nat.add_sub_cancel,
    ← List.length_reverse, List.take_left, List.reverse_reverse]

end Consumes

/-- What holds of no step and of one step followed by others holds of a repetition. -/
theorem mem_repeated {step : Place → List Place} {R : Place → Place → Prop} (hrefl : ∀ s, R s s)
    (hstep : ∀ r s t, s ∈ step r → R s t → R r t) {n : ℕ} {s t : Place}
    (h : t ∈ repeated step n s) : R s t := by
  induction n generalizing s with
  | zero =>
    obtain rfl := List.mem_singleton.1 h
    exact hrefl t
  | succ n ih =>
    rcases List.mem_append.1 h with h | h
    · obtain ⟨r, hr, h⟩ := List.mem_flatMap.1 h
      exact hstep s r t (List.mem_filter.1 hr).1 (ih h)
    · obtain rfl := List.mem_singleton.1 h
      exact hrefl t

theorem mem_lazyRepeated {step : Place → List Place} {R : Place → Place → Prop}
    (hrefl : ∀ s, R s s) (hstep : ∀ r s t, s ∈ step r → R s t → R r t) {n : ℕ} {s t : Place}
    (h : t ∈ lazyRepeated step n s) : R s t := by
  induction n generalizing s with
  | zero =>
    obtain rfl := List.mem_singleton.1 h
    exact hrefl t
  | succ n ih =>
    rcases List.mem_cons.1 h with rfl | h
    · exact hrefl t
    · obtain ⟨r, hr, h⟩ := List.mem_flatMap.1 h
      exact hstep s r t (List.mem_filter.1 hr).1 (ih h)

namespace Pattern

/-- The classes of characters of a pattern. -/
def classes : Pattern → List (Char → Bool)
  | one p => [p]
  | seq a b => a.classes ++ b.classes
  | alt a b => a.classes ++ b.classes
  | star a => a.classes
  | lazyStar a => a.classes
  | upTo _ a => a.classes
  | group _ a => a.classes
  | _ => []

/-- The classes of the characters a pattern may consume first; `none` when it need not consume
any. -/
def heads : Pattern → Option (List (Char → Bool))
  | one p => some [p]
  | seq a _ => a.heads
  | alt a b =>
      match a.heads, b.heads with
      | some ps, some qs => some (ps ++ qs)
      | _, _ => none
  | group _ a => a.heads
  | _ => none

/-- The pattern does not look back. -/
def forward : Pattern → Bool
  | behind _ => false
  | boundary _ => false
  | seq a b => a.forward && b.forward
  | alt a b => a.forward && b.forward
  | star a => a.forward
  | lazyStar a => a.forward
  | upTo _ a => a.forward
  | group _ a => a.forward
  | _ => true

/-- The names of the groups. -/
def names : Pattern → List String
  | seq a b => a.names ++ b.names
  | alt a b => a.names ++ b.names
  | star a => a.names
  | lazyStar a => a.names
  | upTo _ a => a.names
  | group name a => name :: a.names
  | _ => []

variable {a b : Pattern} {q : Char → Prop} {s t : Place}

theorem mem_ways_one {p : Char → Bool} (h : t ∈ (one p).ways s) :
    ∃ c, p c = true ∧ Consumes [c] s t := by
  rw [ways] at h
  split at h
  · split_ifs at h with hc
    · obtain rfl := List.mem_singleton.1 h
      rename_i c rest hrest
      exact ⟨c, hc, hrest, rfl, [], rfl⟩
    · cases h
  · cases h

/-- **A way consumes a word of the classes.** -/
theorem ways_over (ha : ∀ p ∈ a.classes, ∀ c, p c = true → q c) (h : t ∈ a.ways s) :
    ∃ word, Consumes word s t ∧ ∀ c ∈ word, q c := by
  have hnil (s : Place) : ∃ word, Consumes word s s ∧ ∀ c ∈ word, q c :=
    ⟨[], .refl s, fun _ hc => nomatch hc⟩
  have happend (r s t : Place) (hr : ∃ word, Consumes word r s ∧ ∀ c ∈ word, q c)
      (hs : ∃ word, Consumes word s t ∧ ∀ c ∈ word, q c) :
      ∃ word, Consumes word r t ∧ ∀ c ∈ word, q c := by
    obtain ⟨v, hv, hvq⟩ := hr
    obtain ⟨w, hw, hwq⟩ := hs
    exact ⟨v ++ w, hv.trans hw, List.forall_mem_append.2 ⟨hvq, hwq⟩⟩
  induction a generalizing s t with
  | empty =>
    obtain rfl := List.mem_singleton.1 h
    exact hnil t
  | one p =>
    obtain ⟨c, hc, hword⟩ := mem_ways_one h
    exact ⟨[c], hword, by simpa using ha p List.mem_cons_self c hc⟩
  | behind p =>
    rw [ways] at h
    split_ifs at h
    · obtain rfl := List.mem_singleton.1 h
      exact hnil t
    · cases h
  | boundary isWord =>
    rw [ways] at h
    split_ifs at h
    · cases h
    · obtain rfl := List.mem_singleton.1 h
      exact hnil t
  | finish =>
    rw [ways] at h
    split_ifs at h
    · obtain rfl := List.mem_singleton.1 h
      exact hnil t
    · cases h
  | seq a b iha ihb =>
    obtain ⟨ha, hb⟩ := List.forall_mem_append.1 ha
    obtain ⟨r, hr, h⟩ := List.mem_flatMap.1 h
    exact happend s r t (iha ha hr) (ihb hb h)
  | alt a b iha ihb =>
    obtain ⟨ha, hb⟩ := List.forall_mem_append.1 ha
    rcases List.mem_append.1 h with h | h
    · exact iha ha h
    · exact ihb hb h
  | star a ih => exact mem_repeated hnil (fun r s t hs hrest => happend r s t (ih ha hs) hrest) h
  | lazyStar a ih =>
    exact mem_lazyRepeated hnil (fun r s t hs hrest => happend r s t (ih ha hs) hrest) h
  | upTo n a ih => exact mem_repeated hnil (fun r s t hs hrest => happend r s t (ih ha hs) hrest) h
  | group name a ih =>
    obtain ⟨r, hr, rfl⟩ := List.mem_map.1 h
    obtain ⟨word, hword, hq⟩ := ih ha hr
    obtain ⟨captured, hcaptured⟩ := hword.groups
    exact ⟨word, ⟨hword.rest, hword.before, _ :: captured, by rw [hcaptured]; rfl⟩, hq⟩

/-- A way consumes a word. -/
theorem ways_consumes (h : t ∈ a.ways s) : ∃ word, Consumes word s t :=
  (ways_over (fun _ _ _ _ => trivial) h).imp fun _ (hword : _ ∧ ∀ c ∈ _, True) => hword.1

/-- **A way consumes a character of the first classes first.** -/
theorem ways_heads {ps : List (Char → Bool)} (ha : a.heads = some ps) (h : t ∈ a.ways s) :
    ∃ c word, (∃ p ∈ ps, p c = true) ∧ Consumes (c :: word) s t := by
  induction a generalizing s t ps with
  | one p =>
    obtain rfl := Option.some.inj ha
    obtain ⟨c, hc, hword⟩ := mem_ways_one h
    exact ⟨c, [], ⟨p, List.mem_singleton_self p, hc⟩, hword⟩
  | seq a b iha ihb =>
    obtain ⟨r, hr, h⟩ := List.mem_flatMap.1 h
    obtain ⟨c, word, hc, hword⟩ := iha ha hr
    obtain ⟨more, hmore⟩ := ways_consumes h
    exact ⟨c, word ++ more, hc, hword.trans hmore⟩
  | alt a b iha ihb =>
    rw [heads] at ha
    split at ha
    · rename_i qs rs hqs hrs
      obtain rfl := Option.some.inj ha
      rcases List.mem_append.1 h with h | h
      · obtain ⟨c, word, ⟨p, hp, hc⟩, hword⟩ := iha hqs h
        exact ⟨c, word, ⟨p, List.mem_append_left _ hp, hc⟩, hword⟩
      · obtain ⟨c, word, ⟨p, hp, hc⟩, hword⟩ := ihb hrs h
        exact ⟨c, word, ⟨p, List.mem_append_right _ hp, hc⟩, hword⟩
    · cases ha
  | group name a ih =>
    obtain ⟨r, hr, rfl⟩ := List.mem_map.1 h
    obtain ⟨c, word, hc, hword⟩ := ih ha hr
    obtain ⟨captured, hcaptured⟩ := hword.groups
    exact ⟨c, word, hc, hword.rest, hword.before, _ :: captured, by rw [hcaptured]; rfl⟩
  | empty => cases ha
  | behind p => cases ha
  | boundary isWord => cases ha
  | finish => cases ha
  | star a ih => cases ha
  | lazyStar a ih => cases ha
  | upTo n a ih => cases ha

/-- **What a way captures** bears the names of the groups. -/
theorem ways_names (h : t ∈ a.ways s) :
    ∃ captured, t.groups = captured ++ s.groups ∧ ∀ g ∈ captured, g.1 ∈ a.names := by
  have hnil (names : List String) (s : Place) :
      ∃ captured, s.groups = captured ++ s.groups ∧ ∀ g ∈ captured, g.1 ∈ names :=
    ⟨[], rfl, fun _ hg => nomatch hg⟩
  have happend (names : List String) (r s t : Place)
      (hr : ∃ captured, s.groups = captured ++ r.groups ∧ ∀ g ∈ captured, g.1 ∈ names)
      (hs : ∃ captured, t.groups = captured ++ s.groups ∧ ∀ g ∈ captured, g.1 ∈ names) :
      ∃ captured, t.groups = captured ++ r.groups ∧ ∀ g ∈ captured, g.1 ∈ names := by
    obtain ⟨x, hx, hxn⟩ := hr
    obtain ⟨y, hy, hyn⟩ := hs
    exact ⟨y ++ x, by rw [hy, hx, List.append_assoc], List.forall_mem_append.2 ⟨hyn, hxn⟩⟩
  have hmore {names more : List String} (hsub : ∀ name ∈ names, name ∈ more) {s t : Place}
      (h : ∃ captured, t.groups = captured ++ s.groups ∧ ∀ g ∈ captured, g.1 ∈ names) :
      ∃ captured, t.groups = captured ++ s.groups ∧ ∀ g ∈ captured, g.1 ∈ more := by
    obtain ⟨x, hx, hxn⟩ := h
    exact ⟨x, hx, fun g hg => hsub _ (hxn g hg)⟩
  induction a generalizing s t with
  | empty =>
    obtain rfl := List.mem_singleton.1 h
    exact hnil _ t
  | one p =>
    rw [ways] at h
    split at h
    · split_ifs at h
      · obtain rfl := List.mem_singleton.1 h
        exact hnil _ s
      · cases h
    · cases h
  | behind p =>
    rw [ways] at h
    split_ifs at h
    · obtain rfl := List.mem_singleton.1 h
      exact hnil _ t
    · cases h
  | boundary isWord =>
    rw [ways] at h
    split_ifs at h
    · cases h
    · obtain rfl := List.mem_singleton.1 h
      exact hnil _ t
  | finish =>
    rw [ways] at h
    split_ifs at h
    · obtain rfl := List.mem_singleton.1 h
      exact hnil _ t
    · cases h
  | seq a b iha ihb =>
    obtain ⟨r, hr, h⟩ := List.mem_flatMap.1 h
    exact happend _ s r t (hmore (fun _ => List.mem_append_left _) (iha hr))
      (hmore (fun _ => List.mem_append_right _) (ihb h))
  | alt a b iha ihb =>
    rcases List.mem_append.1 h with h | h
    · exact hmore (fun _ => List.mem_append_left _) (iha h)
    · exact hmore (fun _ => List.mem_append_right _) (ihb h)
  | star a ih =>
    exact mem_repeated (hnil _) (fun r s t hs hrest => happend _ r s t (ih hs) hrest) h
  | lazyStar a ih =>
    exact mem_lazyRepeated (hnil _) (fun r s t hs hrest => happend _ r s t (ih hs) hrest) h
  | upTo n a ih =>
    exact mem_repeated (hnil _) (fun r s t hs hrest => happend _ r s t (ih hs) hrest) h
  | group name a ih =>
    obtain ⟨r, hr, rfl⟩ := List.mem_map.1 h
    obtain ⟨x, hx, hxn⟩ := ih hr
    refine ⟨_ :: x, by rw [hx]; rfl, List.forall_mem_cons.2 ⟨List.mem_cons_self, fun g hg => ?_⟩⟩
    exact List.mem_cons_of_mem name (hxn g hg)

/-- A pattern without groups captures nothing. -/
theorem groups_of_names_eq_nil (ha : a.names = []) (h : t ∈ a.ways s) : t.groups = s.groups := by
  obtain ⟨captured, hcaptured, hnames⟩ := ways_names h
  cases captured with
  | nil => exact hcaptured
  | cons g captured =>
    have hg := hnames g List.mem_cons_self
    rw [ha] at hg
    cases hg

/-- A text that does not begin with one of the first classes has no ways. -/
theorem ways_eq_nil_of_heads {ps : List (Char → Bool)} (ha : a.heads = some ps)
    (hs : ∀ c rest, s.rest = c :: rest → ∀ p ∈ ps, p c = false) : a.ways s = [] := by
  refine List.eq_nil_iff_forall_not_mem.2 fun t ht => ?_
  obtain ⟨c, word, ⟨p, hp, hc⟩, hword⟩ := ways_heads ha ht
  rw [hs c _ hword.rest p hp] at hc
  cases hc

/-! ### A character a pattern does not take -/

/-- None of the classes of a pattern has the character. -/
def Avoids (c : Char) (a : Pattern) : Prop := ∀ p ∈ a.classes, p c = false

variable {c : Char}

theorem avoids_one {p : Char → Bool} : (one p).Avoids c ↔ p c = false := List.forall_mem_singleton

theorem avoids_seq : (seq a b).Avoids c ↔ a.Avoids c ∧ b.Avoids c := List.forall_mem_append

theorem avoids_alt : (alt a b).Avoids c ↔ a.Avoids c ∧ b.Avoids c := List.forall_mem_append

theorem avoids_all {as : List Pattern} : (all as).Avoids c ↔ ∀ a ∈ as, a.Avoids c := by
  induction as with
  | nil => exact iff_of_true nofun nofun
  | cons a as ih =>
    cases as with
    | nil => exact List.forall_mem_singleton.symm
    | cons b as => exact avoids_seq.trans ((and_congr_right' ih).trans List.forall_mem_cons.symm)

theorem avoids_any {as : List Pattern} : (any as).Avoids c ↔ ∀ a ∈ as, a.Avoids c := by
  induction as with
  | nil => exact iff_of_true (avoids_one.2 rfl) nofun
  | cons a as ih =>
    cases as with
    | nil => exact List.forall_mem_singleton.symm
    | cons b as => exact avoids_alt.trans ((and_congr_right' ih).trans List.forall_mem_cons.symm)

theorem avoids_word {same : Char → Char → Bool} {text : String} :
    (word same text).Avoids c ↔ ∀ a ∈ text.toList, same a c = false := by
  rw [word, avoids_all, List.forall_mem_map]
  simp only [avoids_one]

/-- **A way takes none of the characters** that the pattern avoids. -/
theorem Avoids.ways (ha : a.Avoids c) (h : t ∈ a.ways s) :
    ∃ word, Consumes word s t ∧ c ∉ word := by
  have hclasses : ∀ p ∈ a.classes, ∀ d, p d = true → d ≠ c := by
    rintro p hp d hd rfl
    rw [ha p hp] at hd
    cases hd
  obtain ⟨word, hword, hne⟩ := ways_over hclasses h
  exact ⟨word, hword, fun hc => hne c hc rfl⟩

/-! ### Places further on -/

end Pattern

/-- The place with more before it and more captured. -/
def Place.shift (before : List Char) (groups : List (String × List Char)) (s : Place) : Place :=
  ⟨s.before ++ before, s.rest, s.groups ++ groups⟩

section Shift

variable (before : List Char) (groups : List (String × List Char))

theorem repeated_shift {step : Place → List Place} {P : Place → Prop}
    (hstep : ∀ s, P s → step (s.shift before groups) = (step s).map (Place.shift before groups))
    (hkeep : ∀ s, P s → ∀ t ∈ step s, P t) (n : ℕ) {s : Place} (hs : P s) :
    repeated step n (s.shift before groups) =
      (repeated step n s).map (Place.shift before groups) := by
  induction n generalizing s with
  | zero => rfl
  | succ n ih =>
    rw [repeated, repeated, hstep s hs, List.filter_map, List.flatMap_map, List.map_append,
      List.map_flatMap]
    exact congrArg (· ++ _) (List.flatMap_congr fun t ht =>
      ih (hkeep s hs t (List.mem_of_mem_filter ht)))

theorem lazyRepeated_shift {step : Place → List Place} {P : Place → Prop}
    (hstep : ∀ s, P s → step (s.shift before groups) = (step s).map (Place.shift before groups))
    (hkeep : ∀ s, P s → ∀ t ∈ step s, P t) (n : ℕ) {s : Place} (hs : P s) :
    lazyRepeated step n (s.shift before groups) =
      (lazyRepeated step n s).map (Place.shift before groups) := by
  induction n generalizing s with
  | zero => rfl
  | succ n ih =>
    rw [lazyRepeated, lazyRepeated, hstep s hs, List.filter_map, List.flatMap_map, List.map_cons,
      List.map_flatMap]
    exact congrArg (_ :: ·) (List.flatMap_congr fun t ht =>
      ih (hkeep s hs t (List.mem_of_mem_filter ht)))

/-- What a pattern looks back at is there: it does not look back, or something stands before. -/
def Pattern.SeesBack (a : Pattern) (s : Place) : Prop := a.forward = true ∨ s.before ≠ []

theorem Pattern.SeesBack.of_mem_ways {a b : Pattern} {s t : Place} (h : b.SeesBack s)
    (ht : t ∈ a.ways s) : b.SeesBack t := by
  obtain ⟨word, hword⟩ := ways_consumes ht
  refine h.imp_right fun hs ht => hs ?_
  rw [hword.before] at ht
  exact (List.append_eq_nil_iff.1 ht).2

/-- **The ways of a pattern** are the same further on in a text. -/
theorem Pattern.ways_shift {a : Pattern} {s : Place} (ha : a.SeesBack s) :
    a.ways (s.shift before groups) = (a.ways s).map (Place.shift before groups) := by
  induction a generalizing s with
  | empty => rfl
  | one p =>
    obtain ⟨b, rest, g⟩ := s
    cases rest with
    | nil => rfl
    | cons c rest =>
      simp only [ways, Place.shift]
      split_ifs <;> rfl
  | behind p =>
    obtain ⟨c, back, hback⟩ := List.exists_cons_of_ne_nil (ha.resolve_left nofun)
    simp only [ways, Place.shift, hback, List.cons_append, List.head?_cons]
    split_ifs <;> simp [Place.shift, hback]
  | boundary isWord =>
    obtain ⟨c, back, hback⟩ := List.exists_cons_of_ne_nil (ha.resolve_left nofun)
    simp only [ways, Place.shift, hback, List.cons_append, List.head?_cons]
    split_ifs <;> simp [Place.shift, hback]
  | finish =>
    by_cases hs : s.rest = [] ∨ s.rest = ['\n']
    · have hshift : (s.shift before groups).rest = [] ∨ (s.shift before groups).rest = ['\n'] := hs
      rw [ways, ways, if_pos hs, if_pos hshift]
      rfl
    · have hshift : ¬((s.shift before groups).rest = [] ∨ (s.shift before groups).rest = ['\n']) :=
        hs
      rw [ways, ways, if_neg hs, if_neg hshift]
      rfl
  | seq a b iha ihb =>
    have hfirst : a.SeesBack s := ha.imp_left fun h => (Bool.and_eq_true_iff.1 h).1
    have hsecond : b.SeesBack s := ha.imp_left fun h => (Bool.and_eq_true_iff.1 h).2
    rw [ways, ways, iha hfirst, List.flatMap_map, List.map_flatMap]
    exact List.flatMap_congr fun t ht => ihb (hsecond.of_mem_ways ht)
  | alt a b iha ihb =>
    rw [ways, ways, iha (ha.imp_left fun h => (Bool.and_eq_true_iff.1 h).1),
      ihb (ha.imp_left fun h => (Bool.and_eq_true_iff.1 h).2), List.map_append]
  | star a ih =>
    exact repeated_shift before groups (P := a.SeesBack) (fun s hs => ih hs)
      (fun s hs t ht => hs.of_mem_ways ht) _ ha
  | lazyStar a ih =>
    exact lazyRepeated_shift before groups (P := a.SeesBack) (fun s hs => ih hs)
      (fun s hs t ht => hs.of_mem_ways ht) _ ha
  | upTo n a ih =>
    exact repeated_shift before groups (P := a.SeesBack) (fun s hs => ih hs)
      (fun s hs t ht => hs.of_mem_ways ht) n ha
  | group name a ih =>
    rw [ways, ways, ih ha, List.map_map, List.map_map]
    refine List.map_congr_left fun t ht => ?_
    obtain ⟨word, hword⟩ := ways_consumes ht
    have hshift : Consumes word (s.shift before groups) (t.shift before groups) := by
      obtain ⟨captured, hcaptured⟩ := hword.groups
      refine ⟨hword.rest, ?_, captured, ?_⟩
      · simp only [Place.shift, hword.before, List.append_assoc]
      · simp only [Place.shift, hcaptured, List.append_assoc]
    simp only [Function.comp_apply, Place.shift, List.cons_append]
    rw [hword.between]
    exact congrArg
      (fun w => (⟨t.before ++ before, t.rest, (name, w) :: (t.groups ++ groups)⟩ : Place))
      hshift.between

/-- The match of a pattern, further on. -/
theorem Pattern.matchAt_shift {a : Pattern} {s : Place} (ha : a.SeesBack s) :
    a.matchAt (s.shift before groups) = (a.matchAt s).map (Place.shift before groups) := by
  rw [matchAt, ways_shift before groups ha, List.head?_map, matchAt]

end Shift

/-! ### First ways -/

namespace Pattern

variable {a b : Pattern} {p : Char → Bool} {r s t : Place}

theorem mem_ways_of_matchAt (h : a.matchAt s = some t) : t ∈ a.ways s := List.mem_of_head? h

/-- A sequence, whose second part goes on from the first way of its first. -/
theorem matchAt_seq (ha : a.matchAt s = some t) (hb : b.matchAt t = some r) :
    (seq a b).matchAt s = some r := by
  obtain ⟨ts, hts⟩ := List.head?_eq_some_iff.1 ha
  rw [matchAt, ways, hts, List.flatMap_cons, List.head?_append, ← matchAt, hb, Option.some_or]

/-- **The match of a sequence** goes on from a way of its first part. -/
theorem matchAt_seq_inv (h : (seq a b).matchAt s = some r) :
    ∃ t ∈ a.ways s, b.matchAt t = some r := by
  rw [matchAt, ways] at h
  generalize a.ways s = ts at h
  induction ts with
  | nil => cases h
  | cons t ts ih =>
    rw [List.flatMap_cons, List.head?_append, ← matchAt, Option.or_eq_some_iff] at h
    rcases h with h | ⟨-, h⟩
    · exact ⟨t, List.mem_cons_self, h⟩
    · obtain ⟨u, hu, h⟩ := ih h
      exact ⟨u, List.mem_cons_of_mem t hu, h⟩

theorem matchAt_alt_left (h : a.matchAt s = some r) : (alt a b).matchAt s = some r := by
  rw [matchAt, ways, List.head?_append, ← matchAt, h, Option.some_or]

theorem matchAt_one {c : Char} (hc : p c = true) (before rest : List Char)
    (groups : List (String × List Char)) :
    (one p).matchAt ⟨before, c :: rest, groups⟩ = some ⟨c :: before, rest, groups⟩ := by
  rw [matchAt, ways]
  simp only [hc, if_true, List.head?_cons]

/-- A word is read where it stands. -/
theorem matchAt_word (same : Char → Char → Bool) (hsame : ∀ c, same c c = true) (text : String)
    (before rest : List Char) (groups : List (String × List Char)) :
    (word same text).matchAt ⟨before, text.toList ++ rest, groups⟩ =
      some ⟨text.toList.reverse ++ before, rest, groups⟩ := by
  rw [word]
  generalize text.toList = letters
  induction letters generalizing before with
  | nil => rfl
  | cons c letters ih =>
    have hone := matchAt_one (hsame c) before (letters ++ rest) groups
    cases letters with
    | nil => exact hone
    | cons d letters =>
      refine matchAt_seq hone ?_
      rw [List.reverse_cons, List.append_assoc]
      exact ih (c :: before)

/-- What a group captures. -/
theorem matchAt_group {word : List Char} (name : String) (h : a.matchAt s = some t)
    (hword : Consumes word s t) :
    (group name a).matchAt s = some { t with groups := (name, word) :: t.groups } := by
  rw [matchAt, ways, List.head?_map, ← matchAt, h, Option.map_some, hword.between]

/-- An option that cannot be taken. -/
theorem matchAt_opt_none (ha : a.ways s = []) : (opt a).matchAt s = some s := by
  rw [matchAt, opt, ways, repeated, ha]
  rfl

/-- An option is a match in any case. -/
theorem isSome_matchAt_opt (a : Pattern) (s : Place) : ((opt a).matchAt s).isSome := by
  rw [matchAt, opt, ways, repeated, List.isSome_head?]
  exact List.append_ne_nil_of_right_ne_nil _ (List.cons_ne_nil _ _)

theorem isSome_matchAt_seq (ha : (a.matchAt s).isSome) (hb : ∀ t, (b.matchAt t).isSome) :
    ((seq a b).matchAt s).isSome := by
  obtain ⟨t, ht⟩ := Option.isSome_iff_exists.1 ha
  obtain ⟨r, hr⟩ := Option.isSome_iff_exists.1 (hb t)
  exact Option.isSome_iff_exists.2 ⟨r, matchAt_seq ht hr⟩

/-- More repetitions than the text allows change nothing. -/
theorem repeated_eq {step : Place → List Place} {n : ℕ} (h : s.rest.length ≤ n) :
    repeated step n s = repeated step s.rest.length s := by
  induction hlen : s.rest.length using Nat.strongRecOn generalizing n s with
  | _ len ih =>
    subst hlen
    have hstep (m : ℕ) (hm : s.rest.length ≤ m + 1) :
        ((step s).filter fun t => decide (t.rest.length < s.rest.length)).flatMap
            (repeated step m) =
          ((step s).filter fun t => decide (t.rest.length < s.rest.length)).flatMap
            fun t => repeated step t.rest.length t := by
      refine List.flatMap_congr fun t ht => ?_
      have hlt : t.rest.length < s.rest.length := of_decide_eq_true (List.mem_filter.1 ht).2
      exact ih _ hlt (by omega) rfl
    cases n with
    | zero => rw [Nat.le_zero.1 h]
    | succ n =>
      cases hrest : s.rest.length with
      | zero =>
        have hnone : ((step s).filter fun t => decide (t.rest.length < s.rest.length)) = [] := by
          refine List.filter_eq_nil_iff.2 fun t _ => ?_
          rw [hrest]
          simp
        rw [repeated, repeated, hnone]
        rfl
      | succ k =>
        rw [repeated, repeated, hstep n h, hstep k (Nat.le_of_eq hrest)]

/-- A repetition that goes on. -/
theorem matchAt_star_step (ha : a.matchAt s = some t) (hlt : t.rest.length < s.rest.length)
    (hr : (star a).matchAt t = some r) : (star a).matchAt s = some r := by
  obtain ⟨ts, hts⟩ := List.head?_eq_some_iff.1 ha
  obtain ⟨n, hn⟩ := Nat.exists_eq_add_one_of_ne_zero (Nat.ne_zero_of_lt hlt)
  have hfirst : (repeated a.ways n t).head? = some r := by
    rw [repeated_eq (by omega)]
    exact hr
  rw [matchAt, ways, hn, repeated, hts, List.filter_cons, if_pos (decide_eq_true hlt),
    List.flatMap_cons, List.append_assoc, List.head?_append, hfirst, Option.some_or]

/-- A repetition that cannot go on. -/
theorem matchAt_star_stop (ha : a.ways s = []) : (star a).matchAt s = some s := by
  rw [matchAt, ways]
  cases s.rest.length with
  | zero => rfl
  | succ n =>
    rw [repeated, ha]
    rfl

theorem ways_one_eq_nil (h : ∀ c rest, s.rest = c :: rest → p c = false) : (one p).ways s = [] := by
  refine ways_eq_nil_of_heads rfl fun c rest hs q hq => ?_
  obtain rfl := List.mem_singleton.1 hq
  exact h c rest hs

/-- **A class is repeated as long as the text has it.** -/
theorem matchAt_star_one {word rest : List Char} (hword : ∀ c ∈ word, p c = true)
    (hrest : ∀ c more, rest = c :: more → p c = false) (before : List Char)
    (groups : List (String × List Char)) :
    (star (one p)).matchAt ⟨before, word ++ rest, groups⟩ =
      some ⟨word.reverse ++ before, rest, groups⟩ := by
  induction word generalizing before with
  | nil => exact matchAt_star_stop (ways_one_eq_nil hrest)
  | cons c word ih =>
    obtain ⟨hc, hword⟩ := List.forall_mem_cons.1 hword
    refine matchAt_star_step (matchAt_one hc before (word ++ rest) groups)
      (Nat.lt_succ_self _) ?_
    rw [ih hword, List.reverse_cons, List.append_assoc]
    rfl

/-- **A run of a class is taken whole.** -/
theorem matchAt_run {word rest : List Char} (hne : word ≠ []) (hword : ∀ c ∈ word, p c = true)
    (hrest : ∀ c more, rest = c :: more → p c = false) (before : List Char)
    (groups : List (String × List Char)) :
    (plus (one p)).matchAt ⟨before, word ++ rest, groups⟩ =
      some ⟨word.reverse ++ before, rest, groups⟩ := by
  cases word with
  | nil => exact absurd rfl hne
  | cons c word =>
    obtain ⟨hc, hword⟩ := List.forall_mem_cons.1 hword
    refine matchAt_seq (matchAt_one hc before (word ++ rest) groups) ?_
    rw [matchAt_star_one hword hrest, List.reverse_cons, List.append_assoc]
    rfl

/-! ### Searches -/

/-- A match at the first place is what the search finds. -/
theorem searchFrom_of_matchAt {before text : List Char}
    (h : a.matchAt ⟨before, text, []⟩ = some r) :
    a.searchFrom before text = some (⟨before, text, []⟩, r) := by
  cases text with
  | nil => rw [searchFrom, h, Option.map_some]
  | cons c rest =>
    rw [searchFrom]
    simp only [h]

/-- A match at the start is found. -/
theorem search_of_matchAt_start {text : List Char} (h : a.matchAt (.start text) = some r) :
    a.search text = some r := by
  rw [search, searchFrom_of_matchAt h, Option.map_some]

theorem searchFrom_inv {before text : List Char} {i j : Place}
    (h : a.searchFrom before text = some (i, j)) :
    ∃ skipped rest, text = skipped ++ rest ∧ i = ⟨skipped.reverse ++ before, rest, []⟩ ∧
      a.matchAt i = some j := by
  induction text generalizing before with
  | nil =>
    rw [searchFrom, Option.map_eq_some_iff] at h
    obtain ⟨t, ht, heq⟩ := h
    obtain ⟨rfl, rfl⟩ := Prod.mk.inj heq
    exact ⟨[], [], rfl, rfl, ht⟩
  | cons c rest ih =>
    rw [searchFrom] at h
    split at h
    · rename_i t ht
      obtain ⟨rfl, rfl⟩ := Prod.mk.inj (Option.some.inj h)
      exact ⟨[], c :: rest, rfl, rfl, ht⟩
    · obtain ⟨skipped, rest', rfl, hi, hmatch⟩ := ih h
      refine ⟨c :: skipped, rest', rfl, ?_, hmatch⟩
      rw [hi, List.reverse_cons, List.append_assoc]
      rfl

/-- **What a search finds** is a match at some place of the text. -/
theorem search_inv {text : List Char} (h : a.search text = some r) :
    ∃ skipped rest, text = skipped ++ rest ∧
      a.matchAt ⟨skipped.reverse, rest, []⟩ = some r := by
  rw [search, Option.map_eq_some_iff] at h
  obtain ⟨⟨i, j⟩, h, rfl⟩ := h
  obtain ⟨skipped, rest, htext, hi, hmatch⟩ := searchFrom_inv h
  rw [List.append_nil] at hi
  exact ⟨skipped, rest, htext, hi ▸ hmatch⟩

theorem searchFrom_eq_none_iff {before text : List Char} :
    a.searchFrom before text = none ↔ ∀ skipped rest, text = skipped ++ rest →
      a.ways ⟨skipped.reverse ++ before, rest, []⟩ = [] := by
  induction text generalizing before with
  | nil =>
    rw [searchFrom, Option.map_eq_none_iff, matchAt, List.head?_eq_none_iff]
    constructor
    · intro h skipped rest htext
      obtain ⟨rfl, rfl⟩ := List.append_eq_nil_iff.1 htext.symm
      exact h
    · exact fun h => h [] [] rfl
  | cons c text ih =>
    rw [searchFrom]
    constructor
    · intro h skipped rest htext
      split at h
      · cases h
      · rename_i hnone
        cases skipped with
        | nil =>
          obtain rfl : c :: text = rest := htext
          exact List.head?_eq_none_iff.1 hnone
        | cons d skipped =>
          obtain ⟨rfl, hrest⟩ := List.cons.inj htext
          rw [List.reverse_cons, List.append_assoc]
          exact ih.1 h skipped rest hrest
    · intro h
      have hnone : a.matchAt ⟨before, c :: text, []⟩ = none :=
        List.head?_eq_none_iff.2 (h [] (c :: text) rfl)
      rw [hnone]
      refine ih.2 fun skipped rest htext => ?_
      have hways := h (c :: skipped) rest (by rw [htext]; rfl)
      rwa [List.reverse_cons, List.append_assoc] at hways

theorem search_eq_none_iff {text : List Char} :
    a.search text = none ↔ ∀ skipped rest, text = skipped ++ rest →
      a.ways ⟨skipped.reverse, rest, []⟩ = [] := by
  rw [search, Option.map_eq_none_iff, searchFrom_eq_none_iff]
  simp only [List.append_nil]

/-- **A pattern that is not in a text** is not in the text behind characters it does not begin
with either. -/
theorem search_append_eq_none {head text : List Char} {ps : List (Char → Bool)}
    (ha : a.heads = some ps) (hforward : a.forward = true)
    (hhead : ∀ c ∈ head, ∀ p ∈ ps, p c = false) (htext : a.search text = none) :
    a.search (head ++ text) = none := by
  refine search_eq_none_iff.2 fun skipped rest hsplit => ?_
  rcases List.append_eq_append_iff.1 hsplit.symm with ⟨part, hpart, hrest⟩ | ⟨part, hpart, hrest⟩
  · cases part with
    | nil =>
      have hways := search_eq_none_iff.1 htext [] text rfl
      have hshift := ways_shift skipped.reverse [] (s := ⟨[], text, []⟩) (.inl hforward)
      rw [hrest]
      exact hshift.trans (by rw [show a.ways ⟨[], text, []⟩ = [] from hways]; rfl)
    | cons c part =>
      refine ways_eq_nil_of_heads ha fun d more hd => ?_
      rw [hrest] at hd
      obtain ⟨rfl, -⟩ := List.cons.inj hd
      exact hhead c (hpart ▸ List.mem_append_right _ List.mem_cons_self)
  · have hways := search_eq_none_iff.1 htext part rest hrest
    have hshift := ways_shift head.reverse [] (s := ⟨part.reverse, rest, []⟩) (.inl hforward)
    rw [hpart, List.reverse_append]
    exact hshift.trans (by rw [hways]; rfl)

end Pattern

end Backtrack
