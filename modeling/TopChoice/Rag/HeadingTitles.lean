/-
# Titles of headings

A line that `HEADING_RE` matches has a title: behind the hashes the white space is taken whole, so
the title begins with a letter (`title_ne_empty`).  A heading made of titles therefore begins with
a letter too, and is taken off the text that it was put before (`words_removeprefix_heading`).
-/

import TopChoice.Lib.FirstWay
import TopChoice.Rag.ChunkWindows

namespace TopChoice
namespace Rag

open Backtrack (Consumes Pattern Place)

/-! ### Lines -/

/-- A line has no line feed. -/
theorem not_mem_newline_of_mem_splitlines {s line : String} (h : line ∈ splitlines s) :
    '\n' ∉ line.toList := by
  have hlines (word cs : List Char) (hword : '\n' ∉ word) :
      ∀ line ∈ linesFrom word cs, '\n' ∉ line.toList := by
    fun_induction linesFrom word cs with
    | case1 word hempty => exact nofun
    | case2 word hempty => simpa using hword
    | case3 word rest ih =>
      exact List.forall_mem_cons.2 ⟨by simpa using hword, ih List.not_mem_nil⟩
    | case4 word c rest hcrlf hbreak ih =>
      exact List.forall_mem_cons.2 ⟨by simpa using hword, ih List.not_mem_nil⟩
    | case5 word c rest hcrlf hletter ih =>
      refine ih fun hmem => ?_
      rcases List.mem_cons.1 hmem with rfl | hmem
      · exact hletter (by decide)
      · exact hword hmem
  exact hlines [] s.toList List.not_mem_nil line h

/-- The last character of a stripped text is a letter. -/
theorem isSpace_of_strip_concat {s : String} {init : List Char} {c : Char}
    (h : (strip s).toList = init ++ [c]) : isSpace c = false := by
  rw [strip, String.toList_ofList] at h
  have hne : (s.toList.dropWhile isSpace).rdropWhile isSpace ≠ [] := by
    rw [h]
    exact List.append_ne_nil_of_right_ne_nil _ (List.cons_ne_nil c [])
  have hlast := List.rdropWhile_last_not isSpace _ hne
  simp only [h, List.getLast_concat] at hlast
  exact Bool.eq_false_iff.2 hlast

theorem mem_of_mem_strip {s : String} {c : Char} (h : c ∈ (strip s).toList) : c ∈ s.toList := by
  rw [strip, String.toList_ofList] at h
  exact (List.dropWhile_sublist isSpace).mem ((List.rdropWhile_prefix isSpace _).mem h)

/-- A text that begins with a letter is not blank. -/
theorem strip_ne_empty {c : Char} {rest : List Char} (hc : isSpace c = false) :
    strip (String.ofList (c :: rest)) ≠ "" := by
  intro h
  have hletters := letters_eq (String.ofList (c :: rest))
  have hnone : words "" = [] := rfl
  rw [← words_strip, h, hnone, letters, String.toList_ofList,
    List.filter_cons_of_pos (by simp [hc])] at hletters
  cases hletters

/-! ### Headings -/

/-- What a heading has behind its white space. -/
def titleRe : Pattern :=
  .seq (.group "2" (.lazyPlus (.one (· ≠ '\n'))))
    (.seq (.star (.one isSpace)) (.seq (.star (.one (· = '#'))) .finish))

/-- The rest of a line is a title. -/
theorem ways_titleRe_ne_nil {before rest : List Char} {groups : List (String × List Char)}
    (hne : rest ≠ []) (hrest : '\n' ∉ rest) : titleRe.ways ⟨before, rest, groups⟩ ≠ [] := by
  have hall (word : List Char) (hword : '\n' ∉ word) (before : List Char) (n : ℕ)
      (hn : word.length ≤ n) : (⟨word.reverse ++ before, [], groups⟩ : Place) ∈
        Backtrack.lazyRepeated (Pattern.one (· ≠ '\n')).ways n ⟨before, word, groups⟩ := by
    induction word generalizing before n with
    | nil => cases n <;> exact List.mem_cons_self
    | cons c word ih =>
      have hpos : n ≠ 0 := Nat.ne_of_gt (Nat.lt_of_lt_of_le (Nat.succ_pos _) hn)
      obtain ⟨m, rfl⟩ := Nat.exists_eq_succ_of_ne_zero hpos
      obtain ⟨hc, hword⟩ := not_or.1 (List.mem_cons.not.1 hword)
      have hstep : (⟨c :: before, word, groups⟩ : Place) ∈
          (Pattern.one (· ≠ '\n')).ways ⟨before, c :: word, groups⟩ := by
        simp [Pattern.ways, Ne.symm hc]
      have hnext := ih hword (c :: before) m (Nat.le_of_succ_le_succ hn)
      rw [Backtrack.lazyRepeated]
      refine List.mem_cons_of_mem _ (List.mem_flatMap.2
        ⟨_, List.mem_filter.2 ⟨hstep, decide_eq_true (Nat.lt_succ_self _)⟩, ?_⟩)
      rw [List.reverse_cons, List.append_assoc]
      exact hnext
  obtain ⟨c, word, rfl⟩ := List.exists_cons_of_ne_nil hne
  obtain ⟨hc, hword⟩ := not_or.1 (List.mem_cons.not.1 hrest)
  -- The title takes all the characters, and nothing is left for the rest.
  have hfirst : (⟨c :: before, word, groups⟩ : Place) ∈
      (Pattern.one (· ≠ '\n')).ways ⟨before, c :: word, groups⟩ := by
    simp [Pattern.ways, Ne.symm hc]
  have htitle : ∃ t ∈ (Pattern.group "2" (.lazyPlus (.one (· ≠ '\n')))).ways
      ⟨before, c :: word, groups⟩, t.rest = [] :=
    ⟨_, List.mem_map.2 ⟨_, List.mem_flatMap.2
      ⟨_, hfirst, hall word hword (c :: before) word.length le_rfl⟩, rfl⟩, rfl⟩
  obtain ⟨t, ht, hempty⟩ := htitle
  have hend (t : Place) (ht : t.rest = []) :
      t ∈ (Pattern.seq (.star (.one isSpace)) (.seq (.star (.one (· = '#'))) .finish)).ways t := by
    simp [Pattern.ways, ht, Backtrack.repeated]
  exact List.ne_nil_of_mem (List.mem_flatMap.2 ⟨t, ht, hend t hempty⟩)

/-- **A heading has a title.** -/
theorem title_ne_empty {line : String} (hline : '\n' ∉ line.toList) {place : Place}
    (h : headingRe.matchAt (.start (strip line).toList) = some place) :
    strip (String.ofList ((place.group "2").getD [])) ≠ "" := by
  obtain ⟨t, ht, h⟩ := Pattern.matchAt_seq_inv h
  obtain ⟨hashes, hhashes⟩ := Pattern.ways_consumes ht
  have hline' : (strip line).toList = hashes ++ t.rest := by
    have hwhole := hhashes.rest
    rwa [Place.start] at hwhole
  set blanks := t.rest.takeWhile isSpace with hblanks
  set title := t.rest.dropWhile isSpace with htitle
  have hsplit : t.rest = blanks ++ title := (List.takeWhile_append_dropWhile).symm
  have hblank : ∀ c ∈ blanks, isSpace c = true := fun c hc => List.mem_takeWhile_imp hc
  -- There is white space behind the hashes, and more than that.
  have hne : blanks ≠ [] := by
    obtain ⟨t', ht', -⟩ := Pattern.matchAt_seq_inv h
    have hheads : (Pattern.plus (.one isSpace)).heads = some [isSpace] := rfl
    obtain ⟨c, word, ⟨p, hp, hc⟩, hword⟩ := Pattern.ways_heads hheads ht'
    obtain rfl := List.mem_singleton.1 hp
    rw [hblanks, hword.rest, List.cons_append, List.takeWhile_cons_of_pos hc]
    exact List.cons_ne_nil _ _
  have htitleNe : title ≠ [] := by
    intro hnil
    have hlast := List.dropLast_append_getLast hne
    rw [hsplit, hnil, List.append_nil, ← hlast, ← List.append_assoc] at hline'
    have hletter := isSpace_of_strip_concat hline'
    rw [hblank _ (List.getLast_mem hne)] at hletter
    cases hletter
  obtain ⟨c, more, hcons⟩ := List.exists_cons_of_ne_nil htitleNe
  have hc : isSpace c = false := by
    have hhead := List.head?_dropWhile_not isSpace t.rest
    rw [← htitle, hcons] at hhead
    simpa using hhead
  have hnewline : '\n' ∉ title := by
    intro hmem
    refine hline (mem_of_mem_strip ?_)
    rw [hline', hsplit]
    exact List.mem_append_right _ (List.mem_append_right _ hmem)
  -- The white space is taken whole, since a title is read behind it.
  have hbegins : ∀ d rest, title = d :: rest → isSpace d = false := by
    intro d rest hd
    rw [hcons] at hd
    obtain ⟨rfl, -⟩ := List.cons.inj hd
    exact hc
  have hrun := Pattern.matchAt_run hne hblank hbegins t.before t.groups
  rw [← hsplit] at hrun
  obtain ⟨r, hr⟩ : ∃ r, titleRe.matchAt ⟨blanks.reverse ++ t.before, title, t.groups⟩ = some r :=
    Option.isSome_iff_exists.1 (List.isSome_head?.2 (ways_titleRe_ne_nil htitleNe hnewline))
  obtain rfl := Option.some.inj (h.symm.trans (Pattern.matchAt_seq hrun hr))
  obtain ⟨t₃, h₃, hrest⟩ := Pattern.matchAt_seq_inv hr
  obtain ⟨t₄, h₄, rfl⟩ := List.mem_map.1 h₃
  have hheads : (Pattern.lazyPlus (.one (· ≠ '\n'))).heads =
      some [fun c => decide (c ≠ '\n')] := rfl
  obtain ⟨d, word, -, hword⟩ := Pattern.ways_heads hheads h₄
  have hfirst := hword.rest
  rw [hcons] at hfirst
  obtain ⟨rfl, -⟩ := List.cons.inj hfirst
  have hgroups := Pattern.groups_of_names_eq_nil rfl (Pattern.mem_ways_of_matchAt hrest)
  rw [Place.group, hgroups, hword.between]
  exact strip_ne_empty hc

/-! ### Sections -/

/-- A text that begins with a letter. -/
def BeginsWithLetter (s : String) : Prop := ∃ c rest, s.toList = c :: rest ∧ isSpace c = false

theorem BeginsWithLetter.of_strip {s : String} (h : strip s ≠ "") : BeginsWithLetter (strip s) := by
  have hne : (strip s).toList ≠ [] := fun hnil => h (String.toList_eq_nil_iff.1 hnil)
  obtain ⟨c, rest, hcons⟩ := List.exists_cons_of_ne_nil hne
  exact ⟨c, rest, hcons, isSpace_of_strip_cons hcons⟩

theorem BeginsWithLetter.words_ne_nil {s : String} (h : BeginsWithLetter s) : words s ≠ [] := by
  obtain ⟨c, rest, hcons, hc⟩ := h
  intro hnone
  have hletters := letters_eq s
  rw [hnone, letters, hcons, List.filter_cons_of_pos (by simp [hc])] at hletters
  cases hletters

theorem BeginsWithLetter.append {s : String} (h : BeginsWithLetter s) (t : String) :
    BeginsWithLetter (s ++ t) := by
  obtain ⟨c, rest, hcons, hc⟩ := h
  exact ⟨c, rest ++ t.toList, by rw [String.toList_append, hcons]; rfl, hc⟩

/-- A text that is not blank has words. -/
theorem words_ne_nil_of_isBlank {s : String} (h : isBlank s = false) : words s ≠ [] := by
  intro hnone
  have hletters := letters_eq s
  rw [hnone, letters] at hletters
  have hblank : isBlank s = true := by
    refine List.all_eq_true.2 fun c hc => ?_
    have hspace := List.filter_eq_nil_iff.1 hletters c hc
    simpa using hspace
  rw [hblank] at h
  cases h

theorem beginsWithLetter_of_mem_splitSentences {line unit : String}
    (h : unit ∈ splitSentences line) : BeginsWithLetter unit := by
  rw [splitSentences] at h
  split_ifs at h
  · cases h
  · obtain ⟨hmem, hne⟩ := List.mem_filter.1 h
    obtain ⟨part, -, rfl⟩ := List.mem_map.1 hmem
    exact .of_strip (by simpa using hne)

/-- Titles and sentences begin with letters, and there are sentences. -/
structure WellRead (part : Section) : Prop where
  titles : ∀ title ∈ part.path, BeginsWithLetter title
  sentences : ∀ unit ∈ part.units, BeginsWithLetter unit
  units_ne : part.units ≠ []

/-- **Every section** is well read. -/
theorem wellRead_of_mem_iterSections {text : String} {part : Section}
    (h : part ∈ iterSections text) : WellRead part := by
  have hsections (lines : List String) (hlines : ∀ line ∈ lines, '\n' ∉ line.toList)
      (headingStack units : List String) (hstack : ∀ title ∈ headingStack, BeginsWithLetter title)
      (hunits : ∀ unit ∈ units, BeginsWithLetter unit) :
      ∀ part ∈ sectionsFrom headingStack units lines, WellRead part := by
    have hread (headingStack units : List String)
        (hstack : ∀ title ∈ headingStack, BeginsWithLetter title)
        (hunits : ∀ unit ∈ units, BeginsWithLetter unit) (hne : ¬units.isEmpty = true) :
        WellRead ⟨headingStack, units⟩ := ⟨hstack, hunits, by simpa using hne⟩
    induction lines generalizing headingStack units with
    | nil =>
      rw [sectionsFrom]
      split_ifs with hempty
      · exact nofun
      · exact List.forall_mem_singleton.2 (hread _ _ hstack hunits hempty)
    | cons line lines ih =>
      obtain ⟨hline, hlines⟩ := List.forall_mem_cons.1 hlines
      rw [sectionsFrom]
      split
      · rename_i place hplace
        have hrest := ih hlines
          (headingStack.take (((place.group "1").getD []).length - 1) ++
            [strip (String.ofList ((place.group "2").getD []))]) []
          (List.forall_mem_append.2 ⟨fun title ht => hstack title (List.mem_of_mem_take ht),
            List.forall_mem_singleton.2 (.of_strip (title_ne_empty hline hplace))⟩) nofun
        dsimp only
        split_ifs with hempty
        · exact hrest
        · exact List.forall_mem_cons.2 ⟨hread _ _ hstack hunits hempty, hrest⟩
      · split_ifs
        · exact ih hlines _ _ hstack hunits
        · exact ih hlines _ _ hstack (List.forall_mem_append.2
            ⟨hunits, fun unit hunit => beginsWithLetter_of_mem_splitSentences hunit⟩)
  exact hsections _ (fun line hline => not_mem_newline_of_mem_splitlines hline) [] [] nofun nofun
    part h

/-! ### The heading of a chunk -/

/-- **A heading that begins with a letter is taken off** a text that has words. -/
theorem words_removeprefix_heading {heading body : String} (hheading : BeginsWithLetter heading)
    (hbody : words body ≠ []) :
    words ( removeprefix (strip (heading ++ "\n" ++ body)) heading) = words body := by
  refine words_removeprefix_of_begins ?_
  obtain ⟨c, chars, hcons, hc⟩ := hheading
  have htext : (heading ++ "\n" ++ body).toList = heading.toList ++ '\n' :: body.toList := by
    rw [String.toList_append, String.toList_append, List.append_assoc]
    rfl
  have hkept : (heading ++ "\n" ++ body).toList.dropWhile isSpace =
      (heading ++ "\n" ++ body).toList := by
    rw [htext, hcons, List.cons_append, List.dropWhile_cons_of_neg (by rw [hc]; decide)]
  have hsplit := List.rdropWhile_append_rtakeWhile (p := isSpace)
    (l := (heading ++ "\n" ++ body).toList)
  have hblank : ∀ d ∈ (heading ++ "\n" ++ body).toList.rtakeWhile isSpace, isSpace d = true :=
    fun d hd => List.mem_rtakeWhile_imp hd
  rw [strip, String.toList_ofList, hkept]
  rw [htext] at hsplit hblank ⊢
  -- The white space at the end does not reach the heading: there are words before it.
  rcases List.append_eq_append_iff.1 hsplit with ⟨part, hpart, htail⟩ | ⟨part, hpart, htail⟩
  · refine absurd ?_ hbody
    have hspaces : ∀ d ∈ body.toList, isSpace d = true := fun d hd => by
      refine hblank d ?_
      rw [htail]
      exact List.mem_append_right _ (List.mem_cons_of_mem _ hd)
    have hnone := wordsFrom_append_blank [] [] hspaces
    exact hnone
  · exact ⟨part, hpart.symm⟩

/-- The heading of a path of titles begins with a letter, or there is none. -/
theorem TokenAwareChunker.headingText_cases (chunker : TokenAwareChunker) {υ : Type}
    (metadata : Metadata υ) {path : List String} (hpath : ∀ title ∈ path, BeginsWithLetter title) :
    chunker.headingText metadata path = "" ∨
      BeginsWithLetter (chunker.headingText metadata path) := by
  cases path with
  | nil => exact .inl rfl
  | cons title path =>
    have htitle := hpath title List.mem_cons_self
    right
    cases path with
    | nil => exact htitle
    | cons next path =>
      have hheading : chunker.headingText metadata (title :: next :: path) =
          title ++ (" > " ++ " > ".intercalate (next :: path)) := by
        rw [← String.append_assoc, ← String.intercalate_cons_cons]
        rfl
      rw [hheading]
      exact htitle.append _

end Rag
end TopChoice
