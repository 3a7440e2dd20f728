/-
# Paths

`normalize`, `join`, `resolve` and `extname` of `node:path` on a POSIX system.  A path is
walked name by name: an empty name and `.` stay where they are, `..` goes up, and any other
name goes down (`enter`).  What is kept is the stack of the names gone down.

A path that is resolved names a location: the ordinary names on the way from the root
(`resolve_eq_location`), and two such locations with the same text are the same
(`location_injective`).  A text below another one, `root + '/'` in front of it, is a location
below another one (`location_below_iff`).  To join a path that is not absolute to a root and
resolve the result is to walk on from the root (`resolve_join_normalize`).
-/

import Mathlib.Data.List.Basic

namespace PosixPath

/-! ### Names -/

/-- `'.'`. -/
def dot : List Char := ['.']

/-- `'..'`. -/
def dotDot : List Char := ['.', '.']

/-- The names between the separators of a path. -/
def names (path : List Char) : List (List Char) := path.splitOn '/'

/-- The text of a list of names. -/
def text (ns : List (List Char)) : List Char := ['/'].intercalate ns

/-- A name that goes down one level. -/
def Ordinary (n : List Char) : Prop := n ≠ [] ∧ n ≠ dot ∧ n ≠ dotDot ∧ '/' ∉ n

instance (n : List Char) : Decidable (Ordinary n) := inferInstanceAs (Decidable (_ ∧ _))

theorem slash_not_mem_of_mem_names {path n : List Char} (h : n ∈ names path) : '/' ∉ n := by
  induction path generalizing n with
  | nil =>
    simp only [names, List.splitOn_nil, List.mem_singleton] at h
    simp [h]
  | cons c path ih =>
    rw [names, List.splitOn_cons_eq_if_modifyHead] at h
    split at h
    · rcases List.mem_cons.1 h with rfl | h
      · simp
      · exact ih h
    next hc =>
      cases hpath : path.splitOn '/' with
      | nil => exact absurd hpath (List.splitOn_ne_nil '/' path)
      | cons first rest =>
        rw [hpath, List.modifyHead_cons] at h
        rcases List.mem_cons.1 h with rfl | h
        · have hfirst : '/' ∉ first := ih (by simp [names, hpath])
          have hne : c ≠ '/' := by simpa using hc
          simp [hfirst, hne.symm]
        · exact ih (by simp [names, hpath, h])

theorem names_text {ns : List (List Char)} (h : ∀ n ∈ ns, '/' ∉ n) (hne : ns ≠ []) :
    names (text ns) = ns := List.splitOn_intercalate '/' h hne

theorem names_append_slash (path rest : List Char) :
    names (path ++ '/' :: rest) = names path ++ names rest :=
  List.splitOn_append_cons_self path rest

theorem text_names (path : List Char) : text (names path) = path := List.intercalate_splitOn '/'

/-! ### Walking -/

/-- `..`: up from the last name gone down, if there is one.  A walk that may go above its
start (`above`) remembers how far it did. -/
def up (above : Bool) : List (List Char) → List (List Char)
  | [] => if above then [dotDot] else []
  | top :: rest =>
      if top = dotDot then (if above then dotDot :: top :: rest else top :: rest) else rest

/-- One name of a walk.  The stack holds the names gone down, the last one first. -/
def enter (above : Bool) (stack : List (List Char)) (name : List Char) : List (List Char) :=
  if name = [] ∨ name = dot then stack
  else if name = dotDot then up above stack
  else name :: stack

/-- The stack at the end of a walk. -/
def walk (above : Bool) (stack : List (List Char)) (ns : List (List Char)) : List (List Char) :=
  ns.foldl (enter above) stack

@[simp] theorem enter_nil (above : Bool) (stack : List (List Char)) : enter above stack [] = stack :=
  rfl

@[simp] theorem enter_dotDot (above : Bool) (stack : List (List Char)) :
    enter above stack dotDot = up above stack := rfl

theorem enter_stay {name : List Char} (h : name = [] ∨ name = dot) (above : Bool)
    (stack : List (List Char)) : enter above stack name = stack := if_pos h

theorem enter_ordinary {name : List Char} (h : Ordinary name) (above : Bool)
    (stack : List (List Char)) : enter above stack name = name :: stack := by
  obtain ⟨hempty, hdot, hdotDot, -⟩ := h
  simp [enter, hempty, hdot, hdotDot]

/-- A name without a separator stays, goes up or is ordinary. -/
theorem name_cases {name : List Char} (h : '/' ∉ name) :
    (name = [] ∨ name = dot) ∨ name = dotDot ∨ Ordinary name := by
  by_cases hstay : name = [] ∨ name = dot
  · exact .inl hstay
  · by_cases hup : name = dotDot
    · exact .inr (.inl hup)
    · exact .inr (.inr ⟨fun he => hstay (.inl he), fun he => hstay (.inr he), hup, h⟩)

theorem mem_up_false {stack : List (List Char)} {n : List Char} (h : n ∈ up false stack) :
    n ∈ stack := by
  cases stack with
  | nil => simp [up] at h
  | cons top rest =>
    by_cases htop : top = dotDot
    · simpa [up, htop] using h
    · rw [up, if_neg htop] at h
      exact List.mem_cons_of_mem _ h

theorem mem_up_true {stack : List (List Char)} {n : List Char} (h : n ∈ up true stack) :
    n = dotDot ∨ n ∈ stack := by
  cases stack with
  | nil => exact .inl (by simpa [up] using h)
  | cons top rest =>
    by_cases htop : top = dotDot
    · simpa [up, htop] using h
    · rw [up, if_neg htop] at h
      exact .inr (List.mem_cons_of_mem _ h)

/-- A walk that stays below its start only ever goes down by ordinary names. -/
theorem forall_ordinary_enter {stack : List (List Char)} {name : List Char} (hname : '/' ∉ name)
    (h : ∀ n ∈ stack, Ordinary n) : ∀ n ∈ enter false stack name, Ordinary n := by
  rcases name_cases hname with hstay | rfl | hordinary
  · rwa [enter_stay hstay]
  · exact fun n hn => h n (mem_up_false hn)
  · rw [enter_ordinary hordinary]
    exact List.forall_mem_cons.2 ⟨hordinary, h⟩

theorem forall_ordinary_walk {stack ns : List (List Char)} (hns : ∀ n ∈ ns, '/' ∉ n)
    (h : ∀ n ∈ stack, Ordinary n) : ∀ n ∈ walk false stack ns, Ordinary n := by
  induction ns generalizing stack with
  | nil => exact h
  | cons name ns ih =>
    refine ih (fun n hn => hns n (List.mem_cons_of_mem _ hn)) ?_
    exact forall_ordinary_enter (hns name (by simp)) h

/-- A walk along ordinary names goes down all of them. -/
theorem walk_ordinary {ns : List (List Char)} (h : ∀ n ∈ ns, Ordinary n) (above : Bool)
    (stack : List (List Char)) : walk above stack ns = ns.reverse ++ stack := by
  induction ns generalizing stack with
  | nil => rfl
  | cons name ns ih =>
    have hrest : ∀ n ∈ ns, Ordinary n := fun n hn => h n (List.mem_cons_of_mem _ hn)
    show walk above (enter above stack name) ns = _
    rw [enter_ordinary (h name (by simp)), ih hrest]
    simp

theorem walk_append (above : Bool) (stack ns ms : List (List Char)) :
    walk above stack (ns ++ ms) = walk above (walk above stack ns) ms := List.foldl_append

@[simp] theorem walk_nil_name (above : Bool) (stack ns : List (List Char)) :
    walk above stack ([] :: ns) = walk above stack ns := rfl

/-- Going down an ordinary name and up again. -/
theorem enter_dotDot_enter {name : List Char} (h : Ordinary name) (above : Bool)
    (stack : List (List Char)) : enter above (enter above stack name) dotDot = stack := by
  rw [enter_ordinary h, enter_dotDot, up, if_neg h.2.2.1]

/-- What a walk that remembers how far it went up keeps on its stack. -/
theorem ordinary_or_dotDot_enter {stack : List (List Char)} {name : List Char} (hname : '/' ∉ name)
    (h : ∀ n ∈ stack, Ordinary n ∨ n = dotDot) :
    ∀ n ∈ enter true stack name, Ordinary n ∨ n = dotDot := by
  rcases name_cases hname with hstay | rfl | hordinary
  · rwa [enter_stay hstay]
  · intro n hn
    rcases mem_up_true hn with rfl | hn
    · exact .inr rfl
    · exact h n hn
  · rw [enter_ordinary hordinary]
    exact List.forall_mem_cons.2 ⟨.inl hordinary, h⟩

/-- One more name on the stack of a walk that remembers how far it went up. -/
theorem walk_reverse_enter {stack : List (List Char)} {name : List Char} (hname : '/' ∉ name)
    (h : ∀ n ∈ stack, Ordinary n ∨ n = dotDot) (start : List (List Char)) :
    walk false start (enter true stack name).reverse =
      enter false (walk false start stack.reverse) name := by
  have hpush : ∀ n : List Char, walk false start (n :: stack).reverse =
      enter false (walk false start stack.reverse) n := by
    intro n
    rw [List.reverse_cons, walk_append]
    rfl
  rcases name_cases hname with hstay | rfl | hordinary
  · rw [enter_stay hstay, enter_stay hstay]
  · cases stack with
    | nil => rfl
    | cons top rest =>
      by_cases htop : top = dotDot
      · rw [enter_dotDot, up, if_pos htop]
        exact hpush dotDot
      · have hdown : Ordinary top := (h top (by simp)).resolve_right htop
        rw [enter_dotDot, up, if_neg htop, List.reverse_cons, walk_append]
        exact (enter_dotDot_enter hdown false _).symm
  · rw [enter_ordinary hordinary]
    exact hpush name

/-- **Walking on by what is left of a walk is walking on by the walk itself.** -/
theorem walk_reverse_walk {ns : List (List Char)} (hns : ∀ n ∈ ns, '/' ∉ n)
    {stack : List (List Char)} (hstack : ∀ n ∈ stack, Ordinary n ∨ n = dotDot)
    (start : List (List Char)) :
    walk false start (walk true stack ns).reverse =
      walk false (walk false start stack.reverse) ns := by
  induction ns generalizing stack with
  | nil => rfl
  | cons name ns ih =>
    have hname : '/' ∉ name := hns name (by simp)
    show walk false start (walk true (enter true stack name) ns).reverse =
      walk false (enter false (walk false start stack.reverse) name) ns
    rw [ih (fun n hn => hns n (List.mem_cons_of_mem _ hn)) (ordinary_or_dotDot_enter hname hstack),
      walk_reverse_enter hname hstack]

theorem mem_walk_true {stack ns : List (List Char)} (hns : ∀ n ∈ ns, '/' ∉ n)
    (h : ∀ n ∈ stack, Ordinary n ∨ n = dotDot) :
    ∀ n ∈ walk true stack ns, Ordinary n ∨ n = dotDot := by
  induction ns generalizing stack with
  | nil => exact h
  | cons name ns ih =>
    refine ih (fun n hn => hns n (List.mem_cons_of_mem _ hn)) ?_
    exact ordinary_or_dotDot_enter (hns name (by simp)) h

/-! ### `node:path` -/

/-- `normalizeString`. -/
def normalizeString (path : List Char) (allowAboveRoot : Bool) : List Char :=
  text (walk allowAboveRoot [] (names path)).reverse

/-- The path starts at the root. -/
def isAbsolute (path : List Char) : Bool := path.head? = some '/'

/-- The separator at the end of a path, if it has one. -/
def trailing (path : List Char) : List Char := if path.getLast? = some '/' then ['/'] else []

/-- `path.normalize`. -/
def normalize (path : List Char) : List Char :=
  if path = [] then dot
  else
    let kept := normalizeString path (!isAbsolute path)
    if kept = [] then
      if isAbsolute path then ['/'] else dot ++ trailing path
    else if isAbsolute path then '/' :: kept ++ trailing path
    else kept ++ trailing path

/-- `path.join`. -/
def join (paths : List (List Char)) : List Char :=
  match paths.filter (· ≠ []) with
  | [] => dot
  | some_ => normalize (text some_)

/-- `path.resolve` of one path, in the directory `cwd`. -/
def resolve (cwd path : List Char) : List Char :=
  let resolved :=
    if path = [] then cwd else if isAbsolute path then path else cwd ++ '/' :: path
  let kept := normalizeString resolved (!isAbsolute resolved)
  if isAbsolute resolved then '/' :: kept else if kept = [] then dot else kept

/-- The last name of a path, whatever separators come after it. -/
def lastName (path : List Char) : List Char :=
  ((names path).filter (· ≠ [])).getLast?.getD []

/-- `path.extname`: the last name from its last dot on, unless that is its first character or
the name is `..`. -/
def extname (path : List Char) : List Char :=
  let base := lastName path
  let stem := base.reverse.dropWhile (· ≠ '.')
  if base = dotDot ∨ stem.length ≤ 1 then [] else base.drop (stem.length - 1)

/-! ### Locations -/

/-- The location that a list of names leads to from the root. -/
def location (ns : List (List Char)) : List Char := '/' :: text ns

theorem isAbsolute_location (ns : List (List Char)) : isAbsolute (location ns) = true := rfl

theorem names_location {ns : List (List Char)} (h : ∀ n ∈ ns, '/' ∉ n) :
    names (location ns) = [] :: if ns = [] then [[]] else ns := by
  have hsplit : names (location ns) = [] :: names (text ns) := names_append_slash [] (text ns)
  rw [hsplit]
  split_ifs with hnil
  · subst hnil
    rfl
  · rw [names_text h hnil]

/-- A walk to a location goes down its names. -/
theorem walk_names_location {ns : List (List Char)} (h : ∀ n ∈ ns, Ordinary n) (above : Bool)
    (stack : List (List Char)) : walk above stack (names (location ns)) = ns.reverse ++ stack := by
  rw [names_location fun n hn => (h n hn).2.2.2]
  split_ifs with hnil
  · subst hnil
    rfl
  · rw [walk_nil_name, walk_ordinary h]

/-- **A location has one list of names.** -/
theorem location_injective {ns ms : List (List Char)} (hns : ∀ n ∈ ns, Ordinary n)
    (hms : ∀ n ∈ ms, Ordinary n) (h : location ns = location ms) : ns = ms := by
  have hwalk : walk false [] (names (location ns)) = walk false [] (names (location ms)) := by rw [h]
  rw [walk_names_location hns, walk_names_location hms] at hwalk
  simpa using hwalk

/-- An absolute path is resolved to a location. -/
theorem resolve_eq_location {path : List Char} (h : isAbsolute path = true) (cwd : List Char) :
    resolve cwd path = location (walk false [] (names path)).reverse := by
  have hne : path ≠ [] := by
    rintro rfl
    exact absurd h (by decide)
  simp [resolve, hne, h, normalizeString, location]

/-- So is any path in a working directory that is absolute. -/
theorem exists_resolve_eq_location {cwd : List Char} (hcwd : isAbsolute cwd = true)
    (path : List Char) :
    ∃ ns : List (List Char), (∀ n ∈ ns, Ordinary n) ∧ resolve cwd path = location ns := by
  have hresolved : ∃ p, isAbsolute p = true ∧ resolve cwd path = resolve cwd p := by
    by_cases hempty : path = []
    · refine ⟨cwd, hcwd, ?_⟩
      have hne : cwd ≠ [] := by
        rintro rfl
        exact absurd hcwd (by decide)
      simp [resolve, hempty, hne, hcwd]
    by_cases habs : isAbsolute path = true
    · exact ⟨path, habs, rfl⟩
    · have hjoined : isAbsolute (cwd ++ '/' :: path) = true := by
        cases cwd with
        | nil => exact absurd hcwd (by decide)
        | cons c cs => exact hcwd
      refine ⟨cwd ++ '/' :: path, hjoined, ?_⟩
      simp [resolve, hempty, habs, hjoined]
  obtain ⟨p, hp, heq⟩ := hresolved
  refine ⟨_, fun n hn => ?_, heq.trans (resolve_eq_location hp cwd)⟩
  exact forall_ordinary_walk (fun n => slash_not_mem_of_mem_names) (by simp) n (List.mem_reverse.1 hn)

/-- A location is resolved to itself. -/
theorem resolve_location {ns : List (List Char)} (h : ∀ n ∈ ns, Ordinary n) (cwd : List Char) :
    resolve cwd (location ns) = location ns := by
  rw [resolve_eq_location rfl, walk_names_location h]
  simp

/-- **What starts with the text of a location and a separator lies below it.** -/
theorem location_below_iff {root ns : List (List Char)} (hroot : ∀ n ∈ root, Ordinary n)
    (hne : root ≠ []) (hns : ∀ n ∈ ns, Ordinary n) :
    location root ++ ['/'] <+: location ns ↔ root <+: ns ∧ root ≠ ns := by
  constructor
  · rintro ⟨rest, hrest⟩
    have hnames : names (location ns) = [] :: (root ++ names rest) := by
      rw [← hrest, List.append_assoc, List.singleton_append, names_append_slash,
        names_location fun n hn => (hroot n hn).2.2.2, if_neg hne, List.cons_append]
    rw [names_location fun n hn => (hns n hn).2.2.2, List.cons.injEq] at hnames
    have hrestne : names rest ≠ [] := List.splitOn_ne_nil '/' rest
    have hnsne : ns ≠ [] := by
      rintro rfl
      rw [if_pos rfl] at hnames
      have hlength := congrArg List.length hnames.2
      have hroot' := List.length_pos_iff.2 hne
      have hrest' := List.length_pos_iff.2 hrestne
      simp at hlength
      omega
    rw [if_neg hnsne] at hnames
    refine ⟨⟨names rest, hnames.2.symm⟩, fun heq => ?_⟩
    have hself : root ++ names rest = root := hnames.2.symm.trans heq.symm
    simp [hrestne] at hself
  · rintro ⟨⟨rest, rfl⟩, hproper⟩
    have hrest : rest ≠ [] := by
      rintro rfl
      simp at hproper
    refine ⟨text rest, ?_⟩
    have htext : text (root ++ rest) = text root ++ '/' :: text rest := by
      clear hns hproper hroot
      induction root with
      | nil => exact absurd rfl hne
      | cons n root ih =>
        cases root with
        | nil =>
          rw [List.singleton_append, text, List.intercalate_cons_of_ne_nil hrest]
          simp [text]
        | cons m root =>
          have hstep := ih (by simp)
          simp only [text, List.cons_append, List.intercalate_cons_cons] at hstep ⊢
          simp [hstep]
    rw [location, location, htext]
    simp

/-! ### Normalized paths -/

/-- A separator at the end leads nowhere. -/
theorem walk_names_trailing (above : Bool) (start : List (List Char)) (path other : List Char) :
    walk above start (names (path ++ trailing other)) = walk above start (names path) := by
  rw [trailing]
  split_ifs
  · rw [names_append_slash, walk_append]
    rfl
  · rw [List.append_nil]

theorem text_eq_nil {ns : List (List Char)} (h : ∀ n ∈ ns, n ≠ []) : text ns = [] ↔ ns = [] := by
  constructor
  · intro htext
    cases ns with
    | nil => rfl
    | cons n ns =>
      have hn : n ≠ [] := h n (by simp)
      cases ns with
      | nil => simp [text, hn] at htext
      | cons m ns => simp [text, List.intercalate_cons_cons, hn] at htext
  · rintro rfl
    rfl

/-- The names of a normalized path lead where the names of the path lead. -/
theorem walk_names_normalize {path : List Char} (h : isAbsolute path = false)
    (start : List (List Char)) :
    walk false start (names (normalize path)) = walk false start (names path) := by
  by_cases hempty : path = []
  · subst hempty
    rfl
  have hslash : ∀ n ∈ names path, '/' ∉ n := fun n => slash_not_mem_of_mem_names
  have hkept : ∀ n ∈ (walk true [] (names path)).reverse, n ≠ [] ∧ '/' ∉ n := by
    intro n hn
    have hmem : Ordinary n ∨ n = dotDot :=
      mem_walk_true hslash (by simp) n (List.mem_reverse.1 hn)
    rcases hmem with hn | rfl
    · exact ⟨hn.1, hn.2.2.2⟩
    · decide
  have hwalk := walk_reverse_walk hslash (fun _ h => absurd h List.not_mem_nil) start
  simp only [normalize, if_neg hempty, h, Bool.not_false, normalizeString, Bool.false_eq_true, if_false]
  simp only [text_eq_nil fun n hn => (hkept n hn).1]
  split_ifs with hnil
  · rw [hnil] at hwalk
    rw [walk_names_trailing]
    exact hwalk
  · rw [walk_names_trailing, names_text (fun n hn => (hkept n hn).2) hnil]
    exact hwalk

/-- The names of a normalized absolute path lead down from wherever they are followed. -/
theorem walk_names_normalize_absolute {path : List Char} (h : isAbsolute path = true)
    (start : List (List Char)) :
    walk false start (names (normalize path)) = walk false [] (names path) ++ start := by
  have hempty : path ≠ [] := by
    rintro rfl
    exact absurd h (by decide)
  have hordinary : ∀ n ∈ (walk false [] (names path)).reverse, Ordinary n := fun n hn =>
    forall_ordinary_walk (fun n => slash_not_mem_of_mem_names) (by simp) n (List.mem_reverse.1 hn)
  simp only [normalize, if_neg hempty, h, Bool.not_true, normalizeString, if_true]
  simp only [text_eq_nil fun n hn => (hordinary n hn).1]
  split_ifs with hnil
  · rw [List.reverse_eq_nil_iff.1 hnil]
    rfl
  · rw [walk_names_trailing]
    exact (walk_names_location hordinary false start).trans (by rw [List.reverse_reverse])

theorem isAbsolute_normalize {path : List Char} (h : isAbsolute path = true) :
    isAbsolute (normalize path) = true := by
  have hempty : path ≠ [] := by
    rintro rfl
    exact absurd h (by decide)
  simp only [normalize, if_neg hempty, h, Bool.not_true, if_true]
  split_ifs <;> rfl

theorem normalize_ne_nil (path : List Char) : normalize path ≠ [] := by
  unfold normalize
  dsimp only
  split_ifs <;> simp_all [dot]

/-- Where a path leads from a root: an absolute one goes down from the root as from `/`. -/
def follow (root : List (List Char)) (path : List Char) : List (List Char) :=
  if isAbsolute path then root ++ (walk false [] (names path)).reverse
  else (walk false root.reverse (names path)).reverse

theorem forall_ordinary_follow {root : List (List Char)} (hroot : ∀ n ∈ root, Ordinary n)
    (path : List Char) : ∀ n ∈ follow root path, Ordinary n := by
  have hslash : ∀ n ∈ names path, '/' ∉ n := fun n => slash_not_mem_of_mem_names
  intro n hn
  rw [follow] at hn
  split_ifs at hn
  · rcases List.mem_append.1 hn with hn | hn
    · exact hroot n hn
    · exact forall_ordinary_walk hslash (by simp) n (List.mem_reverse.1 hn)
  · refine forall_ordinary_walk hslash ?_ n (List.mem_reverse.1 hn)
    exact fun m hm => hroot m (List.mem_reverse.1 hm)

/-- **A normalized path joined to a location and resolved is followed from there.** -/
theorem resolve_join_normalize {root : List (List Char)} (hroot : ∀ n ∈ root, Ordinary n)
    (cwd path : List Char) :
    resolve cwd (join [location root, normalize path]) = location (follow root path) := by
  have hjoin : join [location root, normalize path] =
      normalize (location root ++ '/' :: normalize path) := by
    have hfilter : [location root, normalize path].filter (· ≠ []) =
        [location root, normalize path] := by
      simp [normalize_ne_nil, location]
    rw [join, hfilter]
    simp [text, List.intercalate_cons_cons]
  have habs : isAbsolute (location root ++ '/' :: normalize path) = true := rfl
  rw [hjoin, resolve_eq_location (isAbsolute_normalize habs), walk_names_normalize_absolute habs,
    names_append_slash, walk_append, walk_names_location hroot, List.append_nil, List.append_nil,
    follow]
  split_ifs with hpath
  · rw [walk_names_normalize_absolute hpath, List.reverse_append, List.reverse_reverse]
  · rw [walk_names_normalize (by simpa using hpath)]

/-- Ordinary names are followed as they stand. -/
theorem follow_text {root ns : List (List Char)} (hns : ∀ n ∈ ns, Ordinary n) (hne : ns ≠ []) :
    follow root (text ns) = root ++ ns := by
  have hrelative : isAbsolute (text ns) = false := by
    cases ns with
    | nil => exact absurd rfl hne
    | cons n ns =>
      obtain ⟨hn, -, -, hslash⟩ := hns n (by simp)
      cases n with
      | nil => exact absurd rfl hn
      | cons c n =>
        have hc : c ≠ '/' := fun he => hslash (by simp [he])
        cases ns <;> simp [isAbsolute, text, hc, List.intercalate_cons_cons]
  rw [follow, hrelative, names_text (fun n hn => (hns n hn).2.2.2) hne]
  simp [walk_ordinary hns]

end PosixPath
