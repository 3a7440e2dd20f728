/-
# Identifiers and slugs

`apps/api-core/src/modules/shared/identifier.util.ts` and `slug.util.ts`, and
`String.prototype.trim`.

What Unicode tables decide, lowercasing and the NFKD form, is a parameter
(`Unicode`): nothing here depends on it, because every slug goes through the
character class `[a-z0-9]` afterwards.
-/

import Mathlib.Data.List.DropRight

namespace TopChoice

/-- What the runtime looks up in the Unicode tables. -/
structure Unicode where
  /-- `String.prototype.toLowerCase`. -/
  toLowerCase : String → String
  /-- `String.prototype.normalize('NFKD')`. -/
  nfkd : String → String

/-- The tables as far as ASCII texts need them. -/
def Unicode.ascii : Unicode := ⟨fun s => String.ofList (s.toList.map Char.toLower), id⟩

/-! ### White space -/

/-- The white space and line terminators of the language. -/
def isWhiteSpace (c : Char) : Bool :=
  (9 ≤ c.toNat && c.toNat ≤ 13) || (0x2000 ≤ c.toNat && c.toNat ≤ 0x200A) ||
    c.toNat ∈ [0x20, 0xA0, 0x1680, 0x2028, 0x2029, 0x202F, 0x205F, 0x3000, 0xFEFF]

/-- `String.prototype.trim`. -/
def trim (s : String) : String :=
  String.ofList ((s.toList.dropWhile isWhiteSpace).rdropWhile isWhiteSpace)

/-- A text without such characters is left as it is. -/
theorem stripped_eq_self {p : Char → Bool} {s : String} (h : ∀ c ∈ s.toList, p c = false) :
    String.ofList ((s.toList.dropWhile p).rdropWhile p) = s := by
  have hleft : s.toList.dropWhile p = s.toList := by
    rw [List.dropWhile_eq_self_iff]
    intro hpos
    exact Bool.eq_false_iff.1 (h _ (List.getElem_mem hpos))
  have hright : s.toList.rdropWhile p = s.toList := by
    rw [List.rdropWhile_eq_self_iff]
    intro hne
    exact Bool.eq_false_iff.1 (h _ (List.getLast_mem hne))
  rw [hleft, hright, String.ofList_toList]

/-- A text with another character is not stripped to nothing. -/
theorem stripped_ne_empty {p : Char → Bool} {s : String} (h : ∃ c ∈ s.toList, p c = false) :
    String.ofList ((s.toList.dropWhile p).rdropWhile p) ≠ "" := by
  obtain ⟨c, hc, hpc⟩ := h
  intro hempty
  have hnil : (s.toList.dropWhile p).rdropWhile p = [] := by
    simpa using congrArg String.toList hempty
  rw [List.rdropWhile_eq_nil_iff] at hnil
  have hall : s.toList.dropWhile p = [] := by
    by_contra hne
    have hhead := hnil _ (List.head_mem hne)
    exact Bool.eq_false_iff.1 (List.head_dropWhile_not p hne) hhead
  rw [List.dropWhile_eq_nil_iff] at hall
  rw [hall c hc] at hpc
  cases hpc

/-- A text that fits a pattern, character by character: each of its characters
fits one of the pattern's. -/
theorem exists_fits {p : Char × Char → Bool} {text pattern : List Char}
    (hlength : text.length = pattern.length) (h : (text.zip pattern).all p = true) {c : Char}
    (hc : c ∈ text) : ∃ d ∈ pattern, p (c, d) = true := by
  rw [List.all_eq_true] at h
  obtain ⟨i, hi, rfl⟩ := List.getElem_of_mem hc
  have hi' : i < pattern.length := hlength ▸ hi
  refine ⟨pattern[i], List.getElem_mem hi', h _ ?_⟩
  rw [List.mem_iff_getElem]
  exact ⟨i, by simp only [List.length_zip]; omega, by simp⟩

/-! ### Identifiers -/

/-- `[0-9a-f]` under the flag `i`. -/
def isHex (c : Char) : Bool :=
  c.isDigit || ('a' ≤ c && c ≤ 'f') || ('A' ≤ c && c ≤ 'F')

/-- `UUID_PATTERN`: a dash stands for itself, `v` for the version digit, `n` for
the variant digit, `x` for any hexadecimal digit. -/
def uuidPattern : String := "xxxxxxxx-xxxx-vxxx-nxxx-xxxxxxxxxxxx"

/-- The character fits the place of the pattern. -/
def fitsPattern (c : Char) : Char → Bool
  | '-' => c = '-'
  | 'v' => '1' ≤ c && c ≤ '8'
  | 'n' => c ∈ ['8', '9', 'a', 'b', 'A', 'B']
  | _ => isHex c

/-- `isUuid`. -/
def isUuid (value : String) : Bool :=
  value.toList.length = 36 &&
    (value.toList.zip uuidPattern.toList).all fun p => fitsPattern p.1 p.2

/-- `isObjectIdHex`. -/
def isObjectIdHex (value : String) : Bool :=
  value.toList.length = 24 && value.toList.all isHex

/-! ### Slugs -/

/-- `MAX_SLUG_LENGTH`. -/
def maxSlugLength : ℕ := 120

/-- `[a-z0-9]`. -/
def isSlugChar (c : Char) : Bool := c.isDigit || ('a' ≤ c && c ≤ 'z')

/-- The straight and the curly apostrophe, and the backtick. -/
def isQuote (c : Char) : Bool := c.toNat ∈ [0x27, 0x2019, 0x60]

/-- `.replace(/[^a-z0-9]+/g, '-')`: every run of other characters becomes one
dash, so the replacement of double dashes after it finds nothing. -/
def dashRuns : List Char → List Char
  | [] => []
  | c :: cs =>
      if isSlugChar c then c :: dashRuns cs
      else match dashRuns cs with
        | '-' :: rest => '-' :: rest
        | rest => '-' :: rest

/-- `slugify`. -/
def slugify (u : Unicode) (value fallback : String) : String :=
  let letters := (u.nfkd value).toList.filter fun c => !(0x300 ≤ c.toNat && c.toNat ≤ 0x36F)
  let lower := (u.toLowerCase (String.ofList letters)).toList.filter fun c => !isQuote c
  let trimmed := ((dashRuns lower).dropWhile (· = '-')).rdropWhile (· = '-')
  let slug := (trimmed.take maxSlugLength).rdropWhile (· = '-')
  if slug = [] then fallback else String.ofList slug

/-- The candidates of `buildUniqueSlug` after the base: `-2`, `-3`, … up to
`maxAttempts`, which is 50. -/
def slugCandidates (base : String) : List String :=
  (List.range 49).map fun n => base ++ "-" ++ toString (n + 2)

/-- `buildUniqueSlug`; `timestamp` is `Date.now().toString(36)`. -/
def buildUniqueSlug (u : Unicode) (timestamp desired fallback : String) (isTaken : String → Bool) :
    String :=
  let base := slugify u desired fallback
  if !isTaken base then base
  else ((slugCandidates base).find? fun candidate => !isTaken candidate).getD
    (base ++ "-" ++ timestamp)

/-- A text of a slug's characters, not empty. -/
def IsSlug (s : String) : Prop := s ≠ "" ∧ ∀ c ∈ s.toList, isSlugChar c = true ∨ c = '-'

instance (s : String) : Decidable (IsSlug s) :=
  decidable_of_iff (s ≠ "" ∧ (s.toList.all fun c => isSlugChar c || c = '-') = true)
    (by simp [IsSlug])

/-- The code of a slug's character. -/
theorem toNat_of_slugChar {c : Char} (h : isSlugChar c = true ∨ c = '-') :
    45 ≤ c.toNat ∧ c.toNat ≤ 57 ∨ 97 ≤ c.toNat ∧ c.toNat ≤ 122 := by
  rcases h with h | rfl
  · simp only [isSlugChar, Char.isDigit, Bool.or_eq_true, Bool.and_eq_true, decide_eq_true_eq,
      Char.le_def, UInt32.le_iff_toNat_le] at h
    rcases h with h | h
    · change 48 ≤ c.toNat ∧ c.toNat ≤ 57 at h
      omega
    · change 97 ≤ c.toNat ∧ c.toNat ≤ 122 at h
      omega
  · decide

/-- The characters of a slug are no white space. -/
theorem isWhiteSpace_of_slugChar {c : Char} (h : isSlugChar c = true ∨ c = '-') :
    isWhiteSpace c = false := by
  have := toNat_of_slugChar h
  simp only [isWhiteSpace, List.mem_cons, List.not_mem_nil, or_false, Bool.or_eq_false_iff,
    Bool.and_eq_false_iff, decide_eq_false_iff_not]
  omega

/-- A slug has no white space to trim. -/
theorem trim_of_isSlug {s : String} (h : IsSlug s) : trim s = s :=
  stripped_eq_self fun c hc => isWhiteSpace_of_slugChar (h.2 c hc)

/-- A slug with more of a slug's characters. -/
theorem IsSlug.append {s t : String} (hs : IsSlug s)
    (ht : ∀ c ∈ t.toList, isSlugChar c = true ∨ c = '-') : IsSlug (s ++ t) := by
  refine ⟨fun h => hs.1 ?_, fun c hc => ?_⟩
  · exact (String.append_eq_empty_iff.1 h).1
  · rw [String.toList_append, List.mem_append] at hc
    exact hc.elim (hs.2 c) (ht c)

/-- The runs of other characters are gone. -/
theorem slugChar_of_mem_dashRuns {c : Char} : ∀ {cs : List Char}, c ∈ dashRuns cs →
    isSlugChar c = true ∨ c = '-'
  | [], h => (nomatch h)
  | d :: cs, h => by
      rw [dashRuns] at h
      split at h
      · next hd =>
          rcases List.mem_cons.1 h with rfl | h
          · exact Or.inl hd
          · exact slugChar_of_mem_dashRuns h
      · split at h
        · next rest hrest => exact slugChar_of_mem_dashRuns (hrest ▸ h)
        · rcases List.mem_cons.1 h with rfl | h
          · exact Or.inr rfl
          · exact slugChar_of_mem_dashRuns h

/-- **`slugify` makes slugs**, when the fallback is one. -/
theorem isSlug_slugify (u : Unicode) (value : String) {fallback : String}
    (hfallback : IsSlug fallback) : IsSlug (slugify u value fallback) := by
  unfold slugify
  simp only
  split_ifs with hempty
  · exact hfallback
  · refine ⟨fun h => hempty (by simpa using congrArg String.toList h), fun c hc => ?_⟩
    rw [String.toList_ofList] at hc
    have hc := List.mem_of_mem_take ((List.rdropWhile_prefix _ _).subset hc)
    have hc := (List.dropWhile_suffix _).subset ((List.rdropWhile_prefix _ _).subset hc)
    exact slugChar_of_mem_dashRuns hc

/-- The decimal digits of a number are a slug's characters. -/
theorem slugChar_of_mem_toString {n : ℕ} {c : Char} (hc : c ∈ (toString n).toList) :
    isSlugChar c = true ∨ c = '-' := by
  rw [Nat.toString_eq_repr, Nat.toList_repr] at hc
  have hdigit := Nat.isDigit_of_mem_toDigits (by decide) (by decide) hc
  simp [isSlugChar, hdigit]

/-- **`buildUniqueSlug` makes slugs**, when the fallback and the timestamp are. -/
theorem isSlug_buildUniqueSlug (u : Unicode) {timestamp : String} (htimestamp : IsSlug timestamp)
    (desired : String) {fallback : String} (hfallback : IsSlug fallback)
    (isTaken : String → Bool) :
    IsSlug (buildUniqueSlug u timestamp desired fallback isTaken) := by
  have hbase := isSlug_slugify u desired hfallback
  have hdash : IsSlug (slugify u desired fallback ++ "-") :=
    hbase.append fun c hc => Or.inr (by simpa using hc)
  unfold buildUniqueSlug
  simp only
  split_ifs
  · exact hbase
  · cases hfind : (slugCandidates (slugify u desired fallback)).find?
        fun candidate => !isTaken candidate with
    | none => exact hdash.append htimestamp.2
    | some candidate =>
        obtain ⟨n, -, rfl⟩ := List.mem_map.1 (List.mem_of_find?_eq_some hfind)
        exact hdash.append fun c hc => slugChar_of_mem_toString hc

end TopChoice
