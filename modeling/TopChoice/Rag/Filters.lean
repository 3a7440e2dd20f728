/-
# Constraints read out of a question

`apps/rag-svc/app/retrieval/filters.py`: prices, bedrooms, property types and areas are
read out of the text of a question with regular expressions, in English and Arabic; the
area catalogue is a parameter.  The two bounds of one question are always in order
(`properBounds_parsePriceRange`), since both the range and the two separate cues are swapped when
they are not.

A number too large for a `float` raises.
-/

import Mathlib.Data.List.Infix
import TopChoice.Lib.Backtrack
import TopChoice.Lib.Dictionary
import TopChoice.Lib.Fallible
import TopChoice.Rag.PyFloat

namespace TopChoice
namespace Rag

open Backtrack (Pattern Place)

/-! ### Patterns -/

/-- `\s*`. -/
def blanks : Pattern := .star (.one isSpace)

/-- `\s+`. -/
def someBlanks : Pattern := .plus (.one isSpace)

/-- An area of the catalogue: its id and its names. -/
structure Area where
  id : String
  nameEn : String
  nameAr : String
  deriving DecidableEq, Repr

/-- Bounds that are positive and in order. -/
structure ProperBounds (bounds : Option ℕ × Option ℕ) : Prop where
  minimum_pos : ∀ low, bounds.1 = some low → 0 < low
  maximum_pos : ∀ high, bounds.2 = some high → 0 < high
  le : ∀ low high, bounds.1 = some low → bounds.2 = some high → low ≤ high

namespace Unicode

variable (u : Unicode)

/-- A word, without regard to case. -/
def word (text : String) : Pattern := .word u.same text

/-- Words with white space between them. -/
def phrase (words : List String) : Pattern := .all ((words.map u.word).intersperse someBlanks)

/-- A word with an ending or without. -/
def plural (text ending : String) : Pattern := .seq (u.word text) (.opt (u.word ending))

/-- One of the words. -/
def oneOf (words : List String) : Pattern := .any (words.map u.word)

/-- `\d`. -/
def isDecimal (c : Char) : Bool := (u.decimal c).isSome

/-- `\d+`. -/
def digits : Pattern := .plus (.one u.isDecimal)

/-- `_NUMBER`, in a group. -/
def number (name : String) : Pattern :=
  .group name (.seq u.digits (.star (.seq (.one fun c => c = '.' || c = ',') u.digits)))

/-- The magnitude words after a number, in a group. -/
def magnitude (name : String) (units : List String) : Pattern :=
  .opt (.seq blanks (.group name (u.oneOf units)))

/-- `_UNIT`. -/
def unit : Pattern :=
  u.magnitude "unit" [
    "million", "millions", "mio", "mn", "m", "k", "thousand", "thousands", "bn", "billion",
    "مليون", "ملايين", "ألف", "الف", "آلاف", "الاف", "مليار"]

/-- `_CURRENCY`. -/
def currency : Pattern :=
  .opt (.seq blanks (u.oneOf ["egp", "le", "pound", "pounds", "جنيه", "جم"]))

/-- `_AMOUNT`. -/
def amount : Pattern := .all [u.currency, blanks, u.number "num", u.unit, u.currency]

/-- `_MAX_KEYWORDS`. -/
def maxKeywords : Pattern :=
  .any [
    u.word "under", u.word "below", u.phrase ["less", "than"], u.phrase ["up", "to"],
    u.phrase ["no", "more", "than"], u.phrase ["at", "most"],
    .seq (u.word "max") (.opt (u.word "imum")), u.phrase ["cheaper", "than"], u.word "within",
    u.phrase ["أقل", "من"], u.phrase ["اقل", "من"], u.word "حتى", u.phrase ["في", "حدود"],
    u.phrase ["بحد", "أقصى"], u.phrase ["ما", "يزيد", "عن"]]

/-- `_MIN_KEYWORDS`. -/
def minKeywords : Pattern :=
  .any [
    u.word "over", u.word "above", u.phrase ["more", "than"], u.phrase ["at", "least"],
    .all [u.word "starting", someBlanks, .any [u.word "from", u.word "at"]],
    .seq (u.word "min") (.opt (u.word "imum")), u.phrase ["أكثر", "من"], u.phrase ["اكثر", "من"],
    u.word "فوق", u.phrase ["بداية", "من"], u.phrase ["ابتداء", "من"],
    u.phrase ["لا", "يقل", "عن"]]

/-- `_BUDGET_KEYWORDS`. -/
def budgetKeywords : Pattern :=
  .any [
    u.word "budget", u.word "afford", u.phrase ["price", "range"], u.word "ميزانية",
    u.word "بميزانية", u.word "ميزانيتي"]

/-- `_MAX_RE`. -/
def maxRe : Pattern := .all [u.maxKeywords, blanks, u.amount]

/-- `_MIN_RE`. -/
def minRe : Pattern := .all [u.minKeywords, blanks, u.amount]

/-- `_BUDGET_RE`. -/
def budgetRe : Pattern :=
  .all [u.budgetKeywords, .upTo 16 (.one fun c => !('0' ≤ c && c ≤ '9')), u.amount]

/-- The magnitude words of a range. -/
def rangeUnits : List String := [
    "million", "mn", "m", "k", "thousand", "bn", "billion", "مليون", "ألف", "الف", "مليار"]

/-- `_RANGE_RE`. -/
def rangeRe : Pattern :=
  .all [u.oneOf ["between", "from", "من"], blanks, u.currency, blanks, u.number "low",
    u.magnitude "low_unit" rangeUnits, blanks, u.oneOf ["and", "to", "-", "–", "إلى", "الى", "و"],
    blanks, u.currency, blanks, u.number "high", u.magnitude "high_unit" rangeUnits]

/-- `_AREA_UNIT_RE`. -/
def areaUnitRe : Pattern :=
  .seq blanks (.any [u.word "²", .seq (u.word "2") (.boundary u.isWord),
    .all [u.word "sq", blanks, u.word "m"], u.word "sqm", u.word "m2",
    .all [u.word "met", u.oneOf ["er", "re"], .opt (u.word "s")], u.word "متر", u.word "م2"])

/-- `_PROPERTY_TYPE_PATTERNS`. -/
def propertyTypePatterns : List (String × Pattern) := [
    ("townhouse", .any [
       .all [u.word "town", blanks, u.word "house"], u.word "townhouses",
       .all [u.word "تاون", blanks, u.word "هاوس"]]),
    ("twinhouse", .any [
       .all [u.word "twin", blanks, u.word "house"], u.word "twinhouses",
       .all [u.word "توين", blanks, u.word "هاوس"]]),
    ("penthouse", .any [
       .all [u.word "pent", blanks, u.word "house"], u.word "penthouses", u.word "بنتهاوس",
       .all [u.word "بنت", blanks, u.word "هاوس"]]),
    ("duplex", .any [
       u.plural "duplex" "es", u.word "دوبلكس", u.word "دوبليكس"]),
    ("chalet", .any [
       u.plural "chalet" "s", u.word "شاليه", u.word "شاليهات"]),
    ("studio", .any [
       u.plural "studio" "s", u.word "استوديو", u.word "ستوديو"]),
    ("villa", .any [
       u.plural "villa" "s", u.word "فيلا", u.word "فيلل", u.word "فلل", u.word "فيلات"]),
    ("apartment", .any [
       u.plural "apartment" "s", u.plural "flat" "s", u.word "شقة", u.word "شقق", u.word "شقه"]),
    ("office", .any [
       u.plural "office" "s", u.phrase ["office", "space"], u.word "مكتب", u.word "مكاتب",
       u.word "إداري", u.word "اداري"]),
    ("retail", .any [
       u.word "retail", u.plural "shop" "s", u.plural "store" "s", u.word "محل", u.word "محلات",
       u.word "تجاري"]),
    ("clinic", .any [
       u.plural "clinic" "s", u.word "عيادة", u.word "عيادات", u.word "طبي"])]

/-- `_BEDROOM_RE`. -/
def bedroomRe : Pattern :=
  .all [.group "count" u.digits, blanks, .opt (.one fun c => c = '-' || isSpace c), blanks,
    .any [.all [u.word "bed", .opt (u.word "room"), .opt (u.word "s")],
      .seq (u.word "br") (.boundary u.isWord), .seq (u.word "bhk") (.boundary u.isWord),
      u.word "غرف", u.word "غرفة", u.word "غرفه"]]

/-- `_STUDIO_RE`. -/
def studioRe : Pattern :=
  .any [.all [.boundary u.isWord, u.word "studio", .boundary u.isWord], u.word "استوديو",
    u.word "ستوديو"]

/-- `_TWO_ROOMS_AR_RE`. -/
def twoRoomsArRe : Pattern :=
  .any [.word (fun a c => a = c) "غرفتين", .word (fun a c => a = c) "غرفتان"]

/-- `_STATED_AMOUNT_RE`. -/
def statedAmountRe : Pattern :=
  .all [.group "1" (.seq (.one u.isDecimal) (.star (.one fun c => u.isDecimal c || c = ',' || c = '.'))),
    blanks, .opt (.group "2" (.any [u.word "million", .seq (u.word "m") (.boundary u.isWord),
      .seq (u.word "mn") (.boundary u.isWord), u.word "مليون"]))]

/-! ### Amounts -/

/-- `_DIGIT_TRANSLATION`. -/
def translateDigit (c : Char) : Char :=
  if 0x660 ≤ c.toNat ∧ c.toNat ≤ 0x669 then Char.ofNat (c.toNat - 0x660 + '0'.toNat)
  else if 0x6F0 ≤ c.toNat ∧ c.toNat ≤ 0x6F9 then Char.ofNat (c.toNat - 0x6F0 + '0'.toNat)
  else if c.toNat = 0x66B then '.'
  else if c.toNat = 0x66C ∨ c.toNat = 0x60C then ','
  else c

/-- `normalize`. -/
def normalize (text : String) : String :=
  " ".intercalate (words (u.lower (String.ofList (text.toList.map translateDigit))))

/-- The words of a text in ASCII, letter by letter. -/
theorem normalize_ascii (text : String) : normalize .ascii text =
    " ".intercalate (wordsFrom [] ((text.toList.map translateDigit).map Char.toLower)) := by
  have hlower (s : String) : (Unicode.ascii.lower s).toList = s.toList.map Char.toLower :=
    String.toList_map
  rw [normalize, words, hlower, String.toList_ofList]

/-- `_MULTIPLIERS`. -/
def multipliers : List (String × ℕ) := [
    ("k", 1_000), ("thousand", 1_000), ("thousands", 1_000), ("ألف", 1_000), ("الف", 1_000),
    ("آلاف", 1_000), ("الاف", 1_000), ("m", 1_000_000), ("mn", 1_000_000), ("mio", 1_000_000),
    ("million", 1_000_000), ("millions", 1_000_000), ("مليون", 1_000_000), ("ملايين", 1_000_000),
    ("bn", 1_000_000_000), ("billion", 1_000_000_000), ("مليار", 1_000_000_000)]

/-- `_MIN_BARE_PRICE`. -/
def minBarePrice : ℤ := 100_000

/-- A number with its comma read as a decimal mark or its commas as group separators. -/
def cleaned (raw : List Char) : List Char :=
  if raw.count ',' = 1 ∧ (raw.reverse.takeWhile (· ≠ ',')).length ≠ 3 then
    raw.map fun c => if c = ',' then '.' else c
  else raw.filter (· ≠ ',')

/-- `_AREA_UNIT_RE.match(tail)`. -/
def isAreaUnit (tail : List Char) : Bool := (u.areaUnitRe.matchAt (.start tail)).isSome

/-- `_to_amount`. -/
def toAmount (raw : List Char) (unit : Option (List Char)) (tail : List Char) :
    Except Raised (Option ℕ) :=
  match PyFloat.ofText u (cleaned raw) with
  | none => .ok none
  | some value =>
      let key := u.lower (strip (String.ofList (unit.getD [])))
      let multiplier := (multipliers.lookup key).getD 1
      if key ∈ ["m", "mn", "mio"] ∧ u.isAreaUnit tail then .ok none
      else if key = "" ∧ u.isAreaUnit tail then .ok none
      else do
        let amount ← (value.mul multiplier).round
        if multiplier = 1 ∧ amount < minBarePrice then return none
        return if 0 < amount then some amount.toNat else none

/-- `_amount_from_match`. -/
def amountFromMatch (place : Place) : Except Raised (Option ℕ) :=
  u.toAmount ((place.group "num").getD []) (place.group "unit") place.rest

/-- The amount after the first cue of a pattern. -/
def cueAmount (cue : Pattern) (normalized : List Char) : Except Raised (Option ℕ) :=
  match cue.search normalized with
  | some place => u.amountFromMatch place
  | none => .ok none

/-- The two amounts of a range. -/
def rangeAmounts (normalized : List Char) : Except Raised (Option ℕ × Option ℕ) :=
  match u.rangeRe.search normalized with
  | some place => do
      let low ← u.toAmount ((place.group "low").getD [])
        ((place.group "low_unit").or (place.group "high_unit")) []
      let high ← u.toAmount ((place.group "high").getD []) (place.group "high_unit") place.rest
      return (low, high)
  | none => .ok (none, none)

/-- The bounds, swapped when they are not in order. -/
def swapped (minimum maximum : Option ℕ) : Option ℕ × Option ℕ :=
  match minimum, maximum with
  | some low, some high => if high < low then (some high, some low) else (some low, some high)
  | _, _ => (minimum, maximum)

/-- `parse_price_range`. -/
def parsePriceRange (text : String) : Except Raised (Option ℕ × Option ℕ) := do
  let normalized := (u.normalize text).toList
  match ← u.rangeAmounts normalized with
  | (some low, some high) => return (some (min low high), some (max low high))
  | _ =>
      let maximum ← u.cueAmount u.maxRe normalized
      let minimum ← u.cueAmount u.minRe normalized
      let maximum ←
        if maximum = none ∧ minimum = none then u.cueAmount u.budgetRe normalized else .ok maximum
      return swapped minimum maximum

/-- The first of the figures that is a price. -/
def firstStated : List Place → Except Raised (Option ℕ)
  | [] => .ok none
  | place :: places =>
      match PyFloat.ofText u (((place.group "1").getD []).filter (· ≠ ',')) with
      | none => firstStated places
      | some value =>
          let value := if u.lower (String.ofList ((place.group "2").getD [])) = "" then value
            else value.mul 1_000_000
          if value.atLeast 100_000 then do
            let stated ← value.toInt
            return some stated.toNat
          else firstStated places

/-- `parse_stated_amount`. -/
def parseStatedAmount (text : String) : Except Raised (Option ℕ) :=
  u.firstStated (u.statedAmountRe.findIter (u.normalize text).toList)

/-! ### The bounds of one question -/

/-- An amount is positive. -/
theorem toAmount_pos {raw : List Char} {unit : Option (List Char)} {tail : List Char} {n : ℕ}
    (h : u.toAmount raw unit tail = .ok (some n)) : 0 < n := by
  unfold toAmount at h
  split at h
  · exact absurd h nofun
  dsimp only at h
  split at h
  · exact absurd h nofun
  split at h
  · exact absurd h nofun
  obtain ⟨amount, -, h⟩ := Fallible.bind_eq_ok.1 h
  split at h
  · exact absurd h nofun
  have hamount : (if 0 < amount then some amount.toNat else none) = some n := Except.ok.inj h
  split at hamount
  · have hn : amount.toNat = n := Option.some.inj hamount
    omega
  · exact absurd hamount nofun

theorem cueAmount_pos {cue : Pattern} {normalized : List Char} {n : ℕ}
    (h : u.cueAmount cue normalized = .ok (some n)) : 0 < n := by
  unfold cueAmount at h
  split at h
  · exact u.toAmount_pos h
  · exact absurd h nofun

theorem rangeAmounts_pos {normalized : List Char} {low high : ℕ}
    (h : u.rangeAmounts normalized = .ok (some low, some high)) : 0 < low ∧ 0 < high := by
  unfold rangeAmounts at h
  split at h
  · obtain ⟨first, hfirst, h⟩ := Fallible.bind_eq_ok.1 h
    obtain ⟨second, hsecond, h⟩ := Fallible.bind_eq_ok.1 h
    have hpair : (first, second) = (some low, some high) := Except.ok.inj h
    obtain ⟨rfl, rfl⟩ := Prod.mk.inj hpair
    exact ⟨u.toAmount_pos hfirst, u.toAmount_pos hsecond⟩
  · exact absurd h nofun

/-- The swap puts positive bounds in order. -/
theorem properBounds_swapped {minimum maximum : Option ℕ}
    (hmin : ∀ low, minimum = some low → 0 < low) (hmax : ∀ high, maximum = some high → 0 < high) :
    ProperBounds (swapped minimum maximum) := by
  match minimum, maximum with
  | none, maximum => exact ⟨nofun, hmax, nofun⟩
  | some low, none => exact ⟨hmin, nofun, nofun⟩
  | some low, some high =>
    have hlow : 0 < low := hmin low rfl
    have hhigh : 0 < high := hmax high rfl
    rw [swapped]
    split
    · constructor <;> grind
    · constructor <;> grind

/-- **The bounds of one question are positive and in order**, whatever the question. -/
theorem properBounds_parsePriceRange {text : String} {bounds : Option ℕ × Option ℕ}
    (h : u.parsePriceRange text = .ok bounds) : ProperBounds bounds := by
  obtain ⟨amounts, hamounts, h⟩ := Fallible.bind_eq_ok.1 h
  split at h
  · obtain ⟨hlow, hhigh⟩ := u.rangeAmounts_pos hamounts
    obtain rfl := Except.ok.inj h
    constructor <;> grind
  · obtain ⟨maximum, hmaximum, h⟩ := Fallible.bind_eq_ok.1 h
    obtain ⟨minimum, hminimum, h⟩ := Fallible.bind_eq_ok.1 h
    have hmin (low : ℕ) (hlow : minimum = some low) : 0 < low := u.cueAmount_pos (hlow ▸ hminimum)
    dsimp only at h
    split at h
    · obtain ⟨budget, hbudget, h⟩ := Fallible.bind_eq_ok.1 h
      obtain rfl := Except.ok.inj h
      exact properBounds_swapped hmin fun high hhigh => u.cueAmount_pos (hhigh ▸ hbudget)
    · obtain rfl := Except.ok.inj h
      exact properBounds_swapped hmin fun high hhigh => u.cueAmount_pos (hhigh ▸ hmaximum)

/-! ### The other constraints -/

/-- `parse_property_type`. -/
def parsePropertyType (text : String) : Option String :=
  (u.propertyTypePatterns.find? fun entry =>
    (entry.2.search (u.normalize text).toList).isSome).map Prod.fst

/-- The longest text of digits `int` reads. -/
def intMaxStrDigits : ℕ := 4300

/-- `parse_bedrooms`. -/
def parseBedrooms (text : String) : Option ℕ :=
  let normalized := (u.normalize text).toList
  match u.bedroomRe.search normalized with
  | some place =>
      let digits := (place.group "count").getD []
      if intMaxStrDigits < digits.length then none
      else (PyFloat.digitsValue u digits).filter (· ≤ 12)
  | none =>
      if (twoRoomsArRe.search normalized).isSome then some 2
      else if (u.studioRe.search normalized).isSome then some 0
      else none

/-- `parse_area`, after the areas before: the length of the longest name found so far,
and its area. -/
def longestArea (normalized : String) (best : Option (ℕ × Area)) : List Area → Option (ℕ × Area)
  | [] => best
  | area :: areas =>
      let found := [area.nameEn, area.nameAr].foldl (fun best candidate =>
        let needle := u.normalize candidate
        if candidate ≠ "" ∧ needle ≠ "" ∧ needle.toList <:+: normalized.toList ∧
            best.all (·.1 < needle.length) then some (needle.length, area)
        else best) best
      longestArea normalized found areas

/-- `parse_area`: the name and the id. -/
def parseArea (catalogue : List Area) (text : String) : Option (String × String) :=
  (u.longestArea (u.normalize text) none catalogue).map fun best => (best.2.nameEn, best.2.id)

end Unicode

/-- `QueryFilters`. -/
structure QueryFilters where
  minPrice : Option ℕ := none
  maxPrice : Option ℕ := none
  area : Option String := none
  areaId : Option String := none
  propertyType : Option String := none
  bedrooms : Option ℕ := none
  compound : Option String := none
  developer : Option String := none
  sourceTypes : List String := []
  lang : Option String := none
  deriving DecidableEq, Repr

/-- `parse_query_filters`. -/
def parseQueryFilters (u : Unicode) (catalogue : List Area) (query : String) :
    Except Raised QueryFilters := do
  let (minimum, maximum) ← u.parsePriceRange query
  let area := u.parseArea catalogue query
  return { minPrice := minimum
           maxPrice := maximum
           area := area.map Prod.fst
           areaId := area.map Prod.snd
           propertyType := u.parsePropertyType query
           bedrooms := u.parseBedrooms query }

/-! ### As a `dict` -/

/-- A value of a `dict`. -/
inductive Value where
  | null
  | int (n : ℕ)
  | text (s : String)
  | texts (values : List String)
  deriving DecidableEq, Repr

/-- A `dict`. -/
abbrev Dict := AList fun _ : String => Value

/-- `value not in (None, "", [], {})`. -/
def Value.isStated (value : Value) : Bool := value ∉ [.null, .text "", .texts []]

/-- A number or `None`. -/
def Value.ofInt : Option ℕ → Value
  | some n => .int n
  | none => .null

/-- A text or `None`. -/
def Value.ofText : Option String → Value
  | some s => .text s
  | none => .null

/-- `as_dict`. -/
def QueryFilters.asDict (filters : QueryFilters) : Dict :=
  List.toAList [
    ⟨"minPrice", .ofInt filters.minPrice⟩,
    ⟨"maxPrice", .ofInt filters.maxPrice⟩,
    ⟨"area", .ofText filters.area⟩,
    ⟨"areaId", .ofText filters.areaId⟩,
    ⟨"propertyType", .ofText filters.propertyType⟩,
    ⟨"bedrooms", .ofInt filters.bedrooms⟩,
    ⟨"compound", .ofText filters.compound⟩,
    ⟨"developer", .ofText filters.developer⟩,
    ⟨"sourceTypes", if filters.sourceTypes = [] then .null else .texts filters.sourceTypes⟩,
    ⟨"lang", .ofText filters.lang⟩]

/-- What a `dict` states under a key. -/
def Dict.stated (d : Dict) (key : String) : Option Value := (d.lookup key).filter Value.isStated

@[simp] theorem Dict.stated_empty (key : String) : Dict.stated ∅ key = none := rfl

/-- A stated value counts, then what else is stated. -/
theorem filter_or_stated (first second : Option Value) :
    ((first.filter Value.isStated).or second).filter Value.isStated =
      (first.filter Value.isStated).or (second.filter Value.isStated) := by
  cases first with
  | none => rfl
  | some value =>
    by_cases h : value.isStated = true
    · rw [Option.filter_some_pos h, Option.some_or, Option.filter_some_pos h, Option.some_or]
    · rw [Option.filter_some_neg (Bool.eq_false_iff.2 h), Option.none_or, Option.none_or]

/-- A number is stated when it is one. -/
theorem Value.filter_ofInt (n : Option ℕ) :
    (some (Value.ofInt n)).filter Value.isStated = n.map .int := by
  cases n with
  | none => rfl
  | some n => rfl

/-- The filters state the minimum that was parsed. -/
theorem stated_asDict_minPrice (filters : QueryFilters) :
    filters.asDict.stated "minPrice" = filters.minPrice.map .int :=
  Value.filter_ofInt filters.minPrice

/-- The filters state the maximum that was parsed. -/
theorem stated_asDict_maxPrice (filters : QueryFilters) :
    filters.asDict.stated "maxPrice" = filters.maxPrice.map .int :=
  Value.filter_ofInt filters.maxPrice

end Rag
end TopChoice
