/-
# Search filters in the URL

`apps/web/src/lib/filters.ts`: `deserializeFilters`, `serializeFilters`, `mergeFilters`
and `filtersEqual`, over the keys of `types/search.ts` and the choices of `types/enums.ts`.

A `SearchFilters` object is a value for some of the keys; the order in which its keys were
set is left out, no function here depends on it.  A finite number is the rational it stands
for, so that `-0` is `0`.  `String` and `Number` are a parameter (`NumberText`), with the law
that they undo each other; `URLSearchParams` is `FormUrlEncoded`.

The writer and the reader go through the keys in lists of their own.  What they say of a key
depends on its kind: each kind of value is read back from what is written for it
(`Legible`), so filters that meet the extra conditions of a few keys survive the URL
(`deserializeFilters_serializeFilters`).
-/

import Mathlib.Data.List.Nodup
import Mathlib.Data.Rat.Floor
import TopChoice.Common.Text
import TopChoice.Lib.FormUrlEncoded

namespace TopChoice
namespace Web

/-! ### Numbers -/

/-- A number of the language. -/
inductive JsNumber where
  | finite (value : ℚ)
  | infinite (negative : Bool)
  | nan
  deriving DecidableEq, Repr

namespace JsNumber

/-- `Number.isFinite`. -/
def isFinite : JsNumber → Bool
  | finite _ => true
  | _ => false

/-- `Math.floor`. -/
def floor : JsNumber → JsNumber
  | finite value => finite ⌊value⌋
  | n => n

/-- `n > 1`. -/
def aboveOne : JsNumber → Bool
  | finite value => decide (1 < value)
  | infinite negative => !negative
  | nan => false

/-- A whole number. -/
def IsInteger (n : JsNumber) : Prop := ∃ z : ℤ, n = finite z

end JsNumber

/-- `String` and `Number`, of numbers and texts. -/
structure NumberText where
  string : JsNumber → String
  number : String → JsNumber

/-- What the language says of them: a number is read back from its text, which holds
neither a comma nor white space. -/
structure NumberText.Lawful (nt : NumberText) : Prop where
  number_string : ∀ n, nt.number (nt.string n) = n
  string_ne_empty : ∀ n, nt.string n ≠ ""
  string_plain : ∀ n, ∀ c ∈ (nt.string n).toList, c ≠ ',' ∧ isWhiteSpace c = false

/-! ### Keys and their values -/

/-- `PROPERTY_TYPES`. -/
def propertyTypes : List String :=
  ["apartment", "villa", "townhouse", "twinhouse", "duplex", "penthouse", "studio", "chalet",
    "office", "retail", "clinic"]

/-- `SALE_TYPES`. -/
def saleTypes : List String := ["primary", "resale", "rent"]

/-- `PROPERTY_STATUSES`. -/
def propertyStatuses : List String := ["available", "reserved", "sold", "off_plan", "delivered"]

/-- `FINISHING_TYPES`. -/
def finishingTypes : List String := ["core_shell", "semi_finished", "fully_finished", "furnished"]

/-- `SEARCH_SORTS`. -/
def searchSorts : List String := ["relevance", "price_asc", "price_desc", "newest", "area_desc"]

/-- `DEFAULT_PAGE_SIZE`. -/
def defaultPageSize : ℚ := 20

/-- The types of the fields; a choice is one of a list of texts. -/
inductive Kind where
  | text
  | choice (members : List String)
  | number
  | texts
  | choices (members : List String)
  | numbers

namespace Kind

/-- The values of a kind. -/
abbrev Value : Kind → Type
  | text => String
  | choice members => { s : String // s ∈ members }
  | number => JsNumber
  | texts => List String
  | choices members => List { s : String // s ∈ members }
  | numbers => List JsNumber

instance : (kind : Kind) → DecidableEq kind.Value
  | text => inferInstanceAs (DecidableEq String)
  | choice members => inferInstanceAs (DecidableEq { s : String // s ∈ members })
  | number => inferInstanceAs (DecidableEq JsNumber)
  | texts => inferInstanceAs (DecidableEq (List String))
  | choices members => inferInstanceAs (DecidableEq (List { s : String // s ∈ members }))
  | numbers => inferInstanceAs (DecidableEq (List JsNumber))

end Kind

/-- `keyof SearchFilters`. -/
inductive Key where
  | q | propertyType | saleType | minPrice | maxPrice | bedrooms | bathrooms | minArea | maxArea
  | areaId | compoundId | developerId | amenities | finishing | status | deliveryBefore
  | maxDownPayment | minInstallmentYears | lat | lng | radiusKm | sort | page | limit
  deriving DecidableEq, Repr

namespace Key

/-- The key as a text. -/
def name : Key → String
  | q => "q"
  | propertyType => "propertyType"
  | saleType => "saleType"
  | minPrice => "minPrice"
  | maxPrice => "maxPrice"
  | bedrooms => "bedrooms"
  | bathrooms => "bathrooms"
  | minArea => "minArea"
  | maxArea => "maxArea"
  | areaId => "areaId"
  | compoundId => "compoundId"
  | developerId => "developerId"
  | amenities => "amenities"
  | finishing => "finishing"
  | status => "status"
  | deliveryBefore => "deliveryBefore"
  | maxDownPayment => "maxDownPayment"
  | minInstallmentYears => "minInstallmentYears"
  | lat => "lat"
  | lng => "lng"
  | radiusKm => "radiusKm"
  | sort => "sort"
  | page => "page"
  | limit => "limit"

/-- The type of the field. -/
def kind : Key → Kind
  | q | deliveryBefore => .text
  | propertyType => .choices propertyTypes
  | saleType => .choice saleTypes
  | finishing => .choices finishingTypes
  | status => .choice propertyStatuses
  | sort => .choice searchSorts
  | bedrooms | bathrooms => .numbers
  | areaId | compoundId | developerId | amenities => .texts
  | _ => .number

/-- `ordered`, the keys as `serializeFilters` goes through them. -/
def ordered : List Key :=
  [q, saleType, propertyType, areaId, compoundId, developerId, minPrice, maxPrice, bedrooms,
    bathrooms, minArea, maxArea, finishing, status, amenities, deliveryBefore, maxDownPayment,
    minInstallmentYears, lat, lng, radiusKm, sort, page, limit]

theorem mem_ordered (k : Key) : k ∈ ordered := by cases k <;> decide

theorem nodup_names : (ordered.map name).Nodup := by decide

end Key

/-- `SearchFilters`. -/
abbrev SearchFilters : Type := (k : Key) → Option k.kind.Value

/-! ### Reading -/

/-- `URLSearchParams`. -/
abbrev SearchParams : Type := List (String × String)

/-- `URLSearchParams.prototype.getAll`. -/
def SearchParams.getAll (params : SearchParams) (name : String) : List String :=
  (params.filter (·.1 = name)).map (·.2)

/-- `URLSearchParams.prototype.get`. -/
def SearchParams.get (params : SearchParams) (name : String) : Option String :=
  (params.getAll name).head?

/-- `entry.split(',')`. -/
def splitCommas (entry : String) : List String := (entry.toList.splitOn ',').map String.ofList

/-- A list with something in it. -/
def nonEmpty {α : Type} : List α → Option (List α)
  | [] => none
  | values => some values

/-- The entries that are members. -/
def members (all : List String) (values : List String) : List { s : String // s ∈ all } :=
  values.filterMap fun s => if h : s ∈ all then some ⟨s, h⟩ else none

/-- A text, where there is one that is not empty. -/
def readText (params : SearchParams) (name : String) : Option String :=
  (params.get name).filter (· ≠ "")

/-- A text, where it is a member. -/
def readChoice (all : List String) (params : SearchParams) (name : String) :
    Option { s : String // s ∈ all } :=
  (readText params name).bind fun s => if h : s ∈ all then some ⟨s, h⟩ else none

/-- `readStringList`. -/
def readStringList (params : SearchParams) (name : String) : Option (List String) :=
  nonEmpty ((((params.getAll name).flatMap splitCommas).map trim).filter (· ≠ "")).eraseDups

/-- The entries of `readStringList` that are members. -/
def readChoices (all : List String) (params : SearchParams) (name : String) :
    Option (List { s : String // s ∈ all }) :=
  (readStringList params name).bind fun values => nonEmpty (members all values)

/-- What `toURLSearchParams` takes: the parameters, an object whose fields hold a text, a
list or `undefined`, a text, or nothing. -/
inductive RawSearchParams where
  | params (params : SearchParams)
  | record (entries : List (String × Option (String ⊕ List String)))
  | text (query : String)
  | nothing

/-- `toURLSearchParams`. -/
def toURLSearchParams (lossy : List UInt8 → String) : RawSearchParams → SearchParams
  | .params params => params
  | .record entries => entries.flatMap fun (key, value) =>
      match value with
      | none => []
      | some (.inl entry) => [(key, entry)]
      | some (.inr values) => values.map fun entry => (key, entry)
  | .text query => FormUrlEncoded.parse lossy query
  | .nothing => []

section

variable (nt : NumberText)

/-- `readNumber`. -/
def readNumber (params : SearchParams) (name : String) : Option JsNumber :=
  match params.get name with
  | none => none
  | some raw => if trim raw = "" then none else (some (nt.number raw)).filter (·.isFinite)

/-- `readNumberList`. -/
def readNumberList (params : SearchParams) (name : String) : Option (List JsNumber) :=
  nonEmpty ((((params.getAll name).flatMap splitCommas).map fun entry =>
    nt.number (trim entry)).filter (·.isFinite)).eraseDups

/-- What `deserializeFilters` reads out of the parameters. -/
def readFilters (params : SearchParams) : SearchFilters
  | .q => ((params.get "q").map trim).filter fun q : String => q ≠ ""
  | .propertyType => readChoices propertyTypes params "propertyType"
  | .saleType => readChoice saleTypes params "saleType"
  | .status => readChoice propertyStatuses params "status"
  | .finishing => readChoices finishingTypes params "finishing"
  | .minPrice => readNumber nt params "minPrice"
  | .maxPrice => readNumber nt params "maxPrice"
  | .minArea => readNumber nt params "minArea"
  | .maxArea => readNumber nt params "maxArea"
  | .bedrooms => readNumberList nt params "bedrooms"
  | .bathrooms => readNumberList nt params "bathrooms"
  | .areaId => readStringList params "areaId"
  | .compoundId => readStringList params "compoundId"
  | .developerId => readStringList params "developerId"
  | .amenities => readStringList params "amenities"
  | .deliveryBefore => readText params "deliveryBefore"
  | .maxDownPayment => readNumber nt params "maxDownPayment"
  | .minInstallmentYears => readNumber nt params "minInstallmentYears"
  | .lat => (readNumber nt params "lat").bind fun lat =>
      (readNumber nt params "lng").map fun _ => lat
  | .lng => (readNumber nt params "lat").bind fun _ => readNumber nt params "lng"
  -- the radius only counts around a point
  | .radiusKm => (readNumber nt params "lat").bind fun _ =>
      (readNumber nt params "lng").bind fun _ => readNumber nt params "radiusKm"
  | .sort => readChoice searchSorts params "sort"
  | .page => ((readNumber nt params "page").filter (·.aboveOne)).map (·.floor)
  | .limit => ((readNumber nt params "limit").filter (· ≠ JsNumber.finite defaultPageSize)).map
      (·.floor)

/-- `deserializeFilters`. -/
def deserializeFilters (lossy : List UInt8 → String) (input : RawSearchParams) : SearchFilters :=
  readFilters nt (toURLSearchParams lossy input)

/-! ### Writing -/

/-- The texts appended for a value. -/
def serialized : (kind : Kind) → kind.Value → List String
  | .text, (s : String) => if s = "" then [] else [s]
  | .choice _, s => if s.1 = "" then [] else [s.1]
  | .number, n => [nt.string n]
  | .texts, values => values
  | .choices _, values => values.map (·.1)
  | .numbers, values => values.map nt.string

/-- The texts appended for a field that may not be set. -/
def entries (f : SearchFilters) (k : Key) : List String :=
  ((f k).map (serialized nt k.kind)).getD []

/-- The parameters `serializeFilters` appends. -/
def searchParams (f : SearchFilters) : SearchParams :=
  Key.ordered.flatMap fun k => (entries nt f k).map fun s => (k.name, s)

/-- `serializeFilters`. -/
def serializeFilters (f : SearchFilters) : String := FormUrlEncoded.print (searchParams nt f)

/-- `filtersEqual`. -/
def filtersEqual (f g : SearchFilters) : Bool := serializeFilters nt f = serializeFilters nt g

end

/-! ### Merging -/

namespace Kind

/-- `''` or `[]`. -/
def isEmptied : (kind : Kind) → kind.Value → Bool
  | text, (s : String) => s = ""
  | choice _, s => s.1 = ""
  | number, _ => false
  | texts, values => values.isEmpty
  | choices _, values => values.isEmpty
  | numbers, values => values.isEmpty

end Kind

/-- `Partial<SearchFilters>`: the keys of a patch, each with a value or `undefined`. -/
abbrev Patch : Type := (k : Key) → Option (Option k.kind.Value)

namespace Patch

/-- `{}`. -/
def empty : Patch := fun _ => none

/-- `{ ...patch, [key]: value }`. -/
def set (patch : Patch) (key : Key) (value : Option key.kind.Value) : Patch :=
  Function.update patch key (some value)

/-- The fields of an object that are set. -/
def ofFilters (f : SearchFilters) : Patch := fun k => (f k).map some

end Patch

/-- A value, where there is one that is not emptied. -/
def kept {kind : Kind} (value : Option kind.Value) : Option kind.Value :=
  value.filter fun v => !kind.isEmptied v

/-- `mergeFilters`. -/
def mergeFilters (base : SearchFilters) (patch : Patch) : SearchFilters := fun k =>
  kept ((patch k).getD (base k))

/-! ### Reading back -/

/-- What a name and the names of other keys hold is told apart. -/
theorem getAll_flatMap (entries : Key → List String) {keys : List Key}
    (hnodup : (keys.map Key.name).Nodup) {k : Key} (hk : k ∈ keys) :
    SearchParams.getAll (keys.flatMap fun k => (entries k).map fun s => (k.name, s)) k.name =
      entries k := by
  have hown (k : Key) : SearchParams.getAll ((entries k).map fun s => (k.name, s)) k.name =
      entries k := by
    simp [SearchParams.getAll, List.filter_map, Function.comp_def]
  have hother (keys : List Key) (hkeys : k.name ∉ keys.map Key.name) :
      SearchParams.getAll (keys.flatMap fun k => (entries k).map fun s => (k.name, s)) k.name =
        [] := by
    rw [SearchParams.getAll, List.map_eq_nil_iff, List.filter_eq_nil_iff]
    intro pair hpair hname
    obtain ⟨other, hother, hmem⟩ := List.mem_flatMap.1 hpair
    obtain ⟨s, -, rfl⟩ := List.mem_map.1 hmem
    exact hkeys (List.mem_map.2 ⟨other, hother, of_decide_eq_true hname⟩)
  have happend (p q : SearchParams) :
      SearchParams.getAll (p ++ q) k.name = p.getAll k.name ++ q.getAll k.name := by
    simp [SearchParams.getAll]
  induction keys with
  | nil => exact absurd hk List.not_mem_nil
  | cons first keys ih =>
    rw [List.map_cons, List.nodup_cons] at hnodup
    rw [List.flatMap_cons, happend]
    by_cases hfirst : k = first
    · subst hfirst
      rw [hown, hother keys hnodup.1, List.append_nil]
    · have hk' : k ∈ keys := (List.mem_cons.1 hk).resolve_left hfirst
      have hne : k.name ∉ [first].map Key.name := by
        intro hmem
        have hname : k.name = first.name := by simpa using hmem
        exact hnodup.1 (hname ▸ List.mem_map_of_mem hk')
      have hnil := hother [first] hne
      rw [List.flatMap_singleton] at hnil
      rw [hnil, List.nil_append, ih hnodup.2 hk']

/-- **Under the name of a key stand the texts of its value.** -/
theorem getAll_searchParams (nt : NumberText) (f : SearchFilters) (k : Key) :
    (searchParams nt f).getAll k.name = entries nt f k :=
  getAll_flatMap _ Key.nodup_names (Key.mem_ordered k)

/-- A text that a list of texts can hold. -/
def PlainText (s : String) : Prop := s ≠ "" ∧ trim s = s ∧ ',' ∉ s.toList

instance (s : String) : Decidable (PlainText s) := inferInstanceAs (Decidable (_ ∧ _ ∧ _))

/-- The values that their kind reads back. -/
def Legible : (kind : Kind) → kind.Value → Prop
  | .text, (s : String) => s ≠ ""
  | .choice _, _ => True
  | .number, n => n.isFinite = true
  | .texts, values => values ≠ [] ∧ values.Nodup ∧ ∀ s ∈ values, PlainText s
  | .choices _, values => values ≠ [] ∧ values.Nodup
  | .numbers, values => values ≠ [] ∧ values.Nodup ∧ ∀ n ∈ values, n.isFinite = true

instance : (kind : Kind) → (v : kind.Value) → Decidable (Legible kind v)
  | .text, (s : String) => inferInstanceAs (Decidable (s ≠ ""))
  | .choice _, _ => inferInstanceAs (Decidable True)
  | .number, n => inferInstanceAs (Decidable (n.isFinite = true))
  | .texts, _ => inferInstanceAs (Decidable (_ ∧ _ ∧ _))
  | .choices _, _ => inferInstanceAs (Decidable (_ ∧ _))
  | .numbers, _ => inferInstanceAs (Decidable (_ ∧ _ ∧ _))

theorem plainText_propertyTypes : ∀ s ∈ propertyTypes, PlainText s := by decide

theorem plainText_finishingTypes : ∀ s ∈ finishingTypes, PlainText s := by decide

theorem eraseDups_of_nodup {α : Type} [DecidableEq α] {values : List α} (h : values.Nodup) :
    values.eraseDups = values := by
  induction values with
  | nil => rfl
  | cons value values ih =>
    rw [List.nodup_cons] at h
    have hkeep : values.filter (fun other => !other == value) = values := by
      rw [List.filter_eq_self]
      intro other hother
      have hne : other ≠ value := fun heq => h.1 (heq ▸ hother)
      simpa using hne
    rw [List.eraseDups_cons, hkeep, ih h.2]

theorem splitCommas_of_not_mem {s : String} (h : ',' ∉ s.toList) : splitCommas s = [s] := by
  rw [splitCommas, List.splitOn_eq_singleton h, List.map_singleton, String.ofList_toList]

theorem flatMap_splitCommas {values : List String} (h : ∀ s ∈ values, ',' ∉ s.toList) :
    values.flatMap splitCommas = values := by
  induction values with
  | nil => rfl
  | cons s values ih =>
    rw [List.flatMap_cons, splitCommas_of_not_mem (h s List.mem_cons_self),
      ih fun t ht => h t (List.mem_cons_of_mem _ ht), List.singleton_append]

theorem nonEmpty_of_ne_nil {α : Type} {values : List α} (h : values ≠ []) :
    nonEmpty values = some values := by
  cases values with
  | nil => exact absurd rfl h
  | cons value values => rfl

theorem trim_of_plain {s : String} (h : ∀ c ∈ s.toList, isWhiteSpace c = false) : trim s = s :=
  stripped_eq_self h

section

variable {params : SearchParams} {name : String}

theorem readStringList_of_plain {values : List String} (hvalues : values ≠ [])
    (hnodup : values.Nodup) (hplain : ∀ s ∈ values, PlainText s)
    (h : params.getAll name = values) : readStringList params name = some values := by
  have htrim : values.map trim = values :=
    List.map_congr_left (fun s hs => (hplain s hs).2.1) |>.trans (List.map_id _)
  have hfilter : values.filter (· ≠ "") = values := by
    rw [List.filter_eq_self]
    exact fun s hs => decide_eq_true (hplain s hs).1
  rw [readStringList, h, flatMap_splitCommas fun s hs => (hplain s hs).2.2, htrim, hfilter,
    eraseDups_of_nodup hnodup, nonEmpty_of_ne_nil hvalues]

theorem readStringList_of_nil (h : params.getAll name = []) :
    readStringList params name = none := by
  rw [readStringList, h]
  rfl

theorem members_map_val {all : List String} (values : List { s : String // s ∈ all }) :
    members all (values.map (·.1)) = values := by
  rw [members, List.filterMap_map]
  refine (List.filterMap_congr fun s _ => ?_).trans List.filterMap_some
  exact dif_pos s.2

variable {nt : NumberText} (hnt : nt.Lawful)

/-! Each reader finds the value that the texts under its name were written for. -/

theorem get_eq {value : Option String} (hvalue : ∀ s ∈ value, s ≠ "")
    (h : params.getAll name = (value.map (serialized nt .text)).getD []) :
    params.get name = value := by
  rw [SearchParams.get, h]
  cases value with
  | none => rfl
  | some s =>
    rw [Option.map_some, Option.getD_some, serialized, if_neg (hvalue s rfl), List.head?_cons]

theorem filter_of_forall {α : Type} {value : Option α} {p : α → Bool}
    (h : ∀ v ∈ value, p v = true) : value.filter p = value := by
  cases value with
  | none => rfl
  | some v => exact Option.filter_some.trans (if_pos (h v rfl))

theorem readText_eq {value : Option String} (hvalue : ∀ s ∈ value, s ≠ "")
    (h : params.getAll name = (value.map (serialized nt .text)).getD []) :
    readText params name = value := by
  rw [readText, get_eq hvalue h, filter_of_forall fun s hs => decide_eq_true (hvalue s hs)]

theorem readChoice_eq {all : List String} (hall : "" ∉ all)
    {value : Option { s : String // s ∈ all }}
    (h : params.getAll name = (value.map (serialized nt (.choice all))).getD []) :
    readChoice all params name = value := by
  have htexts : params.getAll name = ((value.map (·.1)).map (serialized nt .text)).getD [] := by
    rw [h]
    cases value <;> rfl
  have htext : readText params name = value.map (·.1) := by
    refine readText_eq (fun s hs hempty => ?_) htexts
    obtain ⟨member, -, rfl⟩ := Option.map_eq_some_iff.1 hs
    exact hall (hempty ▸ member.2)
  rw [readChoice, htext]
  cases value with
  | none => rfl
  | some s => exact dif_pos s.2

include hnt in
theorem readNumber_eq {value : Option JsNumber} (hvalue : ∀ n ∈ value, n.isFinite = true)
    (h : params.getAll name = (value.map (serialized nt .number)).getD []) :
    readNumber nt params name = value := by
  cases value with
  | none =>
    rw [readNumber, SearchParams.get, h]
    rfl
  | some n =>
    have hget : params.get name = some (nt.string n) := by
      rw [SearchParams.get, h]
      rfl
    have htrim := trim_of_plain fun c hc => (hnt.string_plain n c hc).2
    rw [readNumber, hget]
    dsimp only
    rw [htrim, if_neg (hnt.string_ne_empty n), hnt.number_string, Option.filter_some,
      if_pos (hvalue n rfl)]

theorem readStringList_eq {value : Option (List String)}
    (hvalue : ∀ values ∈ value, Legible .texts values)
    (h : params.getAll name = (value.map (serialized nt .texts)).getD []) :
    readStringList params name = value := by
  cases value with
  | none => exact readStringList_of_nil h
  | some values =>
    obtain ⟨hne, hnodup, hplain⟩ := hvalue values rfl
    exact readStringList_of_plain hne hnodup hplain h

theorem readChoices_eq {all : List String} (hall : ∀ s ∈ all, PlainText s)
    {value : Option (List { s : String // s ∈ all })}
    (hvalue : ∀ values ∈ value, Legible (.choices all) values)
    (h : params.getAll name = (value.map (serialized nt (.choices all))).getD []) :
    readChoices all params name = value := by
  cases value with
  | none =>
    rw [readChoices, readStringList_of_nil h]
    rfl
  | some values =>
    obtain ⟨hne, hnodup⟩ := hvalue values rfl
    have htexts : readStringList params name = some (values.map (·.1)) := by
      refine readStringList_of_plain (mt List.map_eq_nil_iff.1 hne)
        (hnodup.map Subtype.val_injective) (fun s hs => ?_) h
      obtain ⟨member, -, rfl⟩ := List.mem_map.1 hs
      exact hall _ member.2
    rw [readChoices, htexts, Option.bind_some, members_map_val, nonEmpty_of_ne_nil hne]

include hnt in
theorem readNumberList_eq {value : Option (List JsNumber)}
    (hvalue : ∀ values ∈ value, Legible .numbers values)
    (h : params.getAll name = (value.map (serialized nt .numbers)).getD []) :
    readNumberList nt params name = value := by
  cases value with
  | none =>
    rw [readNumberList, h]
    rfl
  | some values =>
    obtain ⟨hne, hnodup, hfinite⟩ := hvalue values rfl
    have hsplit : (params.getAll name).flatMap splitCommas = values.map nt.string := by
      refine (congrArg _ h).trans (flatMap_splitCommas fun s hs hcomma => ?_)
      obtain ⟨n, -, rfl⟩ := List.mem_map.1 hs
      exact (hnt.string_plain n _ hcomma).1 rfl
    have hnumbers : (values.map nt.string).map (fun entry => nt.number (trim entry)) = values := by
      rw [List.map_map]
      refine (List.map_congr_left fun n _ => ?_).trans (List.map_id _)
      rw [Function.comp_apply, trim_of_plain fun c hc => (hnt.string_plain n c hc).2,
        hnt.number_string, id]
    have hfilter : values.filter (·.isFinite) = values := List.filter_eq_self.2 hfinite
    rw [readNumberList, hsplit, hnumbers, hfilter, eraseDups_of_nodup hnodup,
      nonEmpty_of_ne_nil hne]

end

/-! ### What is read is well formed -/

theorem trim_trim (s : String) : trim (trim s) = trim s := by
  have hfront (l : List Char) : ((l.dropWhile isWhiteSpace).rdropWhile isWhiteSpace).dropWhile
      isWhiteSpace = (l.dropWhile isWhiteSpace).rdropWhile isWhiteSpace := by
    rw [List.dropWhile_eq_self_iff]
    intro hpos
    obtain ⟨t, ht⟩ := List.rdropWhile_prefix isWhiteSpace (l.dropWhile isWhiteSpace)
    have hne : l.dropWhile isWhiteSpace ≠ [] := by
      intro hnil
      rw [hnil] at hpos
      exact absurd hpos (by simp)
    have hhead := List.head_dropWhile_not isWhiteSpace hne
    have hsame : ((l.dropWhile isWhiteSpace).rdropWhile isWhiteSpace)[0] =
        (l.dropWhile isWhiteSpace).head hne := by
      rw [List.head_eq_getElem]
      exact (List.getElem_of_eq ht.symm _).trans (List.getElem_append_left hpos) |>.symm
    rw [hsame, Bool.not_eq_true]
    exact hhead
  rw [trim, trim, String.toList_ofList, hfront, List.rdropWhile_idempotent]

theorem mem_trim {s : String} {c : Char} (hc : c ∈ (trim s).toList) : c ∈ s.toList := by
  rw [trim, String.toList_ofList] at hc
  exact List.dropWhile_sublist _ |>.subset ((List.rdropWhile_prefix _ _).subset hc)

theorem not_mem_of_mem_splitOn {α : Type} [DecidableEq α] {a : α} {l : List α} :
    ∀ part ∈ l.splitOn a, a ∉ part := by
  induction l with
  | nil => simp
  | cons x l ih =>
    intro part hpart
    rw [List.splitOn_cons_eq_if_modifyHead] at hpart
    split_ifs at hpart with hx
    · obtain rfl | hpart := List.mem_cons.1 hpart
      · exact List.not_mem_nil
      · exact ih part hpart
    · cases hsplit : l.splitOn a with
      | nil =>
        rw [hsplit] at hpart
        exact absurd hpart List.not_mem_nil
      | cons first parts =>
        rw [hsplit] at hpart ih
        obtain rfl | hpart := List.mem_cons.1 hpart
        · intro hmem
          obtain rfl | hmem := List.mem_cons.1 hmem
          · exact hx (beq_self_eq_true _)
          · exact ih first List.mem_cons_self hmem
        · exact ih part (List.mem_cons_of_mem _ hpart)

theorem not_mem_of_mem_splitCommas {entry s : String} (h : s ∈ splitCommas entry) :
    ',' ∉ s.toList := by
  obtain ⟨part, hpart, rfl⟩ := List.mem_map.1 h
  rw [String.toList_ofList]
  exact not_mem_of_mem_splitOn part hpart

theorem nodup_eraseDups {α : Type} [DecidableEq α] (values : List α) :
    values.eraseDups.Nodup := by
  induction hlength : values.length using Nat.strong_induction_on generalizing values with
  | _ n ih =>
    cases values with
    | nil => exact List.nodup_nil
    | cons value values =>
      rw [List.eraseDups_cons, List.nodup_cons]
      refine ⟨fun hmem => ?_, ih _ ?_ _ rfl⟩
      · have hkept := (List.mem_filter.1 (List.mem_eraseDups.1 hmem)).2
        simp at hkept
      · subst hlength
        exact Nat.lt_succ_of_le (List.length_filter_le _ _)

theorem mem_nonEmpty {α : Type} {values found : List α} (h : found ∈ nonEmpty values) :
    found = values ∧ values ≠ [] := by
  cases values with
  | nil => exact absurd h nofun
  | cons value values => exact ⟨(Option.some.inj h).symm, List.cons_ne_nil _ _⟩

section

variable {params : SearchParams} {name : String}

theorem legible_readStringList {values : List String} (h : values ∈ readStringList params name) :
    Legible .texts values := by
  obtain ⟨rfl, hne⟩ := mem_nonEmpty h
  refine ⟨hne, nodup_eraseDups _, fun s hs => ?_⟩
  obtain ⟨htrimmed, hnonempty⟩ := List.mem_filter.1 (List.mem_eraseDups.1 hs)
  obtain ⟨piece, hpiece, rfl⟩ := List.mem_map.1 htrimmed
  obtain ⟨entry, -, hsplit⟩ := List.mem_flatMap.1 hpiece
  exact ⟨of_decide_eq_true hnonempty, trim_trim piece, fun hcomma =>
    not_mem_of_mem_splitCommas hsplit (mem_trim hcomma)⟩

theorem legible_readChoices {all : List String} {values : List { s : String // s ∈ all }}
    (h : values ∈ readChoices all params name) : Legible (.choices all) values := by
  obtain ⟨texts, htexts, hvalues⟩ := Option.bind_eq_some_iff.1 h
  obtain ⟨rfl, hne⟩ := mem_nonEmpty hvalues
  refine ⟨hne, (legible_readStringList htexts).2.1.filterMap fun s t member hs ht => ?_⟩
  split at hs
  next hs' =>
    split at ht
    next ht' =>
      obtain rfl := Option.some.inj hs
      exact (congrArg Subtype.val (Option.some.inj ht)).symm
    next => exact absurd ht nofun
  next => exact absurd hs nofun

variable {nt : NumberText}

theorem isFinite_readNumber {n : JsNumber} (h : n ∈ readNumber nt params name) :
    n.isFinite = true := by
  rw [readNumber] at h
  split at h
  · exact absurd h nofun
  · split at h
    · exact absurd h nofun
    · exact (Option.filter_eq_some_iff.1 h).2

theorem legible_readNumberList {values : List JsNumber}
    (h : values ∈ readNumberList nt params name) : Legible .numbers values := by
  obtain ⟨rfl, hne⟩ := mem_nonEmpty h
  refine ⟨hne, nodup_eraseDups _, fun n hn => ?_⟩
  exact (List.mem_filter.1 (List.mem_eraseDups.1 hn)).2

end

/-! ### Texts of numbers -/

/-- A whole number in decimal. -/
def decimal (z : ℤ) : List Char :=
  if z < 0 then '-' :: Nat.toDigits 10 z.natAbs else Nat.toDigits 10 z.natAbs

/-- What a decimal is worth. -/
def readDecimal : List Char → ℤ
  | '-' :: digits => -Nat.ofDigitChars 10 digits 0
  | digits => Nat.ofDigitChars 10 digits 0

/-- Texts for which the laws hold: a whole number in decimal, any other one as a fraction. -/
def NumberText.fractions : NumberText where
  string
    | .finite q =>
        String.ofList (if q.den = 1 then decimal q.num else decimal q.num ++ '/' :: decimal q.den)
    | .infinite negative => if negative then "-Infinity" else "Infinity"
    | .nan => "NaN"
  number s :=
    if s = "Infinity" then .infinite false
    else if s = "-Infinity" then .infinite true
    else if s = "NaN" then .nan
    else
      match s.toList.splitOn '/' with
      | [num] => .finite (readDecimal num)
      | [num, den] => .finite (mkRat (readDecimal num) (readDecimal den).toNat)
      | _ => .nan

theorem mem_decimal {z : ℤ} {c : Char} (hc : c ∈ decimal z) : c.isDigit = true ∨ c = '-' := by
  have hdigits {n : ℕ} (hc : c ∈ Nat.toDigits 10 n) : c.isDigit = true :=
    Nat.isDigit_of_mem_toDigits (by decide) (by decide) hc
  unfold decimal at hc
  split at hc
  · exact (List.mem_cons.1 hc).symm.imp_left hdigits
  · exact .inl (hdigits hc)

theorem decimal_ne_nil (z : ℤ) : decimal z ≠ [] := by
  unfold decimal
  split
  · exact List.cons_ne_nil _ _
  · exact Nat.toDigits_ne_nil

theorem readDecimal_decimal (z : ℤ) : readDecimal (decimal z) = z := by
  unfold decimal
  split
  next hneg =>
    rw [readDecimal, Nat.ofDigitChars_ten_toDigits]
    omega
  next hpos =>
    have hsign : ∀ digits, Nat.toDigits 10 z.natAbs ≠ '-' :: digits := by
      intro digits h
      have hminus : '-' ∈ Nat.toDigits 10 z.natAbs := h ▸ List.mem_cons_self
      exact absurd (Nat.isDigit_of_mem_toDigits (by decide) (by decide) hminus) (by decide)
    rw [readDecimal, Nat.ofDigitChars_ten_toDigits]
    · omega
    · exact hsign

theorem mem_string_finite {q : ℚ} {c : Char}
    (hc : c ∈ (NumberText.fractions.string (.finite q)).toList) :
    c.isDigit = true ∨ c = '-' ∨ c = '/' := by
  simp only [NumberText.fractions, String.toList_ofList] at hc
  split at hc
  · exact (mem_decimal hc).imp_right .inl
  · rw [List.mem_append, List.mem_cons] at hc
    obtain hnum | rfl | hden := hc
    · exact (mem_decimal hnum).imp_right .inl
    · exact .inr (.inr rfl)
    · exact (mem_decimal hden).imp_right .inl

theorem code_of_fraction {c : Char} (h : c.isDigit = true ∨ c = '-' ∨ c = '/') :
    45 ≤ c.toNat ∧ c.toNat ≤ 57 := by
  obtain hdigit | rfl | rfl := h
  · have hrange : 48 ≤ c.toNat ∧ c.toNat ≤ 57 := Char.isDigit_iff_toNat.1 hdigit
    omega
  · decide
  · decide

theorem isWhiteSpace_of_code {c : Char} (h : 45 ≤ c.toNat ∧ c.toNat ≤ 122) :
    isWhiteSpace c = false := by
  simp only [isWhiteSpace, List.mem_cons, List.not_mem_nil, or_false, Bool.or_eq_false_iff,
    Bool.and_eq_false_iff, decide_eq_false_iff_not]
  omega

theorem number_string_finite (q : ℚ) :
    NumberText.fractions.number (NumberText.fractions.string (.finite q)) = .finite q := by
  have hword {t : String} (ht : ∃ c ∈ t.toList, 57 < c.toNat) :
      NumberText.fractions.string (.finite q) ≠ t := by
    rintro rfl
    obtain ⟨c, hc, hlarge⟩ := ht
    exact absurd (code_of_fraction (mem_string_finite hc)).2 (by omega)
  have hslash (z : ℤ) : '/' ∉ decimal z := fun hmem => by
    obtain h | h := mem_decimal hmem <;> exact absurd h (by decide)
  rw [NumberText.fractions] at hword ⊢
  dsimp only at hword ⊢
  rw [if_neg (hword ⟨'I', by decide, by decide⟩), if_neg (hword ⟨'I', by decide, by decide⟩),
    if_neg (hword ⟨'N', by decide, by decide⟩), String.toList_ofList]
  split_ifs with hwhole
  · rw [List.splitOn_eq_singleton (hslash _)]
    dsimp only
    rw [readDecimal_decimal]
    exact congrArg JsNumber.finite ((Rat.den_eq_one_iff q).1 hwhole)
  · rw [List.splitOn_append_cons_self, List.splitOn_eq_singleton (hslash _),
      List.splitOn_eq_singleton (hslash _)]
    simp only [List.singleton_append, readDecimal_decimal, Int.toNat_natCast, Rat.mkRat_self]

theorem NumberText.lawful_fractions : NumberText.fractions.Lawful where
  number_string n := by
    cases n with
    | finite q => exact number_string_finite q
    | infinite negative => cases negative <;> rfl
    | nan => rfl
  string_ne_empty n := by
    cases n with
    | finite q =>
      intro hempty
      have hnil := congrArg String.toList hempty
      simp only [NumberText.fractions, String.toList_ofList] at hnil
      split at hnil
      · exact decimal_ne_nil _ hnil
      · simp at hnil
    | infinite negative => cases negative <;> decide
    | nan => decide
  string_plain n c hc := by
    have hcode : 45 ≤ c.toNat ∧ c.toNat ≤ 122 := by
      cases n with
      | finite q =>
        have hfraction := code_of_fraction (mem_string_finite hc)
        omega
      | infinite negative =>
        revert c
        cases negative <;> simp [NumberText.fractions]
      | nan =>
        revert c
        simp [NumberText.fractions]
    refine ⟨?_, isWhiteSpace_of_code hcode⟩
    rintro rfl
    exact absurd hcode.1 (by decide)

/-! ### The round trip -/

/-- Filters whose parameters are read back, the page and the limit as they are: each value
is legible, the point has both coordinates and the radius a point. -/
structure Shareable (f : SearchFilters) : Prop where
  legible : ∀ k, ∀ v ∈ f k, Legible k.kind v
  trimmed : ∀ q ∈ f .q, trim q = q
  located : (f .lat).isSome = (f .lng).isSome
  around : (f .radiusKm).isSome = true → (f .lat).isSome = true
  page : ∀ n ∈ f .page, n.IsInteger
  limit : ∀ n ∈ f .limit, n.IsInteger

/-- The floor of a finite number is whole. -/
theorem JsNumber.isInteger_floor {n : JsNumber} (h : n.isFinite = true) : n.floor.IsInteger := by
  cases n with
  | finite value => exact ⟨⌊value⌋, rfl⟩
  | infinite negative => exact absurd h nofun
  | nan => exact absurd h nofun

/-- A page that is read is a later one, or the first one after a fraction. -/
theorem page_readFilters {nt : NumberText} {params : SearchParams} {n : JsNumber}
    (h : n ∈ readFilters nt params .page) : ∃ z : ℤ, 1 ≤ z ∧ n = .finite z := by
  obtain ⟨page, hpage, rfl⟩ := Option.map_eq_some_iff.1 h
  obtain ⟨hread, habove⟩ := Option.filter_eq_some_iff.1 hpage
  have hfinite := isFinite_readNumber hread
  cases page with
  | finite value =>
    have hlt : 1 < value := of_decide_eq_true habove
    exact ⟨⌊value⌋, Int.le_floor.2 (by exact_mod_cast hlt.le), rfl⟩
  | infinite negative => exact absurd hfinite nofun
  | nan => exact absurd hfinite nofun

/-- **Filters that are read are shareable**, whatever the parameters hold. -/
theorem shareable_readFilters (nt : NumberText) (params : SearchParams) :
    Shareable (readFilters nt params) where
  legible k v hv := by
    cases k with
    | q => exact of_decide_eq_true (Option.filter_eq_some_iff.1 hv).2
    | deliveryBefore => exact of_decide_eq_true (Option.filter_eq_some_iff.1 hv).2
    | propertyType => exact legible_readChoices hv
    | finishing => exact legible_readChoices hv
    | saleType => trivial
    | status => trivial
    | sort => trivial
    | bedrooms => exact legible_readNumberList hv
    | bathrooms => exact legible_readNumberList hv
    | areaId => exact legible_readStringList hv
    | compoundId => exact legible_readStringList hv
    | developerId => exact legible_readStringList hv
    | amenities => exact legible_readStringList hv
    | minPrice => exact isFinite_readNumber hv
    | maxPrice => exact isFinite_readNumber hv
    | minArea => exact isFinite_readNumber hv
    | maxArea => exact isFinite_readNumber hv
    | maxDownPayment => exact isFinite_readNumber hv
    | minInstallmentYears => exact isFinite_readNumber hv
    | lat =>
      obtain ⟨lat, hlat, hlng⟩ := Option.bind_eq_some_iff.1 hv
      obtain ⟨-, -, rfl⟩ := Option.map_eq_some_iff.1 hlng
      exact isFinite_readNumber hlat
    | lng =>
      obtain ⟨-, -, hlng⟩ := Option.bind_eq_some_iff.1 hv
      exact isFinite_readNumber hlng
    | radiusKm =>
      obtain ⟨-, -, hlng⟩ := Option.bind_eq_some_iff.1 hv
      obtain ⟨-, -, hradius⟩ := Option.bind_eq_some_iff.1 hlng
      exact isFinite_readNumber hradius
    | page =>
      obtain ⟨z, -, rfl⟩ := page_readFilters hv
      rfl
    | limit =>
      obtain ⟨n, hn, rfl⟩ := Option.map_eq_some_iff.1 hv
      obtain ⟨z, hz⟩ := JsNumber.isInteger_floor
        (isFinite_readNumber (Option.filter_eq_some_iff.1 hn).1)
      rw [hz]
      rfl
  trimmed q hq := by
    obtain ⟨raw, -, rfl⟩ := Option.map_eq_some_iff.1 (Option.filter_eq_some_iff.1 hq).1
    exact trim_trim raw
  located := by
    simp only [readFilters]
    cases readNumber nt params "lat" <;> cases readNumber nt params "lng" <;> rfl
  around h := by
    simp only [readFilters] at h ⊢
    cases hlat : readNumber nt params "lat" with
    | none =>
      rw [hlat] at h
      exact absurd h nofun
    | some lat =>
      cases hlng : readNumber nt params "lng" with
      | none =>
        rw [hlat, hlng] at h
        exact absurd h nofun
      | some lng => rfl
  page n hn := by
    obtain ⟨z, -, rfl⟩ := page_readFilters hn
    exact ⟨z, rfl⟩
  limit n hn := by
    obtain ⟨limit, hlimit, rfl⟩ := Option.map_eq_some_iff.1 hn
    exact JsNumber.isInteger_floor (isFinite_readNumber (Option.filter_eq_some_iff.1 hlimit).1)

/-- What is read of shareable filters: the first page and the default limit are left out. -/
def SearchFilters.read (f : SearchFilters) : SearchFilters
  | .page => (f .page).filter (·.aboveOne)
  | .limit => (f .limit).filter fun n : JsNumber => n ≠ .finite defaultPageSize
  | k => f k

theorem JsNumber.IsInteger.floor_eq {n : JsNumber} (h : n.IsInteger) : n.floor = n := by
  obtain ⟨z, rfl⟩ := h
  rw [JsNumber.floor, Int.floor_intCast]

theorem map_floor_filter {value : Option JsNumber} (h : ∀ n ∈ value, n.IsInteger)
    (p : JsNumber → Bool) : (value.filter p).map (·.floor) = value.filter p := by
  cases hfilter : value.filter p with
  | none => rfl
  | some n => exact congrArg some (h n (Option.filter_eq_some_iff.1 hfilter).1).floor_eq

/-- A value that is there whenever another one is. -/
theorem bind_of_isSome {α β : Type} {a : Option α} {b : Option β}
    (h : b.isSome = true → a.isSome = true) : (a.bind fun _ => b) = b := by
  cases a with
  | some x => rfl
  | none =>
    cases b with
    | none => rfl
    | some y => exact absurd (h rfl) nofun

theorem bind_map_of_isSome {α β : Type} {a : Option α} {b : Option β}
    (h : a.isSome = true → b.isSome = true) : (a.bind fun x => b.map fun _ => x) = a := by
  cases a with
  | none => rfl
  | some x =>
    obtain ⟨y, hy⟩ := Option.isSome_iff_exists.1 (h rfl)
    rw [hy]
    rfl

/-- **The rule of the round trip.**  One case for each key, by its kind. -/
theorem readFilters_searchParams {nt : NumberText} (hnt : nt.Lawful) {f : SearchFilters}
    (h : Shareable f) : readFilters nt (searchParams nt f) = f.read := by
  have hget := getAll_searchParams nt f
  have hnumber {name : String} {value : Option JsNumber}
      (hvalue : ∀ n ∈ value, n.isFinite = true)
      (hname : (searchParams nt f).getAll name = (value.map (serialized nt .number)).getD []) :=
    readNumber_eq hnt hvalue hname
  have hlat : readNumber nt (searchParams nt f) "lat" = f .lat :=
    hnumber (h.legible .lat) (hget .lat)
  have hlng : readNumber nt (searchParams nt f) "lng" = f .lng :=
    hnumber (h.legible .lng) (hget .lng)
  have hboth : (f .lat).isSome = true → (f .lng).isSome = true := fun hsome => h.located ▸ hsome
  funext k
  cases k with
  | q =>
    have hraw : (searchParams nt f).get "q" = f .q := get_eq (h.legible .q) (hget .q)
    have hq : ((searchParams nt f).get "q").map trim = f .q := by
      refine (congrArg (Option.map trim) hraw).trans ?_
      cases hvalue : f .q with
      | none => rfl
      | some q => exact congrArg some (h.trimmed q hvalue)
    have hne : ∀ q : String, q ∈ f .q → q ≠ "" := h.legible .q
    exact (congrArg _ hq).trans (filter_of_forall (α := String) fun q hmem =>
      decide_eq_true (hne q hmem))
  | propertyType =>
    exact readChoices_eq plainText_propertyTypes (h.legible .propertyType) (hget .propertyType)
  | saleType => exact readChoice_eq (by decide) (hget .saleType)
  | minPrice => exact hnumber (h.legible .minPrice) (hget .minPrice)
  | maxPrice => exact hnumber (h.legible .maxPrice) (hget .maxPrice)
  | bedrooms => exact readNumberList_eq hnt (h.legible .bedrooms) (hget .bedrooms)
  | bathrooms => exact readNumberList_eq hnt (h.legible .bathrooms) (hget .bathrooms)
  | minArea => exact hnumber (h.legible .minArea) (hget .minArea)
  | maxArea => exact hnumber (h.legible .maxArea) (hget .maxArea)
  | areaId => exact readStringList_eq (h.legible .areaId) (hget .areaId)
  | compoundId => exact readStringList_eq (h.legible .compoundId) (hget .compoundId)
  | developerId => exact readStringList_eq (h.legible .developerId) (hget .developerId)
  | amenities => exact readStringList_eq (h.legible .amenities) (hget .amenities)
  | finishing =>
    exact readChoices_eq plainText_finishingTypes (h.legible .finishing) (hget .finishing)
  | status => exact readChoice_eq (by decide) (hget .status)
  | deliveryBefore => exact readText_eq (h.legible .deliveryBefore) (hget .deliveryBefore)
  | maxDownPayment => exact hnumber (h.legible .maxDownPayment) (hget .maxDownPayment)
  | minInstallmentYears =>
    exact hnumber (h.legible .minInstallmentYears) (hget .minInstallmentYears)
  | lat =>
    rw [readFilters, hlat, hlng]
    exact bind_map_of_isSome hboth
  | lng =>
    rw [readFilters, hlat, hlng]
    exact bind_of_isSome fun hsome => h.located ▸ hsome
  | radiusKm =>
    have hradius : readNumber nt (searchParams nt f) "radiusKm" = f .radiusKm :=
      hnumber (h.legible .radiusKm) (hget .radiusKm)
    rw [readFilters, hlat, hlng, hradius]
    have hlng' : ((f .lng).bind fun _ => f .radiusKm) = f .radiusKm :=
      bind_of_isSome fun hsome => hboth (h.around hsome)
    exact (congrArg _ (funext fun _ => hlng')).trans (bind_of_isSome h.around)
  | sort => exact readChoice_eq (by decide) (hget .sort)
  | page =>
    have hpage : readNumber nt (searchParams nt f) "page" = f .page :=
      hnumber (h.legible .page) (hget .page)
    rw [readFilters, hpage]
    exact map_floor_filter h.page _
  | limit =>
    have hlimit : readNumber nt (searchParams nt f) "limit" = f .limit :=
      hnumber (h.legible .limit) (hget .limit)
    rw [readFilters, hlimit]
    exact map_floor_filter h.limit _

/-- The filters that a link keeps as they are: shareable ones whose page is not the first
and whose limit is not the default. -/
structure Canonical (f : SearchFilters) : Prop extends Shareable f where
  later : ∀ n ∈ f .page, ∃ z : ℤ, 2 ≤ z ∧ n = .finite z
  chosen : ∀ n ∈ f .limit, n ≠ .finite defaultPageSize

theorem Canonical.read_eq {f : SearchFilters} (h : Canonical f) : f.read = f := by
  funext k
  cases k with
  | page =>
    refine filter_of_forall fun n hn => ?_
    obtain ⟨z, hz, rfl⟩ := h.later n hn
    have habove : (1 : ℚ) < z := by exact_mod_cast hz
    exact decide_eq_true habove
  | limit =>
    have hne : ∀ n : JsNumber, n ∈ f .limit → n ≠ .finite defaultPageSize := h.chosen
    exact filter_of_forall (α := JsNumber) fun n hn => decide_eq_true (hne n hn)
  | _ => rfl

/-- **A link keeps the filters.** -/
theorem deserializeFilters_serializeFilters {nt : NumberText} (hnt : nt.Lawful)
    (lossy : List UInt8 → String) {f : SearchFilters} (h : Canonical f) :
    deserializeFilters nt lossy (.text (serializeFilters nt f)) = f := by
  rw [deserializeFilters, toURLSearchParams, serializeFilters, FormUrlEncoded.parse_print,
    readFilters_searchParams hnt h.toShareable, h.read_eq]

/-- **Search filters survive the URL**, and filters whose links are equal are equal. -/
theorem filters_survive_url {nt : NumberText} (hnt : nt.Lawful) (lossy : List UInt8 → String)
    {f : SearchFilters} (h : Canonical f) :
    deserializeFilters nt lossy (.text (serializeFilters nt f)) = f ∧
      ∀ g, Canonical g → filtersEqual nt f g = true → f = g := by
  have hback := deserializeFilters_serializeFilters hnt lossy h
  refine ⟨hback, fun g hg hequal => ?_⟩
  have htext : serializeFilters nt f = serializeFilters nt g := of_decide_eq_true hequal
  rw [← hback, htext, deserializeFilters_serializeFilters hnt lossy hg]

/-- A search near a point. -/
def nearbyVillas : SearchFilters
  | .q => some "sea view"
  | .propertyType => some [⟨"villa", by decide⟩, ⟨"chalet", by decide⟩]
  | .bedrooms => some [.finite 3, .finite 4]
  | .amenities => some ["pool"]
  | .lat => some (.finite 30)
  | .lng => some (.finite 31)
  | .radiusKm => some (.finite 5)
  | .sort => some ⟨"price_asc", by decide⟩
  | .page => some (.finite 2)
  | .limit => some (.finite 50)
  | _ => none

theorem canonical_nearbyVillas : Canonical nearbyVillas where
  legible k v hv := by
    have hall : ((nearbyVillas k).all fun v => decide (Legible k.kind v)) = true := by
      cases k <;> decide
    exact of_decide_eq_true ((Option.all_eq_true _ _).1 hall v hv)
  trimmed q hq := by
    cases hq
    decide
  located := rfl
  around _ := rfl
  page n hn := by
    cases hn
    exact ⟨2, rfl⟩
  limit n hn := by
    cases hn
    exact ⟨50, rfl⟩
  later n hn := by
    cases hn
    exact ⟨2, le_rfl, rfl⟩
  chosen n hn := by
    cases hn
    exact (by decide : JsNumber.finite 50 ≠ .finite defaultPageSize)

theorem filters_survive_url_nearby :
    deserializeFilters .fractions (fun _ => "") (.text (serializeFilters .fractions nearbyVillas)) =
        nearbyVillas ∧
      ∀ g, Canonical g → filtersEqual .fractions nearbyVillas g = true → nearbyVillas = g :=
  filters_survive_url NumberText.lawful_fractions (fun _ => "") canonical_nearbyVillas

end Web
end TopChoice
