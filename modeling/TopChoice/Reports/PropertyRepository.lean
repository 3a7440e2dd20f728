/-
# The pipelines over the listings

`PropertyRepository` of `apps/reports-svc/lib/repositories/property_repository.rb`: the stages
that choose the listings of a market summary (`base_pipeline`) and of an export
(`export_pipeline`).  A document is what they read of a listing.  `publishedAt` may hold a date
or a text, and `$convert` makes a date of it; how it reads a text is a parameter.

The facets of a summary, and the columns of an export, are left out.
-/

import TopChoice.Reports.TimeRange
import Mathlib.Data.List.Sort

namespace TopChoice
namespace Reports

/-- What `publishedAt` holds: a date in milliseconds, a text, or nothing. -/
inductive Stamp where
  | date (milliseconds : ℤ)
  | text (s : String)
  | null
  deriving DecidableEq, Repr

/-- A listing in Mongo. -/
structure PropertyDocument where
  id : String
  deletedAt : Option Instant := none
  areaId : Option String := none
  status : Option String := none
  propertyType : Option String := none
  saleType : Option String := none
  compoundId : Option String := none
  developerId : Option String := none
  publishedAt : Stamp := .null
  deriving DecidableEq, Repr

/-- A document with the field `_publishedAtDate` added. -/
structure DatedDocument where
  document : PropertyDocument
  publishedAtDate : Option Instant
  deriving DecidableEq, Repr

/-- The filters of the export. -/
structure PropertyFilters where
  start : Option Instant := none
  stop : Option Instant := none
  areaId : Option String := none
  status : Option String := none
  propertyType : Option String := none
  saleType : Option String := none
  compoundId : Option String := none
  developerId : Option String := none

/-- A field is what a filter asks for, if it asks. -/
def asked (filter field : Option String) : Bool := filter.all fun value => field = some value

/-- The `$match` of a range of dates: a document without a date is in none that has a bound. -/
def inRange (start stop : Option Instant) (doc : DatedDocument) : Bool :=
  (start.all fun t => doc.publishedAtDate.any fun date => t ≤ date) &&
  (stop.all fun t => doc.publishedAtDate.any fun date => date ≤ t)

/-- The order of the export: by date, where none comes first, and then by `_id`. -/
def DatedDocument.le (a b : DatedDocument) : Bool :=
  match a.publishedAtDate, b.publishedAtDate with
  | none, none => a.document.id ≤ b.document.id
  | none, some _ => true
  | some _, none => false
  | some t, some u => t < u || (t = u && a.document.id ≤ b.document.id)

variable (convertText : String → Option ℤ)

/-- `date_conversion`. -/
def dateConversion : Stamp → Option Instant
  | .date milliseconds => some (milliseconds * 1000)
  | .text s => (convertText s).map (· * 1000)
  | .null => none

/-- `$addFields` of `_publishedAtDate`. -/
def addDate (doc : PropertyDocument) : DatedDocument :=
  ⟨doc, dateConversion convertText doc.publishedAt⟩

/-- `base_pipeline`. -/
def basePipeline (areaId : Option String) (start stop : Option Instant)
    (collection : List PropertyDocument) : List DatedDocument :=
  let matching := collection.filter fun doc => doc.deletedAt = none && asked areaId doc.areaId
  (matching.map (addDate convertText)).filter (inRange start stop)

/-- The first `$match` of `export_pipeline`. -/
def PropertyFilters.accepts (filters : PropertyFilters) (doc : PropertyDocument) : Bool :=
  doc.deletedAt = none && asked filters.areaId doc.areaId && asked filters.status doc.status &&
  asked filters.propertyType doc.propertyType && asked filters.saleType doc.saleType &&
  asked filters.compoundId doc.compoundId && asked filters.developerId doc.developerId

/-- `export_pipeline`. -/
def exportPipeline (filters : PropertyFilters) (collection : List PropertyDocument) :
    List DatedDocument :=
  let dated := (collection.filter filters.accepts).map (addDate convertText)
  (dated.filter (inRange filters.start filters.stop)).insertionSort fun a b => a.le b = true

/-- `count`. -/
def exportCount (filters : PropertyFilters) (collection : List PropertyDocument) : ℕ :=
  (exportPipeline convertText filters collection).length

/-- A range with both bounds holds the documents whose date lies between them. -/
theorem inRange_iff {start stop : Instant} {doc : DatedDocument} :
    inRange (some start) (some stop) doc = true ↔
      ∃ t ∈ Set.Icc start stop, doc.publishedAtDate = some t := by
  simp only [inRange, Option.all_some, Bool.and_eq_true, Option.any_eq_true, decide_eq_true_eq]
  constructor
  · rintro ⟨⟨t, ht, hstart⟩, u, hu, hstop⟩
    obtain rfl := Option.some.inj (ht.symm.trans hu)
    exact ⟨t, ⟨hstart, hstop⟩, ht⟩
  · rintro ⟨t, ⟨hstart, hstop⟩, ht⟩
    exact ⟨⟨t, ht, hstart⟩, t, ht, hstop⟩

/-- Without a bound every document is in range. -/
theorem inRange_none (doc : DatedDocument) : inRange none none doc = true := rfl

variable {convertText} {collection : List PropertyDocument} {doc : DatedDocument}

/-- A range picks of the listings of a summary those whose date lies in it. -/
theorem mem_basePipeline_iff {areaId : Option String} {start stop : Instant} :
    doc ∈ basePipeline convertText areaId (some start) (some stop) collection ↔
      doc ∈ basePipeline convertText areaId none none collection ∧
        ∃ t ∈ Set.Icc start stop, doc.publishedAtDate = some t := by
  simp only [basePipeline, List.mem_filter, inRange_iff, inRange_none, and_true]

/-- A range picks of the listings of an export those whose date lies in it. -/
theorem mem_exportPipeline_iff {filters : PropertyFilters} {start stop : Instant} :
    doc ∈ exportPipeline convertText { filters with start := some start, stop := some stop }
        collection ↔
      doc ∈ exportPipeline convertText { filters with start := none, stop := none } collection ∧
        ∃ t ∈ Set.Icc start stop, doc.publishedAtDate = some t := by
  simp only [exportPipeline, List.mem_insertionSort, List.mem_filter, inRange_iff, inRange_none,
    and_true]
  rfl

end Reports
end TopChoice
