/-
# Reports of ranges of days

The routes of `apps/reports-svc/routes/export_routes.rb` and `market_routes.rb` take a range of
days, both inclusive, which `coerce_time_range` makes two bounds of.  The export of leads, the
export of listings and the market summary each apply the bounds to a query of their own.

Each of the three queries answers every range with the records of its days, and partitions a
range that is cut in two, exactly when no record it could select lies within the last second
of a day that a range ends with (`days_partition_iff`): the bound there is the beginning of that
second.
-/

import TopChoice.Reports.LeadRepository
import TopChoice.Reports.PropertyRepository

namespace TopChoice
namespace Reports

variable {parse : String → Option Date} {R : Type}

/-! ### Queries for a range of days -/

/-- A query for the range that two texts give. -/
def selectDays (parse : String → Option Date) (select : Option Instant → Option Instant → List R)
    (fromText toText : String) : Except ValidationError (List R) := do
  let (start, stop) ← coerceTimeRange parse (some fromText) (some toText)
  pure (select start stop)

/-- The rows of `GET admin/export/leads.csv`, by their bounds. -/
def leadRows (db : Database) (filters : LeadFilters) (start stop : Option Instant) :
    List LeadRow :=
  db.select { filters with start := start, stop := stop }

/-- The rows of `GET admin/export/properties.csv`, by their bounds. -/
def propertyRows (convertText : String → Option ℤ) (collection : List PropertyDocument)
    (filters : PropertyFilters) (start stop : Option Instant) : List DatedDocument :=
  exportPipeline convertText { filters with start := start, stop := stop } collection

/-- The listings of `GET market/summary`, by their bounds. -/
def marketListings (convertText : String → Option ℤ) (collection : List PropertyDocument)
    (areaId : Option String) (start stop : Option Instant) : List DatedDocument :=
  basePipeline convertText areaId start stop collection

/-- The instant a lead is selected by. -/
def LeadRow.stamp (row : LeadRow) : Option Instant := some row.lead.createdAt

/-- A range of days from `a` to `c` that is cut behind the day `b`, and the texts of its dates. -/
structure CutRange (parse : String → Option Date) where
  a : Date
  b : Date
  c : Date
  le : a ≤ b
  lt : b < c
  aText : String
  bText : String
  nextText : String
  cText : String
  reads_a : ReadsAs parse aText a
  reads_b : ReadsAs parse bText b
  reads_next : ReadsAs parse nextText (b + 1)
  reads_c : ReadsAs parse cText c

section Partition

variable (select : Option Instant → Option Instant → List R) (stamp : R → Option Instant)
  (range : CutRange parse)

/-- The answers for the two parts of a range share no record, and they are together the answer
for the whole range, which is the records of its days. -/
def Partitions : Prop :=
  ∃ first second whole : List R,
    selectDays parse select range.aText range.bText = .ok first ∧
    selectDays parse select range.nextText range.cText = .ok second ∧
    selectDays parse select range.aText range.cText = .ok whole ∧
    first.Disjoint second ∧
    (∀ r, r ∈ whole ↔ r ∈ first ∨ r ∈ second) ∧
    ∀ r, r ∈ whole ↔ r ∈ select none none ∧
      ∃ t, stamp r = some t ∧ range.a ≤ t.utcDay ∧ t.utcDay ≤ range.c

/-- No record lies within the last second of a day the range is cut behind or ends with. -/
def NoneLate : Prop :=
  ∀ r ∈ select none none, ∀ t, stamp r = some t →
    ¬ utcDays.Late range.b t ∧ ¬ utcDays.Late range.c t

/-- A query keeps of its records those stamped between the bounds of a range of days. -/
def Ranged : Prop :=
  ∀ (r : R) (a b : Date), r ∈ select (some (utcStartOfDay a)) (some (utcEndOfDay b)) ↔
    r ∈ select none none ∧ ∃ t ∈ Set.Icc (utcStartOfDay a) (utcEndOfDay b), stamp r = some t

variable {select stamp}

/-- The answer for a range, as the calendar has it. -/
theorem Ranged.mem_iff (h : Ranged select stamp) {a b : Date} (r : R) :
    r ∈ select (some (utcStartOfDay a)) (some (utcEndOfDay b)) ↔
      r ∈ utcDays.selected {r | r ∈ select none none} stamp a b :=
  h r _ _

variable (select) in
theorem selectDays_eq {fromText toText : String} {a b : Date} (ha : ReadsAs parse fromText a)
    (hb : ReadsAs parse toText b) (hab : a ≤ b) :
    selectDays parse select fromText toText =
      .ok (select (some (utcStartOfDay a)) (some (utcEndOfDay b))) := by
  rw [selectDays, coerceTimeRange_eq ha hb hab]
  rfl

/-- **A query partitions a range** exactly when no record is late in the days it is cut behind
and ends with. -/
theorem Ranged.partitions_iff (h : Ranged select stamp) :
    Partitions select stamp range ↔ NoneLate select stamp range := by
  refine Iff.trans ?_ (utcDays.partition_iff {r | r ∈ select none none} stamp range.le range.lt)
  have hfirst := selectDays_eq select range.reads_a range.reads_b range.le
  have hsecond := selectDays_eq select range.reads_next range.reads_c
    (Int.add_one_le_iff.2 range.lt)
  have hwhole := selectDays_eq select range.reads_a range.reads_c
    (range.le.trans range.lt.le)
  constructor
  · rintro ⟨first, second, whole, hf, hs, hw, hdisjoint, hunion, hdays⟩
    obtain rfl := Except.ok.inj (hfirst.symm.trans hf)
    obtain rfl := Except.ok.inj (hsecond.symm.trans hs)
    obtain rfl := Except.ok.inj (hwhole.symm.trans hw)
    refine ⟨utcDays.disjoint_selected _ _ _, ?_, ?_⟩
    · ext r
      rw [Set.mem_union, ← h.mem_iff, ← h.mem_iff, ← h.mem_iff]
      exact (hunion r).symm
    · ext r
      rw [← h.mem_iff]
      exact hdays r
  · rintro ⟨hdisjoint, hunion, hdays⟩
    refine ⟨_, _, _, hfirst, hsecond, hwhole, ?_, fun r => ?_, fun r => ?_⟩
    · intro r hr hr'
      exact Set.disjoint_left.1 hdisjoint ((h.mem_iff r).1 hr) ((h.mem_iff r).1 hr')
    · rw [h.mem_iff, h.mem_iff, h.mem_iff, ← hunion]
      rfl
    · rw [h.mem_iff, hdays]
      rfl

end Partition

/-! ### The three queries -/

theorem ranged_leadRows (db : Database) (filters : LeadFilters) :
    Ranged (leadRows db filters) LeadRow.stamp := by
  intro row a b
  simp only [leadRows, Database.select, Database.rows, List.mem_insertionSort, List.mem_filter,
    LeadFilters.accepts, Option.all_some, Option.all_none, iso8601_utcStartOfDay,
    iso8601_utcEndOfDay, LeadRow.stamp, Bool.and_eq_true, decide_eq_true_eq, Option.some.injEq,
    exists_eq_right', Set.mem_Icc]
  tauto

theorem ranged_propertyRows (convertText : String → Option ℤ) (collection : List PropertyDocument)
    (filters : PropertyFilters) :
    Ranged (propertyRows convertText collection filters) DatedDocument.publishedAtDate :=
  fun _ _ _ => mem_exportPipeline_iff

theorem ranged_marketListings (convertText : String → Option ℤ)
    (collection : List PropertyDocument) (areaId : Option String) :
    Ranged (marketListings convertText collection areaId) DatedDocument.publishedAtDate :=
  fun _ _ _ => mem_basePipeline_iff

/-- **Ranges of days partition** the leads, the listings of an export and those of a market
summary, each exactly when none it could select lies within the last second of a day the range
is cut behind or ends with. -/
theorem days_partition_iff (range : CutRange parse) (db : Database) (filters : LeadFilters)
    (convertText : String → Option ℤ) (collection : List PropertyDocument)
    (propertyFilters : PropertyFilters) (areaId : Option String) :
    (Partitions (leadRows db filters) LeadRow.stamp range ↔
        NoneLate (leadRows db filters) LeadRow.stamp range) ∧
      (Partitions (propertyRows convertText collection propertyFilters)
          DatedDocument.publishedAtDate range ↔
        NoneLate (propertyRows convertText collection propertyFilters)
          DatedDocument.publishedAtDate range) ∧
      (Partitions (marketListings convertText collection areaId)
          DatedDocument.publishedAtDate range ↔
        NoneLate (marketListings convertText collection areaId)
          DatedDocument.publishedAtDate range) :=
  ⟨(ranged_leadRows db filters).partitions_iff range,
    (ranged_propertyRows convertText collection propertyFilters).partitions_iff range,
    (ranged_marketListings convertText collection areaId).partitions_iff range⟩

/-! ### The last second of a day -/

/-- `Date.parse` of the first days of 2026. -/
def demoParse (s : String) : Option Date :=
  if s = "2026-01-01" then some 20454 else if s = "2026-01-02" then some 20455 else none

theorem reads_first : ReadsAs demoParse "2026-01-01" 20454 :=
  ⟨by decide +kernel, by decide +kernel⟩

theorem reads_second : ReadsAs demoParse "2026-01-02" 20455 :=
  ⟨by decide +kernel, by decide +kernel⟩

/-- Two days, cut behind the first. -/
def twoDays : CutRange demoParse where
  a := 20454
  b := 20454
  c := 20455
  le := by decide
  lt := by decide
  aText := "2026-01-01"
  bText := "2026-01-01"
  nextText := "2026-01-02"
  cText := "2026-01-02"
  reads_a := reads_first
  reads_b := reads_first
  reads_next := reads_second
  reads_c := reads_second

/-- Half a second before the first day ends. -/
def beforeMidnight : Instant := utcStartOfDay 20455 - 500000

/-- A lead of that instant. -/
def lateLead : Lead where
  id := "a"
  name := "Mona Adel"
  phone := "01000000000"
  createdAt := beforeMidnight
  updatedAt := beforeMidnight

/-- The lead alone. -/
def lateLeads : Database where
  leads := [lateLead]
  properties := []
  nodup_leads := by decide
  nodup_properties := List.nodup_nil

/-- A listing of that instant. -/
def lateListing : PropertyDocument where
  id := "65f000000000000000000001"
  publishedAt := .date (beforeMidnight / 1000)

theorem late_beforeMidnight : utcDays.Late twoDays.b beforeMidnight :=
  (late_iff _ _).2 ⟨by decide, by decide⟩

/-- No range of the two days has the lead, or the listing. -/
theorem not_partitions_beforeMidnight :
    ¬ Partitions (leadRows lateLeads {}) LeadRow.stamp twoDays ∧
      ¬ Partitions (propertyRows (fun _ => none) [lateListing] {})
        DatedDocument.publishedAtDate twoDays ∧
      ¬ Partitions (marketListings (fun _ => none) [lateListing] none)
        DatedDocument.publishedAtDate twoDays := by
  refine ⟨?_, ?_, ?_⟩
  · rw [(ranged_leadRows lateLeads {}).partitions_iff]
    exact fun h => (h ⟨lateLead, none⟩ (by decide) _ rfl).1 late_beforeMidnight
  · rw [(ranged_propertyRows _ [lateListing] {}).partitions_iff]
    exact fun h => (h ⟨lateListing, some beforeMidnight⟩ (by decide) _ rfl).1 late_beforeMidnight
  · rw [(ranged_marketListings _ [lateListing] none).partitions_iff]
    exact fun h => (h ⟨lateListing, some beforeMidnight⟩ (by decide) _ rfl).1 late_beforeMidnight

end Reports
end TopChoice
