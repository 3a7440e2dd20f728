/-
# Day ranges of the reports

`coerce_date` and `coerce_time_range` of `apps/reports-svc/lib/helpers/params.rb`.  An instant
is a number of microseconds since the epoch and a date the number of its day in UTC; how
`Date.parse` reads a text is a parameter.

A range begins at the first instant of a day and ends at the last whole second of a day, so
what lies after the beginning of that second is late (`late_iff`).
-/

import TopChoice.Lib.Calendar
import Mathlib.Data.List.DropRight

namespace TopChoice
namespace Reports

/-! ### Instants and days -/

/-- Microseconds since the epoch. -/
abbrev Instant := ℤ

/-- A date, as the number of its day since the epoch. -/
abbrev Date := ℤ

/-- A second. -/
def second : Instant := 1000000

/-- A day. -/
def day : Instant := 86400 * second

/-- The day of an instant in UTC. -/
def Instant.utcDay (t : Instant) : Date := t / day

/-- `utc_start_of_day`. -/
def utcStartOfDay (date : Date) : Instant := date * day

/-- `utc_end_of_day`. -/
def utcEndOfDay (date : Date) : Instant := date * day + 86399 * second

/-- `iso8601`, read back: the whole seconds of an instant. -/
def Instant.iso8601 (t : Instant) : Instant := t / second * second

/-! ### Coercion -/

/-- `ValidationError`: its message, and the fields it names with what is wrong with them. -/
structure ValidationError where
  message : String
  details : List (String × String)
  deriving DecidableEq, Repr

/-- `ValidationError.field`. -/
def ValidationError.field (field message : String) : ValidationError :=
  ⟨field ++ " " ++ message, [(field, message)]⟩

/-- `String#strip`. -/
def strip (s : String) : String :=
  let blank (c : Char) : Bool := c.toNat = 0 || (9 ≤ c.toNat && c.toNat ≤ 13) || c.toNat = 32
  String.ofList ((s.toList.dropWhile blank).rdropWhile blank)

/-- `blank?`. -/
def isBlank (value : Option String) : Bool := value.all fun s => strip s = ""

variable (parse : String → Option Date)

/-- `coerce_date`, of a field that is neither required nor has a default. -/
def coerceDate (value : Option String) (field : String) : Except ValidationError (Option Date) :=
  if isBlank value then .ok none
  else
    match parse (strip (value.getD "")) with
    | some date => .ok (some date)
    | none => .error (.field field "must be an ISO date (YYYY-MM-DD)")

/-- `coerce_time_range`. -/
def coerceTimeRange (fromValue toValue : Option String) :
    Except ValidationError (Option Instant × Option Instant) := do
  let from? ← coerceDate parse fromValue "from"
  let to? ← coerceDate parse toValue "to"
  let start := from?.map utcStartOfDay
  let stop := to?.map utcEndOfDay
  if (start.bind fun t => stop.map fun u => decide (u < t)).getD false then
    .error ⟨"The \x60from\x60 date must not be after the \x60to\x60 date.",
      [("from", "must be before \x60to\x60")]⟩
  else .ok (start, stop)

/-- A text is read as a date. -/
def ReadsAs (text : String) (date : Date) : Prop :=
  isBlank (some text) = false ∧ parse (strip text) = some date

variable {parse}

theorem ReadsAs.coerceDate {text : String} {date : Date} (h : ReadsAs parse text date)
    (field : String) : coerceDate parse (some text) field = .ok (some date) := by
  rw [Reports.coerceDate, if_neg (by rw [h.1]; exact Bool.false_ne_true)]
  have hparse : parse (strip ((some text).getD "")) = some date := h.2
  rw [hparse]

/-! ### The calendar of the ranges -/

/-- The days in UTC, and what `coerce_time_range` takes for their first and last instants. -/
def utcDays : Calendar Instant where
  cell := Instant.utcDay
  first := utcStartOfDay
  last := utcEndOfDay
  gc date t := by
    rw [utcStartOfDay, Instant.utcDay]
    exact (Int.le_ediv_iff_mul_le (by decide)).symm
  cell_last date := by
    simp only [Instant.utcDay, utcEndOfDay, day, second]
    omega

/-- **The late instants** of a day are those within its last second. -/
theorem late_iff (date : Date) (t : Instant) :
    utcDays.Late date t ↔ utcEndOfDay date < t ∧ t < utcStartOfDay (date + 1) := by
  simp only [Calendar.Late, utcDays, Instant, Instant.utcDay, utcEndOfDay, utcStartOfDay, day,
    second]
  omega

theorem utcStartOfDay_le_utcEndOfDay {a b : Date} (h : a ≤ b) :
    utcStartOfDay a ≤ utcEndOfDay b := by
  simp only [Date, Instant, utcStartOfDay, utcEndOfDay, day, second] at h ⊢
  omega

/-- The bounds are whole seconds. -/
theorem iso8601_utcStartOfDay (date : Date) : (utcStartOfDay date).iso8601 = utcStartOfDay date := by
  simp only [Instant, Instant.iso8601, utcStartOfDay, day, second]
  omega

theorem iso8601_utcEndOfDay (date : Date) : (utcEndOfDay date).iso8601 = utcEndOfDay date := by
  simp only [Instant, Instant.iso8601, utcEndOfDay, day, second]
  omega

/-- **A range of two dates** that are in order. -/
theorem coerceTimeRange_eq {fromText toText : String} {a b : Date} (ha : ReadsAs parse fromText a)
    (hb : ReadsAs parse toText b) (hab : a ≤ b) :
    coerceTimeRange parse (some fromText) (some toText) =
      .ok (some (utcStartOfDay a), some (utcEndOfDay b)) := by
  have hnot : decide (utcEndOfDay b < utcStartOfDay a) = false :=
    decide_eq_false (utcStartOfDay_le_utcEndOfDay hab).not_gt
  rw [coerceTimeRange, ha.coerceDate, hb.coerceDate]
  show (if decide (utcEndOfDay b < utcStartOfDay a) = true then _ else _) = _
  rw [hnot]
  rfl

end Reports
end TopChoice
