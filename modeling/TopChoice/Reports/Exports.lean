/-
# The exports of the administrators

`Exports` of `apps/reports-svc/lib/reports/exports.rb`: the columns of the leads and of the
listings, and the streams, which write a line as soon as its row is read.  A column is a text or
nothing; `CSV` writes it (`Csv.generateLine`).

Other services write to the database while leads are exported, and a batch that fails ends the
stream with a line that says so.  Whatever happens, what has been written is a file of which
every row is read back as it was exported, with the line of the failure behind them and nowhere
else (`read_streamLeads`); and an export nothing disturbs holds the leads that were asked for,
one line each (`file_of_undisturbed`).

The texts of a `Float` and of other values of a document are a parameter, and so is how
`Date.parse` reads a text.  The log, and a client that goes away, are left out.
-/

import TopChoice.Lib.Csv
import TopChoice.Reports.JsonCodec
import TopChoice.Reports.LeadRepository

namespace TopChoice
namespace Reports
namespace Exports

open JsonCodec (RubyValue)
open Paging (slice)

/-! ### Times -/

/-- The date of a day since the epoch: years begin in March, in eras of four centuries. -/
def civilDate (days : ℤ) : JsonCodec.Date :=
  let shifted := days + 719468
  let era := shifted / 146097
  let dayOfEra := (shifted - era * 146097).toNat
  let yearOfEra := (dayOfEra - dayOfEra / 1460 + dayOfEra / 36524 - dayOfEra / 146096) / 365
  let dayOfYear := dayOfEra - (365 * yearOfEra + yearOfEra / 4 - yearOfEra / 100)
  let month := (5 * dayOfYear + 2) / 153
  { year := era * 400 + yearOfEra + if month < 10 then 0 else 1
    month := if month < 10 then month + 3 else month - 9
    day := dayOfYear - (153 * month + 2) / 5 + 1 }

/-- `Time#utc`. -/
def utc (t : Instant) : JsonCodec.Time where
  date := civilDate t.utcDay
  hour := (t % day / (3600 * second)).toNat
  minute := (t % (3600 * second) / (60 * second)).toNat
  second := (t % (60 * second) / second).toNat
  subsec := (t % second : ℤ) / 1000000

/-- `Formatting.iso_time`, of a time. -/
def isoTime (t : Instant) : String := (utc t).iso8601

example : isoTime 1767312000250000 = "2026-01-02T00:00:00.250Z" := by decide +kernel

/-! ### Columns -/

/-- `LEAD_HEADERS`. -/
def leadHeaders : List String :=
  ["Lead ID", "Name", "Email", "Phone", "Status", "Source", "Message", "Property ID",
    "Property Slug", "Property Area ID", "Property Price Min", "Property Status", "User ID",
    "Agent ID", "Created At", "Updated At"]

/-- `PROPERTY_HEADERS`. -/
def propertyHeaders : List String :=
  ["Property ID", "Mongo ID", "Reference No", "Slug", "Title (EN)", "Title (AR)",
    "Property Type", "Sale Type", "Status", "Finishing", "Price (EGP)", "Currency",
    "Price Per Meter (EGP)", "Down Payment %", "Installment Years", "Monthly Installment (EGP)",
    "Delivery Date", "Bedrooms", "Bathrooms", "Area (sqm)", "Garden (sqm)", "Floor",
    "Parking Spots", "Area ID", "Area Name", "City", "Governorate", "Address", "Latitude",
    "Longitude", "Compound ID", "Compound Name", "Developer ID", "Developer Name", "Amenities",
    "Featured", "Views", "Favorites", "Leads", "Published At", "Created At", "Updated At",
    "Listing URL"]

/-- The end of a line, to `gsub(/[\r\n]+/, ' ')`. -/
def isBreak (c : Char) : Bool := c = '\r' || c = '\n'

/-- `gsub(/[\r\n]+/, ' ')`: a run of breaks becomes one space. -/
def joinLines : List Char → List Char
  | [] => []
  | c :: text =>
      if isBreak c then
        if (text.head?.map isBreak).getD false then joinLines text else ' ' :: joinLines text
      else c :: joinLines text

/-- `single_line`, of a text. -/
def singleLine (value : String) : String := strip (String.ofList (joinLines value.toList))

/-- `lead_row`. -/
def leadRow (row : LeadRow) : Csv.Row :=
  [some row.lead.id, some row.lead.name, row.lead.email, some row.lead.phone,
    some row.lead.status, some row.lead.source, row.lead.message.map singleLine,
    row.lead.propertyId, row.property.map PropertyEntry.slug,
    row.property.bind PropertyEntry.areaId,
    row.property.map fun entry => toString entry.priceMin,
    row.property.map PropertyEntry.status, row.lead.userId, none,
    some (isoTime row.lead.createdAt), some (isoTime row.lead.updatedAt)]

/-- What the columns of a listing use of Ruby: the text of a value that is no text, number or
boolean, and `Date.parse`. -/
structure Rendering where
  toS : RubyValue → String
  parseDate : String → Option JsonCodec.Date

section PropertyRow

variable (ruby : Rendering) (frontendUrl : String)

/-- A field of a document, or of a document in it. -/
def fetch (doc : RubyValue) (key : String) : RubyValue :=
  match doc with
  | .hash entries => ((entries.find? fun entry => entry.1 = .string key).map Prod.snd).getD .nil
  | _ => .nil

/-- `value || other`. -/
def orElse (value other : RubyValue) : RubyValue :=
  match value with
  | .nil | .bool false => other
  | _ => value

/-- `to_s`. -/
def toS : RubyValue → String
  | .nil => ""
  | .bool b => if b then "true" else "false"
  | .int n => toString n
  | .string s => s
  | .symbol name => name
  | value => ruby.toS value

/-- A value as a field. -/
def field : RubyValue → Csv.Field
  | .nil => none
  | value => some (toS ruby value)

/-- `single_line`. -/
def singleLineField : RubyValue → Csv.Field
  | .nil => none
  | value => some (singleLine (toS ruby value))

/-- `Formatting.short_date`. -/
def shortDate : RubyValue → String
  | .date d => d.iso8601
  | .time t | .dateTime t => t.date.iso8601
  | .string s => if strip s = "" then "" else ((ruby.parseDate s).map fun d => d.iso8601).getD ""
  | _ => ""

/-- `Formatting.iso_time`. -/
def isoTimeField : RubyValue → Csv.Field
  | .nil => none
  | .time t | .dateTime t => some t.iso8601
  | .date d => some d.iso8601
  | .string s => some s
  | value => some (toS ruby value)

/-- `Array(value).join('|')`. -/
def joined : RubyValue → String
  | .nil => ""
  | .array values => "|".intercalate (values.map (toS ruby))
  | value => toS ruby value

/-- `geo.is_a?(Array) ? geo[i] : nil`. -/
def coordinate (geo : RubyValue) (i : ℕ) : RubyValue :=
  match geo with
  | .array values => values.getD i .nil
  | _ => .nil

/-- `property_row`. -/
def propertyRow (doc : RubyValue) : Csv.Row :=
  let price := fetch doc "price"
  let plan := fetch doc "paymentPlan"
  let specs := fetch doc "specs"
  let loc := fetch doc "location"
  let geo := fetch (fetch loc "geo") "coordinates"
  let compound := fetch doc "compound"
  let developer := fetch doc "developer"
  let stats := fetch doc "stats"
  let title := fetch doc "title"
  let id := toS ruby (fetch doc "_id")
  [field ruby (orElse (fetch doc "propertyId") (.string id)), some id,
    field ruby (fetch doc "referenceNo"), field ruby (fetch doc "slug"),
    singleLineField ruby (fetch title "en"), singleLineField ruby (fetch title "ar"),
    field ruby (fetch doc "propertyType"), field ruby (fetch doc "saleType"),
    field ruby (fetch doc "status"), field ruby (fetch doc "finishing"),
    field ruby (fetch price "amount"),
    field ruby (orElse (fetch price "currency") (.string "EGP")),
    field ruby (fetch price "pricePerMeter"), field ruby (fetch plan "downPaymentPercent"),
    field ruby (fetch plan "installmentYears"), field ruby (fetch plan "monthlyInstallment"),
    some (shortDate ruby (fetch plan "deliveryDate")),
    field ruby (fetch specs "bedrooms"), field ruby (fetch specs "bathrooms"),
    field ruby (fetch specs "areaSqm"), field ruby (fetch specs "gardenSqm"),
    field ruby (fetch specs "floor"), field ruby (fetch specs "parkingSpots"),
    field ruby (fetch loc "areaId"), field ruby (fetch loc "areaName"),
    field ruby (fetch loc "city"), field ruby (fetch loc "governorate"),
    singleLineField ruby (fetch loc "address"),
    field ruby (coordinate geo 1), field ruby (coordinate geo 0),
    field ruby (fetch compound "id"), field ruby (fetch compound "name"),
    field ruby (fetch developer "id"), field ruby (fetch developer "name"),
    some (joined ruby (fetch doc "amenities")),
    some (match fetch doc "isFeatured" with | .nil | .bool false => "no" | _ => "yes"),
    field ruby (fetch stats "views"), field ruby (fetch stats "favorites"),
    field ruby (fetch stats "leads"),
    isoTimeField ruby (fetch doc "publishedAt"), isoTimeField ruby (fetch doc "createdAt"),
    isoTimeField ruby (fetch doc "updatedAt"),
    some (frontendUrl ++ "/properties/" ++ toS ruby (fetch doc "slug"))]

end PropertyRow

/-! ### Streams -/

/-- `BOM`. -/
def bom : Char := '\uFEFF'

/-- The row that marks a file as incomplete, by the class of the error. -/
def interrupted (error : String) : Csv.Row := [some ("# export interrupted: " ++ error)]

variable (csv : Csv.Dialect)

/-- The rows of a file. -/
def fileRows (headers : List String) (rows : List Csv.Row) (error : Option String) :
    List Csv.Row :=
  headers.map some :: (rows ++ (error.map interrupted).toList)

/-- The chunks a stream writes for the rows that are yielded to it, and for the error that ends
them. -/
def chunks (headers : List String) (rows : List Csv.Row) (error : Option String) :
    List (List Char) :=
  [bom] :: (fileRows headers rows error).map (Csv.generateLine csv)

/-- `stream_properties`: the documents its cursor has yielded. -/
def streamProperties (ruby : Rendering) (frontendUrl : String) (docs : List RubyValue)
    (error : Option String) : List (List Char) :=
  chunks csv propertyHeaders (docs.map (propertyRow ruby frontendUrl)) error

/-- `stream_leads` under way: where `each` stands, the chunks written, and the class of the
error that ended it. -/
structure LeadStream where
  source : Export
  out : List (List Char)
  error : Option String := none

/-- What happens next: other services write, a batch is read, or fails. -/
inductive StreamEvent where
  | commit (db : Database)
  | batch
  | fail (error : String)

/-- The stream has written its header. -/
def LeadStream.start (db : Database) : LeadStream where
  source := .start db
  out := [[bom], Csv.generateLine csv (leadHeaders.map some)]

section StreamLeads

variable (filters : LeadFilters) (batchSize : ℕ) (maxRows : Option ℕ)

/-- What an event does: the rows of a batch are written as they are read. -/
def LeadStream.step (s : LeadStream) : StreamEvent → LeadStream
  | .commit db => { s with source := s.source.step filters batchSize maxRows (.commit db) }
  | .batch =>
      if s.error.isSome then s
      else
        let next := s.source.step filters batchSize maxRows .batch
        let rows := next.emitted.drop s.source.emitted.length
        { s with source := next
                 out := s.out ++ rows.map fun row => Csv.generateLine csv (leadRow row) }
  | .fail error =>
      if s.source.done || s.error.isSome then s
      else { s with out := s.out ++ [Csv.generateLine csv (interrupted error)]
                    error := some error }

/-- A stream, event after event. -/
def LeadStream.run (s : LeadStream) (events : List StreamEvent) : LeadStream :=
  events.foldl (LeadStream.step csv filters batchSize maxRows) s

end StreamLeads

/-- What a reader of CSV makes of the chunks that reached it: behind the mark of the encoding,
rows. -/
def readFile (out : List (List Char)) : Option (List Csv.Row) :=
  match out.flatten with
  | c :: text => if c = bom then Csv.parse text else none
  | [] => none

/-! ### What is written is read back -/

section Written

variable {csv} {filters : LeadFilters} {batchSize : ℕ} {maxRows : Option ℕ}

theorem leadRow_ne_nil (row : LeadRow) : leadRow row ≠ [] := List.cons_ne_nil _ _

theorem propertyRow_ne_nil (ruby : Rendering) (frontendUrl : String) (doc : RubyValue) :
    propertyRow ruby frontendUrl doc ≠ [] := List.cons_ne_nil _ _

/-- No row of a file is empty, if those that are exported are not. -/
theorem fileRows_ne_nil {headers : List String} {rows : List Csv.Row} (hheaders : headers ≠ [])
    (hrows : ∀ row ∈ rows, row ≠ []) (error : Option String) :
    ∀ row ∈ fileRows headers rows error, row ≠ [] := by
  intro row hrow
  rcases List.mem_cons.1 hrow with rfl | hrow
  · simpa using hheaders
  · rcases List.mem_append.1 hrow with hrow | hrow
    · exact hrows row hrow
    · obtain ⟨name, -, rfl⟩ := Option.map_eq_some_iff.1 (Option.mem_toList.1 hrow)
      exact List.cons_ne_nil _ _

/-- **The chunks of a stream are a file**, with the rows that were yielded. -/
theorem readFile_chunks {headers : List String} {rows : List Csv.Row} (hheaders : headers ≠ [])
    (hrows : ∀ row ∈ rows, row ≠ []) (error : Option String) :
    readFile (chunks csv headers rows error) = some (fileRows headers rows error) := by
  have hparse := Csv.parse_flatMap_generateLine csv (fileRows_ne_nil hheaders hrows error)
  rw [List.flatMap_def] at hparse
  simpa [readFile, chunks] using hparse

/-- The listings are read back. -/
theorem readFile_streamProperties (ruby : Rendering) (frontendUrl : String)
    (docs : List RubyValue) (error : Option String) :
    readFile (streamProperties csv ruby frontendUrl docs error) =
      some (fileRows propertyHeaders (docs.map (propertyRow ruby frontendUrl)) error) := by
  refine readFile_chunks (List.cons_ne_nil _ _) (fun row hrow => ?_) error
  obtain ⟨doc, -, rfl⟩ := List.mem_map.1 hrow
  exact propertyRow_ne_nil ruby frontendUrl doc

/-- A batch adds to the rows that were read. -/
theorem emitted_start (e : Export) :
    e.emitted <+: (e.step filters batchSize maxRows .batch).emitted := by
  rw [Export.step]
  split_ifs
  · exact List.prefix_rfl
  · unfold Export.readBatch
    dsimp only
    split_ifs
    · exact List.prefix_rfl
    · exact List.prefix_append _ _
    · exact List.prefix_append _ _

/-- What a stream has written is its header, a line for each row read and the line of the
error. -/
def LeadStream.Written (csv : Csv.Dialect) (s : LeadStream) : Prop :=
  s.out = chunks csv leadHeaders (s.source.emitted.map leadRow) s.error

theorem LeadStream.Written.step {s : LeadStream} (h : s.Written csv) (event : StreamEvent) :
    (s.step csv filters batchSize maxRows event).Written csv := by
  cases event with
  | commit db => exact h
  | batch =>
    rw [LeadStream.step]
    split_ifs with herror
    · exact h
    · -- the lines of the rows that are new stand behind those written
      have hnone : s.error = none := Option.not_isSome_iff_eq_none.1 herror
      obtain ⟨rows, hrows⟩ := @emitted_start filters batchSize maxRows s.source
      simp only [Written, ← hrows, List.drop_left] at h ⊢
      rw [h, hnone]
      simp [chunks, fileRows]
  | fail error =>
    rw [LeadStream.step]
    split_ifs with hquiet
    · exact h
    · have hnone : s.error = none := by
        rw [Bool.or_eq_true, not_or] at hquiet
        exact Option.not_isSome_iff_eq_none.1 hquiet.2
      rw [Written] at h ⊢
      rw [h, hnone]
      simp [chunks, fileRows]

theorem LeadStream.Written.run {s : LeadStream} (h : s.Written csv) (events : List StreamEvent) :
    (s.run csv filters batchSize maxRows events).Written csv := by
  induction events generalizing s with
  | nil => exact h
  | cons event rest ih => exact ih (h.step event)

theorem LeadStream.Written.start (db : Database) : (LeadStream.start csv db).Written csv := rfl

/-- The row of an error has one field, those of the leads and the header have more. -/
theorem mem_fileRows_interrupted {leads : List LeadRow} {error : Option String} {name : String}
    (h : interrupted name ∈ fileRows leadHeaders (leads.map leadRow) error) :
    error = some name := by
  rcases List.mem_cons.1 h with h | h
  · exact absurd (congrArg List.length h) (by simp [leadHeaders, interrupted])
  · rcases List.mem_append.1 h with h | h
    · obtain ⟨row, -, hrow⟩ := List.mem_map.1 h
      exact absurd (congrArg List.length hrow) (by simp [leadRow, interrupted])
    · obtain ⟨other, hother, heq⟩ := Option.map_eq_some_iff.1 (Option.mem_toList.1 h)
      have htext := String.append_right_inj _ |>.1 (Option.some.inj (List.cons.inj heq).1)
      rw [hother, htext]

variable (csv) (filters) (batchSize) (maxRows) in
/-- **What a stream has written is a file**, whatever has happened: its rows are read back as
they were exported, also of what a connection that broke let through, and it has the row of an
error exactly when the stream failed. -/
theorem read_streamLeads (db : Database) (events : List StreamEvent) :
    let s := (LeadStream.start csv db).run csv filters batchSize maxRows events
    let file := fileRows leadHeaders (s.source.emitted.map leadRow) s.error
    readFile s.out = some file ∧
      (∀ text, bom :: text <+: s.out.flatten →
        (({} : Csv.Reader).feed text).rows <+: file) ∧
      ∀ name, interrupted name ∈ file ↔ s.error = some name := by
  intro s file
  have hout : s.out = chunks csv leadHeaders (s.source.emitted.map leadRow) s.error :=
    (LeadStream.Written.start db).run events
  have hrows : ∀ row ∈ s.source.emitted.map leadRow, row ≠ [] := by
    intro row hrow
    obtain ⟨lead, -, rfl⟩ := List.mem_map.1 hrow
    exact leadRow_ne_nil lead
  have hheaders : leadHeaders ≠ [] := List.cons_ne_nil _ _
  refine ⟨?_, fun text htext => ?_, fun name => ⟨mem_fileRows_interrupted, fun herror => ?_⟩⟩
  · rw [hout]
    exact readFile_chunks hheaders hrows s.error
  · refine Csv.rows_prefix_of_cut (fileRows_ne_nil hheaders hrows s.error) (d := csv) ?_
    rw [hout] at htext
    have hcut := (List.cons_prefix_cons.1 htext).2
    rwa [List.flatMap_def]
  · have hmark : interrupted name ∈ (s.error.map interrupted).toList := by
      rw [herror]
      exact List.mem_singleton_self _
    exact List.mem_cons_of_mem _ (List.mem_append_right _ hmark)

end Written

/-! ### Exports that nothing disturbs -/

section Undisturbed

variable {csv} {filters : LeadFilters} {batchSize : ℕ} {maxRows : Option ℕ} {db : Database}

/-- The first rows, as many as may be exported. -/
def capped (maxRows : Option ℕ) (rows : List LeadRow) : List LeadRow :=
  match maxRows with
  | some n => rows.take n
  | none => rows

/-- An export of a database that stays as it is: it has read the first rows, and all it may read
once it is done. -/
structure Undisturbed (filters : LeadFilters) (maxRows : Option ℕ) (db : Database) (e : Export) :
    Prop where
  db_eq : e.db = db
  offset_le : e.offset ≤ (db.select filters).length
  offset_le_max : ∀ n, maxRows = some n → e.offset ≤ n
  emitted : e.done = false → e.emitted = (db.select filters).take e.offset
  whole : e.done = true → e.emitted = capped maxRows (db.select filters)

theorem Undisturbed.start : Undisturbed filters maxRows db (.start db) where
  db_eq := rfl
  offset_le := Nat.zero_le _
  offset_le_max _ _ := Nat.zero_le _
  emitted _ := (List.take_zero (l := db.select filters)).symm
  whole h := absurd h Bool.false_ne_true

/-- A round of the loop reads on, or is the last one. -/
theorem Undisturbed.readBatch (hbatch : 0 < batchSize) {e : Export}
    (h : Undisturbed filters maxRows db e) (hdone : e.done = false) :
    Undisturbed filters maxRows db (e.readBatch filters batchSize maxRows) ∧
      ((e.readBatch filters batchSize maxRows).done = false →
        e.offset < (e.readBatch filters batchSize maxRows).offset) := by
  obtain ⟨hdb, hle, hmax, hemitted, -⟩ := h
  have hread := hemitted hdone
  have hlength : e.emitted.length = e.offset := by
    rw [hread, List.length_take]
    omega
  have hslice (limit : ℕ) : e.emitted ++ slice e.offset limit (db.select filters) =
      (db.select filters).take (e.offset + limit) := by
    rw [hread, slice, List.take_add]
  -- the limit keeps below the maximum, and is zero only there
  have hlimit : e.limit batchSize maxRows = 0 → maxRows = some e.offset := by
    intro hzero
    cases maxRows with
    | none => exact absurd hzero hbatch.ne'
    | some n =>
      have := hmax n rfl
      simp only [Export.limit, hlength] at hzero
      congr 1
      omega
  have hroom (n : ℕ) (hn : maxRows = some n) : e.offset + e.limit batchSize maxRows ≤ n := by
    subst hn
    have := hmax n rfl
    simp only [Export.limit, hlength]
    omega
  rw [Export.readBatch, hdb]
  dsimp only
  split_ifs with hzero hshort
  · refine ⟨⟨rfl, hle, hmax, fun h => absurd h (by simp), fun _ => ?_⟩,
      fun h => absurd h (by simp)⟩
    rw [hlimit hzero]
    exact hread
  · refine ⟨⟨rfl, hle, hmax, fun h => absurd h (by simp), fun _ => ?_⟩,
      fun h => absurd h (by simp)⟩
    -- a short batch reaches the end of the rows
    have hend : (db.select filters).length ≤ e.offset + e.limit batchSize maxRows := by
      rw [slice, List.length_take, List.length_drop] at hshort
      omega
    have hall := (hslice (e.limit batchSize maxRows)).trans (List.take_of_length_le hend)
    refine hall.trans ?_
    cases hmaxRows : maxRows with
    | none => rfl
    | some n => exact (List.take_of_length_le (hend.trans (hroom n hmaxRows))).symm
  · have hfull : (slice e.offset (e.limit batchSize maxRows) (db.select filters)).length =
        e.limit batchSize maxRows := by
      rw [slice, List.length_take, List.length_drop] at hshort ⊢
      omega
    have hwithin : e.offset + e.limit batchSize maxRows ≤ (db.select filters).length := by
      rw [slice, List.length_take, List.length_drop] at hfull
      omega
    rw [hfull]
    refine ⟨⟨rfl, hwithin, hroom, fun _ => hslice _, fun h => ?_⟩, fun _ => ?_⟩
    · exact absurd (hdone.symm.trans h) Bool.false_ne_true
    · show e.offset < e.offset + e.limit batchSize maxRows
      omega

/-- Batches, one after the other: after each the export is done, or has read one row more. -/
theorem undisturbed_run (hbatch : 0 < batchSize) (n : ℕ) :
    let s := (LeadStream.start csv db).run csv filters batchSize maxRows
      (List.replicate n .batch)
    Undisturbed filters maxRows db s.source ∧ s.error = none ∧
      (s.source.done = false → n ≤ s.source.offset) := by
  induction n with
  | zero => exact ⟨.start, rfl, fun _ => Nat.zero_le _⟩
  | succ n ih =>
    obtain ⟨hsource, herror, hprogress⟩ := ih
    rw [List.replicate_succ', LeadStream.run, List.foldl_append]
    simp only [List.foldl_cons, List.foldl_nil]
    rw [← LeadStream.run] at *
    generalize (LeadStream.start csv db).run csv filters batchSize maxRows
      (List.replicate n .batch) = s at *
    have hstep : (s.step csv filters batchSize maxRows .batch).source =
        s.source.step filters batchSize maxRows .batch := by
      rw [LeadStream.step, herror]
      rfl
    have hnone : (s.step csv filters batchSize maxRows .batch).error = none := by
      simp [LeadStream.step, herror]
    rw [hstep, hnone]
    cases hdone : s.source.done with
    | true =>
      have hsame : s.source.step filters batchSize maxRows .batch = s.source := if_pos hdone
      rw [hsame]
      exact ⟨hsource, rfl, fun h => absurd (hdone.symm.trans h) nofun⟩
    | false =>
      have hround : s.source.step filters batchSize maxRows .batch =
          s.source.readBatch filters batchSize maxRows := by
        rw [Export.step, hdone]
        rfl
      obtain ⟨hnext, hmore⟩ := hsource.readBatch hbatch hdone
      rw [hround]
      refine ⟨hnext, rfl, fun h => ?_⟩
      have := hprogress hdone
      have := hmore h
      omega

variable (csv) (filters) (maxRows) (db) in
/-- **An export that nothing disturbs** ends, and its file holds the leads that were asked for,
oldest first and one row each, as many as may be exported. -/
theorem file_of_undisturbed (hbatch : 0 < batchSize) {n : ℕ}
    (hn : (db.select filters).length < n) :
    let s := (LeadStream.start csv db).run csv filters batchSize maxRows
      (List.replicate n .batch)
    s.source.done = true ∧ readFile s.out =
      some (leadHeaders.map some :: (capped maxRows (db.select filters)).map leadRow) := by
  intro s
  obtain ⟨hsource, herror, hprogress⟩ := @undisturbed_run csv filters batchSize maxRows db hbatch n
  have hdone : s.source.done = true := by
    by_contra hnot
    have := hprogress (Bool.not_eq_true _ |>.mp hnot)
    have := hsource.offset_le
    omega
  have hread := (read_streamLeads csv filters batchSize maxRows db (List.replicate n .batch)).1
  refine ⟨hdone, hread.trans ?_⟩
  show some (fileRows leadHeaders (s.source.emitted.map leadRow) s.error) = _
  rw [hsource.whole hdone, show s.error = none from herror]
  simp [fileRows]

/-- A lead with a name that has to be quoted, and a message of two lines. -/
def demoLead : Lead where
  id := "6f1d3f6e-6a1f-4a3a-9d0e-5c1f2b3a4d5e"
  name := "Adel, Mona"
  phone := "+201001234567"
  email := some ""
  message := some "I would like a viewing\nnext week"
  createdAt := 1767225600000000
  updatedAt := 1767225600000000

def demoDatabase : Database where
  leads := [demoLead]
  properties := []
  nodup_leads := List.nodup_singleton _
  nodup_properties := List.nodup_nil

theorem file_of_undisturbed_demo :
    let s := (LeadStream.start .minimal demoDatabase).run .minimal {} 500 (some 50000)
      (List.replicate 2 .batch)
    s.source.done = true ∧ readFile s.out =
      some (leadHeaders.map some :: (capped (some 50000) (demoDatabase.select {})).map leadRow) :=
  @file_of_undisturbed .minimal {} 500 (some 50000) demoDatabase (by decide) 2 (by decide)

end Undisturbed

end Exports
end Reports
end TopChoice
