/-
# The export of leads

`LeadRepository` of `apps/reports-svc/lib/repositories/lead_repository.rb`: the query of the
leads, with the index entry of the property each is about, and `each`, which reads it in
batches.  A batch is a statement of its own with a limit and an offset, so it sees the
database as other services have left it by then.

The columns are those of the schema; leads have none of the names looked for as `agent_id`.

A lead that is there all along is read once for each time it comes to stand before the
offset: by a batch, or because leads before it went away (then it is skipped), and again when
leads came before it and pushed it back over the offset.  So it is read exactly once when it
is pushed back as often as it is skipped (`read_once_iff`).
-/

import TopChoice.Lib.Paging
import TopChoice.Reports.TimeRange
import Mathlib.Data.String.Basic

namespace TopChoice
namespace Reports

open Paging

/-! ### Tables -/

/-- A row of `leads`. -/
structure Lead where
  id : String
  name : String
  phone : String
  email : Option String := none
  status : String := "new"
  source : String := "website"
  message : Option String := none
  propertyId : Option String := none
  userId : Option String := none
  createdAt : Instant
  updatedAt : Instant
  deriving DecidableEq, Repr

/-- A row of `property_index`. -/
structure PropertyEntry where
  id : String
  slug : String
  areaId : Option String := none
  priceMin : ℤ
  status : String
  deriving DecidableEq, Repr

/-- The tables, with their primary keys. -/
structure Database where
  leads : List Lead
  properties : List PropertyEntry
  nodup_leads : (leads.map Lead.id).Nodup
  nodup_properties : (properties.map PropertyEntry.id).Nodup

/-- A row of the export: a lead, and the property it is about. -/
structure LeadRow where
  lead : Lead
  property : Option PropertyEntry
  deriving DecidableEq, Repr

/-! ### The query -/

/-- The filters of the export. -/
structure LeadFilters where
  start : Option Instant := none
  stop : Option Instant := none
  status : Option String := none
  areaId : Option String := none
  propertyId : Option String := none

/-- `build_join`: the property of a lead. -/
def Database.join (db : Database) (lead : Lead) : LeadRow where
  lead := lead
  property := lead.propertyId.bind fun id => db.properties.find? fun entry => entry.id = id

/-- The conditions of `build_query`; the times are compared as `iso8601` writes them. -/
def LeadFilters.accepts (filters : LeadFilters) (row : LeadRow) : Bool :=
  (filters.start.all fun start => start.iso8601 ≤ row.lead.createdAt) &&
  (filters.stop.all fun stop => row.lead.createdAt ≤ stop.iso8601) &&
  (filters.status.all fun status => row.lead.status = status) &&
  (filters.areaId.all fun areaId => row.property.bind PropertyEntry.areaId = some areaId) &&
  (filters.propertyId.all fun propertyId => row.lead.propertyId = some propertyId)

/-- The rows of the query. -/
def Database.rows (db : Database) (filters : LeadFilters) : List LeadRow :=
  (db.leads.map db.join).filter filters.accepts

/-- `count`. -/
def Database.count (db : Database) (filters : LeadFilters) : ℕ := (db.rows filters).length

/-- `ORDER BY created_at ASC, id ASC`. -/
def Lead.le (a b : Lead) : Bool :=
  a.createdAt < b.createdAt || (a.createdAt = b.createdAt && a.id ≤ b.id)

/-- The order of the rows. -/
def LeadRow.le (a b : LeadRow) : Bool := a.lead.le b.lead

/-- The answer to the query. -/
def Database.select (db : Database) (filters : LeadFilters) : List LeadRow :=
  (db.rows filters).insertionSort fun a b => a.le b = true

/-! ### The export -/

/-- An export under way: the database as it stands, and where `each` stands. -/
structure Export where
  db : Database
  offset : ℕ := 0
  emitted : List LeadRow := []
  done : Bool := false

/-- An export that begins. -/
def Export.start (db : Database) : Export := { db := db }

/-- What happens next: other services leave the database in another state, or the next batch
is read. -/
inductive ExportEvent where
  | commit (db : Database)
  | batch

section Each

variable (filters : LeadFilters) (batchSize : ℕ) (maxRows : Option ℕ)

/-- The limit of the next batch. -/
def Export.limit (e : Export) : ℕ :=
  match maxRows with
  | some rows => min batchSize (rows - e.emitted.length)
  | none => batchSize

/-- A round of the loop of `each`. -/
def Export.readBatch (e : Export) : Export :=
  let limit := e.limit batchSize maxRows
  if limit = 0 then { e with done := true }
  else
    let result := slice e.offset limit (e.db.select filters)
    if result.length < limit then { e with emitted := e.emitted ++ result, done := true }
    else { e with emitted := e.emitted ++ result, offset := e.offset + result.length }

/-- What an event does. -/
def Export.step (e : Export) : ExportEvent → Export
  | .commit db => { e with db := db }
  | .batch => if e.done then e else e.readBatch filters batchSize maxRows

/-- An export, event after event. -/
def Export.run (e : Export) (events : List ExportEvent) : Export :=
  events.foldl (Export.step filters batchSize maxRows) e

/-! ### Where a lead stands -/

/-- The query selects a lead. -/
def Database.Selects (db : Database) (lead : Lead) : Prop :=
  lead ∈ db.leads ∧ filters.accepts (db.join lead) = true

/-- How many rows come before a lead. -/
def Database.ahead (db : Database) (lead : Lead) : ℕ :=
  (db.rows filters).countP fun row => !lead.le row.lead

/-- The rows of a lead. -/
def isRowOf (lead : Lead) (row : LeadRow) : Bool := row.lead.id = lead.id

theorem preorder_le : Paging.Preorder LeadRow.le where
  total a b := by
    simp only [LeadRow.le, Lead.le, Bool.or_eq_true, Bool.and_eq_true, decide_eq_true_eq]
    rcases lt_trichotomy a.lead.createdAt b.lead.createdAt with h | h | h
    · exact .inl (.inl h)
    · rcases le_total a.lead.id b.lead.id with h' | h'
      · exact .inl (.inr ⟨h, h'⟩)
      · exact .inr (.inr ⟨h.symm, h'⟩)
    · exact .inr (.inl h)
  trans a b c := by
    simp only [LeadRow.le, Lead.le, Bool.or_eq_true, Bool.and_eq_true, decide_eq_true_eq]
    rintro (h | ⟨h, hid⟩) (h' | ⟨h', hid'⟩)
    · exact .inl (h.trans h')
    · exact .inl (h.trans_eq h')
    · exact .inl (h.trans_lt h')
    · exact .inr ⟨h.trans h', hid.trans hid'⟩

variable {filters} {db : Database} {lead : Lead}

theorem Database.Selects.mem_rows (h : db.Selects filters lead) : db.join lead ∈ db.rows filters :=
  List.mem_filter.2 ⟨List.mem_map_of_mem h.1, h.2⟩

/-- Leads do not share an id. -/
theorem eq_of_mem_rows {row : LeadRow} (h : db.Selects filters lead) (hrow : row ∈ db.rows filters)
    (hid : row.lead.id = lead.id) : row = db.join lead := by
  obtain ⟨other, hother, rfl⟩ := List.mem_map.1 (List.mem_filter.1 hrow).1
  rw [List.inj_on_of_nodup_map db.nodup_leads hother h.1 hid]

/-- A lead that is selected is one row of the answer. -/
theorem countP_select (h : db.Selects filters lead) :
    (db.select filters).countP (isRowOf lead) = 1 := by
  have hids : ((db.rows filters).map fun row => row.lead.id).Nodup := by
    have hleads : ((db.leads.map db.join).map fun row => row.lead.id) = db.leads.map Lead.id := by
      rw [List.map_map]
      rfl
    exact (hleads ▸ db.nodup_leads).sublist (List.filter_sublist.map _)
  have hcount := List.count_eq_one_of_mem hids (List.mem_map_of_mem h.mem_rows)
  rw [List.count, List.countP_map] at hcount
  rw [Database.select, (List.perm_insertionSort _ _).countP_eq]
  exact hcount

/-- **A lead stands behind the rows that come before it.** -/
theorem getElem?_select (h : db.Selects filters lead) :
    (db.select filters)[db.ahead filters lead]? = some (db.join lead) := by
  refine (inOrder_insertionSort preorder_le (db.rows filters)).getElem?_below preorder_le
    h.mem_rows fun row hrow hle hge => eq_of_mem_rows h hrow ?_
  simp only [LeadRow.le, Lead.le, Bool.or_eq_true, Bool.and_eq_true, decide_eq_true_eq] at hle hge
  rcases hle with hlt | ⟨heq, hid⟩
  · rcases hge with hgt | ⟨heq, -⟩
    · exact absurd (hlt.trans hgt) (lt_irrefl _)
    · exact absurd hlt heq.not_gt
  · rcases hge with hgt | ⟨-, hid'⟩
    · exact absurd hgt heq.not_gt
    · exact le_antisymm hid' hid

/-- **What a batch reads of a lead.** -/
theorem countP_batch (h : db.Selects filters lead) (offset limit : ℕ) :
    (slice offset limit (db.select filters)).countP (isRowOf lead) =
      if offset ≤ db.ahead filters lead ∧ db.ahead filters lead < offset + limit then 1 else 0 :=
  countP_slice (countP_select h) (getElem?_select h) (decide_eq_true rfl)

/-! ### What is read of a lead -/

section Ledger

variable (filters) (lead)

/-- A commit leaves a lead before the offset that stood behind it: no batch will read it. -/
def Export.Skips (e : Export) : ExportEvent → Bool
  | .commit db => !e.done && decide (e.offset ≤ e.db.ahead filters lead) &&
      decide (db.ahead filters lead < e.offset)
  | .batch => false

/-- A commit leaves a lead behind the offset that stood before it: a batch will read it
again. -/
def Export.PushesBack (e : Export) : ExportEvent → Bool
  | .commit db => !e.done && decide (e.db.ahead filters lead < e.offset) &&
      decide (e.offset ≤ db.ahead filters lead)
  | .batch => false

/-- How many events of an export are of a kind. -/
def Export.countAlong (kind : Export → ExportEvent → Bool) : Export → List ExportEvent → ℕ
  | _, [] => 0
  | e, event :: rest => (if kind e event then 1 else 0) +
      countAlong kind (e.step filters batchSize maxRows event) rest

/-- As long as the export goes on, a lead is there and is selected. -/
def Export.Stays : Export → List ExportEvent → Prop
  | e, [] => e.done = false → e.db.Selects filters lead
  | e, event :: rest => (e.done = false → e.db.Selects filters lead) ∧
      (e.step filters batchSize maxRows event).Stays rest

variable {filters lead batchSize maxRows}

variable (filters lead batchSize maxRows) in
/-- Nothing is read once an export is done. -/
theorem Export.run_of_done {e : Export} (h : e.done = true) (events : List ExportEvent) :
    (e.run filters batchSize maxRows events).emitted = e.emitted ∧
      e.countAlong filters batchSize maxRows (Export.Skips filters lead) events = 0 ∧
      e.countAlong filters batchSize maxRows (Export.PushesBack filters lead) events = 0 := by
  induction events generalizing e with
  | nil => exact ⟨rfl, rfl, rfl⟩
  | cons event rest ih =>
    cases event with
    | commit db =>
      obtain ⟨hemitted, hskips, hpushes⟩ := @ih { e with db := db } h
      refine ⟨hemitted, ?_, ?_⟩
      · simp only [countAlong, Skips, h, Bool.not_true, Bool.false_and]
        exact (Nat.zero_add _).trans hskips
      · simp only [countAlong, PushesBack, h, Bool.not_true, Bool.false_and]
        exact (Nat.zero_add _).trans hpushes
    | batch =>
      have hstep : e.step filters batchSize maxRows .batch = e := if_pos h
      obtain ⟨hemitted, hskips, hpushes⟩ := ih h
      refine ⟨?_, ?_, ?_⟩
      · rw [run, List.foldl_cons, hstep]
        exact hemitted
      · rw [countAlong, hstep, hskips]
        rfl
      · rw [countAlong, hstep, hpushes]
        rfl

variable (filters) in
/-- A batch of a whole export, which is done when the batch is short. -/
theorem Export.step_batch (hbatch : 0 < batchSize) {e : Export} (hdone : e.done = false) :
    e.step filters batchSize none .batch =
      let result := slice e.offset batchSize (e.db.select filters)
      if result.length < batchSize then { e with emitted := e.emitted ++ result, done := true }
      else { e with emitted := e.emitted ++ result, offset := e.offset + result.length } := by
  rw [step, if_neg (by rw [hdone]; exact Bool.false_ne_true)]
  exact if_neg hbatch.ne'

/-- **The ledger of a lead.**  It is read once, and once more for each time it is pushed back
over the offset, and once less for each time it is skipped. -/
theorem Export.ledger (hbatch : 0 < batchSize) {e : Export} {events : List ExportEvent}
    (hdone : e.done = false) (hstays : e.Stays filters batchSize none lead events)
    (hends : (e.run filters batchSize none events).done = true) :
    (e.run filters batchSize none events).emitted.countP (isRowOf lead) +
        e.countAlong filters batchSize none (Export.Skips filters lead) events +
        (if e.db.ahead filters lead < e.offset then 1 else 0) =
      e.emitted.countP (isRowOf lead) +
        e.countAlong filters batchSize none (Export.PushesBack filters lead) events + 1 := by
  induction events generalizing e with
  | nil => exact absurd (hdone.symm.trans hends) nofun
  | cons event rest ih =>
    cases event with
    | commit db =>
      have hrest := @ih { e with db := db } hdone hstays.2 hends
      simp only [countAlong, Skips, PushesBack, hdone, Bool.not_false, Bool.true_and,
        Bool.and_eq_true, decide_eq_true_eq]
      simp only [run, List.foldl_cons, step] at hrest ⊢
      split_ifs at hrest ⊢ <;> omega
    | batch =>
      have hselects : e.db.Selects filters lead := hstays.1 hdone
      have hcount := countP_batch hselects e.offset batchSize
      have hlt : e.db.ahead filters lead < (e.db.select filters).length :=
        (List.getElem?_eq_some_iff.1 (getElem?_select hselects)).1
      have hlength : (slice e.offset batchSize (e.db.select filters)).length =
          min batchSize ((e.db.select filters).length - e.offset) := by
        rw [slice, List.length_take, List.length_drop]
      have hstep := step_batch filters hbatch hdone
      simp only [run, List.foldl_cons, countAlong, Skips, PushesBack, Bool.false_eq_true, if_false,
        Nat.zero_add] at hends ⊢
      dsimp only at hstep
      split_ifs at hstep with hshort
      · -- the last batch holds what is behind the offset
        obtain ⟨hemitted, hskips, hpushes⟩ := run_of_done filters batchSize none lead
          (congrArg Export.done hstep) rest
        rw [run] at hemitted
        rw [hemitted, hskips, hpushes, hstep]
        dsimp only
        rw [List.countP_append, hcount]
        split_ifs <;> omega
      · -- a full batch moves the offset behind what it holds
        have hnext : (e.step filters batchSize none .batch).done = false :=
          (congrArg Export.done hstep).trans hdone
        have hrest := ih hnext hstays.2 hends
        simp only [run] at hrest
        have hoffset : (slice e.offset batchSize (e.db.select filters)).length = batchSize := by
          omega
        rw [hstep, hoffset] at hrest ⊢
        dsimp only at hrest ⊢
        rw [List.countP_append, hcount] at hrest
        split_ifs at hrest ⊢ <;> omega

/-- Batches of no rows read nothing. -/
theorem Export.emitted_run_zero (e : Export) (events : List ExportEvent) :
    (e.run filters 0 none events).emitted = e.emitted := by
  induction events generalizing e with
  | nil => rfl
  | cons event rest ih =>
    have hstep : (e.step filters 0 none event).emitted = e.emitted := by
      cases event with
      | commit db => rfl
      | batch =>
        cases hdone : e.done with
        | true => exact congrArg Export.emitted (if_pos hdone)
        | false =>
          have hread : e.step filters 0 none .batch = e.readBatch filters 0 none :=
            if_neg (by rw [hdone]; exact Bool.false_ne_true)
          have hquit : e.readBatch filters 0 none = { e with done := true } := by
            unfold readBatch
            exact if_pos rfl
          rw [hread, hquit]
    exact (ih _).trans hstep

/-- **A lead that stays is read once** exactly when the batches hold rows, and it is pushed
back as often as it is skipped. -/
theorem Export.countP_emitted_iff {events : List ExportEvent}
    (hstays : (Export.start db).Stays filters batchSize none lead events)
    (hends : ((Export.start db).run filters batchSize none events).done = true) :
    ((Export.start db).run filters batchSize none events).emitted.countP (isRowOf lead) = 1 ↔
      0 < batchSize ∧
        (Export.start db).countAlong filters batchSize none (Skips filters lead) events =
          (Export.start db).countAlong filters batchSize none (PushesBack filters lead) events := by
  rcases Nat.eq_zero_or_pos batchSize with rfl | hbatch
  · rw [emitted_run_zero]
    exact ⟨fun h => absurd h (Nat.zero_ne_one), fun h => absurd h.1 (lt_irrefl 0)⟩
  · have hledger := ledger hbatch rfl hstays hends
    have hempty : (Export.start db).emitted.countP (isRowOf lead) = 0 := rfl
    have hbegin : ¬ (Export.start db).db.ahead filters lead < (Export.start db).offset :=
      Nat.not_lt_zero _
    rw [hempty, if_neg hbegin] at hledger
    constructor
    · exact fun h => ⟨hbatch, by omega⟩
    · exact fun h => by omega

/-- **The export loses nothing** exactly when every lead that stays is pushed back as often
as it is skipped. -/
theorem read_once_iff {events : List ExportEvent}
    (hends : ((Export.start db).run filters batchSize none events).done = true) :
    (∀ lead, (Export.start db).Stays filters batchSize none lead events →
      ((Export.start db).run filters batchSize none events).emitted.countP (isRowOf lead) = 1) ↔
    ∀ lead, (Export.start db).Stays filters batchSize none lead events → 0 < batchSize ∧
      (Export.start db).countAlong filters batchSize none (Export.Skips filters lead) events =
        (Export.start db).countAlong filters batchSize none (Export.PushesBack filters lead)
          events :=
  forall_congr' fun _ => forall_congr' fun hstays => Export.countP_emitted_iff hstays hends

end Ledger

end Each

/-! ### A lead that is skipped -/

/-- Leads of consecutive days. -/
def demoLead (id : String) (date : Date) : Lead where
  id := id
  name := "Mona Adel"
  phone := "01000000000"
  createdAt := date * day
  updatedAt := date * day

/-- Three leads. -/
def threeLeads : Database where
  leads := [demoLead "a" 1, demoLead "b" 2, demoLead "c" 3]
  properties := []
  nodup_leads := by decide
  nodup_properties := by decide

/-- The last two of them. -/
def twoLeads : Database where
  leads := [demoLead "b" 2, demoLead "c" 3]
  properties := []
  nodup_leads := by decide
  nodup_properties := by decide

/-- An export in batches of one row, where the first lead is deleted after its batch. -/
def deletedMeanwhile : List ExportEvent := [.batch, .commit twoLeads, .batch, .batch]

/-- The second lead is there all along, and is not exported. -/
theorem not_read_once_deletedMeanwhile :
    ((Export.start threeLeads).run {} 1 none deletedMeanwhile).done = true ∧
      ¬ ∀ lead, (Export.start threeLeads).Stays {} 1 none lead deletedMeanwhile →
        ((Export.start threeLeads).run {} 1 none deletedMeanwhile).emitted.countP
          (isRowOf lead) = 1 := by
  refine ⟨by decide, fun h => ?_⟩
  have hstays : (Export.start threeLeads).Stays {} 1 none (demoLead "b" 2) deletedMeanwhile :=
    ⟨fun _ => ⟨by decide, by decide⟩, fun _ => ⟨by decide, by decide⟩,
      fun _ => ⟨by decide, by decide⟩, fun _ => ⟨by decide, by decide⟩,
      fun h => absurd h (by decide)⟩
  exact absurd (h _ hstays) (by decide)

/-- An export that nothing happens meanwhile reads every lead that stays once. -/
theorem read_once_iff_quiet :
    (∀ lead, (Export.start threeLeads).Stays {} 2 none lead [.batch, .batch] →
      ((Export.start threeLeads).run {} 2 none [.batch, .batch]).emitted.countP
        (isRowOf lead) = 1) ↔
    ∀ lead, (Export.start threeLeads).Stays {} 2 none lead [.batch, .batch] → 0 < 2 ∧
      (Export.start threeLeads).countAlong {} 2 none (Export.Skips {} lead) [.batch, .batch] =
        (Export.start threeLeads).countAlong {} 2 none (Export.PushesBack {} lead)
          [.batch, .batch] :=
  read_once_iff (by decide)

end Reports
end TopChoice
