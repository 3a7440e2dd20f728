/-
# Leads

`apps/api-core/src/modules/leads/leads.service.ts`: `create`, `update` and
`remove`, as whole calls (`create`, `update`, `remove`), and `update` as the
sequence of the statements it awaits (`UpdatePc`), so that several updates can
be interleaved.

A record is the row of `leads`; the rows `LEAD_INCLUDE` joins to it are left
out, as are the timestamps.  A statement that a missing row forbids is rejected
with a message of the driver.
-/

import TopChoice.Auth.Store
import TopChoice.Catalog.Store
import TopChoice.Common.Text
import TopChoice.Listing.Mirror

namespace TopChoice
namespace Leads

open Auth (User UserId)
open Catalog (CatalogStore)
open Listing (CounterStatement Date ListingStore PropertyType Thrown)

/-- `LEAD_STATUSES`. -/
inductive LeadStatus where
  | new
  | contacted
  | qualified
  | viewing
  | negotiating
  | won
  | lost
  deriving DecidableEq, Repr

/-- The status as it is stored. -/
def LeadStatus.toString : LeadStatus → String
  | .new => "new"
  | .contacted => "contacted"
  | .qualified => "qualified"
  | .viewing => "viewing"
  | .negotiating => "negotiating"
  | .won => "won"
  | .lost => "lost"

/-- `TRANSITIONS`: the allowed status moves. -/
def transitions : LeadStatus → List LeadStatus
  | .new => [.contacted, .qualified, .lost]
  | .contacted => [.qualified, .viewing, .lost]
  | .qualified => [.viewing, .negotiating, .lost]
  | .viewing => [.negotiating, .won, .lost]
  | .negotiating => [.won, .lost]
  | .won => []
  | .lost => []

/-- A row of `leads`. -/
structure Lead where
  id : String
  propertyId : Option String
  userId : Option UserId
  name : String
  phone : String
  email : Option String
  message : Option String
  source : String
  areaId : Option String
  compoundId : Option String
  propertyType : Option PropertyType
  status : LeadStatus
  assignedToId : Option UserId
  notes : Option String
  contactedAt : Option Date
  deriving DecidableEq, Repr

/-- What the service reads and writes. -/
structure LeadStore where
  leads : List Lead
  users : List User
  listings : ListingStore
  catalog : CatalogStore

/-- `CreateLeadDto`; the ids are UUIDs, so none of them is empty. -/
structure CreateLeadDto where
  propertyId : Option String
  name : String
  phone : String
  email : Option String
  message : Option String
  areaId : Option String
  compoundId : Option String
  propertyType : Option PropertyType
  source : Option String
  company : Option String
  deriving DecidableEq, Repr

/-- `UpdateLeadDto`: `some none` is a `null`. -/
structure UpdateLeadDto where
  status : Option LeadStatus := none
  assignedToId : Option (Option UserId) := none
  notes : Option (Option String) := none
  deriving DecidableEq, Repr

namespace LeadStore

/-- `prisma.lead.findUnique({ where: { id } })`. -/
def findLead (id : String) (s : LeadStore) : Option Lead :=
  Table.findUnique (fun l => l.id = id) s.leads

/-- `prisma.lead.create`: rejected when the id is taken or the submitter has no
row in `users`. -/
def createLead (lead : Lead) (s : LeadStore) : Option LeadStore :=
  if s.leads.any (fun l => l.id = lead.id) ||
      lead.userId.any (fun u => (Table.findUnique (fun v => v.id = u) s.users).isNone) then none
  else some { s with leads := Table.create lead s.leads }

/-- `prisma.lead.update`, on a lead that is there. -/
def updateLead (id : String) (data : Lead → Lead) (s : LeadStore) : LeadStore :=
  { s with leads := Table.updateOne (fun l => l.id = id) data s.leads }

/-- `prisma.lead.delete`. -/
def deleteLead (id : String) (s : LeadStore) : LeadStore :=
  { s with leads := Table.deleteMany (fun l => l.id = id) s.leads }

/-- `PropertiesService.incrementLeadCount`. -/
def incrementLeadCount (propertyId : String) (s : LeadStore) : LeadStore :=
  { s with listings := CounterStatement.exec s.listings (.incrementLeadCount propertyId) }

end LeadStore

/-! ### The checks -/

/-- The error of a reference to nothing. -/
def doesNotExist (kind id field message : String) : AppException :=
  { AppException.badRequest (kind ++ " \"" ++ id ++ "\" does not exist") .relatedResourceNotFound
    with details := [⟨some field, message, some "exists"⟩] }

/-- The honeypot of `create`. -/
def CreateLeadDto.honeypotTripped (dto : CreateLeadDto) : Bool :=
  dto.company.any fun company => trim company ≠ ""

/-- The check of the listing in `create`. -/
def checkProperty (s : LeadStore) : Option String → Option AppException
  | none => none
  | some id =>
    if Table.count (fun r => r.id = id && r.deletedAt = none) s.listings.propertyIndex = 0 then
      some (doesNotExist "Property" id "propertyId" "unknown property")
    else none

/-- The check of the area in `assertCatalogRefsExist`. -/
def checkArea (s : LeadStore) : Option String → Option AppException
  | none => none
  | some id =>
    if Table.count (fun a => a.id = id) s.catalog.areas = 0 then
      some (doesNotExist "Area" id "areaId" "unknown area")
    else none

/-- The check of the compound in `assertCatalogRefsExist`. -/
def checkCompound (s : LeadStore) : Option String → Option AppException
  | none => none
  | some id =>
    if Table.count (fun c => c.id = id) s.catalog.compounds = 0 then
      some (doesNotExist "Compound" id "compoundId" "unknown compound")
    else none

/-- `Lead "…" was not found`. -/
def leadNotFound (id : String) : AppException :=
  .notFound ("Lead \"" ++ id ++ "\" was not found") .leadNotFound

/-- `assertTransition`: what it throws, if anything. -/
def assertTransition (source target : LeadStatus) : Option AppException :=
  if target ∈ transitions source then none
  else
    some { AppException.badRequest
        ("A lead cannot move from \"" ++ source.toString ++ "\" to \"" ++ target.toString ++ "\"" ++
          if 0 < (transitions source).length then
            ". Allowed: " ++ ", ".intercalate ((transitions source).map LeadStatus.toString)
          else " — this status is final.") .badRequest
      with details :=
        [⟨some "status", "invalid transition from " ++ source.toString, some "transition"⟩] }

/-- The check of the status in `update`. -/
def checkStatus (dto : UpdateLeadDto) (current : LeadStatus) : Option AppException :=
  match dto.status with
  | none => none
  | some status => if status ≠ current then assertTransition current status else none

/-- The check of the assignee in `update`. -/
def checkAssignee (s : LeadStore) (id : UserId) : Option AppException :=
  if Table.count (fun u => u.id = id && u.role ∈ [.agent, .admin, .superadmin]) s.users = 0 then
    some { AppException.badRequest "Leads can only be assigned to an agent or administrator"
        .relatedResourceNotFound
      with details := [⟨some "assignedToId", "not an agent", some "exists"⟩] }
  else none

/-- What `update` reads of the lead first. -/
structure Existing where
  status : LeadStatus
  contactedAt : Option Date
  deriving DecidableEq, Repr

/-- The `data` of the update. -/
def UpdateLeadDto.data (dto : UpdateLeadDto) (existing : Existing) (now : Date) (lead : Lead) :
    Lead :=
  { lead with
    status := dto.status.getD lead.status
    assignedToId := dto.assignedToId.getD lead.assignedToId
    notes := dto.notes.getD lead.notes
    contactedAt :=
      if dto.status = some .contacted && existing.contactedAt = none then some now
      else lead.contactedAt }

/-! ### The calls -/

/-- The row `create` inserts. -/
def CreateLeadDto.lead (dto : CreateLeadDto) (submitter : Option UserId) (id : String) : Lead where
  id := id
  propertyId := dto.propertyId
  userId := submitter
  name := dto.name
  phone := dto.phone
  email := dto.email
  message := dto.message
  source := dto.source.getD "website"
  areaId := dto.areaId
  compoundId := dto.compoundId
  propertyType := dto.propertyType
  status := .new
  assignedToId := none
  notes := none
  contactedAt := none

/-- `LeadsService.create`: the id of the lead, or `none` for a bot; `id` is the
UUID the database hands out. -/
def create (dto : CreateLeadDto) (submitter : Option UserId) (id : String) (s : LeadStore) :
    Except Thrown (Option String) × LeadStore :=
  if dto.honeypotTripped then (.ok none, s)
  else
    match (checkProperty s dto.propertyId).or
        ((checkArea s dto.areaId).or (checkCompound s dto.compoundId)) with
    | some e => (.error (.app e), s)
    | none =>
      match s.createLead (dto.lead submitter id) with
      | none => (.error (.driver "Foreign key constraint violated"), s)
      | some s' =>
        (.ok (some id),
          match dto.propertyId with
          | none => s'
          | some propertyId => s'.incrementLeadCount propertyId)

/-- `LeadsService.update`, at the time `now`. -/
def update (id : String) (dto : UpdateLeadDto) (now : Date) (s : LeadStore) :
    Except Thrown Lead × LeadStore :=
  match s.findLead id with
  | none => (.error (.app (leadNotFound id)), s)
  | some lead =>
    match (checkStatus dto lead.status).or (dto.assignedToId.join.bind (checkAssignee s)) with
    | some e => (.error (.app e), s)
    | none =>
      let data := dto.data ⟨lead.status, lead.contactedAt⟩ now
      (.ok (data lead), s.updateLead id data)

/-- `LeadsService.remove`. -/
def remove (id : String) (s : LeadStore) : Except Thrown Unit × LeadStore :=
  if Table.count (fun l => l.id = id) s.leads = 0 then (.error (.app (leadNotFound id)), s)
  else (.ok (), s.deleteLead id)

/-! ### `update`, statement by statement -/

/-- Where an update stands: the statement it issues next, with what it holds. -/
inductive UpdatePc where
  | findUnique (id : String) (dto : UpdateLeadDto)
  | countAgents (id : String) (dto : UpdateLeadDto) (existing : Existing) (assignee : UserId)
  | update (id : String) (dto : UpdateLeadDto) (existing : Existing)
  | returned (lead : Lead)
  | thrown (error : Thrown)
  deriving DecidableEq, Repr

/-- One statement of an update; the clock is read when the row is written. -/
def UpdatePc.next (s : LeadStore) : UpdatePc → Date → Option (LeadStore × UpdatePc)
  | .findUnique id dto, _ =>
      match s.findLead id with
      | none => some (s, .thrown (.app (leadNotFound id)))
      | some lead =>
        match checkStatus dto lead.status, dto.assignedToId.join with
        | some e, _ => some (s, .thrown (.app e))
        | none, some assignee =>
            some (s, .countAgents id dto ⟨lead.status, lead.contactedAt⟩ assignee)
        | none, none => some (s, .update id dto ⟨lead.status, lead.contactedAt⟩)
  | .countAgents id dto existing assignee, _ =>
      match checkAssignee s assignee with
      | some e => some (s, .thrown (.app e))
      | none => some (s, .update id dto existing)
  | .update id dto existing, now =>
      match s.findLead id with
      | none => some (s, .thrown (.driver "Record to update not found"))
      | some lead => some (s.updateLead id (dto.data existing now),
          .returned (dto.data existing now lead))
  | .returned _, _ => none
  | .thrown _, _ => none

/-- The update is still to issue its first statement. -/
def UpdatePc.isStart : UpdatePc → Bool
  | .findUnique _ _ => true
  | _ => false

/-- Every interleaving of the updates. -/
def updating (ι : Type) [DecidableEq ι] :
    Machine (Threads.Sys LeadStore ι UpdatePc) (Threads.Action ι Date Empty) :=
  Threads.machine UpdatePc.next fun s _ => s

/-- Where a call that ends so stands. -/
def UpdatePc.ended : Except Thrown Lead → UpdatePc
  | .ok lead => .returned lead
  | .error e => .thrown e

/-- **The statements of one update, with none in between, are the call.** -/
theorem run_update (s : LeadStore) (id : String) (dto : UpdateLeadDto) (now : Date) :
    ∃ n, (updating Unit).run ⟨s, fun _ => .findUnique id dto⟩ (List.replicate n (.act () now)) =
      some ⟨(update id dto now s).2, fun _ => .ended (update id dto now s).1⟩ := by
  cases hlead : s.findLead id with
  | none =>
      refine ⟨1, ?_⟩
      simp [updating, List.replicate, Threads.run_alone, UpdatePc.next, hlead, update, UpdatePc.ended]
  | some lead =>
      cases hstatus : checkStatus dto lead.status with
      | some e =>
          refine ⟨1, ?_⟩
          simp [updating, List.replicate, Threads.run_alone, UpdatePc.next, hlead, hstatus, update,
            UpdatePc.ended]
      | none =>
          cases hassignee : dto.assignedToId.join with
          | none =>
              refine ⟨2, ?_⟩
              simp [updating, List.replicate, Threads.run_alone, UpdatePc.next, hlead,
                hstatus, hassignee, update, UpdatePc.ended]
          | some assignee =>
              cases hcheck : checkAssignee s assignee with
              | some e =>
                  refine ⟨2, ?_⟩
                  simp [updating, List.replicate, Threads.run_alone, UpdatePc.next, hlead,
                    hstatus, hassignee, hcheck, update, UpdatePc.ended]
              | none =>
                  refine ⟨3, ?_⟩
                  simp [updating, List.replicate, Threads.run_alone, UpdatePc.next, hlead,
                    hstatus, hassignee, hcheck, update, UpdatePc.ended]

end Leads
end TopChoice
