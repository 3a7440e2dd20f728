/-
# The list endpoints over Prisma

`list` of `LeadsService`, `AreasService`, `DevelopersService`, `CompoundsService`
and `UsersService`: for each its query, the rows it selects, the columns it may
be sorted by and the order it falls back to.  The records joined to a row are
left out.

The lists of areas, developers and compounds come through the cache; a page that
is found there is the answer of an earlier query of the page, so it is one of the
answers all the same.
-/

import TopChoice.Auth.Store
import TopChoice.Catalog.Store
import TopChoice.Common.Pagination
import TopChoice.Leads.LeadsService

namespace TopChoice
namespace Lists

open Auth (User UserRole)
open Catalog (Area Compound Developer)
open Leads (Lead LeadStatus)
open Listing (Date PropertyType)

/-- A condition that applies when the parameter is there. -/
def given {α : Type} (param : Option α) (condition : α → Bool) : Bool := param.all condition

/-- A condition on a text that applies when the text is there and not empty. -/
def givenText (param : Option String) (condition : String → Bool) : Bool :=
  param.all fun text => decide (text = "") || condition text

/-- A column that may be null. -/
def ofOption (value : Option ℕ) : SortValue := value.elim .null fun k => .number k

/-! ### Leads -/

/-- A row of `leads`, with its timestamps. -/
structure LeadRow extends Lead where
  createdAt : Date
  updatedAt : Date

/-- `ListLeadsDto`; `from` and `to` are the dates the texts denote. -/
structure ListLeadsDto where
  status : Option LeadStatus := none
  propertyId : Option String := none
  assignedToId : Option String := none
  compoundId : Option String := none
  source : Option String := none
  q : Option String := none
  fromDate : Option Date := none
  toDate : Option Date := none

/-- The place of a status in the type `lead_status`. -/
def statusOrdinal : LeadStatus → ℤ
  | .new => 0
  | .contacted => 1
  | .qualified => 2
  | .viewing => 3
  | .negotiating => 4
  | .won => 5
  | .lost => 6

/-- `LeadsService.list`. -/
def leads (pg : Postgres) : ListEndpoint LeadRow ListLeadsDto where
  selects query lead :=
    given query.status (fun status => lead.status = status) &&
    given query.propertyId (fun id => lead.propertyId = some id) &&
    given query.assignedToId (fun id => lead.assignedToId = some id) &&
    given query.compoundId (fun id => lead.compoundId = some id) &&
    givenText query.source (fun source => lead.source = source) &&
    given query.fromDate (fun date => date ≤ lead.createdAt) &&
    given query.toDate (fun date => lead.createdAt ≤ date) &&
    givenText query.q fun q => pg.containsInsensitive lead.name q ||
      lead.email.any (fun email => pg.containsInsensitive email q) || pg.contains lead.phone q
  sortable := ["createdAt", "updatedAt", "status", "name"]
  fallback := ⟨"createdAt", .desc⟩
  column
    | "createdAt", lead => .number lead.createdAt
    | "updatedAt", lead => .number lead.updatedAt
    | "status", lead => .number (statusOrdinal lead.status)
    | "name", lead => .text lead.name
    | _, _ => .null

/-! ### Areas -/

/-- A row of `areas`, with the columns a list reads. -/
structure AreaRow extends Area where
  nameAr : String
  avgPricePerMeter : Option ℕ
  isActive : Bool
  createdAt : Date

/-- `ListAreasDto`. -/
structure ListAreasDto where
  q : Option String := none
  city : Option String := none
  governorate : Option String := none

/-- `AreasService.list`. -/
def areas (pg : Postgres) : ListEndpoint AreaRow ListAreasDto where
  selects query area :=
    area.isActive &&
    givenText query.city (pg.equalsInsensitive area.city) &&
    givenText query.governorate (pg.equalsInsensitive area.governorate) &&
    givenText query.q fun q => pg.containsInsensitive area.nameEn q || pg.contains area.nameAr q
  sortable := ["nameEn", "city", "propertyCount", "avgPricePerMeter", "createdAt"]
  fallback := ⟨"propertyCount", .desc⟩
  column
    | "nameEn", area => .text area.nameEn
    | "city", area => .text area.city
    | "propertyCount", area => .number area.propertyCount
    | "avgPricePerMeter", area => ofOption area.avgPricePerMeter
    | "createdAt", area => .number area.createdAt
    | _, _ => .null

/-! ### Developers -/

/-- A row of `developers`, with the columns a list reads. -/
structure DeveloperRow extends Developer where
  nameAr : String
  foundedYear : Option ℕ
  isFeatured : Bool
  isActive : Bool
  createdAt : Date

/-- `ListDevelopersDto`. -/
structure ListDevelopersDto where
  q : Option String := none
  isFeatured : Option Bool := none

/-- `DevelopersService.list`. -/
def developers (pg : Postgres) : ListEndpoint DeveloperRow ListDevelopersDto where
  selects query developer :=
    developer.isActive &&
    given query.isFeatured (fun featured => developer.isFeatured = featured) &&
    givenText query.q fun q =>
      pg.containsInsensitive developer.name q || pg.contains developer.nameAr q
  sortable := ["name", "createdAt", "projectsCount", "foundedYear"]
  fallback := ⟨"name", .asc⟩
  column
    | "name", developer => .text developer.name
    | "createdAt", developer => .number developer.createdAt
    | "projectsCount", developer => .number developer.projectsCount
    | "foundedYear", developer => ofOption developer.foundedYear
    | _, _ => .null

/-! ### Compounds -/

/-- A row of `compounds`, with its timestamp. -/
structure CompoundRow extends Compound where
  createdAt : Date

/-- `ListCompoundsDto`. -/
structure ListCompoundsDto where
  q : Option String := none
  developerId : Option String := none
  areaId : Option String := none
  minPrice : Option ℕ := none
  maxPrice : Option ℕ := none
  unitTypes : List PropertyType := []
  isFeatured : Option Bool := none

/-- `CompoundsService.list`. -/
def compounds (pg : Postgres) : ListEndpoint CompoundRow ListCompoundsDto where
  selects query compound :=
    compound.isActive &&
    given query.developerId (fun id => compound.developerId = id) &&
    given query.areaId (fun id => compound.areaId = id) &&
    given query.isFeatured (fun featured => compound.content.isFeatured = featured) &&
    (query.unitTypes.isEmpty ||
      query.unitTypes.any fun unit => decide (unit.text ∈ compound.content.unitTypes)) &&
    given query.minPrice (fun price => compound.content.startingPrice.any (price ≤ ·)) &&
    given query.maxPrice (fun price => compound.content.startingPrice.any (· ≤ price)) &&
    givenText query.q fun q =>
      pg.containsInsensitive compound.name q || pg.contains compound.content.nameAr q
  sortable := ["name", "startingPrice", "deliveryYear", "createdAt"]
  fallback := ⟨"name", .asc⟩
  column
    | "name", compound => .text compound.name
    | "startingPrice", compound => ofOption compound.content.startingPrice
    | "deliveryYear", compound => ofOption compound.content.deliveryYear
    | "createdAt", compound => .number compound.createdAt
    | _, _ => .null

/-! ### Users -/

/-- A row of `users`, with the columns a list reads. -/
structure UserRow extends User where
  lastLoginAt : Option Date
  createdAt : Date

/-- `ListUsersDto`. -/
structure ListUsersDto where
  q : Option String := none
  role : Option UserRole := none
  isActive : Option Bool := none

/-- `UsersService.list`. -/
def users (pg : Postgres) : ListEndpoint UserRow ListUsersDto where
  selects query user :=
    given query.role (fun role => user.role = role) &&
    given query.isActive (fun active => user.isActive = active) &&
    givenText query.q fun q =>
      pg.containsInsensitive user.name q || pg.containsInsensitive user.email q
  sortable := ["createdAt", "name", "email", "lastLoginAt"]
  fallback := ⟨"createdAt", .desc⟩
  column
    | "createdAt", user => .number user.createdAt
    | "name", user => .text user.name
    | "email", user => .text user.email
    | "lastLoginAt", user => ofOption user.lastLoginAt
    | _, _ => .null

/-! ### All of them -/

/-- What can be listed. -/
inductive Entity where
  | leads
  | areas
  | developers
  | compounds
  | users
  deriving DecidableEq, Repr

/-- The rows of an entity. -/
def Entity.Row : Entity → Type
  | .leads => LeadRow
  | .areas => AreaRow
  | .developers => DeveloperRow
  | .compounds => CompoundRow
  | .users => UserRow

/-- The query of a list, its page and its order apart. -/
def Entity.Query : Entity → Type
  | .leads => ListLeadsDto
  | .areas => ListAreasDto
  | .developers => ListDevelopersDto
  | .compounds => ListCompoundsDto
  | .users => ListUsersDto

/-- The list endpoint of an entity. -/
def Entity.endpoint (pg : Postgres) : (e : Entity) → ListEndpoint e.Row e.Query
  | .leads => Lists.leads pg
  | .areas => Lists.areas pg
  | .developers => Lists.developers pg
  | .compounds => Lists.compounds pg
  | .users => Lists.users pg

/-- The primary key. -/
def Entity.id : (e : Entity) → e.Row → String
  | .leads => fun lead : LeadRow => lead.id
  | .areas => fun area : AreaRow => area.id
  | .developers => fun developer : DeveloperRow => developer.id
  | .compounds => fun compound : CompoundRow => compound.id
  | .users => fun user : UserRow => user.id

end Lists
end TopChoice
