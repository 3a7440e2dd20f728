/-
# Compounds and the projects of a developer

`apps/api-core/src/modules/compounds/compounds.service.ts` (`create`, `update`,
`remove`) and `syncProjectsCount` of `developers.service.ts`: whole calls, one
after the other, on a healthy database.  A statement that a unique index, a
missing row or a foreign key forbids is rejected with a message of the driver,
and the call throws it.

The list caches the calls flush and the rows `findOne` joins to the compound it
returns are left out, as are the tables `payment_plans` and `reviews`.
-/

import TopChoice.Catalog.Store
import TopChoice.Common.Text
import TopChoice.Lib.Machine
import TopChoice.Listing.Mirror

namespace TopChoice
namespace Catalog

open Listing (PropertyIndexRow Thrown demoProperty mirrorOf)

/-- What the service reads and writes. -/
structure CompoundsStore extends CatalogStore where
  propertyIndex : List PropertyIndexRow
  deriving DecidableEq, Repr

/-- `CreateCompoundDto`. -/
structure CreateCompoundDto where
  name : String
  nameAr : String
  developerId : String
  areaId : String
  lat : ℚ
  lng : ℚ
  slug : Option String := none
  descriptionEn : Option String := none
  descriptionAr : Option String := none
  startingPrice : Option ℕ := none
  maxPrice : Option ℕ := none
  minAreaSqm : Option ℕ := none
  maxAreaSqm : Option ℕ := none
  deliveryYear : Option ℕ := none
  installmentYears : Option ℕ := none
  downPaymentPercent : Option ℕ := none
  images : Option (List String) := none
  masterPlanUrl : Option String := none
  unitTypes : Option (List String) := none
  amenityIds : Option (List String) := none
  isFeatured : Option Bool := none
  isActive : Option Bool := none
  deriving DecidableEq, Repr

/-- `UpdateCompoundDto`: every field of `CreateCompoundDto`, none of them
required. -/
structure UpdateCompoundDto where
  name : Option String := none
  nameAr : Option String := none
  developerId : Option String := none
  areaId : Option String := none
  lat : Option ℚ := none
  lng : Option ℚ := none
  slug : Option String := none
  descriptionEn : Option String := none
  descriptionAr : Option String := none
  startingPrice : Option ℕ := none
  maxPrice : Option ℕ := none
  minAreaSqm : Option ℕ := none
  maxAreaSqm : Option ℕ := none
  deliveryYear : Option ℕ := none
  installmentYears : Option ℕ := none
  downPaymentPercent : Option ℕ := none
  images : Option (List String) := none
  masterPlanUrl : Option String := none
  unitTypes : Option (List String) := none
  amenityIds : Option (List String) := none
  isFeatured : Option Bool := none
  isActive : Option Bool := none
  deriving DecidableEq, Repr

/-- The row `create` inserts. -/
def CreateCompoundDto.compound (dto : CreateCompoundDto) (id slug : String) : Compound where
  id := id
  slug := slug
  name := dto.name
  developerId := dto.developerId
  areaId := dto.areaId
  content :=
    { nameAr := dto.nameAr
      descriptionEn := dto.descriptionEn
      descriptionAr := dto.descriptionAr
      startingPrice := dto.startingPrice
      maxPrice := dto.maxPrice
      minAreaSqm := dto.minAreaSqm
      maxAreaSqm := dto.maxAreaSqm
      deliveryYear := dto.deliveryYear
      installmentYears := dto.installmentYears
      downPaymentPercent := dto.downPaymentPercent
      images := dto.images.getD []
      masterPlanUrl := dto.masterPlanUrl
      lat := dto.lat
      lng := dto.lng
      unitTypes := dto.unitTypes.getD []
      isFeatured := dto.isFeatured.getD false }
  isActive := dto.isActive.getD true

/-- The `data` of the update. -/
def UpdateCompoundDto.data (dto : UpdateCompoundDto) (slug : Option String) (c : Compound) :
    Compound where
  id := c.id
  slug := slug.getD c.slug
  name := dto.name.getD c.name
  developerId := dto.developerId.getD c.developerId
  areaId := dto.areaId.getD c.areaId
  content :=
    { nameAr := dto.nameAr.getD c.content.nameAr
      descriptionEn := dto.descriptionEn.or c.content.descriptionEn
      descriptionAr := dto.descriptionAr.or c.content.descriptionAr
      startingPrice := dto.startingPrice.or c.content.startingPrice
      maxPrice := dto.maxPrice.or c.content.maxPrice
      minAreaSqm := dto.minAreaSqm.or c.content.minAreaSqm
      maxAreaSqm := dto.maxAreaSqm.or c.content.maxAreaSqm
      deliveryYear := dto.deliveryYear.or c.content.deliveryYear
      installmentYears := dto.installmentYears.or c.content.installmentYears
      downPaymentPercent := dto.downPaymentPercent.or c.content.downPaymentPercent
      images := dto.images.getD c.content.images
      masterPlanUrl := dto.masterPlanUrl.or c.content.masterPlanUrl
      lat := dto.lat.getD c.content.lat
      lng := dto.lng.getD c.content.lng
      unitTypes := dto.unitTypes.getD c.content.unitTypes
      isFeatured := dto.isFeatured.getD c.content.isFeatured }
  isActive := dto.isActive.getD c.isActive

/-! ### Statements -/

namespace CompoundsStore

/-- The rows of `compound_amenities` for a compound. -/
def links (compoundId : String) (amenityIds : List String) : List CompoundAmenity :=
  amenityIds.map fun amenityId => ⟨compoundId, amenityId⟩

/-- `prisma.compound.create` with its links: rejected when the id or the slug is
taken, or when a link is listed twice or to no amenity. -/
def createCompound (compound : Compound) (amenityIds : List String) (s : CompoundsStore) :
    Option CompoundsStore :=
  if s.compounds.any (fun c => c.id = compound.id || c.slug = compound.slug) ||
      !decide amenityIds.Nodup || amenityIds.any (fun a => a ∉ s.amenities) then none
  else some { s with
    compounds := Table.create compound s.compounds
    compoundAmenities := s.compoundAmenities ++ links compound.id amenityIds }

/-- The transaction of `update`: the row, and the links when the array is
supplied.  Rejected when another compound has the slug or an amenity is unknown. -/
def updateCompound (id : String) (data : Compound → Compound) (amenityIds : Option (List String))
    (s : CompoundsStore) : Option CompoundsStore :=
  match s.findCompound id with
  | none => none
  | some compound =>
    if s.compounds.any (fun c => c.id ≠ id && c.slug = (data compound).slug) ||
        amenityIds.any (fun as => as.any fun a => a ∉ s.amenities) then none
    else some { s with
      compounds := Table.updateOne (fun c => c.id = id) data s.compounds
      compoundAmenities :=
        match amenityIds with
        | none => s.compoundAmenities
        | some as =>
            Table.deleteMany (fun l => l.compoundId = id) s.compoundAmenities ++ links id as.dedup }

/-- `prisma.compound.delete`, with what the foreign keys do: the links go, the
listings lose their reference. -/
def deleteCompound (id : String) (s : CompoundsStore) : CompoundsStore :=
  { s with
    compounds := Table.deleteOne (fun c => c.id = id) s.compounds
    compoundAmenities := Table.deleteMany (fun l => l.compoundId = id) s.compoundAmenities
    propertyIndex := Table.updateMany (fun r => r.compoundId = some id)
      (fun r => { r with compoundId := none }) s.propertyIndex }

/-- The write of `remove`: a compound that live listings point at is deactivated,
any other is deleted. -/
def deactivateOrDelete (id : String) (s : CompoundsStore) : CompoundsStore :=
  let listings :=
    Table.count (fun r => r.compoundId = some id && r.deletedAt = none) s.propertyIndex
  if listings > 0 then
    { s with
      compounds :=
        Table.updateOne (fun c => c.id = id) (fun c => { c with isActive := false }) s.compounds }
  else s.deleteCompound id

end CompoundsStore

/-- The number of active compounds of a developer. -/
def activeCompounds (developerId : String) (compounds : List Compound) : ℕ :=
  Table.count (fun c => c.developerId = developerId && c.isActive) compounds

/-- `DevelopersService.syncProjectsCount`: rejected when there is no such row. -/
def syncProjectsCount (developerId : String) (s : CompoundsStore) : Option CompoundsStore :=
  match s.findDeveloper developerId with
  | none => none
  | some _ => some { s with
      developers := Table.updateOne (fun d => d.id = developerId)
        (fun d => { d with projectsCount := activeCompounds developerId s.compounds })
        s.developers }

/-! ### The calls -/

/-- `assertRelationsExist`: what it throws, if anything. -/
def assertRelationsExist (developerId areaId : Option String) (s : CompoundsStore) :
    Option AppException :=
  (developerId.bind fun id =>
    if Table.count (fun d => d.id = id) s.developers = 0 then
      some (unknownRelation "Developer" id "developerId" "unknown developer")
    else none).or
  (areaId.bind fun id =>
    if Table.count (fun a => a.id = id) s.areas = 0 then
      some (unknownRelation "Area" id "areaId" "unknown area")
    else none)

/-- `Compound "…" was not found`. -/
def compoundNotFound (id : String) : AppException :=
  .notFound ("Compound \"" ++ id ++ "\" was not found") .compoundNotFound

/-- The answer of a statement on a missing row. -/
def recordNotFound : Thrown := .driver "Record to update not found"

section Calls

variable (u : Unicode) (timestamp : String)

/-- `CompoundsService.create`; `id` is the UUID the database hands out. -/
def create (dto : CreateCompoundDto) (id : String) (s : CompoundsStore) :
    Except Thrown Unit × CompoundsStore :=
  match assertRelationsExist (some dto.developerId) (some dto.areaId) s with
  | some e => (.error (.app e), s)
  | none =>
    let slug := buildUniqueSlug u timestamp (dto.slug.getD dto.name) "compound" fun candidate =>
      decide (Table.count (fun c => c.slug = candidate) s.compounds > 0)
    match s.createCompound (dto.compound id slug) (dto.amenityIds.getD []) with
    | none => (.error (.driver "Unique constraint failed"), s)
    | some s₁ =>
      match syncProjectsCount dto.developerId s₁ with
      | none => (.error recordNotFound, s₁)
      | some s₂ => (.ok (), s₂)

/-- `CompoundsService.update`. -/
def update (id : String) (dto : UpdateCompoundDto) (s : CompoundsStore) :
    Except Thrown Unit × CompoundsStore :=
  match s.findCompound id with
  | none => (.error (.app (compoundNotFound id)), s)
  | some existing =>
    match assertRelationsExist dto.developerId dto.areaId s with
    | some e => (.error (.app e), s)
    | none =>
      let slug := (dto.slug.or dto.name).map fun desired =>
        buildUniqueSlug u timestamp desired "compound" fun candidate =>
          decide (Table.count (fun c => c.slug = candidate && c.id ≠ id) s.compounds > 0)
      match s.updateCompound id (dto.data slug) dto.amenityIds with
      | none => (.error (.driver "Foreign key constraint violated"), s)
      | some s₁ =>
        match syncProjectsCount (dto.developerId.getD existing.developerId) s₁ with
        | none => (.error recordNotFound, s₁)
        | some s₂ =>
          if dto.developerId.any fun d => d ≠ existing.developerId then
            match syncProjectsCount existing.developerId s₂ with
            | none => (.error recordNotFound, s₂)
            | some s₃ => (.ok (), s₃)
          else (.ok (), s₂)

/-- `CompoundsService.remove`. -/
def remove (id : String) (s : CompoundsStore) : Except Thrown Unit × CompoundsStore :=
  match s.findCompound id with
  | none => (.error (.app (compoundNotFound id)), s)
  | some existing =>
    let s₁ := s.deactivateOrDelete id
    match syncProjectsCount existing.developerId s₁ with
    | none => (.error recordNotFound, s₁)
    | some s₂ => (.ok (), s₂)

/-- The calls of the service. -/
inductive CompoundCall where
  | create (dto : CreateCompoundDto) (id : String)
  | update (id : String) (dto : UpdateCompoundDto)
  | remove (id : String)
  deriving DecidableEq, Repr

/-- The store a call leaves behind, whether it returns or throws. -/
def CompoundCall.exec (s : CompoundsStore) : CompoundCall → CompoundsStore
  | .create dto id => (Catalog.create u timestamp dto id s).2
  | .update id dto => (Catalog.update u timestamp id dto s).2
  | .remove id => (Catalog.remove id s).2

/-- One call after the other. -/
def compoundCalls : Machine CompoundsStore CompoundCall where
  step s call := some (call.exec u timestamp s)

end Calls

end Catalog
end TopChoice
