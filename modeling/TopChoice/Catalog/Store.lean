/-
# The catalogue tables

`apps/api-core/prisma/schema.prisma`: `developers`, `areas`, `amenities`,
`compounds` and the join table `compound_amenities`, with the columns the
modelled services read or write.  The timestamps are managed by the driver and
left out, as are the columns of developers and areas that no modelled service
reads.
-/

import Mathlib.Data.Rat.Init
import TopChoice.Common.AppException
import TopChoice.Lib.Table

namespace TopChoice
namespace Catalog

/-- A row of `developers`. -/
structure Developer where
  id : String
  slug : String
  name : String
  logoUrl : Option String
  projectsCount : ℕ
  deriving DecidableEq, Repr

/-- A row of `areas`. -/
structure Area where
  id : String
  nameEn : String
  city : String
  governorate : String
  propertyCount : ℕ
  deriving DecidableEq, Repr

/-- The columns of a compound that describe it. -/
structure CompoundContent where
  nameAr : String
  descriptionEn : Option String
  descriptionAr : Option String
  startingPrice : Option ℕ
  maxPrice : Option ℕ
  minAreaSqm : Option ℕ
  maxAreaSqm : Option ℕ
  deliveryYear : Option ℕ
  installmentYears : Option ℕ
  downPaymentPercent : Option ℕ
  images : List String
  masterPlanUrl : Option String
  lat : ℚ
  lng : ℚ
  unitTypes : List String
  isFeatured : Bool
  deriving DecidableEq, Repr

/-- A row of `compounds`. -/
structure Compound where
  id : String
  slug : String
  name : String
  developerId : String
  areaId : String
  content : CompoundContent
  isActive : Bool
  deriving DecidableEq, Repr

/-- A row of `compound_amenities`. -/
structure CompoundAmenity where
  compoundId : String
  amenityId : String
  deriving DecidableEq, Repr

/-- The catalogue; of `amenities` the ids. -/
structure CatalogStore where
  developers : List Developer
  areas : List Area
  amenities : List String
  compounds : List Compound
  compoundAmenities : List CompoundAmenity
  deriving DecidableEq, Repr

namespace CatalogStore

/-- `prisma.developer.findUnique({ where: { id } })`. -/
def findDeveloper (id : String) (s : CatalogStore) : Option Developer :=
  Table.findUnique (fun d => d.id = id) s.developers

/-- `prisma.area.findUnique({ where: { id } })`. -/
def findArea (id : String) (s : CatalogStore) : Option Area :=
  Table.findUnique (fun a => a.id = id) s.areas

/-- `prisma.compound.findUnique({ where: { id } })`. -/
def findCompound (id : String) (s : CatalogStore) : Option Compound :=
  Table.findUnique (fun c => c.id = id) s.compounds

end CatalogStore

/-- The error of a reference to nothing; `field` is where the request has it. -/
def unknownRelation (kind id field message : String) : AppException :=
  { AppException.badRequest (kind ++ " \"" ++ id ++ "\" does not exist") .relatedResourceNotFound
    with details := [⟨some field, message, some "exists"⟩] }

end Catalog
end TopChoice
