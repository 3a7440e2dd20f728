/-
# The listing document and its relational mirror

`apps/api-core/src/mongo/schemas/property.schema.ts`: the canonical listing
document.  `prisma/schema.prisma`: the row of `property_index` that mirrors it.
`PropertyMirrorService.mirrorOf` derives the row from the document.

The ids, the money and the counts are what the schema and the DTOs admit, after
the casts of the schema.  `createdAt` and `updatedAt` are managed by the drivers
and left out.
-/

import Mathlib.Data.Int.Notation
import Mathlib.Data.Rat.Init

namespace TopChoice
namespace Listing

/-- A `Date`, in milliseconds. -/
abbrev Date := ℕ

/-- `PROPERTY_TYPES`. -/
inductive PropertyType where
  | apartment
  | villa
  | townhouse
  | twinhouse
  | duplex
  | penthouse
  | studio
  | chalet
  | office
  | retail
  | clinic
  deriving DecidableEq, Repr

/-- `SALE_TYPES`. -/
inductive SaleType where
  | primary
  | resale
  | rent
  deriving DecidableEq, Repr

/-- `PROPERTY_STATUSES`. -/
inductive PropertyStatus where
  | available
  | reserved
  | sold
  | offPlan
  | delivered
  deriving DecidableEq, Repr

/-- `FINISHING_TYPES`. -/
inductive FinishingType where
  | coreShell
  | semiFinished
  | fullyFinished
  | furnished
  deriving DecidableEq, Repr

/-- The text of a property type. -/
def PropertyType.text : PropertyType → String
  | .apartment => "apartment"
  | .villa => "villa"
  | .townhouse => "townhouse"
  | .twinhouse => "twinhouse"
  | .duplex => "duplex"
  | .penthouse => "penthouse"
  | .studio => "studio"
  | .chalet => "chalet"
  | .office => "office"
  | .retail => "retail"
  | .clinic => "clinic"

/-- The text of a sale type. -/
def SaleType.text : SaleType → String
  | .primary => "primary"
  | .resale => "resale"
  | .rent => "rent"

/-- The text of a status. -/
def PropertyStatus.text : PropertyStatus → String
  | .available => "available"
  | .reserved => "reserved"
  | .sold => "sold"
  | .offPlan => "off_plan"
  | .delivered => "delivered"

/-- The text of a finishing. -/
def FinishingType.text : FinishingType → String
  | .coreShell => "core_shell"
  | .semiFinished => "semi_finished"
  | .fullyFinished => "fully_finished"
  | .furnished => "furnished"

/-- A hexadecimal digit as `ObjectId.toString` writes it. -/
def isLowerHexDigit (c : Char) : Bool := c.isDigit || ('a' ≤ c && c ≤ 'f')

/-- A Mongo `ObjectId`, by the 24 lowercase hexadecimal digits of its `toString`. -/
structure ObjectId where
  hex : String
  length_hex : hex.toList.length = 24
  isHex : hex.toList.all isLowerHexDigit = true
  deriving DecidableEq, Repr

/-- `LocalizedText`. -/
structure LocalizedText where
  en : String
  ar : String
  deriving DecidableEq, Repr

/-- `PropertyPrice`; the currency is always EGP. -/
structure PropertyPrice where
  amount : ℕ
  pricePerMeter : ℕ
  deriving DecidableEq, Repr

/-- `PropertyPaymentPlan`. -/
structure PropertyPaymentPlan where
  downPaymentPercent : ℕ
  installmentYears : ℕ
  monthlyInstallment : ℕ
  deliveryDate : String
  deriving DecidableEq, Repr

/-- `PropertySpecs`. -/
structure PropertySpecs where
  bedrooms : ℕ
  bathrooms : ℕ
  areaSqm : ℕ
  gardenSqm : ℕ
  floor : ℤ
  parkingSpots : ℕ
  deriving DecidableEq, Repr

/-- `GeoPoint`: `[lng, lat]`. -/
structure GeoPoint where
  coordinates : List ℚ
  deriving DecidableEq, Repr

/-- `PropertyLocation`. -/
structure PropertyLocation where
  areaId : String
  areaName : String
  city : String
  governorate : String
  address : String
  geo : GeoPoint
  deriving DecidableEq, Repr

/-- `CompoundRef`. -/
structure CompoundRef where
  id : String
  name : String
  slug : String
  deriving DecidableEq, Repr

/-- `DeveloperRef`. -/
structure DeveloperRef where
  id : String
  name : String
  slug : String
  logoUrl : Option String
  deriving DecidableEq, Repr

/-- `PropertyImage`. -/
structure PropertyImage where
  url : String
  key : String
  width : ℕ
  height : ℕ
  isPrimary : Bool
  order : ℤ
  deriving DecidableEq, Repr

/-- `FloorPlan`. -/
structure FloorPlan where
  url : String
  label : String
  deriving DecidableEq, Repr

/-- `PropertyMedia`. -/
structure PropertyMedia where
  images : List PropertyImage
  floorPlans : List FloorPlan
  videoUrl : Option String
  tourUrl : Option String
  deriving DecidableEq, Repr

/-- `PropertyStats`; `$inc` runs no validator, so a counter may go below zero. -/
structure PropertyStats where
  views : ℤ
  favorites : ℤ
  leads : ℤ
  deriving DecidableEq, Repr

/-- `Property`: the canonical listing document. -/
structure Property where
  _id : ObjectId
  propertyId : String
  slug : String
  referenceNo : String
  title : LocalizedText
  description : LocalizedText
  propertyType : PropertyType
  saleType : SaleType
  status : PropertyStatus
  finishing : FinishingType
  price : PropertyPrice
  paymentPlan : PropertyPaymentPlan
  specs : PropertySpecs
  location : PropertyLocation
  compound : CompoundRef
  developer : DeveloperRef
  amenities : List String
  media : PropertyMedia
  stats : PropertyStats
  isFeatured : Bool
  publishedAt : Option Date
  deletedAt : Option Date
  deriving DecidableEq, Repr

/-- A listing of the marketplace. -/
def demoProperty : Property where
  _id := ⟨"65f0c0de000000000000a001", by decide, by decide⟩
  propertyId := "0b9f1f0e-6d0a-4c55-8f43-1f2f3a4b5c6d"
  slug := "garden-villa-new-cairo"
  referenceNo := "TC-1001"
  title := ⟨"Garden villa in New Cairo", "فيلا بحديقة في القاهرة الجديدة"⟩
  description := ⟨"Corner villa", "فيلا ناصية"⟩
  propertyType := .villa
  saleType := .resale
  status := .available
  finishing := .fullyFinished
  price := ⟨12000000, 40000⟩
  paymentPlan := ⟨10, 8, 112500, "2027-06-30"⟩
  specs := ⟨4, 3, 300, 120, 0, 2⟩
  location := ⟨"area-1", "New Cairo", "Cairo", "Cairo", "", ⟨[31, 30]⟩⟩
  compound := ⟨"compound-1", "Palm Court", "palm-court"⟩
  developer := ⟨"developer-1", "Nile Homes", "nile-homes", none⟩
  amenities := ["pool"]
  media := ⟨[], [], none, none⟩
  stats := ⟨0, 0, 0⟩
  isFeatured := false
  publishedAt := some 1000
  deletedAt := none

/-! ### The mirror -/

/-- The columns of `property_index` that only an update rewrites. -/
structure ListingColumns where
  slug : String
  compoundId : Option String
  developerId : Option String
  areaId : Option String
  priceMin : ℕ
  status : PropertyStatus
  isFeatured : Bool
  publishedAt : Option Date
  deriving DecidableEq, Repr

/-- A row of `property_index`. -/
structure PropertyIndexRow extends ListingColumns where
  id : String
  mongoId : String
  deletedAt : Option Date
  deriving DecidableEq, Repr

/-- `mirrorOf`: the fields the relational mirror carries. -/
def mirrorOf (doc : Property) : PropertyIndexRow where
  id := doc.propertyId
  mongoId := doc._id.hex
  slug := doc.slug
  compoundId := some doc.compound.id
  developerId := some doc.developer.id
  areaId := some doc.location.areaId
  priceMin := doc.price.amount
  status := doc.status
  isFeatured := doc.isFeatured
  publishedAt := doc.publishedAt
  deletedAt := doc.deletedAt

/-! ### `$set` -/

/-- What `updateWithMirror` passes to `$set`: a new value for some of the fields.
The ids of a listing are never among them. -/
structure PropertyUpdate where
  slug : Option String := none
  referenceNo : Option String := none
  title : Option LocalizedText := none
  description : Option LocalizedText := none
  propertyType : Option PropertyType := none
  saleType : Option SaleType := none
  status : Option PropertyStatus := none
  finishing : Option FinishingType := none
  price : Option PropertyPrice := none
  paymentPlan : Option PropertyPaymentPlan := none
  specs : Option PropertySpecs := none
  location : Option PropertyLocation := none
  compound : Option CompoundRef := none
  developer : Option DeveloperRef := none
  amenities : Option (List String) := none
  media : Option PropertyMedia := none
  stats : Option PropertyStats := none
  isFeatured : Option Bool := none
  publishedAt : Option (Option Date) := none
  deletedAt : Option (Option Date) := none
  deriving DecidableEq, Repr

/-- `$set`: the document with the named fields replaced. -/
def PropertyUpdate.set (update : PropertyUpdate) (doc : Property) : Property where
  _id := doc._id
  propertyId := doc.propertyId
  slug := update.slug.getD doc.slug
  referenceNo := update.referenceNo.getD doc.referenceNo
  title := update.title.getD doc.title
  description := update.description.getD doc.description
  propertyType := update.propertyType.getD doc.propertyType
  saleType := update.saleType.getD doc.saleType
  status := update.status.getD doc.status
  finishing := update.finishing.getD doc.finishing
  price := update.price.getD doc.price
  paymentPlan := update.paymentPlan.getD doc.paymentPlan
  specs := update.specs.getD doc.specs
  location := update.location.getD doc.location
  compound := update.compound.getD doc.compound
  developer := update.developer.getD doc.developer
  amenities := update.amenities.getD doc.amenities
  media := update.media.getD doc.media
  stats := update.stats.getD doc.stats
  isFeatured := update.isFeatured.getD doc.isFeatured
  publishedAt := update.publishedAt.getD doc.publishedAt
  deletedAt := update.deletedAt.getD doc.deletedAt

@[simp] theorem PropertyUpdate.propertyId_set (update : PropertyUpdate) (doc : Property) :
    (update.set doc).propertyId = doc.propertyId := rfl

end Listing
end TopChoice
