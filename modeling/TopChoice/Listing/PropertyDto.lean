/-
# Requests, and the documents they ask for

`apps/api-core/src/modules/properties/dto/property.dto.ts`, and the part of
`properties.service.ts` that builds the document of a `create` and the `$set` of
an `update`.

The casts are those of `property.schema.ts`: a text with `trim: true` is trimmed
and the slug is put in lower case, in a document and in a filter.  What is
computed in floating point or by the URL parser is a parameter (`Runtime`).
-/

import TopChoice.Catalog.Store
import TopChoice.Common.Text
import TopChoice.Listing.Property

namespace TopChoice
namespace Listing

open Catalog (Area Compound Developer)

/-! ### Requests -/

/-- `PriceDto`; the currency can only be EGP. -/
structure PriceDto where
  amount : ℕ
  pricePerMeter : Option ℕ := none
  deriving DecidableEq, Repr

/-- `PaymentPlanDto`. -/
structure PaymentPlanDto where
  downPaymentPercent : ℕ
  installmentYears : ℕ
  monthlyInstallment : Option ℕ := none
  deliveryDate : String
  deriving DecidableEq, Repr

/-- `SpecsDto`. -/
structure SpecsDto where
  bedrooms : ℕ
  bathrooms : ℕ
  areaSqm : ℕ
  gardenSqm : Option ℕ := none
  floor : Option ℤ := none
  parkingSpots : Option ℕ := none
  deriving DecidableEq, Repr

/-- `GeoDto`, with what `IsLatitude` and `IsLongitude` check. -/
structure GeoDto where
  lat : ℚ
  lng : ℚ
  isLatitude : -90 ≤ lat ∧ lat ≤ 90
  isLongitude : -180 ≤ lng ∧ lng ≤ 180
  deriving DecidableEq, Repr

/-- `LocationDto`. -/
structure LocationDto where
  areaId : String
  address : Option String := none
  geo : GeoDto
  deriving DecidableEq, Repr

/-- `PropertyImageDto`. -/
structure PropertyImageDto where
  url : String
  key : Option String := none
  width : Option ℕ := none
  height : Option ℕ := none
  isPrimary : Option Bool := none
  order : Option ℕ := none
  deriving DecidableEq, Repr

/-- `FloorPlanDto`. -/
structure FloorPlanDto where
  url : String
  label : Option String := none
  deriving DecidableEq, Repr

/-- `MediaDto`. -/
structure MediaDto where
  images : Option (List PropertyImageDto) := none
  floorPlans : Option (List FloorPlanDto) := none
  videoUrl : Option String := none
  tourUrl : Option String := none
  deriving DecidableEq, Repr

/-- `CreatePropertyDto`; `publishedAt` is the date it parses to. -/
structure CreatePropertyDto where
  slug : Option String := none
  referenceNo : Option String := none
  title : LocalizedText
  description : LocalizedText
  propertyType : PropertyType
  saleType : SaleType
  status : Option PropertyStatus := none
  finishing : FinishingType
  price : PriceDto
  paymentPlan : PaymentPlanDto
  specs : SpecsDto
  location : LocationDto
  compoundId : String
  amenities : Option (List String) := none
  media : Option MediaDto := none
  isFeatured : Option Bool := none
  publishedAt : Option Date := none
  deriving DecidableEq, Repr

/-- `UpdatePropertyDto`: every field of `CreatePropertyDto`, none of them
required.  A nested object has its required fields when it is there. -/
structure UpdatePropertyDto where
  slug : Option String := none
  referenceNo : Option String := none
  title : Option LocalizedText := none
  description : Option LocalizedText := none
  propertyType : Option PropertyType := none
  saleType : Option SaleType := none
  status : Option PropertyStatus := none
  finishing : Option FinishingType := none
  price : Option PriceDto := none
  paymentPlan : Option PaymentPlanDto := none
  specs : Option SpecsDto := none
  location : Option LocationDto := none
  compoundId : Option String := none
  amenities : Option (List String) := none
  media : Option MediaDto := none
  isFeatured : Option Bool := none
  publishedAt : Option Date := none
  deriving DecidableEq, Repr

/-! ### What the runtime computes -/

/-- The Unicode tables, `Date.now().toString(36)`, `Math.round(amount / areaSqm)`,
`monthlyInstallment`, `deriveMediaKey`, and the text of the number after the one some digits are
parsed as, when that is finite. -/
structure Runtime where
  unicode : Unicode
  timestamp : String
  pricePerMeter : ℕ → ℕ → ℕ
  monthlyInstallment : ℕ → ℕ → ℕ → ℕ
  deriveMediaKey : String → String
  nextNumber : ℕ → Option String

/-! ### The casts of the schema -/

/-- The casts of a slug. -/
def castSlug (u : Unicode) (slug : String) : String := trim (u.toLowerCase slug)

/-- The casts leave a slug as it is, where `toLowerCase` does. -/
theorem castSlug_eq_self {u : Unicode} {slug : String} (hlower : u.toLowerCase slug = slug)
    (h : IsSlug slug) : castSlug u slug = slug := by
  rw [castSlug, hlower, trim_of_isSlug h]

/-- What `buildUniqueSlug` chooses for a listing is a slug after the casts, too. -/
theorem isSlug_castSlug_chosen {u : Unicode} {timestamp : String}
    (hlower : ∀ slug, IsSlug slug → u.toLowerCase slug = slug) (htimestamp : IsSlug timestamp)
    (desired : String) (isTaken : String → Bool) :
    IsSlug (castSlug u (buildUniqueSlug u timestamp desired "property" isTaken)) := by
  have hchosen := isSlug_buildUniqueSlug u htimestamp desired (by decide : IsSlug "property")
    isTaken
  rwa [castSlug_eq_self (hlower _ hchosen) hchosen]

/-- The casts of a `LocalizedText`. -/
def LocalizedText.cast (text : LocalizedText) : LocalizedText := ⟨trim text.en, trim text.ar⟩

/-- The casts of a `PropertyLocation`. -/
def PropertyLocation.cast (location : PropertyLocation) : PropertyLocation :=
  { location with
    areaName := trim location.areaName
    city := trim location.city
    governorate := trim location.governorate }

/-- The casts of a `CompoundRef`. -/
def CompoundRef.cast (ref : CompoundRef) : CompoundRef :=
  { ref with
    name := trim ref.name
    slug := trim ref.slug }

/-- The casts of a `DeveloperRef`. -/
def DeveloperRef.cast (ref : DeveloperRef) : DeveloperRef :=
  { ref with
    name := trim ref.name
    slug := trim ref.slug }

/-- The casts of a document. -/
def Property.cast (u : Unicode) (doc : Property) : Property :=
  { doc with
    slug := castSlug u doc.slug
    referenceNo := trim doc.referenceNo
    title := doc.title.cast
    description := doc.description.cast
    location := doc.location.cast
    compound := doc.compound.cast
    developer := doc.developer.cast }

/-- The casts of a `$set`. -/
def PropertyUpdate.cast (u : Unicode) (update : PropertyUpdate) : PropertyUpdate :=
  { update with
    slug := update.slug.map (castSlug u)
    referenceNo := update.referenceNo.map trim
    title := update.title.map LocalizedText.cast
    description := update.description.map LocalizedText.cast
    location := update.location.map PropertyLocation.cast
    compound := update.compound.map CompoundRef.cast
    developer := update.developer.map DeveloperRef.cast }

/-! ### The documents the requests ask for -/

/-- `images[0].isPrimary = true`. -/
def flagFirst : List PropertyImage → List PropertyImage
  | [] => []
  | image :: images => { image with isPrimary := true } :: images

/-- `normalizeMedia`. -/
def normalizeMedia (r : Runtime) (media : Option MediaDto) : PropertyMedia :=
  let images := ((media.bind MediaDto.images).getD []).mapIdx fun index image =>
    { url := image.url
      key := image.key.getD (r.deriveMediaKey image.url)
      width := image.width.getD 1600
      height := image.height.getD 900
      isPrimary := image.isPrimary.getD false
      order := image.order.getD index : PropertyImage }
  { images := if images.any PropertyImage.isPrimary then images else flagFirst images
    floorPlans := ((media.bind MediaDto.floorPlans).getD []).map fun plan =>
      ⟨plan.url, plan.label.getD ""⟩
    videoUrl := media.bind MediaDto.videoUrl
    tourUrl := media.bind MediaDto.tourUrl }

/-- The `location` of a document. -/
def LocationDto.location (dto : LocationDto) (area : Area) (address : String) :
    PropertyLocation where
  areaId := area.id
  areaName := area.nameEn
  city := area.city
  governorate := area.governorate
  address := dto.address.getD address
  geo := ⟨[dto.geo.lng, dto.geo.lat]⟩

/-- The `compound` of a document. -/
def compoundRef (compound : Compound) : CompoundRef :=
  ⟨compound.id, compound.name, compound.slug⟩

/-- The `developer` of a document. -/
def developerRef (developer : Developer) : DeveloperRef :=
  ⟨developer.id, developer.name, developer.slug, developer.logoUrl⟩

/-- The document `create` passes on. -/
def CreatePropertyDto.document (r : Runtime) (dto : CreatePropertyDto) (propertyId : String)
    (_id : ObjectId) (slug referenceNo : String) (area : Area) (compound : Compound)
    (developer : Developer) (now : Date) : Property where
  _id := _id
  propertyId := propertyId
  slug := slug
  referenceNo := dto.referenceNo.getD referenceNo
  title := dto.title
  description := dto.description
  propertyType := dto.propertyType
  saleType := dto.saleType
  status := dto.status.getD .available
  finishing := dto.finishing
  price :=
    { amount := dto.price.amount
      pricePerMeter := dto.price.pricePerMeter.getD
        (r.pricePerMeter dto.price.amount dto.specs.areaSqm) }
  paymentPlan :=
    { downPaymentPercent := dto.paymentPlan.downPaymentPercent
      installmentYears := dto.paymentPlan.installmentYears
      monthlyInstallment := dto.paymentPlan.monthlyInstallment.getD
        (r.monthlyInstallment dto.price.amount dto.paymentPlan.downPaymentPercent
          dto.paymentPlan.installmentYears)
      deliveryDate := dto.paymentPlan.deliveryDate }
  specs :=
    { bedrooms := dto.specs.bedrooms
      bathrooms := dto.specs.bathrooms
      areaSqm := dto.specs.areaSqm
      gardenSqm := dto.specs.gardenSqm.getD 0
      floor := dto.specs.floor.getD 0
      parkingSpots := dto.specs.parkingSpots.getD 0 }
  location := dto.location.location area ""
  compound := compoundRef compound
  developer := developerRef developer
  amenities := dto.amenities.getD []
  media := normalizeMedia r dto.media
  stats := ⟨0, 0, 0⟩
  isFeatured := dto.isFeatured.getD false
  publishedAt := some (dto.publishedAt.getD now)
  deletedAt := none

/-- The `$set` of `update`. -/
def UpdatePropertyDto.changes (r : Runtime) (dto : UpdatePropertyDto) (existing : Property)
    (slug : Option String) (area : Option Area) (compound : Option (Compound × Developer)) :
    PropertyUpdate :=
  let areaSqm := (dto.specs.map SpecsDto.areaSqm).getD existing.specs.areaSqm
  { slug := slug
    title := dto.title
    description := dto.description
    propertyType := dto.propertyType
    saleType := dto.saleType
    status := dto.status
    finishing := dto.finishing
    isFeatured := dto.isFeatured
    amenities := dto.amenities
    publishedAt := dto.publishedAt.map some
    media := dto.media.map fun media => normalizeMedia r (some media)
    specs := dto.specs.map fun specs =>
      { bedrooms := specs.bedrooms
        bathrooms := specs.bathrooms
        areaSqm := areaSqm
        gardenSqm := specs.gardenSqm.getD existing.specs.gardenSqm
        floor := specs.floor.getD existing.specs.floor
        parkingSpots := specs.parkingSpots.getD existing.specs.parkingSpots }
    price := dto.price.map fun price =>
      { amount := price.amount
        pricePerMeter := price.pricePerMeter.getD (r.pricePerMeter price.amount areaSqm) }
    paymentPlan := dto.paymentPlan.map fun plan =>
      { downPaymentPercent := plan.downPaymentPercent
        installmentYears := plan.installmentYears
        monthlyInstallment := plan.monthlyInstallment.getD
          (r.monthlyInstallment ((dto.price.map PriceDto.amount).getD existing.price.amount)
            plan.downPaymentPercent plan.installmentYears)
        deliveryDate := plan.deliveryDate }
    location := dto.location.bind fun location =>
      area.map fun area => location.location area existing.location.address
    compound := compound.map fun c => compoundRef c.1
    developer := compound.map fun c => developerRef c.2 }

end Listing
end TopChoice
