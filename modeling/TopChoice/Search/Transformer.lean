/-
# From a listing to its Elasticsearch document

`Property.document` is a listing as Mongo stores it, under the keys of
`apps/api-core/src/mongo/schemas/property.schema.ts`.  `transform_property` of
`apps/search-svc/app/services/transformer.py` looks these keys up and writes the
fields of the index, each under its own name.  `createdAt` and `updatedAt` are
managed by the drivers and left out; no search asks for what is made of them.
-/

import TopChoice.Lib.FirstLeast
import TopChoice.Search.PyValue

namespace TopChoice
namespace Listing

open Search (PyValue)

/-! ### A listing as Mongo stores it -/

/-- A `LocalizedText` under its keys. -/
def LocalizedText.document (text : LocalizedText) : PyValue :=
  .dict [("en", .str text.en), ("ar", .str text.ar)]

/-- A `PropertyLocation` under its keys. -/
def PropertyLocation.document (location : PropertyLocation) : PyValue :=
  .dict [("areaId", .str location.areaId), ("areaName", .str location.areaName),
    ("city", .str location.city), ("governorate", .str location.governorate),
    ("address", .str location.address),
    ("geo", .dict [("type", .str "Point"),
      ("coordinates", .list (location.geo.coordinates.map .num))])]

/-- A `PropertyImage` under its keys. -/
def PropertyImage.document (image : PropertyImage) : PyValue :=
  .dict [("url", .str image.url), ("key", .str image.key), ("width", .num image.width),
    ("height", .num image.height), ("isPrimary", .bool image.isPrimary),
    ("order", .num image.order)]

@[simp] theorem PropertyImage.url_document (image : PropertyImage) :
    image.document.get "url" = .str image.url := rfl

@[simp] theorem PropertyImage.isPrimary_document (image : PropertyImage) :
    image.document.get "isPrimary" = .bool image.isPrimary := rfl

@[simp] theorem PropertyImage.order_document (image : PropertyImage) :
    image.document.get "order" = .num image.order := rfl

/-- A `PropertyMedia` under its keys. -/
def PropertyMedia.document (media : PropertyMedia) : PyValue :=
  .dict [("images", .list (media.images.map PropertyImage.document)),
    ("floorPlans", .list (media.floorPlans.map fun plan =>
      .dict [("url", .str plan.url), ("label", .str plan.label)])),
    ("videoUrl", .ofText media.videoUrl), ("tourUrl", .ofText media.tourUrl)]

/-- A `Date` or `null`. -/
def dateValue : Option Date → PyValue
  | none => .null
  | some ms => .datetime ms

/-- A listing under the keys of the schema. -/
def Property.document (doc : Property) : PyValue :=
  .dict [("_id", .objectId doc._id.hex), ("propertyId", .str doc.propertyId),
    ("slug", .str doc.slug), ("referenceNo", .str doc.referenceNo),
    ("title", doc.title.document), ("description", doc.description.document),
    ("propertyType", .str doc.propertyType.text), ("saleType", .str doc.saleType.text),
    ("status", .str doc.status.text), ("finishing", .str doc.finishing.text),
    ("price", .dict [("amount", .num doc.price.amount), ("currency", .str "EGP"),
      ("pricePerMeter", .num doc.price.pricePerMeter)]),
    ("paymentPlan", .dict [("downPaymentPercent", .num doc.paymentPlan.downPaymentPercent),
      ("installmentYears", .num doc.paymentPlan.installmentYears),
      ("monthlyInstallment", .num doc.paymentPlan.monthlyInstallment),
      ("deliveryDate", .str doc.paymentPlan.deliveryDate)]),
    ("specs", .dict [("bedrooms", .num doc.specs.bedrooms),
      ("bathrooms", .num doc.specs.bathrooms), ("areaSqm", .num doc.specs.areaSqm),
      ("gardenSqm", .num doc.specs.gardenSqm), ("floor", .num doc.specs.floor),
      ("parkingSpots", .num doc.specs.parkingSpots)]),
    ("location", doc.location.document),
    ("compound", .dict [("id", .str doc.compound.id), ("name", .str doc.compound.name),
      ("slug", .str doc.compound.slug)]),
    ("developer", .dict [("id", .str doc.developer.id), ("name", .str doc.developer.name),
      ("slug", .str doc.developer.slug), ("logoUrl", .ofText doc.developer.logoUrl)]),
    ("amenities", .list (doc.amenities.map .str)), ("media", doc.media.document),
    ("stats", .dict [("views", .num doc.stats.views), ("favorites", .num doc.stats.favorites),
      ("leads", .num doc.stats.leads)]),
    ("isFeatured", .bool doc.isFeatured), ("publishedAt", dateValue doc.publishedAt),
    ("deletedAt", dateValue doc.deletedAt)]

end Listing

namespace Search

open Listing (Property)

/-- What `transform_property` is called with besides the document. -/
structure TransformOptions where
  areaSlugs : List (String × String)
  mediaBaseUrl : Option String

section Transform

variable (py : Python) (options : TransformOptions)

/-! ### Images -/

/-- `_image_url`. -/
def imageUrl (image : PyValue) : Option String :=
  match py.cleanText (image.get "url") with
  | some url => some url
  | none =>
    match py.cleanText (image.get "key"), options.mediaBaseUrl.filter (· ≠ "") with
    | some key, some base =>
        some (String.ofList (base.toList.rdropWhile (· = '/')) ++ "/" ++
          String.ofList (key.toList.dropWhile (· = '/')))
    | key, _ => key

/-- `_primary_image`: `min` gives the first of the least. -/
def primaryImage (images : List PyValue) : Option String :=
  let primary := (images.find? fun img => py.toBool (img.get "isPrimary")).or
    (minBy (fun img => (py.toInt (some 0) (img.get "order")).getD 0) images)
  primary.bind (imageUrl py options)

/-! ### Suggestions -/

/-- `_suggest_entry`. -/
def suggestEntry (text : Option String) (suggestionType : String) (weight : ℕ)
    (areaId : Option String) : Option PyValue :=
  (text.bind fun text => cleanText (some text)).map fun cleaned =>
    .dict [("input", .list [.str cleaned]), ("weight", .num (max 1 weight)),
      ("contexts", .dict (("type", .list [.str suggestionType]) ::
        (areaId.map fun areaId => ("areaId", .list [.str areaId])).toList))]

/-- `SUGGEST_WEIGHTS`. -/
def suggestWeights : List (String × ℕ) :=
  [("area", 50), ("compound", 45), ("developer", 40), ("property", 20)]

/-- `FEATURED_SUGGEST_BONUS`. -/
def featuredSuggestBonus : ℕ := 10

/-- `build_suggest`. -/
def buildSuggest (titleEn titleAr compoundName developerName areaName areaId : Option String)
    (isFeatured : Bool) : List PyValue :=
  let weight := fun suggestionType => (suggestWeights.lookup suggestionType).getD 0
  let propertyWeight := weight "property" + if isFeatured then featuredSuggestBonus else 0
  [suggestEntry titleEn "property" propertyWeight areaId,
    suggestEntry titleAr "property" propertyWeight areaId,
    suggestEntry compoundName "compound" (weight "compound") areaId,
    suggestEntry developerName "developer" (weight "developer") areaId,
    suggestEntry areaName "area" (weight "area") areaId].filterMap id

/-! ### Coordinates -/

/-- The point of a latitude and a longitude that are in range. -/
def geoPoint (lat lng : Option ℚ) : PyValue :=
  match lat, lng with
  | some lat, some lng =>
      if (-90 ≤ lat ∧ lat ≤ 90) ∧ -180 ≤ lng ∧ lng ≤ 180 then
        .dict [("lat", .num lat), ("lon", .num lng)]
      else .null
  | _, _ => .null

/-- `extract_geo_point`; a falsy `geo` has none of the shapes. -/
def extractGeoPoint (geo : PyValue) : PyValue :=
  match geo with
  | .dict (item :: items) =>
      let geo := PyValue.dict (item :: items)
      match geo.get "coordinates" with
      | .list (lng :: lat :: _) => geoPoint (py.toFloat none lat) (py.toFloat none lng)
      | _ => geoPoint (py.toFloat none (geo.getOr "lat" (geo.get "latitude")))
          (py.toFloat none (geo.getOr "lon" (geo.getOr "lng" (geo.get "longitude"))))
  | .list (lng :: lat :: _) => geoPoint (py.toFloat none lat) (py.toFloat none lng)
  | _ => .null

/-! ### The document -/

/-- `transform_property`: the fields besides `id` and `indexedAt`. -/
def transformFields (doc : PyValue) (now : ℕ) : List (String × PyValue) :=
  let text := fun keys => py.cleanText (doc.getPath keys .null)
  let number := fun default keys => py.toInt default (doc.getPath keys .null)
  let float := fun default keys => py.toFloat default (doc.getPath keys .null)
  let mongoId := (py.cleanText (doc.get "mongoId")).or <| match doc.get "_id" with
    | .null => none
    | .objectId hex => some hex
    | .str s => some s
    | value => some (py.str value)
  let titleEn := text ["title", "en"]
  let titleAr := text ["title", "ar"]
  let areaSqm := float none ["specs", "areaSqm"]
  let gardenSqm := float (some 0) ["specs", "gardenSqm"]
  let parkingSpots := (number (some 0) ["specs", "parkingSpots"]).getD 0
  let price := float none ["price", "amount"]
  let pricePerMeter := (number none ["price", "pricePerMeter"]).or
    ((price.filter (· ≠ 0)).bind fun price => (areaSqm.filter (· ≠ 0)).map fun areaSqm =>
      py.pricePerMeter price areaSqm)
  let downPaymentPercent := float none ["paymentPlan", "downPaymentPercent"]
  let downPaymentAmount := price.bind fun price => downPaymentPercent.map fun percent =>
    py.downPaymentAmount price percent
  let deliveryDate := py.toIso (doc.getPath ["paymentPlan", "deliveryDate"] .null)
  let status := py.cleanText (doc.get "status")
  let areaId := text ["location", "areaId"]
  let areaName := text ["location", "areaName"]
  let areaSlug := (areaId.bind fun areaId => cleanText (options.areaSlugs.lookup areaId)).or
    (py.slugify areaName)
  let images := ((doc.getPath ["media", "images"] (.list [])).or (.list [])).elements.filter
    PyValue.isMapping
  let imageUrls := images.filterMap (imageUrl py options)
  let amenities := py.dedupe ((doc.get "amenities").or (.list [])).elements
  let isFeatured := py.toBool (doc.get "isFeatured")
  let views := (number (some 0) ["stats", "views"]).getD 0
  let favorites := (number (some 0) ["stats", "favorites"]).getD 0
  let leads := (number (some 0) ["stats", "leads"]).getD 0
  let compoundName := text ["compound", "name"]
  let developerName := text ["developer", "name"]
  [("mongoId", .ofText mongoId), ("slug", .ofText (py.cleanText (doc.get "slug"))),
    ("referenceNo", .ofText (py.cleanText (doc.get "referenceNo"))),
    ("title_en", .ofText titleEn), ("title_ar", .ofText titleAr),
    ("description_en", .ofText (text ["description", "en"])),
    ("description_ar", .ofText (text ["description", "ar"])),
    ("propertyType", .ofText (py.cleanText (doc.get "propertyType"))),
    ("saleType", .ofText (py.cleanText (doc.get "saleType"))), ("status", .ofText status),
    ("finishing", .ofText (py.cleanText (doc.get "finishing"))),
    ("price", .ofNumber price), ("pricePerMeter", .ofInt pricePerMeter),
    ("currency", .ofText ((text ["price", "currency"]).or (some "EGP"))),
    ("downPaymentPercent", .ofNumber downPaymentPercent),
    ("downPaymentAmount", .ofInt downPaymentAmount),
    ("installmentYears", .ofInt (number none ["paymentPlan", "installmentYears"])),
    ("monthlyInstallment", .ofInt (number none ["paymentPlan", "monthlyInstallment"])),
    ("deliveryDate", .ofText deliveryDate), ("deliveryYear", .ofInt (py.yearOf deliveryDate)),
    ("bedrooms", .ofInt (number (some 0) ["specs", "bedrooms"])),
    ("bathrooms", .ofInt (number (some 0) ["specs", "bathrooms"])),
    ("areaSqm", .ofNumber areaSqm), ("gardenSqm", .ofNumber gardenSqm),
    ("floor", .ofInt (number none ["specs", "floor"])), ("parkingSpots", .num parkingSpots),
    ("areaId", .ofText areaId), ("areaName", .ofText areaName), ("areaSlug", .ofText areaSlug),
    ("city", .ofText (text ["location", "city"])),
    ("governorate", .ofText (text ["location", "governorate"])),
    ("address", .ofText (text ["location", "address"])),
    ("geo", extractGeoPoint py (doc.getPath ["location", "geo"] .null)),
    ("compoundId", .ofText (text ["compound", "id"])), ("compoundName", .ofText compoundName),
    ("compoundSlug", .ofText ((text ["compound", "slug"]).or (py.slugify compoundName))),
    ("developerId", .ofText (text ["developer", "id"])),
    ("developerName", .ofText developerName),
    ("developerSlug", .ofText ((text ["developer", "slug"]).or (py.slugify developerName))),
    ("developerLogo", .ofText (text ["developer", "logoUrl"])),
    ("amenities", .list (amenities.map .str)), ("amenitiesCount", .num amenities.length),
    ("isFeatured", .bool isFeatured),
    ("isDelivered", .bool (status = some "delivered" || py.isPast deliveryDate now)),
    ("hasGarden", .bool (gardenSqm.any fun gardenSqm => 0 < gardenSqm)),
    ("hasParking", .bool (0 < parkingSpots)),
    ("popularity", .num (views + favorites * 3 + leads * 5 : ℤ)),
    ("primaryImage", .ofText (primaryImage py options images)),
    ("images", .list ((imageUrls.take 10).map .str)), ("imagesCount", .num images.length),
    ("stats", .dict [("views", .num views), ("favorites", .num favorites),
      ("leads", .num leads)]),
    ("publishedAt", .ofText (py.toIso (doc.get "publishedAt"))),
    ("createdAt", .ofText (py.toIso (doc.get "createdAt"))),
    ("updatedAt", .ofText (py.toIso (doc.get "updatedAt"))),
    ("suggest", .list (buildSuggest titleEn titleAr compoundName developerName areaName areaId
      isFeatured))]

/-- The fields of a listing, as `transformProperty` takes them. -/
def flatten (doc : SourceDoc Property) (now : ℕ) : List (String × PyValue) :=
  transformFields py options doc.body.document now

/-- The `_source` of an Elasticsearch document. -/
def EsDoc.source (doc : EsDoc (List (String × PyValue))) : PyValue :=
  .dict (("id", .str doc.id) :: ("indexedAt", .str (py.isoformat doc.indexedAt)) :: doc.fields)

end Transform

end Search
end TopChoice
