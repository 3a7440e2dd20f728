/-
# From an Elasticsearch hit to a result card

`SOURCE_FIELDS` of `apps/search-svc/app/services/query_builder.py`, the fields a
search asks Elasticsearch for; `web_point` of `geo.py`; `map_hit` of
`result_mapper.py`, which reshapes them for the web.  Each reads by name: a field
that the list or the document lacks is read as `None`.
-/

import TopChoice.Search.Transformer

namespace TopChoice
namespace Search

/-! ### The projection -/

/-- `SOURCE_FIELDS`. -/
def sourceFields : List String :=
  ["id", "slug", "referenceNo", "title_en", "title_ar", "description_en", "description_ar",
    "price", "currency", "pricePerMeter", "propertyType", "saleType", "status", "finishing",
    "bedrooms", "bathrooms", "areaSqm", "gardenSqm", "floor", "parkingSpots",
    "downPaymentPercent", "downPaymentAmount", "installmentYears", "monthlyInstallment",
    "deliveryDate", "areaId", "areaName", "areaSlug", "city", "compoundId", "compoundName",
    "compoundSlug", "developerId", "developerName", "developerSlug", "amenities",
    "primaryImage", "isFeatured", "geo", "publishedAt"]

/-- What Elasticsearch returns of a `_source` when it is asked for these fields. -/
def project (fields : List String) : PyValue → PyValue
  | .dict items => .dict (items.filter fun item => item.1 ∈ fields)
  | source => source

/-- **A projection keeps the fields it lists** and no other. -/
theorem get_project (fields : List String) (items : List (String × PyValue)) (key : String) :
    (project fields (.dict items)).get key =
      if key ∈ fields then (PyValue.dict items).get key else .null := by
  simp only [project, PyValue.get]
  induction items with
  | nil => simp
  | cons item items ih =>
      obtain ⟨name, value⟩ := item
      by_cases hname : name ∈ fields
      · rw [List.filter_cons_of_pos (by simpa using hname), List.lookup_cons, List.lookup_cons]
        by_cases hkey : key = name
        · simp [hkey, hname]
        · simp only [beq_eq_false_iff_ne.2 hkey, ih]
      · rw [List.filter_cons_of_neg (by simpa using hname), ih, List.lookup_cons]
        by_cases hkey : key = name
        · simp [hkey, hname]
        · simp only [beq_eq_false_iff_ne.2 hkey]

/-! ### The card -/

/-- `{"lat", "lng"}`. -/
structure WebPoint where
  lat : ℚ
  lng : ℚ
  deriving DecidableEq, Repr

/-- `web_point`; a falsy `geo` has none of the shapes. -/
def webPoint (py : Python) (geo : PyValue) : Option WebPoint :=
  let point := fun lat lng => (py.asFloat lat).bind fun lat =>
    (py.asFloat lng).map fun lng => WebPoint.mk lat lng
  match geo with
  | .dict (item :: items) =>
      let geo := PyValue.dict (item :: items)
      point (geo.getOr "lat" (geo.get "latitude"))
        (geo.getOr "lon" (geo.getOr "lng" (geo.get "longitude")))
  | .list (lng :: lat :: _) => point lat lng
  | _ => none

/-- `{"en", "ar"}`. -/
structure HitText where
  en : PyValue
  ar : PyValue

/-- `specs` of a card. -/
structure HitSpecs where
  bedrooms : PyValue
  bathrooms : PyValue
  areaSqm : PyValue
  gardenSqm : PyValue
  floor : PyValue
  parkingSpots : PyValue

/-- `paymentPlan` of a card. -/
structure HitPaymentPlan where
  downPaymentPercent : PyValue
  downPaymentAmount : PyValue
  installmentYears : PyValue
  monthlyInstallment : PyValue
  deliveryDate : PyValue

/-- What `map_hit` returns. -/
structure Hit where
  id : String
  slug : PyValue
  referenceNo : PyValue
  title : HitText
  price : PyValue
  currency : PyValue
  pricePerMeter : PyValue
  propertyType : PyValue
  saleType : PyValue
  status : PyValue
  finishing : PyValue
  specs : HitSpecs
  paymentPlan : HitPaymentPlan
  areaId : PyValue
  areaName : PyValue
  areaSlug : PyValue
  city : PyValue
  compoundId : PyValue
  compoundName : PyValue
  compoundSlug : PyValue
  developerId : PyValue
  developerName : PyValue
  developerSlug : PyValue
  amenities : List PyValue
  primaryImage : PyValue
  isFeatured : Bool
  geo : Option WebPoint
  publishedAt : PyValue
  score : PyValue
  description : Option HitText
  highlight : Option (List (String × List PyValue))
  distanceKm : Option ℚ

/-- A hit of Elasticsearch. -/
structure EsHit where
  _id : PyValue
  _source : PyValue
  _score : PyValue := .null
  highlight : List (String × PyValue) := []

/-- `map_hit`. -/
def mapHit (py : Python) (hit : EsHit) (origin : Option WebPoint) : Hit :=
  let source := hit._source.or (.dict [])
  let geo := webPoint py (source.get "geo")
  let descriptionEn := source.get "description_en"
  let descriptionAr := source.get "description_ar"
  { id := py.text ((source.get "id").or (hit._id.or (.str "")))
    slug := source.get "slug"
    referenceNo := source.get "referenceNo"
    title := ⟨source.get "title_en", source.get "title_ar"⟩
    price := source.get "price"
    currency := (source.get "currency").or (.str "EGP")
    pricePerMeter := source.get "pricePerMeter"
    propertyType := source.get "propertyType"
    saleType := source.get "saleType"
    status := source.get "status"
    finishing := source.get "finishing"
    specs :=
      { bedrooms := source.get "bedrooms"
        bathrooms := source.get "bathrooms"
        areaSqm := source.get "areaSqm"
        gardenSqm := source.get "gardenSqm"
        floor := source.get "floor"
        parkingSpots := source.get "parkingSpots" }
    paymentPlan :=
      { downPaymentPercent := source.get "downPaymentPercent"
        downPaymentAmount := source.get "downPaymentAmount"
        installmentYears := source.get "installmentYears"
        monthlyInstallment := source.get "monthlyInstallment"
        deliveryDate := source.get "deliveryDate" }
    areaId := source.get "areaId"
    areaName := source.get "areaName"
    areaSlug := source.get "areaSlug"
    city := source.get "city"
    compoundId := source.get "compoundId"
    compoundName := source.get "compoundName"
    compoundSlug := source.get "compoundSlug"
    developerId := source.get "developerId"
    developerName := source.get "developerName"
    developerSlug := source.get "developerSlug"
    amenities := ((source.get "amenities").or (.list [])).elements
    primaryImage := source.get "primaryImage"
    isFeatured := (source.get "isFeatured").truthy
    geo := geo
    publishedAt := source.get "publishedAt"
    score := hit._score
    description :=
      if descriptionEn.truthy || descriptionAr.truthy then some ⟨descriptionEn, descriptionAr⟩
      else none
    highlight :=
      if hit.highlight.isEmpty then none
      else some (hit.highlight.map fun item => (item.1, item.2.elements))
    distanceKm := origin.bind fun origin => geo.map fun geo =>
      py.distanceKm origin.lat origin.lng geo.lat geo.lng }

/-- The card of a document, when a search returns it. -/
def cardOf (py : Python) (doc : EsDoc (List (String × PyValue))) (score : PyValue)
    (highlight : List (String × PyValue)) (origin : Option WebPoint) : Hit :=
  mapHit py ⟨.str doc.id, project sourceFields (doc.source py), score, highlight⟩ origin

section Card

variable {py : Python} {doc : EsDoc (List (String × PyValue))}

/-- A field of the card is the field of the document, when `SOURCE_FIELDS` lists it. -/
theorem get_source (key : String) (hkey : key ∈ sourceFields) :
    ((project sourceFields (doc.source py)).or (.dict [])).get key = (doc.source py).get key := by
  have hlisted : ("id" : String) ∈ sourceFields := by decide
  have hor : (project sourceFields (doc.source py)).or (.dict []) =
      project sourceFields (doc.source py) := by
    rw [PyValue.or, if_pos]
    simp [EsDoc.source, project, hlisted, PyValue.truthy]
  rw [hor, EsDoc.source, get_project, if_pos hkey]

end Card

end Search
end TopChoice
