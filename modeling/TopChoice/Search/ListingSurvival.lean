/-
# A listing survives the index

A listing goes through three lists of names on its way to a result card: the
fields `transform_property` writes, those a search asks for (`SOURCE_FIELDS`) and
those `map_hit` reads.  What the card shows of a listing api-core wrote is what
the document holds (`listing_survives_index`), its texts stripped.

`str.strip` strips more than `String.prototype.trim`, which api-core uses, and
api-core trims neither amenities nor urls: see `padded_texts_are_stripped`.
-/

import TopChoice.Search.ResultMapper
import TopChoice.Search.WrittenListings

namespace TopChoice
namespace Search

open Listing (Property PropertyImage PropertiesStore PropertyCall propertyCalls)

/-! ### What a card is to show -/

/-- `distinct` has the texts of `texts`, each once, in their order. -/
structure Distinct (texts distinct : List String) : Prop where
  nodup : distinct.Nodup
  sublist : distinct.Sublist texts
  complete : ∀ text ∈ texts, text ∈ distinct

/-- The cover: the first image flagged primary, else the first of the least order. -/
def Covers (images : List PropertyImage) (image : PropertyImage) : Prop :=
  images.find? PropertyImage.isPrimary = some image ∨
    images.find? PropertyImage.isPrimary = none ∧ FirstLeast PropertyImage.order images image

/-- The card shows the listing; `clean` is what becomes of a text. -/
structure Survives (py : Python) (clean : String → Option String) (doc : Property) (hit : Hit) :
    Prop where
  slug : hit.slug = .str doc.slug
  title : hit.title = ⟨.ofText (clean doc.title.en), .ofText (clean doc.title.ar)⟩
  price : hit.price = .num doc.price.amount
  pricePerMeter : hit.pricePerMeter = .num doc.price.pricePerMeter
  specs : hit.specs =
    { bedrooms := .num doc.specs.bedrooms
      bathrooms := .num doc.specs.bathrooms
      areaSqm := .num doc.specs.areaSqm
      gardenSqm := .num doc.specs.gardenSqm
      floor := .num doc.specs.floor
      parkingSpots := .num doc.specs.parkingSpots }
  downPaymentPercent : hit.paymentPlan.downPaymentPercent = .num doc.paymentPlan.downPaymentPercent
  installmentYears : hit.paymentPlan.installmentYears = .num doc.paymentPlan.installmentYears
  monthlyInstallment : hit.paymentPlan.monthlyInstallment = .num doc.paymentPlan.monthlyInstallment
  deliveryDate : hit.paymentPlan.deliveryDate = .str doc.paymentPlan.deliveryDate
  area : hit.areaId = .str doc.location.areaId ∧
    hit.areaName = .ofText (clean doc.location.areaName)
  compound : hit.compoundId = .str doc.compound.id ∧
    hit.compoundName = .ofText (clean doc.compound.name) ∧
    hit.compoundSlug = .ofText ((clean doc.compound.slug).or
      (py.slugify (clean doc.compound.name)))
  developer : hit.developerId = .str doc.developer.id ∧
    hit.developerName = .ofText (clean doc.developer.name) ∧
    hit.developerSlug = .ofText ((clean doc.developer.slug).or
      (py.slugify (clean doc.developer.name)))
  status : hit.status = .str doc.status.text
  saleType : hit.saleType = .str doc.saleType.text
  amenities : ∃ amenities, hit.amenities = amenities.map .str ∧
    Distinct (doc.amenities.filterMap clean) amenities
  geo : ∃ point, hit.geo = some point ∧ doc.location.geo.coordinates = [point.lng, point.lat]
  cover : doc.media.images = [] ∧ hit.primaryImage = .null ∨
    ∃ image, Covers doc.media.images image ∧ hit.primaryImage = .ofText (clean image.url)

/-! ### Amenities -/

/-- **`_dedupe` keeps each text once**, in the order of the document. -/
theorem distinct_dedupe (py : Python) (texts : List String) :
    Distinct (texts.filterMap fun text => cleanText (some text)) (py.dedupe (texts.map .str)) := by
  have hclean : (texts.map PyValue.str).filterMap py.cleanText =
      texts.filterMap fun text => cleanText (some text) := by
    rw [List.filterMap_map]
    simp only [Function.comp_def, Python.cleanText_str]
  refine ⟨(py.nodup_dedupeFrom _ []).1, hclean ▸ py.dedupeFrom_sublist _ [], fun text htext => ?_⟩
  exact py.mem_dedupeFrom (hclean ▸ htext) (List.not_mem_nil)

/-! ### The cover -/

/-- The cover is one of the images. -/
theorem Covers.mem {images : List PropertyImage} {image : PropertyImage}
    (h : Covers images image) : image ∈ images :=
  h.elim List.mem_of_find?_eq_some fun h => h.2.mem

section Images

variable (py : Python) (options : TransformOptions)

/-- The url of an image that has one. -/
theorem imageUrl_document {image : PropertyImage} (h : NonBlank image.url) :
    imageUrl py options image.document = cleanText (some image.url) := by
  have hne : strip image.url ≠ "" := stripped_ne_empty h
  have hclean : cleanText (some image.url) = some (strip image.url) := by simp [cleanText, hne]
  rw [hclean, imageUrl, PropertyImage.url_document, Python.cleanText_str, hclean]

/-- The order of an image, as `_primary_image` reads it. -/
theorem order_document (image : PropertyImage) :
    (py.toInt (some 0) (image.document.get "order")).getD 0 = image.order := by
  rw [PropertyImage.order_document, Python.toInt_intCast, Option.getD_some]

/-- **`_primary_image` is the url of the cover.** -/
theorem primaryImage_document {images : List PropertyImage} (hne : images ≠ [])
    (hurls : ∀ image ∈ images, NonBlank image.url) :
    ∃ image, Covers images image ∧
      primaryImage py options (images.map PropertyImage.document) =
        cleanText (some image.url) := by
  have hflag : (fun img : PyValue => py.toBool (img.get "isPrimary")) ∘ PropertyImage.document =
      PropertyImage.isPrimary := funext fun image => by simp
  rw [primaryImage, List.find?_map, hflag, minBy_map]
  simp only [order_document]
  cases hfind : images.find? PropertyImage.isPrimary with
  | some image =>
      have hcovers : Covers images image := Or.inl hfind
      refine ⟨image, hcovers, ?_⟩
      rw [Option.map_some, Option.some_or, Option.bind_some,
        imageUrl_document py options (hurls image hcovers.mem)]
  | none =>
      obtain ⟨image, hmin, hleast⟩ := exists_minBy PropertyImage.order hne
      refine ⟨image, Or.inr ⟨hfind, hleast⟩, ?_⟩
      rw [hmin, Option.map_none, Option.none_or, Option.map_some, Option.bind_some,
        imageUrl_document py options (hurls image hleast.mem)]

end Images

/-! ### Texts nothing is stripped from -/

/-- The characters of a slug are no white space of Python. -/
theorem cleanText_of_isSlug {slug : String} (h : IsSlug slug) : cleanText (some slug) = some slug :=
  cleanText_eq_self h.1 fun c hc => isSpace_of_printing <| by
    have := toNat_of_slugChar (h.2 c hc)
    omega

/-- Nor are those of a date. -/
theorem cleanText_of_isIsoDate {date : String} (h : isIsoDate date = true) :
    cleanText (some date) = some date := by
  rw [isIsoDate, Bool.and_eq_true, decide_eq_true_eq] at h
  have hne : date ≠ "" := by
    rintro rfl
    exact absurd h.1 (by decide)
  refine cleanText_eq_self hne fun c hc => isSpace_eq_false ?_
  obtain ⟨d, -, hfits⟩ := exists_fits (h.1.trans (by decide)) h.2 hc
  split_ifs at hfits
  · exact Or.inr (of_decide_eq_true hfits)
  · exact Or.inl (by simp [isHexDigit, hfits])

theorem cleanText_status (status : Listing.PropertyStatus) :
    cleanText (some status.text) = some status.text := by
  cases status <;> decide

theorem cleanText_saleType (saleType : Listing.SaleType) :
    cleanText (some saleType.text) = some saleType.text := by
  cases saleType <;> decide

/-! ### The card -/

section Card

variable (py : Python) (options : TransformOptions)

/-- The Elasticsearch document of a listing. -/
def indexed (doc : Property) (hdoc : Written doc) (indexedAt : Option ℕ) (now : ℕ) :
    EsDoc (List (String × PyValue)) :=
  transformProperty (flatten py options) (ofProperty doc hdoc.propertyId).toSource indexedAt now

variable {py options} {doc : Property} (hdoc : Written doc) (indexedAt : Option ℕ) (now : ℕ)

/-- A field of the card, by what `transform_property` writes under its name. -/
theorem get_card (key : String) {value : PyValue} (hkey : key ∈ sourceFields) (hid : key ≠ "id")
    (h : (transformFields py options doc.document now).lookup key = some value) :
    ((project sourceFields ((indexed py options doc hdoc indexedAt now).source py)).or
      (.dict [])).get key = value := by
  have hat : key ≠ "indexedAt" := by
    rintro rfl
    exact absurd hkey (by decide)
  rw [get_source key hkey, EsDoc.source, PyValue.get, List.lookup_cons, beq_eq_false_iff_ne.2 hid,
    List.lookup_cons, beq_eq_false_iff_ne.2 hat]
  exact congrArg (fun value => value.getD PyValue.null) h

/-- The cover of a listing. -/
theorem lookup_primaryImage :
    (transformFields py options doc.document now).lookup "primaryImage" =
      some (.ofText (primaryImage py options (doc.media.images.map PropertyImage.document))) := by
  have hmappings : (doc.media.images.map PropertyImage.document).filter PyValue.isMapping =
      doc.media.images.map PropertyImage.document := by
    rw [List.filter_eq_self]
    simp [PropertyImage.document, PyValue.isMapping]
  have hread : (transformFields py options doc.document now).lookup "primaryImage" =
      some (.ofText (primaryImage py options
        (((PyValue.list (doc.media.images.map PropertyImage.document)).or (.list [])).elements.filter
          PyValue.isMapping))) := rfl
  rw [hread, PyValue.elements_or_list, hmappings]

/-- The point of a listing: its first coordinate is the longitude. -/
theorem lookup_geo {lng lat : ℚ} (hgeo : doc.location.geo.coordinates = [lng, lat])
    (hlat : -90 ≤ lat ∧ lat ≤ 90) (hlng : -180 ≤ lng ∧ lng ≤ 180) :
    (transformFields py options doc.document now).lookup "geo" =
      some (.dict [("lat", .num lat), ("lon", .num lng)]) := by
  have hread : (transformFields py options doc.document now).lookup "geo" =
      some (extractGeoPoint py (.dict [("type", .str "Point"),
        ("coordinates", .list (doc.location.geo.coordinates.map .num))])) := rfl
  have hpoint : extractGeoPoint py (.dict [("type", .str "Point"),
      ("coordinates", .list [.num lng, .num lat])]) = geoPoint (some lat) (some lng) := rfl
  rw [hread, hgeo, List.map_cons, List.map_cons, List.map_nil, hpoint, geoPoint,
    if_pos ⟨hlat, hlng⟩]

/-- The amenities of a listing. -/
theorem lookup_amenities :
    (transformFields py options doc.document now).lookup "amenities" =
      some (.list ((py.dedupe (doc.amenities.map .str)).map .str)) := by
  have hread : (transformFields py options doc.document now).lookup "amenities" =
      some (.list ((py.dedupe ((PyValue.list (doc.amenities.map .str)).or
        (.list [])).elements).map .str)) := rfl
  rw [hread, PyValue.elements_or_list]

/-- A count of a listing is an integer already. -/
theorem lookup_count {key : String} {n : ℕ}
    (h : (transformFields py options doc.document now).lookup key =
      some (.ofInt (some (pyRound n)))) :
    (transformFields py options doc.document now).lookup key = some (.num n) := by
  rw [h, pyRound_natCast, PyValue.ofInt_some, Int.cast_natCast]

/-- So is the floor. -/
theorem lookup_floor :
    (transformFields py options doc.document now).lookup "floor" = some (.num doc.specs.floor) := by
  have hread : (transformFields py options doc.document now).lookup "floor" =
      some (.ofInt (some (pyRound doc.specs.floor))) := rfl
  rw [hread, pyRound_intCast, PyValue.ofInt_some]

/-- So are the parking spots. -/
theorem lookup_parkingSpots :
    (transformFields py options doc.document now).lookup "parkingSpots" =
      some (.num doc.specs.parkingSpots) := by
  have hread : (transformFields py options doc.document now).lookup "parkingSpots" =
      some (.num (pyRound doc.specs.parkingSpots)) := rfl
  rw [hread, pyRound_natCast, Int.cast_natCast]

/-- A text that is clean already. -/
theorem lookup_text {key text : String} (hclean : cleanText (some text) = some text)
    (h : (transformFields py options doc.document now).lookup key =
      some (.ofText (cleanText (some text)))) :
    (transformFields py options doc.document now).lookup key = some (.str text) := by
  rw [h, hclean]
  rfl

variable (score : PyValue) (highlight : List (String × PyValue)) (origin : Option WebPoint)

/-- **A listing survives the index**, its texts stripped. -/
theorem survives_of_written : Survives py (fun text => cleanText (some text)) doc
    (cardOf py (indexed py options doc hdoc indexedAt now) score highlight origin) := by
  have card := @get_card py options doc hdoc indexedAt now
  unfold cardOf mapHit
  generalize (project sourceFields ((indexed py options doc hdoc indexedAt now).source py)).or
    (.dict []) = source at card ⊢
  constructor <;> dsimp only
  case slug =>
    exact card "slug" (by decide) (by decide)
      (lookup_text now (cleanText_of_isSlug hdoc.slug) rfl)
  case title =>
    rw [card "title_en" (by decide) (by decide) rfl, card "title_ar" (by decide) (by decide) rfl]
    rfl
  case price => exact card "price" (by decide) (by decide) rfl
  case pricePerMeter =>
    exact card "pricePerMeter" (by decide) (by decide) (lookup_count now rfl)
  case specs =>
    rw [card "bedrooms" (by decide) (by decide) (lookup_count now rfl),
      card "bathrooms" (by decide) (by decide) (lookup_count now rfl),
      card "areaSqm" (by decide) (by decide) rfl, card "gardenSqm" (by decide) (by decide) rfl,
      card "floor" (by decide) (by decide) (lookup_floor now),
      card "parkingSpots" (by decide) (by decide) (lookup_parkingSpots now)]
    rfl
  case downPaymentPercent => exact card "downPaymentPercent" (by decide) (by decide) rfl
  case installmentYears =>
    exact card "installmentYears" (by decide) (by decide) (lookup_count now rfl)
  case monthlyInstallment =>
    exact card "monthlyInstallment" (by decide) (by decide) (lookup_count now rfl)
  case deliveryDate =>
    exact card "deliveryDate" (by decide) (by decide)
      (lookup_text now (cleanText_of_isIsoDate hdoc.deliveryDate) rfl)
  case area =>
    exact ⟨card "areaId" (by decide) (by decide) (lookup_text now (cleanText_uuid hdoc.areaId) rfl),
      card "areaName" (by decide) (by decide) rfl⟩
  case compound =>
    exact ⟨card "compoundId" (by decide) (by decide)
        (lookup_text now (cleanText_uuid hdoc.compoundId) rfl),
      card "compoundName" (by decide) (by decide) rfl,
      card "compoundSlug" (by decide) (by decide) rfl⟩
  case developer =>
    exact ⟨card "developerId" (by decide) (by decide)
        (lookup_text now (cleanText_uuid hdoc.developerId) rfl),
      card "developerName" (by decide) (by decide) rfl,
      card "developerSlug" (by decide) (by decide) rfl⟩
  case status =>
    exact card "status" (by decide) (by decide) (lookup_text now (cleanText_status doc.status) rfl)
  case saleType =>
    exact card "saleType" (by decide) (by decide)
      (lookup_text now (cleanText_saleType doc.saleType) rfl)
  case amenities =>
    refine ⟨py.dedupe (doc.amenities.map .str), ?_, distinct_dedupe py doc.amenities⟩
    rw [card "amenities" (by decide) (by decide) (lookup_amenities now)]
    exact PyValue.elements_or_list _
  case geo =>
    obtain ⟨lng, lat, hgeo, hlat, hlng⟩ := hdoc.geo
    refine ⟨⟨lat, lng⟩, ?_, hgeo⟩
    rw [card "geo" (by decide) (by decide) (lookup_geo now hgeo hlat hlng)]
    rfl
  case cover =>
    have hread := card "primaryImage" (by decide) (by decide) (lookup_primaryImage now)
    by_cases himages : doc.media.images = []
    · refine Or.inl ⟨himages, hread.trans ?_⟩
      rw [himages]
      rfl
    · obtain ⟨image, hcovers, himage⟩ := primaryImage_document py options himages hdoc.urls
      exact Or.inr ⟨image, hcovers, hread.trans (congrArg PyValue.ofText himage)⟩

end Card

/-- **The listings of the service survive the index.**  Along every run of its
calls, each document of the collection comes out of the index, of the projection
and of the mapping as it was written, its texts stripped. -/
theorem listing_survives_index (py : Python) (options : TransformOptions) (r : Listing.Runtime)
    (s t : PropertiesStore) (calls : List PropertyCall) (hr : Lawful r) (hs : AllWritten s)
    (hcalls : ∀ call ∈ calls, Admitted call) (hrun : (propertyCalls r).run s calls = some t)
    (doc : Property) (hmem : doc ∈ t.listings.properties) :
    ∃ hdoc : Written doc, ∀ indexedAt now score highlight origin,
      Survives py (fun text => cleanText (some text)) doc
        (cardOf py (indexed py options doc hdoc indexedAt now) score highlight origin) := by
  have ht := written_run hr hs calls hcalls hrun
  have hdoc : Written doc := ht.written doc.propertyId doc (ht.indexed.findOne hmem)
  exact ⟨hdoc, survives_of_written hdoc⟩

/-! ### A listing with padded texts -/

/-- A catalogue keyed by UUIDs, and no listing. -/
def demoCatalogue : PropertiesStore where
  listings := ⟨[], []⟩
  catalog :=
    { developers := [⟨"a3bb189e-8bf9-4888-9912-ace4e6543002", "nile-homes", "Nile Homes", none, 1⟩]
      areas := [⟨"16fd2706-8baf-433b-82eb-8c7fada847da", "New Cairo", "Cairo", "Cairo", 0⟩]
      amenities := []
      compounds := [⟨"6ecd8c99-4036-403d-bf84-cf8400f67836", "palm-court", "Palm Court",
        "a3bb189e-8bf9-4888-9912-ace4e6543002", "16fd2706-8baf-433b-82eb-8c7fada847da",
        ⟨"بالم كورت", none, none, none, none, none, none, none, none, none, [], none, 30, 31, [],
          false⟩, true⟩]
      compoundAmenities := [] }
  cache := .empty
  now := 5000

/-- A title that ends in a line break `trim` does not know, and a padded amenity. -/
def demoPaddedDto : Listing.CreatePropertyDto :=
  { Listing.demoPropertyDto with
    title := ⟨"Sky Flat\u0085", "شقة سكاي"⟩
    location := ⟨"16fd2706-8baf-433b-82eb-8c7fada847da", none, Listing.demoPropertyDto.location.geo⟩
    compoundId := "6ecd8c99-4036-403d-bf84-cf8400f67836"
    amenities := some ["pool", " pool", "gym"]
    media := some { images := some [⟨"https://img.example/a.jpg", none, none, none, none, none⟩] } }

/-- The listing is created. -/
def demoPaddedCalls : List PropertyCall :=
  [.create demoPaddedDto "7c9e6679-7425-40de-944b-e07fc1f90ae7" Listing.demoObjectId .healthy]

/-- The document of the listing. -/
def demoPaddedListing : Property where
  _id := Listing.demoObjectId
  propertyId := "7c9e6679-7425-40de-944b-e07fc1f90ae7"
  slug := "sky-flat"
  referenceNo := "TC-1001"
  title := ⟨"Sky Flat\u0085", "شقة سكاي"⟩
  description := ⟨"Two rooms", "غرفتان"⟩
  propertyType := .apartment
  saleType := .primary
  status := .available
  finishing := .semiFinished
  price := ⟨4000000, 40000⟩
  paymentPlan := ⟨10, 6, 50000, "2027-01-31"⟩
  specs := ⟨2, 1, 100, 0, 0, 0⟩
  location := ⟨"16fd2706-8baf-433b-82eb-8c7fada847da", "New Cairo", "Cairo", "Cairo", "",
    ⟨[31, 30]⟩⟩
  compound := ⟨"6ecd8c99-4036-403d-bf84-cf8400f67836", "Palm Court", "palm-court"⟩
  developer := ⟨"a3bb189e-8bf9-4888-9912-ace4e6543002", "Nile Homes", "nile-homes", none⟩
  amenities := ["pool", " pool", "gym"]
  media := ⟨[⟨"https://img.example/a.jpg", "external/https://img.example/a.jpg", 1600, 900, true,
    0⟩], [], none, none⟩
  stats := ⟨0, 0, 0⟩
  isFeatured := false
  publishedAt := some 5000
  deletedAt := none

/-- Python as far as the listing needs it. -/
def demoPython : Python where
  str := fun _ => ""
  float := fun _ => none
  int := fun s => some (Listing.parseDigits s.toList)
  lower := fun s => String.ofList (s.toList.map Char.toLower)
  asciiOnly := fun s => String.ofList (s.toList.filter fun c => c.toNat < 128)
  isoformat := fun ms => if ms = 5000 then "1970-01-01T00:00:05Z" else ""
  fromisoformat := fun s => if s = "2027-01-31" then some 1801353600000 else none
  pricePerMeter := fun price areaSqm => pyRound (price / areaSqm)
  downPaymentAmount := fun price percent => pyRound (price * percent / 100)
  distanceKm := fun _ _ _ _ => 0

/-- The tables for ASCII texts leave a slug as it is. -/
theorem toLower_of_slugChar {c : Char} (h : isSlugChar c = true ∨ c = '-') : c.toLower = c := by
  have hcode := toNat_of_slugChar h
  refine dif_neg fun ⟨hA, hZ⟩ => ?_
  have hA : 65 ≤ c.toNat := hA
  have hZ : c.toNat ≤ 90 := hZ
  omega

theorem lawful_demoRuntime : Lawful Listing.demoRuntime where
  toLowerCase s h := by
    have hmap : s.toList.map Char.toLower = s.toList :=
      (List.map_congr_left fun c hc => toLower_of_slugChar (h.2 c hc)).trans (List.map_id' _)
    exact (congrArg String.ofList hmap).trans String.ofList_toList
  timestamp := by decide

theorem allWritten_demoCatalogue : AllWritten demoCatalogue where
  indexed := by decide
  keys := ⟨by decide, by decide, by decide⟩
  written _ _ h := (nomatch h)

theorem admitted_demoPaddedCalls : ∀ call ∈ demoPaddedCalls, Admitted call := by decide

theorem run_demoPaddedCalls : ∃ t, (propertyCalls Listing.demoRuntime).run demoCatalogue
    demoPaddedCalls = some t ∧ demoPaddedListing ∈ t.listings.properties :=
  ⟨_, rfl, by decide⟩

theorem listing_survives_index_demo : ∃ hdoc : Written demoPaddedListing,
    Survives demoPython (fun text => cleanText (some text)) demoPaddedListing
      (cardOf demoPython (indexed demoPython ⟨[], none⟩ demoPaddedListing hdoc none 5000) .null []
        none) := by
  obtain ⟨t, hrun, hmem⟩ := run_demoPaddedCalls
  obtain ⟨hdoc, h⟩ := listing_survives_index demoPython ⟨[], none⟩ Listing.demoRuntime demoCatalogue
    t demoPaddedCalls lawful_demoRuntime allWritten_demoCatalogue admitted_demoPaddedCalls hrun
    demoPaddedListing hmem
  exact ⟨hdoc, h none 5000 .null [] none⟩

/-- **Padded texts are stripped:** the title `"Sky Flat\x85"` comes out of the index
as `"Sky Flat"`, and the amenities `"pool"` and `" pool"` as one. -/
theorem padded_texts_are_stripped :
    ¬ ∀ (py : Python) (options : TransformOptions) (r : Listing.Runtime) (s t : PropertiesStore)
      (calls : List PropertyCall), Lawful r → AllWritten s → (∀ call ∈ calls, Admitted call) →
      (propertyCalls r).run s calls = some t → ∀ doc ∈ t.listings.properties,
      ∃ hdoc : Written doc, ∀ indexedAt now score highlight origin,
        Survives py some doc
          (cardOf py (indexed py options doc hdoc indexedAt now) score highlight origin) := by
  intro h
  obtain ⟨t, hrun, hmem⟩ := run_demoPaddedCalls
  obtain ⟨hdoc, h⟩ := h demoPython ⟨[], none⟩ Listing.demoRuntime demoCatalogue t demoPaddedCalls
    lawful_demoRuntime allWritten_demoCatalogue admitted_demoPaddedCalls hrun demoPaddedListing hmem
  have hkept := (h none 5000 .null [] none).title
  have hstripped := (@survives_of_written demoPython ⟨[], none⟩ demoPaddedListing hdoc none
    5000 .null [] none).title
  have htitle := PyValue.ofText_injective (HitText.mk.inj (hstripped.symm.trans hkept)).1
  revert htitle
  decide

end Search
end TopChoice
