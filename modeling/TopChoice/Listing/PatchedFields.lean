/-
# What an update leaves alone

The fields of a listing that `PropertiesService.update` does not rewrite when the request does
not name them.  Every nested object is rebuilt with the stored values for what is left out, but
`normalizeMedia` is not given the stored media: images, floor plans and links that a request
with a `media` leaves out are erased.

So an update touches only what it names exactly when its `media` names whatever is stored there
(`update_touches_named_iff`).  Of the images of a request the first becomes the primary one when
none is flagged, and all that are flagged stay so (`exactly_one_primary_iff`).
-/

import TopChoice.Listing.PropertiesService

namespace TopChoice
namespace Listing

/-- The fields the request does not name are the stored ones; what an update derives may change
with what it is derived from. -/
structure UpdatePropertyDto.Untouched (dto : UpdatePropertyDto) (before after : Property) :
    Prop where
  ids : after._id = before._id ∧ after.propertyId = before.propertyId ∧
    after.referenceNo = before.referenceNo
  slug : dto.slug = none → dto.title = none → after.slug = before.slug
  title : dto.title = none → after.title = before.title
  description : dto.description = none → after.description = before.description
  propertyType : dto.propertyType = none → after.propertyType = before.propertyType
  saleType : dto.saleType = none → after.saleType = before.saleType
  status : dto.status = none → after.status = before.status
  finishing : dto.finishing = none → after.finishing = before.finishing
  price : dto.price = none → after.price = before.price
  paymentPlan : dto.paymentPlan = none → after.paymentPlan = before.paymentPlan
  rooms : dto.specs = none → after.specs.bedrooms = before.specs.bedrooms ∧
    after.specs.bathrooms = before.specs.bathrooms ∧ after.specs.areaSqm = before.specs.areaSqm
  gardenSqm : dto.specs.bind SpecsDto.gardenSqm = none →
    after.specs.gardenSqm = before.specs.gardenSqm
  floor : dto.specs.bind SpecsDto.floor = none → after.specs.floor = before.specs.floor
  parkingSpots : dto.specs.bind SpecsDto.parkingSpots = none →
    after.specs.parkingSpots = before.specs.parkingSpots
  location : dto.location = none → after.location = before.location
  address : dto.location.bind LocationDto.address = none →
    after.location.address = before.location.address
  compound : dto.compoundId = none →
    after.compound = before.compound ∧ after.developer = before.developer
  amenities : dto.amenities = none → after.amenities = before.amenities
  images : dto.media.bind MediaDto.images = none → after.media.images = before.media.images
  floorPlans : dto.media.bind MediaDto.floorPlans = none →
    after.media.floorPlans = before.media.floorPlans
  videoUrl : dto.media.bind MediaDto.videoUrl = none → after.media.videoUrl = before.media.videoUrl
  tourUrl : dto.media.bind MediaDto.tourUrl = none → after.media.tourUrl = before.media.tourUrl
  stats : after.stats = before.stats
  isFeatured : dto.isFeatured = none → after.isFeatured = before.isFeatured
  publishedAt : dto.publishedAt = none → after.publishedAt = before.publishedAt
  deletedAt : after.deletedAt = before.deletedAt

/-- A `media` of the request names whatever is stored there. -/
def UpdatePropertyDto.NamesStoredMedia (dto : UpdatePropertyDto) (before : Property) : Prop :=
  ∀ media ∈ dto.media,
    (media.images = none → before.media.images = []) ∧
    (media.floorPlans = none → before.media.floorPlans = []) ∧
    (media.videoUrl = none → before.media.videoUrl = none) ∧
    (media.tourUrl = none → before.media.tourUrl = none)

section Media

variable (r : Runtime)

/-- Nothing is stored where a `media` names nothing. -/
theorem normalizeMedia_unnamed (media : MediaDto) :
    (media.images = none → (normalizeMedia r (some media)).images = []) ∧
    (media.floorPlans = none → (normalizeMedia r (some media)).floorPlans = []) ∧
    (media.videoUrl = none → (normalizeMedia r (some media)).videoUrl = none) ∧
    (media.tourUrl = none → (normalizeMedia r (some media)).tourUrl = none) := by
  refine ⟨fun h => ?_, fun h => ?_, fun h => ?_, fun h => ?_⟩ <;>
    simp [normalizeMedia, h, flagFirst]

/-- The media a `$set` leaves behind. -/
theorem media_set_changes (dto : UpdatePropertyDto) (before : Property) (slug : Option String)
    (area : Option Catalog.Area) (compound : Option (Catalog.Compound × Catalog.Developer)) :
    (((dto.changes r before slug area compound).cast r.unicode).set before).media =
      (dto.media.map fun media => normalizeMedia r (some media)).getD before.media := rfl

/-- **The media of a request** leave what they do not name alone when they name whatever is
stored. -/
theorem media_untouched_iff (dto : UpdatePropertyDto) (before : Property) (slug : Option String)
    (area : Option Catalog.Area) (compound : Option (Catalog.Compound × Catalog.Developer)) :
    let after := ((dto.changes r before slug area compound).cast r.unicode).set before
    ((dto.media.bind MediaDto.images = none → after.media.images = before.media.images) ∧
      (dto.media.bind MediaDto.floorPlans = none →
        after.media.floorPlans = before.media.floorPlans) ∧
      (dto.media.bind MediaDto.videoUrl = none → after.media.videoUrl = before.media.videoUrl) ∧
      (dto.media.bind MediaDto.tourUrl = none → after.media.tourUrl = before.media.tourUrl)) ↔
    dto.NamesStoredMedia before := by
  intro after
  have hmedia : after.media = _ := media_set_changes r dto before slug area compound
  rw [hmedia, UpdatePropertyDto.NamesStoredMedia]
  cases dto.media with
  | none =>
    exact iff_of_true ⟨fun _ => rfl, fun _ => rfl, fun _ => rfl, fun _ => rfl⟩
      (fun _ h => nomatch h)
  | some media =>
    obtain ⟨himages, hplans, hvideo, htour⟩ := normalizeMedia_unnamed r media
    rw [Option.map_some, Option.getD_some, Option.bind_some, Option.bind_some, Option.bind_some,
      Option.bind_some]
    have hsome (P : MediaDto → Prop) : (∀ m ∈ some media, P m) ↔ P media := by simp
    rw [hsome]
    refine and_congr (forall_congr' fun h => ?_) <| and_congr (forall_congr' fun h => ?_) <|
      and_congr (forall_congr' fun h => ?_) (forall_congr' fun h => ?_)
    · rw [himages h, eq_comm]
    · rw [hplans h, eq_comm]
    · rw [hvideo h, eq_comm]
    · rw [htour h, eq_comm]

/-- A field that is not among the changes. -/
theorem getD_map_of_none {α β : Type} {field : Option α} (h : field = none) (f : α → β)
    (stored : β) : (field.map f).getD stored = stored := by
  rw [h]
  rfl

/-- A field of `specs` that may be left out keeps the stored value. -/
theorem specs_set_changes (dto : UpdatePropertyDto) (before : Property) (slug : Option String)
    (area : Option Catalog.Area) (compound : Option (Catalog.Compound × Catalog.Developer)) :
    let after := ((dto.changes r before slug area compound).cast r.unicode).set before
    after.specs.gardenSqm = (dto.specs.bind SpecsDto.gardenSqm).getD before.specs.gardenSqm ∧
      after.specs.floor = (dto.specs.bind SpecsDto.floor).getD before.specs.floor ∧
      after.specs.parkingSpots =
        (dto.specs.bind SpecsDto.parkingSpots).getD before.specs.parkingSpots := by
  cases hspecs : dto.specs <;>
    simp [UpdatePropertyDto.changes, PropertyUpdate.cast, PropertyUpdate.set, hspecs]

/-- So does the address of a location. -/
theorem address_set_changes (dto : UpdatePropertyDto) (before : Property) (slug : Option String)
    (area : Option Catalog.Area) (compound : Option (Catalog.Compound × Catalog.Developer))
    (haddress : dto.location.bind LocationDto.address = none) :
    (((dto.changes r before slug area compound).cast r.unicode).set before).location.address =
      before.location.address := by
  cases hlocation : dto.location with
  | none => simp [UpdatePropertyDto.changes, PropertyUpdate.cast, PropertyUpdate.set, hlocation]
  | some location =>
    rw [hlocation, Option.bind_some] at haddress
    cases area <;>
      simp [UpdatePropertyDto.changes, PropertyUpdate.cast, PropertyUpdate.set, hlocation,
        LocationDto.location, PropertyLocation.cast, haddress]

/-- **What the changes leave alone**: all that the request does not name, when its media name
whatever is stored there. -/
theorem untouched_changes_iff (dto : UpdatePropertyDto) (before : Property) {slug : Option String}
    (hslug : dto.slug = none → dto.title = none → slug = none) {area : Option Catalog.Area}
    {compound : Option (Catalog.Compound × Catalog.Developer)}
    (hcompound : dto.compoundId = none → compound = none) :
    dto.Untouched before (((dto.changes r before slug area compound).cast r.unicode).set before) ↔
      dto.NamesStoredMedia before := by
  have hspecs := specs_set_changes r dto before slug area compound
  refine ⟨fun h => (media_untouched_iff r dto before slug area compound).1
    ⟨h.images, h.floorPlans, h.videoUrl, h.tourUrl⟩, fun h => ?_⟩
  obtain ⟨himages, hplans, hvideo, htour⟩ :=
    (media_untouched_iff r dto before slug area compound).2 h
  exact {
    ids := ⟨rfl, rfl, rfl⟩
    slug := fun hnone htitle => getD_map_of_none (hslug hnone htitle) _ _
    title := fun hnone => getD_map_of_none hnone _ _
    description := fun hnone => getD_map_of_none hnone _ _
    propertyType := fun hnone => congrArg (Option.getD · _) hnone
    saleType := fun hnone => congrArg (Option.getD · _) hnone
    status := fun hnone => congrArg (Option.getD · _) hnone
    finishing := fun hnone => congrArg (Option.getD · _) hnone
    price := fun hnone => getD_map_of_none hnone _ _
    paymentPlan := fun hnone => getD_map_of_none hnone _ _
    rooms := fun hnone => by
      have hall : (((dto.changes r before slug area compound).cast r.unicode).set before).specs =
          before.specs := getD_map_of_none hnone _ _
      rw [hall]
      exact ⟨rfl, rfl, rfl⟩
    gardenSqm := fun hnone => by rw [hspecs.1, hnone, Option.getD_none]
    floor := fun hnone => by rw [hspecs.2.1, hnone, Option.getD_none]
    parkingSpots := fun hnone => by rw [hspecs.2.2, hnone, Option.getD_none]
    location := fun hnone => by
      have hlocation : dto.location.bind (fun location =>
          area.map fun area => location.location area before.location.address) = none := by
        rw [hnone, Option.bind_none]
      exact getD_map_of_none hlocation _ _
    address := address_set_changes r dto before slug area compound
    compound := fun hnone => by
      rw [hcompound hnone]
      exact ⟨rfl, rfl⟩
    amenities := fun hnone => congrArg (Option.getD · _) hnone
    images := himages
    floorPlans := hplans
    videoUrl := hvideo
    tourUrl := htour
    stats := rfl
    isFeatured := fun hnone => congrArg (Option.getD · _) hnone
    publishedAt := fun hnone => getD_map_of_none hnone _ _
    deletedAt := rfl }

end Media

/-- **An update touches only what it names** exactly when its media name whatever is stored
there.  One that throws has changed nothing, and no update changes another listing. -/
theorem update_touches_named_iff (r : Runtime) (pg : PostgresAnswers) {s : PropertiesStore}
    (hindexed : s.listings.Indexed) (id : String) (dto : UpdatePropertyDto) {before : Property}
    (hbefore : s.listings.findOne id = some before) :
    (∃ e, update r id dto pg s = (.error e, s)) ∨
      ∃ after, (update r id dto pg s).1 = .ok after ∧
        (update r id dto pg s).2.listings.findOne id = some after ∧
        (∀ id', id' ≠ id →
          (update r id dto pg s).2.listings.findOne id' = s.listings.findOne id') ∧
        (dto.Untouched before after ↔ dto.NamesStoredMedia before) := by
  refine (update_written pg hindexed id dto).imp_right ?_
  rintro ⟨existing, row, isTaken, slug, area, compound, changes, listings, -, hrelated, rfl, rfl,
    hrewritten, h⟩
  obtain rfl := Option.some.inj (hrewritten.found.symm.trans hbefore)
  rw [h]
  refine ⟨_, rfl, ?_, fun id' hne => ?_, ?_⟩
  · rw [listings_afterWrite, hrewritten.findOne, if_pos rfl]
  · rw [listings_afterWrite, hrewritten.findOne, if_neg hne]
  · refine untouched_changes_iff r dto existing (fun hslug htitle => ?_) fun hcompound => ?_
    · rw [hslug, htitle]
      rfl
    · rcases ok_of_mapM (UpdatePropertyDto.of_related hrelated).2 with
        ⟨-, hnone⟩ | ⟨_, _, hsome, -⟩
      · exact hnone
      · rw [hcompound] at hsome
        cases hsome

theorem update_touches_named_iff_demo :
    (∃ e, update demoRuntime demoProperty.propertyId demoPriceUpdate .healthy demoMarketplace =
        (.error e, demoMarketplace)) ∨
      ∃ after, (update demoRuntime demoProperty.propertyId demoPriceUpdate .healthy
          demoMarketplace).1 = .ok after ∧
        (update demoRuntime demoProperty.propertyId demoPriceUpdate .healthy
          demoMarketplace).2.listings.findOne demoProperty.propertyId = some after ∧
        (∀ id', id' ≠ demoProperty.propertyId →
          (update demoRuntime demoProperty.propertyId demoPriceUpdate .healthy
            demoMarketplace).2.listings.findOne id' = demoMarketplace.listings.findOne id') ∧
        (demoPriceUpdate.Untouched demoProperty after ↔
          demoPriceUpdate.NamesStoredMedia demoProperty) :=
  update_touches_named_iff demoRuntime .healthy (by decide) demoProperty.propertyId demoPriceUpdate
    (by decide)

/-- The listing with a photograph. -/
def demoPhotographed : Property :=
  { demoProperty with
    media := ⟨[⟨"https://i.example/1", "external/i.example/1", 1600, 900, true, 0⟩], [], none,
      none⟩ }

/-- A video for it. -/
def demoVideoUpdate : UpdatePropertyDto :=
  { media := some { videoUrl := some "https://v.example/1" } }

/-- **A video takes the photographs away.** -/
theorem video_erases_images :
    ∃ after, (update demoRuntime demoPhotographed.propertyId demoVideoUpdate .healthy
        { demoMarketplace with
          listings := ⟨[demoPhotographed], [mirrorOf demoPhotographed]⟩ }).2.listings.findOne
        demoPhotographed.propertyId = some after ∧
      demoVideoUpdate.media.bind MediaDto.images = none ∧
      after.media.images = [] ∧ demoPhotographed.media.images ≠ [] := by
  refine ⟨{ demoPhotographed with media := ⟨[], [], some "https://v.example/1", none⟩ }, ?_⟩
  decide

/-! ### The primary image -/

section PrimaryImage

variable (r : Runtime) (media : MediaDto) {images : List PropertyImageDto}

/-- The images are flagged as the request flags them, or the first of them is. -/
theorem images_normalizeMedia (himages : media.images = some images) :
    ∃ stored : List PropertyImage,
      stored.map PropertyImage.isPrimary = images.map (·.isPrimary.getD false) ∧
      (normalizeMedia r (some media)).images =
        if stored.any PropertyImage.isPrimary then stored else flagFirst stored := by
  refine ⟨_, ?_, rfl⟩
  rw [Option.bind_some, himages, Option.getD_some]
  exact List.ext_getElem (by simp) fun i h₁ h₂ => by simp

/-- **Exactly one image is the primary one** when the request flags one at most; and only
then. -/
theorem exactly_one_primary_iff (himages : media.images = some images) (hne : images ≠ []) :
    (normalizeMedia r (some media)).images.countP PropertyImage.isPrimary = 1 ↔
      images.countP (·.isPrimary.getD false) ≤ 1 := by
  obtain ⟨stored, hflags, hstored⟩ := images_normalizeMedia r media himages
  have hcount : images.countP (·.isPrimary.getD false) =
      stored.countP PropertyImage.isPrimary := by
    have hmap := congrArg (List.countP id) hflags
    rw [List.countP_map, List.countP_map] at hmap
    exact hmap.symm
  rw [hstored, hcount]
  split_ifs with hany
  · have hpos := List.countP_pos_iff.2 (List.any_eq_true.1 hany)
    omega
  · have hnone : stored.countP PropertyImage.isPrimary = 0 :=
      List.countP_eq_zero.2 fun image himage h => hany (List.any_eq_true.2 ⟨image, himage, h⟩)
    refine iff_of_true ?_ (by omega)
    cases stored with
    | nil => exact absurd (List.map_eq_nil_iff.1 hflags.symm) hne
    | cons image rest =>
      rw [List.countP_cons] at hnone
      rw [flagFirst, List.countP_cons, if_pos rfl]
      omega

end PrimaryImage

/-- An image, flagged or not. -/
def flaggedImage (flag : Option Bool) : PropertyImageDto :=
  { url := "https://i.example/1", isPrimary := flag }

theorem exactly_one_primary_iff_demo :
    (normalizeMedia demoRuntime (some { images := some [flaggedImage none, flaggedImage (some true)] })
        ).images.countP PropertyImage.isPrimary = 1 ↔
      [flaggedImage none, flaggedImage (some true)].countP (·.isPrimary.getD false) ≤ 1 :=
  exactly_one_primary_iff demoRuntime _ rfl (List.cons_ne_nil _ _)

/-- **Two flagged images both stay flagged.** -/
theorem two_primary_images :
    (normalizeMedia demoRuntime
        (some { images := some [flaggedImage (some true), flaggedImage (some true)] })
        ).images.countP PropertyImage.isPrimary = 2 := rfl

end Listing
end TopChoice
