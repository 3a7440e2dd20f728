/-
# The listings api-core writes

What `PropertiesService.create` and `update` put into a document, of the fields
search-svc later strips or checks: the ids are UUIDs, as the columns of the
catalogue are, the slug is one of `buildUniqueSlug`, the delivery date and the
image urls passed the decorators of `property.dto.ts` (`Admitted`), and the
coordinates are a longitude and a latitude (`Written`).

Every document of the collection is so along every run of the service's calls
(`written_run`).
-/

import TopChoice.Listing.PropertiesService
import TopChoice.Search.Source

namespace TopChoice
namespace Search

open Catalog (CatalogStore Area Compound Developer)
open Listing

/-! ### What the requests and the runtime are checked for -/

/-- The digits and dashes of a date. -/
def isoDatePattern : String := "dddd-dd-dd"

/-- `/^\d{4}-\d{2}-\d{2}$/`. -/
def isIsoDate (value : String) : Bool :=
  value.toList.length = 10 &&
    (value.toList.zip isoDatePattern.toList).all fun p =>
      if p.2 = '-' then p.1 = '-' else p.1.isDigit

/-- A text that names something, such as the host of a url. -/
def NonBlank (value : String) : Prop := ∃ c ∈ value.toList, isSpace c = false

instance (value : String) : Decidable (NonBlank value) :=
  decidable_of_iff ((value.toList.any fun c => !isSpace c) = true) (by simp [NonBlank])

/-- `IsUrl`, of every image: none is blank. -/
def UrlsAdmitted (media : Option MediaDto) : Prop :=
  ∀ image ∈ (media.bind MediaDto.images).getD [], NonBlank image.url

instance (media : Option MediaDto) : Decidable (UrlsAdmitted media) :=
  inferInstanceAs (Decidable (∀ image ∈ (media.bind MediaDto.images).getD [], NonBlank image.url))

/-- A call whose request passed the decorators of its DTO; `uuidv4()` is a UUID. -/
def Admitted : PropertyCall → Prop
  | .create dto propertyId _ _ =>
      isUuidLike propertyId = true ∧ isIsoDate dto.paymentPlan.deliveryDate = true ∧
        UrlsAdmitted dto.media
  | .update _ dto _ =>
      (∀ plan ∈ dto.paymentPlan, isIsoDate plan.deliveryDate = true) ∧ UrlsAdmitted dto.media
  | _ => True

instance : ∀ call, Decidable (Admitted call)
  | .create _ _ _ _ => inferInstanceAs (Decidable (_ ∧ _ ∧ _))
  | .update _ _ _ => inferInstanceAs (Decidable (_ ∧ _))
  | .findOne _ => isTrue trivial
  | .remove _ _ => isTrue trivial
  | .tick _ => isTrue trivial

/-- The ids of the catalogue are of the type `uuid`. -/
structure UuidKeys (c : CatalogStore) : Prop where
  areas : ∀ area ∈ c.areas, isUuidLike area.id = true
  compounds : ∀ compound ∈ c.compounds, isUuidLike compound.id = true
  developers : ∀ developer ∈ c.developers, isUuidLike developer.id = true

/-- What the runtime does to slugs: `toLowerCase` leaves them as they are, and a
number in base 36 is one. -/
structure Lawful (r : Runtime) : Prop where
  toLowerCase : ∀ s, IsSlug s → r.unicode.toLowerCase s = s
  timestamp : IsSlug r.timestamp

/-! ### The documents -/

/-- A document as the service writes it. -/
structure Written (doc : Property) : Prop where
  propertyId : isUuidLike doc.propertyId = true
  slug : IsSlug doc.slug
  areaId : isUuidLike doc.location.areaId = true
  compoundId : isUuidLike doc.compound.id = true
  developerId : isUuidLike doc.developer.id = true
  deliveryDate : isIsoDate doc.paymentPlan.deliveryDate = true
  geo : ∃ lng lat, doc.location.geo.coordinates = [lng, lat] ∧ (-90 ≤ lat ∧ lat ≤ 90) ∧
    -180 ≤ lng ∧ lng ≤ 180
  urls : ∀ image ∈ doc.media.images, NonBlank image.url

section Writes

variable {r : Runtime} {s : PropertiesStore}

/-- The first image stays the same but for its flag. -/
theorem exists_of_mem_flagFirst {image : PropertyImage} {images : List PropertyImage}
    (h : image ∈ flagFirst images) : ∃ image' ∈ images, image'.url = image.url := by
  cases images with
  | nil => exact (nomatch h)
  | cons first images =>
      rcases List.mem_cons.1 h with rfl | h
      · exact ⟨first, List.mem_cons_self .., rfl⟩
      · exact ⟨image, List.mem_cons_of_mem _ h, rfl⟩

/-- The images of a request keep their urls. -/
theorem nonBlank_normalizeMedia {media : Option MediaDto} (h : UrlsAdmitted media) :
    ∀ image ∈ (normalizeMedia r media).images, NonBlank image.url := by
  have hindexed : ∀ image ∈ ((media.bind MediaDto.images).getD []).mapIdx fun index image =>
      { url := image.url
        key := image.key.getD (r.deriveMediaKey image.url)
        width := image.width.getD 1600
        height := image.height.getD 900
        isPrimary := image.isPrimary.getD false
        order := image.order.getD index : PropertyImage }, NonBlank image.url := by
    intro image himage
    obtain ⟨i, hi, rfl⟩ := List.mem_mapIdx.1 himage
    exact h _ (List.getElem_mem hi)
  intro image himage
  unfold normalizeMedia at himage
  simp only at himage
  split_ifs at himage
  · exact hindexed image himage
  · obtain ⟨image', hmem, hurl⟩ := exists_of_mem_flagFirst himage
    exact hurl ▸ hindexed image' hmem

/-- **A `create` builds such a document.** -/
theorem Written.of_builds (hr : Lawful r) (hkeys : UuidKeys s.catalog) {dto : CreatePropertyDto}
    {propertyId : String} {_id : ObjectId} {doc : Property} (hid : isUuidLike propertyId = true)
    (hdate : isIsoDate dto.paymentPlan.deliveryDate = true) (hurls : UrlsAdmitted dto.media)
    (h : dto.Builds r propertyId _id s doc) : Written doc := by
  obtain ⟨area, harea, compound, hcompound, developer, hdeveloper, isTaken, referenceNo, rfl⟩ := h
  exact
    { propertyId := hid
      slug := isSlug_castSlug_chosen hr.toLowerCase hr.timestamp _ isTaken
      areaId := hkeys.areas area harea
      compoundId := hkeys.compounds compound hcompound
      developerId := hkeys.developers developer hdeveloper
      deliveryDate := hdate
      geo := ⟨_, _, rfl, dto.location.geo.isLatitude, dto.location.geo.isLongitude⟩
      urls := nonBlank_normalizeMedia hurls }

/-- The location an `update` leaves: the one before, or that of an area it found. -/
theorem location_set_changes (dto : UpdatePropertyDto) (existing : Property) (slug : Option String)
    (area : Option Area) (compound : Option (Compound × Developer)) :
    (((dto.changes r existing slug area compound).cast r.unicode).set existing).location =
        existing.location ∨
      ∃ requested : LocationDto, ∃ a ∈ area,
        (((dto.changes r existing slug area compound).cast r.unicode).set existing).location =
          (requested.location a existing.location.address).cast := by
  cases hlocation : dto.location with
  | none =>
      refine Or.inl ?_
      simp [PropertyUpdate.set, PropertyUpdate.cast, UpdatePropertyDto.changes, hlocation]
  | some requested =>
      cases area with
      | none =>
          refine Or.inl ?_
          simp [PropertyUpdate.set, PropertyUpdate.cast, UpdatePropertyDto.changes, hlocation]
      | some a =>
          refine Or.inr ⟨requested, a, rfl, ?_⟩
          simp [PropertyUpdate.set, PropertyUpdate.cast, UpdatePropertyDto.changes, hlocation]

/-- **An `update` leaves such a document.** -/
theorem Written.set_changes (hr : Lawful r) (hkeys : UuidKeys s.catalog)
    {dto : UpdatePropertyDto} {existing : Property} {slug : Option String} {area : Option Area}
    {compound : Option (Compound × Developer)} {answer : Answer} (h : Written existing)
    (hdate : ∀ plan ∈ dto.paymentPlan, isIsoDate plan.deliveryDate = true)
    (hurls : UrlsAdmitted dto.media) (hrelated : dto.related answer s.catalog = .ok (area, compound))
    (hslug : ∀ chosen ∈ slug, ∃ desired isTaken,
      chosen = buildUniqueSlug r.unicode r.timestamp desired "property" isTaken) :
    Written (((dto.changes r existing slug area compound).cast r.unicode).set existing) := by
  obtain ⟨hareas, hcompounds⟩ := UpdatePropertyDto.mem_of_related hrelated
  have hlocation := location_set_changes (r := r) dto existing slug area compound
  constructor
  case propertyId => exact h.propertyId
  case slug =>
    cases hchosen : slug with
    | none => exact h.slug
    | some chosen =>
        obtain ⟨desired, isTaken, rfl⟩ := hslug chosen hchosen
        exact isSlug_castSlug_chosen hr.toLowerCase hr.timestamp desired isTaken
  case areaId =>
    rcases hlocation with hsame | ⟨requested, a, ha, hnew⟩
    · exact hsame ▸ h.areaId
    · exact hnew ▸ hkeys.areas a (hareas a ha)
  case compoundId =>
    cases compound with
    | none => exact h.compoundId
    | some found => exact hkeys.compounds _ (hcompounds found rfl).1
  case developerId =>
    cases compound with
    | none => exact h.developerId
    | some found => exact hkeys.developers _ (hcompounds found rfl).2
  case deliveryDate =>
    simp only [PropertyUpdate.set, PropertyUpdate.cast, UpdatePropertyDto.changes]
    cases hplan : dto.paymentPlan with
    | none => exact h.deliveryDate
    | some plan => exact hdate plan hplan
  case geo =>
    rcases hlocation with hsame | ⟨requested, a, ha, hnew⟩
    · exact hsame ▸ h.geo
    · exact hnew ▸ ⟨_, _, rfl, requested.geo.isLatitude, requested.geo.isLongitude⟩
  case urls =>
    simp only [PropertyUpdate.set, PropertyUpdate.cast, UpdatePropertyDto.changes]
    cases hmedia : dto.media with
    | none => exact h.urls
    | some media => exact nonBlank_normalizeMedia (hmedia ▸ hurls)

/-- What follows a write leaves the ids of the catalogue. -/
theorem UuidKeys.afterWrite (h : UuidKeys s.catalog) (pg : Answer) (propertyId areaId : String)
    (slug : Option String) (listings : ListingStore) :
    UuidKeys (Listing.afterWrite pg propertyId areaId slug
      { s with listings := listings }).catalog := by
  cases pg with
  | error m => exact h
  | ok =>
      refine ⟨fun area harea => ?_, h.compounds, h.developers⟩
      rcases Table.mem_updateOne harea with ⟨area', hfind, rfl⟩ | hmem
      · exact h.areas area' (Table.findUnique_some hfind).1
      · exact h.areas area hmem

end Writes

/-- Unique documents, each as the service writes them, and a catalogue keyed by UUIDs. -/
structure AllWritten (s : PropertiesStore) : Prop where
  indexed : s.listings.Indexed
  keys : UuidKeys s.catalog
  written : ∀ id doc, s.listings.findOne id = some doc → Written doc

section Runs

variable {r : Runtime} {s t : PropertiesStore}

/-- A call keeps the keys of the catalogue. -/
theorem UuidKeys.exec (h : UuidKeys s.catalog) (hindexed : s.listings.Indexed)
    (call : PropertyCall) : UuidKeys (call.exec r s).catalog := by
  cases call with
  | findOne idOrSlug =>
      rcases findOne_spec (r := r) (s := s) idOrSlug with ⟨d, -, heq⟩ | heq | ⟨d, -, -, heq⟩ <;>
        rw [PropertyCall.exec, heq] <;> exact h
  | create dto propertyId _id pg =>
      rcases create_spec (r := r) pg hindexed dto propertyId _id with
        ⟨e, heq⟩ | ⟨doc, listings, -, -, -, -, heq⟩
      · rw [PropertyCall.exec, heq]
        exact h
      · rw [PropertyCall.exec, heq]
        exact h.afterWrite ..
  | update id dto pg =>
      rcases update_spec (r := r) pg hindexed id dto with
        ⟨e, heq⟩ | ⟨existing, row, slug, area, compound, changes, listings, -, -, -, -, -, heq⟩
      · rw [PropertyCall.exec, heq]
        exact h
      · rw [PropertyCall.exec, heq]
        exact h.afterWrite ..
  | remove id pg =>
      rcases remove_spec pg hindexed id with ⟨e, heq⟩ | ⟨existing, row, listings, -, -, heq⟩
      · rw [PropertyCall.exec, heq]
        exact h
      · rw [PropertyCall.exec, heq]
        exact h.afterWrite ..
  | tick ms => exact h

/-- **What a call leaves is as the service writes it.** -/
theorem Written.of_leaves (hr : Lawful r) (hs : AllWritten s) {call : PropertyCall}
    (hcall : Admitted call) {id : String} {d : Property} (hleaves : call.Leaves r s id d) :
    Written d := by
  cases hleaves with
  | stored hfound => exact hs.written id d hfound
  | created hbuilds =>
      obtain ⟨hid, hdate, hurls⟩ := hcall
      exact .of_builds hr hs.keys hid hdate hurls hbuilds
  | updated hfound _ hrelated heq =>
      obtain ⟨hdate, hurls⟩ := hcall
      rw [heq]
      refine (hs.written id _ hfound).set_changes hr hs.keys hdate hurls hrelated ?_
      intro chosen hchosen
      obtain ⟨desired, -, rfl⟩ := Option.map_eq_some_iff.1 hchosen
      exact ⟨desired, _, rfl⟩
  | removed hfound heq =>
      obtain ⟨h₁, h₂, h₃, h₄, h₅, h₆, h₇, h₈⟩ := hs.written id _ hfound
      rw [heq]
      exact ⟨h₁, h₂, h₃, h₄, h₅, h₆, h₇, h₈⟩

/-- **One call** keeps the documents as the service writes them. -/
theorem allWritten_exec (hr : Lawful r) (hs : AllWritten s) (call : PropertyCall)
    (hcall : Admitted call) : AllWritten (call.exec r s) := by
  obtain ⟨hindexed, hleaves⟩ := exec_leaves (r := r) hs.indexed call
  exact ⟨hindexed, hs.keys.exec hs.indexed call,
    fun id d hd => .of_leaves hr hs hcall (hleaves id d hd)⟩

/-- **Every run** keeps the documents as the service writes them. -/
theorem written_run (hr : Lawful r) (hs : AllWritten s) (calls : List PropertyCall)
    (hcalls : ∀ call ∈ calls, Admitted call) (hrun : (propertyCalls r).run s calls = some t) :
    AllWritten t := by
  refine Machine.run_invariant_of_forall_mem (I := AllWritten) (L := Admitted)
    (fun s call t hs hcall hstep => ?_) calls hs hcalls hrun
  obtain rfl := Option.some.inj hstep
  exact allWritten_exec hr hs call hcall

end Runs

end Search
end TopChoice
