/-
# A listing by its slug

`PropertiesService.findOne` takes its argument for a UUID, an ObjectId or a slug by its shape
alone, and `slugify` makes texts of both other shapes: a title or a requested slug of 24
hexadecimal digits is one.  A listing with such a slug is looked up by its ids and not found,
or another one is (`findOne_own_slug_iff`).

The slug of a listing is one of `buildUniqueSlug` from the call that gave it on, through every
run of the service's calls (`isSlug_of_given`), so the casts of the filter leave it as it is.
-/

import TopChoice.Listing.PropertiesService

namespace TopChoice
namespace Listing

/-- What the runtime does to slugs: `toLowerCase` leaves them as they are, and a number in base
36 is one. -/
structure Runtime.KeepsSlugs (r : Runtime) : Prop where
  toLowerCase : ∀ slug, IsSlug slug → r.unicode.toLowerCase slug = slug
  timestamp : IsSlug r.timestamp

/-- A call that gives the listing a slug, and returns. -/
def GivesSlug (r : Runtime) (id : String) (s : PropertiesStore) : PropertyCall → Prop
  | .create dto propertyId _id pg =>
      propertyId = id ∧ (create r dto propertyId _id pg s).1.isOk = true
  | .update id' dto pg =>
      id' = id ∧ (dto.slug ≠ none ∨ dto.title ≠ none) ∧ (update r id' dto pg s).1.isOk = true
  | _ => False

instance (r : Runtime) (id : String) (s : PropertiesStore) :
    ∀ call, Decidable (GivesSlug r id s call)
  | .create _ _ _ _ => inferInstanceAs (Decidable (_ ∧ _))
  | .update _ _ _ => inferInstanceAs (Decidable (_ ∧ _ ∧ _))
  | .findOne _ | .remove _ _ | .tick _ => isFalse not_false

/-- The slug of a listing takes the shape of no identifier but its own. -/
def Property.SlugIsFree (d : Property) : Prop :=
  (isUuid d.slug = true → d.slug = d.propertyId) ∧
    (isObjectIdHex d.slug = true → d.slug = d._id.hex)

/-! ### Slugs that the service gives -/

section Given

variable {r : Runtime} {s : PropertiesStore}

theorem CreatePropertyDto.Builds.isSlug (hr : r.KeepsSlugs) {dto : CreatePropertyDto}
    {propertyId : String} {_id : ObjectId} {doc : Property}
    (h : dto.Builds r propertyId _id s doc) : IsSlug doc.slug := by
  obtain ⟨area, -, compound, -, developer, -, isTaken, referenceNo, rfl⟩ := h
  exact isSlug_castSlug_chosen hr.toLowerCase hr.timestamp _ isTaken

/-- The slug after an update: the stored one, or one that `buildUniqueSlug` chose. -/
theorem slug_set_changes (hr : r.KeepsSlugs) (dto : UpdatePropertyDto) (existing : Property)
    (isTaken : String → Bool) (area : Option Catalog.Area)
    (compound : Option (Catalog.Compound × Catalog.Developer)) :
    let after := ((dto.changes r existing
      ((dto.slug.or (dto.title.map LocalizedText.en)).map fun desired =>
        buildUniqueSlug r.unicode r.timestamp desired "property" isTaken)
      area compound).cast r.unicode).set existing
    (dto.slug = none ∧ dto.title = none ∧ after.slug = existing.slug) ∨ IsSlug after.slug := by
  intro after
  have hafter : after.slug = (((dto.slug.or (dto.title.map LocalizedText.en)).map fun desired =>
      buildUniqueSlug r.unicode r.timestamp desired "property" isTaken).map
        (castSlug r.unicode)).getD existing.slug := rfl
  rw [hafter]
  cases hdesired : dto.slug.or (dto.title.map LocalizedText.en) with
  | none =>
    obtain ⟨hslug, htitle⟩ := Option.or_eq_none_iff.1 hdesired
    exact .inl ⟨hslug, Option.map_eq_none_iff.1 htitle, rfl⟩
  | some desired => exact .inr (isSlug_castSlug_chosen hr.toLowerCase hr.timestamp desired isTaken)

/-- The listing, when it is stored, has a slug that the service gave. -/
def Slugged (id : String) (s : PropertiesStore) : Prop :=
  ∀ d, s.listings.findOne id = some d → IsSlug d.slug

/-- **A call keeps a given slug a slug.** -/
theorem Slugged.exec (hr : r.KeepsSlugs) (hindexed : s.listings.Indexed) {id : String}
    (hslugged : Slugged id s) (call : PropertyCall) : Slugged id (call.exec r s) := by
  intro d hd
  cases (exec_leaves (r := r) hindexed call).2 id d hd with
  | stored hfound => exact hslugged d hfound
  | created hbuilds => exact hbuilds.isSlug hr
  | @updated dto pg existing isTaken area compound hfound _ _ h =>
      rw [h]
      rcases slug_set_changes hr dto existing isTaken area compound with ⟨-, -, hsame⟩ | hslug
      · rw [hsame]
        exact hslugged existing hfound
      · exact hslug
  | @removed pg existing hfound h =>
      rw [h]
      exact hslugged existing hfound

/-- **A call that gives a slug gives a slug.** -/
theorem GivesSlug.slugged (hr : r.KeepsSlugs) (hindexed : s.listings.Indexed) {id : String}
    {call : PropertyCall} (hgives : GivesSlug r id s call) : Slugged id (call.exec r s) := by
  intro d hd
  cases call with
  | findOne _ => exact hgives.elim
  | remove _ _ => exact hgives.elim
  | tick _ => exact hgives.elim
  | create dto propertyId _id pg =>
      obtain ⟨rfl, hok⟩ := hgives
      rw [PropertyCall.exec] at hd
      rcases create_spec (r := r) pg hindexed dto propertyId _id with
        ⟨e, h⟩ | ⟨doc, listings, hid, -, hbuilds, hinserted, h⟩
      · simp [h, Except.isOk, Except.toBool] at hok
      · rw [h, listings_afterWrite, hinserted.findOne, if_pos hid.symm] at hd
        exact Option.some.inj hd ▸ hbuilds.isSlug hr
  | update id' dto pg =>
      obtain ⟨rfl, hnames, hok⟩ := hgives
      rw [PropertyCall.exec] at hd
      rcases update_written (r := r) pg hindexed id' dto with
        ⟨e, h⟩ | ⟨existing, row, isTaken, slug, area, compound, changes, listings, -, -, rfl, rfl,
          hrewritten, h⟩
      · simp [h, Except.isOk, Except.toBool] at hok
      · rw [h, listings_afterWrite, hrewritten.findOne, if_pos rfl] at hd
        obtain rfl := Option.some.inj hd
        refine (slug_set_changes hr dto existing isTaken area compound).resolve_left ?_
        rintro ⟨hslug, htitle, -⟩
        exact hnames.elim (absurd hslug) (absurd htitle)

/-- **The unique indexes hold along every run.** -/
theorem indexed_run (hindexed : s.listings.Indexed) (calls : List PropertyCall) :
    (propertyCalls r).Meets (fun s _ => s.listings.Indexed) s calls ∧
      ∀ t, (propertyCalls r).run s calls = some t → t.listings.Indexed := by
  have hstep (s : PropertiesStore) (call : PropertyCall) (t : PropertiesStore)
      (hs : s.listings.Indexed) (_ : True) (hnext : (propertyCalls r).step s call = some t) :
      t.listings.Indexed := by
    obtain rfl := Option.some.inj hnext
    exact (exec_leaves hs call).1
  have hall : (propertyCalls r).Meets (fun _ _ => True) s calls :=
    .of_forall_mem s fun _ _ => trivial
  exact ⟨Machine.Meets.of_invariant hstep (fun _ _ hs _ => hs) calls hindexed hall,
    fun t hrun => Machine.run_invariant hstep calls hindexed hall hrun⟩

/-- **The slug of a listing is a slug** from the call that gave it on. -/
theorem isSlug_of_given (hr : r.KeepsSlugs) (hindexed : s.listings.Indexed)
    (calls : List PropertyCall) {t : PropertiesStore}
    (hrun : (propertyCalls r).run s calls = some t) {id : String}
    (hgiven : (propertyCalls r).Hits (GivesSlug r id) s calls) : Slugged id t := by
  refine Machine.run_established (I := Slugged id) (C := fun s _ => s.listings.Indexed)
    (fun s call t hs hcall hnext => ?_) (fun s call t hs hcall hnext => ?_) calls hgiven
    (indexed_run hindexed calls).1 hrun
  · obtain rfl := Option.some.inj hnext
    exact hs.exec hr hcall call
  · obtain rfl := Option.some.inj hnext
    exact hs.slugged hr hcall

end Given

/-! ### The lookup -/

section Lookup

variable {r : Runtime} {s : PropertiesStore}

/-- The characters of a slug are in lower case. -/
theorem toLower_of_slugChar {c : Char} (h : isSlugChar c = true ∨ c = '-') : c.toLower = c := by
  have hcode := toNat_of_slugChar h
  refine dif_neg fun hupper => ?_
  have hlow : 65 ≤ c.toNat := UInt32.le_iff_toNat_le.1 hupper.1
  have hhigh : c.toNat ≤ 90 := UInt32.le_iff_toNat_le.1 hupper.2
  omega

theorem map_toLower_of_isSlug {slug : String} (h : IsSlug slug) :
    slug.toList.map Char.toLower = slug.toList :=
  (List.map_congr_left fun c hc => toLower_of_slugChar (h.2 c hc)).trans (List.map_id _)

theorem isObjectIdHex_of_isUuid {value : String} (h : isUuid value = true) :
    isObjectIdHex value = false := by
  simp only [isUuid, Bool.and_eq_true, decide_eq_true_eq] at h
  simp [isObjectIdHex, h.1]

/-- **What a lookup by the slug of a listing selects**: the listing, unless the slug takes the
shape of another identifier. -/
theorem identifierFilter_slug_iff (hr : r.KeepsSlugs) {d : Property} (hslug : IsSlug d.slug) :
    identifierFilter r.unicode d.slug d = true ↔ d.SlugIsFree := by
  rw [identifierFilter, castSlug_eq_self (hr.toLowerCase _ hslug) hslug, map_toLower_of_isSlug hslug, Property.SlugIsFree]
  by_cases huuid : isUuid d.slug = true
  · have hhex := isObjectIdHex_of_isUuid huuid
    rw [if_pos huuid, decide_eq_true_eq]
    exact ⟨fun h => ⟨fun _ => h.symm, fun h' => by rw [hhex] at h'; cases h'⟩,
      fun h => (h.1 huuid).symm⟩
  rw [if_neg huuid]
  by_cases hhex : isObjectIdHex d.slug = true
  · rw [if_pos hhex, decide_eq_true_eq, String.toList_inj]
    exact ⟨fun h => ⟨fun h' => absurd h' huuid, fun _ => h.symm⟩, fun h => (h.2 hhex).symm⟩
  · rw [if_neg hhex, decide_eq_true_eq]
    exact iff_of_true rfl ⟨fun h => absurd h huuid, fun h => absurd h hhex⟩

/-- An identifier selects one document at most. -/
theorem identifierFilter_unique (u : Unicode) (idOrSlug : String) {d e : Property}
    (hclash : ListingStore.clash d e = false) :
    ¬(identifierFilter u idOrSlug d = true ∧ identifierFilter u idOrSlug e = true) := by
  simp only [ListingStore.clash, Bool.or_eq_false_iff, decide_eq_false_iff_not] at hclash
  obtain ⟨⟨⟨hobjectId, huuid⟩, hslug⟩, -⟩ := hclash
  rintro ⟨hd, he⟩
  rw [identifierFilter] at hd he
  split_ifs at hd he <;> simp only [decide_eq_true_eq] at hd he
  · exact huuid (hd.trans he.symm)
  · have hhex : d._id.hex = e._id.hex := String.toList_inj.1 (hd.trans he.symm)
    exact hobjectId (by cases hd' : d._id; cases he' : e._id; simp_all)
  · exact hslug (hd.trans he.symm)

/-- A listing is found by what selects it. -/
theorem findOne_eq_ok_iff (hindexed : s.listings.Indexed) {idOrSlug : String}
    (hmiss : s.cache.get s.now (cacheKey idOrSlug) = none) {d : Property}
    (hd : d ∈ s.listings.properties) (hlive : d.deletedAt = none) :
    (findOne r idOrSlug s).1 = .ok d ↔ identifierFilter r.unicode idOrSlug d = true := by
  set p : Property → Bool := fun d => identifierFilter r.unicode idOrSlug d && d.deletedAt = none
  have hone : s.listings.properties.Pairwise fun x y => ¬(p x = true ∧ p y = true) :=
    hindexed.imp fun {x y} hclash (h : p x = true ∧ p y = true) =>
      identifierFilter_unique r.unicode idOrSlug hclash
        ⟨(Bool.and_eq_true_iff.1 h.1).1, (Bool.and_eq_true_iff.1 h.2).1⟩
  have hread : (findOne r idOrSlug s).1 = .ok d ↔
      Table.findUnique p s.listings.properties = some d := by
    unfold findOne
    rw [hmiss]
    dsimp only
    split
    · next hfind => rw [show Table.findUnique p s.listings.properties = none from hfind]; simp
    · next found hfind =>
      rw [show Table.findUnique p s.listings.properties = some found from hfind, Option.some_inj]
      exact ⟨Except.ok.inj, congrArg _⟩
  rw [hread]
  constructor
  · exact fun hfind => (Bool.and_eq_true_iff.1 (Table.findUnique_some hfind).2).1
  · exact fun hfilter => Table.findUnique_of_pairwise hone hd (by simp [p, hfilter, hlive])

end Lookup

/-- **A listing is found by its own slug** exactly when the slug takes the shape of no identifier
but its own: for every listing that a call of the run gave its slug, as long as it is live and
nothing is cached under the slug. -/
theorem findOne_own_slug_iff (r : Runtime) (hr : r.KeepsSlugs) {s t : PropertiesStore}
    (hindexed : s.listings.Indexed) (calls : List PropertyCall)
    (hrun : (propertyCalls r).run s calls = some t) {d : Property}
    (hd : t.listings.findOne d.propertyId = some d)
    (hgiven : (propertyCalls r).Hits (GivesSlug r d.propertyId) s calls)
    (hlive : d.deletedAt = none) (hmiss : t.cache.get t.now (cacheKey d.slug) = none) :
    (findOne r d.slug t).1 = .ok d ↔ d.SlugIsFree := by
  have hslug := isSlug_of_given hr hindexed calls hrun hgiven d hd
  have hindexed' := (indexed_run hindexed calls).2 t hrun
  rw [findOne_eq_ok_iff hindexed' hmiss (Table.findUnique_some hd).1 hlive]
  exact identifierFilter_slug_iff hr hslug

/-- A runtime of ASCII texts keeps slugs. -/
theorem demoRuntime_keepsSlugs : demoRuntime.KeepsSlugs where
  toLowerCase slug h :=
    (congrArg String.ofList (map_toLower_of_isSlug h)).trans String.ofList_toList
  timestamp := by decide

/-- A slug for the villa. -/
def demoSlugUpdate (slug : String) : PropertyCall :=
  .update demoProperty.propertyId { slug := some slug } .healthy

theorem findOne_own_slug_iff_demo :
    (findOne demoRuntime "palm-view"
        ((demoSlugUpdate "palm-view").exec demoRuntime demoMarketplace)).1 =
        .ok { demoProperty with slug := "palm-view" } ↔
      { demoProperty with slug := "palm-view" : Property }.SlugIsFree :=
  findOne_own_slug_iff demoRuntime demoRuntime_keepsSlugs (by decide) [demoSlugUpdate "palm-view"]
    rfl (d := { demoProperty with slug := "palm-view" }) (by decide) (.inl (by decide)) rfl
    (by decide)

/-- **A slug of 24 hexadecimal digits is not found:** it is looked up as an ObjectId. -/
theorem hex_slug_is_not_found :
    let t := (demoSlugUpdate "deadbeefdeadbeefdeadbeef").exec demoRuntime demoMarketplace
    t.listings.findOne demoProperty.propertyId =
        some { demoProperty with slug := "deadbeefdeadbeefdeadbeef" } ∧
      t.cache = .empty ∧
      (findOne demoRuntime "deadbeefdeadbeefdeadbeef" t).1 =
        .error (propertyNotFound "deadbeefdeadbeefdeadbeef") := by
  decide

end Listing
end TopChoice
