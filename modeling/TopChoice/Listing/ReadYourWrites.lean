/-
# Reading a listing after it was written

`findOne` caches a listing under the identifier it was asked for, whichever of
the UUID, the ObjectId or the slug that is, in any letter case.  A write deletes
two keys, that of the UUID and that of the slug as it was stored.  A copy under
another key outlives the write, and is served until it expires
(`missed_key_is_stale`).

When no write meets such a copy, every read returns the document Mongo holds
(`reads_current`): a cache whose visible copies are all current (`Fresh`) stays so.
-/

import TopChoice.Listing.PropertiesService

namespace TopChoice
namespace Listing

/-- The document is the one Mongo holds for its listing, and is not deleted. -/
def Current (s : ListingStore) (d : Property) : Prop :=
  s.findOne d.propertyId = some d ∧ d.deletedAt = none

instance (s : ListingStore) (d : Property) : Decidable (Current s d) :=
  inferInstanceAs (Decidable (_ ∧ _))

/-- Every copy a read can still see is current. -/
def Fresh (s : PropertiesStore) : Prop := s.cache.Holds s.now fun _ d => Current s.listings d

/-- Every visible copy of the listing is under one of the keys a write of it deletes. -/
def Covered (id : String) (s : PropertiesStore) : Prop :=
  s.cache.Holds s.now fun k d => d.propertyId = id → k ∈ invalidatedKeys id (some d.slug)

/-- No `update` or `remove` meets a copy under a key it does not delete. -/
def KeysCovered (s : PropertiesStore) : PropertyCall → Prop
  | .update id _ _ => Covered id s
  | .remove id _ => Covered id s
  | _ => True

instance (s : PropertiesStore) : ∀ call, Decidable (KeysCovered s call)
  | .update _ _ _ => inferInstanceAs (Decidable (Memo.Holds _ _ _))
  | .remove _ _ => inferInstanceAs (Decidable (Memo.Holds _ _ _))
  | .findOne _ => isTrue trivial
  | .create _ _ _ _ => isTrue trivial
  | .tick _ => isTrue trivial

/-- A `findOne` that returns a document returns the current one. -/
def ReadsCurrent (r : Runtime) (s : PropertiesStore) : PropertyCall → Prop
  | .findOne idOrSlug => ∀ d, (findOne r idOrSlug s).1 = .ok d → Current s.listings d
  | _ => True

/-- What a write of a listing does as far as reads can tell. -/
structure Writes (id : String) (keys : List String) (s t : PropertiesStore) : Prop where
  now : t.now = s.now
  cache : t.cache = s.cache.unlink keys
  others : ∀ id', id' ≠ id → t.listings.findOne id' = s.listings.findOne id'

section

variable {r : Runtime} {s t : PropertiesStore} {id : String} {pg : PostgresAnswers}

/-- A rewriting and what follows it. -/
theorem Writes.of_rewritten {f : Property → Property} {data : PropertyIndexRow → PropertyIndexRow}
    {existing : Property} {row : PropertyIndexRow} {listings : ListingStore} {areaId : String}
    {sync : Answer} (h : s.listings.Rewritten id f data existing row listings) :
    Writes id (invalidatedKeys id (some existing.slug)) s
      (afterWrite sync id areaId (some existing.slug) { s with listings := listings }) := by
  refine ⟨by simp, by simp, fun id' hid => ?_⟩
  rw [listings_afterWrite, h.findOne, if_neg hid]

/-- **A write keeps the cache fresh** when it deletes every copy of the listing. -/
theorem Fresh.write {keys : List String} (h : Fresh s) (hwrites : Writes id keys s t)
    (hkeys : s.cache.Holds s.now fun k d => d.propertyId = id → k ∈ keys) : Fresh t := by
  rw [Fresh, hwrites.now, hwrites.cache]
  refine Memo.Holds.unlink h fun k d hk hget hcurrent => ⟨?_, hcurrent.2⟩
  rw [hwrites.others _ fun hid => hk (hkeys k d hget hid)]
  exact hcurrent.1

/-- **A copy under another key is stale** once the write has changed the listing,
and the next read of that key returns it. -/
theorem missed_key_is_stale {keys : List String} (hfresh : Fresh s)
    (hwrites : Writes id keys s t) (hchanged : t.listings.findOne id ≠ s.listings.findOne id)
    {idOrSlug : String} {d : Property}
    (hcached : s.cache.get s.now (cacheKey idOrSlug) = some d) (hid : d.propertyId = id)
    (hkey : cacheKey idOrSlug ∉ keys) :
    (findOne r idOrSlug t).1 = .ok d ∧ ¬ Current t.listings d := by
  have hcopy : t.cache.get t.now (cacheKey idOrSlug) = some d := by
    rw [hwrites.cache, hwrites.now, Memo.get_unlink, if_neg hkey, hcached]
  constructor
  · simp only [findOne, hcopy]
  · intro hcurrent
    refine hchanged ?_
    rw [← hid, hcurrent.1, (hfresh _ d hcached).1]

/-- The copies of a listing in a fresh cache are under the keys of its own slug. -/
theorem Covered.keys (h : Covered id s) (hfresh : Fresh s) {existing : Property}
    (hfind : s.listings.findOne id = some existing) :
    s.cache.Holds s.now fun k d =>
      d.propertyId = id → k ∈ invalidatedKeys id (some existing.slug) := by
  intro k d hget hid
  obtain rfl : d = existing := by
    have hd := (hfresh k d hget).1
    rw [hid, hfind] at hd
    exact (Option.some.inj hd).symm
  exact h k d hget hid

/-- A read returns a current document, and keeps the cache fresh. -/
theorem Fresh.read (hindexed : s.listings.Indexed) (hfresh : Fresh s) (idOrSlug : String) :
    (∀ d, (findOne r idOrSlug s).1 = .ok d → Current s.listings d) ∧
      (findOne r idOrSlug s).2.listings = s.listings ∧ Fresh (findOne r idOrSlug s).2 := by
  rcases findOne_spec (r := r) (s := s) idOrSlug with ⟨d, hcached, h⟩ | h | ⟨d, hmem, hlive, h⟩
  · rw [h]
    refine ⟨fun d' hd' => ?_, rfl, hfresh⟩
    obtain rfl := Except.ok.inj hd'
    exact hfresh _ _ hcached
  · rw [h]
    exact ⟨fun _ hd => (nomatch hd), rfl, hfresh⟩
  · rw [h]
    have hcurrent : Current s.listings d := ⟨hindexed.findOne hmem, hlive⟩
    refine ⟨fun d' hd' => ?_, rfl, Memo.Holds.set hfresh hcurrent⟩
    obtain rfl := Except.ok.inj hd'
    exact hcurrent

/-- **One call** keeps the unique indexes, and a fresh cache fresh. -/
theorem fresh_exec (hindexed : s.listings.Indexed) (hfresh : Fresh s) (call : PropertyCall)
    (hcovered : KeysCovered s call) :
    (call.exec r s).listings.Indexed ∧ Fresh (call.exec r s) := by
  cases call with
  | findOne idOrSlug =>
      obtain ⟨-, hlistings, hread⟩ := hfresh.read (r := r) hindexed idOrSlug
      exact ⟨hindexed.congr (congrArg _ hlistings), hread⟩
  | create dto propertyId _id pg =>
      rw [PropertyCall.exec]
      rcases create_spec (r := r) pg hindexed dto propertyId _id with
        ⟨e, h⟩ | ⟨doc, listings, hid, -, -, hinserted, h⟩
      · rw [h]
        exact ⟨hindexed, hfresh⟩
      · rw [h]
        refine ⟨by simpa using hinserted.indexed, ?_⟩
        have hwrites : Writes propertyId (invalidatedKeys propertyId none) s
            (afterWrite pg.sync propertyId dto.location.areaId none
              { s with listings := listings }) := by
          refine ⟨by simp, by simp, fun id' hne => ?_⟩
          rw [listings_afterWrite, hinserted.findOne, if_neg (hid ▸ hne)]
        refine hfresh.write hwrites fun k d hget hd => ?_
        -- a fresh copy is of a listing Mongo holds, so not of the new one
        have hfind := (hfresh k d hget).1
        rw [hd, ← hid, hinserted.isNew] at hfind
        cases hfind
  | update id dto pg =>
      rw [PropertyCall.exec]
      rcases update_spec (r := r) pg hindexed id dto with
        ⟨e, h⟩ | ⟨existing, row, slug, area, compound, changes, listings, -, -, -, -, hrewritten,
          h⟩
      · rw [h]
        exact ⟨hindexed, hfresh⟩
      · rw [h]
        refine ⟨by simpa using hrewritten.indexed, ?_⟩
        exact hfresh.write (.of_rewritten hrewritten) (hcovered.keys hfresh hrewritten.found)
  | remove id pg =>
      rw [PropertyCall.exec]
      rcases remove_spec pg hindexed id with
        ⟨e, h⟩ | ⟨existing, row, listings, -, hrewritten, h⟩
      · rw [h]
        exact ⟨hindexed, hfresh⟩
      · rw [h]
        refine ⟨by simpa using hrewritten.indexed, ?_⟩
        exact hfresh.write (.of_rewritten hrewritten) (hcovered.keys hfresh hrewritten.found)
  | tick ms => exact ⟨hindexed, hfresh.later (Nat.le_add_right ..)⟩

end

/-- **Every read returns the current document** along every run in which no write
meets a copy under a key it does not delete. -/
theorem reads_current (r : Runtime) (s : PropertiesStore) (calls : List PropertyCall)
    (hindexed : s.listings.Indexed) (hfresh : Fresh s)
    (hcovered : (propertyCalls r).Meets KeysCovered s calls) :
    (propertyCalls r).Meets (ReadsCurrent r) s calls := by
  refine Machine.Meets.of_invariant (I := fun s => s.listings.Indexed ∧ Fresh s)
    (fun s call t hs hcall hstep => ?_) (fun s call hs _ => ?_) calls ⟨hindexed, hfresh⟩ hcovered
  · obtain rfl := Option.some.inj hstep
    exact fresh_exec hs.1 hs.2 call hcall
  · cases call with
    | findOne idOrSlug => exact (hs.2.read hs.1 idOrSlug).1
    | create _ _ _ _ => trivial
    | update _ _ _ => trivial
    | remove _ _ => trivial
    | tick _ => trivial

/-- Reads by the UUID and the slug, a new price, the removal. -/
def demoReads : List PropertyCall :=
  [.findOne demoProperty.propertyId, .findOne demoProperty.slug,
    .update demoProperty.propertyId demoPriceUpdate .healthy, .findOne demoProperty.slug,
    .tick 1000, .remove demoProperty.propertyId .healthy, .findOne demoProperty.slug]

theorem reads_current_demo :
    (propertyCalls demoRuntime).Meets (ReadsCurrent demoRuntime) demoMarketplace demoReads :=
  reads_current demoRuntime demoMarketplace demoReads (by decide) Memo.holds_empty (by decide)

/-- The listing is read by its ObjectId, gets a new price, and is read by its
ObjectId again. -/
def demoStaleReads : List PropertyCall :=
  [.findOne demoProperty._id.hex, .update demoProperty.propertyId demoPriceUpdate .healthy,
    .findOne demoProperty._id.hex]

/-- **A copy cached under the ObjectId is served after the update:** the second
read still returns the old price. -/
theorem objectId_read_is_stale :
    ¬ ∀ (r : Runtime) (s : PropertiesStore) (calls : List PropertyCall), s.listings.Indexed →
      Fresh s → (propertyCalls r).Meets (ReadsCurrent r) s calls := by
  intro h
  have hreads := h demoRuntime demoMarketplace demoStaleReads (by decide) Memo.holds_empty
  have hstale := ((hreads.2 _ rfl).2 _ rfl).1 demoProperty rfl
  revert hstale
  decide

end Listing
end TopChoice
