/-
# The lead counter of a listing

`stats.leads` of a listing counts the rows of `leads` that reference it.
`create` inserts a row and bumps the counter, `update` touches neither, and
`remove` deletes the row and leaves the counter.  So each call moves the counter
ahead of the rows by the rows it deletes (`step_ahead`), and the two agree after
a run exactly when no `remove` of it took a lead away from a listing
(`leads_counted_iff`).
-/

import Mathlib.Algebra.Order.Ring.Int
import TopChoice.Leads.LeadsService

namespace TopChoice
namespace Leads

open Auth (UserId)
open Listing (CounterStatement Date Property demoProperty mirrorOf)

/-- The calls of the service. -/
inductive LeadCall where
  | create (dto : CreateLeadDto) (submitter : Option UserId) (id : String)
  | update (id : String) (dto : UpdateLeadDto) (now : Date)
  | remove (id : String)
  deriving DecidableEq, Repr

/-- The store a call leaves behind, whether it returns or throws. -/
def LeadCall.exec (s : LeadStore) : LeadCall → LeadStore
  | .create dto submitter id => (Leads.create dto submitter id s).2
  | .update id dto now => (Leads.update id dto now s).2
  | .remove id => (Leads.remove id s).2

/-- One call after the other. -/
def leadCalls : Machine LeadStore LeadCall where
  step s call := some (call.exec s)

/-- The rows that reference a listing. -/
def leadCount (propertyId : String) (leads : List Lead) : ℕ :=
  Table.count (fun l => l.propertyId = some propertyId) leads

/-- The counter of every listing is the number of leads that reference it. -/
def LeadsCounted (s : LeadStore) : Prop :=
  ∀ id doc, s.listings.findOne id = some doc → doc.stats.leads = leadCount id s.leads

/-- The call deletes no lead of a listing. -/
def SparesListings (s : LeadStore) : LeadCall → Prop
  | .remove id => ∀ lead ∈ s.leads, lead.id = id →
      ∀ propertyId ∈ lead.propertyId, s.listings.findOne propertyId = none
  | _ => True

instance (s : LeadStore) : ∀ call, Decidable (SparesListings s call)
  | .remove id => inferInstanceAs (Decidable (∀ lead ∈ s.leads, lead.id = id →
      ∀ propertyId ∈ lead.propertyId, s.listings.findOne propertyId = none))
  | .create _ _ _ => isTrue trivial
  | .update _ _ _ => isTrue trivial

/-- The leads of a listing the call deletes. -/
def deleted (propertyId : String) (s : LeadStore) : LeadCall → ℕ
  | .remove id =>
      Table.count (fun l => decide (l.propertyId = some propertyId) && decide (l.id = id)) s.leads
  | _ => 0

/-! ### What a call does to the leads and the listings -/

section Calls

variable {s : LeadStore} {id : String}

/-- `create` leaves the store alone, or inserts the lead and bumps the counter of
the listing it names. -/
theorem create_spec (dto : CreateLeadDto) (submitter : Option UserId) (id : String)
    (s : LeadStore) :
    (create dto submitter id s).2 = s ∨
      (create dto submitter id s).2.leads = Table.create (dto.lead submitter id) s.leads ∧
        (create dto submitter id s).2.listings =
          match dto.propertyId with
          | none => s.listings
          | some propertyId => CounterStatement.exec s.listings (.incrementLeadCount propertyId) := by
  unfold create
  split_ifs
  · exact Or.inl rfl
  · split
    · exact Or.inl rfl
    · split
      · exact Or.inl rfl
      · next s' hs' =>
          unfold LeadStore.createLead at hs'
          split_ifs at hs'
          obtain rfl := Option.some.inj hs'
          cases dto.propertyId <;> exact Or.inr ⟨rfl, rfl⟩

/-- `update` changes no listing and no reference to one. -/
theorem update_spec (id : String) (dto : UpdateLeadDto) (now : Date) (s : LeadStore) :
    (update id dto now s).2.listings = s.listings ∧
      ∀ propertyId, leadCount propertyId (update id dto now s).2.leads =
        leadCount propertyId s.leads := by
  unfold update
  split
  · exact ⟨rfl, fun _ => rfl⟩
  · next lead hlead =>
      split
      · exact ⟨rfl, fun _ => rfl⟩
      · refine ⟨rfl, fun propertyId => ?_⟩
        have := Table.count_updateOne (p := fun l => decide (l.propertyId = some propertyId))
          (f := dto.data ⟨lead.status, lead.contactedAt⟩ now) hlead
        exact Nat.add_right_cancel this

/-- `remove` changes no listing and deletes the rows with the id. -/
theorem remove_spec (id : String) (s : LeadStore) :
    (remove id s).2.listings = s.listings ∧
      (remove id s).2.leads = Table.deleteMany (fun l => l.id = id) s.leads := by
  unfold remove
  split_ifs with h
  · refine ⟨rfl, (List.filter_eq_self.2 fun l hl => ?_).symm⟩
    have := List.countP_eq_zero.1 h l hl
    simpa using this
  · exact ⟨rfl, rfl⟩

/-- **How far a call moves the counter ahead of the rows:** by the leads of the
listing that it deletes. -/
theorem step_ahead (call : LeadCall) {doc : Property} (h : s.listings.findOne id = some doc) :
    ∃ doc', (call.exec s).listings.findOne id = some doc' ∧
      doc'.stats.leads - leadCount id (call.exec s).leads =
        doc.stats.leads - leadCount id s.leads + deleted id s call := by
  cases call with
  | create dto submitter lid =>
      simp only [LeadCall.exec, deleted]
      rcases create_spec dto submitter lid s with hs | ⟨hleads, hlistings⟩
      · exact ⟨doc, by rw [hs, h], by rw [hs]; omega⟩
      · have hcount : leadCount id (create dto submitter lid s).2.leads =
            leadCount id s.leads + if dto.propertyId = some id then 1 else 0 := by
          rw [hleads, leadCount, Table.count_create]
          by_cases hp : dto.propertyId = some id <;> simp [hp, leadCount, CreateLeadDto.lead]
        rw [hcount, hlistings]
        cases hp : dto.propertyId with
        | none => exact ⟨doc, h, by simp⟩
        | some propertyId =>
            simp only [CounterStatement.findOne_exec, h, Option.map_some, Option.some.injEq,
              exists_eq_left']
            by_cases hid : id = propertyId
            · simp [hid, CounterStatement.propertyId, CounterStatement.inc]
            · simp [hid, Ne.symm hid, CounterStatement.propertyId]
  | update lid dto now =>
      obtain ⟨hlistings, hcount⟩ := update_spec lid dto now s
      exact ⟨doc, by simpa [LeadCall.exec, hlistings] using h,
        by simp [LeadCall.exec, deleted, hcount]⟩
  | remove lid =>
      obtain ⟨hlistings, hleads⟩ := remove_spec lid s
      refine ⟨doc, by simpa [LeadCall.exec, hlistings] using h, ?_⟩
      have := Table.count_deleteMany (fun l : Lead => decide (l.propertyId = some id))
        (fun l => decide (l.id = lid)) s.leads
      simp only [LeadCall.exec, deleted, leadCount, hleads]
      omega

/-- A call neither creates nor deletes listings. -/
theorem step_findOne_isSome (call : LeadCall) (s : LeadStore) (id : String) :
    ((call.exec s).listings.findOne id).isSome = (s.listings.findOne id).isSome := by
  cases h : s.listings.findOne id with
  | some doc =>
      obtain ⟨doc', h', -⟩ := step_ahead call h
      rw [h']
      rfl
  | none =>
      cases call with
      | create dto submitter lid =>
          rcases create_spec dto submitter lid s with hs | ⟨-, hlistings⟩
          · rw [LeadCall.exec, hs, h]
          · rw [LeadCall.exec, hlistings]
            cases dto.propertyId <;> simp [h, CounterStatement.findOne_exec]
      | update lid dto now => rw [LeadCall.exec, (update_spec lid dto now s).1, h]
      | remove lid => rw [LeadCall.exec, (remove_spec lid s).1, h]

/-- A call that spares the listings deletes no lead of any of them. -/
theorem sparesListings_iff (call : LeadCall) :
    SparesListings s call ↔
      ∀ id, (s.listings.findOne id).isSome = true → deleted id s call = 0 := by
  cases call with
  | remove lid =>
      simp only [SparesListings, deleted, Table.count, List.countP_eq_zero, Bool.and_eq_true,
        decide_eq_true_eq, not_and]
      constructor
      · intro h id hid lead hlead hp hl
        rw [h lead hlead hl id hp] at hid
        cases hid
      · intro h lead hlead hl propertyId hp
        by_contra hsome
        exact h propertyId (Option.isSome_iff_ne_none.2 hsome) lead hlead hp hl
  | create dto submitter lid => simp [SparesListings, deleted]
  | update lid dto now => simp [SparesListings, deleted]

end Calls

/-! ### Whole runs -/

/-- **How far a run moves the counter ahead of the rows.**  By a number that is
zero exactly when no call deletes a lead of the listing. -/
theorem run_ahead {id : String} :
    ∀ {s t : LeadStore} (calls : List LeadCall) {doc : Property},
      s.listings.findOne id = some doc → leadCalls.run s calls = some t →
        ∃ doc' n, t.listings.findOne id = some doc' ∧
          doc'.stats.leads - leadCount id t.leads = doc.stats.leads - leadCount id s.leads + (n : ℕ) ∧
            (n = 0 ↔ leadCalls.Meets (fun s call => deleted id s call = 0) s calls)
  | s, t, [], doc, h, hrun => by
      obtain rfl := Option.some.inj hrun
      exact ⟨doc, 0, h, by omega, iff_of_true rfl trivial⟩
  | s, t, call :: calls, doc, h, hrun => by
      obtain ⟨doc₁, h₁, hahead₁⟩ := step_ahead call h
      have hrun₁ : leadCalls.run (call.exec s) calls = some t := hrun
      obtain ⟨doc', n, h', hahead, hn⟩ := run_ahead calls h₁ hrun₁
      refine ⟨doc', deleted id s call + n, h', by push_cast; omega, ?_⟩
      rw [Nat.add_eq_zero_iff, hn]
      refine and_congr_right fun _ => ⟨fun hmeets u hu => ?_, fun hmeets => hmeets _ rfl⟩
      obtain rfl := Option.some.inj hu
      exact hmeets

/-- A run neither creates nor deletes listings. -/
theorem run_findOne_isSome : ∀ {s t : LeadStore} (calls : List LeadCall),
    leadCalls.run s calls = some t →
      ∀ id, (t.listings.findOne id).isSome = (s.listings.findOne id).isSome
  | s, t, [], hrun, id => by
      obtain rfl := Option.some.inj hrun
      rfl
  | s, t, call :: calls, hrun, id => by
      have hrun₁ : leadCalls.run (call.exec s) calls = some t := hrun
      rw [run_findOne_isSome calls hrun₁, step_findOne_isSome]

/-- A run spares the listings when it deletes no lead of any of them. -/
theorem meets_sparesListings_iff :
    ∀ {s : LeadStore} (calls : List LeadCall), leadCalls.Meets SparesListings s calls ↔
      ∀ id, (s.listings.findOne id).isSome = true →
        leadCalls.Meets (fun s call => deleted id s call = 0) s calls
  | s, [] => iff_of_true trivial fun _ _ => trivial
  | s, call :: calls => by
      have ih := meets_sparesListings_iff (s := call.exec s) calls
      simp only [step_findOne_isSome] at ih
      have hnext : ∀ {C : LeadStore → LeadCall → Prop},
          (∀ t, leadCalls.step s call = some t → leadCalls.Meets C t calls) ↔
            leadCalls.Meets C (call.exec s) calls := fun {C} =>
        ⟨fun h => h _ rfl, fun h t ht => by
          obtain rfl := Option.some.inj ht
          exact h⟩
      simp only [Machine.Meets, hnext, sparesListings_iff, ih]
      exact ⟨fun h id hid => ⟨h.1 id hid, h.2 id hid⟩,
        fun h => ⟨fun id hid => (h id hid).1, fun id hid => (h id hid).2⟩⟩

/-- **When the counters stay equal to the rows.**  From a store whose counters
are right, a run of calls leaves them right exactly when no `remove` of it
deletes a lead that references a listing. -/
theorem leads_counted_iff (s t : LeadStore) (calls : List LeadCall) (hs : LeadsCounted s)
    (hrun : leadCalls.run s calls = some t) :
    LeadsCounted t ↔ leadCalls.Meets SparesListings s calls := by
  rw [meets_sparesListings_iff]
  constructor
  · intro ht id hid
    obtain ⟨doc, hdoc⟩ := Option.isSome_iff_exists.1 hid
    obtain ⟨doc', n, hdoc', hahead, hn⟩ := run_ahead calls hdoc hrun
    have hright := ht id doc' hdoc'
    have hstart := hs id doc hdoc
    exact hn.1 (by omega)
  · intro hmeets id doc' hdoc'
    cases hdoc : s.listings.findOne id with
    | none =>
        have := run_findOne_isSome calls hrun id
        rw [hdoc', hdoc] at this
        cases this
    | some doc =>
        obtain ⟨found, n, hfound, hahead, hn⟩ := run_ahead calls hdoc hrun
        obtain rfl := Option.some.inj (hfound.symm.trans hdoc')
        have hzero := hn.2 (hmeets id (by rw [hdoc]; rfl))
        have hstart := hs id doc hdoc
        omega

/-- The demo listing with one lead, and a lead that references no listing. -/
def enquiries : LeadStore where
  leads := [⟨"lead-1", some demoProperty.propertyId, none, "Ahmed Hassan", "+201001234567", none,
      none, "website", none, none, none, .new, none, none, none⟩,
    ⟨"lead-2", none, none, "Mona Adel", "+201009876543", none, none, "sell_page", some "area-1",
      none, some .villa, .lost, none, none, none⟩]
  users := []
  listings := ⟨[{ demoProperty with stats := ⟨0, 0, 1⟩ }], [mirrorOf demoProperty]⟩
  catalog := ⟨[], [], [], [], []⟩

theorem leadsCounted_enquiries : LeadsCounted enquiries := by
  intro id doc h
  have hmem := (Table.findUnique_some h).1
  have hid := of_decide_eq_true (Table.findUnique_some h).2
  obtain rfl := List.mem_singleton.1 hmem
  subst hid
  decide

/-- Another enquiry about the listing, its first lead won over, the seller's
enquiry deleted. -/
def enquiryCalls : List LeadCall :=
  [.create ⟨some demoProperty.propertyId, "Omar Said", "+201000000000", none, none, none, none,
      none, none, none⟩ none "lead-3",
    .update "lead-1" { status := some .contacted } 2000, .remove "lead-2"]

theorem leads_counted_demo :
    ∃ t, leadCalls.run enquiries enquiryCalls = some t ∧ LeadsCounted t :=
  ⟨_, rfl, (leads_counted_iff enquiries _ enquiryCalls leadsCounted_enquiries rfl).2 (by decide)⟩

/-- **The defect.**  The listing's lead is deleted, and the counter still counts
it. -/
theorem removed_lead_counted :
    LeadsCounted enquiries ∧
    ∃ t, leadCalls.run enquiries [.remove "lead-1"] = some t ∧
      leadCount demoProperty.propertyId t.leads = 0 ∧
      (t.listings.findOne demoProperty.propertyId).map (fun d => d.stats.leads) = some 1 :=
  ⟨leadsCounted_enquiries, _, rfl, by decide, by decide⟩

end Leads
end TopChoice
