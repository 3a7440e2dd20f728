/-
# When concurrent updates keep to the pipeline

`update` checks the move of the status against the row it has read
(`assertTransition`) and writes the new status whatever the row says by then.
A request that is about to write holds a move the pipeline allows from the
status it read (`UpdatePc.Checked`), so as long as that is still the stored
status at each write, every change goes along an edge of `transitions`, and a
lead that is won or lost stays so (`pipeline_respected`).
-/

import TopChoice.Leads.LeadsService

namespace TopChoice
namespace Leads

open Listing (Date)
open Threads

/-- The move is an edge of the pipeline, or none at all. -/
def MayMove (source target : LeadStatus) : Prop := target = source ∨ target ∈ transitions source

instance (source target : LeadStatus) : Decidable (MayMove source target) :=
  inferInstanceAs (Decidable (_ ∨ _))

/-- The moves the request may write are allowed from the status it read. -/
def UpdatePc.Checked : UpdatePc → Prop
  | .countAgents _ dto existing _ =>
      ∀ status, dto.status = some status → MayMove existing.status status
  | .update _ dto existing => ∀ status, dto.status = some status → MayMove existing.status status
  | _ => True

/-- A request that is about to write a status finds the status it has read. -/
def UpdatePc.UpToDate (s : LeadStore) : UpdatePc → Prop
  | .update id dto existing =>
      dto.status.isSome = true → ∀ lead ∈ s.findLead id, lead.status = existing.status
  | _ => True

instance (s : LeadStore) : ∀ p : UpdatePc, Decidable (p.UpToDate s)
  | .update id dto existing =>
      inferInstanceAs (Decidable (dto.status.isSome = true →
        ∀ lead ∈ s.findLead id, lead.status = existing.status))
  | .findUnique _ _ => isTrue trivial
  | .countAgents _ _ _ _ => isTrue trivial
  | .returned _ => isTrue trivial
  | .thrown _ => isTrue trivial

section Run

variable {ι : Type} [DecidableEq ι]

/-- The step changes no stored status but along an edge of the pipeline. -/
def Respects (S : Sys LeadStore ι UpdatePc) (a : Action ι Date Empty) : Prop :=
  ∀ T, (updating ι).step S a = some T → ∀ id lead lead', S.shared.findLead id = some lead →
    T.shared.findLead id = some lead' → MayMove lead.status lead'.status

/-- The request that acts writes no status but on the one it has read. -/
def UpToDate (S : Sys LeadStore ι UpdatePc) : Action ι Date Empty → Prop
  | .act i _ => (S.pc i).UpToDate S.shared
  | .env _ => True

instance (S : Sys LeadStore ι UpdatePc) : ∀ a, Decidable (UpToDate S a)
  | .act i _ => inferInstanceAs (Decidable ((S.pc i).UpToDate S.shared))
  | .env _ => isTrue trivial

end Run

/-! ### What one statement does -/

section Step

variable {s s' : LeadStore} {p p' : UpdatePc} {now : Date} {id id' : String}

/-- An update of a lead rewrites what the lookup of that lead finds. -/
theorem findLead_updateLead {data : Lead → Lead} (hdata : ∀ l, (data l).id = l.id) :
    (s.updateLead id data).findLead id' =
      if id' = id then (s.findLead id).map data else s.findLead id' :=
  Table.findUnique_updateOne_key Lead.id (fun l hl => (hdata l).trans hl) s.leads

/-- A status that passes the check is an allowed move. -/
theorem mayMove_of_checkStatus {dto : UpdateLeadDto} {current status : LeadStatus}
    (h : checkStatus dto current = none) (hs : dto.status = some status) :
    MayMove current status := by
  simp only [checkStatus, hs, assertTransition] at h
  by_cases heq : status = current
  · exact Or.inl heq
  · rw [if_pos heq] at h
    split_ifs at h with hmem
    exact Or.inr hmem

/-- **What a statement of an update does.**  The request goes on holding moves
that were checked, and the store stays as it is or the lead gets its `data`. -/
theorem UpdatePc.next_spec (h : p.next s now = some (s', p')) (hp : p.Checked) :
    p'.Checked ∧ (s' = s ∨ ∃ id dto existing lead, p = .update id dto existing ∧
      s.findLead id = some lead ∧ s' = s.updateLead id (dto.data existing now)) := by
  cases p with
  | findUnique id dto =>
      simp only [UpdatePc.next] at h
      split at h
      · obtain ⟨rfl, rfl⟩ := Prod.mk.inj (Option.some.inj h)
        exact ⟨trivial, Or.inl rfl⟩
      · next lead _ =>
          split at h <;> obtain ⟨rfl, rfl⟩ := Prod.mk.inj (Option.some.inj h)
          · exact ⟨trivial, Or.inl rfl⟩
          · next hcheck _ => exact ⟨fun status => mayMove_of_checkStatus hcheck, Or.inl rfl⟩
          · next hcheck _ => exact ⟨fun status => mayMove_of_checkStatus hcheck, Or.inl rfl⟩
  | countAgents id dto existing assignee =>
      simp only [UpdatePc.next] at h
      split at h <;> obtain ⟨rfl, rfl⟩ := Prod.mk.inj (Option.some.inj h)
      · exact ⟨trivial, Or.inl rfl⟩
      · exact ⟨hp, Or.inl rfl⟩
  | update id dto existing =>
      simp only [UpdatePc.next] at h
      split at h <;> obtain ⟨rfl, rfl⟩ := Prod.mk.inj (Option.some.inj h)
      · exact ⟨trivial, Or.inl rfl⟩
      · next lead hlead => exact ⟨trivial, Or.inr ⟨id, dto, existing, lead, rfl, hlead, rfl⟩⟩
  | returned lead => cases h
  | thrown error => cases h

/-- What the update makes of a status. -/
theorem mayMove_data {dto : UpdateLeadDto} {existing : Existing} {lead : Lead}
    (h : ∀ status, dto.status = some status → MayMove lead.status status) :
    MayMove lead.status (dto.data existing now lead).status := by
  cases hs : dto.status with
  | none => exact Or.inl (by simp [UpdateLeadDto.data, hs])
  | some status => simpa [UpdateLeadDto.data, hs] using h status hs

end Step

/-! ### Whole runs -/

section Run

variable {ι : Type} [DecidableEq ι] {S T : Sys LeadStore ι UpdatePc} {a : Action ι Date Empty}

/-- One statement: the requests go on holding checked moves, and each lead is
found with a status the pipeline allows. -/
theorem step_mayMove (hS : ∀ i, (S.pc i).Checked) (hC : UpToDate S a)
    (hT : (updating ι).step S a = some T) :
    (∀ i, (T.pc i).Checked) ∧ ∀ id lead, S.shared.findLead id = some lead →
      ∃ lead', T.shared.findLead id = some lead' ∧ MayMove lead.status lead'.status := by
  cases a with
  | env e => exact e.elim
  | act i now =>
      obtain ⟨s', p', hn, rfl⟩ := step_act.1 hT
      obtain ⟨hp', hs'⟩ := UpdatePc.next_spec hn (hS i)
      refine ⟨pc_update_cases (P := fun _ p => UpdatePc.Checked p) hp' fun j _ => hS j, ?_⟩
      rcases hs' with rfl | ⟨id, dto, existing, stored, hpc, hstored, rfl⟩
      · exact fun id lead hlead => ⟨lead, hlead, Or.inl rfl⟩
      · intro id' lead hlead
        have hdata : ∀ l, (dto.data existing now l).id = l.id := fun _ => rfl
        simp only [findLead_updateLead hdata]
        by_cases hid : id' = id
        · subst hid
          obtain rfl := Option.some.inj (hstored.symm.trans hlead)
          refine ⟨_, by rw [if_pos rfl, hstored]; rfl, mayMove_data fun status hstatus => ?_⟩
          -- the stored status is the one the move was checked against
          have hchecked := hS i
          rw [hpc] at hchecked
          simp only [UpToDate, hpc, UpdatePc.UpToDate] at hC
          rw [hC (by rw [hstatus]; rfl) _ hstored]
          exact hchecked status hstatus
        · exact ⟨lead, by rw [if_neg hid]; exact hlead, Or.inl rfl⟩

omit [DecidableEq ι] in
/-- A request that has issued nothing holds no move. -/
theorem checked_of_isStart {p : UpdatePc} (h : p.isStart = true) : p.Checked := by
  cases p <;> first | exact trivial | cases h

/-- **The pipeline is respected** by any number of concurrent updates, in any
order of their statements, as long as every request that writes a status finds
the status it has read: each step moves each stored status along an edge of the
pipeline or leaves it, and a lead that is won or lost stays so. -/
theorem pipeline_respected (S : Sys LeadStore ι UpdatePc) (as : List (Action ι Date Empty))
    (hstart : ∀ i, (S.pc i).isStart = true) (hC : (updating ι).Meets UpToDate S as) :
    (updating ι).Meets Respects S as ∧
      ∀ T, (updating ι).run S as = some T → ∀ id lead, S.shared.findLead id = some lead →
        transitions lead.status = [] →
          ∃ lead', T.shared.findLead id = some lead' ∧ lead'.status = lead.status := by
  have hS : ∀ i, (S.pc i).Checked := fun i => checked_of_isStart (hstart i)
  constructor
  · refine Machine.Meets.of_invariant (I := fun S => ∀ i, (S.pc i).Checked)
      (fun S a T h hC hT => (step_mayMove h hC hT).1) (fun S a h hC T hT id lead lead' hl hl' => ?_)
      as hS hC
    obtain ⟨found, hfound, hmove⟩ := (step_mayMove h hC hT).2 id lead hl
    obtain rfl := Option.some.inj (hfound.symm.trans hl')
    exact hmove
  · intro T hrun id lead hlead hfinal
    have hI := Machine.run_invariant
      (I := fun S : Sys LeadStore ι UpdatePc => (∀ i, (S.pc i).Checked) ∧
        ∃ lead', S.shared.findLead id = some lead' ∧ lead'.status = lead.status)
      (fun S a T h hC hT => ?_) as ⟨hS, lead, hlead, rfl⟩ hC hrun
    · exact hI.2
    · obtain ⟨hchecked, lead₁, h₁, hst₁⟩ := h
      obtain ⟨hchecked', hmove⟩ := step_mayMove hchecked hC hT
      obtain ⟨lead₂, h₂, hmay⟩ := hmove id lead₁ h₁
      refine ⟨hchecked', lead₂, h₂, ?_⟩
      rw [MayMove, hst₁, hfinal] at hmay
      exact hmay.resolve_right List.not_mem_nil

/-- What a write on a status that has moved on does: it keeps to the pipeline
only when its own move happens to be allowed from where the lead is now. -/
theorem respects_update_iff {i : ι} {now : Date} {id : String} {dto : UpdateLeadDto}
    {existing : Existing} {lead : Lead} {status : LeadStatus}
    (hp : S.pc i = .update id dto existing) (hlead : S.shared.findLead id = some lead)
    (hstatus : dto.status = some status) :
    Respects S (.act i now) ↔ MayMove lead.status status := by
  have hdata : ∀ l, (dto.data existing now l).id = l.id := fun _ => rfl
  have hnew : (dto.data existing now lead).status = status := by simp [UpdateLeadDto.data, hstatus]
  have hstep : (updating ι).step S (.act i now) =
      some ⟨S.shared.updateLead id (dto.data existing now),
        Function.update S.pc i (.returned (dto.data existing now lead))⟩ := by
    simp [updating, Threads.machine, hp, UpdatePc.next, hlead]
  constructor
  · intro h
    have := h _ hstep id lead (dto.data existing now lead) hlead
      (by rw [findLead_updateLead hdata, if_pos rfl, hlead]; rfl)
    rwa [hnew] at this
  · intro h T hT id' found found' hfound hfound'
    obtain rfl := Option.some.inj (hstep.symm.trans hT)
    rw [findLead_updateLead hdata] at hfound'
    by_cases hid : id' = id
    · subst hid
      obtain rfl := Option.some.inj (hlead.symm.trans hfound)
      rw [if_pos rfl, hlead, Option.map_some] at hfound'
      obtain rfl := Option.some.inj hfound'
      rwa [hnew]
    · rw [if_neg hid, hfound] at hfound'
      exact Or.inl (congrArg Lead.status (Option.some.inj hfound').symm)

end Run

/-- A buyer's enquiry that has come to the negotiation. -/
def demoLead : Lead :=
  ⟨"lead-1", none, none, "Ahmed Hassan", "+201001234567", none, none, "website", none, none, none,
    .negotiating, none, none, some 1000⟩

/-- The demo lead alone. -/
def demoLeads : LeadStore := ⟨[demoLead], [], ⟨[], []⟩, ⟨[], [], [], [], []⟩⟩

/-- One request marks the lead won, another lost. -/
def wonAndLost : Sys LeadStore Bool UpdatePc :=
  ⟨demoLeads, fun won => .findUnique "lead-1" { status := some (if won then .won else .lost) }⟩

/-- One after the other, the second request is refused. -/
theorem pipeline_respected_demo :
    (updating Bool).Meets Respects wonAndLost [.act true 2000, .act true 2000, .act false 3000] ∧
      ∃ T, (updating Bool).run wonAndLost [.act true 2000, .act true 2000, .act false 3000] =
          some T ∧ (T.shared.findLead "lead-1").map Lead.status = some .won := by
  have hrespects := pipeline_respected wonAndLost
    [.act true 2000, .act true 2000, .act false 3000] (by decide) (by decide)
  have hrun : (((updating Bool).run wonAndLost
      [.act true 2000, .act true 2000, .act false 3000]).map fun T =>
        (T.shared.findLead "lead-1").map Lead.status) = some (some .won) := by decide
  obtain ⟨T, hT, hstatus⟩ := Option.map_eq_some_iff.1 hrun
  exact ⟨hrespects.1, T, hT, hstatus⟩

/-- **The defect.**  Both requests read the lead under negotiation, and the lead
that one has marked won the other marks lost. -/
theorem won_lead_lost :
    ∃ T U, (updating Bool).run wonAndLost
        [.act true 2000, .act false 2000, .act true 2000] = some T ∧
      (updating Bool).step T (.act false 2000) = some U ∧
      (T.shared.findLead "lead-1").map Lead.status = some .won ∧
      (U.shared.findLead "lead-1").map Lead.status = some .lost ∧ ¬ MayMove .won .lost := by
  have hrun : (((updating Bool).run wonAndLost
      [.act true 2000, .act false 2000, .act true 2000]).bind fun T =>
        ((updating Bool).step T (.act false 2000)).map fun U =>
          ((T.shared.findLead "lead-1").map Lead.status,
            (U.shared.findLead "lead-1").map Lead.status)) =
      some (some .won, some .lost) := by decide
  obtain ⟨T, hT, hU⟩ := Option.bind_eq_some_iff.1 hrun
  obtain ⟨U, hU, hstatus⟩ := Option.map_eq_some_iff.1 hU
  obtain ⟨hwon, hlost⟩ := Prod.mk.inj hstatus
  exact ⟨T, U, hT, hU, hwon, hlost, by decide⟩

end Leads
end TopChoice
