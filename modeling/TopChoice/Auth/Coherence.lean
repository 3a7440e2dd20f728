/-
# What holds of every interleaving

No condition on the order of the steps is needed here.  The store stays well
formed, a request past its signature check works on a signed token, and the
session a rotation has signed but not recorded yet (`pending`) is its own: no
row carries its `jti`, no marker does before the request writes one, and no two
requests hold the same.
-/

import TopChoice.Auth.Interleaving

namespace TopChoice
namespace Auth

open Threads

/-- The session a refresh has signed and has no row for yet. -/
def RefreshPc.pending : RefreshPc → Option RefreshTokenPayload
  | .setMarker _ _ issued => some issued.refreshToken
  | .insertRow _ _ issued _ => some issued.refreshToken
  | _ => none

/-- The session a request has signed and has no row for yet. -/
def Pc.pending : Pc → Option RefreshTokenPayload
  | .refresh p => p.pending
  | .revokeAll .. => none

/-- A new session of the user that nothing records yet. -/
structure Fresh (user : User) (t : RefreshTokenPayload) (s : Store) : Prop where
  signed : t ∈ s.signedRefresh
  sub : t.sub = user.id
  rowless : ∀ r ∈ s.refreshTokens, r.jti ≠ t.jti

/-- The identifiers a `revokeAllSessions` is about to deny were handed out. -/
def RevokePc.Sound (s : Store) : RevokePc → Prop
  | .plan _ live => ∀ r ∈ live, r.jti < s.uuids
  | .deny _ todo => ∀ e ∈ todo, e.1 < s.uuids
  | _ => True

/-- What a refresh may rely on where it stands. -/
def RefreshPc.Sound (cfg : JwtConfig) (s : Store) : RefreshPc → Prop
  | .decode _ => True
  | .isDenied t => t ∈ s.signedRefresh
  | .revokeAll t p => t ∈ s.signedRefresh ∧ p.Sound s
  | .isActive t => t ∈ s.signedRefresh
  | .isKnown t => t ∈ s.signedRefresh
  | .findUser t => t ∈ s.signedRefresh
  | .sign t _ => t ∈ s.signedRefresh
  | .setMarker t user issued => t ∈ s.signedRefresh ∧ Fresh user issued.refreshToken s ∧
      s.hasMarker issued.refreshToken.sub issued.refreshToken.jti = false ∧
      issued.refreshToken.exp * 1000 ≤ secondsFromNow cfg.refreshTtlSeconds s.now
  | .insertRow t user issued expiresAt => t ∈ s.signedRefresh ∧ Fresh user issued.refreshToken s ∧
      issued.refreshToken.exp * 1000 ≤ expiresAt
  | .setDenylist t _ _ => t ∈ s.signedRefresh
  | .delMarker t _ _ => t ∈ s.signedRefresh
  | .markRevoked t _ _ => t ∈ s.signedRefresh
  | .returned _ => True
  | .failed _ => True

/-- What a request may rely on where it stands. -/
def Pc.Sound (cfg : JwtConfig) (s : Store) : Pc → Prop
  | .refresh p => p.Sound cfg s
  | .revokeAll _ p => p.Sound s

/-- More has been signed and handed out, and the clock has not gone back. -/
structure Later (s s' : Store) : Prop where
  signedRefresh : ∀ t ∈ s.signedRefresh, t ∈ s'.signedRefresh
  uuids : s.uuids ≤ s'.uuids
  now : s.now ≤ s'.now

theorem later_exec (cfg : JwtConfig) (s : Store) (cmd : Command) : Later s (cmd.exec cfg s) :=
  ⟨fun _ ht => Command.mem_signedRefresh_exec cfg s cmd ht, Command.uuids_le_exec cfg s cmd,
    (Command.now_exec cfg s cmd).ge⟩

theorem later_tick (s : Store) (d : Millis) : Later s (s.tick d) :=
  ⟨fun _ ht => ht, le_rfl, Nat.le_add_right ..⟩

theorem RevokePc.Sound.mono {s s' : Store} {p : RevokePc} (h : p.Sound s) (hl : Later s s') :
    p.Sound s' := by
  cases p with
  | plan old live => exact fun r hr => lt_of_lt_of_le (h r hr) hl.uuids
  | deny old todo => exact fun e he => lt_of_lt_of_le (h e he) hl.uuids
  | _ => trivial

/-- **What a request relies on survives**, as long as nobody else records its
pending session. -/
theorem Pc.Sound.mono {cfg : JwtConfig} {s s' : Store} {p : Pc} (h : p.Sound cfg s)
    (hl : Later s s')
    (hrow : ∀ t, p.pending = some t → ∀ r ∈ s'.refreshTokens, r.jti = t.jti →
      ∃ r₀ ∈ s.refreshTokens, r₀.jti = t.jti)
    (hmark : ∀ t, p.pending = some t → s'.hasMarker t.sub t.jti = true →
      s.hasMarker t.sub t.jti = true) : p.Sound cfg s' := by
  have hfresh : ∀ {user t}, p.pending = some t → Fresh user t s → Fresh user t s' :=
    fun hp hf => ⟨hl.signedRefresh _ hf.signed, hf.sub, fun r hr hj => by
      obtain ⟨r₀, h₀, hj₀⟩ := hrow _ hp r hr hj
      exact hf.rowless r₀ h₀ hj₀⟩
  cases p with
  | revokeAll u p => exact RevokePc.Sound.mono h hl
  | refresh p =>
      cases p with
      | decode t => trivial
      | revokeAll t p => exact ⟨hl.signedRefresh t h.1, RevokePc.Sound.mono h.2 hl⟩
      | setMarker t user issued =>
          obtain ⟨ht, hf, hm, hx⟩ := h
          refine ⟨hl.signedRefresh t ht, hfresh rfl hf, ?_, ?_⟩
          · exact Bool.eq_false_iff.2 fun hm' => Bool.eq_false_iff.1 hm (hmark _ rfl hm')
          · exact le_trans hx (Nat.add_le_add_right hl.now _)
      | insertRow t user issued e => exact ⟨hl.signedRefresh t h.1, hfresh rfl h.2.1, h.2.2⟩
      | returned a => trivial
      | failed e => trivial
      | _ => exact hl.signedRefresh _ h

namespace Pc.Moves

variable {cfg : JwtConfig} {s : Store} {p p' : Pc} {cmd : Command}

/-- A pending session was pending before, or has just been signed. -/
theorem pending_or (h : p.Moves cfg s cmd p') {t : RefreshTokenPayload}
    (ht : p'.pending = some t) : p.pending = some t ∨ t.jti = s.uuids + 1 := by
  cases h with
  | revokeAll h => cases ht
  | refresh h =>
      cases h with
      | signed t user =>
          obtain rfl := Option.some.inj ht
          exact Or.inr rfl
      | marked t user issued => exact Or.inl ht
      | _ => cases ht

/-- A marker is written for the pending session. -/
theorem pc_of_setMarker {u : UserId} {j : Jti} (h : p.Moves cfg s (.setMarker u j) p') :
    ∃ t user issued, p = .refresh (.setMarker t user issued) ∧ user.id = u ∧
      issued.refreshToken.jti = j := by
  cases h with
  | revokeAll h => cases h
  | refresh h =>
      cases h with
      | marked t user issued => exact ⟨t, user, issued, rfl, rfl, rfl⟩
      | revoking t r r' _ hr => cases hr

/-- A row is inserted for the pending session. -/
theorem pc_of_createRow {row : RefreshTokenRow} (h : p.Moves cfg s (.createRow row) p') :
    ∃ t user issued e, p = .refresh (.insertRow t user issued e) ∧
      row = ⟨user.id, issued.refreshToken.jti, e, none, none⟩ := by
  cases h with
  | revokeAll h => cases h
  | refresh h =>
      cases h with
      | inserted t user issued e => exact ⟨t, user, issued, e, rfl, rfl⟩
      | revoking t r r' _ hr => cases hr

theorem pending_of_setMarker {u : UserId} {j : Jti} (h : p.Moves cfg s (.setMarker u j) p')
    (hp : p.Sound cfg s) : ∃ t, p.pending = some t ∧ t.sub = u ∧ t.jti = j := by
  obtain ⟨t, user, issued, rfl, rfl, rfl⟩ := h.pc_of_setMarker
  exact ⟨_, rfl, hp.2.1.sub, rfl⟩

theorem pending_of_createRow {row : RefreshTokenRow} (h : p.Moves cfg s (.createRow row) p')
    (hp : p.Sound cfg s) : ∃ t, p.pending = some t ∧ t.sub = row.userId ∧ t.jti = row.jti := by
  obtain ⟨t, user, issued, e, rfl, rfl⟩ := h.pc_of_createRow
  exact ⟨_, rfl, hp.2.1.sub, rfl⟩

/-- A rotation denies the token it consumes until that token's `exp`. -/
theorem signed_of_denyJti {j : Jti} {exp : ℕ} (h : p.Moves cfg s (.denyJti j exp) p')
    (hp : p.Sound cfg s) : ∃ t ∈ s.signedRefresh, t.jti = j ∧ t.exp = exp := by
  cases h with
  | revokeAll h => cases h
  | refresh h =>
      cases h with
      | consumed t user issued => exact ⟨t, hp, rfl, rfl⟩
      | revoking t r r' _ hr => cases hr

/-- **A request issues valid commands.** -/
theorem valid (h : p.Moves cfg s cmd p') (hwf : WellFormed s) (hp : p.Sound cfg s) :
    cmd.Valid s := by
  cases cmd with
  | setMarker u j =>
      obtain ⟨t, user, issued, rfl, rfl, rfl⟩ := h.pc_of_setMarker
      exact hwf.refresh_lt _ hp.2.1.signed
  | createRow row =>
      obtain ⟨t, user, issued, e, rfl, rfl⟩ := h.pc_of_createRow
      exact ⟨⟨_, hp.2.1.signed, rfl, hp.2.1.sub, hp.2.2⟩, hp.2.1.rowless⟩
  | denyJti j exp =>
      obtain ⟨t, ht, rfl, -⟩ := h.signed_of_denyJti hp
      exact hwf.refresh_lt t ht
  | denyFor j ttl =>
      cases h with
      | revokeAll h => cases h with | denied old _ _ todo => exact hp _ (List.mem_cons_self ..)
      | refresh h =>
          cases h with
          | revoking t r r' _ hr =>
              cases hr with | denied old _ _ todo => exact hp.2 _ (List.mem_cons_self ..)
  | _ => trivial

end Pc.Moves

/-- A `revokeAllSessions` denies identifiers that were handed out. -/
theorem RevokePc.Moves.sound {cfg : JwtConfig} {s : Store} {u : UserId} {p p' : RevokePc}
    {cmd : Command} (h : p.Moves u s cmd p') (hwf : WellFormed s) (hp : p.Sound s) :
    p'.Sound (cmd.exec cfg s) := by
  have hafter : ∀ {old last s'}, (afterBatch old last).Sound s' := by
    intro old last s'
    cases last <;> trivial
  cases h with
  | first c h => split_ifs <;> first | exact hafter | trivial
  | scanned old c h => split_ifs <;> first | exact hafter | trivial
  | unlinked old keys last => exact hafter
  | found old => exact fun r hr => hwf.row_lt (Table.mem_findMany.1 hr).1
  | planned old live =>
      intro e he
      obtain ⟨r, hr, rfl⟩ := List.mem_map.1 he
      exact hp r hr
  | denied old jti ttl todo => exact fun e he => hp e (List.mem_cons_of_mem _ he)
  | _ => trivial

/-- **A request relies on what it has made sure of.** -/
theorem Pc.Moves.sound {cfg : JwtConfig} {s : Store} {p p' : Pc} {cmd : Command}
    (h : p.Moves cfg s cmd p') (hwf : WellFormed s) (hp : p.Sound cfg s) :
    p'.Sound cfg (cmd.exec cfg s) := by
  cases h with
  | revokeAll h => exact h.sound hwf hp
  | refresh h =>
      cases h with
      | decoded t h => exact h
      | denied t => exact ⟨hp, trivial⟩
      | revoking t r r' _ hr =>
          exact ⟨Command.mem_signedRefresh_exec cfg s _ hp.1, hr.sound hwf hp.2⟩
      | signed t user =>
          refine ⟨List.mem_cons_of_mem _ hp, ⟨List.mem_cons_self .., rfl, fun r hr => ?_⟩, ?_, ?_⟩
          · exact Nat.ne_of_lt (Nat.lt_succ_of_lt (hwf.row_lt hr))
          · refine Bool.eq_false_iff.2 fun hm => ?_
            have := hwf.marker_lt _ _ (Expiring.get_ne_none_of_has hm)
            exact absurd this (Nat.not_lt.2 (Nat.le_succ _))
          · simp only [refreshPayload, secondsFromNow, Command.exec, Auth.sign, unixSeconds]
            omega
      | marked t user issued => exact ⟨hp.1, ⟨hp.2.1.signed, hp.2.1.sub, hp.2.1.rowless⟩, hp.2.2.2⟩
      | inserted t user issued e => exact hp.1
      | consumed t user issued => exact Command.mem_signedRefresh_exec cfg s (.denyJti ..) hp
      | returned t user issued => trivial
      | rejected t e => trivial
      | reused t => trivial
      | unknown t => trivial
      | turnedAway t e => trivial
      | _ => exact hp

variable {ι : Type}

/-- The store is well formed, every request is sound, and pending sessions have
one holder each. -/
structure Coherent (cfg : JwtConfig) (S : Sys Store ι Pc) : Prop where
  wf : WellFormed S.shared
  sound : ∀ i, (S.pc i).Sound cfg S.shared
  distinct : ∀ i j t t', i ≠ j → (S.pc i).pending = some t → (S.pc j).pending = some t' →
    t.jti ≠ t'.jti

namespace Coherent

variable {cfg : JwtConfig} {S : Sys Store ι Pc}

/-- A pending session is signed. -/
theorem pending_signed (h : Coherent cfg S) {i : ι} {t : RefreshTokenPayload}
    (ht : (S.pc i).pending = some t) : t ∈ S.shared.signedRefresh := by
  have hs := h.sound i
  cases hp : S.pc i with
  | revokeAll u p => rw [hp] at ht; cases ht
  | refresh p =>
      rw [hp] at ht hs
      cases p with
      | setMarker t' user issued =>
          obtain rfl := Option.some.inj ht
          exact hs.2.1.signed
      | insertRow t' user issued e =>
          obtain rfl := Option.some.inj ht
          exact hs.2.1.signed
      | _ => cases ht

theorem tick (h : Coherent cfg S) (d : Millis) :
    Coherent cfg { S with shared := S.shared.tick d } :=
  ⟨h.wf.tick d, fun i => (h.sound i).mono (later_tick ..) (fun _ _ r hr hj => ⟨r, hr, hj⟩)
    (fun _ _ => hasMarker_of_tick), h.distinct⟩

variable [DecidableEq ι]

/-- A request may be replaced by one that has signed nothing. -/
theorem replace (h : Coherent cfg S) {i : ι} {p : Pc} (hp : p.Sound cfg S.shared)
    (hnone : p.pending = none) : Coherent cfg ⟨S.shared, Function.update S.pc i p⟩ := by
  have hold : ∀ {j t}, (Function.update S.pc i p j).pending = some t → (S.pc j).pending = some t := by
    intro j t ht
    by_cases hj : j = i
    · subst hj
      simp [hnone] at ht
    · rwa [Function.update_of_ne hj] at ht
  refine ⟨h.wf, pc_update_cases hp fun j _ => h.sound j, fun j k t t' hjk ht ht' => ?_⟩
  exact h.distinct j k t t' hjk (hold ht) (hold ht')

/-- **One step keeps the system coherent.** -/
theorem act (h : Coherent cfg S) {i : ι} {cmd : Command} {p' : Pc}
    (hm : (S.pc i).Moves cfg S.shared cmd p') :
    Coherent cfg ⟨cmd.exec cfg S.shared, Function.update S.pc i p'⟩ := by
  have hi := h.sound i
  refine ⟨Command.wellFormed_exec cfg h.wf (hm.valid h.wf hi), ?_, ?_⟩
  · refine pc_update_cases (P := fun _ (p : Pc) => p.Sound cfg (cmd.exec cfg S.shared))
      (hm.sound h.wf hi) fun j hj => (h.sound j).mono (later_exec ..) ?_ ?_
    · intro t ht r hr hjti
      rcases Command.mem_refreshTokens_exec cfg S.shared cmd hr with rfl | ⟨r₀, h₀, -, hj₀, -⟩
      · obtain ⟨t', ht', -, hj'⟩ := hm.pending_of_createRow hi
        exact absurd (hjti.symm.trans hj'.symm) (h.distinct j i t t' hj ht ht')
      · exact ⟨r₀, h₀, hj₀.symm.trans hjti⟩
    · intro t ht hmark
      rcases Command.hasMarker_exec cfg S.shared cmd hmark with rfl | hmark
      · obtain ⟨t', ht', -, hj'⟩ := hm.pending_of_setMarker hi
        exact absurd hj'.symm (h.distinct j i t t' hj ht ht')
      · exact hmark
  · have hnew : ∀ {j t t'}, j ≠ i → p'.pending = some t → (S.pc j).pending = some t' →
        t.jti ≠ t'.jti := by
      intro j t t' hj ht ht'
      rcases hm.pending_or ht with hp | hp
      · exact h.distinct i j t t' hj.symm hp ht'
      · rw [hp]
        exact (Nat.ne_of_lt (Nat.lt_succ_of_lt (h.wf.refresh_lt _ (h.pending_signed ht')))).symm
    intro j k t t' hjk ht ht'
    by_cases hj : j = i <;> by_cases hk : k = i
    · exact absurd (hj.trans hk.symm) hjk
    · subst hj
      simp only [Function.update_self, Function.update_of_ne hk] at ht ht'
      exact hnew hk ht ht'
    · subst hk
      simp only [Function.update_self, Function.update_of_ne hj] at ht ht'
      exact (hnew hj ht' ht).symm
    · simp only [Function.update_of_ne hj, Function.update_of_ne hk] at ht ht'
      exact h.distinct j k t t' hjk ht ht'

end Coherent

end Auth
end TopChoice
