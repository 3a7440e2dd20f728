/-
# Redis commands that fail

`redis/cache.service.ts` is fail-open: a failed `set` or `del` is a no-op, a
failed `exists` answers `false`, "so a Redis outage degrades performance, never
correctness".  A revocation writes three things, and the marker alone is enough
to be accepted again.  A session survives its own revocation when its marker
stays and no denylist entry covers the rest of its JWT (`CleanConsume`,
`CleanRevokeAll` exclude that), and a revoked session is let in when the marker
is still there and the denylist cannot be read (`CleanRead` excludes that).  In
a run of clean calls every revoked session has lost its marker or is denied for
as long as its JWT lasts (`Remembers`), whatever else Redis drops.
-/

import TopChoice.Auth.Commands

namespace TopChoice
namespace Auth

/-- The row of the token has `revokedAt` set. -/
def RowRevoked (t : RefreshTokenPayload) (s : Store) : Prop :=
  ∃ r ∈ s.refreshTokens, r.jti = t.jti ∧ r.revokedAt ≠ none

/-! ### Calls that lose nothing that matters -/

/-- A `revokeRefreshJti` whose denylist write or whose marker deletion reaches
Redis, or that finds no marker to delete. -/
def CleanConsume (f : RevokeReplies) (t : RefreshTokenPayload) (s : Store) : Prop :=
  f.denylist = .ok ∨ f.marker = .ok ∨ s.marker t.sub t.jti = none

/-- A `revokeAllSessions` that, for each session it revokes while the JWT lasts,
sweeps the marker or finds none, or denies the `jti` in whole seconds up to the
JWT's `exp`. -/
def CleanRevokeAll (f : RevokeAllReplies) (u : UserId) (s : Store) : Prop :=
  ∀ t ∈ s.signedRefresh, t.sub = u → unixSeconds s.now < t.exp →
    ∀ r ∈ s.refreshTokens, r.jti = t.jti → r.revokedAt = none →
      Store.swept f.scan u (.authRefresh u t.jti) = true ∨ s.marker u t.jti = none ∨
        (f.denylist t.jti = .ok ∧ t.exp * 1000 ≤ s.now + denySeconds r s.now * 1000 + 1)

/-- A `verifyRefreshToken` that does not find the marker of a revoked session
while the denylist is out of reach. -/
def CleanRead (f : VerifyReplies) (t : RefreshTokenPayload) (s : Store) : Prop :=
  ¬ (f.denied = .failed ∧ s.cacheExists f.active (.authRefresh t.sub t.jti) = true ∧
    unixSeconds s.now < t.exp ∧ RowRevoked t s)

/-- The revocations of a call, as far as it gets to make them, are clean. -/
def Clean (s : Store) : Call → Prop
  | .tick _ => True
  | .issueTokens .. => True
  | .refresh f t =>
      (Accepts f.verify t s → ActiveAccount t s → CleanConsume f.revoke t s) ∧
        (Reused f.verify t s → CleanRevokeAll f.verify.revokeAll t.sub s)
  | .logout f access token => PassesGuard f access s → ∀ t, token = some t →
      (Accepts f.verify t s → CleanConsume f.revoke t s) ∧
        (Reused f.verify t s → CleanRevokeAll f.verify.revokeAll t.sub s)
  | .revokeAllSessions f u => CleanRevokeAll f u s
  | .purgeExpiredRefreshTokens => True
  | .adminUpdate f id dto _ _ =>
      (∃ target, s.findUser id = some target ∧ dto.revokes target = true) → CleanRevokeAll f id s

/-! ### The invariant -/

/-- A revoked session has lost its marker, or is denied while its JWT lasts. -/
structure Remembers (s : Store) : Prop where
  wf : WellFormed s
  revoked : ∀ t ∈ s.signedRefresh, RowRevoked t s → s.marker t.sub t.jti = none ∨ Denied t s

theorem remembers_fresh (users : List User) (now : Millis) : Remembers (Store.fresh users now) :=
  ⟨wellFormed_fresh users now, fun _ ht => absurd ht List.not_mem_nil⟩

namespace Remembers

variable {s : Store}

/-- **A revoked session is not accepted** by a clean read. -/
theorem not_rowRevoked (h : Remembers s) {f : VerifyReplies} {t : RefreshTokenPayload}
    (ha : Accepts f t s) (hf : CleanRead f t s) : ¬ RowRevoked t s := by
  intro hr
  have hmarker : s.cacheExists f.active (.authRefresh t.sub t.jti) = true := by
    refine ha.known.resolve_right fun hk => ?_
    obtain ⟨r, hm, hj, hrev⟩ := hr
    rw [isKnownInDatabase_eq_false] at hk
    · exact Bool.noConfusion hk
    · intro r' hm' hj'
      rwa [h.wf.row_inj r' hm' r hm (hj'.trans hj.symm)]
  cases hd : f.denied with
  | failed => exact hf ⟨hd, hmarker, ha.unexpired, hr⟩
  | ok =>
      rcases h.revoked t ha.signed hr with hn | hn
      · cases hact : f.active with
        | failed => rw [hact] at hmarker; exact Bool.noConfusion hmarker
        | ok =>
            rw [hact] at hmarker
            exact Expiring.get_ne_none_of_has hmarker hn
      · have hhas := hn ha.unexpired _ (lt_of_unixSeconds_lt ha.unexpired)
        have := ha.notDenied
        rw [hd] at this
        exact Bool.noConfusion (hhas.symm.trans this)

theorem tick (h : Remembers s) (d : Millis) : Remembers (s.tick d) :=
  ⟨h.wf.tick d, fun t ht hr => (h.revoked t ht hr).imp_right fun hd => hd.tick d⟩

theorem purgeExpiredRefreshTokens (h : Remembers s) : Remembers (purgeExpiredRefreshTokens s) :=
  ⟨h.wf.purgeExpiredRefreshTokens, fun t ht ⟨r, hr, hj, hrev⟩ =>
    h.revoked t ht ⟨r, (Table.mem_deleteMany.1 hr).1, hj, hrev⟩⟩

theorem setUsers (h : Remembers s) (users : List User) : Remembers { s with users := users } :=
  ⟨h.wf.setUsers users, h.revoked⟩

theorem denyAccess (h : Remembers s) {a : AccessTokenPayload} (ha : a ∈ s.signedAccess) (r : Reply)
    (exp : ℕ) : Remembers (denyJti r a.jti exp s) := by
  have hr := redisOnly_denyJti r a.jti exp s
  refine ⟨h.wf.denyJti (h.wf.access_lt a ha) r exp, ?_⟩
  rw [hr.signedRefresh]
  rintro t ht ⟨row, hm, hj, hrev⟩
  rw [marker_denyJti]
  exact (h.revoked t ht ⟨row, hr.refreshTokens ▸ hm, hj, hrev⟩).imp_right fun hd =>
    hd.congr hr.now (denylist_denyJti_of_ne (h.wf.jti_ne t ht a ha) ..)

/-- A login opens an unrevoked session, whether or not its marker is written. -/
theorem issueTokens (h : Remembers s) (cfg : JwtConfig) (r : Reply) (user : TokenSubject) :
    Remembers (issueTokens cfg r user s).2 := by
  have hlt : ∀ j, j < s.uuids → j ≠ s.uuids + 1 := fun j hj =>
    Nat.ne_of_lt (Nat.lt_succ_of_lt hj)
  refine ⟨h.wf.issueTokens cfg r user, fun t ht ⟨row, hrow, hj, hrev⟩ => ?_⟩
  rcases Table.mem_create.1 hrow with hrow | rfl
  · rcases List.mem_cons.1 ht with rfl | ht
    · exact absurd hj (hlt _ (h.wf.row_lt hrow))
    · rw [marker_issueTokens_of_ne (hlt _ (h.wf.refresh_lt t ht))]
      exact (h.revoked t ht ⟨row, hrow, hj, hrev⟩).imp_right fun hd =>
        hd.congr rfl (denylist_issueTokens ..)
  · exact absurd rfl hrev

/-- **A clean consumption is remembered.** -/
theorem revokeRefreshJti (h : Remembers s) {f : RevokeReplies} {t : RefreshTokenPayload}
    (ht : t ∈ s.signedRefresh) (hf : CleanConsume f t s) (by' : Option Jti) :
    Remembers (revokeRefreshJti f t.sub t.jti t.exp by' s) := by
  have hs := sessionsOnly_revokeRefreshJti f t.sub t.jti t.exp by' s
  refine ⟨h.wf.revokeRefreshJti ht f by', ?_⟩
  rw [hs.signedRefresh]
  rintro t' ht' ⟨r, hr, hj, hrev⟩
  by_cases he : t'.jti = t.jti
  · obtain rfl := h.wf.jti_inj t' ht' t ht he
    rcases hf with hf | hf | hf
    · exact Or.inr fun hexp => lasts_revokeRefreshJti hf (hs.now ▸ hexp) by'
    · exact Or.inl (marker_revokeRefreshJti hf ..)
    · exact Or.inl (marker_revokeRefreshJti_eq_none hf ..)
  · rw [refreshTokens_revokeRefreshJti] at hr
    rw [marker_revokeRefreshJti_of_ne he]
    refine (h.revoked t' ht' ?_).imp_right fun hd =>
      hd.congr hs.now (denylist_revokeRefreshJti_of_ne he ..)
    rcases Table.mem_updateMany.1 hr with ⟨r₀, _, hp, rfl⟩ | ⟨hr, _⟩
    · exact absurd (hj.symm.trans (of_decide_eq_true hp).1) he
    · exact ⟨r, hr, hj, hrev⟩

/-- **A clean revocation of all sessions is remembered.** -/
theorem revokeAllSessions (h : Remembers s) {f : RevokeAllReplies} {u : UserId}
    (hf : CleanRevokeAll f u s) : Remembers (revokeAllSessions f u s) := by
  have hs := sessionsOnly_revokeAllSessions f u s
  refine ⟨h.wf.revokeAllSessions f u, ?_⟩
  rw [hs.signedRefresh]
  rintro t ht ⟨r, hr, hj, hrev⟩
  have hmarker : s.marker t.sub t.jti = none →
      (Auth.revokeAllSessions f u s).marker t.sub t.jti = none := fun hn => by
    rw [marker_revokeAllSessions, Store.marker, get_cacheDelByPattern]
    rw [Store.marker] at hn
    rw [hn, ite_self]
  rw [refreshTokens_revokeAllSessions] at hr
  rcases Table.mem_updateMany.1 hr with ⟨r₀, h₀, hp, rfl⟩ | ⟨hr, -⟩
  · -- the row is revoked by this call: it is clean, or the JWT has expired
    obtain ⟨hu, hlive⟩ := of_decide_eq_true hp
    obtain ⟨t', ht', hj', hu', hx⟩ := h.wf.row_token r₀ h₀
    obtain rfl := h.wf.jti_inj t' ht' t ht (hj'.trans hj)
    obtain rfl : t'.sub = u := hu'.trans hu
    by_cases hexp : unixSeconds s.now < t'.exp
    · rcases hf t' ht rfl hexp r₀ h₀ hj'.symm hlive with hw | hn | ⟨hd, hT⟩
      · left
        rw [marker_revokeAllSessions, Store.marker, get_cacheDelByPattern, hw, if_pos rfl]
      · exact Or.inl (hmarker hn)
      · right
        refine fun _ => lasts_denyRows f.denylist hd _ _ (fun r hr hrj => ?_)
          (Or.inl ⟨r₀, Table.mem_findMany.2 ⟨h₀, ?_⟩, hj'.symm⟩)
        · obtain rfl := h.wf.row_inj r (Table.mem_findMany.1 hr).1 r₀ h₀ (hrj.trans hj')
          exact hT
        · exact decide_eq_true ⟨hu, hlive, lt_of_lt_of_le (lt_of_unixSeconds_lt hexp) hx⟩
    · exact Or.inr fun hexp' => absurd (hs.now ▸ hexp') hexp
  · -- the row was revoked before: no live row carries this `jti`
    refine (h.revoked t ht ⟨r, hr, hj, hrev⟩).imp hmarker fun hd => hd.congr hs.now ?_
    refine denylist_revokeAllSessions_of_ne (fun r' hr' hl hj' => hrev ?_) f
    rw [h.wf.row_inj r hr r' hr' (hj.trans hj'.symm)]
    exact (of_decide_eq_true hl).2.1

theorem logoutAccess (h : Remembers s) (cfg : JwtConfig) (f : LogoutReplies)
    {principal : Option AuthenticatedUser}
    (hp : ∀ p, principal = some p → ∃ a ∈ s.signedAccess, p.jti = a.jti) :
    Remembers (logoutAccess cfg f principal s) := by
  cases principal with
  | none => exact h
  | some p =>
      obtain ⟨a, ha, hj⟩ := hp p rfl
      simp only [Auth.logoutAccess, revokeAccessJti, hj]
      exact h.denyAccess ha _ _

theorem logoutRefresh (h : Remembers s) {f : LogoutReplies} {t : RefreshTokenPayload}
    (hcon : Accepts f.verify t s → CleanConsume f.revoke t s)
    (hall : Reused f.verify t s → CleanRevokeAll f.verify.revokeAll t.sub s) :
    Remembers (logoutRefresh f t s) := by
  rcases logoutRefresh_cases f t s with ⟨ha, -, hl⟩ | ⟨hre, -, hl⟩ | ⟨-, -, hl⟩ <;> rw [hl]
  · exact h.revokeRefreshJti ha.signed (hcon ha) none
  · exact h.revokeAllSessions (hall hre)
  · exact h

/-- **A clean call is remembered**, whatever else Redis drops. -/
theorem runCall (h : Remembers s) (cfg : JwtConfig) {c : Call} (hc : Clean s c) :
    Remembers (runCall cfg s c) := by
  cases c with
  | tick d => exact h.tick d
  | issueTokens r user => exact h.issueTokens cfg r user
  | refresh f t =>
      rcases refresh_cases cfg f t s with ⟨user, a, ha, hu, hact, hr⟩ | ⟨hre, hr⟩ | ⟨e, -, hr⟩ <;>
        simp only [Auth.runCall, hr]
      · refine (h.issueTokens cfg f.issue _).revokeRefreshJti (List.mem_cons_of_mem _ ha.signed)
          ((hc.1 ha ⟨user, hu, hact⟩).imp_right (Or.imp_right fun hn => ?_)) _
        rw [marker_issueTokens_of_ne (Nat.ne_of_lt (Nat.lt_succ_of_lt (h.wf.refresh_lt t ha.signed)))]
        exact hn
      · exact h.revokeAllSessions (hc.2 hre)
      · exact h
  | logout f access token =>
      rcases logoutRequest_cases cfg f access token s with ⟨-, hl⟩ | ⟨hg, p, hp, hl⟩ <;>
        simp only [Auth.runCall, hl]
      · exact h
      · cases token with
        | none => exact h.logoutAccess cfg f hp
        | some t =>
            have hs := (sessionsOnly_logoutRefresh f t s).signedAccess
            obtain ⟨hcon, hall⟩ := hc hg t rfl
            exact (h.logoutRefresh hcon hall).logoutAccess cfg f (hs ▸ hp)
  | revokeAllSessions f u => exact h.revokeAllSessions hc
  | purgeExpiredRefreshTokens => exact h.purgeExpiredRefreshTokens
  | adminUpdate f id dto actorId actorRole =>
      rcases adminUpdate_cases f id dto actorId actorRole s with ⟨target, hu, ha⟩ | ⟨e, ha⟩ <;>
        simp only [Auth.runCall, ha]
      · split_ifs with hrev
        · exact (h.setUsers _).revokeAllSessions (hc ⟨target, hu, hrev⟩)
        · exact h.setUsers _
      · exact h

end Remembers

/-- **A revoked session is not re-admitted in clean runs.**  Redis commands may
fail in any pattern; as long as the revocations of the run are clean, and so is
the read that verifies the token, no token whose row is revoked verifies in the
state reached. -/
theorem verifyRefreshToken_not_rowRevoked (cfg : JwtConfig) (users : List User) (now : Millis)
    (cs : List Call) (hcs : (calls cfg).Meets Clean (Store.fresh users now) cs) (s : Store)
    (hrun : (calls cfg).run (Store.fresh users now) cs = some s) (f : VerifyReplies)
    (t : RefreshTokenPayload) (hf : CleanRead f t s)
    (hok : (verifyRefreshToken f t s).1 = .ok t) :
    ∀ r ∈ s.refreshTokens, r.jti = t.jti → r.revokedAt = none := by
  have h : Remembers s := Machine.run_invariant
    (fun s₁ c s₂ h hc h₂ => by
      obtain rfl := Option.some.inj h₂
      exact h.runCall cfg hc)
    cs (remembers_fresh users now) hcs hrun
  intro r hr hj
  by_contra hrev
  exact h.not_rowRevoked (verifyRefreshToken_ok_iff.1 hok).1 hf ⟨r, hr, hj, hrev⟩

/-- The refresh of the demo session with the outcomes of its two last Redis
commands: the denylist write and the deletion of the marker. -/
def demoRefresh (denylist marker : Reply) : Store :=
  (refresh .default ⟨.healthy, .ok, ⟨denylist, marker⟩⟩ demoToken demoLogin).2

/-- The marker's deletion is lost and the denylist entry holds. -/
theorem verifyRefreshToken_not_rowRevoked_demo :
    (verifyRefreshToken .healthy demoToken (demoRefresh .ok .failed)).1 ≠ .ok demoToken := by
  intro hok
  have hclean : (calls .default).Meets Clean (.fresh [demoAgent] 0)
      [.issueTokens .ok (toSubject demoAgent), .refresh ⟨.healthy, .ok, ⟨.ok, .failed⟩⟩ demoToken] := by
    refine ⟨trivial, fun s hs => ?_⟩
    obtain rfl := Option.some.inj hs
    exact ⟨⟨fun _ _ => Or.inl rfl, fun hre => absurd hre.denied (by decide)⟩, fun _ _ => trivial⟩
  have := verifyRefreshToken_not_rowRevoked .default [demoAgent] 0 _ hclean (demoRefresh .ok .failed)
    rfl .healthy demoToken (fun h => by cases h.1) hok
    ⟨"user:agent", 1, 30 * 24 * 3600 * 1000, some 0, some 3⟩ (by decide) (by decide)
  exact absurd this (by decide)

/-- **The defect.**  The denylist write and the deletion of the marker are both
lost, the row is revoked, and with Redis back the consumed token verifies. -/
theorem consumed_token_readmitted :
    (verifyRefreshToken .healthy demoToken (demoRefresh .failed .failed)).1 = .ok demoToken ∧
      ∃ r ∈ (demoRefresh .failed .failed).refreshTokens,
        r.jti = demoToken.jti ∧ r.revokedAt = some 0 := by
  decide

end Auth
end TopChoice
