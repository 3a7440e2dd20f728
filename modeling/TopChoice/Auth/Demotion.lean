/-
# When a demotion takes effect

`users.service.ts`: `adminUpdate` revokes the sessions of an account whose role
it changes or which it deactivates, so that the new role "takes effect before
the current access token expires".  An access token carries the role and is
checked against the denylist under its own `jti`; `revokeAllSessions` denies the
`jti`s it finds in `refresh_tokens`, and those are the refresh tokens' own
(`WellFormed.jti_ne`).  No run without a logout denies an access token
(`AccessClear.runCall`), so the demotion takes effect exactly when every access
token that carries the old role has expired by then.
-/

import TopChoice.Auth.WellFormed

namespace TopChoice
namespace Auth

/-- The call is a logout, the only one that denies an access token. -/
def Call.isLogout : Call → Bool
  | .logout .. => true
  | _ => false

/-- No access token is denied. -/
structure AccessClear (s : Store) : Prop where
  wf : WellFormed s
  denylist : ∀ a ∈ s.signedAccess, s.denylist a.jti = none

theorem accessClear_fresh (users : List User) (now : Millis) :
    AccessClear (Store.fresh users now) :=
  ⟨wellFormed_fresh users now, fun _ ha => absurd ha List.not_mem_nil⟩

namespace AccessClear

variable {s : Store}

theorem issueTokens (h : AccessClear s) (cfg : JwtConfig) (r : Reply) (user : TokenSubject) :
    AccessClear (issueTokens cfg r user s).2 := by
  refine ⟨h.wf.issueTokens cfg r user, fun a ha => ?_⟩
  rw [denylist_issueTokens]
  rcases List.mem_cons.1 ha with rfl | ha
  · by_contra hd
    exact absurd (h.wf.denylist_lt _ hd) (Nat.lt_irrefl _)
  · exact h.denylist a ha

theorem revokeRefreshJti (h : AccessClear s) {t : RefreshTokenPayload} (ht : t ∈ s.signedRefresh)
    (f : RevokeReplies) (by' : Option Jti) :
    AccessClear (revokeRefreshJti f t.sub t.jti t.exp by' s) := by
  refine ⟨h.wf.revokeRefreshJti ht f by', ?_⟩
  rw [(sessionsOnly_revokeRefreshJti ..).signedAccess]
  intro a ha
  rw [denylist_revokeRefreshJti_of_ne (h.wf.jti_ne t ht a ha).symm]
  exact h.denylist a ha

/-- **The nuclear option denies no access token**: the `jti`s it enumerates are
those of the rows, and a row is a refresh token's. -/
theorem revokeAllSessions (h : AccessClear s) (f : RevokeAllReplies) (u : UserId) :
    AccessClear (revokeAllSessions f u s) := by
  refine ⟨h.wf.revokeAllSessions f u, ?_⟩
  rw [(sessionsOnly_revokeAllSessions ..).signedAccess]
  intro a ha
  rw [denylist_revokeAllSessions_of_ne]
  · exact h.denylist a ha
  · intro r hr _ hj
    obtain ⟨t, ht, hj', -⟩ := h.wf.row_token r hr
    exact h.wf.jti_ne t ht a ha (hj'.trans hj)

theorem refresh (h : AccessClear s) (cfg : JwtConfig) (f : RefreshReplies)
    (t : RefreshTokenPayload) : AccessClear (refresh cfg f t s).2 := by
  rcases refresh_cases cfg f t s with ⟨user, a, ha, -, -, hr⟩ | ⟨-, hr⟩ | ⟨e, -, hr⟩ <;> rw [hr]
  · exact (h.issueTokens cfg f.issue _).revokeRefreshJti (List.mem_cons_of_mem _ ha.signed) _ _
  · exact h.revokeAllSessions _ _
  · exact h

theorem adminUpdate (h : AccessClear s) (f : RevokeAllReplies) (id : UserId)
    (dto : AdminUpdateUserDto) (actorId : UserId) (actorRole : UserRole) :
    AccessClear (adminUpdate f id dto actorId actorRole s).2 := by
  have hu : AccessClear (updateUser id dto s) := ⟨h.wf.setUsers _, h.denylist⟩
  rcases adminUpdate_cases f id dto actorId actorRole s with ⟨target, -, ha⟩ | ⟨e, ha⟩ <;> rw [ha]
  · split_ifs
    · exact hu.revokeAllSessions _ _
    · exact hu
  · exact h

/-- **No call but a logout denies an access token.** -/
theorem runCall (h : AccessClear s) (cfg : JwtConfig) {c : Call} (hc : c.isLogout = false) :
    AccessClear (runCall cfg s c) := by
  cases c with
  | tick d => exact ⟨h.wf.tick d, h.denylist⟩
  | issueTokens r user => exact h.issueTokens cfg r user
  | refresh f t => exact h.refresh cfg f t
  | logout f access token => cases hc
  | revokeAllSessions f u => exact h.revokeAllSessions f u
  | purgeExpiredRefreshTokens => exact ⟨h.wf.purgeExpiredRefreshTokens, h.denylist⟩
  | adminUpdate f id dto actorId actorRole => exact h.adminUpdate f id dto actorId actorRole

end AccessClear

/-! ### Time only passes -/

theorem now_le_runCall (cfg : JwtConfig) (s : Store) (c : Call) : s.now ≤ (runCall cfg s c).now := by
  cases c with
  | tick d => exact Nat.le_add_right ..
  | issueTokens r user => exact le_rfl
  | refresh f t =>
      rcases refresh_cases cfg f t s with ⟨user, a, -, -, -, hr⟩ | ⟨-, hr⟩ | ⟨e, -, hr⟩ <;>
        simp only [runCall, hr]
      · exact (sessionsOnly_revokeRefreshJti f.revoke t.sub t.jti t.exp (some (s.uuids + 1))
          (issueTokens cfg f.issue (toSubject user) s).2).now.ge
      · exact (sessionsOnly_revokeAllSessions ..).now.ge
      · exact le_rfl
  | logout f access token =>
      rcases logoutRequest_cases cfg f access token s with ⟨-, hl⟩ | ⟨-, p, -, hl⟩ <;>
        simp only [runCall, hl]
      · exact le_rfl
      · exact (sessionsOnly_logout ..).now.ge
  | revokeAllSessions f u => exact (sessionsOnly_revokeAllSessions ..).now.ge
  | purgeExpiredRefreshTokens => exact le_rfl
  | adminUpdate f id dto actorId actorRole =>
      rcases adminUpdate_cases f id dto actorId actorRole s with ⟨target, -, ha⟩ | ⟨e, ha⟩ <;>
        simp only [runCall, ha]
      · split_ifs
        · exact (sessionsOnly_revokeAllSessions f id (updateUser id dto s)).now.ge
        · exact le_rfl
      · exact le_rfl

theorem now_le_run {cfg : JwtConfig} {s s' : Store} {cs : List Call}
    (hr : (calls cfg).run s cs = some s') : s.now ≤ s'.now :=
  Machine.run_invariant_of_forall_mem (I := fun s' => s.now ≤ s'.now) (L := fun _ => True)
    (fun s₁ c s₂ h _ h₂ => by
      obtain rfl := Option.some.inj h₂
      exact le_trans h (now_le_runCall cfg s₁ c)) cs le_rfl (fun _ _ => trivial) hr

/-! ### The old role -/

/-- From `s'` on, no access token signed in `s` for the account gets past the
strategy with this role, in any run of healthy calls without a logout. -/
def NoLonger (cfg : JwtConfig) (id : UserId) (role : UserRole) (s s' : Store) : Prop :=
  ∀ cs, (∀ c ∈ cs, c.Healthy ∧ c.isLogout = false) → ∀ s'', (calls cfg).run s' cs = some s'' →
    ∀ a ∈ s.signedAccess, a.sub = id → ∀ p, jwtStrategy .ok a s'' = .ok p → p.role ≠ role

/-- **A demotion takes effect exactly when there is nothing left to revoke.**
After an `adminUpdate` that changes the role or deactivates the account has
returned, the old role is gone if and only if every access token that carries it
had expired when the call was made. -/
theorem adminUpdate_noLonger_iff (cfg : JwtConfig) (users : List User) (now : Millis)
    (cs : List Call) (hcs : ∀ c ∈ cs, c.Healthy ∧ c.isLogout = false) (s : Store)
    (hrun : (calls cfg).run (Store.fresh users now) cs = some s) (id : UserId) (hid : id ≠ "")
    (dto : AdminUpdateUserDto) (actorId : UserId) (actorRole : UserRole) (target : User)
    (hu : s.findUser id = some target) (hrev : dto.revokes target = true)
    (hok : (adminUpdate .healthy id dto actorId actorRole s).1 = .ok (dto.apply target)) :
    NoLonger cfg id target.role s (adminUpdate .healthy id dto actorId actorRole s).2 ↔
      ∀ a ∈ s.signedAccess, a.sub = id → a.role = target.role → a.exp ≤ unixSeconds s.now := by
  have hclear : AccessClear s :=
    Machine.run_invariant_of_forall_mem (L := fun c : Call => c.isLogout = false)
      (fun s₁ c s₂ h hc h₂ => by
        obtain rfl := Option.some.inj h₂
        exact h.runCall cfg hc)
      cs (accessClear_fresh users now) (fun c hc => (hcs c hc).2) hrun
  have hclear' := hclear.adminUpdate .healthy id dto actorId actorRole
  have hs := sessionsOnly_revokeAllSessions .healthy id (updateUser id dto s)
  have hs' : (adminUpdate .healthy id dto actorId actorRole s).2 =
      revokeAllSessions .healthy id (updateUser id dto s) := by
    rcases adminUpdate_cases .healthy id dto actorId actorRole s with ⟨t, ht, ha⟩ | ⟨e, ha⟩
    · obtain rfl := Option.some.inj (hu.symm.trans ht)
      rw [ha, if_pos hrev]
    · rw [ha] at hok
      cases hok
  rw [hs'] at hclear' ⊢
  constructor
  · intro hno a ha hsub hrole
    by_contra hexp
    have ha' := hs.signedAccess ▸ ha
    have hok : jwtStrategy .ok a (revokeAllSessions .healthy id (updateUser id dto s)) =
        .ok ⟨a.sub, a.email, a.name, a.role, a.jti⟩ :=
      jwtStrategy_eq_ok ha' (hs.now ▸ Nat.not_le.1 hexp) (hsub ▸ hid)
        (Expiring.has_of_get_eq_none (hclear'.denylist a ha') _)
    exact hno [] (fun _ h => absurd h List.not_mem_nil) _ rfl a ha hsub _ hok hrole
  · intro hexp cs' _ s'' hr a ha hsub p hp hrole
    obtain ⟨-, hlt, -, rfl⟩ := jwtStrategy_ok hp
    have hnow : s.now ≤ s''.now := hs.now ▸ now_le_run hr
    have hle : unixSeconds s.now ≤ unixSeconds s''.now := Nat.div_le_div_right hnow
    exact absurd (le_trans (hexp a ha hsub hrole) hle) (Nat.not_le.2 hlt)

/-- The demotion of an agent to a plain user. -/
def demote : AdminUpdateUserDto := ⟨none, none, none, none, some .user, none, none⟩

/-- A demoted agent whose access token is fifteen minutes from its expiry. -/
theorem adminUpdate_noLonger_iff_demote :
    ¬ NoLonger .default "user:agent" .agent demoLogin
      (adminUpdate .healthy "user:agent" demote "user:root" .superadmin demoLogin).2 := by
  intro h
  have := (adminUpdate_noLonger_iff .default [demoAgent] 0 [.issueTokens .ok (toSubject demoAgent)]
    (by simp [Call.Healthy, Call.isLogout]) demoLogin rfl "user:agent" (by decide) demote
    "user:root" .superadmin demoAgent (by decide) (by decide) (by decide)).1 h
    demoAccessToken (by decide) (by decide) (by decide)
  exact absurd this (by decide)

/-- **The defect.**  The demotion has returned, the stored role is `user`, and
the access token issued before is still let in as an agent. -/
theorem demoted_agent_let_in :
    (adminUpdate .healthy "user:agent" demote "user:root" .superadmin demoLogin).1 =
        .ok { demoAgent with role := .user } ∧
      jwtStrategy .ok demoAccessToken
          (adminUpdate .healthy "user:agent" demote "user:root" .superadmin demoLogin).2 =
        .ok ⟨"user:agent", "agent@topchoice.local", "Mona Farid", .agent, demoAccessToken.jti⟩ := by
  decide

end Auth
end TopChoice
