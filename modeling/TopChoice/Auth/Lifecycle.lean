/-
# The life of a refresh token, with every store healthy

Calls of `token.service.ts` and `auth.service.ts` run one after the other, the
clock advances between them, and no Redis command or Postgres statement fails.
A refresh token is then accepted until its JWT expires or its session is ended:
by a refresh or a logout with it, or by a revocation of all sessions of its
user.  Four clocks meet here: the JWT counts whole seconds, the marker and the
denylist entry live in Redis for whole seconds from a millisecond instant, and
the row has a millisecond `expiresAt`.  `Tracks E s` links them to the set `E`
of the ended sessions: a session not ended keeps its marker for as long as the
JWT lasts and is never denied, an ended one has neither a marker nor an
unrevoked row, so it does not matter when its denylist entry expires.
-/

import TopChoice.Auth.WellFormed

namespace TopChoice
namespace Auth

/-- The call ends the session of `t`: it consumes `t`, or it revokes all
sessions of the user of `t`.  A refresh that the account turns away (deleted or
disabled) consumes nothing. -/
def Ends (cfg : JwtConfig) (s : Store) (t : RefreshTokenPayload) : Call → Prop
  | .tick _ => False
  | .issueTokens .. => False
  | .refresh f token =>
      ((∃ a, (refresh cfg f token s).1 = .ok a) ∧ t = token) ∨
        ((refresh cfg f token s).1 = .error reusedError ∧ t.sub = token.sub)
  | .logout f access token =>
      PassesGuard f access s ∧ ∃ t', token = some t' ∧ (t = t' ∨
        ((verifyRefreshToken f.verify t' s).1 = .error reusedError ∧ t.sub = t'.sub))
  | .revokeAllSessions _ userId => t.sub = userId
  | .purgeExpiredRefreshTokens => False
  | .adminUpdate f id dto actorId actorRole =>
      t.sub = id ∧ ∃ target, s.findUser id = some target ∧ dto.revokes target = true ∧
        (adminUpdate f id dto actorId actorRole s).1 = .ok (dto.apply target)

/-- A call of the run ends the session of `t`, which is signed by then. -/
def Ended (cfg : JwtConfig) (t : RefreshTokenPayload) : Store → List Call → Prop
  | _, [] => False
  | s, c :: cs => (t ∈ s.signedRefresh ∧ Ends cfg s t c) ∨ Ended cfg t (runCall cfg s c) cs

/-- The stores when the sessions in `E`, and no others, have ended. -/
structure Tracks (E : RefreshTokenPayload → Prop) (s : Store) : Prop where
  wf : WellFormed s
  signed : ∀ t, E t → t ∈ s.signedRefresh
  live_marker : ∀ t ∈ s.signedRefresh, ¬ E t →
    s.redis.Lasts (.authRefresh t.sub t.jti) (t.exp * 1000)
  live_denylist : ∀ t ∈ s.signedRefresh, ¬ E t → s.denylist t.jti = none
  ended_marker : ∀ t, E t → unixSeconds s.now < t.exp → s.marker t.sub t.jti = none
  ended_rows : ∀ t, E t → unixSeconds s.now < t.exp →
    ∀ r ∈ s.refreshTokens, r.jti = t.jti → r.revokedAt ≠ none

/-- No session yet, none ended. -/
theorem tracks_fresh (users : List User) (now : Millis) :
    Tracks (fun _ => False) (Store.fresh users now) where
  wf := wellFormed_fresh users now
  signed _ h := h.elim
  live_marker _ ht := absurd ht List.not_mem_nil
  live_denylist _ ht := absurd ht List.not_mem_nil
  ended_marker _ h := h.elim
  ended_rows _ h := h.elim

namespace Tracks

variable {E : RefreshTokenPayload → Prop} {s : Store}

theorem congr {E' : RefreshTokenPayload → Prop} (h : Tracks E s) (he : ∀ t, E t ↔ E' t) :
    Tracks E' s := by
  obtain rfl : E = E' := funext fun t => propext (he t)
  exact h

/-- **Acceptance is liveness.**  A signed token is accepted exactly while its
JWT lasts and its session has not ended. -/
theorem accepts_iff (h : Tracks E s) {t : RefreshTokenPayload} (ht : t ∈ s.signedRefresh) :
    Accepts .healthy t s ↔ unixSeconds s.now < t.exp ∧ ¬ E t := by
  constructor
  · refine fun ha => ⟨ha.unexpired, fun he => ?_⟩
    rcases ha.known with hk | hk
    · exact Expiring.get_ne_none_of_has hk (h.ended_marker t he ha.unexpired)
    · rw [isKnownInDatabase_eq_false (h.ended_rows t he ha.unexpired)] at hk
      exact Bool.noConfusion hk
  · rintro ⟨hexp, he⟩
    exact ⟨ht, hexp, Expiring.has_of_get_eq_none (h.live_denylist t ht he) _,
      Or.inl (h.live_marker t ht he _ (lt_of_unixSeconds_lt hexp))⟩

theorem tick (h : Tracks E s) (d : Millis) : Tracks E (s.tick d) := by
  have hd : ∀ {exp}, unixSeconds (s.tick d).now < exp → unixSeconds s.now < exp :=
    Nat.lt_of_le_of_lt (Nat.div_le_div_right (Nat.le_add_right s.now d))
  exact ⟨h.wf.tick d, h.signed, h.live_marker, h.live_denylist,
    fun t he hx => h.ended_marker t he (hd hx), fun t he hx => h.ended_rows t he (hd hx)⟩

theorem setUsers (h : Tracks E s) (users : List User) : Tracks E { s with users := users } :=
  ⟨h.wf.setUsers users, h.signed, h.live_marker, h.live_denylist, h.ended_marker, h.ended_rows⟩

theorem purgeExpiredRefreshTokens (h : Tracks E s) : Tracks E (purgeExpiredRefreshTokens s) :=
  ⟨h.wf.purgeExpiredRefreshTokens, h.signed, h.live_marker, h.live_denylist, h.ended_marker,
    fun t he hx r hr => h.ended_rows t he hx r (Table.mem_deleteMany.1 hr).1⟩

/-- Denying an access token concerns no refresh token. -/
theorem denyAccess (h : Tracks E s) {a : AccessTokenPayload} (ha : a ∈ s.signedAccess) (r : Reply)
    (exp : ℕ) : Tracks E (denyJti r a.jti exp s) := by
  have hr := redisOnly_denyJti r a.jti exp s
  refine ⟨h.wf.denyJti (h.wf.access_lt a ha) r exp, ?_, ?_, ?_, ?_, ?_⟩
  · rw [hr.signedRefresh]; exact h.signed
  · rw [hr.signedRefresh]
    exact fun t ht he => (h.live_marker t ht he).congr (marker_denyJti ..)
  · rw [hr.signedRefresh]
    intro t ht he
    rw [denylist_denyJti_of_ne (h.wf.jti_ne t ht a ha)]
    exact h.live_denylist t ht he
  · rw [hr.now]
    intro t he hx
    rw [marker_denyJti]
    exact h.ended_marker t he hx
  · rw [hr.refreshTokens, hr.now]; exact h.ended_rows

/-- **A login opens a session** and concerns no other. -/
theorem issueTokens (h : Tracks E s) (cfg : JwtConfig) (user : TokenSubject) :
    Tracks E (issueTokens cfg .ok user s).2 := by
  have hnew : ∀ t ∈ s.signedRefresh, t.jti ≠ s.uuids + 1 := fun t ht =>
    Nat.ne_of_lt (Nat.lt_succ_of_lt (h.wf.refresh_lt t ht))
  refine ⟨h.wf.issueTokens cfg .ok user, fun t he => List.mem_cons_of_mem _ (h.signed t he),
    ?_, ?_, ?_, ?_⟩
  · intro t ht he
    rcases List.mem_cons.1 ht with rfl | ht
    · exact lasts_issueTokens cfg user s
    · exact (h.live_marker t ht he).congr (marker_issueTokens_of_ne (hnew t ht) ..)
  · intro t ht he
    rw [denylist_issueTokens]
    rcases List.mem_cons.1 ht with rfl | ht
    · by_contra hd
      exact absurd (h.wf.denylist_lt _ hd) (Nat.not_lt.2 (Nat.le_succ _))
    · exact h.live_denylist t ht he
  · intro t he hx
    rw [marker_issueTokens_of_ne (hnew t (h.signed t he))]
    exact h.ended_marker t he hx
  · intro t he hx r hr hj
    rcases Table.mem_create.1 hr with hr | rfl
    · exact h.ended_rows t he hx r hr hj
    · exact absurd hj.symm (hnew t (h.signed t he))

/-- **Consuming a token ends its session** and no other. -/
theorem revokeRefreshJti (h : Tracks E s) {t : RefreshTokenPayload} (ht : t ∈ s.signedRefresh)
    (by' : Option Jti) :
    Tracks (fun t' => E t' ∨ t' = t) (revokeRefreshJti .healthy t.sub t.jti t.exp by' s) := by
  have hs := sessionsOnly_revokeRefreshJti .healthy t.sub t.jti t.exp by' s
  have hne : ∀ t' ∈ s.signedRefresh, ¬ (E t' ∨ t' = t) → t'.jti ≠ t.jti := fun t' ht' he hj =>
    he (Or.inr (h.wf.jti_inj t' ht' t ht hj))
  refine ⟨h.wf.revokeRefreshJti ht _ _, ?_, ?_, ?_, ?_, ?_⟩
  · rw [hs.signedRefresh]
    rintro t' (he | rfl)
    · exact h.signed t' he
    · exact ht
  · rw [hs.signedRefresh]
    intro t' ht' he
    exact (h.live_marker t' ht' fun h' => he (Or.inl h')).congr
      (marker_revokeRefreshJti_of_ne (hne t' ht' he) ..)
  · rw [hs.signedRefresh]
    intro t' ht' he
    rw [denylist_revokeRefreshJti_of_ne (hne t' ht' he)]
    exact h.live_denylist t' ht' fun h' => he (Or.inl h')
  · rw [hs.now]
    rintro t' (he | rfl) hx
    · by_cases hj : t'.jti = t.jti
      · obtain rfl := h.wf.jti_inj t' (h.signed t' he) t ht hj
        exact marker_revokeRefreshJti rfl ..
      · rw [marker_revokeRefreshJti_of_ne hj]
        exact h.ended_marker t' he hx
    · exact marker_revokeRefreshJti rfl ..
  · rw [hs.now]
    intro t' he hx
    rw [refreshTokens_revokeRefreshJti]
    intro r hr hj
    rcases Table.mem_updateMany.1 hr with ⟨r₀, _, _, rfl⟩ | ⟨hr, hp⟩
    · exact Option.some_ne_none _
    · rcases he with he | rfl
      · exact h.ended_rows t' he hx r hr hj
      · simpa [hj] using hp

/-- **The nuclear option ends every session of the user** and no other. -/
theorem revokeAllSessions (h : Tracks E s) (u : UserId) :
    Tracks (fun t => E t ∨ t ∈ s.signedRefresh ∧ t.sub = u) (revokeAllSessions .healthy u s) := by
  have hs := sessionsOnly_revokeAllSessions .healthy u s
  refine ⟨h.wf.revokeAllSessions _ _, ?_, ?_, ?_, ?_, ?_⟩
  · rw [hs.signedRefresh]
    rintro t (he | ⟨ht, _⟩)
    · exact h.signed t he
    · exact ht
  · rw [hs.signedRefresh]
    intro t ht he
    rw [not_or, not_and] at he
    refine (h.live_marker t ht he.1).congr ?_
    exact (marker_revokeAllSessions ..).trans (marker_cacheDelByPattern_of_ne (he.2 ht) _ _)
  · rw [hs.signedRefresh]
    intro t ht he
    rw [not_or, not_and] at he
    rw [denylist_revokeAllSessions_of_ne]
    · exact h.live_denylist t ht he.1
    · intro r hr hl hj
      obtain ⟨t', ht', hj', hu', _⟩ := h.wf.row_token r hr
      obtain rfl := h.wf.jti_inj t' ht' t ht (hj'.trans hj)
      exact he.2 ht (hu'.trans (of_decide_eq_true hl).1)
  · rw [hs.now]
    intro t he hx
    rw [marker_revokeAllSessions]
    by_cases hu : t.sub = u
    · rw [hu]
      exact marker_cacheDelByPattern_complete ..
    · rw [marker_cacheDelByPattern_of_ne hu]
      exact h.ended_marker t (he.resolve_right fun h' => hu h'.2) hx
  · rw [hs.now]
    intro t he hx
    rw [refreshTokens_revokeAllSessions]
    intro r hr hj
    rcases Table.mem_updateMany.1 hr with ⟨r₀, _, _, rfl⟩ | ⟨hr, hp⟩
    · exact Option.some_ne_none _
    · rcases he with he | ⟨ht, hu⟩
      · exact h.ended_rows t he hx r hr hj
      · obtain ⟨t', ht', hj', hu', _⟩ := h.wf.row_token r hr
        obtain rfl := h.wf.jti_inj t' ht' t ht (hj'.trans hj)
        simpa [← hu', hu] using hp

/-- A token that is not accepted is expired, or its session has ended already. -/
theorem congr_of_not_accepts (h : Tracks E s) {t : RefreshTokenPayload}
    (ha : ¬ Accepts .healthy t s) :
    Tracks (fun t' => E t' ∨ (t' ∈ s.signedRefresh ∧ t' = t)) s := by
  have he : ∀ t', E t' ∨ (t' ∈ s.signedRefresh ∧ t' = t) → unixSeconds s.now < t'.exp → E t' := by
    rintro t' (he | ⟨ht, rfl⟩) hx
    · exact he
    · exact by_contra fun hn => ha ((h.accepts_iff ht).2 ⟨hx, hn⟩)
  refine ⟨h.wf, ?_, ?_, ?_, ?_, ?_⟩
  · rintro t' (he | ⟨ht, -⟩)
    · exact h.signed t' he
    · exact ht
  · exact fun t' ht hn => h.live_marker t' ht fun h' => hn (Or.inl h')
  · exact fun t' ht hn => h.live_denylist t' ht fun h' => hn (Or.inl h')
  · exact fun t' h' hx => h.ended_marker t' (he t' h' hx) hx
  · exact fun t' h' hx => h.ended_rows t' (he t' h' hx) hx

/-- The refresh-token half of a healthy logout ends the session it is given, or
detects reuse. -/
theorem logoutRefresh (h : Tracks E s) (t : RefreshTokenPayload) :
    Tracks (fun t' => E t' ∨ (t' ∈ s.signedRefresh ∧ (t' = t ∨
      ((verifyRefreshToken .healthy t s).1 = .error reusedError ∧ t'.sub = t.sub))))
      (logoutRefresh .healthy t s) := by
  rcases logoutRefresh_cases .healthy t s with ⟨ha, hv, hl⟩ | ⟨ht, hv, hl⟩ | ⟨ha, hv, hl⟩ <;>
    rw [hl]
  · refine (h.revokeRefreshJti ha.signed none).congr fun t' => or_congr_right ?_
    constructor
    · rintro rfl
      exact ⟨ha.signed, Or.inl rfl⟩
    · exact fun h' => h'.2.resolve_right fun h'' => hv h''.1
  · refine (h.revokeAllSessions t.sub).congr fun t' => or_congr_right (and_congr_right fun _ => ?_)
    constructor
    · exact fun hu => Or.inr ⟨hv, hu⟩
    · rintro (rfl | ⟨-, hu⟩)
      · rfl
      · exact hu
  · refine (h.congr_of_not_accepts ha).congr fun t' => or_congr_right (and_congr_right fun _ => ?_)
    exact ⟨Or.inl, fun h' => h'.resolve_right fun h'' => hv h''.1⟩

/-- The access-token half of a logout concerns no refresh token. -/
theorem logoutAccess (h : Tracks E s) (cfg : JwtConfig) (f : LogoutReplies)
    {principal : Option AuthenticatedUser}
    (hp : ∀ p, principal = some p → ∃ a ∈ s.signedAccess, p.jti = a.jti) :
    Tracks E (logoutAccess cfg f principal s) := by
  cases principal with
  | none => exact h
  | some p =>
      obtain ⟨a, ha, hj⟩ := hp p rfl
      simp only [Auth.logoutAccess, revokeAccessJti, hj]
      exact h.denyAccess ha _ _

/-- A healthy logout past its guard. -/
theorem logout (h : Tracks E s) (cfg : JwtConfig) {principal : Option AuthenticatedUser}
    (hp : ∀ p, principal = some p → ∃ a ∈ s.signedAccess, p.jti = a.jti)
    (token : Option RefreshTokenPayload) :
    Tracks (fun t => E t ∨ (t ∈ s.signedRefresh ∧ ∃ t', token = some t' ∧ (t = t' ∨
      ((verifyRefreshToken .healthy t' s).1 = .error reusedError ∧ t.sub = t'.sub))))
      (logout cfg .healthy principal token s) := by
  cases token with
  | none => exact (h.logoutAccess cfg .healthy hp).congr fun t => by simp
  | some t =>
      have hs := (sessionsOnly_logoutRefresh .healthy t s).signedAccess
      exact ((h.logoutRefresh t).logoutAccess cfg .healthy (hs ▸ hp)).congr fun t' => by simp

/-- A healthy refresh ends the session it consumes and opens its successor, or
detects reuse. -/
theorem refresh (h : Tracks E s) (cfg : JwtConfig) (token : RefreshTokenPayload) :
    Tracks (fun t => E t ∨ (t ∈ s.signedRefresh ∧ Ends cfg s t (.refresh .healthy token)))
      (refresh cfg .healthy token s).2 := by
  rcases refresh_cases cfg .healthy token s with ⟨user, a, ha, -, -, hr⟩ | ⟨-, hr⟩ | ⟨e, he, hr⟩
  · have hi := h.issueTokens cfg (toSubject user)
    have ht : token ∈ (Auth.issueTokens cfg .ok (toSubject user) s).2.signedRefresh :=
      List.mem_cons_of_mem _ ha.signed
    simp only [hr, Ends]
    refine (hi.revokeRefreshJti ht _).congr fun t => or_congr_right ?_
    constructor
    · rintro rfl
      exact ⟨ha.signed, Or.inl ⟨⟨a, rfl⟩, rfl⟩⟩
    · rintro ⟨-, ⟨-, ht⟩ | ⟨he, -⟩⟩
      · exact ht
      · cases he
  · simp only [hr, Ends]
    refine (h.revokeAllSessions token.sub).congr fun t => or_congr_right (and_congr_right fun _ => ?_)
    simp
  · simp only [hr, Ends]
    exact h.congr fun t => by simp [he]

/-- A healthy `adminUpdate` ends every session of the account when it revokes. -/
theorem adminUpdate (h : Tracks E s) (cfg : JwtConfig) (id : UserId) (dto : AdminUpdateUserDto)
    (actorId : UserId) (actorRole : UserRole) :
    Tracks (fun t => E t ∨ (t ∈ s.signedRefresh ∧
      Ends cfg s t (.adminUpdate .healthy id dto actorId actorRole)))
      (adminUpdate .healthy id dto actorId actorRole s).2 := by
  rcases adminUpdate_cases .healthy id dto actorId actorRole s with ⟨target, hu, ha⟩ | ⟨e, ha⟩
  · simp only [ha, Ends]
    split_ifs with hrev
    · refine ((h.setUsers _).revokeAllSessions id).congr fun t =>
        or_congr_right (and_congr_right fun _ => ?_)
      exact ⟨fun hs => ⟨hs, target, hu, hrev, rfl⟩, fun h' => h'.1⟩
    · refine (h.setUsers _).congr fun t => ⟨Or.inl, fun h' => h'.resolve_right ?_⟩
      rintro ⟨-, -, target', hu', hrev', -⟩
      obtain rfl := Option.some.inj (hu.symm.trans hu')
      exact hrev hrev'
  · simp only [ha, Ends]
    exact h.congr fun t => by simp

/-- **One healthy call ends the sessions it should, and no others.** -/
theorem runCall (h : Tracks E s) (cfg : JwtConfig) {c : Call} (hc : c.Healthy) :
    Tracks (fun t => E t ∨ (t ∈ s.signedRefresh ∧ Ends cfg s t c)) (runCall cfg s c) := by
  cases c with
  | tick d => exact (h.tick d).congr fun t => by simp [Ends]
  | issueTokens r user =>
      obtain rfl := hc
      exact (h.issueTokens cfg user).congr fun t => by simp [Ends]
  | refresh f token =>
      obtain rfl := hc
      exact h.refresh cfg token
  | logout f access token =>
      obtain rfl := hc
      rcases logoutRequest_cases cfg .healthy access token s with ⟨hg, hl⟩ | ⟨hg, p, hp, hl⟩
      · simp only [Auth.runCall, hl, Ends]
        exact h.congr fun t => by simp [hg]
      · simp only [Auth.runCall, hl, Ends]
        exact (h.logout cfg hp token).congr fun t => or_congr_right (and_congr_right fun _ =>
          ⟨fun h' => ⟨hg, h'⟩, fun h' => h'.2⟩)
  | revokeAllSessions f u =>
      obtain rfl := hc
      exact h.revokeAllSessions u
  | purgeExpiredRefreshTokens =>
      exact h.purgeExpiredRefreshTokens.congr fun t => by simp [Ends]
  | adminUpdate f id dto actorId actorRole =>
      obtain rfl := hc
      exact h.adminUpdate cfg id dto actorId actorRole

/-- **A healthy run ends the sessions its calls end.** -/
theorem run (cfg : JwtConfig) :
    ∀ (cs : List Call) {E : RefreshTokenPayload → Prop} {s s' : Store}, Tracks E s →
      (∀ c ∈ cs, c.Healthy) → (calls cfg).run s cs = some s' →
      Tracks (fun t => E t ∨ Ended cfg t s cs) s'
  | [], _, _, _, h, _, hr => by
      obtain rfl := Option.some.inj hr
      exact h.congr fun t => by simp [Ended]
  | c :: cs, E, s, s', h, hc, hr => by
      obtain ⟨s₁, h₁, hr⟩ := (calls cfg).run_cons_eq_some.1 hr
      obtain rfl := Option.some.inj h₁
      have h' := h.runCall cfg (hc c (List.mem_cons_self ..))
      refine (run cfg cs h' (fun c' hc' => hc c' (List.mem_cons_of_mem _ hc')) hr).congr fun t => ?_
      simp only [Ended, or_assoc]

end Tracks

/-- **Token lifecycle.**  After any run of calls that do not overlap, with every
Redis command succeeding and the clock advancing by any amounts in between, a
signed refresh token verifies exactly when its JWT has not expired and no call
of the run ended its session. -/
theorem verifyRefreshToken_ok_iff_not_ended (cfg : JwtConfig) (users : List User) (now : Millis)
    (cs : List Call) (hcs : ∀ c ∈ cs, c.Healthy) (s : Store)
    (hrun : (calls cfg).run (Store.fresh users now) cs = some s) (t : RefreshTokenPayload)
    (ht : t ∈ s.signedRefresh) :
    (verifyRefreshToken .healthy t s).1 = .ok t ↔
      unixSeconds s.now < t.exp ∧ ¬ Ended cfg t (Store.fresh users now) cs := by
  have h := (tracks_fresh users now).run cfg cs hcs hrun
  rw [verifyRefreshToken_ok_iff, and_iff_left rfl, h.accepts_iff ht, false_or]

/-- A login and a refresh with its token: the token no longer verifies. -/
theorem verifyRefreshToken_consumed :
    (verifyRefreshToken .healthy demoToken (refresh .default .healthy demoToken demoLogin).2).1 ≠
      .ok demoToken := by
  have hok : (refresh .default .healthy demoToken demoLogin).1.isOk = true := by decide
  obtain ⟨a, ha⟩ : ∃ a, (refresh .default .healthy demoToken demoLogin).1 = .ok a := by
    cases h : (refresh .default .healthy demoToken demoLogin).1 with
    | error e => rw [h] at hok; cases hok
    | ok a => exact ⟨a, rfl⟩
  refine fun h => ((verifyRefreshToken_ok_iff_not_ended .default [demoAgent] 0
    [.issueTokens .ok (toSubject demoAgent), .refresh .healthy demoToken] ?_
    (refresh .default .healthy demoToken demoLogin).2 rfl demoToken (by decide)).1 h).2 ?_
  · simp [Call.Healthy]
  · exact Or.inr (Or.inl ⟨List.mem_cons_self .., Or.inl ⟨⟨a, ha⟩, rfl⟩⟩)

end Auth
end TopChoice
