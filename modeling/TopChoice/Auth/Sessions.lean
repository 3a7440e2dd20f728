/-
# What each operation does to a session

A session is seen through three things: its marker, its denylist entry and its
row.  For every operation this file says which of them it touches.  The
inversion lemmas (`verifyRefreshToken_cases`, `refresh_cases`,
`logoutRefresh_cases`, `logoutRequest_cases`, `adminUpdate_cases`) say once what
a call can do, for every outcome of its Redis commands.
-/

import TopChoice.Auth.AuthService

namespace TopChoice
namespace Auth

/-- What `verifyRefreshToken` asks of a token it accepts. -/
structure Accepts (f : VerifyReplies) (t : RefreshTokenPayload) (s : Store) : Prop where
  signed : t ∈ s.signedRefresh
  unexpired : unixSeconds s.now < t.exp
  notDenied : s.cacheExists f.denied (.authDenylist t.jti) = false
  known : s.cacheExists f.active (.authRefresh t.sub t.jti) = true ∨
    isKnownInDatabase t.sub t.jti s = true

/-- What makes `verifyRefreshToken` detect reuse. -/
structure Reused (f : VerifyReplies) (t : RefreshTokenPayload) (s : Store) : Prop where
  signed : t ∈ s.signedRefresh
  unexpired : unixSeconds s.now < t.exp
  denied : s.cacheExists f.denied (.authDenylist t.jti) = true

/-- **What `verifyRefreshToken` can do.**  It accepts and changes nothing, it
detects reuse and revokes every session of the user, or it rejects and changes
nothing. -/
theorem verifyRefreshToken_cases (f : VerifyReplies) (t : RefreshTokenPayload) (s : Store) :
    (Accepts f t s ∧ verifyRefreshToken f t s = (.ok t, s)) ∨
      (Reused f t s ∧ ¬ Accepts f t s ∧ verifyRefreshToken f t s =
        (.error reusedError, revokeAllSessions f.revokeAll t.sub s)) ∨
      (¬ Accepts f t s ∧ ∃ e, e ≠ reusedError ∧ verifyRefreshToken f t s = (.error e, s)) := by
  unfold verifyRefreshToken decode
  by_cases hs : t ∈ s.signedRefresh
  · by_cases he : t.exp ≤ unixSeconds s.now
    · refine Or.inr (Or.inr ⟨fun h => absurd h.unexpired (by omega), ?_⟩)
      exact ⟨.unauthorized "Token has expired" .tokenExpired, by decide, by simp [hs, he]⟩
    · cases hd : s.cacheExists f.denied (.authDenylist t.jti) with
      | true =>
          refine Or.inr (Or.inl ⟨⟨hs, by omega, hd⟩, fun h => ?_, by simp [hs, he, hd]⟩)
          exact Bool.noConfusion (hd.symm.trans h.notDenied)
      | false =>
          by_cases hk : s.cacheExists f.active (.authRefresh t.sub t.jti) = true ∨
              isKnownInDatabase t.sub t.jti s = true
          · refine Or.inl ⟨⟨hs, by omega, hd, hk⟩, ?_⟩
            rcases hk with hk | hk <;> simp [hs, he, hd, hk]
          · refine Or.inr (Or.inr ⟨fun h => hk h.known, noLongerValidError, by decide, ?_⟩)
            rw [not_or, Bool.not_eq_true, Bool.not_eq_true] at hk
            simp [hs, he, hd, hk.1, hk.2]
  · exact Or.inr (Or.inr ⟨fun h => hs h.signed,
      .unauthorized "Token is invalid" .invalidToken, by decide, by simp [hs]⟩)

/-- `verifyRefreshToken` answers the token exactly when it accepts it. -/
theorem verifyRefreshToken_ok_iff {f : VerifyReplies} {t p : RefreshTokenPayload} {s : Store} :
    (verifyRefreshToken f t s).1 = .ok p ↔ Accepts f t s ∧ p = t := by
  rcases verifyRefreshToken_cases f t s with ⟨ha, hv⟩ | ⟨-, ha, hv⟩ | ⟨ha, e, -, hv⟩ <;>
    simp [hv, ha, eq_comm]

/-- The account of the token may rotate it. -/
def ActiveAccount (t : RefreshTokenPayload) (s : Store) : Prop :=
  ∃ user, s.findUser t.sub = some user ∧ user.isActive = true

/-- The store a rotation leaves behind. -/
def rotated (cfg : JwtConfig) (f : RefreshReplies) (user : User) (t : RefreshTokenPayload)
    (s : Store) : Store :=
  revokeRefreshJti f.revoke t.sub t.jti t.exp (some (s.uuids + 1))
    (issueTokens cfg f.issue (toSubject user) s).2

/-- **What `refresh` can do.**  It rotates an accepted token of an active
account, it detects reuse, or it leaves the store alone. -/
theorem refresh_cases (cfg : JwtConfig) (f : RefreshReplies) (t : RefreshTokenPayload)
    (s : Store) :
    (∃ user a, Accepts f.verify t s ∧ s.findUser t.sub = some user ∧ user.isActive = true ∧
        refresh cfg f t s = (.ok a, rotated cfg f user t s)) ∨
      (Reused f.verify t s ∧ refresh cfg f t s =
        (.error reusedError, revokeAllSessions f.verify.revokeAll t.sub s)) ∨
      ∃ e, e ≠ reusedError ∧ refresh cfg f t s = (.error e, s) := by
  unfold refresh
  rcases verifyRefreshToken_cases f.verify t s with ⟨ha, hv⟩ | ⟨hs, -, hv⟩ | ⟨-, e, he, hv⟩
  · rw [hv]
    cases hu : s.findUser t.sub with
    | none =>
        exact Or.inr (Or.inr ⟨.unauthorized "Session no longer exists" .invalidToken, by decide,
          by simp only [refreshVerified, hu]⟩)
    | some user =>
        cases hact : user.isActive with
        | false =>
            exact Or.inr (Or.inr ⟨.forbidden "This account has been disabled" .accountDisabled,
              by decide, by simp [refreshVerified, hu, hact]⟩)
        | true =>
            refine Or.inl ⟨user, ⟨toPublicUser user, (issueTokens cfg f.issue (toSubject user) s).1⟩,
              ha, rfl, hact, ?_⟩
            simp only [refreshVerified, hu, hact, Bool.not_true, Bool.false_eq_true, if_false]
            rfl
  · exact Or.inr (Or.inl ⟨hs, by rw [hv]⟩)
  · exact Or.inr (Or.inr ⟨e, he, by rw [hv]⟩)

/-- **What the refresh-token half of `logout` can do.** -/
theorem logoutRefresh_cases (f : LogoutReplies) (t : RefreshTokenPayload) (s : Store) :
    (Accepts f.verify t s ∧ (verifyRefreshToken f.verify t s).1 ≠ .error reusedError ∧
        logoutRefresh f t s = revokeRefreshJti f.revoke t.sub t.jti t.exp none s) ∨
      (Reused f.verify t s ∧ (verifyRefreshToken f.verify t s).1 = .error reusedError ∧
        logoutRefresh f t s = revokeAllSessions f.verify.revokeAll t.sub s) ∨
      (¬ Accepts f.verify t s ∧ (verifyRefreshToken f.verify t s).1 ≠ .error reusedError ∧
        logoutRefresh f t s = s) := by
  unfold logoutRefresh
  rcases verifyRefreshToken_cases f.verify t s with ⟨ha, hv⟩ | ⟨hs, -, hv⟩ | ⟨ha, e, he, hv⟩
  · exact Or.inl ⟨ha, by rw [hv]; simp, by rw [hv]⟩
  · exact Or.inr (Or.inl ⟨hs, by rw [hv], by rw [hv]⟩)
  · exact Or.inr (Or.inr ⟨ha, by rw [hv]; simpa using he, by rw [hv]⟩)

/-- Whom the access strategy lets in: a signed token of that identifier. -/
theorem jwtStrategy_ok {r : Reply} {a : AccessTokenPayload} {s : Store} {p : AuthenticatedUser}
    (h : jwtStrategy r a s = .ok p) :
    a ∈ s.signedAccess ∧ unixSeconds s.now < a.exp ∧
      s.cacheExists r (.authDenylist a.jti) = false ∧
      p = ⟨a.sub, a.email, a.name, a.role, a.jti⟩ := by
  unfold jwtStrategy decode at h
  by_cases hs : a ∈ s.signedAccess
  · by_cases he : a.exp ≤ unixSeconds s.now
    · simp [hs, he] at h
    · by_cases hsub : a.sub = ""
      · simp [hs, he, hsub] at h
      · cases hd : s.cacheExists r (.authDenylist a.jti) with
        | true => simp [hs, he, hsub, hd] at h
        | false => exact ⟨hs, by omega, rfl, by simpa [hs, he, hsub, hd, eq_comm] using h⟩
  · simp [hs] at h

/-- The access strategy lets a signed, unexpired token in that is not denied. -/
theorem jwtStrategy_eq_ok {r : Reply} {a : AccessTokenPayload} {s : Store}
    (hs : a ∈ s.signedAccess) (hexp : unixSeconds s.now < a.exp) (hsub : a.sub ≠ "")
    (hd : s.cacheExists r (.authDenylist a.jti) = false) :
    jwtStrategy r a s = .ok ⟨a.sub, a.email, a.name, a.role, a.jti⟩ := by
  simp [jwtStrategy, decode, hs, Nat.not_le.2 hexp, hsub, hd]

/-- The bearer token of a logout, when there is one, gets past the guard. -/
def PassesGuard (f : LogoutReplies) (access : Option AccessTokenPayload) (s : Store) : Prop :=
  ∀ a, access = some a → ∃ p, jwtStrategy f.guard a s = .ok p

/-- **What a logout request can do.**  Its guard turns it away, or it logs out,
for a signed access token if it carries one. -/
theorem logoutRequest_cases (cfg : JwtConfig) (f : LogoutReplies)
    (access : Option AccessTokenPayload) (token : Option RefreshTokenPayload) (s : Store) :
    (¬ PassesGuard f access s ∧ logoutRequest cfg f access token s = s) ∨
      (PassesGuard f access s ∧ ∃ principal : Option AuthenticatedUser,
        (∀ p, principal = some p → ∃ a ∈ s.signedAccess, p.jti = a.jti) ∧
        logoutRequest cfg f access token s = logout cfg f principal token s) := by
  cases access with
  | none => exact Or.inr ⟨fun a h => by simp at h, none, fun p h => by simp at h, rfl⟩
  | some a =>
      cases hg : jwtStrategy f.guard a s with
      | error e =>
          refine Or.inl ⟨fun h => ?_, by simp only [logoutRequest, hg]⟩
          obtain ⟨p, hp⟩ := h a rfl
          rw [hg] at hp
          cases hp
      | ok p =>
          refine Or.inr ⟨fun a' h => ?_, some p, fun p' h => ?_, by simp only [logoutRequest, hg]⟩
          · obtain rfl := Option.some.inj h
            exact ⟨p, hg⟩
          · obtain rfl := Option.some.inj h
            obtain ⟨hs, -, -, rfl⟩ := jwtStrategy_ok hg
            exact ⟨a, hs, rfl⟩

/-- **What `adminUpdate` can do.**  It updates the account, and revokes its
sessions when it has to, or it refuses and changes nothing. -/
theorem adminUpdate_cases (f : RevokeAllReplies) (id : UserId) (dto : AdminUpdateUserDto)
    (actorId : UserId) (actorRole : UserRole) (s : Store) :
    (∃ target, s.findUser id = some target ∧ adminUpdate f id dto actorId actorRole s =
        (.ok (dto.apply target),
          if dto.revokes target then revokeAllSessions f id (updateUser id dto s)
          else updateUser id dto s)) ∨
      ∃ e, adminUpdate f id dto actorId actorRole s = (.error e, s) := by
  unfold adminUpdate
  cases hu : s.findUser id with
  | none => exact Or.inr ⟨_, rfl⟩
  | some target =>
      simp only
      split
      · exact Or.inr ⟨_, rfl⟩
      · split
        · exact Or.inr ⟨_, rfl⟩
        · split
          · exact Or.inr ⟨_, rfl⟩
          · exact Or.inl ⟨target, rfl, rfl⟩

/-! ### The operations, field by field -/

/-- Only Redis and the rows of `refresh_tokens` differ. -/
structure SessionsOnly (s s' : Store) : Prop where
  users : s'.users = s.users
  uuids : s'.uuids = s.uuids
  signedAccess : s'.signedAccess = s.signedAccess
  signedRefresh : s'.signedRefresh = s.signedRefresh
  now : s'.now = s.now

/-- Only Redis differs. -/
structure RedisOnly (s s' : Store) : Prop extends SessionsOnly s s' where
  refreshTokens : s'.refreshTokens = s.refreshTokens

theorem SessionsOnly.trans {s s' s'' : Store} (h : SessionsOnly s s') (h' : SessionsOnly s' s'') :
    SessionsOnly s s'' :=
  ⟨h'.users.trans h.users, h'.uuids.trans h.uuids, h'.signedAccess.trans h.signedAccess,
    h'.signedRefresh.trans h.signedRefresh, h'.now.trans h.now⟩

theorem RedisOnly.trans {s s' s'' : Store} (h : RedisOnly s s') (h' : RedisOnly s' s'') :
    RedisOnly s s'' :=
  ⟨h.toSessionsOnly.trans h'.toSessionsOnly, h'.refreshTokens.trans h.refreshTokens⟩

/-- A command that only replaces Redis. -/
theorem redisOnly_mk (s : Store) (redis : Expiring Key) : RedisOnly s { s with redis := redis } :=
  ⟨⟨rfl, rfl, rfl, rfl, rfl⟩, rfl⟩

theorem redisOnly_denyJti (r : Reply) (jti : Jti) (exp : ℕ) (s : Store) :
    RedisOnly s (denyJti r jti exp s) := by
  simp only [denyJti]
  split_ifs <;> exact redisOnly_mk _ _

theorem redisOnly_denyRows (d : Jti → Reply) :
    ∀ (rows : List RefreshTokenRow) (s : Store), RedisOnly s (denyRows d rows s)
  | [], s => redisOnly_mk s s.redis
  | row :: rows, s =>
      have h : RedisOnly s (denyRow (d row.jti) row s) := redisOnly_mk _ _
      h.trans (redisOnly_denyRows d rows _)

/-- A denylist write leaves every marker alone. -/
theorem marker_denyJti (r : Reply) (jti : Jti) (exp : ℕ) (s : Store) (u : UserId) (j : Jti) :
    (denyJti r jti exp s).marker u j = s.marker u j := by
  simp only [denyJti]
  split_ifs
  · exact get_cacheSet_of_ne (by simp) _ _
  · rfl

/-- A denylist write leaves the other denylist entries alone. -/
theorem denylist_denyJti_of_ne {jti j : Jti} (h : j ≠ jti) (r : Reply) (exp : ℕ) (s : Store) :
    (denyJti r jti exp s).denylist j = s.denylist j := by
  simp only [denyJti]
  split_ifs
  · exact get_cacheSet_of_ne (by simpa using h) _ _
  · rfl

/-- A token whose JWT lasts is used before the millisecond its `exp` stands for. -/
theorem lt_of_unixSeconds_lt {now exp : ℕ} (h : unixSeconds now < exp) :
    now < exp * 1000 := by
  unfold unixSeconds at h
  omega

/-- **A denylist entry written from the JWT outlives the JWT**: `remaining` is
counted in whole seconds from the second the clock is in. -/
theorem lasts_denyJti {jti : Jti} {exp : ℕ} {s : Store} (h : unixSeconds s.now < exp) :
    (denyJti .ok jti exp s).redis.Lasts (.authDenylist jti) (exp * 1000) := by
  have hr : 0 < secondsUntilExpiry exp s.now := by unfold secondsUntilExpiry; omega
  have hT : exp * 1000 ≤ s.now + secondsUntilExpiry exp s.now * 1000 + 1 := by
    unfold secondsUntilExpiry unixSeconds at *
    omega
  simp only [denyJti, hr, if_true]
  exact lasts_cacheSet hT

theorem marker_denyRows (d : Jti → Reply) (u : UserId) (j : Jti) :
    ∀ (rows : List RefreshTokenRow) (s : Store), (denyRows d rows s).marker u j = s.marker u j
  | [], _ => rfl
  | row :: rows, s => by
      rw [denyRows, marker_denyRows d u j rows]
      exact get_cacheSet_of_ne (by simp) _ _

theorem denylist_denyRows_of_ne (d : Jti → Reply) {j : Jti} :
    ∀ (rows : List RefreshTokenRow) (s : Store), (∀ r ∈ rows, r.jti ≠ j) →
      (denyRows d rows s).denylist j = s.denylist j
  | [], _, _ => rfl
  | row :: rows, s, h => by
      rw [denyRows, denylist_denyRows_of_ne d rows _ fun r hr => h r (List.mem_cons_of_mem _ hr)]
      refine get_cacheSet_of_ne ?_ _ _
      have := h row (List.mem_cons_self ..)
      simpa [eq_comm] using this

/-- Among the denylist writes of `revokeAllSessions` the one for `j` is there to
stay: all of them for `j` succeed and last until `T`. -/
theorem lasts_denyRows (d : Jti → Reply) {j : Jti} {T : ℕ} (hd : d j = .ok) :
    ∀ (rows : List RefreshTokenRow) (s : Store),
      (∀ r ∈ rows, r.jti = j → T ≤ s.now + denySeconds r s.now * 1000 + 1) →
      (∃ r ∈ rows, r.jti = j) ∨ s.redis.Lasts (.authDenylist j) T →
      (denyRows d rows s).redis.Lasts (.authDenylist j) T
  | [], _, _, h => by
      rcases h with ⟨r, hr, _⟩ | h
      · exact absurd hr List.not_mem_nil
      · exact h
  | row :: rows, s, hT, h => by
      refine lasts_denyRows d hd rows (denyRow (d row.jti) row s)
        (fun r hr => hT r (List.mem_cons_of_mem _ hr)) ?_
      by_cases hj : row.jti = j
      · right
        rw [denyRow, hj, hd]
        exact lasts_cacheSet (hT row (List.mem_cons_self ..) hj)
      · rcases h with ⟨r, hr, hrj⟩ | h
        · rcases List.mem_cons.1 hr with rfl | hr
          · exact absurd hrj hj
          · exact Or.inl ⟨r, hr, hrj⟩
        · refine Or.inr (h.congr (get_cacheSet_of_ne ?_ _ _))
          simpa [eq_comm] using hj

/-! ### `issueTokens`, `revokeRefreshJti` and `revokeAllSessions` as a whole -/

/-- Only the marker of the new session is written. -/
theorem marker_issueTokens_of_ne {s : Store} {j : Jti} (h : j ≠ s.uuids + 1) (cfg : JwtConfig)
    (r : Reply) (user : TokenSubject) (u : UserId) :
    (issueTokens cfg r user s).2.marker u j = s.marker u j :=
  get_cacheSet_of_ne (s := sign cfg user s) (k := .authRefresh user.id (s.uuids + 1))
    (fun he => h (Key.authRefresh.inj he).2) r cfg.refreshTtlSeconds

theorem denylist_issueTokens (cfg : JwtConfig) (r : Reply) (user : TokenSubject) (s : Store)
    (j : Jti) : (issueTokens cfg r user s).2.denylist j = s.denylist j :=
  get_cacheSet_of_ne (s := sign cfg user s) (k := .authRefresh user.id (s.uuids + 1)) (by simp) r
    cfg.refreshTtlSeconds

/-- **The marker of a new session outlives its JWT**: the seconds of `exp` start
no later than those of the marker. -/
theorem lasts_issueTokens (cfg : JwtConfig) (user : TokenSubject) (s : Store) :
    (issueTokens cfg .ok user s).2.redis.Lasts (.authRefresh user.id (s.uuids + 1))
      ((refreshPayload cfg user s).exp * 1000) := by
  refine lasts_cacheSet ?_
  simp only [refreshPayload, sign, unixSeconds]
  omega

theorem refreshTokens_revokeRefreshJti (f : RevokeReplies) (u : UserId) (j : Jti) (exp : ℕ)
    (by' : Option Jti) (s : Store) :
    (revokeRefreshJti f u j exp by' s).refreshTokens =
      Table.updateMany (fun r => decide (r.jti = j ∧ r.revokedAt = none))
        (fun r => { r with revokedAt := some s.now, replacedByJti := by' }) s.refreshTokens := by
  have h := redisOnly_denyJti f.denylist j exp s
  simp only [revokeRefreshJti, markRevoked, Store.updateRefreshTokens, Store.cacheDel,
    h.refreshTokens, h.now]

theorem denylist_revokeRefreshJti_of_ne {j j' : Jti} (h : j' ≠ j) (f : RevokeReplies) (u : UserId)
    (exp : ℕ) (by' : Option Jti) (s : Store) :
    (revokeRefreshJti f u j exp by' s).denylist j' = s.denylist j' :=
  (get_cacheDel_of_ne (by simp) _).trans (denylist_denyJti_of_ne h _ _ _)

theorem marker_revokeRefreshJti_of_ne {u u' : UserId} {j j' : Jti} (h : j' ≠ j)
    (f : RevokeReplies) (exp : ℕ) (by' : Option Jti) (s : Store) :
    (revokeRefreshJti f u j exp by' s).marker u' j' = s.marker u' j' :=
  (get_cacheDel_of_ne (by simp [h]) _).trans (marker_denyJti _ _ _ _ _ _)

/-- The marker goes when its deletion reaches Redis. -/
theorem marker_revokeRefreshJti {f : RevokeReplies} (h : f.marker = .ok) (u : UserId) (j : Jti)
    (exp : ℕ) (by' : Option Jti) (s : Store) :
    (revokeRefreshJti f u j exp by' s).marker u j = none := by
  simp [revokeRefreshJti, markRevoked, Store.updateRefreshTokens, Store.marker, h, get_cacheDel]

/-- A marker that is not there does not appear. -/
theorem marker_revokeRefreshJti_eq_none {u : UserId} {j : Jti} {s : Store}
    (h : s.marker u j = none) (f : RevokeReplies) (exp : ℕ) (by' : Option Jti) :
    (revokeRefreshJti f u j exp by' s).marker u j = none :=
  get_cacheDel_eq_none ((marker_denyJti _ _ _ _ _ _).trans h) _ _

/-- The denylist entry outlives the token when its write reaches Redis. -/
theorem lasts_revokeRefreshJti {f : RevokeReplies} (h : f.denylist = .ok) {u : UserId} {j : Jti}
    {exp : ℕ} {s : Store} (hexp : unixSeconds s.now < exp) (by' : Option Jti) :
    (revokeRefreshJti f u j exp by' s).redis.Lasts (.authDenylist j) (exp * 1000) := by
  have hl : (denyJti .ok j exp s).redis.Lasts (.authDenylist j) (exp * 1000) := lasts_denyJti hexp
  rw [← h] at hl
  exact hl.congr (get_cacheDel_of_ne (by simp) _)

/-- The Redis commands of `revokeAllSessions`, before its row update. -/
theorem redisOnly_revokeAllSessions (f : RevokeAllReplies) (u : UserId) (s : Store) :
    RedisOnly s (denyRows f.denylist (Table.findMany (isLiveRow u s.now) s.refreshTokens)
      (s.cacheDelByPattern f.scan u)) :=
  have h : RedisOnly s (s.cacheDelByPattern f.scan u) := redisOnly_mk _ _
  h.trans (redisOnly_denyRows _ _ _)

theorem refreshTokens_markAllRevoked {s s' : Store} (h : RedisOnly s s') (u : UserId) :
    (markAllRevoked u s').refreshTokens =
      Table.updateMany (fun r => decide (r.userId = u ∧ r.revokedAt = none))
        (fun r => { r with revokedAt := some s.now }) s.refreshTokens := by
  simp only [markAllRevoked, Store.updateRefreshTokens, h.refreshTokens, h.now]

theorem refreshTokens_revokeAllSessions (f : RevokeAllReplies) (u : UserId) (s : Store) :
    (revokeAllSessions f u s).refreshTokens =
      Table.updateMany (fun r => decide (r.userId = u ∧ r.revokedAt = none))
        (fun r => { r with revokedAt := some s.now }) s.refreshTokens :=
  refreshTokens_markAllRevoked (redisOnly_revokeAllSessions f u s) u

theorem marker_revokeAllSessions (f : RevokeAllReplies) (u u' : UserId) (j : Jti) (s : Store) :
    (revokeAllSessions f u s).marker u' j = (s.cacheDelByPattern f.scan u).marker u' j :=
  marker_denyRows _ _ _ _ _

theorem sessionsOnly_revokeRefreshJti (f : RevokeReplies) (u : UserId) (j : Jti) (exp : ℕ)
    (by' : Option Jti) (s : Store) : SessionsOnly s (revokeRefreshJti f u j exp by' s) := by
  have h := redisOnly_denyJti f.denylist j exp s
  exact ⟨h.users, h.uuids, h.signedAccess, h.signedRefresh, h.now⟩

theorem sessionsOnly_revokeAllSessions (f : RevokeAllReplies) (u : UserId) (s : Store) :
    SessionsOnly s (revokeAllSessions f u s) := by
  have h := redisOnly_revokeAllSessions f u s
  exact ⟨h.users, h.uuids, h.signedAccess, h.signedRefresh, h.now⟩

theorem sessionsOnly_logoutRefresh (f : LogoutReplies) (t : RefreshTokenPayload) (s : Store) :
    SessionsOnly s (logoutRefresh f t s) := by
  rcases logoutRefresh_cases f t s with ⟨-, -, hl⟩ | ⟨-, -, hl⟩ | ⟨-, -, hl⟩ <;> rw [hl]
  · exact sessionsOnly_revokeRefreshJti ..
  · exact sessionsOnly_revokeAllSessions ..
  · exact ⟨rfl, rfl, rfl, rfl, rfl⟩

theorem sessionsOnly_logout (cfg : JwtConfig) (f : LogoutReplies)
    (principal : Option AuthenticatedUser) (token : Option RefreshTokenPayload) (s : Store) :
    SessionsOnly s (logout cfg f principal token s) := by
  have haccess : ∀ s', SessionsOnly s s' → SessionsOnly s (logoutAccess cfg f principal s') :=
    fun s' h => by
      cases principal with
      | none => exact h
      | some p => exact h.trans (redisOnly_denyJti ..).toSessionsOnly
  cases token with
  | none => exact haccess s ⟨rfl, rfl, rfl, rfl, rfl⟩
  | some t => exact haccess _ (sessionsOnly_logoutRefresh f t s)

/-- No denylist entry is written for a `jti` of no live row of the user. -/
theorem denylist_revokeAllSessions_of_ne {u : UserId} {j : Jti} {s : Store}
    (h : ∀ r ∈ s.refreshTokens, isLiveRow u s.now r = true → r.jti ≠ j) (f : RevokeAllReplies) :
    (revokeAllSessions f u s).denylist j = s.denylist j := by
  refine (denylist_denyRows_of_ne _ _ _ fun r hr => ?_).trans (denylist_cacheDelByPattern _ _ _ _)
  obtain ⟨hr, hl⟩ := Table.mem_findMany.1 hr
  exact h r hr hl

/-- A row is read as live only if it is unrevoked. -/
theorem isKnownInDatabase_eq_false {u : UserId} {j : Jti} {s : Store}
    (h : ∀ r ∈ s.refreshTokens, r.jti = j → r.revokedAt ≠ none) :
    isKnownInDatabase u j s = false := by
  unfold isKnownInDatabase
  split
  · rfl
  · next r hr =>
      obtain ⟨hm, hj⟩ := Table.findUnique_some hr
      have := h r hm (of_decide_eq_true hj)
      simp [this]

end Auth
end TopChoice
