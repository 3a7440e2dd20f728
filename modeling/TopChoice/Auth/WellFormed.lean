/-
# Well-formed stores

Whatever becomes of the Redis commands, every call keeps the identifiers fresh,
each row and each marker with a signed token, and a row alive for as long as its
JWT (`WellFormed.runCall`).  There is one preservation lemma for each write; the
calls, and later the single steps of overlapping calls, are made of them.
-/

import TopChoice.Auth.Sessions

namespace TopChoice
namespace Auth

/-- Identifiers are fresh, a row or a marker belongs to a signed token, and a
row outlives its JWT. -/
structure WellFormed (s : Store) : Prop where
  refresh_lt : ∀ t ∈ s.signedRefresh, t.jti < s.uuids
  access_lt : ∀ a ∈ s.signedAccess, a.jti < s.uuids
  jti_ne : ∀ t ∈ s.signedRefresh, ∀ a ∈ s.signedAccess, t.jti ≠ a.jti
  jti_inj : ∀ t ∈ s.signedRefresh, ∀ t' ∈ s.signedRefresh, t.jti = t'.jti → t = t'
  row_token : ∀ r ∈ s.refreshTokens,
    ∃ t ∈ s.signedRefresh, t.jti = r.jti ∧ t.sub = r.userId ∧ t.exp * 1000 ≤ r.expiresAt
  row_inj : ∀ r ∈ s.refreshTokens, ∀ r' ∈ s.refreshTokens, r.jti = r'.jti → r = r'
  marker_lt : ∀ u j, s.marker u j ≠ none → j < s.uuids
  denylist_lt : ∀ j, s.denylist j ≠ none → j < s.uuids

/-- A deployment starts well formed. -/
theorem wellFormed_fresh (users : List User) (now : Millis) :
    WellFormed (Store.fresh users now) where
  refresh_lt _ ht := absurd ht List.not_mem_nil
  access_lt _ ha := absurd ha List.not_mem_nil
  jti_ne _ ht := absurd ht List.not_mem_nil
  jti_inj _ ht := absurd ht List.not_mem_nil
  row_token _ hr := absurd hr List.not_mem_nil
  row_inj _ hr := absurd hr List.not_mem_nil
  marker_lt _ _ h := absurd rfl h
  denylist_lt _ h := absurd rfl h

namespace WellFormed

/-- Redis may change as long as its keys stay among the identifiers handed out. -/
theorem redis {s s' : Store} (hwf : WellFormed s) (h : RedisOnly s s')
    (hm : ∀ u j, s'.marker u j ≠ none → j < s.uuids)
    (hd : ∀ j, s'.denylist j ≠ none → j < s.uuids) : WellFormed s' := by
  constructor <;> simp only [h.refreshTokens, h.uuids, h.signedAccess, h.signedRefresh]
  · exact hwf.refresh_lt
  · exact hwf.access_lt
  · exact hwf.jti_ne
  · exact hwf.jti_inj
  · exact hwf.row_token
  · exact hwf.row_inj
  · exact hm
  · exact hd

/-- Rows may be rewritten as long as owner, identifier and expiry stay. -/
theorem updateRefreshTokens {s : Store} (hwf : WellFormed s) (p : RefreshTokenRow → Bool)
    {f : RefreshTokenRow → RefreshTokenRow}
    (hf : ∀ r, (f r).userId = r.userId ∧ (f r).jti = r.jti ∧ (f r).expiresAt = r.expiresAt) :
    WellFormed (s.updateRefreshTokens p f) where
  refresh_lt := hwf.refresh_lt
  access_lt := hwf.access_lt
  jti_ne := hwf.jti_ne
  jti_inj := hwf.jti_inj
  row_token := Table.forall_mem_updateMany hwf.row_token fun r hr _ => by
    obtain ⟨t, ht, h1, h2, h3⟩ := hwf.row_token r hr
    obtain ⟨e1, e2, e3⟩ := hf r
    exact ⟨t, ht, by rw [e2, h1], by rw [e1, h2], by rw [e3]; exact h3⟩
  row_inj := by
    have hg : ∀ r : RefreshTokenRow, (if p r then f r else r).jti = r.jti := fun r => by
      split_ifs
      · exact (hf r).2.1
      · rfl
    intro r hr r' hr' hj
    obtain ⟨r₀, h₀, rfl⟩ := List.mem_map.1 hr
    obtain ⟨r₁, h₁, rfl⟩ := List.mem_map.1 hr'
    rw [hg, hg] at hj
    rw [hwf.row_inj r₀ h₀ r₁ h₁ hj]
  marker_lt := hwf.marker_lt
  denylist_lt := hwf.denylist_lt

theorem tick {s : Store} (hwf : WellFormed s) (d : Millis) : WellFormed (s.tick d) :=
  ⟨hwf.refresh_lt, hwf.access_lt, hwf.jti_ne, hwf.jti_inj, hwf.row_token, hwf.row_inj,
    hwf.marker_lt, hwf.denylist_lt⟩

/-- A marker or a denylist entry may go. -/
theorem cacheDel {s : Store} (hwf : WellFormed s) (r : Reply) (k : Key) :
    WellFormed (s.cacheDel r k) :=
  hwf.redis (redisOnly_mk _ _) (fun u j h => hwf.marker_lt u j fun hn => h (get_cacheDel_eq_none hn _ _))
    fun j h => hwf.denylist_lt j fun hn => h (get_cacheDel_eq_none hn _ _)

theorem cacheDelByPattern {s : Store} (hwf : WellFormed s) (w : Sweep) (u : UserId) :
    WellFormed (s.cacheDelByPattern w u) := by
  refine hwf.redis (redisOnly_mk _ _) (fun u' j h => hwf.marker_lt u' j fun hn => h ?_)
    fun j h => hwf.denylist_lt j fun hn => h ((denylist_cacheDelByPattern ..).trans hn)
  rw [Store.marker] at hn
  rw [Store.marker, get_cacheDelByPattern, hn, ite_self]

/-- The marker of an identifier handed out may be written. -/
theorem setMarker {s : Store} (hwf : WellFormed s) {j : Jti} (hj : j < s.uuids) (r : Reply)
    (u : UserId) (ttl : ℕ) : WellFormed (s.cacheSet r (.authRefresh u j) ttl) := by
  refine hwf.redis (redisOnly_mk _ _) (fun u' j' h => ?_) (fun j' h => ?_)
  · by_cases he : Key.authRefresh u' j' = Key.authRefresh u j
    · obtain ⟨-, rfl⟩ := Key.authRefresh.inj he
      exact hj
    · exact hwf.marker_lt u' j' (by rwa [Store.marker, get_cacheSet_of_ne he] at h)
  · exact hwf.denylist_lt j' (by rwa [Store.denylist, get_cacheSet_of_ne (by simp)] at h)

/-- An identifier handed out may be denied. -/
theorem setDenylist {s : Store} (hwf : WellFormed s) {j : Jti} (hj : j < s.uuids) (r : Reply)
    (ttl : ℕ) : WellFormed (s.cacheSet r (.authDenylist j) ttl) := by
  refine hwf.redis (redisOnly_mk _ _) (fun u' j' h => ?_) (fun j' h => ?_)
  · exact hwf.marker_lt u' j' (by rwa [Store.marker, get_cacheSet_of_ne (by simp)] at h)
  · by_cases he : j' = j
    · exact he ▸ hj
    · exact hwf.denylist_lt j' (by rwa [Store.denylist, get_cacheSet_of_ne (by simpa)] at h)

theorem denyJti {s : Store} (hwf : WellFormed s) {jti : Jti} (hj : jti < s.uuids) (r : Reply)
    (exp : ℕ) : WellFormed (denyJti r jti exp s) := by
  simp only [Auth.denyJti]
  split_ifs
  · exact hwf.setDenylist hj r _
  · exact hwf

theorem denyRows (d : Jti → Reply) :
    ∀ (rows : List RefreshTokenRow) {s : Store}, WellFormed s → (∀ r ∈ rows, r.jti < s.uuids) →
      WellFormed (denyRows d rows s)
  | [], _, hwf, _ => hwf
  | row :: rows, _, hwf, h =>
      denyRows d rows (hwf.setDenylist (h row (List.mem_cons_self ..)) _ _)
        fun r hr => h r (List.mem_cons_of_mem _ hr)

theorem markRevoked {s : Store} (hwf : WellFormed s) (jti : Jti) (by' : Option Jti) :
    WellFormed (markRevoked jti by' s) :=
  hwf.updateRefreshTokens _ fun _ => ⟨rfl, rfl, rfl⟩

theorem markAllRevoked {s : Store} (hwf : WellFormed s) (u : UserId) :
    WellFormed (markAllRevoked u s) :=
  hwf.updateRefreshTokens _ fun _ => ⟨rfl, rfl, rfl⟩

theorem revokeRefreshJti {s : Store} (hwf : WellFormed s) {t : RefreshTokenPayload}
    (ht : t ∈ s.signedRefresh) (f : RevokeReplies) (by' : Option Jti) :
    WellFormed (revokeRefreshJti f t.sub t.jti t.exp by' s) :=
  ((hwf.denyJti (hwf.refresh_lt t ht) f.denylist t.exp).cacheDel f.marker _).markRevoked _ _

/-- Every row's identifier was handed out. -/
theorem row_lt {s : Store} (hwf : WellFormed s) {r : RefreshTokenRow} (hr : r ∈ s.refreshTokens) :
    r.jti < s.uuids := by
  obtain ⟨t, ht, hj, _, _⟩ := hwf.row_token r hr
  exact hj ▸ hwf.refresh_lt t ht

theorem revokeAllSessions {s : Store} (hwf : WellFormed s) (f : RevokeAllReplies) (u : UserId) :
    WellFormed (revokeAllSessions f u s) :=
  (denyRows _ _ (hwf.cacheDelByPattern _ _) fun _ hr =>
    hwf.row_lt (Table.mem_findMany.1 hr).1).markAllRevoked u

theorem sign {s : Store} (hwf : WellFormed s) (cfg : JwtConfig) (user : TokenSubject) :
    WellFormed (sign cfg user s) where
  refresh_lt t ht := by
    rcases List.mem_cons.1 ht with rfl | ht
    · exact Nat.lt_succ_self _
    · exact Nat.lt_add_right 2 (hwf.refresh_lt t ht)
  access_lt a ha := by
    rcases List.mem_cons.1 ha with rfl | ha
    · exact Nat.lt_add_of_pos_right Nat.two_pos
    · exact Nat.lt_add_right 2 (hwf.access_lt a ha)
  jti_ne t ht a ha := by
    rcases List.mem_cons.1 ht with rfl | ht <;> rcases List.mem_cons.1 ha with rfl | ha
    · exact Nat.succ_ne_self _
    · exact fun h => absurd (hwf.access_lt a ha) (by rw [← h]; simp [refreshPayload])
    · exact Nat.ne_of_lt (hwf.refresh_lt t ht)
    · exact hwf.jti_ne t ht a ha
  jti_inj t ht t' ht' h := by
    have hn : ∀ t ∈ s.signedRefresh, t.jti ≠ (refreshPayload cfg user s).jti := fun t ht =>
      Nat.ne_of_lt (Nat.lt_succ_of_lt (hwf.refresh_lt t ht))
    rcases List.mem_cons.1 ht with rfl | ht <;> rcases List.mem_cons.1 ht' with rfl | ht'
    · rfl
    · exact absurd h.symm (hn t' ht')
    · exact absurd h (hn t ht)
    · exact hwf.jti_inj t ht t' ht' h
  row_token r hr := by
    obtain ⟨t, ht, h⟩ := hwf.row_token r hr
    exact ⟨t, List.mem_cons_of_mem _ ht, h⟩
  row_inj := hwf.row_inj
  marker_lt u j h := Nat.lt_add_right 2 (hwf.marker_lt u j h)
  denylist_lt j h := Nat.lt_add_right 2 (hwf.denylist_lt j h)

/-- The row of a signed token may be inserted once. -/
theorem createRefreshToken {s : Store} (hwf : WellFormed s) {row : RefreshTokenRow}
    (hrow : ∃ t ∈ s.signedRefresh, t.jti = row.jti ∧ t.sub = row.userId ∧
      t.exp * 1000 ≤ row.expiresAt)
    (hnew : ∀ r ∈ s.refreshTokens, r.jti ≠ row.jti) : WellFormed (s.createRefreshToken row) where
  refresh_lt := hwf.refresh_lt
  access_lt := hwf.access_lt
  jti_ne := hwf.jti_ne
  jti_inj := hwf.jti_inj
  row_token r hr := by
    rcases Table.mem_create.1 hr with hr | rfl
    · exact hwf.row_token r hr
    · exact hrow
  row_inj r hr r' hr' h := by
    rcases Table.mem_create.1 hr with h₁ | h₁ <;> rcases Table.mem_create.1 hr' with h₂ | h₂
    · exact hwf.row_inj r h₁ r' h₂ h
    · exact absurd (h.trans (congrArg _ h₂)) (hnew r h₁)
    · exact absurd (h.symm.trans (congrArg _ h₁)) (hnew r' h₂)
    · rw [h₁, h₂]
  marker_lt := hwf.marker_lt
  denylist_lt := hwf.denylist_lt

theorem issueTokens {s : Store} (hwf : WellFormed s) (cfg : JwtConfig) (r : Reply)
    (user : TokenSubject) : WellFormed (issueTokens cfg r user s).2 := by
  refine ((hwf.sign cfg user).setMarker (Nat.lt_succ_self _) r _ _).createRefreshToken
    ⟨refreshPayload cfg user s, List.mem_cons_self .., rfl, rfl, ?_⟩ fun r' hr' => ?_
  · simp only [refreshPayload, secondsFromNow, Auth.sign, unixSeconds]
    omega
  · exact Nat.ne_of_lt (Nat.lt_succ_of_lt (hwf.row_lt hr'))

theorem purgeExpiredRefreshTokens {s : Store} (hwf : WellFormed s) :
    WellFormed (purgeExpiredRefreshTokens s) where
  refresh_lt := hwf.refresh_lt
  access_lt := hwf.access_lt
  jti_ne := hwf.jti_ne
  jti_inj := hwf.jti_inj
  row_token r hr := hwf.row_token r (Table.mem_deleteMany.1 hr).1
  row_inj r hr r' hr' := hwf.row_inj r (Table.mem_deleteMany.1 hr).1 r' (Table.mem_deleteMany.1 hr').1
  marker_lt := hwf.marker_lt
  denylist_lt := hwf.denylist_lt

theorem setUsers {s : Store} (hwf : WellFormed s) (users : List User) :
    WellFormed { s with users := users } :=
  ⟨hwf.refresh_lt, hwf.access_lt, hwf.jti_ne, hwf.jti_inj, hwf.row_token, hwf.row_inj,
    hwf.marker_lt, hwf.denylist_lt⟩

theorem refresh {s : Store} (hwf : WellFormed s) (cfg : JwtConfig) (f : RefreshReplies)
    (t : RefreshTokenPayload) : WellFormed (refresh cfg f t s).2 := by
  rcases refresh_cases cfg f t s with ⟨user, a, ha, -, -, hr⟩ | ⟨-, hr⟩ | ⟨e, -, hr⟩ <;> rw [hr]
  · exact (hwf.issueTokens cfg f.issue _).revokeRefreshJti (List.mem_cons_of_mem _ ha.signed) _ _
  · exact hwf.revokeAllSessions _ _
  · exact hwf

theorem logoutRefresh {s : Store} (hwf : WellFormed s) (f : LogoutReplies)
    (t : RefreshTokenPayload) : WellFormed (logoutRefresh f t s) := by
  rcases logoutRefresh_cases f t s with ⟨ha, -, hl⟩ | ⟨-, -, hl⟩ | ⟨-, -, hl⟩ <;> rw [hl]
  · exact hwf.revokeRefreshJti ha.signed _ _
  · exact hwf.revokeAllSessions _ _
  · exact hwf

theorem logoutAccess {s : Store} (hwf : WellFormed s) (cfg : JwtConfig) (f : LogoutReplies)
    {principal : Option AuthenticatedUser}
    (hp : ∀ p, principal = some p → ∃ a ∈ s.signedAccess, p.jti = a.jti) :
    WellFormed (logoutAccess cfg f principal s) := by
  cases principal with
  | none => exact hwf
  | some p =>
      obtain ⟨a, ha, hj⟩ := hp p rfl
      exact hwf.denyJti (hj ▸ hwf.access_lt a ha) _ _

theorem logout {s : Store} (hwf : WellFormed s) (cfg : JwtConfig) (f : LogoutReplies)
    {principal : Option AuthenticatedUser}
    (hp : ∀ p, principal = some p → ∃ a ∈ s.signedAccess, p.jti = a.jti)
    (token : Option RefreshTokenPayload) : WellFormed (logout cfg f principal token s) := by
  cases token with
  | none => exact hwf.logoutAccess cfg f hp
  | some t =>
      have hs := (sessionsOnly_logoutRefresh f t s).signedAccess
      exact (hwf.logoutRefresh f t).logoutAccess cfg f (hs ▸ hp)

theorem adminUpdate {s : Store} (hwf : WellFormed s) (f : RevokeAllReplies) (id : UserId)
    (dto : AdminUpdateUserDto) (actorId : UserId) (actorRole : UserRole) :
    WellFormed (adminUpdate f id dto actorId actorRole s).2 := by
  rcases adminUpdate_cases f id dto actorId actorRole s with ⟨target, -, ha⟩ | ⟨e, ha⟩ <;> rw [ha]
  · split_ifs
    · exact (hwf.setUsers _).revokeAllSessions _ _
    · exact hwf.setUsers _
  · exact hwf

/-- **Every call keeps the store well formed**, whatever becomes of its Redis
commands. -/
theorem runCall {s : Store} (hwf : WellFormed s) (cfg : JwtConfig) (c : Call) :
    WellFormed (runCall cfg s c) := by
  cases c with
  | tick d => exact hwf.tick d
  | issueTokens r user => exact hwf.issueTokens cfg r user
  | refresh f t => exact hwf.refresh cfg f t
  | logout f access token =>
      rcases logoutRequest_cases cfg f access token s with ⟨-, hl⟩ | ⟨-, p, hp, hl⟩ <;>
        simp only [Auth.runCall, hl]
      · exact hwf
      · exact hwf.logout cfg f hp token
  | revokeAllSessions f u => exact hwf.revokeAllSessions f u
  | purgeExpiredRefreshTokens => exact hwf.purgeExpiredRefreshTokens
  | adminUpdate f id dto actorId actorRole => exact hwf.adminUpdate f id dto actorId actorRole

end WellFormed

end Auth
end TopChoice
