/-
# The commands of one step

A request that overlaps others reaches the stores one Redis command or one
Postgres statement at a time.  Each command is a write set of its own, so what a
step can do to a session is said here, once for each command: which marker it
can bring back, which rows it can add or unrevoke, which denylist entry it can
shorten, and when it keeps the store well formed.
-/

import TopChoice.Auth.WellFormed

namespace TopChoice
namespace Auth

/-- What one step does to the stores. -/
inductive Command where
  /-- `EXISTS`, `SCAN`, a `SELECT`, or a local step. -/
  | read
  /-- The two UUIDs and signatures of `issueTokens`. -/
  | sign (user : TokenSubject)
  /-- `SET auth:refresh:{userId}:{jti} EX refreshTtlSeconds`. -/
  | setMarker (userId : UserId) (jti : Jti)
  /-- `INSERT` of a row. -/
  | createRow (row : RefreshTokenRow)
  /-- `SET auth:denylist:{jti}` for what remains of the JWT, if anything does. -/
  | denyJti (jti : Jti) (exp : ℕ)
  /-- `SET auth:denylist:{jti} EX ttlSeconds`. -/
  | denyFor (jti : Jti) (ttlSeconds : ℕ)
  /-- `UNLINK auth:refresh:{userId}:{jti}`. -/
  | delMarker (userId : UserId) (jti : Jti)
  /-- `UNLINK` of one scanned batch of markers. -/
  | unlinkMarkers (userId : UserId) (jtis : List Jti)
  /-- The `UPDATE` of `revokeRefreshJti`. -/
  | markRevoked (jti : Jti) (replacedByJti : Option Jti)
  /-- The `UPDATE` of `revokeAllSessions`. -/
  | markAllRevoked (userId : UserId)

/-- The stores after a command. -/
def Command.exec (cfg : JwtConfig) (s : Store) : Command → Store
  | .read => s
  | .sign user => Auth.sign cfg user s
  | .setMarker userId jti => s.cacheSet .ok (.authRefresh userId jti) cfg.refreshTtlSeconds
  | .createRow row => s.createRefreshToken row
  | .denyJti jti exp => Auth.denyJti .ok jti exp s
  | .denyFor jti ttlSeconds => s.cacheSet .ok (.authDenylist jti) ttlSeconds
  | .delMarker userId jti => s.cacheDel .ok (.authRefresh userId jti)
  | .unlinkMarkers userId jtis => s.cacheDelByPattern (.broken jtis) userId
  | .markRevoked jti replacedByJti => Auth.markRevoked jti replacedByJti s
  | .markAllRevoked userId => Auth.markAllRevoked userId s

/-- `EXISTS auth:refresh:{userId}:{jti}`. -/
def Store.hasMarker (s : Store) (userId : UserId) (jti : Jti) : Bool :=
  s.cacheExists .ok (.authRefresh userId jti)

/-- The markers of a user that are there. -/
def Store.liveMarkers (s : Store) (userId : UserId) : List Jti :=
  s.redis.keys.filterMap fun
    | .authRefresh u j => if decide (u = userId) && s.hasMarker u j then some j else none
    | .authDenylist _ => none

/-- The denylist entry of the token lasts as long as its JWT. -/
def Denied (t : RefreshTokenPayload) (s : Store) : Prop :=
  unixSeconds s.now < t.exp → s.redis.Lasts (.authDenylist t.jti) (t.exp * 1000)

/-- What is denied stays denied while its denylist entry is left alone. -/
theorem Denied.congr {t : RefreshTokenPayload} {s s' : Store} (h : Denied t s)
    (hnow : s'.now = s.now) (hd : s'.denylist t.jti = s.denylist t.jti) : Denied t s' :=
  fun hexp => (h (hnow ▸ hexp)).congr hd

/-- A marker visible later is visible now. -/
theorem hasMarker_of_tick {s : Store} {d : Millis} {u : UserId} {j : Jti}
    (h : (s.tick d).hasMarker u j = true) : s.hasMarker u j = true :=
  Expiring.has_of_le (Nat.le_add_right s.now d) h

theorem Denied.tick {t : RefreshTokenPayload} {s : Store} (h : Denied t s) (d : Millis) :
    Denied t (s.tick d) := fun hexp =>
  h (lt_of_le_of_lt (Nat.div_le_div_right (Nat.le_add_right s.now d)) hexp)

/-- Every row of the token has `revokedAt` set. -/
def RowsRevoked (t : RefreshTokenPayload) (s : Store) : Prop :=
  ∀ r ∈ s.refreshTokens, r.jti = t.jti → r.revokedAt ≠ none

namespace Command

variable (cfg : JwtConfig) (s : Store)

theorem now_exec (cmd : Command) : (cmd.exec cfg s).now = s.now := by
  cases cmd <;> first | rfl | exact (redisOnly_denyJti ..).now

theorem users_exec (cmd : Command) : (cmd.exec cfg s).users = s.users := by
  cases cmd <;> first | rfl | exact (redisOnly_denyJti ..).users

theorem uuids_le_exec (cmd : Command) : s.uuids ≤ (cmd.exec cfg s).uuids := by
  cases cmd <;> first
    | exact le_rfl
    | exact (redisOnly_denyJti ..).uuids.ge
    | exact Nat.le_add_right ..

theorem mem_signedRefresh_exec (cmd : Command) {t : RefreshTokenPayload}
    (ht : t ∈ s.signedRefresh) : t ∈ (cmd.exec cfg s).signedRefresh := by
  cases cmd with
  | sign user => exact List.mem_cons_of_mem _ ht
  | denyJti jti exp => rwa [exec, (redisOnly_denyJti ..).signedRefresh]
  | _ => exact ht

/-- **A row is new or comes from a row**, which it only revokes. -/
theorem mem_refreshTokens_exec (cmd : Command) {r : RefreshTokenRow}
    (hr : r ∈ (cmd.exec cfg s).refreshTokens) :
    cmd = .createRow r ∨ ∃ r₀ ∈ s.refreshTokens, r.userId = r₀.userId ∧ r.jti = r₀.jti ∧
      (r₀.revokedAt ≠ none → r.revokedAt ≠ none) := by
  have hupdate : ∀ {p : RefreshTokenRow → Bool} (by' : RefreshTokenRow → Option Jti),
      r ∈ Table.updateMany p (fun r => { r with revokedAt := some s.now, replacedByJti := by' r })
        s.refreshTokens → ∃ r₀ ∈ s.refreshTokens, r.userId = r₀.userId ∧ r.jti = r₀.jti ∧
          (r₀.revokedAt ≠ none → r.revokedAt ≠ none) := fun by' h => by
    rcases Table.mem_updateMany.1 h with ⟨r₀, h₀, -, rfl⟩ | ⟨h₀, -⟩
    · exact ⟨r₀, h₀, rfl, rfl, fun _ => Option.some_ne_none _⟩
    · exact ⟨r, h₀, rfl, rfl, id⟩
  cases cmd with
  | createRow row =>
      rcases Table.mem_create.1 hr with hr | rfl
      · exact Or.inr ⟨r, hr, rfl, rfl, id⟩
      · exact Or.inl rfl
  | denyJti jti exp =>
      rw [exec, (redisOnly_denyJti ..).refreshTokens] at hr
      exact Or.inr ⟨r, hr, rfl, rfl, id⟩
  | markRevoked jti by' => exact Or.inr (hupdate (fun _ => by') hr)
  | markAllRevoked u => exact Or.inr (hupdate (fun r => r.replacedByJti) hr)
  | _ => exact Or.inr ⟨r, hr, rfl, rfl, id⟩

/-- **A marker is new or was there before.** -/
theorem hasMarker_exec (cmd : Command) {u : UserId} {j : Jti}
    (h : (cmd.exec cfg s).hasMarker u j = true) :
    cmd = .setMarker u j ∨ s.hasMarker u j = true := by
  have hcongr : ∀ {s' : Store}, s'.hasMarker u j = true → s'.now = s.now →
      s'.marker u j = s.marker u j → s.hasMarker u j = true := fun h hnow hm => by
    rw [Store.hasMarker, Store.cacheExists, hnow, Expiring.has_congr hm] at h
    exact h
  have hdel : ∀ {p : Prop} [Decidable p] {s' : Store}, s'.hasMarker u j = true → s'.now = s.now →
      (s'.marker u j = if p then none else s.marker u j) → s.hasMarker u j = true :=
    fun {p _ _} h hnow hm => by
      by_cases hp : p
      · rw [if_pos hp] at hm
        exact absurd hm (Expiring.get_ne_none_of_has h)
      · rw [if_neg hp] at hm
        exact hcongr h hnow hm
  cases cmd with
  | setMarker u' j' =>
      by_cases he : Key.authRefresh u j = .authRefresh u' j'
      · obtain ⟨rfl, rfl⟩ := Key.authRefresh.inj he
        exact Or.inl rfl
      · exact Or.inr (hcongr h rfl (get_cacheSet_of_ne he _ _))
  | denyJti jti exp =>
      exact Or.inr (hcongr h (redisOnly_denyJti ..).now (marker_denyJti ..))
  | denyFor jti ttl => exact Or.inr (hcongr h rfl (get_cacheSet_of_ne (by simp) _ _))
  | delMarker u' j' => exact Or.inr (hdel h rfl (get_cacheDel ..))
  | unlinkMarkers u' js => exact Or.inr (hdel h rfl (get_cacheDelByPattern ..))
  | _ => exact Or.inr h

/-- What a command may assume when it runs in a well-formed store. -/
def Valid (s : Store) : Command → Prop
  | .setMarker _ jti => jti < s.uuids
  | .createRow row =>
      (∃ t ∈ s.signedRefresh, t.jti = row.jti ∧ t.sub = row.userId ∧
        t.exp * 1000 ≤ row.expiresAt) ∧ ∀ r ∈ s.refreshTokens, r.jti ≠ row.jti
  | .denyJti jti _ => jti < s.uuids
  | .denyFor jti _ => jti < s.uuids
  | _ => True

/-- **A valid command keeps the store well formed.** -/
theorem wellFormed_exec {s : Store} (hwf : WellFormed s) {cmd : Command} (h : cmd.Valid s) :
    WellFormed (cmd.exec cfg s) := by
  cases cmd with
  | read => exact hwf
  | sign user => exact hwf.sign cfg user
  | setMarker u j => exact hwf.setMarker h .ok u _
  | createRow row => exact hwf.createRefreshToken h.1 h.2
  | denyJti jti exp => exact hwf.denyJti h .ok exp
  | denyFor jti ttl => exact hwf.setDenylist h .ok ttl
  | delMarker u j => exact hwf.cacheDel .ok _
  | unlinkMarkers u js => exact hwf.cacheDelByPattern _ u
  | markRevoked jti by' => exact hwf.markRevoked jti by'
  | markAllRevoked u => exact hwf.markAllRevoked u

end Command

end Auth
end TopChoice
