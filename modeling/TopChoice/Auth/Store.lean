/-
# What the session services read and write

`apps/api-core`: the Redis keys of `redis/cache-keys.ts` behind the fail-open
`CacheService` of `redis/cache.service.ts`, the Postgres tables `users` and
`refresh_tokens` of `prisma/schema.prisma`, the clock, and the tokens the
deployment has signed.

UUIDs are numbered in the order `uuidv4` hands them out, so a new one differs
from every earlier one.  A token is its payload; its signature verifies when it
is among the signed ones.  Redis values are left out (the services only ask
whether a key exists), as are the columns nothing reads (`token_hash`,
`user_agent`, `ip_address`).
-/

import Mathlib.Data.Nat.Basic
import Mathlib.Order.Basic
import TopChoice.Common.AppException
import TopChoice.Lib.Expiring
import TopChoice.Lib.Table

namespace TopChoice
namespace Auth

/-- `users.id`. -/
abbrev UserId := String

/-- A UUID handed out by `uuidv4`, numbered in order of generation. -/
abbrev Jti := ℕ

/-- `Date.now()`. -/
abbrev Millis := ℕ

/-- `Math.floor(Date.now() / 1000)`. -/
def unixSeconds (now : Millis) : ℕ := now / 1000

/-- `secondsFromNow`: an absolute date so many seconds ahead. -/
def secondsFromNow (seconds : ℕ) (now : Millis) : Millis := now + seconds * 1000

/-- `secondsUntilExpiry`: the remaining lifetime of a JWT `exp`, floored at zero. -/
def secondsUntilExpiry (expUnixSeconds : ℕ) (now : Millis) : ℕ :=
  expUnixSeconds - unixSeconds now

/-- `config.jwt`: the two lifetimes, which `durationToSeconds` refuses to make zero. -/
structure JwtConfig where
  accessTtlSeconds : ℕ
  refreshTtlSeconds : ℕ
  access_pos : 0 < accessTtlSeconds
  refresh_pos : 0 < refreshTtlSeconds

/-- The lifetimes of `config/env.schema.ts` when the environment sets none. -/
def JwtConfig.default : JwtConfig := ⟨15 * 60, 30 * 24 * 3600, by decide, by decide⟩

/-- `UserRoleValue`. -/
inductive UserRole where
  | user
  | agent
  | admin
  | superadmin
  deriving DecidableEq, Repr

/-- A row of `users`. -/
structure User where
  id : UserId
  email : String
  name : String
  role : UserRole
  phone : Option String
  avatarUrl : Option String
  isVerified : Bool
  isActive : Bool
  locale : String
  deriving DecidableEq, Repr

/-- The demo agent of `prisma/seed.ts`. -/
def demoAgent : User :=
  ⟨"user:agent", "agent@topchoice.local", "Mona Farid", .agent, some "+201000000002", none, true,
    true, "en"⟩

/-- `TokenSubject`. -/
structure TokenSubject where
  id : UserId
  email : String
  name : String
  role : UserRole
  deriving DecidableEq, Repr

/-- `AccessTokenPayload`; `iss` and `aud` are the same in every token. -/
structure AccessTokenPayload where
  sub : UserId
  email : String
  role : UserRole
  name : String
  jti : Jti
  iat : ℕ
  exp : ℕ
  deriving DecidableEq, Repr

/-- `RefreshTokenPayload`. -/
structure RefreshTokenPayload where
  sub : UserId
  jti : Jti
  iat : ℕ
  exp : ℕ
  deriving DecidableEq, Repr

/-- `AuthenticatedUser`: the principal on the request. -/
structure AuthenticatedUser where
  id : UserId
  email : String
  name : String
  role : UserRole
  jti : Jti
  deriving DecidableEq, Repr

/-- `cacheKeys`: `auth:denylist:{jti}` and `auth:refresh:{userId}:{jti}`. -/
inductive Key where
  | authDenylist (jti : Jti)
  | authRefresh (userId : UserId) (jti : Jti)
  deriving DecidableEq, Repr

/-- `cacheKeys.authRefreshPattern(userId)`: the keys `auth:refresh:{userId}:*`. -/
def authRefreshPattern (userId : UserId) : Key → Bool
  | .authDenylist _ => false
  | .authRefresh u _ => decide (u = userId)

/-- A row of `refresh_tokens`. -/
structure RefreshTokenRow where
  userId : UserId
  jti : Jti
  expiresAt : Millis
  revokedAt : Option Millis
  replacedByJti : Option Jti
  deriving DecidableEq, Repr

/-- Everything the session services share. -/
structure Store where
  redis : Expiring Key
  refreshTokens : List RefreshTokenRow
  users : List User
  /-- How many UUIDs `uuidv4` has handed out. -/
  uuids : ℕ
  /-- The access tokens signed so far. -/
  signedAccess : List AccessTokenPayload
  /-- The refresh tokens signed so far. -/
  signedRefresh : List RefreshTokenPayload
  now : Millis

/-- The outcome of one Redis command: `CacheService` swallows its error. -/
inductive Reply where
  | ok
  | failed
  deriving DecidableEq, Repr

/-- The outcome of a `SCAN` loop: it ends, or a command fails after the markers
of some `jti`s have been unlinked. -/
inductive Sweep where
  | complete
  | broken (unlinked : List Jti)
  deriving DecidableEq, Repr

namespace Store

/-- No session yet: the stores as a deployment starts with them. -/
def fresh (users : List User) (now : Millis) : Store where
  redis := Expiring.empty
  refreshTokens := []
  users := users
  uuids := 0
  signedAccess := []
  signedRefresh := []
  now := now

/-- The clock advances. -/
def tick (s : Store) (d : Millis) : Store := { s with now := s.now + d }

/-- `CacheService.set`: with a lifetime, or for good when it is not positive. -/
def cacheSet (r : Reply) (k : Key) (ttlSeconds : ℕ) (s : Store) : Store :=
  { s with
    redis := match r with
      | .failed => s.redis
      | .ok => s.redis.set k (if 0 < ttlSeconds then some (s.now + ttlSeconds * 1000) else none) }

/-- `CacheService.del` of one key. -/
def cacheDel (r : Reply) (k : Key) (s : Store) : Store :=
  { s with
    redis := match r with
      | .failed => s.redis
      | .ok => s.redis.unlink fun k' => decide (k' = k) }

/-- `CacheService.exists`: an error answers `false`. -/
def cacheExists (r : Reply) (k : Key) (s : Store) : Bool :=
  match r with
  | .failed => false
  | .ok => s.redis.has s.now k

/-- The keys a sweep of the user's markers unlinks. -/
def swept : Sweep → UserId → Key → Bool
  | .complete, userId, k => authRefreshPattern userId k
  | .broken js, userId, .authRefresh u j => decide (u = userId) && decide (j ∈ js)
  | .broken _, _, .authDenylist _ => false

/-- `CacheService.delByPattern(cacheKeys.authRefreshPattern(userId))`. -/
def cacheDelByPattern (w : Sweep) (userId : UserId) (s : Store) : Store :=
  { s with redis := s.redis.unlink (swept w userId) }

/-- `prisma.refreshToken.create`. -/
def createRefreshToken (row : RefreshTokenRow) (s : Store) : Store :=
  { s with refreshTokens := Table.create row s.refreshTokens }

/-- `prisma.refreshToken.updateMany`. -/
def updateRefreshTokens (p : RefreshTokenRow → Bool) (f : RefreshTokenRow → RefreshTokenRow)
    (s : Store) : Store :=
  { s with refreshTokens := Table.updateMany p f s.refreshTokens }

/-- `prisma.user.findUnique({ where: { id } })`. -/
def findUser (id : UserId) (s : Store) : Option User :=
  Table.findUnique (fun u => decide (u.id = id)) s.users

/-- The marker of a session: the entry under `auth:refresh:{userId}:{jti}`. -/
def marker (s : Store) (userId : UserId) (jti : Jti) : Option (Option ℕ) :=
  s.redis.get (.authRefresh userId jti)

/-- The denylist entry of a `jti`. -/
def denylist (s : Store) (jti : Jti) : Option (Option ℕ) := s.redis.get (.authDenylist jti)

end Store

/-! ### Reading the store back after a Redis command -/

theorem get_cacheSet_of_ne {s : Store} {k k' : Key} (h : k' ≠ k) (r : Reply) (ttl : ℕ) :
    (s.cacheSet r k ttl).redis.get k' = s.redis.get k' := by
  cases r with
  | ok => exact Expiring.get_set_of_ne _ h _
  | failed => rfl

theorem get_cacheDel (s : Store) (k k' : Key) :
    (s.cacheDel .ok k).redis.get k' = if k' = k then none else s.redis.get k' := by
  simp [Store.cacheDel, Expiring.get_unlink]

theorem get_cacheDel_of_ne {s : Store} {k k' : Key} (h : k' ≠ k) (r : Reply) :
    (s.cacheDel r k).redis.get k' = s.redis.get k' := by
  cases r with
  | ok => rw [get_cacheDel, if_neg h]
  | failed => rfl

/-- Deleting never brings a key back. -/
theorem get_cacheDel_eq_none {s : Store} {k' : Key} (h : s.redis.get k' = none) (r : Reply)
    (k : Key) : (s.cacheDel r k).redis.get k' = none := by
  cases r with
  | ok => rw [get_cacheDel, h, ite_self]
  | failed => exact h

theorem get_cacheDelByPattern (s : Store) (w : Sweep) (userId : UserId) (k : Key) :
    (s.cacheDelByPattern w userId).redis.get k =
      if Store.swept w userId k then none else s.redis.get k :=
  Expiring.get_unlink _ _ _

/-- A sweep leaves the denylist alone. -/
theorem denylist_cacheDelByPattern (s : Store) (w : Sweep) (userId : UserId) (jti : Jti) :
    (s.cacheDelByPattern w userId).denylist jti = s.denylist jti := by
  cases w <;> simp [Store.denylist, get_cacheDelByPattern, Store.swept, authRefreshPattern]

/-- **A complete sweep removes every marker of the user.** -/
theorem marker_cacheDelByPattern_complete (s : Store) (userId : UserId) (jti : Jti) :
    (s.cacheDelByPattern .complete userId).marker userId jti = none := by
  simp [Store.marker, get_cacheDelByPattern, Store.swept, authRefreshPattern]

/-- A sweep leaves the markers of other users alone. -/
theorem marker_cacheDelByPattern_of_ne {s : Store} {userId userId' : UserId}
    (h : userId' ≠ userId) (w : Sweep) (jti : Jti) :
    (s.cacheDelByPattern w userId).marker userId' jti = s.marker userId' jti := by
  cases w <;> simp [Store.marker, get_cacheDelByPattern, Store.swept, authRefreshPattern, h]

/-- A key that was set for `ttl` seconds lasts that long, or for good. -/
theorem lasts_cacheSet {s : Store} {k : Key} {ttl T : ℕ} (hT : T ≤ s.now + ttl * 1000 + 1) :
    (s.cacheSet .ok k ttl).redis.Lasts k T := by
  by_cases h : 0 < ttl
  · have : (s.cacheSet .ok k ttl).redis = s.redis.set k (some (s.now + ttl * 1000)) := by
      simp [Store.cacheSet, h]
    rw [this]
    exact Expiring.lasts_set hT
  · have : (s.cacheSet .ok k ttl).redis = s.redis.set k none := by simp [Store.cacheSet, h]
    rw [this]
    exact Expiring.lasts_set_none

end Auth
end TopChoice
