/-
# Issuing, verifying and revoking sessions

`apps/api-core/src/modules/auth/token.service.ts`, one call at a time: each
function takes the outcomes of the Redis commands it sends (`CacheService`
swallows their errors), reads the clock of the store, and returns the store it
leaves behind.  Postgres statements do not fail here.

A refresh `jti` is tracked three times: as a marker `auth:refresh:{userId}:{jti}`
in Redis, as a row of `refresh_tokens`, and, once consumed, as a denylist entry
`auth:denylist:{jti}`.  `verifyRefreshToken` accepts a token that is not denied
and whose marker is there, or else whose row is live.
-/

import TopChoice.Auth.Store

namespace TopChoice
namespace Auth

/-- `IssuedTokens`. -/
structure IssuedTokens where
  accessToken : AccessTokenPayload
  refreshToken : RefreshTokenPayload
  expiresIn : ℕ
  refreshExpiresIn : ℕ
  deriving DecidableEq, Repr

/-- The Redis outcomes of one `revokeAllSessions`: its scan, and its denylist
write for each `jti`. -/
structure RevokeAllReplies where
  scan : Sweep
  denylist : Jti → Reply

/-- The Redis outcomes of one `revokeRefreshJti`. -/
structure RevokeReplies where
  denylist : Reply
  marker : Reply

/-- The Redis outcomes of one `verifyRefreshToken`, with those of the
`revokeAllSessions` it may run. -/
structure VerifyReplies where
  denied : Reply
  active : Reply
  revokeAll : RevokeAllReplies

/-- Every Redis command of a `revokeAllSessions` succeeds. -/
def RevokeAllReplies.healthy : RevokeAllReplies := ⟨.complete, fun _ => .ok⟩

/-- Every Redis command of a `revokeRefreshJti` succeeds. -/
def RevokeReplies.healthy : RevokeReplies := ⟨.ok, .ok⟩

/-- Every Redis command of a `verifyRefreshToken` succeeds. -/
def VerifyReplies.healthy : VerifyReplies := ⟨.ok, .ok, .healthy⟩

/-! ### Issuing -/

/-- `rememberRefreshToken`: the marker, then the row. -/
def rememberRefreshToken (cfg : JwtConfig) (r : Reply) (userId : UserId) (jti : Jti)
    (s : Store) : Store :=
  let expiresAt := secondsFromNow cfg.refreshTtlSeconds s.now
  let s := s.cacheSet r (.authRefresh userId jti) cfg.refreshTtlSeconds
  s.createRefreshToken ⟨userId, jti, expiresAt, none, none⟩

/-- The access token `issueTokens` signs. -/
def accessPayload (cfg : JwtConfig) (user : TokenSubject) (s : Store) : AccessTokenPayload :=
  ⟨user.id, user.email, user.role, user.name, s.uuids, unixSeconds s.now,
    unixSeconds s.now + cfg.accessTtlSeconds⟩

/-- The refresh token `issueTokens` signs. -/
def refreshPayload (cfg : JwtConfig) (user : TokenSubject) (s : Store) : RefreshTokenPayload :=
  ⟨user.id, s.uuids + 1, unixSeconds s.now, unixSeconds s.now + cfg.refreshTtlSeconds⟩

/-- The two `uuidv4()` and the two `signAsync` of `issueTokens`. -/
def sign (cfg : JwtConfig) (user : TokenSubject) (s : Store) : Store :=
  { s with
    uuids := s.uuids + 2
    signedAccess := accessPayload cfg user s :: s.signedAccess
    signedRefresh := refreshPayload cfg user s :: s.signedRefresh }

/-- `issueTokens`: mints a pair and records the refresh `jti`. -/
def issueTokens (cfg : JwtConfig) (r : Reply) (user : TokenSubject) (s : Store) :
    IssuedTokens × Store :=
  let refreshToken := refreshPayload cfg user s
  (⟨accessPayload cfg user s, refreshToken, cfg.accessTtlSeconds, cfg.refreshTtlSeconds⟩,
    rememberRefreshToken cfg r user.id refreshToken.jti (sign cfg user s))

/-! ### Revocation -/

/-- The row update of `revokeRefreshJti`. -/
def markRevoked (jti : Jti) (replacedByJti : Option Jti) (s : Store) : Store :=
  s.updateRefreshTokens (fun r => decide (r.jti = jti ∧ r.revokedAt = none))
    fun r => { r with revokedAt := some s.now, replacedByJti := replacedByJti }

/-- The denylist write of `revokeRefreshJti` and `revokeAccessJti`, skipped when
nothing of the token's life remains. -/
def denyJti (r : Reply) (jti : Jti) (expUnixSeconds : ℕ) (s : Store) : Store :=
  let remaining := secondsUntilExpiry expUnixSeconds s.now
  if 0 < remaining then s.cacheSet r (.authDenylist jti) remaining else s

/-- `revokeRefreshJti`: denylist, marker, row. -/
def revokeRefreshJti (f : RevokeReplies) (userId : UserId) (jti : Jti) (expUnixSeconds : ℕ)
    (replacedByJti : Option Jti) (s : Store) : Store :=
  let s := denyJti f.denylist jti expUnixSeconds s
  let s := s.cacheDel f.marker (.authRefresh userId jti)
  markRevoked jti replacedByJti s

/-- `revokeAccessJti`. -/
def revokeAccessJti (r : Reply) (jti : Jti) (expUnixSeconds : ℕ) (s : Store) : Store :=
  denyJti r jti expUnixSeconds s

/-- The `where` of the `findMany` in `revokeAllSessions`. -/
def isLiveRow (userId : UserId) (now : Millis) (r : RefreshTokenRow) : Bool :=
  decide (r.userId = userId ∧ r.revokedAt = none ∧ now < r.expiresAt)

/-- The lifetime `revokeAllSessions` gives a denylist entry. -/
def denySeconds (r : RefreshTokenRow) (now : Millis) : ℕ := max 1 ((r.expiresAt - now) / 1000)

/-- The denylist write of `revokeAllSessions` for one live row. -/
def denyRow (r : Reply) (row : RefreshTokenRow) (s : Store) : Store :=
  s.cacheSet r (.authDenylist row.jti) (denySeconds row s.now)

/-- The denylist writes of `revokeAllSessions`, one for each live row. -/
def denyRows (denylist : Jti → Reply) : List RefreshTokenRow → Store → Store
  | [], s => s
  | row :: rows, s => denyRows denylist rows (denyRow (denylist row.jti) row s)

/-- The row update of `revokeAllSessions`. -/
def markAllRevoked (userId : UserId) (s : Store) : Store :=
  s.updateRefreshTokens (fun r => decide (r.userId = userId ∧ r.revokedAt = none))
    fun r => { r with revokedAt := some s.now }

/-- `revokeAllSessions`: the markers by scan, the live rows onto the denylist,
then every unrevoked row. -/
def revokeAllSessions (f : RevokeAllReplies) (userId : UserId) (s : Store) : Store :=
  let s := s.cacheDelByPattern f.scan userId
  let live := Table.findMany (isLiveRow userId s.now) s.refreshTokens
  let s := denyRows f.denylist live s
  markAllRevoked userId s

/-! ### Verifying -/

/-- `decode`: the signature, then the expiry. -/
def decode {P : Type} [DecidableEq P] (exp : P → ℕ) (signed : List P) (token : P) (now : Millis) :
    Except AppException P :=
  if token ∉ signed then .error (.unauthorized "Token is invalid" .invalidToken)
  else if exp token ≤ unixSeconds now then .error (.unauthorized "Token has expired" .tokenExpired)
  else .ok token

/-- `isKnownInDatabase`. -/
def isKnownInDatabase (userId : UserId) (jti : Jti) (s : Store) : Bool :=
  match Table.findUnique (fun r => decide (r.jti = jti)) s.refreshTokens with
  | none => false
  | some r => decide (r.userId = userId ∧ r.revokedAt = none ∧ s.now < r.expiresAt)

/-- `'Refresh token has already been used'`. -/
def reusedError : AppException :=
  .unauthorized "Refresh token has already been used" .refreshTokenReused

/-- `'Refresh token is no longer valid'`. -/
def noLongerValidError : AppException :=
  .unauthorized "Refresh token is no longer valid" .invalidToken

/-- `verifyRefreshToken`. -/
def verifyRefreshToken (f : VerifyReplies) (token : RefreshTokenPayload) (s : Store) :
    Except AppException RefreshTokenPayload × Store :=
  match decode RefreshTokenPayload.exp s.signedRefresh token s.now with
  | .error e => (.error e, s)
  | .ok payload =>
    if s.cacheExists f.denied (.authDenylist payload.jti) then
      (.error reusedError, revokeAllSessions f.revokeAll payload.sub s)
    else if !s.cacheExists f.active (.authRefresh payload.sub payload.jti) &&
        !isKnownInDatabase payload.sub payload.jti s then
      (.error noLongerValidError, s)
    else (.ok payload, s)

/-- `JwtStrategy`: signature and expiry, then `validate`, which looks at the
denylist (a `jti` is a UUID, so of the malformed payloads only an empty `sub` is
left). -/
def jwtStrategy (r : Reply) (token : AccessTokenPayload) (s : Store) :
    Except AppException AuthenticatedUser :=
  match decode AccessTokenPayload.exp s.signedAccess token s.now with
  | .error e => .error e
  | .ok payload =>
    if payload.sub = "" then .error (.unauthorized "Malformed access token" .invalidToken)
    else if s.cacheExists r (.authDenylist payload.jti) then
      .error (.unauthorized "Session has been revoked" .invalidToken)
    else .ok ⟨payload.sub, payload.email, payload.name, payload.role, payload.jti⟩

/-- `rotate`: mints a new pair, then consumes the old token. -/
def rotate (cfg : JwtConfig) (issue : Reply) (revoke : RevokeReplies) (user : TokenSubject)
    (oldPayload : RefreshTokenPayload) (s : Store) : IssuedTokens × Store :=
  let (issued, s) := issueTokens cfg issue user s
  (issued, revokeRefreshJti revoke oldPayload.sub oldPayload.jti oldPayload.exp
    (some issued.refreshToken.jti) s)

/-- `purgeExpiredRefreshTokens`. -/
def purgeExpiredRefreshTokens (s : Store) : Store :=
  { s with refreshTokens := Table.deleteMany (fun r => decide (r.expiresAt < s.now)) s.refreshTokens }

end Auth
end TopChoice
