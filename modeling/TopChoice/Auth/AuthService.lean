/-
# Sessions as callers see them

`auth.service.ts` (`refresh`, `logout`) and `users.service.ts` (`adminUpdate`)
of api-core, and the machine whose steps are whole calls: nothing overlaps, the
clock advances between calls, and each call carries the outcomes of the Redis
commands it sends.
-/

import TopChoice.Auth.TokenService
import TopChoice.Lib.Machine

namespace TopChoice
namespace Auth

/-- `PublicUser`. -/
structure PublicUser where
  id : UserId
  email : String
  name : String
  role : UserRole
  phone : Option String
  avatarUrl : Option String
  isVerified : Bool
  locale : String
  deriving DecidableEq, Repr

/-- `toPublicUser`. -/
def toPublicUser (u : User) : PublicUser :=
  ⟨u.id, u.email, u.name, u.role, u.phone, u.avatarUrl, u.isVerified, u.locale⟩

/-- `toSubject`. -/
def toSubject (u : User) : TokenSubject := ⟨u.id, u.email, u.name, u.role⟩

/-- `AuthResult`. -/
structure AuthResult where
  user : PublicUser
  tokens : IssuedTokens
  deriving DecidableEq, Repr

/-- The Redis outcomes of one `refresh`. -/
structure RefreshReplies where
  verify : VerifyReplies
  issue : Reply
  revoke : RevokeReplies

/-- Every Redis command of a `refresh` succeeds. -/
def RefreshReplies.healthy : RefreshReplies := ⟨.healthy, .ok, .healthy⟩

/-- The Redis outcomes of one `logout`, its guard's included. -/
structure LogoutReplies where
  guard : Reply
  verify : VerifyReplies
  revoke : RevokeReplies
  access : Reply

/-- Every Redis command of a `logout` succeeds. -/
def LogoutReplies.healthy : LogoutReplies := ⟨.ok, .healthy, .healthy, .ok⟩

/-- `refresh` after the token is verified: the account, then the rotation. -/
def refreshVerified (cfg : JwtConfig) (f : RefreshReplies) (payload : RefreshTokenPayload)
    (s : Store) : Except AppException AuthResult × Store :=
  match s.findUser payload.sub with
  | none => (.error (.unauthorized "Session no longer exists" .invalidToken), s)
  | some user =>
    if !user.isActive then
      (.error (.forbidden "This account has been disabled" .accountDisabled), s)
    else
      let (tokens, s) := rotate cfg f.issue f.revoke (toSubject user) payload s
      (.ok ⟨toPublicUser user, tokens⟩, s)

/-- `AuthService.refresh`. -/
def refresh (cfg : JwtConfig) (f : RefreshReplies) (token : RefreshTokenPayload) (s : Store) :
    Except AppException AuthResult × Store :=
  match verifyRefreshToken f.verify token s with
  | (.error e, s) => (.error e, s)
  | (.ok payload, s) => refreshVerified cfg f payload s

/-- The refresh-token half of `AuthService.logout`: a token that does not verify
is passed over. -/
def logoutRefresh (f : LogoutReplies) (token : RefreshTokenPayload) (s : Store) : Store :=
  match verifyRefreshToken f.verify token s with
  | (.error _, s) => s
  | (.ok payload, s) => revokeRefreshJti f.revoke payload.sub payload.jti payload.exp none s

/-- The access-token half of `AuthService.logout`. -/
def logoutAccess (cfg : JwtConfig) (f : LogoutReplies) (principal : Option AuthenticatedUser)
    (s : Store) : Store :=
  match principal with
  | none => s
  | some p => revokeAccessJti f.access p.jti (unixSeconds s.now + cfg.accessTtlSeconds) s

/-- `AuthService.logout`. -/
def logout (cfg : JwtConfig) (f : LogoutReplies) (principal : Option AuthenticatedUser)
    (token : Option RefreshTokenPayload) (s : Store) : Store :=
  let s := match token with
    | none => s
    | some t => logoutRefresh f t s
  logoutAccess cfg f principal s

/-- `AdminUpdateUserDto`. -/
structure AdminUpdateUserDto where
  name : Option String
  phone : Option String
  avatarUrl : Option String
  locale : Option String
  role : Option UserRole
  isActive : Option Bool
  isVerified : Option Bool
  deriving DecidableEq, Repr

/-- The `data` of the update in `adminUpdate`. -/
def AdminUpdateUserDto.apply (dto : AdminUpdateUserDto) (u : User) : User :=
  { u with
    name := dto.name.getD u.name
    phone := dto.phone.orElse fun _ => u.phone
    avatarUrl := dto.avatarUrl.orElse fun _ => u.avatarUrl
    locale := dto.locale.getD u.locale
    role := dto.role.getD u.role
    isActive := dto.isActive.getD u.isActive
    isVerified := dto.isVerified.getD u.isVerified }

/-- The role is supplied and differs from the stored one. -/
def AdminUpdateUserDto.changesRole (dto : AdminUpdateUserDto) (target : User) : Bool :=
  match dto.role with
  | none => false
  | some role => decide (role ≠ target.role)

/-- The `revoke` of `adminUpdate`. -/
def AdminUpdateUserDto.revokes (dto : AdminUpdateUserDto) (target : User) : Bool :=
  dto.changesRole target || decide (dto.isActive = some false)

/-- The `prisma.user.update` of `adminUpdate`. -/
def updateUser (id : UserId) (dto : AdminUpdateUserDto) (s : Store) : Store :=
  { s with users := Table.updateMany (fun u => decide (u.id = id)) dto.apply s.users }

/-- `UsersService.adminUpdate`, with the Redis outcomes of the revocation. -/
def adminUpdate (f : RevokeAllReplies) (id : UserId) (dto : AdminUpdateUserDto)
    (actorId : UserId) (actorRole : UserRole) (s : Store) : Except AppException User × Store :=
  match s.findUser id with
  | none => (.error (.notFound ("User \"" ++ id ++ "\" was not found") .userNotFound), s)
  | some target =>
    if dto.changesRole target && decide (actorRole ≠ .superadmin) then
      (.error (.forbidden "Only a superadmin can change user roles" .insufficientRole), s)
    else if dto.changesRole target && decide (actorId = id) then
      (.error (.badRequest "You cannot change your own role" .badRequest), s)
    else if decide (dto.isActive = some false) && decide (actorId = id) then
      (.error (.badRequest "You cannot deactivate your own account" .badRequest), s)
    else
      let s := updateUser id dto s
      let s := if dto.revokes target then revokeAllSessions f id s else s
      (.ok (dto.apply target), s)

/-! ### Calls that do not overlap -/

/-- A whole call, with the outcomes of its Redis commands, or time passing. -/
inductive Call where
  /-- The clock advances. -/
  | tick (d : Millis)
  /-- A login: `issueTokens`. -/
  | issueTokens (r : Reply) (user : TokenSubject)
  /-- `POST /auth/refresh`. -/
  | refresh (f : RefreshReplies) (token : RefreshTokenPayload)
  /-- `POST /auth/logout`: the bearer token and the refresh cookie. -/
  | logout (f : LogoutReplies) (access : Option AccessTokenPayload)
      (token : Option RefreshTokenPayload)
  /-- A password reset or change. -/
  | revokeAllSessions (f : RevokeAllReplies) (userId : UserId)
  /-- The nightly sweep. -/
  | purgeExpiredRefreshTokens
  /-- `PATCH /admin/users/{id}`. -/
  | adminUpdate (f : RevokeAllReplies) (id : UserId) (dto : AdminUpdateUserDto)
      (actorId : UserId) (actorRole : UserRole)

/-- `POST /auth/logout` behind its guard: the bearer token must authenticate. -/
def logoutRequest (cfg : JwtConfig) (f : LogoutReplies) (access : Option AccessTokenPayload)
    (token : Option RefreshTokenPayload) (s : Store) : Store :=
  match access with
  | none => logout cfg f none token s
  | some a =>
    match jwtStrategy f.guard a s with
    | .error _ => s
    | .ok p => logout cfg f (some p) token s

/-- The store a call leaves behind. -/
def runCall (cfg : JwtConfig) (s : Store) : Call → Store
  | .tick d => s.tick d
  | .issueTokens r user => (issueTokens cfg r user s).2
  | .refresh f token => (refresh cfg f token s).2
  | .logout f access token => logoutRequest cfg f access token s
  | .revokeAllSessions f userId => revokeAllSessions f userId s
  | .purgeExpiredRefreshTokens => purgeExpiredRefreshTokens s
  | .adminUpdate f id dto actorId actorRole => (adminUpdate f id dto actorId actorRole s).2

/-- Every Redis command of the call succeeds. -/
def Call.Healthy : Call → Prop
  | .tick _ => True
  | .issueTokens r _ => r = .ok
  | .refresh f _ => f = .healthy
  | .logout f _ _ => f = .healthy
  | .revokeAllSessions f _ => f = .healthy
  | .purgeExpiredRefreshTokens => True
  | .adminUpdate f .. => f = .healthy

/-- The machine of non-overlapping calls. -/
def calls (cfg : JwtConfig) : Machine Store Call where
  step s c := some (runCall cfg s c)

/-- The demo agent has just logged in. -/
def demoLogin : Store := (issueTokens .default .ok (toSubject demoAgent) (.fresh [demoAgent] 0)).2

/-- The refresh token of that login. -/
def demoToken : RefreshTokenPayload :=
  refreshPayload .default (toSubject demoAgent) (.fresh [demoAgent] 0)

/-- The access token of that login. -/
def demoAccessToken : AccessTokenPayload :=
  accessPayload .default (toSubject demoAgent) (.fresh [demoAgent] 0)

end Auth
end TopChoice
