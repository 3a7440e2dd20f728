/-
# Signing in

`auth.service.ts` of api-core, statement by statement: `register`, `validateCredentials`,
`validateGoogleUser`, `forgotPassword`, `resetPassword` and `changePassword`, with the edits of
`users.service.ts` that concern who may sign in (`adminUpdate`, `remove`).  Each request is a
thread; a statement sees what the others have written by then, and the writes of a transaction
come together at its commit.

Postgres refuses a write that breaks a unique constraint (`Directory.write`).  A request says
what it makes known (`Note`): who created an account and under which address, which password was
chosen for it, and which token was drawn for it and mailed where.  Nothing reads the notes.

Left out are the tokens of the sessions (`issueTokens`, `revokeAllSessions`), `lastLoginAt`, the
logs of the mailer, and the columns of `accounts` that nothing reads.
-/

import TopChoice.Auth.AuthService
import TopChoice.Auth.PasswordReset

namespace TopChoice
namespace Auth

open Threads

/-! ### Accounts -/

/-- A row of `users`. -/
structure UserRow extends User where
  passwordHash : Option String
  resetTokenHash : Option String := none
  resetTokenExpiresAt : Option Millis := none
  deriving DecidableEq, Repr

/-- A row of `accounts`, whose `provider` is always `google`. -/
structure LinkedAccount where
  userId : UserId
  providerAccountId : String
  deriving DecidableEq, Repr

/-- The keys of the tables, and the foreign key. -/
def Consistent (users : List UserRow) (accounts : List LinkedAccount) : Prop :=
  (users.map fun u => u.id).Nodup ∧ (users.map fun u => u.email).Nodup ∧
    (accounts.map LinkedAccount.providerAccountId).Nodup ∧
    ∀ a ∈ accounts, a.userId ∈ users.map fun u => u.id

instance (users : List UserRow) (accounts : List LinkedAccount) :
    Decidable (Consistent users accounts) := inferInstanceAs (Decidable (_ ∧ _))

/-- The tables `users` and `accounts`. -/
structure Directory where
  users : List UserRow
  accounts : List LinkedAccount
  consistent : Consistent users accounts

/-- What a request is refused with; `P2002` and `P2025` are errors of Prisma. -/
inductive Refusal where
  | emailAlreadyExists
  /-- `P2002`. -/
  | uniqueViolation
  /-- `P2025`. -/
  | recordNotFound
  | invalidCredentials
  | accountDisabled
  | passwordResetInvalid
  | userNotFound (id : UserId)
  | noPassword
  | wrongPassword
  | insufficientRole
  | ownRole
  | ownDeactivation
  | ownDeletion
  deriving DecidableEq, Repr

/-- The status, the code and the message of an `AppException`. -/
def Refusal.exception : Refusal → Option (ℕ × String × String)
  | .emailAlreadyExists =>
      some (409, "EMAIL_ALREADY_EXISTS", "An account with this email already exists")
  | .uniqueViolation | .recordNotFound => none
  | .invalidCredentials => some (401, "INVALID_CREDENTIALS", "Incorrect email or password")
  | .accountDisabled => some (403, "ACCOUNT_DISABLED", "This account has been disabled")
  | .passwordResetInvalid =>
      some (400, "PASSWORD_RESET_INVALID", "This reset link is invalid or has expired")
  | .userNotFound id => some (404, "USER_NOT_FOUND", "User \"" ++ id ++ "\" was not found")
  | .noPassword =>
      some (400, "INVALID_CREDENTIALS", "This account signs in with Google and has no password set")
  | .wrongPassword => some (401, "INVALID_CREDENTIALS", "Current password is incorrect")
  | .insufficientRole => some (403, "INSUFFICIENT_ROLE", "Only a superadmin can change user roles")
  | .ownRole => some (400, "BAD_REQUEST", "You cannot change your own role")
  | .ownDeactivation => some (400, "BAD_REQUEST", "You cannot deactivate your own account")
  | .ownDeletion => some (400, "BAD_REQUEST", "You cannot delete your own account")

namespace Directory

/-- No account yet. -/
def empty : Directory := ⟨[], [], by decide⟩

/-- The tables after a write, unless it breaks a constraint. -/
def write (users : List UserRow) (accounts : List LinkedAccount) : Except Refusal Directory :=
  if h : Consistent users accounts then .ok ⟨users, accounts, h⟩ else .error .uniqueViolation

variable (d : Directory)

/-- `user.findUnique({ where: { id } })`. -/
def findById (id : UserId) : Option UserRow := Table.findUnique (fun u => decide (u.id = id)) d.users

/-- `user.findUnique({ where: { email } })`. -/
def findByEmail (email : String) : Option UserRow :=
  Table.findUnique (fun u => decide (u.email = email)) d.users

/-- `user.findFirst({ where: { resetTokenHash, resetTokenExpiresAt: { gt: new Date() } } })`. -/
def findByToken (tokenHash : String) (now : Millis) : Option UserRow :=
  Table.findUnique (fun u => decide (u.resetTokenHash = some tokenHash) &&
    u.resetTokenExpiresAt.any fun expiresAt => decide (now < expiresAt)) d.users

/-- `account.findUnique({ where: { provider_providerAccountId }, include: { user: true } })`. -/
def findLinked (providerAccountId : String) : Option UserRow :=
  (Table.findUnique (fun a => decide (a.providerAccountId = providerAccountId)) d.accounts).bind
    fun a => d.findById a.userId

/-- `user.create`. -/
def create (row : UserRow) : Except Refusal Directory := write (Table.create row d.users) d.accounts

/-- `user.update({ where: { id }, data })`. -/
def update (id : UserId) (data : UserRow → UserRow) : Except Refusal Directory :=
  if (d.findById id).isNone then .error .recordNotFound
  else write (Table.updateOne (fun u => decide (u.id = id)) data d.users) d.accounts

/-- `account.deleteMany({ where: { userId } })`. -/
def unlink (id : UserId) : Except Refusal Directory :=
  write d.users (Table.deleteMany (fun a => decide (a.userId = id)) d.accounts)

end Directory

/-! ### Requests -/

/-- `RegisterDto`. -/
structure RegisterDto where
  name : String
  email : String
  password : String
  phone : Option String := none
  deriving DecidableEq, Repr

/-- `LoginDto`. -/
structure LoginDto where
  email : String
  password : String
  deriving DecidableEq, Repr

/-- `GoogleProfile`. -/
structure GoogleProfile where
  providerAccountId : String
  email : String
  name : String
  avatarUrl : Option String := none
  deriving DecidableEq, Repr

/-- What the service uses of its libraries: the digests, `argon2.verify`, and the hash that
`dummyHash` keeps. -/
structure SignInRuntime extends Hashing where
  verify : String → String → Bool
  dummyHash : String

/-- **What the digests promise**: a password verifies against its own hashes only, and no two
tokens have the same digest. -/
structure SignInRuntime.Lawful (rt : SignInRuntime) : Prop where
  verify_hash : ∀ password salt other,
    rt.verify (rt.argon2Hash password salt) other = true → other = password
  sha256_inj : ∀ token other, rt.sha256Hex token = rt.sha256Hex other → token = other

/-- What a step draws: the id of a new row, a salt and a token. -/
structure Drawn where
  uuid : UserId
  salt : String
  token : String
  deriving DecidableEq, Repr

/-- What a step makes known of an account. -/
inductive Note where
  /-- It was created under an address. -/
  | created (id : UserId) (address : String)
  /-- It was given another address. -/
  | renamed (id : UserId) (address : String)
  /-- A password was chosen for it. -/
  | chose (id : UserId) (password : String)
  /-- A token was drawn for it, to be mailed to an address. -/
  | drew (id : UserId) (token address : String)
  deriving DecidableEq, Repr

/-- Where a request stands: the statement it issues next, or how it ended. -/
inductive SignInPc where
  | register (dto : RegisterDto)
  | createUser (dto : RegisterDto)
  | login (dto : LoginDto)
  | google (profile : GoogleProfile)
  | findUser (profile : GoogleProfile)
  | link (profile : GoogleProfile) (existing : Option UserRow)
  | forgotPassword (email : String)
  | storeToken (user : UserRow) (token : String)
  | resetPassword (dto : ResetPasswordDto)
  | setPassword (id : UserId) (password : String)
  | changePassword (id : UserId) (currentPassword newPassword : String)
  | storePassword (id : UserId) (password : String)
  | adminUpdate (actorId : UserId) (actorRole : UserRole) (id : UserId) (dto : AdminUpdateUserDto)
  | applyUpdate (id : UserId) (dto : AdminUpdateUserDto)
  | remove (actorId id : UserId)
  | anonymise (id : UserId)
  | unlink (id : UserId)
  /-- `AuthResult`, of the row that was read. -/
  | signedIn (user : UserRow)
  | answered
  | failed (refusal : Refusal)
  deriving DecidableEq, Repr

/-! ### Steps -/

/-- The `data` of `user.create` in `register`. -/
def RegisterDto.row (dto : RegisterDto) (id : UserId) (passwordHash : String) : UserRow where
  id := id
  email := dto.email
  name := dto.name
  role := .user
  phone := dto.phone
  avatarUrl := none
  isVerified := false
  isActive := true
  locale := "en"
  passwordHash := some passwordHash

/-- The `data` of `user.create` in `validateGoogleUser`. -/
def GoogleProfile.row (profile : GoogleProfile) (id : UserId) : UserRow where
  id := id
  email := profile.email
  name := profile.name
  role := .user
  phone := none
  avatarUrl := profile.avatarUrl
  isVerified := true
  isActive := true
  locale := "en"
  passwordHash := none

/-- The address of a removed account. -/
def deletedEmail (id : UserId) : String := "deleted+" ++ id ++ "@topchoice.invalid"

/-- The `data` of the update in `remove`. -/
def UserRow.anonymised (u : UserRow) : UserRow :=
  { u with
    isActive := false
    email := deletedEmail u.id
    name := "Deleted user"
    phone := none
    avatarUrl := none
    passwordHash := none
    resetTokenHash := none
    resetTokenExpiresAt := none }

/-- `validateCredentials`, of the row that was found: a hash is verified even if there is none. -/
def checkCredentials (rt : SignInRuntime) (user : Option UserRow) (password : String) :
    Except Refusal UserRow :=
  let hash := (user.bind UserRow.passwordHash).getD rt.dummyHash
  let matched := rt.verify hash password
  match user with
  | none => .error .invalidCredentials
  | some user =>
      if user.passwordHash.isNone || !matched then .error .invalidCredentials
      else if !user.isActive then .error .accountDisabled
      else .ok user

/-- The checks of `changePassword`, of the row that was found. -/
def checkCurrent (rt : SignInRuntime) (id : UserId) (user : Option UserRow) (password : String) :
    Except Refusal Unit :=
  match user with
  | none => .error (.userNotFound id)
  | some user =>
      match user.passwordHash with
      | none => .error .noPassword
      | some hash => if rt.verify hash password then .ok () else .error .wrongPassword

/-- The checks of `adminUpdate`, of the row that was found. -/
def checkAdmin (actorId : UserId) (actorRole : UserRole) (id : UserId) (dto : AdminUpdateUserDto)
    (target : Option UserRow) : Except Refusal Unit :=
  match target with
  | none => .error (.userNotFound id)
  | some target =>
      if dto.changesRole target.toUser && decide (actorRole ≠ .superadmin) then
        .error .insufficientRole
      else if dto.changesRole target.toUser && decide (actorId = id) then .error .ownRole
      else if decide (dto.isActive = some false) && decide (actorId = id) then
        .error .ownDeactivation
      else .ok ()

/-- A session begins, unless the account is disabled. -/
def begin (user : UserRow) : SignInPc :=
  if user.isActive then .signedIn user else .failed .accountDisabled

/-- The transaction of `validateGoogleUser` at its commit, with the row it has found: the tables
and the row it returns. -/
def Directory.link (d : Directory) (id : UserId) (profile : GoogleProfile)
    (existing : Option UserRow) : Except Refusal (Directory × UserRow) :=
  match existing with
  | none =>
      let row := profile.row id
      (write (Table.create row d.users)
        (Table.create ⟨id, profile.providerAccountId⟩ d.accounts)).map (·, row)
  | some user =>
      let accounts := Table.create ⟨user.id, profile.providerAccountId⟩ d.accounts
      if user.isVerified then (write d.users accounts).map (·, user)
      else
        match d.findById user.id with
        | none => .error .recordNotFound
        | some current =>
            let verified (u : UserRow) : UserRow := { u with isVerified := true }
            (write (Table.updateOne (fun u => decide (u.id = user.id)) verified d.users)
              accounts).map (·, verified current)

/-- What a step leads to: the tables, what it makes known, and where the request stands. -/
abbrev Outcome := Directory × List Note × SignInPc

/-- The outcome of a write, or that it was refused. -/
def afterWrite (d : Directory) (written : Except Refusal Directory) (notes : List Note)
    (next : SignInPc) : Outcome :=
  match written with
  | .ok d' => (d', notes, next)
  | .error refusal => (d, [], .failed refusal)

/-- The outcome of a check, or that it was refused. -/
def afterCheck (d : Directory) (check : Except Refusal Unit) (next : SignInPc) : Outcome :=
  match check with
  | .ok () => (d, [], next)
  | .error refusal => (d, [], .failed refusal)

/-- One step of a request. -/
def SignInPc.next (rt : SignInRuntime) (d : Directory) (now : Millis) (c : Drawn) :
    SignInPc → Option Outcome
  -- `register`
  | .register dto => some (d, [], match d.findByEmail dto.email with
      | some _ => .failed .emailAlreadyExists
      | none => .createUser dto)
  | .createUser dto =>
      let row := dto.row c.uuid (rt.argon2Hash dto.password c.salt)
      some (afterWrite d (d.create row) [.created c.uuid dto.email, .chose c.uuid dto.password]
        (.signedIn row))
  -- `validateCredentials` and `login`
  | .login dto => some (d, [], match checkCredentials rt (d.findByEmail dto.email) dto.password with
      | .ok user => .signedIn user
      | .error refusal => .failed refusal)
  -- `validateGoogleUser`
  | .google profile => some (d, [], match d.findLinked profile.providerAccountId with
      | some user => begin user
      | none => .findUser profile)
  | .findUser profile => some (d, [], .link profile (d.findByEmail profile.email))
  | .link profile existing => some (match d.link c.uuid profile existing with
      | .ok (d', user) =>
          (d', if existing.isNone then [.created c.uuid profile.email] else [], begin user)
      | .error refusal => (d, [], .failed refusal))
  -- `forgotPassword`
  | .forgotPassword email => some (match d.findByEmail email with
      | none => (d, [], .answered)
      | some user =>
          if !user.isActive then (d, [], .answered)
          else (d, [.drew user.id c.token user.email], .storeToken user c.token))
  | .storeToken user token =>
      let data (u : UserRow) : UserRow :=
        { u with resetTokenHash := some (rt.sha256Hex token)
                 resetTokenExpiresAt := some (secondsFromNow (60 * 60) now) }
      some (afterWrite d (d.update user.id data) [] .answered)
  -- `resetPassword`
  | .resetPassword dto => some (d, [], match d.findByToken (rt.sha256Hex dto.token) now with
      | some user => .setPassword user.id dto.password
      | none => .failed .passwordResetInvalid)
  | .setPassword id password =>
      let data (u : UserRow) : UserRow :=
        { u with passwordHash := some (rt.argon2Hash password c.salt)
                 resetTokenHash := none
                 resetTokenExpiresAt := none }
      some (afterWrite d (d.update id data) [.chose id password] .answered)
  -- `changePassword`
  | .changePassword id currentPassword newPassword =>
      some (afterCheck d (checkCurrent rt id (d.findById id) currentPassword)
        (.storePassword id newPassword))
  | .storePassword id password =>
      let data (u : UserRow) : UserRow :=
        { u with passwordHash := some (rt.argon2Hash password c.salt) }
      some (afterWrite d (d.update id data) [.chose id password] .answered)
  -- `adminUpdate`
  | .adminUpdate actorId actorRole id dto =>
      some (afterCheck d (checkAdmin actorId actorRole id dto (d.findById id)) (.applyUpdate id dto))
  | .applyUpdate id dto =>
      let data (u : UserRow) : UserRow := { u with toUser := dto.apply u.toUser }
      some (afterWrite d (d.update id data) [] .answered)
  -- `remove`
  | .remove actorId id =>
      some (afterCheck d
        (if id = actorId then .error .ownDeletion
          else if (d.findById id).isNone then .error (.userNotFound id) else .ok ())
        (.anonymise id))
  | .anonymise id =>
      some (afterWrite d (d.update id .anonymised) [.renamed id (deletedEmail id)] (.unlink id))
  | .unlink id => some (afterWrite d (d.unlink id) [] .answered)
  | .signedIn _ | .answered | .failed _ => none

/-- A request that has issued no statement yet. -/
def SignInPc.isStart : SignInPc → Bool
  | .register _ | .login _ | .google _ | .forgotPassword _ | .resetPassword _
  | .changePassword .. | .adminUpdate .. | .remove .. => true
  | _ => false

/-! ### Parties -/

section Parties

variable {P ι : Type} [DecidableEq ι]

/-- A request, and the party that makes it. -/
structure Visit (P : Type) where
  party : P
  pc : SignInPc
  deriving DecidableEq

/-- The tables, the clock, and what has become known, with whose request made it so. -/
structure SignInState (P : Type) where
  directory : Directory
  now : Millis
  known : List (P × Note)

/-- A step of the request of a party. -/
def Visit.next (rt : SignInRuntime) (s : SignInState P) (v : Visit P) (c : Drawn) :
    Option (SignInState P × Visit P) :=
  (v.pc.next rt s.directory s.now c).map fun (d, notes, pc) =>
    ({ s with directory := d, known := s.known ++ notes.map (v.party, ·) }, { v with pc := pc })

/-- Every interleaving of the requests, the clock advancing in between. -/
def signingIn (rt : SignInRuntime) (P ι : Type) [DecidableEq ι] :
    Machine (Sys (SignInState P) ι (Visit P)) (Action ι Drawn Millis) :=
  Threads.machine (Visit.next rt) fun s elapsed => { s with now := s.now + elapsed }

end Parties

end Auth
end TopChoice
