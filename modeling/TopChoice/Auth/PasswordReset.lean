/-
# Resetting a password with a token from the mail

`AuthService.resetPassword`, statement by statement: the account that holds the
token is looked up, the new password is hashed, the account gets the hash and
loses the token, and its sessions are revoked.  The account is written by its
id, whatever has become of the token since the lookup.

A request that writes only while the account still holds the token takes the
token away with the write, so no second request can
(`reset_token_single_use`); two requests between lookup and write both change
the password (`both_resets_change_password`).
-/

import TopChoice.Auth.Interleaving

namespace TopChoice
namespace Auth

open Threads

/-! ### The accounts -/

/-- The columns of `users` that concern the password. -/
structure Credentials where
  userId : UserId
  passwordHash : Option String
  resetTokenHash : Option String
  resetTokenExpiresAt : Option Millis
  deriving DecidableEq, Repr

/-- Two accounts have different ids and hold no reset token in common:
`forgotPassword` draws each token at random. -/
def Credentials.Apart (a b : Credentials) : Prop :=
  a.userId ≠ b.userId ∧ ∀ h ∈ a.resetTokenHash, h ∉ b.resetTokenHash

instance (a b : Credentials) : Decidable (a.Apart b) := inferInstanceAs (Decidable (_ ∧ _))

/-- The accounts. -/
structure Accounts where
  rows : List Credentials
  apart : rows.Pairwise Credentials.Apart

/-- What a reset reads and writes: the accounts and the stores of the sessions. -/
structure ResetStore where
  accounts : Accounts
  sessions : Store

theorem Credentials.Apart.symm {a b : Credentials} (h : a.Apart b) : b.Apart a :=
  ⟨fun he => h.1 he.symm, fun t hb ha => h.2 t ha hb⟩

/-- The `data` of the update in `resetPassword`. -/
def Credentials.reset (passwordHash : String) (c : Credentials) : Credentials :=
  { c with passwordHash := some passwordHash, resetTokenHash := none, resetTokenExpiresAt := none }

namespace Accounts

/-- `prisma.user.findFirst({ where: { resetTokenHash, resetTokenExpiresAt: { gt: now } } })`. -/
def findByToken (tokenHash : String) (now : Millis) (a : Accounts) : Option Credentials :=
  Table.findUnique (fun c => decide (c.resetTokenHash = some tokenHash) &&
    c.resetTokenExpiresAt.any fun expiresAt => decide (now < expiresAt)) a.rows

/-- `prisma.user.findUnique({ where: { id } })`. -/
def find (userId : UserId) (a : Accounts) : Option Credentials :=
  Table.findUnique (fun c => decide (c.userId = userId)) a.rows

/-- `prisma.user.update({ where: { id }, data })` of `resetPassword`. -/
def reset (userId : UserId) (passwordHash : String) (a : Accounts) : Accounts where
  rows := Table.updateOne (fun c => decide (c.userId = userId)) (.reset passwordHash) a.rows
  apart := by
    refine Table.pairwise_updateOne (fun _ _ => Credentials.Apart.symm) a.apart
      fun c _ x _ h => ⟨h.1, fun t ht => ?_⟩
    cases ht

/-- No account holds the token. -/
def Spent (tokenHash : String) (a : Accounts) : Prop :=
  ∀ c ∈ a.rows, c.resetTokenHash ≠ some tokenHash

/-- A token that is spent stays so. -/
theorem Spent.reset {tokenHash : String} {a : Accounts} (h : a.Spent tokenHash) (userId : UserId)
    (passwordHash : String) : (a.reset userId passwordHash).Spent tokenHash := by
  intro c hc
  rcases Table.mem_updateOne hc with ⟨c₀, _, rfl⟩ | hmem
  · exact Option.some_ne_none _ ∘ Eq.symm
  · exact h c hmem

/-- **The reset of the account that holds a token spends it.** -/
theorem spent_reset {tokenHash : String} {a : Accounts} {userId : UserId} {c : Credentials}
    (hc : a.find userId = some c) (ht : c.resetTokenHash = some tokenHash)
    (passwordHash : String) : (a.reset userId passwordHash).Spent tokenHash := by
  intro x hx
  rcases Table.mem_updateOne_of_pairwise (fun _ _ => Credentials.Apart.symm) a.apart hc hx with
    rfl | ⟨-, hapart⟩
  · exact Option.some_ne_none _ ∘ Eq.symm
  · exact hapart.2 tokenHash ht

end Accounts

/-! ### `resetPassword`, statement by statement -/

/-- `ResetPasswordDto`. -/
structure ResetPasswordDto where
  token : String
  password : String
  deriving DecidableEq, Repr

/-- `sha256Hex`, and `argon2.hash` with the salt it draws. -/
structure Hashing where
  sha256Hex : String → String
  argon2Hash : String → String → String

/-- What a step of a reset leaves open: the salt, and the answer of a `SCAN`. -/
structure ResetChoice where
  salt : String
  scan : ScanReply
  deriving DecidableEq, Repr

/-- Where a `resetPassword` stands. -/
inductive ResetPc where
  | findFirst (dto : ResetPasswordDto)
  | hash (dto : ResetPasswordDto) (userId : UserId)
  | update (dto : ResetPasswordDto) (userId : UserId) (passwordHash : String)
  | revokeAll (dto : ResetPasswordDto) (userId : UserId) (p : RevokePc)
  | returned (dto : ResetPasswordDto)
  | failed (error : AppException)
  deriving DecidableEq, Repr

/-- `'This reset link is invalid or has expired'`. -/
def resetInvalidError : AppException :=
  .badRequest "This reset link is invalid or has expired" .passwordResetInvalid

/-- What Prisma throws at the update of a row that is gone. -/
def recordNotFoundError : AppException := .notFound "Record to update not found" .databaseError

/-- One step of `resetPassword`. -/
def ResetPc.next (hashing : Hashing) (cfg : JwtConfig) (s : ResetStore) :
    ResetPc → ResetChoice → Option (ResetStore × ResetPc)
  | .findFirst dto, _ =>
      match s.accounts.findByToken (hashing.sha256Hex dto.token) s.sessions.now with
      | none => some (s, .failed resetInvalidError)
      | some user => some (s, .hash dto user.userId)
  | .hash dto userId, c => some (s, .update dto userId (hashing.argon2Hash dto.password c.salt))
  | .update dto userId passwordHash, _ =>
      match s.accounts.find userId with
      | none => some (s, .failed recordNotFoundError)
      | some _ => some ({ s with accounts := s.accounts.reset userId passwordHash },
          .revokeAll dto userId .start)
  | .revokeAll dto _ .done, _ => some (s, .returned dto)
  | .revokeAll dto userId p, c => (p.next userId s.sessions c.scan).map fun m =>
      ({ s with sessions := m.1.exec cfg s.sessions }, .revokeAll dto userId m.2)
  | .returned _, _ => none
  | .failed _, _ => none

/-- The request is still to issue its first statement. -/
def ResetPc.isStart : ResetPc → Bool
  | .findFirst _ => true
  | _ => false

/-- The request has changed the password of an account, with this token. -/
def ResetPc.hasChanged (token : String) : ResetPc → Bool
  | .revokeAll dto _ _ => decide (dto.token = token)
  | .returned dto => decide (dto.token = token)
  | _ => false

/-- Every interleaving of the resets, the clock advancing in between. -/
def resetting (hashing : Hashing) (cfg : JwtConfig) (ι : Type) [DecidableEq ι] :
    Machine (Sys ResetStore ι ResetPc) (Action ι ResetChoice Millis) :=
  Threads.machine (ResetPc.next hashing cfg) fun s d => { s with sessions := s.sessions.tick d }

/-- A request about to write finds the account still holding its token. -/
def ResetPc.StillHeld (hashing : Hashing) (s : ResetStore) : ResetPc → Prop
  | .update dto userId _ =>
      ∀ c ∈ s.accounts.find userId, c.resetTokenHash = some (hashing.sha256Hex dto.token)
  | _ => True

instance (hashing : Hashing) (s : ResetStore) : ∀ p : ResetPc, Decidable (p.StillHeld hashing s)
  | .update _ userId _ => inferInstanceAs (Decidable (∀ c ∈ s.accounts.find userId, _))
  | .findFirst _ => isTrue trivial
  | .hash _ _ => isTrue trivial
  | .revokeAll _ _ _ => isTrue trivial
  | .returned _ => isTrue trivial
  | .failed _ => isTrue trivial

/-! ### One step -/

section Step

variable {hashing : Hashing} {cfg : JwtConfig} {s s' : ResetStore} {p p' : ResetPc}
  {c : ResetChoice}

/-- **What a step of a reset does.**  It leaves the accounts alone and has changed
a password with no other token than before, or it is the write: the account is
found and reset. -/
theorem ResetPc.next_spec (h : p.next hashing cfg s c = some (s', p')) :
    (s'.accounts = s.accounts ∧ ∀ token, p'.hasChanged token = p.hasChanged token) ∨
      ∃ dto userId passwordHash user, p = .update dto userId passwordHash ∧
        s.accounts.find userId = some user ∧
        s'.accounts = s.accounts.reset userId passwordHash ∧
        p' = .revokeAll dto userId .start := by
  cases p with
  | findFirst dto =>
      simp only [ResetPc.next] at h
      split at h <;> obtain ⟨rfl, rfl⟩ := Prod.mk.inj (Option.some.inj h)
      · exact Or.inl ⟨rfl, fun _ => rfl⟩
      · exact Or.inl ⟨rfl, fun _ => rfl⟩
  | hash dto userId =>
      obtain ⟨rfl, rfl⟩ := Prod.mk.inj (Option.some.inj h)
      exact Or.inl ⟨rfl, fun _ => rfl⟩
  | update dto userId passwordHash =>
      simp only [ResetPc.next] at h
      split at h <;> obtain ⟨rfl, rfl⟩ := Prod.mk.inj (Option.some.inj h)
      · exact Or.inl ⟨rfl, fun _ => rfl⟩
      · next user huser => exact Or.inr ⟨dto, userId, passwordHash, user, rfl, huser, rfl, rfl⟩
  | revokeAll dto userId r =>
      by_cases hr : r = .done
      · subst hr
        obtain ⟨rfl, rfl⟩ := Prod.mk.inj (Option.some.inj h)
        exact Or.inl ⟨rfl, fun _ => rfl⟩
      · have hnext : (r.next userId s.sessions c.scan).map (fun m =>
            (({ s with sessions := m.1.exec cfg s.sessions } : ResetStore),
              ResetPc.revokeAll dto userId m.2)) = some (s', p') := by
          cases r <;> first | exact absurd rfl hr | exact h
        obtain ⟨m, -, hm⟩ := Option.map_eq_some_iff.1 hnext
        obtain ⟨rfl, rfl⟩ := Prod.mk.inj hm
        exact Or.inl ⟨rfl, fun _ => rfl⟩
  | returned dto => cases h
  | failed error => cases h

end Step

/-! ### Whole runs -/

section Run

variable {ι : Type} [DecidableEq ι] (hashing : Hashing) (cfg : JwtConfig)

/-- The request that acts writes only while the account holds its token. -/
def StillHeld (S : Sys ResetStore ι ResetPc) : Action ι ResetChoice Millis → Prop
  | .act i _ => (S.pc i).StillHeld hashing S.shared
  | .env _ => True

instance (S : Sys ResetStore ι ResetPc) : ∀ a, Decidable (StillHeld hashing S a)
  | .act i _ => inferInstanceAs (Decidable ((S.pc i).StillHeld hashing S.shared))
  | .env _ => isTrue trivial

/-- A token a password was changed with is spent, and it was one request. -/
structure UsedOnce (S : Sys ResetStore ι ResetPc) : Prop where
  spent : ∀ i token, (S.pc i).hasChanged token = true →
    S.shared.accounts.Spent (hashing.sha256Hex token)
  once : ∀ i j token, (S.pc i).hasChanged token = true → (S.pc j).hasChanged token = true → i = j

variable {hashing cfg}

/-- A spent token is not held. -/
theorem Accounts.Spent.ne {tokenHash : String} {a : Accounts} (h : a.Spent tokenHash)
    {userId : UserId} {c : Credentials} (hc : a.find userId = some c) :
    c.resetTokenHash ≠ some tokenHash := h c (Table.findUnique_some hc).1

/-- The step rule: a write of an account that holds the token. -/
theorem UsedOnce.step {S T : Sys ResetStore ι ResetPc} {a : Action ι ResetChoice Millis}
    (hS : UsedOnce hashing S) (hC : StillHeld hashing S a)
    (hT : (resetting hashing cfg ι).step S a = some T) : UsedOnce hashing T := by
  cases a with
  | env d =>
      obtain rfl := step_env.1 hT
      exact ⟨hS.spent, hS.once⟩
  | act i c =>
      obtain ⟨s', p', hn, rfl⟩ := step_act.1 hT
      rcases ResetPc.next_spec hn with ⟨haccounts, hsame⟩ |
        ⟨dto, userId, passwordHash, user, hp, huser, haccounts, rfl⟩
      · -- no password is changed: every request has changed what it had
        have hpc : ∀ j token, (Function.update S.pc i p' j).hasChanged token =
            (S.pc j).hasChanged token := fun j token => by
          by_cases hj : j = i
          · subst hj
            rw [Function.update_self, hsame]
          · rw [Function.update_of_ne hj]
        constructor
        · intro j token hj
          simp only [hpc, haccounts] at hj ⊢
          exact hS.spent j token hj
        · intro j k token hj hk
          simp only [hpc] at hj hk
          exact hS.once j k token hj hk
      · have hheld : user.resetTokenHash = some (hashing.sha256Hex dto.token) := by
          simp only [StillHeld, hp, ResetPc.StillHeld] at hC
          exact hC user huser
        -- the requests that had changed a password had other tokens
        have hother : ∀ j, j ≠ i → ∀ token, (S.pc j).hasChanged token = true →
            token ≠ dto.token := by
          rintro j - token hj rfl
          exact (hS.spent j _ hj).ne huser hheld
        have hmoved : ∀ j token, (Function.update S.pc i (.revokeAll dto userId .start)
            j).hasChanged token = true → (j = i ∧ token = dto.token) ∨
              (j ≠ i ∧ (S.pc j).hasChanged token = true) := by
          intro j token hj
          by_cases hji : j = i
          · subst hji
            rw [Function.update_self] at hj
            exact Or.inl ⟨rfl, (of_decide_eq_true hj).symm⟩
          · rw [Function.update_of_ne hji] at hj
            exact Or.inr ⟨hji, hj⟩
        constructor
        · intro j token hj
          simp only [haccounts]
          rcases hmoved j token hj with ⟨-, rfl⟩ | ⟨-, hold⟩
          · exact Accounts.spent_reset huser hheld passwordHash
          · exact (hS.spent j token hold).reset userId passwordHash
        · intro j k token hj hk
          rcases hmoved j token hj with ⟨rfl, hjt⟩ | ⟨hji, hjold⟩ <;>
            rcases hmoved k token hk with ⟨rfl, hkt⟩ | ⟨hki, hkold⟩
          · rfl
          · exact absurd hjt (hother k hki token hkold)
          · exact absurd hkt (hother j hji token hjold)
          · exact hS.once j k token hjold hkold

/-- **A reset token works at most once,** in every order of the statements of any
number of resets that write only while the account holds their token. -/
theorem reset_token_single_use (S T : Sys ResetStore ι ResetPc)
    (as : List (Action ι ResetChoice Millis)) (hstart : ∀ i, (S.pc i).isStart = true)
    (hC : (resetting hashing cfg ι).Meets (StillHeld hashing) S as)
    (hrun : (resetting hashing cfg ι).run S as = some T) (token : String) (i j : ι)
    (hi : (T.pc i).hasChanged token = true) (hj : (T.pc j).hasChanged token = true) : i = j := by
  have hS : ∀ i token, (S.pc i).hasChanged token = false := by
    intro i token
    have := hstart i
    generalize S.pc i = p at this
    cases p <;> first | rfl | cases this
  have hT : UsedOnce hashing T := Machine.run_invariant (I := UsedOnce hashing)
    (fun _ _ _ h hC hT => h.step hC hT) as
    ⟨fun i token h => absurd ((hS i token).symm.trans h) Bool.false_ne_true,
      fun i _ token h _ => absurd ((hS i token).symm.trans h) Bool.false_ne_true⟩ hC hrun
  exact hT.once i j token hi hj

end Run

/-! ### Two resets -/

/-- Hashes that show what they are of. -/
def demoHashing : Hashing := ⟨fun value => "sha256 " ++ value, fun password salt => salt ++ password⟩

/-- The demo agent has asked for a reset link. -/
def demoResetStore : ResetStore where
  accounts := ⟨[⟨demoAgent.id, some "old", some "sha256 t0ken", some 3600000⟩], by decide⟩
  sessions := .fresh [demoAgent] 0

/-- Two requests present the token of the link. -/
def demoResets : Sys ResetStore Bool ResetPc :=
  ⟨demoResetStore, fun second =>
    .findFirst ⟨"t0ken", if second then "NewPassword2" else "NewPassword1"⟩⟩

/-- The salts drawn, and a scan that finds no marker. -/
def demoResetChoice : ResetChoice := ⟨"salt", ⟨[], true⟩⟩

/-- The first request runs to its write before the second looks the token up. -/
theorem reset_token_single_use_demo :
    ∃ T, (resetting demoHashing .default Bool).run demoResets
        [.act false demoResetChoice, .act false demoResetChoice, .act false demoResetChoice,
          .act true demoResetChoice, .act false demoResetChoice] = some T ∧
      (T.pc false).hasChanged "t0ken" = true ∧
      ∀ i j, (T.pc i).hasChanged "t0ken" = true → (T.pc j).hasChanged "t0ken" = true → i = j := by
  obtain ⟨T, hT⟩ : ∃ T, (resetting demoHashing .default Bool).run demoResets
      [.act false demoResetChoice, .act false demoResetChoice, .act false demoResetChoice,
        .act true demoResetChoice, .act false demoResetChoice] = some T := ⟨_, rfl⟩
  refine ⟨T, hT, ?_, reset_token_single_use demoResets T _ (by decide) (by decide) hT "t0ken"⟩
  obtain rfl := Option.some.inj hT
  decide

/-- **Two requests that overlap both change the password:** each looks the token
up before either writes. -/
theorem both_resets_change_password :
    ∃ T, (resetting demoHashing .default Bool).run demoResets
        [.act false demoResetChoice, .act true demoResetChoice, .act false demoResetChoice,
          .act true demoResetChoice, .act false demoResetChoice, .act true demoResetChoice] =
        some T ∧
      (T.pc false).hasChanged "t0ken" = true ∧ (T.pc true).hasChanged "t0ken" = true ∧
      T.shared.accounts.rows.map Credentials.passwordHash = [some "saltNewPassword2"] :=
  ⟨_, rfl, by decide, by decide, by decide⟩

end Auth
end TopChoice
