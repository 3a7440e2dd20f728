/-
# Overlapping refreshes and revocations

`AuthService.refresh` and `TokenService.revokeAllSessions` as the sequences of
commands they await.  A step is what a request does between two answers: one
Redis command or one Postgres statement, with the local work around it, or one
local step.  Where a request goes next is said once for each program point
(`RevokePc.Moves`, `RefreshPc.Moves`).  The machine `interleavings` lets any
number of requests take their steps in any order, with the clock advancing in
between; a refresh that nobody overlaps does there what `refresh` does
(`refresh_alone`).

`SCAN` returns every key that is there from the first call to the last, may or
may not return the others, and returns no key that is not there.  What the scan
owes (`old`) stays in the program points after it, which only pass it on.
-/

import TopChoice.Auth.Commands
import TopChoice.Lib.Threads

namespace TopChoice
namespace Auth

/-! ### `revokeAllSessions` in steps -/

/-- One answer of `SCAN`: the keys it returns, and whether its cursor is `'0'`. -/
structure ScanReply where
  keys : List Jti
  last : Bool
  deriving DecidableEq, Repr

/-- Where a `revokeAllSessions` stands. -/
inductive RevokePc where
  | start
  | scan (old : List Jti)
  | unlink (old keys : List Jti) (last : Bool)
  | findMany (old : List Jti)
  | plan (old : List Jti) (live : List RefreshTokenRow)
  | deny (old : List Jti) (todo : List (Jti × ℕ))
  | markAllRevoked (old : List Jti)
  | done
  deriving DecidableEq, Repr

/-- Where a scan goes on after a batch. -/
def RevokePc.afterBatch (old : List Jti) (last : Bool) : RevokePc :=
  if last then .findMany old else .scan old

/-- What `SCAN` may answer, when it owes the markers `old`. -/
def ScanReply.allowed (userId : UserId) (s : Store) (old : List Jti) (c : ScanReply) : Bool :=
  c.keys.all (s.hasMarker userId) &&
    (!c.last || old.all fun j => decide (j ∈ c.keys) || !s.hasMarker userId j)

/-- One `SCAN`; a batch that is not empty is unlinked next. -/
def RevokePc.scanned (userId : UserId) (s : Store) (old : List Jti) (c : ScanReply) :
    Option (Command × RevokePc) :=
  if c.allowed userId s old then
    some (.read, if c.keys = [] then afterBatch old c.last else .unlink old c.keys c.last)
  else none

/-- One step of `revokeAllSessions(userId)`. -/
def RevokePc.next (userId : UserId) (s : Store) : RevokePc → ScanReply → Option (Command × RevokePc)
  | .start, c => scanned userId s (s.liveMarkers userId) c
  | .scan old, c => scanned userId s old c
  | .unlink old keys last, _ => some (.unlinkMarkers userId keys, afterBatch old last)
  | .findMany old, _ => some (.read, .plan old (Table.findMany (isLiveRow userId s.now) s.refreshTokens))
  | .plan old live, _ => some (.read, .deny old (live.map fun r => (r.jti, denySeconds r s.now)))
  | .deny old ((jti, ttl) :: todo), _ => some (.denyFor jti ttl, .deny old todo)
  | .deny old [], _ => some (.read, .markAllRevoked old)
  | .markAllRevoked _, _ => some (.markAllRevoked userId, .done)
  | .done, _ => none

/-! ### `refresh` in steps -/

/-- Where a `refresh` stands. -/
inductive RefreshPc where
  | decode (token : RefreshTokenPayload)
  | isDenied (payload : RefreshTokenPayload)
  | revokeAll (payload : RefreshTokenPayload) (p : RevokePc)
  | isActive (payload : RefreshTokenPayload)
  | isKnown (payload : RefreshTokenPayload)
  | findUser (payload : RefreshTokenPayload)
  | sign (payload : RefreshTokenPayload) (user : User)
  | setMarker (payload : RefreshTokenPayload) (user : User) (issued : IssuedTokens)
  | insertRow (payload : RefreshTokenPayload) (user : User) (issued : IssuedTokens)
      (expiresAt : Millis)
  | setDenylist (payload : RefreshTokenPayload) (user : User) (issued : IssuedTokens)
  | delMarker (payload : RefreshTokenPayload) (user : User) (issued : IssuedTokens)
  | markRevoked (payload : RefreshTokenPayload) (user : User) (issued : IssuedTokens)
  | returned (result : AuthResult)
  | failed (error : AppException)
  deriving DecidableEq, Repr

/-- One step of `refresh`. -/
def RefreshPc.next (cfg : JwtConfig) (s : Store) :
    RefreshPc → ScanReply → Option (Command × RefreshPc)
  | .decode token, _ =>
      match Auth.decode RefreshTokenPayload.exp s.signedRefresh token s.now with
      | .error e => some (.read, .failed e)
      | .ok payload => some (.read, .isDenied payload)
  | .isDenied p, _ =>
      if s.cacheExists .ok (.authDenylist p.jti) then some (.read, .revokeAll p .start)
      else some (.read, .isActive p)
  | .revokeAll _ .done, _ => some (.read, .failed reusedError)
  | .revokeAll p r, c => (r.next p.sub s c).map fun m => (m.1, .revokeAll p m.2)
  | .isActive p, _ =>
      if s.hasMarker p.sub p.jti then some (.read, .findUser p) else some (.read, .isKnown p)
  | .isKnown p, _ =>
      if isKnownInDatabase p.sub p.jti s then some (.read, .findUser p)
      else some (.read, .failed noLongerValidError)
  | .findUser p, _ =>
      match s.findUser p.sub with
      | none => some (.read, .failed (.unauthorized "Session no longer exists" .invalidToken))
      | some user =>
        if !user.isActive then
          some (.read, .failed (.forbidden "This account has been disabled" .accountDisabled))
        else some (.read, .sign p user)
  | .sign p user, _ =>
      some (.sign (toSubject user), .setMarker p user
        ⟨accessPayload cfg (toSubject user) s, refreshPayload cfg (toSubject user) s,
          cfg.accessTtlSeconds, cfg.refreshTtlSeconds⟩)
  | .setMarker p user issued, _ =>
      some (.setMarker user.id issued.refreshToken.jti,
        .insertRow p user issued (secondsFromNow cfg.refreshTtlSeconds s.now))
  | .insertRow p user issued expiresAt, _ =>
      some (.createRow ⟨user.id, issued.refreshToken.jti, expiresAt, none, none⟩,
        .setDenylist p user issued)
  | .setDenylist p user issued, _ => some (.denyJti p.jti p.exp, .delMarker p user issued)
  | .delMarker p user issued, _ => some (.delMarker p.sub p.jti, .markRevoked p user issued)
  | .markRevoked p user issued, _ =>
      some (.markRevoked p.jti (some issued.refreshToken.jti),
        .returned ⟨toPublicUser user, issued⟩)
  | .returned _, _ => none
  | .failed _, _ => none

/-! ### The machine -/

/-- Where a request stands. -/
inductive Pc where
  | refresh (p : RefreshPc)
  | revokeAll (userId : UserId) (p : RevokePc)
  deriving DecidableEq, Repr

/-- One step of a request. -/
def Pc.next (cfg : JwtConfig) (s : Store) : Pc → ScanReply → Option (Command × Pc)
  | .refresh p, c => (p.next cfg s c).map fun m => (m.1, .refresh m.2)
  | .revokeAll u p, c => (p.next u s c).map fun m => (m.1, .revokeAll u m.2)

/-- One step of a request, its command executed. -/
def Pc.step (cfg : JwtConfig) (s : Store) (p : Pc) (c : ScanReply) : Option (Store × Pc) :=
  (p.next cfg s c).map fun m => (m.1.exec cfg s, m.2)

/-- Every interleaving of the requests, the clock advancing in between. -/
def interleavings (ι : Type) [DecidableEq ι] (cfg : JwtConfig) :
    Machine (Threads.Sys Store ι Pc) (Threads.Action ι ScanReply Millis) :=
  Threads.machine (Pc.step cfg) Store.tick

variable {cfg : JwtConfig}

/-! ### Where a request goes next -/

/-- The moves of `revokeAllSessions`. -/
inductive RevokePc.Moves (userId : UserId) (s : Store) : RevokePc → Command → RevokePc → Prop
  | first (c : ScanReply) (h : c.allowed userId s (s.liveMarkers userId) = true) :
      Moves userId s .start .read (if c.keys = [] then afterBatch (s.liveMarkers userId) c.last
        else .unlink (s.liveMarkers userId) c.keys c.last)
  | scanned (old : List Jti) (c : ScanReply) (h : c.allowed userId s old = true) :
      Moves userId s (.scan old) .read (if c.keys = [] then afterBatch old c.last
        else .unlink old c.keys c.last)
  | unlinked (old keys : List Jti) (last : Bool) :
      Moves userId s (.unlink old keys last) (.unlinkMarkers userId keys) (afterBatch old last)
  | found (old : List Jti) : Moves userId s (.findMany old) .read
      (.plan old (Table.findMany (isLiveRow userId s.now) s.refreshTokens))
  | planned (old : List Jti) (live : List RefreshTokenRow) : Moves userId s (.plan old live) .read
      (.deny old (live.map fun r => (r.jti, denySeconds r s.now)))
  | denied (old : List Jti) (jti : Jti) (ttl : ℕ) (todo : List (Jti × ℕ)) :
      Moves userId s (.deny old ((jti, ttl) :: todo)) (.denyFor jti ttl) (.deny old todo)
  | deniedAll (old : List Jti) : Moves userId s (.deny old []) .read (.markAllRevoked old)
  | revoked (old : List Jti) :
      Moves userId s (.markAllRevoked old) (.markAllRevoked userId) .done

theorem RevokePc.next_moves {userId : UserId} {s : Store} {p p' : RevokePc} {c : ScanReply}
    {cmd : Command} (h : p.next userId s c = some (cmd, p')) : p.Moves userId s cmd p' := by
  have hscan : ∀ {old cmd p'}, scanned userId s old c = some (cmd, p') →
      c.allowed userId s old = true ∧ cmd = .read ∧
        p' = if c.keys = [] then afterBatch old c.last else .unlink old c.keys c.last := by
    intro old cmd p' h
    unfold scanned at h
    split_ifs at h with ha <;> obtain ⟨rfl, rfl⟩ := Prod.mk.inj (Option.some.inj h)
    · exact ⟨ha, rfl, by simp [*]⟩
    · exact ⟨ha, rfl, by simp [*]⟩
  cases p with
  | start =>
      obtain ⟨ha, rfl, rfl⟩ := hscan h
      exact .first c ha
  | scan old =>
      obtain ⟨ha, rfl, rfl⟩ := hscan h
      exact .scanned old c ha
  | deny old todo =>
      cases todo with
      | nil =>
          obtain ⟨rfl, rfl⟩ := Prod.mk.inj (Option.some.inj h)
          exact .deniedAll old
      | cons jt todo =>
          obtain ⟨rfl, rfl⟩ := Prod.mk.inj (Option.some.inj h)
          exact .denied old jt.1 jt.2 todo
  | done => cases h
  | _ =>
      obtain ⟨rfl, rfl⟩ := Prod.mk.inj (Option.some.inj h)
      constructor

/-- The moves of `refresh`. -/
inductive RefreshPc.Moves (cfg : JwtConfig) (s : Store) : RefreshPc → Command → RefreshPc → Prop
  | decoded (t : RefreshTokenPayload) (h : t ∈ s.signedRefresh) :
      Moves cfg s (.decode t) .read (.isDenied t)
  | denied (t : RefreshTokenPayload) : Moves cfg s (.isDenied t) .read (.revokeAll t .start)
  | undenied (t : RefreshTokenPayload) : Moves cfg s (.isDenied t) .read (.isActive t)
  | revoking (t : RefreshTokenPayload) (p p' : RevokePc) (cmd : Command)
      (h : p.Moves t.sub s cmd p') : Moves cfg s (.revokeAll t p) cmd (.revokeAll t p')
  | active (t : RefreshTokenPayload) (h : s.hasMarker t.sub t.jti = true) :
      Moves cfg s (.isActive t) .read (.findUser t)
  | inactive (t : RefreshTokenPayload) : Moves cfg s (.isActive t) .read (.isKnown t)
  | known (t : RefreshTokenPayload) (h : isKnownInDatabase t.sub t.jti s = true) :
      Moves cfg s (.isKnown t) .read (.findUser t)
  | found (t : RefreshTokenPayload) (user : User) (hu : s.findUser t.sub = some user)
      (hact : user.isActive = true) : Moves cfg s (.findUser t) .read (.sign t user)
  | signed (t : RefreshTokenPayload) (user : User) :
      Moves cfg s (.sign t user) (.sign (toSubject user)) (.setMarker t user
        ⟨accessPayload cfg (toSubject user) s, refreshPayload cfg (toSubject user) s,
          cfg.accessTtlSeconds, cfg.refreshTtlSeconds⟩)
  | marked (t : RefreshTokenPayload) (user : User) (issued : IssuedTokens) :
      Moves cfg s (.setMarker t user issued) (.setMarker user.id issued.refreshToken.jti)
        (.insertRow t user issued (secondsFromNow cfg.refreshTtlSeconds s.now))
  | inserted (t : RefreshTokenPayload) (user : User) (issued : IssuedTokens) (expiresAt : Millis) :
      Moves cfg s (.insertRow t user issued expiresAt)
        (.createRow ⟨user.id, issued.refreshToken.jti, expiresAt, none, none⟩)
        (.setDenylist t user issued)
  | consumed (t : RefreshTokenPayload) (user : User) (issued : IssuedTokens) :
      Moves cfg s (.setDenylist t user issued) (.denyJti t.jti t.exp) (.delMarker t user issued)
  | unmarked (t : RefreshTokenPayload) (user : User) (issued : IssuedTokens) :
      Moves cfg s (.delMarker t user issued) (.delMarker t.sub t.jti) (.markRevoked t user issued)
  | returned (t : RefreshTokenPayload) (user : User) (issued : IssuedTokens) :
      Moves cfg s (.markRevoked t user issued)
        (.markRevoked t.jti (some issued.refreshToken.jti))
        (.returned ⟨toPublicUser user, issued⟩)
  | rejected (t : RefreshTokenPayload) (e : AppException) :
      Moves cfg s (.decode t) .read (.failed e)
  | reused (t : RefreshTokenPayload) :
      Moves cfg s (.revokeAll t .done) .read (.failed reusedError)
  | unknown (t : RefreshTokenPayload) :
      Moves cfg s (.isKnown t) .read (.failed noLongerValidError)
  | turnedAway (t : RefreshTokenPayload) (e : AppException) :
      Moves cfg s (.findUser t) .read (.failed e)

theorem RefreshPc.next_moves {s : Store} {p p' : RefreshPc} {c : ScanReply} {cmd : Command}
    (h : p.next cfg s c = some (cmd, p')) : p.Moves cfg s cmd p' := by
  cases p with
  | decode t =>
      simp only [next, Auth.decode] at h
      by_cases hs : t ∈ s.signedRefresh
      · by_cases he : t.exp ≤ unixSeconds s.now
        · obtain ⟨rfl, rfl⟩ := Prod.mk.inj (Option.some.inj (by simpa [hs, he] using h))
          exact .rejected ..
        · obtain ⟨rfl, rfl⟩ := Prod.mk.inj (Option.some.inj (by simpa [hs, he] using h))
          exact .decoded t hs
      · obtain ⟨rfl, rfl⟩ := Prod.mk.inj (Option.some.inj (by simpa [hs] using h))
        exact .rejected ..
  | isDenied t =>
      simp only [next] at h
      split_ifs at h <;> obtain ⟨rfl, rfl⟩ := Prod.mk.inj (Option.some.inj h)
      · exact .denied t
      · exact .undenied t
  | revokeAll t r =>
      by_cases hr : r = .done
      · subst hr
        obtain ⟨rfl, rfl⟩ := Prod.mk.inj (Option.some.inj h)
        exact .reused t
      · have h' : (r.next t.sub s c).map (fun m => (m.1, RefreshPc.revokeAll t m.2)) =
            some (cmd, p') := by
          cases r <;> first | exact absurd rfl hr | exact h
        obtain ⟨m, hm, he⟩ := Option.map_eq_some_iff.1 h'
        obtain ⟨rfl, rfl⟩ := Prod.mk.inj he
        exact .revoking t r m.2 m.1 (RevokePc.next_moves hm)
  | isActive t =>
      simp only [next] at h
      split_ifs at h with ha <;> obtain ⟨rfl, rfl⟩ := Prod.mk.inj (Option.some.inj h)
      · exact .active t ha
      · exact .inactive t
  | isKnown t =>
      simp only [next] at h
      split_ifs at h with ha <;> obtain ⟨rfl, rfl⟩ := Prod.mk.inj (Option.some.inj h)
      · exact .known t ha
      · exact .unknown t
  | findUser t =>
      simp only [next] at h
      cases hu : s.findUser t.sub with
      | none =>
          rw [hu] at h
          obtain ⟨rfl, rfl⟩ := Prod.mk.inj (Option.some.inj h)
          exact .turnedAway ..
      | some user =>
          rw [hu] at h
          cases hact : user.isActive with
          | false =>
              obtain ⟨rfl, rfl⟩ := Prod.mk.inj (Option.some.inj (by simpa [hact] using h))
              exact .turnedAway ..
          | true =>
              obtain ⟨rfl, rfl⟩ := Prod.mk.inj (Option.some.inj (by simpa [hact] using h))
              exact .found t user hu hact
  | returned a => cases h
  | failed e => cases h
  | _ =>
      obtain ⟨rfl, rfl⟩ := Prod.mk.inj (Option.some.inj h)
      constructor

/-- The moves of a request. -/
inductive Pc.Moves (cfg : JwtConfig) (s : Store) : Pc → Command → Pc → Prop
  | refresh {p q : RefreshPc} {cmd : Command} (h : p.Moves cfg s cmd q) :
      Moves cfg s (.refresh p) cmd (.refresh q)
  | revokeAll {u : UserId} {p q : RevokePc} {cmd : Command} (h : p.Moves u s cmd q) :
      Moves cfg s (.revokeAll u p) cmd (.revokeAll u q)

theorem Pc.next_moves {s : Store} {p p' : Pc} {c : ScanReply} {cmd : Command}
    (h : p.next cfg s c = some (cmd, p')) : p.Moves cfg s cmd p' := by
  cases p with
  | refresh p =>
      obtain ⟨m, hm, he⟩ := Option.map_eq_some_iff.1 h
      obtain ⟨rfl, rfl⟩ := Prod.mk.inj he
      exact .refresh (RefreshPc.next_moves hm)
  | revokeAll u p =>
      obtain ⟨m, hm, he⟩ := Option.map_eq_some_iff.1 h
      obtain ⟨rfl, rfl⟩ := Prod.mk.inj he
      exact .revokeAll (RevokePc.next_moves hm)

/-- `n` steps of one request, none of them a `SCAN` that returns a key. -/
def steps {ι : Type} (i : ι) (n : ℕ) : List (Threads.Action ι ScanReply Millis) :=
  List.replicate n (.act i ⟨[], true⟩)

/-! ### A refresh alone -/

section Alone

variable {ι : Type} [DecidableEq ι] {i : ι} {s s' : Store} {p p' : Pc}

/-- A step of a request that runs alone. -/
theorem run_steps_succ (pc : ι → Pc) (n : ℕ) (h : p.step cfg s ⟨[], true⟩ = some (s', p')) :
    (interleavings ι cfg).run ⟨s, Function.update pc i p⟩ (steps i (n + 1)) =
      (interleavings ι cfg).run ⟨s', Function.update pc i p'⟩ (steps i n) := by
  have hstep : (interleavings ι cfg).step ⟨s, Function.update pc i p⟩ (.act i ⟨[], true⟩) =
      some ⟨s', Function.update pc i p'⟩ :=
    Threads.step_act.2 ⟨s', p', by simpa using h, by simp⟩
  rw [steps, List.replicate_succ, Machine.run, hstep]
  rfl

/-- The rotation of a verified token, alone. -/
theorem run_rotation (pc : ι → Pc) (t : RefreshTokenPayload) {user : User}
    (hu : s.findUser t.sub = some user) (hact : user.isActive = true) :
    (interleavings ι cfg).run ⟨s, Function.update pc i (.refresh (.findUser t))⟩ (steps i 7) =
      some ⟨rotated cfg .healthy user t s, Function.update pc i (.refresh (.returned
        ⟨toPublicUser user, (issueTokens cfg .ok (toSubject user) s).1⟩))⟩ := by
  have hfound : Pc.step cfg s (.refresh (.findUser t)) ⟨[], true⟩ =
      some (s, .refresh (.sign t user)) := by
    simp [Pc.step, Pc.next, RefreshPc.next, hu, hact, Command.exec]
  refine (run_steps_succ pc 6 hfound).trans ?_
  refine (run_steps_succ pc 5 rfl).trans ?_
  refine (run_steps_succ pc 4 rfl).trans ?_
  refine (run_steps_succ pc 3 rfl).trans ?_
  refine (run_steps_succ pc 2 rfl).trans ?_
  refine (run_steps_succ pc 1 rfl).trans ?_
  exact run_steps_succ pc 0 rfl

/-- The verification of a token that is accepted, alone. -/
theorem run_verification (cfg : JwtConfig) (i : ι) (pc : ι → Pc) {t : RefreshTokenPayload}
    (ha : Accepts .healthy t s) :
    ∃ n, ∀ m, (interleavings ι cfg).run ⟨s, Function.update pc i (.refresh (.decode t))⟩
        (steps i (n + m)) =
      (interleavings ι cfg).run ⟨s, Function.update pc i (.refresh (.findUser t))⟩ (steps i m) := by
  obtain ⟨hsigned, hexp, hdenied, hknown⟩ := ha
  have hdecode : Pc.step cfg s (.refresh (.decode t)) ⟨[], true⟩ =
      some (s, .refresh (.isDenied t)) := by
    simp [Pc.step, Pc.next, RefreshPc.next, Auth.decode, hsigned, Nat.not_le.2 hexp, Command.exec]
  have hundenied : Pc.step cfg s (.refresh (.isDenied t)) ⟨[], true⟩ =
      some (s, .refresh (.isActive t)) := by
    have hdenied : s.cacheExists .ok (.authDenylist t.jti) = false := hdenied
    simp [Pc.step, Pc.next, RefreshPc.next, hdenied, Command.exec]
  cases hmarker : s.hasMarker t.sub t.jti with
  | true =>
      refine ⟨3, fun m => ?_⟩
      rw [Nat.add_comm 3 m, run_steps_succ pc _ hdecode, run_steps_succ pc _ hundenied]
      exact run_steps_succ pc m (by
        simp [Pc.step, Pc.next, RefreshPc.next, hmarker, Command.exec])
  | false =>
      have hrow : isKnownInDatabase t.sub t.jti s = true :=
        hknown.resolve_left fun hm => Bool.noConfusion (hmarker.symm.trans hm)
      refine ⟨4, fun m => ?_⟩
      have hinactive : Pc.step cfg s (.refresh (.isActive t)) ⟨[], true⟩ =
          some (s, .refresh (.isKnown t)) := by
        simp [Pc.step, Pc.next, RefreshPc.next, hmarker, Command.exec]
      rw [Nat.add_comm 4 m, run_steps_succ pc _ hdecode, run_steps_succ pc _ hundenied,
        run_steps_succ pc _ hinactive]
      exact run_steps_succ pc m (by simp [Pc.step, Pc.next, RefreshPc.next, hrow, Command.exec])

/-- **A refresh alone does what `refresh` does.** -/
theorem refresh_alone (S : Threads.Sys Store ι Pc) (t : RefreshTokenPayload) {a : AuthResult}
    (hpc : S.pc i = .refresh (.decode t)) (h : refresh cfg .healthy t S.shared = (.ok a, s')) :
    ∃ n, (interleavings ι cfg).run S (steps i n) =
      some ⟨s', Function.update S.pc i (.refresh (.returned a))⟩ := by
  have hself : S = ⟨S.shared, Function.update S.pc i (.refresh (.decode t))⟩ := by
    rw [← hpc, Function.update_eq_self]
  rcases verifyRefreshToken_cases .healthy t S.shared with ⟨ha, hv⟩ | ⟨-, -, hv⟩ | ⟨-, e, -, hv⟩
  · obtain ⟨n, hn⟩ := run_verification cfg i S.pc ha
    refine ⟨n + 7, ?_⟩
    refine (congrArg (fun T => (interleavings ι cfg).run T (steps i (n + 7))) hself).trans ?_
    refine (hn 7).trans ?_
    rw [refresh, RefreshReplies.healthy, hv] at h
    simp only [refreshVerified] at h
    split at h
    · cases h
    next user hu =>
    split at h
    · cases h
    next hact =>
    obtain ⟨ha, rfl⟩ := Prod.mk.inj h
    obtain rfl := Except.ok.inj ha
    exact run_rotation S.pc t hu (by simpa using hact)
  · rw [refresh, RefreshReplies.healthy, hv] at h
    cases h
  · rw [refresh, RefreshReplies.healthy, hv] at h
    cases h

end Alone
end Auth
end TopChoice
