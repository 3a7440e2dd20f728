/-
# The tabs of a browser and their refresh cookie

`refreshAccessToken` of `apps/web/src/lib/api.ts`, in any number of tabs, against
`POST /auth/refresh` of `auth.controller.ts` with healthy stores.  A tab has at most
one refresh in flight, whatever requests of it were answered 401; all tabs share the
cookie.  A refresh carries the cookie of the moment it is sent.  A response sets or
clears the cookie when it arrives, in whichever order; when it is lost, the tab gives
up and the server goes on.  Other clients present none of the browser's tokens, so
they are left out.

`token.service.ts` takes a rotated token that is presented again for a theft, and
tabs do not tell one another what they send.  A browser is not taken for a thief as
long as a tab sends no refresh with a cookie an earlier refresh carried, unless that
one failed (`browser_is_no_thief`).  The invariant (`Honest`) is that each token has
one refresh at most that has not failed, and that a denied one has been consumed by
it.
-/

import TopChoice.Auth.Coherence
import TopChoice.Auth.SingleUse

namespace TopChoice
namespace Web

open Auth

/-! ### The browser -/

/-- A refresh: the cookie it carries, where the server stands with it, and whether
the tab still waits for the response. -/
structure RefreshCall (τ : Type) where
  tab : τ
  carried : Option RefreshTokenPayload
  pc : RefreshPc
  waiting : Bool
  deriving DecidableEq

/-- The tabs and the refreshes `ι` they have sent, with the stores of the server. -/
structure Browser (ι τ : Type) where
  store : Store
  /-- `tc_refresh`. -/
  cookie : Option RefreshTokenPayload
  /-- `refreshInFlight` of each tab. -/
  refreshInFlight : τ → Option ι
  calls : ι → Option (RefreshCall τ)

/-- What happens next. -/
inductive Event (ι τ : Type) where
  /-- A request of the tab got a 401. -/
  | refreshAccessToken (tab : τ) (i : ι)
  /-- The server takes a step with a refresh. -/
  | serve (i : ι) (c : ScanReply)
  /-- The response of a refresh arrives. -/
  | arrive (i : ι)
  /-- The tab learns that the response will not arrive. -/
  | lose (i : ι)
  /-- The clock advances. -/
  | tick (d : Millis)
  deriving DecidableEq

/-- `'No refresh token was supplied'`. -/
def missingError : AppException :=
  .unauthorized "No refresh token was supplied" .refreshTokenMissing

/-- Where the server stands with a refresh that was just sent. -/
def received : Option RefreshTokenPayload → RefreshPc
  | none => .failed missingError
  | some token => .decode token

/-- The cookie after the response: set to the new token; cleared on an error, unless
there was none to clear. -/
def cookieAfter {τ : Type} (call : RefreshCall τ) (cookie : Option RefreshTokenPayload) :
    Option (Option RefreshTokenPayload) :=
  match call.pc with
  | .returned result => some (some result.tokens.refreshToken)
  | .failed _ => some (if call.carried = none then cookie else none)
  | _ => none

section Machine

variable {ι τ : Type} [DecidableEq ι] [DecidableEq τ]

/-- The tab has its answer: `.finally` clears `refreshInFlight`. -/
def Browser.settle (b : Browser ι τ) (i : ι) (call : RefreshCall τ) : Browser ι τ :=
  { b with
    refreshInFlight := Function.update b.refreshInFlight call.tab none
    calls := Function.update b.calls i (some { call with waiting := false }) }

/-- One event; a tab whose refresh is in flight joins it. -/
def Browser.step (cfg : JwtConfig) (b : Browser ι τ) : Event ι τ → Option (Browser ι τ)
  | .refreshAccessToken tab i =>
      if (b.refreshInFlight tab).isSome then some b
      else match b.calls i with
        | some _ => none
        | none => some
          { b with
            refreshInFlight := Function.update b.refreshInFlight tab (some i)
            calls := Function.update b.calls i (some ⟨tab, b.cookie, received b.cookie, true⟩) }
  | .serve i c =>
      (b.calls i).bind fun call => (call.pc.next cfg b.store c).map fun m =>
        { b with
          store := m.1.exec cfg b.store
          calls := Function.update b.calls i (some { call with pc := m.2 }) }
  | .arrive i =>
      (b.calls i).bind fun call =>
        if call.waiting then (cookieAfter call b.cookie).map fun cookie =>
          { b.settle i call with cookie := cookie }
        else none
  | .lose i =>
      (b.calls i).bind fun call => if call.waiting then some (b.settle i call) else none
  | .tick d => some { b with store := b.store.tick d }

/-- Every interleaving of the tabs, the network and the server. -/
def browsing (ι τ : Type) [DecidableEq ι] [DecidableEq τ] (cfg : JwtConfig) :
    Machine (Browser ι τ) (Event ι τ) := ⟨Browser.step cfg⟩

/-- Nothing sent yet. -/
def Browser.start (s : Store) (cookie : Option RefreshTokenPayload) : Browser ι τ where
  store := s
  cookie := cookie
  refreshInFlight _ := none
  calls _ := none

/-- The condition on an event: a refresh is sent only with a cookie that every earlier
refresh which carried it has failed with. -/
def CarriesUnused (b : Browser ι τ) : Event ι τ → Prop
  | .refreshAccessToken tab _ => b.refreshInFlight tab = none → ∀ token, b.cookie = some token →
      ∀ i call, b.calls i = some call → call.carried = some token → ∃ e, call.pc = .failed e
  | _ => True

end Machine

/-! ### One step of the server -/

/-- The refresh has denied the token it carries. -/
def consumed : RefreshPc → Bool
  | .delMarker .. => true
  | .markRevoked .. => true
  | .returned _ => true
  | _ => false

/-- The token a refresh has issued. -/
def issued : RefreshPc → Option RefreshTokenPayload
  | .setMarker _ _ issued => some issued.refreshToken
  | .insertRow _ _ issued _ => some issued.refreshToken
  | .setDenylist _ _ issued => some issued.refreshToken
  | .delMarker _ _ issued => some issued.refreshToken
  | .markRevoked _ _ issued => some issued.refreshToken
  | .returned result => some result.tokens.refreshToken
  | _ => none

/-- The refresh has failed. -/
def failed : RefreshPc → Bool
  | .failed _ => true
  | _ => false

/-- The browser is not taken for a thief here. -/
def Trusted : RefreshPc → Prop
  | .revokeAll .. => False
  | .failed e => e ≠ reusedError
  | _ => True

/-- `isDenied`. -/
def isDenied (s : Store) (jti : Jti) : Bool := s.cacheExists .ok (.authDenylist jti)

theorem exists_failed {p : RefreshPc} (h : failed p = true) : ∃ e, p = .failed e := by
  cases p <;> first | exact ⟨_, rfl⟩ | cases h

theorem not_failed_of_consumed {p : RefreshPc} (h : consumed p = true) : failed p = false := by
  cases p <;> first | rfl | cases h

section Server

variable {cfg : JwtConfig} {s : Store} {p p' : RefreshPc} {c : ScanReply} {cmd : Command}

/-- A refresh that goes on has not failed. -/
theorem not_failed_of_next (h : p.next cfg s c = some (cmd, p')) : failed p = false := by
  cases p <;> first | rfl | cases h

/-- What is consumed stays consumed. -/
theorem consumed_next (h : p.Moves cfg s cmd p') (hp : consumed p = true) :
    consumed p' = true := by
  cases h <;> first | rfl | cases hp

/-- A token is issued by signing it. -/
theorem issued_next (h : p.Moves cfg s cmd p') {t : RefreshTokenPayload}
    (ht : issued p' = some t) : issued p = some t ∨
      ∃ user, cmd = .sign user ∧ t = refreshPayload cfg user s := by
  cases h with
  | signed t user => exact Or.inr ⟨_, rfl, (Option.some.inj ht).symm⟩
  | _ => exact Or.inl ht

/-- **The browser is trusted as long as it presents no denied token.** -/
theorem trusted_next (h : p.next cfg s c = some (cmd, p')) (hp : Trusted p)
    (hdenied : ∀ t, p = .isDenied t → isDenied s t.jti = false) : Trusted p' := by
  cases p with
  | decode t =>
      simp only [RefreshPc.next, Auth.decode] at h
      split_ifs at h <;> obtain ⟨-, rfl⟩ := Prod.mk.inj (Option.some.inj h) <;>
        simp [Trusted, reusedError, AppException.unauthorized]
  | isDenied t =>
      have hnot : s.cacheExists .ok (.authDenylist t.jti) = false := hdenied t rfl
      simp only [RefreshPc.next, hnot, Bool.false_eq_true, if_false, Option.some.injEq] at h
      obtain ⟨-, rfl⟩ := Prod.mk.inj h
      trivial
  | revokeAll t r => exact hp.elim
  | isActive t =>
      simp only [RefreshPc.next] at h
      split_ifs at h <;> obtain ⟨-, rfl⟩ := Prod.mk.inj (Option.some.inj h) <;> trivial
  | isKnown t =>
      simp only [RefreshPc.next] at h
      split_ifs at h <;> obtain ⟨-, rfl⟩ := Prod.mk.inj (Option.some.inj h)
      · trivial
      · simp [Trusted, noLongerValidError, reusedError, AppException.unauthorized]
  | findUser t =>
      simp only [RefreshPc.next] at h
      split at h
      · obtain ⟨-, rfl⟩ := Prod.mk.inj (Option.some.inj h)
        simp [Trusted, reusedError, AppException.unauthorized]
      · split_ifs at h <;> obtain ⟨-, rfl⟩ := Prod.mk.inj (Option.some.inj h)
        · simp [Trusted, reusedError, AppException.unauthorized, AppException.forbidden]
        · trivial
  | returned a => cases h
  | failed e => cases h
  | _ =>
      obtain ⟨-, rfl⟩ := Prod.mk.inj (Option.some.inj h)
      trivial

/-- **A denylist entry is new or was there before.** -/
theorem isDenied_exec (cfg : JwtConfig) (s : Store) (cmd : Command) {j : Jti}
    (h : isDenied (cmd.exec cfg s) j = true) :
    (∃ exp, cmd = .denyJti j exp) ∨ (∃ ttl, cmd = .denyFor j ttl) ∨ isDenied s j = true := by
  have hcongr : ∀ {s' : Store}, isDenied s' j = true → s'.now = s.now →
      s'.denylist j = s.denylist j → isDenied s j = true := fun h hnow hd => by
    rw [isDenied, Store.cacheExists, hnow, Expiring.has_congr hd] at h
    exact h
  cases cmd with
  | setMarker u j' => exact Or.inr (Or.inr (hcongr h rfl (get_cacheSet_of_ne (by simp) _ _)))
  | denyJti j' exp =>
      by_cases hj : j = j'
      · exact Or.inl ⟨exp, by rw [hj]⟩
      · exact Or.inr (Or.inr (hcongr h (redisOnly_denyJti ..).now (denylist_denyJti_of_ne hj ..)))
  | denyFor j' ttl =>
      by_cases hj : j = j'
      · exact Or.inr (Or.inl ⟨ttl, by rw [hj]⟩)
      · exact Or.inr (Or.inr (hcongr h rfl (get_cacheSet_of_ne (by simpa using hj) _ _)))
  | delMarker u j' => exact Or.inr (Or.inr (hcongr h rfl (get_cacheDel_of_ne (by simp) _)))
  | unlinkMarkers u js => exact Or.inr (Or.inr (hcongr h rfl (denylist_cacheDelByPattern ..)))
  | _ => exact Or.inr (Or.inr h)

/-- A rotation denies the token it is about. -/
theorem setDenylist_of_denyJti {j : Jti} {exp : ℕ} (h : p.Moves cfg s (.denyJti j exp) p') :
    ∃ t user issued, p = .setDenylist t user issued ∧ p' = .delMarker t user issued ∧ t.jti = j := by
  cases h with
  | consumed t user issued => exact ⟨t, user, issued, rfl, rfl, rfl⟩
  | revoking t r r' _ hr => cases hr

/-- Only a theft has other tokens denied. -/
theorem not_trusted_of_denyFor {j : Jti} {ttl : ℕ} (h : p.Moves cfg s (.denyFor j ttl) p') :
    ¬ Trusted p := by
  cases h with
  | revoking t r r' _ hr => exact id

end Server

/-! ### What holds of every run -/

section Invariant

variable {ι τ : Type} [DecidableEq ι] [DecidableEq τ] {cfg : JwtConfig} {b b' : Browser ι τ}

/-- A refresh that is not sent yet, as a request of the server. -/
def idle : Pc := .revokeAll "" .done

/-- The requests the server sees. -/
def Browser.requests (b : Browser ι τ) : Threads.Sys Store ι Pc where
  shared := b.store
  pc i := match b.calls i with
    | none => idle
    | some call => .refresh call.pc

/-- The tokens the browser has, has presented or is about to get. -/
def Browser.Holds (b : Browser ι τ) (t : RefreshTokenPayload) : Prop :=
  b.cookie = some t ∨
    ∃ i call, b.calls i = some call ∧ (call.carried = some t ∨ issued call.pc = some t)

/-- Each token has one refresh at most that has not failed, a denied one has been
consumed by it, and nothing was taken for a theft. -/
structure Honest (cfg : JwtConfig) (b : Browser ι τ) : Prop where
  coherent : Coherent cfg b.requests
  carries : ∀ i call t, b.calls i = some call → call.pc.token = some t → call.carried = some t
  alone : ∀ i j call call' t, b.calls i = some call → b.calls j = some call' →
    call.carried = some t → call'.carried = some t →
      failed call.pc = false → failed call'.pc = false → i = j
  signed : ∀ t, b.Holds t → t ∈ b.store.signedRefresh
  denied : ∀ t, b.Holds t → isDenied b.store t.jti = true →
    ∃ i call, b.calls i = some call ∧ call.carried = some t ∧ consumed call.pc = true
  trusted : ∀ i call, b.calls i = some call → Trusted call.pc

omit [DecidableEq ι] [DecidableEq τ] in
/-- A browser that has sent nothing and has a token that is not denied. -/
theorem Honest.start {s : Store} {cookie : Option RefreshTokenPayload} (hwf : WellFormed s)
    (hcookie : ∀ t, cookie = some t → t ∈ s.signedRefresh ∧ isDenied s t.jti = false) :
    Honest cfg (Browser.start s cookie : Browser ι τ) where
  coherent := ⟨hwf, fun _ => trivial, fun _ _ _ _ _ h => by cases h⟩
  carries _ _ _ h := by cases h
  alone _ _ _ _ _ h := by cases h
  signed t := by
    rintro (h | ⟨i, call, h, -⟩)
    · exact (hcookie t h).1
    · cases h
  denied t := by
    rintro (h | ⟨i, call, h, -⟩) hd
    · exact absurd hd (by simp [Browser.start, (hcookie t h).2])
    · cases h
  trusted _ _ h := by cases h

omit [DecidableEq τ] in
/-- The requests when a refresh moves. -/
theorem requests_update (b : Browser ι τ) (s : Store) (i : ι) (call : RefreshCall τ)
    (cookie : Option RefreshTokenPayload) (flight : τ → Option ι) :
    ({ store := s, cookie := cookie, refreshInFlight := flight,
       calls := Function.update b.calls i (some call) } : Browser ι τ).requests =
      ⟨s, Function.update b.requests.pc i (.refresh call.pc)⟩ := by
  refine Threads.Sys.ext rfl (funext fun j => ?_)
  by_cases hj : j = i
  · subst hj
    simp [Browser.requests]
  · simp [Browser.requests, Function.update_of_ne hj]

/-- The requests do not move when a response arrives. -/
theorem requests_settle {i : ι} {call : RefreshCall τ} (h : b.calls i = some call) :
    (b.settle i call).requests = b.requests := by
  have hpc : b.requests.pc i = .refresh call.pc := by simp [Browser.requests, h]
  rw [Browser.settle, requests_update]
  refine Threads.Sys.ext rfl ?_
  simp only [← hpc, Function.update_eq_self]

omit [DecidableEq τ] in
/-- Where a refresh is after an event of one of them. -/
theorem calls_update_eq {calls : ι → Option (RefreshCall τ)} {i j : ι} {call call' : RefreshCall τ}
    (h : Function.update calls i (some call) j = some call') :
    (j = i ∧ call' = call) ∨ (j ≠ i ∧ calls j = some call') := by
  rcases Threads.pc_update_eq h with ⟨rfl, hcall⟩ | hother
  · exact Or.inl ⟨rfl, (Option.some.inj hcall).symm⟩
  · exact Or.inr hother

namespace Honest

omit [DecidableEq τ] in
/-- A tab sends a refresh, and nobody has carried its cookie but in vain. -/
theorem send (h : Honest cfg b) {i : ι} {tab : τ} (hi : b.calls i = none)
    (hC : ∀ t, b.cookie = some t → ∀ j call, b.calls j = some call → call.carried = some t →
      ∃ e, call.pc = .failed e) (flight : τ → Option ι) :
    Honest cfg { b with
      refreshInFlight := flight
      calls := Function.update b.calls i (some ⟨tab, b.cookie, received b.cookie, true⟩) } := by
  have hnew : ∀ t, (Browser.Holds { b with
      refreshInFlight := flight
      calls := Function.update b.calls i (some ⟨tab, b.cookie, received b.cookie, true⟩) } t) →
      b.Holds t := by
    rintro t (hc | ⟨j, call, hj, hor⟩)
    · exact Or.inl hc
    · rcases calls_update_eq hj with ⟨-, rfl⟩ | ⟨-, hj⟩
      · refine Or.inl (hor.resolve_right fun hissued => ?_)
        cases hcookie : b.cookie <;> simp [hcookie, received, issued] at hissued
      · exact Or.inr ⟨j, call, hj, hor⟩
  have hidle : ∀ t, (received b.cookie).token = some t → b.cookie = some t := by
    intro t ht
    cases hcookie : b.cookie with
    | none => rw [hcookie] at ht; cases ht
    | some token => rw [hcookie] at ht; exact ht
  -- whoever carried the same cookie has failed
  have hfirst : ∀ t, b.cookie = some t → ∀ j call, b.calls j = some call →
      call.carried = some t → failed call.pc = true := by
    intro t ht j call hj hcarried
    obtain ⟨e, he⟩ := hC t ht j call hj hcarried
    rw [he]
    rfl
  refine ⟨?_, ?_, ?_, fun t ht => h.signed t (hnew t ht), ?_, ?_⟩
  · rw [requests_update]
    refine h.coherent.replace ?_ ?_
    · cases b.cookie <;> trivial
    · cases b.cookie <;> rfl
  · intro j call t hj ht
    rcases calls_update_eq hj with ⟨-, rfl⟩ | ⟨-, hj⟩
    · exact hidle t ht
    · exact h.carries j call t hj ht
  · intro j k call call' t hj hk hcarried hcarried' hlive hlive'
    rcases calls_update_eq hj with ⟨rfl, rfl⟩ | ⟨-, hj'⟩ <;>
      rcases calls_update_eq hk with ⟨rfl, rfl⟩ | ⟨-, hk'⟩
    · rfl
    · exact absurd (hfirst t hcarried k call' hk' hcarried') (by simp [hlive'])
    · exact absurd (hfirst t hcarried' j call hj' hcarried) (by simp [hlive])
    · exact h.alone j k call call' t hj' hk' hcarried hcarried' hlive hlive'
  · intro t ht hd
    obtain ⟨j, call, hj, hcarried, hcons⟩ := h.denied t (hnew t ht) hd
    have hji : j ≠ i := by
      rintro rfl
      rw [hi] at hj
      cases hj
    exact ⟨j, call, by simpa [Function.update_of_ne hji] using hj, hcarried, hcons⟩
  · intro j call hj
    rcases calls_update_eq hj with ⟨-, rfl⟩ | ⟨-, hj⟩
    · cases b.cookie with
      | none => simp [received, Trusted, missingError, reusedError, AppException.unauthorized]
      | some token => trivial
    · exact h.trusted j call hj

/-- The tab of a refresh has its answer; the cookie is one the browser held, if any. -/
theorem settle (h : Honest cfg b) {i : ι} {call : RefreshCall τ} (hi : b.calls i = some call)
    {cookie : Option RefreshTokenPayload} (hcookie : ∀ t, cookie = some t → b.Holds t) :
    Honest cfg { b.settle i call with cookie := cookie } := by
  -- each refresh carries what it carried and stands where it stood
  have hcalls : ∀ {j call'}, (b.settle i call).calls j = some call' →
      ∃ old, b.calls j = some old ∧ old.carried = call'.carried ∧ old.pc = call'.pc := by
    intro j call' hj
    rcases calls_update_eq hj with ⟨rfl, rfl⟩ | ⟨-, hj⟩
    · exact ⟨call, hi, rfl, rfl⟩
    · exact ⟨call', hj, rfl, rfl⟩
  have hnew : ∀ t, Browser.Holds { b.settle i call with cookie := cookie } t → b.Holds t := by
    rintro t (hc | ⟨j, call', hj, hor⟩)
    · exact hcookie t hc
    · obtain ⟨old, hold, hcarried, hpc⟩ := hcalls hj
      exact Or.inr ⟨j, old, hold, by rwa [hcarried, hpc]⟩
  refine ⟨?_, ?_, ?_, fun t ht => h.signed t (hnew t ht), ?_, ?_⟩
  · have hrequests : Browser.requests { b.settle i call with cookie := cookie } = b.requests :=
      requests_settle hi
    rw [hrequests]
    exact h.coherent
  · intro j call' t hj ht
    obtain ⟨old, hold, hcarried, hpc⟩ := hcalls hj
    exact hcarried ▸ h.carries j old t hold (hpc ▸ ht)
  · intro j k call₁ call₂ t hj hk hcarried₁ hcarried₂ hlive₁ hlive₂
    obtain ⟨old₁, hold₁, ho₁, hp₁⟩ := hcalls hj
    obtain ⟨old₂, hold₂, ho₂, hp₂⟩ := hcalls hk
    exact h.alone j k old₁ old₂ t hold₁ hold₂ (ho₁ ▸ hcarried₁) (ho₂ ▸ hcarried₂)
      (hp₁ ▸ hlive₁) (hp₂ ▸ hlive₂)
  · intro t ht hd
    obtain ⟨j, old, hold, hcarried, hcons⟩ := h.denied t (hnew t ht) hd
    by_cases hji : j = i
    · subst hji
      obtain rfl := Option.some.inj (hi.symm.trans hold)
      exact ⟨j, { call with waiting := false }, by simp [Browser.settle], hcarried, hcons⟩
    · exact ⟨j, old, by simpa [Browser.settle, Function.update_of_ne hji] using hold, hcarried,
        hcons⟩
  · intro j call' hj
    obtain ⟨old, hold, -, hpc⟩ := hcalls hj
    exact hpc ▸ h.trusted j old hold

omit [DecidableEq τ] in
/-- The server takes a step with a refresh. -/
theorem serve (h : Honest cfg b) {i : ι} {call : RefreshCall τ} (hi : b.calls i = some call)
    {c : ScanReply} {cmd : Command} {p : RefreshPc}
    (hnext : call.pc.next cfg b.store c = some (cmd, p)) :
    Honest cfg { b with
      store := cmd.exec cfg b.store
      calls := Function.update b.calls i (some { call with pc := p }) } := by
  have hm := RefreshPc.next_moves hnext
  have hlive := not_failed_of_next hnext
  have hlater := later_exec cfg b.store cmd
  have hpc : b.requests.pc i = .refresh call.pc := by simp [Browser.requests, hi]
  -- what the browser holds it held before, or the server has just signed it
  have hnew : ∀ t, Browser.Holds { b with
      store := cmd.exec cfg b.store
      calls := Function.update b.calls i (some { call with pc := p }) } t →
      b.Holds t ∨ ∃ user, cmd = .sign user ∧ t = refreshPayload cfg user b.store := by
    rintro t (hc | ⟨j, call', hj, hor⟩)
    · exact Or.inl (Or.inl hc)
    · rcases calls_update_eq hj with ⟨rfl, rfl⟩ | ⟨-, hj⟩
      · rcases hor with hcarried | hissued
        · exact Or.inl (Or.inr ⟨j, call, hi, Or.inl hcarried⟩)
        · exact (issued_next hm hissued).imp_left fun h => Or.inr ⟨j, call, hi, Or.inr h⟩
      · exact Or.inl (Or.inr ⟨j, call', hj, hor⟩)
  -- a token the refresh looks up is not denied: nobody else can have consumed it
  have hundenied : ∀ t, call.pc = .isDenied t → isDenied b.store t.jti = false := by
    intro t ht
    refine Bool.eq_false_iff.2 fun hd => ?_
    have hcarried : call.carried = some t := h.carries i call t hi (by rw [ht]; rfl)
    obtain ⟨j, call', hj, hcarried', hcons⟩ := h.denied t (Or.inr ⟨i, call, hi, Or.inl hcarried⟩) hd
    obtain rfl := h.alone i j call call' t hi hj hcarried hcarried' hlive
      (not_failed_of_consumed hcons)
    obtain rfl := Option.some.inj (hi.symm.trans hj)
    rw [ht] at hcons
    cases hcons
  refine ⟨?_, ?_, ?_, ?_, ?_, ?_⟩
  · rw [requests_update]
    exact h.coherent.act (by rw [hpc]; exact .refresh hm)
  · intro j call' t hj ht
    rcases calls_update_eq hj with ⟨rfl, rfl⟩ | ⟨-, hj⟩
    · exact h.carries j call t hi (hm.token_eq ht)
    · exact h.carries j call' t hj ht
  · intro j k call₁ call₂ t hj hk hcarried₁ hcarried₂ hlive₁ hlive₂
    rcases calls_update_eq hj with ⟨rfl, rfl⟩ | ⟨-, hj'⟩ <;>
      rcases calls_update_eq hk with ⟨rfl, rfl⟩ | ⟨-, hk'⟩
    · rfl
    · exact h.alone j k call call₂ t hi hk' hcarried₁ hcarried₂ hlive hlive₂
    · exact h.alone j k call₁ call t hj' hi hcarried₁ hcarried₂ hlive₁ hlive
    · exact h.alone j k call₁ call₂ t hj' hk' hcarried₁ hcarried₂ hlive₁ hlive₂
  · intro t ht
    rcases hnew t ht with hold | ⟨user, rfl, rfl⟩
    · exact hlater.signedRefresh t (h.signed t hold)
    · exact List.mem_cons_self ..
  · intro t ht hd
    -- whoever had consumed the token still has
    have hkeep : b.Holds t → isDenied b.store t.jti = true → ∃ j call',
        Function.update b.calls i (some { call with pc := p }) j = some call' ∧
          call'.carried = some t ∧ consumed call'.pc = true := by
      intro hold hd
      obtain ⟨j, call', hj, hcarried, hcons⟩ := h.denied t hold hd
      by_cases hji : j = i
      · subst hji
        obtain rfl := Option.some.inj (hi.symm.trans hj)
        exact ⟨j, { call with pc := p }, Function.update_self .., hcarried, consumed_next hm hcons⟩
      · exact ⟨j, call', by rwa [Function.update_of_ne hji], hcarried, hcons⟩
    rcases hnew t ht with hold | ⟨user, rfl, rfl⟩
    · rcases isDenied_exec cfg b.store cmd hd with ⟨exp, rfl⟩ | ⟨ttl, rfl⟩ | hd
      · -- the refresh has just denied the token it carries, and that is this one
        obtain ⟨t', user, issued, hp, hp', hjti⟩ := setDenylist_of_denyJti hm
        have hcarried : call.carried = some t' := h.carries i call t' hi (by rw [hp]; rfl)
        have hsigned := h.signed t' (Or.inr ⟨i, call, hi, Or.inl hcarried⟩)
        obtain rfl := h.coherent.wf.jti_inj t' hsigned t (h.signed t hold) hjti
        exact ⟨i, { call with pc := p }, Function.update_self .., hcarried, by rw [hp']; rfl⟩
      · exact absurd (h.trusted i call hi) (not_trusted_of_denyFor hm)
      · exact hkeep hold hd
    · -- a new `jti` is not on the denylist
      have hlt := h.coherent.wf.denylist_lt _ (Expiring.get_ne_none_of_has hd)
      exact absurd hlt (Nat.not_lt.2 (Nat.le_succ _))
  · intro j call' hj
    rcases calls_update_eq hj with ⟨rfl, rfl⟩ | ⟨-, hj⟩
    · exact trusted_next hnext (h.trusted j call hi) hundenied
    · exact h.trusted j call' hj

omit [DecidableEq ι] [DecidableEq τ] in
/-- The clock advances. -/
theorem tick (h : Honest cfg b) (d : Millis) : Honest cfg { b with store := b.store.tick d } where
  coherent := h.coherent.tick d
  carries := h.carries
  alone := h.alone
  signed := h.signed
  denied t ht hd := h.denied t ht (Expiring.has_of_le (Nat.le_add_right ..) hd)
  trusted := h.trusted

/-- **One event keeps the browser honest.** -/
theorem step (h : Honest cfg b) {event : Event ι τ} (hC : CarriesUnused b event)
    (hstep : b.step cfg event = some b') : Honest cfg b' := by
  cases event with
  | refreshAccessToken tab i =>
      simp only [Browser.step] at hstep
      split_ifs at hstep with hflight
      · obtain rfl := Option.some.inj hstep
        exact h
      · split at hstep
        · cases hstep
        · next hi =>
            obtain rfl := Option.some.inj hstep
            exact h.send hi (hC (by simpa using hflight)) _
  | serve i c =>
      obtain ⟨call, hi, hnext⟩ := Option.bind_eq_some_iff.1 hstep
      obtain ⟨m, hm, rfl⟩ := Option.map_eq_some_iff.1 hnext
      exact h.serve hi hm
  | arrive i =>
      obtain ⟨call, hi, harrive⟩ := Option.bind_eq_some_iff.1 hstep
      split_ifs at harrive
      obtain ⟨cookie, hcookie, rfl⟩ := Option.map_eq_some_iff.1 harrive
      refine h.settle hi fun t ht => ?_
      cases hpc : call.pc <;> simp only [cookieAfter, hpc, Option.some.injEq, reduceCtorEq] at hcookie
      case returned result =>
        rw [ht] at hcookie
        exact Or.inr ⟨i, call, hi, Or.inr (by rw [hpc]; exact hcookie)⟩
      case failed e =>
        split_ifs at hcookie <;> subst hcookie
        · exact Or.inl ht
        · cases ht
  | lose i =>
      obtain ⟨call, hi, hlose⟩ := Option.bind_eq_some_iff.1 hstep
      split_ifs at hlose
      obtain rfl := Option.some.inj hlose
      exact h.settle hi fun t ht => Or.inl ht
  | tick d =>
      obtain rfl := Option.some.inj hstep
      exact h.tick d

end Honest

/-- **An honest browser is not taken for a thief:** in every interleaving of its tabs
with the network and the server, responses lost or late, no refresh is answered
`REFRESH_TOKEN_REUSED` and none revokes the sessions of the user, as long as a refresh
is sent only with a cookie that every earlier refresh which carried it failed with. -/
theorem browser_is_no_thief (cfg : JwtConfig) {s : Store} (hwf : WellFormed s)
    {cookie : Option RefreshTokenPayload}
    (hcookie : ∀ t, cookie = some t → t ∈ s.signedRefresh ∧ isDenied s t.jti = false)
    (events : List (Event ι τ)) (b : Browser ι τ)
    (hC : (browsing ι τ cfg).Meets CarriesUnused (Browser.start s cookie) events)
    (hrun : (browsing ι τ cfg).run (Browser.start s cookie) events = some b) :
    ∀ i call, b.calls i = some call →
      call.pc ≠ .failed reusedError ∧ ∀ t p, call.pc ≠ .revokeAll t p := by
  have h : Honest cfg b := Machine.run_invariant (fun _ _ _ h hC hT => h.step hC hT) events
    (Honest.start hwf hcookie) hC hrun
  intro i call hi
  have htrusted := h.trusted i call hi
  constructor
  · intro hpc
    rw [hpc] at htrusted
    exact htrusted rfl
  · intro t p hpc
    rw [hpc] at htrusted
    exact htrusted

end Invariant

/-! ### A browser with two tabs -/

instance (b : Browser Bool Bool) : ∀ event : Event Bool Bool, Decidable (CarriesUnused b event)
  | .refreshAccessToken tab _ =>
      decidable_of_iff ((b.refreshInFlight tab).isSome = true ∨ ∀ i, b.cookie.all fun token =>
          (b.calls i).all fun call => decide (call.carried ≠ some token) || failed call.pc) <| by
        simp only [CarriesUnused, Option.all_eq_true, Bool.or_eq_true, decide_eq_true_eq]
        constructor
        · rintro (hflight | h) hnone token htoken i call hi hcarried
          · simp [hnone] at hflight
          · exact exists_failed ((h i token htoken call hi).resolve_left (not_not_intro hcarried))
        · intro h
          cases hflight : b.refreshInFlight tab with
          | some j => exact Or.inl rfl
          | none =>
              refine Or.inr fun i token htoken call hi => or_iff_not_imp_left.2 fun hcarried => ?_
              obtain ⟨e, he⟩ := h hflight token htoken i call hi (not_not.1 hcarried)
              rw [he]
              rfl
  | .serve .. => isTrue trivial
  | .arrive _ => isTrue trivial
  | .lose _ => isTrue trivial
  | .tick _ => isTrue trivial

/-- The browser of the demo agent after the login. -/
def demoBrowser : Browser Bool Bool := .start demoLogin (some demoToken)

/-- Steps of the server with one refresh, the scan finding the markers given. -/
def serves (i : Bool) (n : ℕ) (keys : List Jti) : List (Event Bool Bool) :=
  List.replicate n (.serve i ⟨keys, true⟩)

/-- One tab refreshes, and after its response the other. -/
theorem browser_is_no_thief_demo :
    ∃ b, (browsing Bool Bool .default).run demoBrowser
        (.refreshAccessToken false false :: serves false 10 [] ++ [.arrive false] ++
          .refreshAccessToken true true :: serves true 10 []) = some b ∧
      ∀ i call, b.calls i = some call →
        call.pc ≠ .failed reusedError ∧ ∀ t p, call.pc ≠ .revokeAll t p := by
  have hsome : ((browsing Bool Bool .default).run demoBrowser
      (.refreshAccessToken false false :: serves false 10 [] ++ [.arrive false] ++
        .refreshAccessToken true true :: serves true 10 [])).isSome = true := by decide
  obtain ⟨b, hb⟩ := Option.isSome_iff_exists.1 hsome
  have hwf : WellFormed demoLogin := (wellFormed_fresh [demoAgent] 0).issueTokens ..
  refine ⟨b, hb, browser_is_no_thief .default hwf ?_ _ b (by decide) hb⟩
  rintro t ⟨⟩
  exact ⟨List.mem_cons_self .., by decide⟩

/-- **An honest browser is taken for a thief:** when the response of its refresh is lost
and it tries again, and when a second tab refreshes before the response of the first
has arrived. -/
theorem retry_is_taken_for_theft :
    ((browsing Bool Bool .default).run demoBrowser
        (.refreshAccessToken false false :: serves false 10 [] ++ [.lose false] ++
          .refreshAccessToken false true :: serves true 10 [3])).map
      (fun b => (b.calls true).map (·.pc)) = some (some (.failed reusedError)) ∧
    ((browsing Bool Bool .default).run demoBrowser
        (.refreshAccessToken false false :: .refreshAccessToken true true ::
          serves false 10 [] ++ serves true 10 [3])).map
      (fun b => (b.calls true).map (·.pc)) = some (some (.failed reusedError)) := by
  constructor <;> decide

end Web
end TopChoice
