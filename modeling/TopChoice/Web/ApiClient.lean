/-
# Sessions in one tab of the web client

`executeRequest`, `performRefresh` and `refreshAccessToken` of
`apps/web/src/lib/api.ts` over the session of `store/auth.store.ts`, in the browser.
Between two awaits a tab runs alone, so an event is what it does from one await to
the next: a call of the store, a request sent, a response, the `finally` of a refresh,
a request that goes on after its refresh.  Any answers may come in any order.

The client does not note for which session a request or a refresh was sent.  So a
refresh that a logout has overtaken puts its token into the store, and a request that a
login has overtaken clears the session of the login when its refresh fails
(`late_answers_mix_sessions`).  Apart from that sessions are kept apart
(`sessions_kept_apart`).

What a call does with a body, and the rest of the store (`setUser`, hydration), is
left out.
-/

import Mathlib.Data.List.Infix
import TopChoice.Lib.Threads

namespace TopChoice
namespace Web

/-! ### `auth.store.ts` -/

/-- `AuthStatus`. -/
inductive AuthStatus where
  | unauthenticated
  | authenticated
  deriving DecidableEq, Repr

/-- `AuthState`, for users `υ`. -/
structure AuthState (υ : Type) where
  user : Option υ
  accessToken : Option String
  expiresAt : Option ℕ
  status : AuthStatus
  deriving DecidableEq, Repr

section Store

variable {υ : Type} (tokenExpiresAt : String → Option ℕ)

/-- `login`. -/
def AuthState.login (user : υ) (accessToken : String) : AuthState υ where
  user := some user
  accessToken := some accessToken
  expiresAt := tokenExpiresAt accessToken
  status := .authenticated

/-- `setSession`, without a user the one before. -/
def AuthState.setSession (user : Option υ) (accessToken : String) (state : AuthState υ) :
    AuthState υ :=
  let nextUser := user.or state.user
  { user := nextUser
    accessToken := some accessToken
    expiresAt := tokenExpiresAt accessToken
    status := if accessToken ≠ "" ∧ nextUser.isSome then .authenticated else .unauthenticated }

/-- `logout`. -/
def AuthState.logout : AuthState υ := ⟨none, none, none, .unauthenticated⟩

end Store

/-! ### `api.ts` -/

/-- `RequestOptions`, as far as a 401 is concerned. -/
structure RequestOptions where
  path : String
  token : Option String
  skipAuth : Bool
  skipRefresh : Bool
  deriving DecidableEq, Repr

/-- A 401 of the first attempt is tried again after a refresh. -/
def RequestOptions.refreshable (options : RequestOptions) : Bool :=
  !options.skipAuth && !options.skipRefresh &&
    !decide ("/auth/refresh".toList <:+: options.path.toList)

/-- Where an `executeRequest` stands: its attempt is sent, it awaits a refresh, or it is
over. -/
inductive RequestPc (κ : Type) where
  | sent (attempt : ℕ) (bearer : Option String)
  | waiting (refresh : κ)
  | settled
  deriving DecidableEq, Repr

/-- An `executeRequest`; `sentAt` is the number of logins before it. -/
structure Request (κ : Type) where
  options : RequestOptions
  pc : RequestPc κ
  sentAt : ℕ
  deriving DecidableEq, Repr

/-- A `performRefresh`: what it has returned, if it has; `outlived` is whether a logout
ran while it was in flight, `settled` whether its `finally` has run. -/
structure Refresh where
  returned : Option (Option String)
  outlived : Bool
  settled : Bool
  deriving DecidableEq, Repr

/-- A tab, its requests `ι` and its refreshes `κ`. -/
structure Tab (ι κ υ : Type) where
  auth : AuthState υ
  refreshInFlight : Option κ
  refreshes : κ → Option Refresh
  requests : ι → Option (Request κ)
  /-- The number of logins so far. -/
  logins : ℕ
  /-- The login that established the session in the store, if there is one. -/
  session : Option ℕ

/-- What a tab does next. -/
inductive TabEvent (ι κ υ : Type) where
  | login (user : υ) (accessToken : String)
  | logout
  | executeRequest (i : ι) (options : RequestOptions)
  /-- The response of a request; a refresh it starts is the `k`-th. -/
  | response (i : ι) (status : ℕ) (k : κ)
  /-- The response of a refresh: a token, with or without a user, or anything else. -/
  | refreshResponse (k : κ) (answer : Option (String × Option υ))
  /-- `.finally`. -/
  | refreshSettled (k : κ)
  /-- A request goes on after the `finally` of its refresh. -/
  | resume (i : ι)

/-- What `performRefresh` returns. -/
def refreshed {υ : Type} (answer : Option (String × Option υ)) : Option String :=
  (answer.map Prod.fst).filter (· ≠ "")

section Machine

variable {ι κ υ : Type} [DecidableEq ι] [DecidableEq κ] (tokenExpiresAt : String → Option ℕ)

/-- `logout`: whatever refresh is in flight outlives the session. -/
def Tab.logout (tab : Tab ι κ υ) : Tab ι κ υ :=
  { tab with
    auth := .logout
    session := none
    refreshes := fun k => (tab.refreshes k).map fun r =>
      if r.returned = none then { r with outlived := true } else r }

/-- The bearer of a request. -/
def RequestOptions.bearer (options : RequestOptions) (auth : AuthState υ) : Option String :=
  if options.skipAuth then none else (options.token.or auth.accessToken).filter (· ≠ "")

/-- A request goes to where it stands next. -/
def Tab.goto (tab : Tab ι κ υ) (i : ι) (request : Request κ) (pc : RequestPc κ) : Tab ι κ υ :=
  { tab with requests := Function.update tab.requests i (some { request with pc := pc }) }

/-- `refreshAccessToken`, awaited by a request: the refresh in flight, or a new one. -/
def Tab.refreshAccessToken (tab : Tab ι κ υ) (i : ι) (request : Request κ) (k : κ) :
    Option (Tab ι κ υ) :=
  match tab.refreshInFlight with
  | some inFlight => some (tab.goto i request (.waiting inFlight))
  | none =>
    match tab.refreshes k with
    | some _ => none
    | none => some
      { tab.goto i request (.waiting k) with
        refreshInFlight := some k
        refreshes := Function.update tab.refreshes k (some ⟨none, false, false⟩) }

/-- One event. -/
def Tab.step (tab : Tab ι κ υ) : TabEvent ι κ υ → Option (Tab ι κ υ)
  | .login user accessToken => some
      { tab with
        auth := .login tokenExpiresAt user accessToken
        logins := tab.logins + 1
        session := some (tab.logins + 1) }
  | .logout => some tab.logout
  | .executeRequest i options =>
      match tab.requests i with
      | some _ => none
      | none => some (tab.goto i ⟨options, .settled, tab.logins⟩ (.sent 0 (options.bearer tab.auth)))
  | .response i status k =>
      match tab.requests i with
      | some request =>
        match request.pc with
        | .sent attempt _ =>
          if status = 401 ∧ attempt = 0 ∧ request.options.refreshable = true then
            tab.refreshAccessToken i request k
          else some (tab.goto i request .settled)
        | _ => none
      | none => none
  | .refreshResponse k answer =>
      match tab.refreshes k with
      | some ⟨none, outlived, settled⟩ =>
        let returned := refreshed answer
        let tab := match returned, answer with
          | some accessToken, some (_, user) =>
              { tab with auth := tab.auth.setSession tokenExpiresAt user accessToken }
          | _, _ => tab
        some { tab with
          refreshes := Function.update tab.refreshes k (some ⟨some returned, outlived, settled⟩) }
      | _ => none
  | .refreshSettled k =>
      match tab.refreshes k with
      | some ⟨some returned, outlived, false⟩ => some
          { tab with
            refreshInFlight := none
            refreshes := Function.update tab.refreshes k (some ⟨some returned, outlived, true⟩) }
      | _ => none
  | .resume i =>
      match tab.requests i with
      | some request =>
        match request.pc with
        | .waiting k =>
          match tab.refreshes k with
          | some ⟨some (some token), _, true⟩ => some (tab.goto i request (.sent 1 (some token)))
          -- `clearSession`, then the 401 is thrown
          | some ⟨some none, _, true⟩ => some (tab.logout.goto i request .settled)
          | _ => none
        | _ => none
      | none => none

/-- Every order of the events of a tab. -/
def tabMachine (ι κ υ : Type) [DecidableEq ι] [DecidableEq κ]
    (tokenExpiresAt : String → Option ℕ) : Machine (Tab ι κ υ) (TabEvent ι κ υ) :=
  ⟨Tab.step tokenExpiresAt⟩

/-- A page that has just loaded, whatever session it found. -/
def Tab.start (auth : AuthState υ) : Tab ι κ υ where
  auth := auth
  refreshInFlight := none
  refreshes _ := none
  requests _ := none
  logins := 0
  session := if auth.accessToken = none then none else some 0

/-! ### Sessions apart -/

/-- The requests that wait for a refresh were sent in the present session. -/
def WaitersCurrent (tab : Tab ι κ υ) (k : κ) : Prop :=
  ∀ i, ∀ request ∈ tab.requests i, request.pc = .waiting k →
    ∀ n ∈ tab.session, n ≤ request.sentAt

/-- A refresh has failed, and requests still wait for it. -/
def Failed (tab : Tab ι κ υ) (k : κ) : Prop := ∃ r ∈ tab.refreshes k, r.returned = some none

/-- The condition on an event.  A refresh that a logout has overtaken brings no token; a
refresh fails only if the requests waiting for it were sent in the present session; and
until these go on nobody logs in, nor does an earlier request join them. -/
def Timely (tab : Tab ι κ υ) : TabEvent ι κ υ → Prop
  | .refreshResponse k answer =>
      (∀ r ∈ tab.refreshes k, r.outlived = true → refreshed answer = none) ∧
        (refreshed answer = none → WaitersCurrent tab k)
  | .login .. => ∀ i, ∀ request ∈ tab.requests i, ∀ k, request.pc = .waiting k → ¬ Failed tab k
  | .response i _ _ => ∀ request ∈ tab.requests i, ∀ k ∈ tab.refreshInFlight, Failed tab k →
      ∀ n ∈ tab.session, n ≤ request.sentAt
  | _ => True

variable {tokenExpiresAt}

/-- What holds between the events: the refresh in flight and those awaited were started,
and whoever waits for one that has failed was sent in the present session. -/
structure Orderly (tab : Tab ι κ υ) : Prop where
  inFlight : ∀ k, tab.refreshInFlight = some k → (tab.refreshes k).isSome = true
  awaited : ∀ i request k, tab.requests i = some request → request.pc = .waiting k →
    (tab.refreshes k).isSome = true
  current : ∀ k, Failed tab k → WaitersCurrent tab k

omit [DecidableEq ι] [DecidableEq κ] in
theorem Orderly.start (auth : AuthState υ) : Orderly (Tab.start auth : Tab ι κ υ) where
  inFlight _ h := by cases h
  awaited _ _ _ h := by cases h
  current _ _ _ _ h := by cases h

omit [DecidableEq κ] in
/-- Where a request is after one of them went on. -/
theorem requests_goto_eq {tab : Tab ι κ υ} {i j : ι} {request request' : Request κ}
    {pc : RequestPc κ} (h : (tab.goto i request pc).requests j = some request') :
    (j = i ∧ request' = { request with pc := pc }) ∨ (j ≠ i ∧ tab.requests j = some request') := by
  by_cases hj : j = i
  · subst hj
    exact Or.inl ⟨rfl, by simpa [Tab.goto] using h.symm⟩
  · exact Or.inr ⟨hj, by simpa [Tab.goto, Function.update_of_ne hj] using h⟩

namespace Orderly

variable {tab tab' : Tab ι κ υ}

omit [DecidableEq κ] in
/-- A request may go on, as long as it waits for nothing it must not wait for. -/
theorem goto (h : Orderly tab) {i : ι} {request : Request κ} {pc : RequestPc κ}
    (hstarted : ∀ k, pc = .waiting k → (tab.refreshes k).isSome = true)
    (hcurrent : ∀ k n, pc = .waiting k → Failed tab k → tab.session = some n →
      n ≤ request.sentAt) : Orderly (tab.goto i request pc) where
  inFlight := h.inFlight
  awaited j request' k hj hpc := by
    rcases requests_goto_eq hj with ⟨-, rfl⟩ | ⟨-, hj⟩
    · exact hstarted k hpc
    · exact h.awaited j request' k hj hpc
  current k hk j request' hj hpc n hn := by
    rcases requests_goto_eq hj with ⟨-, rfl⟩ | ⟨-, hj⟩
    · exact hcurrent k n hpc hk hn
    · exact h.current k hk j request' hj hpc n hn

omit [DecidableEq κ] in
/-- A request may go on that waits for nothing. -/
theorem goto_of_ne (h : Orderly tab) {i : ι} {request : Request κ} {pc : RequestPc κ}
    (hpc : ∀ k, pc ≠ .waiting k) : Orderly (tab.goto i request pc) :=
  h.goto (fun k hk => absurd hk (hpc k)) fun k _ hk => absurd hk (hpc k)

omit [DecidableEq ι] [DecidableEq κ] in
/-- Nobody is logged in after a logout. -/
theorem logout (h : Orderly tab) : Orderly tab.logout where
  inFlight k hk := by simpa [Tab.logout] using h.inFlight k hk
  awaited i request k hi hpc := by simpa [Tab.logout] using h.awaited i request k hi hpc
  current _ _ _ _ _ _ _ hn := by cases hn

omit [DecidableEq ι] in
/-- A refresh is started. -/
theorem startRefresh (h : Orderly tab) {k : κ} (hk : tab.refreshes k = none) :
    Orderly { tab with
      refreshInFlight := some k
      refreshes := Function.update tab.refreshes k (some ⟨none, false, false⟩) } := by
  have hsome : ∀ k', (tab.refreshes k').isSome = true →
      (Function.update tab.refreshes k (some ⟨none, false, false⟩) k').isSome = true := by
    intro k' hk'
    by_cases he : k' = k
    · subst he
      simp
    · rwa [Function.update_of_ne he]
  refine ⟨fun k' hk' => ?_, fun i request k' hi hpc => hsome k' (h.awaited i request k' hi hpc), ?_⟩
  · obtain rfl := Option.some.inj hk'
    simp
  · rintro k' ⟨r, hr, hfailed⟩
    by_cases he : k' = k
    · subst he
      simp only [Function.update_self, Option.mem_def, Option.some.injEq] at hr
      subst hr
      cases hfailed
    · exact h.current k' ⟨r, by simpa [Function.update_of_ne he] using hr, hfailed⟩

omit [DecidableEq ι] in
/-- A refresh returns; if it fails, those who wait for it were sent in the present
session. -/
theorem answered (h : Orderly tab) {k : κ} {returned : Option String} {outlived settled : Bool}
    (auth : AuthState υ) (hcurrent : returned = none → WaitersCurrent tab k) :
    Orderly { tab with
      auth := auth
      refreshes := Function.update tab.refreshes k (some ⟨some returned, outlived, settled⟩) } := by
  have hsome : ∀ k', (tab.refreshes k').isSome = true →
      (Function.update tab.refreshes k (some ⟨some returned, outlived, settled⟩) k').isSome = true := by
    intro k' hk'
    by_cases he : k' = k
    · subst he
      simp
    · rwa [Function.update_of_ne he]
  refine ⟨fun k' hk' => hsome k' (h.inFlight k' hk'),
    fun i request k' hi hpc => hsome k' (h.awaited i request k' hi hpc), ?_⟩
  rintro k' ⟨r, hr, hfailed⟩
  by_cases he : k' = k
  · subst he
    simp only [Function.update_self, Option.mem_def, Option.some.injEq] at hr
    subst hr
    exact hcurrent (by simpa using hfailed)
  · exact h.current k' ⟨r, by simpa [Function.update_of_ne he] using hr, hfailed⟩

/-- **One event keeps the tab orderly.** -/
theorem step (h : Orderly tab) {event : TabEvent ι κ υ} (hC : Timely tab event)
    (hstep : tab.step tokenExpiresAt event = some tab') : Orderly tab' := by
  cases event with
  | login user accessToken =>
      obtain rfl := Option.some.inj hstep
      exact ⟨h.inFlight, h.awaited, fun k hk i request hi hpc _ _ =>
        absurd hk (hC i request hi k hpc)⟩
  | logout =>
      obtain rfl := Option.some.inj hstep
      exact h.logout
  | executeRequest i options =>
      simp only [Tab.step] at hstep
      split at hstep
      · cases hstep
      · obtain rfl := Option.some.inj hstep
        exact h.goto_of_ne fun k => by simp
  | response i status k =>
      simp only [Tab.step] at hstep
      split at hstep
      · next request hi =>
          split at hstep
          · split_ifs at hstep
            · -- a 401 of the first attempt: a refresh is awaited
              simp only [Tab.refreshAccessToken] at hstep
              split at hstep
              · next inFlight hflight =>
                  obtain rfl := Option.some.inj hstep
                  refine h.goto (fun k' hk' => ?_) fun k' n hk' hfailed hn => ?_
                  · obtain rfl := RequestPc.waiting.inj hk'
                    exact h.inFlight inFlight hflight
                  · obtain rfl := RequestPc.waiting.inj hk'
                    exact hC request hi inFlight hflight hfailed n hn
              · split at hstep
                · cases hstep
                · next hnone =>
                    obtain rfl := Option.some.inj hstep
                    refine (h.startRefresh hnone).goto (fun k' hk' => ?_) fun k' n hk' hfailed _ => ?_
                    · obtain rfl := RequestPc.waiting.inj hk'
                      simp
                    · obtain rfl := RequestPc.waiting.inj hk'
                      obtain ⟨r, hr, hnot⟩ := hfailed
                      simp only [Function.update_self, Option.mem_def, Option.some.injEq] at hr
                      subst hr
                      cases hnot
            · obtain rfl := Option.some.inj hstep
              exact h.goto_of_ne fun k => by simp
          · cases hstep
      · cases hstep
  | refreshResponse k answer =>
      simp only [Tab.step] at hstep
      split at hstep
      · next outlived settled hk =>
          obtain rfl := Option.some.inj hstep
          split
          · exact h.answered _ fun hnone => hC.2 hnone
          · exact h.answered tab.auth fun hnone => hC.2 hnone
      · cases hstep
  | refreshSettled k =>
      simp only [Tab.step] at hstep
      split at hstep
      · next returned outlived hk =>
          obtain rfl := Option.some.inj hstep
          have hsettled : Orderly { tab with
              refreshes := Function.update tab.refreshes k (some ⟨some returned, outlived, true⟩) } :=
            h.answered tab.auth fun hnone => h.current k ⟨_, hk, by rw [hnone]⟩
          exact ⟨fun _ => nofun, hsettled.awaited, hsettled.current⟩
      · cases hstep
  | resume i =>
      simp only [Tab.step] at hstep
      split at hstep
      · split at hstep
        · split at hstep
          · obtain rfl := Option.some.inj hstep
            exact h.goto_of_ne fun k => by simp
          · obtain rfl := Option.some.inj hstep
            exact h.logout.goto_of_ne fun k => by simp
          · cases hstep
        · cases hstep
      · cases hstep

end Orderly

end Machine

/-! ### A tab with two requests -/

section Demo

variable (tab : Tab Bool Bool String)

instance (k : Bool) : Decidable (WaitersCurrent tab k) :=
  inferInstanceAs (Decidable (∀ i, ∀ request ∈ tab.requests i, request.pc = .waiting k →
    ∀ n ∈ tab.session, n ≤ request.sentAt))

instance (k : Bool) : Decidable (Failed tab k) :=
  inferInstanceAs (Decidable (∃ r ∈ tab.refreshes k, r.returned = some none))

instance : ∀ event, Decidable (Timely tab event)
  | .refreshResponse k answer =>
      inferInstanceAs (Decidable ((∀ r ∈ tab.refreshes k, r.outlived = true →
        refreshed answer = none) ∧ (refreshed answer = none → WaitersCurrent tab k)))
  | .login .. => inferInstanceAs (Decidable (∀ i, ∀ request ∈ tab.requests i, ∀ k,
      request.pc = .waiting k → ¬ Failed tab k))
  | .response i _ _ => inferInstanceAs (Decidable (∀ request ∈ tab.requests i,
      ∀ k ∈ tab.refreshInFlight, Failed tab k → ∀ n ∈ tab.session, n ≤ request.sentAt))
  | .logout => isTrue trivial
  | .executeRequest .. => isTrue trivial
  | .refreshSettled _ => isTrue trivial
  | .resume _ => isTrue trivial

end Demo

/-- A request for the listings of the signed-in user. -/
def demoOptions : RequestOptions := ⟨"/favorites", none, false, false⟩

/-- The session of a user whose token is about to expire. -/
def demoAuth : AuthState String := .login (fun _ => none) "mona" "old-token"

end Web
end TopChoice
