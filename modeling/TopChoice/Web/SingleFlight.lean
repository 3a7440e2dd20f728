/-
# One refresh at a time

The events of a tab (`Tab.step`) with a log of what goes over the network: the requests sent
and answered, the refreshes sent and returned, and which refresh a request awaits after a 401.
The 401s may arrive in any order, a refresh may return before or after others join it, and
`refreshInFlight` is cleared in its `finally`, before those who await it go on.

At most one `/auth/refresh` is outstanding, because only the refresh in flight has not
settled yet; and a request is sent again once at most, after a 401 to its first attempt, with
the token of the refresh it then awaited (`refresh_single_flight`).
-/

import TopChoice.Lib.History
import TopChoice.Web.ApiClient

namespace TopChoice
namespace Web

/-! ### The log -/

/-- What goes over the network, and what a request awaits. -/
inductive Traffic (ι κ : Type) where
  | sent (i : ι) (attempt : ℕ) (bearer : Option String)
  | answered (i : ι) (attempt status : ℕ)
  /-- The request joins the refresh, or has started it. -/
  | awaits (i : ι) (k : κ)
  | refreshSent (k : κ)
  | refreshReturned (k : κ) (returned : Option String)
  deriving DecidableEq, Repr

/-- The request an entry is about. -/
def Traffic.request {ι κ : Type} : Traffic ι κ → Option ι
  | sent i _ _ | answered i _ _ | awaits i _ => some i
  | refreshSent _ | refreshReturned _ _ => none

/-- The request is sent. -/
def Traffic.isSent {ι κ : Type} [DecidableEq ι] (i : ι) : Traffic ι κ → Bool
  | sent j _ _ => j = i
  | _ => false

/-- How often a request was sent. -/
def sends {ι κ : Type} [DecidableEq ι] (log : List (Traffic ι κ)) (i : ι) : ℕ :=
  log.countP (Traffic.isSent i)

section Machine

variable {ι κ υ : Type} [DecidableEq ι] [DecidableEq κ] (tokenExpiresAt : String → Option ℕ)

/-- What an event adds to the log. -/
def Tab.traffic (tab : Tab ι κ υ) : TabEvent ι κ υ → List (Traffic ι κ)
  | .executeRequest i options => [.sent i 0 (options.bearer tab.auth)]
  | .response i status k =>
      match tab.requests i with
      | some ⟨options, .sent attempt _, _⟩ =>
        .answered i attempt status ::
          if status = 401 ∧ attempt = 0 ∧ options.refreshable = true then
            match tab.refreshInFlight with
            | some inFlight => [.awaits i inFlight]
            | none => [.refreshSent k, .awaits i k]
          else []
      | _ => []
  | .refreshResponse k answer => [.refreshReturned k (refreshed answer)]
  | .resume i =>
      match tab.requests i with
      | some ⟨_, .waiting k, _⟩ =>
        match tab.refreshes k with
        | some ⟨some (some token), _, _⟩ => [.sent i 1 (some token)]
        | _ => []
      | _ => []
  | .login .. | .logout | .refreshSettled _ => []

/-- Every order of the events of a tab, with the log. -/
def trafficMachine (ι κ υ : Type) [DecidableEq ι] [DecidableEq κ]
    (tokenExpiresAt : String → Option ℕ) :
    Machine (Tab ι κ υ × List (Traffic ι κ)) (TabEvent ι κ υ) :=
  (tabMachine ι κ υ tokenExpiresAt).logged Tab.traffic

variable {tokenExpiresAt}

/-! ### What the log says -/

/-- The refresh was sent and has not returned. -/
def Outstanding (log : List (Traffic ι κ)) (k : κ) : Prop :=
  .refreshSent k ∈ log ∧ ∀ returned, .refreshReturned k returned ∉ log

/-- A 401 to the first attempt of the request, after which it awaited the refresh. -/
def AwaitsAfter401 (log : List (Traffic ι κ)) (i : ι) (k : κ) : Prop :=
  ∃ before after, log = before ++ .answered i 0 401 :: after ∧ .awaits i k ∈ after

/-- A request is sent for the first time; or a second time, with the token of the one
refresh it has awaited. -/
def Justified (log : List (Traffic ι κ)) : Traffic ι κ → Prop
  | .sent i _ bearer =>
      (∀ e ∈ log, e.request ≠ some i) ∨
        ∃ k token, bearer = some token ∧ AwaitsAfter401 log i k ∧
          .refreshReturned k (some token) ∈ log ∧ ∀ k', .awaits i k' ∈ log → k' = k
  | _ => True

/-- What the log says of a request, by where it stands. -/
def Recorded (log : List (Traffic ι κ)) (i : ι) : Option (Request κ) → Prop
  | none => ∀ e ∈ log, e.request ≠ some i
  | some ⟨_, .sent 0 _, _⟩ => sends log i = 1 ∧ ∀ k, .awaits i k ∉ log
  | some ⟨_, .waiting k, _⟩ =>
      sends log i = 1 ∧ AwaitsAfter401 log i k ∧ ∀ k', .awaits i k' ∈ log → k' = k
  | some ⟨_, .sent (_ + 1) _, _⟩ | some ⟨_, .settled, _⟩ => sends log i ≤ 2

omit [DecidableEq κ] in
theorem sends_append_of_forall {log new : List (Traffic ι κ)} {i : ι}
    (h : ∀ e ∈ new, e.request ≠ some i) : sends (log ++ new) i = sends log i := by
  have hnone : new.countP (Traffic.isSent i) = 0 := by
    rw [List.countP_eq_zero]
    intro e he hsent
    cases e with
    | sent j attempt bearer =>
      have hj : j = i := of_decide_eq_true hsent
      exact h _ he (congrArg some hj)
    | _ => exact absurd hsent nofun
  rw [sends, List.countP_append, hnone, Nat.add_zero, ← sends]

omit [DecidableEq ι] [DecidableEq κ] in
theorem AwaitsAfter401.append {log : List (Traffic ι κ)} {i : ι} {k : κ}
    (h : AwaitsAfter401 log i k) (new : List (Traffic ι κ)) : AwaitsAfter401 (log ++ new) i k := by
  obtain ⟨before, after, rfl, hawaits⟩ := h
  exact ⟨before, after ++ new, by simp, List.mem_append_left _ hawaits⟩

omit [DecidableEq ι] [DecidableEq κ] in
theorem awaits_append {log new : List (Traffic ι κ)} {i : ι} {k : κ}
    (h : ∀ e ∈ new, e.request ≠ some i) (hk : .awaits i k ∈ log ++ new) : .awaits i k ∈ log :=
  (List.mem_append.1 hk).resolve_right fun hnew => h _ hnew rfl

omit [DecidableEq κ] in
/-- A request that nothing was written about was not sent. -/
theorem sends_eq_zero {log : List (Traffic ι κ)} {i : ι} (h : ∀ e ∈ log, e.request ≠ some i) :
    sends log i = 0 := by
  have hnil : sends ([] ++ log) i = 0 := sends_append_of_forall h
  rwa [List.nil_append] at hnil

omit [DecidableEq κ] in
theorem Recorded.sends_le_two {log : List (Traffic ι κ)} {i : ι} {request : Option (Request κ)}
    (h : Recorded log i request) : sends log i ≤ 2 := by
  match request, h with
  | none, h => exact (sends_eq_zero h).trans_le (Nat.zero_le 2)
  | some ⟨_, .sent 0 _, _⟩, h => exact h.1.trans_le (by decide)
  | some ⟨_, .waiting k, _⟩, h => exact h.1.trans_le (by decide)
  | some ⟨_, .sent (_ + 1) _, _⟩, h => exact h
  | some ⟨_, .settled, _⟩, h => exact h

omit [DecidableEq κ] in
/-- Entries about other requests change nothing. -/
theorem Recorded.append {log new : List (Traffic ι κ)} {i : ι} {request : Option (Request κ)}
    (h : Recorded log i request) (hnew : ∀ e ∈ new, e.request ≠ some i) :
    Recorded (log ++ new) i request := by
  have hsends : sends (log ++ new) i = sends log i := sends_append_of_forall hnew
  match request, h with
  | none, h =>
    exact fun e he => (List.mem_append.1 he).elim (h e) (hnew e)
  | some ⟨_, .sent 0 _, _⟩, h =>
    exact ⟨hsends.trans h.1, fun k hk => h.2 k (awaits_append hnew hk)⟩
  | some ⟨_, .waiting k, _⟩, h =>
    exact ⟨hsends.trans h.1, h.2.1.append new, fun k' hk' => h.2.2 k' (awaits_append hnew hk')⟩
  | some ⟨_, .sent (_ + 1) _, _⟩, h => exact hsends.trans_le h
  | some ⟨_, .settled, _⟩, h => exact hsends.trans_le h

/-! ### The invariant -/

/-- The refreshes are the ones of the log, and only the one in flight has not settled. -/
structure OneFlight (tab : Tab ι κ υ) (log : List (Traffic ι κ)) : Prop where
  sent : ∀ k, .refreshSent k ∈ log → (tab.refreshes k).isSome = true
  returned : ∀ k r, .refreshReturned k r ∈ log ↔
    ∃ refresh, tab.refreshes k = some refresh ∧ refresh.returned = some r
  inFlight : ∀ k refresh, tab.refreshes k = some refresh → refresh.settled = false →
    tab.refreshInFlight = some k
  pending : ∀ k refresh, tab.refreshes k = some refresh → refresh.returned = none →
    refresh.settled = false

/-- What holds between the events. -/
structure Accounted (tab : Tab ι κ υ) (log : List (Traffic ι κ)) : Prop where
  requests : ∀ i, Recorded log i (tab.requests i)
  justified : History.Each Justified log
  oneFlight : OneFlight tab log

/-- An entry about no refresh. -/
def Traffic.isRefresh : Traffic ι κ → Bool
  | refreshSent _ | refreshReturned _ _ => true
  | _ => false

namespace OneFlight

variable {tab tab' : Tab ι κ υ} {log new : List (Traffic ι κ)}

omit [DecidableEq ι] [DecidableEq κ] in
theorem start (auth : AuthState υ) : OneFlight (Tab.start auth : Tab ι κ υ) [] where
  sent _ h := nomatch h
  returned _ _ := ⟨nofun, fun h => nomatch h⟩
  inFlight _ _ h := nomatch h
  pending _ _ h := nomatch h

omit [DecidableEq ι] [DecidableEq κ] in
/-- What changes no refresh and writes nothing about one. -/
theorem append (h : OneFlight tab log) (hrefreshes : tab'.refreshes = tab.refreshes)
    (hinFlight : tab'.refreshInFlight = tab.refreshInFlight)
    (hnew : ∀ e ∈ new, e.isRefresh = false) : OneFlight tab' (log ++ new) where
  sent k hk := by
    rw [hrefreshes]
    exact h.sent k ((List.mem_append.1 hk).resolve_right fun hmem => nomatch hnew _ hmem)
  returned k r := by
    rw [hrefreshes, ← h.returned, List.mem_append]
    exact ⟨fun hk => hk.resolve_right fun hmem => (nomatch hnew _ hmem), .inl⟩
  inFlight k refresh hk := by
    rw [hinFlight]
    exact h.inFlight k refresh (hrefreshes ▸ hk)
  pending k refresh hk := h.pending k refresh (hrefreshes ▸ hk)

omit [DecidableEq ι] [DecidableEq κ] in
/-- A logout marks the refreshes that have not returned, and leaves them otherwise. -/
theorem logout (h : OneFlight tab log) : OneFlight tab.logout log := by
  have hback {k : κ} {refresh : Refresh} (hk : tab.logout.refreshes k = some refresh) :
      ∃ before, tab.refreshes k = some before ∧ refresh.returned = before.returned ∧
        refresh.settled = before.settled := by
    obtain ⟨before, hbefore, rfl⟩ := Option.map_eq_some_iff.1 hk
    refine ⟨before, hbefore, ?_⟩
    split_ifs <;> exact ⟨rfl, rfl⟩
  refine ⟨fun k hk => by simpa [Tab.logout] using h.sent k hk, fun k r => ?_, fun k refresh hk => ?_,
    fun k refresh hk => ?_⟩
  · rw [h.returned]
    constructor
    · rintro ⟨refresh, hk, hr⟩
      refine ⟨refresh, ?_, hr⟩
      simp only [Tab.logout, hk, Option.map_some, hr, reduceCtorEq, if_false]
    · rintro ⟨refresh, hk, hr⟩
      obtain ⟨before, hbefore, hsame, -⟩ := hback hk
      exact ⟨before, hbefore, hsame ▸ hr⟩
  · obtain ⟨before, hbefore, -, hsame⟩ := hback hk
    exact fun hsettled => h.inFlight k before hbefore (hsame ▸ hsettled)
  · obtain ⟨before, hbefore, hreturned, hsettled⟩ := hback hk
    exact fun hnone => hsettled ▸ h.pending k before hbefore (hreturned ▸ hnone)

omit [DecidableEq ι] in
/-- The refreshes after one of them has moved. -/
theorem refreshes_apply {k : κ} {refresh : Option Refresh}
    (h : tab'.refreshes = Function.update tab.refreshes k refresh) (k' : κ) :
    tab'.refreshes k' = if k' = k then refresh else tab.refreshes k' := by
  rw [h, Function.update_apply]

omit [DecidableEq ι] in
/-- A refresh starts when none is in flight. -/
theorem started (h : OneFlight tab log) {k : κ} (hflight : tab.refreshInFlight = none)
    (hk : tab.refreshes k = none) (hrefreshes : tab'.refreshes =
      Function.update tab.refreshes k (some ⟨none, false, false⟩))
    (hinFlight : tab'.refreshInFlight = some k) : OneFlight tab' (log ++ [.refreshSent k]) := by
  have hupdate := refreshes_apply hrefreshes
  refine ⟨fun k' hk' => ?_, fun k' r => ?_, fun k' refresh hk' hsettled => ?_,
    fun k' refresh hk' hnone => ?_⟩
  · rw [hupdate]
    split_ifs with hne
    · rfl
    · refine h.sent k' ((List.mem_append.1 hk').resolve_right fun hmem => hne ?_)
      exact Traffic.refreshSent.inj (List.mem_singleton.1 hmem)
  · rw [List.mem_append, h.returned, hupdate]
    split_ifs with heq
    · subst heq
      refine iff_of_false ?_ ?_
      · rintro (⟨refresh, hsome, -⟩ | hmem)
        · exact absurd (hk.symm.trans hsome) nofun
        · exact absurd (List.mem_singleton.1 hmem) nofun
      · rintro ⟨refresh, hsome, hr⟩
        obtain rfl := Option.some.inj hsome
        exact absurd hr nofun
    · exact ⟨fun hr => hr.resolve_right fun hmem => absurd (List.mem_singleton.1 hmem) nofun, .inl⟩
  · rw [hupdate] at hk'
    split_ifs at hk' with heq
    · rw [hinFlight, heq]
    · exact absurd (hflight.symm.trans (h.inFlight k' refresh hk' hsettled)) nofun
  · rw [hupdate] at hk'
    split_ifs at hk' with heq
    · obtain rfl := Option.some.inj hk'
      rfl
    · exact h.pending k' refresh hk' hnone

omit [DecidableEq ι] in
/-- A refresh returns. -/
theorem answered (h : OneFlight tab log) {k : κ} {outlived settled : Bool}
    (hk : tab.refreshes k = some ⟨none, outlived, settled⟩) {r : Option String}
    (hrefreshes : tab'.refreshes =
      Function.update tab.refreshes k (some ⟨some r, outlived, settled⟩))
    (hinFlight : tab'.refreshInFlight = tab.refreshInFlight) :
    OneFlight tab' (log ++ [.refreshReturned k r]) := by
  have hupdate := refreshes_apply hrefreshes
  refine ⟨fun k' hk' => ?_, fun k' r' => ?_, fun k' refresh hk' hsettled => ?_,
    fun k' refresh hk' hnone => ?_⟩
  · rw [hupdate]
    split_ifs
    · rfl
    · exact h.sent k' ((List.mem_append.1 hk').resolve_right fun hmem =>
        absurd (List.mem_singleton.1 hmem) nofun)
  · rw [List.mem_append, h.returned, hupdate, List.mem_singleton]
    split_ifs with heq
    · subst heq
      constructor
      · rintro (⟨refresh, hsome, hr⟩ | hmem)
        · obtain rfl := Option.some.inj (hk.symm.trans hsome)
          exact absurd hr nofun
        · exact ⟨_, rfl, congrArg some (Traffic.refreshReturned.inj hmem).2.symm⟩
      · rintro ⟨refresh, hsome, hr⟩
        obtain rfl := Option.some.inj hsome
        obtain rfl := Option.some.inj hr
        exact .inr rfl
    · exact ⟨fun hr => hr.resolve_right fun hmem => heq (Traffic.refreshReturned.inj hmem).1, .inl⟩
  · rw [hupdate] at hk'
    rw [hinFlight]
    split_ifs at hk' with heq
    · subst heq
      obtain rfl := Option.some.inj hk'
      exact h.inFlight k' _ hk hsettled
    · exact h.inFlight k' refresh hk' hsettled
  · rw [hupdate] at hk'
    split_ifs at hk' with heq
    · obtain rfl := Option.some.inj hk'
      exact absurd hnone nofun
    · exact h.pending k' refresh hk' hnone

omit [DecidableEq ι] in
/-- **The `finally` of a refresh clears the refresh in flight**, which is this one: after it
every refresh has settled. -/
theorem settled (h : OneFlight tab log) {k : κ} {outlived : Bool} {r : Option String}
    (hk : tab.refreshes k = some ⟨some r, outlived, false⟩)
    (hrefreshes : tab'.refreshes =
      Function.update tab.refreshes k (some ⟨some r, outlived, true⟩)) : OneFlight tab' log := by
  have hupdate := refreshes_apply hrefreshes
  have hflight := h.inFlight k _ hk rfl
  refine ⟨fun k' hk' => ?_, fun k' r' => ?_, fun k' refresh hk' hsettled => ?_,
    fun k' refresh hk' hnone => ?_⟩
  · rw [hupdate]
    split_ifs
    · rfl
    · exact h.sent k' hk'
  · rw [h.returned, hupdate]
    split_ifs with heq
    · subst heq
      constructor
      · rintro ⟨refresh, hsome, hr⟩
        obtain rfl := Option.some.inj (hk.symm.trans hsome)
        exact ⟨_, rfl, hr⟩
      · rintro ⟨refresh, hsome, hr⟩
        obtain rfl := Option.some.inj hsome
        exact ⟨_, hk, hr⟩
    · exact Iff.rfl
  · rw [hupdate] at hk'
    split_ifs at hk' with heq
    · obtain rfl := Option.some.inj hk'
      exact absurd hsettled nofun
    · exact absurd (Option.some.inj ((h.inFlight k' refresh hk' hsettled).symm.trans hflight)) heq
  · rw [hupdate] at hk'
    split_ifs at hk' with heq
    · obtain rfl := Option.some.inj hk'
      exact absurd hnone nofun
    · exact h.pending k' refresh hk' hnone

omit [DecidableEq ι] [DecidableEq κ] in
/-- At most one refresh is outstanding. -/
theorem outstanding_unique (h : OneFlight tab log) {k k' : κ} (hk : Outstanding log k)
    (hk' : Outstanding log k') : k = k' := by
  have hflight {k : κ} (hk : Outstanding log k) : tab.refreshInFlight = some k := by
    obtain ⟨refresh, hsome⟩ := Option.isSome_iff_exists.1 (h.sent k hk.1)
    refine h.inFlight k refresh hsome (h.pending k refresh hsome ?_)
    cases hr : refresh.returned with
    | none => rfl
    | some r => exact absurd ((h.returned k r).2 ⟨refresh, hsome, hr⟩) (hk.2 r)
  exact Option.some.inj ((hflight hk).symm.trans (hflight hk'))

end OneFlight

namespace Accounted

variable {tab tab' : Tab ι κ υ} {log new : List (Traffic ι κ)}

omit [DecidableEq κ] in
theorem start (auth : AuthState υ) : Accounted (Tab.start auth : Tab ι κ υ) [] where
  requests _ _ h := nomatch h
  justified := History.each_nil _
  oneFlight := .start auth

omit [DecidableEq κ] in
/-- The other requests stand where they stood. -/
theorem requests_goto (h : Accounted tab log) {i : ι} {request : Request κ} {pc : RequestPc κ}
    (hnew : ∀ e ∈ new, ∀ j, e.request = some j → j = i)
    (hi : Recorded (log ++ new) i (some { request with pc := pc })) (j : ι) :
    Recorded (log ++ new) j ((tab.goto i request pc).requests j) := by
  by_cases hj : j = i
  · subst hj
    simpa [Tab.goto] using hi
  · have hsame : (tab.goto i request pc).requests j = tab.requests j := Function.update_of_ne hj _ _
    rw [hsame]
    exact (h.requests j).append fun e he hrequest => hj (hnew e he j hrequest)

omit [DecidableEq ι] [DecidableEq κ] in
/-- Entries that are no requests sent need no justification. -/
theorem justified_append (h : History.Each Justified log)
    (hnew : ∀ e ∈ new, ∀ i attempt bearer, e ≠ .sent i attempt bearer) :
    History.Each Justified (log ++ new) := by
  refine h.append (History.each_of_forall_mem fun e he before => ?_)
  cases e with
  | sent i attempt bearer => exact absurd rfl (hnew _ he i attempt bearer)
  | _ => trivial

omit [DecidableEq κ] in
/-- What moves no request and writes nothing about one. -/
theorem of_requests_eq (h : Accounted tab log) (hrequests : tab'.requests = tab.requests)
    (hflight : OneFlight tab' (log ++ new)) (hnew : ∀ e ∈ new, e.request = none)
    (hsent : ∀ e ∈ new, ∀ i attempt bearer, e ≠ .sent i attempt bearer) :
    Accounted tab' (log ++ new) where
  requests j := by
    rw [hrequests]
    exact (h.requests j).append fun e he hrequest => nomatch (hnew e he).symm.trans hrequest
  justified := justified_append h.justified hsent
  oneFlight := hflight

omit [DecidableEq κ] in
/-- A first attempt that was answered by a 401 awaits a refresh. -/
theorem waiting_of_401 (h : Accounted tab log) {i : ι} {options : RequestOptions}
    {bearer : Option String} {sentAt : ℕ} (hi : tab.requests i = some ⟨options, .sent 0 bearer, sentAt⟩)
    (middle : List (Traffic ι κ)) (hmiddle : ∀ e ∈ middle, e.request = none) (k : κ) :
    Recorded (log ++ (.answered i 0 401 :: middle ++ [.awaits i k])) i
      (some ⟨options, .waiting k, sentAt⟩) := by
  have hfirst := h.requests i
  rw [hi] at hfirst
  obtain ⟨hsends, hawaits⟩ := hfirst
  refine ⟨?_, ⟨log, middle ++ [Traffic.awaits i k], rfl, by simp⟩, fun k' hk' => ?_⟩
  · have hcount : (Traffic.answered i 0 401 :: middle ++ [Traffic.awaits i k]).countP
        (Traffic.isSent i) = 0 := by
      rw [List.countP_eq_zero]
      intro e he
      simp only [List.cons_append, List.mem_cons, List.mem_append, List.not_mem_nil, or_false] at he
      obtain rfl | hmem | rfl := he
      · exact Bool.false_ne_true
      · have hnone := hmiddle e hmem
        cases e <;> first | exact Bool.false_ne_true | exact absurd hnone nofun
      · exact Bool.false_ne_true
    rw [sends, List.countP_append, hcount, Nat.add_zero]
    exact hsends
  · obtain hlog | hnew := List.mem_append.1 hk'
    · exact absurd hlog (hawaits k')
    · simp only [List.cons_append, List.mem_cons, List.mem_append, List.not_mem_nil, or_false,
        reduceCtorEq, false_or, Traffic.awaits.injEq] at hnew
      obtain hmem | ⟨-, rfl⟩ := hnew
      · exact nomatch hmiddle _ hmem
      · rfl

/-- **One event keeps the log accounted for.** -/
theorem step (h : Accounted tab log) {event : TabEvent ι κ υ}
    (hstep : tab.step tokenExpiresAt event = some tab') :
    Accounted tab' (log ++ tab.traffic event) := by
  cases event with
  | login user accessToken =>
    obtain rfl := Option.some.inj hstep
    exact h.of_requests_eq rfl (h.oneFlight.append rfl rfl (List.forall_mem_nil _))
      (List.forall_mem_nil _) (List.forall_mem_nil _)
  | logout =>
    obtain rfl := Option.some.inj hstep
    refine h.of_requests_eq rfl ?_ (List.forall_mem_nil _) (List.forall_mem_nil _)
    rw [Tab.traffic, List.append_nil]
    exact h.oneFlight.logout
  | executeRequest i options =>
    simp only [Tab.step] at hstep
    split at hstep
    · cases hstep
    next hi =>
      obtain rfl := Option.some.inj hstep
      have hfresh : ∀ e ∈ log, e.request ≠ some i := by
        have hrecorded := h.requests i
        rwa [hi] at hrecorded
      refine ⟨h.requests_goto ?_ ⟨?_, fun k hk => ?_⟩, h.justified.append ?_,
        h.oneFlight.append rfl rfl ?_⟩
      · intro e he j hj
        obtain rfl := List.mem_singleton.1 he
        exact (Option.some.inj hj).symm
      · rw [sends, List.countP_append, ← sends, sends_eq_zero hfresh]
        simp [Tab.traffic, Traffic.isSent]
      · obtain hlog | hnew := List.mem_append.1 hk
        · exact hfresh _ hlog rfl
        · cases List.mem_singleton.1 hnew
      · exact History.each_singleton (.inl (by rwa [List.append_nil]))
      · intro e he
        obtain rfl := List.mem_singleton.1 he
        rfl
  | response i status k =>
    simp only [Tab.step] at hstep
    split at hstep
    next request hi =>
      obtain ⟨options, pc, sentAt⟩ := request
      cases pc with
      | sent attempt bearer =>
        dsimp only at hstep
        split_ifs at hstep with h401
        · obtain ⟨rfl, rfl, -⟩ := id h401
          simp only [Tab.refreshAccessToken] at hstep
          split at hstep
          next inFlight hinFlight =>
            obtain rfl := Option.some.inj hstep
            have htraffic : tab.traffic (.response i 401 k) =
                [.answered i 0 401, .awaits i inFlight] := by
              rw [Tab.traffic, hi]
              dsimp only
              rw [if_pos h401, hinFlight]
            rw [htraffic]
            refine ⟨h.requests_goto ?_ (h.waiting_of_401 hi [] (List.forall_mem_nil _) inFlight),
              justified_append h.justified ?_, h.oneFlight.append rfl rfl ?_⟩
            · simp [Traffic.request]
            · simp
            · simp [Traffic.isRefresh]
          next hinFlight =>
            split at hstep
            · cases hstep
            next hk =>
              obtain rfl := Option.some.inj hstep
              have htraffic : tab.traffic (.response i 401 k) =
                  [.answered i 0 401, .refreshSent k, .awaits i k] := by
                rw [Tab.traffic, hi]
                dsimp only
                rw [if_pos h401, hinFlight]
              rw [htraffic]
              refine ⟨h.requests_goto ?_ (h.waiting_of_401 hi [.refreshSent k] ?_ k),
                justified_append h.justified ?_, ?_⟩
              · simp [Traffic.request]
              · simp [Traffic.request]
              · simp
              · have hanswered : OneFlight tab (log ++ [.answered i 0 401]) :=
                  h.oneFlight.append rfl rfl (by simp [Traffic.isRefresh])
                have hstarted : OneFlight { tab with
                    refreshInFlight := some k
                    refreshes := Function.update tab.refreshes k (some ⟨none, false, false⟩) }
                    (log ++ [.answered i 0 401] ++ [.refreshSent k]) :=
                  hanswered.started hinFlight hk rfl rfl
                have hlog : log ++ [.answered i 0 401, .refreshSent k, .awaits i k] =
                    log ++ [.answered i 0 401] ++ [.refreshSent k] ++ [.awaits i k] := by simp
                rw [hlog]
                exact hstarted.append rfl rfl (by simp [Traffic.isRefresh])
        · obtain rfl := Option.some.inj hstep
          have htraffic : tab.traffic (.response i status k) = [.answered i attempt status] := by
            rw [Tab.traffic, hi]
            dsimp only
            rw [if_neg h401]
          rw [htraffic]
          refine ⟨h.requests_goto ?_ ?_, justified_append h.justified ?_,
            h.oneFlight.append rfl rfl ?_⟩
          · simp [Traffic.request]
          · have hcount : [Traffic.answered (κ := κ) i attempt status].countP (Traffic.isSent i) = 0 := rfl
            have htwo : sends log i ≤ 2 := (h.requests i).sends_le_two
            exact (List.countP_append.trans (by rw [hcount, Nat.add_zero, sends])).trans_le htwo
          · simp
          · simp [Traffic.isRefresh]
      | waiting k' => cases hstep
      | settled => cases hstep
    · cases hstep
  | refreshResponse k answer =>
    simp only [Tab.step] at hstep
    split at hstep
    next outlived settled hk =>
      obtain rfl := Option.some.inj hstep
      refine h.of_requests_eq ?_ (h.oneFlight.answered hk ?_ ?_) ?_ ?_
      · split <;> rfl
      · split <;> rfl
      · split <;> rfl
      · intro e he
        rw [Tab.traffic, List.mem_singleton] at he
        rw [he]
        rfl
      · intro e he
        rw [Tab.traffic, List.mem_singleton] at he
        rw [he]
        rintro i attempt bearer ⟨⟩
    · cases hstep
  | refreshSettled k =>
    simp only [Tab.step] at hstep
    split at hstep
    next returned outlived hk =>
      obtain rfl := Option.some.inj hstep
      refine h.of_requests_eq rfl ?_ (List.forall_mem_nil _) (List.forall_mem_nil _)
      rw [Tab.traffic, List.append_nil]
      exact h.oneFlight.settled hk rfl
    · cases hstep
  | resume i =>
    simp only [Tab.step] at hstep
    split at hstep
    next request hi =>
      obtain ⟨options, pc, sentAt⟩ := request
      cases pc with
      | waiting k =>
        dsimp only at hstep
        split at hstep
        next token outlived hk =>
          obtain rfl := Option.some.inj hstep
          have htraffic : tab.traffic (.resume i : TabEvent ι κ υ) = [.sent i 1 (some token)] := by
            simp only [Tab.traffic, hi, hk]
          rw [htraffic]
          obtain ⟨hsends, hawaits, hunique⟩ : Recorded log i (some ⟨options, .waiting k, sentAt⟩) :=
            hi ▸ h.requests i
          have hreturned : .refreshReturned k (some token) ∈ log :=
            (h.oneFlight.returned k (some token)).2 ⟨_, hk, rfl⟩
          refine ⟨h.requests_goto ?_ ?_, h.justified.append (History.each_singleton ?_),
            h.oneFlight.append rfl rfl ?_⟩
          · simp [Traffic.request]
          · have hcount : [Traffic.sent (κ := κ) i 1 (some token)].countP (Traffic.isSent i) = 1 := by
              simp [Traffic.isSent]
            have htwo : sends (log ++ [.sent i 1 (some token)]) i = 2 := by
              rw [sends, List.countP_append, hcount, ← sends, hsends]
            exact htwo.le
          · rw [List.append_nil]
            exact .inr ⟨k, token, rfl, hawaits, hreturned, hunique⟩
          · simp [Traffic.isRefresh]
        next outlived hk =>
          obtain rfl := Option.some.inj hstep
          have htraffic : tab.traffic (.resume i : TabEvent ι κ υ) = [] := by
            simp only [Tab.traffic, hi, hk]
          rw [htraffic]
          have hout : Accounted tab.logout (log ++ []) :=
            h.of_requests_eq rfl (by rw [List.append_nil]; exact h.oneFlight.logout)
              (List.forall_mem_nil _) (List.forall_mem_nil _)
          rw [List.append_nil] at hout
          obtain ⟨hsends, -, -⟩ : Recorded log i (some ⟨options, .waiting k, sentAt⟩) :=
            hi ▸ h.requests i
          refine ⟨hout.requests_goto (List.forall_mem_nil _) ?_,
            justified_append hout.justified (List.forall_mem_nil _),
            hout.oneFlight.append rfl rfl (List.forall_mem_nil _)⟩
          have htwo : sends (log ++ []) i ≤ 2 := by
            rw [List.append_nil]
            omega
          exact htwo
        · cases hstep
      | sent attempt bearer => cases hstep
      | settled => cases hstep
    · cases hstep

end Accounted

/-! ### Runs -/

/-- **Refresh is single-flight.**  After any events of a tab at most one refresh is
outstanding; a request was sent twice at most; what was sent again was sent after a 401 to
the first attempt, with the token of the refresh that was awaited after it; and a request
sent after it awaited a refresh awaited one that has not failed. -/
theorem refresh_single_flight (auth : AuthState υ) (events : List (TabEvent ι κ υ))
    {tab : Tab ι κ υ} {log : List (Traffic ι κ)}
    (hrun : (trafficMachine ι κ υ tokenExpiresAt).run (Tab.start auth, []) events =
      some (tab, log)) :
    (∀ k k', Outstanding log k → Outstanding log k' → k = k') ∧ (∀ i, sends log i ≤ 2) ∧
      (∀ before i attempt bearer after, log = before ++ .sent i attempt bearer :: after →
        0 < sends before i → ∃ k token, bearer = some token ∧ AwaitsAfter401 before i k ∧
          .refreshReturned k (some token) ∈ before) ∧
      ∀ before i attempt bearer after k, log = before ++ .sent i attempt bearer :: after →
        .awaits i k ∈ before → .refreshReturned k none ∉ log := by
  have haccounted : Accounted tab log := by
    refine Machine.run_invariant_of_forall_mem (L := fun _ => True)
      (I := fun s : Tab ι κ υ × List (Traffic ι κ) => Accounted s.1 s.2) ?_ events
      (Accounted.start auth) (fun _ _ => trivial) hrun
    intro s event t h _ hstep
    obtain ⟨htab, hlog⟩ := Machine.logged_step_eq_some.1 hstep
    rw [hlog]
    exact h.step htab
  refine ⟨fun k k' => haccounted.oneFlight.outstanding_unique, fun i => ?_, ?_, ?_⟩
  · exact (haccounted.requests i).sends_le_two
  · intro before i attempt bearer after hlog hpositive
    obtain hfirst | ⟨k, token, hbearer, hawaits, hreturned, -⟩ :=
      haccounted.justified before _ after hlog
    · exact absurd (sends_eq_zero hfirst) hpositive.ne'
    · exact ⟨k, token, hbearer, hawaits, hreturned⟩
  · intro before i attempt bearer after k hlog hawaits hfailed
    obtain hfirst | ⟨k', token, -, -, hreturned, hunique⟩ :=
      haccounted.justified before _ after hlog
    · exact hfirst _ hawaits rfl
    · obtain rfl := hunique k hawaits
      have hlater : .refreshReturned k (some token) ∈ log :=
        hlog ▸ List.mem_append_left _ hreturned
      obtain ⟨refresh, hk, hsome⟩ := (haccounted.oneFlight.returned k _).1 hlater
      obtain ⟨refresh', hk', hnone⟩ := (haccounted.oneFlight.returned k _).1 hfailed
      obtain rfl := Option.some.inj (hk.symm.trans hk')
      exact absurd (hsome.symm.trans hnone) nofun

end Machine

/-- Two requests whose token has expired: one starts the refresh and the other joins it after
it has returned; both are sent again, and the second 401 of one ends it. -/
def demoFlights : List (TabEvent Bool Bool String) :=
  [.executeRequest false demoOptions, .executeRequest true demoOptions, .response false 401 false,
    .refreshResponse false (some ("new-token", some "mona")), .response true 401 true,
    .refreshSettled false, .resume true, .resume false, .response false 401 true,
    .response true 200 true]

theorem refresh_single_flight_demo :
    ∃ tab log, (trafficMachine Bool Bool String fun _ => none).run (Tab.start demoAuth, [])
        demoFlights = some (tab, log) ∧ sends log false = 2 ∧
      (∀ k k', Outstanding log k → Outstanding log k' → k = k') ∧ (∀ i, sends log i ≤ 2) ∧
      (∀ before i attempt bearer after, log = before ++ .sent i attempt bearer :: after →
        0 < sends before i → ∃ k token, bearer = some token ∧ AwaitsAfter401 before i k ∧
          .refreshReturned k (some token) ∈ before) ∧
      ∀ before i attempt bearer after k, log = before ++ .sent i attempt bearer :: after →
        .awaits i k ∈ before → .refreshReturned k none ∉ log :=
  ⟨_, _, rfl, by decide, refresh_single_flight demoAuth demoFlights rfl⟩

end Web
end TopChoice
