/-
# Refresh tokens are single use, one refresh at a time

`token.service.ts` calls refresh tokens "rotating and single use".  `refresh`
reads the token as live, mints the new pair, and consumes the token only then,
by a denylist write, a marker deletion and a row update.  Two refreshes that both
read it as live before either has consumed it both return a pair
(`concurrent_refreshes_both_return`).  That is the only way: when no refresh
reads the token as live while another that did is still on its way, at most one
returns (`at_most_one_returned`).  The invariant (`SingleUse`) is that at most
one request has been let in, and that the one that returned has left neither a
marker nor an unrevoked row behind.
-/

import TopChoice.Auth.Interleaving

namespace TopChoice
namespace Auth

open Threads

/-- The token a refresh is about. -/
def RefreshPc.token : RefreshPc → Option RefreshTokenPayload
  | .decode t => some t
  | .isDenied t => some t
  | .revokeAll t _ => some t
  | .isActive t => some t
  | .isKnown t => some t
  | .findUser t => some t
  | .sign t _ => some t
  | .setMarker t _ _ => some t
  | .insertRow t _ _ _ => some t
  | .setDenylist t _ _ => some t
  | .delMarker t _ _ => some t
  | .markRevoked t _ _ => some t
  | .returned _ => none
  | .failed _ => none

/-- The refresh is about to read its token as live. -/
def RefreshPc.readsLive (s : Store) : RefreshPc → Bool
  | .isActive t => s.hasMarker t.sub t.jti
  | .isKnown t => isKnownInDatabase t.sub t.jti s
  | _ => false

/-- The account has let the refresh through. -/
def RefreshPc.pastAccount : RefreshPc → Bool
  | .sign .. => true
  | .setMarker .. => true
  | .insertRow .. => true
  | .setDenylist .. => true
  | .delMarker .. => true
  | .markRevoked .. => true
  | .returned .. => true
  | _ => false

/-- The refresh has returned a pair. -/
def RefreshPc.isReturned : RefreshPc → Bool
  | .returned _ => true
  | _ => false

/-- The request is a refresh that has returned a pair. -/
def Pc.isReturned : Pc → Bool
  | .refresh p => p.isReturned
  | .revokeAll .. => false

/-- The refresh has read its token as live, and has not failed since. -/
def RefreshPc.admitted : RefreshPc → Bool
  | .findUser _ => true
  | p => p.pastAccount

/-- The refresh has read its token as live and is on its way to consume it. -/
def RefreshPc.consuming (p : RefreshPc) : Bool := p.admitted && !p.isReturned

namespace RefreshPc.Moves

variable {cfg : JwtConfig} {s : Store} {p p' : RefreshPc} {cmd : Command}

/-- A refresh stays with its token. -/
theorem token_eq (h : p.Moves cfg s cmd p') {t : RefreshTokenPayload} (ht : p'.token = some t) :
    p.token = some t := by
  cases h <;> first | exact ht | cases ht

/-- A refresh is let in by reading its token as live. -/
theorem admitted_or (h : p.Moves cfg s cmd p') (ha : p'.admitted = true) :
    p.admitted = true ∨ p.readsLive s = true := by
  cases h with
  | active t h => exact Or.inr h
  | known t h => exact Or.inr h
  | _ => first | exact Or.inl rfl | cases ha

/-- Only an active account lets a refresh through. -/
theorem pastAccount_or (h : p.Moves cfg s cmd p') (ha : p'.pastAccount = true) :
    p.pastAccount = true ∨ ∃ t, p.token = some t ∧ ActiveAccount t s := by
  cases h with
  | found t user hu hact => exact Or.inr ⟨t, rfl, user, hu, hact⟩
  | _ => first | exact Or.inl rfl | cases ha

/-- Only a refresh that was let in writes a marker. -/
theorem admitted_of_setMarker {u : UserId} {j : Jti} (h : p.Moves cfg s (.setMarker u j) p') :
    p.admitted = true := by
  cases h with
  | marked => rfl
  | revoking t r r' _ hr => cases hr

/-- Only a refresh that was let in inserts a row. -/
theorem admitted_of_createRow {row : RefreshTokenRow} (h : p.Moves cfg s (.createRow row) p') :
    p.admitted = true := by
  cases h with
  | inserted => rfl
  | revoking t r r' _ hr => cases hr

end RefreshPc.Moves

theorem RefreshPc.admitted_of_pastAccount {p : RefreshPc} (h : p.pastAccount = true) :
    p.admitted = true := by
  cases p <;> first | exact h | rfl

theorem RefreshPc.exists_token_of_readsLive {s : Store} {p : RefreshPc}
    (h : p.readsLive s = true) : ∃ t, p.token = some t := by
  cases p <;> first | exact ⟨_, rfl⟩ | cases h

theorem RefreshPc.exists_token_of_consuming {p : RefreshPc} (h : p.consuming = true) :
    ∃ t, p.token = some t := by
  cases p <;> first | exact ⟨_, rfl⟩ | cases h

/-- A refresh that was let in is on its way or has returned. -/
theorem RefreshPc.consuming_or_returned {p : RefreshPc} (h : p.admitted = true) :
    p.consuming = true ∨ ∃ a, p = .returned a := by
  cases p <;> first | exact Or.inl rfl | exact Or.inr ⟨_, rfl⟩ | cases h

/-- Whether an account is active is a matter of the users alone. -/
theorem ActiveAccount.congr {t : RefreshTokenPayload} {s s' : Store} (h : ActiveAccount t s)
    (hu : s'.users = s.users) : ActiveAccount t s' := by
  obtain ⟨user, hf, hact⟩ := h
  exact ⟨user, by rw [Store.findUser, hu]; exact hf, hact⟩

/-- A token without a marker and without an unrevoked row. -/
def Spent (t : RefreshTokenPayload) (s : Store) : Prop :=
  s.hasMarker t.sub t.jti = false ∧ RowsRevoked t s

/-- A spent token is not read as live. -/
theorem Spent.readsLive {t : RefreshTokenPayload} {s : Store} (h : Spent t s) {p : RefreshPc}
    (hp : p.token = some t) : p.readsLive s = false := by
  cases p with
  | isActive t' =>
      obtain rfl := Option.some.inj hp
      exact h.1
  | isKnown t' =>
      obtain rfl := Option.some.inj hp
      exact isKnownInDatabase_eq_false h.2
  | _ => rfl

/-- Somebody who was not let in brings no marker back. -/
theorem hasMarker_exec_eq_false {cfg : JwtConfig} {s : Store} {p p' : RefreshPc} {cmd : Command}
    (h : p.Moves cfg s cmd p') (ha : p.admitted ≠ true) {u : UserId} {j : Jti}
    (hm : s.hasMarker u j = false) : (cmd.exec cfg s).hasMarker u j = false := by
  refine Bool.eq_false_iff.2 fun hm' => ?_
  rcases Command.hasMarker_exec cfg s cmd hm' with rfl | hm'
  · exact ha h.admitted_of_setMarker
  · exact Bool.eq_false_iff.1 hm hm'

/-- Somebody who was not let in leaves a spent token spent. -/
theorem Spent.exec {cfg : JwtConfig} {s : Store} {p p' : RefreshPc} {cmd : Command}
    {t : RefreshTokenPayload} (hs : Spent t s) (h : p.Moves cfg s cmd p')
    (ha : p.admitted ≠ true) : Spent t (cmd.exec cfg s) := by
  refine ⟨hasMarker_exec_eq_false h ha hs.1, fun r hr hj => ?_⟩
  rcases Command.mem_refreshTokens_exec cfg s cmd hr with rfl | ⟨r₀, h₀, -, hj₀, hrev⟩
  · exact absurd h.admitted_of_createRow ha
  · exact hrev (hs.2 r₀ h₀ (hj₀.symm.trans hj))

variable {ι : Type} [DecidableEq ι]

/-- The condition on a step: a refresh does not read its token as live while
another refresh of it, already let in, is on its way, the account being active. -/
def NoOverlap (S : Sys Store ι Pc) : Action ι ScanReply Millis → Prop
  | .act i _ => ∀ p t, S.pc i = .refresh p → p.token = some t → p.readsLive S.shared = true →
      ActiveAccount t S.shared →
        ∀ j q, j ≠ i → S.pc j = .refresh q → q.token = some t → q.consuming = false
  | .env _ => True

/-- What holds of any number of refreshes of `tok` that meet the condition. -/
structure SingleUse (tok : RefreshTokenPayload) (S : Sys Store ι Pc) : Prop where
  own : ∀ i, ∃ p, S.pc i = .refresh p ∧ ∀ t, p.token = some t → t = tok
  active : ∀ i p, S.pc i = .refresh p → p.pastAccount = true → ActiveAccount tok S.shared
  alone : ActiveAccount tok S.shared → ∀ i j p q, S.pc i = .refresh p → S.pc j = .refresh q →
    p.admitted = true → q.admitted = true → i = j
  unmarked : ∀ i t u x, S.pc i = .refresh (.markRevoked t u x) →
    S.shared.hasMarker tok.sub tok.jti = false
  spent : ∀ i a, S.pc i = .refresh (.returned a) → Spent tok S.shared

namespace SingleUse

variable {tok : RefreshTokenPayload} {cfg : JwtConfig} {S : Sys Store ι Pc}

omit [DecidableEq ι] in
/-- Nobody is let in yet. -/
theorem start (s : Store) : SingleUse tok (⟨s, fun _ : ι => .refresh (.decode tok)⟩ : Sys ..) where
  own _ := ⟨_, rfl, fun _ h => (Option.some.inj h).symm⟩
  active _ _ h hp := by cases h; cases hp
  alone _ _ _ _ _ h _ hp := by cases h; cases hp
  unmarked _ _ _ _ h := by cases h
  spent _ _ h := by cases h

omit [DecidableEq ι] in
theorem tick (h : SingleUse tok S) (d : Millis) :
    SingleUse tok { S with shared := S.shared.tick d } where
  own := h.own
  active i p hi hp := (h.active i p hi hp).congr rfl
  alone ha := h.alone (ha.congr rfl)
  unmarked i t u x hi := by
    have := h.unmarked i t u x hi
    exact Bool.eq_false_iff.2 fun hm => Bool.eq_false_iff.1 this (hasMarker_of_tick hm)
  spent i a hi := by
    obtain ⟨hm, hr⟩ := h.spent i a hi
    exact ⟨Bool.eq_false_iff.2 fun hm' => Bool.eq_false_iff.1 hm (hasMarker_of_tick hm'), hr⟩

/-- **One step.**  A refresh that reads its token as live finds nobody on the
way, by the condition, and nobody returned, since the token would be spent. -/
theorem act (h : SingleUse tok S) {i : ι} {c : ScanReply} {cmd : Command} {p' : Pc}
    (hmove : (S.pc i).Moves cfg S.shared cmd p') (hC : NoOverlap S (.act i c)) :
    SingleUse tok (⟨cmd.exec cfg S.shared, Function.update S.pc i p'⟩ : Sys Store ι Pc) := by
  obtain ⟨p, hp, htok⟩ := h.own i
  rw [hp] at hmove
  obtain ⟨q, rfl, hm⟩ : ∃ q, p' = .refresh q ∧ p.Moves cfg S.shared cmd q := by
    cases hmove with
    | refresh hm => exact ⟨_, rfl, hm⟩
  have husers := Command.users_exec cfg S.shared cmd
  -- a refresh let in by this step is the only one that is let in
  have halone : ActiveAccount tok S.shared → q.admitted = true →
      ∀ j r, j ≠ i → S.pc j = .refresh r → r.admitted = true → False := by
    intro hact hq j r hj hr hra
    rcases hm.admitted_or hq with hpa | hlive
    · exact hj (h.alone hact j i r p hr hp hra hpa)
    · obtain ⟨t, ht⟩ := RefreshPc.exists_token_of_readsLive hlive
      obtain rfl := htok t ht
      rcases RefreshPc.consuming_or_returned hra with hcon | ⟨a, rfl⟩
      · obtain ⟨t', ht'⟩ := RefreshPc.exists_token_of_consuming hcon
        obtain ⟨r', hr', hrt⟩ := h.own j
        obtain rfl := Pc.refresh.inj (hr.symm.trans hr')
        obtain rfl := hrt t' ht'
        exact Bool.eq_false_iff.1 (hC p t' hp ht hlive hact j r hj hr ht') hcon
      · exact Bool.eq_false_iff.1 ((h.spent j a hr).readsLive ht) hlive
  -- whoever is past the account keeps the others from being let in
  have hother : ∀ j r, j ≠ i → S.pc j = .refresh r → r.pastAccount = true → p.admitted ≠ true :=
    fun j r hj hr hra hpa => hj (h.alone (h.active j r hr hra) j i r p hr hp
      (RefreshPc.admitted_of_pastAccount hra) hpa)
  refine ⟨?_, ?_, ?_, ?_, ?_⟩
  · refine pc_update_cases
      (P := fun _ (pc : Pc) => ∃ p, pc = .refresh p ∧ ∀ t, p.token = some t → t = tok)
      ⟨q, rfl, fun t ht => htok t (hm.token_eq ht)⟩ fun j _ => h.own j
  · intro j r hr hra
    refine ActiveAccount.congr ?_ husers
    rcases pc_update_eq hr with ⟨rfl, he⟩ | ⟨-, hr⟩
    · obtain rfl := Pc.refresh.inj he
      rcases hm.pastAccount_or hra with hpa | ⟨t, ht, hact⟩
      · exact h.active j p hp hpa
      · exact htok t ht ▸ hact
    · exact h.active j r hr hra
  · intro hact j k r r' hr hr' hra hra'
    have hact' := hact.congr husers.symm
    rcases pc_update_eq hr with ⟨hj, he⟩ | ⟨hj, h₁⟩ <;>
      rcases pc_update_eq hr' with ⟨hk, he'⟩ | ⟨hk, h₂⟩
    · rw [hj, hk]
    · obtain rfl := Pc.refresh.inj he
      exact (halone hact' hra k r' hk h₂ hra').elim
    · obtain rfl := Pc.refresh.inj he'
      exact (halone hact' hra' j r hj h₁ hra).elim
    · exact h.alone hact' j k r r' h₁ h₂ hra hra'
  · intro j t u x hr
    rcases pc_update_eq hr with ⟨rfl, he⟩ | ⟨hj, hr⟩
    · obtain rfl := Pc.refresh.inj he
      cases hm with
      | unmarked =>
          obtain rfl := htok t rfl
          refine Bool.eq_false_iff.2 fun hm' => Expiring.get_ne_none_of_has hm' ?_
          exact (get_cacheDel ..).trans (if_pos rfl)
    · exact hasMarker_exec_eq_false hm (hother j _ hj hr rfl) (h.unmarked j t u x hr)
  · intro j a hr
    rcases pc_update_eq hr with ⟨rfl, he⟩ | ⟨hj, hr⟩
    · obtain rfl := Pc.refresh.inj he
      cases hm with
      | returned t user issued =>
          obtain rfl := htok t rfl
          refine ⟨h.unmarked j _ _ _ hp, fun r hr hj => ?_⟩
          rcases Table.mem_updateMany.1 hr with ⟨r₀, -, -, rfl⟩ | ⟨-, hnot⟩
          · exact Option.some_ne_none _
          · simpa [hj] using hnot
    · exact (h.spent j a hr).exec hm (hother j _ hj hr rfl)

end SingleUse

end Auth
end TopChoice
