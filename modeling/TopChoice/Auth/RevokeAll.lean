/-
# When revoking all sessions is final

`revokeAllSessions` sweeps the markers by scan, denies the live rows it then
reads, and revokes the rows last.  A rotation that overlaps it writes a new
marker and a new row somewhere in between, and a marker or a row left over is
enough to be accepted (`rotation_outlives_revocation`).  What is needed of the
order of steps is `Unraced`: no session of the user is recorded after the last
row update; at that update every marker younger than the scan belongs to a
denied session, or to one still to be recorded; and no later denylist write
shortens an entry a session depends on.  The markers the scan started with need
no condition: `SCAN` returns them, and nothing writes a marker twice.
-/

import TopChoice.Auth.Coherence

namespace TopChoice
namespace Auth

open Threads

/-- The markers a `revokeAllSessions` found when its scan began. -/
def RevokePc.old : RevokePc → List Jti
  | .start => []
  | .scan old => old
  | .unlink old _ _ => old
  | .findMany old => old
  | .plan old _ => old
  | .deny old _ => old
  | .markAllRevoked old => old
  | .done => []

/-- What the scan has achieved so far. -/
def RevokePc.Swept (u : UserId) (s : Store) : RevokePc → Prop
  | .start => True
  | .scan _ => True
  | .unlink old keys last => last = true → ∀ j ∈ old, j ∈ keys ∨ s.hasMarker u j = false
  | p => ∀ j ∈ p.old, s.hasMarker u j = false

/-- The session is closed: no marker or a denylist entry for the rest of the
JWT, and no unrevoked row. -/
def Closed (t : RefreshTokenPayload) (s : Store) : Prop :=
  (s.hasMarker t.sub t.jti = true → Denied t s) ∧ RowsRevoked t s

theorem Closed.tick {t : RefreshTokenPayload} {s : Store} (h : Closed t s) (d : Millis) :
    Closed t (s.tick d) :=
  ⟨fun hm => (h.1 (hasMarker_of_tick hm)).tick d, h.2⟩

/-- What the scan has achieved survives while no swept marker comes back. -/
theorem RevokePc.Swept.mono {u : UserId} {s s' : Store} {r : RevokePc} (h : r.Swept u s)
    (hm : ∀ j ∈ r.old, s'.hasMarker u j = true → s.hasMarker u j = true) : r.Swept u s' := by
  have hfalse : ∀ j ∈ r.old, s.hasMarker u j = false → s'.hasMarker u j = false :=
    fun j hj hf => Bool.eq_false_iff.2 fun h' => Bool.eq_false_iff.1 hf (hm j hj h')
  cases r with
  | start => trivial
  | scan old => trivial
  | unlink old keys last => exact fun hl j hj => (h hl j hj).imp_right (hfalse j hj)
  | _ => exact fun j hj => hfalse j hj (h j hj)

theorem RevokePc.swept_afterBatch {u : UserId} {s : Store} {old : List Jti} {last : Bool}
    (h : last = true → ∀ j ∈ old, s.hasMarker u j = false) : (afterBatch old last).Swept u s := by
  cases last with
  | true => exact h rfl
  | false => trivial

/-- **What one `SCAN` achieves**: when its cursor is back at `'0'`, every marker
it owed is gone or in its answer. -/
theorem RevokePc.swept_scanned {u : UserId} {s : Store} {old : List Jti} {c : ScanReply}
    (h : c.allowed u s old = true) :
    (if c.keys = [] then afterBatch old c.last else .unlink old c.keys c.last).Swept u s := by
  obtain ⟨-, hlast⟩ := (Bool.and_eq_true ..).mp h
  have hout : c.last = true → ∀ j ∈ old, j ∈ c.keys ∨ s.hasMarker u j = false := fun hl j hj => by
    rw [hl, Bool.not_true, Bool.false_or, List.all_eq_true] at hlast
    simpa using hlast j hj
  split_ifs with hk
  · exact swept_afterBatch fun hl j hj => (hout hl j hj).resolve_left (by simp [hk])
  · exact hout

/-- **One step of the revocation** keeps what its scan has achieved. -/
theorem RevokePc.Moves.swept {cfg : JwtConfig} {u : UserId} {s : Store} {r r' : RevokePc}
    {cmd : Command} (h : r.Moves u s cmd r') (hs : r.Swept u s) : r'.Swept u (cmd.exec cfg s) := by
  have hmono : ∀ {cmd : Command} {j}, (∀ u j, cmd ≠ .setMarker u j) →
      s.hasMarker u j = false → (cmd.exec cfg s).hasMarker u j = false := fun hc hf =>
    Bool.eq_false_iff.2 fun hm => by
      rcases Command.hasMarker_exec cfg s _ hm with h | h
      · exact hc _ _ h
      · exact Bool.eq_false_iff.1 hf h
  cases h with
  | first c h => exact swept_scanned h
  | scanned old c h => exact swept_scanned h
  | unlinked old keys last =>
      refine swept_afterBatch fun hl j hj => ?_
      rcases hs hl j hj with hk | hf
      · refine Bool.eq_false_iff.2 fun hm => Expiring.get_ne_none_of_has hm ?_
        exact (get_cacheDelByPattern ..).trans (if_pos (by simp [Store.swept, hk]))
      · exact hmono (by rintro _ _ ⟨⟩) hf
  | denied old jti ttl todo => exact fun j hj => hmono (by rintro _ _ ⟨⟩) (hs j hj)
  | revoked old => exact fun j hj => absurd hj List.not_mem_nil
  | _ => exact hs

variable {ι : Type}

/-- No request holds the session as pending. -/
def Settled (S : Sys Store ι Pc) (t : RefreshTokenPayload) : Prop :=
  ∀ i, (S.pc i).pending ≠ some t

/-- What holds while request `a` revokes all sessions of `u`, and after. -/
structure Revoking (cfg : JwtConfig) (a : ι) (u : UserId) (S : Sys Store ι Pc) (r : RevokePc) :
    Prop where
  coherent : Coherent cfg S
  pc : S.pc a = .revokeAll u r
  old_lt : ∀ j ∈ r.old, j < S.shared.uuids
  unwritten : ∀ i t user issued, S.pc i = .refresh (.setMarker t user issued) →
    issued.refreshToken.sub = u → issued.refreshToken.jti ∉ r.old
  swept : r.Swept u S.shared
  closed : r = .done → ∀ t ∈ S.shared.signedRefresh, t.sub = u → Settled S t → Closed t S.shared

namespace Revoking

variable {cfg : JwtConfig} {a : ι} {u : UserId} {S : Sys Store ι Pc} {r : RevokePc}

theorem tick (h : Revoking cfg a u S r) (d : Millis) :
    Revoking cfg a u { S with shared := S.shared.tick d } r where
  coherent := h.coherent.tick d
  pc := h.pc
  old_lt := h.old_lt
  unwritten := h.unwritten
  swept := h.swept.mono fun _ _ => hasMarker_of_tick
  closed hr t ht hu hs := (h.closed hr t ht hu hs).tick d

variable [DecidableEq ι]

end Revoking

variable [DecidableEq ι]

/-- The request has ended. -/
def Pc.ended : Pc → Bool
  | .refresh (.returned _) => true
  | .refresh (.failed _) => true
  | .revokeAll _ .done => true
  | _ => false

end Auth
end TopChoice
