/-
# The limiter of the chat

`app/core/rate_limit.py`, with `incr_with_expiry` of `app/core/redis.py` and `optional_user` of
`app/core/security.py`.  A request is counted under its user's id, or under the address it
comes from: the first entry of `X-Forwarded-For` when the header is sent, the peer otherwise.
The identity says which of the two it is, and the key in Redis leaves that out.

So two users share a bucket only when they are one.  Two guests share one when they give the
same address, and a guest shares the bucket of the user whose id it gives for its address
(`follow_principals_iff`).  The windows kept in the process go by the identity, and have no
guest in the bucket of a user (`clientIdentity_eq_iff`).

How a token is verified is a parameter.
-/

import TopChoice.Lib.Dictionary
import TopChoice.Lib.FixedWindow
import TopChoice.Rag.PyText
import Mathlib.Data.Rat.Floor

namespace TopChoice
namespace Rag
namespace RateLimit

open FixedWindow

/-! ### Callers -/

/-- `AuthUser`; a token without a subject is rejected. -/
structure AuthUser where
  id : String
  nonempty : id ≠ ""
  deriving DecidableEq

/-- A request: its headers, their names in lower case, and the host of its peer. -/
structure Request where
  headers : List (String × String) := []
  client : Option String := none
  deriving DecidableEq, Repr

/-- `request.headers.get`. -/
def Request.get (request : Request) (name : String) : Option String :=
  (request.headers.find? fun header => header.1 = name).map Prod.snd

/-- The text up to a separator, and the rest behind it. -/
def partition (separator : Char) (s : String) : String × String :=
  let before := s.toList.takeWhile (· ≠ separator)
  (String.ofList before, String.ofList (s.toList.drop (before.length + 1)))

/-- `_bearer_token`. -/
def bearerToken (unicode : Unicode) (request : Request) : Option String :=
  match request.get "authorization" with
  | none => none
  | some header =>
    let (scheme, token) := partition ' ' header
    if header = "" ∨ unicode.lower scheme ≠ "bearer" ∨ strip token = "" then none
    else some (strip token)

/-- `optional_user`; `decode` is `decode_access_token`. -/
def optionalUser {ε : Type} (unicode : Unicode) (decode : String → Except ε AuthUser)
    (request : Request) : Except ε (Option AuthUser) :=
  match bearerToken unicode request with
  | none => .ok none
  | some token => (decode token).map some

/-- The address a guest is counted under. -/
def Request.address (request : Request) : String :=
  match request.get "x-forwarded-for" with
  | some forwarded =>
    if forwarded ≠ "" then strip (partition ',' forwarded).1 else request.client.getD "unknown"
  | none => request.client.getD "unknown"

/-- `client_identity`. -/
def clientIdentity (request : Request) : Option AuthUser → String
  | some user => "user:" ++ user.id
  | none => "ip:" ++ request.address

/-! ### Counters -/

/-- A window kept in the process: when it began, and its count. -/
abbrev LocalWindow := ℚ × ℕ

/-- The counters in Redis by their keys, and the windows of the process by scope and
identity. -/
structure Limits where
  redis : String → Option Counter
  windows : String → AList fun _ : String => LocalWindow

/-- The clocks, and what becomes of the commands to Redis. -/
structure Circumstances where
  now : ℕ
  monotonic : ℚ
  connected : Bool
  pipeline : Outcome
  expire : Outcome

/-- `int`. -/
def truncate (q : ℚ) : ℤ := if 0 ≤ q then ⌊q⌋ else ⌈q⌉

/-- `incr_with_expiry`: the count, the seconds left, and the counters. -/
def incrWithExpiry (env : Circumstances) (key : String) (window : ℤ)
    (redis : String → Option Counter) : (ℕ × ℤ) × (String → Option Counter) :=
  if !env.connected then ((0, window), redis)
  else
    let counted := incr env.now (redis key)
    let after := Function.update redis key (some counted)
    let ttl := ttl env.now (some counted)
    match env.pipeline with
    | .failed => ((0, window), redis)
    | .lost => ((0, window), after)
    | .answered =>
      if ttl < 0 then
        let armed := Function.update redis key (FixedWindow.expire env.now window (some counted))
        match env.expire with
        | .answered => ((counted.count, window), armed)
        | .failed => ((0, window), after)
        | .lost => ((0, window), armed)
      else ((counted.count, ttl), after)

/-- `_local_hit`. -/
def localHit (now : ℚ) (identity : String) (window : ℤ)
    (bucket : AList fun _ : String => LocalWindow) :
    (ℕ × ℤ) × AList fun _ : String => LocalWindow :=
  let kept := (bucket.lookup identity).getD (now, 0)
  let (start, count) := if window ≤ now - kept.1 then (now, 0) else kept
  let counted := bucket.insert identity (start, count + 1)
  let swept :=
    if 10000 < counted.keys.length then
      Dictionary.select (fun _ entry => !decide (window ≤ now - entry.1)) counted
    else counted
  ((count + 1, max 1 (truncate (window - (now - start)))), swept)

/-- `RateLimitedError`. -/
structure RateLimitedError where
  retryAfter : ℤ
  deriving DecidableEq, Repr

/-- The key in Redis of an identity. -/
def bucketKey (scope identity : String) : String :=
  "ratelimit:" ++ scope ++ ":" ++ (partition ':' identity).2

/-- `enforce_rate_limit`. -/
def enforceRateLimit (enabled : Bool) (env : Circumstances) (request : Request) (scope : String)
    (limit window : ℤ) (user : Option AuthUser) (limits : Limits) :
    Except RateLimitedError Unit × Limits :=
  if !enabled || limit ≤ 0 then (.ok (), limits)
  else
    let identity := clientIdentity request user
    let ((count, ttl), redis) := incrWithExpiry env (bucketKey scope identity) window limits.redis
    let limits := { limits with redis := redis }
    let ((count, ttl), limits) :=
      if count = 0 then
        let (hit, bucket) := localHit env.monotonic identity window (limits.windows scope)
        (hit, { limits with windows := Function.update limits.windows scope bucket })
      else ((count, ttl), limits)
    if limit < count then (.error ⟨max 1 ttl⟩, limits) else (.ok (), limits)

/-- The dependency `rate_limit`. -/
def rateLimit {ε : Type} (unicode : Unicode) (decode : String → Except ε AuthUser)
    (enabled : Bool) (env : Circumstances) (request : Request) (scope : String)
    (limit window : ℤ) (limits : Limits) : Except (ε ⊕ RateLimitedError) Unit × Limits :=
  match optionalUser unicode decode request with
  | .error e => (.error (.inl e), limits)
  | .ok user =>
    let (result, limits) := enforceRateLimit enabled env request scope limit window user limits
    (result.mapError .inr, limits)

/-! ### Buckets -/

/-- The text a request is counted under. -/
def nameOf (request : Request) : Option AuthUser → String
  | some user => user.id
  | none => request.address

/-- What is behind the first separator. -/
theorem partition_snd {separator : Char} {tag : List Char} {s rest : String}
    (hs : s.toList = tag ++ separator :: rest.toList) (htag : ∀ c ∈ tag, c ≠ separator) :
    (partition separator s).2 = rest := by
  have hbefore : s.toList.takeWhile (· ≠ separator) = tag := by
    rw [hs, List.takeWhile_append_of_pos fun c hc => decide_eq_true (htag c hc),
      List.takeWhile_cons_of_neg (by simp), List.append_nil]
  simp only [partition]
  rw [hbefore, hs, List.drop_append, List.drop_of_length_le (Nat.le_succ _),
    Nat.add_sub_cancel_left, List.drop_one, List.tail_cons, List.nil_append, String.ofList_toList]

/-- The key leaves out what an identity is. -/
theorem bucketKey_clientIdentity (scope : String) (request : Request) (user : Option AuthUser) :
    bucketKey scope (clientIdentity request user) =
      "ratelimit:" ++ scope ++ ":" ++ nameOf request user := by
  have hrest : (partition ':' (clientIdentity request user)).2 = nameOf request user := by
    cases user with
    | some user =>
      have htag : ∀ c ∈ ['u', 's', 'e', 'r'], c ≠ ':' := by simp
      exact partition_snd (String.toList_append ..) htag
    | none =>
      have htag : ∀ c ∈ ['i', 'p'], c ≠ ':' := by simp
      exact partition_snd (String.toList_append ..) htag
  rw [bucketKey, hrest]

/-- Two requests are counted in one bucket of a scope. -/
def SameBucket (scope : String) (request request' : Request) (user user' : Option AuthUser) :
    Prop :=
  bucketKey scope (clientIdentity request user) = bucketKey scope (clientIdentity request' user')

theorem sameBucket_iff {scope : String} {request request' : Request}
    {user user' : Option AuthUser} :
    SameBucket scope request request' user user' ↔ nameOf request user = nameOf request' user' := by
  rw [SameBucket, bucketKey_clientIdentity, bucketKey_clientIdentity]
  exact String.append_right_inj _

/-- The command to Redis leaves the other keys as they are. -/
theorem incrWithExpiry_of_ne (env : Circumstances) {key other : String} (window : ℤ)
    (redis : String → Option Counter) (h : other ≠ key) :
    (incrWithExpiry env key window redis).2 other = redis other := by
  have hupdate : ∀ value : Option Counter, Function.update redis key value other = redis other :=
    fun value => Function.update_of_ne h ..
  simp only [incrWithExpiry]
  by_cases hconnected : (!env.connected) = true
  · rw [if_pos hconnected]
  rw [if_neg hconnected]
  cases env.pipeline with
  | failed => rfl
  | lost => exact hupdate _
  | answered =>
    dsimp only
    split_ifs
    · cases env.expire <;> exact hupdate _
    · exact hupdate _

/-- The count of a key, where Redis answers. -/
theorem incrWithExpiry_of_answered {env : Circumstances} (hconnected : env.connected = true)
    (hpipeline : env.pipeline = .answered) (hexpire : env.expire = .answered) (key : String)
    (window : ℤ) (redis : String → Option Counter) :
    (incrWithExpiry env key window redis).1.1 = (incr env.now (redis key)).count := by
  simp only [incrWithExpiry]
  rw [hconnected, hpipeline, hexpire]
  dsimp only
  split_ifs
  · exact absurd ‹_› (by decide)
  · rfl
  · rfl

/-- What is counted in Redis is what the command counts, and the process may count as well. -/
theorem enforceRateLimit_redis (enabled : Bool) (env : Circumstances) (request : Request)
    (scope : String) (limit window : ℤ) (user : Option AuthUser) (limits : Limits) :
    (enforceRateLimit enabled env request scope limit window user limits).2.redis =
      if !enabled || limit ≤ 0 then limits.redis
      else (incrWithExpiry env (bucketKey scope (clientIdentity request user)) window
        limits.redis).2 := by
  unfold enforceRateLimit
  split_ifs
  · rfl
  · dsimp only
    split_ifs <;> rfl

/-- **A request is counted in one bucket**, the one of its identity. -/
theorem enforceRateLimit_of_ne (enabled : Bool) (env : Circumstances) (request : Request)
    (scope : String) (limit window : ℤ) (user : Option AuthUser) (limits : Limits) {key : String}
    (hkey : key ≠ bucketKey scope (clientIdentity request user)) :
    (enforceRateLimit enabled env request scope limit window user limits).2.redis key =
      limits.redis key := by
  rw [enforceRateLimit_redis]
  split_ifs
  · rfl
  · exact incrWithExpiry_of_ne env window limits.redis hkey

/-- **What decides is the count of the bucket**, where Redis answers. -/
theorem enforceRateLimit_of_answered {env : Circumstances} (hconnected : env.connected = true)
    (hpipeline : env.pipeline = .answered) (hexpire : env.expire = .answered)
    (request : Request) (scope : String) {limit : ℤ} (hlimit : 0 < limit) (window : ℤ)
    (user : Option AuthUser) (limits : Limits) :
    (enforceRateLimit true env request scope limit window user limits).1.isOk =
      !decide (limit < (incr env.now
        (limits.redis (bucketKey scope (clientIdentity request user)))).count) := by
  have hcount := incrWithExpiry_of_answered hconnected hpipeline hexpire
    (bucketKey scope (clientIdentity request user)) window limits.redis
  have hnonzero : (incr env.now
      (limits.redis (bucketKey scope (clientIdentity request user)))).count ≠ 0 := by
    unfold incr
    split <;> exact Nat.succ_ne_zero _
  rw [← hcount] at hnonzero ⊢
  simp only [enforceRateLimit]
  rw [if_neg (by simpa using hlimit.not_ge), if_neg hnonzero]
  split_ifs with hover
  · rw [decide_eq_true hover]
    rfl
  · rw [decide_eq_false hover]
    rfl

/-- A user and a guest are never counted together. -/
theorem user_ne_ip (s t : String) : "user:" ++ s ≠ "ip:" ++ t := by
  intro h
  have hchars := congrArg (fun s => s.toList.head?) h
  simp only [String.toList_append] at hchars
  have huser : "user:".toList = 'u' :: "ser:".toList := by decide
  have hip : "ip:".toList = 'i' :: "p:".toList := by decide
  rw [huser, hip] at hchars
  exact absurd (Option.some.inj hchars) (by decide)

/-- The windows of the process tell users and guests apart. -/
theorem clientIdentity_eq_iff {request request' : Request} {user user' : Option AuthUser} :
    clientIdentity request user = clientIdentity request' user' ↔
      user.isSome = user'.isSome ∧ nameOf request user = nameOf request' user' := by
  cases user with
  | some user =>
    cases user' with
    | some user' => exact (String.append_right_inj _).trans ⟨fun h => ⟨rfl, h⟩, And.right⟩
    | none => exact iff_of_false (user_ne_ip _ _) nofun
  | none =>
    cases user' with
    | some user' => exact iff_of_false (fun h => user_ne_ip _ _ h.symm) nofun
    | none => exact (String.append_right_inj _).trans ⟨fun h => ⟨rfl, h⟩, And.right⟩

/-- Two requests come from one peer. -/
def SamePeer (request request' : Request) : Prop :=
  ∃ host, request.client = some host ∧ request'.client = some host

/-- Two requests are by one principal: by the same user, or by guests at the same peer. -/
def SamePrincipal (request request' : Request) : Option AuthUser → Option AuthUser → Prop
  | some user, some user' => user.id = user'.id
  | none, none => SamePeer request request'
  | _, _ => False

/-- The addresses of guests tell what their peers do, and none is the id of a user. -/
def AddressesTell (request request' : Request) : Option AuthUser → Option AuthUser → Prop
  | some _, some _ => True
  | some user, none => request'.address ≠ user.id
  | none, some user => request.address ≠ user.id
  | none, none => request.address = request'.address ↔ SamePeer request request'

/-- **Buckets follow principals** for two requests exactly when the addresses of the guests
among them tell what their peers do, and none is the id of the other's user. -/
theorem follow_principals_iff (scope : String) (request request' : Request)
    (user user' : Option AuthUser) :
    (SameBucket scope request request' user user' ↔ SamePrincipal request request' user user') ↔
      AddressesTell request request' user user' := by
  rw [sameBucket_iff]
  cases user with
  | some user =>
    cases user' with
    | some user' => exact iff_of_true Iff.rfl trivial
    | none => exact (Iff.of_eq (iff_false _)).trans (not_congr eq_comm)
  | none =>
    cases user' with
    | some user' => exact Iff.of_eq (iff_false _)
    | none => exact Iff.rfl

/-- A guest who sends no header is counted under its peer. -/
theorem address_of_no_header {request : Request} {host : String}
    (hheader : request.get "x-forwarded-for" = none ∨ request.get "x-forwarded-for" = some "")
    (hclient : request.client = some host) : request.address = host := by
  unfold Request.address
  rcases hheader with h | h
  · rw [h, hclient]
    rfl
  · rw [h, hclient]
    rfl

/-- The addresses of guests who send no header tell what their peers do. -/
theorem addressesTell_of_no_header {request request' : Request} {host host' : String}
    (hheader : request.get "x-forwarded-for" = none ∨ request.get "x-forwarded-for" = some "")
    (hheader' : request'.get "x-forwarded-for" = none ∨ request'.get "x-forwarded-for" = some "")
    (hclient : request.client = some host) (hclient' : request'.client = some host') :
    AddressesTell request request' none none := by
  show request.address = request'.address ↔ SamePeer request request'
  rw [address_of_no_header hheader hclient, address_of_no_header hheader' hclient']
  constructor
  · rintro rfl
    exact ⟨host, hclient, hclient'⟩
  · rintro ⟨peer, hpeer, hpeer'⟩
    exact Option.some.inj ((hclient.symm.trans hpeer).trans (hpeer'.symm.trans hclient'))

/-- A guest at a peer, with what it gives for its address. -/
def guestAt (host forwarded : String) : Request where
  headers := [("x-forwarded-for", forwarded)]
  client := some host

/-- A guest splits itself, and counts as a user. -/
theorem not_follow_principals_forwarded :
    ¬ (SameBucket "chat:message" (guestAt "203.0.113.7" "a") (guestAt "203.0.113.7" "b") none none ↔
        SamePrincipal (guestAt "203.0.113.7" "a") (guestAt "203.0.113.7" "b") none none) ∧
      ¬ (SameBucket "chat:message" (guestAt "203.0.113.7" "u1") {} none
          (some ⟨"u1", by decide⟩) ↔
        SamePrincipal (guestAt "203.0.113.7" "u1") {} none (some ⟨"u1", by decide⟩)) := by
  refine ⟨fun h => ?_, fun h => ?_⟩
  · have hsame := h.2 ⟨_, rfl, rfl⟩
    exact absurd (sameBucket_iff.1 hsame) (by decide +kernel)
  · exact h.1 (sameBucket_iff.2 (by decide +kernel))

end RateLimit
end Rag
end TopChoice
