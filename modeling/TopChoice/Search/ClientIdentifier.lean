/-
# Whom the search limiter counts

`client_identifier` of `apps/search-svc/app/core/redis.py` with `optional_user` of
`app/core/security.py`, behind the locations of `infra/nginx/conf.d/topchoice.conf`, which set
the headers of `snippets/proxy-common.inc`.  A caller with a valid token is counted under its
user id, another one under the first entry of `X-Forwarded-For`.

nginx appends the peer to what the client has sent in `X-Forwarded-For`, so the first entry is
the client's whenever it sends the header.  `X-Real-IP` is the peer whatever the client sends,
and is not looked at behind nginx, where `X-Forwarded-For` is never empty.  So two guests at one
peer are counted together exactly when what they give for their first entry is the same
(`sameBucket_at_peer_iff`).

How a token is read and verified is a parameter.
-/

import TopChoice.Rag.RateLimit

namespace TopChoice
namespace Search
namespace ClientIdentifier

open Rag (strip)
open Rag.RateLimit (AuthUser Request partition user_ne_ip)

/-! ### nginx -/

/-- What nginx knows of a connection. -/
structure Connection where
  remoteAddr : String
  nonempty : remoteAddr ≠ ""
  host : String := "localhost"
  scheme : String := "https"
  serverPort : String := "443"
  reqId : String := ""

/-- The values of the `X-Forwarded-For` headers of a client. -/
def forwardedFor (headers : List (String × String)) : List String :=
  (headers.filter fun header => header.1 = "x-forwarded-for").map Prod.snd

/-- `$proxy_add_x_forwarded_for`. -/
def proxyAddXForwardedFor (remoteAddr : String) : List String → String
  | [] => remoteAddr
  | value :: values => value ++ ", " ++ proxyAddXForwardedFor remoteAddr values

/-- The headers set in `proxy-common.inc`. -/
def proxySetHeaders (c : Connection) (headers : List (String × String)) :
    List (String × String) :=
  [ ("host", c.host),
    ("x-real-ip", c.remoteAddr),
    ("x-forwarded-for", proxyAddXForwardedFor c.remoteAddr (forwardedFor headers)),
    ("x-forwarded-proto", c.scheme),
    ("x-forwarded-host", c.host),
    ("x-forwarded-port", c.serverPort),
    ("x-request-id", c.reqId) ]

/-- What search-svc receives: the headers nginx sets, and those of the client nginx does not
set.  `client` is the peer uvicorn reports. -/
def forward (c : Connection) (client : Option String) (headers : List (String × String)) :
    Request where
  headers :=
    proxySetHeaders c headers ++
      headers.filter fun header => header.1 ∉ (proxySetHeaders c headers).map Prod.fst
  client := client

/-! ### search-svc -/

/-- `optional_user`; `bearer` is what `HTTPBearer` takes from a request, and `decode` is
`decode_access_token`. -/
def optionalUser {ε : Type} (bearer : Request → Option String)
    (decode : String → Except ε AuthUser) (request : Request) : Option AuthUser :=
  match bearer request with
  | none => none
  | some credentials => if credentials = "" then none else (decode credentials).toOption

/-- `client_identifier`. -/
def clientIdentifier (request : Request) : Option AuthUser → String
  | some user => "user:" ++ user.id
  | none =>
    let forwarded := (request.get "x-forwarded-for").getD ""
    if forwarded ≠ "" then "ip:" ++ strip (partition ',' forwarded).1
    else
      match request.get "x-real-ip" with
      | some realIp =>
        if realIp ≠ "" then "ip:" ++ strip realIp else "ip:" ++ request.client.getD "unknown"
      | none => "ip:" ++ request.client.getD "unknown"

/-- The bucket of a request in a scope. -/
def bucketKey (scope : String) (request : Request) (user : Option AuthUser) : String :=
  "ratelimit:" ++ scope ++ ":" ++ clientIdentifier request user

/-- The key `RateLimiter._enforce` hits. -/
def limiterKey {ε : Type} (bearer : Request → Option String)
    (decode : String → Except ε AuthUser) (scope : String) (request : Request) : String :=
  bucketKey scope request (optionalUser bearer decode request)

/-! ### Buckets -/

/-- The first entry of `X-Forwarded-For`, as the client gives it. -/
def givenEntry (c : Connection) (headers : List (String × String)) : String :=
  strip (partition ',' ((forwardedFor headers).head?.getD c.remoteAddr)).1

/-- What follows the first separator does not change the part before it. -/
theorem partition_append (s rest : String) : (partition ',' (s ++ ", " ++ rest)).1 =
    (partition ',' s).1 := by
  have htail : (s ++ ", " ++ rest).toList = s.toList ++ ',' :: ' ' :: rest.toList := by
    rw [String.toList_append, String.toList_append, List.append_assoc]
    rfl
  have hbefore (chars tail : List Char) :
      (chars ++ ',' :: tail).takeWhile (· ≠ ',') = chars.takeWhile (· ≠ ',') := by
    rw [List.takeWhile_append]
    split_ifs
    next hall => rw [List.takeWhile_cons_of_neg (by simp), List.append_nil,
      (List.takeWhile_prefix _).eq_of_length hall]
    next => rfl
  simp only [partition]
  rw [htail, hbefore]

theorem partition_proxyAddXForwardedFor (remoteAddr : String) (values : List String) :
    (partition ',' (proxyAddXForwardedFor remoteAddr values)).1 =
      (partition ',' (values.head?.getD remoteAddr)).1 := by
  cases values with
  | nil => rfl
  | cons value values => exact partition_append value _

/-- nginx never passes an empty `X-Forwarded-For` on. -/
theorem proxyAddXForwardedFor_ne (c : Connection) (values : List String) :
    proxyAddXForwardedFor c.remoteAddr values ≠ "" := by
  cases values with
  | nil => exact c.nonempty
  | cons value values =>
    intro h
    have hempty := String.append_eq_empty_iff.1 h
    exact absurd (String.append_eq_empty_iff.1 hempty.1).2 (by decide)

/-- What search-svc finds in `X-Forwarded-For`. -/
theorem get_forward (c : Connection) (client : Option String) (headers : List (String × String)) :
    (forward c client headers).get "x-forwarded-for" =
      some (proxyAddXForwardedFor c.remoteAddr (forwardedFor headers)) :=
  rfl

/-- **A guest behind nginx is counted under the first entry it gives.** -/
theorem clientIdentifier_forward (c : Connection) (client : Option String)
    (headers : List (String × String)) :
    clientIdentifier (forward c client headers) none = "ip:" ++ givenEntry c headers := by
  have hforwarded := proxyAddXForwardedFor_ne c (forwardedFor headers)
  rw [clientIdentifier, get_forward, Option.getD_some, if_pos hforwarded,
    partition_proxyAddXForwardedFor, givenEntry]

/-- Two callers at one peer are one to the limiter: they are the same user, or guests that give
the same first entry. -/
def SameCaller (c : Connection) (headers headers' : List (String × String)) :
    Option AuthUser → Option AuthUser → Prop
  | some user, some user' => user.id = user'.id
  | none, none => givenEntry c headers = givenEntry c headers'
  | _, _ => False

section Buckets

variable (scope : String) (c c' : Connection) (client client' : Option String)
  (headers headers' : List (String × String))

/-- What two callers at one peer are counted under. -/
theorem bucketKey_eq_iff (hpeer : c.remoteAddr = c'.remoteAddr) (user user' : Option AuthUser) :
    bucketKey scope (forward c client headers) user =
        bucketKey scope (forward c' client' headers') user' ↔
      SameCaller c headers headers' user user' := by
  have hgiven : givenEntry c headers' = givenEntry c' headers' := by
    rw [givenEntry, givenEntry, hpeer]
  rw [bucketKey, bucketKey, String.append_right_inj]
  cases user with
  | some user =>
    cases user' with
    | some user' => exact String.append_right_inj _
    | none =>
      rw [clientIdentifier_forward]
      exact iff_of_false (user_ne_ip _ _) id
  | none =>
    cases user' with
    | some user' =>
      rw [clientIdentifier_forward]
      exact iff_of_false (user_ne_ip _ _).symm id
    | none =>
      rw [clientIdentifier_forward, clientIdentifier_forward, ← hgiven]
      exact String.append_right_inj _

/-- Guests that send no `X-Forwarded-For` are counted under their peer, whatever they send in
`X-Real-IP`. -/
theorem bucketKey_of_not_forwarded (hpeer : c.remoteAddr = c'.remoteAddr)
    (hheaders : forwardedFor headers = []) (hheaders' : forwardedFor headers' = []) :
    bucketKey scope (forward c client headers) none =
      bucketKey scope (forward c' client' headers') none := by
  refine (bucketKey_eq_iff scope c c' client client' headers headers' hpeer none none).2 ?_
  show givenEntry c headers = givenEntry c headers'
  rw [givenEntry, givenEntry, hheaders, hheaders']

/-- **Two requests at one peer share their bucket** exactly when their callers are one user, or
guests that give the same first entry. -/
theorem sameBucket_at_peer_iff {ε : Type} (bearer : Request → Option String)
    (decode decode' : String → Except ε AuthUser) (hpeer : c.remoteAddr = c'.remoteAddr) :
    limiterKey bearer decode scope (forward c client headers) =
        limiterKey bearer decode' scope (forward c' client' headers') ↔
      SameCaller c headers headers' (optionalUser bearer decode (forward c client headers))
        (optionalUser bearer decode' (forward c' client' headers')) :=
  bucketKey_eq_iff scope c c' client client' headers headers' hpeer _ _

end Buckets

/-- A connection from a peer. -/
def demoConnection : Connection where
  remoteAddr := "203.0.113.7"
  nonempty := by decide

/-- Two guests at the peer that give the same first entry. -/
theorem sameBucket_at_peer_iff_demo :
    limiterKey (Rag.RateLimit.bearerToken Rag.Unicode.ascii) (fun _ => .error ()) "search"
        (forward demoConnection none [("x-forwarded-for", "a, b")]) =
      limiterKey (Rag.RateLimit.bearerToken Rag.Unicode.ascii) (fun _ => .error ()) "search"
        (forward demoConnection none [("x-real-ip", "c"), ("x-forwarded-for", " a ,d")]) :=
  (sameBucket_at_peer_iff "search" demoConnection demoConnection none none _ _ _ _ _ rfl).2
    (show givenEntry demoConnection _ = givenEntry demoConnection _ by decide +kernel)

/-- A guest behind nginx chooses its bucket. -/
theorem guest_chooses_bucket :
    limiterKey (Rag.RateLimit.bearerToken Rag.Unicode.ascii) (fun _ => .error ()) "search"
        (forward demoConnection none [("x-forwarded-for", "a")]) ≠
      limiterKey (Rag.RateLimit.bearerToken Rag.Unicode.ascii) (fun _ => .error ()) "search"
        (forward demoConnection none [("x-forwarded-for", "b")]) := by
  intro hsame
  have hgiven : givenEntry demoConnection [("x-forwarded-for", "a")] =
      givenEntry demoConnection [("x-forwarded-for", "b")] :=
    (bucketKey_eq_iff "search" demoConnection demoConnection none none _ _ rfl none none).1 hsame
  exact absurd hgiven (by decide +kernel)

end ClientIdentifier
end Search
end TopChoice
