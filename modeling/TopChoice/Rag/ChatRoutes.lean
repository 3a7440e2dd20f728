/-
# The chat endpoints

`apps/rag-svc/app/api/chat_routes.py`: a conversation is opened by the account that owns it, or
with the guest token it was created with; a turn is answered at once or as a stream, whose
frames are kept for an hour; an answer is rated.  Requests are answered one after another, each
with what the rest of the world is at the time.

A request is let into one conversation at most (`subject`), and what is told to the others is
the same as if that conversation had never been (`told_without_conversation`).

Left out: the rate limits in front of the handlers, and clients that go away before the end of
a stream.
-/

import TopChoice.Rag.ChatStore
import TopChoice.Rag.StreamedTurn

namespace TopChoice
namespace Rag
namespace Chat

open Agent Effects Locality

/-- `ApiError`. -/
structure ApiError where
  status : ℕ
  code : String
  message : String
  deriving DecidableEq, Repr

/-- The settings. -/
structure Settings where
  jwtAccessSecret : String
  internalServiceToken : String
  ragMemoryWindow : ℤ
  usesLanggraph : Bool

/-- `AuthUser`. -/
structure AuthUser where
  id : String
  name : Option String := none
  email : Option String := none

/-- Who makes a request, and what comes with it. -/
structure Caller where
  user : Option AuthUser
  accessToken : Option String
  guestToken : Option String

/-- The requests, as the handlers get them. -/
inductive Request where
  | createThread (locale : String) (title : Option String) (metadata : List (String × Json))
  | listMessages (threadId : String) (page limit : ℕ)
  | message (message : String) (threadId : Option String) (stream : Bool) (locale : Option String)
  | replay (threadId : String)
  | feedback (messageId : String) (rating : ℤ) (comment : Option String)

/-- A request that arrives, and what the world is by then: the ids the database will make, the
clock, whether Redis answers, what the checkpointer holds, and the rest. -/
structure Arrival (ρ : Type) where
  caller : Caller
  request : Request
  requestId : Option String
  ids : List Uuid
  now : ℕ
  redis : Bool
  checkpoint : TurnState
  outside : ρ

/-- A frame of a stream. -/
inductive Frame where
  | opened (threadId : Uuid) (guestToken : String)
  | event (event : Event)

/-- `_message_dict`. -/
structure MessageItem where
  id : Uuid
  threadId : Uuid
  role : Role
  content : String
  sources : List Json
  toolCalls : List ToolRecord
  tokens : Option ℕ
  latency : Option ℕ
  rating : Option ℤ
  createdAt : ℕ

/-- What a request is answered with. -/
inductive Answer where
  | thread (threadId : Uuid) (locale : String) (title : Option String)
      (createdAt lastMessageAt : ℕ) (guestToken : Option String)
  | messages (items : List MessageItem) (page limit total : ℕ)
  | turn (turn : AgentTurn) (guestToken : Option String)
  | stream (frames : List Frame)
  | recorded (messageId : String) (recorded : Bool)

/-- The frames kept for a replay. -/
structure Buffer where
  frames : List Event
  expiresAt : ℕ

/-- The tables and the replay buffers. -/
structure Service where
  tables : Tables
  buffers : String → Option Buffer

/-- Nothing is stored yet. -/
def Service.start : Service := ⟨.empty, fun _ => none⟩

/-- `STREAM_TTL_SECONDS`, in milliseconds. -/
def streamTtl : ℕ := 3600 * 1000

/-- `chat:stream:{thread_id}`. -/
def streamKey (threadId : String) : String := "chat:stream:" ++ threadId

section Routes

variable {ρ : Type} (rt : ChatRuntime) (settings : Settings) (base : Collaborators ρ) (fuel : ℕ)

/-! ### Who is let in -/

/-- `_guest_token`. -/
def guestToken (threadId : Uuid) : String :=
  let secret :=
    if settings.jwtAccessSecret ≠ "" then settings.jwtAccessSecret
    else if settings.internalServiceToken ≠ "" then settings.internalServiceToken
    else "topchoice"
  String.ofList ((rt.hexdigest secret ("thread:" ++ threadId.text)).toList.take 32)

/-- What is answered where a handler raises. -/
def internalError : ApiError := ⟨500, "INTERNAL_ERROR", "Internal server error"⟩

/-- `_authorise_thread`.  Two texts are compared only if they are ASCII. -/
def authoriseThread (id : Uuid) (conversation : Conversation) (caller : Caller) :
    Except ApiError Unit :=
  match conversation.userId, caller.guestToken.filter (· ≠ "") with
  | some owner, _ =>
      if caller.user.map AuthUser.id = some owner.text then .ok ()
      else .error ⟨403, "FORBIDDEN", "This conversation belongs to another account"⟩
  | none, none =>
      .error ⟨403, "FORBIDDEN", "A guest token is required to read this conversation"⟩
  | none, some token =>
      if token = guestToken rt settings id then .ok ()
      else if token.toList.all fun c => c.toNat < 128 then
        .error ⟨403, "FORBIDDEN", "A guest token is required to read this conversation"⟩
      else .error internalError

/-- A conversation is got by the text of its id, and opened. -/
def openThread (t : Tables) (caller : Caller) (threadId : String) :
    Except ApiError (Uuid × Conversation) :=
  match (rt.uuid threadId).bind fun id => (t.threads id).map (id, ·) with
  | none => .error ⟨404, "THREAD_NOT_FOUND", "Thread '" ++ threadId ++ "' was not found"⟩
  | some (id, conversation) => do
      authoriseThread rt settings id conversation caller
      return (id, conversation)

/-- The conversation of a message is got, and opened. -/
def openMessage (t : Tables) (caller : Caller) (messageId : String) : Except ApiError (Uuid × Uuid) :=
  match (rt.uuid messageId).bind fun message => (t.threadOf message).map (message, ·) with
  | none => .error ⟨404, "MESSAGE_NOT_FOUND", "Message '" ++ messageId ++ "' was not found"⟩
  | some (message, id) =>
      match t.threads id with
      | none => .error ⟨404, "THREAD_NOT_FOUND", "Thread was not found"⟩
      | some conversation => do
          authoriseThread rt settings id conversation caller
          return (message, id)

/-- A new conversation of the caller. -/
def newConversation (caller : Caller) (now : ℕ) (locale : String) (title : Option String)
    (metadata : List (String × Json)) : Conversation :=
  ⟨(caller.user.map AuthUser.id).bind rt.uuid, title, locale, now, now, metadata, [], []⟩

/-- A new conversation is stored, under the first of the ids; the others are left. -/
def storeThread (t : Tables) (ids : List Uuid) (conversation : Conversation) :
    Except ApiError (Tables × Uuid × List Uuid) :=
  match ids with
  | [] => .error internalError
  | id :: ids =>
      match t.createThread id conversation with
      | none => .error internalError
      | some t => .ok (t, id, ids)

/-! ### The handlers -/

/-- `create_thread`. -/
def createThread (s : Service) (a : Arrival ρ) (locale : String) (title : Option String)
    (metadata : List (String × Json)) : Except ApiError Answer × Service :=
  match storeThread s.tables a.ids (newConversation rt a.caller a.now locale title metadata) with
  | .error e => (.error e, s)
  | .ok (tables, id, _) =>
      (.ok (.thread id locale title a.now a.now
        (if a.caller.user.isSome then none else some (guestToken rt settings id))),
        { s with tables := tables })

/-- A page of the messages of a conversation. -/
def messagesPage (t : Tables) (id : Uuid) (page limit : ℕ) : Answer :=
  let (rows, total) := t.listMessages id limit ((page - 1) * limit)
  .messages (rows.map fun row =>
    ⟨row.id, id, row.role, row.content, row.sources, row.toolCalls, row.tokens, row.latency,
      row.rating, row.createdAt⟩) page limit total

/-- `list_messages`. -/
def listMessages (s : Service) (a : Arrival ρ) (threadId : String) (page limit : ℕ) :
    Except ApiError Answer := do
  let (id, _) ← openThread rt settings s.tables a.caller threadId
  return messagesPage s.tables id page limit

/-- The thread of a message: the one it names, or a new one; with the token its answer carries
and the ids that are left. -/
def resolveThread (t : Tables) (a : Arrival ρ) (locale : String) (threadId : Option String) :
    Except ApiError (Tables × Uuid × Option String × List Uuid) :=
  match threadId.filter (· ≠ "") with
  | some threadId => do
      let (id, conversation) ← openThread rt settings t a.caller threadId
      return (t, id, if conversation.userId.isSome then none else a.caller.guestToken, a.ids)
  | none => do
      let (t, id, ids) ← storeThread t a.ids (newConversation rt a.caller a.now locale none [])
      return (t, id, if a.caller.user.isSome then none else some (guestToken rt settings id), ids)

/-- What a turn is asked with. -/
def turnInput (a : Arrival ρ) (message locale : String) (id : Uuid) : TurnInput where
  question := message
  threadId := some id.text
  userId := a.caller.user.map AuthUser.id
  userName := a.caller.user.bind AuthUser.name
  userEmail := a.caller.user.bind AuthUser.email
  accessToken := a.caller.accessToken
  requestId := a.requestId
  locale := locale

/-- A turn that is answered at once. -/
def answerTurn (t : Tables) (a : Arrival ρ) (ids : List Uuid) (input : TurnInput) :
    Outcome Raised (Tables × Rest ρ) Entry AgentTurn :=
  (answer (collaborators rt settings.ragMemoryWindow base) settings.usesLanggraph fuel
    a.checkpoint input).run (t, ⟨ids, a.now, a.outside⟩)

/-- A turn that is streamed. -/
def streamTurn (t : Tables) (a : Arrival ρ) (ids : List Uuid) (input : TurnInput) :
    Outcome Raised (Tables × Rest ρ) Entry Unit :=
  (stream (collaborators rt settings.ragMemoryWindow base) fuel input).run
    (t, ⟨ids, a.now, a.outside⟩)

/-- The frames that follow those of the events. -/
def lastFrames : Except Raised Unit → List Frame
  | .ok () => []
  | .error _ => [.event (.error "STREAM_FAILED" "The assistant could not finish that reply")]

/-- The frames are kept, if Redis takes them. -/
def keepFrames (buffers : String → Option Buffer) (a : Arrival ρ) (id : Uuid)
    (frames : List Event) : String → Option Buffer :=
  if a.redis then Function.update buffers (streamKey id.text) (some ⟨frames, a.now + streamTtl⟩)
  else buffers

/-- The language of a message. -/
def messageLocale (message : String) (locale : Option String) : String :=
  (locale.filter (· ≠ "")).getD (detectLocale base.python message)

/-- `post_message`, with `_event_stream`. -/
def postMessage (s : Service) (a : Arrival ρ) (message : String) (threadId : Option String)
    (streams : Bool) (locale : Option String) : Except ApiError Answer × Service :=
  let locale := messageLocale base message locale
  match resolveThread rt settings s.tables a locale threadId with
  | .error e => (.error e, s)
  | .ok (t, id, token, ids) =>
      let input := turnInput a message locale id
      if streams then
        let outcome := streamTurn rt settings base fuel t a ids input
        let frames := events outcome.log
        (.ok (.stream ((token.filter (· ≠ "")).toList.map (.opened id) ++ frames.map .event ++
            lastFrames outcome.result)),
          ⟨outcome.world.1, keepFrames s.buffers a id frames⟩)
      else
        let outcome := answerTurn rt settings base fuel t a ids input
        ((outcome.result.mapError fun _ => internalError).map (.turn · (token.filter (· ≠ ""))),
          { s with tables := outcome.world.1 })

/-- `get_json`, of the frames under a key. -/
def keptFrames (s : Service) (a : Arrival ρ) (key : String) : List Event :=
  if a.redis then
    ((s.buffers key).filter fun buffer => a.now < buffer.expiresAt).elim [] Buffer.frames
  else []

/-- The frames of a replay. -/
def replayFrames (frames : List Event) : List Frame :=
  if frames.isEmpty then [.event (.error "NO_ACTIVE_STREAM" "There is nothing to replay")]
  else frames.map .event

/-- `replay_stream`. -/
def replayStream (s : Service) (a : Arrival ρ) (threadId : String) : Except ApiError Answer := do
  let _ ← openThread rt settings s.tables a.caller threadId
  return .stream (replayFrames (keptFrames s a (streamKey threadId)))

/-- `submit_feedback`. -/
def submitFeedback (s : Service) (a : Arrival ρ) (messageId : String) (rating : ℤ)
    (comment : Option String) : Except ApiError Answer × Service :=
  match openMessage rt settings s.tables a.caller messageId with
  | .error e => (.error e, s)
  | .ok (message, _) =>
      let (recorded, tables) := s.tables.rateMessage message rating comment
      (.ok (.recorded messageId recorded), { s with tables := tables })

/-- The service. -/
def respond (s : Service) (a : Arrival ρ) : Except ApiError Answer × Service :=
  match a.request with
  | .createThread locale title metadata => createThread rt settings s a locale title metadata
  | .listMessages threadId page limit => (listMessages rt settings s a threadId page limit, s)
  | .message message threadId streams locale =>
      postMessage rt settings base fuel s a message threadId streams locale
  | .replay threadId => (replayStream rt settings s a threadId, s)
  | .feedback messageId rating comment => submitFeedback rt settings s a messageId rating comment

/-- The conversation a request creates or is let into. -/
def subject (s : Service) (a : Arrival ρ) : Option Uuid :=
  let opened (threadId : String) :=
    (openThread rt settings s.tables a.caller threadId).toOption.map Prod.fst
  match a.request with
  | .createThread _ _ _ => a.ids.head?
  | .listMessages threadId _ _ | .replay threadId => opened threadId
  | .message _ threadId _ _ =>
      match threadId.filter (· ≠ "") with
      | some threadId => opened threadId
      | none => a.ids.head?
  | .feedback messageId _ _ =>
      (openMessage rt settings s.tables a.caller messageId).toOption.map Prod.snd

end Routes

end Chat
end Rag
end TopChoice
