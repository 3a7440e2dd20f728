/-
# The chat panel

`apps/web/src/store/chat.store.ts` and `components/chat/chat-panel.tsx` of one tab: the store
with its actions, and the sends of the panel, whose streams deliver their events in any order
among one another and among what the user does.  A send writes into the message it has put into
the store, which gets the id of the server's message when the stream is done; a stream that was
stopped ends some time later, and a transcript that was asked for may arrive at any time and
takes the place of all messages.

A send goes by the thread and the flag of the render it was called in, which may be an old one.
Whatever happens, an answer on the screen is what was delivered of it, or what the server has
stored of it, and the panel waits only while a stream is open (`panel_faithful`).

`createdAt`, `toolCalls` of a message and its rating's request are left out, as are the guest
token and the scrolling.
-/

import Mathlib.Data.List.Nodup
import TopChoice.Common.Text
import TopChoice.Lib.Machine

namespace TopChoice
namespace Web
namespace ChatPanel

/-! ### The store -/

/-- `ChatRole`. -/
inductive ChatRole where
  | user
  | assistant
  | system
  | tool
  deriving DecidableEq, Repr

/-- `ChatMessage`. -/
structure ChatMessage (S : Type) where
  id : String
  threadId : String
  role : ChatRole
  content : String
  sources : Option (List S) := none
  isStreaming : Bool := false
  error : Option String := none
  rating : Option ℤ := none

/-- `ChatToolCall`. -/
structure ChatToolCall where
  id : String
  name : String
  status : String
  deriving DecidableEq, Repr

/-- `ChatState`. -/
structure ChatState (S : Type) where
  threadId : Option String := none
  messages : List (ChatMessage S) := []
  sources : List S := []
  toolCalls : List ChatToolCall := []
  isOpen : Bool := false
  isStreaming : Bool := false
  streamingMessageId : Option String := none
  input : String := ""
  error : Option String := none
  unreadCount : ℕ := 0

namespace ChatState

variable {S : Type} (s : ChatState S)

/-- `messages.map((message) => message.id === id ? … : message)`. -/
def mapMessage (id : String) (f : ChatMessage S → ChatMessage S) : List (ChatMessage S) :=
  s.messages.map fun message => if message.id = id then f message else message

/-- `appendMessage`. -/
def appendMessage (message : ChatMessage S) : ChatState S :=
  { s with
    messages := s.messages ++ [message]
    unreadCount :=
      if message.role = .assistant && !s.isOpen then s.unreadCount + 1 else s.unreadCount }

/-- `startAssistantMessage`; `id` is the UUID it draws. -/
def startAssistantMessage (id threadId : String) : ChatState S :=
  { s with
    messages := s.messages ++
      [{ id := id, threadId := threadId, role := .assistant, content := "", sources := some [],
         isStreaming := true }]
    streamingMessageId := some id
    isStreaming := true
    error := none }

/-- `appendToken`. -/
def appendToken (messageId token : String) : ChatState S :=
  { s with messages := s.mapMessage messageId fun m => { m with content := m.content ++ token } }

/-- `finishAssistantMessage`. -/
def finishAssistantMessage (messageId : String) (patch : ChatMessage S → ChatMessage S) :
    ChatState S :=
  { s with
    messages := s.mapMessage messageId fun m => { patch m with isStreaming := false }
    isStreaming := false
    streamingMessageId := none
    unreadCount := if s.isOpen then s.unreadCount else s.unreadCount + 1 }

/-- `setSources`. -/
def setSources (sources : List S) (messageId : String) : ChatState S :=
  { s with
    sources := sources
    messages := s.mapMessage messageId fun m => { m with sources := some sources } }

/-- `startToolCall`. -/
def startToolCall (id name : String) : ChatState S :=
  { s with toolCalls := s.toolCalls ++ [⟨id, name, "running"⟩] }

/-- `endToolCall`. -/
def endToolCall (id status : String) : ChatState S :=
  { s with
    toolCalls := s.toolCalls.map fun call => if call.id = id then { call with status } else call }

/-- `setError`. -/
def setError (error : Option String) : ChatState S :=
  { s with error := error, isStreaming := false, streamingMessageId := none }

/-- `rateMessage`. -/
def rateMessage (messageId : String) (rating : ℤ) : ChatState S :=
  { s with messages := s.mapMessage messageId fun m => { m with rating := some rating } }

/-- `toggle`. -/
def toggle : ChatState S :=
  { s with isOpen := !s.isOpen, unreadCount := if s.isOpen then s.unreadCount else 0 }

/-- `resetThread`. -/
def resetThread : ChatState S :=
  { s with
    threadId := none, messages := [], sources := [], toolCalls := [], isStreaming := false
    streamingMessageId := none, error := none, input := "" }

end ChatState

/-! ### Streams -/

/-- `ChatDonePayload`, as far as the panel reads it. -/
structure ChatDonePayload (S : Type) where
  threadId : String
  messageId : Option String := none
  sources : Option (List S) := none

/-- A call of one of the `StreamHandlers`. -/
inductive StreamEvent (S : Type) where
  | token (text : String)
  | sources (sources : List S)
  | toolStart (name route : Option String)
  | toolEnd (name : Option String) (ok : Option Bool)
  | done (payload : ChatDonePayload S)
  | error (message : String)

/-- The text of a token. -/
def StreamEvent.texts {S : Type} : StreamEvent S → List String
  | .token text => [text]
  | _ => []

/-- The data of a frame, as far as `dispatch` reads it. -/
structure StreamPayload (S : Type) where
  text : Option String := none
  sources : Option (List S) := none
  name : Option String := none
  route : Option String := none
  ok : Option Bool := none
  threadId : String := ""
  messageId : Option String := none
  message : Option String := none

/-- `dispatch` of `chat-client.ts`: the handler it calls, if any. -/
def dispatch {S : Type} (event : String) (payload : StreamPayload S) : Option (StreamEvent S) :=
  match event with
  | "token" => some (.token (payload.text.getD ""))
  | "sources" => some (.sources (payload.sources.getD []))
  | "tool_start" => some (.toolStart payload.name payload.route)
  | "tool_end" => some (.toolEnd payload.name payload.ok)
  | "done" => some (.done ⟨payload.threadId, payload.messageId, payload.sources⟩)
  | "error" => some (.error (payload.message.getD "The assistant hit an error."))
  | _ => none

/-- How `streamMessage` ends: it returns, it is aborted, or it throws. -/
inductive Ending where
  | returned
  | aborted
  | threw (message : String)
  deriving DecidableEq, Repr

/-- A send: the id of its message, the texts of the tokens delivered to it, and whether its
stream is open. -/
structure ChatRequest where
  assistantId : String
  texts : List String := []
  isOpen : Bool := true
  deriving DecidableEq, Repr

/-- The panel, with the sends so far; `abortRef` is the place of one. -/
structure Panel (S : Type) where
  store : ChatState S := {}
  requests : List ChatRequest := []
  activeTool : Option String := none
  abortRef : Option ℕ := none

/-- What happens next. -/
inductive PanelEvent (S : Type) where
  /-- `send`, with the thread and the flag of a render, and the UUIDs it draws. -/
  | send (text : String) (threadId : Option String) (isStreaming : Bool)
      (userId assistantId : String)
  | deliver (i : ℕ) (event : StreamEvent S)
  | ends (i : ℕ) (ending : Ending)
  | stop
  /-- The button for a new chat. -/
  | newChat
  /-- The answer to `fetchThreadMessages` arrives. -/
  | restored (history : List (ChatMessage S))
  | rate (messageId : String) (rating : ℤ)
  | setInput (input : String)
  | toggle

namespace Panel

variable {S : Type} (p : Panel S)

/-- `send`. -/
def send (text : String) (threadId : Option String) (isStreaming : Bool)
    (userId assistantId : String) : Panel S :=
  let question := trim text
  if question = "" || isStreaming then p
  else
    let localThreadId := threadId.getD "pending"
    let asked := { p.store.setError none with input := "" }.appendMessage
      { id := userId, threadId := localThreadId, role := .user, content := question }
    { p with
      store := { asked.startAssistantMessage assistantId localThreadId with isStreaming := true }
      requests := p.requests ++ [{ assistantId }]
      abortRef := some p.requests.length }

/-- What the handlers of a send do. -/
def handle (assistantId : String) : StreamEvent S → Panel S
  | .token text => { p with store := p.store.appendToken assistantId text }
  | .sources sources => { p with store := p.store.setSources sources assistantId }
  | .toolStart name route =>
      let name := (name.or route).getD "tool"
      { p with activeTool := some name, store := p.store.startToolCall name name }
  | .toolEnd name ok =>
      { p with
        activeTool := none
        store := p.store.endToolCall (name.getD "tool")
          (if ok = some false then "error" else "done") }
  | .done payload =>
      let store := if payload.threadId = "" then p.store
        else { p.store with threadId := some payload.threadId }
      { p with
        store := store.finishAssistantMessage assistantId fun m =>
          { m with
            id := payload.messageId.getD assistantId
            threadId := payload.threadId
            sources := payload.sources } }
  | .error message =>
      { p with
        store := (p.store.setError (some message)).finishAssistantMessage assistantId fun m =>
          { m with error := some message } }

/-- An event of the stream of a send. -/
def deliver (i : ℕ) (event : StreamEvent S) : Panel S :=
  match p.requests[i]? with
  | some r =>
      if r.isOpen then
        { p.handle r.assistantId event with
          requests := p.requests.set i { r with texts := r.texts ++ event.texts } }
      else p
  | none => p

/-- The end of the stream of a send: its `catch` and its `finally`. -/
def ends (i : ℕ) (ending : Ending) : Panel S :=
  match p.requests[i]? with
  | some r =>
      if r.isOpen then
        let store := match ending with
          | .returned | .aborted => p.store
          | .threw message =>
              (p.store.setError (some message)).finishAssistantMessage r.assistantId fun m =>
                { m with error := some message }
        { p with
          store := { store with isStreaming := false }
          requests := p.requests.set i { r with isOpen := false }
          activeTool := none
          abortRef := none }
      else p
  | none => p

/-- `stop`. -/
def stop : Panel S :=
  { p with store := { p.store with isStreaming := false }, activeTool := none, abortRef := none }

/-- What an event does. -/
def step : PanelEvent S → Panel S
  | .send text threadId isStreaming userId assistantId =>
      p.send text threadId isStreaming userId assistantId
  | .deliver i event => p.deliver i event
  | .ends i ending => p.ends i ending
  | .stop => p.stop
  | .newChat => { p.stop with store := p.stop.store.resetThread }
  | .restored history =>
      if history = [] then p else { p with store := { p.store with messages := history } }
  | .rate messageId rating => { p with store := p.store.rateMessage messageId rating }
  | .setInput input => { p with store := { p.store with input := input } }
  | .toggle => { p with store := p.store.toggle }

end Panel

/-- The panel, event after event. -/
def panel (S : Type) : Machine (Panel S) (PanelEvent S) where
  step p event := some (p.step event)

/-! ### What is shown -/

section Shown

variable {S : Type} (stored : String → Option String)

/-- A message of the assistant shows what was delivered of it, or what the server has stored. -/
def Shown (requests : List ChatRequest) (m : ChatMessage S) : Prop :=
  m.role = .assistant →
    (∃ r ∈ requests, r.assistantId = m.id ∧ m.content = String.join r.texts) ∨
      stored m.id = some m.content

/-- **What the outside world promises** of the next event: a UUID is a new one, what is done is
stored as it was delivered, and a transcript is what is stored. -/
def Promised (p : Panel S) : PanelEvent S → Prop
  | .send _ _ _ _ assistantId =>
      stored assistantId = none ∧ ∀ r ∈ p.requests, r.assistantId ≠ assistantId
  | .deliver i (.done payload) => ∀ r ∈ p.requests[i]?, ∀ id ∈ payload.messageId,
      stored id = some (String.join r.texts)
  | .restored history => ∀ m ∈ history, m.role = .assistant → stored m.id = some m.content
  | _ => True

/-- What holds of the panel all along. -/
structure Faithful (p : Panel S) : Prop where
  shown : ∀ m ∈ p.store.messages, Shown stored p.requests m
  apart : (p.requests.map ChatRequest.assistantId).Nodup
  drawn : ∀ r ∈ p.requests, stored r.assistantId = none
  waits : p.store.isStreaming = true → ∃ r ∈ p.requests, r.isOpen = true

variable {stored} {p : Panel S} {i : ℕ} {r : ChatRequest}

/-! #### Messages -/

/-- A change that leaves the id, the role and the text of a message. -/
theorem Shown.congr {requests : List ChatRequest} {m m' : ChatMessage S}
    (h : Shown stored requests m) (hid : m'.id = m.id) (hrole : m'.role = m.role)
    (hcontent : m'.content = m.content) : Shown stored requests m' := by
  rw [Shown, hid, hrole, hcontent]
  exact h

/-- The messages after a change of one. -/
theorem shown_mapMessage {requests requests' : List ChatRequest} {s : ChatState S} {id : String}
    {f : ChatMessage S → ChatMessage S} (h : ∀ m ∈ s.messages, Shown stored requests m)
    (hchanged : ∀ m : ChatMessage S, m.id = id → Shown stored requests m →
      Shown stored requests' (f m))
    (hkept : ∀ m : ChatMessage S, m.id ≠ id → Shown stored requests m → Shown stored requests' m) :
    ∀ m ∈ s.mapMessage id f, Shown stored requests' m := by
  intro m hm
  obtain ⟨m₀, hm₀, rfl⟩ := List.mem_map.1 hm
  split_ifs with hid
  · exact hchanged m₀ hid (h m₀ hm₀)
  · exact hkept m₀ hid (h m₀ hm₀)

/-! #### Sends -/

/-- A send with more texts, or with its stream closed, is still the send of its message. -/
theorem assistantId_set (r' : ChatRequest) (hr : p.requests[i]? = some r)
    (hid : r'.assistantId = r.assistantId) :
    (p.requests.set i r').map ChatRequest.assistantId = p.requests.map ChatRequest.assistantId := by
  obtain ⟨hi, rfl⟩ := List.getElem?_eq_some_iff.1 hr
  have hi' : i < (p.requests.map ChatRequest.assistantId).length := by rwa [List.length_map]
  have hsame := List.set_getElem_self hi'
  rw [List.getElem_map] at hsame
  rw [List.map_set, hid, hsame]

theorem drawn_set {r' : ChatRequest} (h : Faithful stored p) (hr : p.requests[i]? = some r)
    (hid : r'.assistantId = r.assistantId) :
    ∀ x ∈ p.requests.set i r', stored x.assistantId = none := by
  intro x hx
  rcases List.mem_or_eq_of_mem_set hx with hx | rfl
  · exact h.drawn x hx
  · exact hid ▸ h.drawn r (List.mem_of_getElem? hr)

/-- The sends of other messages are as they were. -/
theorem mem_set_of_ne {r' x : ChatRequest} (hr : p.requests[i]? = some r)
    (hx : x ∈ p.requests) (hne : x.assistantId ≠ r.assistantId) : x ∈ p.requests.set i r' := by
  obtain ⟨j, hj⟩ := List.getElem?_of_mem hx
  have hij : i ≠ j := by
    rintro rfl
    exact hne (congrArg ChatRequest.assistantId (Option.some.inj (hj.symm.trans hr)))
  exact List.mem_of_getElem? ((List.getElem?_set_ne hij).trans hj)

theorem mem_set_self {r' : ChatRequest} (hr : p.requests[i]? = some r) :
    r' ∈ p.requests.set i r' :=
  List.mem_set (List.getElem?_eq_some_iff.1 hr).1 r'

/-- The message of a send shows what was delivered of it. -/
theorem Shown.delivered (h : Faithful stored p) (hr : r ∈ p.requests) {m : ChatMessage S}
    (hm : Shown stored p.requests m) (hid : m.id = r.assistantId) (hrole : m.role = .assistant) :
    m.content = String.join r.texts := by
  rcases hm hrole with ⟨x, hx, hxid, hcontent⟩ | hstored
  · rw [List.inj_on_of_nodup_map h.apart hx hr (hxid.trans hid)] at hcontent
    exact hcontent
  · rw [hid, h.drawn r hr] at hstored
    exact absurd hstored nofun

/-- The other messages are shown as before when a send changes. -/
theorem Shown.set_of_ne {r' : ChatRequest} (hr : p.requests[i]? = some r) {m : ChatMessage S}
    (hm : Shown stored p.requests m) (hid : m.id ≠ r.assistantId) :
    Shown stored (p.requests.set i r') m := by
  intro hrole
  rcases hm hrole with ⟨x, hx, hxid, hcontent⟩ | hstored
  · exact .inl ⟨x, mem_set_of_ne hr hx (hxid ▸ hid), hxid, hcontent⟩
  · exact .inr hstored

/-- All messages are shown as before when a send keeps its id and its texts. -/
theorem Shown.set (r' : ChatRequest) (h : Faithful stored p) (hr : p.requests[i]? = some r)
    (hid : r'.assistantId = r.assistantId) (htexts : r'.texts = r.texts) {m : ChatMessage S}
    (hm : Shown stored p.requests m) : Shown stored (p.requests.set i r') m := by
  by_cases hm' : m.id = r.assistantId
  · intro hrole
    have hcontent := hm.delivered h (List.mem_of_getElem? hr) hm' hrole
    exact .inl ⟨r', mem_set_self hr, hid.trans hm'.symm, htexts ▸ hcontent⟩
  · exact hm.set_of_ne hr hm'

/-! #### One event -/

/-- A change of the store that leaves what is shown, and does not begin to wait. -/
theorem Faithful.of_store (h : Faithful stored p) {p' : Panel S}
    (hrequests : p'.requests = p.requests)
    (hmessages : ∀ m ∈ p'.store.messages, Shown stored p.requests m)
    (hwaits : p'.store.isStreaming = true → p.store.isStreaming = true) : Faithful stored p' where
  shown := hrequests ▸ hmessages
  apart := hrequests ▸ h.apart
  drawn := hrequests ▸ h.drawn
  waits hstreams := hrequests ▸ h.waits (hwaits hstreams)

/-- What the handlers of a send leave: what was delivered is shown. -/
theorem shown_handle (h : Faithful stored p) (hr : p.requests[i]? = some r)
    {event : StreamEvent S} (hpromised : Promised stored p (.deliver i event)) :
    ∀ m ∈ (p.handle r.assistantId event).store.messages,
      Shown stored (p.requests.set i { r with texts := r.texts ++ event.texts }) m := by
  have hmem := List.mem_of_getElem? hr
  have hquiet (htexts : event.texts = []) (m : ChatMessage S) (hm : Shown stored p.requests m) :
      Shown stored (p.requests.set i { r with texts := r.texts ++ event.texts }) m :=
    Shown.set { r with texts := r.texts ++ event.texts } h hr rfl (by simp [htexts]) hm
  cases event with
  | token text =>
    refine shown_mapMessage h.shown (fun m hid hm hrole => ?_) fun m hid hm => hm.set_of_ne hr hid
    have hcontent := hm.delivered h hmem hid hrole
    refine .inl ⟨_, mem_set_self hr, hid.symm, ?_⟩
    simp [StreamEvent.texts, hcontent, String.join]
  | sources sources =>
    exact shown_mapMessage h.shown
      (fun m _ hm => hquiet rfl _ (hm.congr rfl rfl rfl)) fun m _ hm => hquiet rfl m hm
  | toolStart name route => exact fun m hm => hquiet rfl m (h.shown m hm)
  | toolEnd name ok => exact fun m hm => hquiet rfl m (h.shown m hm)
  | done payload =>
    have hmessages : (p.handle r.assistantId (.done payload)).store.messages =
        p.store.mapMessage r.assistantId fun m =>
          { m with
            id := payload.messageId.getD r.assistantId
            threadId := payload.threadId
            sources := payload.sources
            isStreaming := false } := by
      unfold Panel.handle
      dsimp only
      split_ifs <;> rfl
    rw [hmessages]
    refine shown_mapMessage h.shown (fun m hid hm hrole => ?_) fun m _ hm => hquiet rfl m hm
    -- the message gets the id of the server's, which holds the same text
    have hcontent := hm.delivered h hmem hid hrole
    cases hmessage : payload.messageId with
    | none => exact .inl ⟨_, mem_set_self hr, rfl, by simp [StreamEvent.texts, hcontent]⟩
    | some id => exact .inr ((hpromised r hr id hmessage).trans (congrArg some hcontent.symm))
  | error message =>
    exact shown_mapMessage h.shown
      (fun m _ hm => hquiet rfl _ (hm.congr rfl rfl rfl)) fun m _ hm => hquiet rfl m hm

theorem Faithful.deliver (h : Faithful stored p) {event : StreamEvent S}
    (hpromised : Promised stored p (.deliver i event)) : Faithful stored (p.deliver i event) := by
  unfold Panel.deliver
  split
  · next r hr =>
    split_ifs with hopen
    · exact {
        shown := shown_handle h hr hpromised
        apart := assistantId_set { r with texts := r.texts ++ event.texts } hr rfl ▸ h.apart
        drawn := drawn_set h hr rfl
        waits := fun _ => ⟨_, mem_set_self hr, hopen⟩ }
    · exact h
  · exact h

theorem Faithful.ends (h : Faithful stored p) (ending : Ending) :
    Faithful stored (p.ends i ending) := by
  unfold Panel.ends
  split
  · next r hr =>
    split_ifs with hopen
    · have hkept (m : ChatMessage S) (hm : Shown stored p.requests m) :
          Shown stored (p.requests.set i { r with isOpen := false }) m :=
        Shown.set { r with isOpen := false } h hr rfl rfl hm
      refine ⟨?_, assistantId_set { r with isOpen := false } hr rfl ▸ h.apart,
        drawn_set h hr rfl, nofun⟩
      cases ending with
      | returned => exact fun m hm => hkept m (h.shown m hm)
      | aborted => exact fun m hm => hkept m (h.shown m hm)
      | threw message =>
        exact shown_mapMessage h.shown (fun m _ hm => hkept _ (hm.congr rfl rfl rfl))
          fun m _ hm => hkept m hm
    · exact h
  · exact h

theorem Faithful.send (h : Faithful stored p) {text : String} {threadId : Option String}
    {isStreaming : Bool} {userId assistantId : String} (hnew : stored assistantId = none)
    (hdrawn : ∀ r ∈ p.requests, r.assistantId ≠ assistantId) :
    Faithful stored (p.send text threadId isStreaming userId assistantId) := by
  unfold Panel.send
  dsimp only
  split_ifs
  · exact h
  let request : ChatRequest := { assistantId }
  have hmore (m : ChatMessage S) (hm : Shown stored p.requests m) :
      Shown stored (p.requests ++ [request]) m := by
    intro hrole
    rcases hm hrole with ⟨r, hr, hid⟩ | hstored
    · exact .inl ⟨r, List.mem_append_left _ hr, hid⟩
    · exact .inr hstored
  refine ⟨fun m hm => ?_, ?_, fun r hr => ?_, fun _ => ⟨_, List.mem_concat_self, rfl⟩⟩
  · rcases List.mem_append.1 hm with hm | hm
    · rcases List.mem_append.1 hm with hm | hm
      · exact hmore m (h.shown m hm)
      · -- the question
        obtain rfl := List.mem_singleton.1 hm
        exact fun hrole => absurd hrole nofun
    · -- the answer, of which nothing was delivered
      obtain rfl := List.mem_singleton.1 hm
      exact fun _ => .inl ⟨_, List.mem_concat_self, rfl, rfl⟩
  · rw [List.map_append]
    refine h.apart.append (List.nodup_singleton _) (List.disjoint_singleton.2 fun hmem => ?_)
    obtain ⟨r, hr, hid⟩ := List.mem_map.1 hmem
    exact hdrawn r hr hid
  · rcases List.mem_append.1 hr with hr | hr
    · exact h.drawn r hr
    · exact (List.mem_singleton.1 hr) ▸ hnew

/-- **What an event preserves.** -/
theorem Faithful.step (h : Faithful stored p) {event : PanelEvent S}
    (hpromised : Promised stored p event) : Faithful stored (p.step event) := by
  cases event with
  | send text threadId isStreaming userId assistantId => exact h.send hpromised.1 hpromised.2
  | deliver i event => exact h.deliver hpromised
  | ends i ending => exact h.ends ending
  | stop => exact h.of_store rfl h.shown nofun
  | newChat => exact h.of_store rfl (fun m hm => absurd hm List.not_mem_nil) nofun
  | restored history =>
    rw [Panel.step]
    split_ifs
    · exact h
    · exact h.of_store rfl (fun m hm hrole => .inr (hpromised m hm hrole)) id
  | rate messageId rating =>
    exact h.of_store rfl
      (shown_mapMessage h.shown (fun m _ hm => hm.congr rfl rfl rfl) fun m _ hm => hm) id
  | setInput input => exact h.of_store rfl h.shown id
  | toggle => exact h.of_store rfl h.shown id

theorem Faithful.start : Faithful stored ({} : Panel S) where
  shown := nofun
  apart := List.nodup_nil
  drawn := nofun
  waits := nofun

/-- **The panel is faithful**: in every run an answer on the screen is what was delivered of it,
each text once and in order, or what the server has stored of it; and when no stream is open the
panel does not wait for one. -/
theorem panel_faithful {events : List (PanelEvent S)} {p : Panel S}
    (hpromised : (panel S).Meets (Promised stored) {} events)
    (hrun : (panel S).run {} events = some p) :
    (∀ m ∈ p.store.messages, m.role = .assistant →
      (∃ r ∈ p.requests, r.assistantId = m.id ∧ m.content = String.join r.texts) ∨
        stored m.id = some m.content) ∧
      ((∀ r ∈ p.requests, r.isOpen = false) → p.store.isStreaming = false) := by
  have hfaithful : Faithful stored p := by
    refine Machine.run_invariant (fun q event q' h hC hstep => ?_) events .start hpromised hrun
    obtain rfl := Option.some.inj hstep
    exact h.step hC
  refine ⟨hfaithful.shown, fun hclosed => ?_⟩
  by_contra hwaits
  obtain ⟨r, hr, hopen⟩ := hfaithful.waits (Bool.not_eq_false _ ▸ hwaits)
  exact absurd (hopen.symm.trans (hclosed r hr)) (by decide)

/-- A question is stopped and asked again while the first stream still delivers, and the second
answer is done: what the server has stored of it is what was delivered. -/
def demoEvents : List (PanelEvent ℕ) :=
  [.send "villas?" none false "u1" "a1", .deliver 0 (.token "Two "), .stop,
    .send "villas?" none false "u2" "a2", .deliver 0 (.token "villas"),
    .deliver 1 (.token "Three "), .ends 0 .aborted, .deliver 1 (.token "villas"),
    .deliver 1 (.done ⟨"t1", some "m2", none⟩), .ends 1 .returned]

/-- What the server has stored. -/
def demoStored (id : String) : Option String := if id = "m2" then some "Three villas" else none

theorem promised_demoEvents : (panel ℕ).Meets (Promised demoStored) {} demoEvents := by
  refine ⟨⟨by decide, by decide⟩, fun p hp => ?_⟩
  obtain rfl := Option.some.inj hp
  refine ⟨trivial, fun p hp => ?_⟩
  obtain rfl := Option.some.inj hp
  refine ⟨trivial, fun p hp => ?_⟩
  obtain rfl := Option.some.inj hp
  refine ⟨⟨by decide, by decide⟩, fun p hp => ?_⟩
  obtain rfl := Option.some.inj hp
  refine ⟨trivial, fun p hp => ?_⟩
  obtain rfl := Option.some.inj hp
  refine ⟨trivial, fun p hp => ?_⟩
  obtain rfl := Option.some.inj hp
  refine ⟨trivial, fun p hp => ?_⟩
  obtain rfl := Option.some.inj hp
  refine ⟨trivial, fun p hp => ?_⟩
  obtain rfl := Option.some.inj hp
  refine ⟨fun r hr id hid => ?_, fun p hp => ?_⟩
  · obtain rfl := Option.some.inj hr
    obtain rfl := Option.some.inj hid
    decide
  obtain rfl := Option.some.inj hp
  exact ⟨trivial, fun _ _ => trivial⟩

theorem panel_faithful_demo :
    ∃ p, (panel ℕ).run {} demoEvents = some p ∧
      (∀ m ∈ p.store.messages, m.role = .assistant →
        (∃ r ∈ p.requests, r.assistantId = m.id ∧ m.content = String.join r.texts) ∨
          demoStored m.id = some m.content) ∧
      ((∀ r ∈ p.requests, r.isOpen = false) → p.store.isStreaming = false) := by
  obtain ⟨p, hp⟩ : ∃ p, (panel ℕ).run {} demoEvents = some p := ⟨_, rfl⟩
  exact ⟨p, hp, panel_faithful promised_demoEvents hp⟩

end Shown

end ChatPanel
end Web
end TopChoice
