/-
# The tables of the conversations

`apps/rag-svc/app/db/repositories/chat.py` and what `app/memory/thread_memory.py` keeps in the
same tables.  The rows that refer to a thread are kept with it; the messages are found by their
ids too.  The agent gets them for its collaborators (`collaborators`); the rest of what a turn
calls is outside, and so are the clock and the ids that the database makes.

In a turn the agent keeps to the conversation of its thread (`local_answer`, `local_stream`).

Rows are in the order they were stored.  A database that fails is left out, and so are the rows
of `tool_calls`, which are written and never read.
-/

import TopChoice.Rag.ConfinedTurn
import TopChoice.Rag.ThreadMemory

namespace TopChoice
namespace Rag
namespace Chat

open Agent Effects Locality

/-- The text of a UUID: its digits in groups, in lower case. -/
def isUuidText (text : String) : Bool :=
  text.toList.map (fun c => if c.isDigit || ('a' ≤ c && c ≤ 'f') then '0' else c) =
    "00000000-0000-0000-0000-000000000000".toList

/-- A `uuid.UUID`, by its text. -/
structure Uuid where
  text : String
  isText : isUuidText text = true
  deriving DecidableEq

/-- What the runtime does. -/
structure ChatRuntime where
  /-- `uuid.UUID(value)`, where it does not raise. -/
  uuid : String → Option Uuid
  /-- `hmac.new(secret, message, hashlib.sha256).hexdigest()`. -/
  hexdigest : String → String → String
  /-- `dict(value)`, of a profile that was stored. -/
  asDict : Json → Except Raised Dict
  ofDict : Dict → Json
  /-- `SUMMARY_PROMPT`. -/
  summaryPrompt : String

/-- A UUID is read back from its text. -/
structure ChatRuntime.Lawful (rt : ChatRuntime) : Prop where
  uuid_text : ∀ id : Uuid, rt.uuid id.text = some id

/-! ### Tables -/

/-- A row of `chat_messages`. -/
structure MessageRow where
  id : Uuid
  role : Role
  content : String
  sources : List Json
  toolCalls : List ToolRecord
  tokens : Option ℕ
  latency : Option ℕ
  rating : Option ℤ
  feedback : Option String
  createdAt : ℕ

/-- A row of `chat_threads`, with the messages and the summaries that refer to it. -/
structure Conversation where
  userId : Option Uuid
  title : Option String
  locale : String
  createdAt : ℕ
  lastMessageAt : ℕ
  metadata : List (String × Json)
  messages : List MessageRow
  summaries : List String

/-- The threads, and `thread_id` of each message. -/
structure Tables where
  threads : Uuid → Option Conversation
  threadOf : Uuid → Option Uuid

/-- A conversation as the memory reads it. -/
def Conversation.thread (conversation : Conversation) : Thread where
  messages := conversation.messages.mapIdx fun number row => ⟨number, row.role, row.content⟩
  summaries := conversation.summaries.map fun summary => ⟨summary, []⟩

namespace Tables

/-- No rows. -/
def empty : Tables := ⟨fun _ => none, fun _ => none⟩

/-- `update(ChatThread).where(ChatThread.id == id)`. -/
def update (t : Tables) (id : Uuid) (f : Conversation → Conversation) : Tables :=
  { t with threads := Function.update t.threads id ((t.threads id).map f) }

/-- `create_thread`; `none` where the id is taken. -/
def createThread (t : Tables) (id : Uuid) (conversation : Conversation) : Option Tables :=
  match t.threads id with
  | some _ => none
  | none => some { t with threads := Function.update t.threads id (some conversation) }

/-- `add_message`; `none` where there is no such thread, or the id is taken. -/
def addMessage (t : Tables) (threadId : Uuid) (row : MessageRow) : Option Tables :=
  match t.threads threadId, t.threadOf row.id with
  | some _, none =>
      some { t.update threadId fun conversation =>
          { conversation with messages := conversation.messages ++ [row] } with
        threadOf := Function.update t.threadOf row.id (some threadId) }
  | _, _ => none

/-- `list_messages`: the page, and how many messages there are of any role. -/
def listMessages (t : Tables) (threadId : Uuid) (limit offset : ℕ) : List MessageRow × ℕ :=
  match t.threads threadId with
  | none => ([], 0)
  | some conversation =>
      (((conversation.messages.filter fun row => row.role = .user ∨ row.role = .assistant).drop
        offset).take limit, conversation.messages.length)

/-- `rate_message`: whether there is such a message. -/
def rateMessage (t : Tables) (id : Uuid) (rating : ℤ) (feedback : Option String) : Bool × Tables :=
  match t.threadOf id with
  | none => (false, t)
  | some threadId =>
      (true, t.update threadId fun conversation =>
        { conversation with messages := conversation.messages.map fun row =>
            if row.id = id then { row with rating := some rating, feedback := feedback } else row })

/-- Without a conversation. -/
def erase (id : Uuid) (t : Tables) : Tables where
  threads := Function.update t.threads id none
  threadOf message := if t.threadOf message = some id then none else t.threadOf message

/-- A conversation, and which messages are of it. -/
def part (id : Uuid) (t : Tables) : Option Conversation × (Uuid → Bool) :=
  (t.threads id, fun message => t.threadOf message = some id)

theorem threads_erase {i j : Uuid} (t : Tables) (h : j ≠ i) :
    (t.erase i).threads j = t.threads j :=
  Function.update_of_ne h _ _

theorem threadOf_erase_eq_some {i j message : Uuid} {t : Tables} :
    (t.erase i).threadOf message = some j ↔ j ≠ i ∧ t.threadOf message = some j := by
  show (if t.threadOf message = some i then none else t.threadOf message) = some j ↔ _
  by_cases h : t.threadOf message = some i
  · rw [if_pos h, h, Option.some_inj]
    exact ⟨nofun, fun ⟨hne, heq⟩ => absurd heq.symm hne⟩
  · rw [if_neg h]
    exact ⟨fun hj => ⟨fun heq => h (heq ▸ hj), hj⟩, fun hj => hj.2⟩

theorem erase_ext {i : Uuid} {s t : Tables} (hpart : part i s = part i t)
    (hrest : erase i s = erase i t) : s = t := by
  obtain ⟨sthreads, sthreadOf⟩ := s
  obtain ⟨tthreads, tthreadOf⟩ := t
  obtain ⟨hthread, hmessages⟩ := Prod.ext_iff.1 hpart
  obtain ⟨hthreads, hthreadOf⟩ := Tables.mk.injEq _ _ _ _ ▸ hrest
  congr
  · funext j
    by_cases hj : j = i
    · rw [hj]
      exact hthread
    · simpa [hj] using congrFun hthreads j
  · funext message
    have hin : sthreadOf message = some i ↔ tthreadOf message = some i := by
      simpa [part] using congrFun hmessages message
    have hout := congrFun hthreadOf message
    dsimp only at hout
    by_cases h : sthreadOf message = some i
    · rw [h, hin.1 h]
    · rwa [if_neg h, if_neg fun h' => h (hin.2 h')] at hout

theorem part_erase {i j : Uuid} (t : Tables) (h : j ≠ i) : part j (t.erase i) = part j t := by
  refine Prod.ext (threads_erase t h) (funext fun message => ?_)
  simp [part, threadOf_erase_eq_some, h]

theorem erase_comm (i j : Uuid) (t : Tables) : (t.erase j).erase i = (t.erase i).erase j := by
  have hthreads : ((t.erase j).erase i).threads = ((t.erase i).erase j).threads := by
    funext k
    show Function.update (Function.update t.threads j none) i none k =
      Function.update (Function.update t.threads i none) j none k
    simp only [Function.update_apply]
    split_ifs <;> rfl
  have hthreadOf : ((t.erase j).erase i).threadOf = ((t.erase i).erase j).threadOf := by
    funext message
    refine Option.ext fun k => ?_
    simp only [threadOf_erase_eq_some]
    tauto
  cases h : (t.erase j).erase i
  cases h' : (t.erase i).erase j
  rw [h, h'] at hthreads hthreadOf
  exact congrArg₂ Tables.mk hthreads hthreadOf

/-- The tables, a conversation a compartment. -/
def compartments : Compartments Tables Uuid (Option Conversation × (Uuid → Bool)) where
  part := part
  erase := erase
  ext := erase_ext
  part_erase := part_erase
  erase_comm := erase_comm

theorem owner_update (t : Tables) {id : Uuid} {f : Conversation → Conversation}
    (hf : ∀ conversation, (f conversation).userId = conversation.userId) :
    ((t.update id f).threads id).map Conversation.userId = (t.threads id).map Conversation.userId := by
  have hthread : (t.update id f).threads id = (t.threads id).map f := Function.update_self ..
  rw [hthread, Option.map_map]
  exact congrArg (Option.map · (t.threads id)) (funext hf)

/-- The tables with a message added. -/
def added (t : Tables) (threadId : Uuid) (row : MessageRow) : Tables :=
  { t.update threadId fun conversation =>
      { conversation with messages := conversation.messages ++ [row] } with
    threadOf := Function.update t.threadOf row.id (some threadId) }

theorem addMessage_of_none {t : Tables} {threadId : Uuid} (h : t.threads threadId = none)
    (row : MessageRow) : t.addMessage threadId row = none := by
  rw [addMessage, h]

theorem addMessage_of_some {t : Tables} {threadId : Uuid} {conversation : Conversation}
    {row : MessageRow} (h : t.threads threadId = some conversation) (hrow : t.threadOf row.id = none) :
    t.addMessage threadId row = some (t.added threadId row) := by
  rw [addMessage, h, hrow]
  rfl

theorem erase_added {t : Tables} {threadId : Uuid} {row : MessageRow}
    (hrow : t.threadOf row.id = none) : (t.added threadId row).erase threadId = t.erase threadId := by
  have hthreads : ((t.added threadId row).erase threadId).threads = (t.erase threadId).threads :=
    Function.update_idem _ _ _
  have hthreadOf : ((t.added threadId row).erase threadId).threadOf = (t.erase threadId).threadOf := by
    funext message
    show (if Function.update t.threadOf row.id (some threadId) message = some threadId then none
      else Function.update t.threadOf row.id (some threadId) message) =
      if t.threadOf message = some threadId then none else t.threadOf message
    by_cases h : message = row.id
    · rw [h, Function.update_self, if_pos rfl, hrow, if_neg nofun]
    · rw [Function.update_of_ne h]
  cases h : (t.added threadId row).erase threadId
  cases h' : t.erase threadId
  rw [h, h'] at hthreads hthreadOf
  exact congrArg₂ Tables.mk hthreads hthreadOf

theorem erase_update (t : Tables) (id : Uuid) (f : Conversation → Conversation) :
    (t.update id f).erase id = t.erase id := by
  show Tables.mk (Function.update (Function.update t.threads id _) id none) _ = _
  rw [Function.update_idem]
  rfl

end Tables

/-! ### The collaborators of a turn -/

/-- What a turn has outside the tables: the ids the database makes, the clock and the rest. -/
structure Rest (ρ : Type) where
  ids : List Uuid
  now : ℕ
  outside : ρ

section Collaborators

variable {ρ α : Type} (rt : ChatRuntime) (ragMemoryWindow : ℤ) (base : Collaborators ρ)

/-- A call of the outside. -/
def lift (action : Action ρ α) : Action (Tables × Rest ρ) α := fun w =>
  ((action w.2.outside).1, (w.1, { w.2 with outside := (action w.2.outside).2 }))

/-- What a conversation is remembered by. -/
def memory : Option Conversation → Except Raised Memory
  | none => .ok {}
  | some conversation => do
      let loaded := load (window ragMemoryWindow) conversation.thread
      let profile ← rt.asDict ((conversation.metadata.lookup "profile").getD (.dict []))
      return {
        messages := loaded.messages
        summary := loaded.summary.map ChatSummary.summary
        profile := profile
        messageCount := loaded.messageCount }

/-- `load` of the memory. -/
def loadMemory (threadId : Option String) : Action (Tables × Rest ρ) Memory := fun w =>
  match threadId.bind rt.uuid with
  | none => (.ok {}, w)
  | some id => (memory rt ragMemoryWindow (w.1.threads id), w)

/-- `add_message` of the repository. -/
def addMessage (message : StoredMessage) : Action (Tables × Rest ρ) (Option String) := fun w =>
  match rt.uuid message.threadId, w.2.ids with
  | none, _ => (.ok none, w)
  | some _, [] => (.error ⟨"IntegrityError", ""⟩, w)
  | some threadId, id :: ids =>
      match w.1.addMessage threadId
          ⟨id, message.role, message.content, message.sources, message.toolCalls, message.tokens,
            message.latency, none, none, w.2.now⟩ with
      | none => (.error ⟨"IntegrityError", ""⟩, (w.1, { w.2 with ids := ids }))
      | some tables => (.ok (some id.text), (tables, { w.2 with ids := ids }))

/-- A thread is updated, if the text is the id of one. -/
def updateThread (threadId : String) (f : ℕ → Conversation → Conversation) :
    Action (Tables × Rest ρ) Unit := fun w =>
  match rt.uuid threadId with
  | none => (.ok (), w)
  | some id => (.ok (), (w.1.update id (f w.2.now), w.2))

/-- `get_thread` for its title. -/
def getTitle (threadId : String) : Action (Tables × Rest ρ) (Option String) := fun w =>
  (.ok (((rt.uuid threadId).bind w.1.threads).bind Conversation.title), w)

/-- `touch_thread`. -/
def touchThread (threadId : String) (title : Option String) : Action (Tables × Rest ρ) Unit :=
  updateThread rt threadId fun now conversation =>
    { conversation with
      lastMessageAt := now
      title := (title.filter (· ≠ "")).or conversation.title }

/-- `persist_profile`. -/
def persistProfile (threadId : String) (profile : Dict) : Action (Tables × Rest ρ) Unit :=
  updateThread rt threadId fun _ conversation =>
    { conversation with metadata :=
        ("profile", rt.ofDict profile) :: conversation.metadata.filter (·.1 ≠ "profile") }

/-- `refresh_summary`: what goes wrong leaves the summary there is. -/
def refreshSummary (threadId : String) (messages : List Message) (previous : Option String) :
    Action (Tables × Rest ρ) Unit := fun w =>
  if messages.isEmpty ∨ (rt.uuid threadId).isNone then (.ok (), w)
  else
    let request := summaryRequest (messages.map fun message => ⟨0, message.role, message.content⟩)
      (previous.map fun summary => ⟨summary, []⟩)
    match lift (base.generate [⟨.system, rt.summaryPrompt⟩, ⟨.user, request⟩]
        { maxTokens := some 320 }) w with
    | (.error _, w) => (.ok (), w)
    | (.ok result, w) =>
        if strip result.text = "" then (.ok (), w)
        else updateThread rt threadId (fun _ conversation =>
          { conversation with summaries := conversation.summaries ++ [strip result.text] }) w

/-- The tools' outside. -/
def liftServices (services : Services ρ) : Services (Tables × Rest ρ) where
  searchListingsArgs := services.searchListingsArgs
  propertyDetailsArgs := services.propertyDetailsArgs
  mortgageArgs := services.mortgageArgs
  createLeadArgs := services.createLeadArgs
  escalateArgs := services.escalateArgs
  webSearchArgs := services.webSearchArgs
  frontendUrl := services.frontendUrl
  generationModel := services.generationModel
  openaiEnabled := services.openaiEnabled
  http request := lift (services.http request)
  elapsed w := services.elapsed w.2.outside
  renderListings := services.renderListings
  renderProperty := services.renderProperty
  renderMortgage := services.renderMortgage
  renderWeb := services.renderWeb
  describe := services.describe

/-- The collaborators: the tables for the memory and the repository, and otherwise those
outside. -/
def collaborators : Collaborators (Tables × Rest ρ) where
  unicode := base.unicode
  catalogue := base.catalogue
  python := base.python
  prompts := base.prompts
  services := liftServices base.services
  profileText := base.profileText
  logsInfo := base.logsInfo
  loadMemory := loadMemory rt ragMemoryWindow
  available := base.available
  generate messages options := lift (base.generate messages options)
  stream messages sources question w :=
    ((base.stream messages sources question w.2.outside).1,
      (w.1, { w.2 with outside := (base.stream messages sources question w.2.outside).2 }))
  search query := lift (base.search query)
  addMessage := addMessage rt
  recordToolCalls _ _ w := (.ok (), w)
  getThread := getTitle rt
  touchThread := touchThread rt
  persistProfile := persistProfile rt
  shouldSummarise := shouldSummarise (window ragMemoryWindow)
  refreshSummary := refreshSummary rt base
  latency w := base.latency w.2.outside

/-! ### A turn keeps to its conversation -/

/-- The ids to come are new, and the thread is somebody's. -/
structure Kept (id : Uuid) (owner : Option (Option Uuid)) (t : Tables) (r : Rest ρ) : Prop where
  nodup : r.ids.Nodup
  new : ∀ message ∈ r.ids, t.threadOf message = none
  owner : (t.threads id).map Conversation.userId = owner

variable {rt} {ragMemoryWindow} {base} {id : Uuid} {owner : Option (Option Uuid)} {s₀ t₀ : Tables}

/-- Two worlds that a turn in the thread cannot tell apart. -/
abbrev Alike (id : Uuid) (owner : Option (Option Uuid)) (s₀ t₀ : Tables) :
    Tables × Rest ρ → Tables × Rest ρ → Prop :=
  SamePart Tables.compartments (Kept id owner) id s₀ t₀

theorem Alike.threads {w v : Tables × Rest ρ} (h : Alike id owner s₀ t₀ w v) :
    v.1.threads id = w.1.threads id :=
  congrArg Prod.fst h.part

/-- What is done to the outside alone. -/
theorem Alike.lift {w v : Tables × Rest ρ} (h : Alike id owner s₀ t₀ w v) (f : ρ → ρ) :
    Alike id owner s₀ t₀ (w.1, { w.2 with outside := f w.2.outside })
      (v.1, { v.2 with outside := f v.2.outside }) := by
  have hleft := h.invariant_left
  have hright := h.invariant_right
  exact ⟨h.part, by rw [h.outside], h.left, h.right, ⟨hleft.nodup, hleft.new, hleft.owner⟩,
    ⟨hright.nodup, hright.new, hright.owner⟩⟩

/-- What is done to the conversation alone. -/
theorem Alike.update {w v : Tables × Rest ρ} (h : Alike id owner s₀ t₀ w v)
    {f : Conversation → Conversation} (hf : ∀ conversation, (f conversation).userId =
      conversation.userId) : Alike id owner s₀ t₀ (w.1.update id f, w.2) (v.1.update id f, v.2) := by
  have hkept {t : Tables} {r : Rest ρ} (hJ : Kept id owner t r) : Kept id owner (t.update id f) r :=
    ⟨hJ.nodup, hJ.new, (Tables.owner_update t hf).trans hJ.owner⟩
  have hmessages : (Tables.part id v.1).2 = (Tables.part id w.1).2 := congrArg Prod.snd h.part
  refine ⟨Prod.ext ?_ hmessages, h.outside, ?_, ?_, hkept h.invariant_left,
    hkept h.invariant_right⟩
  · show (v.1.update id f).threads id = (w.1.update id f).threads id
    simp only [Tables.update, Function.update_self, h.threads]
  · exact (Tables.erase_update _ _ _).trans h.left
  · exact (Tables.erase_update _ _ _).trans h.right

theorem steady_lift (action : Action ρ α) :
    Program.Steady (Alike id owner s₀ t₀) (lift action) :=
  fun w v h => ⟨by rw [lift, lift, h.outside], h.lift fun o => (action o).2⟩

/-- What is read of the conversation alone. -/
theorem steady_read (f : Option Conversation → Except Raised α) :
    Program.Steady (Alike id owner s₀ t₀) fun w : Tables × Rest ρ => (f (w.1.threads id), w) :=
  fun _ _ h => ⟨congrArg f h.threads, h⟩

theorem steady_updateThread (hrt : rt.Lawful) {f : ℕ → Conversation → Conversation}
    (hf : ∀ now conversation, (f now conversation).userId = conversation.userId) :
    Program.Steady (Alike id owner s₀ t₀)
      (updateThread rt id.text f : Action (Tables × Rest ρ) Unit) := by
  intro w v h
  simp only [updateThread, hrt.uuid_text]
  refine ⟨trivial, ?_⟩
  rw [h.outside]
  exact h.outside ▸ h.update (hf v.2.now)

/-- What is added to the conversation alone, under an id that was to come. -/
theorem Alike.added {w v : Tables × Rest ρ} (h : Alike id owner s₀ t₀ w v) {row : MessageRow}
    {ids : List Uuid} (hids : w.2.ids = row.id :: ids) :
    Alike id owner s₀ t₀ (w.1.added id row, { w.2 with ids := ids })
      (v.1.added id row, { v.2 with ids := ids }) := by
  have hkept {t : Tables} {r : Rest ρ} (hJ : Kept id owner t r) (hr : r.ids = row.id :: ids) :
      t.threadOf row.id = none ∧ Kept id owner (t.added id row) { r with ids := ids } := by
    obtain ⟨hnodup, hnew, howner⟩ := hJ
    rw [hr] at hnodup hnew
    obtain ⟨hnot, hnodup⟩ := List.nodup_cons.1 hnodup
    have howner' := @Tables.owner_update t id (fun conversation =>
      { conversation with messages := conversation.messages ++ [row] }) fun _ => rfl
    refine ⟨hnew _ List.mem_cons_self, hnodup, fun message hmessage => ?_, howner'.trans howner⟩
    have hne : message ≠ row.id := fun heq => hnot (heq ▸ hmessage)
    exact (Function.update_of_ne hne _ _).trans (hnew message (List.mem_cons_of_mem _ hmessage))
  obtain ⟨hnew, hleft⟩ := hkept h.invariant_left hids
  obtain ⟨hnew', hright⟩ := hkept h.invariant_right (h.outside ▸ hids)
  have hmessages (message : Uuid) :
      v.1.threadOf message = some id ↔ w.1.threadOf message = some id := by
    simpa [Tables.compartments, Tables.part] using congrFun (congrArg Prod.snd h.part) message
  refine ⟨Prod.ext ?_ (funext fun message => ?_), by rw [h.outside], ?_, ?_, hleft, hright⟩
  · show (v.1.added id row).threads id = (w.1.added id row).threads id
    simp only [Tables.added, Tables.update, Function.update_self, h.threads]
  · show decide (Function.update v.1.threadOf row.id (some id) message = some id) =
      decide (Function.update w.1.threadOf row.id (some id) message = some id)
    by_cases hmessage : message = row.id
    · rw [hmessage, Function.update_self, Function.update_self]
    · rw [Function.update_of_ne hmessage, Function.update_of_ne hmessage]
      exact decide_eq_decide.2 (hmessages message)
  · exact (Tables.erase_added hnew).trans h.left
  · exact (Tables.erase_added hnew').trans h.right

/-- An id is spent. -/
theorem Alike.spent {w v : Tables × Rest ρ} (h : Alike id owner s₀ t₀ w v) {next : Uuid}
    {ids : List Uuid} (hids : w.2.ids = next :: ids) :
    Alike id owner s₀ t₀ (w.1, { w.2 with ids := ids }) (v.1, { v.2 with ids := ids }) := by
  have hkept {t : Tables} {r : Rest ρ} (hJ : Kept id owner t r) (hr : r.ids = next :: ids) :
      Kept id owner t { r with ids := ids } := by
    obtain ⟨hnodup, hnew, howner⟩ := hJ
    rw [hr] at hnodup hnew
    exact ⟨(List.nodup_cons.1 hnodup).2, fun message hm => hnew message (List.mem_cons_of_mem _ hm),
      howner⟩
  exact ⟨h.part, by rw [h.outside], h.left, h.right, hkept h.invariant_left hids,
    hkept h.invariant_right (h.outside ▸ hids)⟩

theorem steady_addMessage (hrt : rt.Lawful) {message : StoredMessage}
    (hthread : message.threadId = id.text) :
    Program.Steady (Alike id owner s₀ t₀)
      (addMessage rt message : Action (Tables × Rest ρ) (Option String)) := by
  rintro ⟨s, r⟩ ⟨t, r'⟩ h
  obtain rfl : r' = r := h.outside
  simp only [addMessage, hthread, hrt.uuid_text]
  cases hids : r'.ids with
  | nil => exact ⟨rfl, h⟩
  | cons next ids =>
    have hthreads : t.threads id = s.threads id := h.threads
    dsimp only
    cases hs : s.threads id with
    | none =>
      rw [Tables.addMessage_of_none hs, Tables.addMessage_of_none (hthreads.trans hs)]
      exact ⟨rfl, h.spent hids⟩
    | some conversation =>
      have hmem : next ∈ r'.ids := hids ▸ List.mem_cons_self
      rw [Tables.addMessage_of_some hs (h.invariant_left.new next hmem),
        Tables.addMessage_of_some (hthreads.trans hs) (h.invariant_right.new next hmem)]
      exact ⟨rfl, h.added hids⟩

theorem steady_refreshSummary (hrt : rt.Lawful) (messages : List Message) (previous : Option String) :
    Program.Steady (Alike id owner s₀ t₀)
      (refreshSummary rt base id.text messages previous : Action (Tables × Rest ρ) Unit) := by
  intro w v h
  unfold refreshSummary
  split_ifs
  · exact ⟨rfl, h⟩
  · dsimp only
    generalize base.generate _ _ = generate
    obtain ⟨hresult, hworld⟩ := steady_lift generate w v h
    generalize lift generate w = left at hresult hworld ⊢
    generalize lift generate v = right at hresult hworld ⊢
    obtain ⟨result, w'⟩ := left
    obtain ⟨result', v'⟩ := right
    obtain rfl : result' = result := hresult
    cases result' with
    | error raised => exact ⟨rfl, hworld⟩
    | ok generated =>
      dsimp only
      split_ifs
      · exact ⟨rfl, hworld⟩
      · have hsteady := @steady_updateThread ρ rt id owner s₀ t₀ hrt (fun _ conversation =>
          { conversation with summaries := conversation.summaries ++ [strip generated.text] })
          fun _ _ => rfl
        exact hsteady w' v' hworld

/-- **The collaborators do not tell other conversations apart.** -/
theorem steady_collaborators (hrt : rt.Lawful) (id : Uuid)
    (owner : Option (Option Uuid)) (s₀ t₀ : Tables) :
    (collaborators rt ragMemoryWindow base).Steady (Alike id owner s₀ t₀) (some id.text) where
  http request := steady_lift _
  elapsed w v h := congrArg (fun r : Rest ρ => base.services.elapsed r.outside) h.outside
  latency w v h := congrArg (fun r : Rest ρ => base.latency r.outside) h.outside
  generate messages options := steady_lift _
  stream messages sources question w v h :=
    ⟨congrArg (fun r : Rest ρ => Except.ok (base.stream messages sources question r.outside).1)
      h.outside, h.lift fun o => (base.stream messages sources question o).2⟩
  search query := steady_lift _
  loadMemory := by
    show Program.Steady _ fun w => loadMemory rt ragMemoryWindow (some id.text) w
    simp only [loadMemory, Option.bind_some, hrt.uuid_text]
    exact steady_read _
  addMessage message hthread := steady_addMessage hrt (Option.some.inj hthread).symm
  recordToolCalls _ _ w v h := ⟨rfl, h⟩
  getThread thread hthread := by
    obtain rfl := Option.some.inj hthread
    show Program.Steady _ fun w => getTitle rt id.text w
    simp only [getTitle, hrt.uuid_text, Option.bind_some]
    exact steady_read fun conversation => .ok (conversation.bind Conversation.title)
  touchThread thread title hthread := Option.some.inj hthread ▸
    steady_updateThread hrt fun _ _ => rfl
  persistProfile thread profile hthread := Option.some.inj hthread ▸
    steady_updateThread hrt fun _ _ => rfl
  refreshSummary thread messages previous hthread :=
    Option.some.inj hthread ▸ steady_refreshSummary hrt messages previous

/-- **A turn keeps to its conversation.** -/
theorem local_answer (hrt : rt.Lawful) (usesLanggraph : Bool) {fuel : ℕ} (hfuel : 2 ≤ fuel)
    (stored : TurnState) {input : TurnInput} (hthread : input.threadId = some id.text) :
    Local Tables.compartments (Kept id owner) id
      (answer (collaborators rt ragMemoryWindow base) usesLanggraph fuel stored input) :=
  fun s₀ t₀ => respects_answer (steady_collaborators hrt id owner s₀ t₀) usesLanggraph hfuel stored hthread

/-- A streamed turn keeps to its conversation. -/
theorem local_stream (hrt : rt.Lawful) (fuel : ℕ) {input : TurnInput}
    (hthread : input.threadId = some id.text) :
    Local Tables.compartments (Kept id owner) id
      (stream (collaborators rt ragMemoryWindow base) fuel input) :=
  fun s₀ t₀ => respects_stream (steady_collaborators hrt id owner s₀ t₀) fuel hthread

end Collaborators

end Chat
end Rag
end TopChoice
