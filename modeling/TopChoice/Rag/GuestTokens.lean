/-
# Who is let into a conversation

A conversation without an owner is opened with its guest token, which `create_thread` and the
first answer give out (`apps/rag-svc/app/api/chat_routes.py`).  The ledger keeps who was given
which token, and who created which conversation.

What may be assumed of the digest is a condition on the requests: the token of a conversation
is presented by who was given it, and no two conversations have the same one (`Honest`).  Under
it only the party that created a guest's conversation is let into it, and into the conversation
of an account only that account (`let_in_rightly`), whatever was asked before.
-/

import TopChoice.Lib.Machine
import TopChoice.Rag.ChatPrivacy

namespace TopChoice
namespace Rag
namespace Chat

open Agent Effects Locality

/-- The guest token that an answer carries. -/
def Answer.guestToken : Answer → Option String
  | .thread _ _ _ _ _ token | .turn _ token => token
  | .stream frames => frames.findSome? fun
    | .opened _ token => some token
    | .event _ => none
  | .messages .. | .recorded .. => none

/-- The service, with the tokens each party was given and who created each conversation. -/
structure Ledger where
  service : Service
  given : ℕ → List String
  creator : Uuid → Option (ℕ × Caller)

/-- Nothing has been asked yet. -/
def Ledger.start : Ledger := ⟨.start, fun _ => [], fun _ => none⟩

section Tokens

variable {ρ : Type} (rt : ChatRuntime) (settings : Settings) (base : Collaborators ρ) (fuel : ℕ)

/-- The conversation that came to be by a request. -/
def created (s s' : Service) (a : Arrival ρ) : Option Uuid :=
  a.ids.head?.filter fun id => (s.tables.threads id).isNone && (s'.tables.threads id).isSome

/-- A request of a party is answered. -/
def Ledger.answer (l : Ledger) (party : ℕ) (a : Arrival ρ) : Ledger :=
  let (answer, service) := respond rt settings base fuel l.service a
  { service := service
    given := Function.update l.given party
      ((answer.toOption.bind Answer.guestToken).toList ++ l.given party)
    creator := match created l.service service a with
      | some id => Function.update l.creator id (some (party, a.caller))
      | none => l.creator }

/-- The parties and the service. -/
def parties : Machine Ledger (ℕ × Arrival ρ) where
  step l request := some (l.answer rt settings base fuel request.1 request.2)

/-- **What a digest promises**: the token of a conversation is presented by who was given it,
and a new one has a token of its own. -/
structure Honest (l : Ledger) (request : ℕ × Arrival ρ) : Prop where
  new : New l.service request.2
  unforged : ∀ token ∈ request.2.caller.guestToken, ∀ id, l.service.tables.threads id ≠ none →
    token = guestToken rt settings id → token ∈ l.given request.1
  distinct : ∀ id ∈ request.2.ids, ∀ id', l.service.tables.threads id' ≠ none →
    guestToken rt settings id ≠ guestToken rt settings id'

/-- Who is let into a conversation that is there: its owner, or the party that created it. -/
def LetInRightly (l : Ledger) (request : ℕ × Arrival ρ) : Prop :=
  ∀ id conversation, subject rt settings l.service request.2 = some id →
    l.service.tables.threads id = some conversation →
    ∃ party caller, l.creator id = some (party, caller) ∧
      conversation.userId = (caller.user.map AuthUser.id).bind rt.uuid ∧
      match conversation.userId with
      | some owner => request.2.caller.user.map AuthUser.id = some owner.text
      | none => request.1 = party

/-! ### What a request does to the conversations and gives out -/

variable {rt} {settings} {base} {fuel}

theorem threads_of_erase {s t : Tables} {i j : Uuid} (h : t.erase i = s.erase i) (hj : j ≠ i) :
    t.threads j = s.threads j := by
  rw [← Tables.threads_erase t hj, h, Tables.threads_erase s hj]

/-- The owner of a conversation after a request: as before, or that of a new one. -/
def OwnerAfter (rt : ChatRuntime) (t t' : Tables) (a : Arrival ρ) (id : Uuid) : Prop :=
  (t'.threads id).map Conversation.userId = (t.threads id).map Conversation.userId ∨
    t.threads id = none ∧ a.ids.head? = some id ∧
      (t'.threads id).map Conversation.userId =
        some ((a.caller.user.map AuthUser.id).bind rt.uuid)

theorem owner_stored {s : Service} {a : Arrival ρ} (hnew : New s a) {locale : String}
    {title : Option String} {metadata : List (String × Json)} {t : Tables} {id : Uuid}
    {ids : List Uuid}
    (h : storeThread s.tables a.ids (newConversation rt a.caller a.now locale title metadata) =
      .ok (t, id, ids)) (j : Uuid) : OwnerAfter rt s.tables t a j := by
  cases hids : a.ids with
  | nil =>
    rw [hids] at h
    exact absurd h nofun
  | cons first rest =>
    have hnone := (hnew.2 first (hids ▸ List.mem_cons_self)).1
    rw [hids, storeThread_cons hnone] at h
    obtain ⟨rfl, rfl, rfl⟩ : s.tables.stored first _ = t ∧ first = id ∧ rest = ids := by
      simpa using h
    by_cases hj : j = first
    · subst hj
      refine .inr ⟨hnone, congrArg List.head? hids, ?_⟩
      have hthread : (s.tables.stored j (newConversation rt a.caller a.now locale title
          metadata)).threads j = some _ := Function.update_self ..
      rw [hthread]
      rfl
    · exact .inl (congrArg (Option.map _) (Function.update_of_ne hj _ _))

theorem owner_resolved {s : Service} {a : Arrival ρ} (hnew : New s a) {locale : String}
    {threadId : Option String} {t : Tables} {id : Uuid} {token : Option String} {ids : List Uuid}
    (h : resolveThread rt settings s.tables a locale threadId = .ok (t, id, token, ids)) (j : Uuid) :
    OwnerAfter rt s.tables t a j := by
  unfold resolveThread at h
  split at h
  · obtain ⟨opened, -, h⟩ := Fallible.bind_eq_ok.1 h
    cases Except.ok.inj h
    exact .inl rfl
  · obtain ⟨⟨t', id', ids'⟩, hstore, h⟩ := Fallible.bind_eq_ok.1 h
    cases Except.ok.inj h
    exact owner_stored hnew hstore j

/-- A turn leaves the owners of all conversations. -/
theorem owner_turn {t t' : Tables} {id : Uuid} {r : Rest ρ} (hrest : t'.erase id = t.erase id)
    (hkept : Kept id ((t.threads id).map Conversation.userId) t' r) (j : Uuid) :
    (t'.threads j).map Conversation.userId = (t.threads j).map Conversation.userId := by
  by_cases hj : j = id
  · exact hj ▸ hkept.owner
  · rw [threads_of_erase hrest hj]

/-- A message leaves the owners as its thread was resolved. -/
theorem owner_postMessage (hrt : rt.Lawful) (hfuel : 2 ≤ fuel) {s : Service} {a : Arrival ρ}
    (hnew : New s a) {message : String} {threadId language : Option String} {streams : Bool}
    {t : Tables} {id : Uuid} {token : Option String} {ids : List Uuid}
    (h : resolveThread rt settings s.tables a (messageLocale base message language) threadId =
      .ok (t, id, token, ids)) (j : Uuid) :
    ((postMessage rt settings base fuel s a message threadId streams language).2.tables.threads j).map
      Conversation.userId = (t.threads j).map Conversation.userId := by
  have hkept := (resolved hnew h).kept
  unfold postMessage
  dsimp only
  rw [h]
  dsimp only
  split
  · have hlocal : Local Tables.compartments (Kept id ((t.threads id).map Conversation.userId)) id
        (stream (collaborators rt settings.ragMemoryWindow base) fuel
          (turnInput a message (messageLocale base message language) id)) :=
      local_stream hrt fuel rfl
    exact owner_turn (hlocal.hidden hkept) (hlocal.invariant hkept) j
  · have hlocal : Local Tables.compartments (Kept id ((t.threads id).map Conversation.userId)) id
        (Agent.answer (collaborators rt settings.ragMemoryWindow base) settings.usesLanggraph fuel
          a.checkpoint (turnInput a message (messageLocale base message language) id)) :=
      local_answer hrt settings.usesLanggraph hfuel a.checkpoint rfl
    exact owner_turn (hlocal.hidden hkept) (hlocal.invariant hkept) j

/-- **What a request does to the owners of the conversations.** -/
theorem owner_respond (hrt : rt.Lawful) (hfuel : 2 ≤ fuel) {s : Service} {a : Arrival ρ}
    (hnew : New s a) (id : Uuid) :
    OwnerAfter rt s.tables (respond rt settings base fuel s a).2.tables a id := by
  unfold respond
  cases a.request with
  | createThread locale title metadata =>
    show OwnerAfter rt _ (createThread rt settings s a locale title metadata).2.tables a id
    unfold createThread
    cases hstore : storeThread s.tables a.ids
        (newConversation rt a.caller a.now locale title metadata) with
    | error e => exact .inl rfl
    | ok stored => exact owner_stored hnew hstore id
  | listMessages threadId page limit => exact .inl rfl
  | replay threadId => exact .inl rfl
  | feedback messageId rating comment =>
    show OwnerAfter rt _ (submitFeedback rt settings s a messageId rating comment).2.tables a id
    unfold submitFeedback
    split
    · exact .inl rfl
    next message threadId hopen =>
      left
      show ((s.tables.rateMessage message rating comment).2.threads id).map _ = _
      rw [Tables.rateMessage, (of_openMessage hopen).2.1]
      by_cases hid : id = threadId
      · exact hid ▸ Tables.owner_update s.tables fun _ => rfl
      · exact congrArg (Option.map _) (Function.update_of_ne hid _ _)
  | message message threadId streams language =>
    show OwnerAfter rt _
      (postMessage rt settings base fuel s a message threadId streams language).2.tables a id
    cases hresolve : resolveThread rt settings s.tables a (messageLocale base message language)
        threadId with
    | error e =>
      unfold postMessage
      dsimp only
      rw [hresolve]
      exact .inl rfl
    | ok found =>
      obtain ⟨t, thread, token, ids⟩ := found
      rw [OwnerAfter, owner_postMessage hrt hfuel hnew hresolve]
      exact owner_resolved hnew hresolve id

/-- Who passes `_authorise_thread`. -/
theorem of_authoriseThread {id : Uuid} {conversation : Conversation} {caller : Caller}
    (h : authoriseThread rt settings id conversation caller = .ok ()) :
    match conversation.userId with
    | some owner => caller.user.map AuthUser.id = some owner.text
    | none => caller.guestToken = some (guestToken rt settings id) := by
  unfold authoriseThread at h
  cases howner : conversation.userId with
  | some owner =>
    rw [howner] at h
    dsimp only at h ⊢
    split_ifs at h with hid
    exact hid
  | none =>
    rw [howner] at h
    dsimp only at h ⊢
    split at h
    next hnone => exact absurd hnone nofun
    · exact absurd h nofun
    next token _ htoken =>
      split_ifs at h with heq
      rw [← heq]
      exact (Option.filter_eq_some_iff.1 htoken).1

/-- Where a token comes from that an answer carries: it was presented for a conversation that is
there, or it is that of a new one. -/
def TokenFrom (rt : ChatRuntime) (settings : Settings) (s s' : Service) (a : Arrival ρ)
    (token : String) : Prop :=
  ∃ id, token = guestToken rt settings id ∧
    (s.tables.threads id ≠ none ∧ a.caller.guestToken = some token ∨ created s s' a = some id)

theorem created_of_new {s s' : Service} {a : Arrival ρ} {id : Uuid}
    (hnone : s.tables.threads id = none) (hhead : a.ids.head? = some id)
    (hsome : s'.tables.threads id ≠ none) : created s s' a = some id := by
  rw [created, hhead]
  exact Option.filter_some_pos (by simp [hnone, Option.isSome_iff_ne_none, hsome])

/-- The token that the answer to a message carries. -/
theorem token_resolved {s : Service} {a : Arrival ρ} (hnew : New s a) {locale : String}
    {threadId : Option String} {t : Tables} {id : Uuid} {token : Option String} {ids : List Uuid}
    (h : resolveThread rt settings s.tables a locale threadId = .ok (t, id, token, ids))
    {s' : Service} (hs' : ∀ j, (s'.tables.threads j).map Conversation.userId =
      (t.threads j).map Conversation.userId) {carried : String}
    (htoken : token.filter (· ≠ "") = some carried) : TokenFrom rt settings s s' a carried := by
  have htoken := (Option.filter_eq_some_iff.1 htoken).1
  unfold resolveThread at h
  split at h
  · obtain ⟨⟨id', conversation⟩, hopen, h⟩ := Fallible.bind_eq_ok.1 h
    cases Except.ok.inj h
    obtain ⟨-, hthread, hallowed⟩ := of_openThread hopen
    have hallowed := of_authoriseThread hallowed
    cases howner : conversation.userId with
    | some owner =>
      rw [howner] at htoken
      exact absurd htoken nofun
    | none =>
      rw [howner] at htoken hallowed
      change a.caller.guestToken = some carried at htoken
      obtain rfl := Option.some.inj (htoken.symm.trans hallowed)
      exact ⟨id, rfl, .inl ⟨hthread ▸ nofun, htoken⟩⟩
  · obtain ⟨⟨t', id', ids'⟩, hstore, h⟩ := Fallible.bind_eq_ok.1 h
    cases Except.ok.inj h
    split_ifs at htoken
    obtain rfl := Option.some.inj htoken
    refine ⟨id, rfl, .inr ?_⟩
    cases hids : a.ids with
    | nil =>
      rw [hids] at hstore
      exact absurd hstore nofun
    | cons first rest =>
      have hnone := (hnew.2 first (hids ▸ List.mem_cons_self)).1
      rw [hids, storeThread_cons hnone] at hstore
      obtain ⟨rfl, rfl, -⟩ : s.tables.stored first _ = t ∧ first = id ∧ rest = ids := by
        simpa using hstore
      refine created_of_new hnone (congrArg List.head? hids) fun hgone => ?_
      have howner := hs' first
      have hthread : (s.tables.stored first (newConversation rt a.caller a.now locale none
          [])).threads first = some _ := Function.update_self ..
      rw [hgone, hthread] at howner
      exact absurd howner nofun

theorem guestToken_stream (token : Option String) (id : Uuid) (events : List Event)
    (result : Except Raised Unit) :
    (Answer.stream (token.toList.map (.opened id) ++ events.map .event ++
      lastFrames result)).guestToken = token := by
  have hevents : (events.map Frame.event ++ lastFrames result).findSome? (fun
      | .opened _ token => some token
      | .event _ => none) = (none : Option String) := by
    rw [List.findSome?_eq_none_iff]
    intro frame hframe
    rcases List.mem_append.1 hframe with hframe | hframe
    · obtain ⟨event, -, rfl⟩ := List.mem_map.1 hframe
      rfl
    · cases result with
      | ok u => exact absurd hframe List.not_mem_nil
      | error e =>
        obtain rfl := List.mem_singleton.1 hframe
        rfl
  rw [List.append_assoc]
  cases token with
  | none => exact hevents
  | some token => rfl

theorem guestToken_replay (frames : List Event) :
    (Answer.stream (replayFrames frames)).guestToken = none := by
  show (replayFrames frames).findSome? _ = none
  rw [List.findSome?_eq_none_iff]
  intro frame hframe
  unfold replayFrames at hframe
  split_ifs at hframe
  · obtain rfl := List.mem_singleton.1 hframe
    rfl
  · obtain ⟨event, -, rfl⟩ := List.mem_map.1 hframe
    rfl

/-- **The tokens a service gives out.** -/
theorem token_respond (hrt : rt.Lawful) (hfuel : 2 ≤ fuel) {s : Service} {a : Arrival ρ}
    (hnew : New s a) {answer : Answer} {token : String}
    (hanswer : (respond rt settings base fuel s a).1 = .ok answer)
    (htoken : answer.guestToken = some token) :
    TokenFrom rt settings s (respond rt settings base fuel s a).2 a token := by
  unfold respond at hanswer ⊢
  cases ha : a.request with
  | createThread locale title metadata =>
    rw [ha] at hanswer
    change (createThread rt settings s a locale title metadata).1 = _ at hanswer
    show TokenFrom rt settings s (createThread rt settings s a locale title metadata).2 a token
    unfold createThread at hanswer ⊢
    cases hids : a.ids with
    | nil =>
      rw [hids] at hanswer
      exact absurd hanswer nofun
    | cons first rest =>
      have hnone := (hnew.2 first (hids ▸ List.mem_cons_self)).1
      rw [hids, storeThread_cons hnone] at hanswer
      rw [storeThread_cons hnone]
      obtain rfl := Except.ok.inj hanswer
      change (if a.caller.user.isSome = true then none else some (guestToken rt settings first)) =
        some token at htoken
      split_ifs at htoken
      refine ⟨first, (Option.some.inj htoken).symm, .inr ?_⟩
      refine created_of_new hnone (congrArg List.head? hids) fun hgone => ?_
      exact absurd ((Function.update_self ..).symm.trans hgone) nofun
  | listMessages threadId page limit =>
    rw [ha] at hanswer
    obtain ⟨opened, -, hanswer⟩ := Fallible.bind_eq_ok.1 hanswer
    obtain rfl := Except.ok.inj hanswer
    exact absurd htoken nofun
  | replay threadId =>
    rw [ha] at hanswer
    obtain ⟨opened, -, hanswer⟩ := Fallible.bind_eq_ok.1 hanswer
    obtain rfl := Except.ok.inj hanswer
    rw [guestToken_replay] at htoken
    exact absurd htoken nofun
  | feedback messageId rating comment =>
    rw [ha] at hanswer
    change (submitFeedback rt settings s a messageId rating comment).1 = _ at hanswer
    unfold submitFeedback at hanswer
    split at hanswer
    · exact absurd hanswer nofun
    · obtain rfl := Except.ok.inj hanswer
      exact absurd htoken nofun
  | message message threadId streams language =>
    rw [ha] at hanswer
    change (postMessage rt settings base fuel s a message threadId streams language).1 = _ at hanswer
    show TokenFrom rt settings s
      (postMessage rt settings base fuel s a message threadId streams language).2 a token
    cases hresolve : resolveThread rt settings s.tables a (messageLocale base message language)
        threadId with
    | error e =>
      unfold postMessage at hanswer
      dsimp only at hanswer
      rw [hresolve] at hanswer
      exact absurd hanswer nofun
    | ok found =>
      obtain ⟨t, id, carried, ids⟩ := found
      refine token_resolved hnew hresolve (owner_postMessage hrt hfuel hnew hresolve) ?_
      unfold postMessage at hanswer
      dsimp only at hanswer
      rw [hresolve] at hanswer
      dsimp only at hanswer
      split at hanswer
      · obtain rfl := Except.ok.inj hanswer
        rwa [guestToken_stream] at htoken
      · cases hresult : (answerTurn rt settings base fuel t a ids
            (turnInput a message (messageLocale base message language) id)).result with
        | error e =>
          rw [hresult] at hanswer
          exact absurd hanswer nofun
        | ok turn =>
          rw [hresult] at hanswer
          obtain rfl := Except.ok.inj hanswer
          exact htoken

/-! ### Runs -/

/-- What holds whenever something is asked. -/
structure Ledger.Sound (rt : ChatRuntime) (settings : Settings) (l : Ledger) : Prop where
  creator : ∀ id conversation, l.service.tables.threads id = some conversation →
    ∃ party caller, l.creator id = some (party, caller) ∧
      conversation.userId = (caller.user.map AuthUser.id).bind rt.uuid
  given : ∀ party, ∀ token ∈ l.given party, ∃ id caller, l.creator id = some (party, caller) ∧
    token = guestToken rt settings id ∧ l.service.tables.threads id ≠ none
  distinct : ∀ id id', l.service.tables.threads id ≠ none → l.service.tables.threads id' ≠ none →
    guestToken rt settings id = guestToken rt settings id' → id = id'

theorem Ledger.sound_start : Ledger.start.Sound rt settings :=
  ⟨fun _ _ h => absurd h nofun, fun _ _ h => absurd h List.not_mem_nil, fun _ _ h => absurd rfl h⟩

/-- A conversation after a request: there before with the same owner, or new. -/
theorem there_or_new (hrt : rt.Lawful) (hfuel : 2 ≤ fuel) {s : Service} {a : Arrival ρ}
    (hnew : New s a) {id : Uuid} {conversation : Conversation}
    (h : (respond rt settings base fuel s a).2.tables.threads id = some conversation) :
    (∃ before, s.tables.threads id = some before ∧ conversation.userId = before.userId) ∨
      created s (respond rt settings base fuel s a).2 a = some id ∧ a.ids.head? = some id ∧
        conversation.userId = (a.caller.user.map AuthUser.id).bind rt.uuid := by
  have howner : OwnerAfter rt s.tables (respond rt settings base fuel s a).2.tables a id :=
    owner_respond hrt hfuel hnew id
  rcases howner with hsame | ⟨hnone, hhead, howner⟩
  · rw [h] at hsame
    obtain ⟨before, hbefore, howner⟩ := Option.map_eq_some_iff.1 hsame.symm
    exact .inl ⟨before, hbefore, howner.symm⟩
  · rw [h] at howner
    exact .inr ⟨created_of_new hnone hhead (h ▸ nofun), hhead, Option.some.inj howner⟩

theorem of_created {s s' : Service} {a : Arrival ρ} {id : Uuid} (h : created s s' a = some id) :
    s.tables.threads id = none ∧ s'.tables.threads id ≠ none := by
  obtain ⟨-, h⟩ := Option.filter_eq_some_iff.1 h
  simpa [Option.isSome_iff_ne_none] using h

section Step

variable (l : Ledger) (party : ℕ) (a : Arrival ρ)

theorem Ledger.creator_of_created {id : Uuid}
    (h : created l.service (respond rt settings base fuel l.service a).2 a = some id) :
    (l.answer rt settings base fuel party a).creator id = some (party, a.caller) := by
  show (match created l.service (respond rt settings base fuel l.service a).2 a with
    | some id => Function.update l.creator id (some (party, a.caller))
    | none => l.creator) id = _
  rw [h]
  exact Function.update_self ..

theorem Ledger.creator_of_there {id : Uuid} (h : l.service.tables.threads id ≠ none) :
    (l.answer rt settings base fuel party a).creator id = l.creator id := by
  show (match created l.service (respond rt settings base fuel l.service a).2 a with
    | some id => Function.update l.creator id (some (party, a.caller))
    | none => l.creator) id = _
  cases hcreated : created l.service (respond rt settings base fuel l.service a).2 a with
  | some id' =>
    have hne : id ≠ id' := fun heq => h (heq ▸ (of_created hcreated).1)
    exact Function.update_of_ne hne _ _
  | none => rfl

theorem Ledger.given_other {p : ℕ} (h : p ≠ party) :
    (l.answer rt settings base fuel party a).given p = l.given p :=
  Function.update_of_ne h _ _

theorem Ledger.given_self :
    (l.answer rt settings base fuel party a).given party =
      ((respond rt settings base fuel l.service a).1.toOption.bind Answer.guestToken).toList ++
        l.given party :=
  Function.update_self ..

end Step

/-- **The step lemma.** -/
theorem Ledger.Sound.answer (hrt : rt.Lawful) (hfuel : 2 ≤ fuel) {l : Ledger} {party : ℕ}
    {a : Arrival ρ} (hl : l.Sound rt settings) (hhonest : Honest rt settings l (party, a)) :
    (l.answer rt settings base fuel party a).Sound rt settings := by
  obtain ⟨hnew, hunforged, hdistinct⟩ := hhonest
  have hstays (id : Uuid) (h : l.service.tables.threads id ≠ none) :
      (respond rt settings base fuel l.service a).2.tables.threads id ≠ none := by
    have howner : OwnerAfter rt l.service.tables
        (respond rt settings base fuel l.service a).2.tables a id := owner_respond hrt hfuel hnew id
    rcases howner with hsame | ⟨hnone, -⟩
    · intro hgone
      rw [hgone] at hsame
      exact h (Option.map_eq_none_iff.1 hsame.symm)
    · exact absurd hnone h
  have hgiven (p : ℕ) (token : String) (h : token ∈ l.given p) :
      ∃ id caller, (l.answer rt settings base fuel party a).creator id = some (p, caller) ∧
        token = guestToken rt settings id ∧
        (respond rt settings base fuel l.service a).2.tables.threads id ≠ none := by
    obtain ⟨id, caller, hcreator, htoken, hthere⟩ := hl.given p token h
    exact ⟨id, caller, (l.creator_of_there party a hthere).trans hcreator, htoken, hstays id hthere⟩
  refine ⟨fun id conversation hthread => ?_, fun p token htoken => ?_, fun id id' hid hid' heq => ?_⟩
  · rcases there_or_new hrt hfuel hnew hthread with ⟨before, hbefore, howner⟩ | ⟨hcreated, -, howner⟩
    · obtain ⟨p, caller, hcreator, hbeforeOwner⟩ := hl.creator id before hbefore
      exact ⟨p, caller, (l.creator_of_there party a (hbefore ▸ nofun)).trans hcreator,
        howner.trans hbeforeOwner⟩
    · exact ⟨party, a.caller, l.creator_of_created party a hcreated, howner⟩
  · by_cases hp : p = party
    · subst hp
      rw [Ledger.given_self] at htoken
      rcases List.mem_append.1 htoken with hcarried | hbefore
      · obtain ⟨answer, hanswer, hcarried⟩ := Option.bind_eq_some_iff.1 (Option.mem_toList.1 hcarried)
        obtain ⟨id, heq, ⟨hthere, hpresented⟩ | hcreated⟩ :=
          token_respond hrt hfuel hnew (eq_ok_of_toOption hanswer) hcarried
        · exact hgiven p token (hunforged token hpresented id hthere heq)
        · exact ⟨id, a.caller, l.creator_of_created p a hcreated, heq, (of_created hcreated).2⟩
      · exact hgiven p token hbefore
    · rw [l.given_other party a hp] at htoken
      exact hgiven p token htoken
  · obtain ⟨conversation, hconversation⟩ := Option.ne_none_iff_exists'.1 hid
    obtain ⟨conversation', hconversation'⟩ := Option.ne_none_iff_exists'.1 hid'
    rcases there_or_new hrt hfuel hnew hconversation with ⟨before, hbefore, -⟩ | ⟨-, hhead, -⟩ <;>
      rcases there_or_new hrt hfuel hnew hconversation' with
        ⟨before', hbefore', -⟩ | ⟨-, hhead', -⟩
    · exact hl.distinct id id' (hbefore ▸ nofun) (hbefore' ▸ nofun) heq
    · exact absurd heq.symm (hdistinct id' (List.mem_of_head? hhead') id (hbefore ▸ nofun))
    · exact absurd heq (hdistinct id (List.mem_of_head? hhead) id' (hbefore' ▸ nofun))
    · exact Option.some.inj (hhead.symm.trans hhead')

/-- Who is let into a conversation passes `_authorise_thread` for it. -/
theorem authorised_of_subject {s : Service} {a : Arrival ρ} (hnew : New s a) {id : Uuid}
    {conversation : Conversation} (hsubject : subject rt settings s a = some id)
    (hthread : s.tables.threads id = some conversation) :
    authoriseThread rt settings id conversation a.caller = .ok () := by
  have hhead : a.ids.head? ≠ some id := by
    intro h
    exact absurd ((hnew.2 id (List.mem_of_head? h)).1.symm.trans hthread) nofun
  have hopened {text : String} (h : (openThread rt settings s.tables a.caller text).toOption.map
      Prod.fst = some id) : authoriseThread rt settings id conversation a.caller = .ok () := by
    obtain ⟨⟨id', conversation'⟩, hopen, heq⟩ := Option.map_eq_some_iff.1 h
    obtain rfl : id' = id := heq
    obtain ⟨-, hthread', hallowed⟩ := of_openThread (eq_ok_of_toOption hopen)
    obtain rfl := Option.some.inj (hthread'.symm.trans hthread)
    exact hallowed
  unfold subject at hsubject
  dsimp only at hsubject
  split at hsubject
  · exact absurd hsubject hhead
  · exact hopened hsubject
  · exact hopened hsubject
  · split at hsubject
    · exact hopened hsubject
    · exact absurd hsubject hhead
  · obtain ⟨⟨message, id'⟩, hopen, heq⟩ := Option.map_eq_some_iff.1 hsubject
    obtain rfl : id' = id := heq
    obtain ⟨-, -, conversation', hthread', hallowed⟩ := of_openMessage (eq_ok_of_toOption hopen)
    obtain rfl := Option.some.inj (hthread'.symm.trans hthread)
    exact hallowed

/-- **Who is let in.**  Over any run of requests by any parties, a request is let into a
conversation only of the account that owns it, or of the party that created it as a guest. -/
theorem let_in_rightly (hrt : rt.Lawful) (hfuel : 2 ≤ fuel) {requests : List (ℕ × Arrival ρ)}
    (hhonest : (parties rt settings base fuel).Meets (Honest rt settings) .start requests) :
    (parties rt settings base fuel).Meets (LetInRightly rt settings) .start requests := by
  have hstart : Ledger.start.Sound rt settings := Ledger.sound_start
  refine Machine.Meets.of_invariant (fun l request l' hl hr hstep => ?_) (fun l request hl hr => ?_)
    requests hstart hhonest
  · obtain rfl := Option.some.inj hstep
    exact hl.answer hrt hfuel hr
  · intro id conversation hsubject hthread
    obtain ⟨party, caller, hcreator, howner⟩ := hl.creator id conversation hthread
    refine ⟨party, caller, hcreator, howner, ?_⟩
    have hallowed := of_authoriseThread (authorised_of_subject hr.new hsubject hthread)
    cases hcase : conversation.userId with
    | some owner =>
      rw [hcase] at hallowed
      exact hallowed
    | none =>
      rw [hcase] at hallowed
      have hpresented := hr.unforged _ hallowed id (hthread ▸ nofun) rfl
      obtain ⟨id', caller', hcreator', htoken, hthere'⟩ := hl.given _ _ hpresented
      obtain rfl := hl.distinct id id' (hthread ▸ nofun) hthere' htoken
      exact congrArg Prod.fst (Option.some.inj (hcreator'.symm.trans hcreator))

end Tokens

/-- The visitor and somebody else. -/
def demoRequests : List (ℕ × Arrival Unit) :=
  [(0, demoCreate), (0, demoMessage), (1, demoRead none), (0, demoRead (some demoToken))]

theorem let_in_rightly_demo : (parties demoRuntime demoSettings idle 2).Meets
    (LetInRightly demoRuntime demoSettings) .start demoRequests := by
  refine let_in_rightly lawful_demoRuntime (le_refl 2) ⟨?_, fun l hl => ⟨?_, fun l' hl' => ⟨?_,
    fun l'' hl'' => ⟨?_, fun _ _ => trivial⟩⟩⟩⟩
  · exact ⟨by show [demoThread].Nodup ∧ ∀ id ∈ [demoThread], _; decide, fun _ h => absurd h nofun,
      fun _ _ _ h => absurd rfl h⟩
  · obtain rfl := Option.some.inj hl
    refine ⟨new_demoMessage, fun token htoken _ _ _ => ?_, fun id hid id' hthere => ?_⟩
    · obtain rfl := Option.mem_some.1 htoken
      decide
    · have hid' : id' = demoThread := by
        by_contra hne
        exact hthere (Function.update_of_ne hne _ _)
      subst hid'
      revert id
      decide
  · exact ⟨new_of_nil _ rfl, fun _ h => absurd h nofun, fun _ h => absurd h List.not_mem_nil⟩
  · refine ⟨new_of_nil _ rfl, fun token htoken _ _ _ => ?_, fun _ h => absurd h List.not_mem_nil⟩
    obtain rfl := Option.mem_some.1 htoken
    have hgiven : demoToken ∈ l.given 0 := by
      obtain rfl := Option.some.inj hl
      decide
    have hanswered : demoToken ∈ l'.given 0 := by
      obtain rfl := Option.some.inj hl'
      rw [Ledger.given_self]
      exact List.mem_append_right _ hgiven
    obtain rfl := Option.some.inj hl''
    show demoToken ∈ (l'.answer demoRuntime demoSettings idle 2 1 (demoRead none)).given 0
    rw [l'.given_other 1 _ (by decide)]
    exact hanswered

end Chat
end Rag
end TopChoice
