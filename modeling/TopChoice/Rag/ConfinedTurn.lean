/-
# A turn and what its collaborators can tell apart

The agent acts on the world through its collaborators only.  So where these come to the same
in two worlds, as far as the thread of the turn goes, a whole turn does: it answers, yields and
stores the same (`respects_answer`, `respects_stream`).  The thread of a turn is the one it was
asked in, whatever its nodes report.
-/

import TopChoice.Lib.Locality
import TopChoice.Rag.Executors

namespace TopChoice
namespace Rag
namespace Agent

open Effects Program

/-- In related worlds the collaborators come to the same for a thread. -/
structure Collaborators.Steady {ω : Type} (c : Collaborators ω) (R : ω → ω → Prop)
    (threadId : Option String) : Prop where
  http : ∀ request, Program.Steady R (c.services.http request)
  elapsed : ∀ w v, R w v → c.services.elapsed v = c.services.elapsed w
  latency : ∀ w v, R w v → c.latency v = c.latency w
  generate : ∀ messages options, Program.Steady R (c.generate messages options)
  stream : ∀ messages sources question, Program.Steady R fun w =>
    ((.ok (c.stream messages sources question w).1, (c.stream messages sources question w).2) :
      Except Raised _ × ω)
  search : ∀ query, Program.Steady R (c.search query)
  loadMemory : Program.Steady R (c.loadMemory threadId)
  addMessage : ∀ message, threadId = some message.threadId → Program.Steady R (c.addMessage message)
  recordToolCalls : ∀ id results, Program.Steady R (c.recordToolCalls id results)
  getThread : ∀ id, threadId = some id → Program.Steady R (c.getThread id)
  touchThread : ∀ id title, threadId = some id → Program.Steady R (c.touchThread id title)
  persistProfile : ∀ id profile, threadId = some id → Program.Steady R (c.persistProfile id profile)
  refreshSummary : ∀ id messages previous, threadId = some id →
    Program.Steady R (c.refreshSummary id messages previous)

section Turn

variable {ω : Type} {c : Collaborators ω} {R : ω → ω → Prop} {threadId : Option String}
  (h : c.Steady R threadId)

/-! ### Tools -/

include h

theorem respects_sendJson (request : HttpRequest) :
    (sendJson c.services request).Respects R fun _ => True := by
  have hsend : (send c.services request).Respects R fun _ => True :=
    respects_bind (respects_tell _) fun _ _ => respects_perform (h.http request)
  refine respects_bind hsend fun response _ => ?_
  split
  · exact respects_ofExcept _
  · exact respects_raise _

theorem respects_searchOnce (params : List (String × Json)) :
    (searchOnce c.services params).Respects R fun _ => True := by
  refine respects_bind (respects_sendJson h _) fun body _ => ?_
  split
  · split <;> exact respects_pure trivial
  · exact respects_raise _

theorem respects_searchWidened (params : List (String × Json)) (widenings : List (String × String)) :
    (searchWidened c.services params widenings).Respects R fun _ => True := by
  induction widenings with
  | nil => exact respects_pure trivial
  | cons widening rest ih =>
    obtain ⟨dropped, label⟩ := widening
    rw [searchWidened]
    split
    · exact ih
    · refine respects_bind (respects_searchOnce h _) fun results _ => ?_
      split
      · exact ih
      · exact respects_pure trivial

theorem respects_searchListings (args : SearchListingsArgs) (context : ToolContext) :
    (searchListings c.services args context).Respects R fun _ => True := by
  have hrender (found : List Json × String) :
      (renderFound c.services args.limit found).Respects R fun _ => True := by
    unfold renderFound
    split
    · exact respects_pure trivial
    · exact respects_bind (respects_ofExcept _) fun _ _ => respects_pure trivial
  refine respects_bind (respects_searchOnce h _) fun results _ => ?_
  split
  · exact respects_bind (respects_searchWidened h _ _) fun found _ => hrender found
  · exact hrender _

theorem respects_getPropertyDetails (idOrSlug : String) (context : ToolContext) :
    (getPropertyDetails c.services idOrSlug context).Respects R fun _ => True := by
  refine respects_bind (respects_sendJson h _) fun body _ => ?_
  dsimp only
  split
  · exact respects_bind (respects_ofExcept _) fun _ _ => respects_pure trivial
  · exact respects_pure trivial

theorem respects_createLead (args : CreateLeadArgs) (context : ToolContext) :
    (createLead c.services args context).Respects R fun _ => True := by
  unfold createLead
  split
  · exact respects_bind (respects_sendJson h _) fun _ _ => respects_pure trivial
  · exact respects_pure trivial

theorem respects_webSearch (args : WebSearchArgs) (context : ToolContext) :
    (webSearch c.services args context).Respects R fun _ => True := by
  unfold webSearch
  split
  · refine respects_bind (respects_bind (respects_tell _) fun _ _ =>
      respects_perform (h.http _)) fun response _ => ?_
    split
    · exact respects_pure trivial
    · exact respects_bind (respects_ofExcept _) fun _ _ => respects_pure trivial
  · exact respects_pure trivial

theorem respects_timed (result : ToolResult) :
    (timed c.services result).Respects R fun _ => True :=
  respects_perform fun w v hwv => ⟨by rw [h.elapsed w v hwv], hwv⟩

theorem respects_invoke {tool : Tool ω} {context : ToolContext}
    (hrun : ∀ raw run, tool.run raw = .ok run → (run context).Respects R fun _ => True)
    (rawArgs : Json) : (tool.invoke c.services rawArgs context).Respects R fun _ => True := by
  unfold Tool.invoke
  dsimp only
  split
  · exact respects_timed h _
  · refine respects_bind (respects_attempt (hrun _ _ ‹_›)) fun result _ => ?_
    split
    · split <;> exact respects_timed h _
    · exact respects_timed h _

/-- The tools act on the world through the requests they send and the clock. -/
theorem respects_invokeTool (name : String) (arguments : Json) (context : ToolContext) :
    (invokeTool c.services name arguments context).Respects R fun _ => True := by
  unfold invokeTool
  split
  next tool hfind =>
    refine respects_invoke h (fun raw run hrun => ?_) _
    have hmap {α : Type} {x : Except String α} {f : α → ToolContext → TurnProgram ω ToolResult}
        (hx : x.map f = .ok run) : ∃ a, run = f a := by
      cases x with
      | error detail => exact absurd hx nofun
      | ok a => exact ⟨a, (Except.ok.inj hx).symm⟩
    have hmem := List.mem_of_find?_eq_some hfind
    simp only [tools, List.mem_cons, List.not_mem_nil, or_false] at hmem
    obtain rfl | rfl | rfl | rfl | rfl | rfl := hmem
    · obtain ⟨args, rfl⟩ := hmap hrun
      exact respects_searchListings h args context
    · obtain ⟨args, rfl⟩ := hmap hrun
      exact respects_getPropertyDetails h args context
    · obtain ⟨args, rfl⟩ := hmap hrun
      exact respects_bind (respects_sendJson h _) fun _ _ =>
        respects_bind (respects_ofExcept _) fun _ _ => respects_pure trivial
    · obtain ⟨args, rfl⟩ := hmap hrun
      exact respects_createLead h args context
    · obtain ⟨args, rfl⟩ := hmap hrun
      exact respects_pure trivial
    · obtain ⟨args, rfl⟩ := hmap hrun
      exact respects_webSearch h args context
  · exact respects_pure trivial

theorem respects_runCalls (context : ToolContext) (calls : List Call)
    (done : List ToolRecord × List Json) :
    (runCalls c context calls done).Respects R fun _ => True := by
  induction calls generalizing done with
  | nil => exact respects_pure trivial
  | cons call rest ih =>
    obtain ⟨results, sources⟩ := done
    exact respects_bind (respects_invokeTool h _ _ _) fun result _ => ih _

/-! ### Nodes -/

/-- A question to the model whose answer may be no good. -/
theorem respects_asked {α : Type} (messages : List Message) (options : GenerateOptions)
    (read : Generated → Except Raised α) :
    (attempt (do
      let result ← perform (c.generate messages options)
      ofExcept (read result)) : TurnProgram ω (Except Raised α)).Respects R fun _ => True :=
  respects_attempt (respects_bind (respects_perform (h.generate _ _)) fun _ _ => respects_ofExcept _)

theorem respects_planToolCalls (state : TurnState) :
    (planToolCalls c state).Respects R fun _ => True := by
  unfold planToolCalls
  split
  · refine respects_bind (respects_asked h _ _ fun result => extractJson c.python result.text)
      fun parsed _ => ?_
    cases parsed with
    | error raised => exact respects_ofExcept _
    | ok parsed =>
      refine respects_bind (respects_ofExcept _) fun planned _ => ?_
      split
      · exact respects_ofExcept _
      · exact respects_pure trivial
  · exact respects_ofExcept _

theorem respects_rewriteQuestion (state : TurnState) :
    (rewriteQuestion c state).Respects R fun _ => True := by
  unfold rewriteQuestion
  split
  · refine respects_bind (respects_attempt (respects_perform (h.generate _ _))) fun result _ => ?_
    cases result <;> exact respects_pure trivial
  · exact respects_pure trivial

theorem respects_gradeContext (state : TurnState) :
    (gradeContext c state).Respects R fun _ => True := by
  unfold gradeContext
  split_ifs
  · exact respects_pure trivial
  · refine respects_bind (respects_asked h _ _ fun result => verdict c result.text)
      fun graded _ => ?_
    cases graded with
    | error raised => exact respects_pure trivial
    | ok graded => exact respects_bind (respects_ofExcept _) fun _ _ => respects_pure trivial
  · exact respects_pure trivial

/-- **What each node can tell apart**, one case per node. -/
theorem respects_nodeFunction (n : Node) {state : TurnState} (hthread : state.threadId = threadId) :
    (nodeFunction c n state).Respects R fun _ => True := by
  cases n with
  | loadMemory =>
    exact respects_bind (respects_perform (hthread ▸ h.loadMemory)) fun memory _ =>
      respects_bind (respects_ofExcept _) fun _ _ => respects_pure trivial
  | guard =>
    unfold nodeFunction guard
    dsimp only
    split_ifs <;> exact respects_pure trivial
  | classify =>
    unfold nodeFunction route
    dsimp only
    split
    · refine respects_bind (respects_asked h _ _ fun result => selectedRoute c result.text)
        fun selected _ => ?_
      cases selected <;> exact respects_pure trivial
    · exact respects_pure trivial
  | rewriteQuery =>
    exact respects_bind (respects_rewriteQuestion h state) fun _ _ =>
      respects_bind (respects_ofExcept _) fun _ _ => respects_pure trivial
  | retrieve =>
    exact respects_bind (respects_perform (h.search _)) fun _ _ => respects_pure trivial
  | gradeContext => exact respects_gradeContext h state
  | callTools =>
    refine respects_bind (respects_ofExcept _) fun filters _ => ?_
    split
    · exact respects_pure trivial
    · exact respects_bind (respects_planToolCalls h _) fun requests _ =>
        respects_bind (respects_runCalls h _ _ _) fun _ _ => respects_pure trivial
  | generate =>
    unfold nodeFunction generate
    dsimp only
    split
    · exact respects_pure trivial
    · refine respects_bind (respects_tell _) fun _ _ =>
        respects_bind (respects_attempt (respects_perform (h.generate _ _))) fun result _ => ?_
      cases result <;> exact respects_pure trivial

omit h in
theorem respects_marked {α : Type} {P : α → Prop} (n : Node) {p : TurnProgram ω α}
    (hp : p.Respects R P) : (marked n p).Respects R fun _ => True := by
  refine respects_bind (respects_attempt hp) fun result _ => ?_
  cases result with
  | ok a => exact respects_pure trivial
  | error raised => exact respects_bind (respects_tell _) fun _ _ => respects_raise _

/-- A visit leaves the turn in its thread. -/
theorem respects_visit (n : Node) {state : TurnState} (hthread : state.threadId = threadId) :
    (visit c n state).Respects R fun state' => state'.threadId = threadId := by
  have hrun : (runNode c n state).Respects R fun _ => True :=
    respects_bind (respects_tell _) fun _ _ => respects_marked n (respects_nodeFunction h n hthread)
  have hvisit : (visit c n state).Respects R fun _ => True :=
    respects_bind hrun fun _ _ => respects_pure trivial
  exact (hvisit.and_ends (ends_visit c n state)).mono fun state' hstate' =>
    hstate'.2.threadId.trans hthread

omit h in
theorem respects_branch (state : TurnState) : (branch c state).Respects R fun _ => True :=
  respects_marked .classify (respects_ofExcept _)

/-! ### Executors -/

theorem respects_retrievalRound {state : TurnState} (hthread : state.threadId = threadId) :
    (retrievalRound c state).Respects R fun state' => state'.threadId = threadId :=
  respects_bind (respects_visit h .rewriteQuery hthread) fun _ hs =>
    respects_bind (respects_visit h .retrieve hs) fun _ ht => respects_visit h .gradeContext ht

theorem respects_sequentialLoop (fuel : ℕ) {state : TurnState} (hthread : state.threadId = threadId) :
    (sequentialLoop c fuel state).Respects R fun state' => state'.threadId = threadId := by
  induction fuel generalizing state with
  | zero => exact respects_raise _
  | succ fuel ih =>
    refine respects_bind (respects_retrievalRound h hthread) fun state' hstate' => ?_
    dsimp only
    split_ifs
    · exact ih hstate'
    · exact respects_visit h .callTools hstate'
    · exact respects_pure hstate'

theorem respects_runSequential (fuel : ℕ) {state : TurnState} (hthread : state.threadId = threadId) :
    (runSequential c fuel state).Respects R fun state' => state'.threadId = threadId := by
  refine respects_bind (respects_visit h .loadMemory hthread) fun s hs => ?_
  refine respects_bind (respects_visit h .guard hs) fun t ht => ?_
  split
  · exact respects_pure ht
  · refine respects_bind (respects_visit h .classify ht) fun u hu => ?_
    refine respects_bind (respects_branch u) fun label _ => ?_
    have hbranch : (sequentialBranch c fuel label u).Respects R
        fun state' => state'.threadId = threadId := by
      unfold sequentialBranch
      split_ifs
      · exact respects_sequentialLoop h fuel hu
      · exact respects_visit h .callTools hu
      · exact respects_pure hu
    exact respects_bind hbranch fun _ hx => respects_visit h .generate hx

/-! ### Persistence -/

theorem respects_addMessage {message : StoredMessage} (hthread : threadId = some message.threadId) :
    (addMessage c message).Respects R fun _ => True :=
  respects_bind (respects_tell _) fun _ _ => respects_perform (h.addMessage message hthread)

theorem respects_finishTurn (state : TurnState) (turn : AgentTurn) {id : String}
    (hthread : threadId = some id) : (finishTurn c state turn id).Respects R fun _ => True := by
  have hrecord : (recordToolCalls c turn).Respects R fun _ => True := by
    unfold recordToolCalls
    split
    · exact respects_pure trivial
    · exact respects_bind (respects_tell _) fun _ _ => respects_perform (h.recordToolCalls _ _)
  refine respects_bind hrecord fun _ _ => respects_bind (respects_perform (h.getThread _ hthread))
    fun existing _ => respects_bind (respects_perform (h.touchThread _ _ hthread)) fun _ _ =>
      respects_bind (respects_perform (h.persistProfile _ _ hthread)) fun _ _ =>
        respects_bind (respects_perform (hthread ▸ h.loadMemory)) fun memory _ => ?_
  split
  · exact respects_perform (h.refreshSummary _ _ _ hthread)
  · exact respects_pure trivial

theorem respects_persist {state : TurnState} (hthread : state.threadId = threadId) :
    (persist c state).Respects R fun _ => True := by
  have hlatency : Program.Steady R fun w => ((.ok (c.latency w), w) : Except Raised ℕ × ω) :=
    fun w v hwv => ⟨congrArg Except.ok (h.latency w v hwv), hwv⟩
  refine respects_bind (respects_perform hlatency) fun latency _ => ?_
  dsimp only
  split
  · exact respects_pure trivial
  next id hid =>
    have hthread' : threadId = some id := hthread.symm.trans (Option.filter_eq_some_iff.1 hid).1
    have hadd : (addMessages c state (state.turn latency) id).Respects R fun _ => True :=
      respects_bind (respects_addMessage h hthread') fun _ _ =>
        respects_bind (respects_addMessage h hthread') fun _ _ => respects_pure trivial
    refine respects_bind (respects_attempt hadd) fun added _ => ?_
    cases added with
    | error raised => exact respects_pure trivial
    | ok ids =>
      obtain ⟨userMessage, assistantMessage⟩ := ids
      exact respects_bind (respects_attempt (respects_finishTurn h _ _ hthread')) fun _ _ =>
        respects_pure trivial

/-- **A turn that is answered at once**, by the graph or by the fallback. -/
theorem respects_answer (usesLanggraph : Bool) {fuel : ℕ} (hfuel : 2 ≤ fuel) (stored : TurnState)
    {input : TurnInput} (hthread : input.threadId = threadId) :
    (answer c usesLanggraph fuel stored input).Respects R fun _ => True := by
  have hexecute : (execute c usesLanggraph fuel stored input).Respects R
      fun state => state.threadId = threadId := by
    rw [execute, runGraph_eq c hfuel, ite_self]
    exact respects_runSequential h fuel hthread
  exact respects_bind hexecute fun state hstate => respects_persist h hstate

/-! ### Streaming -/

theorem respects_streamTools {state : TurnState} (hthread : state.threadId = threadId) :
    (streamTools c state).Respects R fun state' => state'.threadId = threadId :=
  respects_bind (respects_tell _) fun _ _ => respects_bind (respects_visit h .callTools hthread)
    fun _ hs => respects_bind (respects_tellAll _) fun _ _ => respects_pure hs

theorem respects_streamLoop (fuel : ℕ) {state : TurnState} (hthread : state.threadId = threadId) :
    (streamLoop c fuel state).Respects R fun state' => state'.threadId = threadId := by
  induction fuel generalizing state with
  | zero => exact respects_raise _
  | succ fuel ih =>
    refine respects_bind (respects_retrievalRound h hthread) fun state' hstate' => ?_
    dsimp only
    split_ifs
    · exact ih hstate'
    · exact respects_streamTools h hstate'
    · exact respects_pure hstate'

theorem respects_finishStream {state : TurnState} (hthread : state.threadId = threadId) :
    (finishStream c state).Respects R fun _ => True :=
  respects_bind (respects_persist h hthread) fun _ _ => respects_tell _

theorem respects_streamAnswer {state : TurnState} (hthread : state.threadId = threadId) :
    (streamAnswer c state).Respects R fun _ => True := by
  have hsources : (yieldSources state : TurnProgram ω Unit).Respects R fun _ => True := by
    unfold yieldSources
    split
    · exact respects_pure trivial
    · exact respects_tell _
  refine respects_bind hsources fun _ _ => respects_bind (respects_tell _) fun _ _ =>
    respects_bind (respects_perform (h.stream _ _ _)) fun streamed _ => ?_
  obtain ⟨pieces, ending⟩ := streamed
  refine respects_bind (respects_tellAll _) fun _ _ => ?_
  cases ending with
  | some raised =>
    exact respects_bind (respects_tell _) fun _ _ => respects_finishStream h hthread
  | none => exact respects_finishStream h hthread

/-- **A turn that is streamed.** -/
theorem respects_stream (fuel : ℕ) {input : TurnInput} (hthread : input.threadId = threadId) :
    (stream c fuel input).Respects R fun _ => True := by
  have hstart : (initialState input).threadId = threadId := hthread
  refine respects_bind (respects_visit h .loadMemory hstart) fun s hs =>
    respects_bind (respects_visit h .guard hs) fun t ht => ?_
  split
  · exact respects_bind (respects_tell _) fun _ _ => respects_finishStream h ht
  · refine respects_bind (respects_visit h .classify ht) fun u hu =>
      respects_bind (respects_branch u) fun label _ => ?_
    have hbranch : (streamBranch c fuel label u).Respects R
        fun state' => state'.threadId = threadId := by
      unfold streamBranch
      split_ifs
      · exact respects_streamLoop h fuel hu
      · exact respects_streamTools h hu
      · exact respects_pure hu
    exact respects_bind hbranch fun _ hx => respects_streamAnswer h hx

end Turn

end Agent
end Rag
end TopChoice
