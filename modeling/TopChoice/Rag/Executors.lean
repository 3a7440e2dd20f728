/-
# The three executors agree

The compiled graph, `_run_sequential` and `ChatAgent.stream`
(`apps/rag-svc/app/graph/builder.py`) are compared by their journeys: the nodes they run up
to generation, and what they hand to it.  The graph and the fallback are the same program
(`runGraph_eq`), whatever the checkpointer holds of the thread and however much fuel the
fallback's loop has, from two rounds on; the streamed turn makes the same journey
(`sameTrace_stream`).

One node advances the iteration counter, once in a round, so there are at most
`MAX_ITERATIONS` rounds, and where no node raises every run comes to generation or is turned
away by the guard (`executors_agree`).
-/

import TopChoice.Rag.ChatAgent

namespace TopChoice
namespace Rag
namespace Agent

open Effects Program StateGraph

/-! ### Journeys -/

/-- The entries that are compared: the nodes up to generation, and what is handed over. -/
def isJourney : Entry → Bool
  | .node n | .raised n => decide (n ≠ .generate)
  | .handed _ _ _ => true
  | .request _ | .yielded _ | .stored _ | .recorded _ _ => false

/-- The journey of a log. -/
def journey (log : List Entry) : List Entry := log.filter isJourney

/-- A run of `retrieve`. -/
def isRetrieval : Entry → Bool
  | .node n => decide (n = .retrieve)
  | _ => false

/-- Some node up to generation raised, or its edge did. -/
def NodeRaised (log : List Entry) : Prop := ∃ n, Entry.raised n ∈ journey log

/-- The run came to generation, and handed over to it at its end. -/
def HandsOver (log : List Entry) : Prop :=
  ∃ (nodes : List Node) (messages : List Message) (sources : List Passage) (question : String),
    journey log = nodes.map .node ++ [.handed messages sources question]

/-- The run was turned away by the guard, or came to generation. -/
def Concludes (log : List Entry) : Prop :=
  journey log = [.node .loadMemory, .node .guard] ∨ HandsOver log

section Executors

variable {ω : Type} (c : Collaborators ω)

/-! ### The graph and the fallback -/

/-- A step of the graph at a node with a fixed edge. -/
theorem run_graph_fixed {n : Node} {target : Target Node} (h : (graph c).edge n = .fixed target)
    (limit : ℕ) (state : TurnState) :
    (graph c).run (limit + 1) n state =
      visit c n state >>= fun state' => Graph.goOn ((graph c).run limit) state' target := by
  rw [Graph.run_fixed h, visit, bind_assoc]
  rfl

/-- A step of the graph at a node whose edge is chosen. -/
theorem run_graph_choose {n : Node} {path : TurnState → TurnProgram ω String}
    {targets : List (String × Target Node)} (h : (graph c).edge n = .choose path targets)
    (limit : ℕ) (state : TurnState) :
    (graph c).run (limit + 1) n state =
      visit c n state >>= fun state' => path state' >>= fun label =>
        (graph c).target targets label >>= Graph.goOn ((graph c).run limit) state' := by
  rw [Graph.run_choose h, visit, bind_assoc]
  rfl

theorem run_generate (limit : ℕ) (state : TurnState) :
    (graph c).run (limit + 1) .generate state = visit c .generate state := by
  rw [run_graph_fixed c rfl]
  exact bind_pure _

theorem run_callTools (limit : ℕ) (state : TurnState) :
    (graph c).run (limit + 2) .callTools state =
      visit c .callTools state >>= visit c .generate := by
  rw [run_graph_fixed c rfl]
  exact bind_congr fun state' => run_generate c limit state'

/-- A round of the graph. -/
theorem run_rewriteQuery (limit : ℕ) (state : TurnState) :
    (graph c).run (limit + 3) .rewriteQuery state =
      retrievalRound c state >>= fun state' =>
        (graph c).target [("generate", .node .generate), ("rewrite_query", .node .rewriteQuery),
          ("call_tools", .node .callTools)] (afterGrade state') >>=
            Graph.goOn ((graph c).run limit) state' := by
  rw [run_graph_fixed c rfl, retrievalRound, bind_assoc]
  refine bind_congr fun state' => ?_
  show (graph c).run (limit + 2) .retrieve state' = _
  rw [run_graph_fixed c rfl, bind_assoc]
  refine bind_congr fun state'' => ?_
  show (graph c).run (limit + 1) .gradeContext state'' = _
  rw [run_graph_choose c rfl]
  rfl

/-- A round advances the counter by one, and leaves the guard's verdict. -/
theorem ends_retrievalRound (state : TurnState) :
    (retrievalRound c state).Ends fun state' =>
      state'.iteration = state.iteration + 1 ∧ state'.guarded = state.guarded := by
  refine ends_bind_of_ends (ends_visit c .rewriteQuery state) fun s hs => ?_
  refine ends_bind_of_ends (ends_visit c .retrieve s) fun t ht => ?_
  refine (ends_visit c .gradeContext t).mono fun u hu => ⟨?_, ?_⟩
  · rw [hu.iteration, ht.iteration, hs.iteration]
    rfl
  · rw [hu.guarded nofun, ht.guarded nofun, hs.guarded nofun]

/-- Another round is made only while the counter is below its limit. -/
theorem iteration_lt_of_afterGrade {state : TurnState} (h : afterGrade state = "rewrite_query") :
    state.iteration < maxIterations := by
  unfold afterGrade at h
  split_ifs at h with hsufficient hlt
  · exact absurd h (by decide)
  · exact hlt
  · exact absurd h (by decide)

/-- The ways a round can be left. -/
theorem afterGrade_cases (state : TurnState) :
    afterGrade state = "generate" ∨ afterGrade state = "rewrite_query" ∨
      afterGrade state = "call_tools" := by
  unfold afterGrade
  split_ifs
  · exact .inl rfl
  · exact .inr (.inl rfl)
  · exact .inr (.inr rfl)

/-- **The loop of the graph is the loop of the fallback**, where there is fuel for the rounds
that are left, and as many steps. -/
theorem run_rewriteQuery_eq {fuel limit : ℕ} {state : TurnState}
    (hrounds : maxIterations ≤ state.iteration + fuel) (hfuel : 1 ≤ fuel)
    (hlimit : 3 * fuel + 2 ≤ limit) :
    (graph c).run limit .rewriteQuery state =
      sequentialLoop c fuel state >>= visit c .generate := by
  induction fuel generalizing limit state with
  | zero => omega
  | succ fuel ih =>
    obtain ⟨limit, rfl⟩ : ∃ k, limit = k + 5 := ⟨limit - 5, by omega⟩
    rw [run_rewriteQuery, sequentialLoop, bind_assoc]
    refine bind_congr_of_ends (ends_retrievalRound c state) fun state' hstate' => ?_
    rcases afterGrade_cases state' with h | h | h
    · rw [h]
      exact run_generate c (limit + 1) state'
    · have hlt := iteration_lt_of_afterGrade h
      simp only [maxIterations] at hlt hrounds ih
      rw [h]
      exact @ih (limit + 2) state' (by omega) (by omega) (by omega)
    · rw [h]
      exact run_callTools c limit state'

/-- More fuel than for the rounds that are left changes nothing. -/
theorem sequentialLoop_succ {fuel : ℕ} {state : TurnState}
    (hrounds : maxIterations ≤ state.iteration + fuel) (hfuel : 1 ≤ fuel) :
    sequentialLoop c (fuel + 1) state = sequentialLoop c fuel state := by
  induction fuel generalizing state with
  | zero => omega
  | succ fuel ih =>
    rw [sequentialLoop, sequentialLoop]
    refine bind_congr_of_ends (ends_retrievalRound c state) fun state' hstate' => ?_
    dsimp only
    split
    · have hlt := iteration_lt_of_afterGrade ‹_›
      simp only [maxIterations] at hlt hrounds ih
      exact @ih state' (by omega) (by omega)
    · rfl

theorem sequentialLoop_eq {fuel : ℕ} (hfuel : 2 ≤ fuel) {state : TurnState} :
    sequentialLoop c fuel state = sequentialLoop c 2 state := by
  induction fuel, hfuel using Nat.le_induction with
  | base => rfl
  | succ fuel hfuel ih =>
    rw [sequentialLoop_succ c (by simp only [maxIterations]; omega) (by omega), ih]

/-- The labels of the branches. -/
theorem ends_branch (state : TurnState) :
    (branch c state).Ends fun label =>
      label = "rewrite_query" ∨ label = "call_tools" ∨ label = "generate" := by
  refine ends_marked (ends_ofExcept fun label h => ?_)
  unfold afterRoute at h
  split at h
  · exact .inr (.inr (Except.ok.inj h).symm)
  · cases hwanted : wantsMortgageCalculation c state with
    | error raised =>
      rw [hwanted] at h
      exact absurd h nofun
    | ok wanted =>
      rw [hwanted] at h
      obtain rfl := Except.ok.inj h
      cases wanted
      · exact .inl rfl
      · exact .inr (.inl rfl)
  all_goals exact .inr (.inl (Except.ok.inj h).symm)

/-- What the graph runs from the classification on. -/
theorem run_classify {fuel : ℕ} (hfuel : 2 ≤ fuel) (state : TurnState) :
    (graph c).run 23 .classify state =
      visit c .classify state >>= fun state => branch c state >>= fun label =>
        sequentialBranch c fuel label state >>= visit c .generate := by
  rw [run_graph_choose c rfl]
  refine bind_congr fun state' => bind_congr_of_ends (ends_branch c state') fun label hlabel => ?_
  rcases hlabel with rfl | rfl | rfl
  · show (graph c).run 22 .rewriteQuery state' = sequentialLoop c fuel state' >>= visit c .generate
    rw [sequentialLoop_eq c hfuel]
    exact run_rewriteQuery_eq c (by simp only [maxIterations]; omega) (by omega) (by omega)
  · exact run_callTools c 20 state'
  · exact run_generate c 21 state'

/-- **The compiled graph and the fallback are the same program**, whatever the checkpointer
holds of the thread. -/
theorem runGraph_eq {fuel : ℕ} (hfuel : 2 ≤ fuel) (stored : TurnState) (input : TurnInput) :
    runGraph c stored input = runSequential c fuel (initialState input) := by
  unfold runGraph Graph.invoke runSequential
  show (graph c).run 25 .loadMemory (stored.merge (initialState input).asPatch) = _
  rw [TurnState.merge_asPatch, run_graph_fixed c rfl]
  refine bind_congr fun state => ?_
  show (graph c).run 24 .guard state = _
  rw [run_graph_choose c rfl]
  refine bind_congr fun state' => ?_
  rw [pure_bind, afterGuard]
  split
  · rfl
  · exact run_classify c hfuel state'

/-! ### The streamed turn -/

/-- The events of a stream and what is persisted do not count. -/
structure IgnoresEvents (counts : Entry → Bool) : Prop where
  yielded : ∀ event, counts (.yielded event) = false
  stored : ∀ message, counts (.stored message) = false
  recorded : ∀ messageId results, counts (.recorded messageId results) = false

theorem ignoresEvents_isJourney : IgnoresEvents isJourney :=
  ⟨fun _ => rfl, fun _ => rfl, fun _ _ => rfl⟩

section Streamed

variable {counts : Entry → Bool} (h : IgnoresEvents counts)

include h in
/-- `_stream_tools` is a visit to `call_tools`, and events. -/
theorem agree_streamTools (state : TurnState) :
    Agree counts (streamTools c state) (visit c .callTools state) := by
  refine (agree_tell_bind (h.yielded _) _).trans ?_
  have hvisit : Agree counts (visit c .callTools state >>= fun state' =>
      tellAll ((state'.toolResults.drop state.toolResults.length).map fun result =>
        .yielded (toolEnd result)) >>= fun _ => pure state')
      (visit c .callTools state >>= pure) := by
    refine agree_bind (agree_refl _) fun state' => agree_tellAll_bind (fun entry hentry => ?_) _
    obtain ⟨result, -, rfl⟩ := List.mem_map.1 hentry
    exact h.yielded _
  rw [bind_pure] at hvisit
  exact hvisit

include h in
/-- **The loops do the same**, but for events. -/
theorem agree_streamLoop (fuel : ℕ) (state : TurnState) :
    Agree counts (streamLoop c fuel state) (sequentialLoop c fuel state) := by
  induction fuel generalizing state with
  | zero => exact agree_refl _
  | succ fuel ih =>
    refine agree_bind (agree_refl _) fun state' => ?_
    dsimp only
    split_ifs
    · exact ih state'
    · exact agree_streamTools c h state'
    · exact agree_refl _

include h in
theorem agree_streamBranch (fuel : ℕ) (label : String) (state : TurnState) :
    Agree counts (streamBranch c fuel label state) (sequentialBranch c fuel label state) := by
  unfold streamBranch sequentialBranch
  split_ifs
  · exact agree_streamLoop c h fuel state
  · exact agree_streamTools c h state
  · exact agree_refl _

include h in
theorem silent_persist (state : TurnState) : Silent counts (persist c state) := by
  have hmessage (message : StoredMessage) : Silent counts (addMessage c message) :=
    silent_bind (silent_tell (h.stored message)) fun _ => silent_perform _
  have hrecord (turn : AgentTurn) : Silent counts (recordToolCalls c turn) := by
    unfold recordToolCalls
    split
    · exact silent_pure _
    · exact silent_bind (silent_tell (h.recorded _ _)) fun _ => silent_perform _
  have hfinish (turn : AgentTurn) (threadId : String) :
      Silent counts (finishTurn c state turn threadId) := by
    refine silent_bind (hrecord turn) fun _ => silent_bind (silent_perform _) fun _ =>
      silent_bind (silent_perform _) fun _ => silent_bind (silent_perform _) fun _ =>
        silent_bind (silent_perform _) fun memory => ?_
    split
    · exact silent_perform _
    · exact silent_pure _
  refine silent_bind (silent_perform _) fun latency => ?_
  dsimp only
  split
  · exact silent_pure _
  · refine silent_bind (silent_attempt (silent_bind (hmessage _) fun _ =>
      silent_bind (hmessage _) fun _ => silent_pure _)) fun saved => ?_
    cases saved with
    | error raised => exact silent_pure _
    | ok ids => exact silent_bind (silent_attempt (hfinish _ _)) fun _ => silent_pure _

include h in
theorem silent_finishStream (state : TurnState) : Silent counts (finishStream c state) :=
  silent_bind (silent_persist c h state) fun _ => silent_tell (h.yielded _)

include h in
theorem silent_yieldSources (state : TurnState) :
    Silent counts (yieldSources state : TurnProgram ω Unit) := by
  unfold yieldSources
  split
  · exact silent_pure _
  · exact silent_tell (h.yielded _)

include h in
theorem silent_streamPieces (state : TurnState) : Silent counts (streamPieces c state) := by
  refine silent_bind (silent_perform _) fun ⟨pieces, ending⟩ => ?_
  refine silent_bind (silent_tellAll fun entry hentry => ?_) fun _ => ?_
  · obtain ⟨piece, -, rfl⟩ := List.mem_map.1 hentry
    exact h.yielded _
  · cases ending with
    | none => exact silent_finishStream c h _
    | some raised => exact silent_bind (silent_tell (h.yielded _)) fun _ => silent_finishStream c h _

end Streamed

/-- The answer to a turn that was not turned away is streamed from what is handed over. -/
theorem traces_streamAnswer (state : TurnState) :
    Traces isJourney (streamAnswer c state) [handOver c state] := by
  have hreturns : (yieldSources state : TurnProgram ω Unit).Returns fun _ => True := by
    unfold yieldSources
    split
    · exact returns_pure trivial
    · exact returns_tell _
  exact traces_bind_of_returns (silent_yieldSources ignoresEvents_isJourney state) hreturns fun _ =>
    traces_bind_silent (traces_tell rfl) fun _ =>
      silent_streamPieces c ignoresEvents_isJourney state

/-- `generate` is handed the same, in a turn that was not turned away. -/
theorem traces_visit_generate {state : TurnState} (h : state.guarded = false) :
    Traces isJourney (visit c .generate state) [handOver c state] := by
  have hgenerate : Traces isJourney (generate c state) [handOver c state] := by
    unfold generate
    rw [if_neg (by rw [h]; exact Bool.false_ne_true)]
    refine traces_bind_silent (traces_tell rfl) fun _ =>
      silent_bind (silent_attempt (silent_perform _)) fun result => ?_
    cases result <;> exact silent_pure _
  refine traces_bind_silent ?_ fun _ => silent_pure _
  refine traces_bind_of_returns (silent_tell rfl) (returns_tell _) fun _ =>
    traces_bind_silent (traces_attempt hgenerate) fun result => ?_
  cases result with
  | ok patch => exact silent_pure _
  | error raised => exact silent_bind (silent_tell rfl) fun _ => fun _ => rfl

/-! ### A turn that is not turned away -/

/-- What is run on a branch leaves the guard's verdict. -/
theorem ends_sequentialLoop (fuel : ℕ) (state : TurnState) :
    (sequentialLoop c fuel state).Ends fun state' => state'.guarded = state.guarded := by
  induction fuel generalizing state with
  | zero => exact ends_raise _
  | succ fuel ih =>
    refine ends_bind_of_ends (ends_retrievalRound c state) fun state' hstate' => ?_
    dsimp only
    split_ifs
    · exact (ih state').mono fun _ h => h.trans hstate'.2
    · exact (ends_visit c .callTools state').mono fun _ h => (h.guarded nofun).trans hstate'.2
    · exact ends_pure hstate'.2

theorem ends_sequentialBranch (fuel : ℕ) (label : String) (state : TurnState) :
    (sequentialBranch c fuel label state).Ends fun state' => state'.guarded = state.guarded := by
  unfold sequentialBranch
  split_ifs
  · exact ends_sequentialLoop c fuel state
  · exact (ends_visit c .callTools state).mono fun _ h => h.guarded nofun
  · exact ends_pure rfl

/-- **The streamed turn makes the journey of the fallback.** -/
theorem sameTrace_stream (fuel : ℕ) (input : TurnInput) :
    SameTrace isJourney (stream c fuel input) (runSequential c fuel (initialState input)) := by
  refine sameTrace_bind_of_ends (agree_refl _) (P := fun _ => True) (fun _ _ _ => trivial)
    fun state _ => ?_
  refine sameTrace_bind_of_ends (agree_refl _) (P := fun _ => True) (fun _ _ _ => trivial)
    fun state' _ => ?_
  split
  · refine Traces.sameTrace (show Traces isJourney _ [] from ?_) (silent_pure _)
    exact silent_bind (silent_tell rfl) fun _ => silent_finishStream c ignoresEvents_isJourney _
  next hguarded =>
    have hguarded : state'.guarded = false := Bool.eq_false_iff.2 hguarded
    refine sameTrace_bind_of_ends (agree_refl _) (ends_visit c .classify state') fun s hs => ?_
    refine sameTrace_bind_of_ends (agree_refl _) (P := fun _ => True) (fun _ _ _ => trivial)
      fun label _ => ?_
    have hs' : s.guarded = false := (hs.guarded nofun).trans hguarded
    have hbranch := agree_streamBranch c ignoresEvents_isJourney fuel label s
    refine sameTrace_bind_of_ends hbranch (hbranch.ends (ends_sequentialBranch c fuel label s))
      fun t ht => ?_
    exact (traces_streamAnswer c t).sameTrace (traces_visit_generate c (ht.trans hs'))

/-! ### The rounds of retrieval -/

theorem charges_visit_retrieval (n : Node) (state : TurnState) :
    Charges isRetrieval (if n = .retrieve then 1 else 0) (visit c n state) := by
  have hvisit : Charges isRetrieval _ (visit c n state) := charges_visit (fun _ => rfl)
    (charges_nodeFunction (c := c) (n := n) (fun _ _ => rfl) (fun _ _ _ _ => rfl) state)
  refine hvisit.mono (le_of_eq ?_)
  simp only [isRetrieval, decide_eq_true_eq, Nat.add_zero]

/-- The rounds that are left, in a state that goes into one. -/
def roundsLeft (state : TurnState) : ℕ := 1 + (maxIterations - 1 - state.iteration)

/-- **The loop retrieves once in a round.** -/
theorem charges_sequentialLoop (fuel : ℕ) (state : TurnState) :
    Charges isRetrieval (roundsLeft state) (sequentialLoop c fuel state) := by
  induction fuel generalizing state with
  | zero => exact (charges_raise _).mono (Nat.zero_le _)
  | succ fuel ih =>
    have hround : Charges isRetrieval 1 (retrievalRound c state) :=
      charges_bind_free (charges_visit_retrieval c .rewriteQuery state) fun s =>
        charges_bind_pure (charges_visit_retrieval c .retrieve s) fun t =>
          charges_visit_retrieval c .gradeContext t
    refine (charges_bind_of_ends (n := roundsLeft state - 1) hround
      (ends_retrievalRound c state) fun state' hstate' => ?_).mono ?_
    · dsimp only
      split_ifs with hrewrite hcall
      · refine (ih state').mono ?_
        have hlt := iteration_lt_of_afterGrade hrewrite
        simp only [roundsLeft, maxIterations] at hlt ⊢
        omega
      · exact (charges_visit_retrieval c .callTools state').mono (Nat.zero_le _)
      · exact (charges_pure _).mono (Nat.zero_le _)
    · simp only [roundsLeft]
      omega

/-- **A turn retrieves at most `MAX_ITERATIONS` times.** -/
theorem charges_runSequential (fuel : ℕ) (state : TurnState) :
    Charges isRetrieval maxIterations (runSequential c fuel state) := by
  refine charges_bind_free (charges_visit_retrieval c .loadMemory state) fun s => ?_
  refine charges_bind_free (charges_visit_retrieval c .guard s) fun t => ?_
  split
  · exact (charges_pure _).mono (Nat.zero_le _)
  · refine charges_bind_free (charges_visit_retrieval c .classify t) fun u => ?_
    refine charges_bind_free (charges_branch (fun _ => rfl) u) fun label => ?_
    refine charges_bind_pure ?_ fun v => charges_visit_retrieval c .generate v
    unfold sequentialBranch
    split_ifs
    · refine (charges_sequentialLoop c fuel u).mono ?_
      simp only [roundsLeft, maxIterations]
      omega
    · exact (charges_visit_retrieval c .callTools u).mono (Nat.zero_le _)
    · exact (charges_pure _).mono (Nat.zero_le _)

/-! ### How a turn ends -/

/-- A part of a turn runs these nodes, or some node raises. -/
def WalksAlong {α : Type} (nodes : List Node) (result : Except Raised α) (log : List Entry) : Prop :=
  match result with
  | .ok _ => journey log = nodes.map .node
  | .error _ => NodeRaised log

/-- A part of a turn runs some nodes, or some node raises. -/
def Walks {α : Type} (p : TurnProgram ω α) : Prop :=
  p.Meets fun result log => ∃ nodes, WalksAlong nodes result log

theorem journey_append (log more : List Entry) :
    journey (log ++ more) = journey log ++ journey more := List.filter_append ..

theorem NodeRaised.append {log : List Entry} (h : NodeRaised log) (more : List Entry) :
    NodeRaised (log ++ more) := by
  obtain ⟨n, hn⟩ := h
  exact ⟨n, journey_append log more ▸ List.mem_append_left _ hn⟩

theorem walks_pure {α : Type} (a : α) : Walks (pure a : TurnProgram ω α) := fun _ => ⟨[], rfl⟩

/-- Parts that walk, one after the other. -/
theorem walks_bind {α β : Type} {p : TurnProgram ω α} {f : α → TurnProgram ω β} {P : α → Prop}
    (hp : Walks p) (hends : p.Ends P) (hf : ∀ a, P a → Walks (f a)) : Walks (p >>= f) := by
  refine meets_bind (R := fun result log =>
    (∃ nodes, WalksAlong nodes result log) ∧ ∀ a, result = .ok a → P a)
    (fun w => ⟨hp w, hends w⟩) (fun raised log h => ?_) fun a log h w => ?_
  · obtain ⟨⟨nodes, hraised⟩, -⟩ := h
    exact ⟨nodes, hraised⟩
  · obtain ⟨⟨nodes, hnodes⟩, hP⟩ := h
    obtain ⟨more, hmore⟩ := hf a (hP a rfl) w
    refine ⟨nodes ++ more, ?_⟩
    cases hresult : ((f a).run w).result with
    | ok b =>
      rw [hresult] at hmore
      show journey (log ++ _) = (nodes ++ more).map .node
      rw [journey_append, List.map_append]
      exact congrArg₂ _ hnodes hmore
    | error raised =>
      rw [hresult] at hmore
      obtain ⟨n, hn⟩ : NodeRaised ((f a).run w).log := hmore
      exact ⟨n, journey_append log _ ▸ List.mem_append_right _ hn⟩

/-- A part that is marked makes no step of its own. -/
theorem walks_marked {α : Type} {n : Node} (hn : n ≠ .generate) {p : TurnProgram ω α}
    (hp : Silent isJourney p) : (marked n p).Meets (WalksAlong []) := by
  intro w
  have hattempt : (p.attempt.run w).result = .ok (p.run w).result := rfl
  unfold marked
  rw [run_bind_of_ok _ hattempt]
  cases (p.run w).result with
  | ok a =>
    show journey ((p.run w).log ++ []) = []
    rw [List.append_nil]
    exact hp w
  | error raised =>
    refine ⟨n, ?_⟩
    have hmark : Entry.raised n ∈ journey [.raised n] :=
      List.mem_filter.2 ⟨List.mem_singleton_self _, decide_eq_true hn⟩
    exact journey_append _ _ ▸ List.mem_append_right _ hmark

/-- **A visit is a step**, unless the node raises. -/
theorem walksAlong_visit {n : Node} (hn : n ≠ .generate) (state : TurnState) :
    (visit c n state).Meets (WalksAlong [n]) := by
  have hsilent : Silent isJourney (nodeFunction c n state) :=
    silent_of_charges (charges_nodeFunction (fun _ _ => rfl) (fun h => absurd h hn) state)
  have hstep : journey [.node n] = [.node n] := List.filter_cons_of_pos (decide_eq_true hn)
  refine meets_bind (R := WalksAlong [n]) ?_ (fun _ _ h => h) fun patch log h w => ?_
  · refine meets_bind (R := fun result log => (∃ a, result = .ok a) ∧ log = [.node n])
      (meets_tell ⟨⟨(), rfl⟩, rfl⟩) (fun raised log h => ?_) fun _ log h => ?_
    · obtain ⟨⟨a, ha⟩, -⟩ := h
      exact absurd ha nofun
    · obtain ⟨-, rfl⟩ := h
      refine (walks_marked hn hsilent).mono fun result more hmore => ?_
      cases result with
      | ok patch =>
        show journey ([.node n] ++ more) = [.node n]
        have hmore : journey more = [] := hmore
        rw [journey_append, hmore, hstep, List.append_nil]
      | error raised =>
        obtain ⟨m, hm⟩ : NodeRaised more := hmore
        exact ⟨m, journey_append _ _ ▸ List.mem_append_right _ hm⟩
  · show journey (log ++ []) = [.node n]
    rw [List.append_nil]
    exact h

theorem walks_visit {n : Node} (hn : n ≠ .generate) (state : TurnState) : Walks (visit c n state) :=
  (walksAlong_visit c hn state).mono fun _ _ h => ⟨[n], h⟩

theorem walks_retrievalRound (state : TurnState) : Walks (retrievalRound c state) :=
  walks_bind (walks_visit c (by decide) state) (ends_visit c _ _) fun s _ =>
    walks_bind (walks_visit c (by decide) s) (ends_visit c _ _) fun t _ => walks_visit c (by decide) t

/-- **The loop does not run out of fuel.** -/
theorem walks_sequentialLoop {fuel : ℕ} {state : TurnState}
    (hrounds : maxIterations ≤ state.iteration + fuel) (hfuel : 1 ≤ fuel) :
    Walks (sequentialLoop c fuel state) := by
  induction fuel generalizing state with
  | zero => omega
  | succ fuel ih =>
    refine walks_bind (walks_retrievalRound c state) (ends_retrievalRound c state)
      fun state' hstate' => ?_
    dsimp only
    split_ifs with hrewrite hcall
    · have hlt := iteration_lt_of_afterGrade hrewrite
      simp only [maxIterations] at hlt hrounds ih
      exact ih (by omega) (by omega)
    · exact walks_visit c (by decide) state'
    · exact walks_pure state'

theorem walks_sequentialBranch {fuel : ℕ} (hfuel : 2 ≤ fuel) (label : String)
    (state : TurnState) : Walks (sequentialBranch c fuel label state) := by
  unfold sequentialBranch
  split_ifs
  · exact walks_sequentialLoop c (by simp only [maxIterations]; omega) (by omega)
  · exact walks_visit c (by decide) state
  · exact walks_pure state

/-- What walks, and then hands over. -/
theorem handsOver_bind {α β : Type} {p : TurnProgram ω α} {f : α → TurnProgram ω β}
    {P : α → Prop} (hp : Walks p) (hends : p.Ends P)
    (hf : ∀ a, P a → (f a).Meets fun _ log => NodeRaised log ∨ HandsOver log) :
    (p >>= f).Meets fun _ log => NodeRaised log ∨ HandsOver log := by
  refine meets_bind (R := fun result log =>
    (∃ nodes, WalksAlong nodes result log) ∧ ∀ a, result = .ok a → P a)
    (fun w => ⟨hp w, hends w⟩) (fun raised log h => ?_) fun a log h w => ?_
  · obtain ⟨⟨nodes, hraised⟩, -⟩ := h
    exact .inl hraised
  · obtain ⟨⟨nodes, hnodes⟩, hP⟩ := h
    have hnodes : journey log = nodes.map .node := hnodes
    rcases hf a (hP a rfl) w with ⟨n, hn⟩ | ⟨more, messages, sources, question, hmore⟩
    · exact .inl ⟨n, journey_append log _ ▸ List.mem_append_right _ hn⟩
    · refine .inr ⟨nodes ++ more, messages, sources, question, ?_⟩
      rw [journey_append, hnodes, hmore, List.map_append, List.append_assoc]

/-- **A turn that is not turned away comes to generation**, where no node raises. -/
theorem handsOver_classify {fuel : ℕ} (hfuel : 2 ≤ fuel) {state : TurnState}
    (hguarded : state.guarded = false) :
    (visit c .classify state >>= fun state => branch c state >>= fun label =>
      sequentialBranch c fuel label state >>= visit c .generate).Meets
        fun _ log => NodeRaised log ∨ HandsOver log := by
  refine handsOver_bind (walks_visit c (by decide) state) (ends_visit c _ _) fun s hs => ?_
  have hs' : s.guarded = false := (hs.guarded nofun).trans hguarded
  have hbranch : Walks (branch c s) :=
    (walks_marked (by decide) fun _ => rfl).mono fun _ _ h => ⟨[], h⟩
  refine handsOver_bind hbranch (ends_branch c s) fun label _ => ?_
  refine handsOver_bind (walks_sequentialBranch c hfuel label s)
    (ends_sequentialBranch c fuel label s) fun t ht => ?_
  exact (traces_visit_generate c (ht.trans hs')).mono fun _ _ h => .inr ⟨[], _, _, _, h⟩

/-- **A turn comes to generation or is turned away**, where no node raises. -/
theorem concludes_runSequential {fuel : ℕ} (hfuel : 2 ≤ fuel) (state : TurnState) :
    (runSequential c fuel state).Meets fun _ log => NodeRaised log ∨ Concludes log := by
  refine meets_bind (walksAlong_visit c (n := .loadMemory) (by decide) state)
    (fun _ _ h => .inl h) fun s log hlog => ?_
  have hlog : journey log = [.node .loadMemory] := hlog
  refine meets_bind (walksAlong_visit c (n := .guard) (by decide) s)
    (fun raised more h => .inl ?_) fun t more hmore => ?_
  · obtain ⟨n, hn⟩ : NodeRaised more := h
    exact ⟨n, journey_append _ _ ▸ List.mem_append_right _ hn⟩
  · have hmore : journey more = [.node .guard] := hmore
    split
    · refine meets_pure (.inr (.inl ?_))
      rw [List.append_nil, journey_append, hlog, hmore]
      rfl
    next hguarded =>
      refine (handsOver_classify c hfuel (Bool.eq_false_iff.2 hguarded)).mono fun _ rest h => ?_
      rcases h with ⟨n, hn⟩ | ⟨nodes, messages, sources, question, hrest⟩
      · refine .inl ⟨n, ?_⟩
        rw [journey_append, journey_append]
        exact List.mem_append_right _ (List.mem_append_right _ hn)
      · refine .inr (.inr ⟨.loadMemory :: .guard :: nodes, messages, sources, question, ?_⟩)
        rw [journey_append, journey_append, hlog, hmore, hrest]
        rfl

/-! ### The agreement -/

/-- What is promised of the log of an executor: its journey is that of the fallback, it
retrieves at most `MAX_ITERATIONS` times, and where no node raises it comes to generation or
is turned away by the guard. -/
structure Agreement (sequential log : List Entry) : Prop where
  journey : journey log = journey sequential
  retrievals : log.countP isRetrieval ≤ maxIterations
  concludes : ¬ NodeRaised log → Concludes log

/-- A log with the journey of the fallback is as promised. -/
theorem agreement_of_journey {fuel : ℕ} (hfuel : 2 ≤ fuel) {state : TurnState} {w : ω}
    {log : List Entry}
    (h : Agent.journey log = Agent.journey ((runSequential c fuel state).run w).log) :
    Agreement ((runSequential c fuel state).run w).log log := by
  have hcount (entries : List Entry) :
      entries.countP isRetrieval = (Agent.journey entries).countP isRetrieval := by
    rw [Agent.journey, List.countP_filter]
    refine List.countP_congr fun entry _ => ?_
    cases entry with
    | node n =>
      simp only [isRetrieval, isJourney, Bool.and_eq_true, decide_eq_true_eq]
      exact ⟨fun hn => ⟨hn, hn ▸ nofun⟩, And.left⟩
    | _ => simp [isRetrieval]
  refine ⟨h, ?_, fun hquiet => ?_⟩
  · rw [hcount, h, ← hcount]
    exact charges_runSequential c fuel state w
  · rcases concludes_runSequential c hfuel state w with hraised | hconcludes
    · exact absurd (by unfold NodeRaised at hraised ⊢; rwa [h]) hquiet
    · unfold Concludes HandsOver at hconcludes ⊢
      rwa [h]

/-- **The three executors agree**: from every input, whatever the collaborators answer. -/
theorem executors_agree {fuel : ℕ} (hfuel : 2 ≤ fuel) (stored : TurnState) (input : TurnInput)
    (w : ω) :
    let sequential := ((runSequential c fuel (initialState input)).run w).log
    Agreement sequential sequential ∧
      Agreement sequential ((runGraph c stored input).run w).log ∧
      Agreement sequential ((stream c fuel input).run w).log := by
  refine ⟨agreement_of_journey c hfuel rfl, agreement_of_journey c hfuel ?_,
    agreement_of_journey c hfuel (sameTrace_stream c fuel input w)⟩
  rw [runGraph_eq c hfuel]

/-- The agreement, of a greeting. -/
theorem executors_agree_greeting :
    let sequential := ((runSequential idle 2 (initialState { question := "hello" })).run ()).log
    Agreement sequential sequential ∧
      Agreement sequential
        ((runGraph idle (initialState { question := "" }) { question := "hello" }).run ()).log ∧
      Agreement sequential ((stream idle 2 { question := "hello" }).run ()).log :=
  executors_agree idle (le_refl 2) (initialState { question := "" }) { question := "hello" } ()

end Executors

end Agent
end Rag
end TopChoice
