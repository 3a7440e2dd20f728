/-
# What a rebuild and the hooks owe

A write owes the index its listing until its hook is over, and the rebuild owes
what it is still to write: everything before it starts and, zero-downtime, until
the alias is swapped; in place every live listing it is still to read or to send,
and the removal of what its prune is going to find.

A hook writes what it read of Mongo some time ago, into the index it resolved
some time ago; the rebuild sends what it read some time ago.  A step is in order
(`InOrder`) when it leaves no listing out of date that nobody else owes.  Then
what is in the index is what Mongo holds or is owed (`RebuildInv`), and the steps
of the hooks keep it so.
-/

import TopChoice.Search.Rebuild

namespace TopChoice
namespace Search

variable {β φ : Type} {κ : Type}

/-! ### What is owed -/

/-- The index the service writes to: the one behind the alias, or the first
version while there is no alias. -/
def World.served (c : Setup β φ) (w : World β φ) : Index φ := w.es.docs (writeIndex c.cfg w.es)

/-- The listing a hook is still to bring into the index. -/
def HookPc.owes : HookPc β φ → Option String
  | write _ => none
  | fetch identifier => some identifier
  | ensure identifier _ => some identifier
  | writeIndex identifier _ => some identifier
  | transform identifier _ _ => some identifier
  | index identifier _ _ => some identifier
  | resolveDelete identifier => some identifier
  | delete identifier _ => some identifier
  | returned => none

/-- The index a hook has resolved. -/
def HookPc.holds : HookPc β φ → Option String
  | transform _ _ indexName => some indexName
  | index _ indexName _ => some indexName
  | delete _ indexName => some indexName
  | _ => none

/-- The hook of a write to the listing is on its way. -/
def HookOwes (hooks : κ → HookPc β φ) (id : String) : Prop := ∃ k, (hooks k).owes = some id

/-- A hook other than `k` is. -/
def OtherHookOwes (hooks : κ → HookPc β φ) (k : κ) (id : String) : Prop :=
  ∃ j, j ≠ k ∧ (hooks j).owes = some id

namespace Fill

/-- The bulk loop is still to send an action on the listing. -/
def Coming (id : String) (fill : Fill β φ) : Prop :=
  (∃ a ∈ fill.queue, a.id = id) ∨ match fill.cursor with
    | .mongo pending => id ∈ pending
    | .seed rest => ∃ doc ∈ rest, isIndexable doc = true ∧ resolveDocumentId doc = some id

/-- What the run read of the listing, the last time it did. -/
def lastRead (id : String) (fill : Fill β φ) : Option (SourceDoc β) :=
  fill.read.reverse.find? fun doc => resolveDocumentId doc = some id

end Fill

namespace RebuildPc

/-- Whatever the index holds, the rebuild will replace it. -/
def owesAll (c : Setup β φ) : RebuildPc β φ → Bool
  | start => true
  | resolveSource _ => c.zeroDowntime
  | ensure _ => c.zeroDowntime
  | writeIndex _ => false
  | resolveAlias _ => true
  | deleteStaleTarget _ _ => true
  | createTarget _ _ => true
  | populate _ _ => c.zeroDowntime
  | openCursor _ _ _ => c.zeroDowntime
  | bulk _ _ => c.zeroDowntime
  | prune _ _ => false
  | swap _ _ => true
  | dropOld _ => false
  | returned => false

/-- The listing, if it is live, is still to be read or sent. -/
def Coming (id : String) : RebuildPc β φ → Prop
  | resolveSource _ => True
  | ensure _ => True
  | writeIndex _ => True
  | populate _ _ => True
  | openCursor _ _ _ => True
  | bulk _ fill => fill.Coming id
  | _ => False

/-- The time before which the prune to come takes a stamp for stale. -/
def pruneFrom (c : Setup β φ) : RebuildPc β φ → Option ℕ
  | resolveSource startedAt => if c.prune then some startedAt else none
  | ensure run => if c.prune then some run.startedAt else none
  | writeIndex run => if c.prune then some run.startedAt else none
  | populate run _ => if c.prune then some run.startedAt else none
  | openCursor run _ _ => if c.prune then some run.startedAt else none
  | bulk run _ => if c.prune then some run.startedAt else none
  | prune startedAt _ => some startedAt
  | _ => none

/-- The alias has not been moved. -/
def unswapped : RebuildPc β φ → Bool
  | dropOld _ => false
  | returned => false
  | _ => true

end RebuildPc

/-- An entry of the index says what Mongo holds, or a rebuild in place will put
it right: send the listing, or prune what is left of it. -/
structure OnTrack (c : Setup β φ) (coll : Collection β) (pc : RebuildPc β φ) (id : String)
    (entry : Option (EsDoc φ)) : Prop where
  live : ∀ d, coll.current id = some d → pc.Coming id ∨ ∃ indexedAt now,
    entry = some (transformProperty c.flatten d.toSource (some indexedAt) now) ∧
      ∀ t, pc.pruneFrom c = some t → t ≤ indexedAt
  gone : coll.current id = none → ∀ e, entry = some e →
    ∃ t, pc.pruneFrom c = some t ∧ e.indexedAt < t

/-- No hook is needed for the entry to come out right. -/
def Settled (c : Setup β φ) (coll : Collection β) (pc : RebuildPc β φ) (id : String)
    (entry : Option (EsDoc φ)) : Prop :=
  pc.owesAll c = true ∨ OnTrack c coll pc id entry

/-! ### The condition on a step -/

variable (c : Setup β φ)

/-- A hook that ends leaves what it was for, and what it wrote, settled or owed
by another hook. -/
def HookInOrder (S : Rebuilding κ β φ) (k : κ) (answers : Bool) : HookPc β φ → Prop
  | .fetch identifier =>
      fetchSourceDocument c.cfg c.seed (lookup answers S.world.properties) identifier = none →
        Settled c S.world.properties S.rebuild identifier (S.world.served c identifier) ∨
          OtherHookOwes S.hooks k identifier
  | .index identifier indexName esDoc => ∀ id, id = identifier ∨ id = esDoc.id →
      Settled c S.world.properties S.rebuild id
        (if writeIndex c.cfg S.world.es = indexName ∧ id = esDoc.id then some esDoc
          else S.world.served c id) ∨
        OtherHookOwes S.hooks k id
  | .delete identifier indexName =>
      Settled c S.world.properties S.rebuild identifier
        (if writeIndex c.cfg S.world.es = indexName then none else S.world.served c identifier) ∨
        OtherHookOwes S.hooks k identifier
  | _ => True

/-- What the rebuild must find where it takes its start time, ensures the alias,
opens its cursor, leaves its bulk loop and swaps the alias. -/
def RebuildInOrder (S : Rebuilding κ β φ) : RebuildPc β φ → Prop
  | .start => c.zeroDowntime = false → ∀ id, S.world.properties.current id = none →
      ∀ e, S.world.served c id = some e →
        (c.prune = true ∧ e.indexedAt < S.world.now) ∨ HookOwes S.hooks id
  | .ensure _ => S.world.es.aliasTarget = none → S.world.es.indices c.cfg.ES_INDEX = none
  | .openCursor run indexName indexedAt => c.zeroDowntime = false → run.source = .seed →
      ∀ d ∈ S.world.properties.live,
        (∃ doc ∈ c.seed.getD [], isIndexable doc = true ∧
          resolveDocumentId doc = some d.propertyId) ∨
        OnTrack c S.world.properties (.bulk run ⟨indexName, indexedAt, .seed [], [], [], [], 0⟩)
          d.propertyId (S.world.served c d.propertyId) ∨
        HookOwes S.hooks d.propertyId
  | .bulk _ fill => c.zeroDowntime = false → c.prune = true → fill.indexed = 0 →
      ∀ id, S.world.properties.current id = none →
        S.world.served c id = none ∨ HookOwes S.hooks id
  | .swap _ fill =>
      (∀ id doc, fill.lastRead id = some doc →
        (S.world.properties.current id).map ApiDoc.toSource = some doc ∨ HookOwes S.hooks id) ∧
      ∀ d ∈ S.world.properties.live,
        d.propertyId ∈ fill.passed ∨ HookOwes S.hooks d.propertyId
  | _ => True

/-- In place, the action sent is on what Mongo holds, or on a listing whose hook,
or a later action, is still to come. -/
def FlushInOrder (S : Rebuilding κ β φ) : RebuildPc β φ → Prop
  | .bulk _ fill => c.zeroDowntime = false → ∀ a queue, fill.queue = a :: queue →
      (∃ d, S.world.properties.current a.id = some d ∧
        (Fill.Coming a.id { fill with queue } ∨ ∃ indexedAt now,
          a = transformProperty c.flatten d.toSource (some indexedAt) now)) ∨
        HookOwes S.hooks a.id
  | _ => True

/-- The condition on a step. -/
def RebuildLabel.InOrder (S : Rebuilding κ β φ) : RebuildLabel κ → Prop
  | hook k answers => HookInOrder c S k answers (S.hooks k)
  | rebuild _ => RebuildInOrder c S S.rebuild
  | flush => FlushInOrder c S S.rebuild
  | read _ => True
  | tick => True

/-! ### What holds along a run -/

/-- The index a run fills. -/
def World.goal (w : World β φ) : String :=
  if c.zeroDowntime then nextVersionName (writeIndex c.cfg w.es) else writeIndex c.cfg w.es

/-- The entry is the document, flattened at some time; without a document there
is none. -/
def Transforms (doc : Option (SourceDoc β)) (entry : Option (EsDoc φ)) : Prop :=
  (doc = none → entry = none) ∧ ∀ s, doc = some s → ∃ indexedAt now,
    entry = some (transformProperty c.flatten s (some indexedAt) now)

/-- What a bulk loop has read and sent.  Behind the alias the index it fills is
its own, and holds or is about to hold what the run last read of each listing. -/
structure Fill.Ok (w : World β φ) (run : RunStart) (fill : Fill β φ) : Prop where
  indexName : fill.indexName = w.goal c
  indexedAt : run.startedAt ≤ fill.indexedAt
  stamped : ∀ a ∈ fill.queue, run.startedAt ≤ a.indexedAt
  filled : c.zeroDowntime = true → ∀ id, Transforms c (fill.lastRead id)
    ((lastAction fill.queue id).or (w.es.docs fill.indexName id))
  skipped : ∀ id ∈ fill.passed, fill.lastRead id = none →
    (w.properties.find id).isSome = true ∧ w.properties.current id = none

/-- What holds of the rebuild and the index it fills, whatever the hooks do. -/
def RebuildPc.Ok (w : World β φ) : RebuildPc β φ → Prop
  | start => True
  | resolveSource startedAt => startedAt ≤ w.now
  | ensure run => run.startedAt ≤ w.now
  | writeIndex run => w.es.aliasTarget ≠ none ∧ run.startedAt ≤ w.now ∧ c.zeroDowntime = false
  | resolveAlias run => w.es.aliasTarget ≠ none ∧ run.startedAt ≤ w.now ∧ c.zeroDowntime = true
  | deleteStaleTarget run targetIndex => w.es.aliasTarget ≠ none ∧ run.startedAt ≤ w.now ∧
      c.zeroDowntime = true ∧ targetIndex = w.goal c
  | createTarget run targetIndex => w.es.aliasTarget ≠ none ∧ run.startedAt ≤ w.now ∧
      c.zeroDowntime = true ∧ targetIndex = w.goal c ∧ ∀ id, w.es.docs targetIndex id = none
  | populate run indexName => w.es.aliasTarget ≠ none ∧ run.startedAt ≤ w.now ∧
      indexName = w.goal c ∧ (c.zeroDowntime = true → ∀ id, w.es.docs indexName id = none)
  | openCursor run indexName indexedAt => w.es.aliasTarget ≠ none ∧ run.startedAt ≤ indexedAt ∧
      indexName = w.goal c ∧ (c.zeroDowntime = true → ∀ id, w.es.docs indexName id = none)
  | bulk run fill => w.es.aliasTarget ≠ none ∧ fill.Ok c w run
  | prune _ indexName => w.es.aliasTarget ≠ none ∧ c.zeroDowntime = false ∧ indexName = w.goal c
  | swap run fill => w.es.aliasTarget ≠ none ∧ c.zeroDowntime = true ∧ fill.Ok c w run ∧
      fill.queue = []
  | dropOld detached => w.es.aliasTarget ≠ none ∧
      ∀ old ∈ detached, w.es.aliasTarget ≠ some old
  | returned => w.es.aliasTarget ≠ none

/-- **What holds along a run in order.** -/
structure RebuildInv (S : Rebuilding κ β φ) : Prop where
  entries : ∀ id, Settled c S.world.properties S.rebuild id (S.world.served c id) ∨
    HookOwes S.hooks id
  holds : S.rebuild.unswapped = true → ∀ k name, (S.hooks k).holds = some name →
    name = writeIndex c.cfg S.world.es
  ok : S.rebuild.Ok c S.world

/-! ### Steps of a hook -/

section Hooks

variable {c : Setup β φ} {w w' : World β φ} {pc pc' : RebuildPc β φ}

/-- A name the rebuild fills behind the alias is not the one behind it. -/
theorem World.goal_ne (h : c.zeroDowntime = true) : w.goal c ≠ writeIndex c.cfg w.es := by
  rw [World.goal, if_pos h]
  exact nextVersionName_ne _

theorem World.goal_eq (h : c.zeroDowntime = false) : w.goal c = writeIndex c.cfg w.es := by
  rw [World.goal, h]
  rfl

theorem World.goal_congr (h : writeIndex c.cfg w'.es = writeIndex c.cfg w.es) :
    w'.goal c = w.goal c := by
  rw [World.goal, h, World.goal]

theorem Fill.Ok.mono {run : RunStart} {fill : Fill β φ} (h : fill.Ok c w run)
    (hindex : writeIndex c.cfg w'.es = writeIndex c.cfg w.es)
    (hdocs : ∀ n, n ≠ writeIndex c.cfg w.es → w'.es.docs n = w.es.docs n)
    (hdeleted : ∀ id, (w.properties.find id).isSome = true → w.properties.current id = none →
      (w'.properties.find id).isSome = true ∧ w'.properties.current id = none) :
    fill.Ok c w' run where
  indexName := h.indexName.trans (World.goal_congr hindex).symm
  indexedAt := h.indexedAt
  stamped := h.stamped
  filled hz id := by
    rw [hdocs _ (h.indexName ▸ World.goal_ne hz)]
    exact h.filled hz id
  skipped id hid hread := by
    obtain ⟨hfind, hcur⟩ := h.skipped id hid hread
    exact hdeleted id hfind hcur

/-- What holds of the rebuild stays when others leave its index alone. -/
theorem RebuildPc.Ok.mono (h : pc.Ok c w) (hnow : w.now ≤ w'.now)
    (hindex : Search.writeIndex c.cfg w'.es = Search.writeIndex c.cfg w.es)
    (halias : w.es.aliasTarget ≠ none → w'.es.aliasTarget = w.es.aliasTarget)
    (hdocs : pc.unswapped = true → ∀ n, n ≠ Search.writeIndex c.cfg w.es →
      w'.es.docs n = w.es.docs n)
    (hdeleted : ∀ id, (w.properties.find id).isSome = true → w.properties.current id = none →
      (w'.properties.find id).isSome = true ∧ w'.properties.current id = none) : pc.Ok c w' := by
  have hgoal : w'.goal c = w.goal c := World.goal_congr hindex
  have hal : w.es.aliasTarget ≠ none → w'.es.aliasTarget ≠ none := fun h => by rwa [halias h]
  have hempty : ∀ {n}, pc.unswapped = true → n = w.goal c → c.zeroDowntime = true →
      (∀ id, w.es.docs n id = none) → ∀ id, w'.es.docs n id = none := fun hu hn hz he id => by
    rw [hdocs hu _ (hn ▸ World.goal_ne hz)]
    exact he id
  cases pc with
  | start => trivial
  | resolveSource startedAt => exact le_trans h hnow
  | ensure run => exact le_trans h hnow
  | writeIndex run => exact ⟨hal h.1, le_trans h.2.1 hnow, h.2.2⟩
  | resolveAlias run => exact ⟨hal h.1, le_trans h.2.1 hnow, h.2.2⟩
  | deleteStaleTarget run targetIndex =>
      obtain ⟨ha, hle, hz, ht⟩ := h
      exact ⟨hal ha, le_trans hle hnow, hz, ht.trans hgoal.symm⟩
  | createTarget run targetIndex =>
      obtain ⟨ha, hle, hz, ht, he⟩ := h
      exact ⟨hal ha, le_trans hle hnow, hz, ht.trans hgoal.symm, hempty rfl ht hz he⟩
  | populate run indexName =>
      obtain ⟨ha, hle, ht, he⟩ := h
      exact ⟨hal ha, le_trans hle hnow, ht.trans hgoal.symm, fun hz => hempty rfl ht hz (he hz)⟩
  | openCursor run indexName indexedAt =>
      obtain ⟨ha, hle, ht, he⟩ := h
      exact ⟨hal ha, hle, ht.trans hgoal.symm, fun hz => hempty rfl ht hz (he hz)⟩
  | bulk run fill => exact ⟨hal h.1, h.2.mono hindex (hdocs rfl) hdeleted⟩
  | prune startedAt indexName => exact ⟨hal h.1, h.2.1, h.2.2.trans hgoal.symm⟩
  | swap run fill =>
      obtain ⟨ha, hz, hf, hq⟩ := h
      exact ⟨hal ha, hz, hf.mono hindex (hdocs rfl) hdeleted, hq⟩
  | dropOld detached =>
      obtain ⟨ha, hold⟩ := h
      exact ⟨hal ha, fun old ho => by rw [halias ha]; exact hold old ho⟩
  | returned => exact hal h

variable [DecidableEq κ] {S : Rebuilding κ β φ} {k : κ} {p : HookPc β φ}

/-- What another hook owes is still owed when hook `k` moves. -/
theorem OtherHookOwes.move {id : String} (h : OtherHookOwes S.hooks k id) :
    HookOwes (Function.update S.hooks k p) id := by
  obtain ⟨j, hjk, hj⟩ := h
  exact ⟨j, by rwa [Function.update_of_ne hjk]⟩

/-- A step of hook `k`: every listing is as it was and still owed if it was, or
owed by the hook now, or settled, or owed by another hook. -/
theorem RebuildInv.hook_move (h : RebuildInv c S) (hok : S.rebuild.Ok c w')
    (hindex : writeIndex c.cfg w'.es = writeIndex c.cfg S.world.es)
    (hholds : S.rebuild.unswapped = true → ∀ name, p.holds = some name →
      name = writeIndex c.cfg S.world.es)
    (hentries : ∀ id,
      (w'.properties.current id = S.world.properties.current id ∧
        w'.served c id = S.world.served c id ∧ ((S.hooks k).owes = some id → p.owes = some id)) ∨
      p.owes = some id ∨
      (Settled c w'.properties S.rebuild id (w'.served c id) ∨ OtherHookOwes S.hooks k id)) :
    RebuildInv c { S with world := w', hooks := Function.update S.hooks k p } where
  entries id := by
    rcases hentries id with ⟨hcur, hserved, howes⟩ | howes | hsettled | hother
    · rcases h.entries id with hall | ⟨j, hj⟩
      · refine Or.inl (hall.imp_right fun ht => ?_)
        exact ⟨fun d hd => by rw [hserved]; exact ht.live d (hcur.symm.trans hd),
          fun hd e he => ht.gone (hcur.symm.trans hd) e (hserved.symm.trans he)⟩
      · refine Or.inr ⟨j, ?_⟩
        by_cases hjk : j = k
        · subst hjk
          simpa using howes hj
        · simpa [Function.update_of_ne hjk] using hj
    · exact Or.inr ⟨k, by simpa using howes⟩
    · exact Or.inl hsettled
    · exact Or.inr hother.move
  holds hu j name hj := by
    rw [hindex]
    by_cases hjk : j = k
    · subst hjk
      exact hholds hu name (by simpa using hj)
    · exact h.holds hu j name (by simpa [Function.update_of_ne hjk] using hj)
  ok := hok

/-- A hook that only reads goes on owing its listing. -/
theorem RebuildInv.hook_quiet (h : RebuildInv c S) (howes : (S.hooks k).owes = p.owes)
    (hholds : ∀ name, p.holds = some name → name = writeIndex c.cfg S.world.es ∨
      (S.hooks k).holds = some name) :
    RebuildInv c { S with hooks := Function.update S.hooks k p } :=
  h.hook_move h.ok rfl
    (fun hu name hname => (hholds name hname).elim (fun he => he) (h.holds hu k name))
    fun _ => Or.inl ⟨rfl, rfl, fun hi => howes ▸ hi⟩

/-- What is served after a hook wrote `id` in the index it resolved. -/
theorem World.served_write {indexName id : String} {entry : Option (EsDoc φ)} {es : Cluster φ}
    (halias : es.aliasTarget = w.es.aliasTarget)
    (hdocs : ∀ n i, es.docs n i = if n = indexName ∧ i = id then entry else w.es.docs n i)
    (i : String) : World.served c { w with es } i =
      if writeIndex c.cfg w.es = indexName ∧ i = id then entry else w.served c i := by
  rw [World.served, writeIndex_congr halias, hdocs, World.served]

/-- A hook that writes `id` in the index it resolved, and is over. -/
theorem RebuildInv.hook_over (h : RebuildInv c S) {indexName id : String}
    {entry : Option (EsDoc φ)} {es : Cluster φ} (hholds : (S.hooks k).holds = some indexName)
    (halias : es.aliasTarget = S.world.es.aliasTarget)
    (hdocs : ∀ n i, es.docs n i = if n = indexName ∧ i = id then entry else S.world.es.docs n i)
    (hC : ∀ i, (S.hooks k).owes = some i ∨ i = id →
      Settled c S.world.properties S.rebuild i
        (if writeIndex c.cfg S.world.es = indexName ∧ i = id then entry
          else S.world.served c i) ∨ OtherHookOwes S.hooks k i) :
    RebuildInv c { S with
      world := { S.world with es }, hooks := Function.update S.hooks k .returned } := by
  have hindex : writeIndex c.cfg es = writeIndex c.cfg S.world.es := writeIndex_congr halias
  have hserved := World.served_write (c := c) halias hdocs
  refine h.hook_move (h.ok.mono le_rfl hindex (fun _ => halias) (fun hu n hn => ?_)
    fun _ hs hc => ⟨hs, hc⟩) hindex (fun _ name hname => by cases hname) fun i => ?_
  · funext i
    have : n ≠ indexName := h.holds hu k indexName hholds ▸ hn
    rw [hdocs, if_neg fun hc => this hc.1]
  · by_cases hi : (S.hooks k).owes = some i ∨ i = id
    · rw [hserved]
      exact Or.inr (Or.inr (hC i hi))
    · rw [not_or] at hi
      refine Or.inl ⟨rfl, ?_, fun ho => absurd ho hi.1⟩
      rw [hserved, if_neg fun hc => hi.2 hc.2]

/-- **One step of a hook.** -/
theorem RebuildInv.hook (h : RebuildInv c S) {answers : Bool}
    (hC : HookInOrder c S k answers (S.hooks k))
    (hnext : (S.hooks k).next c S.world answers = some (w', p)) :
    RebuildInv c { S with world := w', hooks := Function.update S.hooks k p } := by
  cases hk : S.hooks k with
  | write m =>
      rw [hk] at hnext
      simp only [HookPc.next] at hnext
      split at hnext
      · obtain ⟨rfl, rfl⟩ := Prod.mk.inj (Option.some.inj hnext)
        exact h.hook_quiet (by rw [hk]; rfl) fun name hname => by cases hname
      next coll hcoll =>
      obtain ⟨rfl, rfl⟩ := Prod.mk.inj (Option.some.inj hnext)
      obtain ⟨hother, hdeleted⟩ := MongoWrite.exec_spec hcoll
      refine h.hook_move (h.ok.mono le_rfl rfl (fun _ => rfl) (fun _ _ _ => rfl) hdeleted) rfl
        (fun _ name hname => by cases m <;> cases hname) fun id => ?_
      by_cases hid : id = m.propertyId
      · subst hid
        exact Or.inr (Or.inl (by cases m <;> rfl))
      · refine Or.inl ⟨?_, rfl, fun ho => by simp [hk, HookPc.owes] at ho⟩
        rw [Collection.current, hother id hid, Collection.current]
  | fetch identifier =>
      rw [hk] at hnext hC
      simp only [HookPc.next] at hnext
      split at hnext
      · next hnone =>
          obtain ⟨rfl, rfl⟩ := Prod.mk.inj (Option.some.inj hnext)
          refine h.hook_move h.ok rfl (fun _ name hname => by cases hname) fun id => ?_
          by_cases hid : id = identifier
          · subst hid
            exact Or.inr (Or.inr (hC hnone))
          · refine Or.inl ⟨rfl, rfl, fun ho => absurd ?_ hid⟩
            rw [hk] at ho
            exact (Option.some.inj ho).symm
      · next document _ =>
          obtain ⟨rfl, rfl⟩ := Prod.mk.inj (Option.some.inj hnext)
          refine h.hook_quiet ?_ fun name hname => ?_
          · rw [hk]
            split_ifs <;> rfl
          · split_ifs at hname <;> cases hname
  | ensure identifier document =>
      rw [hk] at hnext
      obtain ⟨es, hes, he⟩ := Option.map_eq_some_iff.1 hnext
      obtain ⟨rfl, rfl⟩ := Prod.mk.inj he
      obtain ⟨hindex, -⟩ := writeIndex_ensureIndex hes
      have hdocs := docs_ensureIndex hes
      refine h.hook_move (h.ok.mono le_rfl hindex (fun ha => ?_) (fun _ n _ => hdocs n)
        fun _ hs hc => ⟨hs, hc⟩) hindex (fun _ name hname => by cases hname) fun id => Or.inl
          ⟨rfl, ?_, fun ho => by rw [hk] at ho; exact ho⟩
      · obtain ⟨name, hname⟩ := Option.ne_none_iff_exists'.1 ha
        rw [ensureIndex_of_alias hname] at hes
        rw [Option.some.inj hes]
      · rw [World.served, hindex, hdocs, World.served]
  | writeIndex identifier document =>
      rw [hk] at hnext
      obtain ⟨rfl, rfl⟩ := Prod.mk.inj (Option.some.inj hnext)
      exact h.hook_quiet (by rw [hk]; rfl) fun name hname => Or.inl (Option.some.inj hname).symm
  | transform identifier document indexName =>
      rw [hk] at hnext
      obtain ⟨rfl, rfl⟩ := Prod.mk.inj (Option.some.inj hnext)
      exact h.hook_quiet (by rw [hk]; rfl) fun name hname => Or.inr (by rw [hk]; exact hname)
  | index identifier indexName esDoc =>
      rw [hk] at hnext hC
      obtain ⟨rfl, rfl⟩ := Prod.mk.inj (Option.some.inj hnext)
      refine h.hook_over (by rw [hk]; rfl) rfl (fun n i => Cluster.docs_index ..) fun i hi => ?_
      refine hC i (hi.imp_left fun ho => ?_)
      rw [hk] at ho
      exact (Option.some.inj ho).symm
  | resolveDelete identifier =>
      rw [hk] at hnext
      obtain ⟨rfl, rfl⟩ := Prod.mk.inj (Option.some.inj hnext)
      exact h.hook_quiet (by rw [hk]; rfl) fun name hname => Or.inl (Option.some.inj hname).symm
  | delete identifier indexName =>
      rw [hk] at hnext hC
      obtain ⟨rfl, rfl⟩ := Prod.mk.inj (Option.some.inj hnext)
      refine h.hook_over (by rw [hk]; rfl) (Cluster.aliasTarget_delete ..)
        (fun n i => Cluster.docs_delete ..) fun i hi => ?_
      have : i = identifier := hi.elim (fun ho => by
        rw [hk] at ho
        exact (Option.some.inj ho).symm) fun he => he
      subst this
      simpa [HookInOrder] using hC
  | returned =>
      rw [hk] at hnext
      cases hnext

/-- What is owed when hook `k` is over is owed by another. -/
theorem HookOwes.other {id : String} (h : HookOwes (Function.update S.hooks k .returned) id) :
    OtherHookOwes S.hooks k id := by
  obtain ⟨j, hj⟩ := h
  by_cases hjk : j = k
  · subst hjk
    rw [Function.update_self] at hj
    cases hj
  · exact ⟨j, hjk, by rwa [Function.update_of_ne hjk] at hj⟩

/-- **A hook out of order loses an update.**  A step of a hook outside the
condition leaves a listing that is neither settled nor owed. -/
theorem not_settled_of_not_inOrder {answers : Bool}
    (hC : ¬ HookInOrder c S k answers (S.hooks k))
    (hnext : (S.hooks k).next c S.world answers = some (w', p)) :
    ∃ id, ¬ Settled c w'.properties S.rebuild id (w'.served c id) ∧
      ¬ HookOwes (Function.update S.hooks k p) id := by
  cases hk : S.hooks k with
  | fetch identifier =>
      rw [hk] at hC hnext
      obtain ⟨hnone, hno⟩ := Classical.not_imp.1 hC
      simp only [HookPc.next, hnone] at hnext
      obtain ⟨rfl, rfl⟩ := Prod.mk.inj (Option.some.inj hnext)
      exact ⟨identifier, fun hs => hno (Or.inl hs), fun ho => hno (Or.inr ho.other)⟩
  | index identifier indexName esDoc =>
      rw [hk] at hC hnext
      obtain ⟨rfl, rfl⟩ := Prod.mk.inj (Option.some.inj hnext)
      simp only [HookInOrder, not_forall] at hC
      obtain ⟨id, -, hno⟩ := hC
      refine ⟨id, fun hs => hno (Or.inl ?_), fun ho => hno (Or.inr ho.other)⟩
      rwa [World.served_write (w := S.world) (Cluster.aliasTarget_index indexName esDoc.id esDoc _)
        (Cluster.docs_index indexName esDoc.id esDoc _)] at hs
  | delete identifier indexName =>
      rw [hk] at hC hnext
      obtain ⟨rfl, rfl⟩ := Prod.mk.inj (Option.some.inj hnext)
      refine ⟨identifier, fun hs => hC (Or.inl ?_), fun ho => hC (Or.inr ho.other)⟩
      rw [World.served_write (w := S.world) (Cluster.aliasTarget_delete indexName identifier _)
        (Cluster.docs_delete indexName identifier _)] at hs
      simpa using hs
  | _ =>
      rw [hk] at hC
      exact absurd trivial hC

end Hooks

end Search
end TopChoice
