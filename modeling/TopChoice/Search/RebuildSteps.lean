/-
# The steps of a rebuild in order

Every step of the rebuild keeps what holds along a run (`RebuildInv.rebuild`,
`RebuildInv.read`, `RebuildInv.flush`).  In place the entry of a listing changes
when its action is sent or its remains are pruned; zero-downtime all of them
change at once when the alias is swapped.
-/

import TopChoice.Search.RebuildOrder

namespace TopChoice
namespace Search

variable {β φ : Type} {κ : Type}

/-! ### Steps of the rebuild -/

section Rebuild

variable {c : Setup β φ} {w : World β φ} {pc pc' : RebuildPc β φ} {S : Rebuilding κ β φ}
  {coll : Collection β} {id : String} {entry : Option (EsDoc φ)}

/-- A step of the rebuild that owes no less. -/
theorem Settled.mono (h : Settled c coll pc id entry)
    (hall : pc.owesAll c = true → pc'.owesAll c = true)
    (hcoming : ∀ d, coll.current id = some d → pc.Coming id → pc'.Coming id)
    (hprune : pc'.pruneFrom c = pc.pruneFrom c) : Settled c coll pc' id entry := by
  refine h.imp hall fun ht => ⟨fun d hd => ?_, fun hd => by rw [hprune]; exact ht.gone hd⟩
  rw [hprune]
  exact (ht.live d hd).imp_left (hcoming d hd)

/-- A step of the rebuild before the swap. -/
theorem RebuildInv.rebuild_move (h : RebuildInv c S) (hok : pc'.Ok c w)
    (hunswapped : S.rebuild.unswapped = true)
    (hindex : writeIndex c.cfg w.es = writeIndex c.cfg S.world.es)
    (hentries : ∀ id, Settled c w.properties pc' id (w.served c id) ∨ HookOwes S.hooks id) :
    RebuildInv c { S with world := w, rebuild := pc' } :=
  ⟨hentries, fun _ k name hk => (h.holds hunswapped k name hk).trans hindex.symm, hok⟩

/-- A step of the rebuild after which it owes everything. -/
theorem RebuildInv.rebuild_owing (h : RebuildInv c S) (hok : pc'.Ok c w)
    (hunswapped : S.rebuild.unswapped = true)
    (hindex : writeIndex c.cfg w.es = writeIndex c.cfg S.world.es)
    (hall : pc'.owesAll c = true) :
    RebuildInv c { S with world := w, rebuild := pc' } :=
  h.rebuild_move hok hunswapped hindex fun _ => Or.inl (Or.inl hall)

/-- A step of the rebuild that leaves what is served and goes on owing the same. -/
theorem RebuildInv.rebuild_quiet (h : RebuildInv c S) {es : Cluster φ}
    (hok : pc'.Ok c { S.world with es }) (hunswapped : S.rebuild.unswapped = true)
    (hindex : writeIndex c.cfg es = writeIndex c.cfg S.world.es)
    (hdocs : es.docs (writeIndex c.cfg S.world.es) =
      S.world.es.docs (writeIndex c.cfg S.world.es))
    (hall : S.rebuild.owesAll c = true → pc'.owesAll c = true)
    (hcoming : ∀ id, S.rebuild.Coming id → pc'.Coming id)
    (hprune : pc'.pruneFrom c = S.rebuild.pruneFrom c) :
    RebuildInv c { S with world := { S.world with es }, rebuild := pc' } := by
  refine h.rebuild_move hok hunswapped hindex fun id => ?_
  have : World.served c { S.world with es } id = S.world.served c id := by
    rw [World.served, hindex, hdocs, World.served]
  rw [this]
  exact (h.entries id).imp_left fun hs => hs.mono hall (fun _ _ => hcoming id) hprune

/-- The rebuild takes its start time. -/
theorem RebuildInv.started (h : RebuildInv c S) (hpc : S.rebuild = .start)
    (hC : RebuildInOrder c S .start) :
    RebuildInv c { S with rebuild := .resolveSource S.world.now } := by
  refine h.rebuild_move (w := S.world) le_rfl (by rw [hpc]; rfl) rfl fun id => ?_
  cases hz : c.zeroDowntime with
  | true => exact Or.inl (Or.inl hz)
  | false =>
      by_cases hgone : S.world.properties.current id = none ∧ ∃ e, S.world.served c id = some e
      · obtain ⟨hcur, e, he⟩ := hgone
        refine (hC hz id hcur e he).imp_left fun ⟨hprune, hlt⟩ => Or.inr ⟨fun d hd => ?_, ?_⟩
        · cases hcur.symm.trans hd
        · intro _ e' he'
          obtain rfl := Option.some.inj (he.symm.trans he')
          exact ⟨_, if_pos hprune, hlt⟩
      · exact Or.inl (Or.inr ⟨fun d _ => Or.inl trivial,
          fun hcur e he => absurd ⟨hcur, e, he⟩ hgone⟩)

/-- The rebuild opens its cursor. -/
theorem RebuildInv.opened (h : RebuildInv c S) {run : RunStart} {indexName : String}
    {indexedAt : ℕ} (hpc : S.rebuild = .openCursor run indexName indexedAt)
    (hC : RebuildInOrder c S (.openCursor run indexName indexedAt)) :
    RebuildInv c { S with rebuild := .bulk run ⟨indexName, indexedAt,
      openCursor c S.world.properties run.source, [], [], [], 0⟩ } := by
  obtain ⟨halias, hle, hname, hempty⟩ : (RebuildPc.openCursor run indexName indexedAt).Ok c
    S.world := hpc ▸ h.ok
  have hfill : Fill.Ok c S.world run ⟨indexName, indexedAt,
      openCursor c S.world.properties run.source, [], [], [], 0⟩ :=
    { indexName := hname
      indexedAt := hle
      stamped := nofun
      filled := fun hz id => ⟨fun _ => hempty hz id, nofun⟩
      skipped := nofun }
  refine h.rebuild_move (w := S.world) ⟨halias, hfill⟩ (by rw [hpc]; rfl) rfl fun id => ?_
  cases hz : c.zeroDowntime with
  | true => exact Or.inl (Or.inl hz)
  | false =>
      refine or_iff_not_imp_right.2 fun hno => Or.inr ?_
      have ht : OnTrack c S.world.properties (.openCursor run indexName indexedAt) id
          (S.world.served c id) := by
        have := (h.entries id).resolve_right hno
        rw [hpc] at this
        exact this.resolve_left (by simp [RebuildPc.owesAll, hz])
      refine ⟨fun d hd => ?_, fun hcur => ht.gone hcur⟩
      have hid := Collection.current_some_propertyId hd
      have hlive : d ∈ S.world.properties.live := Collection.mem_live.2 (hid.symm ▸ hd)
      cases hs : run.source with
      | seed =>
          rcases hC hz hs d hlive with hseed | hentry | howes
          · exact Or.inl (Or.inr (hid ▸ hseed))
          · rw [hid] at hentry
            refine (hentry.live d hd).imp_left fun hcoming => ?_
            rcases hcoming with ⟨a, ha, -⟩ | ⟨doc, hdoc, -⟩
            · cases ha
            · cases hdoc
          · exact absurd (hid ▸ howes) hno
      | auto | mongo =>
          refine Or.inl (Or.inr ?_)
          exact List.mem_map.2 ⟨d, (Collection.find_some (Collection.current_eq_some.1 hd).1).1, hid⟩

/-- A bulk loop that is done has nothing to send. -/
theorem Fill.not_coming {fill : Fill β φ} (h : fill.isDone = true) : ¬ fill.Coming id := by
  rw [isDone, Bool.and_eq_true, List.isEmpty_iff] at h
  obtain ⟨hqueue, hcursor⟩ := h
  rw [Coming, hqueue]
  rintro (⟨a, ha, -⟩ | hc)
  · cases ha
  · cases hcur : fill.cursor with
    | mongo pending =>
        rw [hcur] at hcursor hc
        rw [List.isEmpty_iff.1 hcursor] at hc
        cases hc
    | seed rest =>
        rw [hcur] at hcursor hc
        obtain ⟨doc, hdoc, -⟩ := hc
        rw [List.isEmpty_iff.1 hcursor] at hdoc
        cases hdoc

/-- The bulk loop is over. -/
theorem RebuildInv.filled (h : RebuildInv c S) {run : RunStart} {fill : Fill β φ}
    (hpc : S.rebuild = .bulk run fill) (hdone : fill.isDone = true)
    (hC : RebuildInOrder c S (.bulk run fill)) :
    RebuildInv c { S with rebuild := .afterFill c run fill } := by
  obtain ⟨halias, hfill⟩ : (RebuildPc.bulk run fill).Ok c S.world := hpc ▸ h.ok
  have hu : S.rebuild.unswapped = true := by rw [hpc]; rfl
  unfold RebuildPc.afterFill
  cases hz : c.zeroDowntime with
  | true =>
      rw [if_pos rfl]
      have hqueue : fill.queue = [] := by
        rw [Fill.isDone, Bool.and_eq_true, List.isEmpty_iff] at hdone
        exact hdone.1
      exact h.rebuild_move (w := S.world) ⟨halias, hz, hfill, hqueue⟩ hu rfl fun _ =>
        Or.inl (Or.inl rfl)
  | false =>
      rw [if_neg (by decide)]
      have ht : ∀ id, OnTrack c S.world.properties (.bulk run fill) id (S.world.served c id) ∨
          HookOwes S.hooks id := fun id => by
        refine (h.entries id).imp_left fun hs => ?_
        rw [hpc] at hs
        exact hs.resolve_left (by simp [RebuildPc.owesAll, hz])
      split
      · next hprune =>
          rw [Bool.and_eq_true] at hprune
          refine h.rebuild_move (w := S.world) ⟨halias, hz, hfill.indexName⟩ hu rfl fun id => ?_
          refine (ht id).imp_left fun ht => Or.inr ⟨fun d hd => Or.inr ?_, fun hcur => ?_⟩
          · have := (ht.live d hd).resolve_left (Fill.not_coming hdone)
            simpa [RebuildPc.pruneFrom, hprune.1] using this
          · have := ht.gone hcur
            simpa [RebuildPc.pruneFrom, hprune.1] using this
      · next hprune =>
          refine h.rebuild_move (w := S.world) halias hu rfl fun id => ?_
          refine or_iff_not_imp_right.2 fun hno => Or.inr ⟨fun d hd => Or.inr ?_, fun hcur => ?_⟩
          · obtain ⟨i, n, he, -⟩ := (((ht id).resolve_right hno).live d hd).resolve_left
              (Fill.not_coming hdone)
            exact ⟨i, n, he, fun t ht => by cases ht⟩
          · intro e he
            obtain ⟨t, hp, -⟩ := ((ht id).resolve_right hno).gone hcur e he
            -- there was a prune to come, so nothing was indexed
            have hprune' : c.prune = true := by
              by_contra hp'
              simp [RebuildPc.pruneFrom, hp'] at hp
            have hzero : fill.indexed = 0 := by
              simpa [hprune'] using hprune
            rcases hC hz hprune' hzero id hcur with hnone | howes
            · cases hnone.symm.trans he
            · exact absurd howes hno

/-- The rebuild prunes what it did not refresh. -/
theorem RebuildInv.pruned (h : RebuildInv c S) {startedAt : ℕ} {indexName : String}
    (hpc : S.rebuild = .prune startedAt indexName) :
    RebuildInv c { S with
      world := { S.world with es := pruneStale indexName startedAt S.world.es }
      rebuild := .returned } := by
  obtain ⟨halias, hz, hname⟩ : (RebuildPc.prune startedAt indexName).Ok c S.world := hpc ▸ h.ok
  rw [World.goal_eq hz] at hname
  have hserved : ∀ id, World.served c
      { S.world with es := pruneStale indexName startedAt S.world.es } id =
        (S.world.served c id).filter fun e => decide (startedAt ≤ e.indexedAt) := fun id => by
    have hindex : writeIndex c.cfg (pruneStale indexName startedAt S.world.es) = indexName :=
      hname.symm
    rw [World.served, hindex, pruneStale, Cluster.docs_deleteByQuery, if_pos rfl, hname,
      World.served]
    simp
  refine h.rebuild_move halias (by rw [hpc]; rfl) rfl fun id => ?_
  refine (h.entries id).imp_left fun hs => Or.inr ?_
  rw [hpc] at hs
  have ht := hs.resolve_left Bool.false_ne_true
  refine ⟨fun d hd => Or.inr ?_, fun hcur e he => ?_⟩
  · obtain ⟨i, n, he, hle⟩ := (ht.live d hd).resolve_left fun hf => hf
    refine ⟨i, n, ?_, fun t hp => by cases hp⟩
    rw [hserved, he, Option.filter_some, if_pos]
    simpa [transformProperty] using hle startedAt rfl
  · rw [hserved, Option.filter_eq_some_iff] at he
    obtain ⟨t, hp, hlt⟩ := ht.gone hcur e he.1
    obtain rfl := Option.some.inj hp
    exact absurd (of_decide_eq_true he.2) (Nat.not_le.2 hlt)

/-- **The alias is swapped.**  The index behind it holds what the run last read,
which is what Mongo holds now wherever no hook is on its way. -/
theorem RebuildInv.swapped (h : RebuildInv c S) {run : RunStart} {fill : Fill β φ}
    (hpc : S.rebuild = .swap run fill) (hC : RebuildInOrder c S (.swap run fill))
    {detached : List String} {es : Cluster φ}
    (hswap : swapAlias c.cfg fill.indexName S.world.es = some (detached, es)) :
    RebuildInv c { S with world := { S.world with es }, rebuild := .dropOld detached } := by
  obtain ⟨-, hz, hfill, hqueue⟩ : (RebuildPc.swap run fill).Ok c S.world := hpc ▸ h.ok
  obtain ⟨hindices, halias, rfl⟩ := docs_swapAlias hswap
  have hserved : ∀ id, World.served c { S.world with es } id =
      S.world.es.docs fill.indexName id := fun id => by
    simp [World.served, writeIndex, resolveAlias, halias, Cluster.docs, hindices]
  have hfilled : ∀ id, Transforms c (fill.lastRead id) (S.world.es.docs fill.indexName id) :=
    fun id => by
      have := hfill.filled hz id
      rwa [hqueue, show lastAction ([] : List (EsDoc φ)) id = none from rfl, Option.none_or] at this
  refine ⟨fun id => or_iff_not_imp_right.2 fun hno => Or.inr ⟨fun d hd => Or.inr ?_, ?_⟩,
    fun hu => absurd hu Bool.false_ne_true, ?_, ?_⟩
  · have hid := Collection.current_some_propertyId hd
    have hpassed := (hC.2 d (Collection.mem_live.2 (hid.symm ▸ hd))).resolve_right (hid ▸ hno)
    cases hread : fill.lastRead id with
    | none =>
        obtain ⟨-, hcur⟩ := hfill.skipped id (hid ▸ hpassed) hread
        cases hcur.symm.trans hd
    | some doc =>
        have hdoc := (hC.1 id doc hread).resolve_right hno
        rw [hd] at hdoc
        obtain ⟨i, n, he⟩ := (hfilled id).2 doc hread
        refine ⟨i, n, ?_, fun t ht => by cases ht⟩
        rw [hserved, he, ← Option.some.inj hdoc]
  · intro hcur e he
    rw [hserved] at he
    cases hread : fill.lastRead id with
    | none => cases ((hfilled id).1 hread).symm.trans he
    | some doc =>
        have hdoc := (hC.1 id doc hread).resolve_right hno
        rw [hcur] at hdoc
        cases hdoc
  · exact fun hnone => Option.some_ne_none _ (halias.symm.trans hnone)
  · intro old ho hname
    have : fill.indexName = old := Option.some.inj (halias.symm.trans hname)
    simpa [this] using (List.mem_filter.1 ho).2

/-- The rebuild drops an index the alias was detached from. -/
theorem RebuildInv.dropped (h : RebuildInv c S) {old : String} {detached : List String}
    (hpc : S.rebuild = .dropOld (old :: detached)) {es : Cluster φ}
    (hes : S.world.es.deleteIndex c.cfg old = some es) :
    RebuildInv c { S with world := { S.world with es }, rebuild := .dropOld detached } := by
  obtain ⟨halias, hold⟩ : (RebuildPc.dropOld (old :: detached)).Ok c S.world := hpc ▸ h.ok
  obtain ⟨-, hkeep, hsame⟩ := Cluster.docs_deleteIndex hes
  obtain ⟨name, hname⟩ := Option.ne_none_iff_exists'.1 halias
  have hne := hold old List.mem_cons_self
  have hname' := (hsame hne).trans hname
  have hserved : ∀ id, World.served c { S.world with es } id = S.world.served c id := fun id => by
    have : name ≠ old := fun he => hne (hname.trans (congrArg some he))
    simp [World.served, writeIndex, resolveAlias, hname, hname', Cluster.docs, hkeep name this]
  refine ⟨fun id => ?_, fun hu => absurd hu Bool.false_ne_true, ?_, ?_⟩
  · rw [hserved]
    refine (h.entries id).imp_left fun hs => ?_
    rw [hpc] at hs
    exact hs.mono (fun ho => ho) (fun _ _ hcoming => hcoming) rfl
  · exact fun hnone => halias ((hsame hne).symm.trans hnone)
  · intro n hn he
    exact hold n (List.mem_cons_of_mem _ hn) ((hsame hne).symm.trans he)

/-- The rebuild ensures that there is an alias. -/
theorem RebuildInv.ensured (h : RebuildInv c S) {run : RunStart} (hpc : S.rebuild = .ensure run)
    (hC : RebuildInOrder c S (.ensure run)) {es : Cluster φ}
    (hes : ensureIndex c.cfg S.world.es = some es) :
    RebuildInv c { S with
      world := { S.world with es }
      rebuild := if c.zeroDowntime then .resolveAlias run else .writeIndex run } := by
  have hle : run.startedAt ≤ S.world.now := by
    have := h.ok
    rwa [hpc] at this
  have hu : S.rebuild.unswapped = true := by rw [hpc]; rfl
  obtain ⟨hindex, halias⟩ := writeIndex_ensureIndex hes
  have hal : es.aliasTarget ≠ none := halias (or_iff_not_imp_left.2 fun hn => hC (not_not.1 hn))
  cases hz : c.zeroDowntime with
  | true => exact h.rebuild_owing ⟨hal, hle, hz⟩ hu hindex rfl
  | false =>
      refine h.rebuild_quiet ⟨hal, hle, hz⟩ hu hindex (docs_ensureIndex hes _) ?_ ?_ ?_
      · rw [hpc, RebuildPc.owesAll, hz]
        exact fun ho => absurd ho Bool.false_ne_true
      · exact fun _ _ => trivial
      · rw [hpc]
        rfl

/-- The rebuild deletes a stale index under the name of the one it is to fill. -/
theorem RebuildInv.staleDeleted (h : RebuildInv c S) {run : RunStart} {targetIndex : String}
    (hpc : S.rebuild = .deleteStaleTarget run targetIndex) {es : Cluster φ}
    (hes : deleteStaleTarget c.cfg targetIndex S.world.es = some es) :
    RebuildInv c { S with
      world := { S.world with es }, rebuild := .createTarget run targetIndex } := by
  obtain ⟨hal, hle, hz, rfl⟩ : (RebuildPc.deleteStaleTarget run targetIndex).Ok c S.world :=
    hpc ▸ h.ok
  have hne := World.goal_ne (w := S.world) hz
  have halias := (docs_deleteStaleTarget hes).2 fun ha =>
    hne (by simp [writeIndex, resolveAlias, ha])
  have hindex : writeIndex c.cfg es = writeIndex c.cfg S.world.es := writeIndex_congr halias
  have hempty : ∀ id, es.docs (S.world.goal c) id = none := fun id => by
    rw [Cluster.docs, indices_deleteStaleTarget hes]
    rfl
  exact h.rebuild_owing ⟨by rwa [halias], hle, hz, (World.goal_congr hindex).symm, hempty⟩
    (by rw [hpc]; rfl) hindex rfl

/-- The rebuild creates the index it is to fill. -/
theorem RebuildInv.targetCreated (h : RebuildInv c S) {run : RunStart} {targetIndex : String}
    (hpc : S.rebuild = .createTarget run targetIndex) {es : Cluster φ}
    (hes : createIndex c.cfg targetIndex false S.world.es = some es) :
    RebuildInv c { S with
      world := { S.world with es }, rebuild := .populate run targetIndex } := by
  obtain ⟨hal, hle, hz, rfl, hempty⟩ : (RebuildPc.createTarget run targetIndex).Ok c S.world :=
    hpc ▸ h.ok
  have halias := aliasTarget_createIndex hes
  have hindex : writeIndex c.cfg es = writeIndex c.cfg S.world.es := writeIndex_congr halias
  refine h.rebuild_owing ⟨by rwa [halias], hle, (World.goal_congr hindex).symm, fun _ id => ?_⟩
    (by rw [hpc]; rfl) hindex hz
  rw [docs_createIndex hes, hempty]

/-- **One step of the rebuild outside its bulk loop.** -/
theorem RebuildInv.rebuild (h : RebuildInv c S) {answers : Bool}
    (hC : RebuildInOrder c S S.rebuild)
    (hnext : S.rebuild.next c S.world answers = some (w, pc)) :
    RebuildInv c { S with world := w, rebuild := pc } := by
  have hok := h.ok
  cases hpc : S.rebuild with
  | start =>
      rw [hpc] at hnext hC
      obtain ⟨rfl, rfl⟩ := Prod.mk.inj (Option.some.inj hnext)
      exact h.started hpc hC
  | resolveSource startedAt =>
      rw [hpc] at hnext hok
      obtain ⟨rfl, rfl⟩ := Prod.mk.inj (Option.some.inj hnext)
      exact h.rebuild_quiet hok (by rw [hpc]; rfl) rfl rfl (by rw [hpc]; exact fun ho => ho)
        (fun _ _ => trivial) (by rw [hpc]; rfl)
  | ensure run =>
      rw [hpc] at hnext hC
      obtain ⟨es, hes, he⟩ := Option.map_eq_some_iff.1 hnext
      obtain ⟨rfl, rfl⟩ := Prod.mk.inj he
      exact h.ensured hpc hC hes
  | writeIndex run =>
      rw [hpc] at hnext hok
      obtain ⟨rfl, rfl⟩ := Prod.mk.inj (Option.some.inj hnext)
      obtain ⟨hal, hle, hz⟩ := hok
      refine h.rebuild_quiet ⟨hal, hle, (World.goal_eq hz).symm, fun hz' => ?_⟩
        (by rw [hpc]; rfl) rfl rfl (by rw [hpc]; exact fun ho => absurd ho Bool.false_ne_true)
        (fun _ _ => trivial) (by rw [hpc]; rfl)
      cases hz.symm.trans hz'
  | resolveAlias run =>
      rw [hpc] at hnext hok
      obtain ⟨hal, hle, hz⟩ := hok
      obtain ⟨es, hes, he⟩ := Option.map_eq_some_iff.1 hnext
      obtain ⟨rfl, rfl⟩ := Prod.mk.inj he
      obtain ⟨name, hname⟩ := Option.ne_none_iff_exists'.1 hal
      obtain rfl : S.world.es = es := by simpa [ensureAlias, resolveAlias, hname] using hes
      exact h.rebuild_owing ⟨hal, hle, hz, (if_pos hz).symm⟩ (by rw [hpc]; rfl) rfl rfl
  | deleteStaleTarget run targetIndex =>
      rw [hpc] at hnext
      obtain ⟨es, hes, he⟩ := Option.map_eq_some_iff.1 hnext
      obtain ⟨rfl, rfl⟩ := Prod.mk.inj he
      exact h.staleDeleted hpc hes
  | createTarget run targetIndex =>
      rw [hpc] at hnext
      obtain ⟨es, hes, he⟩ := Option.map_eq_some_iff.1 hnext
      obtain ⟨rfl, rfl⟩ := Prod.mk.inj he
      exact h.targetCreated hpc hes
  | populate run indexName =>
      rw [hpc] at hnext hok
      obtain ⟨rfl, rfl⟩ := Prod.mk.inj (Option.some.inj hnext)
      exact h.rebuild_quiet hok (by rw [hpc]; rfl) rfl rfl (by rw [hpc]; exact fun ho => ho)
        (fun _ _ => trivial) (by rw [hpc]; rfl)
  | openCursor run indexName indexedAt =>
      rw [hpc] at hnext hC
      obtain ⟨rfl, rfl⟩ := Prod.mk.inj (Option.some.inj hnext)
      exact h.opened hpc hC
  | bulk run fill =>
      rw [hpc] at hnext hC
      simp only [RebuildPc.next] at hnext
      split at hnext
      · next hdone =>
          obtain ⟨rfl, rfl⟩ := Prod.mk.inj (Option.some.inj hnext)
          exact h.filled hpc hdone hC
      · cases hnext
  | prune startedAt indexName =>
      rw [hpc] at hnext
      obtain ⟨rfl, rfl⟩ := Prod.mk.inj (Option.some.inj hnext)
      exact h.pruned hpc
  | swap run fill =>
      rw [hpc] at hnext hC
      obtain ⟨⟨detached, es⟩, hswap, he⟩ := Option.map_eq_some_iff.1 hnext
      obtain ⟨rfl, rfl⟩ := Prod.mk.inj he
      exact h.swapped hpc hC hswap
  | dropOld detached =>
      rw [hpc] at hnext hok
      cases detached with
      | nil =>
          obtain ⟨rfl, rfl⟩ := Prod.mk.inj (Option.some.inj hnext)
          refine ⟨fun id => ?_, fun hu => absurd hu Bool.false_ne_true, hok.1⟩
          have hs := h.entries id
          rw [hpc] at hs
          exact hs.imp_left fun hs => hs.mono (fun ho => ho) (fun _ _ hf => hf) rfl
      | cons old detached =>
          obtain ⟨es, hes, he⟩ := Option.map_eq_some_iff.1 hnext
          obtain ⟨rfl, rfl⟩ := Prod.mk.inj he
          exact h.dropped hpc hes
  | returned =>
      rw [hpc] at hnext
      cases hnext

end Rebuild

/-! ### Steps of the bulk loop -/

section Bulk

variable {c : Setup β φ} {w : World β φ} {run : RunStart} {fill fill' : Fill β φ}
  {S : Rebuilding κ β φ} {doc : SourceDoc β} {d : ApiDoc β} {id : String} {now : ℕ}

/-- A document yields no action, or is read and its action queued. -/
theorem Fill.take_cases (c : Setup β φ) (now : ℕ) (doc : SourceDoc β) (fill : Fill β φ) :
    (fill.take c now doc = fill ∧ bulkAction c.flatten fill.indexedAt now doc = none) ∨
      ∃ a, resolveDocumentId doc = some a.id ∧
        a = transformProperty c.flatten doc (some fill.indexedAt) now ∧
        fill.take c now doc = { fill with
          passed := a.id :: fill.passed
          read := fill.read ++ [doc]
          queue := fill.queue ++ [a] } := by
  unfold take
  split
  · next hnone => exact Or.inl ⟨rfl, hnone⟩
  · next a ha => exact Or.inr ⟨a, (bulkAction_some ha).2, bulkAction_eq ha, rfl⟩

/-- What is on its way stays so when a document is taken. -/
theorem Fill.Coming.take (h : fill.Coming id) : (fill.take c now doc).Coming id := by
  rcases fill.take_cases c now doc with ⟨he, -⟩ | ⟨a, -, -, he⟩
  · rwa [he]
  · rw [he]
    exact h.imp_left fun ⟨b, hb, hid⟩ => ⟨b, List.mem_append_left _ hb, hid⟩

/-- An indexable document that is taken is on its way. -/
theorem Fill.coming_take (hi : isIndexable doc = true) (hid : resolveDocumentId doc = some id)
    (hne : id ≠ "") : (fill.take c now doc).Coming id := by
  rcases fill.take_cases c now doc with ⟨-, hnone⟩ | ⟨a, ha, -, he⟩
  · obtain ⟨a, ha, -⟩ := bulkAction_isSome c.flatten fill.indexedAt now hi hid hne
    cases hnone.symm.trans ha
  · rw [he]
    exact Or.inl ⟨a, List.mem_append_right _ (List.mem_singleton_self a),
      Option.some.inj (ha.symm.trans hid)⟩

theorem Fill.Ok.take (h : fill.Ok c w run) : (fill.take c now doc).Ok c w run := by
  rcases fill.take_cases c now doc with ⟨he, -⟩ | ⟨a, ha, heq, he⟩
  · rwa [he]
  have hread : ∀ id, Fill.lastRead id (fill.take c now doc) =
      if a.id = id then some doc else fill.lastRead id := fun id => by
    rw [he, lastRead, List.reverse_append]
    by_cases hid : a.id = id
    · simp [ha, hid]
    · simp [ha, hid, lastRead]
  rw [he] at hread ⊢
  refine ⟨h.indexName, h.indexedAt, fun b hb => ?_, fun hz id => ?_, fun id hid hnone => ?_⟩
  · rcases List.mem_append.1 hb with hb | hb
    · exact h.stamped b hb
    · rw [List.mem_singleton.1 hb, heq]
      exact h.indexedAt
  · rw [hread, lastAction_concat]
    by_cases hid : a.id = id
    · rw [if_pos hid, if_pos hid]
      refine ⟨nofun, fun s hs => ⟨fill.indexedAt, now, ?_⟩⟩
      rw [← Option.some.inj hs, Option.some_or, ← heq]
    · rw [if_neg hid, if_neg hid]
      exact h.filled hz id
  · rw [hread] at hnone
    split_ifs at hnone with hne
    exact h.skipped id ((List.mem_cons.1 hid).resolve_left (Ne.symm hne)) hnone

/-- The cursor moves on. -/
theorem Fill.Ok.moveOn (h : fill.Ok c w run) (cursor : Cursor β) :
    Fill.Ok c w run { fill with cursor } :=
  ⟨h.indexName, h.indexedAt, h.stamped, h.filled, h.skipped⟩

theorem Fill.Ok.pass (h : fill.Ok c w run) {pending : List String}
    (hd : w.properties.find d.propertyId = some d) :
    (fill.pass c now d pending).Ok c w run := by
  unfold Fill.pass
  split
  · exact (h.moveOn _).take
  · next hlive =>
      refine ⟨h.indexName, h.indexedAt, h.stamped, h.filled, fun id hid hnone => ?_⟩
      rcases List.mem_cons.1 hid with rfl | hid
      · refine ⟨by rw [hd]; rfl, ?_⟩
        rw [Collection.current, hd, Option.filter_some, if_neg]
        simpa using hlive
      · exact h.skipped id hid hnone

/-- A live listing is still to come, or is sent, when the cursor passes a document. -/
theorem Fill.Coming.pass (h : fill.Coming id) {pending : List String}
    (hcursor : fill.cursor = .mongo pending) {coll : Collection β}
    (hd : coll.find d.propertyId = some d) {e : ApiDoc β} (he : coll.current id = some e) :
    (fill.pass c now d pending).Coming id := by
  obtain ⟨hfind, hlive⟩ := Collection.current_eq_some.1 he
  obtain ⟨-, hid⟩ := Collection.find_some hfind
  by_cases hde : id = d.propertyId
  · subst hde
    obtain rfl : d = e := Option.some.inj (hd.symm.trans hfind)
    unfold Fill.pass
    rw [if_pos (by simp [hlive])]
    exact Fill.coming_take (by simp [hlive]) (resolveDocumentId_toSource d)
      d.propertyId_ne_empty
  · have hmoved : Fill.Coming id { fill with cursor := .mongo (pending.erase d.propertyId) } := by
      rw [Fill.Coming, hcursor] at h
      exact h.imp_right fun hp => (List.mem_erase_of_ne hde).2 hp
    unfold Fill.pass
    split
    · exact hmoved.take
    · exact hmoved

/-- What a reading keeps. -/
theorem Fill.Ok.readNext (h : fill.Ok c w run) {propertyId : String}
    (hnext : fill.readNext c w.properties now propertyId = some fill') :
    fill'.Ok c w run ∧ ∀ id e, w.properties.current id = some e → fill.Coming id →
      fill'.Coming id := by
  unfold Fill.readNext at hnext
  split at hnext
  · next pending hcursor =>
      split at hnext
      · cases hnext
      · obtain ⟨d, hd, rfl⟩ := Option.map_eq_some_iff.1 hnext
        have hd' : w.properties.find d.propertyId = some d := by
          rwa [(Collection.find_some hd).2]
        exact ⟨h.pass hd', fun id e he hcoming => hcoming.pass hcursor hd' he⟩
  · cases hnext
  · next doc rest hcursor =>
      obtain rfl := Option.some.inj hnext
      refine ⟨(h.moveOn _).take, fun id e he hcoming => ?_⟩
      have hid := Collection.current_some_propertyId he
      have hne : id ≠ "" := hid ▸ e.propertyId_ne_empty
      rw [Fill.Coming, hcursor] at hcoming
      rcases hcoming with hq | ⟨doc', hdoc', hi, hres⟩
      · exact Fill.Coming.take (Or.inl hq)
      · rcases List.mem_cons.1 hdoc' with rfl | hmem
        · exact Fill.coming_take hi hres hne
        · exact Fill.Coming.take (Or.inr ⟨doc', hmem, hi, hres⟩)

/-- **The bulk loop reads a document.** -/
theorem RebuildInv.read (h : RebuildInv c S) {propertyId : String} {pc : RebuildPc β φ}
    (hnext : S.rebuild.read c S.world propertyId = some pc) :
    RebuildInv c { S with rebuild := pc } := by
  have hok := h.ok
  cases hpc : S.rebuild with
  | bulk run fill =>
      rw [hpc] at hnext hok
      obtain ⟨fill', hread, rfl⟩ := Option.map_eq_some_iff.1 hnext
      obtain ⟨hfill, hcoming⟩ := hok.2.readNext hread
      refine h.rebuild_move (w := S.world) ⟨hok.1, hfill⟩ (by rw [hpc]; rfl) rfl fun id => ?_
      refine (h.entries id).imp_left fun hs => ?_
      rw [hpc] at hs
      exact hs.mono (fun ho => ho) (hcoming id) rfl
  | _ =>
      rw [hpc] at hnext
      cases hnext

/-- **Elasticsearch executes an action of the bulk loop.** -/
theorem RebuildInv.flush (h : RebuildInv c S) {pc : RebuildPc β φ}
    (hC : FlushInOrder c S S.rebuild) (hnext : S.rebuild.flush S.world = some (w, pc)) :
    RebuildInv c { S with world := w, rebuild := pc } := by
  have hok := h.ok
  cases hpc : S.rebuild with
  | bulk run fill =>
      rw [hpc] at hnext hok hC
      obtain ⟨halias, hfill⟩ := hok
      simp only [RebuildPc.flush] at hnext
      split at hnext
      · cases hnext
      next a queue hqueue =>
      obtain ⟨rfl, rfl⟩ := Prod.mk.inj (Option.some.inj hnext)
      have hdocs := Cluster.docs_index fill.indexName a.id a S.world.es
      have hok' : Fill.Ok c { S.world with es := S.world.es.index fill.indexName a.id a } run
          { fill with queue, indexed := fill.indexed + 1 } := by
        refine ⟨hfill.indexName, hfill.indexedAt, fun b hb => hfill.stamped b ?_, fun hz id => ?_,
          hfill.skipped⟩
        · rw [hqueue]
          exact List.mem_cons_of_mem a hb
        · have := hfill.filled hz id
          rw [hqueue, lastAction_cons, Option.or_assoc] at this
          have he : (if a.id = id then some a else none).or (S.world.es.docs fill.indexName id) =
              (S.world.es.index fill.indexName a.id a).docs fill.indexName id := by
            rw [hdocs]
            by_cases hid : a.id = id
            · simp [hid]
            · simp [hid, Ne.symm hid]
          rwa [he] at this
      refine h.rebuild_move ⟨halias, hok'⟩ (by rw [hpc]; rfl) rfl fun id => ?_
      cases hz : c.zeroDowntime with
      | true => exact Or.inl (Or.inl hz)
      | false =>
          have hserved : ∀ id, World.served c
              { S.world with es := S.world.es.index fill.indexName a.id a } id =
                if id = a.id then some a else S.world.served c id := fun id => by
            have hname := hfill.indexName.trans (World.goal_eq hz)
            have hindex : writeIndex c.cfg (S.world.es.index fill.indexName a.id a) =
              fill.indexName := hname.symm
            rw [World.served, hindex, hdocs, World.served, ← hname]
            simp
          rw [hserved]
          by_cases hid : id = a.id
          · subst hid
            refine (hC hz a queue hqueue).imp_left fun hknown => Or.inr ?_
            obtain ⟨d, hd, hright⟩ := hknown
            refine ⟨fun e he => hright.imp_right fun hmade => ?_,
              fun hcur => by cases hcur.symm.trans hd⟩
            obtain ⟨i, n, heq⟩ := hmade
            refine ⟨i, n, ?_, fun t ht => ?_⟩
            · rw [if_pos rfl, ← Option.some.inj (hd.symm.trans he), ← heq]
            · have hle := hfill.stamped a (by rw [hqueue]; exact List.mem_cons_self)
              have hi : a.indexedAt = i := by
                rw [heq]
                rfl
              simp only [RebuildPc.pruneFrom] at ht
              split_ifs at ht
              rw [← Option.some.inj ht, ← hi]
              exact hle
          · rw [if_neg hid]
            refine (h.entries id).imp_left fun hs => ?_
            rw [hpc] at hs
            refine hs.mono (fun ho => ho) (fun _ _ hcoming => hcoming.imp_left ?_) rfl
            rintro ⟨b, hb, hbid⟩
            rw [hqueue] at hb
            rcases List.mem_cons.1 hb with rfl | hb
            · exact absurd hbid.symm hid
            · exact ⟨b, hb, hbid⟩
  | _ =>
      rw [hpc] at hnext
      cases hnext

end Bulk

end Search
end TopChoice
