/-
# An ingestion run converges

After a run that ended as succeeded, what is stored of each document it loaded is what
the chunker makes of its text, embedded, exactly when what was stored before of the
documents it skipped was that already (`ingest_converges_iff`): a document that is
empty, or has no chunks, is skipped with its old chunks in place, and so is one whose
checksum is unchanged, whatever its chunks are (`skipped_documents_go_stale`).

The proof follows the documents through the loop: skipped, waiting in a batch, or
written.
-/

import Mathlib.Data.List.Forall2
import TopChoice.Rag.IngestionPipeline

namespace TopChoice
namespace Rag

variable {υ ν : Type}

/-! ### What is stored of a document -/

/-- A chunk and its row: the same chunk, with an embedding. -/
def Chunk.StoredAs (chunk : Chunk υ) (row : ChunkRow υ ν) : Prop :=
  row.ordinal = chunk.ordinal ∧ row.content = chunk.content ∧
    row.tokenCount = chunk.tokenCount ∧ row.metadata = chunk.metadata ∧
    row.embedding.isSome = true

/-- The chunks stored under a key. -/
def Corpus.chunks (corpus : Corpus υ ν) (key : String × String) : List (ChunkRow υ ν) :=
  (Corpus.get corpus key).elim [] RagDocument.chunks

section Conditions

variable [JsonValue υ] (pipeline : Pipeline υ) (options : IngestOptions) (corpus : Corpus υ ν)
  (document : RawDocument υ)

/-- What is stored of a document is what the chunker makes of it, embedded; of an empty
one nothing is. -/
def Converged : Prop :=
  List.Forall₂ Chunk.StoredAs (if document.isEmpty then [] else pipeline.split document)
    (Corpus.chunks corpus document.key)

/-- The stored document of a document. -/
def Corpus.existing : Option StoredDocument :=
  Corpus.storedState corpus document.sourceType document.sourceId

/-- The run skips the document. -/
def Skips : Prop :=
  document.isEmpty = true ∨
    pipeline.unchanged options (Corpus.existing corpus document) document = true ∨
    pipeline.split document = []

/-- What was stored of a document before the run: nothing, if it is empty or has no
chunks now; and what the chunker makes of it, embedded, if its checksum is unchanged. -/
def UpToDate : Prop :=
  (document.isEmpty = true ∨ pipeline.split document = [] →
      Corpus.chunks corpus document.key = []) ∧
    (document.isEmpty = false → pipeline.split document ≠ [] →
      pipeline.unchanged options (Corpus.existing corpus document) document = true →
        List.Forall₂ Chunk.StoredAs (pipeline.split document) (Corpus.chunks corpus document.key))

/-- A row the pipeline wrote for a document, with a vector for each chunk. -/
def Written (item : RawDocument υ × List (Chunk υ)) : Prop :=
  ∃ vectors : List (Option ν), vectors.length = item.2.length ∧ (∀ v ∈ vectors, v.isSome = true) ∧
    Corpus.get corpus item.1.key = some (pipeline.row item.1 item.2 vectors)

variable {pipeline options corpus document}

theorem skips_iff_upToDate (hskip : Skips pipeline options corpus document) :
    Converged pipeline corpus document ↔ UpToDate pipeline options corpus document := by
  by_cases hnone : document.isEmpty = true ∨ pipeline.split document = []
  · have hexpected : (if document.isEmpty then [] else pipeline.split document) = [] := by
      rcases hnone with h | h <;> simp [h]
    rw [Converged, hexpected, List.forall₂_nil_left_iff]
    constructor
    · intro hchunks
      refine ⟨fun _ => hchunks, fun hempty hsplit => ?_⟩
      rcases hnone with h | h
      · simp [h] at hempty
      · exact absurd h hsplit
    · intro h
      exact h.1 hnone
  · obtain ⟨hempty, hsplit⟩ := not_or.1 hnone
    have hempty' : document.isEmpty = false := by simpa using hempty
    have hunchanged := (hskip.resolve_left hempty).resolve_right hsplit
    rw [Converged, if_neg hempty]
    constructor
    · intro h
      exact ⟨fun hnone' => absurd hnone' hnone, fun _ _ _ => h⟩
    · intro h
      exact h.2 hempty' hsplit hunchanged

omit [JsonValue υ] in
/-- The rows of a document with a vector for each chunk. -/
theorem forall₂_row {chunks : List (Chunk υ)} : ∀ {vectors : List (Option ν)},
    vectors.length = chunks.length → (∀ v ∈ vectors, v.isSome = true) →
      List.Forall₂ Chunk.StoredAs chunks (pipeline.row document chunks vectors).chunks := by
  induction chunks with
  | nil =>
      intro vectors _ _
      exact List.Forall₂.nil
  | cons chunk chunks ih =>
      intro vectors hlength hsome
      cases vectors with
      | nil => simp at hlength
      | cons v vectors =>
          have hrest := ih (by simpa using hlength) fun w hw => hsome w (List.mem_cons_of_mem v hw)
          exact List.Forall₂.cons ⟨rfl, rfl, rfl, rfl, hsome v List.mem_cons_self⟩ hrest

/-- A written document has converged. -/
theorem Written.converged (h : Written pipeline corpus (document, pipeline.split document))
    (hempty : document.isEmpty = false) : Converged pipeline corpus document := by
  obtain ⟨vectors, hlength, hsome, hget⟩ := h
  have hchunks : Corpus.chunks corpus document.key =
      (pipeline.row document (pipeline.split document) vectors).chunks := by
    simp only [Corpus.chunks, hget, Option.elim]
  have hexpected : (if document.isEmpty then [] else pipeline.split document) =
      pipeline.split document := by simp [hempty]
  rw [Converged, hexpected, hchunks]
  exact forall₂_row hlength hsome

/-- The next run finds a written document unchanged. -/
theorem Written.unchanged (h : Written pipeline corpus (document, pipeline.split document))
    (hforce : options.force = false) (hsplit : pipeline.split document ≠ []) :
    pipeline.unchanged options (Corpus.existing corpus document) document = true := by
  obtain ⟨vectors, hlength, -, hget⟩ := h
  have hget' : Corpus.get corpus (document.sourceType, document.sourceId) =
      some (pipeline.row document (pipeline.split document) vectors) := hget
  have hpos : 0 < (pipeline.split document).length := List.length_pos_iff.2 hsplit
  simp [Pipeline.unchanged, Corpus.existing, Corpus.storedState, hget', Pipeline.row, hforce,
    hlength, hpos]

end Conditions

/-! ### One batch -/

section Batch

variable [JsonValue υ] {pipeline : Pipeline υ} {world : World ν} {source : SourceName}
  {batch : List (RawDocument υ × List (Chunk υ))} {s s' : RunState υ ν}

omit [JsonValue υ] in
/-- A transaction that succeeds writes the row of its document. -/
theorem persist_ok {document : RawDocument υ} {chunks : List (Chunk υ)} {vectors : List (Option ν)}
    {corpus : Corpus υ ν} (h : persist pipeline world document chunks vectors s = .ok corpus) :
    corpus = Corpus.upsert s.corpus (pipeline.row document chunks vectors) := by
  simp only [persist] at h
  split_ifs at h
  split at h
  · cases h
  · exact (Except.ok.inj h).symm

omit [JsonValue υ] in
/-- Persisting a batch leaves the rows of other keys alone. -/
theorem persistAll_get {key : String × String} : ∀ {batch : List (RawDocument υ × List (Chunk υ))}
    {vectors : List (Option ν)} {s : RunState υ ν}, (∀ item ∈ batch, item.1.key ≠ key) →
      Corpus.get (persistAll pipeline world source batch vectors s).1.corpus key =
        Corpus.get s.corpus key := by
  intro batch
  induction batch with
  | nil => intros; rfl
  | cons item batch ih =>
      obtain ⟨document, chunks⟩ := item
      intro vectors s hkey
      have hrest : ∀ item ∈ batch, item.1.key ≠ key := fun item hitem =>
        hkey item (List.mem_cons_of_mem _ hitem)
      have hown : document.key ≠ key := hkey (document, chunks) List.mem_cons_self
      simp only [persistAll]
      split
      · next corpus hpersist =>
          rw [ih hrest]
          simp only [persist_ok hpersist]
          rw [Corpus.get_upsert, if_neg fun h => hown h.symm]
      · exact ih hrest
      · rfl

omit [JsonValue υ] in
/-- Persisting a batch without a new error has written every document of it. -/
theorem persistAll_written : ∀ {batch : List (RawDocument υ × List (Chunk υ))}
    {vectors : List (Option ν)} {s s' : RunState υ ν},
      (batch.map fun item => item.1.key).Nodup →
      vectors.length = (batch.flatMap Prod.snd).length → (∀ v ∈ vectors, v.isSome = true) →
      persistAll pipeline world source batch vectors s = (s', none) → s'.errors = [] →
        s.errors = [] ∧ ∀ item ∈ batch, Written pipeline s'.corpus item := by
  intro batch
  induction batch with
  | nil =>
      intro vectors s s' _ _ _ h hclean
      obtain ⟨rfl, -⟩ := Prod.mk.inj h
      exact ⟨hclean, fun item hitem => by cases hitem⟩
  | cons item batch ih =>
      obtain ⟨document, chunks⟩ := item
      intro vectors s s' hnodup hlength hsome h hclean
      obtain ⟨hfresh, hnodup⟩ := List.nodup_cons.1 hnodup
      have hlength' : vectors.length = chunks.length + (batch.flatMap Prod.snd).length := by
        simpa using hlength
      have hdrop : (vectors.drop chunks.length).length = (batch.flatMap Prod.snd).length := by
        rw [List.length_drop]
        omega
      have hdrop' : ∀ v ∈ vectors.drop chunks.length, v.isSome = true := fun v hv =>
        hsome v (List.mem_of_mem_drop hv)
      have hother : ∀ item ∈ batch, item.1.key ≠ document.key := fun item hitem he =>
        hfresh (List.mem_map.2 ⟨item, hitem, he⟩)
      simp only [persistAll] at h
      split at h
      · next corpus hpersist =>
          obtain ⟨hclean', hwritten⟩ := ih hnodup hdrop hdrop' h hclean
          refine ⟨hclean', fun item hitem => ?_⟩
          rcases List.mem_cons.1 hitem with rfl | hitem
          · have htake : (vectors.take chunks.length).length = chunks.length := by
              rw [List.length_take]
              omega
            have hkey : document.key =
                (pipeline.row document chunks (vectors.take chunks.length)).key := rfl
            have hkept := congrArg (fun r => Corpus.get r.1.corpus document.key) h
            simp only [persistAll_get hother] at hkept
            rw [persist_ok hpersist, Corpus.get_upsert, if_pos hkey] at hkept
            exact ⟨_, htake, fun v hv => hsome v (List.mem_of_mem_take hv), hkept.symm⟩
          · exact hwritten item hitem
      · have hrecorded := (ih hnodup hdrop hdrop' h hclean).1
        simp only [RunState.fail] at hrecorded
        exact absurd hrecorded (recordError_ne_nil _ _ _ _)
      · cases h

omit [JsonValue υ] in
/-- Counting documents as failed touches no table. -/
theorem foldl_fail_corpus {error : String} : ∀ {batch : List (RawDocument υ × List (Chunk υ))}
    {s : RunState υ ν},
      (batch.foldl (fun s item => s.fail source item.1 error) s).corpus = s.corpus := by
  intro batch
  induction batch with
  | nil => intros; rfl
  | cons item batch ih =>
      intro s
      exact ih

omit [JsonValue υ] in
/-- Once a document has failed there are errors to the end. -/
theorem foldl_fail_errors {error : String} : ∀ {batch : List (RawDocument υ × List (Chunk υ))}
    {s : RunState υ ν},
      (batch.foldl (fun s item => s.fail source item.1 error) s).errors = [] →
        s.errors = [] ∧ batch = [] := by
  intro batch
  induction batch with
  | nil => exact fun h => ⟨h, rfl⟩
  | cons item batch ih =>
      intro s h
      exact absurd (ih h).1 (recordError_ne_nil _ _ _ _)

omit [JsonValue υ] in
/-- A flush leaves the rows of other keys alone. -/
theorem flush_get {key : String × String} (hkey : ∀ item ∈ batch, item.1.key ≠ key) :
    Corpus.get (flush pipeline world source batch s).1.corpus key = Corpus.get s.corpus key := by
  simp only [flush]
  split
  · simp only [foldl_fail_corpus]
  · rfl
  · rw [persistAll_get hkey]

omit [JsonValue υ] in
/-- A flush without a new error has written every document of its batch. -/
theorem flush_written (hnodup : (batch.map fun item => item.1.key).Nodup)
    (h : flush pipeline world source batch s = (s', none)) (hclean : s'.errors = []) :
    s.errors = [] ∧ ∀ item ∈ batch, Written pipeline s'.corpus item := by
  simp only [flush] at h
  split at h
  · obtain ⟨rfl, -⟩ := Prod.mk.inj h
    obtain ⟨hclean', rfl⟩ := foldl_fail_errors hclean
    exact ⟨hclean', fun item hitem => by cases hitem⟩
  · cases h
  · next vectors tokens hanswer =>
      have hparity := world.embeddings.parity _ _ _ hanswer
      have hlength : (vectors.map some).length =
          (batch.flatMap fun item => item.2.map Chunk.content).length := by
        rw [List.length_map]
        exact hparity
      have hchunks : (batch.flatMap fun item => item.2.map Chunk.content).length =
          (batch.flatMap Prod.snd).length := by
        simp [List.length_flatMap]
      rw [repairVectors, if_neg (not_not.2 hlength)] at h
      have hsome : ∀ v ∈ vectors.map some, v.isSome = true := fun v hv => by
        obtain ⟨w, -, rfl⟩ := List.mem_map.1 hv
        rfl
      have hwritten := persistAll_written hnodup (hlength.trans hchunks) hsome h hclean
      exact hwritten

end Batch

/-! ### The loop -/

section Loop

variable [JsonValue υ] {pipeline : Pipeline υ} {world : World ν} {source : SourceName}
  {options : IngestOptions} {before : Corpus υ ν}

/-- Where the documents the loop has seen stand: those that wait are not to be skipped;
the rows of the others are as before, until they are written. -/
structure Tracked (pipeline : Pipeline υ) (options : IngestOptions) (before : Corpus υ ν)
    (seen : List (RawDocument υ)) (loop : Loop υ ν) : Prop where
  waiting : (loop.pending.map Prod.fst).Sublist seen
  chunked : ∀ item ∈ loop.pending,
    item.2 = pipeline.split item.1 ∧ ¬ Skips pipeline options before item.1
  kept : ∀ key, (∀ d ∈ seen, ¬ Skips pipeline options before d → d.key ≠ key) →
    Corpus.get loop.state.corpus key = Corpus.get before key
  written : loop.state.errors = [] → ∀ d ∈ seen, ¬ Skips pipeline options before d →
    d ∈ loop.pending.map Prod.fst ∨ Written pipeline loop.state.corpus (d, pipeline.split d)

theorem Tracked.start {s : RunState υ ν} (h : s.corpus = before) :
    Tracked pipeline options before [] ⟨s, [], 0⟩ where
  waiting := List.Sublist.refl _
  chunked := nofun
  kept := fun key _ => by rw [h]
  written := nofun

omit [JsonValue υ] in
/-- What is written stays so while the row is left alone. -/
theorem Written.of_get {corpus corpus' : Corpus υ ν} {item : RawDocument υ × List (Chunk υ)}
    (h : Written pipeline corpus item)
    (hget : Corpus.get corpus' item.1.key = Corpus.get corpus item.1.key) :
    Written pipeline corpus' item := by
  obtain ⟨vectors, hlength, hsome, hrow⟩ := h
  exact ⟨vectors, hlength, hsome, hget.trans hrow⟩

/-- A flush writes what waits. -/
theorem Tracked.flush {seen : List (RawDocument υ)} {loop : Loop υ ν} {s : RunState υ ν}
    (h : Tracked pipeline options before seen loop) (hnodup : (seen.map RawDocument.key).Nodup)
    (hflush : flush pipeline world source loop.pending loop.state = (s, none)) :
    Tracked pipeline options before seen ⟨s, [], 0⟩ ∧ (s.errors = [] → loop.state.errors = []) := by
  have hget : ∀ key, (∀ item ∈ loop.pending, item.1.key ≠ key) →
      Corpus.get s.corpus key = Corpus.get loop.state.corpus key := fun key hkey => by
    have hkept := congrArg (fun r => Corpus.get r.1.corpus key) hflush
    simp only [flush_get hkey] at hkept
    exact hkept.symm
  have hkeys : (loop.pending.map fun item => item.1.key).Nodup := by
    have hsub := (h.waiting.map RawDocument.key).nodup hnodup
    rwa [List.map_map] at hsub
  have hmem : ∀ item ∈ loop.pending, item.1 ∈ seen := fun item hitem =>
    h.waiting.subset (List.mem_map_of_mem hitem)
  refine ⟨⟨List.nil_sublist _, nofun, fun key hkey => ?_,
    fun hclean d hd hskip => Or.inr ?_⟩, fun hclean => (flush_written hkeys hflush hclean).1⟩
  · rw [hget key fun item hitem => hkey item.1 (hmem item hitem) (h.chunked item hitem).2]
    exact h.kept key hkey
  · obtain ⟨hclean', hwritten⟩ := flush_written hkeys hflush hclean
    -- a document that waits is written now, and no other row under its key
    have hwaiting : ∀ item ∈ loop.pending, item.1 = d →
        Written pipeline s.corpus (d, pipeline.split d) := by
      rintro ⟨d', chunks⟩ hitem rfl
      have hchunks := (h.chunked _ hitem).1
      simp only at hchunks
      exact hchunks ▸ hwritten _ hitem
    by_cases hkey : ∃ item ∈ loop.pending, item.1.key = d.key
    · obtain ⟨item, hitem, he⟩ := hkey
      exact hwaiting item hitem (List.inj_on_of_nodup_map hnodup (hmem item hitem) hd he)
    · rcases h.written hclean' d hd hskip with hpending | hold
      · obtain ⟨item, hitem, he⟩ := List.mem_map.1 hpending
        exact hwaiting item hitem he
      · exact hold.of_get (hget d.key fun item hitem he => hkey ⟨item, hitem, he⟩)

/-- A document that is skipped. -/
theorem Tracked.skip {seen : List (RawDocument υ)} {loop : Loop υ ν} {d : RawDocument υ}
    (h : Tracked pipeline options before seen loop) (hskip : Skips pipeline options before d) :
    Tracked pipeline options before (seen ++ [d]) loop.skip where
  waiting := h.waiting.trans (List.sublist_append_left _ _)
  chunked := h.chunked
  kept := fun key hkey => h.kept key fun d' hd' => hkey d' (List.mem_append_left _ hd')
  written := fun hclean d' hd' hskip' => by
    rcases List.mem_append.1 hd' with hd' | hd'
    · exact h.written hclean d' hd' hskip'
    · rw [List.mem_singleton.1 hd'] at hskip'
      exact absurd hskip hskip'

/-- A document that is to wait. -/
theorem Tracked.push {seen : List (RawDocument υ)} {loop : Loop υ ν} {d : RawDocument υ} {n : ℕ}
    (h : Tracked pipeline options before seen loop) (hskip : ¬ Skips pipeline options before d) :
    Tracked pipeline options before (seen ++ [d])
      ⟨loop.state, loop.pending ++ [(d, pipeline.split d)], n⟩ where
  waiting := by
    rw [List.map_append]
    exact h.waiting.append (List.Sublist.refl _)
  chunked := fun item hitem => by
    rcases List.mem_append.1 hitem with hitem | hitem
    · exact h.chunked item hitem
    · rw [List.mem_singleton.1 hitem]
      exact ⟨rfl, hskip⟩
  kept := fun key hkey => h.kept key fun d' hd' => hkey d' (List.mem_append_left _ hd')
  written := fun hclean d' hd' hskip' => by
    rw [List.map_append]
    rcases List.mem_append.1 hd' with hd' | hd'
    · exact (h.written hclean d' hd' hskip').imp_left fun hmem => List.mem_append_left _ hmem
    · rw [List.mem_singleton.1 hd']
      exact Or.inl (List.mem_append_right _ List.mem_cons_self)

/-- **One document of the loop.** -/
theorem Tracked.document {seen : List (RawDocument υ)} {loop loop' : Loop υ ν} {d : RawDocument υ}
    {stored : String → Option StoredDocument} (h : Tracked pipeline options before seen loop)
    (hnodup : ((seen ++ [d]).map RawDocument.key).Nodup)
    (hstored : stored d.sourceId = Corpus.existing before d)
    (hstep : ingestDocument pipeline world source options stored d loop = (loop', none)) :
    Tracked pipeline options before (seen ++ [d]) loop' ∧
      (loop'.state.errors = [] → loop.state.errors = []) := by
  simp only [ingestDocument, hstored] at hstep
  split_ifs at hstep with hempty hunchanged hchunks hfull
  · obtain ⟨rfl, -⟩ := Prod.mk.inj hstep
    exact ⟨h.skip (Or.inl hempty), fun hclean => hclean⟩
  · obtain ⟨rfl, -⟩ := Prod.mk.inj hstep
    exact ⟨h.skip (Or.inr (Or.inl hunchanged)), fun hclean => hclean⟩
  · obtain ⟨rfl, -⟩ := Prod.mk.inj hstep
    exact ⟨h.skip (Or.inr (Or.inr (List.isEmpty_iff.1 hchunks))), fun hclean => hclean⟩
  · obtain ⟨rfl, hraised⟩ := Prod.mk.inj hstep
    have hskip : ¬ Skips pipeline options before d := by
      rintro (he | he | he)
      · exact hempty he
      · exact hunchanged he
      · exact hchunks (List.isEmpty_iff.2 he)
    have hpushed := h.push (n := loop.pendingChunks + (pipeline.split d).length) hskip
    exact hpushed.flush hnodup (Prod.ext rfl hraised)
  · obtain ⟨rfl, -⟩ := Prod.mk.inj hstep
    have hskip : ¬ Skips pipeline options before d := by
      rintro (he | he | he)
      · exact hempty he
      · exact hunchanged he
      · exact hchunks (List.isEmpty_iff.2 he)
    exact ⟨h.push hskip, fun hclean => hclean⟩

/-- **The whole loop.** -/
theorem Tracked.documents {stored : String → Option StoredDocument}
    {documents : List (RawDocument υ)} : ∀ {seen : List (RawDocument υ)} {loop loop' : Loop υ ν},
      Tracked pipeline options before seen loop →
      ((seen ++ documents).map RawDocument.key).Nodup →
      (∀ d ∈ documents, stored d.sourceId = Corpus.existing before d) →
      ingestDocuments pipeline world source options stored documents loop = (loop', none) →
        Tracked pipeline options before (seen ++ documents) loop' ∧
          (loop'.state.errors = [] → loop.state.errors = []) := by
  induction documents with
  | nil =>
      intro seen loop loop' h _ _ hrun
      obtain ⟨rfl, -⟩ := Prod.mk.inj hrun
      rw [List.append_nil]
      exact ⟨h, fun hclean => hclean⟩
  | cons d documents ih =>
      intro seen loop loop' h hnodup hstored hrun
      rw [List.append_cons] at hnodup ⊢
      have hprefix : ((seen ++ [d]).map RawDocument.key).Nodup := by
        rw [List.map_append] at hnodup
        exact (List.nodup_append.1 hnodup).1
      simp only [ingestDocuments] at hrun
      split at hrun
      · cases hrun
      · next loop₁ hstep =>
          obtain ⟨h₁, hclean₁⟩ := h.document hprefix (hstored d List.mem_cons_self) hstep
          obtain ⟨h₂, hclean₂⟩ := ih h₁ hnodup
            (fun d' hd' => hstored d' (List.mem_cons_of_mem d hd')) hrun
          exact ⟨h₂, fun hclean => hclean₁ (hclean₂ hclean)⟩

end Loop

/-! ### The sources -/

section Sources

variable [JsonValue υ] {pipeline : Pipeline υ} {world : World ν} {loaders : Loaders υ}
  {options : IngestOptions}

omit [JsonValue υ] in
theorem pruneSource_of_not_prune {source : SourceName} {ids : List String} {s : RunState υ ν}
    (hprune : options.prune = false) : pruneSource world source options ids s = (s, none) := by
  simp [pruneSource, hprune]

/-- The skip of a document depends on its own row. -/
theorem skips_congr {corpus corpus' : Corpus υ ν} {d : RawDocument υ}
    (hget : Corpus.get corpus d.key = Corpus.get corpus' d.key) :
    Skips pipeline options corpus d ↔ Skips pipeline options corpus' d := by
  have hexisting : Corpus.existing corpus d = Corpus.existing corpus' d := by
    simp only [Corpus.existing, Corpus.storedState]
    exact congrArg _ hget
  rw [Skips, Skips, hexisting]

/-- One source, when it raises nothing. -/
theorem ingestSource_tracked {source : SourceName} {s s' : RunState υ ν}
    (hprune : options.prune = false)
    (hkeys : ∀ documents, (loaders source).load options = .ok documents →
      (documents.map RawDocument.key).Nodup)
    (h : ingestSource pipeline world loaders source options s = (s', none)) :
    ∃ documents, (loaders source).load options = .ok documents ∧
      Tracked pipeline options s.corpus documents ⟨s', [], 0⟩ ∧ (s'.errors = [] → s.errors = []) := by
  simp only [ingestSource] at h
  split at h
  · cases h
  · next documents hload =>
      have hnodup := hkeys documents hload
      have hstored : ∀ d ∈ documents, Corpus.storedState s.corpus source.sourceType d.sourceId =
          Corpus.existing s.corpus d := fun d hd => by
        rw [Corpus.existing, (loaders source).typed options documents hload d hd]
      refine ⟨documents, hload, ?_⟩
      split at h
      · cases h
      · split at h
        · cases h
        · next loop hloop =>
            have hstart : Tracked pipeline options s.corpus []
                ⟨{ s with stats := { documents := documents.length } }, [], 0⟩ := Tracked.start rfl
            obtain ⟨htracked, hclean⟩ := hstart.documents hnodup hstored hloop
            rw [List.nil_append] at htracked
            split at h
            · cases h
            · next s₁ hflush =>
                rw [pruneSource_of_not_prune hprune] at h
                obtain ⟨rfl, -⟩ := Prod.mk.inj h
                split_ifs at hflush with hpending
                · obtain ⟨rfl, -⟩ := Prod.mk.inj hflush
                  have hnil := List.isEmpty_iff.1 hpending
                  refine ⟨⟨List.nil_sublist _, nofun, htracked.kept, ?_⟩, hclean⟩
                  intro hclean' d hd hskip
                  refine Or.inr ((htracked.written hclean' d hd hskip).resolve_left ?_)
                  rw [hnil]
                  exact nofun
                · obtain ⟨hdone, hclean'⟩ := htracked.flush hnodup hflush
                  exact ⟨hdone, fun hc => hclean (hclean' hc)⟩

/-- **The sources of a run.**  Without an error, a document that is to be skipped keeps
its row, and every other is written. -/
theorem ingestSources_written {sources : List SourceName} : ∀ stats : RunStats υ ν,
    sources.Nodup → options.prune = false →
    (∀ source ∈ sources, ∀ documents, (loaders source).load options = .ok documents →
      (documents.map RawDocument.key).Nodup) →
    (ingestSources pipeline world loaders options sources stats).state.errors = [] →
      stats.state.errors = [] ∧
      (∀ source ∈ sources, ∃ documents, (loaders source).load options = .ok documents ∧
        ∀ d ∈ documents,
          (Skips pipeline options stats.state.corpus d →
            Corpus.get (ingestSources pipeline world loaders options sources stats).state.corpus
              d.key = Corpus.get stats.state.corpus d.key) ∧
          (¬ Skips pipeline options stats.state.corpus d → Written pipeline
            (ingestSources pipeline world loaders options sources stats).state.corpus
              (d, pipeline.split d))) ∧
      ∀ key : String × String, (∀ source ∈ sources, key.1 ≠ source.sourceType) →
        Corpus.get (ingestSources pipeline world loaders options sources stats).state.corpus key =
          Corpus.get stats.state.corpus key := by
  induction sources with
  | nil =>
      intro stats _ _ _ hclean
      exact ⟨hclean, nofun, fun _ _ => rfl⟩
  | cons source sources ih =>
      intro stats hnodup hprune hkeys hclean
      obtain ⟨hfresh, hnodup⟩ := List.nodup_cons.1 hnodup
      have hkeys' : ∀ name ∈ sources, ∀ documents, (loaders name).load options = .ok documents →
          (documents.map RawDocument.key).Nodup := fun name hname =>
        hkeys name (List.mem_cons_of_mem _ hname)
      cases hsource : ingestSource pipeline world loaders source options stats.state with
      | mk s raised =>
          cases raised with
          | some e =>
              simp only [ingestSources, hsource] at hclean
              have hrecorded := (ih _ hnodup hprune hkeys' hclean).1
              exact absurd hrecorded (recordError_ne_nil _ _ _ _)
          | none =>
              simp only [ingestSources, hsource] at hclean ⊢
              obtain ⟨hclean₁, hrest, hframe⟩ := ih _ hnodup hprune hkeys' hclean
              obtain ⟨documents, hload, htracked, hclean₀⟩ :=
                ingestSource_tracked hprune (hkeys source List.mem_cons_self) hsource
              have htyped := (loaders source).typed options documents hload
              have hnodup' := hkeys source List.mem_cons_self documents hload
              -- what this source leaves alone: every row of another type
              have hother : ∀ key : String × String, key.1 ≠ source.sourceType →
                  Corpus.get s.corpus key = Corpus.get stats.state.corpus key := fun key hkey =>
                htracked.kept key fun d hd _ he => hkey (by rw [← he]; exact htyped d hd)
              refine ⟨hclean₀ hclean₁, fun name hname => ?_, fun key hkey => ?_⟩
              · rcases List.mem_cons.1 hname with rfl | hname
                · refine ⟨documents, hload, fun d hd => ?_⟩
                  have hlater : ∀ other ∈ sources, d.key.1 ≠ other.sourceType := by
                    intro other hotherMem he
                    have hsame := SourceName.sourceType_injective ((htyped d hd).symm.trans he)
                    exact hfresh (hsame ▸ hotherMem)
                  have hget := hframe d.key hlater
                  refine ⟨fun hskip => hget.trans (htracked.kept d.key ?_), fun hskip => ?_⟩
                  · intro d' hd' hskip' he
                    rw [List.inj_on_of_nodup_map hnodup' hd' hd he] at hskip'
                    exact hskip' hskip
                  · refine Written.of_get ((htracked.written hclean₁ d hd hskip).resolve_left ?_) hget
                    exact nofun
                · obtain ⟨documents', hload', hdocuments⟩ := hrest name hname
                  refine ⟨documents', hload', fun d hd => ?_⟩
                  have hdiffers : d.key.1 ≠ source.sourceType := by
                    intro he
                    have hsame := SourceName.sourceType_injective
                      (((loaders name).typed options documents' hload' d hd).symm.trans he)
                    exact hfresh (hsame ▸ hname)
                  have hsame := hother d.key hdiffers
                  rw [← hsame, skips_congr hsame.symm]
                  exact hdocuments d hd
              · have hrest' := hframe key fun name hname => hkey name (List.mem_cons_of_mem _ hname)
                exact hrest'.trans (hother key (hkey source List.mem_cons_self))

/-! ### A run with nothing to do -/

/-- Nothing was written and no provider called. -/
def Idle (s s' : RunState υ ν) : Prop :=
  s'.corpus = s.corpus ∧ s'.writes = s.writes ∧ s'.calls = s.calls

omit [JsonValue υ] in
theorem Idle.trans {s₁ s₂ s₃ : RunState υ ν} (h : Idle s₁ s₂) (h' : Idle s₂ s₃) : Idle s₁ s₃ :=
  ⟨h'.1.trans h.1, h'.2.1.trans h.2.1, h'.2.2.trans h.2.2⟩

/-- A loop over documents to be skipped. -/
theorem ingestDocuments_idle (world : World ν) (source : SourceName) {before : Corpus υ ν}
    {stored : String → Option StoredDocument} {documents : List (RawDocument υ)} :
    ∀ loop : Loop υ ν, (∀ d ∈ documents, stored d.sourceId = Corpus.existing before d) →
      (∀ d ∈ documents, Skips pipeline options before d) →
      ∃ loop', ingestDocuments pipeline world source options stored documents loop = (loop', none) ∧
        loop'.pending = loop.pending ∧ Idle loop.state loop'.state := by
  induction documents with
  | nil => exact fun _ _ _ => ⟨_, rfl, rfl, rfl, rfl, rfl⟩
  | cons d documents ih =>
      intro loop hstored hskips
      have hstep : ingestDocument pipeline world source options stored d loop =
          (loop.skip, none) := by
        simp only [ingestDocument, hstored d List.mem_cons_self]
        rcases hskips d List.mem_cons_self with h | h | h <;> simp [h]
      obtain ⟨loop', hrun, hpending, hidle⟩ := ih loop.skip
        (fun d' hd' => hstored d' (List.mem_cons_of_mem d hd'))
        (fun d' hd' => hskips d' (List.mem_cons_of_mem d hd'))
      refine ⟨loop', ?_, hpending, hidle⟩
      simp only [ingestDocuments, hstep]
      exact hrun

/-- A source whose documents are all to be skipped. -/
theorem ingestSource_idle (world : World ν) {source : SourceName} {s : RunState υ ν} (hprune : options.prune = false)
    (hskips : ∀ documents, (loaders source).load options = .ok documents →
      ∀ d ∈ documents, Skips pipeline options s.corpus d) :
    Idle s (ingestSource pipeline world loaders source options s).1 := by
  simp only [ingestSource]
  split
  · exact ⟨rfl, rfl, rfl⟩
  · next documents hload =>
      have hstored : ∀ d ∈ documents, Corpus.storedState s.corpus source.sourceType d.sourceId =
          Corpus.existing s.corpus d := fun d hd => by
        rw [Corpus.existing, (loaders source).typed options documents hload d hd]
      split
      · exact ⟨rfl, rfl, rfl⟩
      · obtain ⟨loop, hloop, hpending, hidle⟩ := ingestDocuments_idle world source
          ⟨{ s with stats := { documents := documents.length } }, [], 0⟩ hstored (hskips documents hload)
        simp only [hloop, hpending, List.isEmpty_nil, if_true, pruneSource_of_not_prune hprune]
        exact hidle

/-- A run whose documents are all to be skipped. -/
theorem ingestSources_idle {sources : List SourceName} : ∀ stats : RunStats υ ν,
    options.prune = false →
    (∀ source ∈ sources, ∀ documents, (loaders source).load options = .ok documents →
      ∀ d ∈ documents, Skips pipeline options stats.state.corpus d) →
      Idle stats.state (ingestSources pipeline world loaders options sources stats).state := by
  induction sources with
  | nil => exact fun _ _ _ => ⟨rfl, rfl, rfl⟩
  | cons source sources ih =>
      intro stats hprune hskips
      have hidle := ingestSource_idle world hprune (hskips source List.mem_cons_self)
      cases hsource : ingestSource pipeline world loaders source options stats.state with
      | mk s raised =>
          rw [hsource] at hidle
          have hrest : ∀ name ∈ sources, ∀ documents, (loaders name).load options = .ok documents →
              ∀ d ∈ documents, Skips pipeline options s.corpus d := fun name hname => by
            rw [hidle.1]
            exact hskips name (List.mem_cons_of_mem _ hname)
          cases raised with
          | some e =>
              simp only [ingestSources, hsource]
              exact hidle.trans (ih _ hprune hrest)
          | none =>
              simp only [ingestSources, hsource]
              exact hidle.trans (ih _ hprune hrest)

end Sources

/-! ### A run -/

section Run

variable [JsonValue υ] (pipeline : Pipeline υ) (world : World ν) (loaders : Loaders υ)
  (source : IngestSource) (options : IngestOptions)

/-- The run loads the document. -/
def Loaded (d : RawDocument υ) : Prop :=
  ∃ name ∈ expandSources source, ∃ documents,
    (loaders name).load options = .ok documents ∧ d ∈ documents

/-- A second run, without `force` and over the same loader output, writes nothing. -/
def WritesNothing (corpus : Corpus υ ν) : Prop :=
  ∀ (world : World ν) (options' : IngestOptions), options'.force = false →
    options'.prune = false →
    (∀ name ∈ expandSources source, (loaders name).load options' = (loaders name).load options) →
      let second := (run pipeline world loaders source options' corpus).state
      second.corpus = corpus ∧ second.writes = 0 ∧ second.calls = 0

variable {pipeline world loaders source options} {corpus : Corpus υ ν}

omit [JsonValue υ] in
/-- A run that ended as succeeded has no errors. -/
theorem errors_of_succeeded {stats : RunStats υ ν} (h : stats.status = .succeeded) :
    stats.state.errors = [] := by
  simp only [RunStats.status] at h
  split_ifs at h with _ herrors
  exact not_not.1 (not_or.1 herrors).1

omit [JsonValue υ] in
/-- Documents of one source with distinct ids have distinct keys. -/
theorem nodup_keys {documents : List (RawDocument υ)}
    (h : (documents.map RawDocument.sourceId).Nodup) : (documents.map RawDocument.key).Nodup := by
  refine List.Nodup.of_map Prod.snd ?_
  rwa [List.map_map]

/-- The next run skips what this one skipped or wrote. -/
theorem skips_again {corpus' : Corpus υ ν} {options' : IngestOptions} {d : RawDocument υ}
    (hforce : options'.force = false)
    (hkept : Skips pipeline options corpus d → Corpus.get corpus' d.key = Corpus.get corpus d.key)
    (hwritten : ¬ Skips pipeline options corpus d →
      Written pipeline corpus' (d, pipeline.split d)) :
    Skips pipeline options' corpus' d := by
  by_cases hskip : Skips pipeline options corpus d
  · rcases (skips_congr (hkept hskip)).2 hskip with h | h | h
    · exact Or.inl h
    · refine Or.inr (Or.inl ?_)
      simp only [Pipeline.unchanged, Option.any_eq_true, Bool.and_eq_true] at h ⊢
      obtain ⟨stored, hstored, ⟨-, hchecksum⟩, hcount⟩ := h
      exact ⟨stored, hstored, ⟨by simp [hforce], hchecksum⟩, hcount⟩
    · exact Or.inr (Or.inr h)
  · have hsplit : pipeline.split d ≠ [] := fun h => hskip (Or.inr (Or.inr h))
    exact Or.inr (Or.inl ((hwritten hskip).unchanged hforce hsplit))

/-- **Ingestion converges exactly when nothing stale is skipped.**  Of a run without
pruning over documents with distinct ids that ended as succeeded: what is stored of each
loaded document is what the chunker makes of it, embedded, and the next run writes
nothing, if and only if the documents were up to date as far as they are skipped. -/
theorem ingest_converges_iff (hprune : options.prune = false)
    (hdistinct : ∀ name ∈ expandSources source, ∀ documents,
      (loaders name).load options = .ok documents → (documents.map RawDocument.sourceId).Nodup)
    (hsucceeded : (run pipeline world loaders source options corpus).status = .succeeded) :
    ((∀ d, Loaded loaders source options d →
        Converged pipeline (run pipeline world loaders source options corpus).state.corpus d) ∧
      WritesNothing pipeline loaders source options
        (run pipeline world loaders source options corpus).state.corpus) ↔
      ∀ d, Loaded loaders source options d → UpToDate pipeline options corpus d := by
  have hkeys : ∀ name ∈ expandSources source, ∀ documents,
      (loaders name).load options = .ok documents → (documents.map RawDocument.key).Nodup :=
    fun name hname documents hload => nodup_keys (hdistinct name hname documents hload)
  obtain ⟨-, hdocuments, -⟩ := ingestSources_written ⟨⟨corpus, {}, [], 0, 0⟩, [], 0⟩
    (nodup_expandSources source) hprune hkeys (errors_of_succeeded hsucceeded)
  have hloaded : ∀ d, Loaded loaders source options d →
      (Skips pipeline options corpus d → Corpus.get
        (run pipeline world loaders source options corpus).state.corpus d.key =
          Corpus.get corpus d.key) ∧
      (¬ Skips pipeline options corpus d → Written pipeline
        (run pipeline world loaders source options corpus).state.corpus (d, pipeline.split d)) := by
    rintro d ⟨name, hname, documents, hload, hd⟩
    obtain ⟨documents', hload', hall⟩ := hdocuments name hname
    obtain rfl := Except.ok.inj (hload.symm.trans hload')
    exact hall d hd
  have hsame : ∀ d, Loaded loaders source options d → Skips pipeline options corpus d →
      (Converged pipeline (run pipeline world loaders source options corpus).state.corpus d ↔
        Converged pipeline corpus d) := fun d hd hskip => by
    rw [Converged, Converged, Corpus.chunks, Corpus.chunks, (hloaded d hd).1 hskip]
  constructor
  · rintro ⟨hconverged, -⟩ d hd
    by_cases hskip : Skips pipeline options corpus d
    · exact (skips_iff_upToDate hskip).1 ((hsame d hd hskip).1 (hconverged d hd))
    · have hempty : ¬ d.isEmpty = true := fun h => hskip (Or.inl h)
      have hunchanged : ¬ pipeline.unchanged options (Corpus.existing corpus d) d = true := fun h =>
        hskip (Or.inr (Or.inl h))
      have hsplit : ¬ pipeline.split d = [] := fun h => hskip (Or.inr (Or.inr h))
      exact ⟨fun h => absurd h (not_or.2 ⟨hempty, hsplit⟩), fun _ _ h => absurd h hunchanged⟩
  · intro hupToDate
    refine ⟨fun d hd => ?_, fun world' options' hforce hprune' hload => ?_⟩
    · by_cases hskip : Skips pipeline options corpus d
      · exact (hsame d hd hskip).2 ((skips_iff_upToDate hskip).2 (hupToDate d hd))
      · have hempty : d.isEmpty = false := by
          have hnot : ¬ d.isEmpty = true := fun h => hskip (Or.inl h)
          simpa using hnot
        exact ((hloaded d hd).2 hskip).converged hempty
    · refine ingestSources_idle _ hprune' fun name hname documents hdocs d hd => ?_
      rw [hload name hname] at hdocs
      obtain ⟨hkept, hwritten⟩ := hloaded d ⟨name, hname, documents, hdocs, hd⟩
      exact skips_again hforce hkept hwritten

end Run

/-! ### A page -/

/-- A pipeline that counts characters. -/
def demoPipeline (ragChunkTokens : ℤ) : Pipeline String where
  chunker := .ofSettings String.length ragChunkTokens 0 1
  checksum document := document.sourceId ++ document.text
  flushSize := 40

/-- A world in which every call succeeds. -/
def demoWorld : World ℕ where
  embeddings := hashEmbeddingProvider String.length
  read _ := none
  write _ := none

/-- A page as plain text. -/
def demoWeb (body : String) : Web where
  validateUrl url := .ok url
  fetchPage url := some (url, "text/markdown", body)
  htmlToMarkdown html := ("", html)
  digest url := url

/-- The page is all there is. -/
def demoLoaders (body : String) : Loaders String
  | .url => urlLoader id (demoWeb body)
  | _ => ⟨fun _ => .ok [], fun _ _ h => by obtain rfl := Except.ok.inj h; exact nofun⟩

/-- A request for the page. -/
def demoOptions : IngestOptions := { urls := ["villas"] }

/-- The page, loaded. -/
def demoDocument (body : String) : RawDocument String where
  sourceType := "url"
  sourceId := "villas"
  title := "villas"
  text := body
  lang := .en
  uri := some "villas"
  metadata := [("type", "url"), ("url", "villas"), ("title", "villas"),
    ("contentType", "text/markdown"), ("lang", "en"), ("recordId", "villas")]

/-- The page is ingested into the tables. -/
def demoRun (ragChunkTokens : ℤ) (body : String) (corpus : Corpus String ℕ) :
    RunStats String ℕ :=
  run (demoPipeline ragChunkTokens) demoWorld (demoLoaders body) (.one .url) demoOptions corpus

theorem ingest_converges_iff_demo :
    ((∀ d, Loaded (demoLoaders "For sale.") (.one .url) demoOptions d →
        Converged (demoPipeline 500) (demoRun 500 "For sale." []).state.corpus d) ∧
      WritesNothing (demoPipeline 500) (demoLoaders "For sale.") (.one .url) demoOptions
        (demoRun 500 "For sale." []).state.corpus) ↔
      ∀ d, Loaded (demoLoaders "For sale.") (.one .url) demoOptions d →
        UpToDate (demoPipeline 500) demoOptions ([] : Corpus String ℕ) d := by
  refine ingest_converges_iff rfl ?_ (by decide)
  intro name hname documents hload
  obtain rfl := List.mem_singleton.1 hname
  have hone : (demoLoaders "For sale." .url).load demoOptions = .ok [demoDocument "For sale."] := by
    decide
  obtain rfl := Except.ok.inj (hone.symm.trans hload)
  exact List.nodup_singleton _

/-- A page of two sentences. -/
def demoText : String := "For sale. Two gardens and one pool."

/-- **Skipped documents go stale.**  A page that is nothing but a heading now keeps the
chunk of its old text; and a page that is unchanged keeps the one chunk it was once cut
into, although the budget has become smaller. -/
theorem skipped_documents_go_stale :
    ((demoRun 500 "# Villas" (demoRun 500 "For sale." []).state.corpus).status = .succeeded ∧
      Loaded (demoLoaders "# Villas") (.one .url) demoOptions (demoDocument "# Villas") ∧
      ¬ Converged (demoPipeline 500)
        (demoRun 500 "# Villas" (demoRun 500 "For sale." []).state.corpus).state.corpus
        (demoDocument "# Villas")) ∧
    ((demoRun 32 demoText (demoRun 500 demoText []).state.corpus).status = .succeeded ∧
      Loaded (demoLoaders demoText) (.one .url) demoOptions (demoDocument demoText) ∧
      ¬ Converged (demoPipeline 32)
        (demoRun 32 demoText (demoRun 500 demoText []).state.corpus).state.corpus
        (demoDocument demoText)) := by
  have hstored : (Corpus.chunks
      (demoRun 500 "# Villas" (demoRun 500 "For sale." []).state.corpus).state.corpus
        (demoDocument "# Villas").key).length = 1 := by
    decide +kernel
  have hsplit : ((demoPipeline 500).split (demoDocument "# Villas")).length = 0 := by
    decide +kernel
  have hstored' : (Corpus.chunks
      (demoRun 32 demoText (demoRun 500 demoText []).state.corpus).state.corpus
        (demoDocument demoText).key).length = 1 := by
    decide +kernel
  have hsplit' : ((demoPipeline 32).split (demoDocument demoText)).length = 2 := by
    decide +kernel
  refine ⟨⟨by decide +kernel, ⟨.url, by decide, _, rfl, by decide⟩, fun h => ?_⟩,
    ⟨by decide +kernel, ⟨.url, by decide, _, rfl, by decide⟩, fun h => ?_⟩⟩
  · have hlength := h.length_eq
    rw [hstored, if_neg (by decide), hsplit] at hlength
    exact absurd hlength (by decide)
  · have hlength := h.length_eq
    rw [hstored', if_neg (by decide), hsplit'] at hlength
    exact absurd hlength (by decide)

end Rag
end TopChoice
