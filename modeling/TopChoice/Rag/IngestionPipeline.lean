/-
# The ingestion pipeline

`apps/rag-svc/app/ingestion/pipeline.py` over `app/db/repositories/documents.py` and
`app/providers/embeddings.py`: load, chunk, embed, upsert.  A run takes each source of
its request in turn: a document that is empty, unchanged or without chunks is skipped,
the others are collected, embedded in batches and written one transaction each.

What may fail from call to call is the `World`: the answers of the embedding provider,
the read of the stored state, the write transactions.  A transaction that fails leaves
the tables as they were.  The checksum is a function of the whole document.

Left out: logging, the row of the run itself, and of a document row its id and times.
-/

import Mathlib
import TopChoice.Lib.Paging
import TopChoice.Lib.Table
import TopChoice.Rag.Loaders

namespace TopChoice
namespace Rag

/-! ### Exceptions -/

/-- What a call raises, as far as the pipeline tells it apart. -/
inductive Failure where
  | apiError (raised : Raised)
  /-- `SQLAlchemyError` or `OSError`. -/
  | database (raised : Raised)
  | valueError (message : String)
  deriving DecidableEq, Repr

/-- The text `run` records. -/
def Failure.text : Failure → String
  | .apiError raised => raised.code ++ ": " ++ raised.message
  | .database raised => raised.code ++ ": " ++ raised.message
  | .valueError message => "ValueError: " ++ message

/-! ### Embeddings -/

/-- An embedding provider: one vector for each text, and the tokens used, or a failure;
its answers may differ from call to call. -/
structure EmbeddingProvider (ν : Type) where
  embedDocuments : ℕ → List String → Except Failure (List ν × ℕ)
  parity : ∀ call texts answer, embedDocuments call texts = .ok answer →
    answer.1.length = texts.length

section Providers

variable {ν : Type}

/-- `HashEmbeddingProvider`. -/
def hashEmbeddingProvider (encode : String → ν) : EmbeddingProvider ν where
  embedDocuments _ texts := .ok (texts.map encode, 0)
  parity _ _ _ h := by
    obtain rfl := Except.ok.inj h
    exact List.length_map ..

/-- An item of an embeddings response. -/
structure EmbeddingItem (φ : Type) where
  index : ℤ
  embedding : List φ

variable {φ : Type} (fit : List φ → ν)

/-- `_embed_batch`, on the response to the batch. -/
def embedBatch (response : Except Failure (List (EmbeddingItem φ) × ℕ)) (batch : List String) :
    Except Failure (List ν × ℕ) :=
  response.bind fun (data, tokens) =>
    if data.isEmpty then
      .error (.apiError ⟨"EMBEDDING_BAD_RESPONSE",
        "DashScope embeddings response contained no data"⟩)
    else if data.any (·.embedding.isEmpty) then
      .error (.apiError ⟨"EMBEDDING_BAD_RESPONSE",
        "DashScope embeddings response contained an empty vector"⟩)
    else if data.length ≠ batch.length then
      .error (.apiError ⟨"EMBEDDING_COUNT_MISMATCH", "DashScope returned " ++ toString data.length ++
        " vectors for " ++ toString batch.length ++ " inputs"⟩)
    else .ok ((data.insertionSort fun a b => a.index ≤ b.index).map fun item => fit item.embedding,
      tokens)

/-- The batches in turn, the first of them so-and-so-manieth. -/
def embedBatches (post : ℕ → List String → Except Failure (List (EmbeddingItem φ) × ℕ)) (k : ℕ) :
    List (List String) → Except Failure (List ν × ℕ)
  | [] => .ok ([], 0)
  | batch :: batches => do
      let first ← embedBatch fit (post k batch) batch
      let rest ← embedBatches post (k + 1) batches
      return (first.1 ++ rest.1, first.2 + rest.2)

/-- `_prepare`. -/
def prepare (text : String) : String :=
  if (words text).isEmpty then " " else " ".intercalate (words text)

theorem embedBatch_length {response : Except Failure (List (EmbeddingItem φ) × ℕ)}
    {batch : List String} {answer : List ν × ℕ} (h : embedBatch fit response batch = .ok answer) :
    answer.1.length = batch.length := by
  cases response with
  | error e => cases h
  | ok body =>
      obtain ⟨data, tokens⟩ := body
      simp only [embedBatch, Except.bind] at h
      split_ifs at h with _ _ hlength
      obtain rfl := Except.ok.inj h
      rw [List.length_map, List.length_insertionSort]
      exact not_not.1 hlength

theorem embedBatches_length
    {post : ℕ → List String → Except Failure (List (EmbeddingItem φ) × ℕ)}
    {batches : List (List String)} : ∀ {k : ℕ} {answer : List ν × ℕ},
      embedBatches fit post k batches = .ok answer → answer.1.length = batches.flatten.length := by
  induction batches with
  | nil =>
      intro k answer h
      obtain rfl := Except.ok.inj h
      rfl
  | cons batch batches ih =>
      intro k answer h
      cases hfirst : embedBatch fit (post k batch) batch with
      | error e => simp [embedBatches, hfirst, bind, Except.bind] at h
      | ok first =>
          cases hrest : embedBatches fit post (k + 1) batches with
          | error e => simp [embedBatches, hfirst, hrest, bind, Except.bind] at h
          | ok rest =>
              have hanswer : (first.1 ++ rest.1, first.2 + rest.2) = answer := by
                simpa [embedBatches, hfirst, hrest, bind, Except.bind, pure, Except.pure] using h
              subst hanswer
              simp [embedBatch_length fit hfirst, ih hrest]

/-- `DashScopeEmbeddingProvider`: at most ten texts a request. -/
def dashScopeEmbeddingProvider (batchSize : ℕ)
    (post : ℕ → ℕ → List String → Except Failure (List (EmbeddingItem φ) × ℕ)) :
    EmbeddingProvider ν where
  embedDocuments call texts :=
    let limit := min (max 1 batchSize) 10
    embedBatches fit (post call) 0 ((List.range (Paging.pageCount texts.length limit)).map fun k =>
      Paging.slice (k * limit) limit (texts.map prepare))
  parity call texts answer h := by
    have hlimit : 0 < min (max 1 batchSize) 10 := by omega
    have hpages := Paging.pages_pageCount hlimit (texts.map prepare)
    rw [List.length_map, Paging.pages, List.flatMap_def] at hpages
    rw [embedBatches_length fit h, hpages, List.length_map]

end Providers

/-! ### The tables -/

variable {υ ν : Type}

/-- A row of `rag_chunks`. -/
structure ChunkRow (υ ν : Type) where
  ordinal : ℕ
  content : String
  tokenCount : ℕ
  metadata : Metadata υ
  embedding : Option ν
  deriving DecidableEq, Repr

/-- A row of `rag_documents` with its chunks. -/
structure RagDocument (υ ν : Type) where
  sourceType : String
  sourceId : String
  uri : Option String
  title : String
  lang : Language
  checksum : String
  metadata : Metadata υ
  chunks : List (ChunkRow υ ν)
  deriving DecidableEq, Repr

/-- The natural key of a row. -/
def RagDocument.key (row : RagDocument υ ν) : String × String := (row.sourceType, row.sourceId)

/-- The tables. -/
abbrev Corpus (υ ν : Type) := List (RagDocument υ ν)

/-- `StoredDocument`. -/
structure StoredDocument where
  checksum : String
  chunkCount : ℕ
  deriving DecidableEq, Repr

namespace Corpus

variable (corpus : Corpus υ ν)

/-- `get`. -/
def get (key : String × String) : Option (RagDocument υ ν) :=
  Table.findUnique (fun row => decide (row.key = key)) corpus

/-- `stored_state`, of one source type. -/
def storedState (sourceType sourceId : String) : Option StoredDocument :=
  (Corpus.get corpus (sourceType, sourceId)).map fun row => ⟨row.checksum, row.chunks.length⟩

/-- `upsert_document` and `replace_chunks`. -/
def upsert (row : RagDocument υ ν) : Corpus υ ν :=
  match Corpus.get corpus row.key with
  | some _ => Table.updateOne (fun row' => decide (row'.key = row.key)) (fun _ => row) corpus
  | none => Table.create row corpus

/-- `prune`. -/
def prune (sourceType : String) (keepSourceIds : List String) : Corpus υ ν :=
  Table.deleteMany (fun row => decide (row.sourceType = sourceType ∧ row.sourceId ∉ keepSourceIds))
    corpus

variable {corpus}

/-- A written row is found under its key, and the other rows are found as before. -/
theorem get_upsert (row : RagDocument υ ν) (key : String × String) :
    Corpus.get (Corpus.upsert corpus row) key =
      if key = row.key then some row else Corpus.get corpus key := by
  cases hget : Corpus.get corpus row.key with
  | some old =>
      have hupdate := Table.findUnique_updateOne_key (k := row.key) (j := key) RagDocument.key
        (f := fun _ => row) (fun _ _ => rfl) corpus
      simp only [Corpus.get] at hget
      simp only [Corpus.upsert, Corpus.get, hget]
      rw [hupdate, hget]
      rfl
  | none =>
      simp only [Corpus.upsert, hget]
      simp only [Corpus.get] at hget ⊢
      rw [Table.findUnique_create]
      by_cases hkey : key = row.key
      · subst hkey
        simp [hget]
      · have hkey' : row.key ≠ key := fun h => hkey h.symm
        simp [hkey, hkey']

end Corpus

/-! ### Runs -/

/-- `SourceStats`. -/
structure SourceStats where
  documents : ℕ := 0
  ingested : ℕ := 0
  skipped : ℕ := 0
  failed : ℕ := 0
  pruned : ℕ := 0
  chunks : ℕ := 0
  embedded : ℕ := 0
  tokens : ℕ := 0
  deriving DecidableEq, Repr

/-- An entry of `stats.errors`. -/
structure RecordedError where
  source : String
  document : String
  error : String
  deriving DecidableEq, Repr

/-- `MAX_RECORDED_ERRORS`. -/
def maxRecordedErrors : ℕ := 10

/-- `record_error`. -/
def recordError (errors : List RecordedError) (source document error : String) :
    List RecordedError :=
  if errors.length < maxRecordedErrors then
    errors ++ [⟨source, document, firstChars error 500⟩]
  else errors

/-- An error is recorded, or there are some already. -/
theorem recordError_ne_nil (errors : List RecordedError) (source document error : String) :
    recordError errors source document error ≠ [] := by
  unfold recordError
  split_ifs with hlength
  · simp
  · rintro rfl
    simp [maxRecordedErrors] at hlength

/-- What the pipeline was built with. -/
structure Pipeline (υ : Type) where
  chunker : TokenAwareChunker
  /-- `checksum` of a document. -/
  checksum : RawDocument υ → String
  /-- `_flush_size`. -/
  flushSize : ℕ

/-- What the calls of a run meet: the provider, the read of the stored state of a
source, and the write transactions in their order. -/
structure World (ν : Type) where
  embeddings : EmbeddingProvider ν
  read : SourceName → Option Failure
  write : ℕ → Option Failure

/-- The state of a run: the tables, the counters of the present source, the errors, and
how many calls to the provider and write transactions there were. -/
structure RunState (υ ν : Type) where
  corpus : Corpus υ ν
  stats : SourceStats
  errors : List RecordedError
  calls : ℕ
  writes : ℕ
  deriving DecidableEq, Repr

section Run

variable [JsonValue υ] (pipeline : Pipeline υ) (world : World ν)

/-- The chunks of a document. -/
def Pipeline.split (document : RawDocument υ) : List (Chunk υ) :=
  pipeline.chunker.split document.text document.metadata

/-- The stored document may be kept. -/
def Pipeline.unchanged (options : IngestOptions) (existing : Option StoredDocument)
    (document : RawDocument υ) : Bool :=
  existing.any fun stored => !options.force && stored.checksum = pipeline.checksum document &&
    decide (0 < stored.chunkCount)

/-- The rows of a document. -/
def Pipeline.row (document : RawDocument υ) (chunks : List (Chunk υ)) (vectors : List (Option ν)) :
    RagDocument υ ν where
  sourceType := document.sourceType
  sourceId := document.sourceId
  uri := document.uri
  title := document.title
  lang := document.lang
  checksum := pipeline.checksum document
  metadata := document.metadata
  chunks := chunks.zipWith (fun chunk vector =>
    ⟨chunk.ordinal, chunk.content, chunk.tokenCount, chunk.metadata, vector⟩) vectors

/-- `_persist`. -/
def persist (document : RawDocument υ) (chunks : List (Chunk υ)) (vectors : List (Option ν))
    (s : RunState υ ν) : Except Failure (Corpus υ ν) :=
  if chunks.length ≠ vectors.length then
    .error (.valueError "zip() arguments have different lengths")
  else
    match world.write s.writes with
    | some e => .error e
    | none => .ok (Corpus.upsert s.corpus (pipeline.row document chunks vectors))

/-- A document is counted as failed. -/
def RunState.fail (s : RunState υ ν) (source : SourceName) (document : RawDocument υ)
    (error : String) : RunState υ ν :=
  { s with
    stats := { s.stats with failed := s.stats.failed + 1 }
    errors := recordError s.errors source.text document.describe error }

/-- The documents of a batch are persisted one by one. -/
def persistAll (source : SourceName) :
    List (RawDocument υ × List (Chunk υ)) → List (Option ν) → RunState υ ν →
      RunState υ ν × Option Failure
  | [], _, s => (s, none)
  | (document, chunks) :: batch, vectors, s =>
      let own := vectors.take chunks.length
      let s' := { s with writes := s.writes + 1 }
      match persist pipeline world document chunks own s with
      | .ok corpus => persistAll source batch (vectors.drop chunks.length)
          { s' with
            corpus := corpus
            stats := { s.stats with
              ingested := s.stats.ingested + 1
              chunks := s.stats.chunks + chunks.length
              embedded := s.stats.embedded + own.countP Option.isSome } }
      | .error (.database raised) => persistAll source batch (vectors.drop chunks.length)
          (s'.fail source document (raised.code ++ ": " ++ raised.message))
      | .error e => (s', some e)

/-- The vectors, as many as there are texts. -/
def repairVectors (vectors : List (Option ν)) (count : ℕ) : List (Option ν) :=
  if vectors.length ≠ count then (vectors ++ List.replicate count none).take count else vectors

/-- `_flush`. -/
def flush (source : SourceName) (batch : List (RawDocument υ × List (Chunk υ)))
    (s : RunState υ ν) : RunState υ ν × Option Failure :=
  let texts := batch.flatMap fun item => item.2.map Chunk.content
  let s' := { s with calls := s.calls + 1 }
  match world.embeddings.embedDocuments s.calls texts with
  | .error (.apiError raised) =>
      (batch.foldl (fun s item => s.fail source item.1 raised.message) s', none)
  | .error e => (s', some e)
  | .ok (vectors, tokens) =>
      persistAll pipeline world source batch (repairVectors (vectors.map some) texts.length)
        { s' with stats := { s.stats with tokens := s.stats.tokens + tokens } }

/-- The loop over the documents: the state, and the documents that wait. -/
structure Loop (υ ν : Type) where
  state : RunState υ ν
  pending : List (RawDocument υ × List (Chunk υ))
  pendingChunks : ℕ

/-- A document is skipped. -/
def Loop.skip (loop : Loop υ ν) : Loop υ ν :=
  { loop with state := { loop.state with
      stats := { loop.state.stats with skipped := loop.state.stats.skipped + 1 } } }

/-- One document of the loop. -/
def ingestDocument (source : SourceName) (options : IngestOptions)
    (stored : String → Option StoredDocument) (document : RawDocument υ) (loop : Loop υ ν) :
    Loop υ ν × Option Failure :=
  if document.isEmpty then (loop.skip, none)
  else if pipeline.unchanged options (stored document.sourceId) document then (loop.skip, none)
  else
    let chunks := pipeline.split document
    if chunks.isEmpty then (loop.skip, none)
    else
      let pending := loop.pending ++ [(document, chunks)]
      let pendingChunks := loop.pendingChunks + chunks.length
      if pipeline.flushSize ≤ pendingChunks then
        let flushed := flush pipeline world source pending loop.state
        (⟨flushed.1, [], 0⟩, flushed.2)
      else (⟨loop.state, pending, pendingChunks⟩, none)

/-- The loop. -/
def ingestDocuments (source : SourceName) (options : IngestOptions)
    (stored : String → Option StoredDocument) :
    List (RawDocument υ) → Loop υ ν → Loop υ ν × Option Failure
  | [], loop => (loop, none)
  | document :: documents, loop =>
      match ingestDocument pipeline world source options stored document loop with
      | (loop, some e) => (loop, some e)
      | (loop, none) => ingestDocuments source options stored documents loop

/-- The pruning step. -/
def pruneSource (source : SourceName) (options : IngestOptions) (seenIds : List String)
    (s : RunState υ ν) : RunState υ ν × Option Failure :=
  if options.prune && source.prunable && options.ids.isEmpty && options.limit.getD 0 = 0 then
    match world.write s.writes with
    | some e => ({ s with writes := s.writes + 1 }, some e)
    | none =>
        let corpus := Corpus.prune s.corpus source.sourceType seenIds
        ({ s with
          corpus := corpus
          stats := { s.stats with pruned := s.corpus.length - corpus.length }
          writes := s.writes + 1 }, none)
  else (s, none)

/-- `_ingest_source`. -/
def ingestSource (loaders : Loaders υ) (source : SourceName) (options : IngestOptions)
    (s : RunState υ ν) : RunState υ ν × Option Failure :=
  let s := { s with stats := {} }
  match (loaders source).load options with
  | .error e => (s, some (.apiError e))
  | .ok documents =>
      let s := { s with stats := { documents := documents.length } }
      match world.read source with
      | some e => (s, some e)
      | none =>
          let stored := Corpus.storedState s.corpus source.sourceType
          match ingestDocuments pipeline world source options stored documents ⟨s, [], 0⟩ with
          | (loop, some e) => (loop.state, some e)
          | (loop, none) =>
              match if loop.pending.isEmpty then (loop.state, none)
                else flush pipeline world source loop.pending loop.state with
              | (s, some e) => (s, some e)
              | (s, none) => pruneSource world source options (documents.map (·.sourceId)) s

/-- The outcome of the sources so far. -/
structure RunStats (υ ν : Type) where
  state : RunState υ ν
  sources : List (SourceName × SourceStats)
  succeeded : ℕ

/-- The sources of a run in turn. -/
def ingestSources (loaders : Loaders υ) (options : IngestOptions) :
    List SourceName → RunStats υ ν → RunStats υ ν
  | [], stats => stats
  | source :: sources, stats =>
      let sources' := stats.sources
      match ingestSource pipeline world loaders source options stats.state with
      | (s, none) => ingestSources loaders options sources
          ⟨s, sources' ++ [(source, s.stats)], stats.succeeded + 1⟩
      | (s, some e) => ingestSources loaders options sources
          ⟨{ s with errors := recordError s.errors source.text "-" e.text },
            sources' ++ [(source, s.stats)], stats.succeeded⟩

/-- The status a run ends with. -/
inductive RunStatus where
  | failed
  | partly
  | succeeded
  deriving DecidableEq, Repr

/-- `status` of a run that has ended. -/
def RunStats.status (stats : RunStats υ ν) : RunStatus :=
  if stats.succeeded = 0 then .failed
  else if stats.state.errors ≠ [] ∨ (stats.sources.map fun entry => entry.2.failed).sum ≠ 0 then
    .partly
  else .succeeded

/-- `run`, on the tables as they are. -/
def run (loaders : Loaders υ) (source : IngestSource) (options : IngestOptions)
    (corpus : Corpus υ ν) : RunStats υ ν :=
  ingestSources pipeline world loaders options (expandSources source)
    ⟨⟨corpus, {}, [], 0, 0⟩, [], 0⟩

end Run

end Rag
end TopChoice
