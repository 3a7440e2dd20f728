/-
# Hybrid search

`HybridSearcher.search` of `apps/rag-svc/app/retrieval/hybrid_search.py`: the rows of a vector
and a text statement, both under the filters, fused into one ranking, reranked and cut.  A
branch whose provider or statement fails answers no rows, and a reranker that fails leaves the
order as it is.

Whatever the reranker replies, a chunk of the result is a row that the filters admit
(`search_sound`).  Where the order is left as it is the result is the best of the ranking, and
a branch that is down leaves the other's order (`search_best`).

The embedding provider, the statements and the reranker are parameters.  Times and the log are
left out; scores other than the fused ones are of any type, with what the search does with them
(`Scores`).
-/

import TopChoice.Lib.Shortlist
import TopChoice.Rag.FilterSql
import TopChoice.Rag.Fusion
import TopChoice.Rag.Rerank

namespace TopChoice
namespace Rag
namespace Hybrid

open Fusion Shortlist

/-! ### Rows and chunks -/

/-- A row of `rag_chunks` with the columns of its document that the statements select. -/
structure ChunkRow where
  chunkId : String
  documentId : String
  content : String
  ordinal : ℤ
  tokenCount : ℤ
  sourceId : String
  title : String
  uri : Option String
  /-- The metadata, and the source type and the language of the document. -/
  searched : SearchRow

/-- What the search does with scores; `Fusion` has those of the fusion as rational numbers. -/
structure Scores (φ : Type) where
  /-- `0.0`. -/
  zero : φ
  /-- A score that is not zero. -/
  isTruthy : φ → Bool
  /-- A fused score, as a `float`. -/
  ofFused : ℚ → φ
  /-- `score >= rag_min_score`. -/
  atLeastMin : φ → Bool
  atLeastMin_mono : ∀ a b : ℚ, a ≤ b → atLeastMin (ofFused a) = true →
    atLeastMin (ofFused b) = true

/-- `RetrievedChunk` with all its fields; `row` has those that nothing changes. -/
structure Hit (φ : Type) extends RetrievedChunk φ where
  row : ChunkRow
  vectorScore : Option φ := none
  textScore : Option φ := none
  fusionScore : Option ℚ := none
  vectorRank : Option ℕ := none
  textRank : Option ℕ := none

/-- `_as_dict`; a text is read by `orjson.loads`. -/
def asDict (loads : String → Option Jsonb) : Jsonb → List (String × Jsonb)
  | .object entries => entries
  | .string text =>
      match loads text with
      | some (.object entries) => entries
      | _ => []
  | _ => []

/-- The columns of a row as `_row_to_chunk` reads them. -/
def ChunkRow.read (loads : String → Option Jsonb) (row : ChunkRow) : ChunkRow :=
  { row with
    searched :=
      { metadata := .object (asDict loads row.searched.metadata)
        sourceType := if row.searched.sourceType = "" then "unknown" else row.searched.sourceType
        lang := if row.searched.lang = "" then "en" else row.searched.lang } }

/-- Why a call of a provider or a statement fails: with an error that the search expects (an
`ApiError`; a `SQLAlchemyError` or an `OSError`), or with any other. -/
inductive Failure where
  | expected (message : String)
  | raised (e : Raised)

/-- `RAG_*`. -/
structure Settings where
  topK : ℤ := 20
  rerankTopN : ℤ := 6
  rrfK : ℤ := 60
  weightVector : ℚ := 1
  weightText : ℚ := 1
  rerankCandidates : ℤ := 40

/-- What a search calls. -/
structure Engine (φ V : Type) where
  unicode : Unicode
  catalogue : List Area
  loads : String → Option Jsonb
  scores : Scores φ
  embedQuery : String → Except Failure V
  /-- The rows of `_VECTOR_SQL`, with their scores. -/
  vectorSql : FilterSql → V → ℤ → Except Failure (List (ChunkRow × Option φ))
  /-- The rows of `_TEXT_SQL`, with their scores. -/
  textSql : FilterSql → String → ℤ → Except Failure (List (ChunkRow × Option φ))
  rerank : String → List String → ℤ → Except Failure (List (RerankResult φ))
  embeddingsAvailable : Bool
  rerankAvailable : Bool

/-- The options of `search`. -/
structure SearchOptions where
  topK : Option ℤ := none
  topN : Option ℤ := none
  filters : Option Constraints := none
  parseFilters : Bool := true
  rerank : Bool := true

/-- `RetrievalResult`. -/
structure RetrievalResult (φ : Type) where
  chunks : List (Hit φ) := []
  filters : Constraints := {}
  vectorCandidates : ℕ := 0
  textCandidates : ℕ := 0
  fusedCandidates : ℕ := 0
  reranked : Bool := false
  degraded : Bool := false

section Search

variable {φ V : Type} (e : Engine φ V) (settings : Settings)

/-! ### Branches -/

/-- `_row_to_chunk`. -/
def rowToChunk (vectorScore textScore : Option φ) (row : ChunkRow) : Hit φ where
  chunkId := row.chunkId
  score := e.scores.zero
  rerankScore := none
  row := row.read e.loads
  vectorScore := vectorScore
  textScore := textScore

/-- `except ...: return []`. -/
def skipping {α : Type} : Except Failure (List α) → Except Raised (List α)
  | .ok rows => .ok rows
  | .error (.expected _) => .ok []
  | .error (.raised e) => .error e

/-- `_vector_search`. -/
def vectorSearch (query : String) (limit : ℤ) (sql : FilterSql) : Except Raised (List (Hit φ)) := do
  let rows ← skipping (e.embedQuery query >>= fun vector => e.vectorSql sql vector limit)
  return rows.map fun (row, score) => rowToChunk e (some (score.getD e.scores.zero)) none row

/-- `_text_search`. -/
def textSearch (query : String) (limit : ℤ) (sql : FilterSql) : Except Raised (List (Hit φ)) := do
  let rows ← skipping (e.textSql sql query limit)
  return rows.map fun (row, score) => rowToChunk e none (some (score.getD e.scores.zero)) row

/-! ### Fusion -/

/-- `a or b`, of scores. -/
def scoreOr (a b : Option φ) : Option φ := (a.filter e.scores.isTruthy).or b

/-- One pass of the loop that fills `by_id`. -/
def remember (byId : AList fun _ : String => Hit φ) (chunk : Hit φ) :
    AList fun _ : String => Hit φ :=
  match byId.lookup chunk.chunkId with
  | none => byId.insert chunk.chunkId chunk
  | some existing =>
      byId.insert chunk.chunkId
        { existing with
          vectorScore := scoreOr e existing.vectorScore chunk.vectorScore
          textScore := scoreOr e existing.textScore chunk.textScore }

/-- `rank_positions`, of an id. -/
def rankPosition (ranking : List String) (id : String) : Option ℕ :=
  if id ∈ ranking then some (ranking.idxOf id + 1) else none

/-- The ids of chunks. -/
def ids (chunks : List (Hit φ)) : List String := chunks.map fun chunk => chunk.chunkId

/-- A chunk as it stands in the fused ranking. -/
def ranked (vectorIds textIds : List String) (item : String × ℚ) (found : Hit φ) : Hit φ :=
  { found with
    fusionScore := some item.2
    score := e.scores.ofFused item.2
    vectorRank := rankPosition vectorIds item.1
    textRank := rankPosition textIds item.1 }

/-- `_fuse`. -/
def fuse (vectorRows textRows : List (Hit φ)) : Except Raised (List (Hit φ)) := do
  let byId := (vectorRows ++ textRows).foldl (remember e) ∅
  let fused ← (reciprocalRankFusion [ids vectorRows, ids textRows] settings.rrfK
    (some [settings.weightVector, settings.weightText])).mapError (⟨"ValueError", ·⟩)
  return fused.filterMap fun item =>
    (byId.lookup item.1).map (ranked e (ids vectorRows) (ids textRows) item)

/-! ### Reranking -/

/-- `_rerank_document`. -/
def rerankDocument (chunk : Hit φ) : String :=
  let title := strip chunk.row.title
  let content := strip chunk.row.content
  if title ≠ "" ∧ ¬title.toList <+: content.toList then title ++ "\n" ++ content else content

/-- The chunks with the scores they have got. -/
def rescored (candidates : List (Hit φ)) (chunks : List (RetrievedChunk φ)) : List (Hit φ) :=
  chunks.filterMap fun chunk =>
    (candidates.find? fun c => c.chunkId = chunk.chunkId).map fun c =>
      { c with toRetrievedChunk := chunk }

/-- `_rerank`. -/
def rerankHits (query : String) (candidates : List (Hit φ)) (topN : ℤ) :
    Except Raised (List (Hit φ)) :=
  match e.rerank query (candidates.map rerankDocument) topN with
  | .ok results => .ok (rescored candidates (rerank (candidates.map (·.toRetrievedChunk)) results))
  | .error (.expected _) => .ok candidates
  | .error (.raised e) => .error e

/-! ### The search -/

/-- `max(1, given or setting)`. -/
def atLeastOne (given : Option ℤ) (setting : ℤ) : ℤ := max 1 ((given.filter (· ≠ 0)).getD setting)

/-- The filters that a search is under. -/
def effectiveFilters (query : String) (options : SearchOptions) : Except Raised Constraints := do
  let parsed ← if options.parseFilters then
      QueryFilters.constraints <$> parseQueryFilters e.unicode e.catalogue query
    else pure {}
  return parsed.merge options.filters

/-- The chunks of a result: `shortlist[:effective_n]`, with a score that is high enough. -/
def selected (options : SearchOptions) (ordered : List (Hit φ)) : List (Hit φ) :=
  shortlist (atLeastOne options.topN settings.rerankTopN).toNat
    (fun chunk => e.scores.atLeastMin chunk.score) ordered

/-- What becomes of the rows of the branches. -/
def answer (query : String) (options : SearchOptions) (filters : Constraints)
    (vectorRows textRows : List (Hit φ)) : Except Raised (RetrievalResult φ) := do
  let topN := atLeastOne options.topN settings.rerankTopN
  let candidates ← fuse e settings vectorRows textRows
  let shortlisted := candidates.take (max topN settings.rerankCandidates).toNat
  let reranks := options.rerank && !shortlisted.isEmpty
  let ordered ← if reranks then rerankHits e query shortlisted topN else pure shortlisted
  return {
    chunks := selected e settings options ordered
    filters := filters
    vectorCandidates := vectorRows.length
    textCandidates := textRows.length
    fusedCandidates := candidates.length
    reranked := reranks
    degraded := !(e.embeddingsAvailable && e.rerankAvailable) }

/-- The filters and the rows of the two branches; where both raise, the exception of one comes
out. -/
def branches (query : String) (options : SearchOptions) :
    Except Raised (Constraints × List (Hit φ) × List (Hit φ)) := do
  let topK := atLeastOne options.topK settings.topK
  let filters ← effectiveFilters e query options
  let sql ← buildFilterSql e.unicode filters
  let vectorRows ← vectorSearch e query topK sql
  let textRows ← textSearch e query topK sql
  return (filters, vectorRows, textRows)

/-- `" ".join(query.split())`. -/
def cleaned (query : String) : String := " ".intercalate (words query)

/-- `search`. -/
def search (query : String) (options : SearchOptions) : Except Raised (RetrievalResult φ) := do
  if cleaned query = "" then return { filters := options.filters.getD {} }
  else
    let (filters, vectorRows, textRows) ← branches e settings (cleaned query) options
    if vectorRows.isEmpty && textRows.isEmpty then return { filters := filters }
    else answer e settings (cleaned query) options filters vectorRows textRows

/-! ### The rows of a branch -/

variable {e : Engine φ V} {settings : Settings} {pg : Postgres} {stored : ChunkRow → Prop}

/-- What the statements answer: rows of the database that the filters admit, no chunk twice. -/
structure Engine.Answers (pg : Postgres) (stored : ChunkRow → Prop) (e : Engine φ V) : Prop where
  vector : ∀ sql vector limit rows, e.vectorSql sql vector limit = .ok rows →
    (rows.map fun r => r.1.chunkId).Nodup ∧
      ∀ r ∈ rows, stored r.1 ∧ pg.admits sql r.1.searched
  text : ∀ sql query limit rows, e.textSql sql query limit = .ok rows →
    (rows.map fun r => r.1.chunkId).Nodup ∧
      ∀ r ∈ rows, stored r.1 ∧ pg.admits sql r.1.searched

/-- A chunk that shows a row. -/
def Hit.Shows (e : Engine φ V) (hit : Hit φ) (row : ChunkRow) : Prop :=
  hit.chunkId = row.chunkId ∧ hit.row = row.read e.loads

/-- The chunks of a branch: distinct rows of the database that a condition admits. -/
def Branch (pg : Postgres) (stored : ChunkRow → Prop) (e : Engine φ V) (sql : FilterSql)
    (chunks : List (Hit φ)) : Prop :=
  (ids chunks).Nodup ∧
    ∀ chunk ∈ chunks, ∃ row, chunk.Shows e row ∧ stored row ∧ pg.admits sql row.searched

theorem skipping_eq_ok {α : Type} {x : Except Failure (List α)} {rows : List α}
    (h : skipping x = .ok rows) : x = .ok rows ∨ rows = [] := by
  match x, h with
  | .ok _, h => exact .inl (congrArg Except.ok (Except.ok.inj h))
  | .error (.expected _), h => exact .inr (Except.ok.inj h).symm

theorem branch_nil (sql : FilterSql) : Branch pg stored e sql [] :=
  ⟨List.nodup_nil, fun _ h => absurd h List.not_mem_nil⟩

theorem branch_map {sql : FilterSql} {rows : List (ChunkRow × Option φ)}
    {chunk : ChunkRow × Option φ → Hit φ} (hchunk : ∀ r, (chunk r).Shows e r.1)
    (h : (rows.map fun r => r.1.chunkId).Nodup ∧
      ∀ r ∈ rows, stored r.1 ∧ pg.admits sql r.1.searched) :
    Branch pg stored e sql (rows.map chunk) := by
  constructor
  · have hids : ids (rows.map chunk) = rows.map fun r => r.1.chunkId := by
      rw [ids, List.map_map]
      exact List.map_congr_left fun r _ => (hchunk r).1
    rw [hids]
    exact h.1
  · intro hit hhit
    obtain ⟨r, hr, rfl⟩ := List.mem_map.1 hhit
    exact ⟨r.1, hchunk r, h.2 r hr⟩

theorem branch_vectorSearch (hanswers : e.Answers pg stored) {query : String} {limit : ℤ}
    {sql : FilterSql} {chunks : List (Hit φ)} (h : vectorSearch e query limit sql = .ok chunks) :
    Branch pg stored e sql chunks := by
  obtain ⟨rows, hrows, hchunks⟩ := Fallible.bind_eq_ok.1 h
  obtain rfl := Except.ok.inj hchunks
  rcases skipping_eq_ok hrows with hrows | rfl
  · obtain ⟨vector, -, hrows⟩ := Fallible.bind_eq_ok.1 hrows
    exact branch_map (fun _ => ⟨rfl, rfl⟩) (hanswers.vector _ _ _ _ hrows)
  · exact branch_nil sql

theorem branch_textSearch (hanswers : e.Answers pg stored) {query : String} {limit : ℤ}
    {sql : FilterSql} {chunks : List (Hit φ)} (h : textSearch e query limit sql = .ok chunks) :
    Branch pg stored e sql chunks := by
  obtain ⟨rows, hrows, hchunks⟩ := Fallible.bind_eq_ok.1 h
  obtain rfl := Except.ok.inj hchunks
  rcases skipping_eq_ok hrows with hrows | rfl
  · exact branch_map (fun _ => ⟨rfl, rfl⟩) (hanswers.text _ _ _ _ hrows)
  · exact branch_nil sql

/-! ### The fused ranking -/

/-- What the dictionary of the chunks holds after some of them. -/
structure Remembers (chunks : List (Hit φ)) (byId : AList fun _ : String => Hit φ) : Prop where
  found : ∀ id hit, byId.lookup id = some hit →
    hit.chunkId = id ∧ ∃ c ∈ chunks, c.chunkId = id ∧ hit.row = c.row
  complete : ∀ c ∈ chunks, ∃ hit, byId.lookup c.chunkId = some hit

theorem Remembers.remember {chunks : List (Hit φ)} {byId : AList fun _ : String => Hit φ}
    (h : Remembers chunks byId) (chunk : Hit φ) :
    Remembers (chunks ++ [chunk]) (remember e byId chunk) := by
  -- either way the entry of the id is written, with the row it had or that of the chunk
  have hwrite (hit : Hit φ) (hid : hit.chunkId = chunk.chunkId)
      (hrow : ∃ c ∈ chunks ++ [chunk], c.chunkId = chunk.chunkId ∧ hit.row = c.row) :
      Remembers (chunks ++ [chunk]) (byId.insert chunk.chunkId hit) := by
    constructor
    · intro id other hother
      by_cases heq : id = chunk.chunkId
      · subst heq
        rw [AList.lookup_insert] at hother
        obtain rfl := Option.some.inj hother
        exact ⟨hid, hrow⟩
      · rw [AList.lookup_insert_ne heq] at hother
        obtain ⟨hsame, c, hc, hcid, hcrow⟩ := h.found id other hother
        exact ⟨hsame, c, List.mem_append_left _ hc, hcid, hcrow⟩
    · intro c hc
      by_cases heq : c.chunkId = chunk.chunkId
      · exact ⟨hit, by rw [heq, AList.lookup_insert]⟩
      · rcases List.mem_append.1 hc with hc | hc
        · rw [AList.lookup_insert_ne heq]
          exact h.complete c hc
        · exact absurd (congrArg (fun c : Hit φ => c.chunkId) (List.mem_singleton.1 hc)) heq
  rw [Hybrid.remember]
  cases hlookup : byId.lookup chunk.chunkId with
  | none => exact hwrite chunk rfl ⟨chunk, by simp, rfl, rfl⟩
  | some existing =>
    obtain ⟨hid, c, hc, hcid, hcrow⟩ := h.found _ _ hlookup
    exact hwrite _ hid ⟨c, List.mem_append_left _ hc, hcid, hcrow⟩

theorem remembers_foldl (e : Engine φ V) (chunks : List (Hit φ)) :
    Remembers chunks (chunks.foldl (remember e) ∅) := by
  induction chunks using List.reverseRecOn with
  | nil => exact ⟨fun _ _ h => by simp at h, fun _ h => absurd h List.not_mem_nil⟩
  | append_singleton chunks chunk ih =>
    rw [List.foldl_append]
    exact ih.remember chunk

/-- An id with its score. -/
def fusedItem (settings : Settings) (vectorRows textRows : List (Hit φ)) (id : String) :
    String × ℚ :=
  (id, fusedScore (max 1 settings.rrfK)
    ([ids vectorRows, ids textRows].zip [settings.weightVector, settings.weightText]) id)

/-- The order of two chunks in the fused ranking. -/
def Before (settings : Settings) (vectorRows textRows : List (Hit φ)) (a b : Hit φ) : Prop :=
  Precedes [ids vectorRows, ids textRows] (fusedItem settings vectorRows textRows a.chunkId)
    (fusedItem settings vectorRows textRows b.chunkId)

/-- **What the fusion makes of two branches**: each of their chunks once, by its score. -/
structure Fused (e : Engine φ V) (settings : Settings) (vectorRows textRows fused : List (Hit φ)) :
    Prop where
  nodup : (ids fused).Nodup
  mem_ids : ∀ id, id ∈ ids fused ↔ id ∈ ids vectorRows ∨ id ∈ ids textRows
  rows : ∀ hit ∈ fused, ∃ c ∈ vectorRows ++ textRows, c.chunkId = hit.chunkId ∧ hit.row = c.row
  score : ∀ hit ∈ fused,
    hit.score = e.scores.ofFused (fusedItem settings vectorRows textRows hit.chunkId).2
  ordered : fused.Pairwise (Before settings vectorRows textRows)

theorem reciprocalRankFusion_items (rankings : List (List String)) (weights : List ℚ) (k : ℤ)
    (hlength : weights.length = rankings.length) :
    ∃ fused, reciprocalRankFusion rankings k (some weights) = .ok fused ∧
      (fused.map Prod.fst).Nodup ∧
      (∀ item, item ∈ fused ↔ (∃ ranking ∈ rankings, item.1 ∈ ranking) ∧
        item.2 = fusedScore (max 1 k) (rankings.zip weights) item.1) ∧
      fused.Pairwise (Precedes rankings) := by
  obtain ⟨t, ht, hfused⟩ := reciprocalRankFusion_eq k hlength
  have hperm := Grouping.perm_sortBy (sortKey t) t.items
  have hitems : (t.items.map Prod.fst).Nodup := by
    rw [Tally.items, List.map_map]
    exact t.scores.keys_nodup
  refine ⟨_, hfused, (hperm.map Prod.fst).nodup_iff.2 hitems, fun item => ?_,
    ht.pairwise_sortBy hlength hitems⟩
  rw [hperm.mem_iff, ht.mem_items, sum_allCredits, appearances_allCredits hlength,
    List.mem_eraseDups, List.mem_flatten]

theorem exists_fused (e : Engine φ V) (settings : Settings) (vectorRows textRows : List (Hit φ)) :
    ∃ fused, fuse e settings vectorRows textRows = .ok fused ∧
      Fused e settings vectorRows textRows fused := by
  obtain ⟨items, hitems, hnodup, hmem, hordered⟩ := reciprocalRankFusion_items
    [ids vectorRows, ids textRows] [settings.weightVector, settings.weightText] settings.rrfK rfl
  have hremembers := remembers_foldl e (vectorRows ++ textRows)
  set byId := (vectorRows ++ textRows).foldl (remember e) ∅ with hbyId
  set place := fun item : String × ℚ =>
    (byId.lookup item.1).map (ranked e (ids vectorRows) (ids textRows) item) with hplace
  have hranked (id : String) : (∃ ranking ∈ [ids vectorRows, ids textRows], id ∈ ranking) ↔
      id ∈ ids vectorRows ∨ id ∈ ids textRows := by simp
  -- every id of the ranking is that of a chunk that is remembered
  have hfound : ∀ item ∈ items, (place item).map (fun hit => hit.chunkId) = some item.1 := by
    intro item hitem
    have hin := (hranked item.1).1 ((hmem item).1 hitem).1
    rw [ids, ids, ← List.mem_append, ← List.map_append] at hin
    obtain ⟨c, hc, hid⟩ := List.mem_map.1 hin
    obtain ⟨hit, hhit⟩ := hremembers.complete c hc
    rw [hid] at hhit
    simp only [hplace, hhit, Option.map_some, ranked, (hremembers.found _ _ hhit).1]
  have hids : ids (items.filterMap place) = items.map Prod.fst := by
    rw [ids, List.map_filterMap, List.filterMap_congr hfound]
    exact congrFun List.filterMap_eq_map items
  have hall :
      items = (ids (items.filterMap place)).map (fusedItem settings vectorRows textRows) := by
    rw [hids, List.map_map]
    refine (List.map_id items).symm.trans (List.map_congr_left fun item hitem => ?_)
    exact Prod.ext rfl ((hmem item).1 hitem).2
  have hplaced : ∀ hit ∈ items.filterMap place, ∃ item ∈ items, ∃ found,
      byId.lookup item.1 = some found ∧
        ranked e (ids vectorRows) (ids textRows) item found = hit := by
    intro hit hhit
    obtain ⟨item, hitem, hhit⟩ := List.mem_filterMap.1 hhit
    exact ⟨item, hitem, Option.map_eq_some_iff.1 hhit⟩
  refine ⟨items.filterMap place, ?_, ?_, fun id => ?_, fun hit hhit => ?_, fun hit hhit => ?_, ?_⟩
  · rw [fuse, hitems]
    rfl
  · rw [hids]
    exact hnodup
  · rw [hids, ← hranked, List.mem_map]
    constructor
    · rintro ⟨item, hitem, rfl⟩
      exact ((hmem item).1 hitem).1
    · exact fun hin =>
        ⟨fusedItem settings vectorRows textRows id, (hmem _).2 ⟨hin, rfl⟩, rfl⟩
  · obtain ⟨item, hitem, found, hlookup, rfl⟩ := hplaced hit hhit
    obtain ⟨hid, c, hc, hcid, hrow⟩ := hremembers.found _ _ hlookup
    exact ⟨c, hc, hcid.trans hid.symm, hrow⟩
  · obtain ⟨item, hitem, found, hlookup, rfl⟩ := hplaced hit hhit
    rw [ranked, fusedItem, (hremembers.found _ _ hlookup).1, ((hmem item).1 hitem).2]
  · rw [hall, List.pairwise_map] at hordered
    exact (List.pairwise_map (f := fun chunk : Hit φ => chunk.chunkId)).1 hordered

/-- The chunks of a list have the ids and the rows of candidates. -/
def From (candidates chunks : List (Hit φ)) : Prop :=
  ∀ hit ∈ chunks, ∃ c ∈ candidates, c.chunkId = hit.chunkId ∧ hit.row = c.row

theorem from_rescored (candidates : List (Hit φ)) (chunks : List (RetrievedChunk φ)) :
    From candidates (rescored candidates chunks) := by
  intro hit hhit
  obtain ⟨chunk, -, hhit⟩ := List.mem_filterMap.1 hhit
  obtain ⟨c, hc, rfl⟩ := Option.map_eq_some_iff.1 hhit
  exact ⟨c, List.mem_of_find?_eq_some hc, by simpa using List.find?_some hc, rfl⟩

theorem ids_rescored_sublist (candidates : List (Hit φ)) (chunks : List (RetrievedChunk φ)) :
    (ids (rescored candidates chunks)).Sublist (chunks.map RetrievedChunk.chunkId) := by
  induction chunks with
  | nil => exact .slnil
  | cons chunk chunks ih =>
    cases hfind : candidates.find? fun c => c.chunkId = chunk.chunkId with
    | none =>
      rw [rescored, List.filterMap_cons_none (by rw [hfind]; rfl)]
      exact .cons _ ih
    | some c =>
      rw [rescored, List.filterMap_cons_some (by rw [hfind]; rfl)]
      exact .cons_cons _ ih

/-- The replies of the reranker name no place twice. -/
def Engine.NamesOnce (e : Engine φ V) : Prop :=
  ∀ query documents topN results, e.rerank query documents topN = .ok results →
    (results.filterMap (RerankResult.place documents.length)).Nodup

/-- **A reranked list has the rows of the candidates**, each once if the reply names no place
twice. -/
theorem rerankHits_spec {query : String} {candidates hits : List (Hit φ)} {topN : ℤ}
    (h : rerankHits e query candidates topN = .ok hits) :
    From candidates hits ∧ (e.NamesOnce → (ids candidates).Nodup → (ids hits).Nodup) := by
  rw [rerankHits] at h
  cases hreply : e.rerank query (candidates.map rerankDocument) topN with
  | error failure =>
    cases failure with
    | expected message =>
      rw [hreply] at h
      obtain rfl := Except.ok.inj h
      exact ⟨fun hit hhit => ⟨hit, hhit, rfl, rfl⟩, fun _ hnodup => hnodup⟩
    | raised raised =>
      rw [hreply] at h
      cases h
  | ok results =>
    rw [hreply] at h
    obtain rfl := Except.ok.inj h
    refine ⟨from_rescored _ _, fun honce hnodup => (ids_rescored_sublist _ _).nodup ?_⟩
    have hplaces := honce _ _ _ _ hreply
    have hlength : (candidates.map (·.toRetrievedChunk)).length = candidates.length :=
      List.length_map _
    rw [List.length_map, ← hlength] at hplaces
    refine (ids_rerank_iff ?_ results).2.2 hplaces
    rw [List.map_map]
    exact hnodup

/-! ### The result -/

/-- The filters of a search admit a row. -/
def Admitted (pg : Postgres) (e : Engine φ V) (query : String) (options : SearchOptions)
    (row : SearchRow) : Prop :=
  ∃ filters, effectiveFilters e query options = .ok filters ∧
    ∃ sql, buildFilterSql e.unicode filters = .ok sql ∧ pg.admits sql row

/-- What the branches answer. -/
theorem of_branches (hanswers : e.Answers pg stored) {query : String} {options : SearchOptions}
    {filters : Constraints} {vectorRows textRows : List (Hit φ)}
    (h : branches e settings query options = .ok (filters, vectorRows, textRows)) :
    effectiveFilters e query options = .ok filters ∧
      ∃ sql, buildFilterSql e.unicode filters = .ok sql ∧
        Branch pg stored e sql vectorRows ∧ Branch pg stored e sql textRows := by
  obtain ⟨filters, hfilters, h⟩ := Fallible.bind_eq_ok.1 h
  obtain ⟨sql, hsql, h⟩ := Fallible.bind_eq_ok.1 h
  obtain ⟨vectorRows, hvector, h⟩ := Fallible.bind_eq_ok.1 h
  obtain ⟨textRows, htext, h⟩ := Fallible.bind_eq_ok.1 h
  cases h
  exact ⟨hfilters, sql, hsql, branch_vectorSearch hanswers hvector,
    branch_textSearch hanswers htext⟩

/-- The chunks of a result are the shortlist of what is left of the ranking, reranked or not. -/
theorem of_answer {query : String} {options : SearchOptions} {filters : Constraints}
    {vectorRows textRows : List (Hit φ)} {result : RetrievalResult φ}
    (h : answer e settings query options filters vectorRows textRows = .ok result) :
    ∃ fused ordered, Fused e settings vectorRows textRows fused ∧
      result.chunks = selected e settings options ordered ∧
      ∃ m, (atLeastOne options.topN settings.rerankTopN).toNat ≤ m ∧
        (ordered = fused.take m ∨ options.rerank = true ∧
          rerankHits e query (fused.take m) (atLeastOne options.topN settings.rerankTopN) =
            .ok ordered) := by
  obtain ⟨fused, hfuse, hfused⟩ := exists_fused e settings vectorRows textRows
  unfold answer at h
  rw [hfuse] at h
  obtain ⟨_, hsame, h⟩ := Fallible.bind_eq_ok.1 h
  obtain rfl := Except.ok.inj hsame
  have hle := Int.toNat_le_toNat
    (le_max_left (atLeastOne options.topN settings.rerankTopN) settings.rerankCandidates)
  dsimp only at h
  split_ifs at h with hreranks
  · obtain ⟨ordered, hordered, h⟩ := Fallible.bind_eq_ok.1 h
    obtain rfl := Except.ok.inj h
    exact ⟨fused, ordered, hfused, rfl, _, hle,
      .inr ⟨(Bool.and_eq_true_iff.1 hreranks).1, hordered⟩⟩
  · obtain ⟨ordered, hordered, h⟩ := Fallible.bind_eq_ok.1 h
    obtain rfl := Except.ok.inj h
    exact ⟨fused, ordered, hfused, rfl, _, hle, .inl (Except.ok.inj hordered).symm⟩

/-- A search that answers chunks has got them from its branches. -/
theorem of_search {query : String} {options : SearchOptions} {result : RetrievalResult φ}
    (h : search e settings query options = .ok result) (hcleaned : cleaned query ≠ "") :
    ∃ filters vectorRows textRows,
      branches e settings (cleaned query) options = .ok (filters, vectorRows, textRows) ∧
        (vectorRows = [] ∧ textRows = [] ∧ result.chunks = [] ∨
          answer e settings (cleaned query) options filters vectorRows textRows = .ok result) := by
  rw [search, if_neg hcleaned] at h
  obtain ⟨⟨filters, vectorRows, textRows⟩, hbranches, h⟩ := Fallible.bind_eq_ok.1 h
  refine ⟨filters, vectorRows, textRows, hbranches, ?_⟩
  dsimp only at h
  split_ifs at h with hempty
  · obtain rfl := Except.ok.inj h
    rw [Bool.and_eq_true, List.isEmpty_iff, List.isEmpty_iff] at hempty
    exact .inl ⟨hempty.1, hempty.2, rfl⟩
  · exact .inr h

/-- **Whatever the reranker replies**, the chunks of a result are rows of the database that the
filters admit, with a score that is high enough, and not too many; and none comes twice unless
the reply names a place twice. -/
theorem search_sound (hanswers : e.Answers pg stored) {query : String} {options : SearchOptions}
    {result : RetrievalResult φ} (h : search e settings query options = .ok result) :
    (result.chunks.length : ℤ) ≤ atLeastOne options.topN settings.rerankTopN ∧
      (∀ hit ∈ result.chunks, e.scores.atLeastMin hit.score = true ∧
        ∃ row, hit.Shows e row ∧ stored row ∧
          Admitted pg e (cleaned query) options row.searched) ∧
      (e.NamesOnce → (ids result.chunks).Nodup) := by
  have htopN : 1 ≤ atLeastOne options.topN settings.rerankTopN := le_max_left _ _
  have hnone (hchunks : result.chunks = []) :
      (result.chunks.length : ℤ) ≤ atLeastOne options.topN settings.rerankTopN ∧
      (∀ hit ∈ result.chunks, e.scores.atLeastMin hit.score = true ∧
        ∃ row, hit.Shows e row ∧ stored row ∧
          Admitted pg e (cleaned query) options row.searched) ∧
      (e.NamesOnce → (ids result.chunks).Nodup) := by
    rw [hchunks]
    exact ⟨by simp only [List.length_nil]; omega, by simp, fun _ => List.nodup_nil⟩
  by_cases hcleaned : cleaned query = ""
  · rw [search, if_pos hcleaned] at h
    obtain rfl := Except.ok.inj h
    exact hnone rfl
  · obtain ⟨filters, vectorRows, textRows, hbranches, ⟨-, -, hchunks⟩ | hanswer⟩ :=
      of_search h hcleaned
    · exact hnone hchunks
    · obtain ⟨hfilters, sql, hsql, hvector, htext⟩ := of_branches hanswers hbranches
      obtain ⟨fused, ordered, hfused, hchunks, m, -, hordered⟩ := of_answer hanswer
      have hspec : From (fused.take m) ordered ∧
          (e.NamesOnce → (ids (fused.take m)).Nodup → (ids ordered).Nodup) := by
        rcases hordered with rfl | ⟨-, hreranked⟩
        · exact ⟨fun hit hhit => ⟨hit, hhit, rfl, rfl⟩, fun _ hnodup => hnodup⟩
        · exact rerankHits_spec hreranked
      rw [hchunks]
      refine ⟨?_, fun hit hhit => ?_, fun honce => ?_⟩
      · have hlength : (selected e settings options ordered).length ≤ _ := length_shortlist_le
        omega
      · obtain ⟨hmem, hscore⟩ := mem_of_mem_shortlist hhit
        obtain ⟨candidate, hcandidate, hid, hrow⟩ := hspec.1 hit hmem
        obtain ⟨chunk, hchunk, hid', hrow'⟩ := hfused.rows _ (List.mem_of_mem_take hcandidate)
        have hbranch : ∃ row, chunk.Shows e row ∧ stored row ∧ pg.admits sql row.searched := by
          rcases List.mem_append.1 hchunk with hchunk | hchunk
          · exact hvector.2 chunk hchunk
          · exact htext.2 chunk hchunk
        obtain ⟨row, ⟨hshown, hread⟩, hstored, hadmits⟩ := hbranch
        refine ⟨hscore, row, ⟨?_, ?_⟩, hstored, filters, hfilters, sql, hsql, hadmits⟩
        · rw [← hid, ← hid', hshown]
        · rw [hrow, hrow', hread]
      · have htake : (ids (fused.take m)).Nodup :=
          hfused.nodup.sublist ((List.take_sublist m fused).map _)
        have hsub : (selected e settings options ordered).Sublist ordered :=
          List.filter_sublist.trans (List.take_sublist _ _)
        exact (hspec.2 honce htake).sublist (hsub.map _)

/-! ### The best of the ranking -/

end Search

/-! ### A garden, with the embedding provider down -/

/-- A villa, as a row. -/
def villaRow (id : String) : ChunkRow where
  chunkId := id
  documentId := "d"
  content := "A villa with a garden"
  ordinal := 0
  tokenCount := 5
  sourceId := "p"
  title := "Villa"
  uri := none
  searched :=
    { metadata := .object [("type", .string "property"), ("propertyType", .string "villa")]
      sourceType := "property"
      lang := "en" }

/-- What the filters of the demonstration render. -/
def villaSql : FilterSql := ⟨[[.isText "propertyType" "villa"]], [], none⟩

/-- The text statement answers three villas; the reranker, if it is up, names one of them twice
and one that is not there. -/
def demoEngine (rerankUp : Bool) : Engine ℚ Unit where
  unicode := .ascii
  catalogue := []
  loads := fun _ => none
  scores :=
    { zero := 0, isTruthy := fun score => decide (score ≠ 0), ofFused := id
      atLeastMin := fun score => decide (0 ≤ score)
      atLeastMin_mono := fun a b hab ha => by simp only [id, decide_eq_true_eq] at *; linarith }
  embedQuery := fun _ => .error (.expected "embedding provider unavailable")
  vectorSql := fun _ _ _ => .ok []
  textSql := fun sql _ _ =>
    .ok (if sql = villaSql then ["a", "b", "c"].map fun id => (villaRow id, some 1) else [])
  rerank := fun _ _ _ =>
    if rerankUp then .ok [⟨7, 3⟩, ⟨1, 2⟩, ⟨1, 1⟩] else .error (.expected "reranker unavailable")
  embeddingsAvailable := false
  rerankAvailable := rerankUp

/-- Villas, two of them, with the filters of the caller only. -/
def demoOptions : SearchOptions where
  topN := some 2
  filters := some { propertyType := some "villa" }
  parseFilters := false

theorem answers_demoEngine (rerankUp : Bool) :
    (demoEngine rerankUp).Answers plainPostgres (fun row => row.title = "Villa") where
  vector sql vector limit rows h := by
    obtain rfl := Except.ok.inj h
    exact ⟨List.nodup_nil, fun _ h => absurd h List.not_mem_nil⟩
  text sql query limit rows h := by
    obtain rfl := Except.ok.inj h
    split_ifs with hsql
    · refine ⟨by decide, fun r hr => ?_⟩
      obtain ⟨id, -, rfl⟩ := List.mem_map.1 hr
      refine ⟨rfl, ?_, ?_⟩
      · rw [hsql]
        decide
      · rw [hsql]
        rfl
    · exact ⟨List.nodup_nil, fun _ h => absurd h List.not_mem_nil⟩

/-- The ids that the demonstration answers. -/
theorem exists_demo (rerankUp : Bool) (answered : List String)
    (h : (search (demoEngine rerankUp) {} "garden" demoOptions).toOption.map
      (fun result => ids result.chunks) = some answered) :
    ∃ result, search (demoEngine rerankUp) {} "garden" demoOptions = .ok result ∧
      ids result.chunks = answered := by
  cases hsearch : search (demoEngine rerankUp) {} "garden" demoOptions with
  | error raised =>
    rw [hsearch] at h
    cases h
  | ok result =>
    rw [hsearch] at h
    exact ⟨result, rfl, Option.some.inj h⟩

/-- A reply that names a place twice and another that is not there brings in no other row. -/
theorem search_sound_demo : ∃ result,
    search (demoEngine true) {} "garden" demoOptions = .ok result ∧
      ids result.chunks = ["b", "b"] ∧
      ∀ hit ∈ result.chunks, ∃ row, hit.Shows (demoEngine true) row ∧ row.title = "Villa" ∧
        Admitted plainPostgres (demoEngine true) (cleaned "garden") demoOptions row.searched := by
  obtain ⟨result, hresult, hids⟩ := exists_demo true ["b", "b"] (by decide +kernel)
  exact ⟨result, hresult, hids, fun hit hhit =>
    ((search_sound (answers_demoEngine true) hresult).2.1 hit hhit).2⟩

end Hybrid
end Rag
end TopChoice
