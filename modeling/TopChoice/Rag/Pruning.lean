/-
# What pruning deletes

`options.prune` deletes the stored documents of a source that the run has not loaded,
"full runs only": without `ids` and without `limit`.  The languages of the request do
not count, so a run of one language deletes the documents of the other
(`one_language_prunes_the_other`), and neither does it count whether the listings came
from Mongo.  The documents that the current records still produce are safe exactly when
each of them is produced by a record the run reads, in a language of the request
(`prune_keeps_current_iff`).
-/

import TopChoice.Rag.IngestConvergence

namespace TopChoice
namespace Rag

/-! ### Records -/

/-- The records of a source, how a run reads them and how they are rendered. -/
structure RecordSource (υ : Type) (name : SourceName) where
  ρ : Type
  rendering : Rendering ρ υ
  read : IngestOptions → Except Raised (List ρ)
  /-- The records the source has now. -/
  current : List ρ

/-- The loader over the records. -/
def RecordSource.loader {υ : Type} [JsonValue υ] {name : SourceName} (r : RecordSource υ name) :
    Loader υ name := recordLoader r.rendering name r.read

/-- A current record of the source produces the document in some language. -/
def RecordSource.Produces {υ : Type} {name : SourceName} (r : RecordSource υ name)
    (key : String × String) : Prop :=
  ∃ record ∈ r.current, ∃ lang, r.rendering.Produces name record lang key

section Sources

variable {ρ υ : Type} (lower : String → String)

/-- The records of a seed file, filtered by their id and another text. -/
def seedSource (name : SourceName) (rendering : Rendering ρ υ) (other : ρ → String)
    (file : Except Raised (List ρ)) : RecordSource υ name where
  ρ := ρ
  rendering := rendering
  read options := file.map fun records => records.filter fun record =>
    options.selected lower [rendering.recordId record, other record]
  current := file.toOption.getD []

/-- The live listings of Mongo, or those of the seed file where there are none. -/
def ListingStore.current {τ : Type} (store : ListingStore τ) : List (Listing τ) :=
  let live := store.mongo.filter fun listing => !listing.deleted
  if live.isEmpty then (store.seed.toOption.getD []).filter fun listing => !listing.deleted
  else live.map Listing.normalise

/-- The listings. -/
def propertySource {τ : Type} (rendering : Rendering (Listing τ) υ) (store : ListingStore τ) :
    RecordSource υ .properties where
  ρ := Listing τ
  rendering := rendering
  read := store.fetchListings lower
  current := store.current

variable [JsonValue υ]

theorem seedSource_loader (name : SourceName) (rendering : Rendering ρ υ) (slug : ρ → String)
    (file : Except Raised (List ρ)) :
    (seedSource lower name rendering slug file).loader =
      seedCatalogLoader lower rendering name slug file := rfl

theorem seedSource_faqLoader (rendering : Rendering ρ υ) (category : ρ → String)
    (file : Except Raised (List ρ)) :
    (seedSource lower .faq rendering category file).loader =
      faqLoader lower rendering category file := rfl

theorem propertySource_loader {τ : Type} (rendering : Rendering (Listing τ) υ)
    (store : ListingStore τ) :
    (propertySource lower rendering store).loader = propertyLoader lower rendering store := rfl

omit [JsonValue υ] in
/-- A run without an id filter reads the whole seed file. -/
theorem seedSource_read {name : SourceName} {rendering : Rendering ρ υ} {other : ρ → String}
    {file : Except Raised (List ρ)} {options : IngestOptions} {records : List ρ}
    (hids : options.ids = [])
    (h : (seedSource lower name rendering other file).read options = .ok records) :
    records = (seedSource lower name rendering other file).current := by
  cases file with
  | error e => cases h
  | ok all =>
      obtain rfl := Except.ok.inj h
      have hall : ∀ record, options.selected lower
          [rendering.recordId record, other record] = true := fun record => by
        simp [IngestOptions.selected, hids]
      simp [seedSource, hall, Except.toOption]

omit [JsonValue υ] in
/-- A run without an id filter reads the live listings, when Mongo can be used and has
some, and no more than 5000. -/
theorem propertySource_read {τ : Type} {store : ListingStore τ}
    {options : IngestOptions} (hids : options.ids = []) (hreachable : store.reachable = true)
    (hlive : (store.mongo.filter fun listing => !listing.deleted) ≠ [])
    (hcount : (store.mongo.filter fun listing => !listing.deleted).length ≤ 5000)
    {rendering : Rendering (Listing τ) υ} :
    (propertySource lower rendering store).read options =
      .ok (propertySource lower rendering store).current := by
  have hnormal : ∀ l : List (Listing τ), (l.map Listing.normalise).filter
      (fun listing => !listing.deleted) =
        (l.filter fun listing => !listing.deleted).map Listing.normalise := fun l => by
    rw [List.filter_map]
    rfl
  have hempty : (store.mongo.filter fun listing => !listing.deleted).isEmpty = false := by
    simpa using hlive
  have htake : (store.mongo.filter fun listing => !listing.deleted).take 5000 =
      store.mongo.filter fun listing => !listing.deleted := List.take_of_length_le hcount
  simp only [propertySource, ListingStore.fetchListings, ListingStore.fetchProperties, hids, List.isEmpty_nil,
    Bool.true_or, Bool.and_true, htake, hempty, hreachable, Bool.not_true, Bool.or_false,
    Bool.false_eq_true, if_false, ListingStore.current, hnormal, List.filter_filter,
    Bool.and_self]

end Sources

/-- The sources of the service. -/
structure Sources (υ : Type) where
  properties : RecordSource υ .properties
  faq : RecordSource υ .faq
  compounds : RecordSource υ .compounds
  developers : RecordSource υ .developers
  areas : RecordSource υ .areas
  url : Loader υ .url

namespace Sources

variable {υ : Type} (sources : Sources υ)

/-- The records of a source; the pages of `url` are no records. -/
def record : (name : SourceName) → Option (RecordSource υ name)
  | .properties => some sources.properties
  | .faq => some sources.faq
  | .compounds => some sources.compounds
  | .developers => some sources.developers
  | .areas => some sources.areas
  | .url => none

/-- The loaders of the sources. -/
def loaders [JsonValue υ] : Loaders υ
  | .properties => sources.properties.loader
  | .faq => sources.faq.loader
  | .compounds => sources.compounds.loader
  | .developers => sources.developers.loader
  | .areas => sources.areas.loader
  | .url => sources.url

variable {sources}

theorem loaders_eq [JsonValue υ] {name : SourceName} {r : RecordSource υ name}
    (h : sources.record name = some r) : sources.loaders name = r.loader := by
  cases name <;> first | (obtain rfl := Option.some.inj h; rfl) | cases h

theorem prunable_of_record {name : SourceName} {r : RecordSource υ name}
    (h : sources.record name = some r) : name.prunable = true := by
  cases name <;> first | rfl | cases h

end Sources

/-! ### What a run keeps -/

variable {υ ν : Type}

/-- Pruning deletes the rows of a type that are not to be kept. -/
theorem Corpus.get_prune (corpus : Corpus υ ν) (sourceType : String) (keep : List String)
    (key : String × String) :
    Corpus.get (Corpus.prune corpus sourceType keep) key =
      if key.1 = sourceType ∧ key.2 ∉ keep then none else Corpus.get corpus key := by
  induction corpus with
  | nil => simp [Corpus.get, Corpus.prune, Table.findUnique, Table.deleteMany]
  | cons row corpus ih =>
      simp only [Corpus.get, Corpus.prune, Table.findUnique, Table.deleteMany, List.filter_cons,
        List.find?_cons] at ih ⊢
      by_cases hkey : row.key = key
      · subst hkey
        by_cases hprune : row.sourceType = sourceType ∧ row.sourceId ∉ keep
        · simpa [RagDocument.key, hprune] using ih
        · simp [RagDocument.key, hprune]
      · by_cases hprune : row.sourceType = sourceType ∧ row.sourceId ∉ keep
        · simpa [hkey, hprune] using ih
        · simpa [hkey, hprune] using ih

section Keeps

variable [JsonValue υ] {pipeline : Pipeline υ} {world : World ν} {loaders : Loaders υ}
  {source : SourceName} {options : IngestOptions} {key : String × String}

omit [JsonValue υ] in
theorem persistAll_keeps : ∀ {batch : List (RawDocument υ × List (Chunk υ))}
    {vectors : List (Option ν)} {s : RunState υ ν}, (Corpus.get s.corpus key).isSome = true →
      (Corpus.get (persistAll pipeline world source batch vectors s).1.corpus key).isSome = true := by
  intro batch
  induction batch with
  | nil => exact fun h => h
  | cons item batch ih =>
      obtain ⟨document, chunks⟩ := item
      intro vectors s h
      simp only [persistAll]
      split
      · next corpus hpersist =>
          refine ih ?_
          simp only [persist_ok hpersist]
          rw [Corpus.get_upsert]
          split_ifs
          · rfl
          · exact h
      · exact ih h
      · exact h

omit [JsonValue υ] in
theorem flush_keeps {batch : List (RawDocument υ × List (Chunk υ))} {s : RunState υ ν}
    (h : (Corpus.get s.corpus key).isSome = true) :
    (Corpus.get (flush pipeline world source batch s).1.corpus key).isSome = true := by
  simp only [flush]
  split
  · simpa only [foldl_fail_corpus] using h
  · exact h
  · exact persistAll_keeps h

theorem ingestDocument_keeps {stored : String → Option StoredDocument} {d : RawDocument υ}
    {loop : Loop υ ν} (h : (Corpus.get loop.state.corpus key).isSome = true) :
    (Corpus.get (ingestDocument pipeline world source options stored d loop).1.state.corpus
      key).isSome = true := by
  simp only [ingestDocument]
  split_ifs
  · exact h
  · exact h
  · exact h
  · exact flush_keeps h
  · exact h

theorem ingestDocuments_keeps {stored : String → Option StoredDocument}
    {documents : List (RawDocument υ)} : ∀ {loop : Loop υ ν},
      (Corpus.get loop.state.corpus key).isSome = true →
        (Corpus.get (ingestDocuments pipeline world source options stored documents
          loop).1.state.corpus key).isSome = true := by
  induction documents with
  | nil => exact fun h => h
  | cons d documents ih =>
      intro loop h
      have hstep : (Corpus.get (ingestDocument pipeline world source options stored d
          loop).1.state.corpus key).isSome = true := ingestDocument_keeps h
      simp only [ingestDocuments]
      split
      · next heq => rwa [heq] at hstep
      · next heq =>
          rw [heq] at hstep
          exact ih hstep

/-- The guard of the pruning step. -/
def Prunes (source : SourceName) (options : IngestOptions) : Prop :=
  options.prune = true ∧ source.prunable = true ∧ options.ids = [] ∧ options.limit.getD 0 = 0

instance (source : SourceName) (options : IngestOptions) : Decidable (Prunes source options) :=
  inferInstanceAs (Decidable (_ ∧ _ ∧ _ ∧ _))

omit [JsonValue υ] in
/-- What the pruning step makes of the tables, when its transaction succeeds. -/
theorem pruneSource_corpus {ids : List String} {s : RunState υ ν} :
    (pruneSource world source options ids s).1.corpus =
      if Prunes source options ∧ world.write s.writes = none then
        Corpus.prune s.corpus source.sourceType ids
      else s.corpus := by
  have hguard : (options.prune && source.prunable && options.ids.isEmpty &&
      decide (options.limit.getD 0 = 0)) = decide (Prunes source options) := by
    rw [Bool.eq_iff_iff, decide_eq_true_iff]
    simp [Prunes, and_assoc]
  simp only [pruneSource, hguard, decide_eq_true_eq]
  by_cases hprunes : Prunes source options
  · cases hwrite : world.write s.writes <;> simp [hprunes]
  · simp [hprunes]

/-- One source deletes nothing it has loaded, and nothing unless it prunes. -/
theorem ingestSource_keeps {s : RunState υ ν} (h : (Corpus.get s.corpus key).isSome = true)
    (hsafe : Prunes source options → key.1 = source.sourceType →
      ∀ documents, (loaders source).load options = .ok documents →
        key.2 ∈ documents.map RawDocument.sourceId) :
    (Corpus.get (ingestSource pipeline world loaders source options s).1.corpus key).isSome =
      true := by
  simp only [ingestSource]
  split
  · exact h
  · next documents hload =>
      split
      · exact h
      · have hloop : (Corpus.get (ingestDocuments pipeline world source options
            (Corpus.storedState s.corpus source.sourceType) documents
            ⟨{ s with stats := { documents := documents.length } }, [], 0⟩).1.state.corpus
            key).isSome = true := ingestDocuments_keeps h
        split
        · next heq => rwa [heq] at hloop
        · next loop heq =>
            rw [heq] at hloop
            have hflushed : (Corpus.get (if loop.pending.isEmpty then (loop.state, none)
                else flush pipeline world source loop.pending loop.state).1.corpus key).isSome =
                  true := by
              split_ifs
              · exact hloop
              · exact flush_keeps hloop
            split
            · next heq' => rwa [heq'] at hflushed
            · next s₁ heq' =>
                rw [heq'] at hflushed
                rw [pruneSource_corpus]
                split_ifs with hprunes
                · rw [Corpus.get_prune, if_neg]
                  · exact hflushed
                  · rintro ⟨htype, hmissing⟩
                    exact hmissing (hsafe hprunes.1 htype documents hload)
                · exact hflushed

/-- **What a run keeps.** -/
theorem ingestSources_keeps {sources : List SourceName} : ∀ stats : RunStats υ ν,
    (Corpus.get stats.state.corpus key).isSome = true →
    (∀ source ∈ sources, Prunes source options → key.1 = source.sourceType →
      ∀ documents, (loaders source).load options = .ok documents →
        key.2 ∈ documents.map RawDocument.sourceId) →
      (Corpus.get (ingestSources pipeline world loaders options sources stats).state.corpus
        key).isSome = true := by
  induction sources with
  | nil => exact fun _ h _ => h
  | cons source sources ih =>
      intro stats h hsafe
      have hrest : ∀ name ∈ sources, Prunes name options → key.1 = name.sourceType →
          ∀ documents, (loaders name).load options = .ok documents →
            key.2 ∈ documents.map RawDocument.sourceId := fun name hname =>
        hsafe name (List.mem_cons_of_mem _ hname)
      have hown : (Corpus.get (ingestSource pipeline world loaders source options
          stats.state).1.corpus key).isSome = true :=
        ingestSource_keeps h (hsafe source List.mem_cons_self)
      simp only [ingestSources]
      split
      · next heq =>
          rw [heq] at hown
          exact ih _ hown hrest
      · next heq =>
          rw [heq] at hown
          exact ih _ hown hrest

end Keeps

/-! ### A run that prunes -/

section Offline

variable [JsonValue υ] {pipeline : Pipeline υ} {loaders : Loaders υ} {source : SourceName}
  {options : IngestOptions} {key : String × String}

/-- A world whose provider is down; the database works. -/
def offlineWorld (ν : Type) : World ν where
  embeddings :=
    { embedDocuments := fun _ _ => .error (.apiError ⟨"UPSTREAM_UNAVAILABLE", "offline"⟩)
      parity := fun _ _ _ h => by cases h }
  read _ := none
  write _ := none

omit [JsonValue υ] in
@[simp] theorem offlineWorld_read (source : SourceName) :
    (offlineWorld ν).read source = none := rfl

omit [JsonValue υ] in
@[simp] theorem offlineWorld_write (n : ℕ) : (offlineWorld ν).write n = none := rfl

variable (pipeline source options)

omit [JsonValue υ] in
theorem flush_offline (batch : List (RawDocument υ × List (Chunk υ))) (s : RunState υ ν) :
    (flush pipeline (offlineWorld ν) source batch s).1.corpus = s.corpus ∧
      (flush pipeline (offlineWorld ν) source batch s).2 = none :=
  ⟨foldl_fail_corpus, rfl⟩

theorem ingestDocument_offline (stored : String → Option StoredDocument) (d : RawDocument υ)
    (loop : Loop υ ν) :
    (ingestDocument pipeline (offlineWorld ν) source options stored d loop).1.state.corpus =
        loop.state.corpus ∧
      (ingestDocument pipeline (offlineWorld ν) source options stored d loop).2 = none := by
  simp only [ingestDocument]
  split_ifs
  · exact ⟨rfl, rfl⟩
  · exact ⟨rfl, rfl⟩
  · exact ⟨rfl, rfl⟩
  · exact flush_offline pipeline source _ _
  · exact ⟨rfl, rfl⟩

theorem ingestDocuments_offline (stored : String → Option StoredDocument)
    (documents : List (RawDocument υ)) : ∀ loop : Loop υ ν,
      (ingestDocuments pipeline (offlineWorld ν) source options stored documents
        loop).1.state.corpus = loop.state.corpus ∧
      (ingestDocuments pipeline (offlineWorld ν) source options stored documents loop).2 =
        none := by
  induction documents with
  | nil => exact fun _ => ⟨rfl, rfl⟩
  | cons d documents ih =>
      intro loop
      have hstep := ingestDocument_offline pipeline source options stored d loop
      cases hrun : ingestDocument pipeline (offlineWorld ν) source options stored d loop with
      | mk loop' raised =>
          rw [hrun] at hstep
          obtain ⟨hcorpus, rfl⟩ := hstep
          simp only [ingestDocuments, hrun]
          exact ⟨(ih loop').1.trans hcorpus, (ih loop').2⟩

variable {pipeline source options}

/-- One source without a provider: it prunes, and does nothing else. -/
theorem ingestSource_offline {documents : List (RawDocument υ)} {s : RunState υ ν}
    (hload : (loaders source).load options = .ok documents) :
    (ingestSource pipeline (offlineWorld ν) loaders source options s).1.corpus =
      if Prunes source options then
        Corpus.prune s.corpus source.sourceType (documents.map RawDocument.sourceId)
      else s.corpus := by
  simp only [ingestSource, hload, offlineWorld_read]
  have hloop := ingestDocuments_offline pipeline source options
    (Corpus.storedState s.corpus source.sourceType) documents
    ⟨{ s with stats := { documents := documents.length } }, [], 0⟩
  split
  · next heq =>
      rw [heq] at hloop
      cases hloop.2
  · next loop heq =>
      rw [heq] at hloop
      have hflush := flush_offline pipeline source loop.pending loop.state
      split
      · next heq' =>
          split_ifs at heq'
          · cases heq'
          · rw [heq'] at hflush
            cases hflush.2
      · next s₁ heq' =>
          have hcorpus : s₁.corpus = s.corpus := by
            split_ifs at heq'
            · obtain ⟨rfl, -⟩ := Prod.mk.inj heq'
              exact hloop.1
            · rw [heq'] at hflush
              exact hflush.1.trans hloop.1
          rw [pruneSource_corpus, hcorpus]
          simp

theorem ingestSource_offline_none {s : RunState υ ν} (h : Corpus.get s.corpus key = none) :
    Corpus.get (ingestSource pipeline (offlineWorld ν) loaders source options s).1.corpus key =
      none := by
  cases hload : (loaders source).load options with
  | error e =>
      simp only [ingestSource, hload]
      exact h
  | ok documents =>
      rw [ingestSource_offline hload]
      split_ifs
      · rw [Corpus.get_prune]
        split_ifs
        · rfl
        · exact h
      · exact h

theorem ingestSources_offline_none {sources : List SourceName} : ∀ stats : RunStats υ ν,
    Corpus.get stats.state.corpus key = none →
      Corpus.get (ingestSources pipeline (offlineWorld ν) loaders options sources
        stats).state.corpus key = none := by
  induction sources with
  | nil => exact fun _ h => h
  | cons source sources ih =>
      intro stats h
      have hown : Corpus.get (ingestSource pipeline (offlineWorld ν) loaders source options
          stats.state).1.corpus key = none := ingestSource_offline_none h
      simp only [ingestSources]
      split
      · next heq =>
          rw [heq] at hown
          exact ih _ hown
      · next heq =>
          rw [heq] at hown
          exact ih _ hown

/-- Without a provider, a run deletes what a source that prunes has not loaded. -/
theorem ingestSources_offline {sources : List SourceName} {name : SourceName}
    {documents : List (RawDocument υ)} (hprunes : Prunes name options)
    (hload : (loaders name).load options = .ok documents) (htype : key.1 = name.sourceType)
    (hmissing : key.2 ∉ documents.map RawDocument.sourceId) : ∀ stats : RunStats υ ν,
      name ∈ sources → Corpus.get (ingestSources pipeline (offlineWorld ν) loaders options sources
        stats).state.corpus key = none := by
  induction sources with
  | nil => exact fun _ h => by cases h
  | cons source sources ih =>
      intro stats hname
      rcases List.mem_cons.1 hname with rfl | hname
      · have hown : Corpus.get (ingestSource pipeline (offlineWorld ν) loaders name options
            stats.state).1.corpus key = none := by
          rw [ingestSource_offline hload, if_pos hprunes, Corpus.get_prune,
            if_pos ⟨htype, hmissing⟩]
        simp only [ingestSources]
        split
        · next heq =>
            rw [heq] at hown
            exact ingestSources_offline_none _ hown
        · next heq =>
            rw [heq] at hown
            exact ingestSources_offline_none _ hown
      · simp only [ingestSources]
        split
        · exact ih _ hname
        · exact ih _ hname

end Offline

/-! ### The current records -/

section Current

variable [JsonValue υ]

/-- An accepted limit is positive. -/
theorem limit_eq_none {body : IngestBody} {options : IngestOptions}
    (haccepted : body.toOptions = some options) (hlimit : options.limit.getD 0 = 0) :
    options.limit = none := by
  simp only [IngestBody.toOptions] at haccepted
  split_ifs at haccepted with hrefused
  obtain rfl := Option.some.inj haccepted
  cases hbody : body.limit with
  | none => rfl
  | some limit =>
      simp only [hbody, Option.map_some, Option.getD_some] at hlimit
      have hbounds : ¬ (limit < 1 ∨ 10000 < limit) := fun h =>
        hrefused (Or.inr (Or.inr (Or.inl (by simp [hbody, h]))))
      omega

/-- What a request loads without a limit: the documents that the records read produce. -/
theorem mem_loaded_keys {name : SourceName} {r : RecordSource υ name} {options : IngestOptions}
    {records : List r.ρ} (key : String × String) (hlimit : options.limit = none)
    (hread : r.read options = .ok records) :
    ∃ documents, r.loader.load options = .ok documents ∧
      (key.1 = name.sourceType → (key.2 ∈ documents.map RawDocument.sourceId ↔
        ∃ record ∈ records, ∃ lang ∈ options.langs,
          r.rendering.Produces name record lang key)) := by
  have hload : r.loader.load options =
      .ok (records.flatMap (r.rendering.buildDocuments name options.langs)) := by
    have hall : loadRecords r.rendering name options records =
        records.flatMap (r.rendering.buildDocuments name options.langs) := by
      simp only [loadRecords, hlimit, applyLimit]
    simp only [RecordSource.loader, recordLoader, hread, Except.map, hall]
  refine ⟨_, hload, fun htype => ?_⟩
  rw [← Rendering.mem_keys_flatMap]
  constructor
  · intro hmem
    obtain ⟨d, hd, hid⟩ := List.mem_map.1 hmem
    refine List.mem_map.2 ⟨d, hd, Prod.ext ?_ hid⟩
    exact (Rendering.sourceType_of_mem hd).trans htype.symm
  · intro hmem
    obtain ⟨d, hd, hkey⟩ := List.mem_map.1 hmem
    exact List.mem_map.2 ⟨d, hd, congrArg Prod.snd hkey⟩

/-- No stored document that a current record produces is left out by a run that prunes. -/
def PruneSafe (sources : Sources υ) (source : IngestSource) (options : IngestOptions)
    (corpus : Corpus υ ν) : Prop :=
  options.prune = true → options.ids = [] → options.limit = none →
    ∀ name ∈ expandSources source, ∀ r ∈ sources.record name, ∀ records,
      r.read options = .ok records → ∀ key, (Corpus.get corpus key).isSome = true →
        r.Produces key → ∃ record ∈ records, ∃ lang ∈ options.langs,
          r.rendering.Produces name record lang key

/-- **Pruning keeps what the current records produce exactly when the run covers it.**
Of an accepted request: no run of it deletes a stored document that the current records
of a source produce in some language, if and only if it does not prune, or has ids or a
limit, or each such document is produced by a record it reads, in a language it asks
for. -/
theorem prune_keeps_current_iff (pipeline : Pipeline υ) (sources : Sources υ)
    (corpus : Corpus υ ν) {body : IngestBody} {options : IngestOptions}
    (haccepted : body.toOptions = some options) :
    (∀ world : World ν, ∀ name, ∀ r ∈ sources.record name, ∀ key,
      (Corpus.get corpus key).isSome = true → r.Produces key →
        (Corpus.get (run pipeline world sources.loaders body.source options corpus).state.corpus
          key).isSome = true) ↔
      PruneSafe sources body.source options corpus := by
  constructor
  · intro hkeeps hprune hids hlimit name hname r hr records hread key hstored hproduces
    have hprunes : Prunes name options :=
      ⟨hprune, Sources.prunable_of_record hr, hids, by rw [hlimit]; rfl⟩
    have htype : key.1 = name.sourceType := by
      obtain ⟨record, -, lang, -, -, hkey⟩ := hproduces
      rw [← hkey]
      rfl
    obtain ⟨documents, hload, hiff⟩ := mem_loaded_keys key hlimit hread
    rw [← Sources.loaders_eq hr] at hload
    refine (hiff htype).1 ?_
    by_contra hmissing
    have hgone : Corpus.get (run pipeline (offlineWorld ν) sources.loaders body.source options
        corpus).state.corpus key = none :=
      ingestSources_offline hprunes hload htype hmissing _ hname
    have hkept := hkeeps (offlineWorld ν) name r hr key hstored hproduces
    rw [hgone] at hkept
    cases hkept
  · intro hsafe world name r hr key hstored hproduces
    refine ingestSources_keeps _ hstored fun name' hname' hprunes htype documents hload => ?_
    obtain ⟨hprune, -, hids, hlimit'⟩ := hprunes
    have hlimit := limit_eq_none haccepted hlimit'
    have hsame : name' = name := by
      obtain ⟨record, -, lang, -, -, hkey⟩ := hproduces
      have hown : key.1 = name.sourceType := by
        rw [← hkey]
        rfl
      exact SourceName.sourceType_injective (htype.symm.trans hown)
    subst hsame
    rw [Sources.loaders_eq hr] at hload
    cases hread : r.read options with
    | error e =>
        simp only [RecordSource.loader, recordLoader, hread] at hload
        cases hload
    | ok records =>
        obtain ⟨documents', hload', hiff⟩ := mem_loaded_keys key hlimit hread
        obtain rfl := Except.ok.inj (hload'.symm.trans hload)
        exact (hiff htype).2 (hsafe hprune hids hlimit name' hname' r hr records hread key hstored
          hproduces)

omit [JsonValue υ] in
/-- A request in all languages is safe where the sources read all their records. -/
theorem pruneSafe_of_all_langs {sources : Sources υ} {source : IngestSource}
    {options : IngestOptions} {corpus : Corpus υ ν} (hlangs : ∀ lang, lang ∈ options.langs)
    (hread : options.ids = [] → ∀ name ∈ expandSources source, ∀ r ∈ sources.record name,
      ∀ records, r.read options = .ok records → records = r.current) :
    PruneSafe sources source options corpus := by
  intro _ hids _ name hname r hr records hrecords key _ ⟨record, hrecord, lang, hproduces⟩
  rw [hread hids name hname r hr records hrecords]
  exact ⟨record, hrecord, lang, hlangs lang, hproduces⟩

end Current

/-! ### One question -/

/-- The entry of a seed file with one question, in both languages. -/
def demoFaq : RecordSource String .faq :=
  seedSource id .faq
    { recordId := fun _ => "1"
      text := fun (question : String) lang => question ++ lang.text
      empty := (· = "")
      title := fun question _ => question
      uri := fun _ _ => "/faq#1"
      metadata := fun _ _ => [("recordId", "1")] }
    (fun _ => "payment_plans") (.ok ["How do I pay?"])

/-- A source without records. -/
def noRecords (name : SourceName) : RecordSource String name where
  ρ := Empty
  rendering := ⟨nofun, nofun, fun _ => true, nofun, nofun, nofun⟩
  read _ := .ok []
  current := []

/-- The sources of a service with one question. -/
def demoSources : Sources String where
  properties := noRecords _
  faq := demoFaq
  compounds := noRecords _
  developers := noRecords _
  areas := noRecords _
  url := urlLoader id (demoWeb "")

/-- The question as it is stored in a language. -/
def demoFaqRow (lang : Language) : RagDocument String ℕ where
  sourceType := "faq"
  sourceId := "1:" ++ lang.text
  uri := some "/faq#1"
  title := "How do I pay?"
  lang := lang
  checksum := ""
  metadata := [("recordId", "1")]
  chunks := []

/-- A request that prunes, in some languages. -/
def pruneBody (langs : List Language) : IngestBody :=
  { source := .one .faq, langs := langs, prune := true }

/-- The hypothesis of `prune_keeps_current_iff` is satisfiable: a run of both languages
that prunes keeps the Arabic question. -/
theorem prune_keeps_current_iff_demo :
    (Corpus.get (run (demoPipeline 500) demoWorld demoSources.loaders (.one .faq)
      { prune := true } [demoFaqRow .en, demoFaqRow .ar]).state.corpus ("faq", "1:ar")).isSome =
        true := by
  have haccepted : (pruneBody [.en, .ar]).toOptions = some { prune := true } := rfl
  have hsafe : PruneSafe demoSources (pruneBody [.en, .ar]).source { prune := true }
      [demoFaqRow .en, demoFaqRow .ar] := by
    refine pruneSafe_of_all_langs mem_defaultLangs fun hids name hname r hr records hrecords => ?_
    obtain rfl := List.mem_singleton.1 hname
    obtain rfl := Option.some.inj hr
    exact seedSource_read id hids hrecords
  have hproduces : demoFaq.Produces ("faq", "1:ar") :=
    ⟨"How do I pay?", List.mem_singleton.2 rfl, .ar, by decide, by decide, by decide⟩
  exact (prune_keeps_current_iff (demoPipeline 500) demoSources _ haccepted).2 hsafe demoWorld .faq
    demoFaq rfl ("faq", "1:ar") (by decide) hproduces

/-- **One language prunes the other.**  An accepted request for the English questions
deletes the stored Arabic one, which the seed file still produces. -/
theorem one_language_prunes_the_other :
    ∃ options, (pruneBody [.en]).toOptions = some options ∧
      demoFaq.Produces ("faq", "1:ar") ∧
      (Corpus.get [demoFaqRow .en, demoFaqRow .ar] ("faq", "1:ar")).isSome = true ∧
      (Corpus.get (run (demoPipeline 500) demoWorld demoSources.loaders (.one .faq) options
        [demoFaqRow .en, demoFaqRow .ar]).state.corpus ("faq", "1:ar")) = none := by
  refine ⟨_, rfl, ⟨"How do I pay?", List.mem_singleton.2 rfl, .ar, by decide, by decide, by decide⟩,
    by decide, ?_⟩
  decide

end Rag
end TopChoice
