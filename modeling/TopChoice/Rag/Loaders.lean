/-
# What an ingest request loads

`apps/rag-svc/app/schemas/ingest.py` and `app/ingestion/loaders/`: a request is
validated and becomes `IngestOptions`; the loader of a source renders its records, one
document for each language.

The texts a record is rendered to are parameters (`Rendering`), and so are the records:
the seed files, the listings of Mongo, the pages fetched.
-/

import TopChoice.Rag.Chunker

namespace TopChoice
namespace Rag

/-! ### Requests -/

/-- The languages of the service. -/
inductive Language where
  | en
  | ar
  deriving DecidableEq, Repr

/-- The suffix of a language in a source id. -/
def Language.text : Language → String
  | .en => "en"
  | .ar => "ar"

/-- `DEFAULT_LANGS`. -/
def defaultLangs : List Language := [.en, .ar]

theorem mem_defaultLangs (lang : Language) : lang ∈ defaultLangs := by
  cases lang <;> decide

/-- The sources that can be ingested one by one: the keys of `LOADERS`. -/
inductive SourceName where
  | properties
  | faq
  | compounds
  | developers
  | areas
  | url
  deriving DecidableEq, Repr

namespace SourceName

/-- `loader.source`. -/
def text : SourceName → String
  | properties => "properties"
  | faq => "faq"
  | compounds => "compounds"
  | developers => "developers"
  | areas => "areas"
  | url => "url"

/-- `loader.source_type`. -/
def sourceType : SourceName → String
  | properties => "property"
  | faq => "faq"
  | compounds => "compound"
  | developers => "developer"
  | areas => "area"
  | url => "url"

/-- `loader.prunable`: the pages of `url` are whatever has been ingested so far. -/
def prunable : SourceName → Bool
  | url => false
  | _ => true

theorem sourceType_injective : Function.Injective sourceType := by
  intro a b h
  cases a <;> cases b <;> first | rfl | (simp [sourceType] at h)

end SourceName

/-- `source` of a request. -/
inductive IngestSource where
  | one (name : SourceName)
  | all
  deriving DecidableEq, Repr

/-- `expand_sources`: `all` is every source that needs no payload. -/
def expandSources : IngestSource → List SourceName
  | .one name => [name]
  | .all => [.properties, .faq, .compounds, .developers, .areas]

theorem nodup_expandSources (source : IngestSource) : (expandSources source).Nodup := by
  cases source with
  | one name => simp [expandSources]
  | all => decide

/-- The body of `POST /api/chat/ingest`. -/
structure IngestBody where
  source : IngestSource := .all
  ids : List String := []
  urls : List String := []
  langs : List Language := defaultLangs
  limit : Option ℤ := none
  force : Bool := false
  prune : Bool := false

/-- `IngestOptions`. -/
structure IngestOptions where
  ids : List String := []
  urls : List String := []
  langs : List Language := defaultLangs
  limit : Option ℕ := none
  force : Bool := false
  prune : Bool := false
  deriving DecidableEq, Repr

/-- `_drop_blanks`. -/
def dropBlanks (values : List String) : List String := (values.map strip).filter (· ≠ "")

/-- `_unique_langs`: the languages asked for in the order of the service, or all of them. -/
def uniqueLangs (langs : List Language) : List Language :=
  if (defaultLangs.filter (· ∈ langs)).isEmpty then defaultLangs
  else defaultLangs.filter (· ∈ langs)

/-- The validators of `IngestRequest`, and `to_options`. -/
def IngestBody.toOptions (body : IngestBody) : Option IngestOptions :=
  let ids := dropBlanks body.ids
  let urls := dropBlanks body.urls
  if 500 < ids.length ∨ 50 < urls.length ∨
      body.limit.any (fun limit => decide (limit < 1 ∨ 10000 < limit)) ∨
      (body.source = .one .url ∧ urls = []) ∨ (body.source ≠ .one .url ∧ urls ≠ []) then none
  else some
    { ids := ids
      urls := urls
      langs := uniqueLangs body.langs
      limit := body.limit.map Int.toNat
      force := body.force
      prune := body.prune }

/-- `wants`. -/
def IngestOptions.wants (options : IngestOptions) (lang : Language) : Bool :=
  decide (lang ∈ options.langs)

/-- `selected`, with `str.lower`. -/
def IngestOptions.selected (lower : String → String) (options : IngestOptions)
    (candidates : List String) : Bool :=
  options.ids.isEmpty || candidates.any fun candidate =>
    candidate ≠ "" && ((options.ids.filter (· ≠ "")).map lower).contains (lower candidate)

/-! ### Documents -/

/-- `RawDocument`. -/
structure RawDocument (υ : Type) where
  sourceType : String
  sourceId : String
  title : String
  text : String
  lang : Language
  uri : Option String
  metadata : Metadata υ
  deriving DecidableEq, Repr

section Documents

variable {υ : Type}

/-- The natural key of a document. -/
def RawDocument.key (document : RawDocument υ) : String × String :=
  (document.sourceType, document.sourceId)

/-- `is_empty`. -/
def RawDocument.isEmpty (document : RawDocument υ) : Bool := isBlank document.text

/-- `describe`. -/
def RawDocument.describe (document : RawDocument υ) : String :=
  document.sourceType ++ ":" ++ document.sourceId

/-- `source_id.rsplit(":", 1)[0]`. -/
def beforeLastColon (sourceId : String) : String :=
  if ':' ∈ sourceId.toList then
    String.ofList ((sourceId.toList.rdropWhile (· ≠ ':')).dropLast)
  else sourceId

/-- The record a document was rendered from. -/
def RawDocument.base [JsonValue υ] (document : RawDocument υ) : String :=
  ((document.metadata.lookup "recordId").bind JsonValue.text).getD
    (beforeLastColon document.sourceId)

/-- `apply_limit`, with the records seen. -/
def applyLimitFrom [JsonValue υ] (limit : ℕ) (seen : List String) :
    List (RawDocument υ) → List (RawDocument υ)
  | [] => []
  | document :: documents =>
      if document.base ∈ seen then document :: applyLimitFrom limit seen documents
      else if limit ≤ seen.length then applyLimitFrom limit seen documents
      else document :: applyLimitFrom limit (seen ++ [document.base]) documents

/-- `apply_limit`. -/
def applyLimit [JsonValue υ] (documents : List (RawDocument υ)) :
    Option ℕ → List (RawDocument υ)
  | none => documents
  | some 0 => documents
  | some limit => applyLimitFrom limit [] documents

theorem mem_of_mem_applyLimitFrom [JsonValue υ] {limit : ℕ} {d : RawDocument υ}
    {documents : List (RawDocument υ)} : ∀ {seen : List String},
      d ∈ applyLimitFrom limit seen documents → d ∈ documents := by
  induction documents with
  | nil => exact fun h => h
  | cons d' documents ih =>
      intro seen h
      simp only [applyLimitFrom] at h
      split_ifs at h
      · rcases List.mem_cons.1 h with rfl | h
        · exact List.mem_cons_self
        · exact List.mem_cons_of_mem _ (ih h)
      · exact List.mem_cons_of_mem _ (ih h)
      · rcases List.mem_cons.1 h with rfl | h
        · exact List.mem_cons_self
        · exact List.mem_cons_of_mem _ (ih h)

/-- A limit only leaves documents out. -/
theorem mem_of_mem_applyLimit [JsonValue υ] {documents : List (RawDocument υ)} {limit : Option ℕ}
    {d : RawDocument υ} (h : d ∈ applyLimit documents limit) : d ∈ documents := by
  match limit with
  | none => exact h
  | some 0 => exact h
  | some (_ + 1) => exact mem_of_mem_applyLimitFrom h

end Documents

/-- What a source raises: the code, or the type, and the message. -/
structure Raised where
  code : String
  message : String
  deriving DecidableEq, Repr

/-- A loader: it renders documents of its own source type. -/
structure Loader (υ : Type) (name : SourceName) where
  load : IngestOptions → Except Raised (List (RawDocument υ))
  typed : ∀ options documents, load options = .ok documents →
    ∀ d ∈ documents, d.sourceType = name.sourceType

/-- `LOADERS`. -/
abbrev Loaders (υ : Type) := (name : SourceName) → Loader υ name

/-! ### Records -/

/-- How a source renders a record. -/
structure Rendering (ρ υ : Type) where
  recordId : ρ → String
  text : ρ → Language → String
  /-- The test a text is left out by. -/
  empty : String → Bool
  title : ρ → Language → String
  uri : ρ → Language → String
  metadata : ρ → Language → Metadata υ

namespace Rendering

variable {ρ υ : Type} (r : Rendering ρ υ) (name : SourceName)

/-- `language_source_id`. -/
def languageSourceId (recordId : String) (lang : Language) : String :=
  recordId ++ ":" ++ lang.text

/-- One variant of a record. -/
def document (record : ρ) (lang : Language) : RawDocument υ where
  sourceType := name.sourceType
  sourceId := languageSourceId (r.recordId record) lang
  title := r.title record lang
  text := r.text record lang
  lang := lang
  uri := some (r.uri record lang)
  metadata := r.metadata record lang

/-- `build_documents`: the variants of a record in the languages asked for. -/
def buildDocuments (langs : List Language) (record : ρ) : List (RawDocument υ) :=
  if r.recordId record = "" then []
  else (defaultLangs.filter fun lang => decide (lang ∈ langs) && !r.empty (r.text record lang)).map
    (r.document name record)

/-- A record produces a document in a language. -/
def Produces (record : ρ) (lang : Language) (key : String × String) : Prop :=
  r.recordId record ≠ "" ∧ r.empty (r.text record lang) = false ∧
    (r.document name record lang).key = key

variable {r name}

theorem mem_buildDocuments {langs : List Language} {record : ρ} {d : RawDocument υ} :
    d ∈ r.buildDocuments name langs record ↔ r.recordId record ≠ "" ∧ ∃ lang ∈ langs,
      r.empty (r.text record lang) = false ∧ d = r.document name record lang := by
  by_cases hid : r.recordId record = ""
  · simp [buildDocuments, hid]
  · have hall := mem_defaultLangs
    simp only [buildDocuments, hid, if_false, List.mem_map, List.mem_filter, hall, true_and,
      Bool.and_eq_true, decide_eq_true_eq, Bool.not_eq_true', ne_eq, not_false_eq_true]
    constructor
    · rintro ⟨lang, ⟨hmem, hempty⟩, rfl⟩
      exact ⟨lang, hmem, hempty, rfl⟩
    · rintro ⟨lang, hmem, hempty, rfl⟩
      exact ⟨lang, ⟨hmem, hempty⟩, rfl⟩

/-- The keys of the documents built from some records. -/
theorem mem_keys_flatMap {langs : List Language} {records : List ρ} {key : String × String} :
    key ∈ (records.flatMap (r.buildDocuments name langs)).map RawDocument.key ↔
      ∃ record ∈ records, ∃ lang ∈ langs, r.Produces name record lang key := by
  simp only [List.mem_map, List.mem_flatMap, mem_buildDocuments]
  constructor
  · rintro ⟨d, ⟨record, hrecord, hid, lang, hlang, hempty, rfl⟩, rfl⟩
    exact ⟨record, hrecord, lang, hlang, hid, hempty, rfl⟩
  · rintro ⟨record, hrecord, lang, hlang, hid, hempty, rfl⟩
    exact ⟨_, ⟨record, hrecord, hid, lang, hlang, hempty, rfl⟩, rfl⟩

/-- What is built is of the type of the source. -/
theorem sourceType_of_mem {langs : List Language} {records : List ρ} {d : RawDocument υ}
    (h : d ∈ records.flatMap (r.buildDocuments name langs)) : d.sourceType = name.sourceType := by
  obtain ⟨record, -, hd⟩ := List.mem_flatMap.1 h
  obtain ⟨-, lang, -, -, rfl⟩ := mem_buildDocuments.1 hd
  rfl

end Rendering

/-! ### The loaders -/

section Loaders

variable {ρ υ : Type} [JsonValue υ] (lower : String → String)

/-- The loop of a loader over the records it has read. -/
def loadRecords (r : Rendering ρ υ) (name : SourceName) (options : IngestOptions)
    (records : List ρ) : List (RawDocument υ) :=
  applyLimit (records.flatMap (r.buildDocuments name options.langs)) options.limit

/-- A loader over what it reads. -/
def recordLoader (r : Rendering ρ υ) (name : SourceName)
    (read : IngestOptions → Except Raised (List ρ)) : Loader υ name where
  load options := (read options).map (loadRecords r name options)
  typed options documents h d hd := by
    cases hread : read options with
    | error e =>
        rw [hread] at h
        cases h
    | ok records =>
        rw [hread] at h
        obtain rfl := Except.ok.inj h
        exact Rendering.sourceType_of_mem (mem_of_mem_applyLimit hd)

/-- `SeedCatalogLoader`: the records whose id or slug is selected. -/
def seedCatalogLoader (r : Rendering ρ υ) (name : SourceName) (slug : ρ → String)
    (file : Except Raised (List ρ)) : Loader υ name :=
  recordLoader r name fun options => file.map fun records => records.filter fun record =>
    options.selected lower [r.recordId record, slug record]

/-- `compound_loader`. -/
def compoundLoader (r : Rendering ρ υ) (slug : ρ → String) (file : Except Raised (List ρ)) :
    Loader υ .compounds := seedCatalogLoader lower r .compounds slug file

/-- `developer_loader`. -/
def developerLoader (r : Rendering ρ υ) (slug : ρ → String) (file : Except Raised (List ρ)) :
    Loader υ .developers := seedCatalogLoader lower r .developers slug file

/-- `area_loader`. -/
def areaLoader (r : Rendering ρ υ) (slug : ρ → String) (file : Except Raised (List ρ)) :
    Loader υ .areas := seedCatalogLoader lower r .areas slug file

/-- `FaqLoader`: the entries whose id or category is selected. -/
def faqLoader (r : Rendering ρ υ) (category : ρ → String) (file : Except Raised (List ρ)) :
    Loader υ .faq :=
  recordLoader r .faq fun options => file.map fun records => records.filter fun record =>
    options.selected lower [r.recordId record, category record]

/-- A listing as Mongo or the seed file has it. -/
structure Listing (τ : Type) where
  /-- `_id`, of a document of Mongo. -/
  objectId : Option String
  id : String
  slug : String
  deleted : Bool
  fields : τ

/-- `_normalise`. -/
def Listing.normalise {τ : Type} (listing : Listing τ) : Listing τ :=
  { listing with id := if listing.id = "" then listing.objectId.getD "" else listing.id }

/-- `recordId`: the id, or the slug. -/
def Listing.recordId {τ : Type} (listing : Listing τ) : String :=
  if listing.id = "" then listing.slug else listing.id

/-- Where `PropertyLoader` reads from: the listings of Mongo, whether Mongo can be used,
and the seed file. -/
structure ListingStore (τ : Type) where
  mongo : List (Listing τ)
  reachable : Bool
  seed : Except Raised (List (Listing τ))

/-- `fetch_properties`: at most 5000 live listings, or `none`. -/
def ListingStore.fetchProperties {τ : Type} (store : ListingStore τ) (ids : List String) :
    Option (List (Listing τ)) :=
  let documents := (store.mongo.filter fun listing =>
    !listing.deleted && (ids.isEmpty || ids.contains listing.slug || ids.contains listing.id)).take
    5000
  if !store.reachable || documents.isEmpty then none else some (documents.map Listing.normalise)

/-- `fetch_listings`, and the listings `load` keeps. -/
def ListingStore.fetchListings {τ : Type} (store : ListingStore τ) (options : IngestOptions) :
    Except Raised (List (Listing τ)) :=
  match store.fetchProperties options.ids with
  | some listings => .ok (listings.filter fun listing => !listing.deleted)
  | none => store.seed.map fun records => records.filter fun record =>
      (options.ids.isEmpty || (options.ids.map lower).contains (lower record.id) ||
        (options.ids.map lower).contains (lower record.slug)) && !record.deleted

/-- `PropertyLoader`. -/
def propertyLoader {τ : Type} (r : Rendering (Listing τ) υ) (store : ListingStore τ) :
    Loader υ .properties :=
  recordLoader r .properties (store.fetchListings lower)

/-- What `UrlLoader` asks the network and its libraries. -/
structure Web where
  /-- `validate_url`. -/
  validateUrl : String → Except Raised String
  /-- `fetch_page`, with the final URL, the content type and the body. -/
  fetchPage : String → Option (String × String × String)
  /-- `html_to_markdown`, with the title and the text. -/
  htmlToMarkdown : String → String × String
  /-- The first 32 digits of the SHA-256 of a URL. -/
  digest : String → String

/-- The body is a page in HTML. -/
def looksHtml (contentType body : String) : Bool :=
  (lower contentType).toList.tails.any ("html".toList.isPrefixOf ·) ||
    (body.toList.dropWhile isSpace).head? = some '<'

/-- `_looks_arabic`: more than a fifth of the first 4000 characters. -/
def looksArabic (text : String) : Bool :=
  let sample := text.toList.take 4000
  decide (sample.length < 5 * sample.countP fun c => 0x600 ≤ c.toNat && c.toNat ≤ 0x6FF)

/-- `document_metadata`: the values that are there and not empty. -/
def documentMetadata (values : List (String × Option String)) : Metadata υ :=
  values.filterMap fun (key, value) =>
    (value.filter (· ≠ "")).map fun text => (key, JsonValue.str text)

/-- `build_document`. -/
def buildDocument (web : Web) (url finalUrl contentType body : String) :
    Option (RawDocument υ) :=
  let (title, text) :=
    if looksHtml lower contentType body then web.htmlToMarkdown body else ("", strip body)
  if text = "" then none
  else
    let lang := if looksArabic text then Language.ar else .en
    let title := if title = "" then finalUrl else title
    some
      { sourceType := SourceName.url.sourceType
        sourceId := web.digest finalUrl
        title := title
        text := text
        lang := lang
        uri := some finalUrl
        metadata := documentMetadata
          [("type", some "url"), ("url", some finalUrl),
            ("requestedUrl", if url = finalUrl then none else some url), ("title", some title),
            ("contentType", some contentType), ("lang", some lang.text),
            ("recordId", some (web.digest finalUrl))] }

/-- `UrlLoader`: the pages that could be fetched and have a text. -/
def urlLoader (web : Web) : Loader υ .url where
  load options :=
    match (options.urls.filter (· ≠ "")).mapM web.validateUrl with
    | .error e => .error e
    | .ok [] => .error ⟨"URL_REQUIRED",
        "Ingesting the 'url' source requires at least one entry in 'urls'"⟩
    | .ok targets => .ok (targets.filterMap fun url =>
        (web.fetchPage url).bind fun page => buildDocument lower web url page.1 page.2.1 page.2.2)
  typed options documents h d hd := by
    split at h
    · cases h
    · cases h
    · obtain rfl := Except.ok.inj h
      obtain ⟨url, -, hpage⟩ := List.mem_filterMap.1 hd
      obtain ⟨page, -, hbuild⟩ := Option.bind_eq_some_iff.1 hpage
      simp only [buildDocument] at hbuild
      split_ifs at hbuild <;> obtain rfl := Option.some.inj hbuild <;> rfl

end Loaders

end Rag
end TopChoice
