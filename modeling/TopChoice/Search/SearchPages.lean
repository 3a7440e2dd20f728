/-
# Pages of a search

`GET /api/search`: `pagination_params` of `app/api/deps.py`, `search_properties` of
`app/api/search_routes.py`, `SearchQuery` of `app/schemas/search.py`, `build_sort`
and `build_search_body` of `app/services/query_builder.py`, `search` of
`app/services/search_service.py` and `page_meta` of `app/core/envelope.py`.

Elasticsearch refuses a search that reaches beyond `index.max_result_window`, and
else returns a slice of the hits in an order that respects the sort.  Each page is
a search of its own.  Every sort ends with the field `id`, so there is one such
order, and the pages put together are it (`search_pages_partition`).  A last page
that is not full may still reach beyond the window, and is refused.

The content of the index is fixed, so the response cache is left out, and so are
`took`, `maxScore` and `cached` of the response.  The shape of one result is
`mapHit`.
-/

import TopChoice.Search.Facets

namespace TopChoice
namespace Search

/-! ### Errors -/

/-- An entry of `details`. -/
structure ErrorDetail where
  field : String
  message : String
  type : Option String := none
  deriving DecidableEq, Repr

/-- `error_response`. -/
structure ErrorResponse where
  statusCode : ℕ
  code : String
  message : String
  details : List ErrorDetail
  deriving DecidableEq, Repr

/-- `ValidationAppError`. -/
def validationAppError (message : String) (details : List ErrorDetail) : ErrorResponse :=
  ⟨422, "VALIDATION_ERROR", message, details⟩

/-- `_request_validation_handler`. -/
def requestValidation (details : List ErrorDetail) : ErrorResponse :=
  ⟨422, "VALIDATION_ERROR", "Request validation failed", details⟩

/-- `MAX_RESULT_WINDOW`, which is `index.max_result_window` too. -/
def maxResultWindow : ℕ := 10000

/-- `DeepPaginationError`. -/
def deepPaginationError (page limit : ℕ) : ErrorResponse :=
  ⟨422, "PAGINATION_LIMIT_EXCEEDED",
    s!"page {page} with limit {limit} exceeds the {maxResultWindow} result window; " ++
      "narrow the filters instead of paging deeper",
    [{ field := "page", message := s!"page * limit must not exceed {maxResultWindow}" }]⟩

/-- `_es_api_error_handler`, for a search Elasticsearch refuses; its details, the text
of the client's exception, are left out. -/
def searchBackendError : ErrorResponse :=
  ⟨400, "SEARCH_BACKEND_ERROR", "Elasticsearch rejected the request", []⟩

/-! ### `pagination_params` -/

/-- `Pagination`, as `pagination_params` admits it. -/
structure Pagination where
  page : ℕ
  limit : ℕ
  page_pos : 1 ≤ page
  limit_pos : 1 ≤ limit
  limit_le : limit ≤ 100

/-- What the bounds on the query parameters `page` and `limit` say. -/
def paginationDetails (page limit : ℤ) : List ErrorDetail :=
  (if page < 1 then
    [⟨"query.page", "Input should be greater than or equal to 1", some "greater_than_equal"⟩]
  else []) ++
  (if limit < 1 then
    [⟨"query.limit", "Input should be greater than or equal to 1", some "greater_than_equal"⟩]
  else []) ++
  if 100 < limit then
    [⟨"query.limit", "Input should be less than or equal to 100", some "less_than_equal"⟩]
  else []

/-- `pagination_params`, with the setting `MAX_PAGE_SIZE`. -/
def paginationParams (maxPageSize : ℕ) (page limit : Option ℤ) :
    Except ErrorResponse Pagination :=
  let page := page.getD 1
  let limit := limit.getD 20
  if h : 1 ≤ page ∧ 1 ≤ limit ∧ limit ≤ 100 then
    if (maxPageSize : ℤ) < limit then
      .error (validationAppError s!"limit must not exceed {maxPageSize}"
        [{ field := "limit", message := s!"max {maxPageSize}" }])
    else if 10000 ≤ (page - 1) * limit then
      .error (validationAppError "Pagination window exceeded: page * limit must stay below 10000"
        [{ field := "page", message := "deep pagination is not supported" }])
    else
      .ok { page := page.toNat
            limit := limit.toNat
            page_pos := by omega
            limit_pos := by omega
            limit_le := by omega }
  else .error (requestValidation (paginationDetails page limit))

/-! ### The search body -/

/-- `SortOption`. -/
inductive SortOption where
  | relevance
  | priceAsc
  | priceDesc
  | newest
  | areaDesc
  deriving DecidableEq, Repr

/-- `SORT_SPECS`. -/
def sortSpecs : SortOption → List Elastic.SortClause
  | .relevance => [{ field := "_score", desc := true }]
  | .priceAsc => [{ field := "price" }]
  | .priceDesc => [{ field := "price", desc := true }]
  | .newest => [{ field := "publishedAt", desc := true }]
  | .areaDesc => [{ field := "areaSqm", desc := true }]

/-- `SORT_TIEBREAKER`. -/
def sortTiebreaker : Elastic.SortClause := { field := "id" }

/-- `build_sort`. -/
def buildSort (sort : SortOption) : List Elastic.SortClause := sortSpecs sort ++ [sortTiebreaker]

/-- `SearchQuery`. -/
structure SearchQuery extends Pagination where
  filters : SearchFilters
  sort : SortOption
  withFacets : Bool

/-- `offset`. -/
def SearchQuery.offset (query : SearchQuery) : ℕ := (query.page - 1) * query.limit

/-- `window_exceeded`. -/
def SearchQuery.windowExceeded (query : SearchQuery) : Bool :=
  decide (maxResultWindow < query.offset + query.limit)

/-- `build_search_body`, as far as it selects, sorts and cuts. -/
structure SearchBody where
  query : Elastic.BoolQuery Native
  sort : List Elastic.SortClause
  skip : ℕ
  size : ℕ

/-- `build_search_body`; `from` is a keyword here. -/
def buildSearchBody (filters : SearchFilters) (sort : SortOption) (skip size : ℕ) : SearchBody where
  query := buildQuery filters
  sort := buildSort sort
  skip := skip
  size := size

/-! ### The answer -/

/-- `PageMeta`. -/
structure PageMeta where
  page : ℕ
  limit : ℕ
  total : ℕ
  totalPages : ℕ
  deriving DecidableEq, Repr

/-- `page_meta`. -/
def pageMeta (page limit total : ℕ) : PageMeta :=
  let safeLimit := max 1 limit
  { page := max 1 page
    limit := safeLimit
    total := total
    totalPages := if total = 0 then 0 else Paging.pageCount total safeLimit }

/-- `hits` of a response of Elasticsearch: the slice, and the number of all hits, which
`track_total_hits` asks for. -/
structure EsHits (δ : Type) where
  hits : List δ
  total : ℕ

/-- `SearchResults` in its envelope. -/
structure SearchResults (δ : Type) where
  results : List δ
  facets : Option FacetSet
  info : PageMeta

/-- The query parameters of `GET /api/search`, the filters validated. -/
structure SearchParams where
  filters : SearchFilters
  sort : SortOption
  facets : Bool
  page : Option ℤ
  limit : Option ℤ

/-- The same search, another page. -/
def SearchParams.nth (params : SearchParams) (k : ℕ) : SearchParams :=
  { params with page := some (k + 1 : ℕ) }

section Service

variable {δ : Type} (e : Elastic.Engine δ Native) (docs : List δ) (labels : Labels)
  (maxPageSize : ℕ)

/-- An order Elasticsearch may rank the hits of a search body in. -/
def Ranking (body : SearchBody) (ranked : List δ) : Prop :=
  Paging.InOrder (Elastic.sortLe e body.sort) (Elastic.hits e body.query docs) ranked

/-- The number of documents the filters match. -/
def SearchParams.matches (params : SearchParams) : ℕ :=
  (Elastic.hits e (buildQuery params.filters) docs).length

/-- A ranking for the pages of a search; where they begin does not matter for it. -/
def SearchParams.Ranked (params : SearchParams) (ranked : List δ) : Prop :=
  ∀ skip size, Ranking e docs (buildSearchBody params.filters params.sort skip size) ranked

/-- `es.search`, over the ranked hits; a search beyond the window is refused. -/
def esSearch (body : SearchBody) (ranked : List δ) : Option (EsHits δ) :=
  if maxResultWindow < body.skip + body.size then none
  else some ⟨Paging.slice body.skip body.size ranked, ranked.length⟩

/-- `search`. -/
def search (query : SearchQuery) (ranked : List δ) : Except ErrorResponse (SearchResults δ) :=
  match esSearch (buildSearchBody query.filters query.sort query.offset query.limit) ranked with
  | none => .error searchBackendError
  | some found => .ok
      { results := found.hits
        facets := if query.withFacets then some (facets e docs labels query.filters) else none
        info := pageMeta query.page query.limit found.total }

/-- `search_properties`. -/
def searchProperties (params : SearchParams) (ranked : List δ) :
    Except ErrorResponse (SearchResults δ) :=
  match paginationParams maxPageSize params.page params.limit with
  | .error error => .error error
  | .ok pagination =>
    let query : SearchQuery :=
      { toPagination := pagination
        filters := params.filters
        sort := params.sort
        withFacets := params.facets }
    if query.windowExceeded then .error (deepPaginationError query.page query.limit)
    else search e docs labels query ranked

/-- The results of the first pages put together, the `k`-th (from 0) from a ranking
of its own. -/
def searchPages (params : SearchParams) (ranked : ℕ → List δ) (n : ℕ) :
    Except ErrorResponse (List δ) :=
  ((List.range n).mapM fun k =>
    (searchProperties e docs labels maxPageSize (params.nth k) (ranked k)).map (·.results)).map
      List.flatten

variable {e docs labels maxPageSize} {params : SearchParams} {ranked : List δ}

/-! ### The window -/

/-- What `pagination_params` admits. -/
theorem paginationParams_ok {page limit : Option ℤ} {pagination : Pagination}
    (h : paginationParams maxPageSize page limit = .ok pagination) :
    (pagination.page : ℤ) = page.getD 1 ∧ (pagination.limit : ℤ) = limit.getD 20 := by
  simp only [paginationParams] at h
  split_ifs at h with hbounds
  cases h
  constructor <;> simp only <;> omega

/-- A page that begins inside the window is admitted. -/
theorem exists_paginationParams {page limit : ℕ} {limit? : Option ℤ} (hpage : 1 ≤ page)
    (hlimit : 1 ≤ limit) (hle : limit ≤ 100) (hmax : limit ≤ maxPageSize)
    (hlimit? : limit?.getD 20 = limit) (hwindow : (page - 1) * limit < 10000) :
    ∃ pagination, paginationParams maxPageSize (some page) limit? = .ok pagination ∧
      pagination.page = page ∧ pagination.limit = limit := by
  have hbounds : 1 ≤ (page : ℤ) ∧ 1 ≤ (limit : ℤ) ∧ (limit : ℤ) ≤ 100 := by omega
  have hmax' : ¬ (maxPageSize : ℤ) < limit := by omega
  have hwindow' : ¬ 10000 ≤ ((page : ℤ) - 1) * limit := by
    have hcast : ((page : ℤ) - 1) * limit = ((page - 1) * limit : ℕ) := by
      push_cast [Nat.cast_sub hpage]
      rfl
    rw [hcast]
    omega
  refine ⟨{ page := page, limit := limit, page_pos := hpage, limit_pos := hlimit,
            limit_le := hle }, ?_, rfl, rfl⟩
  simp only [paginationParams, Option.getD_some, hlimit?, dif_pos hbounds, if_neg hmax',
    if_neg hwindow', Int.toNat_natCast]

/-- The query an answered search ran: its window was checked. -/
theorem searchProperties_ok {response : SearchResults δ}
    (h : searchProperties e docs labels maxPageSize params ranked = .ok response) :
    ∃ query : SearchQuery, query.windowExceeded = false ∧
      (query.page : ℤ) = params.page.getD 1 ∧ (query.limit : ℤ) = params.limit.getD 20 := by
  simp only [searchProperties] at h
  split at h
  · cases h
  · next pagination hpagination =>
      split_ifs at h with hwindow
      obtain ⟨hpage, hlimit⟩ := paginationParams_ok hpagination
      exact ⟨_, by simpa using hwindow, hpage, hlimit⟩

/-- The query of admitted parameters, when it is inside the window. -/
theorem searchProperties_eq {pagination : Pagination}
    (h : paginationParams maxPageSize params.page params.limit = .ok pagination)
    (hwindow : (pagination.page - 1) * pagination.limit + pagination.limit ≤ maxResultWindow) :
    searchProperties e docs labels maxPageSize params ranked =
      search e docs labels ⟨pagination, params.filters, params.sort, params.facets⟩ ranked := by
  have hnot : ¬ maxResultWindow <
      (pagination.page - 1) * pagination.limit + pagination.limit := by omega
  simp only [searchProperties, h, SearchQuery.windowExceeded, SearchQuery.offset,
    decide_eq_true_eq, hnot, if_false]

/-- **Elasticsearch refuses no search inside the window.** -/
theorem search_eq_ok {query : SearchQuery} (h : query.offset + query.limit ≤ maxResultWindow) :
    search e docs labels query ranked = .ok
      { results := Paging.slice query.offset query.limit ranked
        facets := if query.withFacets then some (facets e docs labels query.filters) else none
        info := pageMeta query.page query.limit ranked.length } := by
  have hnot : ¬ maxResultWindow < query.offset + query.limit := by omega
  have hfound : esSearch (buildSearchBody query.filters query.sort query.offset query.limit) ranked =
      some ⟨Paging.slice query.offset query.limit ranked, ranked.length⟩ := if_neg hnot
  rw [search, hfound]

/-- The pages of the total. -/
theorem totalPages_pageMeta {page limit total : ℕ} (hlimit : 1 ≤ limit) :
    (pageMeta page limit total).totalPages = Paging.pageCount total limit := by
  simp only [pageMeta, Nat.max_eq_right hlimit]
  split
  · next h => rw [h, Paging.pageCount, Nat.div_eq_of_lt (by omega)]
  · rfl

variable (e docs labels ranked) in
/-- The slice and the number of pages of a page inside the window. -/
theorem searchProperties_nth {k limit : ℕ} (hlimit : 1 ≤ limit) (hle : limit ≤ 100)
    (hmax : limit ≤ maxPageSize) (hparams : params.limit.getD 20 = limit)
    (hwindow : (k + 1) * limit ≤ maxResultWindow) :
    ∃ response, searchProperties e docs labels maxPageSize (params.nth k) ranked = .ok response ∧
      response.results = Paging.slice (k * limit) limit ranked ∧
      response.info.totalPages = Paging.pageCount ranked.length limit := by
  have hsucc : (k + 1) * limit = k * limit + limit := Nat.succ_mul k limit
  have hskip : (k + 1 - 1) * limit < 10000 := by
    rw [Nat.add_sub_cancel]
    have : maxResultWindow = 10000 := rfl
    omega
  obtain ⟨pagination, hok, hpage, hlimit'⟩ :=
    exists_paginationParams (Nat.le_add_left 1 k) hlimit hle hmax hparams hskip
  have hoffset : (pagination.page - 1) * pagination.limit = k * limit := by
    rw [hpage, hlimit', Nat.add_sub_cancel]
  have hfits : (pagination.page - 1) * pagination.limit + pagination.limit ≤ maxResultWindow := by
    rw [hoffset, hlimit']
    omega
  have hok' : paginationParams maxPageSize (params.nth k).page (params.nth k).limit =
      .ok pagination := hok
  refine ⟨_, (searchProperties_eq hok' hfits).trans (search_eq_ok hfits), ?_, ?_⟩
  · rw [← hoffset, ← hlimit']
    rfl
  · rw [← hlimit']
    exact totalPages_pageMeta pagination.limit_pos

/-! ### The pages put together -/

/-- A loop whose steps all succeed. -/
theorem mapM_eq_ok {ε α β : Type} {f : α → Except ε β} {g : α → β} :
    ∀ {l : List α}, (∀ a ∈ l, f a = .ok (g a)) → l.mapM f = .ok (l.map g)
  | [], _ => rfl
  | a :: l, h => by
      have hl := mapM_eq_ok fun b hb => h b (List.mem_cons_of_mem _ hb)
      rw [List.mapM_cons, h a (List.mem_cons_self ..), hl]
      rfl

/-- Every step of a loop that succeeds does. -/
theorem exists_of_mapM_ok {ε α β : Type} {f : α → Except ε β} :
    ∀ {l : List α} {r : List β}, l.mapM f = .ok r → ∀ a ∈ l, ∃ b, f a = .ok b
  | [], _, _, _, ha => absurd ha List.not_mem_nil
  | a :: l, r, h, x, hx => by
      rw [List.mapM_cons] at h
      cases hfirst : f a with
      | error error => rw [hfirst] at h; cases h
      | ok b =>
          rw [hfirst] at h
          rcases List.mem_cons.1 hx with rfl | hx
          · exact ⟨b, hfirst⟩
          · cases hrest : l.mapM f with
            | error error =>
                rw [hrest] at h
                cases h
            | ok bs => exact exists_of_mapM_ok hrest x hx

/-- The first pages inside the window are the slices of their rankings. -/
theorem searchPages_eq {limit n : ℕ} {ranked : ℕ → List δ} (hlimit : 1 ≤ limit)
    (hle : limit ≤ 100) (hmax : limit ≤ maxPageSize) (hparams : params.limit.getD 20 = limit)
    (hwindow : n * limit ≤ maxResultWindow) :
    searchPages e docs labels maxPageSize params ranked n =
      .ok (Paging.pages limit n ranked) := by
  have hpage : ∀ k ∈ List.range n,
      (searchProperties e docs labels maxPageSize (params.nth k) (ranked k)).map (·.results) =
        .ok (Paging.slice (k * limit) limit (ranked k)) := by
    intro k hk
    have hfits : (k + 1) * limit ≤ maxResultWindow :=
      (Nat.mul_le_mul_right limit (List.mem_range.1 hk)).trans hwindow
    obtain ⟨response, hok, hresults, -⟩ := searchProperties_nth e docs labels (ranked k)
      hlimit hle hmax hparams hfits
    rw [hok, ← hresults]
    rfl
  rw [searchPages, mapM_eq_ok hpage, Paging.pages, List.flatMap_def]
  rfl

end Service

section Partition

variable {φ : Type} {e : Elastic.Engine (EsDoc φ) Native} {docs : List (EsDoc φ)}
  {labels : Labels} {maxPageSize : ℕ}

/-- The tiebreaker leaves no ties among the documents of an index. -/
theorem buildSort_strict (hid : ∀ d ∈ docs, e.values d "id" = [.keyword d.id])
    (hnodup : (docs.map (·.id)).Nodup) (query : Elastic.BoolQuery Native) (sort : SortOption) :
    ∀ a ∈ Elastic.hits e query docs, ∀ b ∈ Elastic.hits e query docs,
      Elastic.sortLe e (buildSort sort) a b = true →
        Elastic.sortLe e (buildSort sort) b a = true → a = b := by
  have hmem : sortTiebreaker ∈ buildSort sort := by simp [buildSort]
  refine Elastic.sortLe_antisymm EsDoc.id hmem (fun d hd => hid d ?_) fun a ha b hb => ?_
  · exact List.mem_of_mem_filter hd
  · exact List.inj_on_of_nodup_map hnodup (List.mem_of_mem_filter ha) (List.mem_of_mem_filter hb)

variable (labels maxPageSize) in
/-- **The pages of a search partition its hits.**  No search that is answered reaches
beyond the result window.  When the hits end inside the last full page of the window,
each page up to `totalPages` is answered, and put together they are the hits, each once,
in the order asked for, whatever ranking each page was cut from. -/
theorem search_pages_partition (hid : ∀ d ∈ docs, e.values d "id" = [.keyword d.id])
    (hnodup : (docs.map (·.id)).Nodup) (params : SearchParams) :
    (∀ ranked response,
      searchProperties e docs labels maxPageSize params ranked = .ok response →
        1 ≤ params.page.getD 1 ∧ 1 ≤ params.limit.getD 20 ∧
          (params.page.getD 1 - 1) * params.limit.getD 20 + params.limit.getD 20 ≤
            maxResultWindow) ∧
    ∀ limit : ℕ, params.limit.getD 20 = limit → 1 ≤ limit → limit ≤ 100 → limit ≤ maxPageSize →
      params.matches e docs ≤ maxResultWindow / limit * limit →
      ∀ ranked : ℕ → List (EsDoc φ), (∀ k, params.Ranked e docs (ranked k)) →
        (∀ k, k = 0 ∨ k < Paging.pageCount (params.matches e docs) limit → ∃ response,
          searchProperties e docs labels maxPageSize (params.nth k) (ranked k) = .ok response ∧
            response.info.totalPages = Paging.pageCount (params.matches e docs) limit) ∧
        ∃ pages,
          searchPages e docs labels maxPageSize params ranked
            (Paging.pageCount (params.matches e docs) limit) = .ok pages ∧
          Paging.InOrder (Elastic.sortLe e (sortSpecs params.sort))
            (Elastic.hits e (buildQuery params.filters) docs) pages ∧
          pages.Nodup := by
  refine ⟨fun ranked response hok => ?_, fun limit hparams hlimit hle hmax hmatches ranked hrank => ?_⟩
  · obtain ⟨query, hwindow, hpage, hlimit⟩ := searchProperties_ok hok
    have hpage_pos := query.page_pos
    have hfits : query.offset + query.limit ≤ maxResultWindow := by
      simpa [SearchQuery.windowExceeded] using hwindow
    have hoffset : ((query.page : ℤ) - 1) * query.limit = query.offset := by
      rw [SearchQuery.offset]
      push_cast [Nat.cast_sub hpage_pos]
      rfl
    have := query.limit_pos
    rw [← hpage, ← hlimit, hoffset]
    omega
  · have hwindow : Paging.pageCount (params.matches e docs) limit * limit ≤ maxResultWindow := by
      have hcount : Paging.pageCount (params.matches e docs) limit ≤ maxResultWindow / limit := by
        rw [Paging.pageCount, ← Nat.lt_succ_iff, Nat.div_lt_iff_lt_mul hlimit, Nat.succ_mul]
        omega
      exact (Nat.mul_le_mul_right limit hcount).trans (Nat.div_mul_le_self ..)
    have hranked : ∀ k, Paging.InOrder (Elastic.sortLe e (buildSort params.sort))
        (Elastic.hits e (buildQuery params.filters) docs) (ranked k) := fun k => hrank k 0 0
    refine ⟨fun k hk => ?_, ?_⟩
    · have hfits : (k + 1) * limit ≤ maxResultWindow := by
        rcases hk with rfl | hk
        · have : maxResultWindow = 10000 := rfl
          omega
        · exact (Nat.mul_le_mul_right limit hk).trans hwindow
      obtain ⟨response, hok, -, htotal⟩ := searchProperties_nth e docs labels (ranked k)
        hlimit hle hmax hparams hfits
      exact ⟨response, hok, by rw [htotal, (hranked k).1.length_eq, SearchParams.matches]⟩
    · have hpages := Paging.pages_of_strict hlimit
        (buildSort_strict hid hnodup (buildQuery params.filters) params.sort) hranked (hranked 0)
      refine ⟨ranked 0, ?_, ⟨(hranked 0).1, ?_⟩, ?_⟩
      · rw [searchPages_eq hlimit hle hmax hparams hwindow, SearchParams.matches, hpages]
      · exact (hranked 0).2.imp Elastic.sortLe_of_append
      · exact (hranked 0).1.nodup_iff.2 ((hnodup.of_map EsDoc.id).filter _)

/-- The sorted hits are a ranking. -/
theorem ranked_insertionSort (params : SearchParams) : params.Ranked e docs
    ((Elastic.hits e (buildQuery params.filters) docs).insertionSort fun a b =>
      Elastic.sortLe e (buildSort params.sort) a b = true) := fun _ _ =>
  Paging.inOrder_insertionSort (Elastic.sortLe_preorder e (buildSort params.sort)) _

end Partition

/-! ### Two searches -/

/-- An engine for documents with a price. -/
def priceEngine : Elastic.Engine (EsDoc ℤ) Native where
  values d field :=
    if field = "id" then [.keyword d.id] else if field = "price" then [.integer d.fields] else []
  native _ _ := true

/-- The cheapest first, two a page. -/
def demoParams : SearchParams where
  filters := {}
  sort := .priceAsc
  facets := false
  page := none
  limit := some 2

/-- Three listings, two at one price. -/
def demoListings : List (EsDoc ℤ) := [⟨"villa-1", 0, 9⟩, ⟨"villa-2", 0, 5⟩, ⟨"villa-3", 0, 9⟩]

/-- Two pages show the three listings. -/
theorem search_pages_partition_demo :
    ∃ pages, searchPages priceEngine demoListings demoLabels 100 demoParams
        (fun _ => (Elastic.hits priceEngine (buildQuery {}) demoListings).insertionSort fun a b =>
          Elastic.sortLe priceEngine (buildSort .priceAsc) a b = true) 2 = .ok pages ∧
      pages.Perm demoListings := by
  have hid : ∀ d ∈ demoListings, priceEngine.values d "id" = [.keyword d.id] := fun _ _ => rfl
  have hmatches : demoParams.matches priceEngine demoListings = 3 := by decide
  obtain ⟨-, hpartition⟩ := search_pages_partition demoLabels 100 hid (by decide) demoParams
  obtain ⟨-, pages, hok, horder, -⟩ := hpartition 2 rfl (by decide) (by decide) (by decide)
    (by rw [hmatches]; decide) _ fun _ => ranked_insertionSort demoParams
  refine ⟨pages, ?_, ?_⟩
  · rw [hmatches] at hok
    exact hok
  · have hall : Elastic.hits priceEngine (buildQuery demoParams.filters) demoListings =
        demoListings := by decide
    rw [← hall]
    exact horder.1

/-- The cheapest first, thirty a page. -/
def thirtyParams : SearchParams := { demoParams with limit := some 30 }

/-- A listing with an id of so many letters. -/
def letterDoc (k : ℕ) : EsDoc ℤ := ⟨String.ofList (List.replicate k 'a'), 0, 0⟩

theorem letterDoc_injective : Function.Injective fun k => (letterDoc k).id := fun j k h => by
  have hlength := congrArg (fun s : String => s.toList.length) h
  simpa [letterDoc] using hlength

/-- As many listings as the window has places. -/
def fullIndex : List (EsDoc ℤ) := (List.range 10000).map letterDoc

/-- A search without filters matches every listing. -/
theorem matches_thirtyParams (docs : List (EsDoc ℤ)) :
    thirtyParams.matches priceEngine docs = docs.length :=
  congrArg List.length (List.filter_eq_self.2 fun _ _ => by rfl)

/-- **A last page that is not full is refused at the end of the window:** 10000 matches
in pages of 30 make 334 pages, and page 334 ends at place 10020. -/
theorem last_page_is_refused :
    ¬ ∀ (docs : List (EsDoc ℤ)) (e : Elastic.Engine (EsDoc ℤ) Native),
      (docs.map (·.id)).Nodup → (∀ d ∈ docs, e.values d "id" = [.keyword d.id]) →
      ∀ (params : SearchParams) (limit : ℕ), params.sort ≠ .relevance →
        params.limit.getD 20 = limit → 1 ≤ limit → limit ≤ 100 →
        params.matches e docs ≤ maxResultWindow →
        ∀ ranked : ℕ → List (EsDoc ℤ), (∀ k, params.Ranked e docs (ranked k)) →
          ∃ pages, searchPages e docs demoLabels 100 params ranked
            (Paging.pageCount (params.matches e docs) limit) = .ok pages := by
  intro h
  have hnodup : (fullIndex.map (·.id)).Nodup := by
    rw [fullIndex, List.map_map]
    exact List.nodup_range.map letterDoc_injective
  have hmatches : thirtyParams.matches priceEngine fullIndex = 10000 := by
    rw [matches_thirtyParams, fullIndex, List.length_map, List.length_range]
  obtain ⟨pages, hok⟩ := h fullIndex priceEngine hnodup (fun _ _ => rfl) thirtyParams 30
    (by decide) rfl (by decide) (by decide) (by rw [hmatches]; decide) _
    fun _ => ranked_insertionSort thirtyParams
  have hcount : Paging.pageCount 10000 30 = 334 := by decide
  rw [hmatches, hcount, searchPages] at hok
  generalize hpages : List.mapM (m := Except ErrorResponse) _ (List.range 334) = answers at hok
  cases answers with
  | error error => cases hok
  | ok answers =>
      obtain ⟨results, hlast⟩ := exists_of_mapM_ok hpages 333 (by decide)
      have hrefused : ∀ ranked, searchProperties priceEngine fullIndex demoLabels 100
          (thirtyParams.nth 333) ranked = .error (deepPaginationError 334 30) := fun _ => by rfl
      rw [hrefused] at hlast
      cases hlast

end Search
end TopChoice
