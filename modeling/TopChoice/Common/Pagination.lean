/-
# Pagination and sorting of list endpoints

`apps/api-core/src/common/utils/pagination.ts` and
`common/dto/pagination-query.dto.ts`, and what the list endpoints over Prisma
have in common: a `findMany` with `where`, `orderBy`, `skip` and `take` beside a
`count` with the same `where`.

`orderBy` names one column.  Postgres compares texts by a collation, puts nulls
last in ascending and first in descending order, and returns rows with equal
values in any order, each query its own (`ListEndpoint.Answers`).
-/

import TopChoice.Common.Text
import TopChoice.Lib.Paging

namespace TopChoice

/-! ### `pagination.ts` -/

/-- `MAX_PAGE_SIZE`. -/
def maxPageSize : ℕ := 100

/-- `PaginationQueryDto`, as its decorators admit it. -/
structure PaginationQueryDto where
  page : ℕ
  limit : ℕ
  sort : Option String
  page_pos : 1 ≤ page
  limit_pos : 1 ≤ limit
  limit_le : limit ≤ maxPageSize

/-- The offset. -/
def PaginationQueryDto.skip (p : PaginationQueryDto) : ℕ := (p.page - 1) * p.limit

/-- The alias of `limit` the query builders use. -/
def PaginationQueryDto.take (p : PaginationQueryDto) : ℕ := p.limit

/-- The request for the `k`-th page (from 0) of the same list. -/
def PaginationQueryDto.nth (p : PaginationQueryDto) (k : ℕ) : PaginationQueryDto :=
  { p with page := k + 1, page_pos := Nat.le_add_left .. }

/-- `PaginationMeta`. -/
structure PaginationMeta where
  page : ℕ
  limit : ℕ
  total : ℕ
  totalPages : ℕ
  deriving DecidableEq, Repr

/-- `normalizePagination`: the page and the limit, clamped. -/
def normalizePagination (page limit : ℤ) : ℕ × ℕ :=
  ((max 1 page).toNat, (min (maxPageSize : ℤ) (max 1 limit)).toNat)

/-- `buildPaginationMeta`. -/
def buildPaginationMeta (total : ℕ) (input : PaginationQueryDto) : PaginationMeta :=
  let (page, limit) := normalizePagination input.page input.limit
  { page, limit, total, totalPages := if total = 0 then 0 else Paging.pageCount total limit }

/-- `PaginatedResult`. -/
structure PaginatedResult (α : Type) where
  data : List α
  info : PaginationMeta

/-- `paginate`. -/
def paginate {α : Type} (data : List α) (total : ℕ) (input : PaginationQueryDto) :
    PaginatedResult α := ⟨data, buildPaginationMeta total input⟩

/-- `SortDirection`. -/
inductive SortDirection where
  | asc
  | desc
  deriving DecidableEq, Repr

/-- `ParsedSort`. -/
structure ParsedSort where
  field : String
  direction : SortDirection
  deriving DecidableEq, Repr

/-- `replace(/^[-+]/, '')`. -/
def stripSign : List Char → List Char
  | '-' :: rest => rest
  | '+' :: rest => rest
  | text => text

/-- `parseSort`: a leading `-` is for descending order, and a column that is not
allowed gives the fallback. -/
def parseSort (sort : Option String) (allowedFields : List String) (fallback : ParsedSort) :
    ParsedSort :=
  match sort with
  | none => fallback
  | some sort =>
    let trimmed := (trim sort).toList
    let direction := if trimmed.head? = some '-' then SortDirection.desc else .asc
    let field := String.ofList (stripSign trimmed)
    if field ∈ allowedFields then ⟨field, direction⟩ else fallback

/-- What a request admits is not clamped. -/
theorem normalizePagination_dto (p : PaginationQueryDto) :
    normalizePagination p.page p.limit = (p.page, p.limit) := by
  have := p.page_pos
  have := p.limit_pos
  have := p.limit_le
  simp only [normalizePagination, Prod.mk.injEq]
  omega

/-- The pages of a list are those of its total. -/
theorem totalPages_paginate {α : Type} (data : List α) (total : ℕ) (p : PaginationQueryDto) :
    (paginate data total p).info.totalPages = Paging.pageCount total p.limit := by
  simp only [paginate, buildPaginationMeta, normalizePagination_dto]
  split
  · next h =>
      have := p.limit_pos
      rw [h, Paging.pageCount, Nat.div_eq_of_lt (by omega)]
  · rfl

/-- `parseSort` names a column that is allowed, or it is the fallback. -/
theorem parseSort_mem {sort : Option String} {allowedFields : List String}
    {fallback : ParsedSort} (h : fallback.field ∈ allowedFields) :
    (parseSort sort allowedFields fallback).field ∈ allowedFields := by
  cases sort with
  | none => exact h
  | some sort =>
      by_cases hfield : String.ofList (stripSign (trim sort).toList) ∈ allowedFields
      · rw [parseSort, if_pos hfield]
        exact hfield
      · rw [parseSort, if_neg hfield]
        exact h

/-! ### Sorted columns -/

/-- The value a row has in the column it is sorted by. -/
inductive SortValue where
  | null
  | number (k : ℤ)
  | text (s : String)
  deriving DecidableEq, Repr

/-- What Postgres decides by itself: the matching of `contains` and of `equals`
without case, a column and a term each, and the order of texts. -/
structure Postgres where
  contains : String → String → Bool
  containsInsensitive : String → String → Bool
  equalsInsensitive : String → String → Bool
  collation : String → String → Bool
  collation_preorder : Paging.Preorder collation

/-- Ascending order, nulls last. -/
def SortValue.le (pg : Postgres) : SortValue → SortValue → Bool
  | _, .null => true
  | .null, _ => false
  | .number a, .number b => decide (a ≤ b)
  | .text a, .text b => pg.collation a b
  | .number _, .text _ => true
  | .text _, .number _ => false

/-- The order of the values is a total preorder. -/
theorem SortValue.le_preorder (pg : Postgres) : Paging.Preorder (SortValue.le pg) where
  total a b := by
    cases a <;> cases b <;> simp only [SortValue.le, or_true, true_or, decide_eq_true_eq]
    · exact Int.le_total ..
    · exact pg.collation_preorder.total ..
  trans a b c := by
    cases a <;> cases b <;> cases c <;>
      simp only [SortValue.le, decide_eq_true_eq, implies_true, forall_const, Bool.false_eq_true,
        false_imp_iff]
    · exact Int.le_trans
    · exact pg.collation_preorder.trans _ _ _

/-- `orderBy: { [field]: direction }`, on the values of the column. -/
def SortDirection.le (pg : Postgres) : SortDirection → SortValue → SortValue → Bool
  | .asc, a, b => a.le pg b
  | .desc, a, b => b.le pg a

/-- Either direction is a total preorder of the values. -/
theorem SortDirection.le_preorder (pg : Postgres) :
    ∀ direction : SortDirection, Paging.Preorder (direction.le pg)
  | .asc => SortValue.le_preorder pg
  | .desc =>
      { total := fun a b => (SortValue.le_preorder pg).total b a
        trans := fun a b c hab hbc => (SortValue.le_preorder pg).trans c b a hbc hab }

/-! ### List endpoints -/

/-- What a list endpoint is made of: its `where`, its sortable columns, the order
it falls back to, and the columns themselves. -/
structure ListEndpoint (Row Query : Type) where
  selects : Query → Row → Bool
  sortable : List String
  fallback : ParsedSort
  column : String → Row → SortValue

namespace ListEndpoint

variable {Row Query : Type} (e : ListEndpoint Row Query) (pg : Postgres)

/-- `toPrismaOrderBy(parseSort(query.sort, SORTABLE, fallback))`, as an order of rows. -/
def orderBy (p : PaginationQueryDto) (a b : Row) : Bool :=
  let sort := parseSort p.sort e.sortable e.fallback
  sort.direction.le pg (e.column sort.field a) (e.column sort.field b)

/-- An order Postgres may return the selected rows in. -/
def Answers (query : Query) (p : PaginationQueryDto) (rows answer : List Row) : Prop :=
  Paging.InOrder (e.orderBy pg p) (rows.filter (e.selects query)) answer

/-- `list`: the page of an answer, and the count. -/
def list (query : Query) (p : PaginationQueryDto) (rows answer : List Row) :
    PaginatedResult Row :=
  paginate (Paging.slice p.skip p.take answer) (rows.countP (e.selects query)) p

/-- The data of all pages of a list, put together. -/
def visited (query : Query) (p : PaginationQueryDto) (rows : List Row)
    (answer : ℕ → List Row) : List Row :=
  (List.range (e.list query p rows (answer 0)).info.totalPages).flatMap fun k =>
    (e.list query (p.nth k) rows (answer k)).data

variable {e pg}

theorem orderBy_preorder (p : PaginationQueryDto) : Paging.Preorder (e.orderBy pg p) where
  total _ _ := (SortDirection.le_preorder pg _).total _ _
  trans _ _ _ := (SortDirection.le_preorder pg _).trans _ _ _

/-- All pages of a list are the pages of its answers. -/
theorem visited_eq (query : Query) (p : PaginationQueryDto) (rows : List Row)
    (answer : ℕ → List Row) :
    e.visited query p rows answer = Paging.pages p.limit
      (Paging.pageCount (rows.filter (e.selects query)).length p.limit) answer := by
  rw [visited, list, totalPages_paginate, List.countP_eq_length_filter]
  rfl

end ListEndpoint

end TopChoice
