/-
# Explicit filters in the search

`QueryFilters.merge` of `app/retrieval/filters.py` and `build_filter_sql` of
`app/retrieval/hybrid_search.py`: the filters read out of a question are overlaid with those a
caller gives, field by field, and the outcome is a condition on the metadata of a chunk.

The condition joins all fields with `AND`, but the area's name and its id with `OR`.  So an id
that the question names stands beside the name the caller gives and admits what the caller
excludes (`explicit_filters_bind_iff`).  A price bound is sent as a `double`, which is the
bound itself only as far as a `double` has the digits.

What PostgreSQL does beyond the order of JSON values is a parameter.
-/

import TopChoice.Lib.Jsonb
import TopChoice.Rag.Filters

namespace TopChoice
namespace Rag

/-- What the queries take from PostgreSQL. -/
structure Postgres where
  /-- `lower(text)`. -/
  lower : String → String
  /-- The number `to_jsonb` writes for a `double precision`: the shortest decimal that is read
  as it. -/
  toJsonb : ℚ → ℚ
  /-- What `->>` writes for a value that is not a text. -/
  written : Jsonb → String

/-- `QueryFilters` as a caller sets them, with any whole numbers. -/
structure Constraints where
  minPrice : Option ℤ := none
  maxPrice : Option ℤ := none
  area : Option String := none
  areaId : Option String := none
  propertyType : Option String := none
  bedrooms : Option ℤ := none
  compound : Option String := none
  developer : Option String := none
  sourceTypes : List String := []
  lang : Option String := none
  deriving DecidableEq, Repr

/-- The filters read out of a question. -/
def QueryFilters.constraints (filters : QueryFilters) : Constraints where
  minPrice := filters.minPrice.map (↑)
  maxPrice := filters.maxPrice.map (↑)
  area := filters.area
  areaId := filters.areaId
  propertyType := filters.propertyType
  bedrooms := filters.bedrooms.map (↑)
  compound := filters.compound
  developer := filters.developer
  sourceTypes := filters.sourceTypes
  lang := filters.lang

/-- The text, where it is one and not empty. -/
def truthy (text : Option String) : Option String := text.filter (· ≠ "")

/-- `a or b`, of texts. -/
def textOr (a b : Option String) : Option String := if (truthy a).isSome then a else b

/-- `merge`. -/
def Constraints.merge (self : Constraints) (other : Option Constraints) : Constraints :=
  match other with
  | none => self
  | some other => {
      minPrice := other.minPrice.or self.minPrice
      maxPrice := other.maxPrice.or self.maxPrice
      area := textOr other.area self.area
      areaId := textOr other.areaId self.areaId
      propertyType := textOr other.propertyType self.propertyType
      bedrooms := other.bedrooms.or self.bedrooms
      compound := textOr other.compound self.compound
      developer := textOr other.developer self.developer
      sourceTypes := if other.sourceTypes = [] then self.sourceTypes else other.sourceTypes
      lang := textOr other.lang self.lang }

/-! ### The condition -/

/-- A comparison of a field of the metadata with a parameter. -/
inductive Comparison where
  /-- `(c.metadata->'field') <= to_jsonb(CAST(:param AS double precision))`. -/
  | atMost (field : String) (param : ℚ)
  /-- `(c.metadata->'field') >= to_jsonb(CAST(:param AS double precision))`. -/
  | atLeast (field : String) (param : ℚ)
  /-- `(c.metadata->'field') = to_jsonb(CAST(:param AS integer))`. -/
  | isInteger (field : String) (param : ℤ)
  /-- `c.metadata->>'field' = :param`. -/
  | isText (field param : String)
  /-- `lower(c.metadata->>'field') = :param`. -/
  | isLower (field param : String)
  deriving DecidableEq, Repr

/-- What `build_filter_sql` renders: the listing clauses, each with its alternatives, and the
clauses of the document. -/
structure FilterSql where
  listing : List (List Comparison)
  sourceTypes : List String
  lang : Option String
  deriving DecidableEq, Repr

/-- `float(n)`, of a whole number. -/
def floatOfInt (n : ℤ) : Except Raised ℚ :=
  match PyFloat.nearest n.natAbs with
  | .finite value => .ok (n.sign * value)
  | .inf => .error ⟨"OverflowError", "int too large to convert to float"⟩

/-- The clause of a field that is set. -/
def clause {α : Type} (value : Option α) (comparison : α → Comparison) : List (List Comparison) :=
  (value.map fun value => [comparison value]).toList

/-- The clauses, with the price bounds as they are sent. -/
def rendered (u : Unicode) (filters : Constraints) (maxPrice minPrice : Option ℚ) : FilterSql :=
  let areaClauses :=
    ((truthy filters.area).map fun area => .isLower "area" (u.lower area)).toList ++
      ((truthy filters.areaId).map fun id => .isText "areaId" id).toList
  { listing :=
      clause maxPrice (.atMost "price") ++
        clause minPrice (.atLeast "price") ++
        clause (truthy filters.propertyType) (.isText "propertyType") ++
        clause filters.bedrooms (.isInteger "bedrooms") ++
        clause (truthy filters.compound) (fun name => .isLower "compound" (u.lower name)) ++
        clause (truthy filters.developer) (fun name => .isLower "developer" (u.lower name)) ++
        if areaClauses = [] then [] else [areaClauses]
    sourceTypes := filters.sourceTypes
    lang := truthy filters.lang }

/-- `build_filter_sql`. -/
def buildFilterSql (u : Unicode) (filters : Constraints) : Except Raised FilterSql := do
  let maxPrice ← filters.maxPrice.mapM floatOfInt
  let minPrice ← filters.minPrice.mapM floatOfInt
  return rendered u filters maxPrice minPrice

/-- A chunk with the columns of its document. -/
structure SearchRow where
  metadata : Jsonb
  sourceType : String
  lang : String

namespace Postgres

variable (pg : Postgres)

/-- The value of a comparison. -/
def compares (metadata : Jsonb) : Comparison → Option Bool
  | .atMost field param =>
      (metadata.get? field).map fun value => value.compareNumber (pg.toJsonb param) != .gt
  | .atLeast field param =>
      (metadata.get? field).map fun value => value.compareNumber (pg.toJsonb param) != .lt
  | .isInteger field param =>
      (metadata.get? field).map fun value => value.compareNumber param == .eq
  | .isText field param => (metadata.text? pg.written field).map (· == param)
  | .isLower field param => (metadata.text? pg.written field).map fun text => pg.lower text == param

/-- The parameters that `CAST(... AS integer)` takes. -/
def takes : Comparison → Bool
  | .isInteger _ param => decide (-2 ^ 31 ≤ param ∧ param < 2 ^ 31)
  | _ => true

/-- The value of the condition. -/
def condition (sql : FilterSql) (row : SearchRow) : Option Bool :=
  Jsonb.allOf [
    if sql.listing = [] then some true
    else Jsonb.anyOf [
      some ((row.metadata.text? pg.written "type").getD "" != "property"),
      Jsonb.allOf (sql.listing.map fun alternatives =>
        Jsonb.anyOf (alternatives.map (pg.compares row.metadata)))],
    if sql.sourceTypes = [] then some true else some (sql.sourceTypes.contains row.sourceType),
    match sql.lang with
    | none => some true
    | some lang => some (row.lang == lang)]

/-- The query runs, and its condition admits the row. -/
def admits (sql : FilterSql) (row : SearchRow) : Prop :=
  (∀ alternatives ∈ sql.listing, ∀ comparison ∈ alternatives, takes comparison = true) ∧
    pg.condition sql row = some true

end Postgres

/-! ### What a listing has to meet -/

/-- A chunk of a listing. -/
def SearchRow.IsListing (pg : Postgres) (row : SearchRow) : Prop :=
  row.metadata.text? pg.written "type" = some "property"

/-- The metadata of a listing meets every constraint that is set: a price that is a number is
within the bounds, and names are compared without regard to case. -/
structure Constraints.Met (pg : Postgres) (u : Unicode) (c : Constraints) (metadata : Jsonb) :
    Prop where
  maxPrice : ∀ n, c.maxPrice = some n → ∀ price, metadata.get? "price" = some (.number price) →
    price ≤ n
  minPrice : ∀ n, c.minPrice = some n → ∀ price, metadata.get? "price" = some (.number price) →
    n ≤ price
  area : ∀ name, truthy c.area = some name →
    ∃ text, metadata.text? pg.written "area" = some text ∧ pg.lower text = u.lower name
  areaId : ∀ id, truthy c.areaId = some id → metadata.text? pg.written "areaId" = some id
  propertyType : ∀ kind, truthy c.propertyType = some kind →
    metadata.text? pg.written "propertyType" = some kind
  bedrooms : ∀ n, c.bedrooms = some n →
    ∃ q, metadata.get? "bedrooms" = some (.number q) ∧ q = n
  compound : ∀ name, truthy c.compound = some name →
    ∃ text, metadata.text? pg.written "compound" = some text ∧ pg.lower text = u.lower name
  developer : ∀ name, truthy c.developer = some name →
    ∃ text, metadata.text? pg.written "developer" = some text ∧ pg.lower text = u.lower name

/-- A text is set when one of the two is. -/
theorem truthy_textOr (a b : Option String) : truthy (textOr a b) = (truthy a).or (truthy b) := by
  rw [textOr]
  cases ha : truthy a with
  | none => rw [Option.isSome_none, if_neg Bool.false_ne_true, Option.none_or]
  | some text => rw [Option.isSome_some, if_pos rfl, ha, Option.some_or]

/-- All alternatives of a field are one comparison. -/
theorem forall_clause {α : Type} {value : Option α} {comparison : α → Comparison}
    {P : List Comparison → Prop} :
    (∀ alternatives ∈ clause value comparison, P alternatives) ↔
      ∀ x, value = some x → P [comparison x] := by
  cases value with
  | none => simp [clause]
  | some x => simp [clause]

namespace Postgres

variable (pg : Postgres)

/-- **The condition on a listing.** -/
theorem condition_eq_true (sql : FilterSql) {row : SearchRow} (hrow : row.IsListing pg) :
    pg.condition sql row = some true ↔
      (∀ alternatives ∈ sql.listing, ∃ c ∈ alternatives,
        pg.compares row.metadata c = some true) ∧
      (sql.sourceTypes = [] ∨ row.sourceType ∈ sql.sourceTypes) ∧
      ∀ lang, sql.lang = some lang → row.lang = lang := by
  have hlisting : (if sql.listing = [] then some true
      else Jsonb.anyOf [
        some ((row.metadata.text? pg.written "type").getD "" != "property"),
        Jsonb.allOf (sql.listing.map fun alternatives =>
          Jsonb.anyOf (alternatives.map (pg.compares row.metadata)))]) = some true ↔
      ∀ alternatives ∈ sql.listing, ∃ c ∈ alternatives,
        pg.compares row.metadata c = some true := by
    split_ifs with hempty
    · simp [hempty]
    · have hall : Jsonb.allOf (sql.listing.map fun alternatives =>
          Jsonb.anyOf (alternatives.map (pg.compares row.metadata))) = some true ↔
          ∀ alternatives ∈ sql.listing, ∃ c ∈ alternatives,
            pg.compares row.metadata c = some true := by
        simp [Jsonb.allOf_eq_true, Jsonb.anyOf_eq_true]
      rw [hrow, Jsonb.anyOf_eq_true, ← hall]
      simp only [Option.getD_some, bne_self_eq_false, List.mem_cons, List.not_mem_nil, or_false,
        exists_eq_or_imp, exists_eq_left, Option.some.injEq, Bool.false_eq_true, false_or]
  have hsource : (if sql.sourceTypes = [] then some true
      else some (sql.sourceTypes.contains row.sourceType)) = some true ↔
      (sql.sourceTypes = [] ∨ row.sourceType ∈ sql.sourceTypes) := by
    split_ifs with hempty <;> simp [hempty]
  have hlang : (match sql.lang with
      | none => some true
      | some lang => some (row.lang == lang)) = some true ↔
      ∀ lang, sql.lang = some lang → row.lang = lang := by
    cases sql.lang <;> simp
  rw [condition, Jsonb.allOf_eq_true]
  simp only [List.forall_mem_cons, hlisting, hsource, hlang]
  simp

end Postgres

/-! ### The condition of the filters -/

section Rendered

variable {pg : Postgres} {u : Unicode} {filters : Constraints} {row : SearchRow}

/-- What the filters ask of a listing, field by field. -/
structure Asked (pg : Postgres) (u : Unicode) (filters : Constraints) (row : SearchRow) : Prop where
  maxPrice : ∀ n, filters.maxPrice = some n → ∃ value, floatOfInt n = .ok value ∧
    pg.compares row.metadata (.atMost "price" value) = some true
  minPrice : ∀ n, filters.minPrice = some n → ∃ value, floatOfInt n = .ok value ∧
    pg.compares row.metadata (.atLeast "price" value) = some true
  propertyType : ∀ kind, truthy filters.propertyType = some kind →
    pg.compares row.metadata (.isText "propertyType" kind) = some true
  bedrooms : ∀ n, filters.bedrooms = some n → (-2 ^ 31 ≤ n ∧ n < 2 ^ 31) ∧
    pg.compares row.metadata (.isInteger "bedrooms" n) = some true
  compound : ∀ name, truthy filters.compound = some name →
    pg.compares row.metadata (.isLower "compound" (u.lower name)) = some true
  developer : ∀ name, truthy filters.developer = some name →
    pg.compares row.metadata (.isLower "developer" (u.lower name)) = some true
  area : truthy filters.area ≠ none ∨ truthy filters.areaId ≠ none →
    (∃ name, truthy filters.area = some name ∧
      pg.compares row.metadata (.isLower "area" (u.lower name)) = some true) ∨
    ∃ id, truthy filters.areaId = some id ∧
      pg.compares row.metadata (.isText "areaId" id) = some true
  sourceTypes : filters.sourceTypes = [] ∨ row.sourceType ∈ filters.sourceTypes
  lang : ∀ lang, truthy filters.lang = some lang → row.lang = lang

/-- A bound is sent when `float` takes it. -/
theorem mapM_floatOfInt {bound : Option ℤ} {sent : Option ℚ} :
    bound.mapM floatOfInt = .ok sent ↔
      (∀ value, sent = some value → ∃ n, bound = some n ∧ floatOfInt n = .ok value) ∧
        ∀ n, bound = some n → ∃ value, sent = some value ∧ floatOfInt n = .ok value := by
  cases bound with
  | none => cases sent <;> simp [pure, Except.pure]
  | some n =>
    rw [Option.mapM_some]
    cases hn : floatOfInt n <;> cases sent <;> simp [Functor.map, Except.map, hn]

theorem exists_mapM_floatOfInt {bound : Option ℤ}
    (hbound : ∀ n, bound = some n → ∃ value, floatOfInt n = .ok value) :
    ∃ sent, bound.mapM floatOfInt = .ok sent := by
  cases bound with
  | none => exact ⟨none, rfl⟩
  | some n =>
    obtain ⟨value, hvalue⟩ := hbound n rfl
    exact ⟨some value, by rw [Option.mapM_some, hvalue]; rfl⟩

/-- The alternatives for the area. -/
theorem forall_areaClauses {P : List Comparison → Prop} {area areaId : Option Comparison} :
    (∀ alternatives ∈ (if area.toList ++ areaId.toList = [] then []
        else [area.toList ++ areaId.toList]), P alternatives) ↔
      (area ≠ none ∨ areaId ≠ none → P (area.toList ++ areaId.toList)) := by
  cases area <;> cases areaId <;> simp

/-- What holds of the clauses, field by field. -/
theorem forall_rendered {P : List Comparison → Prop} {maxPrice minPrice : Option ℚ} :
    (∀ alternatives ∈ (rendered u filters maxPrice minPrice).listing, P alternatives) ↔
      (∀ value, maxPrice = some value → P [.atMost "price" value]) ∧
      (∀ value, minPrice = some value → P [.atLeast "price" value]) ∧
      (∀ kind, truthy filters.propertyType = some kind → P [.isText "propertyType" kind]) ∧
      (∀ n, filters.bedrooms = some n → P [.isInteger "bedrooms" n]) ∧
      (∀ name, truthy filters.compound = some name → P [.isLower "compound" (u.lower name)]) ∧
      (∀ name, truthy filters.developer = some name → P [.isLower "developer" (u.lower name)]) ∧
      (truthy filters.area ≠ none ∨ truthy filters.areaId ≠ none →
        P (((truthy filters.area).map fun area => .isLower "area" (u.lower area)).toList ++
          ((truthy filters.areaId).map fun id => .isText "areaId" id).toList)) := by
  simp only [rendered, List.forall_mem_append, forall_clause, forall_areaClauses, ne_eq,
    Option.map_eq_none_iff, and_assoc]

/-- What is rendered. -/
theorem buildFilterSql_eq_ok {sql : FilterSql} :
    buildFilterSql u filters = .ok sql ↔ ∃ maxPrice minPrice,
      filters.maxPrice.mapM floatOfInt = .ok maxPrice ∧
        filters.minPrice.mapM floatOfInt = .ok minPrice ∧
          rendered u filters maxPrice minPrice = sql := by
  rw [buildFilterSql, Fallible.bind_eq_ok]
  constructor
  · rintro ⟨maxPrice, hmax, h⟩
    obtain ⟨minPrice, hmin, h⟩ := Fallible.bind_eq_ok.1 h
    exact ⟨maxPrice, minPrice, hmax, hmin, Except.ok.inj h⟩
  · rintro ⟨maxPrice, minPrice, hmax, hmin, rfl⟩
    exact ⟨maxPrice, hmax, Fallible.bind_eq_ok.2 ⟨minPrice, hmin, rfl⟩⟩

/-- Only the bedrooms are sent as an `integer`. -/
theorem admits_rendered (hrow : row.IsListing pg) (maxPrice minPrice : Option ℚ) :
    pg.admits (rendered u filters maxPrice minPrice) row ↔
      (∀ n, filters.bedrooms = some n → -2 ^ 31 ≤ n ∧ n < 2 ^ 31) ∧
      (∀ alternatives ∈ (rendered u filters maxPrice minPrice).listing, ∃ c ∈ alternatives,
        pg.compares row.metadata c = some true) ∧
      (filters.sourceTypes = [] ∨ row.sourceType ∈ filters.sourceTypes) ∧
      ∀ lang, truthy filters.lang = some lang → row.lang = lang := by
  rw [Postgres.admits, pg.condition_eq_true _ hrow, forall_rendered]
  refine and_congr_left fun _ => ?_
  constructor
  · intro h n hn
    simpa [Postgres.takes] using h.2.2.2.1 n hn
  · intro h
    refine ⟨?_, ?_, ?_, ?_, ?_, ?_, ?_⟩
    · simp [Postgres.takes]
    · simp [Postgres.takes]
    · simp [Postgres.takes]
    · simpa [Postgres.takes] using h
    · simp [Postgres.takes]
    · simp [Postgres.takes]
    · intro _ comparison hcomparison
      simp only [List.mem_append, Option.mem_toList, Option.map_eq_some_iff] at hcomparison
      rcases hcomparison with ⟨_, _, rfl⟩ | ⟨_, _, rfl⟩ <;> rfl

/-- **The condition asks what the filters set.** -/
theorem admits_iff_asked (hrow : row.IsListing pg) :
    (∃ sql, buildFilterSql u filters = .ok sql ∧ pg.admits sql row) ↔ Asked pg u filters row := by
  constructor
  · rintro ⟨sql, hrendered, h⟩
    obtain ⟨maxPrice, minPrice, hmax, hmin, rfl⟩ := buildFilterSql_eq_ok.1 hrendered
    obtain ⟨hrooms, hlisting, hsource, hlang⟩ := (admits_rendered hrow maxPrice minPrice).1 h
    obtain ⟨hmax', hmin', hkind, hbedrooms, hcompound, hdeveloper, harea⟩ :=
      forall_rendered.1 hlisting
    simp only [List.mem_singleton, exists_eq_left] at hmax' hmin' hkind hbedrooms hcompound
    simp only [List.mem_singleton, exists_eq_left] at hdeveloper
    constructor
    · intro n hn
      obtain ⟨value, hvalue, hfloat⟩ := (mapM_floatOfInt.1 hmax).2 n hn
      exact ⟨value, hfloat, hmax' value hvalue⟩
    · intro n hn
      obtain ⟨value, hvalue, hfloat⟩ := (mapM_floatOfInt.1 hmin).2 n hn
      exact ⟨value, hfloat, hmin' value hvalue⟩
    · exact hkind
    · exact fun n hn => ⟨hrooms n hn, hbedrooms n hn⟩
    · exact hcompound
    · exact hdeveloper
    · intro hset
      obtain ⟨c, hc, hcompares⟩ := harea hset
      simp only [List.mem_append, Option.mem_toList, Option.map_eq_some_iff] at hc
      rcases hc with ⟨name, hname, rfl⟩ | ⟨id, hid, rfl⟩
      · exact .inl ⟨name, hname, hcompares⟩
      · exact .inr ⟨id, hid, hcompares⟩
    · exact hsource
    · exact hlang
  · intro h
    obtain ⟨maxPrice, hmax⟩ := exists_mapM_floatOfInt fun n hn =>
      (h.maxPrice n hn).imp fun _ hvalue => hvalue.1
    obtain ⟨minPrice, hmin⟩ := exists_mapM_floatOfInt fun n hn =>
      (h.minPrice n hn).imp fun _ hvalue => hvalue.1
    refine ⟨_, buildFilterSql_eq_ok.2 ⟨maxPrice, minPrice, hmax, hmin, rfl⟩,
      (admits_rendered hrow _ _).2 ⟨fun n hn => (h.bedrooms n hn).1, forall_rendered.2 ?_,
        h.sourceTypes, h.lang⟩⟩
    simp only [List.mem_singleton, exists_eq_left]
    refine ⟨fun value hvalue => ?_, fun value hvalue => ?_, h.propertyType,
      fun n hn => (h.bedrooms n hn).2, h.compound, h.developer, fun hset => ?_⟩
    · obtain ⟨n, hn, hfloat⟩ := (mapM_floatOfInt.1 hmax).1 value hvalue
      obtain ⟨other, hother, hcompares⟩ := h.maxPrice n hn
      rw [hfloat] at hother
      exact Except.ok.inj hother ▸ hcompares
    · obtain ⟨n, hn, hfloat⟩ := (mapM_floatOfInt.1 hmin).1 value hvalue
      obtain ⟨other, hother, hcompares⟩ := h.minPrice n hn
      rw [hfloat] at hother
      exact Except.ok.inj hother ▸ hcompares
    · rcases h.area hset with ⟨name, hname, hcompares⟩ | ⟨id, hid, hcompares⟩
      · refine ⟨_, List.mem_append_left _ ?_, hcompares⟩
        rw [hname]
        exact List.mem_singleton_self _
      · refine ⟨_, List.mem_append_right _ ?_, hcompares⟩
        rw [hid]
        exact List.mem_singleton_self _

end Rendered

/-! ### Explicit filters -/

section Explicit

variable {pg : Postgres} {u : Unicode} {parsed explicit : Constraints}

/-- An area name the caller gives stands alone, and so does an area id: the caller does not give
both, and the question does not name the other. -/
def AreaAlone (parsed explicit : Constraints) : Prop :=
  (truthy explicit.area ≠ none → truthy explicit.areaId = none ∧ truthy parsed.areaId = none) ∧
    (truthy explicit.areaId ≠ none → truthy explicit.area = none ∧ truthy parsed.area = none)

/-- The price bounds the caller gives are sent as numbers that are no laxer. -/
def KeepsBounds (pg : Postgres) (explicit : Constraints) : Prop :=
  (∀ n value, explicit.maxPrice = some n → floatOfInt n = .ok value → pg.toJsonb value ≤ n) ∧
    ∀ n value, explicit.minPrice = some n → floatOfInt n = .ok value → n ≤ pg.toJsonb value

/-- Some listing can meet the filters: `float` takes the bounds, they do not cross, and the
bedrooms are an `integer`. -/
structure Satisfiable (pg : Postgres) (filters : Constraints) : Prop where
  maxPrice : ∀ n, filters.maxPrice = some n → ∃ value, floatOfInt n = .ok value
  minPrice : ∀ n, filters.minPrice = some n → ∃ value, floatOfInt n = .ok value
  bounds : ∀ low high bottom top, filters.minPrice = some low → filters.maxPrice = some high →
    floatOfInt low = .ok bottom → floatOfInt high = .ok top → pg.toJsonb bottom ≤ pg.toJsonb top
  bedrooms : ∀ n, filters.bedrooms = some n → -2 ^ 31 ≤ n ∧ n < 2 ^ 31

/-- A listing that meets the filters has a number for its price where both bounds are set. -/
theorem le_of_compares {metadata : Jsonb} {bottom top : ℚ}
    (htop : pg.compares metadata (.atMost "price" top) = some true)
    (hbottom : pg.compares metadata (.atLeast "price" bottom) = some true) :
    pg.toJsonb bottom ≤ pg.toJsonb top := by
  simp only [Postgres.compares, Option.map_eq_some_iff] at htop hbottom
  obtain ⟨price, hprice, htop⟩ := htop
  obtain ⟨_, hsame, hbottom⟩ := hbottom
  obtain rfl := Option.some.inj (hprice.symm.trans hsame)
  cases price with
  | number p =>
    exact (compare_ge_iff_ge.1 (bne_iff_ne.1 hbottom)).trans
      (compare_le_iff_le.1 (bne_iff_ne.1 htop))
  | null => exact absurd hbottom nofun
  | string s => exact absurd hbottom nofun
  | bool b => exact absurd htop nofun
  | object entries => exact absurd htop nofun
  | array items =>
    cases items with
    | nil => exact absurd hbottom nofun
    | cons item items => exact absurd htop nofun

/-- A listing met the filters, so some listing can. -/
theorem Asked.satisfiable {filters : Constraints} {row : SearchRow} (h : Asked pg u filters row) :
    Satisfiable pg filters where
  maxPrice n hn := (h.maxPrice n hn).imp fun _ hvalue => hvalue.1
  minPrice n hn := (h.minPrice n hn).imp fun _ hvalue => hvalue.1
  bounds low high bottom top hlow hhigh hbottom htop := by
    obtain ⟨bottom', hbottom', hleast⟩ := h.minPrice low hlow
    obtain ⟨top', htop', hmost⟩ := h.maxPrice high hhigh
    obtain rfl := Except.ok.inj (hbottom.symm.trans hbottom')
    obtain rfl := Except.ok.inj (htop.symm.trans htop')
    exact le_of_compares hmost hleast
  bedrooms n hn := (h.bedrooms n hn).1

/-- A price within the bounds. -/
theorem Satisfiable.exists_price {filters : Constraints} (h : Satisfiable pg filters) :
    ∃ price, (∀ n value, filters.maxPrice = some n → floatOfInt n = .ok value →
        price ≤ pg.toJsonb value) ∧
      ∀ n value, filters.minPrice = some n → floatOfInt n = .ok value →
        pg.toJsonb value ≤ price := by
  cases hmin : filters.minPrice with
  | some low =>
    obtain ⟨bottom, hbottom⟩ := h.minPrice low hmin
    refine ⟨pg.toJsonb bottom, fun n value hn hvalue => h.bounds low n bottom value hmin hn hbottom
      hvalue, fun n value hn hvalue => ?_⟩
    obtain rfl := Option.some.inj hn
    exact (congrArg pg.toJsonb (Except.ok.inj (hvalue.symm.trans hbottom))).le
  | none =>
    cases hmax : filters.maxPrice with
    | some high =>
      obtain ⟨top, htop⟩ := h.maxPrice high hmax
      refine ⟨pg.toJsonb top, fun n value hn hvalue => ?_, nofun⟩
      obtain rfl := Option.some.inj hn
      exact (congrArg pg.toJsonb (Except.ok.inj (htop.symm.trans hvalue))).le
    | none => exact ⟨0, nofun, nofun⟩

/-- A listing with a price and an area, which otherwise is as the filters ask. -/
def listingRow (u : Unicode) (filters : Constraints) (price : ℚ) (area areaId : Option String) :
    SearchRow where
  metadata := .object [
    ("type", .string "property"),
    ("price", .number price),
    ("propertyType", .string ((truthy filters.propertyType).getD "")),
    ("bedrooms", .number ((filters.bedrooms.getD 0 : ℤ) : ℚ)),
    ("compound", .string (u.lower ((truthy filters.compound).getD ""))),
    ("developer", .string (u.lower ((truthy filters.developer).getD ""))),
    ("area", (area.map Jsonb.string).getD .null),
    ("areaId", (areaId.map Jsonb.string).getD .null)]
  sourceType := filters.sourceTypes.headD ""
  lang := (truthy filters.lang).getD ""

section Listing

variable (filters : Constraints) (price : ℚ) (area areaId : Option String)

theorem text?_area_listingRow :
    (listingRow u filters price area areaId).metadata.text? pg.written "area" = area := by
  cases area <;> rfl

theorem text?_areaId_listingRow :
    (listingRow u filters price area areaId).metadata.text? pg.written "areaId" = areaId := by
  cases areaId <;> rfl

variable {filters price area areaId}

/-- **The listing meets the filters**, its price and its area permitting. -/
theorem asked_listingRow (hlower : ∀ s, pg.lower (u.lower s) = u.lower s)
    (h : Satisfiable pg filters)
    (hmax : ∀ n value, filters.maxPrice = some n → floatOfInt n = .ok value →
      price ≤ pg.toJsonb value)
    (hmin : ∀ n value, filters.minPrice = some n → floatOfInt n = .ok value →
      pg.toJsonb value ≤ price)
    (harea : truthy filters.area ≠ none ∨ truthy filters.areaId ≠ none →
      (∃ name, truthy filters.area = some name ∧ area = some (u.lower name)) ∨
        ∃ id, truthy filters.areaId = some id ∧ areaId = some id) :
    Asked pg u filters (listingRow u filters price area areaId) where
  maxPrice n hn := by
    obtain ⟨value, hvalue⟩ := h.maxPrice n hn
    refine ⟨value, hvalue, ?_⟩
    have hle := hmax n value hn hvalue
    have hcompares : pg.compares (listingRow u filters price area areaId).metadata
        (.atMost "price" value) = some (compare price (pg.toJsonb value) != .gt) := rfl
    rw [hcompares, Option.some_inj, bne_iff_ne]
    exact compare_le_iff_le.2 hle
  minPrice n hn := by
    obtain ⟨value, hvalue⟩ := h.minPrice n hn
    refine ⟨value, hvalue, ?_⟩
    have hle := hmin n value hn hvalue
    have hcompares : pg.compares (listingRow u filters price area areaId).metadata
        (.atLeast "price" value) = some (compare price (pg.toJsonb value) != .lt) := rfl
    rw [hcompares, Option.some_inj, bne_iff_ne]
    exact compare_ge_iff_ge.2 hle
  propertyType kind hkind := by
    have hcompares : pg.compares (listingRow u filters price area areaId).metadata
        (.isText "propertyType" kind) =
          some ((truthy filters.propertyType).getD "" == kind) := rfl
    rw [hcompares, hkind, Option.getD_some, beq_self_eq_true]
  bedrooms n hn := by
    refine ⟨h.bedrooms n hn, ?_⟩
    have hcompares : pg.compares (listingRow u filters price area areaId).metadata
        (.isInteger "bedrooms" n) =
          some (compare ((filters.bedrooms.getD 0 : ℤ) : ℚ) (n : ℚ) == .eq) := rfl
    rw [hcompares, hn, Option.getD_some, compare_eq_iff_eq.2 rfl]
    rfl
  compound name hname := by
    have hcompares : pg.compares (listingRow u filters price area areaId).metadata
        (.isLower "compound" (u.lower name)) =
          some (pg.lower (u.lower ((truthy filters.compound).getD "")) == u.lower name) := rfl
    rw [hcompares, hname, Option.getD_some, hlower, beq_self_eq_true]
  developer name hname := by
    have hcompares : pg.compares (listingRow u filters price area areaId).metadata
        (.isLower "developer" (u.lower name)) =
          some (pg.lower (u.lower ((truthy filters.developer).getD "")) == u.lower name) := rfl
    rw [hcompares, hname, Option.getD_some, hlower, beq_self_eq_true]
  area hset := by
    refine (harea hset).imp ?_ ?_
    · rintro ⟨name, hname, rfl⟩
      refine ⟨name, hname, ?_⟩
      rw [Postgres.compares, text?_area_listingRow, Option.map_some, hlower, beq_self_eq_true]
    · rintro ⟨id, hid, rfl⟩
      refine ⟨id, hid, ?_⟩
      rw [Postgres.compares, text?_areaId_listingRow, Option.map_some, beq_self_eq_true]
  sourceTypes := by
    cases hsource : filters.sourceTypes with
    | nil => exact .inl rfl
    | cons first rest =>
      right
      rw [listingRow, hsource]
      exact List.mem_cons_self
  lang lang hlang := by
    rw [listingRow, hlang, Option.getD_some]

end Listing

theorem merge_bounds (parsed explicit : Constraints) :
    (∀ n, explicit.maxPrice = some n → (parsed.merge (some explicit)).maxPrice = some n) ∧
      ∀ n, explicit.minPrice = some n → (parsed.merge (some explicit)).minPrice = some n :=
  ⟨fun n hn => by rw [Constraints.merge, hn, Option.some_or],
    fun n hn => by rw [Constraints.merge, hn, Option.some_or]⟩

/-- A text that the caller sets counts. -/
theorem truthy_textOr_of_some {a b : Option String} {text : String} (ha : truthy a = some text) :
    truthy (textOr a b) = some text := by
  rw [truthy_textOr, ha, Option.some_or]

/-- **The filters that stand alone bind.** -/
theorem met_of_asked {row : SearchRow} (harea : AreaAlone parsed explicit)
    (hbounds : KeepsBounds pg explicit) (h : Asked pg u (parsed.merge (some explicit)) row) :
    explicit.Met pg u row.metadata where
  maxPrice n hn price hprice := by
    obtain ⟨value, hvalue, hcompares⟩ := h.maxPrice n ((merge_bounds parsed explicit).1 n hn)
    simp only [Postgres.compares, hprice, Option.map_some, Jsonb.compareNumber_number,
      Option.some_inj, bne_iff_ne] at hcompares
    exact (compare_le_iff_le.1 hcompares).trans (hbounds.1 n value hn hvalue)
  minPrice n hn price hprice := by
    obtain ⟨value, hvalue, hcompares⟩ := h.minPrice n ((merge_bounds parsed explicit).2 n hn)
    simp only [Postgres.compares, hprice, Option.map_some, Jsonb.compareNumber_number,
      Option.some_inj, bne_iff_ne] at hcompares
    exact (hbounds.2 n value hn hvalue).trans (compare_ge_iff_ge.1 hcompares)
  area name hname := by
    have hset : truthy explicit.area ≠ none := by rw [hname]; exact Option.some_ne_none name
    have hmerged : truthy (parsed.merge (some explicit)).area = some name :=
      truthy_textOr_of_some hname
    obtain ⟨hid, hparsed⟩ := harea.1 hset
    have hnone : truthy (parsed.merge (some explicit)).areaId = none := by
      rw [Constraints.merge, truthy_textOr, hid, hparsed, Option.none_or]
    rcases h.area (.inl (by rw [hmerged]; exact Option.some_ne_none name)) with
      ⟨other, hother, hcompares⟩ | ⟨id, hid, -⟩
    · obtain rfl := Option.some.inj (hmerged.symm.trans hother)
      simpa [Postgres.compares] using hcompares
    · exact absurd (hnone.symm.trans hid) nofun
  areaId id hid := by
    have hset : truthy explicit.areaId ≠ none := by rw [hid]; exact Option.some_ne_none id
    have hmerged : truthy (parsed.merge (some explicit)).areaId = some id :=
      truthy_textOr_of_some hid
    obtain ⟨hname, hparsed⟩ := harea.2 hset
    have hnone : truthy (parsed.merge (some explicit)).area = none := by
      rw [Constraints.merge, truthy_textOr, hname, hparsed, Option.none_or]
    rcases h.area (.inr (by rw [hmerged]; exact Option.some_ne_none id)) with
      ⟨name, hname, -⟩ | ⟨other, hother, hcompares⟩
    · exact absurd (hnone.symm.trans hname) nofun
    · obtain rfl := Option.some.inj (hmerged.symm.trans hother)
      simpa [Postgres.compares] using hcompares
  propertyType kind hkind := by
    have hcompares := h.propertyType kind (truthy_textOr_of_some hkind)
    simpa [Postgres.compares] using hcompares
  bedrooms n hn := by
    have hmerged : (parsed.merge (some explicit)).bedrooms = some n := by
      rw [Constraints.merge, hn, Option.some_or]
    obtain ⟨-, hcompares⟩ := h.bedrooms n hmerged
    simp only [Postgres.compares, Option.map_eq_some_iff] at hcompares
    obtain ⟨value, hvalue, heq⟩ := hcompares
    unfold Jsonb.compareNumber at heq
    split at heq <;> simp_all
  compound name hname := by
    have hcompares := h.compound name (truthy_textOr_of_some hname)
    simpa [Postgres.compares] using hcompares
  developer name hname := by
    have hcompares := h.developer name (truthy_textOr_of_some hname)
    simpa [Postgres.compares] using hcompares

/-- **The filters that bind stand alone**: a listing in the area that the other name admits, and
one at the bound that is sent, tell. -/
theorem areaAlone_of_met (hlower : ∀ s, pg.lower (u.lower s) = u.lower s)
    (hsat : Satisfiable pg (parsed.merge (some explicit)))
    (hmet : ∀ row : SearchRow, row.IsListing pg → Asked pg u (parsed.merge (some explicit)) row →
      explicit.Met pg u row.metadata) :
    AreaAlone parsed explicit ∧ KeepsBounds pg explicit := by
  set merged := parsed.merge (some explicit) with hmerged
  have harea : truthy merged.area = (truthy explicit.area).or (truthy parsed.area) :=
    truthy_textOr _ _
  have hareaId : truthy merged.areaId = (truthy explicit.areaId).or (truthy parsed.areaId) :=
    truthy_textOr _ _
  obtain ⟨price, hmax, hmin⟩ := hsat.exists_price
  -- A listing that is in the area by its name and by its id.
  have hboth (h : truthy merged.area ≠ none ∨ truthy merged.areaId ≠ none) :
      (∃ name, truthy merged.area = some name ∧
        (truthy merged.area).map u.lower = some (u.lower name)) ∨
        ∃ id, truthy merged.areaId = some id ∧ truthy merged.areaId = some id := by
    refine h.imp (fun hname => ?_) fun hid => ?_
    · obtain ⟨name, hname⟩ := Option.ne_none_iff_exists'.1 hname
      exact ⟨name, hname, by rw [hname, Option.map_some]⟩
    · obtain ⟨id, hid⟩ := Option.ne_none_iff_exists'.1 hid
      exact ⟨id, hid, hid⟩
  refine ⟨⟨fun hname => ?_, fun hid => ?_⟩, fun n value hn hvalue => ?_,
    fun n value hn hvalue => ?_⟩
  · by_contra hne
    rw [← Option.or_eq_none_iff, ← hareaId] at hne
    obtain ⟨id, hid⟩ := Option.ne_none_iff_exists'.1 hne
    obtain ⟨name, hname⟩ := Option.ne_none_iff_exists'.1 hname
    have h := hmet (listingRow u merged price none (some id)) rfl
      (asked_listingRow hlower hsat hmax hmin fun _ => .inr ⟨id, hid, rfl⟩)
    obtain ⟨text, htext, -⟩ := h.area name hname
    rw [text?_area_listingRow] at htext
    cases htext
  · by_contra hne
    rw [← Option.or_eq_none_iff, ← harea] at hne
    obtain ⟨name, hname⟩ := Option.ne_none_iff_exists'.1 hne
    obtain ⟨id, hid⟩ := Option.ne_none_iff_exists'.1 hid
    have h := hmet (listingRow u merged price (some (u.lower name)) none) rfl
      (asked_listingRow hlower hsat hmax hmin fun _ => .inl ⟨name, hname, rfl⟩)
    have htext := h.areaId id hid
    rw [text?_areaId_listingRow] at htext
    cases htext
  · have hn' := (merge_bounds parsed explicit).1 n hn
    have h := hmet (listingRow u merged (pg.toJsonb value) ((truthy merged.area).map u.lower)
      (truthy merged.areaId)) rfl (asked_listingRow hlower hsat (fun m other hm hother => ?_)
        (fun low bottom hlow hbottom =>
          hsat.bounds low n bottom value hlow hn' hbottom hvalue) hboth)
    · exact h.maxPrice n hn _ rfl
    · obtain rfl := Option.some.inj (hn'.symm.trans hm)
      exact (congrArg pg.toJsonb (Except.ok.inj (hvalue.symm.trans hother))).le
  · have hn' := (merge_bounds parsed explicit).2 n hn
    have h := hmet (listingRow u merged (pg.toJsonb value) ((truthy merged.area).map u.lower)
      (truthy merged.areaId)) rfl (asked_listingRow hlower hsat
        (fun high top hhigh htop => hsat.bounds n high value top hn' hhigh hvalue htop)
        (fun m other hm hother => ?_) hboth)
    · exact h.minPrice n hn _ rfl
    · obtain rfl := Option.some.inj (hn'.symm.trans hm)
      exact (congrArg pg.toJsonb (Except.ok.inj (hother.symm.trans hvalue))).le

/-- The search with explicit filters admits the chunk. -/
def Searched (pg : Postgres) (u : Unicode) (catalogue : List Area) (query : String)
    (explicit : Constraints) (row : SearchRow) : Prop :=
  ∃ parsed, parseQueryFilters u catalogue query = .ok parsed ∧
    ∃ sql, buildFilterSql u (parsed.constraints.merge (some explicit)) = .ok sql ∧
      pg.admits sql row

/-- **Explicit filters bind exactly where the area stands alone** and the bounds are sent as they
are, or where no listing can meet the filters. -/
theorem explicit_filters_bind_iff (pg : Postgres) (u : Unicode) (catalogue : List Area)
    (hlower : ∀ s, pg.lower (u.lower s) = u.lower s) (query : String) (explicit : Constraints) :
    (∀ row : SearchRow, row.IsListing pg → Searched pg u catalogue query explicit row →
        explicit.Met pg u row.metadata) ↔
      ∀ parsed, parseQueryFilters u catalogue query = .ok parsed →
        Satisfiable pg (parsed.constraints.merge (some explicit)) →
          AreaAlone parsed.constraints explicit ∧ KeepsBounds pg explicit := by
  constructor
  · intro h parsed hparsed hsat
    exact areaAlone_of_met hlower hsat fun row hrow hasked =>
      h row hrow ⟨parsed, hparsed, (admits_iff_asked hrow).2 hasked⟩
  · rintro h row hrow ⟨parsed, hparsed, hadmits⟩
    have hasked := (admits_iff_asked hrow).1 hadmits
    obtain ⟨harea, hbounds⟩ := h parsed hparsed hasked.satisfiable
    exact met_of_asked harea hbounds hasked

/-! ### A question that names an area -/

theorem toLower_toLower (text : String) : text.toLower.toLower = text.toLower := by
  have hchar (c : Char) : c.toLower.toLower = c.toLower := by
    unfold Char.toLower
    grind
  have hmap (s : String) : s.toLower = s.map Char.toLower := rfl
  rw [hmap, hmap, String.map_map]
  exact congrArg (String.map · text) (funext hchar)

/-- A server that writes the numbers as they are. -/
def plainPostgres : Postgres := ⟨String.toLower, id, fun _ => ""⟩

/-- The area that a question names. -/
def maadi : Area := ⟨"maadi", "Maadi", "المعادي"⟩

theorem parseQueryFilters_maadi : parseQueryFilters .ascii [maadi] "Maadi" =
    .ok { area := some "Maadi", areaId := some "maadi" } := by
  have hnormal : Unicode.ascii.normalize "Maadi" = "maadi" := by
    rw [Unicode.normalize_ascii]
    decide
  have hprice : Unicode.ascii.parsePriceRange "Maadi" = .ok (none, none) := by
    rw [Unicode.parsePriceRange, hnormal]
    decide +kernel
  have harea : Unicode.ascii.parseArea [maadi] "Maadi" = some ("Maadi", "maadi") := by
    rw [Unicode.parseArea, hnormal]
    decide +kernel
  have hproperty : Unicode.ascii.parsePropertyType "Maadi" = none := by
    rw [Unicode.parsePropertyType, hnormal]
    decide +kernel
  have hbedrooms : Unicode.ascii.parseBedrooms "Maadi" = none := by
    rw [Unicode.parseBedrooms, hnormal]
    decide +kernel
  rw [parseQueryFilters, hprice, harea, hproperty, hbedrooms]
  rfl

/-- A listing in the area. -/
def maadiListing : SearchRow where
  metadata := .object [
    ("type", .string "property"), ("area", .string "Maadi"), ("areaId", .string "maadi")]
  sourceType := "property"
  lang := "en"

/-- **The caller asks for Zamalek and gets Maadi**, which the question names. -/
theorem zamalek_admits_maadi :
    maadiListing.IsListing plainPostgres ∧
      Searched plainPostgres .ascii [maadi] "Maadi" { areaId := some "zamalek" } maadiListing ∧
      ¬Constraints.Met plainPostgres .ascii { areaId := some "zamalek" } maadiListing.metadata := by
  have hrow : maadiListing.IsListing plainPostgres := rfl
  refine ⟨hrow, ⟨_, parseQueryFilters_maadi, (admits_iff_asked hrow).2 ?_⟩, fun h => ?_⟩
  · refine ⟨nofun, nofun, nofun, nofun, nofun, nofun, fun _ => .inl ⟨"Maadi", rfl, ?_⟩, .inl rfl,
      nofun⟩
    exact congrArg some (beq_self_eq_true _)
  · exact absurd (h.areaId "zamalek" rfl) (by decide)

/-- The area of the question is the only one that is in the way: a price bound binds. -/
theorem explicit_filters_bind_maadi :
    (¬∀ row : SearchRow, row.IsListing plainPostgres →
      Searched plainPostgres .ascii [maadi] "Maadi" { areaId := some "zamalek" } row →
        Constraints.Met plainPostgres .ascii { areaId := some "zamalek" } row.metadata) ∧
    ∀ row : SearchRow, row.IsListing plainPostgres →
      Searched plainPostgres .ascii [maadi] "Maadi" { maxPrice := some 5000000 } row →
        Constraints.Met plainPostgres .ascii { maxPrice := some 5000000 } row.metadata := by
  constructor
  · intro h
    obtain ⟨harea, -⟩ := (explicit_filters_bind_iff plainPostgres .ascii [maadi] toLower_toLower
      "Maadi" { areaId := some "zamalek" }).1 h _ parseQueryFilters_maadi
        ⟨nofun, nofun, nofun, nofun⟩
    exact absurd (harea.2 nofun).2 nofun
  · refine (explicit_filters_bind_iff plainPostgres .ascii [maadi] toLower_toLower
      "Maadi" { maxPrice := some 5000000 }).2 fun parsed _ _ => ⟨⟨?_, ?_⟩, ?_, nofun⟩
    · exact fun h => absurd rfl h
    · exact fun h => absurd rfl h
    · intro n value hn hvalue
      have hfloat : floatOfInt 5000000 = .ok 5000000 := by decide +kernel
      obtain rfl := Option.some.inj hn
      exact (Except.ok.inj (hvalue.symm.trans hfloat)).le

end Explicit

end Rag
end TopChoice
