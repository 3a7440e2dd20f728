/-
# Filters and buckets of a document index

What a search engine of the Elasticsearch kind is taken to do: a document has, for
each field, the values indexed for it; `term`, `terms` and `range` look at those;
a `bool` query wants every `must` and `filter` clause and enough of the `should`
clauses; a `filter` aggregation counts the hits its scope matches, and a `terms`
aggregation has one bucket for each value they hold, with the number of documents
that hold it.

What the engine decides by itself, analysed text and geometry, is a kind of
clause of its own (`native`).

The hits of a query are sorted by one field after another; a document without a
value comes last.  A last field that is different in every document leaves one
order only (`sortLe_antisymm`).
-/

import Mathlib.Algebra.Order.Ring.Rat
import Mathlib.Data.List.Dedup
import Mathlib.Data.List.Sort
import Mathlib.Data.Rat.Init
import Mathlib.Data.String.Basic
import Mathlib.Data.Sum.Order
import TopChoice.Lib.Paging

namespace Elastic

/-- An indexed value. -/
inductive Value where
  | keyword (s : String)
  | integer (k : ℤ)
  | double (q : ℚ)
  | boolean (b : Bool)
  deriving DecidableEq, Repr

/-- What a `range` compares. -/
def Value.number : Value → Option ℚ
  | .integer k => some k
  | .double q => some q
  | _ => none

/-- The order of keys in a bucket list: texts and numbers each in their order. -/
def Value.keyLe : Value → Value → Bool
  | .keyword s, .keyword t => decide (s ≤ t)
  | v, w => match v.number, w.number with
    | some p, some q => decide (p ≤ q)
    | _, _ => true

/-- A clause of a query; `τ` are those the engine decides by itself. -/
inductive Clause (τ : Type) where
  | matchAll
  | term (field : String) (value : Value)
  | terms (field : String) (values : List Value)
  | range (field : String) (gte lte : Option ℚ)
  | native (clause : τ)
  deriving DecidableEq, Repr

/-- The same clause, where the engine decides other clauses too. -/
def Clause.map {τ τ' : Type} (f : τ → τ') : Clause τ → Clause τ'
  | .matchAll => .matchAll
  | .term field value => .term field value
  | .terms field values => .terms field values
  | .range field gte lte => .range field gte lte
  | .native clause => .native (f clause)

/-- A `bool` query. -/
structure BoolQuery (τ : Type) where
  must : List (Clause τ) := []
  filter : List (Clause τ) := []
  should : List (Clause τ) := []
  minimumShouldMatch : ℕ := 0
  deriving DecidableEq, Repr

/-- What an engine makes of documents `δ`. -/
structure Engine (δ τ : Type) where
  /-- The values indexed for a field. -/
  values : δ → String → List Value
  /-- The clauses it decides by itself. -/
  native : τ → δ → Bool

/-- A `terms` aggregation; `keyAsc` is `order: { _key: asc }`, the default is by
descending count. -/
structure Terms where
  field : String
  size : ℕ
  keyAsc : Bool := false
  deriving DecidableEq, Repr

/-- A bucket. -/
structure Bucket where
  key : Value
  docCount : ℕ
  deriving DecidableEq, Repr

section Semantics

variable {δ τ : Type} (e : Engine δ τ)

/-- The document matches the clause. -/
def Clause.holds (d : δ) : Clause τ → Bool
  | .matchAll => true
  | .term field value => decide (value ∈ e.values d field)
  | .terms field values => (e.values d field).any fun v => decide (v ∈ values)
  | .range field gte lte => (e.values d field).any fun v =>
      v.number.any fun q => gte.all (fun bound => decide (bound ≤ q)) &&
        lte.all (fun bound => decide (q ≤ bound))
  | .native clause => e.native clause d

/-- The document matches the query. -/
def BoolQuery.holds (query : BoolQuery τ) (d : δ) : Bool :=
  query.must.all (Clause.holds e d) && query.filter.all (Clause.holds e d) &&
    decide (query.minimumShouldMatch ≤ query.should.countP (Clause.holds e d))

/-- The hits of a query. -/
def hits (query : BoolQuery τ) (docs : List δ) : List δ := docs.filter (query.holds e)

/-- The order of the buckets. -/
def Terms.bucketLe (agg : Terms) (a b : Bucket) : Bool :=
  if agg.keyAsc then a.key.keyLe b.key
  else decide (b.docCount < a.docCount) || (a.docCount = b.docCount && a.key.keyLe b.key)

/-- The buckets of the documents a `terms` aggregation sees. -/
def Terms.buckets (agg : Terms) (docs : List δ) : List Bucket :=
  let keys := (docs.flatMap fun d => e.values d agg.field).dedup
  let buckets := keys.map fun key =>
    ⟨key, docs.countP fun d => decide (key ∈ e.values d agg.field)⟩
  (buckets.insertionSort fun a b => agg.bucketLe a b = true).take agg.size

variable {e}

/-- **A bucket counts the documents that hold its key,** and some document does. -/
theorem Terms.docCount_of_mem {agg : Terms} {docs : List δ} {b : Bucket}
    (h : b ∈ agg.buckets e docs) :
    b.docCount = docs.countP (fun d => decide (b.key ∈ e.values d agg.field)) ∧
      ∃ d ∈ docs, b.key ∈ e.values d agg.field := by
  have hmem := (List.mem_insertionSort _).1 (List.mem_of_mem_take h)
  obtain ⟨key, hkey, rfl⟩ := List.mem_map.1 hmem
  obtain ⟨d, hd, hv⟩ := List.mem_flatMap.1 (List.mem_dedup.1 hkey)
  exact ⟨rfl, d, hd, hv⟩

/-- The documents counted in a bucket below a query and the scope of a `filter`
aggregation. -/
theorem Terms.docCount_below {agg : Terms} {docs : List δ} {p q : δ → Bool} {b : Bucket}
    (h : b ∈ agg.buckets e ((docs.filter p).filter q)) :
    b.docCount =
      docs.countP fun d => p d && q d && decide (b.key ∈ e.values d agg.field) := by
  rw [(Terms.docCount_of_mem h).1, List.countP_filter, List.countP_filter]
  congr 1
  funext d
  cases p d <;> cases q d <;> simp

/-- A clause finds the same where the other engine reads the same. -/
theorem holds_map {τ' : Type} {e' : Engine δ τ'} (f : τ → τ') {d : δ}
    (hvalues : e'.values d = e.values d) (hnative : ∀ c, e'.native (f c) d = e.native c d)
    (c : Clause τ) : (c.map f).holds e' d = c.holds e d := by
  cases c with
  | matchAll => rfl
  | term field value => rw [Clause.map, Clause.holds, Clause.holds, hvalues]
  | terms field values => rw [Clause.map, Clause.holds, Clause.holds, hvalues]
  | range field gte lte => rw [Clause.map, Clause.holds, Clause.holds, hvalues]
  | native clause => exact hnative clause

/-- `terms` with one value is `term`. -/
theorem holds_terms_singleton {d : δ} (field : String) (v : Value) :
    Clause.holds e d (.terms field [v]) = decide (v ∈ e.values d field) := by
  rw [Clause.holds, Bool.eq_iff_iff]
  simp

end Semantics

/-! ### Sorting -/

/-- A value as it is sorted: numbers, then texts, then booleans. -/
def Value.sortKey : Value → ℚ ⊕ₗ String ⊕ₗ Bool
  | .integer k => toLex (.inl k)
  | .double q => toLex (.inl q)
  | .keyword s => toLex (.inr (toLex (.inl s)))
  | .boolean b => toLex (.inr (toLex (.inr b)))

/-- The order of values. -/
def Value.le (v w : Value) : Bool := decide (v.sortKey ≤ w.sortKey)

/-- A field to sort by; `missing` is `_last`. -/
structure SortClause where
  field : String
  desc : Bool := false
  deriving DecidableEq, Repr

/-- The order a clause puts values in. -/
def SortClause.le (c : SortClause) : Option Value → Option Value → Bool
  | _, none => true
  | none, some _ => false
  | some v, some w => if c.desc then w.le v else v.le w

section Sorting

variable {δ τ : Type} (e : Engine δ τ)

/-- The value a document is sorted by: of several the first in the order. -/
def SortClause.value (c : SortClause) (d : δ) : Option Value :=
  ((e.values d c.field).insertionSort fun v w => c.le (some v) (some w) = true).head?

/-- The order of documents by one clause after another. -/
def sortLe : List SortClause → δ → δ → Bool
  | [], _, _ => true
  | c :: cs, a, b =>
      c.le (c.value e a) (c.value e b) &&
        (!c.le (c.value e b) (c.value e a) || sortLe cs a b)

/-- A clause puts the values in a total preorder. -/
theorem SortClause.le_preorder (c : SortClause) : Paging.Preorder c.le where
  total
    | _, none => Or.inl (by simp [SortClause.le])
    | none, some _ => Or.inr (by simp [SortClause.le])
    | some v, some w => by
        simp only [SortClause.le, Value.le]
        split_ifs <;> simp only [decide_eq_true_eq] <;> exact le_total ..
  trans
    | _, _, none => by simp [SortClause.le]
    | _, none, some _ => by simp [SortClause.le]
    | none, some _, some _ => by simp [SortClause.le]
    | some u, some v, some w => by
        simp only [SortClause.le, Value.le]
        split_ifs <;> simp only [decide_eq_true_eq]
        · exact fun huv hvw => le_trans hvw huv
        · exact le_trans

/-- Sorting by one field after another is a total preorder of the documents. -/
theorem sortLe_preorder : ∀ cs : List SortClause, Paging.Preorder (sortLe (δ := δ) e cs)
  | [] => ⟨fun _ _ => Or.inl rfl, fun _ _ _ _ _ => rfl⟩
  | c :: cs => by
      have hc := c.le_preorder
      have hcs := sortLe_preorder cs
      refine ⟨fun a b => ?_, fun a b d hab hbd => ?_⟩
      · have hfirst := hc.total (c.value e a) (c.value e b)
        have hrest := hcs.total a b
        simp only [sortLe, Bool.and_eq_true, Bool.or_eq_true, Bool.not_eq_true']
        cases hab : c.le (c.value e a) (c.value e b) <;>
          cases hba : c.le (c.value e b) (c.value e a) <;> simp_all
      · simp only [sortLe, Bool.and_eq_true, Bool.or_eq_true, Bool.not_eq_true'] at hab hbd ⊢
        refine ⟨hc.trans _ _ _ hab.1 hbd.1, ?_⟩
        -- the rest decides only when the three are tied in this field
        by_cases hda : c.le (c.value e d) (c.value e a) = true
        · have hba := hc.trans _ _ _ hbd.1 hda
          have hdb := hc.trans _ _ _ hda hab.1
          refine Or.inr (hcs.trans a b d ?_ ?_)
          · simpa [hba] using hab.2
          · simpa [hdb] using hbd.2
        · exact Or.inl (by simpa using hda)

/-- Documents tied in a sort are tied in each of its fields. -/
theorem sortLe_tied : ∀ {cs : List SortClause} {a b : δ},
    sortLe e cs a b = true → sortLe e cs b a = true →
      ∀ c ∈ cs, c.le (c.value e a) (c.value e b) = true ∧ c.le (c.value e b) (c.value e a) = true
  | [], _, _, _, _, _, hc => absurd hc List.not_mem_nil
  | c :: cs, a, b, hab, hba, c', hc' => by
      simp only [sortLe, Bool.and_eq_true, Bool.or_eq_true, Bool.not_eq_true'] at hab hba
      rcases List.mem_cons.1 hc' with rfl | hc'
      · exact ⟨hab.1, hba.1⟩
      · exact sortLe_tied (by simpa [hba.1] using hab.2) (by simpa [hab.1] using hba.2) c' hc'

variable {e}

/-- Fewer clauses leave more ties. -/
theorem sortLe_of_append {cs' : List SortClause} {a b : δ} :
    ∀ {cs : List SortClause}, sortLe e (cs ++ cs') a b = true → sortLe e cs a b = true
  | [], _ => rfl
  | c :: cs, h => by
      simp only [List.cons_append, sortLe, Bool.and_eq_true, Bool.or_eq_true] at h ⊢
      exact ⟨h.1, h.2.imp_right sortLe_of_append⟩

/-- The value of a field that holds one. -/
theorem SortClause.value_of_single {c : SortClause} {d : δ} {v : Value}
    (h : e.values d c.field = [v]) : c.value e d = some v := by
  simp [SortClause.value, h]

/-- Texts tied in an order are one text. -/
theorem SortClause.le_keyword_antisymm {c : SortClause} {s t : String}
    (h : c.le (some (.keyword s)) (some (.keyword t)) = true)
    (h' : c.le (some (.keyword t)) (some (.keyword s)) = true) : s = t := by
  have hkey : (Value.keyword s).sortKey = (Value.keyword t).sortKey := by
    simp only [SortClause.le, Value.le] at h h'
    split_ifs at h h' <;> simp only [decide_eq_true_eq] at h h'
    · exact le_antisymm h' h
    · exact le_antisymm h h'
  simpa [Value.sortKey] using hkey

/-- **A field with one text, different in every document, leaves no ties.** -/
theorem sortLe_antisymm {cs : List SortClause} {docs : List δ} (id : δ → String)
    {c : SortClause} (hc : c ∈ cs) (hid : ∀ d ∈ docs, e.values d c.field = [.keyword (id d)])
    (hinj : ∀ a ∈ docs, ∀ b ∈ docs, id a = id b → a = b) :
    ∀ a ∈ docs, ∀ b ∈ docs, sortLe e cs a b = true → sortLe e cs b a = true → a = b := by
  intro a ha b hb hab hba
  have htie := sortLe_tied e hab hba c hc
  rw [SortClause.value_of_single (hid a ha), SortClause.value_of_single (hid b hb)] at htie
  exact hinj a ha b hb (SortClause.le_keyword_antisymm htie.1 htie.2)

end Sorting

end Elastic
