/-
# Indices behind an alias

`apps/search-svc/app/es/index_manager.py`: creating the index, the zero-downtime
rebuild, the alias swap.  The write and read target is the alias `ES_INDEX`,
which points at a concrete versioned index.

`Cluster` is what the service uses of Elasticsearch: concrete indices by name,
each a map from `_id` to a document, and the index the alias points at (every
path here attaches it to one index and detaches it from the others).  A request
Elasticsearch refuses is `none`: creating an index under a taken name, pointing
the alias at a missing index or giving it the name of an index, deleting through
the alias.  A write to a missing index creates it.
-/

import Mathlib.Logic.Function.Basic
import TopChoice.Search.Source

namespace TopChoice
namespace Search

/-! ### Names -/

/-- `_VERSION_SUFFIX`, on the characters of a name: the base and the version of
`base_v12`. -/
def versionSuffix (name : List Char) : Option (List Char × ℕ) :=
  let digits := name.rtakeWhile Char.isDigit
  match (name.rdropWhile Char.isDigit).reverse with
  | 'v' :: '_' :: c :: base =>
      if digits = [] then none else some ((c :: base).reverse, Nat.ofDigitChars 10 digits 0)
  | _ => none

/-- `next_version_name`: `properties_v1` to `properties_v2`, `properties` to
`properties_v2`. -/
def nextVersionName (indexName : String) : String :=
  match versionSuffix indexName.toList with
  | some (base, version) => String.ofList (base ++ ['_', 'v'] ++ Nat.toDigits 10 (version + 1))
  | none => indexName ++ "_v2"

/-- What the suffix of a name is read as. -/
theorem versionSuffix_append (c : Char) (base : List Char) {digits : List Char}
    (hne : digits ≠ []) (hd : ∀ x ∈ digits, x.isDigit = true) :
    versionSuffix ((c :: base).reverse ++ ['_', 'v'] ++ digits) =
      some ((c :: base).reverse, Nat.ofDigitChars 10 digits 0) := by
  have hrev : ((c :: base).reverse ++ ['_', 'v'] ++ digits).reverse =
      digits.reverse ++ 'v' :: '_' :: c :: base := by simp
  have hd' : ∀ x ∈ digits.reverse, x.isDigit = true := fun x hx => hd x (by simpa using hx)
  have htake : ((c :: base).reverse ++ ['_', 'v'] ++ digits).rtakeWhile Char.isDigit = digits := by
    rw [List.rtakeWhile, hrev, List.takeWhile_append_of_pos hd']
    simp [Char.isDigit]
  have hdrop : (((c :: base).reverse ++ ['_', 'v'] ++ digits).rdropWhile Char.isDigit).reverse =
      'v' :: '_' :: c :: base := by
    rw [List.rdropWhile, hrev, List.dropWhile_append_of_pos hd', List.reverse_reverse]
    simp [Char.isDigit]
  simp only [versionSuffix, htake, hdrop, if_neg hne]

/-- The base of a version is not empty. -/
theorem versionSuffix_some {name base : List Char} {version : ℕ}
    (h : versionSuffix name = some (base, version)) : ∃ c b, base = (c :: b).reverse := by
  simp only [versionSuffix] at h
  split at h
  · next c b _ =>
      split_ifs at h
      exact ⟨c, b, (congrArg Prod.fst (Option.some.inj h)).symm⟩
  · cases h

/-- **A rebuild goes into another index.**  The version of the next name is one
more, so the name is another. -/
theorem nextVersionName_ne (indexName : String) : nextVersionName indexName ≠ indexName := by
  intro heq
  have hlist := congrArg String.toList heq
  unfold nextVersionName at hlist
  split at hlist
  · next base version hsuf =>
      obtain ⟨c, b, rfl⟩ := versionSuffix_some hsuf
      have hnext := versionSuffix_append c b (Nat.toDigits_ne_nil (n := version + 1) (b := 10))
        fun x hx => Nat.isDigit_of_mem_toDigits (by decide) (by decide) hx
      rw [String.toList_ofList] at hlist
      rw [hlist, hsuf, Nat.ofDigitChars_ten_toDigits] at hnext
      have : version = version + 1 := congrArg Prod.snd (Option.some.inj hnext)
      omega
  · have := congrArg List.length hlist
    simp at this

/-- The settings of `core/config.py` the indexing paths read. -/
structure Settings where
  ES_INDEX : String
  ES_INDEX_VERSION : String
  BOOTSTRAP_FROM_SEED : Bool
  deriving DecidableEq, Repr

/-- The settings when the environment sets none. -/
def Settings.default : Settings := ⟨"properties", "properties_v1", true⟩

/-! ### Elasticsearch -/

/-- The documents of an index, by `_id`. -/
abbrev Index (φ : Type) := String → Option (EsDoc φ)

/-- The concrete indices, and the one the alias points at. -/
structure Cluster (φ : Type) where
  indices : String → Option (Index φ)
  aliasTarget : Option String

namespace Cluster

variable {φ : Type}

/-- The documents of a concrete index; a missing one has none. -/
def docs (name : String) (s : Cluster φ) : Index φ := (s.indices name).getD fun _ => none

/-- What a search through the alias sees. -/
def aliasDocs (s : Cluster φ) : Index φ :=
  match s.aliasTarget with
  | some name => s.docs name
  | none => fun _ => none

/-- `es.index`: the document is stored under its `_id`. -/
def index (name _id : String) (doc : EsDoc φ) (s : Cluster φ) : Cluster φ :=
  { s with
    indices := Function.update s.indices name (some (Function.update (s.docs name) _id (some doc))) }

/-- `es.delete`; false when Elasticsearch answers `NotFoundError`. -/
def delete (name _id : String) (s : Cluster φ) : Bool × Cluster φ :=
  if (s.docs name _id).isSome then
    (true, { s with
      indices := Function.update s.indices name (some (Function.update (s.docs name) _id none)) })
  else (false, s)

/-- `es.delete_by_query`: drops the documents the query selects. -/
def deleteByQuery (name : String) (query : EsDoc φ → Bool) (s : Cluster φ) : Cluster φ :=
  { s with
    indices := Function.update s.indices name
      ((s.indices name).map fun ix _id => (ix _id).filter fun e => !query e) }

/-- `indices.create`. -/
def create (cfg : Settings) (name : String) (withAlias : Bool) (s : Cluster φ) :
    Option (Cluster φ) :=
  if (s.indices name).isSome || (name = cfg.ES_INDEX && (s.aliasTarget.isSome || withAlias)) ||
      (withAlias && (s.indices cfg.ES_INDEX).isSome) then none
  else some
    { indices := Function.update s.indices name (some fun _ => none)
      aliasTarget := if withAlias then some name else s.aliasTarget }

/-- `indices.delete(ignore_unavailable=True)`; the alias goes with its index. -/
def deleteIndex (cfg : Settings) (name : String) (s : Cluster φ) : Option (Cluster φ) :=
  if name = cfg.ES_INDEX && s.aliasTarget.isSome then none
  else some
    { indices := Function.update s.indices name none
      aliasTarget := if s.aliasTarget = some name then none else s.aliasTarget }

/-- `indices.update_aliases`: the alias at `name` and nowhere else. -/
def updateAliases (cfg : Settings) (name : String) (s : Cluster φ) : Option (Cluster φ) :=
  if (s.indices name).isNone || (s.indices cfg.ES_INDEX).isSome then none
  else some { s with aliasTarget := some name }

/-- `indices.exists`: of a concrete index or of the alias. -/
def exists' (cfg : Settings) (name : String) (s : Cluster φ) : Bool :=
  (s.indices name).isSome || (name = cfg.ES_INDEX && s.aliasTarget.isSome)

end Cluster

/-! ### `IndexManager` -/

section IndexManager

variable {φ : Type} (cfg : Settings)

/-- `resolve_alias`. -/
def resolveAlias (s : Cluster φ) : Option String := s.aliasTarget

/-- `write_index`: the index documents should be written to right now. -/
def writeIndex (s : Cluster φ) : String := (resolveAlias s).getD cfg.ES_INDEX_VERSION

/-- `create_index`: nothing when the name exists. -/
def createIndex (name : String) (withAlias : Bool) (s : Cluster φ) : Option (Cluster φ) :=
  if s.exists' cfg name then some s else s.create cfg name withAlias

/-- `swap_alias`, with the indices it detached. -/
def swapAlias (name : String) (s : Cluster φ) : Option (List String × Cluster φ) :=
  (s.updateAliases cfg name).map fun s' => (s.aliasTarget.toList.filter (· ≠ name), s')

/-- `ensure_index`: guarantee that the alias and its index exist. -/
def ensureIndex (s : Cluster φ) : Option (Cluster φ) :=
  if s.aliasTarget.isSome then some s
  else if s.exists' cfg cfg.ES_INDEX then some s
  else if s.exists' cfg cfg.ES_INDEX_VERSION then
    (swapAlias cfg cfg.ES_INDEX_VERSION s).map Prod.snd
  else createIndex cfg cfg.ES_INDEX_VERSION true s

/-- What filling an index adds to the report of a run: documents read, documents
indexed, bulk items that failed. -/
structure Populated where
  total : ℕ
  indexed : ℕ
  failed : ℕ
  deriving DecidableEq, Repr

/-- The report of a zero-downtime rebuild. -/
structure ZeroDowntimeReport where
  previousIndex : String
  newIndex : String
  documents : ℕ
  deletedIndices : List String
  deriving DecidableEq, Repr

/-- The first lines of `zero_downtime_reindex`: an alias to rebuild behind. -/
def ensureAlias (s : Cluster φ) : Option (Cluster φ) :=
  if (resolveAlias s).isSome then some s else ensureIndex cfg s

/-- A stale index under the name of the new one is deleted. -/
def deleteStaleTarget (targetIndex : String) (s : Cluster φ) : Option (Cluster φ) :=
  if s.exists' cfg targetIndex then s.deleteIndex cfg targetIndex else some s

/-- `zero_downtime_reindex`, given the `populate` of the indexer: fill a new
index, swap the alias, drop the indices it was detached from. -/
def zeroDowntimeReindex (populate : String → Cluster φ → Populated × Cluster φ) (s : Cluster φ) :
    Option (ZeroDowntimeReport × Populated × Cluster φ) := do
  let s₀ ← ensureAlias cfg s
  let sourceIndex := writeIndex cfg s₀
  let targetIndex := nextVersionName sourceIndex
  let s₁ ← deleteStaleTarget cfg targetIndex s₀
  let s₂ ← createIndex cfg targetIndex false s₁
  let (populated, s₃) := populate targetIndex s₂
  let (detached, s₄) ← swapAlias cfg targetIndex s₃
  let s₅ ← detached.foldlM (fun s old => Cluster.deleteIndex cfg old s) s₄
  pure (⟨sourceIndex, targetIndex, populated.indexed, detached⟩, populated, s₅)

end IndexManager

/-! ### What a request leaves behind -/

namespace Cluster

variable {φ : Type} {cfg : Settings} {s s' : Cluster φ}

/-- A write is seen under its `_id` in its index and nowhere else. -/
theorem docs_index (name _id : String) (doc : EsDoc φ) (s : Cluster φ) (n i : String) :
    (s.index name _id doc).docs n i = if n = name ∧ i = _id then some doc else s.docs n i := by
  by_cases hn : n = name
  · subst hn
    by_cases hi : i = _id
    · subst hi
      simp [index, docs]
    · simp [index, docs, hi]
  · simp [index, docs, hn]

@[simp] theorem aliasTarget_index (name _id : String) (doc : EsDoc φ) (s : Cluster φ) :
    (s.index name _id doc).aliasTarget = s.aliasTarget := rfl

/-- A deletion takes one document out of one index. -/
theorem docs_delete (name _id : String) (s : Cluster φ) (n i : String) :
    (s.delete name _id).2.docs n i = if n = name ∧ i = _id then none else s.docs n i := by
  by_cases hp : (s.docs name _id).isSome = true
  · rw [delete, if_pos hp]
    by_cases hn : n = name
    · subst hn
      by_cases hi : i = _id
      · subst hi
        simp [docs]
      · simp [docs, hi]
    · simp [docs, hn]
  · rw [delete, if_neg hp]
    split_ifs with h
    · obtain ⟨rfl, rfl⟩ := h
      simpa using hp
    · rfl

@[simp] theorem aliasTarget_delete (name _id : String) (s : Cluster φ) :
    (s.delete name _id).2.aliasTarget = s.aliasTarget := by
  unfold delete
  split_ifs <;> rfl

/-- A delete by query keeps what the query does not select. -/
theorem docs_deleteByQuery (name : String) (query : EsDoc φ → Bool) (s : Cluster φ) (n i : String) :
    (s.deleteByQuery name query).docs n i =
      if n = name then (s.docs n i).filter fun e => !query e else s.docs n i := by
  by_cases hn : n = name
  · subst hn
    cases h : s.indices n with
    | none => simp [deleteByQuery, docs, h]
    | some ix => simp [deleteByQuery, docs, h]
  · simp [deleteByQuery, docs, hn]

/-- A created index is empty, and the others are as they were. -/
theorem docs_create {name : String} {withAlias : Bool} (h : s.create cfg name withAlias = some s')
    (n : String) : s'.docs n = s.docs n := by
  unfold create at h
  split at h
  · cases h
  next hc =>
  obtain rfl := Option.some.inj h
  have hnone : s.indices name = none := by
    simp only [Bool.or_eq_true, not_or] at hc
    simpa using hc.1.1
  by_cases hn : n = name
  · subst hn
    simp [docs, hnone]
  · simp [docs, hn]

theorem docs_updateAliases {name : String} (h : s.updateAliases cfg name = some s') :
    s'.indices = s.indices ∧ s'.aliasTarget = some name := by
  unfold updateAliases at h
  split_ifs at h
  obtain rfl := Option.some.inj h
  exact ⟨rfl, rfl⟩

/-- A deleted index is empty; the others stay, and the alias does when it points
at one of them. -/
theorem docs_deleteIndex {name : String} (h : s.deleteIndex cfg name = some s') :
    s'.indices name = none ∧ (∀ n, n ≠ name → s'.indices n = s.indices n) ∧
      (s.aliasTarget ≠ some name → s'.aliasTarget = s.aliasTarget) := by
  unfold deleteIndex at h
  split at h
  · cases h
  · obtain rfl := Option.some.inj h
    exact ⟨by simp, fun n hn => by simp [hn], fun hne => if_neg hne⟩

end Cluster

section IndexManager

variable {φ : Type} {cfg : Settings} {s s' : Cluster φ}

theorem docs_swapAlias {name : String} {detached : List String}
    (h : swapAlias cfg name s = some (detached, s')) :
    s'.indices = s.indices ∧ s'.aliasTarget = some name ∧
      detached = s.aliasTarget.toList.filter (· ≠ name) := by
  obtain ⟨t, ht, he⟩ := Option.map_eq_some_iff.1 h
  obtain ⟨rfl, rfl⟩ := Prod.mk.inj he
  obtain ⟨hi, ha⟩ := Cluster.docs_updateAliases ht
  exact ⟨hi, ha, rfl⟩

theorem docs_createIndex {name : String} {withAlias : Bool}
    (h : createIndex cfg name withAlias s = some s') (n : String) : s'.docs n = s.docs n := by
  unfold createIndex at h
  split at h
  · rw [Option.some.inj h]
  · exact Cluster.docs_create h n

/-- The index to write to depends on the alias alone. -/
theorem writeIndex_congr (h : s'.aliasTarget = s.aliasTarget) :
    writeIndex cfg s' = writeIndex cfg s := by
  rw [writeIndex, resolveAlias, h, writeIndex, resolveAlias]

/-- With an alias there is nothing to ensure. -/
theorem ensureIndex_of_alias {name : String} (h : s.aliasTarget = some name) :
    ensureIndex cfg s = some s := by
  simp [ensureIndex, h]

/-- Ensuring the index changes no document. -/
theorem docs_ensureIndex (h : ensureIndex cfg s = some s') (n : String) : s'.docs n = s.docs n := by
  unfold ensureIndex at h
  split at h
  · rw [Option.some.inj h]
  split at h
  · rw [Option.some.inj h]
  split at h
  · obtain ⟨⟨detached, t⟩, ht, rfl⟩ := Option.map_eq_some_iff.1 h
    rw [Cluster.docs, (docs_swapAlias ht).1, Cluster.docs]
  · exact docs_createIndex h n

/-- Ensuring the index leaves the index to write to the same, and leaves an alias
behind unless an index has its name. -/
theorem writeIndex_ensureIndex (h : ensureIndex cfg s = some s') :
    writeIndex cfg s' = writeIndex cfg s ∧
      (s.aliasTarget ≠ none ∨ s.indices cfg.ES_INDEX = none → s'.aliasTarget ≠ none) := by
  unfold ensureIndex at h
  split at h
  · next hsome =>
      obtain rfl := Option.some.inj h
      exact ⟨rfl, fun _ hnone => by simp [hnone] at hsome⟩
  next hnone =>
  have hnone : s.aliasTarget = none := by simpa using hnone
  split at h
  · next hexists =>
      obtain rfl := Option.some.inj h
      refine ⟨rfl, fun hor => ?_⟩
      simp [Cluster.exists', hnone, hor.resolve_left (not_not.2 hnone)] at hexists
  have attached : s'.aliasTarget = some cfg.ES_INDEX_VERSION →
      writeIndex cfg s' = writeIndex cfg s ∧
        (s.aliasTarget ≠ none ∨ s.indices cfg.ES_INDEX = none → s'.aliasTarget ≠ none) :=
    fun ha => ⟨by simp [writeIndex, resolveAlias, hnone, ha], fun _ => by simp [ha]⟩
  split at h
  · obtain ⟨⟨detached, t⟩, ht, rfl⟩ := Option.map_eq_some_iff.1 h
    exact attached (docs_swapAlias ht).2.1
  · next hexists =>
      unfold createIndex Cluster.create at h
      rw [if_neg hexists, if_pos rfl] at h
      split at h
      · cases h
      · obtain rfl := Option.some.inj h
        exact attached rfl

/-- No stale index is left under the name of the new one. -/
theorem indices_deleteStaleTarget {name : String}
    (h : deleteStaleTarget cfg name s = some s') : s'.indices name = none := by
  unfold deleteStaleTarget at h
  split at h
  · exact (Cluster.docs_deleteIndex h).1
  · next hexists =>
      obtain rfl := Option.some.inj h
      simp only [Cluster.exists', Bool.or_eq_true, not_or] at hexists
      simpa using hexists.1

/-- Deleting a stale index leaves the others, and an alias that is elsewhere. -/
theorem docs_deleteStaleTarget {name : String} (h : deleteStaleTarget cfg name s = some s') :
    (∀ n, n ≠ name → s'.docs n = s.docs n) ∧
      (s.aliasTarget ≠ some name → s'.aliasTarget = s.aliasTarget) := by
  unfold deleteStaleTarget at h
  split at h
  · obtain ⟨-, hkeep, halias⟩ := Cluster.docs_deleteIndex h
    exact ⟨fun n hn => by rw [Cluster.docs, hkeep n hn, Cluster.docs], halias⟩
  · rw [Option.some.inj h]
    exact ⟨fun _ _ => rfl, fun _ => rfl⟩

/-- An index created without the alias leaves the alias where it is. -/
theorem aliasTarget_createIndex {name : String} (h : createIndex cfg name false s = some s') :
    s'.aliasTarget = s.aliasTarget := by
  unfold createIndex Cluster.create at h
  split at h
  · rw [Option.some.inj h]
  · split at h
    · cases h
    · rw [← Option.some.inj h]
      rfl

/-- Dropping indices that are not `name` leaves `name` and an alias at it alone. -/
theorem foldlM_deleteIndex {name : String} :
    ∀ (old : List String) (s s' : Cluster φ), (∀ n ∈ old, n ≠ name) →
      s.aliasTarget = some name →
        old.foldlM (fun s n => Cluster.deleteIndex cfg n s) s = some s' →
          s'.aliasTarget = some name ∧ s'.docs name = s.docs name
  | [], s, s', _, ha, h => by
      obtain rfl := Option.some.inj h
      exact ⟨ha, rfl⟩
  | n :: old, s, s', hne, ha, h => by
      rw [List.foldlM_cons] at h
      obtain ⟨t, ht, h⟩ := Option.bind_eq_some_iff.1 h
      obtain ⟨-, hkeep, halias⟩ := Cluster.docs_deleteIndex ht
      have hn : n ≠ name := hne n List.mem_cons_self
      have ha' : t.aliasTarget = some name :=
        (halias (by rw [ha]; exact fun h => hn (Option.some.inj h).symm)).trans ha
      obtain ⟨h₁, h₂⟩ := foldlM_deleteIndex old t s'
        (fun m hm => hne m (List.mem_cons_of_mem _ hm)) ha' h
      refine ⟨h₁, h₂.trans ?_⟩
      rw [Cluster.docs, hkeep name (Ne.symm hn), Cluster.docs]

/-- **What a zero-downtime rebuild does.**  The alias is at the index whose name
comes after the one it was built from; that index is what `populate` makes of an
empty one. -/
theorem zeroDowntimeReindex_spec {populate : String → Cluster φ → Populated × Cluster φ}
    {report : ZeroDowntimeReport} {populated : Populated}
    (h : zeroDowntimeReindex cfg populate s = some (report, populated, s')) :
    report.newIndex = nextVersionName report.previousIndex ∧
      (∀ name, s.aliasTarget = some name → report.previousIndex = name) ∧
      s'.aliasTarget = some report.newIndex ∧
      ∃ t, (∀ i, t.docs report.newIndex i = none) ∧
        populated = (populate report.newIndex t).1 ∧
        s'.docs report.newIndex = (populate report.newIndex t).2.docs report.newIndex := by
  unfold zeroDowntimeReindex at h
  obtain ⟨s₀, h₀, h⟩ := Option.bind_eq_some_iff.1 h
  obtain ⟨s₁, h₁, h⟩ := Option.bind_eq_some_iff.1 h
  obtain ⟨s₂, h₂, h⟩ := Option.bind_eq_some_iff.1 h
  obtain ⟨⟨detached, s₄⟩, h₄, h⟩ := Option.bind_eq_some_iff.1 h
  obtain ⟨s₅, h₅, h⟩ := Option.bind_eq_some_iff.1 h
  obtain ⟨rfl, he⟩ := Prod.mk.inj (Option.some.inj h)
  obtain ⟨rfl, rfl⟩ := Prod.mk.inj he
  obtain ⟨hindices, halias, rfl⟩ := docs_swapAlias h₄
  obtain ⟨halias', hdocs⟩ := foldlM_deleteIndex _ _ _
    (fun n hn => by simpa using (List.mem_filter.1 hn).2) halias h₅
  refine ⟨rfl, fun name hname => ?_, halias', s₂, fun i => ?_, rfl, ?_⟩
  · obtain rfl : s = s₀ := by simpa [ensureAlias, resolveAlias, hname] using h₀
    simp [writeIndex, resolveAlias, hname]
  · rw [docs_createIndex h₂, Cluster.docs, indices_deleteStaleTarget h₁]
    rfl
  · rw [hdocs, Cluster.docs, hindices, Cluster.docs]

end IndexManager

end Search
end TopChoice
