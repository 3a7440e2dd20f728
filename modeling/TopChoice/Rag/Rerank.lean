/-
# Reranked candidates

`_parse_results` of `apps/rag-svc/app/providers/rerank.py` reads the reply of the reranking
service, which is untrusted, and `HybridSearcher._rerank` of `app/retrieval/hybrid_search.py` puts
the candidates in the order of the results, those that are left out behind.  Out-of-range indexes
are dropped twice, repeated ones nowhere: the result is a permutation of the candidates exactly
when no two of the items that are read have one index (`rerank_perm_iff`).

`int` and `float`, of any value, are a parameter (`Numbers`).
-/

import Mathlib.Data.List.Sort
import TopChoice.Lib.Fallible
import TopChoice.Rag.ModelReply

namespace TopChoice
namespace Rag

/-! ### The reply -/

/-- Why a conversion to a number fails: a `TypeError` or `ValueError`, or anything else. -/
inductive Unconverted where
  | refused
  | raised (e : Raised)

/-- What Python computes with the numbers of a reply. -/
structure Numbers (φ : Type) where
  /-- `int(value)`. -/
  int : Json → Except Unconverted ℤ
  /-- `float(value)`. -/
  float : Json → Except Unconverted φ
  /-- `<`, of scores. -/
  lt : φ → φ → Bool

/-- `RerankResult`. -/
structure RerankResult (φ : Type) where
  index : ℤ
  score : φ
  deriving DecidableEq

namespace Json

/-- The name of the type of a value. -/
def typeName : Json → String
  | null => "NoneType"
  | bool _ => "bool"
  | int _ => "int"
  | float _ => "float"
  | str _ => "str"
  | list _ => "list"
  | dict _ => "dict"

end Json

section Reply

variable {φ : Type} (numbers : Numbers φ) (candidateCount : ℕ)

/-- What one item of the reply comes to; `none` where it is passed over. -/
def parseItem (item : Json) : Except Raised (Option (RerankResult φ)) :=
  if !item.isDict then .ok none
  else
    match numbers.int (item.get "index" (.int (-1))) with
    | .error .refused => .ok none
    | .error (.raised e) => .error e
    | .ok index =>
        if index < 0 ∨ candidateCount ≤ index then .ok none
        else
          match numbers.float (item.get "relevance_score" (item.get "score" (.float (some 0)))) with
          | .error .refused => .ok none
          | .error (.raised e) => .error e
          | .ok score => .ok (some ⟨index, score⟩)

/-- `output.get("results")`, of `body.get("output") or {}`. -/
def rawResults (body : List (PyStr × Json)) : Except Raised (Option Json) :=
  let output := ((Json.dict body).get "output" .null).orEmpty
  if output.isDict then .ok (output.get? "results")
  else
    .error ⟨"AttributeError", "'" ++ output.typeName ++ "' object has no attribute 'get'"⟩

/-- `_parse_results`; scores that cannot be compared (`nan`) may come out in another order. -/
def parseResults (body : List (PyStr × Json)) : Except Raised (List (RerankResult φ)) := do
  match ← rawResults body with
  | some (.list raw) =>
      let results ← raw.mapM (parseItem numbers candidateCount)
      return (results.filterMap id).insertionSort fun a b => numbers.lt a.score b.score = false
  | _ => return []

end Reply

/-! ### The candidates -/

/-- `RetrievedChunk`: its id and its scores. -/
structure RetrievedChunk (φ : Type) where
  chunkId : String
  score : φ
  rerankScore : Option φ

/-- The chunks as the loop has left them, and the places of those it has appended. -/
structure Reranked (φ : Type) where
  chunks : List (RetrievedChunk φ)
  order : List ℕ

section Candidates

variable {φ : Type}

/-- The scores of a chunk are overwritten. -/
def rescore (score : φ) (chunk : RetrievedChunk φ) : RetrievedChunk φ :=
  { chunk with rerankScore := some score, score := score }

/-- One pass of the loop. -/
def rerankItem (reranked : Reranked φ) (item : RerankResult φ) : Reranked φ :=
  if item.index < 0 ∨ reranked.chunks.length ≤ item.index then reranked
  else
    ⟨reranked.chunks.modify item.index.toNat (rescore item.score),
      reranked.order ++ [item.index.toNat]⟩

/-- `_rerank`; `none` is an `ApiError` of the provider. -/
def rerank (candidates : List (RetrievedChunk φ)) (response : Option (List (RerankResult φ))) :
    List (RetrievedChunk φ) :=
  match response with
  | none => candidates
  | some results =>
      let reranked := results.foldl rerankItem ⟨candidates, []⟩
      if reranked.order = [] then candidates
      else
        let tail := (List.range candidates.length).filter (· ∉ reranked.order)
        (reranked.order ++ tail).filterMap fun i => reranked.chunks[i]?

/-- The place a result names among so many candidates. -/
def RerankResult.place (length : ℕ) (item : RerankResult φ) : Option ℕ :=
  if item.index < 0 ∨ length ≤ item.index then none else some item.index.toNat

theorem RerankResult.lt_of_place {length i : ℕ} {item : RerankResult φ}
    (h : item.place length = some i) : i < length := by
  rw [place] at h
  split_ifs at h with hrange
  obtain rfl := Option.some.inj h
  omega

/-- A pass keeps the ids of the chunks. -/
theorem ids_rerankItem (reranked : Reranked φ) (item : RerankResult φ) :
    (rerankItem reranked item).chunks.map RetrievedChunk.chunkId =
      reranked.chunks.map RetrievedChunk.chunkId := by
  rw [rerankItem]
  split_ifs
  · rfl
  · refine List.ext_getElem? fun i => ?_
    rw [List.getElem?_map, List.getElem?_map, List.getElem?_modify]
    cases reranked.chunks[i]? with
    | none => rfl
    | some chunk =>
      by_cases hi : item.index.toNat = i
      · simp [hi, rescore]
      · simp [hi]

/-- A pass appends the place that the item names. -/
theorem order_rerankItem (reranked : Reranked φ) (item : RerankResult φ) :
    (rerankItem reranked item).order =
      reranked.order ++ (item.place reranked.chunks.length).toList := by
  rw [rerankItem, RerankResult.place]
  split_ifs
  · exact (List.append_nil _).symm
  · rfl

/-- **The loop** keeps the ids of the chunks and appends the places that the items name. -/
theorem foldl_rerankItem (results : List (RerankResult φ)) (reranked : Reranked φ) :
    (results.foldl rerankItem reranked).chunks.map RetrievedChunk.chunkId =
        reranked.chunks.map RetrievedChunk.chunkId ∧
      (results.foldl rerankItem reranked).order =
        reranked.order ++ results.filterMap (RerankResult.place reranked.chunks.length) := by
  induction results generalizing reranked with
  | nil => exact ⟨rfl, (List.append_nil _).symm⟩
  | cons item results ih =>
    obtain ⟨hids, horder⟩ := ih (rerankItem reranked item)
    have hlength : (rerankItem reranked item).chunks.length = reranked.chunks.length := by
      simpa using congrArg List.length (ids_rerankItem reranked item)
    refine ⟨hids.trans (ids_rerankItem reranked item), ?_⟩
    rw [List.foldl_cons, horder, order_rerankItem, hlength, List.append_assoc]
    cases hplace : item.place reranked.chunks.length with
    | none => rw [List.filterMap_cons_none hplace]; rfl
    | some i => rw [List.filterMap_cons_some hplace]; rfl

/-! ### Permutations of places -/

/-- Places followed by those that are left out are all the places, exactly when none comes
twice. -/
theorem perm_range_iff {order : List ℕ} {n : ℕ} (horder : ∀ i ∈ order, i < n) :
    (order ++ (List.range n).filter (· ∉ order)).Perm (List.range n) ↔ order.Nodup := by
  constructor
  · intro h
    exact (List.nodup_append.1 (h.nodup_iff.2 List.nodup_range)).1
  · intro h
    have hdisjoint : ∀ i ∈ order, ∀ j ∈ (List.range n).filter (· ∉ order), i ≠ j := by
      rintro i hi j hj rfl
      simp [hi] at hj
    have hnodup := List.nodup_append.2 ⟨h, List.nodup_range.filter _, hdisjoint⟩
    refine (List.perm_ext_iff_of_nodup hnodup List.nodup_range).2 fun i => ?_
    by_cases hi : i ∈ order
    · simp [hi, horder i hi]
    · simp [hi]

/-- The ids at the places. -/
theorem ids_filterMap (chunks : List (RetrievedChunk φ)) (order : List ℕ) :
    (order.filterMap fun i => chunks[i]?).map RetrievedChunk.chunkId =
      order.filterMap fun i => (chunks.map RetrievedChunk.chunkId)[i]? := by
  rw [List.map_filterMap]
  simp only [List.getElem?_map]

theorem filterMap_range_getElem? {α : Type} (l : List α) :
    (List.range l.length).filterMap (fun i => l[i]?) = l := by
  induction l using List.reverseRecOn with
  | nil => rfl
  | append_singleton l a ih =>
    have hinit : ∀ i ∈ List.range l.length, (l ++ [a])[i]? = l[i]? := fun i hi =>
      List.getElem?_append_left (List.mem_range.1 hi)
    have hlast : (l ++ [a])[l.length]? = some a := List.getElem?_concat_length
    rw [List.length_append, List.length_singleton, List.range_succ, List.filterMap_append,
      List.filterMap_congr hinit, ih, List.filterMap_cons_some hlast, List.filterMap_nil]

variable {candidates : List (RetrievedChunk φ)}

/-- Of no place twice the ids come out once. -/
theorem nodup_of_ids {order : List ℕ} (horder : ∀ i ∈ order, i < candidates.length)
    (h : (order.filterMap fun i => (candidates.map RetrievedChunk.chunkId)[i]?).Nodup) :
    order.Nodup := by
  induction order with
  | nil => exact List.nodup_nil
  | cons i order ih =>
    obtain ⟨hi, horder⟩ := List.forall_mem_cons.1 horder
    have hid : (candidates.map RetrievedChunk.chunkId)[i]? = some candidates[i].chunkId := by
      simp [hi]
    rw [List.filterMap_cons_some hid, List.nodup_cons] at h
    refine List.nodup_cons.2 ⟨fun hmem => h.1 ?_, ih horder h.2⟩
    exact List.mem_filterMap.2 ⟨i, hmem, hid⟩

/-- **The candidates come out once each** exactly when no place is named twice. -/
theorem ids_rerank_iff (hids : (candidates.map RetrievedChunk.chunkId).Nodup)
    (results : List (RerankResult φ)) :
    (((rerank candidates (some results)).map RetrievedChunk.chunkId).Perm
        (candidates.map RetrievedChunk.chunkId) ↔
      (results.filterMap (RerankResult.place candidates.length)).Nodup) ∧
    (((rerank candidates (some results)).map RetrievedChunk.chunkId).Nodup ↔
      (results.filterMap (RerankResult.place candidates.length)).Nodup) := by
  obtain ⟨hchunks, horder⟩ := foldl_rerankItem results ⟨candidates, []⟩
  rw [rerank]
  set reranked := results.foldl rerankItem ⟨candidates, []⟩
  rw [List.nil_append] at horder
  rw [← horder]
  have hplaces : ∀ i ∈ reranked.order, i < candidates.length := by
    intro i hi
    rw [horder] at hi
    obtain ⟨item, -, hitem⟩ := List.mem_filterMap.1 hi
    exact item.lt_of_place hitem
  split_ifs with hnone
  · rw [hnone]
    exact ⟨iff_of_true (List.Perm.refl _) List.nodup_nil, iff_of_true hids List.nodup_nil⟩
  · rw [ids_filterMap, hchunks]
    set places := reranked.order ++
      (List.range candidates.length).filter (· ∉ reranked.order) with hplacesText
    have hall : ∀ i ∈ places, i < candidates.length := by
      refine List.forall_mem_append.2 ⟨hplaces, fun i hi => ?_⟩
      exact List.mem_range.1 (List.mem_filter.1 hi).1
    have hperm : reranked.order.Nodup →
        (places.filterMap fun i => (candidates.map RetrievedChunk.chunkId)[i]?).Perm
          (candidates.map RetrievedChunk.chunkId) := by
      intro h
      have hrange := filterMap_range_getElem? (candidates.map RetrievedChunk.chunkId)
      rw [List.length_map] at hrange
      have hsame := ((perm_range_iff hplaces).2 h).filterMap fun i =>
        (candidates.map RetrievedChunk.chunkId)[i]?
      rwa [hrange] at hsame
    have hnodup : (places.filterMap fun i =>
        (candidates.map RetrievedChunk.chunkId)[i]?).Nodup → reranked.order.Nodup := fun h =>
      (List.nodup_append.1 (nodup_of_ids hall h)).1
    exact ⟨⟨fun h => hnodup (h.nodup_iff.2 hids), hperm⟩,
      ⟨hnodup, fun h => (hperm h).nodup_iff.2 hids⟩⟩

end Candidates

/-! ### What the reply names -/

section Named

variable {φ : Type} (numbers : Numbers φ) (candidateCount : ℕ)

/-- The items of a reply. -/
def items (body : List (PyStr × Json)) : List Json :=
  match rawResults body with
  | .ok (some (.list raw)) => raw
  | _ => []

/-- The place among the candidates that an item names, where it is read at all. -/
def namedPlace (length : ℕ) (item : Json) : Option ℕ :=
  match parseItem numbers candidateCount item with
  | .ok (some result) => result.place length
  | _ => none

variable {numbers candidateCount}

theorem filterMap_of_mapM {raw : List Json} {parsed : List (Option (RerankResult φ))}
    (h : raw.mapM (parseItem numbers candidateCount) = .ok parsed) (length : ℕ) :
    (parsed.filterMap id).filterMap (RerankResult.place length) =
      raw.filterMap (namedPlace numbers candidateCount length) := by
  induction raw generalizing parsed with
  | nil =>
    rw [List.mapM_nil] at h
    obtain rfl := Except.ok.inj h
    rfl
  | cons item raw ih =>
    rw [List.mapM_cons] at h
    obtain ⟨result, hitem, h⟩ := Fallible.bind_eq_ok.1 h
    obtain ⟨rest, hrest, h⟩ := Fallible.bind_eq_ok.1 h
    obtain rfl : result :: rest = parsed := Except.ok.inj h
    cases result with
    | none =>
      have hplace : namedPlace numbers candidateCount length item = none := by
        rw [namedPlace, hitem]
      rw [List.filterMap_cons_none hplace, ← ih hrest]
      rfl
    | some result =>
      have hplace : namedPlace numbers candidateCount length item = result.place length := by
        rw [namedPlace, hitem]
      have hresults : (some result :: rest).filterMap id = result :: rest.filterMap id := rfl
      rw [hresults, List.filterMap_cons, List.filterMap_cons, hplace, ih hrest]

/-- **The places of the results** are those that the items name. -/
theorem perm_places {body : List (PyStr × Json)} {results : List (RerankResult φ)}
    (h : parseResults numbers candidateCount body = .ok results) (length : ℕ) :
    (results.filterMap (RerankResult.place length)).Perm
      ((items body).filterMap (namedPlace numbers candidateCount length)) := by
  rw [parseResults] at h
  obtain ⟨raw, hraw, h⟩ := Fallible.bind_eq_ok.1 h
  rw [items, hraw]
  split at h
  · obtain ⟨parsed, hparsed, h⟩ := Fallible.bind_eq_ok.1 h
    obtain rfl := Except.ok.inj h
    rw [← filterMap_of_mapM hparsed]
    exact (List.perm_insertionSort _ _).filterMap _
  · rename_i hother
    obtain rfl := Except.ok.inj h
    split
    · rename_i list heq
      exact absurd (Except.ok.inj heq) (hother list)
    · exact List.Perm.refl _

end Named

/-- **A reranked list is a permutation** of the candidates, and has none twice, exactly when no
two items of the reply name one place. -/
theorem rerank_perm_iff {φ : Type} (numbers : Numbers φ) {candidates : List (RetrievedChunk φ)}
    (hids : (candidates.map RetrievedChunk.chunkId).Nodup) {candidateCount : ℕ}
    {body : List (PyStr × Json)} {results : List (RerankResult φ)}
    (h : parseResults numbers candidateCount body = .ok results) :
    (((rerank candidates (some results)).map RetrievedChunk.chunkId).Perm
        (candidates.map RetrievedChunk.chunkId) ↔
      ((items body).filterMap (namedPlace numbers candidateCount candidates.length)).Nodup) ∧
    (((rerank candidates (some results)).map RetrievedChunk.chunkId).Nodup ↔
      ((items body).filterMap (namedPlace numbers candidateCount candidates.length)).Nodup) := by
  rw [← (perm_places h candidates.length).nodup_iff]
  exact ids_rerank_iff hids results

/-- The numbers of a reply that has only whole ones. -/
def wholeNumbers : Numbers ℤ where
  int
    | .int n => .ok n
    | _ => .error .refused
  float
    | .int n => .ok n
    | _ => .error .refused
  lt a b := decide (a < b)

/-- A reply with one item for each index and score. -/
def replyOf (scored : List (ℤ × ℤ)) : List (PyStr × Json) :=
  [(.ofString "output", .object [("results", .list (scored.map fun item =>
    .object [("index", .int item.1), ("relevance_score", .int item.2)]))])]

/-- Candidates that are not reranked yet. -/
def candidatesOf (ids : List String) : List (RetrievedChunk ℤ) := ids.map fun id => ⟨id, 0, none⟩

/-- Of three candidates two are named, and all come out once. -/
theorem rerank_of_two_named : ∃ results,
    parseResults wholeNumbers 3 (replyOf [(2, 2), (0, 1)]) = .ok results ∧
      ((rerank (candidatesOf ["a", "b", "c"]) (some results)).map RetrievedChunk.chunkId).Perm
        ["a", "b", "c"] := by
  have hparse : parseResults wholeNumbers 3 (replyOf [(2, 2), (0, 1)]) =
      .ok [⟨2, 2⟩, ⟨0, 1⟩] := by decide +kernel
  have hids : ((candidatesOf ["a", "b", "c"]).map RetrievedChunk.chunkId).Nodup := by decide
  exact ⟨_, hparse, (rerank_perm_iff wholeNumbers hids hparse).1.2 (by decide)⟩

/-- **A chunk whose index is repeated** comes out twice. -/
theorem rerank_of_repeated : ∃ results,
    parseResults wholeNumbers 2 (replyOf [(0, 2), (0, 1)]) = .ok results ∧
      (rerank (candidatesOf ["a", "b"]) (some results)).map RetrievedChunk.chunkId =
        ["a", "a", "b"] ∧
      ¬((rerank (candidatesOf ["a", "b"]) (some results)).map RetrievedChunk.chunkId).Perm
        ((candidatesOf ["a", "b"]).map RetrievedChunk.chunkId) := by
  have hparse : parseResults wholeNumbers 2 (replyOf [(0, 2), (0, 1)]) =
      .ok [⟨0, 2⟩, ⟨0, 1⟩] := by decide +kernel
  have hlist : (rerank (candidatesOf ["a", "b"]) (some [⟨0, 2⟩, ⟨0, 1⟩])).map
      RetrievedChunk.chunkId = ["a", "a", "b"] := by decide
  refine ⟨_, hparse, hlist, fun hperm => ?_⟩
  rw [hlist] at hperm
  exact absurd hperm.length_eq (by decide)

end Rag
end TopChoice
