/-
# Reciprocal rank fusion

`app/retrieval/fusion.py`: the rankings of several searches in one, the score of an id the sum
of `weight / (k + rank)` over the rankings that hold it.  The loop keeps three dictionaries,
one entry for each id (`Tally`); every occurrence that counts is a credit to an id, and what
the dictionaries hold after a list of credits is said once (`Counts`).  Scores are rational
numbers.

The order of the result is total, so the id that is ranked better wherever another one is
ranked comes before it (`reciprocalRankFusion_correct`), also when all weights are zero.
-/

import TopChoice.Lib.Grouping
import TopChoice.Lib.Ranks
import Mathlib.Algebra.BigOperators.Group.List.Basic
import Mathlib.Algebra.Order.BigOperators.Group.List
import Mathlib.Algebra.Order.Field.Rat
import Mathlib.Data.List.AList
import Mathlib.Data.Prod.Lex
import Mathlib.Order.Lattice.Nat
import Mathlib.Tactic.Linarith
import Mathlib.Tactic.NormNum
import Mathlib.Tactic.Positivity

namespace TopChoice
namespace Rag
namespace Fusion

open Ranks

variable {K : Type} [DecidableEq K]

/-- The dictionaries `scores`, `best_rank` and `first_seen` of the loop, and its `order`. -/
structure Tally (K : Type) where
  scores : AList fun _ : K => ℚ := ∅
  bestRank : AList fun _ : K => ℕ := ∅
  firstSeen : AList fun _ : K => ℕ := ∅
  order : ℕ := 0

/-- An occurrence that counts: of an id, at a rank of a ranking with a weight. -/
structure Credit (K : Type) where
  key : K
  weight : ℚ
  rank : ℕ

/-- What the occurrence adds to the score. -/
def Credit.share (damping : ℤ) (c : Credit K) : ℚ := c.weight / (damping + c.rank)

/-- The body of the loop over a ranking, for an id not seen in the ranking before. -/
def Tally.credit (damping : ℤ) (t : Tally K) (c : Credit K) : Tally K where
  scores := t.scores.insert c.key ((t.scores.lookup c.key).getD 0 + c.share damping)
  bestRank :=
    match t.bestRank.lookup c.key with
    | none => t.bestRank.insert c.key c.rank
    | some best => if c.rank < best then t.bestRank.insert c.key c.rank else t.bestRank
  firstSeen :=
    if c.key ∈ t.firstSeen then t.firstSeen else t.firstSeen.insert c.key t.order
  order := if c.key ∈ t.firstSeen then t.order else t.order + 1

/-- The loop over a ranking, with the ids seen in it and the rank reached. -/
def creditRanking (damping : ℤ) (weight : ℚ) : List K → ℕ → List K → Tally K → Tally K
  | _, _, [], t => t
  | seen, rank, key :: ranking, t =>
      if key ∈ seen then creditRanking damping weight seen rank ranking t
      else creditRanking damping weight (key :: seen) (rank + 1) ranking
        (t.credit damping ⟨key, weight, rank + 1⟩)

/-- The loop over the rankings. -/
def creditRankings (damping : ℤ) (weighted : List (List K × ℚ)) : Tally K :=
  weighted.foldl (fun t ranking => creditRanking damping ranking.2 [] 0 ranking.1 t) {}

/-- The key `(-score, best_rank, first_seen)` of the sort; every id with a score has the other
two. -/
def sortKey (t : Tally K) (item : K × ℚ) : ℚ ×ₗ ℕ ×ₗ ℕ :=
  toLex (-item.2, toLex ((t.bestRank.lookup item.1).getD 0, (t.firstSeen.lookup item.1).getD 0))

/-- `scores.items()`. -/
def Tally.items (t : Tally K) : List (K × ℚ) := t.scores.entries.map fun item => (item.1, item.2)

/-- `reciprocal_rank_fusion`. -/
def reciprocalRankFusion (rankings : List (List K)) (k : ℤ) (weights : Option (List ℚ)) :
    Except String (List (K × ℚ)) :=
  if rankings.isEmpty then .ok []
  else
    let effectiveWeights := weights.getD (List.replicate rankings.length 1)
    if effectiveWeights.length ≠ rankings.length then
      .error "weights must have one entry per ranking"
    else
      let tally := creditRankings (max 1 k) (rankings.zip effectiveWeights)
      .ok (Grouping.sortBy (sortKey tally) tally.items)

/-! ### Credits -/

/-- The credits of a ranking: to its distinct ids, with their ranks. -/
def credits (weight : ℚ) (rank : ℕ) (keys : List K) : List (Credit K) :=
  (keys.zipIdx (rank + 1)).map fun entry => ⟨entry.1, weight, entry.2⟩

/-- **The loop over a ranking credits its distinct ids.** -/
theorem creditRanking_eq (damping : ℤ) (weight : ℚ) (ranking seen : List K) (rank : ℕ)
    (t : Tally K) :
    creditRanking damping weight seen rank ranking t =
      (credits weight rank (ranking.removeAll seen).eraseDups).foldl (Tally.credit damping) t := by
  induction ranking generalizing seen rank t with
  | nil => rfl
  | cons key ranking ih =>
    rw [creditRanking]
    split_ifs with hseen
    · rw [ih, List.cons_removeAll, if_neg (by simpa using hseen)]
    · have hrest : ranking.removeAll (key :: seen) =
          (ranking.removeAll seen).filter fun b => !b == key := by
        rw [List.removeAll, List.removeAll, List.filter_filter]
        refine List.filter_congr fun b _ => ?_
        by_cases hb : b = key <;> simp [hb]
      rw [ih, List.cons_removeAll, if_pos (by simpa using hseen), List.eraseDups_cons, hrest]
      rfl

/-- The ranks at which an id was credited. -/
def ranksOf (cs : List (Credit K)) (key : K) : Set ℕ := {r | ∃ c ∈ cs, c.key = key ∧ c.rank = r}

/-- The ids in the order of their first credits. -/
def appearances (cs : List (Credit K)) : List K := (cs.map Credit.key).eraseDups

/-- What the dictionaries hold after a list of credits. -/
structure Counts (damping : ℤ) (cs : List (Credit K)) (t : Tally K) : Prop where
  score : ∀ key, t.scores.lookup key =
    if key ∈ appearances cs then
      some ((cs.filter fun c => c.key = key).map (Credit.share damping)).sum
    else none
  best : ∀ key ∈ appearances cs, ∃ m, t.bestRank.lookup key = some m ∧ IsLeast (ranksOf cs key) m
  unranked : ∀ key, key ∉ appearances cs → t.bestRank.lookup key = none
  first : ∀ key, t.firstSeen.lookup key =
    if key ∈ appearances cs then some ((appearances cs).idxOf key) else none
  order : t.order = (appearances cs).length

section Step

variable {damping : ℤ} {cs : List (Credit K)} {t : Tally K} (c : Credit K)

theorem mem_appearances {key : K} : key ∈ appearances cs ↔ ∃ c ∈ cs, c.key = key := by
  rw [appearances, List.mem_eraseDups, List.mem_map]

theorem appearances_concat : appearances (cs ++ [c]) =
    if c.key ∈ appearances cs then appearances cs else appearances cs ++ [c.key] := by
  have hmem : c.key ∈ appearances cs ↔ c.key ∈ cs.map Credit.key := List.mem_eraseDups
  rw [appearances, List.map_append, List.eraseDups_append, List.map_singleton,
    List.cons_removeAll]
  split_ifs with hnew hold hold
  · exact absurd (hmem.1 hold) (by simpa using hnew)
  · rfl
  · simp [appearances]
  · exact absurd (hmem.2 (by simpa using hnew)) hold

theorem mem_appearances_concat {key : K} :
    key ∈ appearances (cs ++ [c]) ↔ key ∈ appearances cs ∨ c.key = key := by
  simp only [mem_appearances, List.mem_append, List.mem_singleton, or_and_right, exists_or,
    exists_eq_left]

omit [DecidableEq K] in
theorem ranksOf_concat_self : ranksOf (cs ++ [c]) c.key = insert c.rank (ranksOf cs c.key) := by
  ext r
  simp only [ranksOf, List.mem_append, List.mem_singleton, Set.mem_ofPred_eq, Set.mem_insert_iff]
  constructor
  · rintro ⟨d, hd | rfl, hkey, rfl⟩
    · exact .inr ⟨d, hd, hkey, rfl⟩
    · exact .inl rfl
  · rintro (rfl | ⟨d, hd, hkey, rfl⟩)
    · exact ⟨c, .inr rfl, rfl, rfl⟩
    · exact ⟨d, .inl hd, hkey, rfl⟩

omit [DecidableEq K] in
theorem ranksOf_concat_of_ne {key : K} (hkey : c.key ≠ key) :
    ranksOf (cs ++ [c]) key = ranksOf cs key := by
  ext r
  simp only [ranksOf, List.mem_append, List.mem_singleton, Set.mem_ofPred_eq]
  constructor
  · rintro ⟨d, hd | rfl, hd', hr⟩
    · exact ⟨d, hd, hd', hr⟩
    · exact absurd hd' hkey
  · rintro ⟨d, hd, hd', hr⟩
    exact ⟨d, .inl hd, hd', hr⟩

theorem Counts.mem_firstSeen (h : Counts damping cs t) (key : K) :
    key ∈ t.firstSeen ↔ key ∈ appearances cs := by
  rw [← AList.lookup_isSome, h.first]
  split_ifs with hkey <;> simp [hkey]

theorem Counts.score_credit (h : Counts damping cs t) (key : K) :
    (t.credit damping c).scores.lookup key =
      if key ∈ appearances (cs ++ [c]) then
        some (((cs ++ [c]).filter fun c => c.key = key).map (Credit.share damping)).sum
      else none := by
  rw [Tally.credit]
  by_cases hkey : c.key = key
  · subst hkey
    have hold : (t.scores.lookup c.key).getD 0 =
        ((cs.filter fun d => d.key = c.key).map (Credit.share damping)).sum := by
      rw [h.score]
      split_ifs with hmem
      · rfl
      · have hnone : (cs.filter fun d => d.key = c.key) = [] := by
          refine List.filter_eq_nil_iff.2 fun d hd hkey => ?_
          exact hmem (mem_appearances.2 ⟨d, hd, by simpa using hkey⟩)
        rw [hnone]
        rfl
    rw [AList.lookup_insert, if_pos ((mem_appearances_concat c).2 (.inr rfl)), hold,
      List.filter_append, List.map_append, List.sum_append]
    simp
  · have hfilter : ((cs ++ [c]).filter fun c => c.key = key) =
        cs.filter fun c => c.key = key := by
      rw [List.filter_append]
      simp [hkey]
    have hmem : key ∈ appearances (cs ++ [c]) ↔ key ∈ appearances cs := by
      rw [mem_appearances_concat, or_iff_left hkey]
    rw [AList.lookup_insert_ne (Ne.symm hkey), h.score, hfilter, if_congr hmem rfl rfl]

theorem Counts.best_credit (h : Counts damping cs t) {key : K}
    (hmem : key ∈ appearances (cs ++ [c])) :
    ∃ m, (t.credit damping c).bestRank.lookup key = some m ∧
      IsLeast (ranksOf (cs ++ [c]) key) m := by
  rw [Tally.credit]
  by_cases hkey : c.key = key
  · subst hkey
    rw [ranksOf_concat_self]
    by_cases hold : c.key ∈ appearances cs
    · obtain ⟨m, hm, hleast⟩ := h.best _ hold
      have hinsert := hleast.insert c.rank
      refine ⟨min c.rank m, ?_, hinsert⟩
      simp only [hm]
      split_ifs with hlt
      · rw [AList.lookup_insert, min_eq_left hlt.le]
      · rw [hm, min_eq_right (not_lt.1 hlt)]
    · have hempty : ranksOf cs c.key = ∅ := by
        refine Set.eq_empty_of_forall_notMem fun r => ?_
        rintro ⟨d, hd, hdkey, -⟩
        exact hold (mem_appearances.2 ⟨d, hd, hdkey⟩)
      refine ⟨c.rank, ?_, ?_⟩
      · simp only [h.unranked _ hold]
        exact AList.lookup_insert _
      · rw [hempty, insert_empty_eq]
        exact isLeast_singleton
  · rw [ranksOf_concat_of_ne c hkey]
    rw [mem_appearances_concat, or_iff_left hkey] at hmem
    obtain ⟨m, hm, hleast⟩ := h.best key hmem
    refine ⟨m, ?_, hleast⟩
    cases hbest : t.bestRank.lookup c.key with
    | none => exact (AList.lookup_insert_ne (Ne.symm hkey)).trans hm
    | some best =>
      simp only
      split_ifs
      · exact (AList.lookup_insert_ne (Ne.symm hkey)).trans hm
      · exact hm

theorem Counts.unranked_credit (h : Counts damping cs t) {key : K}
    (hmem : key ∉ appearances (cs ++ [c])) : (t.credit damping c).bestRank.lookup key = none := by
  rw [mem_appearances_concat, not_or] at hmem
  obtain ⟨hold, hkey⟩ := hmem
  have hnone := h.unranked key hold
  rw [Tally.credit]
  cases hbest : t.bestRank.lookup c.key with
  | none => exact (AList.lookup_insert_ne (Ne.symm hkey)).trans hnone
  | some best =>
    simp only
    split_ifs
    · exact (AList.lookup_insert_ne (Ne.symm hkey)).trans hnone
    · exact hnone

theorem Counts.first_credit (h : Counts damping cs t) (key : K) :
    (t.credit damping c).firstSeen.lookup key =
      if key ∈ appearances (cs ++ [c]) then some ((appearances (cs ++ [c])).idxOf key)
      else none := by
  have hseen := h.mem_firstSeen c.key
  rw [Tally.credit, appearances_concat]
  by_cases hold : c.key ∈ appearances cs
  · rw [if_pos (hseen.2 hold), if_pos hold, h.first]
  · rw [if_neg (hold ∘ hseen.1), if_neg hold]
    by_cases hkey : key = c.key
    · subst hkey
      rw [AList.lookup_insert, if_pos (by simp), List.idxOf_append_of_notMem hold,
        List.idxOf_cons_self, h.order, Nat.add_zero]
    · have hmem : key ∈ appearances cs ++ [c.key] ↔ key ∈ appearances cs := by
        simp [hkey]
      rw [AList.lookup_insert_ne hkey, h.first]
      simp only [hmem]
      split_ifs with hin
      · rw [List.idxOf_append_of_mem hin]
      · rfl

theorem Counts.order_credit (h : Counts damping cs t) :
    (t.credit damping c).order = (appearances (cs ++ [c])).length := by
  have hseen := h.mem_firstSeen c.key
  have horder : (t.credit damping c).order =
      if c.key ∈ t.firstSeen then t.order else t.order + 1 := rfl
  rw [horder, appearances_concat]
  by_cases hold : c.key ∈ appearances cs
  · rw [if_pos (hseen.2 hold), if_pos hold, h.order]
  · rw [if_neg (hold ∘ hseen.1), if_neg hold, h.order, List.length_append, List.length_singleton]

/-- **One more credit.** -/
theorem Counts.credit (h : Counts damping cs t) :
    Counts damping (cs ++ [c]) (t.credit damping c) where
  score := h.score_credit c
  best _ hmem := h.best_credit c hmem
  unranked _ hmem := h.unranked_credit c hmem
  first := h.first_credit c
  order := h.order_credit c

end Step

/-- **What the dictionaries hold after a run of the loop.** -/
theorem counts_foldl (damping : ℤ) (cs : List (Credit K)) :
    Counts damping cs (cs.foldl (Tally.credit damping) {}) := by
  induction cs using List.reverseRecOn with
  | nil =>
    exact { score := fun _ => rfl, best := fun _ h => (nomatch h), unranked := fun _ _ => rfl,
            first := fun _ => rfl, order := rfl }
  | append_singleton cs c ih =>
    rw [List.foldl_append]
    exact ih.credit c

/-! ### Rankings -/

/-- The score that an id is due: `weight / (damping + rank)` from each ranking that has it. -/
def fusedScore (damping : ℤ) (weighted : List (List K × ℚ)) (key : K) : ℚ :=
  (weighted.map fun r => if key ∈ r.1 then r.2 / ((damping : ℚ) + rank r.1 key) else 0).sum

/-- The ranks of an id. -/
def ranks (rankings : List (List K)) (key : K) : Set ℕ :=
  {n | ∃ ranking ∈ rankings, key ∈ ranking ∧ rank ranking key = n}

/-- The best rank of an id. -/
noncomputable def bestRank (rankings : List (List K)) (key : K) : ℕ := sInf (ranks rankings key)

/-- The place of an id among all ids in the order in which they first appear. -/
def firstSeen (rankings : List (List K)) (key : K) : ℕ := rankings.flatten.eraseDups.idxOf key

/-- The order of the result: a better score, then a better best rank, then the first
appearance. -/
def Precedes (rankings : List (List K)) (x y : K × ℚ) : Prop :=
  y.2 < x.2 ∨ y.2 = x.2 ∧
    (bestRank rankings x.1 < bestRank rankings y.1 ∨
      bestRank rankings x.1 = bestRank rankings y.1 ∧
        firstSeen rankings x.1 < firstSeen rankings y.1)

/-- A list without repetitions credits an id once, for its place. -/
theorem filter_credits (weight : ℚ) (keys : List K) (hkeys : keys.Nodup) (key : K) (r : ℕ) :
    ((credits weight r keys).filter fun c => c.key = key) =
      if key ∈ keys then [⟨key, weight, r + (keys.idxOf key + 1)⟩] else [] := by
  induction keys generalizing r with
  | nil => rfl
  | cons first keys ih =>
    obtain ⟨hfirst, hkeys⟩ := List.nodup_cons.1 hkeys
    have hcons : credits weight r (first :: keys) =
        ⟨first, weight, r + 1⟩ :: credits weight (r + 1) keys := rfl
    rw [hcons, List.filter_cons, ih hkeys]
    by_cases hkey : first = key
    · subst hkey
      simp [hfirst]
    · have hmem : key ∈ first :: keys ↔ key ∈ keys := by simp [Ne.symm hkey]
      simp only [hkey, hmem, decide_false, Bool.false_eq_true, if_false]
      split_ifs
      · rw [List.idxOf_cons_ne _ hkey, Nat.succ_eq_add_one]
        simp only [List.cons.injEq, Credit.mk.injEq, and_true, true_and]
        omega
      · rfl

/-- The credits of all rankings. -/
def allCredits (weighted : List (List K × ℚ)) : List (Credit K) :=
  weighted.flatMap fun r => credits r.2 0 r.1.eraseDups

theorem creditRankings_eq (damping : ℤ) (weighted : List (List K × ℚ)) :
    creditRankings damping weighted = (allCredits weighted).foldl (Tally.credit damping) {} := by
  rw [allCredits, List.foldl_flatMap]
  refine List.foldl_ext _ _ _ fun t r _ => ?_
  rw [creditRanking_eq, List.removeAll_nil]

/-- **An id's credits add up to the score it is due.** -/
theorem sum_allCredits (damping : ℤ) (weighted : List (List K × ℚ)) (key : K) :
    (((allCredits weighted).filter fun c => c.key = key).map (Credit.share damping)).sum =
      fusedScore damping weighted key := by
  induction weighted with
  | nil => rfl
  | cons r weighted ih =>
    have hcons : allCredits (r :: weighted) = credits r.2 0 r.1.eraseDups ++ allCredits weighted :=
      List.flatMap_cons
    have hscore : fusedScore damping (r :: weighted) key =
        (if key ∈ r.1 then r.2 / ((damping : ℚ) + rank r.1 key) else 0) +
          fusedScore damping weighted key := by
      rw [fusedScore, List.map_cons, List.sum_cons, fusedScore]
    rw [hcons, List.filter_append, List.map_append, List.sum_append, ih, hscore,
      filter_credits _ _ (nodup_eraseDups _)]
    congr 1
    simp only [List.mem_eraseDups]
    split_ifs
    · simp [Credit.share, rank]
    · rfl

theorem appearances_allCredits {rankings : List (List K)} {weights : List ℚ}
    (hlength : weights.length = rankings.length) :
    appearances (allCredits (rankings.zip weights)) = rankings.flatten.eraseDups := by
  have hkeys (weight : ℚ) (r : ℕ) (keys : List K) :
      (credits weight r keys).map Credit.key = keys := by
    rw [credits, List.map_map]
    exact List.zipIdx_map_fst _ _
  have hfst : (rankings.zip weights).map Prod.fst = rankings :=
    List.map_fst_zip (by omega)
  rw [appearances, allCredits, List.map_flatMap]
  simp only [hkeys]
  rw [← List.flatMap_map Prod.fst List.eraseDups, hfst, List.flatMap_def, eraseDups_flatten_map]

/-- The ranks at which an id is credited are its ranks. -/
theorem ranksOf_allCredits {rankings : List (List K)} {weights : List ℚ}
    (hlength : weights.length = rankings.length) (key : K) :
    ranksOf (allCredits (rankings.zip weights)) key = ranks rankings key := by
  have hfst : (rankings.zip weights).map Prod.fst = rankings := List.map_fst_zip (by omega)
  ext n
  have hcredit (r : List K × ℚ) :
      (∃ c ∈ credits r.2 0 r.1.eraseDups, c.key = key ∧ c.rank = n) ↔
        key ∈ r.1 ∧ rank r.1 key = n := by
    have hfilter := filter_credits r.2 _ (nodup_eraseDups r.1) key 0
    constructor
    · rintro ⟨c, hc, hkey, hrank⟩
      have hmem : c ∈ (credits r.2 0 r.1.eraseDups).filter fun c => c.key = key :=
        List.mem_filter.2 ⟨hc, by simpa using hkey⟩
      rw [hfilter] at hmem
      split_ifs at hmem with hin
      · obtain rfl := List.mem_singleton.1 hmem
        exact ⟨List.mem_eraseDups.1 hin, by simpa [rank] using hrank⟩
      · cases hmem
    · rintro ⟨hin, hrank⟩
      have hmem : (⟨key, r.2, 0 + (r.1.eraseDups.idxOf key + 1)⟩ : Credit K) ∈
          (credits r.2 0 r.1.eraseDups).filter fun c => c.key = key := by
        rw [hfilter, if_pos (List.mem_eraseDups.2 hin)]
        exact List.mem_singleton_self _
      exact ⟨_, (List.mem_filter.1 hmem).1, rfl, by simpa [rank] using hrank⟩
  simp only [ranksOf, ranks, Set.mem_ofPred_eq, allCredits, List.mem_flatMap]
  constructor
  · rintro ⟨c, ⟨r, hr, hc⟩, hkey, hrank⟩
    exact ⟨r.1, hfst ▸ List.mem_map_of_mem hr, (hcredit r).1 ⟨c, hc, hkey, hrank⟩⟩
  · rintro ⟨ranking, hranking, hrank⟩
    rw [← hfst] at hranking
    obtain ⟨r, hr, rfl⟩ := List.mem_map.1 hranking
    obtain ⟨c, hc, hkey, hn⟩ := (hcredit r).2 hrank
    exact ⟨c, ⟨r, hr, hc⟩, hkey, hn⟩

/-! ### The fused ranking -/

section Fused

variable {rankings : List (List K)} {weights : List ℚ} {k : ℤ} {fused : List (K × ℚ)}

/-- What the fusion returns for weights of the right number. -/
theorem reciprocalRankFusion_eq (k : ℤ) (hlength : weights.length = rankings.length) :
    ∃ tally, Counts (max 1 k) (allCredits (rankings.zip weights)) tally ∧
      reciprocalRankFusion rankings k (some weights) =
        .ok (Grouping.sortBy (sortKey tally) tally.items) := by
  refine ⟨_, counts_foldl _ _, ?_⟩
  rw [← creditRankings_eq, reciprocalRankFusion]
  split_ifs with hempty
  · obtain rfl := List.isEmpty_iff.1 hempty
    rfl
  · exact if_neg (not_not.2 hlength)

theorem Counts.mem_items {damping : ℤ} {cs : List (Credit K)} {t : Tally K}
    (h : Counts damping cs t) (item : K × ℚ) :
    item ∈ t.items ↔ item.1 ∈ appearances cs ∧
      item.2 = ((cs.filter fun c => c.key = item.1).map (Credit.share damping)).sum := by
  obtain ⟨key, score⟩ := item
  have hitems : (key, score) ∈ t.items ↔ t.scores.lookup key = some score := by
    rw [← Option.mem_def, AList.mem_lookup_iff, Tally.items, List.mem_map]
    constructor
    · rintro ⟨⟨key', score'⟩, hmem, heq⟩
      obtain ⟨rfl, rfl⟩ := Prod.mk.inj heq
      exact hmem
    · exact fun hmem => ⟨_, hmem, rfl⟩
  rw [hitems, h.score]
  split_ifs with hkey
  · rw [Option.some_inj]
    exact ⟨fun h => ⟨hkey, h.symm⟩, fun h => h.2.symm⟩
  · exact ⟨fun h => (nomatch h), fun h => absurd h.1 hkey⟩

/-- The sort key is the score, the best rank and the first appearance. -/
theorem Counts.sortKey_lt (hlength : weights.length = rankings.length) {damping : ℤ} {t : Tally K}
    (h : Counts damping (allCredits (rankings.zip weights)) t) {x y : K × ℚ} (hx : x ∈ t.items)
    (hy : y ∈ t.items) : sortKey t x < sortKey t y ↔ Precedes rankings x y := by
  have hplaces {item : K × ℚ} (hitem : item ∈ t.items) :
      t.bestRank.lookup item.1 = some (bestRank rankings item.1) ∧
        t.firstSeen.lookup item.1 = some (firstSeen rankings item.1) := by
    have hkey := ((h.mem_items item).1 hitem).1
    obtain ⟨m, hm, hleast⟩ := h.best _ hkey
    rw [ranksOf_allCredits hlength] at hleast
    refine ⟨by rw [hm, bestRank, hleast.csInf_eq], ?_⟩
    rw [h.first, if_pos hkey, appearances_allCredits hlength]
    rfl
  obtain ⟨hxbest, hxfirst⟩ := hplaces hx
  obtain ⟨hybest, hyfirst⟩ := hplaces hy
  rw [sortKey, sortKey, hxbest, hxfirst, hybest, hyfirst, Prod.Lex.toLex_lt_toLex,
    Prod.Lex.toLex_lt_toLex]
  simp only [Option.getD_some, neg_lt_neg_iff, neg_inj, Precedes, eq_comm (a := x.2)]

/-- The result goes by its order. -/
theorem Counts.pairwise_sortBy (hlength : weights.length = rankings.length) {damping : ℤ}
    {t : Tally K} (h : Counts damping (allCredits (rankings.zip weights)) t)
    (hitems : (t.items.map Prod.fst).Nodup) :
    (Grouping.sortBy (sortKey t) t.items).Pairwise (Precedes rankings) := by
  have hperm := Grouping.perm_sortBy (sortKey t) t.items
  have hnodup : ((Grouping.sortBy (sortKey t) t.items).map Prod.fst).Nodup :=
    (hperm.map Prod.fst).nodup_iff.2 hitems
  have hne : (Grouping.sortBy (sortKey t) t.items).Pairwise fun x y => x.1 ≠ y.1 :=
    List.pairwise_map.1 hnodup
  refine ((Grouping.sortBy_pairwise _ _).and hne).imp_of_mem fun {x y} hx hy hxy => ?_
  have hx := hperm.mem_iff.1 hx
  have hy := hperm.mem_iff.1 hy
  refine (h.sortKey_lt hlength hx hy).1 (lt_of_le_of_ne hxy.1 fun heq => hxy.2 ?_)
  -- Two ids that appear first at one place are one id.
  have hfirst : t.firstSeen.lookup x.1 = t.firstSeen.lookup y.1 := by
    have hxmem := (h.mem_firstSeen x.1).2 ((h.mem_items x).1 hx).1
    have hymem := (h.mem_firstSeen y.1).2 ((h.mem_items y).1 hy).1
    obtain ⟨i, hi⟩ := Option.isSome_iff_exists.1 (AList.lookup_isSome.2 hxmem)
    obtain ⟨j, hj⟩ := Option.isSome_iff_exists.1 (AList.lookup_isSome.2 hymem)
    have hplace := congrArg (fun p => (ofLex (ofLex p).2).2) heq
    simp only [sortKey, hi, hj, ofLex_toLex, Option.getD_some] at hplace
    rw [hi, hj, hplace]
  have hxmem := ((h.mem_items x).1 hx).1
  rw [h.first, h.first, if_pos hxmem, if_pos ((h.mem_items y).1 hy).1, Option.some_inj] at hfirst
  exact (List.idxOf_inj hxmem).1 hfirst

/-- **A better rank is worth no less.** -/
theorem fusedScore_le (hweights : ∀ weight ∈ weights, 0 ≤ weight) {a b : K}
    (hbetter : ∀ ranking ∈ rankings, b ∈ ranking → a ∈ ranking ∧ rank ranking a < rank ranking b) :
    fusedScore (max 1 k) (rankings.zip weights) b ≤
      fusedScore (max 1 k) (rankings.zip weights) a := by
  refine List.sum_le_sum fun r hr => ?_
  have hweight : 0 ≤ r.2 := hweights r.2 (List.of_mem_zip hr).2
  have hdamping : (0 : ℚ) < (max 1 k : ℤ) := by
    exact_mod_cast lt_of_lt_of_le Int.one_pos (le_max_left 1 k)
  by_cases hb : b ∈ r.1
  · obtain ⟨ha, hrank⟩ := hbetter r.1 (List.of_mem_zip hr).1 hb
    have hle : (rank r.1 a : ℚ) ≤ rank r.1 b := by exact_mod_cast hrank.le
    rw [if_pos hb, if_pos ha]
    exact div_le_div_of_nonneg_left hweight (by positivity) (by linarith)
  · rw [if_neg hb]
    split_ifs
    · positivity
    · exact le_rfl

/-- **A better rank everywhere is a better best rank.** -/
theorem bestRank_lt {a b : K} (hb : ∃ ranking ∈ rankings, b ∈ ranking)
    (hbetter : ∀ ranking ∈ rankings, b ∈ ranking → a ∈ ranking ∧ rank ranking a < rank ranking b) :
    bestRank rankings a < bestRank rankings b := by
  have hnonempty : (ranks rankings b).Nonempty := by
    obtain ⟨ranking, hranking, hmem⟩ := hb
    exact ⟨_, ranking, hranking, hmem, rfl⟩
  obtain ⟨ranking, hranking, hmem, hbest⟩ := Nat.sInf_mem hnonempty
  obtain ⟨ha, hrank⟩ := hbetter ranking hranking hmem
  calc bestRank rankings a
      ≤ rank ranking a := Nat.sInf_le ⟨ranking, hranking, ha, rfl⟩
    _ < rank ranking b := hrank
    _ = bestRank rankings b := hbest

theorem Precedes.asymm {x y : K × ℚ} (h : Precedes rankings x y) : ¬Precedes rankings y x := by
  rintro h'
  unfold Precedes at h h'
  grind

/-- **Fusion is correct and monotone.**  Every id comes once, with the score it is due, the
result goes by its order, and the id that is ranked better wherever another one is ranked comes
before it. -/
theorem reciprocalRankFusion_correct (rankings : List (List K)) (weights : List ℚ) (k : ℤ)
    (hlength : weights.length = rankings.length) (hweights : ∀ weight ∈ weights, 0 ≤ weight) :
    ∃ fused, reciprocalRankFusion rankings k (some weights) = .ok fused ∧
      (fused.map Prod.fst).Nodup ∧
      (∀ key, key ∈ fused.map Prod.fst ↔ ∃ ranking ∈ rankings, key ∈ ranking) ∧
      (∀ item ∈ fused, item.2 = fusedScore (max 1 k) (rankings.zip weights) item.1) ∧
      fused.Pairwise (Precedes rankings) ∧
      ∀ a b, b ∈ fused.map Prod.fst →
        (∀ ranking ∈ rankings, b ∈ ranking → a ∈ ranking ∧ rank ranking a < rank ranking b) →
          [a, b].Sublist (fused.map Prod.fst) := by
  obtain ⟨t, ht, hfused⟩ := reciprocalRankFusion_eq k hlength
  have hperm := Grouping.perm_sortBy (sortKey t) t.items
  have hitems : (t.items.map Prod.fst).Nodup := by
    rw [Tally.items, List.map_map]
    exact t.scores.keys_nodup
  have hscore (item : K × ℚ) : item ∈ Grouping.sortBy (sortKey t) t.items ↔
      (∃ ranking ∈ rankings, item.1 ∈ ranking) ∧
        item.2 = fusedScore (max 1 k) (rankings.zip weights) item.1 := by
    rw [hperm.mem_iff, ht.mem_items, sum_allCredits, appearances_allCredits hlength,
      List.mem_eraseDups, List.mem_flatten]
  have hkeys (key : K) : key ∈ (Grouping.sortBy (sortKey t) t.items).map Prod.fst ↔
      ∃ ranking ∈ rankings, key ∈ ranking := by
    rw [List.mem_map]
    constructor
    · rintro ⟨item, hitem, rfl⟩
      exact ((hscore item).1 hitem).1
    · intro hkey
      exact ⟨(key, fusedScore (max 1 k) (rankings.zip weights) key), (hscore _).2 ⟨hkey, rfl⟩, rfl⟩
  have hpairwise := ht.pairwise_sortBy hlength hitems
  refine ⟨_, hfused, (hperm.map Prod.fst).nodup_iff.2 hitems, hkeys,
    fun item hitem => ((hscore item).1 hitem).2, hpairwise, fun a b hb hbetter => ?_⟩
  have hbest := bestRank_lt ((hkeys b).1 hb) hbetter
  have ha : ∃ ranking ∈ rankings, a ∈ ranking := by
    obtain ⟨ranking, hranking, hmem⟩ := (hkeys b).1 hb
    exact ⟨ranking, hranking, (hbetter ranking hranking hmem).1⟩
  have hprecedes : Precedes rankings (a, fusedScore (max 1 k) (rankings.zip weights) a)
      (b, fusedScore (max 1 k) (rankings.zip weights) b) := by
    rcases (fusedScore_le (k := k) hweights hbetter).lt_or_eq with hlt | heq
    · exact .inl hlt
    · exact .inr ⟨heq, .inl hbest⟩
  have hne : (a, fusedScore (max 1 k) (rankings.zip weights) a) ≠
      (b, fusedScore (max 1 k) (rankings.zip weights) b) := by
    intro heq
    rw [(Prod.mk.inj heq).1] at hbest
    exact lt_irrefl _ hbest
  exact (pair_sublist_of_pairwise hpairwise ((hscore _).2 ⟨ha, rfl⟩)
    ((hscore _).2 ⟨(hkeys b).1 hb, rfl⟩) hprecedes Precedes.asymm hne).map Prod.fst

/-- Two searches that count for nothing: `shared` is before `v` in both, and in the result. -/
theorem reciprocalRankFusion_correct_weights :
    ∃ fused, reciprocalRankFusion [["shared", "v"], ["l", "shared", "l", "v"]] 60 (some [0, 0]) =
        .ok fused ∧ ["shared", "v"].Sublist (fused.map Prod.fst) := by
  obtain ⟨fused, hfused, -, hkeys, -, -, hmonotone⟩ := reciprocalRankFusion_correct
    [["shared", "v"], ["l", "shared", "l", "v"]] [0, 0] 60 rfl (by simp)
  exact ⟨fused, hfused, hmonotone _ _ ((hkeys "v").2 ⟨_, List.mem_cons_self, by simp⟩) (by decide)⟩

end Fused

end Fusion
end Rag
end TopChoice
