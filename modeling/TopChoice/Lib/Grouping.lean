/-
# Grouping and sorting by a key

The elements of a list in groups of one key, the groups in the order in which their keys come
first and the elements of each in the order of the list.  Every element is in one group, so
what is summed over the groups is summed over the list (`sum_groupBy`), and sorted by their keys
the groups have increasing keys (`strictMono_sortBy_groupBy`).

There are as many groups as keys (`length_groupBy`), and the first groups of a sorted list hold
every element only when they are all the groups (`sum_length_take_iff`).
-/

import Mathlib

namespace Grouping

variable {κ ρ : Type*} [DecidableEq κ]

/-- One more element: at the end of the group of its key, or in a new group. -/
def push (k : κ) (x : ρ) : List (κ × List ρ) → List (κ × List ρ)
  | [] => [(k, [x])]
  | (j, xs) :: groups => if k = j then (j, xs ++ [x]) :: groups else (j, xs) :: push k x groups

/-- The groups of a list. -/
def groupBy (key : ρ → κ) (rows : List ρ) : List (κ × List ρ) :=
  rows.foldl (fun groups x => push (key x) x groups) []

section Push

variable (k : κ) (x : ρ) (groups : List (κ × List ρ))

/-- A property of keys and groups is kept when it holds of the new group and is kept by one
more element of the key. -/
theorem forall_mem_push {P : κ → List ρ → Prop} (hgroups : ∀ g ∈ groups, P g.1 g.2)
    (hnew : P k [x]) (hmore : ∀ xs, P k xs → P k (xs ++ [x])) :
    ∀ g ∈ push k x groups, P g.1 g.2 := by
  induction groups with
  | nil =>
    intro g hg
    obtain rfl := List.mem_singleton.1 hg
    exact hnew
  | cons group groups ih =>
    obtain ⟨j, xs⟩ := group
    have hrest : ∀ g ∈ groups, P g.1 g.2 := fun g hg => hgroups g (List.mem_cons_of_mem _ hg)
    have hfirst := hgroups (j, xs) List.mem_cons_self
    intro g hg
    rw [push] at hg
    split_ifs at hg with hk <;> rcases List.mem_cons.1 hg with rfl | hg
    · subst hk
      exact hmore xs hfirst
    · exact hrest g hg
    · exact hfirst
    · exact ih hrest g hg

/-- The keys are as before, or there is a new one. -/
theorem keys_push : (push k x groups).map Prod.fst = groups.map Prod.fst ∨
    k ∉ groups.map Prod.fst ∧ (push k x groups).map Prod.fst = groups.map Prod.fst ++ [k] := by
  induction groups with
  | nil => exact .inr ⟨List.not_mem_nil, rfl⟩
  | cons group groups ih =>
    obtain ⟨j, xs⟩ := group
    rw [push]
    split_ifs with hk
    · exact .inl rfl
    · refine ih.imp (fun hsame => congrArg (j :: ·) hsame) fun hnew => ⟨?_, ?_⟩
      · exact fun hmem => (List.mem_cons.1 hmem).elim hk hnew.1
      · exact congrArg (j :: ·) hnew.2

theorem sum_push {M : Type*} [AddCommMonoid M] (f : ρ → M) :
    ((push k x groups).map fun g => (g.2.map f).sum).sum =
      (groups.map fun g => (g.2.map f).sum).sum + f x := by
  induction groups with
  | nil => simp [push]
  | cons group groups ih =>
    obtain ⟨j, xs⟩ := group
    rw [push]
    split_ifs
    · simp only [List.map_cons, List.sum_cons, List.map_append, List.map_nil, List.sum_append,
        List.sum_nil, add_zero]
      exact add_right_comm _ _ _
    · simp only [List.map_cons, List.sum_cons]
      rw [ih, add_assoc]

end Push

/-- **The groups hold the elements of the list**, a group those of its key, and none is
empty. -/
theorem mem_groupBy {key : ρ → κ} {rows : List ρ} :
    ∀ g ∈ groupBy key rows, g.2 ≠ [] ∧ ∀ x ∈ g.2, x ∈ rows ∧ key x = g.1 := by
  have hpush (all rest : List ρ) (hrest : ∀ x ∈ rest, x ∈ all) (groups : List (κ × List ρ))
      (hgroups : ∀ g ∈ groups, g.2 ≠ [] ∧ ∀ x ∈ g.2, x ∈ all ∧ key x = g.1) :
      ∀ g ∈ rest.foldl (fun groups x => push (key x) x groups) groups,
        g.2 ≠ [] ∧ ∀ x ∈ g.2, x ∈ all ∧ key x = g.1 := by
    induction rest generalizing groups with
    | nil => exact hgroups
    | cons x rest ih =>
      refine ih (fun y hy => hrest y (List.mem_cons_of_mem x hy)) _ ?_
      have hx := hrest x List.mem_cons_self
      refine forall_mem_push (P := fun k xs => xs ≠ [] ∧ ∀ y ∈ xs, y ∈ all ∧ key y = k)
        (key x) x groups hgroups ⟨List.cons_ne_nil _ _, ?_⟩ fun xs hxs => ⟨by simp, ?_⟩
      · intro y hy
        obtain rfl := List.mem_singleton.1 hy
        exact ⟨hx, rfl⟩
      · intro y hy
        rcases List.mem_append.1 hy with hy | hy
        · exact hxs.2 y hy
        · obtain rfl := List.mem_singleton.1 hy
          exact ⟨hx, rfl⟩
  exact hpush rows rows (fun _ h => h) [] (fun _ h => nomatch h)

/-- **Groups have different keys.** -/
theorem nodup_groupBy (key : ρ → κ) (rows : List ρ) :
    ((groupBy key rows).map Prod.fst).Nodup := by
  have hpush (groups : List (κ × List ρ)) (hgroups : (groups.map Prod.fst).Nodup) :
      ((rows.foldl (fun groups x => push (key x) x groups) groups).map Prod.fst).Nodup := by
    induction rows generalizing groups with
    | nil => exact hgroups
    | cons x rows ih =>
      refine ih _ ?_
      rcases keys_push (key x) x groups with hsame | ⟨hmem, hnew⟩
      · rwa [hsame]
      · rw [hnew]
        exact List.nodup_append.2 ⟨hgroups, List.pairwise_singleton _ _, fun a ha b hb hab =>
          hmem (List.mem_singleton.1 hb ▸ hab ▸ ha)⟩
  exact hpush [] List.nodup_nil

/-- **What is summed over the groups is summed over the list.** -/
theorem sum_groupBy {M : Type*} [AddCommMonoid M] (key : ρ → κ) (f : ρ → M) (rows : List ρ) :
    ((groupBy key rows).map fun g => (g.2.map f).sum).sum = (rows.map f).sum := by
  have hpush (groups : List (κ × List ρ)) :
      ((rows.foldl (fun groups x => push (key x) x groups) groups).map
          fun g => (g.2.map f).sum).sum =
        (groups.map fun g => (g.2.map f).sum).sum + (rows.map f).sum := by
    induction rows generalizing groups with
    | nil => rw [List.foldl_nil, List.map_nil, List.sum_nil, add_zero]
    | cons x rows ih => rw [List.foldl_cons, ih, sum_push, List.map_cons, List.sum_cons, add_assoc]
  rw [groupBy, hpush, List.map_nil, List.sum_nil, zero_add]

theorem mem_keys_push (k : κ) (x : ρ) (groups : List (κ × List ρ)) :
    k ∈ (push k x groups).map Prod.fst := by
  induction groups with
  | nil => exact List.mem_singleton_self k
  | cons group groups ih =>
    obtain ⟨j, xs⟩ := group
    rw [push]
    split_ifs with hk
    · subst hk
      exact List.mem_cons_self
    · exact List.mem_cons_of_mem j ih

/-- The keys of the groups are those of the elements. -/
theorem mem_keys_groupBy {key : ρ → κ} {rows : List ρ} {k : κ} :
    k ∈ (groupBy key rows).map Prod.fst ↔ k ∈ rows.map key := by
  have hkept (rows : List ρ) (groups : List (κ × List ρ)) (hk : k ∈ groups.map Prod.fst) :
      k ∈ (rows.foldl (fun groups x => push (key x) x groups) groups).map Prod.fst := by
    induction rows generalizing groups with
    | nil => exact hk
    | cons x rows ih =>
      refine ih _ ?_
      rcases keys_push (key x) x groups with hsame | ⟨-, hnew⟩
      · rwa [hsame]
      · rw [hnew]
        exact List.mem_append_left _ hk
  have hread (rows : List ρ) (groups : List (κ × List ρ)) (hk : k ∈ rows.map key) :
      k ∈ (rows.foldl (fun groups x => push (key x) x groups) groups).map Prod.fst := by
    induction rows generalizing groups with
    | nil => cases hk
    | cons x rows ih =>
      rcases List.mem_cons.1 hk with rfl | hk
      · exact hkept rows _ (mem_keys_push (key x) x groups)
      · exact ih _ hk
  refine ⟨fun hk => ?_, fun hk => hread rows [] hk⟩
  obtain ⟨g, hg, rfl⟩ := List.mem_map.1 hk
  obtain ⟨hne, hall⟩ := mem_groupBy g hg
  obtain ⟨x, hx⟩ := List.exists_mem_of_ne_nil _ hne
  exact List.mem_map.2 ⟨x, (hall x hx).1, (hall x hx).2⟩

/-- **There are as many groups as keys.** -/
theorem length_groupBy (key : ρ → κ) (rows : List ρ) :
    (groupBy key rows).length = (rows.map key).dedup.length := by
  have hperm : ((groupBy key rows).map Prod.fst).Perm (rows.map key).dedup :=
    (List.perm_ext_iff_of_nodup (nodup_groupBy key rows) (List.nodup_dedup _)).2 fun k => by
      rw [mem_keys_groupBy, List.mem_dedup]
  rw [← hperm.length_eq, List.length_map]

/-- The keys of a list where some elements have none: those there are, and none at all. -/
theorem length_dedup_map_option (key : ρ → Option κ) (rows : List ρ) :
    (rows.map key).dedup.length =
      (rows.filterMap key).dedup.length + if ∃ x ∈ rows, key x = none then 1 else 0 := by
  set others : List (Option κ) := if ∃ x ∈ rows, key x = none then [none] else [] with hothers
  have hsome : ((rows.filterMap key).dedup.map some).Nodup :=
    (List.nodup_dedup _).map (Option.some_injective κ)
  have hnodup : ((rows.filterMap key).dedup.map some ++ others).Nodup := by
    refine List.nodup_append.2 ⟨hsome, by rw [hothers]; split_ifs <;> simp, ?_⟩
    rintro k hk j hj rfl
    obtain ⟨k, -, rfl⟩ := List.mem_map.1 hk
    rw [hothers] at hj
    split_ifs at hj <;> simp at hj
  have hperm : (rows.map key).dedup.Perm ((rows.filterMap key).dedup.map some ++ others) := by
    refine (List.perm_ext_iff_of_nodup (List.nodup_dedup _) hnodup).2 fun k => ?_
    rw [List.mem_dedup, List.mem_append, hothers]
    cases k with
    | none => split_ifs with hnone <;> simpa using hnone
    | some k => split_ifs <;> simp
  have hlength : others.length = if ∃ x ∈ rows, key x = none then 1 else 0 := by
    rw [hothers]
    split_ifs <;> rfl
  rw [hperm.length_eq, List.length_append, List.length_map, hlength]

/-- The groups hold as many elements as the list. -/
theorem sum_length_groupBy (key : ρ → κ) (rows : List ρ) :
    ((groupBy key rows).map fun g => g.2.length).sum = rows.length := by
  have hone (xs : List ρ) : (xs.map fun _ => 1).sum = xs.length := by simp
  have hsum := sum_groupBy key (fun _ => 1) rows
  simpa only [hone] using hsum

/-! ### Sorting -/

/-- Of positive numbers the first add up to as much as all when they are all. -/
theorem sum_take_eq_iff {l : List ℕ} (hpos : ∀ k ∈ l, 0 < k) (n : ℕ) :
    (l.take n).sum = l.sum ↔ l.length ≤ n := by
  have hsum : (l.take n).sum + (l.drop n).sum = l.sum := by
    rw [← List.sum_append, List.take_append_drop]
  constructor
  · intro h
    by_contra hlong
    have hne : l.drop n ≠ [] := mt List.drop_eq_nil_iff.1 hlong
    obtain ⟨k, rest, hcons⟩ := List.exists_cons_of_ne_nil hne
    have hone := hpos k (List.mem_of_mem_drop (hcons ▸ List.mem_cons_self))
    rw [hcons, List.sum_cons] at hsum
    omega
  · intro h
    rw [List.take_of_length_le h]

section Sorting

variable {α : Type*} {ι : Type*} [LinearOrder ι] (key : ρ → ι) (rows : List ρ)

/-- A list in the order of a key. -/
def sortBy : List ρ := rows.insertionSort fun x y => key x ≤ key y

theorem perm_sortBy : (sortBy key rows).Perm rows := List.perm_insertionSort _ rows

/-- **The keys of a sorted list do not fall.** -/
theorem sortBy_pairwise : (sortBy key rows).Pairwise fun x y => key x ≤ key y := by
  have htotal : Std.Total fun x y : ρ => key x ≤ key y := ⟨fun x y => le_total (key x) (key y)⟩
  have htrans : IsTrans ρ fun x y => key x ≤ key y := ⟨fun _ _ _ => le_trans⟩
  exact List.pairwise_insertionSort _ rows

/-- **Sorted groups have increasing keys.** -/
theorem strictMono_sortBy_groupBy :
    ((sortBy Prod.fst (groupBy key rows)).map Prod.fst).Pairwise (· < ·) := by
  have hnodup : ((sortBy Prod.fst (groupBy key rows)).map Prod.fst).Nodup :=
    ((perm_sortBy _ _).map Prod.fst).nodup_iff.2 (nodup_groupBy key rows)
  have hle : ((sortBy Prod.fst (groupBy key rows)).map Prod.fst).Pairwise (· ≤ ·) :=
    List.pairwise_map.2 (sortBy_pairwise _ _)
  exact hle.imp₂ (fun _ _ hle hne => lt_of_le_of_ne hle hne) hnodup

/-- The groups in any order hold as many elements as the list. -/
theorem sum_length_sortBy_groupBy [DecidableEq α] {key : ρ → α} (order : α × List ρ → ι) :
    ((sortBy order (groupBy key rows)).map fun g => g.2.length).sum = rows.length := by
  rw [((perm_sortBy order _).map _).sum_eq, sum_length_groupBy]

theorem length_sortBy_groupBy [DecidableEq α] {key : ρ → α} (order : α × List ρ → ι) :
    (sortBy order (groupBy key rows)).length = (rows.map key).dedup.length := by
  rw [(perm_sortBy order _).length_eq, length_groupBy]

/-- **The first groups hold every element** when they are all the groups. -/
theorem sum_length_take_iff [DecidableEq α] {key : ρ → α} (order : α × List ρ → ι) (n : ℕ) :
    (((sortBy order (groupBy key rows)).take n).map fun g => g.2.length).sum = rows.length ↔
      (rows.map key).dedup.length ≤ n := by
  have hpos : ∀ k ∈ (sortBy order (groupBy key rows)).map fun g => g.2.length, 0 < k := by
    intro k hk
    obtain ⟨g, hg, rfl⟩ := List.mem_map.1 hk
    exact List.length_pos_of_ne_nil (mem_groupBy g ((perm_sortBy order _).mem_iff.1 hg)).1
  rw [← length_sortBy_groupBy rows order, ← sum_length_sortBy_groupBy rows order, List.map_take,
    sum_take_eq_iff hpos, List.length_map]

end Sorting

end Grouping
