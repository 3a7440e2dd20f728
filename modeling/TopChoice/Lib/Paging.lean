/-
# Pages of a sorted result

A query sorts its rows and returns a slice.  The order is a total preorder, so
the rows a query returns may come in any order that respects it (`InOrder`), and
each page of a result is a query of its own.

Each row stands at some place from the number of rows below it to the number of
rows up to it.  So the pages of a result show each row once, whatever the
queries do with ties, exactly when all rows tied with one another fit on one page
(`showsEachOnce_iff`).  When the order tells any two rows apart there is one
sorted result, and the pages put together are it (`pages_of_strict`), and a slice shows a
row exactly when the number of rows below it lies inside (`countP_slice`).
-/

import Mathlib.Data.List.Flatten
import Mathlib.Data.List.Nodup
import Mathlib.Data.List.Perm.Basic
import Mathlib.Data.List.Range
import Mathlib.Data.List.Sort

namespace Paging

variable {α : Type*}

/-- The slice a query with an offset and a limit returns. -/
def slice (skip take : ℕ) (l : List α) : List α := (l.drop skip).take take

/-- How many pages there are. -/
def pageCount (total limit : ℕ) : ℕ := (total + limit - 1) / limit

/-- The pages put together, the `k`-th (from 0) from the answer of its own query. -/
def pages (limit n : ℕ) (answer : ℕ → List α) : List α :=
  (List.range n).flatMap fun k => slice (k * limit) limit (answer k)

/-- The rows in an order that respects `le`. -/
def InOrder (le : α → α → Bool) (rows answer : List α) : Prop :=
  answer.Perm rows ∧ answer.Pairwise fun a b => le a b = true

/-- How many rows are below a row. -/
def below (le : α → α → Bool) (rows : List α) (a : α) : ℕ := rows.countP fun y => !le a y

/-- How many rows are not above a row. -/
def upTo (le : α → α → Bool) (rows : List α) (a : α) : ℕ := rows.countP fun y => le y a

/-- All rows tied with a row fit on the page it is on. -/
def OnOnePage (le : α → α → Bool) (limit : ℕ) (rows : List α) (a : α) : Prop :=
  below le rows a / limit = (upTo le rows a - 1) / limit

instance (le : α → α → Bool) (limit : ℕ) (rows : List α) (a : α) :
    Decidable (OnOnePage le limit rows a) := inferInstanceAs (Decidable (_ = _))

/-- The pages show each row exactly once, whatever order their queries return. -/
def ShowsEachOnce (le : α → α → Bool) (limit : ℕ) (rows : List α) : Prop :=
  ∀ answer : ℕ → List α, (∀ k, InOrder le rows (answer k)) →
    (pages limit (pageCount rows.length limit) answer).Perm rows

/-- A total preorder, as a test. -/
structure Preorder (le : α → α → Bool) : Prop where
  total : ∀ a b, le a b = true ∨ le b a = true
  trans : ∀ a b c, le a b = true → le b c = true → le a c = true

/-! ### The pages of one list -/

/-- The first pages of one list are a prefix of it. -/
theorem pages_const (limit n : ℕ) (l : List α) :
    pages limit n (fun _ => l) = l.take (n * limit) := by
  induction n with
  | zero => simp [pages]
  | succ n ih =>
      have hlast : pages limit (n + 1) (fun _ => l) =
          pages limit n (fun _ => l) ++ slice (n * limit) limit l := by
        simp [pages, List.range_succ]
      rw [hlast, ih, slice, Nat.succ_mul, List.take_add]

/-- The last page reaches the end. -/
theorem le_pageCount_mul {total limit : ℕ} (hlimit : 0 < limit) :
    total ≤ pageCount total limit * limit := by
  have := Nat.div_add_mod (total + limit - 1) limit
  have := Nat.mod_lt (total + limit - 1) hlimit
  rw [pageCount, Nat.mul_comm]
  omega

/-- A place is on some page. -/
theorem div_lt_pageCount {i total limit : ℕ} (hlimit : 0 < limit) (hi : i < total) :
    i / limit < pageCount total limit := by
  have : total ≤ pageCount total limit * limit := le_pageCount_mul hlimit
  exact (Nat.div_lt_iff_lt_mul hlimit).2 (Nat.lt_of_lt_of_le hi this)

/-- The pages of one list are the list. -/
theorem pages_pageCount {limit : ℕ} (hlimit : 0 < limit) (l : List α) :
    pages limit (pageCount l.length limit) (fun _ => l) = l := by
  rw [pages_const, List.take_of_length_le (le_pageCount_mul hlimit)]

/-! ### Places -/

section Places

variable {le : α → α → Bool} {rows answer : List α}

theorem Preorder.refl (hle : Preorder le) (a : α) : le a a = true :=
  (hle.total a a).elim id id

theorem InOrder.below_eq (h : InOrder le rows answer) (a : α) :
    below le rows a = below le answer a := (h.1.countP_eq _).symm

theorem InOrder.upTo_eq (h : InOrder le rows answer) (a : α) :
    upTo le rows a = upTo le answer a := (h.1.countP_eq _).symm

/-- A condition that no row from a place on meets counts rows before the place only. -/
theorem countP_le_of_drop {p : α → Bool} {l : List α} {i : ℕ}
    (h : ∀ y ∈ l.drop i, p y = false) : l.countP p ≤ i := by
  have hdrop : (l.drop i).countP p = 0 := List.countP_eq_zero.2 fun y hy => by simp [h y hy]
  have htake : (l.take i).countP p ≤ i := List.countP_le_length.trans (List.length_take_le i l)
  calc l.countP p = (l.take i).countP p + (l.drop i).countP p := by
        rw [← List.countP_append, List.take_append_drop]
    _ ≤ i := by omega

/-- A condition all rows up to a place meet counts these. -/
theorem le_countP_of_take {p : α → Bool} {l : List α} {i : ℕ} (hi : i ≤ l.length)
    (h : ∀ y ∈ l.take i, p y = true) : i ≤ l.countP p := by
  have htake : (l.take i).countP p = i := by
    rw [List.countP_eq_length.2 h, List.length_take, Nat.min_eq_left hi]
  calc i = (l.take i).countP p := htake.symm
    _ ≤ l.countP p := (List.take_sublist i l).countP_le

/-- The rows from a place on are not below the row there. -/
theorem le_of_mem_drop (hle : Preorder le) (h : answer.Pairwise fun a b => le a b = true)
    {i : ℕ} (hi : i < answer.length) {y : α} (hy : y ∈ answer.drop i) : le answer[i] y = true := by
  rw [List.drop_eq_getElem_cons hi] at hy
  rcases List.mem_cons.1 hy with rfl | hmem
  · exact hle.refl _
  · have hpair := h.sublist (List.drop_sublist i answer)
    rw [List.drop_eq_getElem_cons hi] at hpair
    exact (List.pairwise_cons.1 hpair).1 y hmem

/-- The rows up to a place are not above the row there. -/
theorem le_of_mem_take (hle : Preorder le) (h : answer.Pairwise fun a b => le a b = true)
    {i : ℕ} (hi : i < answer.length) {y : α} (hy : y ∈ answer.take (i + 1)) :
    le y answer[i] = true := by
  rw [List.take_succ_eq_append_getElem hi] at hy
  rcases List.mem_append.1 hy with hmem | hlast
  · have hpair := h
    rw [← List.take_append_drop i answer] at hpair
    exact (List.pairwise_append.1 hpair).2.2 y hmem _
      (by rw [List.drop_eq_getElem_cons hi]; exact List.mem_cons_self ..)
  · rw [List.mem_singleton.1 hlast]
    exact hle.refl _

/-- **Where a row stands:** from the number of rows below it on, before the number
of rows up to it. -/
theorem InOrder.place (hle : Preorder le) (h : InOrder le rows answer) {i : ℕ}
    (hi : i < answer.length) :
    below le rows answer[i] ≤ i ∧ i < upTo le rows answer[i] := by
  rw [h.below_eq, h.upTo_eq]
  constructor
  · exact countP_le_of_drop fun y hy => by simp [le_of_mem_drop hle h.2 hi hy]
  · exact le_countP_of_take hi fun y hy => le_of_mem_take hle h.2 hi hy

/-- **What stands at the places of a row:** rows tied with it. -/
theorem InOrder.tied (hle : Preorder le) (h : InOrder le rows answer) {a : α} {i : ℕ}
    (hi : i < answer.length) (hbelow : below le rows a ≤ i) (hupTo : i < upTo le rows a) :
    le a answer[i] = true ∧ le answer[i] a = true := by
  rw [h.below_eq] at hbelow
  rw [h.upTo_eq] at hupTo
  constructor
  · -- otherwise all rows up to the place are below the row
    by_contra hnot
    have : i + 1 ≤ below le answer a := le_countP_of_take hi fun y hy => by
      by_contra hy'
      exact hnot (hle.trans _ _ _ (by simpa using hy') (le_of_mem_take hle h.2 hi hy))
    omega
  · -- otherwise all rows from the place on are above the row
    by_contra hnot
    have : upTo le answer a ≤ i := countP_le_of_drop fun y hy => by
      by_contra hy'
      exact hnot (hle.trans _ _ _ (le_of_mem_drop hle h.2 hi hy) (by simpa using hy'))
    omega

end Places

/-! ### Ties that fit on a page -/

section Ties

variable {le : α → α → Bool} {rows answer : List α} {limit : ℕ}

/-- The place of a row tells its page, when its ties fit on one. -/
theorem InOrder.page_eq (hle : Preorder le) (hfit : ∀ a ∈ rows, OnOnePage le limit rows a)
    (h : InOrder le rows answer) {i : ℕ} (hi : i < answer.length) :
    below le rows answer[i] / limit = i / limit := by
  obtain ⟨hlow, hhigh⟩ := h.place hle hi
  have hone : below le rows answer[i] / limit = (upTo le rows answer[i] - 1) / limit :=
    hfit _ (h.1.mem_iff.1 (List.getElem_mem hi))
  have h₁ := Nat.div_le_div_right (c := limit) hlow
  have h₂ := Nat.div_le_div_right (c := limit) (Nat.le_sub_one_of_lt hhigh)
  omega

/-- A page of any answer holds the rows of that page. -/
theorem InOrder.slice_eq (hle : Preorder le) (hlimit : 0 < limit)
    (hfit : ∀ a ∈ rows, OnOnePage le limit rows a) (h : InOrder le rows answer) (k : ℕ) :
    slice (k * limit) limit answer =
      answer.filter fun a => decide (below le rows a / limit = k) := by
  have hsplit : answer = answer.take (k * limit) ++
      (slice (k * limit) limit answer ++ answer.drop (k * limit + limit)) := by
    rw [slice, ← List.drop_drop, List.take_append_drop, List.take_append_drop]
  -- no row of the pages before is on this page, nor one of the pages after
  have hbefore : (answer.take (k * limit)).filter
      (fun a => decide (below le rows a / limit = k)) = [] := by
    refine List.filter_eq_nil_iff.2 fun y hy => ?_
    obtain ⟨i, hi, rfl⟩ := List.mem_iff_getElem.1 hy
    have hi' : i < k * limit := Nat.lt_of_lt_of_le hi (List.length_take_le _ _)
    rw [List.getElem_take, decide_eq_true_eq, h.page_eq hle hfit]
    exact Nat.ne_of_lt ((Nat.div_lt_iff_lt_mul hlimit).2 hi')
  have hafter : (answer.drop (k * limit + limit)).filter
      (fun a => decide (below le rows a / limit = k)) = [] := by
    refine List.filter_eq_nil_iff.2 fun y hy => ?_
    obtain ⟨i, hi, rfl⟩ := List.mem_iff_getElem.1 hy
    rw [List.getElem_drop, decide_eq_true_eq, h.page_eq hle hfit]
    refine Nat.ne_of_gt ((Nat.le_div_iff_mul_le hlimit).2 ?_)
    rw [Nat.succ_mul]
    omega
  have hon : (slice (k * limit) limit answer).filter
      (fun a => decide (below le rows a / limit = k)) = slice (k * limit) limit answer := by
    refine List.filter_eq_self.2 fun y hy => ?_
    obtain ⟨i, hi, rfl⟩ := List.mem_iff_getElem.1 hy
    have hi' : i < limit := Nat.lt_of_lt_of_le hi (List.length_take_le _ _)
    simp only [slice, List.getElem_take, List.getElem_drop, decide_eq_true_eq]
    rw [h.page_eq hle hfit, Nat.add_comm, Nat.add_mul_div_right _ _ hlimit,
      Nat.div_eq_of_lt hi', Nat.zero_add]
  conv_rhs => rw [hsplit]
  rw [List.filter_append, List.filter_append, hbefore, hafter, hon]
  simp

/-- The rows by a number each of them has are the rows. -/
theorem perm_flatMap_filter (f : α → ℕ) :
    ∀ (n : ℕ) (rows : List α), (∀ a ∈ rows, f a < n) →
      ((List.range n).flatMap fun k => rows.filter fun a => decide (f a = k)).Perm rows
  | 0, [], _ => by simp
  | 0, a :: _, h => absurd (h a (List.mem_cons_self ..)) (Nat.not_lt_zero _)
  | n + 1, rows, h => by
      have hlow : ∀ a ∈ rows.filter (fun a => decide (f a < n)), f a < n := fun a ha => by
        simpa using (List.mem_filter.1 ha).2
      have hrest := perm_flatMap_filter f n _ hlow
      have hsame : (List.range n).flatMap (fun k => rows.filter fun a => decide (f a = k)) =
          (List.range n).flatMap fun k =>
            (rows.filter fun a => decide (f a < n)).filter fun a => decide (f a = k) := by
        refine List.flatMap_congr fun k hk => ?_
        rw [List.filter_filter]
        refine List.filter_congr fun a _ => ?_
        have := List.mem_range.1 hk
        by_cases ha : f a = k <;> simp [ha, this]
      have hlast : rows.filter (fun a => decide (f a = n)) =
          rows.filter fun a => !decide (f a < n) := by
        refine List.filter_congr fun a ha => ?_
        have := h a ha
        by_cases ha' : f a < n <;> simp [ha'] <;> omega
      rw [List.range_succ, List.flatMap_append, hsame, List.flatMap_singleton, hlast]
      exact (hrest.append_right _).trans (List.filter_append_perm _ rows)

/-- **Ties that fit on a page are enough.** -/
theorem showsEachOnce_of_onOnePage (hle : Preorder le) (hlimit : 0 < limit)
    (hfit : ∀ a ∈ rows, OnOnePage le limit rows a) : ShowsEachOnce le limit rows := by
  intro answer hanswer
  have hpage : ∀ a ∈ rows, below le rows a / limit < pageCount rows.length limit := by
    intro a ha
    obtain ⟨i, hi, rfl⟩ := List.mem_iff_getElem.1 ((hanswer 0).1.mem_iff.2 ha)
    rw [(hanswer 0).page_eq hle hfit hi]
    exact div_lt_pageCount hlimit (by rwa [← (hanswer 0).1.length_eq])
  have hslices : (pages limit (pageCount rows.length limit) answer).Perm
      ((List.range (pageCount rows.length limit)).flatMap fun k =>
        rows.filter fun a => decide (below le rows a / limit = k)) := by
    refine List.Perm.flatMap_left _ fun k _ => ?_
    rw [(hanswer k).slice_eq hle hlimit hfit]
    exact (hanswer k).1.filter _
  exact hslices.trans (perm_flatMap_filter _ _ rows hpage)

/-- A page boundary inside the ties of a row. -/
theorem exists_boundary {low high : ℕ} (hlimit : 0 < limit)
    (hlow : low ≤ high) (h : low / limit ≠ high / limit) :
    ∃ k, 0 < k ∧ low < k * limit ∧ k * limit ≤ high := by
  have hlt : low / limit < high / limit := lt_of_le_of_ne (Nat.div_le_div_right hlow) h
  have hpos : 0 < high / limit := Nat.lt_of_le_of_lt (Nat.zero_le _) hlt
  exact ⟨high / limit, hpos, (Nat.div_lt_iff_lt_mul hlimit).1 hlt, Nat.div_mul_le_self ..⟩

/-- Two tied rows that are neighbours may change places. -/
theorem InOrder.swap {before after : List α} {x y : α}
    (h : InOrder le rows (before ++ x :: y :: after)) (htie : le y x = true) :
    InOrder le rows (before ++ y :: x :: after) := by
  refine ⟨((List.Perm.swap x y after).append_left before).trans h.1, ?_⟩
  obtain ⟨hbefore, hpair, hcross⟩ := List.pairwise_append.1 h.2
  obtain ⟨hx, hpair'⟩ := List.pairwise_cons.1 hpair
  obtain ⟨hy, hafter⟩ := List.pairwise_cons.1 hpair'
  refine List.pairwise_append.2 ⟨hbefore, List.pairwise_cons.2 ⟨?_, List.pairwise_cons.2
    ⟨fun z hz => hx z (List.mem_cons_of_mem _ hz), hafter⟩⟩, fun u hu z hz => hcross u hu z ?_⟩
  · intro z hz
    rcases List.mem_cons.1 hz with rfl | hz
    · exact htie
    · exact hy z hz
  · simp only [List.mem_cons] at hz ⊢
    tauto

/-- What stands inside a slice. -/
theorem mem_slice {l : List α} {skip take i : ℕ} {x : α} (hi : l[i]? = some x) (hlow : skip ≤ i)
    (hhigh : i < skip + take) : x ∈ slice skip take l := by
  refine List.mem_of_getElem? (i := i - skip) ?_
  rw [slice, List.getElem?_take, if_pos (by omega), List.getElem?_drop,
    Nat.add_sub_cancel' hlow, hi]

/-- Ties that do not fit on a page have a page boundary between two of them. -/
theorem exists_tie_at_boundary (hle : Preorder le) (hlimit : 0 < limit) {sorted : List α}
    (hsorted : InOrder le rows sorted) {a : α} (ha : a ∈ rows)
    (hcut : ¬ OnOnePage le limit rows a) :
    ∃ k before x y after, sorted = before ++ x :: y :: after ∧ le y x = true ∧
      before.length + 1 = (k + 1) * limit := by
  obtain ⟨p, hp, rfl⟩ := List.mem_iff_getElem.1 (hsorted.1.mem_iff.2 ha)
  obtain ⟨hplow, hphigh⟩ := hsorted.place hle hp
  obtain ⟨k, hk, hlow, hhigh⟩ := exists_boundary hlimit (by omega) hcut
  have hupTo : upTo le rows sorted[p] ≤ sorted.length := by
    rw [hsorted.upTo_eq]
    exact List.countP_le_length
  obtain ⟨m, hm⟩ : ∃ m, k * limit = m + 1 := ⟨k * limit - 1, by omega⟩
  have hm₀ : m < sorted.length := by omega
  have hm₁ : m + 1 < sorted.length := by omega
  have hfirst := hsorted.tied hle hm₀ (a := sorted[p]) (by omega) (by omega)
  have hsecond := hsorted.tied hle hm₁ (a := sorted[p]) (by omega) (by omega)
  refine ⟨k - 1, sorted.take m, sorted[m], sorted[m + 1], sorted.drop (m + 2), ?_,
    hle.trans _ _ _ hsecond.2 hfirst.1, ?_⟩
  · rw [← List.drop_eq_getElem_cons hm₁, ← List.drop_eq_getElem_cons hm₀, List.take_append_drop]
  · rw [List.length_take_of_le hm₀.le, ← hm, Nat.sub_add_cancel hk]

/-- The rows sorted are in order. -/
theorem inOrder_insertionSort (hle : Preorder le) (rows : List α) :
    InOrder le rows (rows.insertionSort fun a b => le a b = true) := by
  have : IsTrans α fun a b => le a b = true := ⟨hle.trans⟩
  have : Std.Total fun a b : α => le a b = true := ⟨hle.total⟩
  exact ⟨List.perm_insertionSort _ _, List.pairwise_insertionSort _ _⟩

/-- **They are needed:** two tied rows on both sides of a boundary can change
places between the queries of the two pages, and the first is shown twice. -/
theorem onOnePage_of_showsEachOnce (hle : Preorder le) (hlimit : 0 < limit) (hnodup : rows.Nodup)
    (h : ShowsEachOnce le limit rows) : ∀ a ∈ rows, OnOnePage le limit rows a := by
  intro a ha
  by_contra hcut
  have hsorted := inOrder_insertionSort hle rows
  obtain ⟨k, before, x, y, after, hsplit, htie, hlength⟩ :=
    exists_tie_at_boundary hle hlimit hsorted ha hcut
  rw [hsplit] at hsorted
  have hshown := h
    (fun j => if j = k + 1 then before ++ y :: x :: after else before ++ x :: y :: after)
    fun j => by
      split
      · exact hsorted.swap htie
      · exact hsorted
  have hdisjoint := (List.nodup_flatMap.1 (hshown.nodup_iff.2 hnodup)).2
  have hpage : k + 1 < pageCount rows.length limit := by
    have hrows : (k + 1) * limit < rows.length := by
      rw [← hsorted.1.length_eq, ← hlength]
      simp
    simpa [Nat.mul_div_cancel _ hlimit] using div_lt_pageCount hlimit hrows
  have hpages := List.pairwise_iff_getElem.1 hdisjoint k (k + 1)
    (by simpa using Nat.lt_of_succ_lt hpage) (by simpa using hpage) (Nat.lt_succ_self k)
  simp only [List.getElem_range] at hpages
  have hsucc : (k + 1) * limit = k * limit + limit := Nat.succ_mul k limit
  -- the first of them is the last row of one page and the first row of the next
  refine hpages (a := x) ?_ ?_
  · simp only [if_neg (Nat.ne_of_lt (Nat.lt_succ_self k))]
    exact mem_slice (i := before.length) (by simp) (by omega) (by omega)
  · simp only [if_true]
    exact mem_slice (i := before.length + 1) (by simp) (by omega) (by omega)

/-- **The pages show each row once, whatever the queries do with ties, exactly when
the ties of each row fit on one page.** -/
theorem showsEachOnce_iff (hle : Preorder le) (hlimit : 0 < limit) (hnodup : rows.Nodup) :
    ShowsEachOnce le limit rows ↔ ∀ a ∈ rows, OnOnePage le limit rows a :=
  ⟨onOnePage_of_showsEachOnce hle hlimit hnodup, showsEachOnce_of_onOnePage hle hlimit⟩

end Ties

/-! ### Orders without ties -/

section Strict

variable {le : α → α → Bool} {rows : List α} {limit : ℕ}

/-- An order without ties among the rows has one answer. -/
theorem InOrder.unique {answer answer' : List α}
    (hstrict : ∀ a ∈ rows, ∀ b ∈ rows, le a b = true → le b a = true → a = b)
    (h : InOrder le rows answer) (h' : InOrder le rows answer') : answer = answer' :=
  (h.1.trans h'.1.symm).eq_of_pairwise (fun a b ha hb hab hba =>
    hstrict a (h.1.mem_iff.1 ha) b (h'.1.mem_iff.1 hb) hab hba) h.2 h'.2

/-- **Without ties the pages put together are the sorted rows.** -/
theorem pages_of_strict (hlimit : 0 < limit)
    (hstrict : ∀ a ∈ rows, ∀ b ∈ rows, le a b = true → le b a = true → a = b)
    {answer : ℕ → List α} (h : ∀ k, InOrder le rows (answer k)) {sorted : List α}
    (hsorted : InOrder le rows sorted) :
    pages limit (pageCount rows.length limit) answer = sorted := by
  have hsame : answer = fun _ => sorted := funext fun k => (h k).unique hstrict hsorted
  rw [hsame, ← hsorted.1.length_eq, pages_pageCount hlimit]

/-- Without ties the pages show each row once. -/
theorem showsEachOnce_of_strict (hle : Preorder le) (hlimit : 0 < limit)
    (hstrict : ∀ a ∈ rows, ∀ b ∈ rows, le a b = true → le b a = true → a = b) :
    ShowsEachOnce le limit rows := fun answer h => by
  have hsorted := inOrder_insertionSort hle rows
  rw [pages_of_strict hlimit hstrict h hsorted]
  exact hsorted.1

end Strict

/-! ### Slices of answers that change -/

section Changing

variable {le : α → α → Bool} {rows answer : List α} {p : α → Bool}

/-- Without ties a row stands behind the rows below it. -/
theorem InOrder.getElem?_below (hle : Preorder le) (h : InOrder le rows answer) {a : α}
    (ha : a ∈ rows) (hstrict : ∀ b ∈ rows, le a b = true → le b a = true → b = a) :
    answer[below le rows a]? = some a := by
  obtain ⟨i, hi, rfl⟩ := List.mem_iff_getElem.1 (h.1.mem_iff.2 ha)
  obtain ⟨hlow, hhigh⟩ := h.place hle hi
  have hbelow : below le rows answer[i] < answer.length := Nat.lt_of_le_of_lt hlow hi
  obtain ⟨hab, hba⟩ := h.tied hle hbelow (a := answer[i]) (le_refl _) (Nat.lt_of_le_of_lt hlow hhigh)
  rw [List.getElem?_eq_getElem hbelow,
    hstrict _ (h.1.mem_iff.1 (List.getElem_mem hbelow)) hab hba]

/-- **A slice shows the only row of a kind** when the row stands inside of it. -/
theorem countP_slice {l : List α} {skip take i : ℕ} {a : α} (hone : l.countP p = 1)
    (hi : l[i]? = some a) (ha : p a = true) :
    (slice skip take l).countP p = if skip ≤ i ∧ i < skip + take then 1 else 0 := by
  have hsplit : (l.take skip).countP p + ((slice skip take l).countP p +
      (l.drop (skip + take)).countP p) = 1 := by
    rw [slice, ← List.countP_append, ← List.drop_drop, List.take_append_drop, ← List.countP_append,
      List.take_append_drop, hone]
  have hpos {part : List α} (hmem : a ∈ part) : 1 ≤ part.countP p :=
    List.countP_pos_iff.2 ⟨a, hmem, ha⟩
  split
  next hinside =>
    have hslice := hpos (mem_slice hi hinside.1 hinside.2)
    omega
  next houtside =>
    rcases Nat.lt_or_ge i skip with hlow | hlow
    · have htake : a ∈ l.take skip :=
        List.mem_of_getElem? (i := i) (by rw [List.getElem?_take, if_pos hlow, hi])
      have := hpos htake
      omega
    · have hdrop : a ∈ l.drop (skip + take) := by
        refine List.mem_of_getElem? (i := i - (skip + take)) ?_
        rw [List.getElem?_drop, Nat.add_sub_cancel' (by omega), hi]
      have := hpos hdrop
      omega

end Changing

end Paging
