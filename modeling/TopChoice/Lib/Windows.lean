/-
# Packing a list into windows

Items are packed one after the other into runs of a budget.  A run that has no room for the
next item is closed, and the next one begins with a tail of it, unless the tail leaves no room
either; an item over the budget stands alone.

The runs and the items over the budget are windows of the list (`pack_covering`): the first
begins where the list does and the last one ends where it does, each begins and ends after the
one before it does, none leaves a gap, and what two of them share is a tail of the first that
costs no more than was kept.  How a tail is chosen is left open.
-/

import Mathlib.Algebra.BigOperators.Group.List.Basic
import Mathlib.Algebra.Order.BigOperators.Group.List
import Mathlib.Data.List.Chain
import Mathlib.Data.List.Infix
import Mathlib.Tactic.Linarith

namespace Windows

variable {α : Type*}

/-- What an item costs, what a run may cost, and the tail of a run that the next one begins
with, of no more than `overlap`. -/
structure Rule (α : Type*) where
  cost : α → ℕ
  budget : ℕ
  overlap : ℕ
  tail : List α → List α
  tail_suffix : ∀ run, tail run <:+ run
  tail_cost : ∀ run, ((tail run).map cost).sum ≤ overlap

/-- A segment of a packed list: a run of items, or an item over the budget. -/
inductive Segment (α : Type*) where
  | run (items : List α)
  | oversize (item : α)

/-- The items of a segment. -/
def Segment.items : Segment α → List α
  | .run items => items
  | .oversize item => [item]

/-- The parts that are closed, and the run that is open. -/
structure State (α : Type*) where
  closed : List (Segment α)
  current : List α

namespace Rule

variable (rule : Rule α)

/-- What a run costs. -/
def total (items : List α) : ℕ := (items.map rule.cost).sum

theorem total_append (items items' : List α) :
    rule.total (items ++ items') = rule.total items + rule.total items' := by
  rw [total, List.map_append, List.sum_append, total, total]

theorem total_singleton (item : α) : rule.total [item] = rule.cost item := by
  rw [total, List.map_singleton, List.sum_singleton]

/-- The parts when the open run is closed. -/
def close (s : State α) : List (Segment α) :=
  if s.current.isEmpty then s.closed else s.closed ++ [.run s.current]

/-- The items the next run begins with, before an item. -/
def kept (current : List α) (item : α) : List α :=
  if rule.budget < rule.total (rule.tail current) + rule.cost item then [] else rule.tail current

/-- One item. -/
def step (s : State α) (item : α) : State α :=
  if rule.budget < rule.cost item then ⟨close s ++ [.oversize item], []⟩
  else if s.current ≠ [] ∧ rule.budget < rule.total s.current + rule.cost item then
    ⟨s.closed ++ [.run s.current], rule.kept s.current item ++ [item]⟩
  else ⟨s.closed, s.current ++ [item]⟩

/-- The parts of a list. -/
def pack (items : List α) : List (Segment α) := close (items.foldl rule.step ⟨[], []⟩)

/-! ### Windows -/

/-- The items from one position to before another. -/
def slice (xs : List α) (start stop : ℕ) : List α := (xs.drop start).take (stop - start)

/-- A part with its place in the list. -/
structure Window (α : Type*) where
  start : ℕ
  stop : ℕ
  part : Segment α

/-- The part is what the list has there. -/
def Shows (xs : List α) (w : Window α) : Prop :=
  w.start < w.stop ∧ w.stop ≤ xs.length ∧
    match w.part with
    | .run items => items = slice xs w.start w.stop ∧ rule.total items ≤ rule.budget
    | .oversize item => slice xs w.start w.stop = [item] ∧ rule.budget < rule.cost item

/-- A window begins and ends after another, leaves no gap, and shares a tail with it that costs
no more than the overlap. -/
def Follows (xs : List α) (v w : Window α) : Prop :=
  v.start < w.start ∧ v.stop < w.stop ∧ w.start ≤ v.stop ∧
    rule.total (slice xs w.start v.stop) ≤ rule.overlap

/-- **Windows that cover** the first items of a list. -/
structure CoveringTo (xs : List α) (n : ℕ) (ws : List (Window α)) : Prop where
  shows : ∀ w ∈ ws, rule.Shows xs w
  chain : ws.IsChain (rule.Follows xs)
  first : ∀ w ∈ ws.head?, w.start = 0
  last : (ws.getLast?.map Window.stop).getD 0 = n

/-- Windows that cover a list. -/
def Covering (xs : List α) (ws : List (Window α)) : Prop := rule.CoveringTo xs xs.length ws

/-- The windows that are closed, and the run that is open with the place where it begins. -/
structure Placing (α : Type*) where
  closed : List (Window α)
  start : ℕ
  current : List α

/-- The place behind the open run. -/
def Placing.stop (p : Placing α) : ℕ := p.start + p.current.length

/-- The windows when the open run is closed. -/
def Placing.close (p : Placing α) : List (Window α) :=
  if p.current.isEmpty then p.closed else p.closed ++ [⟨p.start, p.stop, .run p.current⟩]

/-- One item, with its place. -/
def place (p : Placing α) (item : α) : Placing α :=
  if rule.budget < rule.cost item then
    ⟨p.close ++ [⟨p.stop, p.stop + 1, .oversize item⟩], p.stop + 1, []⟩
  else if p.current ≠ [] ∧ rule.budget < rule.total p.current + rule.cost item then
    ⟨p.closed ++ [⟨p.start, p.stop, .run p.current⟩],
      p.stop - (rule.kept p.current item).length, rule.kept p.current item ++ [item]⟩
  else ⟨p.closed, p.start, p.current ++ [item]⟩

/-- The parts of a list, with their places. -/
def windows (items : List α) : List (Window α) := (items.foldl rule.place ⟨[], 0, []⟩).close

section Slice

variable (xs : List α)

theorem slice_self (a : ℕ) : slice xs a a = [] := by rw [slice, Nat.sub_self, List.take_zero]

/-- One more item. -/
theorem slice_succ {a n : ℕ} (h : a ≤ n) (hn : n < xs.length) :
    slice xs a (n + 1) = slice xs a n ++ [xs[n]] := by
  have hdrop : n - a < (xs.drop a).length := by
    rw [List.length_drop]
    omega
  rw [slice, slice, Nat.succ_sub h, List.take_succ_eq_append_getElem hdrop]
  have hget : (xs.drop a)[n - a] = xs[n] := by
    rw [List.getElem_drop]
    congr 1
    omega
  rw [hget]

theorem length_slice (a : ℕ) {b : ℕ} (hb : b ≤ xs.length) : (slice xs a b).length = b - a := by
  rw [slice, List.length_take, List.length_drop]
  omega

theorem slice_append {a b c : ℕ} (hab : a ≤ b) (hbc : b ≤ c) :
    slice xs a b ++ slice xs b c = slice xs a c := by
  have hdrop : xs.drop b = (xs.drop a).drop (b - a) := by
    rw [List.drop_drop]
    congr 1
    omega
  rw [slice, slice, slice, hdrop, ← List.take_add]
  congr 1
  omega

/-- A tail of a slice is a slice. -/
theorem eq_slice_of_suffix {a n : ℕ} {tail : List α} (ha : a ≤ n) (hn : n ≤ xs.length)
    (h : tail <:+ slice xs a n) : tail = slice xs (n - tail.length) n := by
  obtain ⟨front, hfront⟩ := h
  have hlength : front.length + tail.length = n - a := by
    rw [← List.length_append, hfront, slice, List.length_take, List.length_drop]
    omega
  have htail : tail = (slice xs a n).drop front.length := by
    rw [← hfront, List.drop_left]
  rw [htail, slice, List.drop_take, List.drop_drop, slice, List.length_take, List.length_drop]
  congr 1
  · omega
  · congr 1
    omega

end Slice

/-! ### One item -/

section Step

variable {rule} {xs : List α} {n m : ℕ} {ws : List (Window α)} {w w' : Window α} {p : Placing α}

/-- One more window. -/
theorem CoveringTo.concat (h : rule.CoveringTo xs n ws) (hshows : rule.Shows xs w)
    (hstart : w.start ≤ n) (hstop : n < w.stop)
    (hlast : ∀ v ∈ ws.getLast?, v.start < w.start ∧
      rule.total (slice xs w.start v.stop) ≤ rule.overlap)
    (hnil : ws = [] → w.start = 0) : rule.CoveringTo xs w.stop (ws ++ [w]) where
  shows v hv := by
    rcases List.mem_append.1 hv with hv | hv
    · exact h.shows v hv
    · obtain rfl := List.mem_singleton.1 hv
      exact hshows
  chain := by
    refine List.isChain_append.2 ⟨h.chain, List.isChain_singleton _, fun v hv u hu => ?_⟩
    obtain rfl := Option.some.inj hu
    have hreached := h.last
    rw [Option.mem_def.1 hv] at hreached
    have hvn : v.stop = n := hreached
    exact ⟨(hlast v hv).1, hvn ▸ hstop, hvn ▸ hstart, (hlast v hv).2⟩
  first v hv := by
    cases ws with
    | nil =>
      obtain rfl := Option.some.inj hv
      exact hnil rfl
    | cons u ws => exact h.first v hv
  last := by rw [List.getLast?_concat]; rfl

/-- A window of the next item alone. -/
theorem CoveringTo.concat_next (h : rule.CoveringTo xs n ws) (hshows : rule.Shows xs w)
    (hstart : w.start = n) (hstop : w.stop = n + 1) : rule.CoveringTo xs (n + 1) (ws ++ [w]) := by
  rw [← hstop]
  refine h.concat hshows hstart.le (by omega) (fun v hv => ?_) fun hnil => ?_
  · have hreached := h.last
    rw [Option.mem_def.1 hv] at hreached
    have hvn : v.stop = n := hreached
    have hv := (h.shows v (List.mem_of_getLast? hv)).1
    refine ⟨by omega, ?_⟩
    rw [hstart, hvn, slice_self]
    exact Nat.zero_le _
  · have hreached := h.last
    rw [hnil] at hreached
    exact hstart.trans hreached.symm

/-- The last window with one more item. -/
theorem CoveringTo.extend (h : rule.CoveringTo xs n (ws ++ [w])) (hshows : rule.Shows xs w')
    (hstart : w'.start = w.start) (hstop : n < w'.stop) :
    rule.CoveringTo xs w'.stop (ws ++ [w']) where
  shows v hv := by
    rcases List.mem_append.1 hv with hv | hv
    · exact h.shows v (List.mem_append_left _ hv)
    · obtain rfl := List.mem_singleton.1 hv
      exact hshows
  chain := by
    obtain ⟨hchain, -, hlast⟩ := List.isChain_append.1 h.chain
    refine List.isChain_append.2 ⟨hchain, List.isChain_singleton _, fun v hv u hu => ?_⟩
    obtain rfl := Option.some.inj hu
    obtain ⟨hfrom, hto, hgap, hcost⟩ := hlast v hv w rfl
    have hreached := h.last
    rw [List.getLast?_concat] at hreached
    have hwn : w.stop = n := hreached
    exact ⟨hstart ▸ hfrom, by omega, hstart ▸ hgap, hstart ▸ hcost⟩
  first v hv := by
    cases ws with
    | nil =>
      obtain rfl := Option.some.inj hv
      rw [hstart]
      exact h.first w rfl
    | cons u ws => exact h.first v hv
  last := by rw [List.getLast?_concat]; rfl

/-- The windows of a state cover the items read. -/
structure Holds (rule : Rule α) (xs : List α) (n : ℕ) (p : Placing α) : Prop where
  stop : p.stop = n
  covering : rule.CoveringTo xs n p.close

/-- The open run is the last window. -/
theorem Holds.current (h : Holds rule xs n p) (hcurrent : p.current ≠ []) :
    rule.CoveringTo xs n (p.closed ++ [⟨p.start, n, .run p.current⟩]) ∧ p.start < n ∧
      n ≤ xs.length ∧ p.current = slice xs p.start n ∧ rule.total p.current ≤ rule.budget := by
  have hcovering := h.covering
  rw [Placing.close, if_neg (by simpa using hcurrent), h.stop] at hcovering
  obtain ⟨hlt, hle, hitems, htotal⟩ :=
    hcovering.shows _ (List.mem_append_right _ (List.mem_singleton_self _))
  exact ⟨hcovering, hlt, hle, hitems, htotal⟩

/-- The items that are kept leave room for the next one, and are fewer than those of the run. -/
theorem kept_spec {current : List α} {item : α} (hitem : rule.cost item ≤ rule.budget)
    (hfull : rule.budget < rule.total current + rule.cost item) :
    rule.kept current item <:+ current ∧ (rule.kept current item).length < current.length ∧
      rule.total (rule.kept current item) ≤ rule.overlap ∧
      rule.total (rule.kept current item ++ [item]) ≤ rule.budget := by
  have hnonempty : current ≠ [] := by
    rintro rfl
    exact absurd hfull (by simpa [total] using hitem)
  rw [total_append, total_singleton, kept]
  split_ifs with hdrop
  · refine ⟨List.nil_suffix, List.length_pos_iff.2 hnonempty, Nat.zero_le _, ?_⟩
    simpa [total] using hitem
  · have hroom := not_lt.1 hdrop
    refine ⟨rule.tail_suffix current, ?_, rule.tail_cost current, hroom⟩
    refine lt_of_le_of_ne (rule.tail_suffix current).length_le fun hall => ?_
    rw [(rule.tail_suffix current).eq_of_length hall] at hroom
    exact absurd hfull hroom.not_gt

/-- **One item keeps the windows covering.** -/
theorem Holds.place (h : Holds rule xs n p) (hn : n < xs.length) :
    Holds rule xs (n + 1) (rule.place p xs[n]) := by
  have hone : slice xs n (n + 1) = [xs[n]] := by rw [slice_succ xs le_rfl hn, slice_self]; rfl
  rw [Rule.place]
  split_ifs with hover hfull
  · -- an item over the budget
    rw [h.stop]
    exact ⟨rfl, h.covering.concat_next ⟨Nat.lt_succ_self n, hn, hone, hover⟩ rfl rfl⟩
  · -- the run is closed, and the next one begins with what is kept of it
    obtain ⟨hcurrent, hroom⟩ := hfull
    obtain ⟨hcovering, hlt, hle, hitems, -⟩ := h.current hcurrent
    obtain ⟨hsuffix, hshorter, hoverlap, hbudget⟩ := kept_spec (not_lt.1 hover) hroom
    set kept := rule.kept p.current xs[n]
    have hlength : p.current.length = n - p.start := by
      rw [hitems, slice, List.length_take, List.length_drop]
      omega
    have hkept : kept = slice xs (n - kept.length) n :=
      eq_slice_of_suffix xs hlt.le hle (hitems ▸ hsuffix)
    rw [h.stop]
    have hstop : n - kept.length + (kept ++ [xs[n]]).length = n + 1 := by
      rw [List.length_append, List.length_singleton]
      omega
    refine ⟨hstop, ?_⟩
    rw [Placing.close, if_neg (by simp), Placing.stop, hstop]
    refine hcovering.concat (w := ⟨n - kept.length, n + 1, .run (kept ++ [xs[n]])⟩) ?_
      (Nat.sub_le _ _) (Nat.lt_succ_self n) (fun v hv => ?_) fun hnil => by simp at hnil
    · refine ⟨by dsimp only; omega, hn, ?_, hbudget⟩
      dsimp only
      rw [slice_succ xs (Nat.sub_le _ _) hn, ← hkept]
    · rw [List.getLast?_concat] at hv
      obtain rfl := Option.some.inj hv
      refine ⟨by dsimp only; omega, ?_⟩
      dsimp only
      rw [← hkept]
      exact hoverlap
  · -- the item joins the open run
    have hstop : p.start + (p.current ++ [xs[n]]).length = n + 1 := by
      rw [List.length_append, List.length_singleton, ← add_assoc]
      exact congrArg (· + 1) h.stop
    refine ⟨hstop, ?_⟩
    rw [Placing.close, if_neg (by simp), Placing.stop, hstop]
    by_cases hcurrent : p.current = []
    · have hstart : p.start = n := by
        rw [← h.stop, Placing.stop, hcurrent]
        rfl
      have hcovering := h.covering
      rw [Placing.close, hcurrent] at hcovering
      rw [hstart, hcurrent]
      refine hcovering.concat_next ⟨Nat.lt_succ_self n, hn, hone.symm, ?_⟩ rfl rfl
      rw [List.nil_append, total_singleton]
      exact not_lt.1 hover
    · obtain ⟨hcovering, hlt, hle, hitems, -⟩ := h.current hcurrent
      have hshows : rule.Shows xs ⟨p.start, n + 1, .run (p.current ++ [xs[n]])⟩ := by
        refine ⟨hlt.trans (Nat.lt_succ_self n), hn, ?_, ?_⟩
        · rw [slice_succ xs hlt.le hn, ← hitems]
        · rw [total_append, total_singleton]
          exact not_lt.1 fun hover => hfull ⟨hcurrent, hover⟩
      exact hcovering.extend hshows rfl (Nat.lt_succ_self n)

end Step

/-! ### The whole list -/

/-- **The windows of a list cover it.** -/
theorem windows_covering (xs : List α) : rule.Covering xs (rule.windows xs) := by
  have hholds (n : ℕ) (hn : n ≤ xs.length) :
      Holds rule xs n ((xs.take n).foldl rule.place ⟨[], 0, []⟩) := by
    induction n with
    | zero =>
      refine ⟨rfl, fun _ h => (List.not_mem_nil h).elim, List.isChain_nil, ?_, rfl⟩
      exact fun _ h => nomatch h
    | succ n ih =>
      rw [List.take_succ_eq_append_getElem hn, List.foldl_append]
      exact (ih (Nat.le_of_lt hn)).place hn
  have hall := (hholds xs.length le_rfl).covering
  rw [List.take_length] at hall
  exact hall

/-- **The windows of a list are its parts.** -/
theorem windows_part (xs : List α) : (rule.windows xs).map Window.part = rule.pack xs := by
  have hclose (p : Placing α) :
      p.close.map Window.part = close ⟨p.closed.map Window.part, p.current⟩ := by
    rw [Placing.close, close]
    split_ifs
    · rfl
    · rw [List.map_append]
      rfl
  have hfold (p : Placing α) :
      (xs.foldl rule.place p).close.map Window.part =
        close (xs.foldl rule.step ⟨p.closed.map Window.part, p.current⟩) := by
    induction xs generalizing p with
    | nil => exact hclose p
    | cons item xs ih =>
      rw [List.foldl_cons, List.foldl_cons, ih, place, step]
      split_ifs
      · rw [List.map_append, hclose]
        rfl
      · rw [List.map_append]
        rfl
      · rfl
  exact hfold ⟨[], 0, []⟩

/-- **Packing covers**: the parts of a list are windows that cover it. -/
theorem pack_covering (xs : List α) :
    ∃ ws : List (Window α), ws.map Window.part = rule.pack xs ∧ rule.Covering xs ws :=
  ⟨rule.windows xs, rule.windows_part xs, rule.windows_covering xs⟩

section Covered

variable {rule} {xs : List α} {n : ℕ} {ws : List (Window α)} {w : Window α}

/-- The windows before the last one cover up to where it begins. -/
theorem CoveringTo.front (h : rule.CoveringTo xs n (ws ++ [w])) :
    ∃ m, rule.CoveringTo xs m ws ∧ w.start ≤ m ∧ w.stop = n := by
  obtain ⟨hchain, -, hlast⟩ := List.isChain_append.1 h.chain
  have hreached := h.last
  rw [List.getLast?_concat] at hreached
  refine ⟨(ws.getLast?.map Window.stop).getD 0,
    ⟨fun v hv => h.shows v (List.mem_append_left _ hv), hchain, ?_, rfl⟩, ?_, hreached⟩
  · intro v hv
    cases ws with
    | nil => cases hv
    | cons u ws => exact h.first v hv
  · cases hv : ws.getLast? with
    | none =>
      obtain rfl := List.getLast?_eq_none_iff.1 hv
      exact (h.first w rfl).le
    | some v => exact (hlast v hv w rfl).2.2.1

/-- The items of a window are what the list has there. -/
theorem Shows.items_eq (h : rule.Shows xs w) : w.part.items = slice xs w.start w.stop := by
  obtain ⟨-, -, hpart⟩ := h
  cases hcase : w.part with
  | run items =>
    rw [hcase] at hpart
    exact hpart.1
  | oversize item =>
    rw [hcase] at hpart
    exact hpart.1.symm

/-- **No item is lost.** -/
theorem CoveringTo.sublist (h : rule.CoveringTo xs n ws) :
    (xs.take n).Sublist (ws.flatMap fun w => w.part.items) := by
  induction ws using List.reverseRecOn generalizing n with
  | nil =>
    obtain rfl : 0 = n := h.last
    exact List.nil_sublist _
  | append_singleton ws w ih =>
    obtain ⟨m, hfront, hstart, rfl⟩ := h.front
    have hshows := h.shows w (List.mem_append_right _ (List.mem_singleton_self w))
    have hsplit : xs.take w.stop = xs.take w.start ++ w.part.items := by
      rw [hshows.items_eq, slice, ← List.take_add, Nat.add_sub_cancel' hshows.1.le]
    rw [hsplit, List.flatMap_append, List.flatMap_singleton]
    exact ((List.take_sublist_take_left hstart).trans (ih hfront)).append (List.Sublist.refl _)

end Covered

end Rule

/-! ### Slices of one length -/

/-- A list in slices of one length, the last one as long as it gets. -/
def slices (m : ℕ) (xs : List α) : List (List α) :=
  (List.range ((xs.length + m - 1) / m)).map fun k => (xs.drop (k * m)).take m

/-- **Slices are the list.** -/
theorem flatten_slices {m : ℕ} (hm : 0 < m) (xs : List α) : (slices m xs).flatten = xs := by
  have hprefix (k : ℕ) :
      ((List.range k).map fun j => (xs.drop (j * m)).take m).flatten = xs.take (k * m) := by
    induction k with
    | zero => rw [Nat.zero_mul, List.take_zero]; rfl
    | succ k ih =>
      rw [List.range_succ, List.map_append, List.flatten_append, ih, List.map_singleton,
        List.flatten_singleton, Nat.succ_mul, List.take_add]
  have hall : xs.length ≤ (xs.length + m - 1) / m * m := by
    have hdiv := Nat.lt_div_mul_add (a := xs.length + m - 1) hm
    omega
  rw [slices, hprefix, List.take_of_length_le hall]

/-- A slice is not empty, and not longer than it may be. -/
theorem of_mem_slices {m : ℕ} {xs part : List α} (h : part ∈ slices m xs) :
    part ≠ [] ∧ part.length ≤ m := by
  obtain ⟨k, hk, rfl⟩ := List.mem_map.1 h
  have hlt : k * m < xs.length := by
    have hdiv := Nat.div_mul_le_self (xs.length + m - 1) m
    have hmul := Nat.mul_le_mul_right m (List.mem_range.1 hk)
    rcases Nat.eq_zero_or_pos m with rfl | hm
    · rw [Nat.div_zero] at hk
      cases List.mem_range.1 hk
    · rw [Nat.succ_mul] at hmul
      omega
  refine ⟨fun hnil => ?_, List.length_take_le _ _⟩
  have hlength := congrArg List.length hnil
  rw [List.length_take, List.length_drop, List.length_nil] at hlength
  rcases Nat.eq_zero_or_pos m with rfl | hm
  · rw [Nat.div_zero] at hk
    cases List.mem_range.1 hk
  · omega

end Windows
