/-
# Closed ranges of cells

A line cut into cells, as instants are into days.  A query for the cells from `a` to `b` asks
for what lies between the first point of `a` and a last point of `b`; what lies in `b` after
that point is late, and no such query finds it.

So the queries for two ranges that follow each other never share a record, and they answer
together what the query for the whole range does, and all that lies in its cells, exactly when
no record is late in the cells they end with (`partition_iff`).
-/

import Mathlib

/-- The cells of a line, with the points a query takes for their first and their last. -/
structure Calendar (T : Type*) [LinearOrder T] where
  cell : T → ℤ
  first : ℤ → T
  last : ℤ → T
  gc : GaloisConnection first cell
  cell_last : ∀ d, cell (last d) = d

namespace Calendar

variable {T : Type*} [LinearOrder T] (cal : Calendar T)

/-- A point of a cell that lies after what is taken for its last. -/
def Late (d : ℤ) (t : T) : Prop := cal.cell t = d ∧ cal.last d < t

/-- **What a query finds.** -/
theorem mem_Icc_iff {a b : ℤ} {t : T} : t ∈ Set.Icc (cal.first a) (cal.last b) ↔
    a ≤ cal.cell t ∧ cal.cell t ≤ b ∧ ¬ cal.Late b t := by
  rw [Set.mem_Icc, cal.gc a t]
  refine and_congr_right fun _ => ⟨fun hle => ⟨?_, fun hlate => hle.not_gt hlate.2⟩, ?_⟩
  · exact (cal.gc.monotone_u hle).trans_eq (cal.cell_last b)
  · rintro ⟨hcell, hlate⟩
    by_contra hlt
    have hb : b ≤ cal.cell t :=
      (cal.cell_last b).symm.trans_le (cal.gc.monotone_u (not_le.1 hlt).le)
    exact hlate ⟨le_antisymm hcell hb, not_le.1 hlt⟩

section Records

variable {R : Type*} (records : Set R) (stamp : R → Option T)

/-- The records a query finds. -/
def selected (a b : ℤ) : Set R :=
  {r ∈ records | ∃ t ∈ Set.Icc (cal.first a) (cal.last b), stamp r = some t}

/-- The records of a range of cells. -/
def within (a b : ℤ) : Set R :=
  {r ∈ records | ∃ t, stamp r = some t ∧ a ≤ cal.cell t ∧ cal.cell t ≤ b}

/-- What queries for ranges promise. -/
def Partitions (a b c : ℤ) : Prop :=
  Disjoint (cal.selected records stamp a b) (cal.selected records stamp (b + 1) c) ∧
    cal.selected records stamp a b ∪ cal.selected records stamp (b + 1) c =
      cal.selected records stamp a c ∧
    cal.selected records stamp a c = cal.within records stamp a c

variable {records stamp}

theorem mem_selected_iff {a b : ℤ} {r : R} {t : T} (hr : r ∈ records) (ht : stamp r = some t) :
    r ∈ cal.selected records stamp a b ↔
      a ≤ cal.cell t ∧ cal.cell t ≤ b ∧ ¬ cal.Late b t := by
  rw [← cal.mem_Icc_iff]
  constructor
  · rintro ⟨-, u, hu, hru⟩
    obtain rfl := Option.some.inj (ht.symm.trans hru)
    exact hu
  · exact fun h => ⟨hr, t, h, ht⟩

theorem mem_within_iff {a b : ℤ} {r : R} {t : T} (hr : r ∈ records) (ht : stamp r = some t) :
    r ∈ cal.within records stamp a b ↔ a ≤ cal.cell t ∧ cal.cell t ≤ b := by
  constructor
  · rintro ⟨-, u, hru, hu⟩
    obtain rfl := Option.some.inj (ht.symm.trans hru)
    exact hu
  · exact fun h => ⟨hr, t, ht, h⟩

/-- Ranges that follow each other share no record. -/
theorem disjoint_selected (a b c : ℤ) :
    Disjoint (cal.selected records stamp a b) (cal.selected records stamp (b + 1) c) := by
  rw [Set.disjoint_left]
  rintro r ⟨hr, t, ht, hrt⟩ hnext
  have hb := (cal.mem_Icc_iff.1 ht).2.1
  have hb' := ((cal.mem_selected_iff hr hrt).1 hnext).1
  omega

variable (records stamp) in
/-- **Ranges that follow each other partition** what lies in their cells exactly when nothing
is late in the cells they end with. -/
theorem partition_iff {a b c : ℤ} (hab : a ≤ b) (hbc : b < c) :
    cal.Partitions records stamp a b c ↔
      ∀ r ∈ records, ∀ t, stamp r = some t → ¬ cal.Late b t ∧ ¬ cal.Late c t := by
  constructor
  · rintro ⟨-, hunion, hwhole⟩ r hr t ht
    refine ⟨fun hlate => ?_, fun hlate => ?_⟩
    · -- late in `b`, so neither of the two ranges has it
      have hmem : r ∈ cal.selected records stamp a c := by
        rw [hwhole, cal.mem_within_iff hr ht, hlate.1]
        exact ⟨hab, hbc.le⟩
      rw [← hunion] at hmem
      rcases hmem with h | h
      · exact ((cal.mem_selected_iff hr ht).1 h).2.2 hlate
      · have := ((cal.mem_selected_iff hr ht).1 h).1
        have := hlate.1
        omega
    · -- late in `c`, so the whole range has it not
      have hmem : r ∈ cal.within records stamp a c := by
        rw [cal.mem_within_iff hr ht, hlate.1]
        exact ⟨hab.trans hbc.le, le_rfl⟩
      rw [← hwhole] at hmem
      exact ((cal.mem_selected_iff hr ht).1 hmem).2.2 hlate
  · intro hlate
    refine ⟨cal.disjoint_selected a b c, ?_, ?_⟩
    · ext r
      constructor
      · rintro (⟨hr, t, ht, hrt⟩ | ⟨hr, t, ht, hrt⟩) <;>
          obtain ⟨ha, hb, -⟩ := cal.mem_Icc_iff.1 ht <;>
          exact (cal.mem_selected_iff hr hrt).2 ⟨by omega, by omega, (hlate r hr t hrt).2⟩
      · rintro ⟨hr, t, ht, hrt⟩
        obtain ⟨ha, hc, -⟩ := cal.mem_Icc_iff.1 ht
        rcases le_or_gt (cal.cell t) b with hb | hb
        · exact .inl ((cal.mem_selected_iff hr hrt).2 ⟨ha, hb, (hlate r hr t hrt).1⟩)
        · exact .inr ((cal.mem_selected_iff hr hrt).2 ⟨hb, hc, (hlate r hr t hrt).2⟩)
    · ext r
      constructor
      · rintro ⟨hr, t, ht, hrt⟩
        obtain ⟨ha, hc, -⟩ := cal.mem_Icc_iff.1 ht
        exact (cal.mem_within_iff hr hrt).2 ⟨ha, hc⟩
      · rintro ⟨hr, t, hrt, ha, hc⟩
        exact (cal.mem_selected_iff hr hrt).2 ⟨ha, hc, (hlate r hr t hrt).2⟩

end Records

end Calendar
