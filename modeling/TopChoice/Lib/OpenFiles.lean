/-
# Files that are open while they are renamed or removed

A disk names files by numbers: a path has an entry, the number of its file, and a file has
its contents (`Disk`).  To open a path for writing empties its file or makes a new one; to
write changes the contents of a file from a position on, whether or not a path still names
it; to unlink takes the entry away and leaves the file.

On a disk where no two paths name one file (`Disk.WellFormed`), what one path holds is not
changed by what is done to another (`Holds.openTruncate_of_ne`, `Holds.unlink_of_ne`) nor by a
writer of another file (`Holds.write_of_ne`), and a writer that goes on where it stopped
appends (`Holds.write`).
-/

import Mathlib.Logic.Function.Basic
import Mathlib.Data.List.Basic

namespace OpenFiles

variable {π β : Type*} [DecidableEq π]

/-- The entries of the paths, the contents of the files, and the number of the next file. -/
structure Disk (π β : Type*) where
  entries : π → Option ℕ
  contents : ℕ → List β
  fresh : ℕ

/-- A disk without files. -/
def Disk.empty : Disk π β := ⟨fun _ => none, fun _ => [], 0⟩

namespace Disk

/-- What is read from a path. -/
def read (d : Disk π β) (p : π) : Option (List β) := (d.entries p).map d.contents

/-- A path opened for writing, with the number of its file. -/
def openTruncate (d : Disk π β) (p : π) : Disk π β × ℕ :=
  match d.entries p with
  | some i => ({ d with contents := Function.update d.contents i [] }, i)
  | none =>
      (⟨Function.update d.entries p (some d.fresh), Function.update d.contents d.fresh [],
        d.fresh + 1⟩, d.fresh)

/-- Bytes over those from a position on; a gap before the position is filled. -/
def overwrite (fill : β) (old : List β) (position : ℕ) (bytes : List β) : List β :=
  let padded := old ++ List.replicate (position - old.length) fill
  padded.take position ++ bytes ++ padded.drop (position + bytes.length)

/-- A write to an open file. -/
def write (fill : β) (d : Disk π β) (i position : ℕ) (bytes : List β) : Disk π β :=
  { d with contents := Function.update d.contents i (overwrite fill (d.contents i) position bytes) }

/-- A path removed. -/
def unlink (d : Disk π β) (p : π) : Disk π β :=
  { d with entries := Function.update d.entries p none }

/-- The entries name files that exist, each its own. -/
structure WellFormed (d : Disk π β) : Prop where
  lt_fresh : ∀ {p i}, d.entries p = some i → i < d.fresh
  injective : ∀ {p q i}, d.entries p = some i → d.entries q = some i → p = q

omit [DecidableEq π] in
theorem wellFormed_empty : (empty : Disk π β).WellFormed := ⟨nofun, nofun⟩

/-- Writing where the contents end appends. -/
theorem overwrite_length (fill : β) (old bytes : List β) :
    overwrite fill old old.length bytes = old ++ bytes := by
  simp [overwrite]

variable {d : Disk π β}

theorem WellFormed.openTruncate (h : d.WellFormed) (p : π) : (d.openTruncate p).1.WellFormed := by
  unfold Disk.openTruncate
  cases hp : d.entries p with
  | some i => exact ⟨h.lt_fresh, h.injective⟩
  | none =>
    constructor
    · intro q i hq
      by_cases hqp : q = p
      · subst hqp
        simp only [Function.update_self, Option.some.injEq] at hq
        show i < d.fresh + 1
        omega
      · simp only [Function.update_of_ne hqp] at hq
        exact Nat.lt_succ_of_lt (h.lt_fresh hq)
    · intro q r i hq hr
      by_cases hqp : q = p <;> by_cases hrp : r = p
      · rw [hqp, hrp]
      · subst hqp
        simp only [Function.update_self, Option.some.injEq] at hq
        simp only [Function.update_of_ne hrp] at hr
        exact absurd (h.lt_fresh hr) (by omega)
      · subst hrp
        simp only [Function.update_self, Option.some.injEq] at hr
        simp only [Function.update_of_ne hqp] at hq
        exact absurd (h.lt_fresh hq) (by omega)
      · simp only [Function.update_of_ne hqp] at hq
        simp only [Function.update_of_ne hrp] at hr
        exact h.injective hq hr

omit [DecidableEq π] in
theorem WellFormed.write (h : d.WellFormed) (fill : β) (i position : ℕ) (bytes : List β) :
    (d.write fill i position bytes).WellFormed := ⟨h.lt_fresh, h.injective⟩

theorem entries_unlink_eq_some {p q : π} {i : ℕ} :
    (d.unlink p).entries q = some i ↔ q ≠ p ∧ d.entries q = some i := by
  by_cases hqp : q = p
  · subst hqp
    simp [unlink]
  · simp [unlink, hqp]

theorem WellFormed.unlink (h : d.WellFormed) (p : π) : (d.unlink p).WellFormed := by
  constructor
  · exact fun hq => h.lt_fresh (entries_unlink_eq_some.1 hq).2
  · exact fun hq hr => h.injective (entries_unlink_eq_some.1 hq).2 (entries_unlink_eq_some.1 hr).2

/-- The paths with an entry after one is opened. -/
theorem entries_openTruncate {p q : π} {i : ℕ} (h : (d.openTruncate p).1.entries q = some i) :
    q = p ∨ d.entries q = some i := by
  unfold openTruncate at h
  cases hp : d.entries p with
  | some j =>
    rw [hp] at h
    exact .inr h
  | none =>
    rw [hp] at h
    by_cases hqp : q = p
    · exact .inl hqp
    · exact .inr (by simpa only [Function.update_of_ne hqp] using h)

/-- What is done to a disk at a time. -/
inductive Change (d : Disk π β) : Disk π β → Prop where
  | same : Change d d
  | opened (p : π) : Change d (d.openTruncate p).1
  | written (fill : β) (i position : ℕ) (bytes : List β) : Change d (d.write fill i position bytes)
  | unlinked (p : π) : Change d (d.unlink p)

theorem WellFormed.change {d' : Disk π β} (h : d.WellFormed) (hc : Change d d') : d'.WellFormed := by
  cases hc with
  | same => exact h
  | opened p => exact h.openTruncate p
  | written fill i position bytes => exact h.write fill i position bytes
  | unlinked p => exact h.unlink p

/-- The numbers only grow. -/
theorem Change.fresh_le {d' : Disk π β} (h : Change d d') : d.fresh ≤ d'.fresh := by
  cases h with
  | opened p =>
    unfold openTruncate
    cases d.entries p with
    | some i => exact Nat.le_refl _
    | none => exact Nat.le_succ _
  | _ => exact Nat.le_refl _

/-- No path comes to name a file that is there already. -/
theorem Change.entries {d' : Disk π β} (h : Change d d') {p : π} {i : ℕ} (hi : i < d.fresh)
    (hp : d'.entries p = some i) : d.entries p = some i := by
  cases h with
  | opened q =>
    unfold openTruncate at hp
    cases hq : d.entries q with
    | some j =>
      rw [hq] at hp
      exact hp
    | none =>
      rw [hq] at hp
      by_cases hpq : p = q
      · subst hpq
        simp only [Function.update_self, Option.some.injEq] at hp
        omega
      · simpa only [Function.update_of_ne hpq] using hp
  | unlinked q => exact (entries_unlink_eq_some.1 hp).2
  | _ => exact hp

/-! ### What a path holds -/

/-- The path names the file, and these are its contents. -/
def Holds (d : Disk π β) (p : π) (i : ℕ) (bytes : List β) : Prop :=
  d.entries p = some i ∧ d.contents i = bytes

omit [DecidableEq π] in
theorem Holds.read {p : π} {i : ℕ} {bytes : List β} (h : d.Holds p i bytes) :
    d.read p = some bytes := by
  rw [Disk.read, h.1, Option.map_some, h.2]

/-- A path just opened holds nothing. -/
theorem holds_openTruncate (d : Disk π β) (p : π) :
    (d.openTruncate p).1.Holds p (d.openTruncate p).2 [] := by
  unfold openTruncate
  cases hp : d.entries p with
  | some i => exact ⟨hp, Function.update_self ..⟩
  | none => exact ⟨Function.update_self .., Function.update_self ..⟩

variable {p q : π} {i j : ℕ} {bytes : List β}

/-- **Opening another path** changes nothing here, and opens another file. -/
theorem Holds.openTruncate_of_ne (hd : d.WellFormed) (h : d.Holds p i bytes) (hq : q ≠ p) :
    (d.openTruncate q).1.Holds p i bytes ∧ (d.openTruncate q).2 ≠ i := by
  obtain ⟨hentry, hcontents⟩ := h
  unfold openTruncate
  cases hqe : d.entries q with
  | some j =>
    have hji : j ≠ i := by
      rintro rfl
      exact hq (hd.injective hqe hentry)
    exact ⟨⟨hentry, by simpa only [Function.update_of_ne hji.symm] using hcontents⟩, hji⟩
  | none =>
    have hlt := hd.lt_fresh hentry
    have hfresh : d.fresh ≠ i := by omega
    refine ⟨⟨?_, ?_⟩, hfresh⟩
    · simpa only [Function.update_of_ne hq.symm] using hentry
    · simpa only [Function.update_of_ne hfresh.symm] using hcontents

omit [DecidableEq π] in
/-- **A writer that goes on where it stopped appends.** -/
theorem Holds.write (h : d.Holds p i bytes) (fill : β) (more : List β) :
    (d.write fill i bytes.length more).Holds p i (bytes ++ more) := by
  obtain ⟨hentry, hcontents⟩ := h
  refine ⟨hentry, ?_⟩
  show Function.update d.contents i (overwrite fill (d.contents i) bytes.length more) i = _
  rw [Function.update_self, hcontents, overwrite_length]

omit [DecidableEq π] in
/-- A writer of another file. -/
theorem Holds.write_of_ne (h : d.Holds p i bytes) (hj : j ≠ i) (fill : β) (position : ℕ)
    (more : List β) : (d.write fill j position more).Holds p i bytes := by
  obtain ⟨hentry, hcontents⟩ := h
  refine ⟨hentry, ?_⟩
  show Function.update d.contents j _ i = _
  rw [Function.update_of_ne hj.symm, hcontents]

/-- The removal of another path. -/
theorem Holds.unlink_of_ne (h : d.Holds p i bytes) (hq : q ≠ p) : (d.unlink q).Holds p i bytes :=
  ⟨entries_unlink_eq_some.2 ⟨hq.symm, h.1⟩, h.2⟩

end Disk

end OpenFiles
