/-
# When the pages of a list show every row once

A list is sorted by one column, and no list adds a column that tells its rows
apart, as the listings in Mongo do with `_id`.  So two pages may disagree about
the rows tied at the boundary between them.  The pages of a list show each row
once, whatever Postgres does with ties, exactly when the rows tied with one
another fit on one page (`pages_visit_each_row_once_iff`); a column whose values
are distinct is enough (`pages_visit_each_row_once`).
-/

import TopChoice.Lists.Endpoints

namespace TopChoice
namespace Lists

section

variable (pg : Postgres) (e : Entity) (query : e.Query) (p : PaginationQueryDto)
  (rows : List e.Row)

/-- The pages of the list show each selected row exactly once, whatever order each
query returns tied rows in. -/
def VisitsEachOnce : Prop :=
  ∀ answer : ℕ → List e.Row, (∀ k, (e.endpoint pg).Answers pg query p rows (answer k)) →
    ((e.endpoint pg).visited query p rows answer).Perm (rows.filter ((e.endpoint pg).selects query))

/-- The rows tied with a selected row in the column the list is sorted by are on
the same page: those below it, and those up to it, end on one page. -/
def TiesFit : Prop :=
  ∀ row ∈ rows.filter ((e.endpoint pg).selects query),
    Paging.OnOnePage ((e.endpoint pg).orderBy pg p) p.limit
      (rows.filter ((e.endpoint pg).selects query)) row

/-- **The pages visit each row exactly once if and only if no ties are cut by a
page boundary.** -/
theorem pages_visit_each_row_once_iff (hid : (rows.map e.id).Nodup) :
    VisitsEachOnce pg e query p rows ↔ TiesFit pg e query p rows := by
  have hnodup := (hid.of_map e.id).filter ((e.endpoint pg).selects query)
  have hiff : Paging.ShowsEachOnce ((e.endpoint pg).orderBy pg p) p.limit
      (rows.filter ((e.endpoint pg).selects query)) ↔ TiesFit pg e query p rows :=
    Paging.showsEachOnce_iff (ListEndpoint.orderBy_preorder p) p.limit_pos hnodup
  refine Iff.trans ?_ hiff
  simp only [VisitsEachOnce, Paging.ShowsEachOnce, ListEndpoint.visited_eq, ListEndpoint.Answers]

/-- A column that tells the selected rows apart is enough. -/
theorem pages_visit_each_row_once
    (hapart : ∀ a ∈ rows.filter ((e.endpoint pg).selects query),
      ∀ b ∈ rows.filter ((e.endpoint pg).selects query),
        (e.endpoint pg).orderBy pg p a b = true → (e.endpoint pg).orderBy pg p b a = true → a = b) :
    VisitsEachOnce pg e query p rows := by
  have hpages := Paging.showsEachOnce_of_strict (ListEndpoint.orderBy_preorder p) p.limit_pos hapart
  simpa only [VisitsEachOnce, Paging.ShowsEachOnce, ListEndpoint.visited_eq,
    ListEndpoint.Answers] using hpages

end

/-! ### Two areas -/

/-- A database that compares texts by their characters. -/
def demoPostgres : Postgres where
  contains column term := decide (term.toList <:+: column.toList)
  containsInsensitive column term := decide (term.toList <:+: column.toList)
  equalsInsensitive column term := decide (column = term)
  collation a b := decide (a ≤ b)
  collation_preorder :=
    { total := fun a b => by simpa using String.le_total a b
      trans := fun a b c hab hbc => by
        simpa using String.le_trans (of_decide_eq_true hab) (of_decide_eq_true hbc) }

/-- An area with no listing. -/
def demoArea (id nameEn : String) : AreaRow where
  id := id
  nameEn := nameEn
  city := "Cairo"
  governorate := "Cairo"
  propertyCount := 0
  nameAr := ""
  avgPricePerMeter := none
  isActive := true
  createdAt := 1000

/-- Two areas that have as many listings. -/
def demoAreas : List AreaRow := [demoArea "area-1" "Maadi", demoArea "area-2" "Zamalek"]

/-- One area a page. -/
def demoPage (sort : Option String) : PaginationQueryDto := ⟨1, 1, sort, by decide, by decide, by decide⟩

/-- By name the two areas are told apart. -/
theorem pages_visit_each_row_once_demo :
    VisitsEachOnce demoPostgres .areas {} (demoPage (some "nameEn")) demoAreas :=
  (pages_visit_each_row_once_iff demoPostgres .areas {} (demoPage (some "nameEn")) demoAreas
    (by decide)).2 (by unfold TiesFit; decide)

/-- **By the number of listings, the default, one area is shown twice and the other
not at all:** the queries of the two pages return the areas in different orders. -/
theorem area_shown_twice :
    ∃ answer, (∀ k, (areas demoPostgres).Answers demoPostgres {} (demoPage none) demoAreas (answer k)) ∧
      ((areas demoPostgres).visited {} (demoPage none) demoAreas answer).map (·.id) =
        ["area-1", "area-1"] := by
  refine ⟨fun k => if k = 0 then demoAreas else demoAreas.reverse, fun k => ?_, by decide⟩
  dsimp only
  split
  · exact ⟨List.Perm.refl _, by decide⟩
  · exact ⟨List.reverse_perm _, by decide⟩

end Lists
end TopChoice
