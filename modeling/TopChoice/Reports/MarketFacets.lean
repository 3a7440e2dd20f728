/-
# The facets of the market summary

`market_facets` of `apps/reports-svc/lib/repositories/property_repository.rb`: the listings that
`base_pipeline` chooses, grouped by a field and sorted, and for display cut after some groups.
A bucket is kept as the group it is made of, and what `$group` computes of it is read from there:
`$avg`, `$min` and `$max` leave out what is no number, a field that is missing is `null`, and
`null` is an id like the others.

A median of Mongo and the text of a month are parameters.
-/

import Mathlib.Data.Prod.Lex
import Mathlib.Data.Rat.Floor
import Mathlib.Data.String.Basic
import Mathlib.Order.WithBot
import TopChoice.Lib.Grouping
import TopChoice.Reports.PropertyRepository

namespace TopChoice
namespace Reports

open Grouping (groupBy sortBy)

/-! ### Listings -/

/-- What a summary reads of a listing. -/
structure MarketListing extends PropertyDocument where
  finishing : Option String := none
  bedrooms : Option ℚ := none
  areaName : Option String := none
  city : Option String := none
  governorate : Option String := none
  compoundName : Option String := none
  compoundSlug : Option String := none
  developerName : Option String := none
  developerSlug : Option String := none
  price : Option ℚ := none
  pricePerMeter : Option ℚ := none
  areaSqm : Option ℚ := none
  downPaymentPercent : Option ℚ := none
  installmentYears : Option ℚ := none
  monthlyInstallment : Option ℚ := none
  isFeatured : Option Bool := none
  amenities : List String := []
  deriving DecidableEq

/-- A listing with the field `_publishedAtDate` added. -/
structure MarketRow where
  listing : MarketListing
  publishedAtDate : Option Instant
  deriving DecidableEq

/-- What `base_pipeline` reads of a row. -/
def MarketRow.dated (row : MarketRow) : DatedDocument :=
  ⟨row.listing.toPropertyDocument, row.publishedAtDate⟩

/-- `base_pipeline`, of whole listings. -/
def marketRows (convertText : String → Option ℤ) (areaId : Option String)
    (start stop : Option Instant) (collection : List MarketListing) : List MarketRow :=
  let matching := collection.filter fun listing =>
    listing.deletedAt = none && asked areaId listing.areaId
  (matching.map fun listing =>
    (⟨listing, dateConversion convertText listing.publishedAt⟩ : MarketRow)).filter fun row =>
      inRange start stop row.dated

/-- **The rows are those of `base_pipeline`.** -/
theorem map_dated_marketRows (convertText : String → Option ℤ) (areaId : Option String)
    (start stop : Option Instant) (collection : List MarketListing) :
    (marketRows convertText areaId start stop collection).map MarketRow.dated =
      basePipeline convertText areaId start stop
        (collection.map MarketListing.toPropertyDocument) := by
  rw [marketRows, basePipeline]
  simp only [List.filter_map, List.map_map]
  rfl

/-! ### Groups -/

/-- A bucket, with the rows it is made of. -/
structure Group (κ : Type) where
  id : κ
  rows : List MarketRow

section Accumulators

variable {κ : Type} (group : Group κ)

/-- `{ '$sum' => 1 }`. -/
def Group.count : ℕ := group.rows.length

/-- The numbers of a field. -/
def Group.numbers (field : MarketListing → Option ℚ) : List ℚ :=
  group.rows.filterMap fun row => field row.listing

/-- `$avg`. -/
def Group.avg (field : MarketListing → Option ℚ) : Option ℚ :=
  if group.numbers field = [] then none
  else some ((group.numbers field).sum / (group.numbers field).length)

/-- `$min`. -/
def Group.min (field : MarketListing → Option ℚ) : Option ℚ := (group.numbers field).min?

/-- `$max`. -/
def Group.max (field : MarketListing → Option ℚ) : Option ℚ := (group.numbers field).max?

/-- `$first`. -/
def Group.first (field : MarketListing → Option String) : Option String :=
  group.rows.head?.bind fun row => field row.listing

/-- `$addToSet`. -/
def Group.set (field : MarketListing → Option String) : List String :=
  (group.rows.filterMap fun row => field row.listing).dedup

/-- `{ '$sort' => { '_id' => 1 } }`: `null` comes first. -/
def Group.byId {α : Type} (group : Group (Option α)) : WithBot α := group.id

/-- `{ '$sort' => { 'count' => -1, '_id' => 1 } }`. -/
def Group.byCount (group : Group (Option String)) : ℕᵒᵈ ×ₗ WithBot String :=
  toLex (OrderDual.toDual group.count, group.byId)

/-- `{ '$sort' => { 'count' => -1, 'avgPrice' => -1, '_id' => 1 } }`. -/
def Group.byCountAndPrice (group : Group (Option String)) :
    ℕᵒᵈ ×ₗ (WithBot ℚ)ᵒᵈ ×ₗ WithBot String :=
  toLex (OrderDual.toDual group.count,
    toLex (OrderDual.toDual (group.avg MarketListing.price), group.byId))

end Accumulators

/-- `$group` by a key, and `$sort`. -/
def groups {κ ι : Type} [DecidableEq κ] [LinearOrder ι] (key : MarketRow → κ)
    (order : Group κ → ι) (rows : List MarketRow) : List (Group κ) :=
  (sortBy (fun g => order ⟨g.1, g.2⟩) (groupBy key rows)).map fun g => ⟨g.1, g.2⟩

section Groups

variable {κ ι : Type} [DecidableEq κ] [LinearOrder ι] (key : MarketRow → κ)
  (order : Group κ → ι) (rows : List MarketRow)

/-- **The groups count every row.** -/
theorem sum_count_groups : ((groups key order rows).map Group.count).sum = rows.length := by
  rw [groups, List.map_map]
  exact Grouping.sum_length_sortBy_groupBy rows fun g => order ⟨g.1, g.2⟩

/-- There is a group for every key. -/
theorem length_groups : (groups key order rows).length = (rows.map key).dedup.length := by
  rw [groups, List.length_map]
  exact Grouping.length_sortBy_groupBy rows fun g => order ⟨g.1, g.2⟩

end Groups

/-- `bucket_facet`. -/
def bucketFacet (field : MarketListing → Option String) (rows : List MarketRow) :
    List (Group (Option String)) :=
  groups (fun row => field row.listing) Group.byCount rows

/-- `$unwind` of the amenities. -/
def unwindAmenities (rows : List MarketRow) : List (String × MarketRow) :=
  rows.flatMap fun row => row.listing.amenities.map fun amenity => (amenity, row)

/-- The buckets of the amenities. -/
def amenityGroups (rows : List MarketRow) : List (Group (Option String)) :=
  let found := (groupBy Prod.fst (unwindAmenities rows)).map fun g =>
    (⟨some g.1, g.2.map Prod.snd⟩ : Group (Option String))
  sortBy Group.byCount found

/-- `facets`: what `$facet` puts out. -/
structure MarketFacets where
  overall : Option (Group Unit)
  medianPrice : Option ℚ
  medianPricePerMeter : Option ℚ
  byPropertyType : List (Group (Option String))
  byFinishing : List (Group (Option String))
  bySaleType : List (Group (Option String))
  byStatus : List (Group (Option String))
  byBedrooms : List (Group (Option ℚ))
  byArea : List (Group (Option String))
  supplyTrend : List (Group (Option String))
  topCompounds : List (Group (Option String))
  topDevelopers : List (Group (Option String))
  topAmenities : List (Group (Option String))
  areaMeta : Option (Group (Option String))
  /-- The prices, where Mongo has no median. -/
  prices : Option (Group Unit)

/-- The group of all rows, if there are any. -/
def groupAll (rows : List MarketRow) : Option (Group Unit) :=
  if rows = [] then none else some ⟨(), rows⟩

/-- `market_facets`, where `median` is what `$median` computes, on a server that has it. -/
def marketFacets (median : Option (List ℚ → Option ℚ)) (yearMonth : Instant → String) (top : ℕ)
    (rows : List MarketRow) : MarketFacets where
  overall := groupAll rows
  medianPrice := (groupAll rows).bind fun group =>
    median.bind fun median => median (group.numbers MarketListing.price)
  medianPricePerMeter := (groupAll rows).bind fun group =>
    median.bind fun median => median (group.numbers MarketListing.pricePerMeter)
  byPropertyType := bucketFacet (·.propertyType) rows
  byFinishing := bucketFacet (·.finishing) rows
  bySaleType := bucketFacet (·.saleType) rows
  byStatus := bucketFacet (·.status) rows
  byBedrooms := groups (fun row => row.listing.bedrooms) Group.byId rows
  byArea := (groups (fun row => row.listing.areaId) Group.byCount rows).take 20
  supplyTrend := groups (fun row => row.publishedAtDate.map yearMonth) Group.byId
    (rows.filter fun row => row.publishedAtDate.isSome)
  topCompounds := (groups (fun row => row.listing.compoundId) Group.byCountAndPrice rows).take top
  topDevelopers :=
    (groups (fun row => row.listing.developerId) Group.byCountAndPrice rows).take top
  topAmenities := (amenityGroups rows).take 12
  areaMeta := (groups (fun row => row.listing.areaId)
    (fun group => OrderDual.toDual group.count) rows).head?
  prices := if median.isNone then groupAll rows else none

end Reports
end TopChoice
