/-
# The market summary

`build` of `apps/reports-svc/lib/reports/market_report.rb`: the facets of the market, shaped for
the response.  Every listing is in one bucket of each breakdown, so the breakdowns add up to the
total.  The numbers of compounds, developers and areas are those of the buckets that are left for
display, the one of the listings without any among them, so they are right only as far as all
buckets are displayed and every listing has one (`consistent_iff`).

The time of the report, its currency and its filters are left out.  Money is rounded to piastres.
-/

import TopChoice.Lib.HalfUp
import TopChoice.Reports.MarketFacets

namespace TopChoice
namespace Reports
namespace MarketReport

open HalfUp

/-! ### Shaping -/

/-- `TOP_N`. -/
def topN : ℕ := 10

/-- `money`. -/
def money (value : Option ℚ) : Option ℚ := value.map (toGrid 100)

/-- `rounded`. -/
def rounded (value : Option ℚ) (digits : ℕ) : Option ℚ := value.map (toGrid (10 ^ digits))

/-- `share`. -/
def share (count total : ℕ) : ℚ := if total = 0 then 0 else toGrid 100 ((count : ℚ) / total * 100)

/-- `median_of`. -/
def medianOf (prices : Option (Group Unit)) (field : MarketListing → Option ℚ) : Option ℚ :=
  prices.bind fun group =>
    let values := (group.numbers field).insertionSort (· ≤ ·)
    let middle := values.length / 2
    if values.length % 2 = 1 then values[middle]?
    else match values[middle - 1]?, values[middle]? with
      | some low, some high => some ((low + high) / 2)
      | _, _ => none

/-- `bucket_count`. -/
def bucketCount {κ : Type} (facet : List (Group κ)) : ℕ := facet.length

/-- `to_i`, of the number of bedrooms. -/
def toI : Option ℚ → ℤ
  | none => 0
  | some q => if 0 ≤ q then ⌊q⌋ else ⌈q⌉

/-- `totals`. -/
structure Totals where
  listings : ℕ
  featured : ℕ
  compounds : ℕ
  developers : ℕ
  areas : ℕ
  deriving DecidableEq, Repr

/-- `price`. -/
structure PriceBlock where
  avg : Option ℚ
  median : Option ℚ
  min : Option ℚ
  max : Option ℚ
  avgPerMeter : Option ℚ
  medianPerMeter : Option ℚ
  minPerMeter : Option ℚ
  maxPerMeter : Option ℚ
  deriving DecidableEq, Repr

/-- `area_sqm`. -/
structure AreaSqmBlock where
  avg : Option ℚ
  min : Option ℚ
  max : Option ℚ
  avgBedrooms : Option ℚ
  deriving DecidableEq, Repr

/-- `payment_terms`. -/
structure PaymentTerms where
  avgDownPaymentPercent : Option ℚ
  avgInstallmentYears : Option ℚ
  avgMonthlyInstallment : Option ℚ
  deriving DecidableEq, Repr

/-- A bucket of `buckets`. -/
structure MixBucket where
  key : Option String
  count : ℕ
  share : ℚ
  avgPrice : Option ℚ
  minPrice : Option ℚ
  maxPrice : Option ℚ
  avgPricePerMeter : Option ℚ
  avgAreaSqm : Option ℚ
  deriving DecidableEq, Repr

/-- `buckets`. -/
def buckets (facet : List (Group (Option String))) (total : ℕ) : List MixBucket :=
  facet.map fun group =>
    { key := group.id
      count := group.count
      share := share group.count total
      avgPrice := money (group.avg (·.price))
      minPrice := money (group.min (·.price))
      maxPrice := money (group.max (·.price))
      avgPricePerMeter := money (group.avg (·.pricePerMeter))
      avgAreaSqm := rounded (group.avg (·.areaSqm)) 1 }

/-- A bucket of `bedroom_buckets`. -/
structure BedroomBucket where
  bedrooms : ℤ
  count : ℕ
  share : ℚ
  avgPrice : Option ℚ
  deriving DecidableEq, Repr

/-- `bedroom_buckets`. -/
def bedroomBuckets (facet : List (Group (Option ℚ))) (total : ℕ) : List BedroomBucket :=
  facet.map fun group =>
    { bedrooms := toI group.id
      count := group.count
      share := share group.count total
      avgPrice := money (group.avg (·.price)) }

/-- A bucket of `area_buckets`. -/
structure AreaBucket where
  areaId : Option String
  name : Option String
  city : Option String
  count : ℕ
  share : ℚ
  avgPrice : Option ℚ
  avgPricePerMeter : Option ℚ
  deriving DecidableEq, Repr

/-- `area_buckets`. -/
def areaBuckets (facet : List (Group (Option String))) (total : ℕ) : List AreaBucket :=
  facet.map fun group =>
    { areaId := group.id
      name := group.first (·.areaName)
      city := group.first (·.city)
      count := group.count
      share := share group.count total
      avgPrice := money (group.avg (·.price))
      avgPricePerMeter := money (group.avg (·.pricePerMeter)) }

/-- A month of `supply_trend`. -/
structure MonthBucket where
  month : Option String
  count : ℕ
  avgPrice : Option ℚ
  avgPricePerMeter : Option ℚ
  deriving DecidableEq, Repr

/-- `supply_trend`. -/
def supplyTrend (facet : List (Group (Option String))) : List MonthBucket :=
  facet.map fun group =>
    { month := group.id
      count := group.count
      avgPrice := money (group.avg (·.price))
      avgPricePerMeter := money (group.avg (·.pricePerMeter)) }

/-- A compound of `top_compounds`. -/
structure TopCompound where
  id : Option String
  name : Option String
  slug : Option String
  developer : Option String
  listings : ℕ
  avgPrice : Option ℚ
  minPrice : Option ℚ
  maxPrice : Option ℚ
  avgPricePerMeter : Option ℚ
  deriving DecidableEq, Repr

/-- `top_compounds`. -/
def topCompounds (facet : List (Group (Option String))) : List TopCompound :=
  facet.map fun group =>
    { id := group.id
      name := group.first (·.compoundName)
      slug := group.first (·.compoundSlug)
      developer := group.first (·.developerName)
      listings := group.count
      avgPrice := money (group.avg (·.price))
      minPrice := money (group.min (·.price))
      maxPrice := money (group.max (·.price))
      avgPricePerMeter := money (group.avg (·.pricePerMeter)) }

/-- A developer of `top_developers`. -/
structure TopDeveloper where
  id : Option String
  name : Option String
  slug : Option String
  listings : ℕ
  compounds : ℕ
  avgPrice : Option ℚ
  avgPricePerMeter : Option ℚ
  deriving DecidableEq, Repr

/-- `top_developers`. -/
def topDevelopers (facet : List (Group (Option String))) : List TopDeveloper :=
  facet.map fun group =>
    { id := group.id
      name := group.first (·.developerName)
      slug := group.first (·.developerSlug)
      listings := group.count
      compounds := (group.set (·.compoundId)).length
      avgPrice := money (group.avg (·.price))
      avgPricePerMeter := money (group.avg (·.pricePerMeter)) }

/-- An amenity of `amenity_buckets`. -/
structure AmenityBucket where
  amenity : Option String
  count : ℕ
  share : ℚ
  deriving DecidableEq, Repr

/-- `amenity_buckets`. -/
def amenityBuckets (facet : List (Group (Option String))) (total : ℕ) : List AmenityBucket :=
  facet.map fun group => ⟨group.id, group.count, share group.count total⟩

/-- `area`. -/
structure AreaBlock where
  id : String
  name : Option String
  city : Option String
  governorate : Option String
  listings : ℕ
  deriving DecidableEq, Repr

/-- `area_block`. -/
def areaBlock (facets : MarketFacets) (areaId : Option String) : Option AreaBlock :=
  areaId.bind fun id => facets.areaMeta.map fun group =>
    ⟨id, group.first (·.areaName), group.first (·.city), group.first (·.governorate), group.count⟩

/-- The payload of a summary. -/
structure Payload where
  area : Option AreaBlock
  totals : Totals
  price : PriceBlock
  areaSqm : AreaSqmBlock
  paymentTerms : PaymentTerms
  byPropertyType : List MixBucket
  byFinishing : List MixBucket
  bySaleType : List MixBucket
  byStatus : List MixBucket
  byBedrooms : List BedroomBucket
  byArea : List AreaBucket
  supplyTrend : List MonthBucket
  topCompounds : List TopCompound
  topDevelopers : List TopDeveloper
  topAmenities : List AmenityBucket
  deriving DecidableEq, Repr

/-- `build`, of the facets. -/
def shape (areaId : Option String) (facets : MarketFacets) : Payload :=
  let total := (facets.overall.map Group.count).getD 0
  let avg (field : MarketListing → Option ℚ) := facets.overall.bind fun group => group.avg field
  let min (field : MarketListing → Option ℚ) := facets.overall.bind fun group => group.min field
  let max (field : MarketListing → Option ℚ) := facets.overall.bind fun group => group.max field
  { area := areaBlock facets areaId
    totals :=
      { listings := total
        featured := (facets.overall.map fun group =>
          group.rows.countP fun row => row.listing.isFeatured = some true).getD 0
        compounds := bucketCount facets.topCompounds
        developers := bucketCount facets.topDevelopers
        areas := bucketCount facets.byArea }
    price :=
      { avg := money (avg (·.price))
        median := money (facets.medianPrice.or (medianOf facets.prices (·.price)))
        min := money (min (·.price))
        max := money (max (·.price))
        avgPerMeter := money (avg (·.pricePerMeter))
        medianPerMeter := money
          (facets.medianPricePerMeter.or (medianOf facets.prices (·.pricePerMeter)))
        minPerMeter := money (min (·.pricePerMeter))
        maxPerMeter := money (max (·.pricePerMeter)) }
    areaSqm :=
      { avg := rounded (avg (·.areaSqm)) 1
        min := rounded (min (·.areaSqm)) 0
        max := rounded (max (·.areaSqm)) 0
        avgBedrooms := rounded (avg (·.bedrooms)) 1 }
    paymentTerms :=
      { avgDownPaymentPercent := rounded (avg (·.downPaymentPercent)) 1
        avgInstallmentYears := rounded (avg (·.installmentYears)) 1
        avgMonthlyInstallment := money (avg (·.monthlyInstallment)) }
    byPropertyType := buckets facets.byPropertyType total
    byFinishing := buckets facets.byFinishing total
    bySaleType := buckets facets.bySaleType total
    byStatus := buckets facets.byStatus total
    byBedrooms := bedroomBuckets facets.byBedrooms total
    byArea := areaBuckets facets.byArea total
    supplyTrend := supplyTrend facets.supplyTrend
    topCompounds := topCompounds facets.topCompounds
    topDevelopers := topDevelopers facets.topDevelopers
    topAmenities := amenityBuckets facets.topAmenities total }

section Build

variable (convertText : String → Option ℤ) (median : Option (List ℚ → Option ℚ))
  (yearMonth : Instant → String) (areaId : Option String) (start stop : Option Instant)
  (collection : List MarketListing)

/-- `build`. -/
def build : Payload :=
  shape areaId <| marketFacets median yearMonth topN <|
    marketRows convertText areaId start stop collection

end Build

/-! ### Counting -/

/-- The different values that listings have. -/
def distinct (field : MarketListing → Option String) (rows : List MarketRow) : ℕ :=
  (rows.filterMap fun row => field row.listing).dedup.length

/-- The numbers of a summary are those of its listings. -/
structure Consistent (payload : Payload) (rows : List MarketRow) : Prop where
  compounds : payload.totals.compounds = distinct (·.compoundId) rows
  developers : payload.totals.developers = distinct (·.developerId) rows
  areas : payload.totals.areas = distinct (·.areaId) rows
  byPropertyType : (payload.byPropertyType.map MixBucket.count).sum = payload.totals.listings
  byFinishing : (payload.byFinishing.map MixBucket.count).sum = payload.totals.listings
  bySaleType : (payload.bySaleType.map MixBucket.count).sum = payload.totals.listings
  byStatus : (payload.byStatus.map MixBucket.count).sum = payload.totals.listings
  byBedrooms : (payload.byBedrooms.map BedroomBucket.count).sum = payload.totals.listings
  supplyTrend : (payload.supplyTrend.map MonthBucket.count).sum =
    rows.countP fun row => row.publishedAtDate.isSome

/-- So many buckets are as many as the values: they are all shown and none is of the listings
without a value, or that one is just cut off. -/
def CountsValues (limit : ℕ) (field : MarketListing → Option String) (rows : List MarketRow) :
    Prop :=
  distinct field rows = limit ∨
    distinct field rows < limit ∧ ∀ row ∈ rows, (field row.listing).isSome

section Counts

variable {κ ι : Type} [DecidableEq κ] [LinearOrder ι]

/-- The buckets that are left for display are as many as the values. -/
theorem bucketCount_take_iff (limit : ℕ) (field : MarketListing → Option String)
    (order : Group (Option String) → ι) (rows : List MarketRow) :
    bucketCount ((groups (fun row => field row.listing) order rows).take limit) =
      distinct field rows ↔ CountsValues limit field rows := by
  have hnull : (∃ row ∈ rows, field row.listing = none) ↔
      ¬∀ row ∈ rows, (field row.listing).isSome = true := by
    simp
  rw [bucketCount, List.length_take, length_groups, Grouping.length_dedup_map_option, distinct,
    CountsValues, distinct]
  by_cases hall : ∀ row ∈ rows, (field row.listing).isSome = true
  · rw [if_neg fun h => hnull.1 h hall, and_iff_left hall]
    omega
  · have hcut : ¬((rows.filterMap fun row => field row.listing).dedup.length < limit ∧
        ∀ row ∈ rows, (field row.listing).isSome = true) := fun h => hall h.2
    rw [if_pos (hnull.2 hall), or_iff_left hcut]
    omega

/-- A breakdown counts every listing. -/
theorem sum_buckets (field : MarketListing → Option String) (rows : List MarketRow) (total : ℕ) :
    ((buckets (bucketFacet field rows) total).map MixBucket.count).sum = rows.length := by
  rw [buckets, List.map_map]
  exact sum_count_groups (fun row => field row.listing) Group.byCount rows

end Counts

/-- The total is that of the listings. -/
theorem listings_shape (areaId : Option String) (median : Option (List ℚ → Option ℚ))
    (yearMonth : Instant → String) (top : ℕ) (rows : List MarketRow) :
    (shape areaId (marketFacets median yearMonth top rows)).totals.listings = rows.length := by
  change ((groupAll rows).map Group.count).getD 0 = rows.length
  rw [groupAll]
  split_ifs with hempty
  · rw [hempty]
    rfl
  · rfl

/-- **The summary is consistent** as far as the buckets of compounds, developers and areas are as
many as the values. -/
theorem consistent_iff (convertText : String → Option ℤ) (median : Option (List ℚ → Option ℚ))
    (yearMonth : Instant → String) (areaId : Option String) (start stop : Option Instant)
    (collection : List MarketListing) :
    Consistent (build convertText median yearMonth areaId start stop collection)
        (marketRows convertText areaId start stop collection) ↔
      CountsValues topN (·.compoundId)
          (marketRows convertText areaId start stop collection) ∧
        CountsValues topN (·.developerId)
          (marketRows convertText areaId start stop collection) ∧
        CountsValues 20 (·.areaId) (marketRows convertText areaId start stop collection) := by
  rw [build]
  generalize marketRows convertText areaId start stop collection = rows
  have hcompounds := bucketCount_take_iff topN (·.compoundId) Group.byCountAndPrice rows
  have hdevelopers := bucketCount_take_iff topN (·.developerId) Group.byCountAndPrice rows
  have hareas := bucketCount_take_iff 20 (·.areaId) Group.byCount rows
  have htotal := listings_shape areaId median yearMonth topN rows
  constructor
  · intro h
    exact ⟨hcompounds.1 h.compounds, hdevelopers.1 h.developers, hareas.1 h.areas⟩
  · rintro ⟨h₁, h₂, h₃⟩
    refine ⟨hcompounds.2 h₁, hdevelopers.2 h₂, hareas.2 h₃, ?_, ?_, ?_, ?_, ?_, ?_⟩
    · exact (sum_buckets (·.propertyType) rows _).trans htotal.symm
    · exact (sum_buckets (·.finishing) rows _).trans htotal.symm
    · exact (sum_buckets (·.saleType) rows _).trans htotal.symm
    · exact (sum_buckets (·.status) rows _).trans htotal.symm
    · refine Eq.trans ?_ htotal.symm
      change ((bedroomBuckets _ _).map BedroomBucket.count).sum = _
      rw [bedroomBuckets, List.map_map]
      exact sum_count_groups (fun row => row.listing.bedrooms) Group.byId rows
    · change ((supplyTrend _).map MonthBucket.count).sum = _
      rw [supplyTrend, List.map_map, List.countP_eq_length_filter]
      exact sum_count_groups (fun row => row.publishedAtDate.map yearMonth) Group.byId _

/-- A listing in each of eleven compounds, of one developer in one area. -/
def elevenCompounds : List MarketListing :=
  ["a", "b", "c", "d", "e", "f", "g", "h", "i", "j", "k"].map fun id =>
    { id := id, compoundId := some id, developerId := some "sodic", areaId := some "new-cairo" }

/-- **Eleven compounds are reported as ten**: the buckets that are counted are those of the ten
that are displayed. -/
theorem eleven_compounds_are_ten :
    ¬Consistent (build (fun _ => none) none (fun _ => "") none none none elevenCompounds)
      (marketRows (fun _ => none) none none none elevenCompounds) := by
  intro h
  have hcompounds := h.compounds
  rw [build] at hcompounds
  have hcounts := (bucketCount_take_iff topN (·.compoundId) Group.byCountAndPrice _).1 hcompounds
  have heleven : distinct (·.compoundId)
      (marketRows (fun _ => none) none none none elevenCompounds) = 11 := by decide
  rw [CountsValues, heleven, topN] at hcounts
  omega

end MarketReport
end Reports
end TopChoice
