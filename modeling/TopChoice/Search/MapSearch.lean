/-
# The map

`GET /api/search/map`: `MapFilters` of `app/schemas/search.py`, `bbox_from_string` and
`precision_for_bbox` of `app/services/geo.py`, `build_map_body` and `build_map_points_body` of
`app/services/query_builder.py`, `map_clusters` of `app/services/result_mapper.py` and
`map_search` of `app/services/search_service.py`.

Elasticsearch puts the points of a viewport in the tiles of a grid and returns the buckets of the
largest 500.  A few listings are returned one by one instead; else the counts of the clusters add
up to the total where no more tiles are occupied (`map_search_counts`).

The content of the index is fixed, so the response cache is left out.  The logarithm of the span
and the reading of a number are parameters; a number may be none that is finite.
-/

import TopChoice.Lib.Grouping
import Mathlib.Tactic.Linarith
import Mathlib.Tactic.Ring
import TopChoice.Search.ListingSurvival
import TopChoice.Search.SearchPages

namespace TopChoice
namespace Search

open Grouping (groupBy sortBy)

/-! ### The viewport -/

/-- A `geo_point`. -/
structure EsPoint where
  lat : ℚ
  lon : ℚ
  deriving DecidableEq, Repr

/-- `BoundingBox`, as `bbox_from_string` lets it pass. -/
structure BoundingBox where
  minLng : ℚ
  minLat : ℚ
  maxLng : ℚ
  maxLat : ℚ
  lng_mem : -180 ≤ minLng ∧ maxLng ≤ 180
  lat_mem : -90 ≤ minLat ∧ maxLat ≤ 90
  lng_lt : minLng < maxLng
  lat_lt : minLat < maxLat

/-- `as_list`. -/
def BoundingBox.asList (bbox : BoundingBox) : List ℚ :=
  [bbox.minLng, bbox.minLat, bbox.maxLng, bbox.maxLat]

/-- The points between the corners of `as_es_bounds`. -/
def BoundingBox.contains (bbox : BoundingBox) (point : EsPoint) : Bool :=
  decide (bbox.minLng ≤ point.lon ∧ point.lon ≤ bbox.maxLng) &&
    decide (bbox.minLat ≤ point.lat ∧ point.lat ≤ bbox.maxLat)

/-- A finite number from `-bound` to `bound`. -/
def within (bound : ℚ) : Option ℚ → Option {q : ℚ // -bound ≤ q ∧ q ≤ bound}
  | some q => if h : -bound ≤ q ∧ q ≤ bound then some ⟨q, h⟩ else none
  | none => none

/-- `bbox_from_string`, where `float` reads a number; the pieces are cut as `_split_multi` does. -/
def bboxFromString (float : String → Option (Option ℚ)) (raw : String) :
    Except String BoundingBox :=
  match splitMulti [raw] with
  | [minLng, minLat, maxLng, maxLat] =>
      match float minLng, float minLat, float maxLng, float maxLat with
      | some minLng, some minLat, some maxLng, some maxLat =>
          match within 180 minLng, within 180 maxLng with
          | some minLng, some maxLng =>
              match within 90 minLat, within 90 maxLat with
              | some minLat, some maxLat =>
                  if hlng : maxLng.1 ≤ minLng.1 then
                    .error "bbox minLng must be smaller than maxLng"
                  else if hlat : maxLat.1 ≤ minLat.1 then
                    .error "bbox minLat must be smaller than maxLat"
                  else .ok
                    { minLng := minLng.1
                      minLat := minLat.1
                      maxLng := maxLng.1
                      maxLat := maxLat.1
                      lng_mem := ⟨minLng.2.1, maxLng.2.2⟩
                      lat_mem := ⟨minLat.2.1, maxLat.2.2⟩
                      lng_lt := not_le.1 hlng
                      lat_lt := not_le.1 hlat }
              | _, _ => .error "bbox latitudes must be between -90 and 90"
          | _, _ => .error "bbox longitudes must be between -180 and 180"
      | _, _, _, _ => .error "bbox values must be numbers"
  | _ => .error "bbox must contain exactly 4 comma separated numbers"

/-- `precision_for_bbox`, where `zoom` is `math.log2(360.0 / span)`. -/
def precisionForBbox (zoom : ℚ → ℚ) (bbox : BoundingBox) : ℕ :=
  let span := max (max |bbox.maxLng - bbox.minLng| |bbox.maxLat - bbox.minLat|) (1 / 1000000)
  (max 2 (min 16 (pyRound (zoom span) + 2))).toNat

/-- `MapFilters`, with what its fields are checked for. -/
structure MapFilters extends SearchFilters where
  bbox : String
  precision : Option ℕ := none
  maxPoints : ℕ := 200
  precision_mem : ∀ p ∈ precision, 1 ≤ p ∧ p ≤ 16 := by decide
  maxPoints_mem : 1 ≤ maxPoints ∧ maxPoints ≤ 1000 := by decide

/-! ### What Elasticsearch is asked -/

/-- The clauses of a search and the one of the viewport. -/
inductive MapNative where
  | search (clause : Native)
  | geoBoundingBox (bbox : BoundingBox)

/-- `build_query` without the boosts: the group `bbox` comes last. -/
def buildMapQuery (filters : MapFilters) (bbox : BoundingBox) : Elastic.BoolQuery MapNative where
  must := [(buildTextQuery filters.q).map .search]
  filter := (buildFilterList filters.toSearchFilters []).map (·.map .search) ++
    [.native (.geoBoundingBox bbox)]

/-- `build_map_body`. -/
structure MapBody where
  query : Elastic.BoolQuery MapNative
  precision : ℕ
  size : ℕ
  bounds : BoundingBox

/-- `build_map_body`, of a viewport and a precision. -/
def buildMapBody (filters : MapFilters) (bbox : BoundingBox) (precision : ℕ) : MapBody where
  query := buildMapQuery filters bbox
  precision := precision
  size := 500
  bounds := bbox

/-- `build_map_points_body`. -/
structure MapPointsBody where
  size : ℕ
  query : Elastic.BoolQuery MapNative
  sort : List Elastic.SortClause

/-- `build_map_points_body`. -/
def buildMapPointsBody (filters : MapFilters) (bbox : BoundingBox) (size : ℕ) :
    MapPointsBody where
  size := max 1 size
  query := buildMapQuery filters bbox
  sort := [{ field := "isFeatured", desc := true }, sortTiebreaker]

/-- `MAP_SOURCE_FIELDS`. -/
def mapSourceFields : List String :=
  ["id", "slug", "title_en", "title_ar", "price", "currency", "propertyType", "saleType",
    "bedrooms", "bathrooms", "areaSqm", "areaName", "compoundName", "developerName",
    "primaryImage", "isFeatured", "geo"]

/-! ### What Elasticsearch answers -/

/-- A tile of the grid. -/
structure Tile where
  zoom : ℕ
  x : ℕ
  y : ℕ
  deriving DecidableEq, Repr

/-- The key of a tile. -/
def Tile.key (tile : Tile) : String := s!"{tile.zoom}/{tile.x}/{tile.y}"

/-- What Elasticsearch makes of documents: the fields, the point, the tile of a point and the
centroid of some. -/
structure MapIndex (δ : Type) where
  engine : Elastic.Engine δ Native
  geo : δ → Option EsPoint
  tile : ℕ → EsPoint → Tile
  centroid : List EsPoint → EsPoint
  id : δ → String
  source : δ → PyValue

/-- A bucket of `geotile_grid` with a `geo_centroid` and the `stats` of the price. -/
structure ClusterBucket where
  key : String
  docCount : ℕ
  centroid : PyValue
  avg : Option ℚ
  min : Option ℚ
  max : Option ℚ

section Index

variable {δ : Type} (index : MapIndex δ) (docs : List δ)

/-- The engine, with points in a viewport. -/
def MapIndex.mapEngine : Elastic.Engine δ MapNative where
  values := index.engine.values
  native
    | .search clause, d => index.engine.native clause d
    | .geoBoundingBox bbox, d => (index.geo d).any bbox.contains

/-- The points of documents within the bounds. -/
def MapIndex.points (bounds : BoundingBox) (found : List δ) : List (EsPoint × δ) :=
  found.filterMap fun d => ((index.geo d).filter bounds.contains).map fun point => (point, d)

/-- The bucket of a tile. -/
def MapIndex.bucket (group : Tile × List (EsPoint × δ)) : ClusterBucket :=
  let point := index.centroid (group.2.map Prod.fst)
  let prices := group.2.flatMap fun item =>
    (index.engine.values item.2 "price").filterMap Elastic.Value.number
  { key := group.1.key
    docCount := group.2.length
    centroid := .dict [("lat", .num point.lat), ("lon", .num point.lon)]
    avg := if prices = [] then none else some (prices.sum / prices.length)
    min := prices.min?
    max := prices.max? }

/-- The buckets of `geotile_grid`: the largest first, so many of them. -/
def MapIndex.clusters (body : MapBody) : List ClusterBucket :=
  let points := index.points body.bounds (Elastic.hits index.mapEngine body.query docs)
  let groups := groupBy (fun item => index.tile body.precision item.1) points
  ((sortBy (fun group => OrderDual.toDual group.2.length) groups).take body.size).map index.bucket

/-- The hits for the points. -/
def MapIndex.pointHits (body : MapPointsBody) : List EsHit :=
  (((Elastic.hits index.mapEngine body.query docs).insertionSort fun a b =>
    Elastic.sortLe index.mapEngine body.sort a b = true).take body.size).map fun d =>
      { _id := .str (index.id d), _source := project mapSourceFields (index.source d) }

end Index

/-! ### The service -/

/-- `MapMode`. -/
inductive MapMode where
  | clusters
  | points
  deriving DecidableEq, Repr

/-- `MapCluster`. -/
structure MapCluster where
  key : String
  count : ℕ
  centroid : WebPoint
  avgPrice : Option ℚ
  minPrice : Option ℚ
  maxPrice : Option ℚ
  deriving DecidableEq, Repr

/-- `MapResults`. -/
structure MapResults where
  mode : MapMode
  precision : ℕ
  total : ℕ
  bbox : List ℚ
  clusters : List MapCluster
  points : List Hit

/-- The cluster of a bucket that has a centroid. -/
def mapCluster (py : Python) (bucket : ClusterBucket) : Option MapCluster :=
  (webPoint py bucket.centroid).map fun centroid =>
    { key := bucket.key
      count := bucket.docCount
      centroid := centroid
      avgPrice := bucket.avg.map fun average => pyRound (average * 100) / 100
      minPrice := bucket.min
      maxPrice := bucket.max }

/-- `map_clusters`. -/
def mapClusters (py : Python) (buckets : List ClusterBucket) : List MapCluster :=
  sortBy (fun cluster => OrderDual.toDual cluster.count) (buckets.filterMap (mapCluster py))

section Service

variable (py : Python) (float : String → Option (Option ℚ)) (zoom : ℚ → ℚ) {δ : Type}
  (index : MapIndex δ) (docs : List δ)

/-- `map_search`. -/
def mapSearch (filters : MapFilters) : Except String MapResults :=
  (bboxFromString float filters.bbox).map fun bbox =>
    let precision := (filters.precision.filter (· ≠ 0)).getD (precisionForBbox zoom bbox)
    let body := buildMapBody filters bbox precision
    let total := (Elastic.hits index.mapEngine body.query docs).length
    if 0 < total ∧ total ≤ filters.maxPoints then
      { mode := .points
        precision := precision
        total := total
        bbox := bbox.asList
        clusters := []
        points := (index.pointHits docs
          (buildMapPointsBody filters bbox (min total filters.maxPoints))).map fun hit =>
            mapHit py hit none }
    else
      { mode := .clusters
        precision := precision
        total := total
        bbox := bbox.asList
        clusters := mapClusters py (index.clusters docs body)
        points := [] }

end Service

/-! ### Totals -/

section Totals

variable {py : Python} {float : String → Option (Option ℚ)} {zoom : ℚ → ℚ} {δ : Type}
  {index : MapIndex δ} {docs : List δ} {filters : MapFilters} {bbox : BoundingBox}

variable (index) in
/-- The listings inside a viewport that the search finds. -/
def MapIndex.inViewport (docs : List δ) (filters : MapFilters) (bbox : BoundingBox) : List δ :=
  docs.filter fun d =>
    (buildQuery filters.toSearchFilters).holds index.engine d && (index.geo d).any bbox.contains

variable (index) in
/-- The tiles that listings are in. -/
def MapIndex.tiles (precision : ℕ) (found : List δ) : List Tile :=
  ((found.filterMap index.geo).map (index.tile precision)).dedup

/-- The query of the map is the one of the search with the viewport. -/
theorem holds_buildMapQuery (d : δ) :
    (buildMapQuery filters bbox).holds index.mapEngine d =
      ((buildQuery filters.toSearchFilters).holds index.engine d &&
        (index.geo d).any bbox.contains) := by
  have hmap (c : EsClause) :
      (c.map MapNative.search).holds index.mapEngine d = c.holds index.engine d :=
    Elastic.holds_map MapNative.search rfl (fun _ => rfl) c
  have hbox : Elastic.Clause.holds index.mapEngine d (.native (.geoBoundingBox bbox)) =
      (index.geo d).any bbox.contains := rfl
  simp [Elastic.BoolQuery.holds, buildMapQuery, buildQuery, hmap, hbox, List.all_map,
    Function.comp_def, Bool.and_assoc]

/-- **The hits are the listings inside the viewport** that the search finds. -/
theorem hits_buildMapQuery :
    Elastic.hits index.mapEngine (buildMapQuery filters bbox) docs =
      index.inViewport docs filters bbox := by
  rw [Elastic.hits, MapIndex.inViewport]
  exact List.filter_congr fun d _ => holds_buildMapQuery d

/-- Listings inside the bounds have a point each. -/
theorem points_eq {found : List δ} (hfound : ∀ d ∈ found, (index.geo d).any bbox.contains = true) :
    (index.points bbox found).length = found.length ∧
      (index.points bbox found).map Prod.fst = found.filterMap index.geo := by
  induction found with
  | nil => exact ⟨rfl, rfl⟩
  | cons d found ih =>
    obtain ⟨hd, hfound⟩ := List.forall_mem_cons.1 hfound
    obtain ⟨hlength, hpoints⟩ := ih hfound
    cases hpoint : index.geo d with
    | none =>
      rw [hpoint] at hd
      cases hd
    | some point =>
      have hinside : bbox.contains point = true := by rwa [hpoint] at hd
      have hread : index.points bbox (d :: found) = (point, d) :: index.points bbox found := by
        rw [MapIndex.points, List.filterMap_cons, hpoint, Option.filter_some, if_pos hinside]
        rfl
      rw [hread, List.filterMap_cons_some hpoint]
      exact ⟨congrArg (· + 1) hlength, congrArg (point :: ·) hpoints⟩

/-- Every bucket has a centroid, so its cluster is shown. -/
theorem sum_mapClusters (py : Python) (groups : List (Tile × List (EsPoint × δ))) :
    ((mapClusters py (groups.map index.bucket)).map MapCluster.count).sum =
      (groups.map fun group => group.2.length).sum := by
  have hread : (((groups.map index.bucket).filterMap (mapCluster py)).map MapCluster.count) =
      groups.map fun group => group.2.length := by
    induction groups with
    | nil => rfl
    | cons group groups ih =>
      obtain ⟨cluster, hcluster, hcount⟩ : ∃ cluster,
          mapCluster py (index.bucket group) = some cluster ∧ cluster.count = group.2.length :=
        ⟨_, rfl, rfl⟩
      rw [List.map_cons, List.filterMap_cons_some hcluster, List.map_cons, List.map_cons, ih,
        hcount]
  rw [mapClusters, ((Grouping.perm_sortBy _ _).map _).sum_eq, hread]

/-- **The clusters count the points** of their tiles when no more tiles are occupied. -/
theorem sum_clusters_iff (py : Python) (precision : ℕ) :
    ((mapClusters py (index.clusters docs (buildMapBody filters bbox precision))).map
        MapCluster.count).sum = (index.inViewport docs filters bbox).length ↔
      (index.tiles precision (index.inViewport docs filters bbox)).length ≤ 500 := by
  have hinside : ∀ d ∈ index.inViewport docs filters bbox,
      (index.geo d).any bbox.contains = true := fun d hd =>
    (Bool.and_eq_true_iff.1 (List.mem_filter.1 hd).2).2
  obtain ⟨hlength, hpoints⟩ := points_eq hinside
  have hfound : Elastic.hits index.mapEngine (buildMapBody filters bbox precision).query docs =
      index.inViewport docs filters bbox := hits_buildMapQuery
  rw [MapIndex.clusters, sum_mapClusters, hfound, ← hlength, MapIndex.tiles, ← hpoints,
    List.map_map]
  exact Grouping.sum_length_take_iff _ _ 500

/-- The points are all the listings inside the viewport when they fit. -/
theorem length_pointHits {size : ℕ} (hsize : (index.inViewport docs filters bbox).length ≤ size) :
    (index.pointHits docs (buildMapPointsBody filters bbox size)).length =
      (index.inViewport docs filters bbox).length := by
  have hfound : Elastic.hits index.mapEngine (buildMapPointsBody filters bbox size).query docs =
      index.inViewport docs filters bbox := hits_buildMapQuery
  have hmax : (buildMapPointsBody filters bbox size).size = max 1 size := rfl
  rw [MapIndex.pointHits, hfound, List.length_map, List.length_take, List.length_insertionSort,
    hmax, min_eq_right (hsize.trans (le_max_right _ _))]

/-- **The map counts every listing inside the viewport**, shows each as a point where there are
few, and in its clusters where they are in no more than 500 tiles. -/
theorem map_search_counts {results : MapResults}
    (hok : mapSearch py float zoom index docs filters = .ok results) :
    ∃ bbox, bboxFromString float filters.bbox = .ok bbox ∧
      results.total = (index.inViewport docs filters bbox).length ∧
      (results.mode = .points → results.points.length = results.total) ∧
      (results.mode = .clusters → ((results.clusters.map MapCluster.count).sum = results.total ↔
        (index.tiles results.precision (index.inViewport docs filters bbox)).length ≤ 500)) := by
  rw [mapSearch] at hok
  cases hbbox : bboxFromString float filters.bbox with
  | error message =>
    rw [hbbox] at hok
    cases hok
  | ok bbox =>
    rw [hbbox] at hok
    have hresults := Except.ok.inj hok
    have hfound (precision : ℕ) :
        Elastic.hits index.mapEngine (buildMapBody filters bbox precision).query docs =
          index.inViewport docs filters bbox := hits_buildMapQuery
    simp only [hfound] at hresults
    refine ⟨bbox, rfl, ?_⟩
    split_ifs at hresults with hfew
    · obtain rfl := hresults
      refine ⟨rfl, fun _ => ?_, nofun⟩
      rw [List.length_map]
      exact length_pointHits (le_min le_rfl hfew.2)
    · obtain rfl := hresults
      exact ⟨rfl, nofun, fun _ => sum_clusters_iff py _⟩

variable (py) (zoom) in
/-- A search with more listings than points are shown for. -/
theorem exists_mapSearch_clusters (hbbox : bboxFromString float filters.bbox = .ok bbox)
    (hmany : filters.maxPoints < (index.inViewport docs filters bbox).length) :
    ∃ results, mapSearch py float zoom index docs filters = .ok results ∧
      results.mode = .clusters ∧
      results.precision = (filters.precision.filter (· ≠ 0)).getD (precisionForBbox zoom bbox) ∧
      results.total = (index.inViewport docs filters bbox).length ∧
      results.clusters = mapClusters py
        (index.clusters docs (buildMapBody filters bbox results.precision)) := by
  have hfound (precision : ℕ) :
      (Elastic.hits index.mapEngine (buildMapBody filters bbox precision).query docs).length =
        (index.inViewport docs filters bbox).length := congrArg List.length hits_buildMapQuery
  rw [mapSearch, hbbox]
  simp only [Except.map, hfound, Nat.not_le.2 hmany, and_false, if_false]
  exact ⟨_, rfl, rfl, rfl, rfl, rfl⟩

end Totals

/-! ### Listings on the equator -/

/-- Reading a whole number. -/
def demoFloat (s : String) : Option (Option ℚ) :=
  match s.toList with
  | '-' :: digits => some (some (-(Listing.parseDigits digits : ℚ)))
  | digits => some (some (Listing.parseDigits digits))

/-- Listings on the equator, a tile of the finest grid apart. -/
def equatorIndex : MapIndex ℕ where
  engine := ⟨fun _ _ => [], fun _ _ => true⟩
  geo k := some ⟨0, k * (360 / 2 ^ 16)⟩
  tile zoom point := ⟨zoom, ((point.lon + 180) / 360 * 2 ^ zoom).floor.toNat, 2 ^ zoom / 2⟩
  centroid points := ⟨(points.map EsPoint.lat).sum / points.length,
    (points.map EsPoint.lon).sum / points.length⟩
  id := toString
  source _ := .dict []

/-- The world. -/
def worldBox : BoundingBox where
  minLng := -180
  minLat := -85
  maxLng := 180
  maxLat := 85
  lng_mem := by decide
  lat_mem := by decide
  lng_lt := by decide
  lat_lt := by decide

/-- The world in the finest grid. -/
def worldFilters (maxPoints : ℕ) (h : 1 ≤ maxPoints ∧ maxPoints ≤ 1000) : MapFilters :=
  { bbox := "-180,-85,180,85", precision := some 16, maxPoints := maxPoints, maxPoints_mem := h }

theorem bboxFromString_world : bboxFromString demoFloat "-180,-85,180,85" = .ok worldBox := by
  rfl

section Equator

variable {n : ℕ} {maxPoints : ℕ} {h : 1 ≤ maxPoints ∧ maxPoints ≤ 1000}

theorem inViewport_equator (hn : n ≤ 501) :
    equatorIndex.inViewport (List.range n) (worldFilters maxPoints h) worldBox = List.range n := by
  refine List.filter_eq_self.2 fun k hk => Bool.and_eq_true_iff.2 ⟨by rfl, ?_⟩
  have hk : (k : ℚ) ≤ 501 := by exact_mod_cast (List.mem_range.1 hk).le.trans hn
  have hpos : (0 : ℚ) ≤ k := Nat.cast_nonneg k
  have hinside : (equatorIndex.geo k).any worldBox.contains =
      worldBox.contains ⟨0, k * (360 / 2 ^ 16)⟩ := rfl
  rw [hinside, BoundingBox.contains, Bool.and_eq_true_iff, decide_eq_true_eq, decide_eq_true_eq]
  simp only [worldBox]
  refine ⟨⟨?_, ?_⟩, by norm_num, by norm_num⟩
  · linarith
  · linarith

/-- Each listing on the equator has a tile of its own. -/
theorem length_tiles_equator : (equatorIndex.tiles 16 (List.range n)).length = n := by
  have hgeo : (List.range n).filterMap equatorIndex.geo =
      (List.range n).map fun k => ⟨0, k * (360 / 2 ^ 16)⟩ := by
    rw [← List.filterMap_eq_map]
    rfl
  have htile (k : ℕ) : (equatorIndex.tile 16 ⟨0, k * (360 / 2 ^ 16)⟩).x = 32768 + k := by
    have hcolumn : ((k * (360 / 2 ^ 16) + 180) / 360 * 2 ^ 16 : ℚ) = ((32768 + k : ℕ) : ℤ) := by
      push_cast
      ring
    change (Rat.floor _).toNat = _
    rw [hcolumn, Rat.floor_intCast, Int.toNat_natCast]
  have hnodup : (((List.range n).filterMap equatorIndex.geo).map (equatorIndex.tile 16)).Nodup := by
    rw [hgeo, List.map_map]
    refine List.nodup_range.map fun j k hjk => ?_
    have hx := congrArg Tile.x hjk
    simp only [Function.comp_apply, htile] at hx
    omega
  rw [MapIndex.tiles, hnodup.dedup, List.length_map, hgeo, List.length_map, List.length_range]

/-- Three listings are shown in three clusters. -/
theorem map_search_equator : ∃ results,
    mapSearch demoPython demoFloat id equatorIndex (List.range 3) (worldFilters 2 (by decide)) =
      .ok results ∧ results.total = 3 ∧ (results.clusters.map MapCluster.count).sum = 3 := by
  have hmany : (worldFilters 2 (by decide)).maxPoints <
      (equatorIndex.inViewport (List.range 3) (worldFilters 2 (by decide)) worldBox).length := by
    rw [inViewport_equator (by decide)]
    decide
  obtain ⟨results, hok, hmode, hprecision, -, -⟩ :=
    exists_mapSearch_clusters demoPython id bboxFromString_world hmany
  obtain ⟨bbox, hbbox, htotal, -, hclusters⟩ := map_search_counts hok
  obtain rfl := Except.ok.inj (bboxFromString_world.symm.trans hbbox)
  have hsixteen : results.precision = 16 := hprecision
  rw [inViewport_equator (by decide), List.length_range] at htotal
  refine ⟨results, hok, htotal, ?_⟩
  rw [← htotal]
  refine (hclusters hmode).2 ?_
  rw [inViewport_equator (by decide), hsixteen, length_tiles_equator]
  decide

/-- **A map of many tiles hides listings**: of 501 listings in as many tiles the clusters count
500. -/
theorem clusters_hide_listing :
    ¬∀ (δ : Type) (py : Python) (float : String → Option (Option ℚ)) (zoom : ℚ → ℚ)
      (index : MapIndex δ) (docs : List δ) (filters : MapFilters) (results : MapResults),
      mapSearch py float zoom index docs filters = .ok results →
        results.mode = .clusters →
          (results.clusters.map MapCluster.count).sum = results.total := by
  intro hall
  have hsmall : 1 ≤ 200 ∧ 200 ≤ 1000 := by decide
  have hmany : (worldFilters 200 hsmall).maxPoints <
      (equatorIndex.inViewport (List.range 501) (worldFilters 200 hsmall) worldBox).length := by
    rw [inViewport_equator le_rfl, List.length_range]
    exact (by decide : 200 < 501)
  obtain ⟨results, hok, hmode, hprecision, htotal, hclusters⟩ :=
    exists_mapSearch_clusters demoPython id bboxFromString_world hmany
  have hsixteen : results.precision = 16 := hprecision
  have hsum := hall _ _ _ _ _ _ _ _ hok hmode
  rw [hclusters, htotal, sum_clusters_iff, hsixteen, inViewport_equator le_rfl,
    length_tiles_equator] at hsum
  exact absurd hsum (by decide)

end Equator

end Search
end TopChoice
