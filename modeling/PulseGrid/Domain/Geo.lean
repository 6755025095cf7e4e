/-
  PulseGrid.Domain.Geo

  Which shards an alert circle is published to, and rectangles around it
  (crates/domain/src/geo.rs).

  `f64` operations are read as exact operations on the reals.  The `geohash` crate
  and the printing of an `f64` are parameters; `StandardGrid` says what is relied on
  of the crate.
-/

import PulseGrid.Domain.Device
import PulseGrid.Lib.RingSearch

namespace PulseGrid

open Real

-- ============================================================================
-- The geohash crate
-- ============================================================================

/-- The crate's `Coord`: `x` is the longitude. -/
structure Coord (F : Type) where
  x : F
  y : F

/-- The crate's `Neighbors`. -/
structure Neighbors where
  sw : String
  s : String
  se : String
  w : String
  e : String
  nw : String
  n : String
  ne : String

/-- What `geo.rs` uses of the crate: `decode` gives a cell's centre and its half sizes
    in longitude and in latitude. -/
structure GeohashGrid (F : Type) extends GeohashCrate F where
  decode : String → Except String (Coord F × F × F)
  neighbors : String → Except String Neighbors

/-- How an `f64` is printed by `{}` and by `{:.2}`. -/
structure F64Display where
  display : ℝ → String
  displayTwoDecimals : ℝ → String

-- ============================================================================
-- geo.rs
-- ============================================================================

/-- `METERS_PER_DEGREE_LAT`. -/
noncomputable def metersPerDegreeLat : ℝ := 111320

/-- `EARTH_RADIUS_M`. -/
noncomputable def earthRadiusM : ℝ := 6371000

/-- `MAX_RING_EXPANSION`. -/
def maxRingExpansion : Nat := 100

/-- `f64::to_radians`. -/
noncomputable def toRadians (degrees : ℝ) : ℝ := degrees * (π / 180)

/-- `f64::to_degrees`. -/
noncomputable def toDegrees (radians : ℝ) : ℝ := radians * (180 / π)

/-- `f64::hypot`. -/
noncomputable def hypot (x y : ℝ) : ℝ := sqrt (x ^ 2 + y ^ 2)

noncomputable def haversineDistanceMeters (lat₁ lon₁ lat₂ lon₂ : ℝ) : ℝ :=
  let dLat := toRadians (lat₂ - lat₁)
  let dLon := toRadians (lon₂ - lon₁)
  let a := sin (dLat / 2) ^ 2 +
    cos (toRadians lat₁) * cos (toRadians lat₂) * sin (dLon / 2) ^ 2
  let c := 2 * arcsin (sqrt a)
  earthRadiusM * c

noncomputable def distanceMeters (a b : Location ℝ) : ℝ :=
  haversineDistanceMeters a.lat a.lon b.lat b.lon

/-- A latitude/longitude rectangle in degrees. -/
structure BoundingBox where
  minLat : ℝ
  maxLat : ℝ
  minLon : ℝ
  maxLon : ℝ

/-- One or two rectangles that together contain the whole circle; two when it crosses the
    antimeridian. -/
noncomputable def boundingBoxes {D : Type} (center : Location ℝ) (radiusMeters : ℝ) :
    Except (AppError D ℝ) (List BoundingBox) :=
  if radiusMeters ≤ 0 ∨ radiusMeters > 500000 then .error (.invalidRadius radiusMeters)
  else
    let ang := radiusMeters / earthRadiusM
    let dlat := toDegrees ang * 1.001
    let minLat := center.lat - dlat
    let maxLat := center.lat + dlat
    let fullLon : BoundingBox :=
      { minLat := max minLat (-90), maxLat := min maxLat 90, minLon := -180, maxLon := 180 }
    if minLat ≤ -90 ∨ maxLat ≥ 90 then .ok [fullLon]
    else
      let ratio := sin ang / cos (toRadians center.lat)
      if ratio ≥ 1 then .ok [fullLon]
      else
        let dlon := toDegrees (arcsin ratio) * 1.001
        if dlon ≥ 180 then .ok [fullLon]
        else
          let lo := center.lon - dlon
          let hi := center.lon + dlon
          let boxed (minLon maxLon : ℝ) : BoundingBox := { minLat, maxLat, minLon, maxLon }
          if lo < -180 then .ok [boxed (lo + 360) 180, boxed (-180) hi]
          else if hi > 180 then .ok [boxed lo 180, boxed (-180) (hi - 360)]
          else .ok [boxed lo hi]

section Prefixes

variable {D : Type} (geo : GeohashGrid ℝ)

noncomputable def cellDimsMeters (hash : String) (lat : ℝ) : Except (AppError D ℝ) (ℝ × ℝ) := do
  let (_, lonErr, latErr) ← (geo.decode hash).mapError .geohashError
  let metersPerDegreeLon := metersPerDegreeLat * cos (toRadians lat)
  let widthM := max (2 * lonErr * metersPerDegreeLon) 1
  let heightM := max (2 * latErr * metersPerDegreeLat) 1
  return (widthM, heightM)

/-- `ang`: the radius as an angle at the centre of the globe. -/
noncomputable def angularRadius (radiusMeters : ℝ) : ℝ := radiusMeters / earthRadiusM

noncomputable def latExtentDeg (radiusMeters : ℝ) : ℝ := toDegrees (angularRadius radiusMeters)

noncomputable def lonExtentDeg (centerLat radiusMeters : ℝ) : ℝ :=
  let lonRatio := sin (angularRadius radiusMeters) / cos (toRadians centerLat)
  if lonRatio ≥ 1 then 360 -- the circle reaches a pole
  else toDegrees (arcsin lonRatio)

noncomputable def ringsNeeded (centerLat radiusMeters cellLonDeg cellLatDeg : ℝ) : Nat :=
  max (max (⌊latExtentDeg radiusMeters / cellLatDeg⌋₊ + 1)
    (⌊lonExtentDeg centerLat radiusMeters / cellLonDeg⌋₊ + 1)) 1

/-- The message of a radius that needs too many rings. -/
def tooManyRingsMessage (fmt : F64Display) (radiusMeters : ℝ) (rings : Nat) (centerLat : ℝ) :
    String :=
  "radius " ++ fmt.display radiusMeters ++ " m needs " ++ toString rings ++
    " geohash rings at latitude " ++ fmt.displayTwoDecimals centerLat ++
    " (max " ++ toString maxRingExpansion ++ "); use a smaller radius"

noncomputable def nearestEquatorLat (centerLat radiusMeters : ℝ) : ℝ :=
  max (|centerLat| - latExtentDeg radiusMeters) 0

noncomputable def diagonalBufferM (cellWidthM cellHeightM : ℝ) : ℝ :=
  let cellSizeM := max (min cellWidthM cellHeightM) 1
  max (cellSizeM * sqrt 2) (0.5 * hypot cellWidthM cellHeightM)

/-- The candidates around a cell, in the order they are tried. -/
def candidates (hash : String) : Except (AppError D ℝ) (List String) := do
  let n ← (geo.neighbors hash).mapError .geohashError
  return [n.n, n.ne, n.e, n.se, n.s, n.sw, n.w, n.nw]

/-- The prune pass: keep the cells whose centre is within `reach` of `center`. -/
noncomputable def pruneCells (center : Location ℝ) (reach : ℝ) :
    List String → Except (AppError D ℝ) (List String)
  | [] => .ok []
  | hash :: rest => do
    let (coord, _, _) ← (geo.decode hash).mapError .geohashError
    let distance := haversineDistanceMeters center.lat center.lon coord.y coord.x
    let kept ← pruneCells center reach rest
    return if distance ≤ reach then hash :: kept else kept

/-- The source iterates over `visited`, a hash set, in no given order; here the cells
    keep the order in which they were found. -/
noncomputable def shardPrefixesForRadius (fmt : F64Display) (center : Location ℝ)
    (radiusMeters : ℝ) : Except (AppError D ℝ) (List String) := do
  if radiusMeters ≤ 0 ∨ radiusMeters > 500000 then
    throw (.invalidRadius radiusMeters)
  let centerHash ← (geo.encode center.lon center.lat shardPrefixLength).mapError .geohashError
  let (_, lonErr, latErr) ← (geo.decode centerHash).mapError .geohashError
  let rings := ringsNeeded center.lat radiusMeters (2 * lonErr) (2 * latErr)
  if rings > maxRingExpansion then
    throw (.validation (tooManyRingsMessage fmt radiusMeters rings center.lat))
  -- cells are widest, in meters, where the circle comes closest to the equator
  let (_, cellHeightM) ← cellDimsMeters geo centerHash center.lat
  let (cellWidthM, _) ← cellDimsMeters geo centerHash (nearestEquatorLat center.lat radiusMeters)
  let visited ← RingSearch.search (candidates geo) rings [centerHash] [centerHash]
  pruneCells geo center (radiusMeters + diagonalBufferM cellWidthM cellHeightM) visited

-- ============================================================================
-- What they compute
-- ============================================================================

variable {geo} {fmt : F64Display} {center : Location ℝ} {radiusMeters : ℝ}

/-- The prune pass keeps exactly the cells whose centre is in reach. -/
theorem mem_pruneCells_iff {reach : ℝ} {cells kept : List String} {hash : String}
    (h : pruneCells (D := D) geo center reach cells = .ok kept) :
    hash ∈ kept ↔ hash ∈ cells ∧ ∃ coord lonErr latErr,
      geo.decode hash = .ok (coord, lonErr, latErr) ∧
        haversineDistanceMeters center.lat center.lon coord.y coord.x ≤ reach := by
  induction cells generalizing kept with
  | nil =>
    cases h
    simp
  | cons head rest ih =>
    unfold pruneCells at h
    cases hhead : geo.decode head with
    | error e =>
      rw [hhead] at h
      cases h
    | ok cell =>
      obtain ⟨coord, lonErr, latErr⟩ := cell
      rw [hhead] at h
      cases hrest : pruneCells (D := D) geo center reach rest with
      | error e =>
        rw [hrest] at h
        cases h
      | ok restKept =>
        rw [hrest] at h
        cases h
        have hih := ih hrest
        by_cases hreach : haversineDistanceMeters center.lat center.lon coord.y coord.x ≤ reach
        · rw [if_pos hreach, List.mem_cons, List.mem_cons, hih]
          constructor
          · rintro (rfl | ⟨hmem, hcell⟩)
            · exact ⟨Or.inl rfl, coord, lonErr, latErr, hhead, hreach⟩
            · exact ⟨Or.inr hmem, hcell⟩
          · rintro ⟨rfl | hmem, hcell⟩
            · exact Or.inl rfl
            · exact Or.inr ⟨hmem, hcell⟩
        · rw [if_neg hreach, List.mem_cons, hih]
          constructor
          · rintro ⟨hmem, hcell⟩
            exact ⟨Or.inr hmem, hcell⟩
          · rintro ⟨rfl | hmem, hcell⟩
            · obtain ⟨coord', lonErr', latErr', hdec, hle⟩ := hcell
              cases hhead.symm.trans hdec
              exact absurd hle hreach
            · exact ⟨hmem, hcell⟩

/-- How far from the centre a cell's own centre may be. -/
noncomputable def reachM (center : Location ℝ) (radiusMeters lonErr latErr : ℝ) : ℝ :=
  radiusMeters + diagonalBufferM
    (max (2 * lonErr * (metersPerDegreeLat *
      cos (toRadians (nearestEquatorLat center.lat radiusMeters)))) 1)
    (max (2 * latErr * metersPerDegreeLat) 1)

/-- `shard_prefixes_for_radius` once the centre's cell is known. -/
theorem shardPrefixesForRadius_eq {centerHash : String} {coord : Coord ℝ} {lonErr latErr : ℝ}
    (henc : geo.encode center.lon center.lat shardPrefixLength = .ok centerHash)
    (hdec : geo.decode centerHash = .ok (coord, lonErr, latErr)) :
    shardPrefixesForRadius (D := D) geo fmt center radiusMeters =
      if radiusMeters ≤ 0 ∨ radiusMeters > 500000 then .error (.invalidRadius radiusMeters)
      else
        let rings := ringsNeeded center.lat radiusMeters (2 * lonErr) (2 * latErr)
        if rings > maxRingExpansion then
          .error (.validation (tooManyRingsMessage fmt radiusMeters rings center.lat))
        else
          (RingSearch.search (candidates geo) rings [centerHash] [centerHash]).bind
            (pruneCells geo center (reachM center radiusMeters lonErr latErr)) := by
  unfold shardPrefixesForRadius
  rw [henc]
  split
  · rfl
  · simp only [Except.mapError, cellDimsMeters, hdec, bind, Except.bind, pure, Except.pure]
    rfl

/-- What a request that is answered has gone through: its radius is valid and needs few
    rings, the rings were expanded around the centre's cell, and the cells found were
    pruned. -/
theorem shardPrefixesForRadius_eq_ok {prefixes : List String}
    (h : shardPrefixesForRadius (D := D) geo fmt center radiusMeters = .ok prefixes) :
    (0 < radiusMeters ∧ radiusMeters ≤ 500000) ∧
      ∃ centerHash coord lonErr latErr visited,
        geo.encode center.lon center.lat shardPrefixLength = .ok centerHash ∧
        geo.decode centerHash = .ok (coord, lonErr, latErr) ∧
        ringsNeeded center.lat radiusMeters (2 * lonErr) (2 * latErr) ≤ maxRingExpansion ∧
        RingSearch.search (candidates (D := D) geo)
          (ringsNeeded center.lat radiusMeters (2 * lonErr) (2 * latErr)) [centerHash]
          [centerHash] = .ok visited ∧
        pruneCells (D := D) geo center (reachM center radiusMeters lonErr latErr) visited =
          .ok prefixes := by
  have hradius : ¬(radiusMeters ≤ 0 ∨ radiusMeters > 500000) := by
    intro hbad
    unfold shardPrefixesForRadius at h
    rw [if_pos hbad] at h
    cases h
  refine ⟨by rwa [not_or, not_le, not_lt] at hradius, ?_⟩
  cases henc : geo.encode center.lon center.lat shardPrefixLength with
  | error e =>
    unfold shardPrefixesForRadius at h
    rw [if_neg hradius, henc] at h
    cases h
  | ok centerHash =>
    cases hdec : geo.decode centerHash with
    | error e =>
      unfold shardPrefixesForRadius at h
      rw [if_neg hradius, henc] at h
      simp only [Except.mapError, hdec, bind, Except.bind] at h
      cases h
    | ok cell =>
      obtain ⟨coord, lonErr, latErr⟩ := cell
      rw [shardPrefixesForRadius_eq henc hdec, if_neg hradius] at h
      dsimp only at h
      split at h
      case isTrue => cases h
      case isFalse hrings =>
        cases hsearch : RingSearch.search (candidates (D := D) geo)
            (ringsNeeded center.lat radiusMeters (2 * lonErr) (2 * latErr)) [centerHash]
            [centerHash] with
        | error e =>
          rw [hsearch] at h
          cases h
        | ok visited =>
          rw [hsearch] at h
          exact ⟨centerHash, coord, lonErr, latErr, visited, rfl, hdec, not_lt.mp hrings,
            hsearch, h⟩

end Prefixes

end PulseGrid
