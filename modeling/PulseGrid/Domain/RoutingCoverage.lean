/-
  PulseGrid.Domain.RoutingCoverage

  Every point of an alert circle is in a shard the alert is published to.

  The point's cell is found by the ring expansion because its row and its column are
  at most `rings_needed` away: the rows by the latitude extent, the columns by the
  longitude extent, and a circle that reaches a pole is rejected.  The prune pass keeps
  the cell because its centre is at most half a cell diagonal from the point, and the
  buffer is measured where cells are widest.  The buffer is computed with 111320 m to a
  degree, slightly more than the 111195 m of the haversine's sphere; that difference
  pays for the point's cell reaching closer to the equator than the circle does
  (`half_cell_le`).
-/

import PulseGrid.Domain.GeohashGrid
import PulseGrid.Lib.Sphere

namespace PulseGrid

open Real

-- ============================================================================
-- Angles
-- ============================================================================

theorem toRadians_sub (x y : ℝ) : toRadians (x - y) = toRadians x - toRadians y := by
  unfold toRadians
  ring

/-- The haversine distance is an arc of the globe. -/
theorem haversineDistanceMeters_eq_arc (lat₁ lon₁ lat₂ lon₂ : ℝ) :
    haversineDistanceMeters lat₁ lon₁ lat₂ lon₂ =
      earthRadiusM *
        Sphere.arc (toRadians lat₁) (toRadians lon₁) (toRadians lat₂) (toRadians lon₂) := by
  simp only [haversineDistanceMeters, Sphere.arc_eq_haversine, toRadians_sub]

theorem haversineDistanceMeters_triangle (lat₁ lon₁ lat₂ lon₂ lat₃ lon₃ : ℝ) :
    haversineDistanceMeters lat₁ lon₁ lat₃ lon₃ ≤
      haversineDistanceMeters lat₁ lon₁ lat₂ lon₂ + haversineDistanceMeters lat₂ lon₂ lat₃ lon₃ := by
  rw [haversineDistanceMeters_eq_arc, haversineDistanceMeters_eq_arc,
    haversineDistanceMeters_eq_arc, ← mul_add]
  refine mul_le_mul_of_nonneg_left (Sphere.arc_triangle _ _ _ _ _ _) ?_
  norm_num [earthRadiusM]

theorem abs_toRadians (x : ℝ) : |toRadians x| = toRadians |x| := by
  unfold toRadians
  rw [abs_mul, abs_of_pos (by positivity : 0 < π / 180)]

theorem toRadians_le_iff {x y : ℝ} : toRadians x ≤ toRadians y ↔ x ≤ y := by
  unfold toRadians
  exact mul_le_mul_iff_left₀ (by positivity)

theorem toRadians_toDegrees (x : ℝ) : toRadians (toDegrees x) = x := by
  unfold toRadians toDegrees
  field_simp

/-- A difference in degrees from one in radians. -/
theorem abs_le_toDegrees {x ext : ℝ} (h : |toRadians x| ≤ ext) : |x| ≤ toDegrees ext := by
  rw [abs_toRadians, ← toRadians_toDegrees ext, toRadians_le_iff] at h
  exact h

theorem toRadians_ninety : toRadians 90 = π / 2 := by
  unfold toRadians
  ring

theorem abs_toRadians_lat (p : Location ℝ) : |toRadians p.lat| ≤ π / 2 := by
  rw [abs_toRadians, ← toRadians_ninety, toRadians_le_iff, abs_le]
  exact p.lat_mem

theorem cos_toRadians_lat_nonneg (p : Location ℝ) : 0 ≤ cos (toRadians p.lat) := by
  have h := abs_le.mp (abs_toRadians_lat p)
  exact cos_nonneg_of_mem_Icc ⟨h.1, h.2⟩

theorem cos_toRadians_pos {lat : ℝ} (h : |lat| < 90) : 0 < cos (toRadians lat) := by
  have hlt : |toRadians lat| < π / 2 := by
    rw [abs_toRadians, ← toRadians_ninety]
    exact mul_lt_mul_of_pos_right h (by positivity)
  rw [abs_lt] at hlt
  exact cos_pos_of_mem_Ioo ⟨hlt.1, hlt.2⟩

-- ============================================================================
-- The extents of a circle
-- ============================================================================

section Circle

variable {center p : Location ℝ} {radiusMeters : ℝ}

theorem angularRadius_mem (h0 : 0 < radiusMeters) (h : radiusMeters ≤ 500000) :
    0 < angularRadius radiusMeters ∧ angularRadius radiusMeters < π / 2 := by
  have hquot : angularRadius radiusMeters ≤ 500000 / 6371000 := by
    unfold angularRadius earthRadiusM
    gcongr
  constructor
  · unfold angularRadius earthRadiusM
    positivity
  · linarith [pi_gt_three]

/-- The points of a circle, as an arc. -/
theorem arc_le_of_distanceMeters_le (h : distanceMeters center p ≤ radiusMeters) :
    Sphere.arc (toRadians center.lat) (toRadians center.lon) (toRadians p.lat) (toRadians p.lon) ≤
      angularRadius radiusMeters := by
  rw [distanceMeters, haversineDistanceMeters_eq_arc] at h
  unfold angularRadius
  rw [le_div_iff₀ (by norm_num [earthRadiusM]), mul_comm]
  exact h

theorem abs_lat_sub_le (h : distanceMeters center p ≤ radiusMeters) :
    |p.lat - center.lat| ≤ latExtentDeg radiusMeters := by
  have harc := arc_le_of_distanceMeters_le h
  have hlat := (Sphere.abs_lat_sub_le_arc (abs_toRadians_lat center) (abs_toRadians_lat p)).trans
    harc
  rw [← toRadians_sub] at hlat
  exact abs_le_toDegrees hlat

/-- A circle that needs few rings stays short of the poles. -/
theorem lonRatio_lt_one
    (hrings : ringsNeeded center.lat radiusMeters (2 * (180 / 1024)) (2 * (90 / 1024)) ≤
      maxRingExpansion) :
    sin (angularRadius radiusMeters) / cos (toRadians center.lat) < 1 := by
  by_contra hpole
  have hext : lonExtentDeg center.lat radiusMeters = 360 := if_pos (not_lt.mp hpole)
  have hcells : ⌊(360 : ℝ) / (2 * (180 / 1024))⌋₊ = 1024 := by norm_num
  unfold ringsNeeded maxRingExpansion at hrings
  rw [hext, hcells] at hrings
  omega

theorem exists_abs_lon_sub_le (hlat : |center.lat| < 90)
    (hrad : 0 < radiusMeters ∧ radiusMeters ≤ 500000)
    (hratio : sin (angularRadius radiusMeters) / cos (toRadians center.lat) < 1)
    (h : distanceMeters center p ≤ radiusMeters) :
    ∃ turns : ℤ, |p.lon - center.lon - turns * 360| ≤ lonExtentDeg center.lat radiusMeters := by
  obtain ⟨hang0, hang⟩ := angularRadius_mem hrad.1 hrad.2
  obtain ⟨turns, hturns⟩ := Sphere.lon_le_of_arc_le (cos_toRadians_pos hlat)
    (cos_toRadians_lat_nonneg p) hang0.le hang hratio (arc_le_of_distanceMeters_le h)
  have hdeg : toRadians p.lon - toRadians center.lon - turns * (2 * π) =
      toRadians (p.lon - center.lon - turns * 360) := by
    unfold toRadians
    ring
  have hext : lonExtentDeg center.lat radiusMeters =
      toDegrees (arcsin (sin (angularRadius radiusMeters) / cos (toRadians center.lat))) :=
    if_neg (not_le.mpr hratio)
  rw [hdeg] at hturns
  rw [hext]
  exact ⟨turns, abs_le_toDegrees hturns⟩

/-- A point of a circle that stays short of the poles is not a pole. -/
theorem lat_lt_ninety (hlat : |center.lat| < 90)
    (hrad : 0 < radiusMeters ∧ radiusMeters ≤ 500000)
    (hratio : sin (angularRadius radiusMeters) / cos (toRadians center.lat) < 1)
    (h : distanceMeters center p ≤ radiusMeters) : p.lat < 90 := by
  obtain ⟨hang0, hang⟩ := angularRadius_mem hrad.1 hrad.2
  have hpos := Sphere.cos_mul_cos_pos_of_arc_le (cos_toRadians_pos hlat) hang0.le hang hratio
    (arc_le_of_distanceMeters_le h)
  refine lt_of_le_of_ne p.lat_mem.2 fun hpole => ?_
  rw [hpole, toRadians_ninety, cos_pi_div_two, mul_zero, zero_mul] at hpos
  exact lt_irrefl 0 hpos

/-- The points of a circle are at least as far from the equator as
    `nearest_equator_lat`. -/
theorem cos_lat_le_cos_nearestEquatorLat (h : distanceMeters center p ≤ radiusMeters) :
    cos (toRadians p.lat) ≤ cos (toRadians (nearestEquatorLat center.lat radiusMeters)) := by
  have hsub := abs_lat_sub_le h
  have hnear : nearestEquatorLat center.lat radiusMeters ≤ |p.lat| := by
    refine max_le ?_ (abs_nonneg p.lat)
    have htri := abs_sub_abs_le_abs_sub center.lat p.lat
    rw [abs_sub_comm] at htri
    linarith
  have hnear0 : 0 ≤ nearestEquatorLat center.lat radiusMeters := le_max_right _ _
  have hpi := abs_toRadians_lat p
  rw [← cos_abs (toRadians p.lat), abs_toRadians]
  rw [abs_toRadians] at hpi
  refine cos_le_cos_of_nonneg_of_le_pi ?_ (by linarith [pi_pos]) (toRadians_le_iff.mpr hnear)
  exact mul_nonneg hnear0 (by positivity)

end Circle

-- ============================================================================
-- The slack of the prune pass
-- ============================================================================

/-- The latitude of a row's centre. -/
theorem abs_row_center_sub_le (lat : ℝ) :
    |((row lat : ℝ) + 1 / 2) * (180 / 1024) - 90 - lat| ≤ 90 / 1024 := by
  have hle := Int.floor_le ((lat + 90) * (1024 / 180))
  have hlt := Int.lt_floor_add_one ((lat + 90) * (1024 / 180))
  rw [row_eq, abs_le]
  constructor <;> linarith

/-- The longitude of a column's centre, up to the turn that longitude 180 makes. -/
theorem exists_abs_column_center_sub_le (lon : ℝ) :
    ∃ turns : ℤ,
      |((column lon : ℝ) + 1 / 2) * (360 / 1024) - 180 - lon - turns * 360| ≤ 180 / 1024 := by
  have hle := Int.floor_le ((lon + 180) * (1024 / 360))
  have hlt := Int.lt_floor_add_one ((lon + 180) * (1024 / 360))
  have hmod : ((column lon : ℤ) : ℝ) = (⌊(lon + 180) * (1024 / 360)⌋ : ℝ) -
      1024 * (⌊(lon + 180) * (1024 / 360)⌋ / 1024 : ℤ) := by
    rw [column_eq, Int.emod_def]
    push_cast
    ring
  refine ⟨-(⌊(lon + 180) * (1024 / 360)⌋ / 1024), ?_⟩
  rw [hmod, abs_le]
  push_cast
  constructor <;> linarith

/-- Half the diagonal of a cell at a latitude whose cosine is `x`, as
    `shard_prefixes_for_radius` computes it. -/
noncomputable def halfDiagonalM (x : ℝ) : ℝ :=
  0.5 * hypot ((2 : ℕ) * ((180 : ℕ) / (1024 : ℕ)) * (metersPerDegreeLat * x))
    ((2 : ℕ) * ((90 : ℕ) / (1024 : ℕ)) * metersPerDegreeLat)

theorem halfDiagonalM_eq (x : ℝ) :
    halfDiagonalM x = 0.5 * hypot (2 * (180 / 1024) * (metersPerDegreeLat * x))
      (2 * (90 / 1024) * metersPerDegreeLat) := by
  simp only [halfDiagonalM, Nat.cast_ofNat]

/-- Half a diagonal, as an angle: `m` is a quarter of a cell's height. -/
theorem halfDiagonalM_sq {x m : ℝ} (hm : m = 111320 * 180 / (4096 * 6371000)) :
    (halfDiagonalM x / (2 * earthRadiusM)) ^ 2 = m ^ 2 * (1 + 4 * x ^ 2) := by
  rw [halfDiagonalM_eq, hypot, div_pow, mul_pow, sq_sqrt (by positivity), hm]
  unfold metersPerDegreeLat earthRadiusM
  ring

/-- The haversine of half a cell, bounded by the sine of the slack. -/
theorem half_cell_le {x : ℝ} (h0 : 0 ≤ x) (h1 : x ≤ 1) :
    (π / 2048 / 2) ^ 2 * ((1 + 4 * x ^ 2) * (1 + π / 2048)) ≤
      sin (halfDiagonalM x / (2 * earthRadiusM)) ^ 2 := by
  obtain ⟨m, hm⟩ : ∃ m : ℝ, m = 111320 * 180 / (4096 * 6371000) := ⟨_, rfl⟩
  have hsq := halfDiagonalM_sq (x := x) hm
  have hpos : 0 < halfDiagonalM x / (2 * earthRadiusM) := by
    rw [halfDiagonalM_eq]
    unfold hypot metersPerDegreeLat earthRadiusM
    positivity
  generalize halfDiagonalM x / (2 * earthRadiusM) = t at hsq hpos
  have hx : 1 + 4 * x ^ 2 ≤ 5 := by nlinarith
  have hsmall : t ^ 2 ≤ 5 * m ^ 2 := by nlinarith [sq_nonneg m]
  have hm2 : 5 * m ^ 2 ≤ 3 / 1000000 := by
    rw [hm]
    norm_num
  -- the sine of a small angle is almost the angle
  have hsin : t ^ 2 * (1 - 1 / 1000000) ≤ sin t ^ 2 := by
    have hcube := (sin_gt_sub_cube hpos).le
    have hnonneg : 0 ≤ t - t ^ 3 / 6 := by nlinarith
    have hsquare := pow_le_pow_left₀ hnonneg hcube 2
    nlinarith [sq_nonneg (t ^ 3), sq_nonneg t]
  -- the difference between 111320 m and 111195 m to a degree
  have hslack : (π / 2048 / 2) ^ 2 * (1 + π / 2048) ≤ m ^ 2 * (1 - 1 / 1000000) := by
    have hpi := pi_lt_d6
    have hpi0 := pi_pos
    have hpi2 : π ^ 2 ≤ 3.141593 ^ 2 := by gcongr
    calc (π / 2048 / 2) ^ 2 * (1 + π / 2048)
        = π ^ 2 / 4096 ^ 2 * (1 + π / 2048) := by ring
      _ ≤ 3.141593 ^ 2 / 4096 ^ 2 * (1 + 3.141593 / 2048) := by gcongr
      _ ≤ m ^ 2 * (1 - 1 / 1000000) := by
          rw [hm]
          norm_num
  calc (π / 2048 / 2) ^ 2 * ((1 + 4 * x ^ 2) * (1 + π / 2048))
      = (π / 2048 / 2) ^ 2 * (1 + π / 2048) * (1 + 4 * x ^ 2) := by ring
    _ ≤ m ^ 2 * (1 - 1 / 1000000) * (1 + 4 * x ^ 2) := by gcongr
    _ = t ^ 2 * (1 - 1 / 1000000) := by
        rw [hsq]
        ring
    _ ≤ sin t ^ 2 := hsin

theorem halfDiagonalM_angle_mem {x : ℝ} (h0 : 0 ≤ x) (h1 : x ≤ 1) :
    0 ≤ halfDiagonalM x / (2 * earthRadiusM) ∧ halfDiagonalM x / (2 * earthRadiusM) < π / 2 := by
  have hsq := halfDiagonalM_sq (x := x) rfl
  have h0' : 0 ≤ halfDiagonalM x / (2 * earthRadiusM) := by
    rw [halfDiagonalM_eq]
    unfold hypot earthRadiusM
    positivity
  refine ⟨h0', ?_⟩
  have hone : halfDiagonalM x / (2 * earthRadiusM) ≤ 1 := by
    refine abs_le_of_sq_le_sq' ?_ zero_le_one |>.2
    rw [hsq]
    nlinarith
  linarith [pi_gt_three]

/-- The buffer is at least half the diagonal of the widest cell. -/
theorem halfDiagonalM_le_diagonalBufferM {x : ℝ} (h0 : 0 ≤ x) :
    halfDiagonalM x ≤
      diagonalBufferM (max (2 * (180 / 1024) * (metersPerDegreeLat * x)) 1)
        (max (2 * (90 / 1024) * metersPerDegreeLat) 1) := by
  refine le_trans ?_ (le_max_right _ _)
  rw [halfDiagonalM_eq]
  unfold hypot
  have hwidth : 0 ≤ 2 * (180 / 1024) * (metersPerDegreeLat * x) := by
    unfold metersPerDegreeLat
    positivity
  have hheight : 0 ≤ 2 * (90 / 1024) * metersPerDegreeLat := by
    norm_num [metersPerDegreeLat]
  gcongr
  · exact le_max_left _ _
  · exact le_max_left _ _

/-- The centre of a point's cell is at most half a diagonal away. -/
theorem distance_cell_center_le {p : Location ℝ} {x : ℝ} (hx : cos (toRadians p.lat) ≤ x)
    (hx1 : x ≤ 1) :
    haversineDistanceMeters p.lat p.lon (((row p.lat : ℝ) + 1 / 2) * (180 / 1024) - 90)
      (((column p.lon : ℝ) + 1 / 2) * (360 / 1024) - 180) ≤ halfDiagonalM x := by
  have hcos0 := cos_toRadians_lat_nonneg p
  have hx0 : 0 ≤ x := hcos0.trans hx
  have hlat := toRadians_le_iff.mpr (abs_row_center_sub_le p.lat)
  obtain ⟨turns, hturns⟩ := exists_abs_column_center_sub_le p.lon
  have hlon := toRadians_le_iff.mpr hturns
  generalize ((row p.lat : ℝ) + 1 / 2) * (180 / 1024) - 90 = lat at hlat ⊢
  generalize ((column p.lon : ℝ) + 1 / 2) * (360 / 1024) - 180 = lon at hlon ⊢
  have hlat' : |toRadians lat - toRadians p.lat| ≤ π / 2048 := by
    rw [← toRadians_sub, abs_toRadians]
    refine hlat.trans (le_of_eq ?_)
    unfold toRadians
    ring
  have hlon' : |toRadians lon - toRadians p.lon - turns * (2 * π)| ≤ 2 * (π / 2048) := by
    have hdeg : toRadians lon - toRadians p.lon - turns * (2 * π) =
        toRadians (lon - p.lon - turns * 360) := by
      unfold toRadians
      ring
    rw [hdeg, abs_toRadians]
    refine hlon.trans (le_of_eq ?_)
    unfold toRadians
    ring
  have hhav := (Sphere.sin_half_arc_le_of_near (by positivity) hcos0 hx hlat' hlon').trans
    (half_cell_le hx0 hx1)
  obtain ⟨ht0, ht⟩ := halfDiagonalM_angle_mem hx0 hx1
  have harc := Sphere.arc_le_of_sin_half_le ht0 ht.le hhav
  rw [haversineDistanceMeters_eq_arc]
  calc earthRadiusM * Sphere.arc (toRadians p.lat) (toRadians p.lon) (toRadians lat) (toRadians lon)
      ≤ earthRadiusM * (2 * (halfDiagonalM x / (2 * earthRadiusM))) := by
        gcongr
        norm_num [earthRadiusM]
    _ = halfDiagonalM x := by
        unfold earthRadiusM
        ring

-- ============================================================================
-- `shard_prefixes_for_radius`
-- ============================================================================

section Prefixes

variable {D : Type} {geo : GeohashGrid ℝ} {name : ℤ → ℤ → String} {fmt : F64Display}
variable {center : Location ℝ} {radiusMeters : ℝ}

-- ============================================================================
-- Requests that are answered
-- ============================================================================

theorem pruneCells_ok {reach : ℝ} {cells : List String}
    (hdec : ∀ hash ∈ cells, ∃ cell, geo.decode hash = .ok cell) :
    ∃ kept, pruneCells (D := D) geo center reach cells = .ok kept := by
  induction cells with
  | nil => exact ⟨[], rfl⟩
  | cons head rest ih =>
    obtain ⟨cell, hcell⟩ := hdec head List.mem_cons_self
    obtain ⟨kept, hkept⟩ := ih fun hash hmem => hdec hash (List.mem_cons_of_mem _ hmem)
    unfold pruneCells
    rw [hcell, hkept]
    exact ⟨_, rfl⟩

/-- The hashes of the grid's cells. -/
def cellNames : Set String := {hash | ∃ c r, InGrid c r ∧ hash = cellName c r}

theorem cellAt_mem_cellNames (c r dc dr : ℤ) : cellAt c r dc dr ∈ cellNames :=
  ⟨_, _, ⟨by omega, by omega⟩, rfl⟩

theorem candidates_geohash {hash : String} (h : hash ∈ cellNames) :
    ∃ around, candidates (D := D) geohash hash = .ok around ∧ ∀ b ∈ around, b ∈ cellNames := by
  obtain ⟨c, r, hin, rfl⟩ := h
  unfold candidates
  rw [geohash_neighbors_eq hin]
  refine ⟨_, rfl, ?_⟩
  intro b hb
  simp only [List.mem_cons, List.not_mem_nil, or_false] at hb
  rcases hb with rfl | rfl | rfl | rfl | rfl | rfl | rfl | rfl <;>
    exact cellAt_mem_cellNames _ _ _ _

theorem search_geohash (rings : Nat) {start : String} (h : start ∈ cellNames) :
    ∃ visited, RingSearch.search (candidates (D := D) geohash) rings [start] [start] =
      .ok visited ∧ ∀ hash ∈ visited, hash ∈ cellNames := by
  have hstart : ∀ a ∈ [start], a ∈ cellNames := by
    intro a ha
    rw [List.mem_singleton.mp ha]
    exact h
  refine RingSearch.search_ok ?_ ?_ rings hstart hstart
  · intro a ha
    obtain ⟨around, hok, -⟩ := candidates_geohash (D := D) ha
    exact ⟨around, hok⟩
  · rintro a ha b ⟨around, hok, hb⟩
    obtain ⟨around', hok', hsub⟩ := candidates_geohash (D := D) ha
    cases hok.symm.trans hok'
    exact hsub b hb

/-- A valid radius that needs few rings is answered. -/
theorem shardPrefixesForRadius_geohash_ok (hlat : center.lat < 90)
    (hrad : 0 < radiusMeters ∧ radiusMeters ≤ 500000)
    (hrings : ringsNeeded center.lat radiusMeters (2 * (180 / 1024)) (2 * (90 / 1024)) ≤
      maxRingExpansion) :
    ∃ prefixes, shardPrefixesForRadius (D := D) geohash fmt center radiusMeters = .ok prefixes := by
  have hin := inGrid_of_location hlat
  obtain ⟨visited, hsearch, hvisited⟩ := search_geohash (D := D)
    (ringsNeeded center.lat radiusMeters (2 * (180 / 1024)) (2 * (90 / 1024))) ⟨_, _, hin, rfl⟩
  have hdec : ∀ hash ∈ visited, ∃ cell, geohash.decode hash = .ok cell := by
    intro hash hmem
    obtain ⟨c, r, hcell, rfl⟩ := hvisited hash hmem
    exact ⟨_, geohash_decode_eq hcell⟩
  have hvalid : ¬(radiusMeters ≤ 0 ∨ radiusMeters > 500000) := by
    rw [not_or, not_le, not_lt]
    exact hrad
  rw [shardPrefixesForRadius_eq (standardGrid_geohash.encode_eq center hlat)
    (geohash_decode_eq hin), if_neg hvalid]
  dsimp only
  rw [if_neg (not_lt.mpr hrings), hsearch]
  exact pruneCells_ok hdec

-- ============================================================================
-- Coverage
-- ============================================================================

/-- The cell of a point of the circle is found by the ring expansion. -/
theorem StandardGrid.cell_mem_search (grid : StandardGrid geo name) {p : Location ℝ}
    (hlat : |center.lat| < 90) (hrad : 0 < radiusMeters ∧ radiusMeters ≤ 500000)
    (hrings : ringsNeeded center.lat radiusMeters (2 * (180 / 1024)) (2 * (90 / 1024)) ≤
      maxRingExpansion) {visited : List String}
    (hsearch : RingSearch.search (candidates (D := D) geo)
      (ringsNeeded center.lat radiusMeters (2 * (180 / 1024)) (2 * (90 / 1024)))
      [name (column center.lon) (row center.lat)]
      [name (column center.lon) (row center.lat)] = .ok visited)
    (hp : distanceMeters center p ≤ radiusMeters) :
    name (column p.lon) (row p.lat) ∈ visited := by
  have hratio := lonRatio_lt_one hrings
  have hplat := lat_lt_ninety hlat hrad hratio hp
  obtain ⟨turns, hlon⟩ := exists_abs_lon_sub_le hlat hrad hratio hp
  obtain ⟨d, hcol, hd⟩ := exists_column_eq hlon
  have hrow := abs_row_sub_le (abs_lat_sub_le hp)
  rw [RingSearch.search_visited hsearch, hcol]
  refine grid.mem_iterate_grow (inGrid_of_location (abs_lt.mp hlat).2) hsearch le_rfl ?_ ?_
    (row_range hplat)
  · refine hd.trans ?_
    exact_mod_cast (le_max_right _ _).trans (le_max_left _ _)
  · refine hrow.trans ?_
    exact_mod_cast (le_max_left _ _).trans (le_max_left _ _)

/-- The cell of a point of the circle is among the prefixes. -/
theorem StandardGrid.cell_mem_prefixes (grid : StandardGrid geo name) (hlat : |center.lat| < 90)
    {prefixes : List String}
    (h : shardPrefixesForRadius (D := D) geo fmt center radiusMeters = .ok prefixes)
    {p : Location ℝ} (hp : distanceMeters center p ≤ radiusMeters) :
    p.lat < 90 ∧ name (column p.lon) (row p.lat) ∈ prefixes := by
  have hcenter : center.lat < 90 := (abs_lt.mp hlat).2
  obtain ⟨hrad, centerHash, coord, lonErr, latErr, visited, henc, hdec, hrings, hsearch, hprune⟩ :=
    shardPrefixesForRadius_eq_ok h
  cases (grid.encode_eq center hcenter).symm.trans henc
  cases (grid.decode_eq _ _ (inGrid_of_location hcenter)).symm.trans hdec
  have hplat := lat_lt_ninety hlat hrad (lonRatio_lt_one hrings) hp
  refine ⟨hplat, ?_⟩
  rw [mem_pruneCells_iff hprune]
  refine ⟨grid.cell_mem_search hlat hrad hrings hsearch hp, _, _, _,
    grid.decode_eq _ _ (inGrid_of_location hplat), ?_⟩
  -- from the centre to the point, and from the point to the centre of its cell
  have hx := cos_lat_le_cos_nearestEquatorLat hp
  have hx0 := (cos_toRadians_lat_nonneg p).trans hx
  have hclose := distance_cell_center_le hx (cos_le_one _)
  have hbuffer := halfDiagonalM_le_diagonalBufferM hx0
  have htriangle := haversineDistanceMeters_triangle center.lat center.lon p.lat p.lon
    (((row p.lat : ℝ) + 1 / 2) * (180 / 1024) - 90)
    (((column p.lon : ℝ) + 1 / 2) * (360 / 1024) - 180)
  rw [distanceMeters] at hp
  unfold reachM
  linarith

/-- The shard of a point is its cell. -/
theorem StandardGrid.encodeLocation_eq (grid : StandardGrid geo name) {p : Location ℝ}
    (hplat : p.lat < 90) :
    ∃ hash, encodeLocation (D := D) geo.toGeohashCrate p = .ok hash ∧
      shardPrefixOf hash = name (column p.lon) (row p.lat) := by
  obtain ⟨hash, hseven, hfour⟩ := grid.encode_take p
  rw [grid.encode_eq p hplat] at hfour
  refine ⟨hash, ?_, (Except.ok.inj hfour).symm⟩
  rw [encodeLocation, hseven]
  rfl

/-- Every point of an alert circle is in a shard that the alert is published to. -/
theorem shardPrefixesForRadius_covers (grid : StandardGrid geo name) (hlat : |center.lat| < 90)
    {prefixes : List String}
    (h : shardPrefixesForRadius (D := D) geo fmt center radiusMeters = .ok prefixes)
    (p : Location ℝ) (hp : distanceMeters center p ≤ radiusMeters) :
    ∃ hash, encodeLocation (D := D) geo.toGeohashCrate p = .ok hash ∧
      shardPrefixOf hash ∈ prefixes := by
  obtain ⟨hplat, hmem⟩ := grid.cell_mem_prefixes hlat h hp
  obtain ⟨hash, hencode, hcell⟩ := grid.encodeLocation_eq (D := D) hplat
  exact ⟨hash, hencode, hcell ▸ hmem⟩

/-- A centre on the antimeridian. -/
noncomputable def eastEdge : Location ℝ := ⟨0, (180 : ℕ), by norm_num, by norm_num⟩

/-- The same point, from the other side. -/
noncomputable def westEdge : Location ℝ := ⟨0, -(180 : ℕ), by norm_num, by norm_num⟩

theorem ringsNeeded_eastEdge :
    ringsNeeded eastEdge.lat 5000 (2 * (180 / 1024)) (2 * (90 / 1024)) ≤ maxRingExpansion := by
  have hang : angularRadius 5000 = 5 / 6371 := by norm_num [angularRadius, earthRadiusM]
  have hdeg : toDegrees (5 / 6371) ≤ 90 / 1024 := by
    unfold toDegrees
    rw [mul_div_assoc', div_le_div_iff₀ pi_pos (by norm_num)]
    linarith [pi_gt_three]
  have hlat : ⌊latExtentDeg 5000 / (2 * (90 / 1024))⌋₊ ≤ 1 := by
    refine Nat.floor_le_one_of_le_one ?_
    rw [latExtentDeg, hang, div_le_one (by norm_num)]
    linarith
  have hlon : ⌊lonExtentDeg eastEdge.lat 5000 / (2 * (180 / 1024))⌋₊ ≤ 1 := by
    have hratio : sin (angularRadius 5000) / cos (toRadians eastEdge.lat) = sin (5 / 6371) := by
      have hzero : toRadians eastEdge.lat = 0 := zero_mul _
      rw [hang, hzero, cos_zero, div_one]
    have hsmall : sin (5 / 6371) < 1 := (sin_lt (by norm_num)).trans (by norm_num)
    have hext : lonExtentDeg eastEdge.lat 5000 = toDegrees (5 / 6371) := by
      unfold lonExtentDeg
      rw [hratio, if_neg (not_le.mpr hsmall), arcsin_sin]
      · linarith [pi_pos]
      · linarith [pi_gt_three]
    refine Nat.floor_le_one_of_le_one ?_
    rw [hext, div_le_one (by norm_num)]
    linarith
  unfold ringsNeeded maxRingExpansion
  omega

theorem distanceMeters_eastEdge_westEdge : distanceMeters eastEdge westEdge ≤ 5000 := by
  have hturn : toRadians (-180 - 180) / 2 = -π := by
    unfold toRadians
    ring
  have hzero : toRadians 0 = 0 := zero_mul _
  simp [distanceMeters, haversineDistanceMeters, eastEdge, westEdge, hturn, hzero]

theorem shardPrefixesForRadius_covers_antimeridian :
    ∃ prefixes,
      shardPrefixesForRadius (D := Nat) geohash ⟨fun _ => "5000", fun _ => "0.00"⟩ eastEdge 5000 =
        .ok prefixes ∧
      ∃ hash, encodeLocation (D := Nat) geohash.toGeohashCrate westEdge = .ok hash ∧
        shardPrefixOf hash ∈ prefixes := by
  have hlat : |eastEdge.lat| < 90 := by norm_num [eastEdge]
  obtain ⟨prefixes, h⟩ :=
    shardPrefixesForRadius_geohash_ok (abs_lt.mp hlat).2 (by norm_num) ringsNeeded_eastEdge
  exact ⟨prefixes, h, shardPrefixesForRadius_covers standardGrid_geohash hlat h westEdge
    distanceMeters_eastEdge_westEdge⟩

end Prefixes

end PulseGrid
