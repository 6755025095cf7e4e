/-
  PulseGrid.Domain.CircleQuery

  The SQL predicate "device lies inside the circle" (crates/infra/src/db.rs) and the
  worker's own test (`Alert::contains` in crates/domain/src/alert.rs).

  They agree (`inCircleSql_iff_contains`): the rectangles the predicate tests first never
  leave out a point of the circle.  Double precision is read as exact.
-/

import PulseGrid.Domain.RoutingCoverage

namespace PulseGrid

open Real

/-- What `contains` uses of an alert. -/
structure Alert where
  center : Location ℝ
  radiusMeters : ℝ

/-- Whether a point lies inside the alert circle. -/
def Alert.contains (alert : Alert) (point : Location ℝ) : Prop :=
  distanceMeters alert.center point ≤ alert.radiusMeters

/-- The bound parameters of `in_circle_sql!`. -/
structure CircleParams where
  lat : ℝ
  lon : ℝ
  minLat : ℝ
  maxLat : ℝ
  lon1 : ℝ × ℝ
  lon2 : ℝ × ℝ
  radius : ℝ

/-- `none` would be the panic of indexing an empty list of boxes. -/
noncomputable def CircleParams.new {D : Type} (center : Location ℝ) (radiusMeters : ℝ) :
    Except (AppError D ℝ) (Option CircleParams) := do
  let boxes ← boundingBoxes center radiusMeters
  return boxes[0]?.map fun first =>
    { lat := center.lat, lon := center.lon
      minLat := first.minLat, maxLat := first.maxLat
      lon1 := (first.minLon, first.maxLon)
      -- an empty range for "no second box"
      lon2 := (boxes[1]?.map fun b => (b.minLon, b.maxLon)).getD (1, 0)
      radius := radiusMeters }

/-- SQL's `x BETWEEN a AND b`. -/
def between (x a b : ℝ) : Prop := a ≤ x ∧ x ≤ b

/-- `in_circle_sql!` for a device at `(lat, lon)`. -/
def CircleParams.inCircleSql (p : CircleParams) (lat lon : ℝ) : Prop :=
  between lat p.minLat p.maxLat ∧
    (between lon p.lon1.1 p.lon1.2 ∨ between lon p.lon2.1 p.lon2.2) ∧
    (2 : ℕ) * (6371000 : ℕ) * arcsin (min 1 (sqrt
      (sin (toRadians (lat - p.lat) / (2 : ℕ)) ^ 2 +
        cos (toRadians p.lat) * cos (toRadians lat) *
          sin (toRadians (lon - p.lon) / (2 : ℕ)) ^ 2))) ≤ p.radius

-- ============================================================================
-- The distance test
-- ============================================================================

/-- The SQL distance is the haversine distance: the argument of the arc sine never
    exceeds 1. -/
theorem sqlDistance_eq (lat₁ lon₁ lat₂ lon₂ : ℝ) :
    (2 : ℕ) * (6371000 : ℕ) * arcsin (min 1 (sqrt
      (sin (toRadians (lat₂ - lat₁) / (2 : ℕ)) ^ 2 +
        cos (toRadians lat₁) * cos (toRadians lat₂) *
          sin (toRadians (lon₂ - lon₁) / (2 : ℕ)) ^ 2))) =
      haversineDistanceMeters lat₁ lon₁ lat₂ lon₂ := by
  have hsq := Sphere.sin_half_arc_sq (toRadians lat₁) (toRadians lon₁) (toRadians lat₂)
    (toRadians lon₂)
  rw [← toRadians_sub, ← toRadians_sub] at hsq
  have hle : sqrt (sin (toRadians (lat₂ - lat₁) / 2) ^ 2 +
      cos (toRadians lat₁) * cos (toRadians lat₂) * sin (toRadians (lon₂ - lon₁) / 2) ^ 2) ≤ 1 := by
    rw [← hsq]
    exact sqrt_le_one.mpr (sin_sq_le_one _)
  simp only [Nat.cast_ofNat, haversineDistanceMeters, earthRadiusM]
  rw [min_eq_right hle]
  ring

-- ============================================================================
-- The rectangles
-- ============================================================================

section Boxes

variable {D : Type} {center : Location ℝ} {radiusMeters : ℝ}

/-- A first rectangle and perhaps a second of the same latitudes. -/
structure Covers (center : Location ℝ) (radiusMeters : ℝ) (first : BoundingBox)
    (second : Option BoundingBox) : Prop where
  lat : ∀ p : Location ℝ, distanceMeters center p ≤ radiusMeters →
    between p.lat first.minLat first.maxLat
  lon : ∀ p : Location ℝ, distanceMeters center p ≤ radiusMeters →
    between p.lon first.minLon first.maxLon ∨ ∃ b ∈ second, between p.lon b.minLon b.maxLon

theorem latExtentDeg_nonneg (h0 : 0 < radiusMeters) : 0 ≤ latExtentDeg radiusMeters := by
  unfold latExtentDeg toDegrees angularRadius earthRadiusM
  positivity

/-- The latitudes of a circle, with the source's 0.1 %. -/
theorem lat_between (h0 : 0 < radiusMeters) {p : Location ℝ}
    (h : distanceMeters center p ≤ radiusMeters) :
    between p.lat (center.lat - latExtentDeg radiusMeters * 1.001)
      (center.lat + latExtentDeg radiusMeters * 1.001) := by
  have hext := latExtentDeg_nonneg h0
  have hlat := abs_le.mp (abs_lat_sub_le h)
  constructor <;> linarith

/-- All longitudes, for a circle next to a pole. -/
theorem covers_fullLon (h0 : 0 < radiusMeters) :
    Covers center radiusMeters
      { minLat := max (center.lat - latExtentDeg radiusMeters * 1.001) (-90)
        maxLat := min (center.lat + latExtentDeg radiusMeters * 1.001) 90
        minLon := -180, maxLon := 180 } none where
  lat p h := by
    obtain ⟨hlow, hhigh⟩ := lat_between h0 h
    exact ⟨max_le hlow p.lat_mem.1, le_min hhigh p.lat_mem.2⟩
  lon p _ := Or.inl p.lon_mem

section Ranges

variable {dlon : ℝ} (hdlon : dlon < 180)
  (hlon : ∀ p : Location ℝ, distanceMeters center p ≤ radiusMeters →
    ∃ turns : ℤ, |p.lon - center.lon - turns * 360| < dlon)

include hdlon hlon

/-- A longitude of the circle is in the range around the centre's, or one turn
    further. -/
theorem lon_cases {p : Location ℝ} (h : distanceMeters center p ≤ radiusMeters) :
    (center.lon - dlon < p.lon ∧ p.lon < center.lon + dlon) ∨
      (center.lon - dlon + 360 < p.lon) ∨ p.lon < center.lon + dlon - 360 := by
  obtain ⟨turns, hturns⟩ := hlon p h
  obtain ⟨hlow, hhigh⟩ := abs_lt.mp hturns
  have hp := p.lon_mem
  have hc := center.lon_mem
  have hle : turns ≤ 1 := by
    have : (turns : ℝ) < 2 := by linarith
    have : turns < 2 := by exact_mod_cast this
    omega
  have hge : -1 ≤ turns := by
    have : (-2 : ℝ) < turns := by linarith
    have : -2 < turns := by exact_mod_cast this
    omega
  obtain rfl | rfl | rfl : turns = -1 ∨ turns = 0 ∨ turns = 1 := by omega
  · right
    right
    push_cast at hhigh
    linarith
  · left
    push_cast at hlow hhigh
    constructor <;> linarith
  · right
    left
    push_cast at hlow
    linarith

variable (h0 : 0 < radiusMeters)

include h0

/-- The circle reaches over longitude -180. -/
theorem covers_west (hlo : center.lon - dlon < -180) :
    Covers center radiusMeters
      { minLat := center.lat - latExtentDeg radiusMeters * 1.001
        maxLat := center.lat + latExtentDeg radiusMeters * 1.001
        minLon := center.lon - dlon + 360, maxLon := 180 }
      (some
        { minLat := center.lat - latExtentDeg radiusMeters * 1.001
          maxLat := center.lat + latExtentDeg radiusMeters * 1.001
          minLon := -180, maxLon := center.lon + dlon }) where
  lat p h := lat_between h0 h
  lon p h := by
    have hp := p.lon_mem
    have hc := center.lon_mem
    rcases lon_cases hdlon hlon h with ⟨-, hhigh⟩ | hwest | heast
    · exact Or.inr ⟨_, rfl, hp.1, hhigh.le⟩
    · exact Or.inl ⟨hwest.le, hp.2⟩
    · exact Or.inr ⟨_, rfl, hp.1, by linarith⟩

/-- The circle reaches over longitude 180. -/
theorem covers_east (hlo : -180 ≤ center.lon - dlon) :
    Covers center radiusMeters
      { minLat := center.lat - latExtentDeg radiusMeters * 1.001
        maxLat := center.lat + latExtentDeg radiusMeters * 1.001
        minLon := center.lon - dlon, maxLon := 180 }
      (some
        { minLat := center.lat - latExtentDeg radiusMeters * 1.001
          maxLat := center.lat + latExtentDeg radiusMeters * 1.001
          minLon := -180, maxLon := center.lon + dlon - 360 }) where
  lat p h := lat_between h0 h
  lon p h := by
    have hp := p.lon_mem
    rcases lon_cases hdlon hlon h with ⟨hlow, -⟩ | hwest | heast
    · exact Or.inl ⟨hlow.le, hp.2⟩
    · linarith
    · exact Or.inr ⟨_, rfl, hp.1, heast.le⟩

/-- The circle stays between the antimeridians. -/
theorem covers_middle (hlo : -180 ≤ center.lon - dlon) (hhi : center.lon + dlon ≤ 180) :
    Covers center radiusMeters
      { minLat := center.lat - latExtentDeg radiusMeters * 1.001
        maxLat := center.lat + latExtentDeg radiusMeters * 1.001
        minLon := center.lon - dlon, maxLon := center.lon + dlon } none where
  lat p h := lat_between h0 h
  lon p h := by
    have hp := p.lon_mem
    rcases lon_cases hdlon hlon h with ⟨hlow, hhigh⟩ | hwest | heast
    · exact Or.inl ⟨hlow.le, hhigh.le⟩
    · linarith
    · linarith

end Ranges

/-- The longitudes of a circle that stays short of the poles, with the source's 0.1 %. -/
theorem exists_abs_lon_sub_lt (hlat : |center.lat| < 90)
    (hrad : 0 < radiusMeters ∧ radiusMeters ≤ 500000)
    (hratio : sin (angularRadius radiusMeters) / cos (toRadians center.lat) < 1)
    (p : Location ℝ) (h : distanceMeters center p ≤ radiusMeters) :
    ∃ turns : ℤ, |p.lon - center.lon - turns * 360| <
      toDegrees (arcsin (sin (angularRadius radiusMeters) / cos (toRadians center.lat))) *
        1.001 := by
  obtain ⟨turns, hturns⟩ := exists_abs_lon_sub_le hlat hrad hratio h
  have hext : lonExtentDeg center.lat radiusMeters =
      toDegrees (arcsin (sin (angularRadius radiusMeters) / cos (toRadians center.lat))) :=
    if_neg (not_le.mpr hratio)
  have hpos : 0 < toDegrees
      (arcsin (sin (angularRadius radiusMeters) / cos (toRadians center.lat))) := by
    obtain ⟨hang0, hang⟩ := angularRadius_mem hrad.1 hrad.2
    have hsin : 0 < sin (angularRadius radiusMeters) :=
      sin_pos_of_pos_of_lt_pi hang0 (by linarith [pi_pos])
    have hcos := cos_toRadians_pos hlat
    have harc := arcsin_pos.mpr (div_pos hsin hcos)
    unfold toDegrees
    positivity
  rw [hext] at hturns
  exact ⟨turns, by linarith⟩

/-- `bounding_boxes` covers the circle. -/
theorem boundingBoxes_covers (hlat : |center.lat| < 90)
    (hrad : 0 < radiusMeters ∧ radiusMeters ≤ 500000) :
    ∃ first second, boundingBoxes (D := D) center radiusMeters =
        .ok (first :: Option.toList second) ∧
      Covers center radiusMeters first second := by
  have hvalid : ¬(radiusMeters ≤ 0 ∨ radiusMeters > 500000) := by
    rw [not_or, not_le, not_lt]
    exact hrad
  unfold boundingBoxes
  rw [if_neg hvalid]
  dsimp only
  split_ifs with hpole hratio hwide hlo hhi
  · exact ⟨_, none, rfl, covers_fullLon hrad.1⟩
  · exact ⟨_, none, rfl, covers_fullLon hrad.1⟩
  · exact ⟨_, none, rfl, covers_fullLon hrad.1⟩
  · have hlon := exists_abs_lon_sub_lt hlat hrad (not_le.mp hratio)
    exact ⟨_, some _, rfl, covers_west (not_le.mp hwide) hlon hrad.1 hlo⟩
  · have hlon := exists_abs_lon_sub_lt hlat hrad (not_le.mp hratio)
    exact ⟨_, some _, rfl, covers_east (not_le.mp hwide) hlon hrad.1 (not_lt.mp hlo)⟩
  · have hlon := exists_abs_lon_sub_lt hlat hrad (not_le.mp hratio)
    exact ⟨_, none, rfl,
      covers_middle (not_le.mp hwide) hlon hrad.1 (not_lt.mp hlo) (not_lt.mp hhi)⟩

/-- With rectangles that cover the circle, the predicate is the distance test. -/
theorem CircleParams.new_of_covers {first : BoundingBox} {second : Option BoundingBox}
    (hboxes : boundingBoxes (D := D) center radiusMeters = .ok (first :: Option.toList second))
    (hcovers : Covers center radiusMeters first second) :
    ∃ params, CircleParams.new (D := D) center radiusMeters = .ok (some params) ∧
      ∀ p : Location ℝ, params.inCircleSql p.lat p.lon ↔
        distanceMeters center p ≤ radiusMeters := by
  unfold CircleParams.new
  rw [hboxes]
  refine ⟨_, rfl, fun p => ?_⟩
  unfold CircleParams.inCircleSql
  dsimp only
  rw [sqlDistance_eq]
  show _ ∧ _ ∧ distanceMeters center p ≤ radiusMeters ↔ _
  constructor
  · rintro ⟨-, -, hdist⟩
    exact hdist
  · intro hdist
    refine ⟨hcovers.lat p hdist, ?_, hdist⟩
    rcases hcovers.lon p hdist with hfirst | ⟨b, hb, hsecond⟩
    · exact Or.inl hfirst
    · right
      cases hb
      exact hsecond

end Boxes

/-- **The SQL predicate and the worker's test agree**, for every centre off the poles,
    every valid radius and every device. -/
theorem inCircleSql_iff_contains {D : Type} {center : Location ℝ} {radiusMeters : ℝ}
    (hlat : |center.lat| < 90) (hrad : 0 < radiusMeters ∧ radiusMeters ≤ 500000) :
    ∃ params, CircleParams.new (D := D) center radiusMeters = .ok (some params) ∧
      ∀ p : Location ℝ, params.inCircleSql p.lat p.lon ↔
        Alert.contains { center, radiusMeters } p := by
  obtain ⟨first, second, hboxes, hcovers⟩ := boundingBoxes_covers (D := D) hlat hrad
  exact CircleParams.new_of_covers hboxes hcovers

/-- A device on the other side of the antimeridian is found. -/
theorem inCircleSql_eastEdge_westEdge :
    ∃ params, CircleParams.new (D := Nat) eastEdge 5000 = .ok (some params) ∧
      params.inCircleSql westEdge.lat westEdge.lon := by
  have hlat : |eastEdge.lat| < 90 := by norm_num [eastEdge]
  obtain ⟨params, hparams, hiff⟩ := inCircleSql_iff_contains (D := Nat) hlat
    (by norm_num : (0 : ℝ) < 5000 ∧ (5000 : ℝ) ≤ 500000)
  exact ⟨params, hparams, (hiff westEdge).mpr distanceMeters_eastEdge_westEdge⟩

end PulseGrid
