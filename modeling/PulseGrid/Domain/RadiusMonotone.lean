/-
  PulseGrid.Domain.RadiusMonotone

  A larger alert radius is published to more shards.

  The number of rings and the reach of the prune pass both grow with the radius: the
  extents of a larger circle are larger, and it comes closer to the equator, where cells
  are wider.  Of the `geohash` crate only the sign of a cell's size matters.
-/

import PulseGrid.Domain.RoutingCoverage

namespace PulseGrid

open Real

section Extents

variable {r₁ r₂ : ℝ}

theorem toDegrees_le {x y : ℝ} (h : x ≤ y) : toDegrees x ≤ toDegrees y :=
  mul_le_mul_of_nonneg_right h (by positivity)

theorem angularRadius_le (h : r₁ ≤ r₂) : angularRadius r₁ ≤ angularRadius r₂ :=
  div_le_div_of_nonneg_right h (by norm_num [earthRadiusM])

theorem latExtentDeg_le (h : r₁ ≤ r₂) : latExtentDeg r₁ ≤ latExtentDeg r₂ :=
  toDegrees_le (angularRadius_le h)

/-- No circle is wider than one that reaches a pole. -/
theorem lonExtentDeg_le_360 (lat r : ℝ) : lonExtentDeg lat r ≤ 360 := by
  unfold lonExtentDeg
  dsimp only
  split
  · exact le_rfl
  · have hhalf := toDegrees_le (arcsin_le_pi_div_two
      (sin (angularRadius r) / cos (toRadians lat)))
    have hninety : toDegrees (π / 2) = 90 := by
      unfold toDegrees
      field_simp
      norm_num
    linarith

theorem lonExtentDeg_le {lat : ℝ} (hlat : |lat| < 90) (h0 : 0 < r₁) (h : r₁ ≤ r₂)
    (hmax : r₂ ≤ 500000) : lonExtentDeg lat r₁ ≤ lonExtentDeg lat r₂ := by
  have hcos := cos_toRadians_pos hlat
  have hang₁ := angularRadius_mem h0 (h.trans hmax)
  have hang₂ := angularRadius_mem (h0.trans_le h) hmax
  have hsin : sin (angularRadius r₁) ≤ sin (angularRadius r₂) :=
    sin_le_sin_of_le_of_le_pi_div_two (by linarith) hang₂.2.le (angularRadius_le h)
  have hratio : sin (angularRadius r₁) / cos (toRadians lat) ≤
      sin (angularRadius r₂) / cos (toRadians lat) := by gcongr
  by_cases hpole : sin (angularRadius r₂) / cos (toRadians lat) ≥ 1
  · have hext : lonExtentDeg lat r₂ = 360 := if_pos hpole
    rw [hext]
    exact lonExtentDeg_le_360 lat r₁
  · have hshort : ¬sin (angularRadius r₁) / cos (toRadians lat) ≥ 1 :=
      fun hge => hpole (hge.trans hratio)
    have hext₁ : lonExtentDeg lat r₁ = _ := if_neg hshort
    have hext₂ : lonExtentDeg lat r₂ = _ := if_neg hpole
    rw [hext₁, hext₂]
    exact toDegrees_le (monotone_arcsin hratio)

theorem ringsNeeded_le {lat cellLonDeg cellLatDeg : ℝ} (hlat : |lat| < 90) (h0 : 0 < r₁)
    (h : r₁ ≤ r₂) (hmax : r₂ ≤ 500000) (hlon : 0 < cellLonDeg) (hlatDeg : 0 < cellLatDeg) :
    ringsNeeded lat r₁ cellLonDeg cellLatDeg ≤ ringsNeeded lat r₂ cellLonDeg cellLatDeg := by
  have hrows : ⌊latExtentDeg r₁ / cellLatDeg⌋₊ ≤ ⌊latExtentDeg r₂ / cellLatDeg⌋₊ := by
    have := latExtentDeg_le h
    gcongr
  have hcolumns : ⌊lonExtentDeg lat r₁ / cellLonDeg⌋₊ ≤ ⌊lonExtentDeg lat r₂ / cellLonDeg⌋₊ := by
    have := lonExtentDeg_le hlat h0 h hmax
    gcongr
  unfold ringsNeeded
  omega

/-- A larger circle comes closer to the equator. -/
theorem cos_nearestEquatorLat_le (center : Location ℝ) (h0 : 0 < r₁) (h : r₁ ≤ r₂) :
    cos (toRadians (nearestEquatorLat center.lat r₁)) ≤
      cos (toRadians (nearestEquatorLat center.lat r₂)) := by
  have hnear : nearestEquatorLat center.lat r₂ ≤ nearestEquatorLat center.lat r₁ := by
    have := latExtentDeg_le h
    unfold nearestEquatorLat
    gcongr
  have hnear0 : 0 ≤ nearestEquatorLat center.lat r₂ := le_max_right _ _
  have hninety : nearestEquatorLat center.lat r₁ ≤ 90 := by
    have habs : |center.lat| ≤ 90 := abs_le.mpr center.lat_mem
    have hext : 0 ≤ latExtentDeg r₁ := by
      unfold latExtentDeg toDegrees angularRadius earthRadiusM
      positivity
    exact max_le (by linarith) (by norm_num)
  have hpi : toRadians (nearestEquatorLat center.lat r₁) ≤ π := by
    have := toRadians_le_iff.mpr hninety
    rw [toRadians_ninety] at this
    linarith [pi_pos]
  refine cos_le_cos_of_nonneg_of_le_pi ?_ hpi (toRadians_le_iff.mpr hnear)
  exact mul_nonneg hnear0 (by positivity)

theorem diagonalBufferM_le {w₁ w₂ height : ℝ} (h0 : 0 ≤ w₁) (h : w₁ ≤ w₂) :
    diagonalBufferM w₁ height ≤ diagonalBufferM w₂ height := by
  unfold diagonalBufferM hypot
  dsimp only
  gcongr

theorem reachM_le {center : Location ℝ} {lonErr latErr : ℝ} (hlon : 0 < lonErr) (h0 : 0 < r₁)
    (h : r₁ ≤ r₂) : reachM center r₁ lonErr latErr ≤ reachM center r₂ lonErr latErr := by
  have hcos := cos_nearestEquatorLat_le center h0 h
  have hmeters : 0 < metersPerDegreeLat := by norm_num [metersPerDegreeLat]
  unfold reachM
  refine add_le_add h (diagonalBufferM_le ?_ ?_)
  · exact zero_le_one.trans (le_max_right _ _)
  · gcongr

end Extents

section Prefixes

variable {D : Type} {geo : GeohashGrid ℝ} {fmt : F64Display} {center : Location ℝ} {r₁ r₂ : ℝ}

theorem candidates_error {hash : String} {e : AppError D ℝ}
    (h : candidates geo hash = .error e) : ∃ message, e = .geohashError message := by
  unfold candidates at h
  cases hn : geo.neighbors hash with
  | error message =>
    rw [hn] at h
    cases h
    exact ⟨message, rfl⟩
  | ok n =>
    rw [hn] at h
    cases h

theorem pruneCells_error {reach : ℝ} {cells : List String} {e : AppError D ℝ}
    (h : pruneCells geo center reach cells = .error e) : ∃ message, e = .geohashError message := by
  induction cells with
  | nil => cases h
  | cons head rest ih =>
    unfold pruneCells at h
    cases hhead : geo.decode head with
    | error message =>
      rw [hhead] at h
      cases h
      exact ⟨message, rfl⟩
    | ok cell =>
      rw [hhead] at h
      cases hrest : pruneCells (D := D) geo center reach rest with
      | error e' =>
        rw [hrest] at h
        cases h
        exact ih hrest
      | ok kept =>
        rw [hrest] at h
        cases h

/-- The only validation error is that of a radius that needs too many rings. -/
theorem shardPrefixesForRadius_eq_validation {message : String}
    (h : shardPrefixesForRadius (D := D) geo fmt center r₁ = .error (.validation message)) :
    (0 < r₁ ∧ r₁ ≤ 500000) ∧
      ∃ centerHash coord lonErr latErr,
        geo.encode center.lon center.lat shardPrefixLength = .ok centerHash ∧
        geo.decode centerHash = .ok (coord, lonErr, latErr) ∧
        maxRingExpansion < ringsNeeded center.lat r₁ (2 * lonErr) (2 * latErr) := by
  have hradius : ¬(r₁ ≤ 0 ∨ r₁ > 500000) := by
    intro hbad
    unfold shardPrefixesForRadius at h
    rw [if_pos hbad] at h
    cases h
  refine ⟨by rwa [not_or, not_le, not_lt] at hradius, ?_⟩
  cases henc : geo.encode center.lon center.lat shardPrefixLength with
  | error e =>
    unfold shardPrefixesForRadius at h
    rw [if_neg hradius, henc] at h
    cases h
  | ok centerHash =>
    cases hdec : geo.decode centerHash with
    | error e =>
      unfold shardPrefixesForRadius at h
      rw [if_neg hradius, henc] at h
      simp only [Except.mapError, hdec, bind, Except.bind] at h
      cases h
    | ok cell =>
      obtain ⟨coord, lonErr, latErr⟩ := cell
      rw [shardPrefixesForRadius_eq henc hdec, if_neg hradius] at h
      dsimp only at h
      split at h
      case isTrue hrings => exact ⟨centerHash, coord, lonErr, latErr, rfl, hdec, hrings⟩
      case isFalse =>
        -- neither the search nor the prune pass fails with a validation error
        exfalso
        cases hsearch : RingSearch.search (candidates (D := D) geo)
            (ringsNeeded center.lat r₁ (2 * lonErr) (2 * latErr)) [centerHash]
            [centerHash] with
        | error e =>
          rw [hsearch] at h
          cases h
          obtain ⟨cell, hcell⟩ := RingSearch.search_error hsearch
          obtain ⟨message', hmessage⟩ := candidates_error hcell
          cases hmessage
        | ok visited =>
          rw [hsearch] at h
          obtain ⟨message', hmessage⟩ := pruneCells_error h
          cases hmessage

/-- A larger radius is answered with all prefixes of a smaller one, and is rejected where
    the smaller one already needs too many rings.  `hsize` says that cells have a size. -/
theorem shardPrefixesForRadius_monotone
    (hsize : ∀ hash coord lonErr latErr, geo.decode hash = .ok (coord, lonErr, latErr) →
      0 < lonErr ∧ 0 < latErr)
    (hlat : |center.lat| < 90) (h : r₁ ≤ r₂) :
    (∀ prefixes₁ prefixes₂,
      shardPrefixesForRadius (D := D) geo fmt center r₁ = .ok prefixes₁ →
      shardPrefixesForRadius (D := D) geo fmt center r₂ = .ok prefixes₂ →
      ∀ hash ∈ prefixes₁, hash ∈ prefixes₂) ∧
    ∀ message, shardPrefixesForRadius (D := D) geo fmt center r₁ = .error (.validation message) →
      r₂ ≤ 500000 →
      ∃ rings₂, shardPrefixesForRadius (D := D) geo fmt center r₂ =
        .error (.validation (tooManyRingsMessage fmt r₂ rings₂ center.lat)) := by
  constructor
  · intro prefixes₁ prefixes₂ h₁ h₂ hash hmem
    obtain ⟨hrad₁, centerHash, coord, lonErr, latErr, visited₁, henc, hdec, -, hsearch₁, hprune₁⟩ :=
      shardPrefixesForRadius_eq_ok h₁
    obtain ⟨hrad₂, centerHash', coord₂, lonErr₂, latErr₂, visited₂, henc', hdec', -, hsearch₂,
      hprune₂⟩ :=
      shardPrefixesForRadius_eq_ok h₂
    cases henc.symm.trans henc'
    cases hdec.symm.trans hdec'
    obtain ⟨hlon, hlatErr⟩ := hsize _ _ _ _ hdec
    have hrings := ringsNeeded_le hlat hrad₁.1 h hrad₂.2 (mul_pos two_pos hlon)
      (mul_pos two_pos hlatErr)
    rw [mem_pruneCells_iff hprune₁] at hmem
    obtain ⟨hvisited, coord', lonErr', latErr', hcell, hreach⟩ := hmem
    rw [mem_pruneCells_iff hprune₂]
    refine ⟨?_, coord', lonErr', latErr', hcell, hreach.trans (reachM_le hlon hrad₁.1 h)⟩
    rw [RingSearch.search_visited hsearch₁] at hvisited
    rw [RingSearch.search_visited hsearch₂]
    exact RingSearch.iterate_grow_mono hrings hvisited
  · intro message h₁ hmax
    obtain ⟨hrad₁, centerHash, coord, lonErr, latErr, henc, hdec, hrings⟩ :=
      shardPrefixesForRadius_eq_validation h₁
    obtain ⟨hlon, hlatErr⟩ := hsize _ _ _ _ hdec
    have hle := ringsNeeded_le hlat hrad₁.1 h hmax (mul_pos two_pos hlon)
      (mul_pos two_pos hlatErr)
    have hvalid : ¬(r₂ ≤ 0 ∨ r₂ > 500000) := by
      rw [not_or, not_le, not_lt]
      exact ⟨hrad₁.1.trans_le h, hmax⟩
    refine ⟨ringsNeeded center.lat r₂ (2 * lonErr) (2 * latErr), ?_⟩
    rw [shardPrefixesForRadius_eq henc hdec, if_neg hvalid]
    exact if_pos (hrings.trans_le hle)

/-- The cells of the standard geohash have a size. -/
theorem geohash_decode_size {hash : String} {coord : Coord ℝ} {lonErr latErr : ℝ}
    (h : geohash.decode hash = .ok (coord, lonErr, latErr)) : 0 < lonErr ∧ 0 < latErr := by
  change Geohash.decode hash = _ at h
  unfold Geohash.decode at h
  cases hcell : cellOf hash with
  | error e =>
    rw [hcell] at h
    cases h
  | ok cell =>
    rw [hcell] at h
    cases h
    constructor <;> positivity

theorem shardPrefixesForRadius_monotone_eastEdge :
    ∃ prefixes₁ prefixes₂,
      shardPrefixesForRadius (D := Nat) geohash ⟨fun _ => "4000", fun _ => "0.00"⟩ eastEdge 4000 =
        .ok prefixes₁ ∧
      shardPrefixesForRadius (D := Nat) geohash ⟨fun _ => "4000", fun _ => "0.00"⟩ eastEdge 5000 =
        .ok prefixes₂ ∧
      ∀ hash ∈ prefixes₁, hash ∈ prefixes₂ := by
  have hlat : |eastEdge.lat| < 90 := by norm_num [eastEdge]
  have hle : ringsNeeded eastEdge.lat 4000 (2 * (180 / 1024)) (2 * (90 / 1024)) ≤
      maxRingExpansion :=
    (ringsNeeded_le hlat (by norm_num) (by norm_num) (by norm_num) (by norm_num)
      (by norm_num)).trans ringsNeeded_eastEdge
  obtain ⟨prefixes₁, h₁⟩ :=
    shardPrefixesForRadius_geohash_ok (abs_lt.mp hlat).2 (by norm_num) hle
  obtain ⟨prefixes₂, h₂⟩ :=
    shardPrefixesForRadius_geohash_ok (abs_lt.mp hlat).2 (by norm_num) ringsNeeded_eastEdge
  refine ⟨prefixes₁, prefixes₂, h₁, h₂, ?_⟩
  exact (shardPrefixesForRadius_monotone (fun _ _ _ _ hdec => geohash_decode_size hdec) hlat
    (by norm_num)).1 prefixes₁ prefixes₂ h₁ h₂

end Prefixes

end PulseGrid
