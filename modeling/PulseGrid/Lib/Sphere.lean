/-
  PulseGrid.Lib.Sphere

  Arcs on the unit sphere.

  A point is a latitude and a longitude, in radians.  The arc between two points is
  the angle between their unit vectors, so it obeys the triangle inequality; the
  haversine formula computes it (`arc_eq_haversine`).  The rest bounds it: an arc is at
  least the difference in latitude, a difference in longitude is bounded by the arc
  (`lon_le_of_arc_le`, for arcs that do not reach a pole), and two points near each
  other have a short arc (`sin_half_arc_le_of_near`, `arc_le_of_sin_half_le`).
-/

import Mathlib

namespace Sphere

open Real

/-- The unit vector of a point. -/
noncomputable def unitVec (lat lon : ℝ) : EuclideanSpace ℝ (Fin 3) :=
  (EuclideanSpace.equiv (Fin 3) ℝ).symm ![cos lat * cos lon, cos lat * sin lon, sin lat]

/-- The arc between two points. -/
noncomputable def arc (lat₁ lon₁ lat₂ lon₂ : ℝ) : ℝ :=
  InnerProductGeometry.angle (unitVec lat₁ lon₁) (unitVec lat₂ lon₂)

theorem arc_nonneg (lat₁ lon₁ lat₂ lon₂ : ℝ) : 0 ≤ arc lat₁ lon₁ lat₂ lon₂ :=
  InnerProductGeometry.angle_nonneg _ _

theorem arc_le_pi (lat₁ lon₁ lat₂ lon₂ : ℝ) : arc lat₁ lon₁ lat₂ lon₂ ≤ π :=
  InnerProductGeometry.angle_le_pi _ _

theorem arc_triangle (lat₁ lon₁ lat₂ lon₂ lat₃ lon₃ : ℝ) :
    arc lat₁ lon₁ lat₃ lon₃ ≤ arc lat₁ lon₁ lat₂ lon₂ + arc lat₂ lon₂ lat₃ lon₃ :=
  InnerProductGeometry.angle_le_angle_add_angle _ _ _

-- ============================================================================
-- The haversine formula
-- ============================================================================

theorem inner_unitVec (lat₁ lon₁ lat₂ lon₂ : ℝ) :
    inner ℝ (unitVec lat₁ lon₁) (unitVec lat₂ lon₂) =
      sin lat₁ * sin lat₂ + cos lat₁ * cos lat₂ * cos (lon₂ - lon₁) := by
  simp only [unitVec, PiLp.inner_apply, Fin.sum_univ_three, RCLike.inner_apply, conj_trivial,
    cos_sub]
  simp
  ring

theorem norm_unitVec (lat lon : ℝ) : ‖unitVec lat lon‖ = 1 := by
  have hsq : ‖unitVec lat lon‖ ^ 2 = 1 := by
    rw [← real_inner_self_eq_norm_sq, inner_unitVec, sub_self, cos_zero]
    nlinarith [sin_sq_add_cos_sq lat]
  have hnonneg := norm_nonneg (unitVec lat lon)
  nlinarith

theorem cos_arc (lat₁ lon₁ lat₂ lon₂ : ℝ) :
    cos (arc lat₁ lon₁ lat₂ lon₂) =
      sin lat₁ * sin lat₂ + cos lat₁ * cos lat₂ * cos (lon₂ - lon₁) := by
  rw [arc, InnerProductGeometry.cos_angle, norm_unitVec, norm_unitVec, one_mul, div_one,
    inner_unitVec]

theorem two_mul_sin_half_sq (x : ℝ) : 2 * sin (x / 2) ^ 2 = 1 - cos x := by
  have h := cos_sq (x / 2)
  have h' := sin_sq_add_cos_sq (x / 2)
  rw [mul_div_cancel₀ x two_ne_zero] at h
  linarith

/-- The haversine of an arc. -/
theorem sin_half_arc_sq (lat₁ lon₁ lat₂ lon₂ : ℝ) :
    sin (arc lat₁ lon₁ lat₂ lon₂ / 2) ^ 2 =
      sin ((lat₂ - lat₁) / 2) ^ 2 + cos lat₁ * cos lat₂ * sin ((lon₂ - lon₁) / 2) ^ 2 := by
  have harc := two_mul_sin_half_sq (arc lat₁ lon₁ lat₂ lon₂)
  have hlat := two_mul_sin_half_sq (lat₂ - lat₁)
  have hlon := two_mul_sin_half_sq (lon₂ - lon₁)
  rw [cos_arc] at harc
  rw [cos_sub lat₂ lat₁] at hlat
  linear_combination (harc - hlat - cos lat₁ * cos lat₂ * hlon) / 2

theorem sin_half_arc_nonneg (lat₁ lon₁ lat₂ lon₂ : ℝ) :
    0 ≤ sin (arc lat₁ lon₁ lat₂ lon₂ / 2) := by
  have h0 := arc_nonneg lat₁ lon₁ lat₂ lon₂
  have hpi := arc_le_pi lat₁ lon₁ lat₂ lon₂
  exact sin_nonneg_of_nonneg_of_le_pi (by linarith) (by linarith)

theorem arc_eq_haversine (lat₁ lon₁ lat₂ lon₂ : ℝ) :
    arc lat₁ lon₁ lat₂ lon₂ =
      2 * arcsin (sqrt (sin ((lat₂ - lat₁) / 2) ^ 2 +
        cos lat₁ * cos lat₂ * sin ((lon₂ - lon₁) / 2) ^ 2)) := by
  have h0 := arc_nonneg lat₁ lon₁ lat₂ lon₂
  have hpi := arc_le_pi lat₁ lon₁ lat₂ lon₂
  rw [← sin_half_arc_sq, sqrt_sq (sin_half_arc_nonneg _ _ _ _), arcsin_sin]
  · ring
  · linarith
  · linarith

-- ============================================================================
-- Bounds
-- ============================================================================

/-- An arc is at least the difference in latitude. -/
theorem abs_lat_sub_le_arc {lat₁ lon₁ lat₂ lon₂ : ℝ} (h₁ : |lat₁| ≤ π / 2) (h₂ : |lat₂| ≤ π / 2) :
    |lat₂ - lat₁| ≤ arc lat₁ lon₁ lat₂ lon₂ := by
  have h0 := arc_nonneg lat₁ lon₁ lat₂ lon₂
  have hpi := arc_le_pi lat₁ lon₁ lat₂ lon₂
  rw [abs_le] at h₁ h₂
  have hcos₁ : 0 ≤ cos lat₁ := cos_nonneg_of_mem_Icc ⟨by linarith, by linarith⟩
  have hcos₂ : 0 ≤ cos lat₂ := cos_nonneg_of_mem_Icc ⟨by linarith, by linarith⟩
  have hsq : sin (|lat₂ - lat₁| / 2) ^ 2 ≤ sin (arc lat₁ lon₁ lat₂ lon₂ / 2) ^ 2 := by
    have habs : sin (|lat₂ - lat₁| / 2) ^ 2 = sin ((lat₂ - lat₁) / 2) ^ 2 := by
      rcases abs_cases (lat₂ - lat₁) with ⟨h, -⟩ | ⟨h, -⟩
      · rw [h]
      · rw [h, neg_div, sin_neg, neg_sq]
    rw [habs, sin_half_arc_sq]
    have := mul_nonneg (mul_nonneg hcos₁ hcos₂) (sq_nonneg (sin ((lon₂ - lon₁) / 2)))
    linarith
  have hhalf : |lat₂ - lat₁| / 2 ≤ π / 2 := by
    have : |lat₂ - lat₁| ≤ π := abs_le.mpr ⟨by linarith, by linarith⟩
    linarith
  have hsin : sin (|lat₂ - lat₁| / 2) ≤ sin (arc lat₁ lon₁ lat₂ lon₂ / 2) :=
    (abs_le_of_sq_le_sq' hsq (sin_half_arc_nonneg _ _ _ _)).2
  have hle := (strictMonoOn_sin.le_iff_le ⟨by linarith [abs_nonneg (lat₂ - lat₁)], hhalf⟩
    ⟨by linarith, by linarith⟩).mp hsin
  linarith

/-- Two points whose haversine is that of `t` or less are at most `2 * t` apart. -/
theorem arc_le_of_sin_half_le {lat₁ lon₁ lat₂ lon₂ t : ℝ} (ht0 : 0 ≤ t) (ht : t ≤ π / 2)
    (h : sin (arc lat₁ lon₁ lat₂ lon₂ / 2) ^ 2 ≤ sin t ^ 2) :
    arc lat₁ lon₁ lat₂ lon₂ ≤ 2 * t := by
  have h0 := arc_nonneg lat₁ lon₁ lat₂ lon₂
  have hpi := arc_le_pi lat₁ lon₁ lat₂ lon₂
  have hsin : 0 ≤ sin t := sin_nonneg_of_nonneg_of_le_pi ht0 (by linarith [pi_pos])
  have hle := (abs_le_of_sq_le_sq' h hsin).2
  have hhalf := (strictMonoOn_sin.le_iff_le ⟨by linarith, by linarith⟩
    ⟨by linarith, ht⟩).mp hle
  linarith

/-- Whole turns in longitude do not matter. -/
theorem sin_half_sub_turns_sq (x : ℝ) (turns : ℤ) :
    sin ((x - turns * (2 * π)) / 2) ^ 2 = sin (x / 2) ^ 2 := by
  have hperiod : cos (x - turns * (2 * π)) = cos x := cos_sub_int_mul_two_pi x turns
  have h₁ := two_mul_sin_half_sq (x - turns * (2 * π))
  have h₂ := two_mul_sin_half_sq x
  linarith

/-- The haversine of two points at most `a` apart in latitude and `2 * a` in longitude,
    the first of them at a latitude whose cosine is at most `x`. -/
theorem sin_half_arc_le_of_near {lat₁ lon₁ lat₂ lon₂ a x : ℝ} {turns : ℤ} (ha : 0 ≤ a)
    (hcos0 : 0 ≤ cos lat₁) (hcos : cos lat₁ ≤ x) (hlat : |lat₂ - lat₁| ≤ a)
    (hlon : |lon₂ - lon₁ - turns * (2 * π)| ≤ 2 * a) :
    sin (arc lat₁ lon₁ lat₂ lon₂ / 2) ^ 2 ≤ (a / 2) ^ 2 * ((1 + 4 * x ^ 2) * (1 + a)) := by
  have hsin_lat : sin ((lat₂ - lat₁) / 2) ^ 2 ≤ (a / 2) ^ 2 := by
    refine sin_sq_le_sq.trans (sq_le_sq' ?_ ?_) <;> linarith [abs_le.mp hlat]
  have hsin_lon : sin ((lon₂ - lon₁) / 2) ^ 2 ≤ a ^ 2 := by
    rw [← sin_half_sub_turns_sq _ turns]
    refine sin_sq_le_sq.trans (sq_le_sq' ?_ ?_) <;> linarith [abs_le.mp hlon]
  -- the cosine is Lipschitz, so the second latitude's is at most `x + a`
  have hcos₂ : cos lat₂ ≤ x + a := by
    have habs := (abs_le.mp (abs_cos_sub_cos_le lat₂ lat₁)).2
    linarith
  have hx : 0 ≤ x := hcos0.trans hcos
  have hprod : cos lat₁ * cos lat₂ ≤ x * (x + a) :=
    calc cos lat₁ * cos lat₂ ≤ cos lat₁ * (x + a) := by gcongr
      _ ≤ x * (x + a) := by gcongr
  have hprod0 : 0 ≤ x * (x + a) := by positivity
  rw [sin_half_arc_sq]
  calc sin ((lat₂ - lat₁) / 2) ^ 2 + cos lat₁ * cos lat₂ * sin ((lon₂ - lon₁) / 2) ^ 2
      ≤ (a / 2) ^ 2 + x * (x + a) * a ^ 2 := by
        have := mul_le_mul hprod hsin_lon (sq_nonneg _) hprod0
        linarith
    _ = (a / 2) ^ 2 * (1 + 4 * x ^ 2 + 4 * x * a) := by ring
    _ ≤ (a / 2) ^ 2 * ((1 + 4 * x ^ 2) * (1 + a)) := by
        have : 4 * x * a ≤ (1 + 4 * x ^ 2) * a := by nlinarith [sq_nonneg (2 * x - 1)]
        gcongr
        linarith

section Meridians

variable {lat₁ lon₁ lat₂ lon₂ ang : ℝ}

/-- An arc around the first point that stays short of both poles keeps the second
    point off the poles and less than a quarter turn away in longitude. -/
theorem cos_mul_cos_pos_of_arc_le (hlat₁ : 0 < cos lat₁) (h0 : 0 ≤ ang) (hpi : ang < π / 2)
    (hpole : sin ang / cos lat₁ < 1) (h : arc lat₁ lon₁ lat₂ lon₂ ≤ ang) :
    0 < cos lat₁ * cos lat₂ * cos (lon₂ - lon₁) := by
  have hcos : 0 < cos ang := cos_pos_of_mem_Ioo ⟨by linarith [pi_pos], hpi⟩
  have hle : cos ang ≤ cos (arc lat₁ lon₁ lat₂ lon₂) :=
    cos_le_cos_of_nonneg_of_le_pi (arc_nonneg _ _ _ _) (by linarith [pi_pos]) h
  have hsin0 : 0 ≤ sin ang := sin_nonneg_of_nonneg_of_le_pi h0 (by linarith [pi_pos])
  have hsin : sin ang < cos lat₁ := by rwa [div_lt_one hlat₁] at hpole
  have hsq : sin lat₁ ^ 2 < cos ang ^ 2 := by
    nlinarith [sin_sq_add_cos_sq lat₁, sin_sq_add_cos_sq ang]
  rw [cos_arc] at hle
  -- otherwise `cos ang` is at most the product of the two sines
  by_contra hneg
  have hprod : cos ang ≤ sin lat₁ * sin lat₂ := by linarith
  have hprod_sq : cos ang ^ 2 ≤ (sin lat₁ * sin lat₂) ^ 2 := pow_le_pow_left₀ hcos.le hprod 2
  have hone : sin lat₂ ^ 2 ≤ 1 := sin_sq_le_one lat₂
  nlinarith [sq_nonneg (sin lat₁)]

/-- The longitude of a point on an arc around the first point: its difference is at
    most the angle whose sine is `sin ang / cos lat₁`, up to whole turns. -/
theorem lon_le_of_arc_le (hlat₁ : 0 < cos lat₁) (hlat₂ : 0 ≤ cos lat₂) (h0 : 0 ≤ ang)
    (hpi : ang < π / 2) (hpole : sin ang / cos lat₁ < 1) (h : arc lat₁ lon₁ lat₂ lon₂ ≤ ang) :
    ∃ turns : ℤ, |lon₂ - lon₁ - turns * (2 * π)| ≤ arcsin (sin ang / cos lat₁) := by
  have hpos := cos_mul_cos_pos_of_arc_le hlat₁ h0 hpi hpole h
  have hdiff : 0 < cos (lon₂ - lon₁) := pos_of_mul_pos_right hpos (mul_nonneg hlat₁.le hlat₂)
  have hsin0 : 0 ≤ sin ang := sin_nonneg_of_nonneg_of_le_pi h0 (by linarith [pi_pos])
  -- the Cauchy-Schwarz inequality over the second point's latitude
  have hcauchy : cos ang ^ 2 ≤ sin lat₁ ^ 2 + cos lat₁ ^ 2 * cos (lon₂ - lon₁) ^ 2 := by
    have hcos : 0 < cos ang := cos_pos_of_mem_Ioo ⟨by linarith [pi_pos], hpi⟩
    have hle : cos ang ≤ cos (arc lat₁ lon₁ lat₂ lon₂) :=
      cos_le_cos_of_nonneg_of_le_pi (arc_nonneg _ _ _ _) (by linarith [pi_pos]) h
    rw [cos_arc] at hle
    have hle_sq := pow_le_pow_left₀ hcos.le hle 2
    nlinarith [sq_nonneg (sin lat₁ * cos lat₂ - cos lat₁ * cos (lon₂ - lon₁) * sin lat₂),
      sin_sq_add_cos_sq lat₂]
  have hcos_le : cos (arcsin (sin ang / cos lat₁)) ≤ cos (lon₂ - lon₁) := by
    rw [cos_arcsin]
    refine sqrt_le_iff.mpr ⟨hdiff.le, ?_⟩
    have hmul : cos lat₁ ^ 2 * (1 - (sin ang / cos lat₁) ^ 2) ≤
        cos lat₁ ^ 2 * cos (lon₂ - lon₁) ^ 2 := by
      have hratio : cos lat₁ ^ 2 * (sin ang / cos lat₁) ^ 2 = sin ang ^ 2 := by
        rw [← mul_pow, mul_div_cancel₀ _ hlat₁.ne']
      nlinarith [sin_sq_add_cos_sq lat₁, sin_sq_add_cos_sq ang]
    exact le_of_mul_le_mul_left hmul (by positivity)
  have hext0 : 0 ≤ arcsin (sin ang / cos lat₁) := arcsin_nonneg.mpr (by positivity)
  have hext := arcsin_le_pi_div_two (sin ang / cos lat₁)
  refine ⟨round ((lon₂ - lon₁) / (2 * π)), ?_⟩
  have hround := abs_sub_round ((lon₂ - lon₁) / (2 * π))
  have hpi2 : 0 < 2 * π := by linarith [pi_pos]
  generalize round ((lon₂ - lon₁) / (2 * π)) = turns at hround
  have habs : |lon₂ - lon₁ - turns * (2 * π)| ≤ π := by
    have hscale : lon₂ - lon₁ - turns * (2 * π) =
        ((lon₂ - lon₁) / (2 * π) - turns) * (2 * π) := by
      field_simp
    rw [hscale, abs_mul, abs_of_pos hpi2]
    nlinarith
  have hcos_abs : cos |lon₂ - lon₁ - turns * (2 * π)| = cos (lon₂ - lon₁) := by
    rw [cos_abs, cos_sub_int_mul_two_pi]
  rw [← hcos_abs] at hcos_le
  exact (strictAntiOn_cos.le_iff_ge ⟨hext0, by linarith [pi_pos]⟩
    ⟨abs_nonneg _, habs⟩).mp hcos_le

end Meridians

end Sphere
