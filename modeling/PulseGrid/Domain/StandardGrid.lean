/-
  PulseGrid.Domain.StandardGrid

  The grid of four-character geohashes, and how far the ring expansion of
  `shard_prefixes_for_radius` gets on it.

  A four-character hash is a cell of a 1024 x 1024 grid over longitude and latitude.
  `mem_iterate_grow` says that `k` rings reach every cell whose row and column are at
  most `k` away, columns counted around the globe.  It is a result about the rows
  between the two cells only: what `neighbors` gives beyond a pole plays no part.
-/

import PulseGrid.Domain.Geo

namespace PulseGrid

open RingSearch

/-- The column of a longitude; 180 is in the column of -180. -/
noncomputable def column (lon : ℝ) : ℤ :=
  ⌊(lon + (180 : ℕ)) * ((1024 : ℕ) / (360 : ℕ))⌋ % 1024

/-- The row of a latitude. -/
noncomputable def row (lat : ℝ) : ℤ :=
  ⌊(lat + (90 : ℕ)) * ((1024 : ℕ) / (180 : ℕ))⌋

theorem column_eq (lon : ℝ) : column lon = ⌊(lon + 180) * (1024 / 360)⌋ % 1024 := by
  simp only [column, Nat.cast_ofNat]

theorem row_eq (lat : ℝ) : row lat = ⌊(lat + 90) * (1024 / 180)⌋ := by
  simp only [row, Nat.cast_ofNat]

/-- A column and a row of the grid. -/
structure InGrid (c r : ℤ) : Prop where
  column_range : 0 ≤ c ∧ c < 1024
  row_range : 0 ≤ r ∧ r < 1024

/-- `n` names the cells around `(c, r)`, wrapping around in longitude. -/
structure Adjacent (name : ℤ → ℤ → String) (c r : ℤ) (n : Neighbors) : Prop where
  e : n.e = name ((c + 1) % 1024) r
  w : n.w = name ((c - 1) % 1024) r
  north : r + 1 < 1024 → n.n = name c (r + 1) ∧ n.ne = name ((c + 1) % 1024) (r + 1) ∧
    n.nw = name ((c - 1) % 1024) (r + 1)
  south : 0 ≤ r - 1 → n.s = name c (r - 1) ∧ n.se = name ((c + 1) % 1024) (r - 1) ∧
    n.sw = name ((c - 1) % 1024) (r - 1)

/-- What is relied on of the `geohash` crate.  `name` gives the hash of a cell.
    Latitude 90 is left open, as are the neighbours beyond a pole. -/
structure StandardGrid (geo : GeohashGrid ℝ) (name : ℤ → ℤ → String) : Prop where
  encode_eq : ∀ p : Location ℝ, p.lat < 90 →
    geo.encode p.lon p.lat shardPrefixLength = .ok (name (column p.lon) (row p.lat))
  decode_eq : ∀ c r, InGrid c r → geo.decode (name c r) =
    .ok (⟨(c + 1 / 2) * (360 / 1024) - 180, (r + 1 / 2) * (180 / 1024) - 90⟩,
      180 / 1024, 90 / 1024)
  adjacent : ∀ c r n, InGrid c r → geo.neighbors (name c r) = .ok n → Adjacent name c r n
  encode_take : ∀ p : Location ℝ, ∃ hash, geo.encode p.lon p.lat geohashPrecision = .ok hash ∧
    geo.encode p.lon p.lat shardPrefixLength = .ok (shardPrefixOf hash)

-- ============================================================================
-- Cells of points
-- ============================================================================

theorem column_range (lon : ℝ) : 0 ≤ column lon ∧ column lon < 1024 :=
  ⟨Int.emod_nonneg _ (by decide), Int.emod_lt_of_pos _ (by decide)⟩

theorem row_range {p : Location ℝ} (hlat : p.lat < 90) : 0 ≤ row p.lat ∧ row p.lat < 1024 := by
  have hlow := p.lat_mem.1
  rw [row_eq, Int.floor_lt]
  refine ⟨Int.floor_nonneg.mpr (by nlinarith), ?_⟩
  push_cast
  linarith

theorem inGrid_of_location {p : Location ℝ} (hlat : p.lat < 90) :
    InGrid (column p.lon) (row p.lat) :=
  ⟨column_range p.lon, row_range hlat⟩

/-- `floor + 1` cells are enough for a distance measured in cells. -/
theorem floor_sub_floor_le {a b q : ℝ} (h : |a - b| ≤ q) : |⌊a⌋ - ⌊b⌋| ≤ (⌊q⌋₊ + 1 : ℕ) := by
  obtain ⟨hlow, hhigh⟩ := abs_le.mp h
  have hq : q < (⌊q⌋₊ : ℝ) + 1 := Nat.lt_floor_add_one q
  have ha := Int.floor_le a
  have ha' := Int.lt_floor_add_one a
  have hb := Int.floor_le b
  have hb' := Int.lt_floor_add_one b
  have hup : ⌊a⌋ - ⌊b⌋ < (⌊q⌋₊ : ℤ) + 2 := by
    have : ((⌊a⌋ - ⌊b⌋ : ℤ) : ℝ) < ((⌊q⌋₊ : ℤ) + 2 : ℤ) := by
      push_cast
      linarith
    exact_mod_cast this
  have hdown : -((⌊q⌋₊ : ℤ) + 2) < ⌊a⌋ - ⌊b⌋ := by
    have : ((-((⌊q⌋₊ : ℤ) + 2) : ℤ) : ℝ) < (⌊a⌋ - ⌊b⌋ : ℤ) := by
      push_cast
      linarith
    exact_mod_cast this
  rw [abs_le]
  push_cast
  omega

/-- Rows of latitudes at most `ext` degrees apart. -/
theorem abs_row_sub_le {lat₁ lat₂ ext : ℝ} (h : |lat₂ - lat₁| ≤ ext) :
    |row lat₂ - row lat₁| ≤ (⌊ext / (2 * (90 / 1024))⌋₊ + 1 : ℕ) := by
  rw [row_eq, row_eq]
  refine floor_sub_floor_le ?_
  have hscale : (lat₂ + 90) * (1024 / 180) - (lat₁ + 90) * (1024 / 180) =
      (lat₂ - lat₁) * (1024 / 180) := by ring
  rw [hscale, abs_mul, abs_of_pos (by norm_num : (0 : ℝ) < 1024 / 180)]
  calc |lat₂ - lat₁| * (1024 / 180) ≤ ext * (1024 / 180) := by gcongr
    _ = ext / (2 * (90 / 1024)) := by ring

/-- Columns of longitudes at most `ext` degrees apart, up to whole turns. -/
theorem exists_column_eq {lon₁ lon₂ ext : ℝ} {turns : ℤ}
    (h : |lon₂ - lon₁ - turns * 360| ≤ ext) :
    ∃ d : ℤ, column lon₂ = (column lon₁ + d) % 1024 ∧
      |d| ≤ (⌊ext / (2 * (180 / 1024))⌋₊ + 1 : ℕ) := by
  refine ⟨⌊(lon₂ + 180) * (1024 / 360) - (turns * 1024 : ℤ)⌋ - ⌊(lon₁ + 180) * (1024 / 360)⌋,
    ?_, ?_⟩
  · rw [Int.floor_sub_intCast, column_eq, column_eq]
    omega
  · refine floor_sub_floor_le ?_
    have hscale : (lon₂ + 180) * (1024 / 360) - (turns * 1024 : ℤ) - (lon₁ + 180) * (1024 / 360) =
        (lon₂ - lon₁ - turns * 360) * (1024 / 360) := by
      push_cast
      ring
    rw [hscale, abs_mul, abs_of_pos (by norm_num : (0 : ℝ) < 1024 / 360)]
    calc |lon₂ - lon₁ - turns * 360| * (1024 / 360) ≤ ext * (1024 / 360) := by gcongr
      _ = ext / (2 * (180 / 1024)) := by ring

-- ============================================================================
-- Rings
-- ============================================================================

section Rings

variable {D : Type} {geo : GeohashGrid ℝ} {name : ℤ → ℤ → String} {c r : ℤ}

/-- A king's move to a row of the grid is among the candidates. -/
theorem StandardGrid.mem_candidates (grid : StandardGrid geo name) (hin : InGrid c r)
    {around : List String} (h : candidates (D := D) geo (name c r) = .ok around) {dc dr : ℤ}
    (hdc : -1 ≤ dc ∧ dc ≤ 1) (hdr : -1 ≤ dr ∧ dr ≤ 1) (hmove : dc ≠ 0 ∨ dr ≠ 0)
    (hrow : 0 ≤ r + dr ∧ r + dr < 1024) : name ((c + dc) % 1024) (r + dr) ∈ around := by
  have hcol := hin.column_range
  have hself : (c + 0) % 1024 = c := by omega
  unfold candidates at h
  cases hn : geo.neighbors (name c r) with
  | error e =>
    rw [hn] at h
    cases h
  | ok n =>
    rw [hn] at h
    cases h
    have hadj := grid.adjacent c r n hin hn
    have hdc' : dc = -1 ∨ dc = 0 ∨ dc = 1 := by omega
    have hdr' : dr = -1 ∨ dr = 0 ∨ dr = 1 := by omega
    rcases hdr' with rfl | rfl | rfl
    · obtain ⟨hs, hse, hsw⟩ := hadj.south hrow.1
      rcases hdc' with rfl | rfl | rfl
      · simp [← sub_eq_add_neg, hsw]
      · simp only [hself, ← sub_eq_add_neg, hs, List.mem_cons, true_or, or_true]
      · simp [← sub_eq_add_neg, hse]
    · rw [add_zero]
      rcases hdc' with rfl | rfl | rfl
      · simp [← sub_eq_add_neg, hadj.w]
      · omega
      · simp [hadj.e]
    · obtain ⟨hn, hne, hnw⟩ := hadj.north hrow.2
      rcases hdc' with rfl | rfl | rfl
      · simp [← sub_eq_add_neg, hnw]
      · simp only [hself, hn, List.mem_cons, true_or]
      · simp [hne]

/-- One unit less of a distance of at most `n + 1`, without going past zero. -/
theorem exists_unit_step {x : ℤ} {n : Nat} (h : -(n + 1 : ℤ) ≤ x ∧ x ≤ n + 1) :
    ∃ s : ℤ, (-1 ≤ s ∧ s ≤ 1) ∧ |x - s| ≤ n ∧
      (0 ≤ x - s ∧ x - s ≤ x ∨ x ≤ x - s ∧ x - s ≤ 0) := by
  refine ⟨x.sign, ?_⟩
  rcases lt_trichotomy x 0 with hx | rfl | hx
  · rw [Int.sign_eq_neg_one_of_neg hx, abs_le]
    omega
  · simp
  · rw [Int.sign_eq_one_of_pos hx, abs_le]
    omega

/-- `n` rings reach every cell at most `n` columns and `n` rows away. -/
theorem StandardGrid.mem_iterate_grow (grid : StandardGrid geo name) (hin : InGrid c r)
    {rings : Nat} {result : List String}
    (h : search (candidates (D := D) geo) rings [name c r] [name c r] = .ok result)
    {n : Nat} (hn : n ≤ rings) {d r' : ℤ} (hd : |d| ≤ n) (hr : |r' - r| ≤ n)
    (hrow : 0 ≤ r' ∧ r' < 1024) :
    name ((c + d) % 1024) r' ∈ (grow (candidates (D := D) geo))^[n] {name c r} := by
  have hcol := hin.column_range
  induction n generalizing d r' with
  | zero =>
    have hd0 : d = 0 := by
      rw [abs_le] at hd
      omega
    have hr0 : r' = r := by
      rw [abs_le] at hr
      omega
    have hself : (c + 0) % 1024 = c := by omega
    rw [hd0, hr0, hself]
    exact Set.mem_singleton _
  | succ n ih =>
    rw [abs_le] at hd hr
    push_cast at hd hr
    have hstart := hin.row_range
    -- the last move of a king walking straight towards `(c + d, r')`
    obtain ⟨sc, hsc, hscn, -⟩ := exists_unit_step ⟨hd.1, hd.2⟩
    obtain ⟨sr, hsr, hsrn, hbetween⟩ := exists_unit_step ⟨hr.1, hr.2⟩
    have hprev : name ((c + (d - sc)) % 1024) (r' - sr) ∈
        (grow (candidates (D := D) geo))^[n] {name c r} := by
      refine ih (by omega) hscn ?_ ⟨by omega, by omega⟩
      have hcomm : r' - sr - r = r' - r - sr := by ring
      rw [hcomm]
      exact hsrn
    by_cases hmove : sc ≠ 0 ∨ sr ≠ 0
    · obtain ⟨around, hok⟩ := search_start_expanded h (by omega) hprev
      have hin' : InGrid ((c + (d - sc)) % 1024) (r' - sr) := ⟨by omega, by omega⟩
      have hmem := grid.mem_candidates hin' hok hsc hsr hmove ⟨by omega, by omega⟩
      have hlast : ((c + (d - sc)) % 1024 + sc) % 1024 = (c + d) % 1024 := by omega
      rw [hlast, sub_add_cancel] at hmem
      exact mem_iterate_grow_succ hprev ⟨around, hok, hmem⟩
    · have hsc' : sc = 0 := by omega
      have hsr' : sr = 0 := by omega
      rw [hsc', hsr', sub_zero, sub_zero] at hprev
      exact iterate_grow_mono (Nat.le_succ n) hprev

end Rings

end PulseGrid
