/-
  PulseGrid.Domain.TorusGrid

  The ring expansion of `shard_prefixes_for_radius` on a grid that wraps around in both
  directions: which cells `k` rings visit, and in which frontier each of them is.

  A cell is at wrapped distance at most `k` when it is reached by going at most `k` columns
  and `k` rows, in either direction (`wrapDist_le_iff`).  One step of `grow` adds a king's
  move (`mem_grow_image`), so `k` steps are the cells at distance at most `k`
  (`mem_iterate_grow_torus`), however often the rings meet themselves around the globe.
-/

import PulseGrid.Domain.GeohashGrid

namespace PulseGrid

open RingSearch

-- ============================================================================
-- Distance on a torus
-- ============================================================================

section Distance

variable {m n : ℕ}

/-- The distance of two columns, or rows, the shorter way around. -/
def wrapDist (a b : ZMod m) : ℕ := min (b - a).val (a - b).val

/-- The wrapped Chebyshev distance of two cells. -/
def torusDist (a b : ZMod m × ZMod n) : ℕ := max (wrapDist a.1 b.1) (wrapDist a.2 b.2)

theorem val_intCast_le {d : ℤ} (h : 0 ≤ d) : ((d : ZMod m).val : ℤ) ≤ d := by
  obtain ⟨k, rfl⟩ := Int.eq_ofNat_of_zero_le h
  rw [Int.cast_natCast, ZMod.val_natCast]
  exact_mod_cast Nat.mod_le k m

/-- Columns at most `k` apart are a move of at most `k` apart. -/
theorem wrapDist_le_iff [NeZero m] {a b : ZMod m} {k : ℕ} :
    wrapDist a b ≤ k ↔ ∃ d : ℤ, |d| ≤ k ∧ b = a + d := by
  rw [wrapDist, min_le_iff]
  constructor
  · rintro (h | h)
    · refine ⟨(b - a).val, ?_, ?_⟩
      · rw [abs_of_nonneg (by omega)]
        exact_mod_cast h
      · rw [Int.cast_natCast, ZMod.natCast_zmod_val]
        ring
    · refine ⟨-((a - b).val : ℤ), ?_, ?_⟩
      · rw [abs_neg, abs_of_nonneg (by omega)]
        exact_mod_cast h
      · rw [Int.cast_neg, Int.cast_natCast, ZMod.natCast_zmod_val]
        ring
  · rintro ⟨d, hd, rfl⟩
    obtain ⟨hlow, hhigh⟩ := abs_le.mp hd
    rcases le_total 0 d with hpos | hneg
    · left
      have := val_intCast_le (m := m) hpos
      rw [add_sub_cancel_left]
      omega
    · right
      have := val_intCast_le (m := m) (d := -d) (by omega)
      have hback : a - (a + (d : ZMod m)) = ((-d : ℤ) : ZMod m) := by
        push_cast
        ring
      rw [hback]
      omega

theorem torusDist_le_iff [NeZero m] [NeZero n] {a b : ZMod m × ZMod n} {k : ℕ} :
    torusDist a b ≤ k ↔
      ∃ dc dr : ℤ, |dc| ≤ k ∧ |dr| ≤ k ∧ b = (a.1 + (dc : ZMod m), a.2 + (dr : ZMod n)) := by
  rw [torusDist, max_le_iff, wrapDist_le_iff, wrapDist_le_iff]
  constructor
  · rintro ⟨⟨dc, hdc, hc⟩, dr, hdr, hr⟩
    exact ⟨dc, dr, hdc, hdr, Prod.ext hc hr⟩
  · rintro ⟨dc, dr, hdc, hdr, rfl⟩
    exact ⟨⟨dc, hdc, rfl⟩, dr, hdr, rfl⟩

end Distance

-- ============================================================================
-- The grid
-- ============================================================================

/-- `name` gives the hashes of the cells of a torus of `m` columns and `n` rows, and the crate
    finds the eight cells around each of them, wrapping at the edges. -/
structure TorusGrid (geo : GeohashGrid ℝ) (m n : ℕ) (name : ZMod m × ZMod n → String) :
    Prop where
  name_injective : Function.Injective name
  neighbors_eq : ∀ c r, geo.neighbors (name (c, r)) = .ok
    { n := name (c, r + 1), ne := name (c + 1, r + 1), e := name (c + 1, r)
      se := name (c + 1, r - 1), s := name (c, r - 1), sw := name (c - 1, r - 1)
      w := name (c - 1, r), nw := name (c - 1, r + 1) }

section Rings

variable {D : Type} {geo : GeohashGrid ℝ} {m n : ℕ} {name : ZMod m × ZMod n → String}

theorem TorusGrid.candidates_eq (grid : TorusGrid geo m n name) (c : ZMod m) (r : ZMod n) :
    candidates (D := D) geo (name (c, r)) = .ok
      [name (c, r + 1), name (c + 1, r + 1), name (c + 1, r), name (c + 1, r - 1),
        name (c, r - 1), name (c - 1, r - 1), name (c - 1, r), name (c - 1, r + 1)] := by
  rw [candidates, grid.neighbors_eq]
  rfl

/-- The neighbours of a cell are its king's moves. -/
theorem TorusGrid.adj_iff (grid : TorusGrid geo m n name) (c : ZMod m) (r : ZMod n) (b : String) :
    Adj (candidates (D := D) geo) (name (c, r)) b ↔
      ∃ dc dr : ℤ, (-1 ≤ dc ∧ dc ≤ 1) ∧ (-1 ≤ dr ∧ dr ≤ 1) ∧ (dc ≠ 0 ∨ dr ≠ 0) ∧
        b = name (c + dc, r + dr) := by
  simp only [Adj, grid.candidates_eq, Except.ok.injEq, exists_eq_left', List.mem_cons,
    List.not_mem_nil, or_false]
  constructor
  · rintro (rfl | rfl | rfl | rfl | rfl | rfl | rfl | rfl)
    · exact ⟨0, 1, by omega, by omega, by omega, by simp⟩
    · exact ⟨1, 1, by omega, by omega, by omega, by simp⟩
    · exact ⟨1, 0, by omega, by omega, by omega, by simp⟩
    · exact ⟨1, -1, by omega, by omega, by omega, by simp [sub_eq_add_neg]⟩
    · exact ⟨0, -1, by omega, by omega, by omega, by simp [sub_eq_add_neg]⟩
    · exact ⟨-1, -1, by omega, by omega, by omega, by simp [sub_eq_add_neg]⟩
    · exact ⟨-1, 0, by omega, by omega, by omega, by simp [sub_eq_add_neg]⟩
    · exact ⟨-1, 1, by omega, by omega, by omega, by simp [sub_eq_add_neg]⟩
  · rintro ⟨dc, dr, hdc, hdr, hmove, rfl⟩
    have hcol : dc = -1 ∨ dc = 0 ∨ dc = 1 := by omega
    have hrow : dr = -1 ∨ dr = 0 ∨ dr = 1 := by omega
    rcases hcol with rfl | rfl | rfl <;> rcases hrow with rfl | rfl | rfl <;>
      simp [sub_eq_add_neg] at hmove ⊢

/-- `k` rings reach the cells at most `k` columns and `k` rows away, and no others. -/
theorem TorusGrid.mem_iterate_grow (grid : TorusGrid geo m n name) (c : ZMod m) (r : ZMod n)
    (k : ℕ) (b : String) :
    b ∈ (grow (candidates (D := D) geo))^[k] {name (c, r)} ↔
      ∃ dc dr : ℤ, |dc| ≤ k ∧ |dr| ≤ k ∧ b = name (c + dc, r + dr) := by
  induction k generalizing b with
  | zero =>
    rw [Function.iterate_zero_apply, Set.mem_singleton_iff]
    constructor
    · rintro rfl
      exact ⟨0, 0, by simp, by simp, by simp⟩
    · rintro ⟨dc, dr, hdc, hdr, rfl⟩
      have hdc : dc = 0 := abs_eq_zero.mp (le_antisymm (by simpa using hdc) (abs_nonneg dc))
      have hdr : dr = 0 := abs_eq_zero.mp (le_antisymm (by simpa using hdr) (abs_nonneg dr))
      simp [hdc, hdr]
  | succ k ih =>
    rw [Function.iterate_succ_apply']
    constructor
    · rintro (hb | ⟨a, ha, hab⟩)
      · obtain ⟨dc, dr, hdc, hdr, rfl⟩ := (ih b).mp hb
        push_cast
        exact ⟨dc, dr, by omega, by omega, rfl⟩
      · obtain ⟨dc, dr, hdc, hdr, rfl⟩ := (ih a).mp ha
        obtain ⟨sc, sr, hsc, hsr, -, rfl⟩ := (grid.adj_iff _ _ b).mp hab
        rw [abs_le] at hdc hdr
        refine ⟨dc + sc, dr + sr, ?_, ?_, ?_⟩
        · rw [abs_le]
          push_cast
          omega
        · rw [abs_le]
          push_cast
          omega
        · push_cast
          rw [add_assoc, add_assoc]
    · rintro ⟨dc, dr, hdc, hdr, rfl⟩
      rw [abs_le] at hdc hdr
      push_cast at hdc hdr
      -- the last king's move of a walk straight towards the cell
      obtain ⟨sc, hsc, hscn, -⟩ := exists_unit_step ⟨hdc.1, hdc.2⟩
      obtain ⟨sr, hsr, hsrn, -⟩ := exists_unit_step ⟨hdr.1, hdr.2⟩
      have hprev := (ih _).mpr ⟨dc - sc, dr - sr, hscn, hsrn, rfl⟩
      by_cases hmove : sc ≠ 0 ∨ sr ≠ 0
      · refine Or.inr ⟨_, hprev, (grid.adj_iff _ _ _).mpr ⟨sc, sr, hsc, hsr, hmove, ?_⟩⟩
        push_cast
        congr 2 <;> ring
      · have hsc' : sc = 0 := by omega
        have hsr' : sr = 0 := by omega
        rw [hsc', hsr', sub_zero, sub_zero] at hprev
        exact Or.inl hprev

theorem TorusGrid.mem_iterate_grow_dist [NeZero m] [NeZero n] (grid : TorusGrid geo m n name)
    (start cell : ZMod m × ZMod n) (k : ℕ) :
    name cell ∈ (grow (candidates (D := D) geo))^[k] {name start} ↔ torusDist start cell ≤ k := by
  obtain ⟨c, r⟩ := start
  rw [grid.mem_iterate_grow, torusDist_le_iff]
  constructor
  · rintro ⟨dc, dr, hdc, hdr, heq⟩
    exact ⟨dc, dr, hdc, hdr, grid.name_injective heq⟩
  · rintro ⟨dc, dr, hdc, hdr, rfl⟩
    exact ⟨dc, dr, hdc, hdr, rfl⟩

/-- **Ring expansion is exact.**  On every torus, from every cell and for every number of
    rings, the search returns; it visits exactly the cells at wrapped Chebyshev distance at
    most `k`; every one of them is in one frontier, once, and frontier `i` holds cells at
    distance exactly `i`.  The search may stop before `k` rings. -/
theorem TorusGrid.search_exact [NeZero m] [NeZero n] (grid : TorusGrid geo m n name)
    (start : ZMod m × ZMod n) (k : ℕ) :
    ∃ visited layers,
      search (candidates (D := D) geo) k [name start] [name start] = .ok visited ∧
      frontiers (candidates (D := D) geo) k [name start] [name start] = .ok layers ∧
      (∀ hash, hash ∈ visited ↔ ∃ cell, hash = name cell ∧ torusDist start cell ≤ k) ∧
      visited = layers.flatten ∧
      (∀ cell, torusDist start cell ≤ k → layers.flatten.count (name cell) = 1) ∧
      ∀ i layer, layers[i]? = some layer → ∀ cell, name cell ∈ layer ↔ torusDist start cell = i := by
  obtain ⟨visited, hsearch, hnames⟩ :
      ∃ visited, search (candidates (D := D) geo) k [name start] [name start] = .ok visited ∧
        ∀ hash ∈ visited, hash ∈ Set.range name := by
    apply search_ok
    · rintro a ⟨⟨c, r⟩, rfl⟩
      exact ⟨_, grid.candidates_eq c r⟩
    · rintro a ⟨⟨c, r⟩, rfl⟩ b hab
      obtain ⟨dc, dr, -, -, -, rfl⟩ := (grid.adj_iff c r b).mp hab
      exact ⟨_, rfl⟩
    · simp
    · simp
  obtain ⟨hnodup, later, hlayers, hflat, hlayer⟩ :=
    search_frontiers (open_singleton (name start)) (by simp) hsearch
  have hmem (cell : ZMod m × ZMod n) : name cell ∈ visited ↔ torusDist start cell ≤ k := by
    rw [search_visited hsearch, grid.mem_iterate_grow_dist]
  have hflat' : visited = ([name start] :: later).flatten := by
    rw [hflat, List.flatten_cons]
  refine ⟨visited, _, hsearch, hlayers, ?_, hflat', ?_, ?_⟩
  · intro hash
    constructor
    · intro h
      obtain ⟨cell, rfl⟩ := hnames hash h
      exact ⟨cell, rfl, (hmem cell).mp h⟩
    · rintro ⟨cell, rfl, hdist⟩
      exact (hmem cell).mpr hdist
  · intro cell hdist
    rw [← hflat']
    exact List.count_eq_one_of_mem hnodup ((hmem cell).mpr hdist)
  · rintro (_ | i) layer hi cell
    · rw [List.getElem?_cons_zero, Option.some.injEq] at hi
      subst hi
      have hzero := grid.mem_iterate_grow_dist (D := D) start cell 0
      rw [Function.iterate_zero_apply, Nat.le_zero] at hzero
      rw [List.mem_singleton, ← hzero]
      rfl
    · rw [List.getElem?_cons_succ] at hi
      rw [hlayer i layer hi, mem_singleton_eq, grid.mem_iterate_grow_dist,
        grid.mem_iterate_grow_dist]
      omega

end Rings

-- ============================================================================
-- Geohashes
-- ============================================================================

/-- The hash of a cell of the torus of four-character geohashes. -/
def torusName (cell : ZMod 1024 × ZMod 1024) : String := cellName cell.1.val cell.2.val

theorem inGrid_val (c r : ZMod 1024) : InGrid c.val r.val := by
  have hc := ZMod.val_lt c
  have hr := ZMod.val_lt r
  exact ⟨by omega, by omega⟩

theorem val_add_intCast (c : ZMod 1024) (d : ℤ) : ((c + d : ZMod 1024).val : ℤ) = (c.val + d) % 1024 := by
  have h := ZMod.val_intCast (n := 1024) (c.val + d)
  push_cast at h
  rw [ZMod.natCast_zmod_val] at h
  exact h

/-- Four-character geohashes are the cells of a torus of 1024 columns and 1024 rows. -/
theorem torusGrid_geohash : TorusGrid geohash 1024 1024 torusName where
  name_injective := by
    rintro ⟨c, r⟩ ⟨c', r'⟩ h
    have hcell := congrArg cellOf h
    rw [torusName, torusName, cellOf_cellName (inGrid_val c r), cellOf_cellName (inGrid_val c' r'),
      Except.ok.injEq, Prod.mk.injEq] at hcell
    simp only [Int.toNat_natCast] at hcell
    exact Prod.ext (ZMod.val_injective _ hcell.1) (ZMod.val_injective _ hcell.2)
  neighbors_eq c r := by
    have hcell (dc dr : ℤ) : cellAt c.val r.val dc dr = torusName (c + dc, r + dr) := by
      rw [torusName, cellAt, val_add_intCast, val_add_intCast]
    rw [torusName, geohash_neighbors_eq (inGrid_val c r)]
    simp only [hcell]
    simp [sub_eq_add_neg]

/-- Six hundred rings on the grid of four-character geohashes: more than reach around the
    globe in both directions, so every cell is visited. -/
theorem TorusGrid.search_exact_geohash :
    ∃ visited layers,
      search (candidates (D := Nat) geohash) 600 [torusName (3, 5)] [torusName (3, 5)] =
        .ok visited ∧
      frontiers (candidates (D := Nat) geohash) 600 [torusName (3, 5)] [torusName (3, 5)] =
        .ok layers ∧
      (∀ hash, hash ∈ visited ↔ ∃ cell, hash = torusName cell ∧ torusDist (3, 5) cell ≤ 600) ∧
      visited = layers.flatten ∧
      (∀ cell, torusDist (3, 5) cell ≤ 600 → layers.flatten.count (torusName cell) = 1) ∧
      ∀ i layer, layers[i]? = some layer → ∀ cell, torusName cell ∈ layer ↔
        torusDist (3, 5) cell = i :=
  TorusGrid.search_exact torusGrid_geohash (3, 5) 600

end PulseGrid
