/-
  PulseGrid.Domain.GeohashGrid

  The grid that `StandardGrid` asks of the `geohash` crate is that of the standard
  geohash (`standardGrid_geohash`).  A neighbour beyond a pole wraps around like one
  beyond the antimeridian.
-/

import PulseGrid.Domain.Geohash
import PulseGrid.Domain.StandardGrid

namespace PulseGrid

namespace Geohash

noncomputable def decode (hash : String) : Except String (Coord ℝ × ℝ × ℝ) := do
  let (c, r) ← cellOf hash
  let lonErr : ℝ := (180 : ℕ) / (2 ^ lonBits hash.length : ℕ)
  let latErr : ℝ := (90 : ℕ) / (2 ^ latBits hash.length : ℕ)
  return (⟨(2 * c + 1 : ℕ) * lonErr - (180 : ℕ), (2 * r + 1 : ℕ) * latErr - (90 : ℕ)⟩,
    lonErr, latErr)

def neighbors (hash : String) : Except String Neighbors := do
  let (c, r) ← cellOf hash
  let len := hash.length
  let at' (dc dr : ℤ) : String :=
    hashOf len ((c + dc) % 2 ^ lonBits len).toNat ((r + dr) % 2 ^ latBits len).toNat
  return {
    sw := at' (-1) (-1), s := at' 0 (-1), se := at' 1 (-1), w := at' (-1) 0, e := at' 1 0
    nw := at' (-1) 1, n := at' 0 1, ne := at' 1 1 }

end Geohash

/-- The standard geohash. -/
noncomputable def geohash : GeohashGrid ℝ where
  encode := Geohash.encode
  decode := Geohash.decode
  neighbors := Geohash.neighbors

/-- The hash of a cell of the four-character grid. -/
def cellName (c r : ℤ) : String := hashOf shardPrefixLength c.toNat r.toNat

theorem cellOf_cellName {c r : ℤ} (hin : InGrid c r) :
    cellOf (cellName c r) = .ok (c.toNat, r.toNat) := by
  have hc := hin.column_range
  have hr := hin.row_range
  have hlon : lonBits shardPrefixLength = 10 := rfl
  have hlat : latBits shardPrefixLength = 10 := rfl
  rw [cellName, cellOf_hashOf (by decide), hlon, hlat, Nat.mod_eq_of_lt, Nat.mod_eq_of_lt]
  · omega
  · omega

/-- A column and a row, read off the grid of any precision. -/
theorem toNat_column {p : Location ℝ} :
    (column p.lon).toNat =
      ⌊(p.lon + 180) * (2 ^ lonBits shardPrefixLength / 360)⌋₊ % 2 ^ lonBits shardPrefixLength := by
  have hbits : (2 : ℝ) ^ lonBits shardPrefixLength = 1024 := by
    norm_num [lonBits, shardPrefixLength]
  have hnonneg : 0 ≤ ⌊(p.lon + 180) * (1024 / 360)⌋ := by
    have := p.lon_mem.1
    exact Int.floor_nonneg.mpr (by nlinarith)
  rw [column_eq, hbits, Int.toNat_emod hnonneg (by decide), Int.floor_toNat]
  rfl

theorem toNat_row {p : Location ℝ} (hlat : p.lat < 90) :
    (row p.lat).toNat =
      ⌊(p.lat + 90) * (2 ^ latBits shardPrefixLength / 180)⌋₊ % 2 ^ latBits shardPrefixLength := by
  have hbits : (2 : ℝ) ^ latBits shardPrefixLength = 1024 := by
    norm_num [latBits, shardPrefixLength]
  have hrow := row_range hlat
  have heq : (row p.lat).toNat = ⌊(p.lat + 90) * (1024 / 180)⌋₊ := by
    rw [row_eq, Int.floor_toNat]
  rw [hbits, ← heq]
  refine (Nat.mod_eq_of_lt ?_).symm
  show (row p.lat).toNat < 2 ^ 10
  omega

/-- A finer column, or row, is part of a coarser one. -/
theorem floor_finer_div (a : ℝ) (m k : Nat) :
    ⌊a * (2 ^ (k + m))⌋₊ / 2 ^ m = ⌊a * 2 ^ k⌋₊ := by
  have hcoarse : a * 2 ^ k = a * 2 ^ (k + m) / ((2 ^ m : ℕ) : ℝ) := by
    push_cast
    rw [pow_add]
    field_simp
  rw [hcoarse, Nat.floor_div_natCast]

theorem geohash_decode_eq {c r : ℤ} (hin : InGrid c r) :
    geohash.decode (cellName c r) =
      .ok (⟨(c + 1 / 2) * (360 / 1024) - 180, (r + 1 / 2) * (180 / 1024) - 90⟩,
        180 / 1024, 90 / 1024) := by
  have hc : ((c.toNat : ℕ) : ℝ) = c := by
    exact_mod_cast Int.toNat_of_nonneg hin.column_range.1
  have hr : ((r.toNat : ℕ) : ℝ) = r := by
    exact_mod_cast Int.toNat_of_nonneg hin.row_range.1
  have hlon : 2 ^ lonBits shardPrefixLength = 1024 := rfl
  have hlat : 2 ^ latBits shardPrefixLength = 1024 := rfl
  show Geohash.decode (cellName c r) = _
  unfold Geohash.decode
  rw [cellOf_cellName hin, cellName, length_hashOf, hlon, hlat]
  show Except.ok _ = _
  push_cast
  rw [hc, hr]
  congr 4
  · ring
  · ring

/-- The cell a move of `dc` columns and `dr` rows leads to. -/
def cellAt (c r dc dr : ℤ) : String := cellName ((c + dc) % 1024) ((r + dr) % 1024)

theorem geohash_neighbors_eq {c r : ℤ} (hin : InGrid c r) :
    geohash.neighbors (cellName c r) = .ok
      { sw := cellAt c r (-1) (-1), s := cellAt c r 0 (-1), se := cellAt c r 1 (-1)
        w := cellAt c r (-1) 0, e := cellAt c r 1 0
        nw := cellAt c r (-1) 1, n := cellAt c r 0 1, ne := cellAt c r 1 1 } := by
  have hc : ((c.toNat : ℕ) : ℤ) = c := Int.toNat_of_nonneg hin.column_range.1
  have hr : ((r.toNat : ℕ) : ℤ) = r := Int.toNat_of_nonneg hin.row_range.1
  have hlon : (2 : ℤ) ^ lonBits shardPrefixLength = 1024 := rfl
  have hlat : (2 : ℤ) ^ latBits shardPrefixLength = 1024 := rfl
  show Geohash.neighbors (cellName c r) = _
  unfold Geohash.neighbors
  rw [cellOf_cellName hin, cellName, length_hashOf]
  simp only [bind, Except.bind, pure, Except.pure, hlon, hlat, hc, hr]
  rfl

theorem standardGrid_geohash : StandardGrid geohash cellName where
  encode_eq p hlat := by
    show Geohash.encode p.lon p.lat shardPrefixLength = _
    rw [Geohash.encode_eq p (by decide), cellName, toNat_column, toNat_row hlat, hashOf_mod]
  decode_eq c r hin := geohash_decode_eq hin
  adjacent c r n hin h := by
    have hc := hin.column_range
    have hr := hin.row_range
    rw [geohash_neighbors_eq hin] at h
    cases h
    have hcell : ∀ dc dr, 0 ≤ r + dr → r + dr < 1024 →
        cellAt c r dc dr = cellName ((c + dc) % 1024) (r + dr) := by
      intro dc dr h0 h1
      rw [cellAt, Int.emod_eq_of_lt h0 h1]
    have hself : (c + 0) % 1024 = c := by omega
    constructor
    · exact (hcell 1 0 (by omega) (by omega)).trans (by rw [add_zero])
    · exact (hcell (-1) 0 (by omega) (by omega)).trans (by rw [add_zero]; rfl)
    · intro hnorth
      refine ⟨(hcell 0 1 (by omega) hnorth).trans (by rw [hself]), hcell 1 1 (by omega) hnorth,
        hcell (-1) 1 (by omega) hnorth⟩
    · intro hsouth
      refine ⟨(hcell 0 (-1) hsouth (by omega)).trans (by rw [hself]; rfl),
        hcell 1 (-1) hsouth (by omega), hcell (-1) (-1) hsouth (by omega)⟩
  encode_take p := by
    refine ⟨_, Geohash.encode_eq p (by decide), ?_⟩
    have hlon : ⌊(p.lon + 180) * (2 ^ lonBits geohashPrecision / 360)⌋₊ / 2 ^ 8 =
        ⌊(p.lon + 180) * (2 ^ lonBits shardPrefixLength / 360)⌋₊ := by
      have h := floor_finer_div ((p.lon + 180) / 360) 8 (lonBits shardPrefixLength)
      rw [div_mul_comm, mul_comm, div_mul_comm, mul_comm ((2 : ℝ) ^ lonBits shardPrefixLength / 360)] at h
      exact h
    have hlat : ⌊(p.lat + 90) * (2 ^ latBits geohashPrecision / 180)⌋₊ / 2 ^ 7 =
        ⌊(p.lat + 90) * (2 ^ latBits shardPrefixLength / 180)⌋₊ := by
      have h := floor_finer_div ((p.lat + 90) / 180) 7 (latBits shardPrefixLength)
      rw [div_mul_comm, mul_comm, div_mul_comm, mul_comm ((2 : ℝ) ^ latBits shardPrefixLength / 180)] at h
      exact h
    show Geohash.encode p.lon p.lat shardPrefixLength = _
    rw [Geohash.encode_eq p (by decide), shardPrefixOf_hashOf, hlon, hlat]

end PulseGrid
