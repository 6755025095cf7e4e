/-
  PulseGrid.Domain.Geohash

  The standard geohash over exact coordinates.

  A hash of `len` characters is a column and a row, whose binary digits alternate, the
  column's first; five digits make a character.  `cellOf_hashOf` is the round trip,
  `shardPrefixOf_hashOf` says that a prefix is the hash of a larger cell.
-/

import PulseGrid.Domain.Device

namespace PulseGrid

/-- The digits of a geohash. -/
def base32 : List Char :=
  ['0', '1', '2', '3', '4', '5', '6', '7', '8', '9', 'b', 'c', 'd', 'e', 'f', 'g',
    'h', 'j', 'k', 'm', 'n', 'p', 'q', 'r', 's', 't', 'u', 'v', 'w', 'x', 'y', 'z']

/-- The binary digits of a column, and of a row, in a hash of `len` characters. -/
def lonBits (len : Nat) : Nat := (5 * len + 1) / 2

def latBits (len : Nat) : Nat := 5 * len / 2

-- ============================================================================
-- From a cell to its hash
-- ============================================================================

/-- Digit `i` of the hash of column `c` and row `r`, in binary. -/
def hashBit (len c r i : Nat) : Nat :=
  if i % 2 = 0 then c / 2 ^ (lonBits len - 1 - i / 2) % 2
  else r / 2 ^ (latBits len - 1 - i / 2) % 2

/-- Digit `j` of the hash, in base 32. -/
def hashDigit (len c r j : Nat) : Nat :=
  16 * hashBit len c r (5 * j) + 8 * hashBit len c r (5 * j + 1) +
    4 * hashBit len c r (5 * j + 2) + 2 * hashBit len c r (5 * j + 3) +
    hashBit len c r (5 * j + 4)

def hashOf (len c r : Nat) : String :=
  String.ofList ((List.range len).map fun j => base32.getD (hashDigit len c r j) '0')

-- ============================================================================
-- From a hash to its cell
-- ============================================================================

/-- Every other element, from the first on. -/
def everyOther : List Nat → List Nat
  | [] => []
  | [a] => [a]
  | a :: _ :: l => a :: everyOther l

def ofBits (bits : List Nat) : Nat := bits.foldl (fun acc b => 2 * acc + b) 0

/-- The binary digits of a hash. -/
def bitsOf (hash : String) : Option (List Nat) := do
  let digits ← hash.toList.mapM base32.idxOf?
  return digits.flatMap fun v => [v / 16 % 2, v / 8 % 2, v / 4 % 2, v / 2 % 2, v % 2]

/-- The column and the row of a hash. -/
def cellOf (hash : String) : Except String (Nat × Nat) :=
  match bitsOf hash with
  | none => .error "invalid hash character"
  | some bits => .ok (ofBits (everyOther bits), ofBits (everyOther bits.tail))

-- ============================================================================
-- Round trip
-- ============================================================================

theorem hashBit_lt (len c r i : Nat) : hashBit len c r i < 2 := by
  unfold hashBit
  split <;> exact Nat.mod_lt _ (by decide)

theorem hashDigit_lt (len c r j : Nat) : hashDigit len c r j < 32 := by
  have h0 := hashBit_lt len c r (5 * j)
  have h1 := hashBit_lt len c r (5 * j + 1)
  have h2 := hashBit_lt len c r (5 * j + 2)
  have h3 := hashBit_lt len c r (5 * j + 3)
  have h4 := hashBit_lt len c r (5 * j + 4)
  unfold hashDigit
  omega

theorem idxOf_base32 : ∀ v < 32, base32.idxOf? (base32.getD v '0') = some v := by
  decide

/-- The binary digits of a base 32 digit. -/
theorem bits_hashDigit (len c r j : Nat) :
    [hashDigit len c r j / 16 % 2, hashDigit len c r j / 8 % 2, hashDigit len c r j / 4 % 2,
      hashDigit len c r j / 2 % 2, hashDigit len c r j % 2] =
    [hashBit len c r (5 * j), hashBit len c r (5 * j + 1), hashBit len c r (5 * j + 2),
      hashBit len c r (5 * j + 3), hashBit len c r (5 * j + 4)] := by
  have h0 := hashBit_lt len c r (5 * j)
  have h1 := hashBit_lt len c r (5 * j + 1)
  have h2 := hashBit_lt len c r (5 * j + 2)
  have h3 := hashBit_lt len c r (5 * j + 3)
  have h4 := hashBit_lt len c r (5 * j + 4)
  unfold hashDigit
  simp only [List.cons.injEq, and_true]
  omega

theorem mapM_idxOf_base32 (digits : List Nat) (h : ∀ v ∈ digits, v < 32) :
    (digits.map fun v => base32.getD v '0').mapM base32.idxOf? = some digits := by
  induction digits with
  | nil => rfl
  | cons v digits ih =>
    rw [List.map_cons, List.mapM_cons, idxOf_base32 v (h v List.mem_cons_self),
      ih fun w hw => h w (List.mem_cons_of_mem _ hw)]
    rfl

theorem flatMap_range_five (f : Nat → Nat) (len : Nat) :
    ((List.range len).flatMap fun j =>
      [f (5 * j), f (5 * j + 1), f (5 * j + 2), f (5 * j + 3), f (5 * j + 4)]) =
      (List.range (5 * len)).map f := by
  induction len with
  | zero => rfl
  | succ len ih =>
    rw [List.range_succ, List.flatMap_append, ih, Nat.mul_succ]
    simp [List.range_succ]

theorem bitsOf_hashOf (len c r : Nat) :
    bitsOf (hashOf len c r) = some ((List.range (5 * len)).map (hashBit len c r)) := by
  have hdigits := mapM_idxOf_base32 ((List.range len).map (hashDigit len c r)) (by
    intro v hv
    obtain ⟨j, -, rfl⟩ := List.mem_map.mp hv
    exact hashDigit_lt len c r j)
  rw [List.map_map] at hdigits
  simp only [Function.comp_def] at hdigits
  unfold bitsOf hashOf
  rw [String.toList_ofList, hdigits]
  simp only [Option.bind_eq_bind, Option.bind_some, List.flatMap_map, bits_hashDigit,
    flatMap_range_five]
  rfl

theorem everyOther_map_range (f : Nat → Nat) (m : Nat) :
    everyOther ((List.range m).map f) = (List.range ((m + 1) / 2)).map fun i => f (2 * i) := by
  induction m using Nat.twoStepInduction generalizing f with
  | zero => rfl
  | one => rfl
  | more m ih _ =>
    have hhalf : (m + 2 + 1) / 2 = (m + 1) / 2 + 1 := by omega
    rw [List.range_succ_eq_map, List.range_succ_eq_map, hhalf, List.range_succ_eq_map]
    simp only [List.map_cons, List.map_map, everyOther]
    rw [ih]
    simp [Function.comp_def, Nat.mul_succ]

/-- A number from its binary digits. -/
theorem ofBits_map_range (n c : Nat) :
    ofBits ((List.range n).map fun k => c / 2 ^ (n - 1 - k) % 2) = c % 2 ^ n := by
  induction n generalizing c with
  | zero => simp [ofBits, Nat.mod_one]
  | succ n ih =>
    have hshift : ((List.range n).map fun k => c / 2 ^ (n + 1 - 1 - k) % 2) =
        (List.range n).map fun k => c / 2 / 2 ^ (n - 1 - k) % 2 := by
      refine List.map_congr_left fun k hk => ?_
      have hk := List.mem_range.mp hk
      have hexp : n + 1 - 1 - k = 1 + (n - 1 - k) := by omega
      rw [hexp, pow_add, pow_one, Nat.div_div_eq_div_mul]
    rw [List.range_succ, List.map_append, hshift, ofBits, List.foldl_append, ← ofBits, ih]
    simp only [List.map_cons, List.map_nil, List.foldl_cons, List.foldl_nil, Nat.add_sub_cancel,
      Nat.sub_self, pow_zero, Nat.div_one]
    rw [pow_succ', Nat.mod_mul]
    omega

theorem length_hashOf (len c r : Nat) : (hashOf len c r).length = len := by
  simp [hashOf]

/-- The cell of a hash: digits beyond the grid are lost. -/
theorem cellOf_hashOf {len : Nat} (hlen : 0 < len) (c r : Nat) :
    cellOf (hashOf len c r) = .ok (c % 2 ^ lonBits len, r % 2 ^ latBits len) := by
  have hcol : everyOther ((List.range (5 * len)).map (hashBit len c r)) =
      (List.range (lonBits len)).map fun k => c / 2 ^ (lonBits len - 1 - k) % 2 := by
    rw [everyOther_map_range]
    refine List.map_congr_left fun k _ => ?_
    have heven : 2 * k % 2 = 0 := Nat.mul_mod_right 2 k
    rw [hashBit, if_pos heven, Nat.mul_div_cancel_left k two_pos]
  have htail : ((List.range (5 * len)).map (hashBit len c r)).tail =
      (List.range (5 * len - 1)).map fun i => hashBit len c r (i + 1) := by
    obtain ⟨m, hm⟩ : ∃ m, 5 * len = m + 1 := ⟨5 * len - 1, by omega⟩
    rw [hm, List.range_succ_eq_map]
    simp [Function.comp_def]
  have hrow : everyOther ((List.range (5 * len)).map (hashBit len c r)).tail =
      (List.range (latBits len)).map fun k => r / 2 ^ (latBits len - 1 - k) % 2 := by
    have hcount : (5 * len - 1 + 1) / 2 = latBits len := by
      unfold latBits
      omega
    rw [htail, everyOther_map_range, hcount]
    refine List.map_congr_left fun k _ => ?_
    have hodd : ¬(2 * k + 1) % 2 = 0 := by omega
    have hhalf : (2 * k + 1) / 2 = k := by omega
    rw [hashBit, if_neg hodd, hhalf]
  unfold cellOf
  rw [bitsOf_hashOf]
  simp only [hcol, hrow, ofBits_map_range]

-- ============================================================================
-- Parts of a hash
-- ============================================================================

theorem mod_two_pow_div_mod_two {n k : Nat} (h : k < n) (c : Nat) :
    c % 2 ^ n / 2 ^ k % 2 = c / 2 ^ k % 2 := by
  have hsplit : 2 ^ n = 2 ^ k * 2 ^ (n - k) := by
    rw [← pow_add]
    congr 1
    omega
  rw [hsplit, Nat.mod_mul_right_div_self, Nat.mod_mod_of_dvd]
  exact dvd_pow_self 2 (by omega)

/-- Digits of a column or a row beyond the grid do not show in a hash. -/
theorem hashOf_mod (len c r : Nat) :
    hashOf len (c % 2 ^ lonBits len) (r % 2 ^ latBits len) = hashOf len c r := by
  have hbit : ∀ i < 5 * len,
      hashBit len (c % 2 ^ lonBits len) (r % 2 ^ latBits len) i = hashBit len c r i := by
    intro i hi
    unfold hashBit
    split
    · exact mod_two_pow_div_mod_two (by unfold lonBits; omega) c
    · exact mod_two_pow_div_mod_two (by unfold latBits; omega) r
  unfold hashOf
  congr 1
  refine List.map_congr_left fun j hj => ?_
  have hj := List.mem_range.mp hj
  unfold hashDigit
  rw [hbit _ (by omega), hbit _ (by omega), hbit _ (by omega), hbit _ (by omega),
    hbit _ (by omega)]

/-- The first characters of a hash are the hash of a larger cell. -/
theorem shardPrefixOf_hashOf (c r : Nat) :
    shardPrefixOf (hashOf geohashPrecision c r) =
      hashOf shardPrefixLength (c / 2 ^ 8) (r / 2 ^ 7) := by
  have hbit : ∀ i < 20, hashBit 7 c r i = hashBit 4 (c / 2 ^ 8) (r / 2 ^ 7) i := by
    intro i hi
    have hlon : lonBits 7 - 1 - i / 2 = 8 + (lonBits 4 - 1 - i / 2) := by
      unfold lonBits
      omega
    have hlat : latBits 7 - 1 - i / 2 = 7 + (latBits 4 - 1 - i / 2) := by
      unfold latBits
      omega
    unfold hashBit
    rw [hlon, hlat, pow_add, pow_add, Nat.div_div_eq_div_mul, Nat.div_div_eq_div_mul]
  unfold shardPrefixOf hashOf geohashPrecision shardPrefixLength
  rw [String.toList_ofList, ← List.map_take]
  congr 1
  refine List.map_congr_left fun j hj => ?_
  have hj : j < 4 := List.mem_range.mp hj
  unfold hashDigit
  rw [hbit _ (by omega), hbit _ (by omega), hbit _ (by omega), hbit _ (by omega),
    hbit _ (by omega)]

-- ============================================================================
-- `encode`
-- ============================================================================

section Encode

variable {F : Type} [Field F] [LinearOrder F] [FloorSemiring F]

/-- The crate's `encode`. -/
def Geohash.encode (x y : F) (len : Nat) : Except String String :=
  if x < -(180 : ℕ) ∨ x > (180 : ℕ) ∨ y < -(90 : ℕ) ∨ y > (90 : ℕ) then
    .error "invalid coordinate range"
  else if len < 1 ∨ len > 12 then .error "invalid length specified"
  else
    .ok (hashOf len ⌊(x + (180 : ℕ)) * ((2 ^ lonBits len : ℕ) / (360 : ℕ))⌋₊
      ⌊(y + (90 : ℕ)) * ((2 ^ latBits len : ℕ) / (180 : ℕ))⌋₊)

theorem Geohash.encode_eq (p : Location F) {len : Nat} (hlen : 1 ≤ len ∧ len ≤ 12) :
    Geohash.encode p.lon p.lat len =
      .ok (hashOf len ⌊(p.lon + 180) * (2 ^ lonBits len / 360)⌋₊
        ⌊(p.lat + 90) * (2 ^ latBits len / 180)⌋₊) := by
  have hlat := p.lat_range
  have hlon := p.lon_range
  unfold Geohash.encode
  rw [if_neg, if_neg]
  · simp only [Nat.cast_ofNat, Nat.cast_pow]
  · omega
  · rw [not_or, not_or, not_or, not_lt, not_lt, not_lt, not_lt]
    exact ⟨hlon.1, hlon.2, hlat.1, hlat.2⟩

end Encode

end PulseGrid
