/-
  PulseGrid.Lib.Float64

  IEEE 754 binary64 by its bits, in exact integer arithmetic.

  A value that is not a NaN is a multiple of 2^-1074; `scaled` is that multiple, with the
  infinities beyond every finite value, so that comparisons are comparisons of integers.
  Arithmetic rounds the exact quotient of two integers (`roundRatio`, to nearest, ties to
  even), so whole numbers below 2^53 are added exactly (`add_ofNat`).  `display` is the
  shortest decimal text that rounds back, without an exponent.
-/

import PulseGrid.Lib.FixedWidth

/-- A double, by its bits. -/
structure Float64 where
  bits : BitVec 64
deriving DecidableEq, Repr

namespace Float64

-- ============================================================================
-- Values
-- ============================================================================

def isNegative (x : Float64) : Bool := decide (2 ^ 63 ≤ x.bits.toNat)

/-- The bits without the sign. -/
def magnitude (x : Float64) : Nat := x.bits.toNat % 2 ^ 63

def infMagnitude : Nat := 0x7FF0_0000_0000_0000

def isNaN (x : Float64) : Bool := decide (infMagnitude < x.magnitude)

def isInfinite (x : Float64) : Bool := x.magnitude == infMagnitude

/-- The value of a magnitude in units of 2^-1074: subnormal below 2^52. -/
def scaledMagnitude (mag : Nat) : Nat :=
  if mag < 2 ^ 52 then mag else (2 ^ 52 + mag % 2 ^ 52) * 2 ^ (mag / 2 ^ 52 - 1)

def scaled (x : Float64) : Int :=
  if x.isNegative then -(scaledMagnitude x.magnitude : Int) else scaledMagnitude x.magnitude

def ofMagnitude (negative : Bool) (mag : Nat) : Float64 :=
  ⟨BitVec.ofNat 64 (if negative then 2 ^ 63 + mag else mag)⟩

def zero : Float64 := ofMagnitude false 0

def nan : Float64 := ofMagnitude false 0x7FF8_0000_0000_0000

-- ============================================================================
-- Comparison
-- ============================================================================

/-- `<=`, false on a NaN. -/
def le (x y : Float64) : Bool := !x.isNaN && !y.isNaN && decide (x.scaled ≤ y.scaled)

/-- `<`, false on a NaN. -/
def lt (x y : Float64) : Bool := !x.isNaN && !y.isNaN && decide (x.scaled < y.scaled)

theorem le_iff {x y : Float64} :
    le x y = true ↔ x.isNaN = false ∧ y.isNaN = false ∧ x.scaled ≤ y.scaled := by
  simp [le, and_assoc]

/-- The order of the values, for values that are not NaN.  `partial_cmp` gives it. -/
def ValueLE (x y : Float64) : Prop := x.scaled ≤ y.scaled

instance : DecidableRel ValueLE := fun x y => inferInstanceAs (Decidable (x.scaled ≤ y.scaled))

instance : Std.Total ValueLE := ⟨fun x y => Int.le_total x.scaled y.scaled⟩

instance : IsTrans Float64 ValueLE := ⟨fun _ _ _ => Int.le_trans⟩

theorem le_of_le_of_valueLE {v x y : Float64} (h : le v x = true) (hxy : ValueLE x y)
    (hy : y.isNaN = false) : le v y = true := by
  obtain ⟨hv, -, hvx⟩ := le_iff.mp h
  exact le_iff.mpr ⟨hv, hy, Int.le_trans hvx hxy⟩

-- ============================================================================
-- Arithmetic
-- ============================================================================

/-- The magnitude nearest to `p / q`, ties to even; infinite when that is too large. -/
def roundRatio (p q : Nat) : Nat :=
  if p = 0 then 0
  else
    let guess : Int := (Nat.log2 p : Int) - Nat.log2 q
    let log := if p * 2 ^ (-guess).toNat < q * 2 ^ guess.toNat then guess - 1 else guess
    -- the exponent of the last place, down to the subnormal ones
    let place := max (-1074) (log - 52)
    let num := p * 2 ^ (-place).toNat
    let den := q * 2 ^ place.toNat
    let m := num / den
    let r := num % den
    let rounded := if den < 2 * r ∨ 2 * r = den ∧ m % 2 = 1 then m + 1 else m
    min infMagnitude ((place + 1074).toNat * 2 ^ 52 + rounded)

/-- `as f64` of an unsigned integer. -/
def ofNat (n : Nat) : Float64 := ofMagnitude false (roundRatio n 1)

/-- The sum rounded: of the exact values, as multiples of 2^-1074. -/
def add (x y : Float64) : Float64 :=
  if x.isNaN || y.isNaN then nan
  else if x.isInfinite then
    if y.isInfinite && (x.isNegative != y.isNegative) then nan else x
  else if y.isInfinite then y
  else
    let sum := x.scaled + y.scaled
    if sum = 0 then ofMagnitude (x.isNegative && y.isNegative) 0
    else ofMagnitude (decide (sum < 0)) (roundRatio sum.natAbs (2 ^ 1074))

def mul (x y : Float64) : Float64 :=
  let negative := x.isNegative != y.isNegative
  if x.isNaN || y.isNaN then nan
  else if x.isInfinite || y.isInfinite then
    if x.magnitude = 0 ∨ y.magnitude = 0 then nan else ofMagnitude negative infMagnitude
  else
    ofMagnitude negative
      (roundRatio (scaledMagnitude x.magnitude * scaledMagnitude y.magnitude) (2 ^ 2148))

def div (x y : Float64) : Float64 :=
  let negative := x.isNegative != y.isNegative
  if x.isNaN || y.isNaN then nan
  else if x.isInfinite then if y.isInfinite then nan else ofMagnitude negative infMagnitude
  else if y.isInfinite then ofMagnitude negative 0
  else if y.magnitude = 0 then
    if x.magnitude = 0 then nan else ofMagnitude negative infMagnitude
  else
    ofMagnitude negative (roundRatio (scaledMagnitude x.magnitude) (scaledMagnitude y.magnitude))

/-- `f64::max`: the other one when one is a NaN. -/
def max (x y : Float64) : Float64 :=
  if x.isNaN then y else if y.isNaN then x else if le x y then y else x

/-- `as u64`: towards zero and saturating, zero for a NaN. -/
def toU64 (x : Float64) : UInt64 :=
  if x.isNaN || x.isNegative then 0
  else UInt64.ofNat (min (2 ^ 64 - 1) (scaledMagnitude x.magnitude / 2 ^ 1074))

-- ============================================================================
-- Whole numbers
-- ============================================================================

/-- The magnitude of a whole number below 2^53. -/
def wholeMagnitude (n : Nat) : Nat :=
  if n = 0 then 0 else (Nat.log2 n + 1022) * 2 ^ 52 + n * 2 ^ (52 - Nat.log2 n)

theorem log2_le_of_lt {n : Nat} (hpos : n ≠ 0) (h : n < 2 ^ 53) : Nat.log2 n ≤ 52 :=
  Nat.lt_succ_iff.mp ((Nat.log2_lt hpos).mpr h)

/-- With the exponent of its highest digit, the significand has 53 digits. -/
theorem significand_range {n : Nat} (hpos : n ≠ 0) (h : n < 2 ^ 53) :
    2 ^ 52 ≤ n * 2 ^ (52 - Nat.log2 n) ∧ n * 2 ^ (52 - Nat.log2 n) < 2 ^ 53 := by
  have hlog := log2_le_of_lt hpos h
  have hsplit : 52 = Nat.log2 n + (52 - Nat.log2 n) := by omega
  refine ⟨?_, ?_⟩
  · calc 2 ^ 52 = 2 ^ Nat.log2 n * 2 ^ (52 - Nat.log2 n) := by rw [← Nat.pow_add, ← hsplit]
      _ ≤ n * 2 ^ (52 - Nat.log2 n) := Nat.mul_le_mul_right _ (Nat.log2_self_le hpos)
  · calc n * 2 ^ (52 - Nat.log2 n) < 2 ^ (Nat.log2 n + 1) * 2 ^ (52 - Nat.log2 n) :=
          Nat.mul_lt_mul_of_pos_right Nat.lt_log2_self (Nat.two_pow_pos _)
      _ = 2 ^ 53 := by
          rw [← Nat.pow_add]
          congr 1
          omega

theorem log2_mul_two_pow {n : Nat} (hpos : n ≠ 0) (k : Nat) :
    Nat.log2 (n * 2 ^ k) = Nat.log2 n + k := by
  have hne : n * 2 ^ k ≠ 0 := Nat.mul_ne_zero hpos (Nat.two_pow_pos k).ne'
  refine (Nat.log2_eq_iff hne).mpr ⟨?_, ?_⟩
  · rw [Nat.pow_add]
    exact Nat.mul_le_mul_right _ (Nat.log2_self_le hpos)
  · rw [Nat.add_right_comm, Nat.pow_add]
    exact Nat.mul_lt_mul_of_pos_right Nat.lt_log2_self (Nat.two_pow_pos k)

/-- Whole numbers below 2^53 are not rounded, in whatever units they are given. -/
theorem roundRatio_whole {n : Nat} (h : n < 2 ^ 53) (k : Nat) :
    roundRatio (n * 2 ^ k) (2 ^ k) = wholeMagnitude n := by
  by_cases hpos : n = 0
  · subst hpos
    unfold roundRatio
    rw [if_pos (Nat.zero_mul _), wholeMagnitude, if_pos rfl]
  · have hlog := log2_le_of_lt hpos h
    have hk : 2 ^ k ≠ 0 := (Nat.two_pow_pos k).ne'
    obtain ⟨-, hsig⟩ := significand_range hpos h
    have hguess : (Nat.log2 (n * 2 ^ k) : Int) - Nat.log2 (2 ^ k) = Nat.log2 n := by
      rw [log2_mul_two_pow hpos, Nat.log2_two_pow]
      omega
    have hneg : (-(Nat.log2 n : Int)).toNat = 0 := by omega
    have hle : ¬n * 2 ^ k < 2 ^ k * 2 ^ Nat.log2 n := by
      rw [Nat.mul_comm (2 ^ k), Nat.not_lt]
      exact Nat.mul_le_mul_right _ (Nat.log2_self_le hpos)
    have hplace : Max.max (-1074) ((Nat.log2 n : Int) - 52) = (Nat.log2 n : Int) - 52 := by omega
    have hup : (-((Nat.log2 n : Int) - 52)).toNat = 52 - Nat.log2 n := by omega
    have hdown : ((Nat.log2 n : Int) - 52).toNat = 0 := by omega
    have hexp : ((Nat.log2 n : Int) - 52 + 1074).toNat = Nat.log2 n + 1022 := by omega
    have hnum : n * 2 ^ k * 2 ^ (52 - Nat.log2 n) = n * 2 ^ (52 - Nat.log2 n) * 2 ^ k :=
      Nat.mul_right_comm _ _ _
    have hexact : ¬(2 ^ k < 2 * 0 ∨ 2 * 0 = 2 ^ k ∧ n * 2 ^ (52 - Nat.log2 n) % 2 = 1) := by
      rw [Nat.mul_zero, not_or]
      exact ⟨Nat.not_lt_zero _, fun hzero => hk hzero.1.symm⟩
    have hfinite : (Nat.log2 n + 1022) * 2 ^ 52 + n * 2 ^ (52 - Nat.log2 n) ≤ infMagnitude := by
      rw [infMagnitude]
      omega
    unfold roundRatio
    rw [if_neg (Nat.mul_ne_zero hpos hk)]
    simp only [hguess, hneg, Int.toNat_natCast, Nat.pow_zero, Nat.mul_one, if_neg hle, hplace, hup,
      hdown, hexp, hnum]
    rw [Nat.mul_div_cancel _ (Nat.two_pow_pos k), Nat.mul_mod_left, if_neg hexact,
      Nat.min_eq_right hfinite, wholeMagnitude, if_neg hpos]

/-- The value of the magnitude is the number. -/
theorem scaledMagnitude_whole {n : Nat} (h : n < 2 ^ 53) :
    scaledMagnitude (wholeMagnitude n) = n * 2 ^ 1074 := by
  by_cases hpos : n = 0
  · subst hpos
    rw [wholeMagnitude, if_pos rfl, scaledMagnitude, if_pos (by decide), Nat.zero_mul]
  · have hlog := log2_le_of_lt hpos h
    obtain ⟨hlow, hhigh⟩ := significand_range hpos h
    rw [wholeMagnitude, if_neg hpos]
    generalize hsig : n * 2 ^ (52 - Nat.log2 n) = sig at hlow hhigh
    have hfield : ((Nat.log2 n + 1022) * 2 ^ 52 + sig) / 2 ^ 52 - 1 = Nat.log2 n + 1022 := by omega
    have hfraction : 2 ^ 52 + ((Nat.log2 n + 1022) * 2 ^ 52 + sig) % 2 ^ 52 = sig := by omega
    have hnormal : ¬(Nat.log2 n + 1022) * 2 ^ 52 + sig < 2 ^ 52 := by omega
    have hplaces : 52 - Nat.log2 n + (Nat.log2 n + 1022) = 1074 := by omega
    have hvalue : sig * 2 ^ (Nat.log2 n + 1022) = n * 2 ^ 1074 := by
      rw [← hsig, Nat.mul_assoc, ← Nat.pow_add]
      exact congrArg (fun e => n * 2 ^ e) hplaces
    unfold scaledMagnitude
    rw [if_neg hnormal, hfield, hfraction]
    exact hvalue

theorem wholeMagnitude_lt {n : Nat} (h : n < 2 ^ 53) : wholeMagnitude n < infMagnitude := by
  unfold wholeMagnitude
  split
  · decide
  · next hpos =>
      have hlog := log2_le_of_lt hpos h
      obtain ⟨-, hhigh⟩ := significand_range hpos h
      rw [infMagnitude]
      omega

/-- What `ofNat` makes of a whole number below 2^53. -/
structure IsWhole (x : Float64) (n : Nat) : Prop where
  isNaN : x.isNaN = false
  isInfinite : x.isInfinite = false
  isNegative : x.isNegative = false
  scaled : x.scaled = ((n * 2 ^ 1074 : Nat) : Int)

theorem isWhole_ofNat {n : Nat} (h : n < 2 ^ 53) : IsWhole (ofNat n) n := by
  have hround : roundRatio n 1 = wholeMagnitude n := by
    have hwhole := roundRatio_whole h 0
    rwa [Nat.pow_zero, Nat.mul_one] at hwhole
  have hlt := wholeMagnitude_lt h
  have hbits : (ofNat n).bits.toNat = wholeMagnitude n := by
    rw [ofNat, hround]
    refine (BitVec.toNat_ofNat _ _).trans (Nat.mod_eq_of_lt ?_)
    exact hlt.trans (by decide)
  have hmag : (ofNat n).magnitude = wholeMagnitude n := by
    rw [magnitude, hbits]
    exact Nat.mod_eq_of_lt (hlt.trans (by decide))
  have hsign : (ofNat n).isNegative = false := by
    rw [isNegative, hbits]
    exact decide_eq_false (Nat.not_le.mpr (hlt.trans (by decide)))
  refine ⟨?_, ?_, hsign, ?_⟩
  · rw [isNaN, hmag]
    exact decide_eq_false hlt.le.not_gt
  · rw [isInfinite, hmag]
    exact beq_false_of_ne hlt.ne
  · unfold scaled
    rw [hsign, hmag, scaledMagnitude_whole h]
    rfl

theorem ofNat_zero : ofNat 0 = zero := by
  unfold ofNat roundRatio
  rw [if_pos rfl]
  rfl

/-- **Sums of whole numbers are exact as long as they stay below 2^53.** -/
theorem add_ofNat {m n : Nat} (h : m + n < 2 ^ 53) : add (ofNat m) (ofNat n) = ofNat (m + n) := by
  have hm := isWhole_ofNat (n := m) (by omega)
  have hn := isWhole_ofNat (n := n) (by omega)
  have hsum : (ofNat m).scaled + (ofNat n).scaled = (((m + n) * 2 ^ 1074 : Nat) : Int) := by
    rw [hm.scaled, hn.scaled, Nat.add_mul]
    exact (Int.natCast_add _ _).symm
  have hround : roundRatio ((m + n) * 2 ^ 1074) (2 ^ 1074) = roundRatio (m + n) 1 := by
    have hunits := roundRatio_whole h 0
    rw [Nat.pow_zero, Nat.mul_one] at hunits
    rw [roundRatio_whole h, hunits]
  unfold add
  rw [hm.isNaN, hn.isNaN, hm.isInfinite, hn.isInfinite, hm.isNegative, hn.isNegative, hsum]
  simp only [Bool.or_self, Bool.false_eq_true, if_false, Bool.and_self]
  generalize 1074 = k at hround ⊢
  by_cases hzero : m + n = 0
  · rw [hzero, Nat.zero_mul, if_pos Nat.cast_zero, ofNat_zero]
    rfl
  · have hne : (m + n) * 2 ^ k ≠ 0 := Nat.mul_ne_zero hzero (Nat.two_pow_pos k).ne'
    rw [if_neg (Int.natCast_ne_zero.mpr hne), decide_eq_false (Int.not_lt.mpr (Int.natCast_nonneg _)),
      Int.natAbs_natCast, hround]
    rfl

theorem lt_ofNat {m n : Nat} (hm : m < 2 ^ 53) (hn : n < 2 ^ 53) :
    lt (ofNat m) (ofNat n) = decide (m < n) := by
  have hx := isWhole_ofNat hm
  have hy := isWhole_ofNat hn
  unfold lt
  rw [hx.isNaN, hy.isNaN, hx.scaled, hy.scaled]
  generalize 1074 = k
  simp only [Bool.not_false, Bool.true_and, decide_eq_decide, Int.ofNat_lt]
  exact Nat.mul_lt_mul_right (Nat.two_pow_pos k)

-- ============================================================================
-- Text
-- ============================================================================

/-- A decimal number of `places` digits after the point, zeros before it when negative. -/
def decimalText (d : Nat) (places : Int) : List Char :=
  if places ≤ 0 then Nat.toDigits 10 d ++ List.replicate (-places).toNat '0'
  else
    Nat.toDigits 10 (d / 10 ^ places.toNat) ++
      '.' :: FixedWidth.digits places.toNat (d % 10 ^ places.toNat)

/-- The candidates with `places` digits after the point around `v / 2^1074`, nearest first, that
    round to the magnitude. -/
def candidate (mag : Nat) (places : Int) : Option Nat :=
  let num := scaledMagnitude mag * 10 ^ places.toNat
  let den := 2 ^ 1074 * 10 ^ (-places).toNat
  let low := num / den
  let order := if 2 * (num % den) ≤ den then [low, low + 1] else [low + 1, low]
  order.find? fun d =>
    roundRatio (d * 10 ^ (-places).toNat) (10 ^ places.toNat) = mag

/-- The exact expansion, as a multiple of 10^-1074. -/
def exactText (mag : Nat) : List Char := decimalText (scaledMagnitude mag * 5 ^ 1074) 1074

/-- The text with the least number of places that has a candidate, from 309 zeros before the
    point on. -/
def shortest (mag : Nat) : List Char :=
  let found := (List.range 1383).findSome? fun i =>
    let places : Int := (i : Int) - 309
    (candidate mag places).map fun d => decimalText d places
  found.getD (exactText mag)

/-- `Display`. -/
def display (x : Float64) : List Char :=
  if x.isNaN then "NaN".toList
  else
    let text := if x.isInfinite then "inf".toList
      else if x.magnitude = 0 then "0".toList
      else shortest x.magnitude
    if x.isNegative then '-' :: text else text

end Float64
