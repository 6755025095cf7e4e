/-
  PulseGrid.Lib.HexText

  Fixed-width hexadecimal texts: written in lowercase, read in either case.
-/

import Mathlib

namespace HexText

def hexDigit (n : Nat) : Char := if n < 10 then Char.ofNat (48 + n) else Char.ofNat (87 + n)

def hexValue (c : Char) : Option Nat :=
  if c.isDigit then some (c.toNat - 48)
  else if 'a' ≤ c ∧ c ≤ 'f' then some (c.toNat - 87)
  else if 'A' ≤ c ∧ c ≤ 'F' then some (c.toNat - 55)
  else none

/-- The last `w` digits of `n`, with leading zeros. -/
def hexDigits : (w : Nat) → Nat → List Char
  | 0, _ => []
  | w + 1, n => hexDigit (n / 16 ^ w % 16) :: hexDigits w n

/-- The number that digits stand for. -/
def hexNumber (s : List Char) : Option Nat :=
  s.foldlM (fun n c => (hexValue c).map fun d => n * 16 + d) 0

theorem hexValue_hexDigit : ∀ n < 16, hexValue (hexDigit n) = some n := by decide

@[simp] theorem length_hexDigits (w n : Nat) : (hexDigits w n).length = w := by
  induction w with
  | zero => rfl
  | succ w ih => rw [hexDigits, List.length_cons, ih]

/-- What is written in `w` digits is read back, but for what does not fit in them. -/
theorem hexNumber_hexDigits (w n : Nat) : hexNumber (hexDigits w n) = some (n % 16 ^ w) := by
  have hfold : ∀ acc, (hexDigits w n).foldlM
      (fun n c => (hexValue c).map fun d => n * 16 + d) acc = some (acc * 16 ^ w + n % 16 ^ w) := by
    induction w with
    | zero => simp [hexDigits, Nat.mod_one]
    | succ w ih =>
        intro acc
        have hdigit := hexValue_hexDigit (n / 16 ^ w % 16) (Nat.mod_lt _ (by decide))
        rw [hexDigits, List.foldlM_cons, hdigit]
        show (hexDigits w n).foldlM _ _ = _
        rw [ih, Nat.mod_pow_succ]
        congr 1
        ring
  rw [hexNumber, hfold, Nat.zero_mul, Nat.zero_add]

end HexText
