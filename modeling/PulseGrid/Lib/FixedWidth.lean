/-
  PulseGrid.Lib.FixedWidth

  Texts made of fixed-width decimal fields, and their comparison character by
  character.

  `digits w n` is `n` in `w` digits.  Texts that start with such a field compare as
  the numbers do, and as their rests where the numbers agree
  (`digits_append_lt_iff`); applied field after field this turns a comparison of
  texts into a lexicographic comparison of numbers.
-/

import Mathlib

namespace FixedWidth

/-- The last digit of `n`. -/
def digit (n : Nat) : Char := Char.ofNat (48 + n % 10)

/-- The last `w` digits of `n`, with leading zeros. -/
def digits : Nat → Nat → List Char
  | 0, _ => []
  | w + 1, n => digit (n / 10 ^ w) :: digits w n

@[simp] theorem length_digits (w n : Nat) : (digits w n).length = w := by
  induction w with
  | zero => rfl
  | succ w ih => rw [digits, List.length_cons, ih]

theorem digit_lt_digit_iff (m n : Nat) : digit m < digit n ↔ m % 10 < n % 10 := by
  have hall : ∀ i < 10, ∀ j < 10, Char.ofNat (48 + i) < Char.ofNat (48 + j) ↔ i < j := by
    decide
  exact hall _ (Nat.mod_lt _ (by decide)) _ (Nat.mod_lt _ (by decide))

theorem digit_eq_digit_iff (m n : Nat) : digit m = digit n ↔ m % 10 = n % 10 := by
  have hlt := digit_lt_digit_iff m n
  have hgt := digit_lt_digit_iff n m
  rw [eq_iff_le_not_lt, not_lt, ← not_lt, hgt, ← not_lt, hlt]
  omega

/-- Texts of equal length in front: compare these, then the rests. -/
theorem append_lt_append_iff {l₁ l₂ r₁ r₂ : List Char} (hlen : l₁.length = l₂.length) :
    l₁ ++ r₁ < l₂ ++ r₂ ↔ l₁ < l₂ ∨ l₁ = l₂ ∧ r₁ < r₂ := by
  induction l₁ generalizing l₂ with
  | nil =>
      cases l₂ with
      | nil => simp
      | cons b l₂ => cases hlen
  | cons a l₁ ih =>
      cases l₂ with
      | nil => cases hlen
      | cons b l₂ =>
          have hlen' : l₁.length = l₂.length := Nat.succ.inj hlen
          rw [List.cons_append, List.cons_append, List.cons_lt_cons_iff, List.cons_lt_cons_iff,
            ih hlen', List.cons.injEq]
          tauto

theorem digits_lt_digits_iff (w m n : Nat) :
    digits w m < digits w n ↔ m % 10 ^ w < n % 10 ^ w := by
  induction w with
  | zero => simp [digits, Nat.mod_one]
  | succ w ih =>
      rw [digits, digits, List.cons_lt_cons_iff, digit_lt_digit_iff, digit_eq_digit_iff, ih,
        Nat.mod_pow_succ, Nat.mod_pow_succ]
      have hm : m % 10 ^ w < 10 ^ w := Nat.mod_lt _ (by positivity)
      have hn : n % 10 ^ w < 10 ^ w := Nat.mod_lt _ (by positivity)
      generalize m / 10 ^ w % 10 = a
      generalize n / 10 ^ w % 10 = b
      generalize m % 10 ^ w = r at hm ⊢
      generalize n % 10 ^ w = s at hn ⊢
      generalize 10 ^ w = p at hm hn ⊢
      rcases lt_trichotomy a b with hab | rfl | hab
      · have hle : p * a + p ≤ p * b := by nlinarith
        omega
      · omega
      · have hle : p * b + p ≤ p * a := by nlinarith
        omega

theorem digits_lt_iff {w m n : Nat} (hm : m < 10 ^ w) (hn : n < 10 ^ w) :
    digits w m < digits w n ↔ m < n := by
  rw [digits_lt_digits_iff, Nat.mod_eq_of_lt hm, Nat.mod_eq_of_lt hn]

theorem digits_inj {w m n : Nat} (hm : m < 10 ^ w) (hn : n < 10 ^ w) :
    digits w m = digits w n ↔ m = n := by
  have hlt := digits_lt_iff hm hn
  have hgt := digits_lt_iff hn hm
  rw [eq_iff_le_not_lt, not_lt, ← not_lt, hgt, ← not_lt, hlt]
  omega

/-- A comparison of two texts starting with a field of `w` digits. -/
theorem digits_append_lt_iff {w m n : Nat} (hm : m < 10 ^ w) (hn : n < 10 ^ w)
    {r s : List Char} : digits w m ++ r < digits w n ++ s ↔ m < n ∨ m = n ∧ r < s := by
  rw [append_lt_append_iff (by simp), digits_lt_iff hm hn, digits_inj hm hn]

/-- The number a text of digits stands for. -/
def number (text : List Char) : Nat := text.foldl (fun n c => n * 10 + (c.toNat - 48)) 0

theorem number_digits (w n : Nat) : number (digits w n) = n % 10 ^ w := by
  have hdigit : ∀ i < 10, (Char.ofNat (48 + i)).toNat - 48 = i := by decide
  have hfold : ∀ acc, (digits w n).foldl (fun n c => n * 10 + (c.toNat - 48)) acc =
      acc * 10 ^ w + n % 10 ^ w := by
    induction w with
    | zero => simp [digits, Nat.mod_one]
    | succ w ih =>
        intro acc
        rw [digits, List.foldl_cons, ih, digit, hdigit _ (Nat.mod_lt _ (by decide)),
          Nat.mod_pow_succ]
        ring
  rw [number, hfold, Nat.zero_mul, Nat.zero_add]

end FixedWidth
