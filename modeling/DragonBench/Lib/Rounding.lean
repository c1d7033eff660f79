/-
  File:      DragonBench/Lib/Rounding.lean
  Subject:   Rounding to the nearest, a half to the even neighbour, as Python's `round` and its
             fixed-point format do; numbers are the rationals they stand for.

  * `halfEven`, `roundTo` -- `round(q)`, `round(q, places)`;
  * `roundTo_mono` -- rounding keeps the order;
  * `fixed` -- `format(q, ".2f")` for any number of places.
-/
import DragonBench.Lib.Text
import Mathlib.Data.Rat.Floor
import Mathlib.Tactic.Linarith
import Mathlib.Tactic.Positivity

namespace Rounding

/-- The nearest integer, of two the even one. -/
def halfEven (q : ℚ) : ℤ :=
  if q - ⌊q⌋ < 1 / 2 then ⌊q⌋
  else if 1 / 2 < q - ⌊q⌋ then ⌊q⌋ + 1
  else if ⌊q⌋ % 2 = 0 then ⌊q⌋ else ⌊q⌋ + 1

/-- `round(q, places)`. -/
def roundTo (places : Nat) (q : ℚ) : ℚ := halfEven (q * 10 ^ places) / 10 ^ places

/-- A number of `places` digits behind the point: `format(q, ".2f")` for two. -/
def fixed (places : Nat) (q : ℚ) : CText :=
  let n := (halfEven (|q| * 10 ^ places)).toNat
  let digits := CText.decimal (n % 10 ^ places)
  (if q < 0 then ['-'] else []) ++ CText.decimal (n / 10 ^ places) ++
    '.' :: (List.replicate (places - digits.length) '0' ++ digits)

theorem halfEven_bounds (q : ℚ) : ⌊q⌋ ≤ halfEven q ∧ halfEven q ≤ ⌊q⌋ + 1 := by
  unfold halfEven
  split
  · omega
  · split
    · omega
    · split <;> omega

/-- **Rounding keeps the order.** -/
theorem halfEven_mono {p q : ℚ} (hpq : p ≤ q) : halfEven p ≤ halfEven q := by
  rcases lt_or_eq_of_le (Int.floor_le_floor hpq) with hlt | heq
  · have hp := (halfEven_bounds p).2
    have hq := (halfEven_bounds q).1
    omega
  · -- the fractions are compared with the same half
    have hfrac : p - ⌊p⌋ ≤ q - ⌊q⌋ := by
      rw [heq]
      linarith
    unfold halfEven
    rw [heq] at hfrac ⊢
    split_ifs <;> first | omega | (exfalso; linarith)

theorem roundTo_mono (places : Nat) : Monotone (roundTo places) := by
  intro p q hpq
  unfold roundTo
  have hpow : (0 : ℚ) < 10 ^ places := by positivity
  have hn : halfEven (p * 10 ^ places) ≤ halfEven (q * 10 ^ places) :=
    halfEven_mono (mul_le_mul_of_nonneg_right hpq hpow.le)
  exact div_le_div_of_nonneg_right (by exact_mod_cast hn) hpow.le

example : roundTo 2 (1 / 8) = 12 / 100 := by decide +kernel

example : fixed 2 (-1 / 1000) = "-0.00".toList := by decide +kernel

end Rounding
