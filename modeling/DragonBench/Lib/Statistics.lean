/-
  File:      DragonBench/Lib/Statistics.lean
  Subject:   Statistics of a list of numbers, exact: Python's `median`, `mean` and `quantiles`, and
             the interpolation between two neighbours of a sequence.

  * `interpolate`, `interpolate_mono` -- of a sequence that rises it rises;
  * `clamped` -- a list as a sequence that goes on with its last entry;
  * `median`, **`median_eq`** -- the middle, halfway between the ends of the positions;
  * `mean`, `mean_ge`, `mean_le` -- the mean is between the bounds of the entries;
  * `quantile` -- the cut points of the exclusive method.
-/
import Mathlib.Algebra.BigOperators.Field
import Mathlib.Algebra.Order.BigOperators.Group.List
import Mathlib.Algebra.Order.Floor.Semiring
import Mathlib.Data.List.GetD
import Mathlib.Data.List.Sort
import Mathlib.Tactic.Linarith
import Mathlib.Tactic.Positivity
import Mathlib.Tactic.Ring

namespace Statistics

universe u

/-! ## 1. Interpolation -/

/-- Between the entry at a position and the next one. -/
def interpolate {K : Type u} [Field K] [LinearOrder K] [FloorSemiring K] (v : Nat → K) (x : K) : K :=
  v ⌊x⌋₊ + (v (⌊x⌋₊ + 1) - v ⌊x⌋₊) * (x - ⌊x⌋₊)

section Interpolate

variable {K : Type u} [Field K] [LinearOrder K] [IsStrictOrderedRing K] [FloorSemiring K]
  {v : Nat → K} {x : K}

theorem floor_frac (hx : 0 ≤ x) : 0 ≤ x - ⌊x⌋₊ ∧ x - ⌊x⌋₊ ≤ 1 := by
  have h1 := Nat.floor_le hx
  have h2 := (Nat.lt_floor_add_one x).le
  constructor <;> linarith

theorem interpolate_ge (hv : Monotone v) (hx : 0 ≤ x) : v ⌊x⌋₊ ≤ interpolate v x := by
  have hstep : 0 ≤ v (⌊x⌋₊ + 1) - v ⌊x⌋₊ := sub_nonneg.mpr (hv (Nat.le_succ _))
  exact le_add_of_nonneg_right (mul_nonneg hstep (floor_frac hx).1)

theorem interpolate_le (hv : Monotone v) (hx : 0 ≤ x) : interpolate v x ≤ v (⌊x⌋₊ + 1) := by
  have hstep : 0 ≤ v (⌊x⌋₊ + 1) - v ⌊x⌋₊ := sub_nonneg.mpr (hv (Nat.le_succ _))
  have hmul := mul_le_of_le_one_right hstep (floor_frac hx).2
  unfold interpolate
  linarith

/-- **Between the entries of a sequence that rises the interpolation rises.** -/
theorem interpolate_mono (hv : Monotone v) : MonotoneOn (interpolate v) (Set.Ici 0) := by
  intro x hx y hy hxy
  rcases lt_or_eq_of_le (Nat.floor_mono hxy) with hlt | heq
  · calc interpolate v x ≤ v (⌊x⌋₊ + 1) := interpolate_le hv hx
      _ ≤ v ⌊y⌋₊ := hv hlt
      _ ≤ interpolate v y := interpolate_ge hv hy
  · -- between the same neighbours the slope decides
    have hstep : 0 ≤ v (⌊y⌋₊ + 1) - v ⌊y⌋₊ := sub_nonneg.mpr (hv (Nat.le_succ _))
    unfold interpolate
    rw [heq]
    have hmul := mul_le_mul_of_nonneg_left (sub_le_sub_right hxy (⌊y⌋₊ : K)) hstep
    linarith

theorem interpolate_natCast (v : Nat → K) (n : Nat) : interpolate v (n : K) = v n := by
  unfold interpolate
  rw [Nat.floor_natCast, sub_self, mul_zero, add_zero]

theorem interpolate_half (v : Nat → K) (n : Nat) :
    interpolate v ((n : K) + 1 / 2) = (v n + v (n + 1)) / 2 := by
  have hfloor : ⌊(n : K) + 1 / 2⌋₊ = n := by
    rw [Nat.floor_eq_iff (by positivity)]
    constructor <;> linarith
  unfold interpolate
  rw [hfloor]
  ring

end Interpolate

/-! ## 2. A list as a sequence -/

section Clamped

variable {K : Type u} [Zero K]

/-- The entry at a position, the last one behind the end. -/
def clamped (l : List K) (i : Nat) : K := l.getD (min i (l.length - 1)) 0

theorem clamped_of_lt {l : List K} {i : Nat} (hi : i < l.length) : clamped l i = l.getD i 0 := by
  rw [clamped, Nat.min_eq_left (by omega)]

theorem clamped_mono [LinearOrder K] {l : List K} (hl : l.SortedLE) : Monotone (clamped l) := by
  intro i j hij
  unfold clamped
  by_cases h0 : l.length = 0
  · rw [List.eq_nil_of_length_eq_zero h0]
    exact le_refl _
  · have hi : min i (l.length - 1) < l.length := by omega
    have hj : min j (l.length - 1) < l.length := by omega
    rw [List.getD_eq_getElem _ _ hi, List.getD_eq_getElem _ _ hj]
    exact hl.getElem_le_getElem_of_le (min_le_min_right _ hij)

end Clamped

/-! ## 3. Median, mean and quantiles -/

section Sorted

variable {K : Type u} [LinearOrder K]

/-- The entries in order. -/
def sorted (l : List K) : List K := l.insertionSort (· ≤ ·)

theorem sorted_perm (l : List K) : (sorted l).Perm l := List.perm_insertionSort _ l

theorem sorted_sortedLE (l : List K) : (sorted l).SortedLE := List.sortedLE_insertionSort

theorem sorted_of_sortedLE {l : List K} (h : l.SortedLE) : sorted l = l :=
  h.pairwise.insertionSort_eq

end Sorted

section Functions

variable {K : Type u} [Field K] [LinearOrder K]

/-- `statistics.median`. -/
def median (data : List K) : K :=
  let l := sorted data
  let n := l.length
  if n % 2 = 1 then l.getD (n / 2) 0 else (l.getD (n / 2 - 1) 0 + l.getD (n / 2) 0) / 2

/-- `statistics.mean`. -/
def mean (data : List K) : K := data.sum / data.length

/-- The `i`-th of the cut points `statistics.quantiles` finds for `n` parts. -/
def quantile (data : List K) (n i : Nat) : K :=
  let l := sorted data
  let m := l.length + 1
  let j := if i * m / n < 1 then 1 else if l.length - 1 < i * m / n then l.length - 1 else i * m / n
  let delta : Int := i * m - j * n
  (l.getD (j - 1) 0 * ((n - delta : Int) : K) + l.getD j 0 * (delta : K)) / n

variable [IsStrictOrderedRing K]

/-- **The median is the value halfway between the first position and the last.** -/
theorem median_eq [FloorSemiring K] {l : List K} (hl : l.SortedLE) (hne : l ≠ []) :
    median l = interpolate (clamped l) (((l.length : K) - 1) / 2) := by
  have hpos : 0 < l.length := List.length_pos_iff.mpr hne
  unfold median
  rw [sorted_of_sortedLE hl]
  dsimp only
  rcases Nat.even_or_odd' l.length with ⟨m, hm | hm⟩
  · -- two middle entries
    obtain ⟨k, rfl⟩ : ∃ k, m = k + 1 := ⟨m - 1, by omega⟩
    have hx : ((l.length : K) - 1) / 2 = (k : K) + 1 / 2 := by
      rw [hm]
      push_cast
      ring
    rw [if_neg (by omega), hx, interpolate_half, clamped_of_lt (by omega), clamped_of_lt (by omega)]
    have h1 : l.length / 2 = k + 1 := by omega
    rw [h1, Nat.add_sub_cancel]
  · have hx : ((l.length : K) - 1) / 2 = (m : K) := by
      rw [hm]
      push_cast
      ring
    rw [if_pos (by omega), hx, interpolate_natCast, clamped_of_lt (by omega)]
    have h1 : l.length / 2 = m := by omega
    rw [h1]

variable {l : List K} {a : K}

theorem mean_ge (hne : l ≠ []) (h : ∀ x ∈ l, a ≤ x) : a ≤ mean l := by
  have hpos : (0 : K) < l.length := Nat.cast_pos.mpr (List.length_pos_iff.mpr hne)
  have hsum := List.card_nsmul_le_sum l a h
  rw [nsmul_eq_mul] at hsum
  rw [mean, le_div_iff₀ hpos, mul_comm]
  exact hsum

theorem mean_le (hne : l ≠ []) (h : ∀ x ∈ l, x ≤ a) : mean l ≤ a := by
  have hpos : (0 : K) < l.length := Nat.cast_pos.mpr (List.length_pos_iff.mpr hne)
  have hsum := List.sum_le_card_nsmul l a h
  rw [nsmul_eq_mul] at hsum
  rw [mean, div_le_iff₀ hpos, mul_comm]
  exact hsum

end Functions

end Statistics
