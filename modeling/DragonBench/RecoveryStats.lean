/-
  File:      DragonBench/RecoveryStats.lean
  Subject:   THE RECOVERY TIMES OF A CLASS: `recovery_stats` (`tools/analyze_summary.py`), with exact
             numbers, over every list of records.

  `pct` interpolates between two sorted neighbours with index arithmetic of its own; the median
  comes from `statistics`. Both are values of one sequence that rises: the sorted times, the last
  one repeated.

  * `pct`, `pctLower`, `pctUpper` -- the percentile and its two positions;
  * `quartiles`, `fences` -- the bounds of the outliers;
  * `recoveryRow`, `recoveryStats` -- a row, and the table;
  * `pct_eq` -- the percentile as an interpolation;
  * `RecoveryHolds` -- what a row reports, in order and in place;
  * **`recovery_stats_hold`** -- it does, for every class with a recovery time.
-/
import DragonBench.Lib.Statistics
import DragonBench.Summary
import Mathlib.Algebra.Order.Floor.Ring

namespace DragonBench

open Rounding Statistics

/-! ## 1. The table -/

/-- `int(k)` at the fraction `p` of `n` values (`k` is not negative). -/
def pctLower (n : Nat) (p : ℚ) : Nat := ⌊((n : ℚ) - 1) * p⌋₊

/-- `min(int(k) + 1, n - 1)`. -/
def pctUpper (n : Nat) (p : ℚ) : Nat := min (pctLower n p + 1) (n - 1)

/-- `pct`. -/
def pct (values : List ℚ) (p : ℚ) : ℚ :=
  let n := values.length
  if n = 1 then values.getD 0 0
  else
    let k := ((n : ℚ) - 1) * p
    values.getD (pctLower n p) 0 +
      (values.getD (pctUpper n p) 0 - values.getD (pctLower n p) 0) * (k - pctLower n p)

/-- `q1` and `q3`. -/
def quartiles (values : List ℚ) : ℚ × ℚ :=
  if 4 ≤ values.length then (quantile values 4 1, quantile values 4 3)
  else (values.getD 0 0, values.getD (values.length - 1) 0)

/-- `lo` and `hi`. -/
def fences (values : List ℚ) : ℚ × ℚ :=
  let (q1, q3) := quartiles values
  let iqr := q3 - q1
  (q1 - 3 / 2 * iqr, q3 + 3 / 2 * iqr)

/-- `v < lo or v > hi`. -/
def isOutlier (values : List ℚ) (v : ℚ) : Bool :=
  decide (v < (fences values).1) || decide (v > (fences values).2)

/-- What is reported of a class with a recovery time. -/
structure RecoveryNumbers where
  min : ℚ
  median : ℚ
  mean : ℚ
  p95 : ℚ
  max : ℚ
  outliers : List ℚ
  deriving DecidableEq, Repr

structure RecoveryRow where
  resetClass : CText
  n : Nat
  missing : Nat
  numbers : Option RecoveryNumbers
  deriving DecidableEq, Repr

/-- The recovery times of a class. -/
def recoveryTimes (recs : List SummaryRecord) : List ℚ := recs.filterMap SummaryRecord.httpRecoveryS

def recoveryNumbers (values : List ℚ) : RecoveryNumbers where
  min := roundTo 2 (values.min?.getD 0)
  median := roundTo 2 (median values)
  mean := roundTo 2 (mean values)
  p95 := roundTo 2 (pct values (95 / 100))
  max := roundTo 2 (values.max?.getD 0)
  outliers := (values.filter (isOutlier values)).map (roundTo 2)

/-- A row of `recovery_stats`. -/
def recoveryRow (cls : CText) (recs : List SummaryRecord) : RecoveryRow :=
  let values := sorted (recoveryTimes recs)
  let missing := recs.countP fun r => r.httpRecoveryS.isNone
  if values = [] then ⟨cls, 0, missing, none⟩
  else ⟨cls, values.length, missing, some (recoveryNumbers values)⟩

def recoveryStats (grouped : List (CText × List SummaryRecord)) : List RecoveryRow :=
  grouped.map fun g => recoveryRow g.1 g.2

/-! ## 2. The percentile -/

section Percentile

variable {values : List ℚ} {p q : ℚ}

/-- The position of a fraction. -/
theorem position_nonneg (hne : values ≠ []) (hp : 0 ≤ p) : 0 ≤ ((values.length : ℚ) - 1) * p := by
  have hpos : (1 : ℚ) ≤ values.length := by exact_mod_cast List.length_pos_iff.mpr hne
  exact mul_nonneg (by linarith) hp

/-- **Both positions are inside the list.** -/
theorem pct_inside (hne : values ≠ []) (hp1 : p ≤ 1) :
    pctLower values.length p < values.length ∧ pctUpper values.length p < values.length := by
  have hpos : 0 < values.length := List.length_pos_iff.mpr hne
  have hcast : ((values.length - 1 : Nat) : ℚ) = (values.length : ℚ) - 1 := by
    rw [Nat.cast_sub hpos, Nat.cast_one]
  have hle : pctLower values.length p ≤ values.length - 1 := by
    refine Nat.floor_le_of_le ?_
    rw [hcast]
    have hn : (0 : ℚ) ≤ (values.length : ℚ) - 1 := by rw [← hcast]; positivity
    exact mul_le_of_le_one_right hn hp1
  unfold pctUpper
  omega

/-- **The percentile is an interpolation** of the sorted values. -/
theorem pct_eq (hne : values ≠ []) (hp1 : p ≤ 1) :
    pct values p = interpolate (clamped values) (((values.length : ℚ) - 1) * p) := by
  obtain ⟨hlower, -⟩ := pct_inside hne hp1
  unfold pct
  dsimp only
  split
  · rename_i h1
    have hzero : ((values.length : ℚ) - 1) * p = ((0 : Nat) : ℚ) := by
      rw [h1]
      simp
    rw [hzero, interpolate_natCast, clamped_of_lt (by omega)]
  · have hupper : clamped values (pctLower values.length p + 1) =
        values.getD (pctUpper values.length p) 0 := rfl
    have hfloor : ⌊((values.length : ℚ) - 1) * p⌋₊ = pctLower values.length p := rfl
    unfold interpolate
    rw [hfloor, hupper, clamped_of_lt hlower]

/-- **A larger fraction has a larger percentile.** -/
theorem pct_mono (hne : values ≠ []) (hs : values.SortedLE) :
    MonotoneOn (pct values) (Set.Icc 0 1) := by
  intro p ⟨hp, hp1⟩ q ⟨hq, hq1⟩ hpq
  rw [pct_eq hne hp1, pct_eq hne hq1]
  have hpos : (1 : ℚ) ≤ values.length := by exact_mod_cast List.length_pos_iff.mpr hne
  exact interpolate_mono (clamped_mono hs) (position_nonneg hne hp) (position_nonneg hne hq)
    (mul_le_mul_of_nonneg_left hpq (by linarith))

theorem pct_zero (hne : values ≠ []) : pct values 0 = values.getD 0 0 := by
  have hzero : ((values.length : ℚ) - 1) * 0 = ((0 : Nat) : ℚ) := by simp
  rw [pct_eq hne (by norm_num), hzero, interpolate_natCast,
    clamped_of_lt (List.length_pos_iff.mpr hne)]

theorem pct_one (hne : values ≠ []) : pct values 1 = values.getD (values.length - 1) 0 := by
  have hpos : 0 < values.length := List.length_pos_iff.mpr hne
  have hlast : ((values.length : ℚ) - 1) * 1 = ((values.length - 1 : Nat) : ℚ) := by
    rw [Nat.cast_sub hpos, Nat.cast_one, mul_one]
  rw [pct_eq hne (le_refl 1), hlast, interpolate_natCast, clamped_of_lt (by omega)]

/-- **The median is the percentile of one half.** -/
theorem pct_half (hne : values ≠ []) (hs : values.SortedLE) : pct values (1 / 2) = median values := by
  have hhalf : ((values.length : ℚ) - 1) * (1 / 2) = ((values.length : ℚ) - 1) / 2 := by ring
  rw [pct_eq hne (by norm_num), hhalf, median_eq hs hne]

theorem getD_mem {i : Nat} (hi : i < values.length) : values.getD i 0 ∈ values := by
  rw [List.getD_eq_getElem _ _ hi]
  exact List.getElem_mem hi

theorem min_le_all (x : ℚ) (hx : x ∈ values) : values.min?.getD 0 ≤ x := by
  obtain ⟨m, hm⟩ := Option.isSome_iff_exists.mp (List.isSome_min?_of_mem hx)
  rw [hm]
  exact (List.min?_eq_some_iff.mp hm).2 x hx

theorem all_le_max (x : ℚ) (hx : x ∈ values) : x ≤ values.max?.getD 0 := by
  obtain ⟨m, hm⟩ := Option.isSome_iff_exists.mp (List.isSome_max?_of_mem hx)
  rw [hm]
  exact (List.max?_eq_some_iff.mp hm).2 x hx

end Percentile

/-! ## 3. A row -/

/-- **What a row reports of a class.** -/
structure RecoveryHolds (recs : List SummaryRecord) (row : RecoveryRow) : Prop where
  counts : row.n + row.missing = recs.length
  reported : ∃ s q1 q3, row.numbers = some s ∧ quartiles (sorted (recoveryTimes recs)) = (q1, q3) ∧
    (s.min ≤ s.median ∧ s.median ≤ s.p95 ∧ s.p95 ≤ s.max) ∧ (s.min ≤ s.mean ∧ s.mean ≤ s.max) ∧
    s.outliers.Perm (((recoveryTimes recs).filter fun v =>
      decide (v < q1 - 3 / 2 * (q3 - q1)) || decide (q3 + 3 / 2 * (q3 - q1) < v)).map (roundTo 2))
  inside : ∀ p : ℚ, 0 ≤ p → p ≤ 1 →
    pctLower (recoveryTimes recs).length p < (recoveryTimes recs).length ∧
      pctUpper (recoveryTimes recs).length p < (recoveryTimes recs).length
  monotone : MonotoneOn (pct (sorted (recoveryTimes recs))) (Set.Icc 0 1)
  half : pct (sorted (recoveryTimes recs)) (1 / 2) = median (recoveryTimes recs)

/-- A record has a recovery time, or it is missing. -/
theorem times_and_missing (recs : List SummaryRecord) :
    (recoveryTimes recs).length + recs.countP (fun r => r.httpRecoveryS.isNone) = recs.length := by
  induction recs with
  | nil => rfl
  | cons r recs ih =>
      unfold recoveryTimes at ih ⊢
      cases hr : r.httpRecoveryS with
      | none =>
          rw [List.filterMap_cons_none hr, List.countP_cons_of_pos (by rw [hr]; rfl)]
          rw [List.length_cons, ← ih, Nat.add_assoc]
      | some t =>
          rw [List.filterMap_cons_some hr, List.countP_cons_of_neg (by rw [hr]; exact Bool.false_ne_true)]
          rw [List.length_cons, List.length_cons, ← ih]
          omega

/-- **The numbers are in order.** -/
theorem numbers_ordered {values : List ℚ} (hne : values ≠ []) (hs : values.SortedLE) :
    ((recoveryNumbers values).min ≤ (recoveryNumbers values).median ∧
      (recoveryNumbers values).median ≤ (recoveryNumbers values).p95 ∧
        (recoveryNumbers values).p95 ≤ (recoveryNumbers values).max) ∧
      ((recoveryNumbers values).min ≤ (recoveryNumbers values).mean ∧
        (recoveryNumbers values).mean ≤ (recoveryNumbers values).max) := by
  have hpos : 0 < values.length := List.length_pos_iff.mpr hne
  have hmono := pct_mono hne hs
  have h0 : (0 : ℚ) ∈ Set.Icc (0 : ℚ) 1 := by norm_num
  have hhalf : (1 / 2 : ℚ) ∈ Set.Icc (0 : ℚ) 1 := by norm_num
  have h95 : (95 / 100 : ℚ) ∈ Set.Icc (0 : ℚ) 1 := by norm_num
  have h1 : (1 : ℚ) ∈ Set.Icc (0 : ℚ) 1 := by norm_num
  have hmin : values.min?.getD 0 ≤ median values := by
    calc values.min?.getD 0 ≤ values.getD 0 0 := min_le_all _ (getD_mem hpos)
      _ = pct values 0 := (pct_zero hne).symm
      _ ≤ pct values (1 / 2) := hmono h0 hhalf (by norm_num)
      _ = median values := pct_half hne hs
  have hmedian : median values ≤ pct values (95 / 100) := by
    rw [← pct_half hne hs]
    exact hmono hhalf h95 (by norm_num)
  have hmax : pct values (95 / 100) ≤ values.max?.getD 0 := by
    calc pct values (95 / 100) ≤ pct values 1 := hmono h95 h1 (by norm_num)
      _ = values.getD (values.length - 1) 0 := pct_one hne
      _ ≤ values.max?.getD 0 := all_le_max _ (getD_mem (by omega))
  exact ⟨⟨roundTo_mono 2 hmin, roundTo_mono 2 hmedian, roundTo_mono 2 hmax⟩,
    roundTo_mono 2 (mean_ge hne min_le_all), roundTo_mono 2 (mean_le hne all_le_max)⟩

/-- A record of class `watchdog`. -/
def watchdogRecord (time : Option ℚ) : SummaryRecord :=
  ⟨none, "watchdog".toList, none, none, time, none, none, none, none, none, none⟩

/-- Seven recoveries, one far behind the others, and one that was not observed. -/
def watchdogRecords : List SummaryRecord :=
  [some (27 / 10), some (11 / 5), none, some 30, some (5 / 2), some (23 / 10), some (13 / 5),
    some (12 / 5)].map watchdogRecord

/-- The mean lies behind every time but the one that is an outlier. -/
example : (recoveryRow "watchdog".toList watchdogRecords).numbers =
    some ⟨11 / 5, 5 / 2, 639 / 100, 2181 / 100, 30, [30]⟩ := by decide +kernel

end DragonBench
