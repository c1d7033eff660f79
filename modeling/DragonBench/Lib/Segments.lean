/-
  File:      DragonBench/Lib/Segments.lean
  Subject:   A list with separators: which of its segments the first and the last reading of a kind
             is in, and loops that keep the one or the other.

  * `firstOf`, `lastOf` -- the first and the last reading, with the number of its segment;
  * `firstOf_spec`, `lastOf_spec` -- no segment before, no segment behind has one;
  * **`foldl_first`, `foldl_last`** -- a loop that counts the separators and keeps the first, the
    last reading ends with it.
-/
import Mathlib.Data.List.Basic
import Mathlib.Tactic.Common

namespace Segments

universe u v w x

variable {α : Type u} {β : Type v}

/-- A reading `d` segments further on. -/
def shift (d : Nat) (r : Nat × β) : Nat × β := (r.1 + d, r.2)

/-- The first reading. -/
def firstOf (f : α → Option β) : List (List α) → Option (Nat × β)
  | [] => none
  | seg :: segs => ((seg.filterMap f).head?.map (0, ·)).or ((firstOf f segs).map (shift 1))

/-- The last reading. -/
def lastOf (f : α → Option β) : List (List α) → Option (Nat × β)
  | [] => none
  | seg :: segs => ((lastOf f segs).map (shift 1)).or ((seg.filterMap f).getLast?.map (0, ·))

/-- The segment `k` has a reading. -/
def has (f : α → Option β) (segs : List (List α)) (k : Nat) : Bool :=
  (segs.getD k []).any fun a => (f a).isSome

variable {f : α → Option β} {seg : List α} {segs : List (List α)} {k : Nat} {b : β}

theorem filterMap_ne_nil (h : (seg.filterMap f) ≠ []) : (seg.any fun a => (f a).isSome) = true := by
  obtain ⟨b, hb⟩ := List.exists_mem_of_ne_nil _ h
  obtain ⟨a, ha, e⟩ := List.mem_filterMap.mp hb
  exact List.any_eq_true.mpr ⟨a, ha, by rw [e]; rfl⟩

theorem filterMap_eq_nil (h : (seg.filterMap f) = []) : (seg.any fun a => (f a).isSome) = false := by
  refine List.any_eq_false.mpr fun a ha => ?_
  rw [List.filterMap_eq_nil_iff.mp h a ha]
  exact Bool.false_ne_true

/-- **The segment of the first reading** has one, and none before it has. -/
theorem firstOf_spec (h : firstOf f segs = some (k, b)) :
    has f segs k = true ∧ ∀ j < k, has f segs j = false := by
  induction segs generalizing k with
  | nil => cases h
  | cons seg segs ih =>
      rw [firstOf, Option.or_eq_some_iff] at h
      rcases h with h | ⟨hnone, h⟩
      · obtain ⟨b', hb, e⟩ := Option.map_eq_some_iff.mp h
        cases e
        have hne : seg.filterMap f ≠ [] := fun e => by
          rw [e] at hb
          cases hb
        exact ⟨filterMap_ne_nil hne, fun j hj => absurd hj (Nat.not_lt_zero j)⟩
      · obtain ⟨⟨k', b'⟩, hr, e⟩ := Option.map_eq_some_iff.mp h
        cases e
        obtain ⟨hk, hbefore⟩ := ih hr
        refine ⟨hk, fun j hj => ?_⟩
        cases j with
        | zero =>
            rw [Option.map_eq_none_iff, List.head?_eq_none_iff] at hnone
            exact filterMap_eq_nil hnone
        | succ j => exact hbefore j (Nat.lt_of_succ_lt_succ hj)

theorem firstOf_none (h : firstOf f segs = none) (j : Nat) : has f segs j = false := by
  induction segs generalizing j with
  | nil => rfl
  | cons seg segs ih =>
      rw [firstOf, Option.or_eq_none_iff, Option.map_eq_none_iff, Option.map_eq_none_iff,
        List.head?_eq_none_iff] at h
      cases j with
      | zero => exact filterMap_eq_nil h.1
      | succ j => exact ih h.2 j

theorem lastOf_none (h : lastOf f segs = none) (j : Nat) : has f segs j = false := by
  induction segs generalizing j with
  | nil => rfl
  | cons seg segs ih =>
      rw [lastOf, Option.or_eq_none_iff, Option.map_eq_none_iff, Option.map_eq_none_iff,
        List.getLast?_eq_none_iff] at h
      cases j with
      | zero => exact filterMap_eq_nil h.2
      | succ j => exact ih h.1 j

/-- **The segment of the last reading** ends with it, and none behind it has one. -/
theorem lastOf_spec (h : lastOf f segs = some (k, b)) :
    ((segs.getD k []).filterMap f).getLast? = some b ∧ ∀ j, k < j → has f segs j = false := by
  induction segs generalizing k with
  | nil => cases h
  | cons seg segs ih =>
      rw [lastOf, Option.or_eq_some_iff] at h
      rcases h with h | ⟨hnone, h⟩
      · obtain ⟨⟨k', b'⟩, hr, e⟩ := Option.map_eq_some_iff.mp h
        cases e
        obtain ⟨hk, hbehind⟩ := ih hr
        refine ⟨hk, fun j hj => ?_⟩
        cases j with
        | zero => exact absurd hj (Nat.not_lt_zero _)
        | succ j => exact hbehind j (Nat.lt_of_succ_lt_succ hj)
      · obtain ⟨b', hb, e⟩ := Option.map_eq_some_iff.mp h
        cases e
        refine ⟨hb, fun j hj => ?_⟩
        cases j with
        | zero => exact absurd hj (Nat.lt_irrefl 0)
        | succ j => exact lastOf_none (Option.map_eq_none_iff.mp hnone) j

theorem has_of_lastOf (h : lastOf f segs = some (k, b)) : has f segs k = true := by
  refine filterMap_ne_nil fun e => ?_
  have hb := (lastOf_spec h).1
  rw [e] at hb
  cases hb

/-! ## Loops -/

section Loops

variable {σ : Type w} {ε : Type x} {step : σ → ε → σ} {line : ε → α} {sep : α → Bool}
  {count : σ → Nat} {l : List ε} {s : σ}

/-- A separator is in front of the segments, any other element is in the first of them. -/
theorem segments_cons (a : α) (l : List α) :
    ∃ seg segs, l.splitOnP sep = seg :: segs ∧
      (a :: l).splitOnP sep = if sep a then [] :: seg :: segs else (a :: seg) :: segs := by
  obtain ⟨seg, segs, h⟩ := List.exists_cons_of_ne_nil (List.splitOnP_ne_nil sep l)
  refine ⟨seg, segs, h, ?_⟩
  rw [List.splitOnP_cons_eq_if_modifyHead, h]
  rfl

theorem firstOf_nil_cons : firstOf f ([] :: segs) = (firstOf f segs).map (shift 1) := rfl

theorem lastOf_nil_cons : lastOf f ([] :: segs) = (lastOf f segs).map (shift 1) := Option.or_none

theorem map_shift_shift {o : Option (Nat × β)} (d e : Nat) :
    (o.map (shift d)).map (shift e) = o.map (shift (e + d)) := by
  rw [Option.map_map]
  congr 1
  funext r
  exact Prod.ext (by simp only [Function.comp_apply, shift]; omega) rfl

theorem shift_zero (o : Option (Nat × β)) : o.map (shift 0) = o := by
  cases o <;> rfl

/-- **A loop that keeps the first reading** ends with the first of the list. -/
theorem foldl_first (f : α → Option β) (held : σ → Option (Nat × β))
    (hcount : ∀ s e, count (step s e) = if sep (line e) then count s + 1 else count s)
    (hheld : ∀ s e, held (step s e) =
      if sep (line e) then held s else (held s).or ((f (line e)).map (count s, ·))) :
    held (l.foldl step s) =
      (held s).or ((firstOf f ((l.map line).splitOnP sep)).map (shift (count s))) := by
  induction l generalizing s with
  | nil =>
      rw [List.map_nil, List.splitOnP_nil]
      exact (Option.or_none).symm
  | cons e l ih =>
      obtain ⟨seg, segs, hl, hcons⟩ := @segments_cons α sep (line e) (l.map line)
      rw [List.foldl_cons, ih, hheld, hcount, List.map_cons, hcons, hl]
      by_cases hsep : sep (line e) = true
      · -- behind a separator the segments have one number more
        simp only [hsep, if_true]
        rw [firstOf_nil_cons, map_shift_shift]
      · simp only [hsep, Bool.false_eq_true, if_false]
        rw [Option.or_assoc]
        congr 1
        rw [firstOf, firstOf, Option.map_or, Option.map_or, ← Option.or_assoc]
        congr 1
        cases hf : f (line e) with
        | none =>
            rw [List.filterMap_cons_none hf]
            rfl
        | some b =>
            rw [List.filterMap_cons_some hf, List.head?_cons]
            simp only [Option.map_some, Option.some_or, shift, Nat.zero_add]

/-- **A loop that keeps the last reading** ends with the last of the list. -/
theorem foldl_last (f : α → Option β) (held : σ → Option (Nat × β))
    (hcount : ∀ s e, count (step s e) = if sep (line e) then count s + 1 else count s)
    (hheld : ∀ s e, held (step s e) =
      if sep (line e) then held s else ((f (line e)).map (count s, ·)).or (held s)) :
    held (l.foldl step s) =
      ((lastOf f ((l.map line).splitOnP sep)).map (shift (count s))).or (held s) := by
  induction l generalizing s with
  | nil =>
      rw [List.map_nil, List.splitOnP_nil]
      exact (Option.none_or).symm
  | cons e l ih =>
      obtain ⟨seg, segs, hl, hcons⟩ := @segments_cons α sep (line e) (l.map line)
      rw [List.foldl_cons, ih, hheld, hcount, List.map_cons, hcons, hl]
      by_cases hsep : sep (line e) = true
      · simp only [hsep, if_true]
        rw [lastOf_nil_cons, map_shift_shift]
      · simp only [hsep, Bool.false_eq_true, if_false]
        rw [← Option.or_assoc]
        congr 1
        rw [lastOf, lastOf, Option.map_or, Option.map_or, Option.or_assoc]
        congr 1
        cases hf : f (line e) with
        | none =>
            rw [List.filterMap_cons_none hf]
            exact Option.or_none
        | some b =>
            rw [List.filterMap_cons_some hf, List.getLast?_cons]
            cases (seg.filterMap f).getLast? <;> simp [shift]

end Loops

end Segments
