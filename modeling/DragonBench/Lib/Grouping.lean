/-
  File:      DragonBench/Lib/Grouping.lean
  Subject:   A list whose keys never decrease is the concatenation of its groups.

  * `group key l k` -- the entries of `l` with key `k`, in order;
  * `filter_lt_append` -- a list with non-decreasing keys splits at every bound;
  * `flatMap_group` -- the concatenation of the groups, in the order of the keys.
-/
import Mathlib.Data.List.Basic
import Mathlib.Tactic.Common

namespace Grouping

universe u

variable {α : Type u}

/-- The entries with key `k`, in order. -/
def group (key : α → Nat) (l : List α) (k : Nat) : List α := l.filter fun a => decide (key a = k)

variable {key : α → Nat} {l : List α}

@[simp] theorem group_nil (k : Nat) : group key [] k = [] := rfl

theorem group_append (l₁ l₂ : List α) (k : Nat) :
    group key (l₁ ++ l₂) k = group key l₁ k ++ group key l₂ k := List.filter_append ..

/-- A list with non-decreasing keys splits at every bound. -/
theorem filter_lt_append (h : (l.map key).Pairwise (· ≤ ·)) (n : Nat) :
    (l.filter fun a => decide (key a < n)) ++ (l.filter fun a => decide (n ≤ key a)) = l := by
  induction l with
  | nil => rfl
  | cons a l ih =>
      rw [List.map_cons, List.pairwise_cons] at h
      obtain ⟨hle, hp⟩ := h
      by_cases ha : key a < n
      · have ha' : ¬ n ≤ key a := by omega
        rw [List.filter_cons_of_pos (by simpa using ha), List.filter_cons_of_neg (by simpa using ha'),
          List.cons_append, ih hp]
      · -- everything behind `a` is at least as large as `a`
        have hge : ∀ b ∈ l, n ≤ key b := by
          intro b hb
          have := hle _ (List.mem_map_of_mem hb)
          omega
        have h1 : (l.filter fun b => decide (key b < n)) = [] := by
          rw [List.filter_eq_nil_iff]
          intro b hb
          have := hge b hb
          simpa using this
        have h2 : (l.filter fun b => decide (n ≤ key b)) = l := by
          rw [List.filter_eq_self]
          intro b hb
          simpa using hge b hb
        have ha' : n ≤ key a := by omega
        rw [List.filter_cons_of_neg (by simpa using ha), List.filter_cons_of_pos (by simpa using ha'),
          h1, h2, List.nil_append]

/-- **The concatenation of the groups** is the list. -/
theorem flatMap_group (h : (l.map key).Pairwise (· ≤ ·)) {n : Nat} (hn : ∀ a ∈ l, key a < n) :
    (List.range n).flatMap (group key l) = l := by
  induction n generalizing l with
  | zero =>
      cases l with
      | nil => rfl
      | cons a l => exact absurd (hn a List.mem_cons_self) (Nat.not_lt_zero _)
  | succ n ih =>
      have hsub : ((l.filter fun a => decide (key a < n)).map key).Pairwise (· ≤ ·) :=
        h.sublist (List.filter_sublist.map key)
      have hlt : ∀ a ∈ l.filter (fun a => decide (key a < n)), key a < n := fun a ha =>
        of_decide_eq_true (List.mem_filter.mp ha).2
      have hlow : ∀ k ∈ List.range n,
          group key l k = group key (l.filter fun a => decide (key a < n)) k := by
        intro k hk
        have hk' := List.mem_range.mp hk
        rw [group, group, List.filter_filter]
        refine List.filter_congr fun a _ => ?_
        by_cases e : key a = k
        · simp [e, hk']
        · simp [e]
      have hhigh : group key l n = l.filter fun a => decide (n ≤ key a) := by
        refine List.filter_congr fun a ha => ?_
        have := hn a ha
        by_cases e : key a = n
        · simp [e]
        · have : ¬ n ≤ key a := by omega
          simp [e, this]
      rw [List.range_succ, List.flatMap_append, List.flatMap_singleton, hhigh,
        List.flatMap_congr hlow, ih hsub hlt]
      exact filter_lt_append h n

end Grouping
