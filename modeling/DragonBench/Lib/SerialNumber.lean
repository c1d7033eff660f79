/-
  File:      DragonBench/Lib/SerialNumber.lean
  Subject:   Serial numbers that go round, with zero reserved.

  Numbers below a modulus are handed out one after another; behind the last comes one, not zero.
  One number is newer than another when it lies less than half the modulus ahead of it.

  * `next`, `iterate_next` -- the successor, and what it leads to;
  * `distance`, `Newer` -- the comparison;
  * **`newer_iterate`** -- what is handed out later is newer, as long as it is less than half the
    modulus, and the zero that may have been skipped, away.
-/
import Mathlib.Logic.Function.Iterate

namespace SerialNumber

/-- A counter that goes round. -/
theorem succ_mod_of_pos {n k : Nat} (h : 0 < k) :
    (n + 1) % k = if n % k + 1 = k then 0 else n % k + 1 := by
  have hlt := Nat.mod_lt n h
  rw [← Nat.mod_add_mod]
  split
  · rename_i e
    rw [e, Nat.mod_self]
  · exact Nat.mod_eq_of_lt (by omega)

/-- The number behind `n`; zero is skipped. -/
def next (m n : Nat) : Nat := if (n + 1) % m = 0 then 1 else (n + 1) % m

/-- How far `a` lies ahead of `b`. -/
def distance (m a b : Nat) : Nat := (a + m - b) % m

/-- **Less than half the modulus ahead.** -/
def Newer (m a b : Nat) : Prop := 0 < distance m a b ∧ 2 * distance m a b < m

section Rules

variable {m n k : Nat}

theorem next_pos (m n : Nat) : 0 < next m n := by
  unfold next
  split
  · exact Nat.one_pos
  · rename_i h
    exact Nat.pos_of_ne_zero h

/-- From one on the numbers go round without zero. -/
theorem iterate_next (hm : 2 ≤ m) (hn : 1 ≤ n) (hlt : n < m) (k : Nat) :
    (next m)^[k] n = (n - 1 + k) % (m - 1) + 1 := by
  induction k with
  | zero =>
      show n = (n - 1) % (m - 1) + 1
      rw [Nat.mod_eq_of_lt (by omega)]
      omega
  | succ k ih =>
      have hx : (n - 1 + k) % (m - 1) < m - 1 := Nat.mod_lt _ (by omega)
      have hround := succ_mod_of_pos (n := n - 1 + k) (k := m - 1) (by omega)
      rw [Function.iterate_succ_apply', ih, ← Nat.add_assoc, hround]
      generalize (n - 1 + k) % (m - 1) = x at hx ⊢
      unfold next
      by_cases e : x + 1 = m - 1
      · have e' : x + 1 + 1 = m := by omega
        rw [if_pos e, e', Nat.mod_self, if_pos rfl]
      · rw [if_neg e, Nat.mod_eq_of_lt (by omega), if_neg (by omega)]

/-- Zero, the number in front of the first, goes on to one. -/
theorem iterate_next_zero (hm : 2 ≤ m) (k : Nat) : (next m)^[k + 1] 0 = k % (m - 1) + 1 := by
  have h0 : next m 0 = 1 := by
    unfold next
    rw [Nat.zero_add, Nat.mod_eq_of_lt (by omega), if_neg Nat.one_ne_zero]
  rw [Function.iterate_succ_apply, h0, iterate_next hm (Nat.le_refl 1) (by omega), Nat.sub_self,
    Nat.zero_add]

/-- **How far `k` numbers lead**: `k`, or one more when zero was skipped. -/
theorem distance_iterate (hlt : n < m) (hk : 1 ≤ k) (hkm : k + 1 < m) :
    distance m ((next m)^[k] n) n = k ∨ distance m ((next m)^[k] n) n = k + 1 := by
  unfold distance
  rcases Nat.eq_zero_or_pos n with rfl | hn
  · obtain ⟨j, rfl⟩ : ∃ j, k = j + 1 := ⟨k - 1, by omega⟩
    have hj : j % (m - 1) = j := Nat.mod_eq_of_lt (by omega)
    rw [iterate_next_zero (by omega), hj, Nat.sub_zero, Nat.add_mod_right]
    exact Or.inl (Nat.mod_eq_of_lt (by omega))
  · rw [iterate_next (by omega) hn hlt]
    by_cases hwrap : n - 1 + k < m - 1
    · have e : n - 1 + k + 1 + m - n = k + m := by omega
      rw [Nat.mod_eq_of_lt hwrap, e, Nat.add_mod_right]
      exact Or.inl (Nat.mod_eq_of_lt (by omega))
    · have hmod : (n - 1 + k) % (m - 1) = n - 1 + k - (m - 1) := by
        rw [Nat.mod_eq_sub_mod (by omega), Nat.mod_eq_of_lt (by omega)]
      have e : n - 1 + k - (m - 1) + 1 + m - n = k + 1 := by omega
      rw [hmod, e]
      exact Or.inr (Nat.mod_eq_of_lt (by omega))

/-- There and back is once round. -/
theorem distance_add_distance {a b : Nat} (ha : a < m) (hb : b < m) (hne : 0 < distance m a b) :
    distance m a b + distance m b a = m := by
  unfold distance at hne ⊢
  rcases Nat.lt_trichotomy a b with h | rfl | h
  · have h1 : a + m - b < m := by omega
    have e : b + m - a = b - a + m := by omega
    rw [Nat.mod_eq_of_lt h1, e, Nat.add_mod_right, Nat.mod_eq_of_lt (by omega)]
    omega
  · rw [Nat.add_sub_cancel_left, Nat.mod_self] at hne
    exact absurd hne (Nat.lt_irrefl 0)
  · have h1 : b + m - a < m := by omega
    have e : a + m - b = a - b + m := by omega
    rw [Nat.mod_eq_of_lt h1, e, Nat.add_mod_right, Nat.mod_eq_of_lt (by omega)]
    omega

/-- Of two numbers at most one is newer. -/
theorem Newer.not_newer {a b : Nat} (ha : a < m) (hb : b < m) (h : Newer m a b) :
    ¬ Newer m b a := by
  have hsum := distance_add_distance ha hb h.1
  have hlt := h.2
  rintro ⟨-, hlt'⟩
  omega

theorem next_lt (hm : 2 ≤ m) (n : Nat) : next m n < m := by
  unfold next
  split
  · omega
  · exact Nat.mod_lt _ (by omega)

/-- **What is handed out later is newer**, and what was handed out before is not. -/
theorem newer_iterate (hlt : n < m) (hk : 1 ≤ k) (hhalf : 2 * (k + 1) < m) :
    (next m)^[k] n ≠ 0 ∧ Newer m ((next m)^[k] n) n ∧ ¬ Newer m n ((next m)^[k] n) := by
  obtain ⟨j, rfl⟩ : ∃ j, k = j + 1 := ⟨k - 1, by omega⟩
  have hpos : 0 < (next m)^[j + 1] n := by
    rw [Function.iterate_succ_apply']
    exact next_pos _ _
  have hbound : (next m)^[j + 1] n < m := by
    rw [Function.iterate_succ_apply']
    exact next_lt (by omega) _
  have hnewer : Newer m ((next m)^[j + 1] n) n := by
    unfold Newer
    rcases distance_iterate hlt hk (by omega) with e | e <;> rw [e] <;> omega
  exact ⟨Nat.ne_of_gt hpos, hnewer, hnewer.not_newer hbound hlt⟩

end Rules

end SerialNumber
