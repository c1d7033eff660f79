/-
  File:      DragonBench/Lib/Script.lean
  Subject:   Programs that make the calls of a script one after another until one of them fails.

  A script is an infinite sequence of calls. What a program that keeps to it has done so far is a
  list of calls with their answers: a prefix of the script, every call of it answered well, and
  after that at most one call that failed.

  * `made` -- the first calls of the script, all answered well;
  * `Follows` -- the traces of a program that keeps to the script;
  * `Follows.getElem?` -- what stands at one place of such a trace, and in front of it.
-/
import Mathlib.Data.List.Basic
import Mathlib.Data.List.Range

namespace Script

variable {α : Type*} {script : Nat → α}

/-- The first `n` calls of the script, all answered well. -/
def made (script : Nat → α) (n : Nat) : List (α × Bool) := (List.range n).map fun i => (script i, true)

theorem made_succ (script : Nat → α) (n : Nat) :
    made script (n + 1) = made script n ++ [(script n, true)] := by
  unfold made
  rw [List.range_succ, List.map_append]
  rfl

@[simp] theorem length_made (script : Nat → α) (n : Nat) : (made script n).length = n := by
  simp [made]

theorem getElem?_made {i n : Nat} (h : i < n) : (made script n)[i]? = some (script i, true) := by
  simp [made, h]

/-- **The traces of a program that keeps to the script.** -/
inductive Follows (script : Nat → α) : List (α × Bool) → Prop where
  | made (n : Nat) : Follows script (made script n)
  | failed (n : Nat) : Follows script (made script n ++ [(script n, false)])

/-- What stands at one place of a trace is the call of the script, and everything in front of it
    was answered well. -/
theorem Follows.getElem? {calls : List (α × Bool)} (h : Follows script calls) {j : Nat}
    {c : α × Bool} (hj : calls[j]? = some c) :
    c.1 = script j ∧ ∀ i < j, calls[i]? = some (script i, true) := by
  cases h with
  | made n =>
      have hn : j < n := by
        have := (List.getElem?_eq_some_iff.mp hj).1
        rwa [length_made] at this
      rw [getElem?_made hn, Option.some_inj] at hj
      subst hj
      exact ⟨rfl, fun i hi => getElem?_made (lt_trans hi hn)⟩
  | failed n =>
      have front : ∀ i < n, (Script.made script n ++ [(script n, false)])[i]? =
          some (script i, true) := by
        intro i hi
        rw [List.getElem?_append_left (by rwa [length_made]), getElem?_made hi]
      have hn : j < n + 1 := by
        have := (List.getElem?_eq_some_iff.mp hj).1
        rwa [List.length_append, length_made] at this
      rcases Nat.lt_succ_iff_lt_or_eq.mp hn with hlt | rfl
      · rw [front j hlt, Option.some_inj] at hj
        subst hj
        exact ⟨rfl, fun i hi => front i (lt_trans hi hlt)⟩
      · rw [List.getElem?_append_right (by rw [length_made]), length_made, Nat.sub_self] at hj
        cases hj
        exact ⟨rfl, front⟩

/-- A member of a trace is a call of the script. -/
theorem Follows.mem {calls : List (α × Bool)} (h : Follows script calls) {c : α × Bool}
    (hc : c ∈ calls) : ∃ j, c.1 = script j := by
  obtain ⟨j, hj⟩ := List.getElem?_of_mem hc
  exact ⟨j, (h.getElem? hj).1⟩

end Script
