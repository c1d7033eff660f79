/-
  File:      DragonBench/Lib/LastWrite.lean
  Subject:   A variable as a function of a log: the value of the last entry that has written it.

  * `lastBy` -- the last value that `f` reads in a log;
  * `lastBy_append`, `lastBy_concat` -- more entries;
  * `getD_split` -- an entry behind which nothing is written;
  * `lastBy_some`, `lastBy_eq_none` -- an entry has written the value, or none has written any;
  * `le_lastBy` -- when values only grow, the last one is the greatest.
-/
import Mathlib.Data.List.Basic
import Mathlib.Data.List.Induction
import Mathlib.Order.Defs.PartialOrder

namespace LastWrite

universe u v

variable {α : Type u} {β : Type v}

/-- The last value. -/
def lastBy (f : α → Option β) (log : List α) : Option β := (log.filterMap f).getLast?

variable {f : α → Option β} {log : List α} {x : α} {b : β}

/-- The later entries write, or leave what the earlier ones have written. -/
theorem lastBy_append (log' : List α) :
    lastBy f (log ++ log') = (lastBy f log').or (lastBy f log) := by
  rw [lastBy, List.filterMap_append, List.getLast?_append]
  rfl

/-- One entry. -/
theorem lastBy_singleton : lastBy f [x] = f x := by
  rw [lastBy]
  cases hx : f x with
  | none => rw [List.filterMap_cons_none hx]; rfl
  | some b => rw [List.filterMap_cons_some hx]; rfl

/-- **One more entry** writes, or leaves the value. -/
theorem lastBy_concat : lastBy f (log ++ [x]) = (f x).or (lastBy f log) := by
  rw [lastBy_append, lastBy_singleton]

/-- **Some entry has written the value.** -/
theorem lastBy_some (h : lastBy f log = some b) : ∃ x ∈ log, f x = some b :=
  List.mem_filterMap.mp (List.mem_of_getLast? h)

/-- **No entry has written any.** -/
theorem lastBy_eq_none : lastBy f log = none ↔ ∀ x ∈ log, f x = none := by
  rw [lastBy, List.getLast?_eq_none_iff, List.filterMap_eq_nil_iff]

/-- A variable that holds `d` at the start and what was written last, behind one more entry. -/
theorem getD_concat (d : β) :
    (lastBy f (log ++ [x])).getD d = (f x).getD ((lastBy f log).getD d) := by
  rw [lastBy_concat]
  cases f x <;> rfl

/-- The same, behind entries that write nothing. -/
theorem getD_split (d : β) {after : List α} (h : ∀ y ∈ after, f y = none) :
    (lastBy f (log ++ x :: after)).getD d = (f x).getD ((lastBy f log).getD d) := by
  rw [List.append_cons, lastBy_append, lastBy_eq_none.mpr h, Option.none_or, getD_concat]

/-- The last entry read in another way. -/
theorem lastBy_map {γ : Type*} (g : β → γ) :
    lastBy (fun a => (f a).map g) log = (lastBy f log).map g := by
  rw [lastBy, lastBy, ← List.getLast?_map, List.map_filterMap]

/-- **Values that only grow**: the last one is the greatest. -/
theorem le_lastBy [Preorder β] (hlog : log.Pairwise fun y z => ∀ b ∈ f y, ∀ c ∈ f z, b ≤ c)
    (hx : x ∈ log) (hb : f x = some b) : ∃ c, lastBy f log = some c ∧ b ≤ c := by
  induction log using List.reverseRecOn with
  | nil => exact absurd hx List.not_mem_nil
  | append_singleton log y ih =>
      obtain ⟨hpre, -, hcross⟩ := List.pairwise_append.mp hlog
      rw [lastBy_concat]
      rcases List.mem_append.mp hx with hx | hx
      · obtain ⟨c, hc, hle⟩ := ih hpre hx
        cases hy : f y with
        | none => exact ⟨c, hc, hle⟩
        | some a => exact ⟨a, rfl, hcross x hx y List.mem_cons_self b hb a hy⟩
      · cases List.mem_singleton.mp hx
        exact ⟨b, by rw [hb]; rfl, le_rfl⟩

end LastWrite
