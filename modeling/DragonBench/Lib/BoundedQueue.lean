/-
  File:      DragonBench/Lib/BoundedQueue.lean
  Subject:   A first-in first-out queue that never holds more than its capacity.

  The bound is a field, so a queue that holds too much cannot be built. `push` takes a whole list
  or nothing, `pop` a whole prefix or nothing; a caller that wants to hand over what fits picks
  the list accordingly.

  * `push_items`, `pop_items` -- what the operations do to the contents;
  * `push_length`, `pop_length` -- and to the number of entries;
  * `push_isSome`, `pop_isSome` -- when they are possible, `push_one`, `pop_one` -- for one entry;
  * `Full` -- nothing more can be pushed.
-/
import Mathlib.Data.List.Basic

universe u

/-- A queue of at most `capacity` entries, oldest first. -/
structure BoundedQueue (α : Type u) (capacity : Nat) where
  items : List α
  fits : items.length ≤ capacity

namespace BoundedQueue

variable {α : Type u} {capacity : Nat}

/-- The empty queue. -/
def empty : BoundedQueue α capacity := ⟨[], Nat.zero_le _⟩

/-- The number of entries. -/
def length (q : BoundedQueue α capacity) : Nat := q.items.length

/-- Append `xs`, when there is room for all of it. -/
def push (q : BoundedQueue α capacity) (xs : List α) : Option (BoundedQueue α capacity) :=
  if h : (q.items ++ xs).length ≤ capacity then some ⟨q.items ++ xs, h⟩ else none

/-- Take the oldest `n` entries, when there are as many. -/
def pop (q : BoundedQueue α capacity) (n : Nat) : Option (List α × BoundedQueue α capacity) :=
  if n ≤ q.items.length then
    some (q.items.take n, ⟨q.items.drop n, Nat.le_trans (by simp) q.fits⟩)
  else none

/-- No room is left. -/
def Full (q : BoundedQueue α capacity) : Prop := q.length = capacity

instance (q : BoundedQueue α capacity) : Decidable q.Full :=
  inferInstanceAs (Decidable (q.length = capacity))

@[simp] theorem length_empty : (empty : BoundedQueue α capacity).length = 0 := rfl

theorem length_le (q : BoundedQueue α capacity) : q.length ≤ capacity := q.fits

theorem push_items {q q' : BoundedQueue α capacity} {xs : List α} (h : q.push xs = some q') :
    q'.items = q.items ++ xs := by
  unfold push at h
  split at h
  · cases h
    rfl
  · cases h

theorem push_length {q q' : BoundedQueue α capacity} {xs : List α} (h : q.push xs = some q') :
    q'.length = q.length + xs.length := by
  unfold length
  rw [push_items h, List.length_append]

theorem push_isSome (q : BoundedQueue α capacity) (xs : List α)
    (h : q.length + xs.length ≤ capacity) : ∃ q', q.push xs = some q' := by
  have h' : (q.items ++ xs).length ≤ capacity := by
    rw [List.length_append]
    exact h
  unfold push
  exact ⟨_, dif_pos h'⟩

/-- The first entry of a list fits while there is room. -/
theorem push_one (q : BoundedQueue α capacity) (xs : List α) (hxs : 0 < xs.length)
    (hroom : q.length < capacity) :
    ∃ q', q.push (xs.take 1) = some q' ∧ q'.length = q.length + 1 := by
  have htake : (xs.take 1).length = 1 := List.length_take_of_le hxs
  obtain ⟨q', hq⟩ := q.push_isSome (xs.take 1) (by rw [htake]; exact hroom)
  have hlen := push_length hq
  rw [htake] at hlen
  exact ⟨q', hq, hlen⟩

/-- What is taken stood in front of what remains. -/
theorem pop_items {q q' : BoundedQueue α capacity} {n : Nat} {xs : List α}
    (h : q.pop n = some (xs, q')) : q.items = xs ++ q'.items ∧ xs.length = n := by
  unfold pop at h
  split at h
  · rename_i hn
    cases h
    exact ⟨(List.take_append_drop n q.items).symm, List.length_take_of_le hn⟩
  · cases h

theorem pop_take {q q' : BoundedQueue α capacity} {n : Nat} {xs : List α}
    (h : q.pop n = some (xs, q')) : q.items.take n = xs := by
  obtain ⟨hi, hn⟩ := pop_items h
  rw [hi, ← hn, List.take_left]

theorem pop_length {q q' : BoundedQueue α capacity} {n : Nat} {xs : List α}
    (h : q.pop n = some (xs, q')) : q.length = n + q'.length := by
  obtain ⟨hi, hn⟩ := pop_items h
  unfold length
  rw [hi, List.length_append, hn]

theorem pop_isSome (q : BoundedQueue α capacity) {n : Nat} (h : n ≤ q.length) :
    ∃ xs q', q.pop n = some (xs, q') := by
  unfold pop
  exact ⟨_, _, if_pos h⟩

/-- The oldest entry can be taken while there is one. -/
theorem pop_one (q : BoundedQueue α capacity) (h : 0 < q.length) :
    ∃ xs q', q.pop 1 = some (xs, q') ∧ xs.length = 1 ∧ q.length = 1 + q'.length := by
  obtain ⟨xs, q', hq⟩ := q.pop_isSome h
  exact ⟨xs, q', hq, (pop_items hq).2, pop_length hq⟩

end BoundedQueue
