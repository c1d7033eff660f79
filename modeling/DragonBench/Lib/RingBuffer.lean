/-
  File:      DragonBench/Lib/RingBuffer.lean
  Subject:   The overwriting ring buffer of a fixed capacity, and that it is the list of the last
             insertions.

  The buffer keeps a write position `head`, a fill count that stops at the capacity, and the
  slots; an insertion writes at `head` and advances it modulo the capacity. Nothing is ever
  removed, the oldest entry is overwritten. `RingBuffer.toList` reads it oldest first.

  * `Holds r xs` -- the representation relation: `r` is what the insertions `xs` leave behind;
  * `holds_empty`, `holds_push` -- it holds at the start and after every insertion;
  * `Holds.toList` -- reading gives the last `cap` of `xs`, in order;
  * `map` -- the buffer seen through a reading of its entries; it commutes with both operations.
-/
import Mathlib.Data.Nat.ModEq
import Mathlib.Data.List.DropRight
import Mathlib.Logic.Function.Basic
import Mathlib.Tactic.Common

universe u v

/-- An overwriting ring buffer of `cap` slots. -/
structure RingBuffer (α : Type u) (cap : Nat) where
  head : Nat
  count : Nat
  slots : Fin cap → α

namespace RingBuffer

variable {α : Type u} {cap : Nat} [NeZero cap]

/-- The empty buffer, every slot holding `a`. -/
def empty (a : α) : RingBuffer α cap := ⟨0, 0, fun _ => a⟩

/-- Write at `head`, advance it, and count up to the capacity. -/
def push (r : RingBuffer α cap) (x : α) : RingBuffer α cap where
  head := (r.head + 1) % cap
  count := if r.count < cap then r.count + 1 else r.count
  slots := Function.update r.slots (Fin.ofNat cap r.head) x

/-- The position of the oldest entry. -/
def start (r : RingBuffer α cap) : Nat := (r.head + cap - r.count) % cap

/-- The entries, oldest first. -/
def toList (r : RingBuffer α cap) : List α :=
  (List.range r.count).map fun i => r.slots (Fin.ofNat cap (r.start + i))

/-- **The representation relation**: `r` is what inserting `xs` in order leaves behind. -/
structure Holds (r : RingBuffer α cap) (xs : List α) : Prop where
  head : r.head = xs.length % cap
  count : r.count = min xs.length cap
  slots : ∀ i (h : i < xs.length), xs.length ≤ i + cap → r.slots (Fin.ofNat cap i) = xs[i]

theorem holds_empty (a : α) : Holds (empty a : RingBuffer α cap) [] where
  head := by simp [empty]
  count := by simp [empty]
  slots i h _ := absurd h (Nat.not_lt_zero i)

/-- Two positions less than `cap` apart share a slot only when they are equal. -/
theorem ofNat_ne {i n : Nat} (h : i < n) (hn : n < i + cap) : Fin.ofNat cap i ≠ Fin.ofNat cap n := by
  intro e
  have e' : i % cap = n % cap := congrArg Fin.val e
  have hm : i ≡ n [MOD cap] := e'
  have hd : cap ∣ n - i := (Nat.modEq_iff_dvd' (Nat.le_of_lt h)).mp hm
  have hle := Nat.le_of_dvd (by omega) hd
  omega

/-- **An insertion keeps the relation.** -/
theorem holds_push {r : RingBuffer α cap} {xs : List α} (h : Holds r xs) (x : α) :
    Holds (r.push x) (xs ++ [x]) where
  head := by
    show (r.head + 1) % cap = (xs ++ [x]).length % cap
    rw [h.head, List.length_append, List.length_singleton, Nat.mod_add_mod]
  count := by
    show (if r.count < cap then r.count + 1 else r.count) = min (xs ++ [x]).length cap
    rw [h.count, List.length_append, List.length_singleton]
    split <;> omega
  slots i hi hc := by
    have hh : Fin.ofNat cap r.head = Fin.ofNat cap xs.length := by
      apply Fin.ext
      show r.head % cap = xs.length % cap
      rw [h.head, Nat.mod_mod]
    show Function.update r.slots (Fin.ofNat cap r.head) x (Fin.ofNat cap i) = _
    rw [hh]
    rw [List.length_append, List.length_singleton] at hi hc
    by_cases hlast : i = xs.length
    · subst hlast
      rw [Function.update_self, List.getElem_concat_length rfl]
    · have hlt : i < xs.length := by omega
      rw [Function.update_of_ne (ofNat_ne hlt (by omega)), List.getElem_append_left hlt]
      exact h.slots i hlt (by omega)

/-- **Reading gives the last `cap` insertions, oldest first.** -/
theorem Holds.toList {r : RingBuffer α cap} {xs : List α} (h : Holds r xs) :
    r.toList = xs.rtake cap := by
  have hcap := Nat.pos_of_neZero cap
  have hlen : (xs.rtake cap).length = min xs.length cap := by
    rw [List.rtake, List.length_drop]
    omega
  refine List.ext_getElem ?_ fun i h1 h2 => ?_
  · rw [RingBuffer.toList, List.length_map, List.length_range, h.count, hlen]
  · rw [hlen] at h2
    have hpos : Fin.ofNat cap (r.start + i) = Fin.ofNat cap (xs.length - cap + i) := by
      apply Fin.ext
      show (r.start + i) % cap = (xs.length - cap + i) % cap
      rw [start, h.head, h.count, Nat.mod_add_mod]
      rcases Nat.le_total xs.length cap with hle | hle
      · -- nothing overwritten yet: the oldest entry sits in slot 0
        rw [Nat.min_eq_left hle, Nat.sub_eq_zero_of_le hle, Nat.zero_add]
        rcases Nat.lt_or_eq_of_le hle with hlt | heq
        · rw [Nat.mod_eq_of_lt hlt]
          have e : xs.length + cap - xs.length + i = i + cap := by omega
          rw [e, Nat.add_mod_right]
        · rw [heq, Nat.mod_self]
          have e : 0 + cap - cap + i = i := by omega
          rw [e]
      · rw [Nat.min_eq_right hle]
        have e : xs.length % cap + cap - cap + i = xs.length % cap + i := by omega
        have e' : xs.length = xs.length - cap + cap := by omega
        rw [e, Nat.mod_add_mod]
        conv_lhs => rw [e']
        have e'' : xs.length - cap + cap + i = xs.length - cap + i + cap := by omega
        rw [e'', Nat.add_mod_right]
    have hget : xs.length - cap + i < xs.length := by omega
    have hx := h.slots (xs.length - cap + i) hget (by omega)
    simp only [RingBuffer.toList, List.getElem_map, List.getElem_range, List.rtake,
      List.getElem_drop]
    rw [hpos, hx]

/-- The buffer seen through a reading of its entries. -/
def map {β : Type v} (f : α → β) (r : RingBuffer α cap) : RingBuffer β cap :=
  ⟨r.head, r.count, fun i => f (r.slots i)⟩

theorem map_push {β : Type v} (f : α → β) (r : RingBuffer α cap) (x : α) :
    (r.push x).map f = (r.map f).push (f x) := by
  have hslots : (fun i => f (Function.update r.slots (Fin.ofNat cap r.head) x i)) =
      Function.update (fun i => f (r.slots i)) (Fin.ofNat cap r.head) (f x) :=
    Function.comp_update f r.slots _ x
  unfold push map
  rw [hslots]

theorem map_toList {β : Type v} (f : α → β) (r : RingBuffer α cap) :
    (r.map f).toList = r.toList.map f := by
  unfold toList
  rw [List.map_map]
  rfl

/-- The last entries of a mapped list. -/
theorem rtake_map {β : Type u} (f : β → α) (xs : List β) (n : Nat) :
    (xs.map f).rtake n = (xs.rtake n).map f := by
  rw [List.rtake, List.rtake, List.length_map, List.map_drop]

end RingBuffer
