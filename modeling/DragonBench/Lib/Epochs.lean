/-
  File:      DragonBench/Lib/Epochs.lean
  Subject:   A counter that starts again in every epoch, and what can be told of the epoch from two
             of its values.

  * `Timeline` -- the epoch and the counter at every instant;
  * `Timeline.epoch_lt` -- a counter that has gone back is in a later epoch;
  * `find_eq_iff` -- the first element that meets a sufficient sign of `q` is the first one that
    meets `q` exactly when that one shows the sign;
  * `found_iff` -- and it does when nothing in front of the first sign meets `q`;
  * **`Timeline.first_later_iff`** -- so the first observation of a later epoch is found by its
    counter exactly when its counter is below the one before.
-/
import Mathlib.Data.List.Basic
import Mathlib.Order.Monotone.Basic

namespace Epochs

universe u v w

/-! ## 1. Timelines -/

/-- Epochs follow one another, and within one the counter rises. -/
structure Timeline (τ : Type u) (ε : Type v) (κ : Type w) [PartialOrder τ] [PartialOrder ε]
    [Preorder κ] where
  epoch : τ → ε
  counter : τ → κ
  epoch_mono : Monotone epoch
  counter_lt : ∀ {t u : τ}, t < u → epoch t = epoch u → counter t < counter u

section Timelines

variable {τ : Type u} {ε : Type v} {κ : Type w} [PartialOrder τ] [PartialOrder ε] [Preorder κ]
  (T : Timeline τ ε κ) {t u : τ}

/-- Within an epoch the counter does not go back. -/
theorem Timeline.counter_le (htu : t ≤ u) (he : T.epoch t = T.epoch u) :
    T.counter t ≤ T.counter u := by
  rcases eq_or_lt_of_le htu with rfl | hlt
  · exact le_refl _
  · exact le_of_lt (T.counter_lt hlt he)

/-- **A counter that has gone back is in a later epoch.** -/
theorem Timeline.epoch_lt (htu : t ≤ u) (hc : T.counter u < T.counter t) :
    T.epoch t < T.epoch u :=
  lt_of_le_of_ne (T.epoch_mono htu) fun he => lt_irrefl _ (lt_of_lt_of_le hc (T.counter_le htu he))

end Timelines

/-! ## 2. The first element that meets a predicate -/

section First

variable {α : Type u} {p q : α → Bool} {l : List α}

/-- **The search for a sufficient sign** finds the first element that meets `q` exactly when that
    element shows the sign. -/
theorem find_eq_iff (hpq : ∀ x ∈ l, p x = true → q x = true) :
    l.find? p = l.find? q ↔ ∀ x, l.find? q = some x → p x = true := by
  constructor
  · intro h x hx
    rw [← h] at hx
    exact List.find?_some hx
  · intro h
    induction l with
    | nil => rfl
    | cons a l ih =>
        by_cases hq : q a = true
        · have hp : p a = true := h a (List.find?_cons_of_pos hq)
          rw [List.find?_cons_of_pos hp, List.find?_cons_of_pos hq]
        · have hp : ¬ p a = true := fun hp => hq (hpq a List.mem_cons_self hp)
          rw [List.find?_cons_of_neg hq] at h
          rw [List.find?_cons_of_neg hp, List.find?_cons_of_neg hq]
          exact ih (fun x hx => hpq x (List.mem_cons_of_mem a hx)) h

/-- **What the search passes over**: the element it finds shows the sign exactly when none in front
    of the first sign meets `q`. -/
theorem found_iff (hpq : ∀ x ∈ l, p x = true → q x = true) :
    (∀ x, l.find? q = some x → p x = true) ↔ ∀ x ∈ l.takeWhile fun x => !p x, q x = false := by
  induction l with
  | nil => simp
  | cons a l ih =>
      have ih := ih fun x hx => hpq x (List.mem_cons_of_mem a hx)
      by_cases hp : p a = true
      · rw [List.find?_cons_of_pos (hpq a List.mem_cons_self hp),
          List.takeWhile_cons_of_neg (by simp [hp])]
        refine ⟨fun _ x hx => absurd hx List.not_mem_nil, fun _ x hx => ?_⟩
        cases hx
        exact hp
      · rw [List.takeWhile_cons_of_pos (by simp [hp]), List.forall_mem_cons]
        by_cases hq : q a = true
        · rw [List.find?_cons_of_pos hq]
          exact ⟨fun h => absurd (h a rfl) hp, fun h => absurd h.1 (by simp [hq])⟩
        · rw [List.find?_cons_of_neg hq, ih]
          exact ⟨fun h => ⟨eq_false_of_ne_true hq, h⟩, fun h => h.2⟩

end First

/-! ## 3. The first observation of a later epoch -/

section Observations

variable {α : Type*} {τ : Type u} {ε : Type v} {κ : Type w} [PartialOrder τ] [PartialOrder ε]
  [Preorder κ] [DecidableLT ε] [DecidableLT κ] (T : Timeline τ ε κ) {p q : α → Bool}
  {instant : α → τ} {b : τ} {l : List α}

/-- **Among the observations of `l`**, all of them later than `b`; some may not be `valid`. -/
theorem Timeline.first_later_iff (valid : α → Bool) (hafter : ∀ x ∈ l, b ≤ instant x)
    (hp : ∀ x ∈ l, p x = (valid x && decide (T.counter (instant x) < T.counter b)))
    (hq : ∀ x ∈ l, q x = (valid x && decide (T.epoch b < T.epoch (instant x)))) :
    l.find? p = l.find? q ↔
      ∀ x, l.find? q = some x → T.counter (instant x) < T.counter b := by
  refine (find_eq_iff fun x hx h => ?_).trans ⟨fun h x hx => ?_, fun h x hx => ?_⟩
  · rw [hp x hx, Bool.and_eq_true] at h
    rw [hq x hx, Bool.and_eq_true]
    exact ⟨h.1, decide_eq_true (T.epoch_lt (hafter x hx) (of_decide_eq_true h.2))⟩
  · have hs := h x hx
    rw [hp x (List.mem_of_find?_eq_some hx), Bool.and_eq_true] at hs
    exact of_decide_eq_true hs.2
  · have hm := List.mem_of_find?_eq_some hx
    have hs : q x = true := List.find?_some hx
    rw [hq x hm, Bool.and_eq_true] at hs
    rw [hp x hm, Bool.and_eq_true]
    exact ⟨hs.1, decide_eq_true (h x hx)⟩

end Observations

end Epochs
