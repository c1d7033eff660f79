/-
  File:      DragonBench/Lib/Refinement.lean
  Subject:   One labelled transition system refined by another, by an abstraction function; steps the
             abstract system does not see are stuttering steps.

  * `Refinement` -- the abstraction of the states, the reading of the labels, and the two conditions;
  * `Refinement.visible` -- what the abstract system sees of a run;
  * **`Refinement.exec`** -- every run of the concrete system is a run of the abstract one over what it
    sees, and ends in the abstraction of its end;
  * `Refinement.reach`, `Refinement.inv` -- reachable states and invariants along the abstraction.
-/
import DragonBench.Lib.Transition

namespace Transition

universe u v

/-- **`S` refines `T`.** -/
structure Refinement {σ τ : Type u} {α β : Type v} (S : System σ α) (T : System τ β) where
  abs : σ → τ
  /-- the abstract step a concrete step stands for; `none` for a stuttering step -/
  act : σ → α → Option β
  init : ∀ s, S.init s → T.init (abs s)
  stutter : ∀ s a s', Reach S Always s → S.step s a = some s' → act s a = none → abs s' = abs s
  step : ∀ s a s' b, Reach S Always s → S.step s a = some s' → act s a = some b →
    T.step (abs s) b = some (abs s')

variable {σ τ : Type u} {α β : Type v} {S : System σ α} {T : System τ β}

/-- What the abstract system sees of a run. -/
def Refinement.visible (R : Refinement S T) : σ → List α → List β
  | _, [] => []
  | s, a :: as =>
    match S.step s a with
    | none => []
    | some s' => (R.act s a).toList ++ R.visible s' as

/-- **A run of the concrete system is one of the abstract system.** -/
theorem Refinement.exec (R : Refinement S T) {as : List α} {s s' : σ} (h : Reach S Always s)
    (hx : S.exec s as = some s') : T.exec (R.abs s) (R.visible s as) = some (R.abs s') := by
  induction as generalizing s with
  | nil =>
      cases hx
      rfl
  | cons a as ih =>
      obtain ⟨t, ht, hx⟩ := Option.bind_eq_some_iff.mp hx
      have hr : Reach S Always t := .step h trivial ht
      have hv : R.visible s (a :: as) = (R.act s a).toList ++ R.visible t as := by
        rw [Refinement.visible, ht]
      rw [hv]
      cases hb : R.act s a with
      | none =>
          rw [← R.stutter s a t h ht hb]
          exact ih hr hx
      | some b =>
          show (T.step (R.abs s) b).bind (fun q => T.exec q (R.visible t as)) = some (R.abs s')
          rw [R.step s a t b h ht hb]
          exact ih hr hx

/-- The abstraction of a reachable state is reachable. -/
theorem Refinement.reach (R : Refinement S T) {s : σ} (h : Reach S Always s) :
    Reach T Always (R.abs s) := by
  induction h with
  | start h => exact .start (R.init _ h)
  | @step s s' a h _ hs ih =>
      cases hb : R.act s a with
      | none =>
          rw [R.stutter s a s' h hs hb]
          exact ih
      | some b => exact .step ih trivial (R.step s a s' b h hs hb)

/-- **An invariant of the abstract system** holds of the abstraction of every reachable state. -/
theorem Refinement.inv (R : Refinement S T) {I : τ → Prop} (h0 : ∀ t, T.init t → I t)
    (hI : ∀ t b t', I t → T.step t b = some t' → I t') {s : σ} (h : Reach S Always s) :
    I (R.abs s) :=
  (R.reach h).inv h0 fun t b t' _ hi _ hs => hI t b t' hi hs

end Transition
