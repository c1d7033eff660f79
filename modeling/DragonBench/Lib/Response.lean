/-
  File:      DragonBench/Lib/Response.lean
  Subject:   Bounded response in a labelled transition system: a goal that is reached after a bounded
             number of steps of one party, whatever the others do in between.

  The party's steps are the labels `own`. Its measure never rises while the goal is outstanding, and
  each of its own steps lets it fall.

  * `Responds` -- the conditions on one step;
  * `Responds.exec` -- what they say of a run;
  * `Responds.within` -- the goal within as many own steps as the measure is high.
-/
import DragonBench.Lib.Transition

namespace Transition

universe u v

variable {σ : Type u} {α : Type v}

/-- **The conditions for a bounded response** from the states that meet `I`. -/
structure Responds (S : System σ α) (own : α → Bool) (goal I : σ → Prop) (μ : σ → Nat) : Prop where
  stable : ∀ s a s', goal s → S.step s a = some s' → goal s'
  step : ∀ s a s', I s → S.step s a = some s' →
    goal s' ∨ I s' ∧ μ s' + (if own a then 1 else 0) ≤ μ s
  pos : ∀ s, I s → 0 < μ s

variable {S : System σ α} {own : α → Bool} {goal I : σ → Prop} {μ : σ → Nat}

/-- A goal that is reached stays reached. -/
theorem Responds.stable_exec (R : Responds S own goal I μ) {as : List α} {s s' : σ} (h : goal s)
    (hx : S.exec s as = some s') : goal s' := by
  induction as generalizing s with
  | nil =>
      cases hx
      exact h
  | cons a as ih =>
      obtain ⟨t, ht, hx⟩ := Option.bind_eq_some_iff.mp hx
      exact ih (R.stable s a t h ht) hx

/-- **A run either reaches the goal** or pays for every own step. -/
theorem Responds.exec (R : Responds S own goal I μ) {as : List α} {s s' : σ} (h : I s)
    (hx : S.exec s as = some s') : goal s' ∨ I s' ∧ μ s' + as.countP own ≤ μ s := by
  induction as generalizing s with
  | nil =>
      cases hx
      exact Or.inr ⟨h, Nat.le_refl _⟩
  | cons a as ih =>
      obtain ⟨t, ht, hx⟩ := Option.bind_eq_some_iff.mp hx
      rcases R.step s a t h ht with hg | ⟨hI, hμ⟩
      · exact Or.inl (R.stable_exec hg hx)
      · refine (ih hI hx).imp_right fun hr => ⟨hr.1, ?_⟩
        rw [List.countP_cons]
        have := hr.2
        omega

/-- **The bounded response**: a run with as many own steps as the measure is high has reached the
    goal. -/
theorem Responds.within (R : Responds S own goal I μ) {as : List α} {s s' : σ} (h : I s)
    (hx : S.exec s as = some s') (hn : μ s ≤ as.countP own) : goal s' := by
  refine (R.exec h hx).resolve_right fun hr => ?_
  have := R.pos s' hr.1
  have := hr.2
  omega

end Transition
