/-
  File:      DragonBench/Lib/Transition.lean
  Subject:   Labelled transition systems whose step is a partial function, and the induction
             over their runs.

  A system is a set of start states and a step `σ → α → Option σ`: the label says who moves and
  what the surroundings answer, so a step has at most one outcome. Interleaving is the free
  choice of the labels.

  * `Reach S C` -- the states a run reaches all of whose steps meet the condition `C` (a
    property of the state before the step and of the label); `Reach S Always` is plain
    reachability;
  * `Reach.inv` -- the invariant rule, once and for all;
  * `exec`, `exec_map`, `reach_runEnd`, `exec_runEnd`, `step_runEnd` -- a run given by the list of
    its labels, its image under a functional simulation, its end;
  * `exec_inv`, `exec_until` -- the invariant rule for such a run, with what its labels have brought
    as history, and a run to where a measure has fallen;
  * `startingAt`, `reach_startingAt` -- what can still happen from a state on;
  * `guard`, `reach_guard` -- the system that takes only the steps that meet a decidable
    condition, so that a concrete run can be checked to meet it.
-/
import Mathlib.Data.List.Basic

namespace Transition

universe u v

/-- A transition system with a partial step function. -/
structure System (σ : Type u) (α : Type v) where
  init : σ → Prop
  step : σ → α → Option σ

variable {σ : Type u} {α : Type v}

/-- The condition that every step meets. -/
def Always (_ : σ) (_ : α) : Prop := True

/-- The states reached by steps that meet `C`. -/
inductive Reach (S : System σ α) (C : σ → α → Prop) : σ → Prop where
  | start {s : σ} (h : S.init s) : Reach S C s
  | step {s s' : σ} {a : α} (h : Reach S C s) (hc : C s a) (hs : S.step s a = some s') :
      Reach S C s'

section Rules

variable {S : System σ α} {C : σ → α → Prop}

/-- **The invariant rule**: what holds at the start and is kept by every step that meets the
    condition holds in every state reached. What is already known of the states reached may be
    used in front of the step. -/
theorem Reach.inv {I : σ → Prop} (h0 : ∀ s, S.init s → I s)
    (hI : ∀ s a s', Reach S C s → I s → C s a → S.step s a = some s' → I s') {s : σ}
    (h : Reach S C s) : I s := by
  induction h with
  | start h => exact h0 _ h
  | step h hc hs ih => exact hI _ _ _ h ih hc hs

end Rules

/-- A run given by its labels; `none` when one of them is not enabled. -/
def System.exec (S : System σ α) : σ → List α → Option σ
  | s, [] => some s
  | s, a :: as => (S.step s a).bind fun s' => S.exec s' as

/-- One run after another. -/
theorem exec_append {S : System σ α} (s : σ) (as bs : List α) :
    S.exec s (as ++ bs) = (S.exec s as).bind fun t => S.exec t bs := by
  induction as generalizing s with
  | nil => rfl
  | cons a as ih =>
      show ((S.step s a).bind fun t => S.exec t (as ++ bs)) =
        ((S.step s a).bind fun t => S.exec t as).bind fun t => S.exec t bs
      cases S.step s a with
      | none => rfl
      | some t => exact ih t

/-- The end of a concrete run is reachable. -/
theorem reach_exec {S : System σ α} {as : List α} {s s' : σ} (h : Reach S Always s)
    (hx : S.exec s as = some s') : Reach S Always s' := by
  induction as generalizing s with
  | nil =>
      cases hx
      exact h
  | cons a as ih =>
      obtain ⟨t, ht, hx'⟩ := Option.bind_eq_some_iff.mp hx
      exact ih (.step h trivial ht) hx'

/-- **A functional simulation**: a map of the states and the labels that commutes with every step
    commutes with every run. -/
theorem exec_map {τ : Type*} {β : Type*} {S : System σ α} {T : System τ β} (e : σ → τ) (g : α → β)
    (h : ∀ s a, T.step (e s) (g a) = (S.step s a).map e) (s : σ) (as : List α) :
    T.exec (e s) (as.map g) = (S.exec s as).map e := by
  induction as generalizing s with
  | nil => rfl
  | cons a as ih =>
      show (T.step (e s) (g a)).bind (fun t => T.exec t (as.map g)) =
        ((S.step s a).bind fun s' => S.exec s' as).map e
      rw [h]
      cases S.step s a with
      | none => rfl
      | some s' => exact ih s'

/-- **The invariant rule for a run given by its labels**: `x` is what they have brought. -/
theorem exec_inv {η : Type*} {S : System σ α} {I : η → σ → Prop} {P : α → Prop} {upd : η → α → η}
    (hI : ∀ x s a s', I x s → P a → S.step s a = some s' → I (upd x a) s') {as : List α} {s s' : σ}
    {x : η} (hP : ∀ a ∈ as, P a) (h : I x s) (hx : S.exec s as = some s') :
    I (as.foldl upd x) s' := by
  induction as generalizing s x with
  | nil =>
      cases hx
      exact h
  | cons a as ih =>
      obtain ⟨t, ht, hx⟩ := Option.bind_eq_some_iff.mp hx
      obtain ⟨ha, hP⟩ := List.forall_mem_cons.mp hP
      exact ih hP (hI x s a t h ha ht) hx

/-- **A run to the goal**: while it is not reached, some step keeps the invariant and lets the
    measure fall. -/
theorem exec_until {S : System σ α} {I goal : σ → Prop} {P : α → Prop} (μ : σ → Nat)
    (h : ∀ s, I s → ¬ goal s → ∃ a s', P a ∧ S.step s a = some s' ∧ I s' ∧ μ s' < μ s) (s : σ)
    (hs : I s) : ∃ as s', S.exec s as = some s' ∧ (∀ a ∈ as, P a) ∧ I s' ∧ goal s' := by
  induction hn : μ s using Nat.strongRecOn generalizing s with
  | ind n ih =>
      by_cases hg : goal s
      · exact ⟨[], s, rfl, fun a ha => absurd ha List.not_mem_nil, hs, hg⟩
      · obtain ⟨a, t, ha, hstep, ht, hlt⟩ := h s hs hg
        obtain ⟨as, s', hx, hP, hI, hgoal⟩ := ih (μ t) (hn ▸ hlt) t ht rfl
        refine ⟨a :: as, s', ?_, List.forall_mem_cons.mpr ⟨ha, hP⟩, hI, hgoal⟩
        show (S.step s a).bind (fun t => S.exec t as) = some s'
        rw [hstep]
        exact hx

/-- The end of such a run, or its start when some label is not enabled. -/
def System.runEnd (S : System σ α) (s : σ) (as : List α) : σ := (S.exec s as).getD s

/-- The end of a run whose labels are all enabled is reachable. -/
theorem reach_runEnd {S : System σ α} {as : List α} {s : σ} (h : Reach S Always s)
    (hx : (S.exec s as).isSome = true) : Reach S Always (S.runEnd s as) := by
  obtain ⟨s', hs'⟩ := Option.isSome_iff_exists.mp hx
  rw [System.runEnd, hs']
  exact reach_exec h hs'

/-- A run whose labels are all enabled leads to its end. -/
theorem exec_runEnd (S : System σ α) (s : σ) (as : List α) (h : (S.exec s as).isSome = true) :
    S.exec s as = some (S.runEnd s as) := by
  obtain ⟨s', hs'⟩ := Option.isSome_iff_exists.mp h
  rw [System.runEnd, hs']
  rfl

/-- An enabled step leads to the end of the run that consists of it. -/
theorem step_runEnd (S : System σ α) (s : σ) (a : α) (h : (S.step s a).isSome = true) :
    S.step s a = some (S.runEnd s [a]) := by
  obtain ⟨s', hs⟩ := Option.isSome_iff_exists.mp h
  have hx : S.exec s [a] = some s' := by
    unfold System.exec
    rw [hs]
    rfl
  rw [System.runEnd, hx, hs]
  rfl

/-- The system that takes only the steps that meet `C`. -/
def System.guard (S : System σ α) (C : σ → α → Prop) [∀ s a, Decidable (C s a)] : System σ α where
  init := S.init
  step s a := if C s a then S.step s a else none

/-- Its states are those the system reaches by steps that meet `C`. -/
theorem reach_guard {S : System σ α} {C : σ → α → Prop} [∀ s a, Decidable (C s a)] {s : σ}
    (h : Reach (S.guard C) Always s) : Reach S C s := by
  induction h with
  | start h => exact .start h
  | step _ _ hs ih =>
      obtain ⟨hc, hs⟩ := Option.ite_none_right_eq_some.mp hs
      exact .step ih hc hs

/-- The same steps from one given state. -/
def System.startingAt (S : System σ α) (s : σ) : System σ α := ⟨fun t => t = s, S.step⟩

/-- A run that goes on from a reachable state stays in the reachable states. -/
theorem reach_startingAt {S : System σ α} {C : σ → α → Prop} {s t : σ} (h : Reach S C s)
    (ht : Reach (S.startingAt s) C t) : Reach S C t := by
  induction ht with
  | start e =>
      cases e
      exact h
  | step _ hc hs ih => exact .step ih hc hs

end Transition
