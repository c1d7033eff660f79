/-
  File:      DragonBench/Lib/GroupBy.lean
  Subject:   Grouping by a key in a dictionary that keeps the order of its keys:
             `out.setdefault(key(r), []).append(r)` for every `r`.

  * `add`, `groupBy` -- one element, and all of a list;
  * `Groups` -- the keys are distinct and those of the list; a group is what of the list has its
    key, in order; the groups one behind the other are the list in another order;
  * `groups` -- they are;
  * **`length_groups`, `countP_groups`** -- so what is counted group by group is counted in the
    list.
-/
import Mathlib.Algebra.GroupWithZero.Nat
import Mathlib.Data.List.Basic
import Mathlib.Data.List.Nodup

namespace GroupBy

universe u v

variable {κ : Type u} {α : Type v} [DecidableEq κ]

/-- `out.setdefault(k, []).append(a)`. -/
def add (k : κ) (a : α) : List (κ × List α) → List (κ × List α)
  | [] => [(k, [a])]
  | g :: gs => if g.1 = k then (g.1, g.2 ++ [a]) :: gs else g :: add k a gs

/-- The groups of a list, in the order in which their keys come up. -/
def groupBy (key : α → κ) (l : List α) : List (κ × List α) := l.foldl (fun gs a => add (key a) a gs) []

variable {key : α → κ} {k : κ} {a : α} {gs : List (κ × List α)} {l : List α}

theorem add_keys :
    (add k a gs).map Prod.fst =
      if k ∈ gs.map Prod.fst then gs.map Prod.fst else gs.map Prod.fst ++ [k] := by
  induction gs with
  | nil => rfl
  | cons g gs ih =>
      rw [add]
      by_cases hg : g.1 = k
      · rw [if_pos hg, if_pos (by rw [← hg]; exact List.mem_cons_self)]
        rfl
      · have hmem : k ∈ (g :: gs).map Prod.fst ↔ k ∈ gs.map Prod.fst := by
          rw [List.map_cons, List.mem_cons]
          exact ⟨fun h => h.resolve_left fun e => hg e.symm, Or.inr⟩
        rw [if_neg hg, List.map_cons, ih]
        by_cases hk : k ∈ gs.map Prod.fst
        · rw [if_pos hk, if_pos (hmem.mpr hk)]
          rfl
        · rw [if_neg hk, if_neg fun h => hk (hmem.mp h)]
          rfl

/-- The element is put among the others. -/
theorem add_perm : ((add k a gs).flatMap Prod.snd).Perm (gs.flatMap Prod.snd ++ [a]) := by
  induction gs with
  | nil => exact .refl _
  | cons g gs ih =>
      rw [add]
      split
      · rw [List.flatMap_cons, List.flatMap_cons, List.append_assoc, List.append_assoc]
        exact List.perm_append_comm.append_left g.2
      · rw [List.flatMap_cons, List.flatMap_cons, List.append_assoc]
        exact ih.append_left g.2

/-- What a group is behind the step. -/
theorem mem_add {g : κ × List α} (hn : (gs.map Prod.fst).Nodup) (h : g ∈ add k a gs) :
    (g ∈ gs ∧ g.1 ≠ k) ∨ (g.1 = k ∧ ((∃ l, (k, l) ∈ gs ∧ g.2 = l ++ [a]) ∨
      (k ∉ gs.map Prod.fst ∧ g.2 = [a]))) := by
  induction gs with
  | nil =>
      rw [List.mem_singleton.mp h]
      exact Or.inr ⟨rfl, Or.inr ⟨List.not_mem_nil, rfl⟩⟩
  | cons g' gs ih =>
      rw [List.map_cons, List.nodup_cons] at hn
      rw [add] at h
      split at h
      · rename_i hk
        rcases List.mem_cons.mp h with rfl | h
        · exact Or.inr ⟨hk, Or.inl ⟨g'.2, by rw [← hk]; exact List.mem_cons_self, rfl⟩⟩
        · refine Or.inl ⟨List.mem_cons_of_mem g' h, fun e => hn.1 ?_⟩
          rw [hk, ← e]
          exact List.mem_map_of_mem h
      · rename_i hk
        rcases List.mem_cons.mp h with rfl | h
        · exact Or.inl ⟨List.mem_cons_self, hk⟩
        · rcases ih hn.2 h with ⟨hg, hne⟩ | ⟨he, ⟨l, hl, hg⟩ | ⟨hno, hg⟩⟩
          · exact Or.inl ⟨List.mem_cons_of_mem g' hg, hne⟩
          · exact Or.inr ⟨he, Or.inl ⟨l, List.mem_cons_of_mem g' hl, hg⟩⟩
          · refine Or.inr ⟨he, Or.inr ⟨fun hm => ?_, hg⟩⟩
            rcases List.mem_cons.mp hm with e | hm
            · exact hk e.symm
            · exact hno hm

/-- The groups of the part of the list that has been taken. -/
structure Groups (key : α → κ) (l : List α) (gs : List (κ × List α)) : Prop where
  nodup : (gs.map Prod.fst).Nodup
  keys : ∀ k, k ∈ gs.map Prod.fst ↔ k ∈ l.map key
  group : ∀ g ∈ gs, g.2 = l.filter fun b => decide (key b = g.1)
  perm : (gs.flatMap Prod.snd).Perm l

theorem Groups.add (h : Groups key l gs) (a : α) : Groups key (l ++ [a]) (add (key a) a gs) := by
  refine ⟨?_, fun k => ?_, fun g hg => ?_, add_perm.trans (h.perm.append_right [a])⟩
  · rw [add_keys]
    split
    · exact h.nodup
    · rename_i hk
      exact List.Nodup.append h.nodup (List.nodup_singleton _) (by simpa using hk)
  · rw [add_keys, List.map_append]
    by_cases hk : key a ∈ gs.map Prod.fst
    · rw [if_pos hk, List.mem_append, h.keys]
      refine ⟨Or.inl, fun hm => hm.elim id fun e => ?_⟩
      rw [List.mem_singleton.mp e]
      exact (h.keys _).mp hk
    · rw [if_neg hk, List.mem_append, List.mem_append, h.keys]
      rfl
  · rw [List.filter_append]
    rcases mem_add h.nodup hg with ⟨hg, hne⟩ | ⟨he, ⟨l', hl, hg⟩ | ⟨hno, hg⟩⟩
    · rw [List.filter_cons_of_neg (by simpa using fun e => hne e.symm), List.filter_nil,
        List.append_nil]
      exact h.group g hg
    · rw [List.filter_cons_of_pos (by simpa using he.symm), List.filter_nil, hg, he, ← h.group _ hl]
    · rw [List.filter_cons_of_pos (by simpa using he.symm), List.filter_nil, hg, he]
      have hnone : (l.filter fun b => decide (key b = key a)) = [] := by
        refine List.filter_eq_nil_iff.mpr fun b hb e => hno ?_
        rw [h.keys, ← of_decide_eq_true e]
        exact List.mem_map_of_mem hb
      rw [hnone]
      rfl

theorem groups (key : α → κ) (l : List α) : Groups key l (groupBy key l) := by
  have hrun : ∀ (rest done : List α) (gs : List (κ × List α)), Groups key done gs →
      Groups key (done ++ rest) (rest.foldl (fun gs a => add (key a) a gs) gs) := by
    intro rest
    induction rest with
    | nil =>
        intro done gs h
        rwa [List.append_nil]
    | cons a rest ih =>
        intro done gs h
        rw [List.foldl_cons, ← List.singleton_append, ← List.append_assoc]
        exact ih _ _ (h.add a)
  exact hrun l [] [] ⟨List.nodup_nil, fun _ => Iff.rfl, fun _ hg => absurd hg List.not_mem_nil,
    .refl _⟩

/-- **The groups have the elements of the list.** -/
theorem length_groups (key : α → κ) (l : List α) :
    ((groupBy key l).map fun g => g.2.length).sum = l.length := by
  have hlen := (groups key l).perm.length_eq
  rwa [List.length_flatMap] at hlen

/-- **What is counted within the groups** is counted in the list. -/
theorem countP_groups (key : α → κ) (p : α → Bool) (l : List α) :
    ((groupBy key l).map fun g => g.2.countP p).sum = l.countP p := by
  have hcount := (groups key l).perm.countP_eq p
  rwa [List.countP_flatMap] at hcount

end GroupBy
