/-
  File:      DragonBench/Lib/Chunks.lean
  Subject:   A stream that arrives in chunks and is cut behind each terminator: what has been cut
             off so far, and the tail that waits for its terminator.

  * `terminated` -- the pieces of a stream, without the terminators and without the tail;
    `terminated_append` -- a longer stream has them, too;
  * `Carries` -- the pieces cut off and the tail stand for the stream read, whatever follows it;
  * `Carries.read`, `Carries.cut` -- a chunk arrives, a piece is cut off;
  * **`Carries.pieces`** -- when the tail holds no terminator, the pieces are those of the stream.
-/
import Mathlib.Data.List.Basic
import Mathlib.Data.List.TakeWhile
import Mathlib.Tactic.Common

namespace Chunks

universe u

variable {α : Type u} [DecidableEq α] {sep : α}

/-- The pieces of a stream in front of its terminators. -/
def terminated (sep : α) (stream : List α) : List (List α) := (stream.splitOn sep).dropLast

theorem terminated_plain {tail : List α} (h : sep ∉ tail) : terminated sep tail = [] := by
  rw [terminated, List.splitOn_eq_singleton h]
  rfl

/-- A piece and its terminator are in front of what follows. -/
theorem terminated_cons {piece : List α} (h : sep ∉ piece) (rest : List α) :
    terminated sep (piece ++ sep :: rest) = piece :: terminated sep rest := by
  unfold terminated
  rw [List.splitOn_append_cons_self_of_not_mem h,
    List.dropLast_cons_of_ne_nil (List.splitOn_ne_nil sep rest)]

/-- **The pieces and the tail stand for the stream**, whatever follows. -/
def Carries (sep : α) (stream : List α) (done : List (List α)) (tail : List α) : Prop :=
  ∀ more, done ++ terminated sep (tail ++ more) = terminated sep (stream ++ more)

section Carries

variable {stream tail : List α} {done : List (List α)}

theorem carries_nil : Carries sep ([] : List α) [] [] := fun _ => rfl

/-- A chunk arrives. -/
theorem Carries.read (h : Carries sep stream done tail) (chunk : List α) :
    Carries sep (stream ++ chunk) done (tail ++ chunk) := by
  intro more
  rw [List.append_assoc, List.append_assoc]
  exact h (chunk ++ more)

/-- A piece is cut off. -/
theorem Carries.cut {piece rest : List α} (h : Carries sep stream done (piece ++ sep :: rest))
    (hp : sep ∉ piece) : Carries sep stream (done ++ [piece]) rest := by
  intro more
  have htail : piece ++ sep :: rest ++ more = piece ++ sep :: (rest ++ more) :=
    List.append_assoc ..
  rw [← h more, htail, terminated_cons hp, List.append_assoc]
  rfl

/-- **All has been cut off** when the tail holds no terminator. -/
theorem Carries.pieces (h : Carries sep stream done tail) (ht : sep ∉ tail) :
    done = terminated sep stream := by
  have hend := h []
  rwa [List.append_nil, List.append_nil, terminated_plain ht, List.append_nil] at hend

end Carries

/-- What is in front of the first terminator, and what is behind it. -/
theorem cut_eq {l : List α} (h : sep ∈ l) :
    l = (l.takeWhile fun c => decide (c ≠ sep)) ++
      sep :: (l.dropWhile fun c => decide (c ≠ sep)).drop 1 := by
  induction l with
  | nil => cases h
  | cons c l ih =>
      by_cases hc : c = sep
      · rw [List.takeWhile_cons_of_neg (by simpa using hc),
          List.dropWhile_cons_of_neg (by simpa using hc), hc]
        rfl
      · rw [List.takeWhile_cons_of_pos (by simpa using hc),
          List.dropWhile_cons_of_pos (by simpa using hc), List.cons_append]
        exact congrArg (c :: ·) (ih ((List.mem_cons.mp h).resolve_left fun e => hc e.symm))

theorem not_mem_front (sep : α) (l : List α) : sep ∉ l.takeWhile fun c => decide (c ≠ sep) := by
  intro h
  have hne := List.mem_takeWhile_imp h
  rw [decide_eq_true_eq] at hne
  exact hne rfl

/-- What follows a stream leaves its pieces. -/
theorem terminated_append (sep : α) (stream more : List α) :
    ∃ rest, terminated sep (stream ++ more) = terminated sep stream ++ rest := by
  induction hn : stream.length using Nat.strong_induction_on generalizing stream with
  | _ n ih =>
      by_cases h : sep ∈ stream
      · have hcut := cut_eq h
        have hfront := not_mem_front sep stream
        generalize stream.takeWhile (fun c => decide (c ≠ sep)) = front at hcut hfront
        generalize (stream.dropWhile fun c => decide (c ≠ sep)).drop 1 = behind at hcut
        subst hcut
        obtain ⟨rest, hrest⟩ := ih behind.length
          (by rw [← hn, List.length_append, List.length_cons]; omega) behind rfl
        refine ⟨rest, ?_⟩
        rw [List.append_assoc, List.cons_append, terminated_cons hfront, terminated_cons hfront, hrest]
        rfl
      · exact ⟨_, by rw [terminated_plain h]; rfl⟩

end Chunks
