/-
  File:      DragonBench/Lib/Regex.lean
  Subject:   Regular expressions with groups, matched by backtracking as Python's `re` does: an
             alternative in order, a repetition greedily or not, the search at the leftmost place.

  Only single characters are repeated, so a repetition follows the text.

  * `Regex.run` -- the matcher, with what is asked of the text behind the match;
  * `Regex.Matches` -- what a match is;
  * `Regex.search`, `Regex.remove` -- `re.search` and `re.sub` with the empty text;
  * `run_sound` -- the matcher finds matches;
  * **`search_groups`** -- a group whose expression consumes is not empty.
-/
import DragonBench.Lib.Text

inductive Regex where
  | empty
  /-- a character of a class -/
  | chr (p : Char → Bool)
  | seq (a b : Regex)
  | alt (a b : Regex)
  /-- characters of a class, as many as can be -/
  | many (p : Char → Bool)
  /-- as few as can be -/
  | few (p : Char → Bool)
  | group (a : Regex)

namespace Regex

universe u

variable {β : Type u}

/-! ## 1. Expressions -/

/-- Literal text. -/
def text (s : CText) : Regex := s.foldr (fun c r => .seq (.chr fun x => decide (x = c)) r) .empty

/-- A letter of the text and one of a lower-case expression under `re.IGNORECASE`. Three letters
    beyond ASCII fold to one of ASCII. -/
def sameLetter (c x : Char) : Bool :=
  x.toLower = c || (c = 's' && x = '\u017f') || (c = 'k' && x = '\u212a') ||
    (c = 'i' && (x = '\u0130' || x = '\u0131'))

/-- Literal text under `re.IGNORECASE`, given in lower case. -/
def textIgnoreCase (s : CText) : Regex := s.foldr (fun c r => .seq (.chr (sameLetter c)) r) .empty

/-- At least one character of a class. -/
def plus (p : Char → Bool) : Regex := .seq (.chr p) (.many p)

/-- `.` -/
def notNewline (c : Char) : Bool := c ≠ '\n'

/-- `\s`, and what `str.strip` takes away. -/
def isSpace (c : Char) : Bool :=
  let n := c.toNat
  (9 ≤ n && n ≤ 13) || (0x1c ≤ n && n ≤ 0x20) || n = 0x85 || n = 0xa0 || n = 0x1680 ||
    (0x2000 ≤ n && n ≤ 0x200a) || n = 0x2028 || n = 0x2029 || n = 0x202f || n = 0x205f || n = 0x3000

/-- `[0-9a-fA-F]` -/
def isHex (c : Char) : Bool :=
  c.isDigit || ('a' ≤ c && c ≤ 'f') || ('A' ≤ c && c ≤ 'F')

/-! ## 2. The matcher -/

/-- The longest run first, then each shorter one. -/
def runMany (p : Char → Bool) : CText → (CText → Option β) → Option β
  | [], k => k []
  | c :: s, k => if p c then (runMany p s k).or (k (c :: s)) else k (c :: s)

/-- The shortest run first. -/
def runFew (p : Char → Bool) : CText → (CText → Option β) → Option β
  | [], k => k []
  | c :: s, k => if p c then (k (c :: s)).or (runFew p s k) else k (c :: s)

/-- The first match at the start of a text that `k` accepts; `k` is given the text behind it, and
    the groups. -/
def run : Regex → CText → (CText → List CText → Option β) → Option β
  | .empty, s, k => k s []
  | .chr _, [], _ => none
  | .chr p, c :: s, k => if p c then k s [] else none
  | .seq a b, s, k => a.run s fun t g => b.run t fun v h => k v (g ++ h)
  | .alt a b, s, k => (a.run s k).or (b.run s k)
  | .many p, s, k => runMany p s fun t => k t []
  | .few p, s, k => runFew p s fun t => k t []
  | .group a, s, k => a.run s fun t g => k t (s.take (s.length - t.length) :: g)

/-- The match at the start of a text: what is behind it, and its groups. -/
def matchAt (r : Regex) (s : CText) : Option (CText × List CText) := r.run s fun t g => some (t, g)

/-- The groups of the leftmost match (`re.search`). -/
def search (r : Regex) : CText → Option (List CText)
  | [] => (r.matchAt []).map Prod.snd
  | c :: s =>
    match r.matchAt (c :: s) with
    | some m => some m.2
    | none => search r s

/-- Where `n` characters of a match are still to be passed over. -/
def removeFrom (r : Regex) : Nat → CText → CText
  | _, [] => []
  | n + 1, _ :: s => removeFrom r n s
  | 0, c :: s =>
    match r.matchAt (c :: s) with
    | some (t, _) => removeFrom r (s.length - t.length) s
    | none => c :: removeFrom r 0 s

/-- `re.sub(r, "", s)`, for an expression that does not match the empty text. -/
def remove (r : Regex) (s : CText) : CText := removeFrom r 0 s

/-! ## 3. What a match is -/

/-- `r` matches the front of `s`: `t` is behind it, and `g` are its groups. -/
inductive Matches : Regex → CText → CText → List CText → Prop where
  | empty {s : CText} : Matches .empty s s []
  | chr {p : Char → Bool} {c : Char} {s : CText} (h : p c = true) : Matches (.chr p) (c :: s) s []
  | seq {a b : Regex} {s t v : CText} {g h : List CText} (ha : Matches a s t g)
      (hb : Matches b t v h) : Matches (.seq a b) s v (g ++ h)
  | altLeft {a b : Regex} {s t : CText} {g : List CText} (h : Matches a s t g) :
      Matches (.alt a b) s t g
  | altRight {a b : Regex} {s t : CText} {g : List CText} (h : Matches b s t g) :
      Matches (.alt a b) s t g
  | many {p : Char → Bool} {u s : CText} (h : ∀ c ∈ u, p c = true) : Matches (.many p) (u ++ s) s []
  | few {p : Char → Bool} {u s : CText} (h : ∀ c ∈ u, p c = true) : Matches (.few p) (u ++ s) s []
  | group {a : Regex} {u s : CText} {g : List CText} (h : Matches a (u ++ s) s g) :
      Matches (.group a) (u ++ s) s (u :: g)

variable {r : Regex} {p : Char → Bool} {s t : CText} {g : List CText} {b : β}

/-- A match is a front of the text. -/
theorem Matches.consumed (h : Matches r s t g) : ∃ u, s = u ++ t := by
  induction h with
  | empty => exact ⟨[], rfl⟩
  | chr => exact ⟨[_], rfl⟩
  | seq _ _ iha ihb =>
      obtain ⟨u, rfl⟩ := iha
      obtain ⟨v, rfl⟩ := ihb
      exact ⟨u ++ v, (List.append_assoc ..).symm⟩
  | altLeft _ ih | altRight _ ih => exact ih
  | many | few | group => exact ⟨_, rfl⟩

/-- Characters of the class are passed over and the rest is accepted. -/
def Passes (p : Char → Bool) (k : CText → Option β) (s : CText) (b : β) : Prop :=
  ∃ u t, s = u ++ t ∧ (∀ c ∈ u, p c = true) ∧ k t = some b

section Passes

variable {k : CText → Option β} {c : Char}

theorem Passes.stop (h : k s = some b) : Passes p k s b :=
  ⟨[], s, rfl, fun _ hc => absurd hc List.not_mem_nil, h⟩

theorem Passes.cons (hp : p c = true) (h : Passes p k s b) : Passes p k (c :: s) b := by
  obtain ⟨u, t, rfl, hu, hk⟩ := h
  exact ⟨c :: u, t, rfl, List.forall_mem_cons.mpr ⟨hp, hu⟩, hk⟩

theorem runMany_sound (h : runMany p s k = some b) : Passes p k s b := by
  induction s with
  | nil => exact .stop h
  | cons c s ih =>
      rw [runMany] at h
      split at h
      · rename_i hp
        rcases Option.or_eq_some_iff.mp h with h | ⟨-, h⟩
        · exact (ih h).cons hp
        · exact .stop h
      · exact .stop h

theorem runFew_sound (h : runFew p s k = some b) : Passes p k s b := by
  induction s with
  | nil => exact .stop h
  | cons c s ih =>
      rw [runFew] at h
      split at h
      · rename_i hp
        rcases Option.or_eq_some_iff.mp h with h | ⟨-, h⟩
        · exact .stop h
        · exact (ih h).cons hp
      · exact .stop h

end Passes

/-- **What the matcher finds is a match**, and one that is accepted. -/
theorem run_sound {k : CText → List CText → Option β} (h : r.run s k = some b) :
    ∃ t g, Matches r s t g ∧ k t g = some b := by
  induction r generalizing s b k with
  | empty => exact ⟨s, [], .empty, h⟩
  | chr p =>
      cases s with
      | nil => cases h
      | cons c s =>
          rw [run] at h
          split at h
          · exact ⟨s, [], .chr ‹_›, h⟩
          · cases h
  | seq x y ihx ihy =>
      obtain ⟨t, g, hx, h⟩ := ihx h
      obtain ⟨v, h', hy, hk⟩ := ihy h
      exact ⟨v, g ++ h', .seq hx hy, hk⟩
  | alt x y ihx ihy =>
      rcases Option.or_eq_some_iff.mp h with h | ⟨-, h⟩
      · obtain ⟨t, g, hx, hk⟩ := ihx h
        exact ⟨t, g, .altLeft hx, hk⟩
      · obtain ⟨t, g, hy, hk⟩ := ihy h
        exact ⟨t, g, .altRight hy, hk⟩
  | many p =>
      obtain ⟨u, t, rfl, hu, hk⟩ := runMany_sound h
      exact ⟨t, [], .many hu, hk⟩
  | few p =>
      obtain ⟨u, t, rfl, hu, hk⟩ := runFew_sound h
      exact ⟨t, [], .few hu, hk⟩
  | group x ih =>
      obtain ⟨t, g, hx, hk⟩ := ih h
      obtain ⟨u, rfl⟩ := hx.consumed
      rw [List.length_append, Nat.add_sub_cancel, List.take_left] at hk
      exact ⟨t, u :: g, .group hx, hk⟩

theorem matchAt_sound (h : r.matchAt s = some (t, g)) : Matches r s t g := by
  obtain ⟨t', g', hm, e⟩ := run_sound h
  cases e
  exact hm

theorem search_sound (h : r.search s = some g) : ∃ v t, Matches r v t g := by
  induction s with
  | nil =>
      obtain ⟨m, hm, rfl⟩ := Option.map_eq_some_iff.mp h
      exact ⟨[], m.1, matchAt_sound hm⟩
  | cons c s ih =>
      rw [search] at h
      cases hm : r.matchAt (c :: s) with
      | some m =>
          rw [hm] at h
          cases h
          exact ⟨c :: s, m.1, matchAt_sound hm⟩
      | none =>
          rw [hm] at h
          exact ih h

/-! ## 4. Groups -/

/-- The expression matches no empty text. -/
def consumes : Regex → Bool
  | .empty | .many _ | .few _ => false
  | .chr _ => true
  | .seq a b => a.consumes || b.consumes
  | .alt a b => a.consumes && b.consumes
  | .group a => a.consumes

/-- The expression of every group consumes. -/
def groupsConsume : Regex → Bool
  | .empty | .chr _ | .many _ | .few _ => true
  | .seq a b | .alt a b => a.groupsConsume && b.groupsConsume
  | .group a => a.consumes && a.groupsConsume

theorem Matches.shorter (h : Matches r s t g) (hr : r.consumes = true) : t.length < s.length := by
  induction h with
  | empty | many | few => cases hr
  | chr => exact Nat.lt_succ_self _
  | seq ha hb iha ihb =>
      obtain ⟨u, rfl⟩ := ha.consumed
      obtain ⟨v, rfl⟩ := hb.consumed
      simp only [List.length_append] at iha ihb ⊢
      rcases (Bool.or_eq_true _ _).mp hr with hr | hr
      · have := iha hr
        omega
      · have := ihb hr
        omega
  | altLeft _ ih => exact ih ((Bool.and_eq_true _ _).mp hr).1
  | altRight _ ih => exact ih ((Bool.and_eq_true _ _).mp hr).2
  | group _ ih => exact ih hr

theorem Matches.groups_ne_nil (h : Matches r s t g) (hr : r.groupsConsume = true) :
    ∀ x ∈ g, x ≠ [] := by
  induction h with
  | empty | chr | many | few => exact fun x hx => absurd hx List.not_mem_nil
  | seq _ _ iha ihb =>
      obtain ⟨ha, hb⟩ := (Bool.and_eq_true _ _).mp hr
      exact List.forall_mem_append.mpr ⟨iha ha, ihb hb⟩
  | altLeft _ ih => exact ih ((Bool.and_eq_true _ _).mp hr).1
  | altRight _ ih => exact ih ((Bool.and_eq_true _ _).mp hr).2
  | @group a u s g hm ih =>
      obtain ⟨hc, hg⟩ := (Bool.and_eq_true _ _).mp hr
      refine List.forall_mem_cons.mpr ⟨fun e => ?_, ih hg⟩
      have hlen := hm.shorter hc
      rw [e] at hlen
      exact Nat.lt_irrefl _ hlen

/-- **The groups of a search are not empty** when each has an expression that consumes. -/
theorem search_groups (h : r.search s = some g) (hr : r.groupsConsume = true) :
    ∀ x ∈ g, x ≠ [] := by
  obtain ⟨v, t, hm⟩ := search_sound h
  exact hm.groups_ne_nil hr

end Regex
