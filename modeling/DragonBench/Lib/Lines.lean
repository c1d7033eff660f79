/-
  File:      DragonBench/Lib/Lines.lean
  Subject:   Texts framed by newlines, and a reader that splits at every Unicode line boundary.

  `splitlines` is Python's: it splits at ten characters and at the pair CR LF, and drops a last
  empty line. A writer that ends each text with `\n` is read back text by text as long as no text
  holds a boundary; a text that holds one in its middle arrives as more than one line.

  * `splitlines_join` -- texts without boundaries come back;
  * `lines_join` -- the lines of a body are the lines of its texts;
  * `one_le_lines`, `two_le_lines` -- how many of them are not empty.
-/
import DragonBench.Lib.Text

namespace Lines

/-- The characters at which `str.splitlines` splits. -/
def isBreak (c : Char) : Bool :=
  c = '\n' || c = '\r' || c = '\x0b' || c = '\x0c' || c = '\x1c' || c = '\x1d' || c = '\x1e' ||
    c = '\x85' || c = '\u2028' || c = '\u2029'

/-- `str.splitlines()`. -/
def splitlines : CText → List CText
  | [] => []
  | '\r' :: '\n' :: s => [] :: splitlines s
  | c :: s =>
    if isBreak c then [] :: splitlines s
    else
      match splitlines s with
      | [] => [[c]]
      | l :: ls => (c :: l) :: ls

/-- Texts, each ended by a newline. -/
def join (ts : List CText) : CText := ts.flatMap (· ++ ['\n'])

theorem join_cons (t : CText) (ts : List CText) : join (t :: ts) = t ++ '\n' :: join ts := by
  simp only [join, List.flatMap_cons, List.append_assoc, List.cons_append, List.nil_append]

theorem splitlines_break {c : Char} (hb : isBreak c = true) (hr : c ≠ '\r') (s : CText) :
    splitlines (c :: s) = [] :: splitlines s := by
  rw [splitlines.eq_3 c s fun s' hc => absurd hc hr, if_pos hb]

theorem splitlines_char {c : Char} (hb : isBreak c = false) (s : CText) :
    splitlines (c :: s) = match splitlines s with
      | [] => [[c]]
      | l :: ls => (c :: l) :: ls := by
  have hr : c ≠ '\r' := by
    intro e
    subst e
    cases hb
  rw [splitlines.eq_3 c s fun s' hc => absurd hc hr, if_neg (by rw [hb]; exact Bool.noConfusion)]

theorem splitlines_ne_nil {s : CText} (h : s ≠ []) : splitlines s ≠ [] := by
  cases s with
  | nil => exact absurd rfl h
  | cons c s =>
      rw [splitlines.eq_def]
      split
      · cases ‹_›
      · exact List.cons_ne_nil _ _
      · split
        · exact List.cons_ne_nil _ _
        · split <;> exact List.cons_ne_nil _ _

/-! ## Texts without boundaries -/

/-- A line ends at its first boundary. -/
theorem splitlines_line {t : CText} (ht : ∀ c ∈ t, isBreak c = false) {b : Char}
    (hb : isBreak b = true) (hr : b ≠ '\r') (s : CText) :
    splitlines (t ++ b :: s) = t :: splitlines s := by
  induction t with
  | nil => exact splitlines_break hb hr s
  | cons c t ih =>
      rw [List.cons_append, splitlines_char (ht c List.mem_cons_self),
        ih fun x hx => ht x (List.mem_cons_of_mem c hx)]

/-- **Texts without boundaries come back.** -/
theorem splitlines_join {ts : List CText} (h : ∀ t ∈ ts, ∀ c ∈ t, isBreak c = false) :
    splitlines (join ts) = ts := by
  induction ts with
  | nil => rfl
  | cons t ts ih =>
      rw [join_cons, splitlines_line (h t List.mem_cons_self) (by decide) (by decide),
        ih fun u hu => h u (List.mem_cons_of_mem t hu)]

/-! ## Lines that are not empty -/

/-- The lines that are not empty. -/
def lines (s : CText) : List CText := (splitlines s).filter fun l => decide (l ≠ [])

/-- **A newline ends the lines in front of it.** -/
theorem splitlines_newline {u : CText} (hu : '\r' ∉ u) (s : CText) :
    splitlines (u ++ '\n' :: s) = splitlines (u ++ ['\n']) ++ splitlines s := by
  induction u with
  | nil => rfl
  | cons c u ih =>
      have hr : c ≠ '\r' := fun e => hu (e ▸ List.mem_cons_self)
      have ih := ih fun hm => hu (List.mem_cons_of_mem c hm)
      rw [List.cons_append, List.cons_append]
      cases hb : isBreak c with
      | true => rw [splitlines_break hb hr, splitlines_break hb hr, ih, List.cons_append]
      | false =>
          rw [splitlines_char hb, splitlines_char hb, ih]
          cases hs : splitlines (u ++ ['\n']) with
          | nil =>
              -- a text that is not empty has a line
              have hpos : splitlines (u ++ ['\n']) ≠ [] := splitlines_ne_nil (by simp)
              exact absurd hs hpos
          | cons l ls => rfl

/-- The lines of a framed body are the lines of its texts. -/
theorem lines_join {ts : List CText} (h : ∀ t ∈ ts, '\r' ∉ t) :
    lines (join ts) = ts.flatMap fun t => lines (t ++ ['\n']) := by
  induction ts with
  | nil => rfl
  | cons t ts ih =>
      rw [join_cons, lines, splitlines_newline (h t List.mem_cons_self), List.filter_append,
        List.flatMap_cons]
      exact congrArg _ (ih fun u hu => h u (List.mem_cons_of_mem t hu))

/-- A character that is no boundary lies on a line. -/
theorem one_le_lines {s : CText} {c : Char} (hc : c ∈ s) (hb : isBreak c = false) :
    1 ≤ (lines s).length := by
  suffices h : ∃ l ∈ splitlines s, l ≠ [] by
    obtain ⟨l, hl, hne⟩ := h
    exact List.length_pos_of_mem (List.mem_filter.mpr ⟨hl, decide_eq_true hne⟩)
  induction s using splitlines.induct with
  | case1 => exact absurd hc List.not_mem_nil
  | case2 s ih =>
      rcases List.mem_cons.mp hc with rfl | hc
      · cases hb
      · rcases List.mem_cons.mp hc with rfl | hc
        · cases hb
        · obtain ⟨l, hl, hne⟩ := ih hc
          rw [splitlines]
          exact ⟨l, List.mem_cons_of_mem _ hl, hne⟩
  | case3 x s hx hbx ih =>
      rw [splitlines.eq_3 x s hx, if_pos hbx]
      rcases List.mem_cons.mp hc with rfl | hc
      · rw [hbx] at hb
        cases hb
      · obtain ⟨l, hl, hne⟩ := ih hc
        exact ⟨l, List.mem_cons_of_mem _ hl, hne⟩
  | case4 x s hx hbx hnil ih =>
      rw [splitlines.eq_3 x s hx, if_neg hbx, hnil]
      exact ⟨[x], List.mem_singleton_self _, List.cons_ne_nil _ _⟩
  | case5 x s hx hbx l ls hls ih =>
      rw [splitlines.eq_3 x s hx, if_neg hbx, hls]
      exact ⟨x :: l, List.mem_cons_self, List.cons_ne_nil _ _⟩

/-- A text with a boundary, cut at the first one. -/
theorem first_break {t : CText} {b : Char} (hb : b ∈ t) (hbb : isBreak b = true) :
    ∃ w x r, t = w ++ x :: r ∧ (∀ c ∈ w, isBreak c = false) ∧ isBreak x = true := by
  induction t with
  | nil => exact absurd hb List.not_mem_nil
  | cons c t ih =>
      cases hc : isBreak c with
      | true => exact ⟨[], c, t, rfl, fun _ h => absurd h List.not_mem_nil, hc⟩
      | false =>
          rcases List.mem_cons.mp hb with rfl | hb
          · rw [hbb] at hc
            cases hc
          · obtain ⟨w, x, r, rfl, hw, hx⟩ := ih hb
            refine ⟨c :: w, x, r, rfl, fun y hy => ?_, hx⟩
            rcases List.mem_cons.mp hy with rfl | hy
            · exact hc
            · exact hw y hy

/-- **A boundary in the middle of a text makes two lines of it.** -/
theorem two_le_lines {t : CText} (hr : '\r' ∉ t) {a z : Char} (ha : t.head? = some a)
    (hz : t.getLast? = some z) (hab : isBreak a = false) (hzb : isBreak z = false) {b : Char}
    (hb : b ∈ t) (hbb : isBreak b = true) : 2 ≤ (lines (t ++ ['\n'])).length := by
  obtain ⟨w, x, r, rfl, hw, hx⟩ := first_break hb hbb
  have hne : w ≠ [] := by
    intro e
    subst e
    cases ha
    rw [hx] at hab
    cases hab
  have hzr : z ∈ r := by
    cases r with
    | nil =>
        rw [List.getLast?_concat] at hz
        cases hz
        rw [hx] at hzb
        cases hzb
    | cons y r =>
        rw [List.getLast?_append_of_ne_nil _ (List.cons_ne_nil _ _), List.getLast?_cons_cons] at hz
        exact List.mem_of_getLast? hz
  have hxr : x ≠ '\r' := fun e => hr (e ▸ List.mem_append_right w List.mem_cons_self)
  have hrest : 1 ≤ (lines (r ++ ['\n'])).length :=
    one_le_lines (List.mem_append_left _ hzr) hzb
  have hfirst : lines (w ++ x :: (r ++ ['\n'])) = w :: lines (r ++ ['\n']) := by
    rw [lines, splitlines_line hw hx hxr]
    exact List.filter_cons_of_pos (decide_eq_true hne)
  rw [List.append_assoc, List.cons_append, hfirst]
  exact Nat.succ_le_succ hrest

theorem length_le_flatMap {α β : Type} {f : α → List β} {xs : List α}
    (h : ∀ x ∈ xs, 1 ≤ (f x).length) : xs.length ≤ (xs.flatMap f).length := by
  induction xs with
  | nil => exact Nat.le_refl _
  | cons x xs ih =>
      have hx := h x List.mem_cons_self
      have hxs := ih fun y hy => h y (List.mem_cons_of_mem x hy)
      rw [List.flatMap_cons, List.length_append, List.length_cons]
      omega

/-- One list too long among lists that are not empty. -/
theorem length_lt_flatMap {α β : Type} {f : α → List β} {xs : List α} {y : α}
    (h : ∀ x ∈ xs, 1 ≤ (f x).length) (hy : y ∈ xs) (h2 : 2 ≤ (f y).length) :
    xs.length < (xs.flatMap f).length := by
  induction xs with
  | nil => exact absurd hy List.not_mem_nil
  | cons x xs ih =>
      have hrest : ∀ z ∈ xs, 1 ≤ (f z).length := fun z hz => h z (List.mem_cons_of_mem x hz)
      rw [List.flatMap_cons, List.length_append, List.length_cons]
      rcases List.mem_cons.mp hy with rfl | hy
      · have hle := length_le_flatMap hrest
        omega
      · have hx := h x List.mem_cons_self
        have hlt := ih hrest hy
        omega

end Lines
