/-
  File:      DragonBench/Lib/JsonText.lean
  Subject:   Which characters a compact JSON text is made of.

  A text is framed by what it cannot contain. A compact text has no control character, since
  strings escape them and a number is made of digits, signs, a point and an exponent mark; it
  starts and ends with an ASCII character. The same facts make encoding and printing commute: the
  UTF-8 encoding of the text is the text of the tree with its strings encoded.

  * `number_numeral` -- what is read as a number is made of the characters of numerals;
  * `print_ge` -- no control character;
  * `print_ends` -- the two ends;
  * `print_utf8` -- printing bytes is encoding the text.
-/
import DragonBench.Lib.JsonRoundTrip
import DragonBench.Lib.Utf8

namespace Json

/-! ## 1. Numerals -/

/-- The characters of a number. -/
def isNumeral (c : Char) : Bool := isNumberChar c || (c = '+' || c = '-')

theorem isNumeral_of_isDigit {c : Char} (h : c.isDigit = true) : isNumeral c = true := by
  simp [isNumeral, isNumberChar, h]

/-- Numerals are visible ASCII characters. -/
theorem isNumeral_bounds {c : Char} (h : isNumeral c = true) : 32 < c.toNat ∧ c.toNat < 128 := by
  simp only [isNumeral, isNumberChar, Bool.or_eq_true, decide_eq_true_eq] at h
  rcases h with (((h | rfl) | rfl) | rfl) | rfl | rfl
  · have := Dialect.toNat_of_isDigit h
    omega
  all_goals decide

/-- `r` is what follows some numerals at the start of `s`. -/
def NumeralsTo (s r : CText) : Prop := ∃ w, s = w ++ r ∧ ∀ c ∈ w, isNumeral c = true

theorem NumeralsTo.refl (s : CText) : NumeralsTo s s :=
  ⟨[], rfl, fun _ hc => absurd hc List.not_mem_nil⟩

theorem NumeralsTo.cons {c : Char} {s r : CText} (hc : isNumeral c = true)
    (h : NumeralsTo s r) : NumeralsTo (c :: s) r := by
  obtain ⟨w, rfl, hw⟩ := h
  refine ⟨c :: w, rfl, fun x hx => ?_⟩
  rcases List.mem_cons.mp hx with rfl | hx
  · exact hc
  · exact hw x hx

theorem NumeralsTo.trans {s r t : CText} (h : NumeralsTo s r) (h' : NumeralsTo r t) :
    NumeralsTo s t := by
  obtain ⟨w, rfl, hw⟩ := h
  obtain ⟨w', rfl, hw'⟩ := h'
  refine ⟨w ++ w', (List.append_assoc _ _ _).symm, fun x hx => ?_⟩
  exact (List.mem_append.mp hx).elim (hw x) (hw' x)

theorem numeralsTo_digits (s : CText) : NumeralsTo s (s.dropWhile Char.isDigit) :=
  ⟨s.takeWhile Char.isDigit, List.takeWhile_append_dropWhile.symm,
    fun _ hc => isNumeral_of_isDigit (List.mem_takeWhile_imp hc)⟩

theorem intPart_numeral {s ds r : CText} (h : intPart s = some (ds, r)) : NumeralsTo s r := by
  cases s with
  | nil => cases h
  | cons c s =>
      simp only [intPart] at h
      split_ifs at h with h0 hd
      · cases h
        exact .cons (by rw [h0]; decide) (.refl _)
      · cases h
        exact .cons (isNumeral_of_isDigit hd) (numeralsTo_digits s)

theorem fracPart_numeral {s fs r : CText} (h : fracPart s = some (fs, r)) : NumeralsTo s r := by
  cases s with
  | nil =>
      cases h
      exact .refl _
  | cons c s =>
      simp only [fracPart] at h
      split_ifs at h with hp hd
      · cases h
        exact .cons (by rw [hp]; decide) (numeralsTo_digits s)
      · cases h
        exact .refl _

theorem expDigits_numeral {s r : CText} {e : Nat} (h : expDigits s = some (e, r)) :
    NumeralsTo s r := by
  simp only [expDigits] at h
  split_ifs at h
  cases h
  exact numeralsTo_digits s

theorem signedDigits_numeral {s r : CText} {e : Int} (h : signedDigits s = some (e, r)) :
    NumeralsTo s r := by
  cases s with
  | nil => cases h
  | cons c s =>
      simp only [signedDigits] at h
      split_ifs at h with hm hp <;>
        obtain ⟨p, hp', e⟩ := Option.map_eq_some_iff.mp h <;> cases e
      · exact .cons (by rw [hm]; decide) (expDigits_numeral hp')
      · exact .cons (by rw [hp]; decide) (expDigits_numeral hp')
      · exact expDigits_numeral hp'

theorem expPart_numeral {s r : CText} {e : Int} (h : expPart s = some (e, r)) :
    NumeralsTo s r := by
  cases s with
  | nil =>
      cases h
      exact .refl _
  | cons c s =>
      simp only [expPart] at h
      split_ifs at h with he
      · have hc : isNumeral c = true := by rcases he with rfl | rfl <;> decide
        exact .cons hc (signedDigits_numeral h)
      · cases h
        exact .refl _

theorem unsignedNumber_numeral {s r : CText} {q : ℚ} (h : unsignedNumber s = some (q, r)) :
    NumeralsTo s r := by
  obtain ⟨p, hp, h⟩ := Option.bind_eq_some_iff.mp h
  obtain ⟨f, hf, h⟩ := Option.bind_eq_some_iff.mp h
  obtain ⟨e, he, h⟩ := Option.map_eq_some_iff.mp h
  cases h
  exact ((intPart_numeral hp).trans (fracPart_numeral hf)).trans (expPart_numeral he)

/-- **What is read as a number is made of numerals.** -/
theorem number_numeral {s r : CText} {q : ℚ} (h : number s = some (q, r)) : NumeralsTo s r := by
  cases s with
  | nil => cases h
  | cons c s =>
      simp only [number] at h
      split_ifs at h with hm
      · obtain ⟨p, hp, e⟩ := Option.map_eq_some_iff.mp h
        cases e
        exact .cons (by rw [hm]; decide) (unsignedNumber_numeral hp)
      · exact unsignedNumber_numeral h

theorem NumFormat.numeral {fmt : ℚ → CText} {read : ℚ → ℚ} (hf : NumFormat fmt read) (q : ℚ) :
    ∀ c ∈ fmt q, isNumeral c = true := by
  obtain ⟨w, hw, hall⟩ := number_numeral (hf.reads q)
  rw [List.append_nil] at hw
  rw [hw]
  exact hall

/-! ## 2. Strings -/

theorem digitChar_bounds {n : Nat} (h : n < 16) :
    32 ≤ n.digitChar.toNat ∧ n.digitChar.toNat < 128 := by
  revert n
  decide

/-- What a character is written as: itself, or printable ASCII characters. -/
theorem mem_escape {c x : Char} (h : x ∈ escape c) :
    x = c ∧ 32 ≤ c.toNat ∨ 32 ≤ x.toNat ∧ x.toNat < 128 := by
  by_cases hc : c.toNat < 32
  · right
    have ha := digitChar_bounds (n := c.toNat / 16) (by omega)
    have hb := digitChar_bounds (n := c.toNat % 16) (by omega)
    unfold escape at h
    split_ifs at h <;> simp only [List.mem_cons, List.not_mem_nil, or_false] at h
    iterate 7 rcases h with rfl | rfl <;> decide
    rcases h with rfl | rfl | rfl | rfl | rfl | rfl <;> first | assumption | decide
  · unfold escape at h
    split_ifs at h <;> simp only [List.mem_cons, List.not_mem_nil, or_false] at h
    iterate 7 exact Or.inr (by rcases h with rfl | rfl <;> decide)
    exact Or.inl ⟨h, Nat.not_lt.mp hc⟩

theorem escape_ge {c x : Char} (h : x ∈ escape c) : 32 ≤ x.toNat := by
  rcases mem_escape h with ⟨rfl, hc⟩ | hx
  · exact hc
  · exact hx.1

/-- An ASCII character is escaped in ASCII. -/
theorem escape_ascii {c : Char} (hc : c.toNat < 128) : ∀ x ∈ escape c, x.toNat < 128 := by
  intro x hx
  rcases mem_escape hx with ⟨rfl, -⟩ | hx
  · exact hc
  · exact hx.2

/-- Other characters are not escaped. -/
theorem escape_of_ge {c : Char} (h : 128 ≤ c.toNat) : escape c = [c] := by
  have hne : ∀ x : Char, x.toNat < 128 → c ≠ x := by
    intro x hx e
    subst e
    omega
  simp [escape, hne, show ¬ c.toNat < 32 by omega]

theorem printString_ge (s : CText) : ∀ c ∈ printString s, 32 ≤ c.toNat := by
  intro c hc
  simp only [printString, List.mem_cons, List.mem_append, List.mem_flatMap, List.not_mem_nil,
    or_false] at hc
  rcases hc with rfl | ⟨x, -, hx⟩ | rfl
  · decide
  · exact escape_ge hx
  · decide

theorem flatMap_escape_utf8 (s : CText) : (utf8 s).flatMap escape = utf8 (s.flatMap escape) := by
  induction s with
  | nil => rfl
  | cons c s ih =>
      rw [utf8_cons, List.flatMap_append, ih, List.flatMap_cons, utf8_append]
      congr 1
      by_cases h : c.toNat < 128
      · rw [utf8Bytes_ascii h, List.flatMap_singleton, utf8_ascii (escape_ascii h)]
      · have hc : 128 ≤ c.toNat := Nat.not_lt.mp h
        rw [escape_of_ge hc, List.flatMap_congr fun b hb => escape_of_ge (utf8Bytes_high hc b hb),
          List.flatMap_singleton', utf8_cons]
        exact (List.append_nil _).symm

theorem printString_utf8 (s : CText) : printString (utf8 s) = utf8 (printString s) := by
  have hq : utf8 ['"'] = ['"'] := utf8_ascii (CText.forall_of_all (by decide))
  rw [printString, printString, flatMap_escape_utf8, utf8_cons, utf8_append, hq,
    utf8Bytes_ascii (by decide)]
  rfl

/-! ## 3. Values -/

section Print

variable {fmt : ℚ → CText} {read : ℚ → ℚ}

mutual
/-- **A compact text holds no control character.** -/
theorem print_ge (hf : NumFormat fmt read) : ∀ v : Json, ∀ c ∈ print fmt v, 32 ≤ c.toNat
  | .null => CText.forall_of_all (s := "null".toList) (by decide)
  | .bool true => CText.forall_of_all (s := "true".toList) (by decide)
  | .bool false => CText.forall_of_all (s := "false".toList) (by decide)
  | .num q => fun c hc => (isNumeral_bounds (hf.numeral q c hc)).1.le
  | .str s => printString_ge s
  | .arr xs => by
      intro c hc
      simp only [print, List.mem_cons, List.mem_append, List.not_mem_nil, or_false] at hc
      rcases hc with rfl | hc | rfl
      · decide
      · exact printElems_ge hf xs c hc
      · decide
  | .obj ms => by
      intro c hc
      simp only [print, List.mem_cons, List.mem_append, List.not_mem_nil, or_false] at hc
      rcases hc with rfl | hc | rfl
      · decide
      · exact printMembers_ge hf ms c hc
      · decide

theorem printElems_ge (hf : NumFormat fmt read) :
    ∀ xs : List Json, ∀ c ∈ printElems fmt xs, 32 ≤ c.toNat
  | [] => fun _ hc => absurd hc List.not_mem_nil
  | [x] => print_ge hf x
  | x :: y :: xs => by
      intro c hc
      simp only [printElems, List.mem_append, List.mem_cons] at hc
      rcases hc with hc | rfl | hc
      · exact print_ge hf x c hc
      · decide
      · exact printElems_ge hf (y :: xs) c hc

theorem printMembers_ge (hf : NumFormat fmt read) :
    ∀ ms : List (CText × Json), ∀ c ∈ printMembers fmt ms, 32 ≤ c.toNat
  | [] => fun _ hc => absurd hc List.not_mem_nil
  | [(k, v)] => by
      intro c hc
      simp only [printMembers, List.mem_append, List.mem_cons] at hc
      rcases hc with hc | rfl | hc
      · exact printString_ge k c hc
      · decide
      · exact print_ge hf v c hc
  | (k, v) :: m :: ms => by
      intro c hc
      simp only [printMembers, List.mem_append, List.mem_cons] at hc
      rcases hc with hc | rfl | hc | rfl | hc
      · exact printString_ge k c hc
      · decide
      · exact print_ge hf v c hc
      · decide
      · exact printMembers_ge hf (m :: ms) c hc
end

/-- **A compact text starts and ends with a visible ASCII character.** -/
theorem print_ends (hf : NumFormat fmt read) (v : Json) : ∃ a z, (print fmt v).head? = some a ∧
    (print fmt v).getLast? = some z ∧ (32 < a.toNat ∧ a.toNat < 128) ∧
      (32 < z.toNat ∧ z.toNat < 128) := by
  have hframe : ∀ (a z : Char) (s : CText), (32 < a.toNat ∧ a.toNat < 128) →
      (32 < z.toNat ∧ z.toNat < 128) → ∃ x y, (a :: (s ++ [z])).head? = some x ∧
        (a :: (s ++ [z])).getLast? = some y ∧ (32 < x.toNat ∧ x.toNat < 128) ∧
          (32 < y.toNat ∧ y.toNat < 128) := by
    intro a z s ha hz
    refine ⟨a, z, rfl, ?_, ha, hz⟩
    rw [← List.cons_append, List.getLast?_concat]
  cases v with
  | null => exact ⟨'n', 'l', rfl, rfl, by decide, by decide⟩
  | bool b =>
      cases b
      · exact ⟨'f', 'e', rfl, rfl, by decide, by decide⟩
      · exact ⟨'t', 'e', rfl, rfl, by decide, by decide⟩
  | num q =>
      obtain ⟨c, s, hs, -⟩ := number_head (hf.reads q)
      have hne : fmt q ≠ [] := by rw [hs]; exact List.cons_ne_nil c s
      refine ⟨_, _, List.head?_eq_some_head hne, List.getLast?_eq_some_getLast hne, ?_, ?_⟩
      · exact isNumeral_bounds (hf.numeral q _ (List.head_mem hne))
      · exact isNumeral_bounds (hf.numeral q _ (List.getLast_mem hne))
  | str s => exact hframe _ _ _ (by decide) (by decide)
  | arr xs => exact hframe _ _ _ (by decide) (by decide)
  | obj ms => exact hframe _ _ _ (by decide) (by decide)

mutual
/-- **Printing encoded strings is encoding the printed text.** -/
theorem print_utf8 (hf : NumFormat fmt read) :
    ∀ v : Json, print fmt (v.mapStr utf8) = utf8 (print fmt v)
  | .null => (utf8_ascii (s := "null".toList) (CText.forall_of_all (by decide))).symm
  | .bool true => (utf8_ascii (s := "true".toList) (CText.forall_of_all (by decide))).symm
  | .bool false => (utf8_ascii (s := "false".toList) (CText.forall_of_all (by decide))).symm
  | .num q => (utf8_ascii fun c hc => (isNumeral_bounds (hf.numeral q c hc)).2).symm
  | .str s => printString_utf8 s
  | .arr xs => by
      have ho := utf8Bytes_ascii (c := '[') (by decide)
      have hc : utf8 [']'] = [']'] := utf8_ascii (CText.forall_of_all (by decide))
      rw [mapStr, print, print, printElems_utf8 hf xs, utf8_cons, utf8_append, ho, hc]
      rfl
  | .obj ms => by
      have ho := utf8Bytes_ascii (c := '\x7b') (by decide)
      have hc : utf8 ['\x7d'] = ['\x7d'] := utf8_ascii (CText.forall_of_all (by decide))
      rw [mapStr, print, print, printMembers_utf8 hf ms, utf8_cons, utf8_append, ho, hc]
      rfl

theorem printElems_utf8 (hf : NumFormat fmt read) : ∀ xs : List Json,
    printElems fmt (mapStrElems utf8 xs) = utf8 (printElems fmt xs)
  | [] => rfl
  | [x] => print_utf8 hf x
  | x :: y :: xs => by
      have hc := utf8Bytes_ascii (c := ',') (by decide)
      have h := printElems_utf8 hf (y :: xs)
      simp only [mapStrElems] at h
      simp only [mapStrElems, printElems, print_utf8 hf x, h, utf8_append, utf8_cons, hc]
      rfl

theorem printMembers_utf8 (hf : NumFormat fmt read) : ∀ ms : List (CText × Json),
    printMembers fmt (mapStrMembers utf8 ms) = utf8 (printMembers fmt ms)
  | [] => rfl
  | [(k, v)] => by
      have hc := utf8Bytes_ascii (c := ':') (by decide)
      simp only [mapStrMembers, printMembers, print_utf8 hf v, printString_utf8, utf8_append,
        utf8_cons, hc]
      rfl
  | (k, v) :: m :: ms => by
      have hc := utf8Bytes_ascii (c := ':') (by decide)
      have hc' := utf8Bytes_ascii (c := ',') (by decide)
      have h := printMembers_utf8 hf (m :: ms)
      simp only [mapStrMembers] at h
      simp only [mapStrMembers, printMembers, print_utf8 hf v, printString_utf8, h, utf8_append,
        utf8_cons, hc, hc']
      rfl
end

end Print

end Json
