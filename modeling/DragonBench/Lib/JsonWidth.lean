/-
  File:      DragonBench/Lib/JsonWidth.lean
  Subject:   How long the compact text of a JSON value is, without printing it.

  A bounded buffer cuts a text off at a number of bytes, so the question whether a value fits is a
  question about widths. They add up: a member costs its name, its value and three characters
  around them, and one more that is a comma or the closing brace.

  * `escapeWidth`, `stringWidth` -- one, two or six characters for one;
  * `Json.width` -- the width of a value, given the widths of the numbers;
  * `print_length` -- it is the length of the compact text;
  * `widthMembers_append` -- the members add up.
-/
import DragonBench.Lib.Json

namespace Json

/-! ## 1. Widths -/

/-- How many characters a character of a string takes. -/
def escapeWidth (c : Char) : Nat :=
  if c = '"' ∨ c = '\\' ∨ c = '\x08' ∨ c = '\x0c' ∨ c = '\n' ∨ c = '\r' ∨ c = '\t' then 2
  else if c.toNat < 32 then 6
  else 1

/-- A string with its quotes. -/
def stringWidth (s : CText) : Nat := 2 + (s.map escapeWidth).sum

mutual
/-- The width of a value; `w` is the width of a number. -/
def width (w : ℚ → Nat) : Json → Nat
  | .null => 4
  | .bool true => 4
  | .bool false => 5
  | .num q => w q
  | .str s => stringWidth s
  | .arr xs => 1 + max 1 (widthElems w xs)
  | .obj ms => 1 + max 1 (widthMembers w ms)

/-- The elements, each with the comma or bracket behind it. -/
def widthElems (w : ℚ → Nat) : List Json → Nat
  | [] => 0
  | x :: xs => width w x + 1 + widthElems w xs

/-- The members, each with its colon and the comma or brace behind it. -/
def widthMembers (w : ℚ → Nat) : List (CText × Json) → Nat
  | [] => 0
  | (k, v) :: ms => stringWidth k + 1 + width w v + 1 + widthMembers w ms
end

theorem widthMembers_append (w : ℚ → Nat) (ms ms' : List (CText × Json)) :
    widthMembers w (ms ++ ms') = widthMembers w ms + widthMembers w ms' := by
  induction ms with
  | nil => exact (Nat.zero_add _).symm
  | cons m ms ih =>
      obtain ⟨k, v⟩ := m
      rw [List.cons_append, widthMembers, widthMembers, ih]
      omega

/-! ## 2. They are the lengths of the texts -/

theorem escape_length (c : Char) : (escape c).length = escapeWidth c := by
  unfold escape escapeWidth
  split_ifs <;> first | rfl | simp_all

theorem printString_length (s : CText) : (printString s).length = stringWidth s := by
  have hmap : s.map (fun c => (escape c).length) = s.map escapeWidth :=
    List.map_congr_left fun c _ => escape_length c
  rw [printString, List.length_cons, List.length_append, List.length_flatMap, hmap, stringWidth,
    List.length_singleton]
  omega

mutual
/-- **The width is the length of the compact text.** -/
theorem print_length (fmt : ℚ → CText) : ∀ v : Json,
    (print fmt v).length = width (fun q => (fmt q).length) v
  | .null => rfl
  | .bool true => rfl
  | .bool false => rfl
  | .num _ => rfl
  | .str s => printString_length s
  | .arr xs => by
      have h := printElems_length fmt xs
      simp only [print, width, List.length_cons, List.length_append, List.length_nil]
      omega
  | .obj ms => by
      have h := printMembers_length fmt ms
      simp only [print, width, List.length_cons, List.length_append, List.length_nil]
      omega

/-- The last element has no comma behind it. -/
theorem printElems_length (fmt : ℚ → CText) : ∀ xs : List Json,
    (printElems fmt xs).length = widthElems (fun q => (fmt q).length) xs - 1
  | [] => rfl
  | [x] => by
      have h := print_length fmt x
      simp only [printElems, widthElems]
      omega
  | x :: y :: xs => by
      have h := print_length fmt x
      have h' := printElems_length fmt (y :: xs)
      simp only [widthElems] at h'
      simp only [printElems, widthElems, List.length_append, List.length_cons]
      omega

/-- The last member has no comma behind it. -/
theorem printMembers_length (fmt : ℚ → CText) : ∀ ms : List (CText × Json),
    (printMembers fmt ms).length = widthMembers (fun q => (fmt q).length) ms - 1
  | [] => rfl
  | [(k, v)] => by
      have h := print_length fmt v
      have hk := printString_length k
      simp only [printMembers, widthMembers, List.length_append, List.length_cons]
      omega
  | (k, v) :: m :: ms => by
      have h := print_length fmt v
      have hk := printString_length k
      have h' := printMembers_length fmt (m :: ms)
      simp only [widthMembers] at h'
      simp only [printMembers, widthMembers, List.length_append, List.length_cons]
      omega
end

end Json
