/-
  File:      DragonBench/Lib/Json.lean
  Subject:   JSON values, their compact text, and a reader of JSON texts.

  Texts are lists of characters. A reader has a `Dialect`: which characters it skips as white
  space, which it takes unescaped inside a string, and what a `\u` escape stands for; the fields
  of the structure say how far dialects may differ. A byte-oriented reader (a byte is the
  character with its code) and a reader of Unicode text are two dialects of one definition.

  * `Json.print` -- the compact text, without white space; how a number is written is a
    parameter, since writers differ in it;
  * `Json.mapStr` -- the tree with its strings replaced; `Json.isFlat` -- an object of scalars;
    `Json.member` -- a member by its name;
  * `Dialect.value` -- read one value and leave the rest; `fuel` bounds the nesting and the
    number of elements, and the length of the text is enough;
  * `Dialect.parse` -- one value at the start of a text, what follows it ignored;
  * `Dialect.loads` -- one value that is the whole text, white space around it.
-/
import Mathlib.Data.Rat.Floor
import DragonBench.Lib.Text

/-- A JSON value. Object members keep the order and the duplicates of the text. -/
inductive Json where
  | null
  | bool (b : Bool)
  | num (q : ℚ)
  | str (s : CText)
  | arr (xs : List Json)
  | obj (ms : List (CText × Json))

namespace Json

/-! ## 1. The compact text -/

/-- A character inside a string: the five control characters with a short escape, the quote and
    the backslash, every other control character as four hexadecimal digits, the rest as is. -/
def escape (c : Char) : CText :=
  if c = '"' then ['\\', '"']
  else if c = '\\' then ['\\', '\\']
  else if c = '\x08' then ['\\', 'b']
  else if c = '\x0c' then ['\\', 'f']
  else if c = '\n' then ['\\', 'n']
  else if c = '\r' then ['\\', 'r']
  else if c = '\t' then ['\\', 't']
  else if c.toNat < 32 then
    ['\\', 'u', '0', '0', Nat.digitChar (c.toNat / 16), Nat.digitChar (c.toNat % 16)]
  else [c]

/-- A string with its quotes. -/
def printString (s : CText) : CText := '"' :: (s.flatMap escape ++ ['"'])

mutual
/-- The compact text of a value; `fmt` writes the numbers. -/
def print (fmt : ℚ → CText) : Json → CText
  | .null => "null".toList
  | .bool true => "true".toList
  | .bool false => "false".toList
  | .num q => fmt q
  | .str s => printString s
  | .arr xs => '[' :: (printElems fmt xs ++ [']'])
  | .obj ms => '{' :: (printMembers fmt ms ++ ['}'])

def printElems (fmt : ℚ → CText) : List Json → CText
  | [] => []
  | [x] => print fmt x
  | x :: y :: xs => print fmt x ++ ',' :: printElems fmt (y :: xs)

def printMembers (fmt : ℚ → CText) : List (CText × Json) → CText
  | [] => []
  | [(k, v)] => printString k ++ ':' :: print fmt v
  | (k, v) :: m :: ms => printString k ++ ':' :: (print fmt v ++ ',' :: printMembers fmt (m :: ms))
end

mutual
/-- The tree with every string replaced, names included. -/
def mapStr (f : CText → CText) : Json → Json
  | .null => .null
  | .bool b => .bool b
  | .num q => .num q
  | .str s => .str (f s)
  | .arr xs => .arr (mapStrElems f xs)
  | .obj ms => .obj (mapStrMembers f ms)

def mapStrElems (f : CText → CText) : List Json → List Json
  | [] => []
  | x :: xs => mapStr f x :: mapStrElems f xs

def mapStrMembers (f : CText → CText) : List (CText × Json) → List (CText × Json)
  | [] => []
  | (k, v) :: ms => (f k, mapStr f v) :: mapStrMembers f ms
end

/-- Neither a list nor an object. -/
def isScalar : Json → Bool
  | .null | .bool _ | .num _ | .str _ => true
  | .arr _ | .obj _ => false

/-- An object of such values. -/
def isFlat : Json → Bool
  | .obj ms => ms.all fun m => m.2.isScalar
  | .null | .bool _ | .num _ | .str _ | .arr _ => false

/-- Replacing the strings keeps an object flat. -/
theorem isFlat_mapStr (f : CText → CText) (v : Json) : (v.mapStr f).isFlat = v.isFlat := by
  cases v with
  | obj ms =>
      show (mapStrMembers f ms).all _ = ms.all _
      induction ms with
      | nil => rfl
      | cons m ms ih =>
          have hm : (m.2.mapStr f).isScalar = m.2.isScalar := by cases m.2 <;> rfl
          rw [mapStrMembers, List.all_cons, List.all_cons, ih, hm]
  | null | bool | num | str | arr => rfl

/-- What a reader that keeps the last member of a name finds under it. -/
def member (name : CText) (ms : List (CText × Json)) : Option Json :=
  (ms.reverse.find? fun m => decide (m.1 = name)).map Prod.snd

theorem member_map (g : Json → Json) (name : CText) (ms : List (CText × Json)) :
    member name (ms.map fun m => (m.1, g m.2)) = (member name ms).map g := by
  rw [member, member, ← List.map_reverse, List.find?_map, Option.map_map, Option.map_map]
  rfl

/-! ## 2. Numbers -/

/-- A number may not be continued by this character. -/
def isNumberChar (c : Char) : Bool := c.isDigit || c = '.' || c = 'e' || c = 'E'

/-- The integer part: a lone zero, or digits that do not start with one. -/
def intPart : CText → Option (CText × CText)
  | [] => none
  | c :: r =>
    if c = '0' then some (['0'], r)
    else if c.isDigit then some (c :: r.takeWhile Char.isDigit, r.dropWhile Char.isDigit)
    else none

/-- The digits after a decimal point, when there is one. -/
def fracPart : CText → Option (CText × CText)
  | [] => some ([], [])
  | c :: r =>
    if c = '.' then
      if r.takeWhile Char.isDigit = [] then none
      else some (r.takeWhile Char.isDigit, r.dropWhile Char.isDigit)
    else some ([], c :: r)

/-- The digits of an exponent. -/
def expDigits (s : CText) : Option (Nat × CText) :=
  if s.takeWhile Char.isDigit = [] then none
  else some (Nat.ofDigitChars 10 (s.takeWhile Char.isDigit) 0, s.dropWhile Char.isDigit)

/-- The digits of an exponent after their sign. -/
def signedDigits : CText → Option (Int × CText)
  | [] => none
  | c :: r =>
    if c = '-' then (expDigits r).map fun p => (-(p.1 : Int), p.2)
    else if c = '+' then (expDigits r).map fun p => ((p.1 : Int), p.2)
    else (expDigits (c :: r)).map fun p => ((p.1 : Int), p.2)

/-- The exponent, when there is one. -/
def expPart : CText → Option (Int × CText)
  | [] => some (0, [])
  | c :: r => if c = 'e' ∨ c = 'E' then signedDigits r else some (0, c :: r)

/-- The value of a number from its parts. -/
def numberValue (ds fs : CText) (e : Int) : ℚ :=
  (Nat.ofDigitChars 10 (ds ++ fs) 0 : ℚ) * (10 : ℚ) ^ (e - fs.length)

/-- A number without its sign. -/
def unsignedNumber (s : CText) : Option (ℚ × CText) :=
  (intPart s).bind fun p =>
    (fracPart p.2).bind fun f =>
      (expPart f.2).map fun e => (numberValue p.1 f.1 e.1, e.2)

/-- A number at the start of a text, and the rest. -/
def number : CText → Option (ℚ × CText)
  | [] => none
  | c :: r =>
    if c = '-' then (unsignedNumber r).map fun p => (-p.1, p.2)
    else unsignedNumber (c :: r)

/-! ## 3. The reader -/

/-- The white space of the grammar. -/
theorem whitespace_le (c : Char) (h : (c = ' ' || c = '\t' || c = '\n' || c = '\r') = true) :
    c.toNat ≤ 32 := by
  simp only [Bool.or_eq_true, decide_eq_true_eq] at h
  rcases h with ((rfl | rfl) | rfl) | rfl <;> decide

/-- What readers differ in, and how far. -/
structure Dialect where
  /-- skipped between the tokens -/
  space : Char → Bool
  /-- taken unescaped inside a string (quote and backslash never reach this test) -/
  literal : Char → Bool
  /-- the characters a `\u` escape of this code point stands for -/
  encode : Nat → CText
  space_le : ∀ c, space c = true → c.toNat ≤ 32
  literal_of_le : ∀ c, 32 ≤ c.toNat → literal c = true
  encode_ascii : ∀ n, n < 128 → encode n = [Char.ofNat n]
  encode_length : ∀ n, (encode n).length ≤ 4

/-- The value of a hexadecimal digit. -/
def hexValue (c : Char) : Option Nat :=
  if c.isDigit then some (c.toNat - '0'.toNat)
  else if 'a' ≤ c ∧ c ≤ 'f' then some (c.toNat - 'a'.toNat + 10)
  else if 'A' ≤ c ∧ c ≤ 'F' then some (c.toNat - 'A'.toNat + 10)
  else none

/-- Four hexadecimal digits. -/
def hex4 (a b c d : Char) : Option Nat :=
  (hexValue a).bind fun w => (hexValue b).bind fun x => (hexValue c).bind fun y =>
    (hexValue d).map fun z => ((w * 16 + x) * 16 + y) * 16 + z

/-- The escapes of one character. -/
def simpleEscape (c : Char) : Option Char :=
  if c = '"' then some '"'
  else if c = '\\' then some '\\'
  else if c = '/' then some '/'
  else if c = 'b' then some '\x08'
  else if c = 'f' then some '\x0c'
  else if c = 'n' then some '\n'
  else if c = 'r' then some '\r'
  else if c = 't' then some '\t'
  else none

/-- Put `u` in front of what a reader returned. -/
def prepend (u : CText) (p : CText × CText) : CText × CText := (u ++ p.1, p.2)

namespace Dialect

variable (d : Dialect)

/-- The content of a string after its opening quote, and what follows the closing quote. A high
    surrogate has to be followed by the escape of a low one. -/
def stringBody : CText → Option (CText × CText)
  | [] => none
  | c :: r =>
    if c = '"' then some ([], r)
    else if c = '\\' then
      match r with
      | [] => none
      | 'u' :: a :: b :: x :: y :: r' =>
        match hex4 a b x y with
        | none => none
        | some u =>
          if 0xD800 ≤ u ∧ u < 0xDC00 then
            match r' with
            | '\\' :: 'u' :: a' :: b' :: x' :: y' :: r'' =>
              match hex4 a' b' x' y' with
              | none => none
              | some l =>
                if 0xDC00 ≤ l ∧ l < 0xE000 then
                  (stringBody r'').map
                    (prepend (d.encode (0x10000 + (u - 0xD800) * 0x400 + (l - 0xDC00))))
                else none
            | _ => none
          else if 0xDC00 ≤ u ∧ u < 0xE000 then none
          else (stringBody r').map (prepend (d.encode u))
      | e :: r' =>
        match simpleEscape e with
        | none => none
        | some x => (stringBody r').map (prepend [x])
    else if d.literal c then (stringBody r).map (prepend [c])
    else none

/-- `null`, `true` and `false`. -/
def keyword (s : CText) : Option (Json × CText) :=
  if s.take 4 = "null".toList then some (.null, s.drop 4)
  else if s.take 4 = "true".toList then some (.bool true, s.drop 4)
  else if s.take 5 = "false".toList then some (.bool false, s.drop 5)
  else none

/-- The text after white space. -/
def skip (s : CText) : CText := s.dropWhile d.space

mutual
/-- One value at the start of a text, and the rest. -/
def value : Nat → CText → Option (Json × CText)
  | 0, _ => none
  | n + 1, s =>
    match d.skip s with
    | [] => none
    | c :: r =>
      if c = '"' then (d.stringBody r).map fun p => (.str p.1, p.2)
      else if c = '[' then
        match d.skip r with
        | ']' :: r' => some (.arr [], r')
        | r' => (elems n r').map fun p => (.arr p.1, p.2)
      else if c = '{' then
        match d.skip r with
        | '}' :: r' => some (.obj [], r')
        | r' => (members n r').map fun p => (.obj p.1, p.2)
      else if c = '-' ∨ c.isDigit = true then
        (number (c :: r)).map fun p => (.num p.1, p.2)
      else keyword (c :: r)

/-- The elements of an array up to its closing bracket. -/
def elems : Nat → CText → Option (List Json × CText)
  | 0, _ => none
  | n + 1, s =>
    (value n s).bind fun p =>
      match d.skip p.2 with
      | ',' :: r => (elems n r).map fun q => (p.1 :: q.1, q.2)
      | ']' :: r => some ([p.1], r)
      | _ => none

/-- The members of an object up to its closing brace. -/
def members : Nat → CText → Option (List (CText × Json) × CText)
  | 0, _ => none
  | n + 1, s =>
    match d.skip s with
    | '"' :: r =>
      (d.stringBody r).bind fun k =>
        match d.skip k.2 with
        | ':' :: r' =>
          (value n r').bind fun p =>
            match d.skip p.2 with
            | ',' :: r'' => (members n r'').map fun q => ((k.1, p.1) :: q.1, q.2)
            | '}' :: r'' => some ([(k.1, p.1)], r'')
            | _ => none
        | _ => none
    | _ => none
end

/-- The value at the start of a text; what follows it is ignored. -/
def parse (s : CText) : Option Json := (d.value (s.length + 1) s).map Prod.fst

/-- The value a whole text denotes. -/
def loads (s : CText) : Option Json :=
  (d.value (s.length + 1) s).bind fun p => if d.skip p.2 = [] then some p.1 else none

end Dialect

end Json
