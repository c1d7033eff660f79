/-
  File:      DragonBench/Lib/JsonLayout.lean
  Subject:   JSON texts with white space and escapes of the writer's choice, and every reader on them.

  A writer chooses what stands between the tokens and how it writes a character of a string. A
  `Layout` is such a choice; the compact text of `Lib/Json.lean` is one of them. What comes back is
  settled by two facts about the layout and a reader: the reader skips the white space, and it
  takes what a character is written as for a text `enc` of that character.

  * `Layout.print` -- the text of a value at a depth;
  * `Layout.Reads` -- what a reader has to know of the layout;
  * `Layout.value_print` -- a written value is read back, its strings through `enc`;
  * `Layout.loads_print`, `Layout.parse_print` -- the two ways to use a reader;
  * `Layout.print_all` -- which characters a text is made of;
  * `asciiEscape` -- the writer that leaves nothing but ASCII, pairs of surrogates included;
    `stringBody_asciiEscape` -- what every reader makes of it;
  * `Layout.oneLine`, `Layout.indented` -- the two layouts in use.
-/
import DragonBench.Lib.JsonText

namespace Json

/-! ## 1. Layouts -/

/-- How a writer lays a text out. The white space depends on the depth. -/
structure Layout where
  /-- a character inside a string -/
  escape : Char → CText
  /-- behind the colon of a member -/
  colon : CText
  /-- in front of the first element -/
  first : Nat → CText
  /-- in front of the next elements, behind the comma -/
  next : Nat → CText
  /-- in front of the closing bracket -/
  last : Nat → CText

namespace Layout

section Print

variable (L : Layout) (fmt : ℚ → CText)

/-- A string with its quotes. -/
def printString (s : CText) : CText := '"' :: (s.flatMap L.escape ++ ['"'])

mutual
/-- The text of a value at depth `n`; `fmt` writes the numbers. -/
def print (n : Nat) : Json → CText
  | .null => "null".toList
  | .bool true => "true".toList
  | .bool false => "false".toList
  | .num q => fmt q
  | .str s => L.printString s
  | .arr [] => "[]".toList
  | .arr (x :: xs) =>
      '[' :: (L.first (n + 1) ++
        (print (n + 1) x ++ (printElems (n + 1) xs ++ (L.last n ++ [']']))))
  | .obj [] => "\x7b\x7d".toList
  | .obj ((k, v) :: ms) =>
      '\x7b' :: (L.first (n + 1) ++ (L.printString k ++ (':' :: (L.colon ++
        (print (n + 1) v ++ (printMembers (n + 1) ms ++ (L.last n ++ ['\x7d'])))))))

/-- The elements behind the first one. -/
def printElems (n : Nat) : List Json → CText
  | [] => []
  | x :: xs => ',' :: (L.next n ++ (print n x ++ printElems n xs))

/-- The members behind the first one. -/
def printMembers (n : Nat) : List (CText × Json) → CText
  | [] => []
  | (k, v) :: ms =>
      ',' :: (L.next n ++ (L.printString k ++ (':' :: (L.colon ++
        (print n v ++ printMembers n ms)))))
end

end Print

/-- **What a reader has to know of a layout**: the white space is skipped, and what a character is
    written as is read as `enc` of it. -/
structure Reads (L : Layout) (d : Dialect) (enc : Char → CText) : Prop where
  colon : ∀ c ∈ L.colon, d.space c = true
  first : ∀ n, ∀ c ∈ L.first n, d.space c = true
  next : ∀ n, ∀ c ∈ L.next n, d.space c = true
  last : ∀ n, ∀ c ∈ L.last n, d.space c = true
  escape : ∀ c r, d.stringBody (L.escape c ++ r) = (d.stringBody r).map (prepend (enc c))

end Layout

/-! ## 2. Readers and white space -/

namespace Dialect

section Space

variable (d : Dialect) {w : CText} (hw : ∀ c ∈ w, d.space c = true)

include hw

theorem skip_append (s : CText) : d.skip (w ++ s) = d.skip s := by
  rw [skip, List.dropWhile_append_of_pos hw]
  rfl

/-- White space in front of a value. -/
theorem value_space (m : Nat) (s : CText) : d.value m (w ++ s) = d.value m s := by
  cases m with
  | zero => rfl
  | succ m => rw [value, value, d.skip_append hw]

/-- White space in front of the elements of an array. -/
theorem elems_space (m : Nat) (s : CText) : d.elems m (w ++ s) = d.elems m s := by
  cases m with
  | zero => rfl
  | succ m => rw [elems, elems, d.value_space hw]

/-- White space in front of the members of an object. -/
theorem members_space (m : Nat) (s : CText) : d.members m (w ++ s) = d.members m s := by
  cases m with
  | zero => rfl
  | succ m => rw [members, members, d.skip_append hw]

/-- White space does not continue a number. -/
theorem stops_space {t : CText} (ht : Stops isNumberChar t) : Stops isNumberChar (w ++ t) := by
  cases w with
  | nil => exact ht
  | cons c w =>
      refine stops_cons _ ?_
      have hle := d.space_le c (hw c List.mem_cons_self)
      cases hc : isNumberChar c with
      | false => rfl
      | true =>
          have := (isNumeral_bounds (c := c) (by rw [isNumeral, hc, Bool.true_or])).1
          omega

/-- An array whose first element stands behind white space. -/
theorem value_array_space (m : Nat) {c : Char} (hc : 32 < c.toNat) (hne : c ≠ ']') (s : CText) :
    d.value (m + 1) ('[' :: (w ++ c :: s)) = (d.elems m (c :: s)).map fun p => (.arr p.1, p.2) := by
  have hb : ¬ '[' = '"' := by decide
  rw [value, d.skip_cons (by decide)]
  simp only [d.skip_append hw, d.skip_cons hc, if_neg hb, if_true]
  split
  · rename_i h
    cases h
    exact absurd rfl hne
  · rfl

/-- An object whose first member stands behind white space. -/
theorem value_object_space (m : Nat) (s : CText) :
    d.value (m + 1) ('\x7b' :: (w ++ '"' :: s)) =
      (d.members m ('"' :: s)).map fun p => (.obj p.1, p.2) := by
  rw [value, d.skip_cons (by decide)]
  simp only [d.skip_append hw, d.skip_cons (c := '"') (by decide)]
  rfl

end Space

end Dialect

/-! ## 3. What is read back -/

namespace Layout

section Read

variable {L : Layout} {d : Dialect} {enc : Char → CText} {fmt : ℚ → CText} {read : ℚ → ℚ}

/-- The strings of a value as they are read. -/
def decoded (enc : Char → CText) (v : Json) : Json := v.mapStr fun s => s.flatMap enc

mutual
theorem mapStr_self {f : CText → CText} (h : ∀ s, f s = s) : ∀ v : Json, v.mapStr f = v
  | .null | .bool _ | .num _ => rfl
  | .str s => by rw [mapStr, h]
  | .arr xs => by rw [mapStr, mapStrElems_self h xs]
  | .obj ms => by rw [mapStr, mapStrMembers_self h ms]

theorem mapStrElems_self {f : CText → CText} (h : ∀ s, f s = s) :
    ∀ xs : List Json, mapStrElems f xs = xs
  | [] => rfl
  | x :: xs => by rw [mapStrElems, mapStr_self h x, mapStrElems_self h xs]

theorem mapStrMembers_self {f : CText → CText} (h : ∀ s, f s = s) :
    ∀ ms : List (CText × Json), mapStrMembers f ms = ms
  | [] => rfl
  | (k, v) :: ms => by rw [mapStrMembers, h, mapStr_self h v, mapStrMembers_self h ms]
end

/-- A reader that takes every character for itself. -/
theorem decoded_self {enc : Char → CText} (h : ∀ c, enc c = [c]) (v : Json) : decoded enc v = v := by
  refine mapStr_self (fun s => ?_) v
  rw [show enc = fun c => [c] from funext h, List.flatMap_singleton']

/-- **A written string is read back.** -/
theorem stringBody_printed (hL : L.Reads d enc) (s r : CText) :
    d.stringBody (s.flatMap L.escape ++ ('"' :: r)) = some (s.flatMap enc, r) := by
  induction s with
  | nil => exact d.stringBody_quote r
  | cons c s ih =>
      rw [List.flatMap_cons, List.append_assoc, hL.escape, ih]
      rfl

/-- A text starts with a visible character, which closes no array. -/
theorem print_head (hf : NumFormat fmt read) (n : Nat) (v : Json) :
    ∃ c s, L.print fmt n v = c :: s ∧ 32 < c.toNat ∧ c ≠ ']' := by
  cases v with
  | null => exact ⟨'n', _, rfl, by decide, by decide⟩
  | bool b => cases b <;> exact ⟨_, _, rfl, by decide, by decide⟩
  | num q => exact Dialect.print_head hf (.num q)
  | str s => exact ⟨'"', _, rfl, by decide, by decide⟩
  | arr xs => cases xs <;> exact ⟨'[', _, rfl, by decide, by decide⟩
  | obj ms =>
      cases ms with
      | nil => exact ⟨'\x7b', _, rfl, by decide, by decide⟩
      | cons m ms => exact ⟨'\x7b', _, rfl, by decide, by decide⟩

theorem print_length_pos (hf : NumFormat fmt read) (n : Nat) (v : Json) :
    0 < (L.print fmt n v).length := by
  obtain ⟨c, s, hs, -⟩ := print_head (L := L) hf n v
  rw [hs]
  exact Nat.succ_pos _

mutual
/-- **A written value is read back**, in front of whatever does not continue a number. -/
theorem value_print (hL : L.Reads d enc) (hf : NumFormat fmt read) : ∀ (v : Json) (n m : Nat)
    (r : CText), (L.print fmt n v).length ≤ m → Stops isNumberChar r →
    d.value m (L.print fmt n v ++ r) = some (readBack read (decoded enc v), r)
  | v, n, 0, r, h, _ => absurd (print_length_pos (L := L) hf n v) (by omega)
  | .null, n, m + 1, r, h, hr => d.value_print hf .null (m + 1) r h hr
  | .bool true, n, m + 1, r, h, hr => d.value_print hf (.bool true) (m + 1) r h hr
  | .bool false, n, m + 1, r, h, hr => d.value_print hf (.bool false) (m + 1) r h hr
  | .num q, n, m + 1, r, _, hr => d.value_number m (hf.number_fmt q hr)
  | .str s, n, m + 1, r, _, _ => by
      show d.value (m + 1) ('"' :: (s.flatMap L.escape ++ ['"'] ++ r)) = _
      rw [d.value_string, List.append_assoc, List.singleton_append, stringBody_printed hL]
      rfl
  | .arr [], n, m + 1, r, h, hr => d.value_print hf (.arr []) (m + 1) r h hr
  | .obj [], n, m + 1, r, h, hr => d.value_print hf (.obj []) (m + 1) r h hr
  | .arr (x :: xs), n, m + 1, r, h, _ => by
      obtain ⟨c, s, hs, hc, hne⟩ := print_head (L := L) hf (n + 1) x
      simp only [print, List.length_cons, List.length_append, List.length_nil] at h
      have he := elems_print hL hf x xs (n + 1) m (L.last n) (hL.last n) r (by omega)
      simp only [print, List.cons_append, List.append_assoc, List.nil_append]
      rw [hs] at he ⊢
      rw [List.cons_append] at he ⊢
      rw [d.value_array_space (hL.first _) m hc hne, he]
      rfl
  | .obj ((k, v) :: ms), n, m + 1, r, h, _ => by
      simp only [print, List.length_cons, List.length_append, List.length_nil] at h
      have he := members_print hL hf (k, v) ms (n + 1) m (L.last n) (hL.last n) r (by dsimp only; omega)
      simp only [print, printString, List.cons_append, List.append_assoc, List.nil_append] at he ⊢
      rw [d.value_object_space (hL.first _) m, he]
      rfl

theorem elems_print (hL : L.Reads d enc) (hf : NumFormat fmt read) : ∀ (x : Json)
    (xs : List Json) (n m : Nat) (w : CText) (_ : ∀ c ∈ w, d.space c = true) (r : CText),
    (L.print fmt n x).length + (L.printElems fmt n xs).length + 1 ≤ m →
    d.elems m (L.print fmt n x ++ (L.printElems fmt n xs ++ (w ++ ']' :: r))) =
      some (readBackElems read (mapStrElems (fun s => s.flatMap enc) (x :: xs)), r)
  | _, _, _, 0, _, _, _, h => absurd h (by omega)
  | x, [], n, m + 1, w, hw, r, h => by
      simp only [printElems, List.nil_append, List.length_nil] at h ⊢
      have hx := value_print hL hf x n m (w ++ ']' :: r) (by omega)
        (d.stops_space hw (stops_cons r rfl))
      simp only [Dialect.elems, hx, Option.bind_some, d.skip_append hw,
        d.skip_cons (c := ']') (by decide)]
      rfl
  | x, y :: ys, n, m + 1, w, hw, r, h => by
      simp only [printElems, List.length_cons, List.length_append] at h
      have hpos := print_length_pos (L := L) hf n x
      have hx := value_print hL hf x n m (',' :: (L.next n ++ (L.print fmt n y ++
        (L.printElems fmt n ys ++ (w ++ ']' :: r))))) (by omega) (stops_cons _ rfl)
      have he := elems_print hL hf y ys n m w hw r (by omega)
      simp only [printElems, List.cons_append, List.append_assoc]
      simp only [Dialect.elems, hx, Option.bind_some, d.skip_cons (c := ',') (by decide),
        d.elems_space (hL.next n), he, Option.map_some]
      rfl

theorem members_print (hL : L.Reads d enc) (hf : NumFormat fmt read) : ∀ (p : CText × Json)
    (ms : List (CText × Json)) (n m : Nat) (w : CText) (_ : ∀ c ∈ w, d.space c = true) (r : CText),
    (L.printString p.1).length + (L.print fmt n p.2).length +
      (L.printMembers fmt n ms).length + 1 ≤ m →
    d.members m (L.printString p.1 ++ (':' :: (L.colon ++ (L.print fmt n p.2 ++
      (L.printMembers fmt n ms ++ (w ++ '\x7d' :: r)))))) =
      some (readBackMembers read (mapStrMembers (fun s => s.flatMap enc) (p :: ms)), r)
  | _, _, _, 0, _, _, _, h => absurd h (by omega)
  | (k, v), [], n, m + 1, w, hw, r, h => by
      simp only [printMembers, List.length_nil] at h
      have hpos : 0 < (L.printString k).length := Nat.succ_pos _
      have hv := value_print hL hf v n m (w ++ '\x7d' :: r) (by omega)
        (d.stops_space hw (stops_cons r rfl))
      rw [← d.value_space hL.colon] at hv
      have hk := stringBody_printed hL k (':' :: (L.colon ++ (L.print fmt n v ++ (w ++ '\x7d' :: r))))
      simp only [printMembers, printString, List.append_assoc, List.cons_append, List.nil_append]
      refine d.members_last m hk hv ?_
      rw [d.skip_append hw, d.skip_cons (by decide)]
  | (k, v), (k', v') :: ms, n, m + 1, w, hw, r, h => by
      simp only [printMembers, List.length_cons, List.length_append] at h
      have hpos : 0 < (L.printString k).length := Nat.succ_pos _
      have he := members_print hL hf (k', v') ms n m w hw r (by dsimp only; omega)
      have hv := value_print hL hf v n m (',' :: (L.next n ++ (L.printString k' ++ (':' :: (L.colon ++
        (L.print fmt n v' ++ (L.printMembers fmt n ms ++ (w ++ '\x7d' :: r)))))))) (by omega)
        (stops_cons _ rfl)
      rw [← d.value_space hL.colon] at hv
      have hk := stringBody_printed hL k (':' :: (L.colon ++ (L.print fmt n v ++ (',' ::
        (L.next n ++ (L.printString k' ++ (':' :: (L.colon ++ (L.print fmt n v' ++
          (L.printMembers fmt n ms ++ (w ++ '\x7d' :: r)))))))))))
      rw [← d.members_space (hL.next n)] at he
      simp only [printMembers, List.append_assoc, List.cons_append] at hk ⊢
      rw [show L.printString k = '"' :: (k.flatMap L.escape ++ ['"']) from rfl, List.cons_append,
        List.append_assoc, List.singleton_append, d.members_cons m hk hv
          (d.skip_cons (by decide) _), he]
      rfl
end

/-- **Reading the value at the start of a text.** -/
theorem parse_print (hL : L.Reads d enc) (hf : NumFormat fmt read) (v : Json) (n : Nat) {r : CText}
    (hr : Stops isNumberChar r) :
    d.parse (L.print fmt n v ++ r) = some (readBack read (decoded enc v)) := by
  rw [Dialect.parse, value_print hL hf v n _ r (by rw [List.length_append]; omega) hr]
  rfl

/-- **Reading a whole text**, white space behind it. -/
theorem loads_print (hL : L.Reads d enc) (hf : NumFormat fmt read) (v : Json) (n : Nat) {w : CText}
    (hw : ∀ c ∈ w, d.space c = true) :
    d.loads (L.print fmt n v ++ w) = some (readBack read (decoded enc v)) := by
  have hstop : Stops isNumberChar w := by
    have := d.stops_space (t := []) hw (fun c hc => absurd hc (by simp))
    rwa [List.append_nil] at this
  have hskip := d.skip_append hw []
  rw [List.append_nil] at hskip
  rw [Dialect.loads, value_print hL hf v n _ w (by rw [List.length_append]; omega) hstop,
    Option.bind_some, hskip]
  rfl

end Read

/-! ## 4. Which characters a text is made of -/

/-- The characters a layout writes. -/
structure Made (L : Layout) (P : Char → Prop) : Prop where
  escape : ∀ c, ∀ x ∈ L.escape c, P x
  colon : ∀ x ∈ L.colon, P x
  first : ∀ n, ∀ x ∈ L.first n, P x
  next : ∀ n, ∀ x ∈ L.next n, P x
  last : ∀ n, ∀ x ∈ L.last n, P x
  visible : ∀ x : Char, 32 < x.toNat → x.toNat < 128 → P x

section Made

variable {L : Layout} {P : Char → Prop} {fmt : ℚ → CText} {read : ℚ → ℚ}

theorem made_append {s t : CText} (hs : ∀ x ∈ s, P x) (ht : ∀ x ∈ t, P x) : ∀ x ∈ s ++ t, P x :=
  List.forall_mem_append.mpr ⟨hs, ht⟩

theorem Made.cons (hP : L.Made P) {c : Char} {s : CText} (hc : 32 < c.toNat ∧ c.toNat < 128)
    (hs : ∀ x ∈ s, P x) : ∀ x ∈ c :: s, P x := by
  intro x hx
  rcases List.mem_cons.mp hx with rfl | hx
  · exact hP.visible x hc.1 hc.2
  · exact hs x hx

theorem Made.keyword (hP : L.Made P) {s : CText}
    (h : s.all (fun c => decide (32 < c.toNat ∧ c.toNat < 128)) = true) :
    ∀ x ∈ s, P x := by
  intro x hx
  have := of_decide_eq_true (List.all_eq_true.mp h x hx)
  exact hP.visible x this.1 this.2

theorem Made.string (hP : L.Made P) (s : CText) : ∀ x ∈ L.printString s, P x := by
  refine hP.cons (by decide) (made_append (fun x hx => ?_) (hP.keyword (by decide)))
  obtain ⟨c, -, hx⟩ := List.mem_flatMap.mp hx
  exact hP.escape c x hx

mutual
/-- **A text is made of what the layout writes and of visible ASCII characters.** -/
theorem print_all (hP : L.Made P) (hf : NumFormat fmt read) :
    ∀ (v : Json) (n : Nat), ∀ x ∈ L.print fmt n v, P x
  | .null, _ => hP.keyword (s := "null".toList) (by decide)
  | .bool true, _ => hP.keyword (s := "true".toList) (by decide)
  | .bool false, _ => hP.keyword (s := "false".toList) (by decide)
  | .num q, _ => fun x hx => by
      have := isNumeral_bounds (hf.numeral q x hx)
      exact hP.visible x this.1 this.2
  | .str s, _ => hP.string s
  | .arr [], _ => hP.keyword (s := "[]".toList) (by decide)
  | .obj [], _ => hP.keyword (s := "\x7b\x7d".toList) (by decide)
  | .arr (x :: xs), n => by
      refine hP.cons (by decide) (made_append (hP.first _) (made_append (print_all hP hf x (n + 1))
        (made_append (printElems_all hP hf xs (n + 1)) (made_append (hP.last n) ?_))))
      exact hP.keyword (s := [']']) (by decide)
  | .obj ((k, v) :: ms), n => by
      refine hP.cons (by decide) (made_append (hP.first _) (made_append (hP.string k)
        (hP.cons (by decide) (made_append hP.colon (made_append (print_all hP hf v (n + 1))
          (made_append (printMembers_all hP hf ms (n + 1)) (made_append (hP.last n) ?_)))))))
      exact hP.keyword (s := ['\x7d']) (by decide)

theorem printElems_all (hP : L.Made P) (hf : NumFormat fmt read) :
    ∀ (xs : List Json) (n : Nat), ∀ x ∈ L.printElems fmt n xs, P x
  | [], _ => fun x hx => absurd hx List.not_mem_nil
  | x :: xs, n => hP.cons (by decide) (made_append (hP.next n) (made_append (print_all hP hf x n)
      (printElems_all hP hf xs n)))

theorem printMembers_all (hP : L.Made P) (hf : NumFormat fmt read) :
    ∀ (ms : List (CText × Json)) (n : Nat), ∀ x ∈ L.printMembers fmt n ms, P x
  | [], _ => fun x hx => absurd hx List.not_mem_nil
  | (k, v) :: ms, n => hP.cons (by decide) (made_append (hP.next n) (made_append (hP.string k)
      (hP.cons (by decide) (made_append hP.colon (made_append (print_all hP hf v n)
        (printMembers_all hP hf ms n))))))
end

end Made

end Layout

/-! ## 5. The writer that leaves ASCII -/

/-- Four hexadecimal digits of a number below 65536, behind `\u`. -/
def unicodeEscape (n : Nat) : CText :=
  ['\\', 'u', (n / 4096).digitChar, (n / 256 % 16).digitChar, (n / 16 % 16).digitChar,
    (n % 16).digitChar]

/-- A character in ASCII: the seven short escapes, the printable ASCII characters as they are, any
    other one as four hexadecimal digits, or as the two surrogates of UTF-16. -/
def asciiEscape (c : Char) : CText :=
  if c = '"' then ['\\', '"']
  else if c = '\\' then ['\\', '\\']
  else if c = '\x08' then ['\\', 'b']
  else if c = '\x0c' then ['\\', 'f']
  else if c = '\n' then ['\\', 'n']
  else if c = '\r' then ['\\', 'r']
  else if c = '\t' then ['\\', 't']
  else if 32 ≤ c.toNat ∧ c.toNat ≤ 126 then [c]
  else if c.toNat < 0x10000 then unicodeEscape c.toNat
  else unicodeEscape (0xD800 + (c.toNat - 0x10000) / 0x400) ++
    unicodeEscape (0xDC00 + (c.toNat - 0x10000) % 0x400)

/-- The escape of a number is printable. -/
theorem mem_unicodeEscape {n : Nat} (h : n < 0x10000) :
    ∀ x ∈ unicodeEscape n, 32 ≤ x.toNat ∧ x.toNat < 128 := by
  intro x hx
  have h1 := digitChar_bounds (n := n / 4096) (by omega)
  have h2 := digitChar_bounds (n := n / 256 % 16) (by omega)
  have h3 := digitChar_bounds (n := n / 16 % 16) (by omega)
  have h4 := digitChar_bounds (n := n % 16) (by omega)
  simp only [unicodeEscape, List.mem_cons, List.not_mem_nil, or_false] at hx
  rcases hx with rfl | rfl | rfl | rfl | rfl | rfl
  · decide
  · decide
  all_goals assumption

theorem char_lt (c : Char) : c.toNat < 0x110000 := by
  rcases c.valid with h | h
  · exact lt_trans h (by decide)
  · exact h.2

/-- **What is written is printable ASCII.** -/
theorem mem_asciiEscape {c x : Char} (h : x ∈ asciiEscape c) : 32 ≤ x.toNat ∧ x.toNat < 128 := by
  have hlt := char_lt c
  unfold asciiEscape at h
  split_ifs at h with h1 h2 h3 h4 h5 h6 h7 h8 h9
  iterate 7
    simp only [List.mem_cons, List.not_mem_nil, or_false] at h
    rcases h with rfl | rfl <;> decide
  · rw [List.mem_singleton.mp h]
    omega
  · exact mem_unicodeEscape h9 x h
  · rcases List.mem_append.mp h with h | h
    · exact mem_unicodeEscape (by omega) x h
    · exact mem_unicodeEscape (by omega) x h

theorem hex4_unicodeEscape {n : Nat} (h : n < 0x10000) :
    hex4 (n / 4096).digitChar (n / 256 % 16).digitChar (n / 16 % 16).digitChar
      (n % 16).digitChar = some n := by
  have h1 := hexValue_digitChar (n := n / 4096) (by omega)
  have h2 := hexValue_digitChar (n := n / 256 % 16) (by omega)
  have h3 := hexValue_digitChar (n := n / 16 % 16) (by omega)
  have h4 := hexValue_digitChar (n := n % 16) (by omega)
  simp only [hex4, h1, h2, h3, h4, Option.bind_some, Option.map_some, Option.some.injEq]
  omega

namespace Dialect

variable (d : Dialect)

/-- One escape that is no surrogate. -/
theorem stringBody_unit {n : Nat} (h : n < 0x10000) (hs : n < 0xD800 ∨ 0xE000 ≤ n) (r : CText) :
    d.stringBody (unicodeEscape n ++ r) = (d.stringBody r).map (prepend (d.encode n)) := by
  have h1 : ¬ (0xD800 ≤ n ∧ n < 0xDC00) := by omega
  have h2 : ¬ (0xDC00 ≤ n ∧ n < 0xE000) := by omega
  rw [unicodeEscape]
  simp only [List.cons_append, List.nil_append]
  rw [stringBody.eq_def]
  simp [hex4_unicodeEscape h, h1, h2]

/-- Two escapes that are a pair of surrogates. -/
theorem stringBody_pair {u l : Nat} (hu : 0xD800 ≤ u ∧ u < 0xDC00) (hl : 0xDC00 ≤ l ∧ l < 0xE000)
    (r : CText) :
    d.stringBody (unicodeEscape u ++ (unicodeEscape l ++ r)) =
      (d.stringBody r).map
        (prepend (d.encode (0x10000 + (u - 0xD800) * 0x400 + (l - 0xDC00)))) := by
  rw [unicodeEscape, unicodeEscape]
  simp only [List.cons_append, List.nil_append]
  rw [stringBody.eq_def]
  simp [hex4_unicodeEscape (n := u) (by omega), hex4_unicodeEscape (n := l) (by omega), hu, hl]

/-- **Every reader takes the escape of a character for that character.** -/
theorem stringBody_asciiEscape (c : Char) (r : CText) :
    d.stringBody (asciiEscape c ++ r) = (d.stringBody r).map (prepend (d.encode c.toNat)) := by
  have hlt := char_lt c
  have hchar : c.toNat < 0xD800 ∨ 0xE000 ≤ c.toNat := by
    rcases c.valid with h | h
    · exact Or.inl h
    · exact Or.inr h.1
  have hascii : c.toNat < 128 → d.encode c.toNat = [c] := by
    intro h
    rw [d.encode_ascii _ h, Char.ofNat_toNat]
  unfold asciiEscape
  split_ifs with h1 h2 h3 h4 h5 h6 h7 h8 h9
  · rw [hascii (by rw [h1]; decide), h1]
    exact d.stringBody_simple rfl r
  · rw [hascii (by rw [h2]; decide), h2]
    exact d.stringBody_simple rfl r
  · rw [hascii (by rw [h3]; decide), h3]
    exact d.stringBody_simple rfl r
  · rw [hascii (by rw [h4]; decide), h4]
    exact d.stringBody_simple rfl r
  · rw [hascii (by rw [h5]; decide), h5]
    exact d.stringBody_simple rfl r
  · rw [hascii (by rw [h6]; decide), h6]
    exact d.stringBody_simple rfl r
  · rw [hascii (by rw [h7]; decide), h7]
    exact d.stringBody_simple rfl r
  · rw [hascii (by omega)]
    exact d.stringBody_literal h1 h2 (d.literal_of_le c h8.1) r
  · exact d.stringBody_unit h9 hchar r
  · have hpair : 0x10000 + (0xD800 + (c.toNat - 0x10000) / 0x400 - 0xD800) * 0x400 +
        (0xDC00 + (c.toNat - 0x10000) % 0x400 - 0xDC00) = c.toNat := by
      omega
    rw [List.append_assoc, d.stringBody_pair (by omega) (by omega), hpair]

end Dialect

/-! ## 6. Two layouts -/

namespace Layout

/-- Everything on one line, `gap` behind commas and colons. -/
def oneLine (escape : Char → CText) (gap : CText) : Layout where
  escape := escape
  colon := gap
  first _ := []
  next _ := gap
  last _ := []

/-- A new line at a depth, `k` blanks for each level. -/
def newLine (k n : Nat) : CText := '\n' :: List.replicate (k * n) ' '

/-- An element a line, indented. -/
def indented (escape : Char → CText) (k : Nat) : Layout where
  escape := escape
  colon := [' ']
  first := newLine k
  next := newLine k
  last := newLine k

theorem mem_newLine {k n : Nat} {c : Char} (h : c ∈ newLine k n) : c = '\n' ∨ c = ' ' := by
  rcases List.mem_cons.mp h with rfl | h
  · exact Or.inl rfl
  · exact Or.inr (List.eq_of_mem_replicate h)

section Reads

variable {d : Dialect} {enc escape : Char → CText}
  (hescape : ∀ c r, d.stringBody (escape c ++ r) = (d.stringBody r).map (prepend (enc c)))

include hescape

theorem oneLine_reads {gap : CText} (hgap : ∀ c ∈ gap, d.space c = true) :
    (oneLine escape gap).Reads d enc where
  colon := hgap
  first _ _ h := absurd h List.not_mem_nil
  next _ := hgap
  last _ _ h := absurd h List.not_mem_nil
  escape := hescape

theorem indented_reads (k : Nat) (hblank : d.space ' ' = true) (hline : d.space '\n' = true) :
    (indented escape k).Reads d enc := by
  have hnew : ∀ n, ∀ c ∈ newLine k n, d.space c = true := by
    intro n c hc
    rcases mem_newLine hc with rfl | rfl
    · exact hline
    · exact hblank
  refine ⟨fun c hc => ?_, hnew, hnew, hnew, hescape⟩
  rw [List.mem_singleton.mp hc]
  exact hblank

end Reads

theorem oneLine_made {P : Char → Prop} {escape : Char → CText} {gap : CText}
    (hescape : ∀ c, ∀ x ∈ escape c, P x) (hgap : ∀ x ∈ gap, P x)
    (hvisible : ∀ x : Char, 32 < x.toNat → x.toNat < 128 → P x) : (oneLine escape gap).Made P where
  escape := hescape
  colon := hgap
  first _ _ h := absurd h List.not_mem_nil
  next _ := hgap
  last _ _ h := absurd h List.not_mem_nil
  visible := hvisible

theorem indented_made {P : Char → Prop} {escape : Char → CText} (k : Nat)
    (hescape : ∀ c, ∀ x ∈ escape c, P x) (hblank : P ' ') (hline : P '\n')
    (hvisible : ∀ x : Char, 32 < x.toNat → x.toNat < 128 → P x) : (indented escape k).Made P := by
  have hnew : ∀ n, ∀ c ∈ newLine k n, P c := by
    intro n c hc
    rcases mem_newLine hc with rfl | rfl
    · exact hline
    · exact hblank
  refine ⟨hescape, fun c hc => ?_, hnew, hnew, hnew, hvisible⟩
  rw [List.mem_singleton.mp hc]
  exact hblank

end Layout

/-! ## 7. The parts of a tree -/

section Parts

variable (f : CText → CText) (read : ℚ → ℚ)

theorem mapStrElems_eq (xs : List Json) : mapStrElems f xs = xs.map (mapStr f) := by
  induction xs with
  | nil => rfl
  | cons x xs ih => rw [mapStrElems, ih, List.map_cons]

theorem mapStrMembers_eq (ms : List (CText × Json)) :
    mapStrMembers f ms = ms.map fun m => (f m.1, mapStr f m.2) := by
  induction ms with
  | nil => rfl
  | cons m ms ih => rw [mapStrMembers, ih, List.map_cons]

theorem readBackElems_eq (xs : List Json) : readBackElems read xs = xs.map (readBack read) := by
  induction xs with
  | nil => rfl
  | cons x xs ih => rw [readBackElems, ih, List.map_cons]

theorem readBackMembers_eq (ms : List (CText × Json)) :
    readBackMembers read ms = ms.map fun m => (m.1, readBack read m.2) := by
  induction ms with
  | nil => rfl
  | cons m ms ih => rw [readBackMembers, ih, List.map_cons]

/-- A member of what is read back. -/
theorem member_readBack (name : CText) (ms : List (CText × Json)) :
    member name (readBackMembers read ms) = (member name ms).map (readBack read) := by
  rw [readBackMembers_eq, member_map]

end Parts

end Json
