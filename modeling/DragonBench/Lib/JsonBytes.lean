/-
  File:      DragonBench/Lib/JsonBytes.lean
  Subject:   A JSON text with strings of any bytes, behind a decoder that replaces what is no UTF-8.

  The quotes around a string are ASCII, so an ill-formed sequence ends with its string at the latest:
  the text stays JSON, and only the strings that are no UTF-8 change.

  * `Begun.Valid` -- a character begun ends as a character that is not ASCII;
  * `decodeFrom_flatMap_escape` -- the decoder commutes with the escapes;
  * `Whole` -- a text behind which the decoder is between two characters;
  * **`decodeReplace_print`** -- the decoded text is the text of the decoded strings;
  * `utf8_of_print` -- a text that is UTF-8 has strings that are.
-/
import DragonBench.Lib.JsonLayout
import DragonBench.Lib.Utf8Replace

namespace Utf8Replace

/-! ## 1. A character begun -/

/-- The least code it can still get. -/
def Begun.least (p : Begun) : Nat := (p.code * 64 + (p.lo - 0x80)) * 64 ^ p.more

/-- The greatest. -/
def Begun.most (p : Begun) : Nat := (p.code * 64 + (p.hi - 0x80) + 1) * 64 ^ p.more - 1

/-- **All of them are characters**, and none is ASCII. -/
structure Begun.Valid (p : Begun) : Prop where
  lo : 0x80 ≤ p.lo
  least : 0x80 ≤ p.least
  scalar : p.most < 0xd800 ∨ 0xdfff < p.least ∧ p.most < 0x110000

/-- What a first byte begins. -/
theorem first_valid {b : Nat} {p : Begun} (h : first b = .inr p) : p.Valid := by
  unfold first at h
  split_ifs at h <;> cases h <;> constructor <;>
    simp only [Begun.least, Begun.most, pow_zero, pow_one] <;> omega

/-- Another byte. -/
theorem next_valid {lo hi more code b : Nat} (h : Begun.Valid ⟨lo, hi, more + 1, code⟩)
    (hlo : lo ≤ b) (hhi : b ≤ hi) : Begun.Valid ⟨0x80, 0xbf, more, code * 64 + (b - 0x80)⟩ := by
  have hleast : Begun.least ⟨lo, hi, more + 1, code⟩ ≤
      Begun.least ⟨0x80, 0xbf, more, code * 64 + (b - 0x80)⟩ := by
    simp only [Begun.least, pow_succ']
    rw [← Nat.mul_assoc]
    exact Nat.mul_le_mul_right _ (by omega)
  have hmost : Begun.most ⟨0x80, 0xbf, more, code * 64 + (b - 0x80)⟩ ≤
      Begun.most ⟨lo, hi, more + 1, code⟩ := by
    simp only [Begun.most, pow_succ']
    rw [← Nat.mul_assoc]
    exact Nat.sub_le_sub_right (Nat.mul_le_mul_right _ (by omega)) 1
  refine ⟨le_rfl, h.least.trans hleast, ?_⟩
  have := h.scalar
  omega

/-- The last byte. -/
theorem last_high {lo hi code b : Nat} (h : Begun.Valid ⟨lo, hi, 0, code⟩)
    (hlo : lo ≤ b) (hhi : b ≤ hi) : 128 ≤ (Char.ofNat (code * 64 + (b - 0x80))).toNat := by
  obtain ⟨-, hleast, hscalar⟩ := h
  simp only [Begun.least, Begun.most, pow_zero, Nat.mul_one, Nat.add_sub_cancel] at hleast hscalar
  have hvalid : Nat.isValidChar (code * 64 + (b - 0x80)) := by
    unfold Nat.isValidChar
    omega
  have hcode : (Char.ofNat (code * 64 + (b - 0x80))).toNat = code * 64 + (b - 0x80) := by
    unfold Char.ofNat
    rw [dif_pos hvalid]
    rfl
  omega

/-- Every character begun in this state is valid. -/
def Sound (p : Option Begun) : Prop := ∀ q ∈ p, q.Valid

theorem sound_none : Sound none := fun q hq => absurd hq (Option.not_mem_none q)

theorem sound_some {p : Begun} (h : p.Valid) : Sound (some p) := fun q hq => by
  cases hq
  exact h

/-! ## 2. The escapes -/

/-- An ASCII character ends what was begun. -/
theorem decodeFrom_cut {p : Option Begun} (hp : Sound p) {c : Char} (hc : c.toNat < 0x80)
    (s : CText) : decodeFrom p (c :: s) = decodeFrom p [] ++ c :: decodeFrom none s := by
  cases p with
  | none => exact decodeFrom_ascii hc
  | some p =>
      have hlo := (hp p rfl).lo
      have hf : first c.toNat = .inl c := by
        unfold first
        rw [if_pos hc, Char.ofNat_toNat]
      conv_lhs => rw [decodeFrom, if_neg (by omega), hf]
      rfl

/-- ASCII text is itself, wherever it stands. -/
theorem decodeFrom_ascii_append {a : CText} (ha : ∀ c ∈ a, c.toNat < 0x80) (s : CText) :
    decodeFrom none (a ++ s) = a ++ decodeFrom none s := by
  induction a with
  | nil => rfl
  | cons c a ih =>
      rw [List.cons_append, decodeFrom_ascii (ha c List.mem_cons_self),
        ih fun x hx => ha x (List.mem_cons_of_mem c hx)]
      rfl

/-- Another character comes out as characters that are not ASCII, and what it begins is valid. -/
theorem decodeFrom_high {p : Option Begun} (hp : Sound p) {c : Char} (hc : 0x80 ≤ c.toNat) :
    ∃ out p', Sound p' ∧ (∀ x ∈ out, 128 ≤ x.toNat) ∧
      ∀ s, decodeFrom p (c :: s) = out ++ decodeFrom p' s := by
  have hr : 128 ≤ replacement.toNat := by decide
  -- what the character does as a first byte
  have hfirst : ∃ out p', Sound p' ∧ (∀ x ∈ out, 128 ≤ x.toNat) ∧
      ∀ s, decodeFrom none (c :: s) = out ++ decodeFrom p' s := by
    cases hf : first c.toNat with
    | inl x =>
        refine ⟨[x], none, sound_none, ?_, fun s => by rw [decodeFrom, hf]; rfl⟩
        unfold first at hf
        split_ifs at hf
        · omega
        · cases hf
          exact List.forall_mem_singleton.mpr hr
        · cases hf
          exact List.forall_mem_singleton.mpr hr
    | inr q => exact ⟨[], some q, sound_some (first_valid hf), by simp, fun s => decodeFrom_first hf⟩
  cases p with
  | none => exact hfirst
  | some p =>
      obtain ⟨lo, hi, more, code⟩ := p
      have hv := hp _ rfl
      by_cases hin : lo ≤ c.toNat ∧ c.toNat ≤ hi
      · cases more with
        | zero => exact ⟨[_], none, sound_none, List.forall_mem_singleton.mpr (last_high hv hin.1 hin.2),
            fun s => decodeFrom_last hin.1 hin.2⟩
        | succ more => exact ⟨[], _, sound_some (next_valid hv hin.1 hin.2), by simp,
            fun s => decodeFrom_next hin.1 hin.2⟩
      · obtain ⟨out, p', hp', hout, hs⟩ := hfirst
        refine ⟨replacement :: out, p', hp', List.forall_mem_cons.mpr ⟨hr, hout⟩, fun s => ?_⟩
        rw [List.cons_append, ← hs]
        conv_lhs => rw [decodeFrom, if_neg hin]
        conv_rhs => rw [decodeFrom]
        cases first c.toNat <;> rfl

/-- Other characters are not escaped. -/
theorem flatMap_escape_high {s : CText} (h : ∀ x ∈ s, 128 ≤ x.toNat) :
    s.flatMap Json.escape = s := by
  rw [List.flatMap_congr fun x hx => Json.escape_of_ge (h x hx), List.flatMap_singleton']

theorem escape_ne_nil (c : Char) : Json.escape c ≠ [] := by
  unfold Json.escape
  split_ifs <;> exact List.cons_ne_nil _ _

/-- **The decoder commutes with the escapes**: an escape is ASCII, and what is not escaped passes. -/
theorem decodeFrom_flatMap_escape {p : Option Begun} (hp : Sound p) (s : CText) :
    decodeFrom p (s.flatMap Json.escape) = (decodeFrom p s).flatMap Json.escape := by
  have hend : ∀ p, (decodeFrom p []).flatMap Json.escape = decodeFrom p [] := by
    intro p
    cases p with
    | none => rfl
    | some p => exact flatMap_escape_high (List.forall_mem_singleton.mpr (by decide))
  induction s generalizing p with
  | nil => exact (hend p).symm
  | cons c s ih =>
      rw [List.flatMap_cons]
      by_cases hc : c.toNat < 128
      · obtain ⟨e, es, he⟩ := List.exists_cons_of_ne_nil (escape_ne_nil c)
        have ha := Json.escape_ascii hc
        rw [he] at ha
        rw [decodeFrom_cut hp hc, List.flatMap_append, hend, List.flatMap_cons, he, List.cons_append,
          decodeFrom_cut hp (ha e List.mem_cons_self),
          decodeFrom_ascii_append fun x hx => ha x (List.mem_cons_of_mem e hx), ih sound_none]
        rfl
      · obtain ⟨out, p', hp', hout, hs⟩ := decodeFrom_high hp (not_lt.mp hc)
        rw [Json.escape_of_ge (not_lt.mp hc), List.cons_append, hs, hs, List.nil_append,
          List.flatMap_append, flatMap_escape_high hout, ih hp']

/-! ## 3. Texts -/

/-- **The decoder is between two characters** behind this text. -/
def Whole (a : CText) : Prop := ∀ s, decodeReplace (a ++ s) = decodeReplace a ++ decodeReplace s

theorem Whole.append {a b : CText} (ha : Whole a) (hb : Whole b) : Whole (a ++ b) := by
  intro s
  rw [List.append_assoc, ha, hb, ha, List.append_assoc]

theorem decodeReplace_ascii {a : CText} (h : ∀ c ∈ a, c.toNat < 0x80) : decodeReplace a = a := by
  have := decodeFrom_ascii_append h []
  rw [List.append_nil] at this
  exact this.trans (List.append_nil a)

theorem whole_ascii {a : CText} (h : ∀ c ∈ a, c.toNat < 0x80) : Whole a := by
  intro s
  rw [decodeReplace_ascii h]
  exact decodeFrom_ascii_append h s

/-- An ASCII character behind any text. -/
theorem decodeFrom_append_cut {p : Option Begun} (hp : Sound p) {q : Char} (hq : q.toNat < 0x80)
    (x s : CText) : decodeFrom p (x ++ q :: s) = decodeFrom p x ++ q :: decodeFrom none s := by
  induction x generalizing p with
  | nil => exact decodeFrom_cut hp hq s
  | cons c x ih =>
      rw [List.cons_append]
      by_cases hc : c.toNat < 0x80
      · rw [decodeFrom_cut hp hc, decodeFrom_cut hp hc, ih sound_none, List.append_assoc]
        rfl
      · obtain ⟨out, p', hp', -, hs⟩ := decodeFrom_high hp (not_lt.mp hc)
        rw [hs, hs, ih hp', List.append_assoc]

/-- **A text between two quotes.** -/
theorem printString_decode (x : CText) : Whole (Json.printString x) ∧
    decodeReplace (Json.printString x) = Json.printString (decodeReplace x) := by
  have hq : ('"' : Char).toNat < 0x80 := by decide
  have hall : ∀ s, decodeReplace (Json.printString x ++ s) =
      Json.printString (decodeReplace x) ++ decodeReplace s := by
    intro s
    show decodeFrom none ('"' :: (x.flatMap Json.escape ++ ['"']) ++ s) = _
    rw [List.cons_append, decodeFrom_ascii hq, List.append_assoc, List.singleton_append,
      decodeFrom_append_cut sound_none hq, decodeFrom_flatMap_escape sound_none]
    show '"' :: ((decodeReplace x).flatMap Json.escape ++ '"' :: decodeReplace s) =
      '"' :: (((decodeReplace x).flatMap Json.escape ++ ['"']) ++ decodeReplace s)
    rw [List.append_assoc]
    rfl
  have hself : decodeReplace (Json.printString x) = Json.printString (decodeReplace x) := by
    have := hall []
    rw [List.append_nil] at this
    exact this.trans (List.append_nil _)
  exact ⟨fun s => by rw [hall, hself], hself⟩

/-! ## 4. Values -/

section Print

open Json

variable {fmt : ℚ → CText} {read : ℚ → ℚ}

theorem Whole.cons {c : Char} (hc : c.toNat < 0x80) {a : CText} (ha : Whole a) : Whole (c :: a) :=
  (whole_ascii (a := [c]) (List.forall_mem_singleton.mpr hc)).append ha

theorem decodeReplace_cons {c : Char} (hc : c.toNat < 0x80) (a : CText) :
    decodeReplace (c :: a) = c :: decodeReplace a := decodeFrom_ascii hc

mutual
/-- **Decoding a printed value is printing the value decoded.** -/
theorem print_decode (hf : NumFormat fmt read) : ∀ v : Json, Whole (print fmt v) ∧
    decodeReplace (print fmt v) = print fmt (v.mapStr decodeReplace)
  | .null =>
      have h : ∀ c ∈ "null".toList, c.toNat < 0x80 := CText.forall_of_all (by decide)
      ⟨whole_ascii h, decodeReplace_ascii h⟩
  | .bool true =>
      have h : ∀ c ∈ "true".toList, c.toNat < 0x80 := CText.forall_of_all (by decide)
      ⟨whole_ascii h, decodeReplace_ascii h⟩
  | .bool false =>
      have h : ∀ c ∈ "false".toList, c.toNat < 0x80 := CText.forall_of_all (by decide)
      ⟨whole_ascii h, decodeReplace_ascii h⟩
  | .num q => by
      have ha : ∀ c ∈ fmt q, c.toNat < 0x80 := fun c hc => (isNumeral_bounds (hf.numeral q c hc)).2
      exact ⟨whole_ascii ha, decodeReplace_ascii ha⟩
  | .str s => printString_decode s
  | .arr xs => by
      obtain ⟨hw, hx⟩ := printElems_decode hf xs
      have ho : ('[' : Char).toNat < 0x80 := by decide
      have hc : ∀ c ∈ [']'], c.toNat < 0x80 := List.forall_mem_singleton.mpr (by decide)
      refine ⟨.cons ho (hw.append (whole_ascii hc)), ?_⟩
      rw [mapStr, print, print, decodeReplace_cons ho, hw, hx, decodeReplace_ascii hc]
  | .obj ms => by
      obtain ⟨hw, hx⟩ := printMembers_decode hf ms
      have ho : ('\x7b' : Char).toNat < 0x80 := by decide
      have hc : ∀ c ∈ ['\x7d'], c.toNat < 0x80 := List.forall_mem_singleton.mpr (by decide)
      refine ⟨.cons ho (hw.append (whole_ascii hc)), ?_⟩
      rw [mapStr, print, print, decodeReplace_cons ho, hw, hx, decodeReplace_ascii hc]

theorem printElems_decode (hf : NumFormat fmt read) : ∀ xs : List Json, Whole (printElems fmt xs) ∧
    decodeReplace (printElems fmt xs) = printElems fmt (mapStrElems decodeReplace xs)
  | [] => ⟨fun _ => rfl, rfl⟩
  | [x] => print_decode hf x
  | x :: y :: xs => by
      obtain ⟨hw, hx⟩ := print_decode hf x
      obtain ⟨hws, hxs⟩ := printElems_decode hf (y :: xs)
      have hc : (',' : Char).toNat < 0x80 := by decide
      simp only [mapStrElems] at hxs
      refine ⟨hw.append (.cons hc hws), ?_⟩
      simp only [mapStrElems, printElems]
      rw [hw, hx, decodeReplace_cons hc, hxs]

theorem printMembers_decode (hf : NumFormat fmt read) : ∀ ms : List (CText × Json),
    Whole (printMembers fmt ms) ∧
      decodeReplace (printMembers fmt ms) = printMembers fmt (mapStrMembers decodeReplace ms)
  | [] => ⟨fun _ => rfl, rfl⟩
  | [(k, v)] => by
      obtain ⟨hwk, hk⟩ := printString_decode k
      obtain ⟨hw, hx⟩ := print_decode hf v
      have hc : (':' : Char).toNat < 0x80 := by decide
      refine ⟨hwk.append (.cons hc hw), ?_⟩
      simp only [mapStrMembers, printMembers]
      rw [hwk, hk, decodeReplace_cons hc, hx]
  | (k, v) :: m :: ms => by
      obtain ⟨hwk, hk⟩ := printString_decode k
      obtain ⟨hw, hx⟩ := print_decode hf v
      obtain ⟨hws, hxs⟩ := printMembers_decode hf (m :: ms)
      have hc : (':' : Char).toNat < 0x80 := by decide
      have hd : (',' : Char).toNat < 0x80 := by decide
      simp only [mapStrMembers] at hxs
      refine ⟨hwk.append (.cons hc (hw.append (.cons hd hws))), ?_⟩
      simp only [mapStrMembers, printMembers]
      rw [hwk, hk, decodeReplace_cons hc, hw, hx, decodeReplace_cons hd, hxs]
end

/-- **The decoded text is the text of the decoded strings.** -/
theorem decodeReplace_print (hf : NumFormat fmt read) (v : Json) :
    decodeReplace (print fmt v) = print fmt (v.mapStr decodeReplace) := (print_decode hf v).2

/-- **Where the text is UTF-8** nothing is replaced. -/
theorem decodeUtf8_print (hf : NumFormat fmt read) {v : Json} {raw : CText}
    (h : decodeUtf8 (print fmt v) = some raw) : raw = print fmt (v.mapStr decodeReplace) := by
  rw [← decodeReplace_print hf, decodeUtf8_eq_some.mp h, decodeReplace_utf8]

/-- So its strings are UTF-8. -/
theorem utf8_of_print (hf : NumFormat fmt read) (d : Dialect) {ms : List (CText × Json)} {raw : CText}
    (h : decodeUtf8 (print fmt (.obj ms)) = some raw) {name s : CText}
    (hm : member name ms = some (.str s)) : utf8 (decodeReplace s) = s := by
  have hback : readBack read (((Json.obj ms).mapStr decodeReplace).mapStr utf8) =
      readBack read (.obj ms) := by
    refine Dialect.readBack_of_print_eq hf d ?_
    rw [print_utf8 hf, ← decodeUtf8_print hf h]
    exact (decodeUtf8_eq_some.mp h).symm
  simp only [mapStr, readBack, mapStrMembers_eq, readBackMembers_eq, List.map_map, Json.obj.injEq]
    at hback
  obtain ⟨m, hfind, hstr⟩ := Option.map_eq_some_iff.mp hm
  have hmem : m ∈ ms := List.mem_reverse.mp (List.mem_of_find?_eq_some hfind)
  have hsame := congrArg Prod.snd (List.map_inj_left.mp hback m hmem)
  simpa only [Function.comp_apply, hstr, mapStr, readBack, Json.str.injEq] using hsame

end Print

end Utf8Replace
