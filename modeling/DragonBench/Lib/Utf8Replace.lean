/-
  File:      DragonBench/Lib/Utf8Replace.lean
  Subject:   The UTF-8 decoder that goes on behind an error: Python's `errors="replace"`.

  An ill-formed sequence becomes one U+FFFD: the bytes that could still have been the beginning of
  a character, up to the first that could not, which starts anew.

  * `decodeReplace` -- the decoder, byte by byte;
  * **`decodeReplace_utf8`** -- it inverts the encoder.
-/
import DragonBench.Lib.Utf8

namespace Utf8Replace

/-! ## 1. The decoder -/

/-- U+FFFD. -/
def replacement : Char := '\ufffd'

/-- A character begun: the range of its next byte, how many follow that one, and its code so far. -/
structure Begun where
  lo : Nat
  hi : Nat
  more : Nat
  code : Nat
  deriving DecidableEq

/-- The first byte of a character: the character, or what it begins. -/
def first (b : Nat) : Char ⊕ Begun :=
  if b < 0x80 then .inl (Char.ofNat b)
  else if b < 0xc2 then .inl replacement
  else if b < 0xe0 then .inr ⟨0x80, 0xbf, 0, b - 0xc0⟩
  else if b < 0xf0 then
    .inr ⟨if b = 0xe0 then 0xa0 else 0x80, if b = 0xed then 0x9f else 0xbf, 1, b - 0xe0⟩
  else if b < 0xf5 then
    .inr ⟨if b = 0xf0 then 0x90 else 0x80, if b = 0xf4 then 0x8f else 0xbf, 2, b - 0xf0⟩
  else .inl replacement

/-- The characters of the bytes behind a character begun. -/
def decodeFrom : Option Begun → CText → CText
  | none, [] => []
  | some _, [] => [replacement]
  | none, b :: s =>
    match first b.toNat with
    | .inl c => c :: decodeFrom none s
    | .inr p => decodeFrom (some p) s
  | some p, b :: s =>
    if p.lo ≤ b.toNat ∧ b.toNat ≤ p.hi then
      let code := p.code * 64 + (b.toNat - 0x80)
      match p.more with
      | 0 => Char.ofNat code :: decodeFrom none s
      | more + 1 => decodeFrom (some ⟨0x80, 0xbf, more, code⟩) s
    else
      match first b.toNat with
      | .inl c => replacement :: c :: decodeFrom none s
      | .inr p => replacement :: decodeFrom (some p) s

/-- `bytes.decode("utf-8", errors="replace")`. -/
def decodeReplace (s : CText) : CText := decodeFrom none s

/-! ## 2. One character -/

section Character

variable {b : Char} {p : Begun} {s : CText}

theorem decodeFrom_ascii (h : b.toNat < 0x80) :
    decodeFrom none (b :: s) = b :: decodeFrom none s := by
  have hf : first b.toNat = .inl b := by
    unfold first
    rw [if_pos h, Char.ofNat_toNat]
  rw [decodeFrom, hf]

theorem decodeFrom_first (h : first b.toNat = .inr p) :
    decodeFrom none (b :: s) = decodeFrom (some p) s := by
  rw [decodeFrom, h]

theorem decodeFrom_next {lo hi more code : Nat} (hlo : lo ≤ b.toNat) (hhi : b.toNat ≤ hi) :
    decodeFrom (some ⟨lo, hi, more + 1, code⟩) (b :: s) =
      decodeFrom (some ⟨0x80, 0xbf, more, code * 64 + (b.toNat - 0x80)⟩) s := by
  rw [decodeFrom, if_pos ⟨hlo, hhi⟩]

theorem decodeFrom_last {lo hi code : Nat} (hlo : lo ≤ b.toNat) (hhi : b.toNat ≤ hi) :
    decodeFrom (some ⟨lo, hi, 0, code⟩) (b :: s) =
      Char.ofNat (code * 64 + (b.toNat - 0x80)) :: decodeFrom none s := by
  rw [decodeFrom, if_pos ⟨hlo, hhi⟩]

theorem first_two {k : Nat} (h : k < 32) (h2 : 2 ≤ k) :
    first (k + 0xc0) = .inr ⟨0x80, 0xbf, 0, k⟩ := by
  revert k
  decide

theorem first_three {k : Nat} (h : k < 16) :
    first (k + 0xe0) =
      .inr ⟨if k = 0 then 0xa0 else 0x80, if k = 13 then 0x9f else 0xbf, 1, k⟩ := by
  revert k
  decide

theorem first_four {k : Nat} (h : k < 5) :
    first (k + 0xf0) =
      .inr ⟨if k = 0 then 0x90 else 0x80, if k = 4 then 0x8f else 0xbf, 2, k⟩ := by
  revert k
  decide

/-- The byte `n` of a text. -/
def byte (n : Nat) : Char := charOfByte (UInt8.ofNat n)

theorem toNat_byte {n : Nat} (h : n < 256) : (byte n).toNat = n := by
  rw [byte, toNat_charOfByte, UInt8.toNat_ofNat']
  exact Nat.mod_eq_of_lt h

/-- A byte that continues a character. -/
theorem decodeFrom_continues {lo hi more code k : Nat} (hk : k < 64) (hlo : lo ≤ k + 0x80)
    (hhi : k + 0x80 ≤ hi) :
    decodeFrom (some ⟨lo, hi, more + 1, code⟩) (byte (k + 0x80) :: s) =
      decodeFrom (some ⟨0x80, 0xbf, more, code * 64 + k⟩) s := by
  have hb := toNat_byte (show k + 0x80 < 256 by omega)
  rw [decodeFrom_next (by rw [hb]; exact hlo) (by rw [hb]; exact hhi), hb, Nat.add_sub_cancel]

/-- The byte that ends it. -/
theorem decodeFrom_ends {lo hi code k : Nat} (hk : k < 64) (hlo : lo ≤ k + 0x80)
    (hhi : k + 0x80 ≤ hi) :
    decodeFrom (some ⟨lo, hi, 0, code⟩) (byte (k + 0x80) :: s) =
      Char.ofNat (code * 64 + k) :: decodeFrom none s := by
  have hb := toNat_byte (show k + 0x80 < 256 by omega)
  rw [decodeFrom_last (by rw [hb]; exact hlo) (by rw [hb]; exact hhi), hb, Nat.add_sub_cancel]

/-- The bytes of a character from U+0080 on, by its code. -/
theorem utf8Bytes_eq {c : Char} (h : ¬ c.toNat ≤ 0x7f) : utf8Bytes c =
    if c.toNat ≤ 0x7ff then [byte (c.toNat / 64 % 32 + 0xc0), byte (c.toNat % 64 + 0x80)]
    else if c.toNat ≤ 0xffff then
      [byte (c.toNat / 4096 % 16 + 0xe0), byte (c.toNat / 64 % 64 + 0x80),
        byte (c.toNat % 64 + 0x80)]
    else
      [byte (c.toNat / 262144 % 8 + 0xf0), byte (c.toNat / 4096 % 64 + 0x80),
        byte (c.toNat / 64 % 64 + 0x80), byte (c.toNat % 64 + 0x80)] := by
  have hval : c.val.toNat = c.toNat := rfl
  unfold utf8Bytes String.utf8EncodeChar
  simp only [hval, h, if_false]
  split
  · rfl
  · split <;> rfl

theorem decodeFrom_two {c : Char} (h : ¬ c.toNat ≤ 0x7f) (h2 : c.toNat ≤ 0x7ff) :
    decodeFrom none (utf8Bytes c ++ s) = c :: decodeFrom none s := by
  have hcode : c.toNat / 64 % 32 * 64 + c.toNat % 64 = c.toNat := by omega
  have hb := toNat_byte (show c.toNat / 64 % 32 + 0xc0 < 256 by omega)
  rw [utf8Bytes_eq h, if_pos h2, List.cons_append, List.cons_append, List.nil_append,
    decodeFrom_first (by rw [hb]; exact first_two (by omega) (by omega)),
    decodeFrom_ends (by omega) (by omega) (by omega), hcode, Char.ofNat_toNat]

theorem decodeFrom_three {c : Char} (h : ¬ c.toNat ≤ 0x7f) (h2 : ¬ c.toNat ≤ 0x7ff)
    (h3 : c.toNat ≤ 0xffff) : decodeFrom none (utf8Bytes c ++ s) = c :: decodeFrom none s := by
  have hvalid : c.toNat < 0xd800 ∨ 0xdfff < c.toNat ∧ c.toNat < 0x110000 := c.valid
  have hcode : (c.toNat / 4096 % 16 * 64 + c.toNat / 64 % 64) * 64 + c.toNat % 64 = c.toNat := by
    omega
  have hb := toNat_byte (show c.toNat / 4096 % 16 + 0xe0 < 256 by omega)
  rw [utf8Bytes_eq h, if_neg h2, if_pos h3, List.cons_append, List.cons_append, List.cons_append,
    List.nil_append, decodeFrom_first (by rw [hb]; exact first_three (by omega)),
    decodeFrom_continues (by omega) (by split <;> omega) (by split <;> omega),
    decodeFrom_ends (by omega) (by omega) (by omega), hcode, Char.ofNat_toNat]

theorem decodeFrom_four {c : Char} (h : ¬ c.toNat ≤ 0x7f) (h2 : ¬ c.toNat ≤ 0x7ff)
    (h3 : ¬ c.toNat ≤ 0xffff) : decodeFrom none (utf8Bytes c ++ s) = c :: decodeFrom none s := by
  have hvalid : c.toNat < 0xd800 ∨ 0xdfff < c.toNat ∧ c.toNat < 0x110000 := c.valid
  have hcode : ((c.toNat / 262144 % 8 * 64 + c.toNat / 4096 % 64) * 64 +
      c.toNat / 64 % 64) * 64 + c.toNat % 64 = c.toNat := by omega
  have hb := toNat_byte (show c.toNat / 262144 % 8 + 0xf0 < 256 by omega)
  rw [utf8Bytes_eq h, if_neg h2, if_neg h3, List.cons_append, List.cons_append, List.cons_append,
    List.cons_append, List.nil_append,
    decodeFrom_first (by rw [hb]; exact first_four (by omega)),
    decodeFrom_continues (by omega) (by split <;> omega) (by split <;> omega),
    decodeFrom_continues (by omega) (by omega) (by omega),
    decodeFrom_ends (by omega) (by omega) (by omega), hcode, Char.ofNat_toNat]

/-- **A character comes back from its bytes.** -/
theorem decodeFrom_utf8Bytes (c : Char) (s : CText) :
    decodeFrom none (utf8Bytes c ++ s) = c :: decodeFrom none s := by
  by_cases h1 : c.toNat ≤ 0x7f
  · rw [utf8Bytes_ascii (by omega)]
    exact decodeFrom_ascii (by omega)
  by_cases h2 : c.toNat ≤ 0x7ff
  · exact decodeFrom_two h1 h2
  by_cases h3 : c.toNat ≤ 0xffff
  · exact decodeFrom_three h1 h2 h3
  · exact decodeFrom_four h1 h2 h3

end Character

/-! ## 3. A text -/

/-- **The decoder inverts the encoder.** -/
theorem decodeReplace_utf8 (s : CText) : decodeReplace (utf8 s) = s := by
  unfold decodeReplace
  induction s with
  | nil => rfl
  | cons c s ih => rw [utf8_cons, decodeFrom_utf8Bytes, ih]

end Utf8Replace
