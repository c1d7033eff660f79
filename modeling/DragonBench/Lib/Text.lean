/-
  File:      DragonBench/Lib/Text.lean
  Subject:   C text: bounded copies, decimal and padded hexadecimal numerals.

  A C string is a list of characters, one per byte (a byte is the character with its code, 0 to
  255), without the terminating NUL. `snprintf size s` is what a buffer of `size` bytes holds
  after `snprintf(buf, size, "%s", s)`: the longest prefix that leaves room for the NUL.

  * `snprintf_of_lt`, `snprintf_eq_iff` -- the copy is complete exactly when it fits;
  * `overwrite`, `scan` -- the bytes of a buffer: a copy leaves what stands behind its NUL, a search
    for the NUL finds the copy (`scan_overwrite`);
  * `decimal`, `decimal_length_le` -- `%u` and its width;
  * `hex08` -- `%08x`, eight lower-case hexadecimal digits for every 32-bit value;
  * `ofHex`, `hex08_injective` -- reading it back;
  * `hex02`, `lower`, `lower_hex02_injective` -- `%02X` of a byte, and ASCII lower case.
-/
import Mathlib.Data.Nat.Digits.Defs
import Mathlib.Data.List.Basic
import Mathlib.Tactic.Common

/-- A C string: its bytes as characters, the terminating NUL left out. -/
abbrev CText := List Char

namespace CText

/-- A property of every character of a text, by evaluation. -/
theorem forall_of_all {p : Char → Prop} [DecidablePred p] {s : CText}
    (h : s.all (fun c => decide (p c)) = true) : ∀ c ∈ s, p c :=
  fun c hc => of_decide_eq_true (List.all_eq_true.mp h c hc)

/-! ## 1. Bounded copies -/

/-- The content of a buffer of `size` bytes after `snprintf(buf, size, "%s", s)`. -/
def snprintf (size : Nat) (s : CText) : CText := s.take (size - 1)

theorem snprintf_of_lt {size : Nat} {s : CText} (h : s.length < size) : snprintf size s = s :=
  List.take_of_length_le (by omega)

/-- **The copy is complete exactly when the text and its NUL fit.** -/
theorem snprintf_eq_iff {size : Nat} (hsize : 0 < size) {s : CText} :
    snprintf size s = s ↔ s.length < size := by
  constructor
  · intro h
    have hlen := congrArg List.length h
    rw [snprintf, List.length_take] at hlen
    omega
  · exact snprintf_of_lt

/-- A buffer after a text and its NUL were written to its front; the rest keeps its bytes. -/
def overwrite (buf : List Char) (s : CText) : List Char := s ++ '\x00' :: buf.drop (s.length + 1)

theorem length_overwrite {buf : List Char} {s : CText} (h : s.length < buf.length) :
    (overwrite buf s).length = buf.length := by
  rw [overwrite, List.length_append, List.length_cons, List.length_drop]
  omega

/-- The bytes in front of the first NUL, or `n` bytes when none of them is NUL (`memchr`). -/
def scan (n : Nat) (buf : List Char) : CText := (buf.take n).takeWhile fun c => decide (c ≠ '\x00')

theorem length_scan_le (n : Nat) (buf : List Char) : (scan n buf).length ≤ n :=
  Nat.le_trans (List.takeWhile_prefix _).length_le (List.length_take_le n buf)

/-- **The search finds what was written**, whatever the buffer held before. -/
theorem scan_overwrite {n : Nat} {s : CText} (buf : List Char) (hn : s.length ≤ n)
    (h0 : '\x00' ∉ s) : scan n (overwrite buf s) = s := by
  have hs : ∀ c ∈ s, decide (c ≠ '\x00') = true := by
    intro c hc
    refine decide_eq_true fun e => ?_
    subst e
    exact h0 hc
  rw [scan, overwrite, List.take_append, List.take_of_length_le hn,
    List.takeWhile_append_of_pos hs]
  cases n - s.length with
  | zero => exact List.append_nil s
  | succ k => exact List.append_nil s

/-! ## 2. Numerals -/

/-- `%u` and `%d` of a non-negative number. -/
def decimal (n : Nat) : CText := Nat.toDigits 10 n

theorem decimal_ne_nil (n : Nat) : decimal n ≠ [] := Nat.toDigits_ne_nil

theorem isDigit_of_mem_decimal {n : Nat} {c : Char} (h : c ∈ decimal n) : c.isDigit = true :=
  Nat.isDigit_of_mem_toDigits (by omega) (by omega) h

theorem decimal_length_le {n k : Nat} (hk : 0 < k) (h : n < 10 ^ k) : (decimal n).length ≤ k :=
  (Nat.length_toDigits_le_iff (by omega) hk).mpr h

/-- A lower-case hexadecimal digit. -/
def isHexDigit (c : Char) : Bool := c.isDigit || ('a' ≤ c && c ≤ 'f')

/-- `%08x`: hexadecimal, padded on the left with zeros to eight places. -/
def hex08 (n : Nat) : CText :=
  List.replicate (8 - (Nat.toDigits 16 n).length) '0' ++ Nat.toDigits 16 n

theorem hex08_length {n : Nat} (h : n < 2 ^ 32) : (hex08 n).length = 8 := by
  have h8 : (Nat.toDigits 16 n).length ≤ 8 :=
    (Nat.length_toDigits_le_iff (by omega) (by omega)).mpr (by omega)
  rw [hex08, List.length_append, List.length_replicate]
  omega

theorem isHexDigit_digitChar {d : Nat} (h : d < 16) : isHexDigit d.digitChar = true := by
  revert d
  decide

theorem isHexDigit_of_mem_toDigits {n : Nat} {c : Char} (h : c ∈ Nat.toDigits 16 n) :
    isHexDigit c = true := by
  induction n using Nat.strongRecOn with
  | ind n ih =>
      rw [Nat.toDigits_eq_if (by omega)] at h
      split at h
      · rw [List.mem_singleton] at h
        subst h
        exact isHexDigit_digitChar (by assumption)
      · rcases List.mem_append.mp h with h | h
        · exact ih (n / 16) (by omega) h
        · rw [List.mem_singleton] at h
          subst h
          exact isHexDigit_digitChar (Nat.mod_lt n (by omega))

theorem isHexDigit_of_mem_hex08 {n : Nat} {c : Char} (h : c ∈ hex08 n) : isHexDigit c = true := by
  rcases List.mem_append.mp h with h | h
  · rw [List.eq_of_mem_replicate h]
    decide
  · exact isHexDigit_of_mem_toDigits h

/-- The value of a hexadecimal digit. -/
def hexVal (c : Char) : Nat :=
  if c.isDigit then c.toNat - '0'.toNat else c.toNat - 'a'.toNat + 10

theorem hexVal_digitChar {d : Nat} (h : d < 16) : hexVal d.digitChar = d := by
  revert d
  decide

/-- The value of a hexadecimal numeral. -/
def ofHex (s : CText) : Nat := s.foldl (fun n c => 16 * n + hexVal c) 0

theorem ofHex_concat (s : CText) (c : Char) : ofHex (s ++ [c]) = 16 * ofHex s + hexVal c := by
  rw [ofHex, List.foldl_append]
  rfl

theorem ofHex_zeros (k : Nat) (s : CText) : ofHex (List.replicate k '0' ++ s) = ofHex s := by
  induction k with
  | zero => rfl
  | succ k ih => exact ih

theorem ofHex_toDigits (n : Nat) : ofHex (Nat.toDigits 16 n) = n := by
  induction n using Nat.strongRecOn with
  | ind n ih =>
      rw [Nat.toDigits_eq_if (by omega)]
      by_cases h : n < 16
      · rw [if_pos h]
        exact (Nat.zero_add _).trans (hexVal_digitChar h)
      · rw [if_neg h, ofHex_concat, ih (n / 16) (by omega),
          hexVal_digitChar (Nat.mod_lt n (by omega))]
        exact Nat.div_add_mod n 16

/-- **Padded numerals of different numbers differ.** -/
theorem hex08_injective : Function.Injective hex08 := by
  intro a b h
  have hv := congrArg ofHex h
  rwa [hex08, hex08, ofHex_zeros, ofHex_zeros, ofHex_toDigits, ofHex_toDigits] at hv

/-! ## 3. Lower case -/

/-- ASCII lower case. -/
def lowerChar (c : Char) : Char :=
  if 'A' ≤ c ∧ c ≤ 'Z' then Char.ofNat (c.toNat - 'A'.toNat + 'a'.toNat) else c

def lower (s : CText) : CText := s.map lowerChar

theorem length_lower (s : CText) : (lower s).length = s.length := List.length_map lowerChar

theorem lower_append (s t : CText) : lower (s ++ t) = lower s ++ lower t := List.map_append

/-- An upper-case hexadecimal digit. -/
def upperHexDigit (d : Nat) : Char :=
  if d < 10 then Char.ofNat ('0'.toNat + d) else Char.ofNat ('A'.toNat + (d - 10))

/-- `%02X` of a byte. -/
def hex02 (b : UInt8) : CText := [upperHexDigit (b.toNat / 16), upperHexDigit (b.toNat % 16)]

/-- Lowered, an upper-case digit is the lower-case one. -/
theorem lowerChar_upperHexDigit {d : Nat} (h : d < 16) :
    lowerChar (upperHexDigit d) = d.digitChar := by
  revert d
  decide

theorem lower_hex02 (b : UInt8) :
    lower (hex02 b) = [(b.toNat / 16).digitChar, (b.toNat % 16).digitChar] := by
  have hb : b.toNat < 256 := b.toNat_lt
  simp only [lower, hex02, List.map_cons, List.map_nil]
  rw [lowerChar_upperHexDigit (by omega), lowerChar_upperHexDigit (Nat.mod_lt _ (by omega))]

/-- **The digits of different bytes differ** in lower case too. -/
theorem lower_hex02_injective : Function.Injective fun b => lower (hex02 b) := by
  intro a b h
  have ha : a.toNat < 256 := a.toNat_lt
  have hb : b.toNat < 256 := b.toNat_lt
  simp only [lower_hex02, List.cons.injEq, and_true] at h
  have hhigh := congrArg hexVal h.1
  have hlow := congrArg hexVal h.2
  rw [hexVal_digitChar (by omega), hexVal_digitChar (by omega)] at hhigh
  rw [hexVal_digitChar (by omega), hexVal_digitChar (by omega)] at hlow
  exact UInt8.toNat_inj.mp (by omega)

end CText
