/-
  File:      DragonBench/Lib/Utf8.lean
  Subject:   UTF-8 on byte texts.

  A byte text is a list of characters with codes below 256, one per byte. `utf8` encodes a text
  of code points as a byte text and `decodeUtf8` is the strict decoder; both are Lean's own
  encoder and decoder behind the byte representation.

  * `decodeUtf8_utf8` -- decoding inverts encoding;
  * `decodeUtf8_eq_some` -- and it reads nothing else;
  * `utf8Bytes_ascii`, `utf8Bytes_high` -- an ASCII character is its own byte, and the bytes of
    any other character are 128 or more.
-/
import DragonBench.Lib.Text

/-- A byte as a character of a C string. -/
def charOfByte (b : UInt8) : Char := Char.ofNat b.toNat

/-- The byte a character of a C string stands for. -/
def byteOfChar (c : Char) : UInt8 := UInt8.ofNat c.toNat

theorem toNat_charOfByte (b : UInt8) : (charOfByte b).toNat = b.toNat := by
  have hv : b.toNat.isValidChar := Or.inl (by have := b.toNat_lt; omega)
  rw [charOfByte, Char.ofNat, dif_pos hv]
  rfl

theorem byteOfChar_charOfByte (b : UInt8) : byteOfChar (charOfByte b) = b := by
  rw [byteOfChar, toNat_charOfByte, UInt8.ofNat_toNat]

/-- The UTF-8 bytes of a code point. -/
def utf8Bytes (c : Char) : CText := (String.utf8EncodeChar c).map charOfByte

/-- The UTF-8 encoding of a text. -/
def utf8 (s : CText) : CText := s.flatMap utf8Bytes

/-- Every character is a byte. -/
def isBytes (s : CText) : Bool := s.all fun c => decide (c.toNat < 256)

/-- The strict UTF-8 decoder: `none` on an ill-formed byte sequence. -/
def decodeUtf8 (s : CText) : Option CText :=
  if isBytes s then (s.map byteOfChar).toByteArray.utf8Decode?.map Array.toList else none

theorem isBytes_utf8 (s : CText) : isBytes (utf8 s) = true := by
  refine List.all_eq_true.mpr fun c hc => decide_eq_true ?_
  obtain ⟨x, -, hc⟩ := List.mem_flatMap.mp hc
  obtain ⟨b, -, rfl⟩ := List.mem_map.mp hc
  rw [toNat_charOfByte]
  exact b.toNat_lt

/-- **Decoding inverts encoding.** -/
theorem decodeUtf8_utf8 (s : CText) : decodeUtf8 (utf8 s) = some s := by
  have hb : (utf8 s).map byteOfChar = s.flatMap String.utf8EncodeChar := by
    simp only [utf8, utf8Bytes, List.map_flatMap, List.map_map]
    congr 1
    funext c
    have hid : byteOfChar ∘ charOfByte = id := funext byteOfChar_charOfByte
    rw [hid, List.map_id]
  have he : (s.flatMap String.utf8EncodeChar).toByteArray = s.utf8Encode := rfl
  rw [decodeUtf8, if_pos (isBytes_utf8 s), hb, he, List.utf8Decode?_utf8Encode]
  rfl

theorem charOfByte_byteOfChar {c : Char} (h : c.toNat < 256) : charOfByte (byteOfChar c) = c := by
  rw [charOfByte, byteOfChar, UInt8.toNat_ofNat', Nat.mod_eq_of_lt h, Char.ofNat_toNat]

/-- **It reads what was encoded and nothing else.** -/
theorem decodeUtf8_eq_some {s t : CText} : decodeUtf8 s = some t ↔ s = utf8 t := by
  constructor
  · intro h
    unfold decodeUtf8 at h
    split_ifs at h with hbytes
    obtain ⟨a, ha, rfl⟩ := Option.map_eq_some_iff.mp h
    have hsome : (s.map byteOfChar).toByteArray.utf8Decode?.isSome = true := by rw [ha]; rfl
    have hencode : a.toList.utf8Encode = (s.map byteOfChar).toByteArray := by
      have := @ByteArray.utf8Encode_get_utf8Decode? _ hsome
      simpa only [ha, Option.get_some] using this
    have hlist : a.toList.flatMap String.utf8EncodeChar = s.map byteOfChar := by
      have h := congrArg (fun b : ByteArray => b.data.toList) hencode
      simpa only [List.utf8Encode, List.toList_data_toByteArray] using h
    calc s = (s.map byteOfChar).map charOfByte := by
          have hid : ∀ c ∈ s, (charOfByte ∘ byteOfChar) c = id c := fun c hc =>
            charOfByte_byteOfChar (of_decide_eq_true (List.all_eq_true.mp hbytes c hc))
          rw [List.map_map, List.map_congr_left hid, List.map_id]
      _ = utf8 a.toList := by
          rw [← hlist, List.map_flatMap]
          rfl
  · rintro rfl
    exact decodeUtf8_utf8 t

theorem utf8Bytes_length (c : Char) : (utf8Bytes c).length ≤ 4 := by
  rw [utf8Bytes, List.length_map, String.length_utf8EncodeChar]
  exact c.utf8Size_le_four

/-- An ASCII character is its own byte. -/
theorem utf8Bytes_ascii {c : Char} (h : c.toNat < 128) : utf8Bytes c = [c] := by
  have hle : c.val.toNat ≤ 0x7f := by
    have : c.val.toNat = c.toNat := rfl
    omega
  have hb : (UInt8.ofNat c.val.toNat).toNat = c.toNat := by
    rw [UInt8.toNat_ofNat']
    exact Nat.mod_eq_of_lt (by omega)
  simp only [utf8Bytes, String.utf8EncodeChar, if_pos hle, List.map_cons, List.map_nil,
    charOfByte, hb, Char.ofNat_toNat]

/-- The bytes of every other character are 128 or more. -/
theorem utf8Bytes_high {c : Char} (h : 128 ≤ c.toNat) : ∀ b ∈ utf8Bytes c, 128 ≤ b.toNat := by
  have hgt : ¬ c.val.toNat ≤ 0x7f := by
    have : c.val.toNat = c.toNat := rfl
    omega
  intro b hb
  obtain ⟨x, hx, rfl⟩ := List.mem_map.mp hb
  rw [toNat_charOfByte]
  simp only [String.utf8EncodeChar, if_neg hgt] at hx
  split_ifs at hx <;> simp only [List.mem_cons, List.not_mem_nil, or_false] at hx <;>
    rcases hx with rfl | rfl | rfl | rfl <;> rw [UInt8.toNat_ofNat'] <;> omega

theorem utf8_append (s t : CText) : utf8 (s ++ t) = utf8 s ++ utf8 t := List.flatMap_append

theorem utf8_cons (c : Char) (s : CText) : utf8 (c :: s) = utf8Bytes c ++ utf8 s := rfl

/-- An ASCII text is its own encoding. -/
theorem utf8_ascii {s : CText} (h : ∀ c ∈ s, c.toNat < 128) : utf8 s = s := by
  induction s with
  | nil => rfl
  | cons c s ih =>
      rw [utf8_cons, utf8Bytes_ascii (h c List.mem_cons_self),
        ih fun x hx => h x (List.mem_cons_of_mem c hx)]
      rfl
