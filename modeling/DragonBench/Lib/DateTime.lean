/-
  File:      DragonBench/Lib/DateTime.lean
  Subject:   Timestamps: a UTC date and time, and its ISO 8601 text with milliseconds.

  * `DateTime` -- the fields of a `datetime` in UTC, in their ranges;
  * `isoformat` -- `isoformat(timespec="milliseconds")`, `isoformat_chars` -- what it is made of;
  * `IsoReader` -- a reader of timestamps that inverts it, as `datetime.fromisoformat` does;
  * `utcReader` -- one that reads nothing else.
-/
import DragonBench.Lib.Text

namespace DateTime

/-! ## 1. Dates and times -/

/-- The fields of a `datetime`. -/
structure Fields where
  year : Nat
  month : Nat
  day : Nat
  hour : Nat
  minute : Nat
  second : Nat
  microsecond : Nat
  deriving DecidableEq, Repr

def isLeap (year : Nat) : Bool := year % 4 = 0 && (year % 100 ≠ 0 || year % 400 = 0)

def daysInMonth (year month : Nat) : Nat :=
  if month = 2 then if isLeap year then 29 else 28
  else if month = 4 ∨ month = 6 ∨ month = 9 ∨ month = 11 then 30 else 31

/-- The fields are in their ranges. -/
structure Fields.Valid (f : Fields) : Prop where
  year : 1 ≤ f.year ∧ f.year ≤ 9999
  month : 1 ≤ f.month ∧ f.month ≤ 12
  day : 1 ≤ f.day ∧ f.day ≤ daysInMonth f.year f.month
  hour : f.hour < 24
  minute : f.minute < 60
  second : f.second < 60
  microsecond : f.microsecond < 1000000

instance (f : Fields) : Decidable f.Valid :=
  decidable_of_iff ((1 ≤ f.year ∧ f.year ≤ 9999) ∧ (1 ≤ f.month ∧ f.month ≤ 12) ∧
      (1 ≤ f.day ∧ f.day ≤ daysInMonth f.year f.month) ∧ f.hour < 24 ∧ f.minute < 60 ∧
      f.second < 60 ∧ f.microsecond < 1000000)
    ⟨fun ⟨hy, hm, hd, hh, hi, hs, hu⟩ => ⟨hy, hm, hd, hh, hi, hs, hu⟩,
      fun ⟨hy, hm, hd, hh, hi, hs, hu⟩ => ⟨hy, hm, hd, hh, hi, hs, hu⟩⟩

/-- A date and time in UTC. -/
structure Utc extends Fields where
  valid : toFields.Valid
  deriving DecidableEq

/-- The days in front of a year, of a month. -/
def daysBeforeYear (year : Nat) : Nat :=
  365 * (year - 1) + (year - 1) / 4 - (year - 1) / 100 + (year - 1) / 400

def daysBeforeMonth (year month : Nat) : Nat :=
  ((List.range (month - 1)).map fun m => daysInMonth year (m + 1)).sum

/-- The microseconds since the beginning of the calendar. -/
def Fields.micros (f : Fields) : Nat :=
  let days := daysBeforeYear f.year + daysBeforeMonth f.year f.month + f.day
  (((days * 24 + f.hour) * 60 + f.minute) * 60 + f.second) * 1000000 + f.microsecond

/-- To the millisecond. -/
def Fields.toMillis (f : Fields) : Fields := { f with microsecond := f.microsecond / 1000 * 1000 }

theorem Fields.Valid.toMillis {f : Fields} (h : f.Valid) : f.toMillis.Valid :=
  ⟨h.year, h.month, h.day, h.hour, h.minute, h.second,
    Nat.lt_of_le_of_lt (Nat.div_mul_le_self _ _) h.microsecond⟩

/-! ## 2. Numerals of a fixed width -/

def digits : Nat → Nat → CText
  | 0, _ => []
  | width + 1, n => digits width (n / 10) ++ [Nat.digitChar (n % 10)]

def value (s : CText) : Nat := s.foldl (fun n c => 10 * n + (c.toNat - '0'.toNat)) 0

theorem value_concat (s : CText) (c : Char) :
    value (s ++ [c]) = 10 * value s + (c.toNat - '0'.toNat) := by
  rw [value, List.foldl_append]
  rfl

theorem digitChar_value {d : Nat} (h : d < 10) : (Nat.digitChar d).toNat - '0'.toNat = d := by
  revert d
  decide

theorem value_digits {width n : Nat} (h : n < 10 ^ width) : value (digits width n) = n := by
  induction width generalizing n with
  | zero =>
      have hn : n = 0 := by omega
      rw [hn]
      rfl
  | succ width ih =>
      have hdiv : n / 10 < 10 ^ width := by
        rw [Nat.div_lt_iff_lt_mul (by omega), ← Nat.pow_succ]
        exact h
      rw [digits, value_concat, ih hdiv, digitChar_value (Nat.mod_lt n (by omega))]
      exact Nat.div_add_mod n 10

theorem isDigit_digits {width n : Nat} {c : Char} (h : c ∈ digits width n) :
    c.isDigit = true := by
  have hdigit : ∀ d < 10, (Nat.digitChar d).isDigit = true := by decide
  induction width generalizing n with
  | zero => cases h
  | succ width ih =>
      rcases List.mem_append.mp h with h | h
      · exact ih h
      · rw [List.mem_singleton.mp h]
        exact hdigit _ (Nat.mod_lt n (by omega))

theorem digits_length (width n : Nat) : (digits width n).length = width := by
  induction width generalizing n with
  | zero => rfl
  | succ width ih => rw [digits, List.length_append, ih, List.length_singleton]

/-- The numeral of `width` digits in front of a text, and what stands behind it and a separator. -/
def field (width : Nat) (s : CText) : Nat := value (s.take width)

theorem field_digits {width n : Nat} (h : n < 10 ^ width) (s : CText) :
    field width (digits width n ++ s) = n := by
  rw [field, List.take_left' (digits_length width n), value_digits h]

theorem drop_digits (width n : Nat) (c : Char) (s : CText) :
    (digits width n ++ c :: s).drop (width + 1) = s := by
  rw [← List.drop_drop, List.drop_left' (digits_length width n)]
  rfl

/-! ## 3. The text -/

/-- `isoformat(timespec="milliseconds")`. -/
def isoformat (f : Fields) : CText :=
  digits 4 f.year ++ '-' :: (digits 2 f.month ++ '-' :: (digits 2 f.day ++ 'T' ::
    (digits 2 f.hour ++ ':' :: (digits 2 f.minute ++ ':' :: (digits 2 f.second ++ '.' ::
      (digits 3 (f.microsecond / 1000) ++ "+00:00".toList))))))

theorem isoformat_chars {f : Fields} {c : Char} (h : c ∈ isoformat f) :
    c.isDigit = true ∨ c ∈ "-T:.+".toList := by
  have hpart : ∀ {width n : Nat} {x : Char} {s : CText}, x ∈ "-T:.+".toList →
      (c ∈ s → c.isDigit = true ∨ c ∈ "-T:.+".toList) → c ∈ digits width n ++ x :: s →
        c.isDigit = true ∨ c ∈ "-T:.+".toList := by
    intro width n x s hx hs hc
    rcases List.mem_append.mp hc with hc | hc
    · exact Or.inl (isDigit_digits hc)
    · rcases List.mem_cons.mp hc with rfl | hc
      · exact Or.inr hx
      · exact hs hc
  have hzone : ∀ x ∈ "+00:00".toList, x.isDigit = true ∨ x ∈ "-T:.+".toList := by simp
  refine hpart (by decide) (hpart (by decide) (hpart (by decide) (hpart (by decide)
    (hpart (by decide) (hpart (by decide) fun hc => ?_))))) h
  rcases List.mem_append.mp hc with hc | hc
  · exact Or.inl (isDigit_digits hc)
  · exact hzone c hc

/-! ## 4. Readers -/

/-- What a timestamp is read as: an instant, or a time of no time zone. -/
inductive IsoTime where
  | aware (micros : Int)
  | naive
  deriving DecidableEq, Repr

/-- A reader of ISO 8601 that inverts `isoformat`. -/
structure IsoReader where
  fromisoformat : CText → Option IsoTime
  inverse : ∀ t : Utc, fromisoformat (isoformat t.toFields) = some (.aware t.toMillis.micros)

/-- The fields of a text of that form. -/
def readFields (s : CText) : Fields where
  year := field 4 s
  month := field 2 (s.drop 5)
  day := field 2 ((s.drop 5).drop 3)
  hour := field 2 (((s.drop 5).drop 3).drop 3)
  minute := field 2 ((((s.drop 5).drop 3).drop 3).drop 3)
  second := field 2 (((((s.drop 5).drop 3).drop 3).drop 3).drop 3)
  microsecond := field 3 ((((((s.drop 5).drop 3).drop 3).drop 3).drop 3).drop 3) * 1000

/-- **The fields come back**, to the millisecond. -/
theorem readFields_isoformat {f : Fields} (h : f.Valid) :
    readFields (isoformat f) = f.toMillis := by
  obtain ⟨⟨-, hy⟩, ⟨-, hm⟩, ⟨-, hd⟩, hh, hi, hs, hu⟩ := h
  have hday : f.day < 10 ^ 2 := by
    unfold daysInMonth at hd
    split at hd
    · split at hd <;> omega
    · split at hd <;> omega
  unfold readFields isoformat
  rw [drop_digits, drop_digits, drop_digits, drop_digits, drop_digits, drop_digits,
    field_digits (by omega), field_digits (by omega), field_digits hday, field_digits (by omega),
    field_digits (by omega), field_digits (by omega), field_digits (by omega)]
  rfl

theorem isoformat_toMillis (f : Fields) : isoformat f.toMillis = isoformat f := by
  have hms : f.microsecond / 1000 * 1000 / 1000 = f.microsecond / 1000 :=
    Nat.mul_div_cancel _ (by omega)
  unfold isoformat Fields.toMillis
  dsimp only
  rw [hms]

/-- It reads what `isoformat` writes. -/
def utcFromIsoformat (s : CText) : Option IsoTime :=
  if (readFields s).Valid ∧ isoformat (readFields s) = s then
    some (.aware (readFields s).micros)
  else none

def utcReader : IsoReader where
  fromisoformat := utcFromIsoformat
  inverse t := by
    have hf := readFields_isoformat t.valid
    unfold utcFromIsoformat
    rw [hf, if_pos ⟨t.valid.toMillis, isoformat_toMillis _⟩]

end DateTime
