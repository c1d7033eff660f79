/-
  File:      DragonBench/CJson.lean
  Subject:   The JSON library of the firmware, byte by byte.

  cJSON is not part of the repository. `cJSON_Parse` is a parameter of the model, a function from
  texts to trees; what the firmware relies on is said by conditions on it, each theorem taking
  those it needs. `cJSON_PrintUnformatted` writes compact JSON, here `Json.print` on bytes; how a
  number is written is a parameter. A number node carries the rational its text denotes; that
  cJSON keeps a double is part of how it writes the number back. The strings of a tree are C
  strings: `cstr` and `cTree` cut them at a NUL, which only a `\u0000` escape can put there.

  * `jsonText` -- the grammar of JSON over bytes;
  * `ReadsJson`, `ReadsObjects` -- a parser reads flat objects, a text that begins an object as an
    object or not at all;
  * `IsJsonParser` -- a parser that reads one value of the grammar and ignores what follows it.
-/
import Mathlib.Data.List.TakeWhile
import DragonBench.Lib.JsonSplice
import DragonBench.Lib.Utf8

namespace DragonBench

/-! ## 1. Reading -/

/-- JSON over bytes: a `\u` escape becomes UTF-8, and raw control characters inside strings are
    taken when `rawControl` says so. -/
def jsonText (rawControl : Bool) : Json.Dialect where
  space c := c = ' ' || c = '\t' || c = '\n' || c = '\r'
  literal c := rawControl || decide (32 ≤ c.toNat)
  encode n := utf8Bytes (Char.ofNat n)
  space_le := Json.whitespace_le
  literal_of_le c h := by rw [decide_eq_true h, Bool.or_true]
  encode_ascii n h := by
    have hv : n.isValidChar := Or.inl (by omega)
    have hn : (Char.ofNat n).toNat = n := by
      rw [Char.ofNat, dif_pos hv]
      rfl
    exact utf8Bytes_ascii (by rw [hn]; exact h)
  encode_length n := utf8Bytes_length _

/-- **A reader of JSON**: a text that starts with an object of strings, numbers, truth values and
    nulls is read as that object, whatever follows it. -/
def ReadsJson (parse : CText → Option Json) : Prop :=
  ∀ s v, (jsonText false).parse s = some v → v.isFlat = true → parse s = some v

/-- What starts like an object is read as an object, or not at all. -/
def ReadsObjects (parse : CText → Option Json) : Prop :=
  ∀ s v, s.head? = some '{' → parse s = some v → ∃ ms, v = .obj ms

/-- **A JSON parser that reads one value and ignores what follows it**; `rawControl` says whether it
    takes raw control characters inside strings. -/
def IsJsonParser (rawControl : Bool) (parse : CText → Option Json) : Prop :=
  parse = (jsonText rawControl).parse

/-- The grammar itself is such a reader. -/
theorem readsJson_jsonText : ReadsJson (jsonText false).parse := fun _ _ h _ => h

/-! ## 2. Strings, members and numbers -/

/-- What a C program sees of a string: the part up to the first NUL. -/
def cstr (s : CText) : CText := s.takeWhile fun c => decide (c ≠ '\x00')

/-- What a cut string was. -/
theorem cstr_eq {s v : CText} (h : cstr v = s) : v = s ∨ ∃ p, v = s ++ '\x00' :: p := by
  have hv := List.takeWhile_append_dropWhile (p := fun c => decide (c ≠ '\x00')) (l := v)
  rw [show v.takeWhile (fun c => decide (c ≠ '\x00')) = s from h] at hv
  cases hd : v.dropWhile fun c => decide (c ≠ '\x00') with
  | nil =>
      rw [hd, List.append_nil] at hv
      exact Or.inl hv.symm
  | cons c p =>
      have hc := List.head_dropWhile_not (fun c => decide (c ≠ '\x00')) (l := v)
        (by rw [hd]; exact List.cons_ne_nil _ _)
      simp only [hd, List.head_cons, decide_eq_false_iff_not, not_not] at hc
      rw [hd, hc] at hv
      exact Or.inr ⟨p, hv.symm⟩

/-- A string without NUL is seen whole. -/
theorem cstr_of_not_mem {s : CText} (h : '\x00' ∉ s) : cstr s = s := by
  rw [cstr, List.takeWhile_eq_self_iff]
  intro c hc
  refine decide_eq_true fun e => ?_
  subst e
  exact h hc

theorem not_mem_cstr (s : CText) : '\x00' ∉ cstr s := by
  intro h
  have hne := List.mem_takeWhile_imp (p := fun c => decide (c ≠ '\x00')) h
  exact absurd rfl (of_decide_eq_true hne)

/-- A parsed tree as cJSON prints it again: every string up to its first NUL. -/
def cTree (v : Json) : Json := v.mapStr cstr

/-- `cJSON_GetObjectItemCaseSensitive`: the first member of that name. -/
def getObjectItem (name : CText) : Json → Option Json
  | .obj ms => (ms.find? fun m => decide (cstr m.1 = name)).map Prod.snd
  | _ => none

/-- Members of other names are passed over. -/
theorem getObjectItem_append {name : CText} {ms : List (CText × Json)}
    (h : name ∉ ms.map fun m => cstr m.1) (ms' : List (CText × Json)) :
    getObjectItem name (.obj (ms ++ ms')) = getObjectItem name (.obj ms') := by
  have hnone : (ms.find? fun m => decide (cstr m.1 = name)) = none := by
    refine List.find?_eq_none.mpr fun m hm hd => h ?_
    rw [← of_decide_eq_true hd]
    exact List.mem_map_of_mem hm
  rw [getObjectItem, List.find?_append, hnone, Option.none_or, getObjectItem]

/-- `cJSON_IsString` and the `valuestring` of a node. -/
def valuestring : Json → Option CText
  | .str s => some (cstr s)
  | _ => none

/-- A `valuestring` is a C string. -/
theorem valuestring_no_nul {v : Json} {s : CText} (h : valuestring v = some s) : '\x00' ∉ s := by
  cases v with
  | str t =>
      cases h
      exact not_mem_cstr t
  | null | bool | num | arr | obj => cases h

/-- `cJSON_IsNumber` and the `valuedouble` of a node. -/
def valuedouble : Json → Option ℚ
  | .num q => some q
  | _ => none

/-- The `valueint` of a number node: truncated towards zero, held inside `int`. -/
def valueint (q : ℚ) : Int :=
  if q ≥ 2147483647 then 2147483647
  else if q ≤ -2147483648 then -2147483648
  else if 0 ≤ q then ⌊q⌋ else ⌈q⌉

end DragonBench
