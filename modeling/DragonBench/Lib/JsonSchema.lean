/-
  File:      DragonBench/Lib/JsonSchema.lean
  Subject:   JSON values that meet a schema.

  The part of JSON Schema that describes records: constants, enumerations of strings, the types
  `string` and `integer` with a lower bound, and objects with required and described members. A
  member of an object that is not described is free, and every member of a described name counts,
  so that it does not matter which of two equal names a reader keeps.

  * `Schema`, `Schema.Valid` -- schemas and the values that meet them;
  * `Describes` -- what the descriptions ask of one member;
  * **`valid_object`** -- an object, checked member by member;
  * `describes_of_mem` -- a member whose name is described once.
-/
import Mathlib.Data.List.Nodup
import DragonBench.Lib.Json

namespace Json

/-- A schema. -/
inductive Schema where
  /-- `const` -/
  | const (v : Json)
  /-- `enum` of strings -/
  | enum (texts : List CText)
  /-- `type` string -/
  | string
  /-- `type` integer with a `minimum` -/
  | integer (minimum : Int)
  /-- `type` object with `required` and `properties` -/
  | object (required : List CText) (properties : List (CText × Schema))

/-- **A value meets a schema.** -/
inductive Schema.Valid : Schema → Json → Prop where
  | const (v : Json) : Valid (.const v) v
  | enum {texts : List CText} {s : CText} (h : s ∈ texts) : Valid (.enum texts) (.str s)
  | string (s : CText) : Valid .string (.str s)
  | integer {minimum n : Int} (h : minimum ≤ n) : Valid (.integer minimum) (.num n)
  | object {required : List CText} {properties : List (CText × Schema)} {ms : List (CText × Json)}
      (hrequired : ∀ k ∈ required, k ∈ ms.map Prod.fst)
      (hproperties : ∀ k s, (k, s) ∈ properties → ∀ x, (k, x) ∈ ms → s.Valid x) :
      Valid (.object required properties) (.obj ms)

/-- What the descriptions ask of one member. -/
def Describes (properties : List (CText × Schema)) (m : CText × Json) : Prop :=
  ∀ s, (m.1, s) ∈ properties → s.Valid m.2

variable {required : List CText} {properties : List (CText × Schema)} {ms : List (CText × Json)}

/-- **An object, checked member by member.** -/
theorem valid_object (hrequired : ∀ k ∈ required, k ∈ ms.map Prod.fst)
    (h : ∀ m ∈ ms, Describes properties m) : (Schema.object required properties).Valid (.obj ms) :=
  .object hrequired fun _ s hs _ hx => h _ hx s hs

/-- An object without any demand. -/
theorem valid_anyObject (ms : List (CText × Json)) : (Schema.object [] []).Valid (.obj ms) :=
  valid_object nofun fun _ _ _ hs => absurd hs List.not_mem_nil

/-- A member whose name is described once. -/
theorem describes_of_mem (hnodup : (properties.map Prod.fst).Nodup) {k : CText} {x : Json}
    {s : Schema} (hs : (k, s) ∈ properties) (hx : s.Valid x) : Describes properties (k, x) := by
  intro s' hs'
  have hpair : ∀ p ∈ properties, ∀ q ∈ properties, p.1 = q.1 → p = q := fun p hp q hq =>
    List.inj_on_of_nodup_map hnodup hp hq
  cases hpair _ hs _ hs' rfl
  exact hx

end Json
