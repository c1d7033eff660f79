/-
  File:      DragonBench/Lib/JsValue.lean
  Subject:   What JavaScript makes of a value that `JSON.parse` has returned.

  A missing member is `undefined`, here `none`. The values have no members but those of the text, so
  a conversion to a string fails for an object with a member `toString`, which is no function, and
  for every array that holds one.

  * `member` -- `v.name` of a value other than `null`;
  * `listed` -- the members of the objects as they are listed;
  * `truthy`, `orElse` -- `v ? … : …` and `v || s`;
  * `toText` -- `String(v)`; how a number is written is a parameter.
-/
import Mathlib.Data.List.Sort
import DragonBench.Lib.Json

namespace Js

/-- `v.name`: the last member of a name is the one `JSON.parse` keeps. -/
def member (name : CText) : Json → Option Json
  | .obj ms => Json.member name ms
  | _ => none

/-- The number a name is the decimal of, when it is an array index. -/
def arrayIndex? (name : CText) : Option Nat :=
  let n := name.foldl (fun n c => 10 * n + (c.toNat - '0'.toNat)) 0
  if name = CText.decimal n ∧ n < 2 ^ 32 - 1 then some n else none

/-- `o[name] = v`: a name that is there keeps its place. -/
def assign (ms : List (CText × Json)) (m : CText × Json) : List (CText × Json) :=
  if ms.any fun x => x.1 = m.1 then ms.map fun x => if x.1 = m.1 then m else x else ms ++ [m]

/-- Members of indices by their number, and behind them the others. -/
def inOrder (ms : List (CText × Json)) : List (CText × Json) :=
  (ms.filter fun m => (arrayIndex? m.1).isSome).insertionSort
      (fun m n => (arrayIndex? m.1).getD 0 ≤ (arrayIndex? n.1).getD 0) ++
    ms.filter fun m => (arrayIndex? m.1).isNone

mutual
/-- **What `JSON.parse` makes of a value**, its members as a script finds them one by one. -/
def listed : Json → Json
  | .null => .null
  | .bool b => .bool b
  | .num q => .num q
  | .str s => .str s
  | .arr xs => .arr (listedElems xs)
  | .obj ms => .obj (inOrder ((listedMembers ms).foldl assign []))

def listedElems : List Json → List Json
  | [] => []
  | x :: xs => listed x :: listedElems xs

def listedMembers : List (CText × Json) → List (CText × Json)
  | [] => []
  | (k, v) :: ms => (k, listed v) :: listedMembers ms
end

example : listed (.obj [("b".toList, .null), ("1".toList, .null), ("b".toList, .bool true)]) =
    .obj [("1".toList, .null), ("b".toList, .bool true)] := rfl

/-- The value counts as true. -/
def truthy : Option Json → Bool
  | none | some .null => false
  | some (.bool b) => b
  | some (.num q) => decide (q ≠ 0)
  | some (.str s) => decide (s ≠ [])
  | some (.arr _) | some (.obj _) => true

/-- `v || s`. -/
def orElse (v : Option Json) (s : CText) : Json := if truthy v then v.getD .null else .str s

/-- The value is `null`. -/
def isNull : Json → Bool
  | .null => true
  | _ => false

mutual
/-- **`String(v)`**; `none` is a `TypeError`. -/
def toText (num : ℚ → CText) : Json → Option CText
  | .null => some "null".toList
  | .bool true => some "true".toList
  | .bool false => some "false".toList
  | .num q => some (num q)
  | .str s => some s
  | .arr xs => joined num xs
  | .obj ms =>
    -- a member of this name is no function
    if (member "toString".toList (.obj ms)).isSome then none else some "[object Object]".toList

/-- The elements of an array with commas between them; `null` leaves nothing. -/
def joined (num : ℚ → CText) : List Json → Option CText
  | [] => some []
  | [x] => if isNull x then some [] else toText num x
  | x :: y :: xs =>
    (if isNull x then some [] else toText num x).bind fun s =>
      (joined num (y :: xs)).map fun t => s ++ ',' :: t
end

/-- `v || s` of a string. -/
theorem orElse_text (s t : CText) : orElse (some (.str s)) t = .str (if s = [] then t else s) := by
  cases s <;> rfl

end Js
