/-
  File:      DragonBench/RequestIds.lean
  Subject:   WHICH REQUEST ID IS NEWER, on the device and in the setup page.

  The ids of the submissions go round in 32 bits and leave zero out; the device and the page tell
  the newer of two by the distance between them. The device subtracts in `uint32_t`, the page in
  doubles with an unsigned shift behind.

  * `jsSub`, `jsToUint32`, `requestIdNewer` -- the page's comparison;
  * `dbRequestIdIsNewer_iff` -- both are the comparison of serial numbers;
  * **`request_ids_newer`** -- less than 2^31 - 1 submissions on, the id is newer and never zero,
    and the page agrees with the device.
-/
import DragonBench.Lib.SerialNumber
import DragonBench.Event
import DragonBench.Network

namespace DragonBench

open SerialNumber

/-! ## 1. The device -/

theorem dbRequestIdNext_eq : dbRequestIdNext = next (2 ^ 32) := rfl

/-- The device compares as serial numbers are compared. -/
theorem dbRequestIdIsNewer_iff (candidate reference : Nat) :
    dbRequestIdIsNewer candidate reference = true ↔ Newer (2 ^ 32) candidate reference := by
  unfold dbRequestIdIsNewer Newer distance
  simp only [Bool.and_eq_true, decide_eq_true_eq]
  omega

/-! ## 2. The page -/

/-- `a - b` on doubles that hold integers. -/
def jsSub (a b : Int) : Int := (a - b).sign * (asDouble (a - b).natAbs : Int)

/-- `>>> 0`, on an integer: the remainder modulo 2^32. -/
def jsToUint32 (a : Int) : Nat := (a % 2 ^ 32).toNat

/-- `requestIdNewer`; `none` is a value that is no number, whose difference is NaN and goes to 0. -/
def requestIdNewer (candidate reference : Option Int) : Bool :=
  let distance := match candidate, reference with
    | some candidate, some reference => jsToUint32 (jsSub candidate reference)
    | _, _ => 0
  decide (distance ≠ 0) && decide (distance < 0x80000000)

/-- The difference of two ids is exact. -/
theorem jsSub_of_lt {a b : Nat} (ha : a < 2 ^ 32) (hb : b < 2 ^ 32) :
    jsSub a b = (a : Int) - b := by
  unfold jsSub
  rw [asDouble_of_le (by omega), Int.sign_mul_natAbs]

/-- Shifted, it is the difference in 32 bits. -/
theorem toUint32_sub {a b : Nat} (hb : b < 2 ^ 32) :
    jsToUint32 ((a : Int) - b) = (a + 2 ^ 32 - b) % 2 ^ 32 := by
  unfold jsToUint32
  omega

/-- **The page agrees with the device.** -/
theorem requestIdNewer_eq {a b : Nat} (ha : a < 2 ^ 32) (hb : b < 2 ^ 32) :
    requestIdNewer (some a) (some b) = dbRequestIdIsNewer a b := by
  unfold requestIdNewer dbRequestIdIsNewer
  simp only [jsSub_of_lt ha hb, toUint32_sub hb]

/-! ## 3. Both -/

/-- **Later ids are newer.** Up to 2^31 - 2 submissions on, an id is not zero, is newer than the
    one it started from and not the other way round; and the page compares as the device does. -/
theorem request_ids_newer :
    (∀ r < 2 ^ 32, ∀ k, 1 ≤ k → k ≤ 2 ^ 31 - 2 →
      dbRequestIdNext^[k] r ≠ 0 ∧ dbRequestIdIsNewer (dbRequestIdNext^[k] r) r = true ∧
        dbRequestIdIsNewer r (dbRequestIdNext^[k] r) = false) ∧
    ∀ a b : Nat, a < 2 ^ 32 → b < 2 ^ 32 →
      requestIdNewer (some (a : Int)) (some (b : Int)) = dbRequestIdIsNewer a b := by
  constructor
  · intro r hr k hk hk'
    rw [dbRequestIdNext_eq]
    obtain ⟨hne, hnewer, holder⟩ := newer_iterate hr hk (by omega)
    refine ⟨hne, (dbRequestIdIsNewer_iff _ _).mpr hnewer, ?_⟩
    rw [← Bool.not_eq_true, dbRequestIdIsNewer_iff]
    exact holder
  · intro a b ha hb
    exact requestIdNewer_eq ha hb

/-- Past the last id. -/
theorem request_ids_newer_wrap :
    dbRequestIdNext^[3] 4294967294 = 2 ∧
      dbRequestIdIsNewer (dbRequestIdNext^[3] 4294967294) 4294967294 = true ∧
      requestIdNewer (some 2) (some 4294967294) = dbRequestIdIsNewer 2 4294967294 :=
  ⟨by simp [dbRequestIdNext],
    (request_ids_newer.1 4294967294 (by omega) 3 (by omega) (by omega)).2.1,
    request_ids_newer.2 2 4294967294 (by omega) (by omega)⟩

end DragonBench
