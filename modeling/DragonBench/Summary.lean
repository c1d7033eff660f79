/-
  File:      DragonBench/Summary.lean
  Subject:   EVERY RECORD ONCE: the tables of `tools/analyze_summary.py`, over every list of
             records.

  Two groupings of one list, by class and by boot field, and a filter within each group. A record
  has one class and falls under one boot field, `not_observed` when it has none.

  * `SummaryRecord` -- what of a record is read;
  * `bootFieldTable`, `phyByClassTable`, `phyByBootFieldTable`, `duplicateResetReport` -- the tables;
  * `CountsOnce` -- a table whose rows count each record once;
  * `CountedOnce` -- the four tables, and what is equal between them;
  * **`counted_once`** -- it is so for every list.
-/
import DragonBench.Lib.GroupBy
import DragonBench.Lib.Rounding
import Mathlib.Algebra.BigOperators.Ring.Finset
import Mathlib.Data.Char
import Mathlib.Data.List.Dedup
import Mathlib.Data.List.Lex
import Mathlib.Data.List.Sort

namespace DragonBench

open GroupBy Rounding

/-! ## 1. Records and tables -/

/-- A record as it is read: `get` of a name that is not there is `none`. -/
structure SummaryRecord where
  index : Option Int
  resetClass : CText
  romBootRaw : Option CText
  phyWarningPresent : Option Bool
  httpRecoveryS : Option ℚ
  duplicateResetCount : Option Nat
  panic : Option Bool
  wdt : Option Bool
  brownout : Option Bool
  downloadMode : Option Bool
  serialDisconnectDuringEvent : Option Bool
  deriving DecidableEq, Repr

/-- `r.get("rom_boot_raw")`, when it counts as true. -/
def SummaryRecord.bootField (r : SummaryRecord) : Option CText :=
  r.romBootRaw.filter fun raw => decide (raw ≠ [])

/-- `r.get("phy_warning_present")`. -/
def SummaryRecord.phyWarning (r : SummaryRecord) : Bool := r.phyWarningPresent.getD false

/-- `round(100 * part / whole, 1) if whole else None`. -/
def percent (part whole : Nat) : Option ℚ :=
  if whole = 0 then none else some (roundTo 1 (100 * part / whole))

/-- `by_class`. -/
def byClass (records : List SummaryRecord) : List (CText × List SummaryRecord) :=
  groupBy SummaryRecord.resetClass records

structure BootFieldRow where
  resetClass : CText
  intended : Nat
  observed : Nat
  count0xa : Nat
  count0x8 : Nat
  other : Int
  otherValues : List CText
  pct0xa : Option ℚ
  pct0x8 : Option ℚ
  deriving DecidableEq, Repr

/-- The boot field is `raw`. -/
def SummaryRecord.isField (raw : CText) (r : SummaryRecord) : Bool :=
  decide (r.bootField = some raw)

/-- A row of `boot_field_table`. -/
def bootFieldRow (cls : CText) (recs : List SummaryRecord) : BootFieldRow :=
  let observed := recs.filter fun r => r.bootField.isSome
  let a := observed.countP (SummaryRecord.isField "0xa".toList)
  let b := observed.countP (SummaryRecord.isField "0x8".toList)
  { resetClass := cls
    intended := recs.length
    observed := observed.length
    count0xa := a
    count0x8 := b
    other := observed.length - a - b
    otherValues :=
      ((observed.filterMap SummaryRecord.bootField).filter fun raw =>
        decide (raw ≠ "0xa".toList ∧ raw ≠ "0x8".toList)).dedup.insertionSort (· ≤ ·)
    pct0xa := percent a observed.length
    pct0x8 := percent b observed.length }

def bootFieldTable (grouped : List (CText × List SummaryRecord)) : List BootFieldRow :=
  grouped.map fun g => bootFieldRow g.1 g.2

structure PhyClassRow where
  resetClass : CText
  present : Nat
  absent : Int
  total : Nat
  pctPresent : Option ℚ
  deriving DecidableEq, Repr

/-- A row of `phy_by_class_table`. -/
def phyClassRow (cls : CText) (recs : List SummaryRecord) : PhyClassRow :=
  let present := recs.countP SummaryRecord.phyWarning
  ⟨cls, present, recs.length - present, recs.length, percent present recs.length⟩

def phyByClassTable (grouped : List (CText × List SummaryRecord)) : List PhyClassRow :=
  grouped.map fun g => phyClassRow g.1 g.2

structure PhyBootRow where
  bootField : CText
  total : Nat
  warningCount : Nat
  pctWarning : Option ℚ
  deriving DecidableEq, Repr

/-- `r.get("rom_boot_raw") or "not_observed"`. -/
def SummaryRecord.bootKey (r : SummaryRecord) : CText := r.bootField.getD "not_observed".toList

/-- A row of `phy_by_boot_field_table`. -/
def phyBootRow (field : CText) (recs : List SummaryRecord) : PhyBootRow :=
  let present := recs.countP SummaryRecord.phyWarning
  ⟨field, recs.length, present, percent present recs.length⟩

/-- `sorted(grouped.items())`: the keys differ, so the records are not compared. -/
def sortedGroups (grouped : List (CText × List SummaryRecord)) : List (CText × List SummaryRecord) :=
  grouped.insertionSort fun x y => x.1 ≤ y.1

def phyByBootFieldTable (records : List SummaryRecord) : List PhyBootRow :=
  (sortedGroups (groupBy SummaryRecord.bootKey records)).map fun g => phyBootRow g.1 g.2

structure DuplicateResetRow where
  resetClass : CText
  intendedEvents : Nat
  duplicateEvents : Nat
  totalObservedResets : Nat
  deriving DecidableEq, Repr

/-- A row of `duplicate_reset_report`. -/
def duplicateResetRow (cls : CText) (recs : List SummaryRecord) : DuplicateResetRow :=
  let dupTotal := (recs.map fun r => r.duplicateResetCount.getD 0).sum
  ⟨cls, recs.length, dupTotal, recs.length + dupTotal⟩

def duplicateResetReport (grouped : List (CText × List SummaryRecord)) : List DuplicateResetRow :=
  grouped.map fun g => duplicateResetRow g.1 g.2

/-! ## 2. Counted once -/

/-- **The rows of a table count each record once**: one row for each key, which counts the records
    with that key; and their total is the number of records. -/
structure CountsOnce {ρ : Type} (records : List SummaryRecord) (key : SummaryRecord → CText)
    (rows : List ρ) (rowKey : ρ → CText) (count : ρ → Nat) : Prop where
  distinct : (rows.map rowKey).Nodup
  found : ∀ r ∈ records, key r ∈ rows.map rowKey
  counted : ∀ row ∈ rows, count row = records.countP fun r => decide (key r = rowKey row)
  total : (rows.map count).sum = records.length

/-- The boot field is neither missing nor empty. -/
def Observed (r : SummaryRecord) : Prop := r.romBootRaw ≠ none ∧ r.romBootRaw ≠ some []

instance : DecidablePred Observed := fun _ => inferInstanceAs (Decidable (_ ∧ _))

/-- **Every record is counted once in every table**, and the tables agree. -/
structure CountedOnce (records : List SummaryRecord) : Prop where
  bootField : CountsOnce records SummaryRecord.resetClass (bootFieldTable (byClass records))
    BootFieldRow.resetClass BootFieldRow.intended
  phyByClass : CountsOnce records SummaryRecord.resetClass (phyByClassTable (byClass records))
    PhyClassRow.resetClass PhyClassRow.total
  duplicates : CountsOnce records SummaryRecord.resetClass (duplicateResetReport (byClass records))
    DuplicateResetRow.resetClass DuplicateResetRow.intendedEvents
  phyByBoot : CountsOnce records SummaryRecord.bootKey (phyByBootFieldTable records)
    PhyBootRow.bootField PhyBootRow.total
  warnings : ((phyByClassTable (byClass records)).map PhyClassRow.present).sum =
    ((phyByBootFieldTable records).map PhyBootRow.warningCount).sum
  /-- both are the records with a warning -/
  present : ((phyByClassTable (byClass records)).map PhyClassRow.present).sum =
    records.countP fun r => decide (r.phyWarningPresent = some true)
  /-- a row counts the records of its class with another field -/
  others : ∀ row ∈ bootFieldTable (byClass records), row.other =
    (records.countP fun r => decide (r.resetClass = row.resetClass ∧ Observed r ∧
      r.romBootRaw ≠ some "0xa".toList ∧ r.romBootRaw ≠ some "0x8".toList) : Nat)
  fields : ((bootFieldTable (byClass records)).map fun row =>
      (row.count0xa + row.count0x8 : Int) + row.other).sum =
    (records.countP fun r => decide (Observed r) : Nat)

section Tables

variable {records : List SummaryRecord} {key : SummaryRecord → CText} {ρ : Type}
  {row : CText → List SummaryRecord → ρ} {rowKey : ρ → CText} {count : ρ → Nat}

/-- **A table of the groups counts once** what its rows count of their groups. -/
theorem countsOnce_groups (hkey : ∀ k recs, rowKey (row k recs) = k)
    (hcount : ∀ k recs, count (row k recs) = recs.length) :
    CountsOnce records key ((groupBy key records).map fun g => row g.1 g.2) rowKey count := by
  have h := groups key records
  have hkeys : ((groupBy key records).map fun g => row g.1 g.2).map rowKey =
      (groupBy key records).map Prod.fst := by
    rw [List.map_map]
    exact List.map_congr_left fun g _ => hkey g.1 g.2
  refine ⟨?_, fun r hr => ?_, fun x hx => ?_, ?_⟩
  · rw [hkeys]
    exact h.nodup
  · rw [hkeys, h.keys]
    exact List.mem_map_of_mem hr
  · obtain ⟨g, hg, rfl⟩ := List.mem_map.mp hx
    rw [hcount, hkey, h.group g hg, List.countP_eq_length_filter]
  · rw [List.map_map, ← length_groups key records]
    exact congrArg List.sum (List.map_congr_left fun g _ => hcount g.1 g.2)

/-- Sorting the rows of a table leaves it a table that counts once. -/
theorem countsOnce_perm {rows rows' : List ρ} (hp : rows'.Perm rows)
    (h : CountsOnce records key rows rowKey count) : CountsOnce records key rows' rowKey count := by
  refine ⟨?_, fun r hr => ?_, fun x hx => ?_, ?_⟩
  · exact (hp.map rowKey).nodup_iff.mpr h.distinct
  · exact (hp.map rowKey).mem_iff.mpr (h.found r hr)
  · exact h.counted x (hp.mem_iff.mp hx)
  · rw [(hp.map count).sum_eq, h.total]

theorem phyByBoot_perm (records : List SummaryRecord) :
    (phyByBootFieldTable records).Perm
      ((groupBy SummaryRecord.bootKey records).map fun g => phyBootRow g.1 g.2) :=
  (List.perm_insertionSort _ _).map _

end Tables

/-! ## 3. Boot fields -/

section BootFields

variable {recs : List SummaryRecord} {r : SummaryRecord}

/-- What the tables read of a record are its fields. -/
theorem bootField_isSome (r : SummaryRecord) : r.bootField.isSome = decide (Observed r) := by
  obtain ⟨_, _, romBootRaw, _⟩ := r
  cases romBootRaw with
  | none => rfl
  | some raw => cases raw <;> rfl

theorem isField_eq {raw : CText} (hne : raw ≠ []) (r : SummaryRecord) :
    r.isField raw = decide (r.romBootRaw = some raw) := by
  unfold SummaryRecord.isField SummaryRecord.bootField
  refine decide_eq_decide.mpr ?_
  cases r.romBootRaw with
  | none => exact Iff.rfl
  | some x =>
      rw [Option.filter_some]
      cases x with
      | nil => exact iff_of_false (by simp) fun h => hne (Option.some.inj h).symm
      | cons c s => exact Iff.rfl

theorem phyWarning_eq (r : SummaryRecord) :
    r.phyWarning = decide (r.phyWarningPresent = some true) := by
  unfold SummaryRecord.phyWarning
  rcases r.phyWarningPresent with _ | _ | _ <;> rfl

theorem isField_isSome {raw : CText} (h : r.isField raw = true) : r.bootField.isSome = true := by
  rw [of_decide_eq_true h]
  rfl

theorem isField_differ (h : r.isField "0xa".toList = true) : r.isField "0x8".toList = false := by
  refine decide_eq_false fun e => ?_
  have h' := (of_decide_eq_true h).symm.trans e
  simp at h'

/-- The three counts of a class are those of the records with a boot field. -/
theorem observed_split (recs : List SummaryRecord) :
    (recs.filter fun r => r.bootField.isSome).length =
      recs.countP (SummaryRecord.isField "0xa".toList) +
        recs.countP (SummaryRecord.isField "0x8".toList) +
          recs.countP fun r => r.bootField.isSome && !r.isField "0xa".toList &&
            !r.isField "0x8".toList := by
  induction recs with
  | nil => rfl
  | cons r recs ih =>
      rw [← List.countP_eq_length_filter] at ih ⊢
      simp only [List.countP_cons, ih]
      by_cases ha : r.isField "0xa".toList = true
      · simp only [isField_isSome ha, ha, isField_differ ha]
        simp
        omega
      · by_cases hb : r.isField "0x8".toList = true
        · simp only [isField_isSome hb, hb, eq_false_of_ne_true ha]
          simp
          omega
        · simp only [eq_false_of_ne_true ha, eq_false_of_ne_true hb]
          simp
          omega

/-- Within the records with a boot field nothing else is counted. -/
theorem countP_observed {raw : CText} (recs : List SummaryRecord) :
    (recs.filter fun r => r.bootField.isSome).countP (SummaryRecord.isField raw) =
      recs.countP (SummaryRecord.isField raw) := by
  rw [List.countP_filter]
  refine List.countP_congr fun r _ => ?_
  rw [Bool.and_eq_true]
  exact ⟨fun h => h.1, fun h => ⟨h, isField_isSome h⟩⟩

/-- `other` is the number of records with another field. -/
theorem bootFieldRow_other (cls : CText) (recs : List SummaryRecord) :
    (bootFieldRow cls recs).other = (recs.countP fun r => r.bootField.isSome &&
      !r.isField "0xa".toList && !r.isField "0x8".toList : Nat) := by
  have hsplit := observed_split recs
  unfold bootFieldRow
  dsimp only
  rw [countP_observed, countP_observed]
  omega

end BootFields

/-- **Every record is counted once in every table**, whatever the records. -/
theorem counted_once (records : List SummaryRecord) : CountedOnce records := by
  have hpresent : ((phyByClassTable (byClass records)).map PhyClassRow.present).sum =
      records.countP SummaryRecord.phyWarning := by
    unfold phyByClassTable
    rw [List.map_map]
    exact countP_groups _ SummaryRecord.phyWarning records
  refine ⟨?_, ?_, ?_, ?_, ?_, ?_, ?_, ?_⟩
  · exact countsOnce_groups (fun _ _ => rfl) fun _ _ => rfl
  · exact countsOnce_groups (fun _ _ => rfl) fun _ _ => rfl
  · exact countsOnce_groups (fun _ _ => rfl) fun _ _ => rfl
  · exact countsOnce_perm (phyByBoot_perm records)
      (countsOnce_groups (fun _ _ => rfl) fun _ _ => rfl)
  · -- both sums are the warnings of the list
    rw [hpresent, ((phyByBoot_perm records).map PhyBootRow.warningCount).sum_eq, List.map_map]
    exact (countP_groups _ SummaryRecord.phyWarning records).symm
  · rw [hpresent]
    exact congrArg (records.countP ·) (funext phyWarning_eq)
  · intro row hrow
    obtain ⟨g, hg, rfl⟩ := List.mem_map.mp hrow
    have hgroup := (groups SummaryRecord.resetClass records).group g hg
    rw [bootFieldRow_other, hgroup, List.countP_filter]
    refine congrArg _ (List.countP_congr fun r _ => ?_)
    rw [bootField_isSome, isField_eq (by decide), isField_eq (by decide)]
    refine Iff.trans ?_ decide_eq_true_iff.symm
    simp only [Bool.and_eq_true, Bool.not_eq_true', decide_eq_true_eq, decide_eq_false_iff_not,
      bootFieldRow, ne_eq]
    tauto
  · have hrow : ∀ g : CText × List SummaryRecord,
        ((bootFieldRow g.1 g.2).count0xa + (bootFieldRow g.1 g.2).count0x8 : Int) +
          (bootFieldRow g.1 g.2).other = (g.2.countP fun r => r.bootField.isSome : Nat) := by
      intro g
      have hlen := @List.countP_eq_length_filter _ (fun r => r.bootField.isSome) g.2
      unfold bootFieldRow
      dsimp only
      omega
    have htable : ((bootFieldTable (byClass records)).map fun row =>
        (row.count0xa + row.count0x8 : Int) + row.other) =
        ((byClass records).map fun g => g.2.countP fun r => r.bootField.isSome).map Nat.cast := by
      unfold bootFieldTable
      rw [List.map_map, List.map_map]
      exact List.map_congr_left fun g _ => hrow g
    rw [htable, ← Nat.cast_list_sum, byClass, countP_groups]
    exact congrArg (fun p => ((records.countP p : Nat) : Int)) (funext bootField_isSome)

end DragonBench
