/-
  File:      DragonBench/Anomalies.lean
  Subject:   WHICH EVENTS ARE REPORTED: `anomaly_report` (`tools/analyze_summary.py`) on the records
             of `run_event` (`tools/reset_characterization.py`) and of `main` of
             `tools/phase2_extract.py`.

  `run_event` prints nine conditions of a record as anomalies. The report reads eight of them in
  the record, and the other program fills in seven of these.

  * `TriggeredEvent.record`, `ExtractedEvent.record` -- the two writers of records;
  * `eventFlags` -- what `run_event` prints;
  * `reportFlags`, `anomalyReport` -- what is reported;
  * `ResetEvent.shows` -- the nine conditions, of what was captured;
  * `ResetEvent.unreported` -- the conditions that do not come through;
  * `report_lost` -- a record without a reset line, and a lost port;
  * **`anomaly_listed_iff`** -- an event is listed when it shows any other condition.
-/
import DragonBench.Capture
import DragonBench.Extract
import DragonBench.PollFailures
import DragonBench.ReadLoop
import DragonBench.Summary

namespace DragonBench

open Rounding

/-! ## 1. The record of an event -/

/-- `EventRecord`, without its texts for the reader; the fields with a default may be left out. -/
structure EventRecord where
  index : Int
  resetClass : CText
  truePowerDisappearance : Option Bool
  usbReenumerated : Option Bool
  romRstRaw : CText := []
  romRstName : CText := []
  romBootRaw : CText := []
  romBootName : CText := []
  appResetReason : CText := []
  flashSize : CText := []
  psramFound : CText := []
  psramTest : PsramTest
  phyWarningPresent : Bool := false
  phyWarningPosition : CText := []
  staAssociated : Option Bool := none
  httpRecoveryS : Option ℚ := none
  duplicateResetCount : Nat := 0
  panic : Bool := false
  wdt : Bool := false
  brownout : Bool := false
  downloadMode : Bool := false
  serialDisconnectDuringEvent : Bool := false
  deriving DecidableEq, Repr

/-- `round(recovery_s, 2) if recovery_s is not None else None`, of milliseconds. -/
def recoverySeconds (recoveryMs : Option Nat) : Option ℚ :=
  recoveryMs.map fun ms => roundTo 2 (ms / 1000)

/-- `snapshot_since`. -/
def SerialReader.snapshotSince (mon : SerialReader) (t0 : ℚ) : List (ℚ × CText) :=
  mon.lines.filter fun line => decide (t0 ≤ line.1)

/-- `disconnects_since`. -/
def SerialReader.disconnectsSince (mon : SerialReader) (t0 : ℚ) : List (ℚ × Option ℚ) :=
  mon.disconnectEvents.filter fun event => decide (t0 ≤ event.1)

/-- An event of `run_event`: the arguments, the reader behind the settling time and behind the
    poll, and what the poll has stored. -/
structure TriggeredEvent where
  index : Int
  resetClass : CText
  truePowerDisappearance : Option Bool
  usbReenumerated : Option Bool
  t0 : ℚ
  settled : SerialReader
  joined : SerialReader
  value : EventValue

namespace TriggeredEvent

variable (e : TriggeredEvent)

def analysis : Analysis := analyzeCapture (e.settled.snapshotSince e.t0) e.t0

def disconnects : List (ℚ × Option ℚ) := e.joined.disconnectsSince e.t0

/-- `rec` of `run_event`. -/
def record : EventRecord where
  index := e.index
  resetClass := e.resetClass
  truePowerDisappearance := e.truePowerDisappearance
  usbReenumerated := e.usbReenumerated
  romRstRaw := e.analysis.romRstRaw
  romRstName := e.analysis.romRstName
  romBootRaw := e.analysis.romBootRaw
  romBootName := e.analysis.romBootName
  appResetReason := e.value.appReason
  flashSize := e.analysis.flashSize
  psramFound := e.analysis.psramFound
  psramTest := e.analysis.psramTest
  phyWarningPresent := e.analysis.phyWarningPresent
  phyWarningPosition := e.analysis.phyWarningPosition
  staAssociated := e.value.netConnected
  httpRecoveryS := recoverySeconds e.value.recoveryMs
  duplicateResetCount := e.analysis.duplicateResetCount
  panic := e.analysis.panic
  wdt := e.analysis.wdt
  brownout := e.analysis.brownout
  downloadMode := e.analysis.downloadMode
  serialDisconnectDuringEvent := decide (e.disconnects ≠ [])

end TriggeredEvent

/-- The choices of `--reset-class`. -/
inductive ExtractClass where
  | enButton | coldPower
  deriving DecidableEq, Repr

def ExtractClass.text : ExtractClass → CText
  | .enButton => "en_button".toList
  | .coldPower => "cold_power".toList

/-- An event of `phase2_extract`: the arguments and what the loaders return; times are milliseconds
    behind the start. -/
structure ExtractedEvent where
  index : Int
  resetClass : ExtractClass
  rawLines : List (Nat × CText)
  portEvents : List (List (CText × Json))
  httpEvents : List Heartbeat

/-- `e.get("type") == type`. -/
def hasType (type : CText) (e : List (CText × Json)) : Bool :=
  match Json.member "type".toList e with
  | some (.str t) => decide (t = type)
  | _ => false

namespace ExtractedEvent

variable (e : ExtractedEvent)

def analysis : Analysis := analyzeCapture (e.rawLines.map fun line => (line.1 / 1000, line.2)) 0

def portLost : List (List (CText × Json)) := e.portEvents.filter (hasType "PORT_LOST".toList)

def portReacquired : List (List (CText × Json)) :=
  e.portEvents.filter (hasType "PORT_REACQUIRED".toList)

/-- `true_power_disappearance` and `usb_reenumerated`. -/
def powerEvidence : Bool × Bool :=
  match e.resetClass with
  | .coldPower => (decide (1 ≤ e.portLost.length), decide (1 ≤ e.portReacquired.length))
  | .enButton => (false, false)

/-- The heartbeat behind the reset. -/
def answer : ExtractAnswer :=
  let resetT := resetMarker e.rawLines
  extractAnswer resetT (scanHeartbeats resetT none e.httpEvents)

/-- `rec` of `main`: it leaves `serial_disconnect_during_event` at its default. -/
def record : EventRecord where
  index := e.index
  resetClass := e.resetClass.text
  truePowerDisappearance := some e.powerEvidence.1
  usbReenumerated := some e.powerEvidence.2
  romRstRaw := e.analysis.romRstRaw
  romRstName := e.analysis.romRstName
  romBootRaw := e.analysis.romBootRaw
  romBootName := e.analysis.romBootName
  appResetReason := e.answer.appReason
  flashSize := e.analysis.flashSize
  psramFound := e.analysis.psramFound
  psramTest := e.analysis.psramTest
  phyWarningPresent := e.analysis.phyWarningPresent
  phyWarningPosition := e.analysis.phyWarningPosition
  staAssociated := e.answer.netConnected
  httpRecoveryS := recoverySeconds e.answer.recoveryMs
  duplicateResetCount := e.analysis.duplicateResetCount
  panic := e.analysis.panic
  wdt := e.analysis.wdt
  brownout := e.analysis.brownout
  downloadMode := e.analysis.downloadMode

end ExtractedEvent

/-! ## 2. What is printed, and what is reported -/

/-- `("0x8", "0xa")`. -/
def expectedBootFields : List CText := ["0x8".toList, "0xa".toList]

/-- `if …: flags.append(…)`. -/
def flagIf (condition : Bool) (flag : CText) : List CText := if condition then [flag] else []

/-- `flags` of `run_event`. -/
def eventFlags (rec : EventRecord) : List CText :=
  flagIf rec.panic "PANIC".toList ++
  flagIf rec.wdt "WDT".toList ++
  flagIf rec.brownout "BROWNOUT".toList ++
  flagIf rec.downloadMode "DOWNLOAD_MODE".toList ++
  flagIf (decide (rec.duplicateResetCount ≠ 0))
    ("DUPLICATE_RESET x".toList ++ CText.decimal rec.duplicateResetCount) ++
  flagIf (decide (rec.romRstRaw = [])) "NO_ROM_BANNER_CAPTURED".toList ++
  flagIf (decide (rec.romBootRaw ≠ []) && decide (rec.romBootRaw ∉ expectedBootFields))
    ("UNEXPECTED_BOOT_FIELD=".toList ++ rec.romBootRaw) ++
  flagIf rec.httpRecoveryS.isNone "HTTP_RECOVERY_NOT_OBSERVED".toList ++
  flagIf rec.serialDisconnectDuringEvent "SERIAL_RECONNECT_DURING_EVENT".toList

/-- `asdict`, what of it is read again. -/
def EventRecord.asdict (rec : EventRecord) : SummaryRecord where
  index := some rec.index
  resetClass := rec.resetClass
  romBootRaw := some rec.romBootRaw
  phyWarningPresent := some rec.phyWarningPresent
  httpRecoveryS := rec.httpRecoveryS
  duplicateResetCount := some rec.duplicateResetCount
  panic := some rec.panic
  wdt := some rec.wdt
  brownout := some rec.brownout
  downloadMode := some rec.downloadMode
  serialDisconnectDuringEvent := some rec.serialDisconnectDuringEvent

/-- `flags` of `anomaly_report`. -/
def reportFlags (r : SummaryRecord) : List CText :=
  flagIf (r.panic.getD false) "panic".toList ++
  flagIf (r.wdt.getD false) "wdt".toList ++
  flagIf (r.brownout.getD false) "brownout".toList ++
  flagIf (r.downloadMode.getD false) "download_mode".toList ++
  flagIf (r.serialDisconnectDuringEvent.getD false) "serial_disconnect_during_event".toList ++
  flagIf (decide (r.duplicateResetCount.getD 0 ≠ 0))
    ("duplicate_reset_count=".toList ++ CText.decimal (r.duplicateResetCount.getD 0)) ++
  flagIf (r.bootField.any fun raw => decide (raw ∉ expectedBootFields))
    ("unexpected_boot_field=".toList ++ r.bootField.getD []) ++
  flagIf r.httpRecoveryS.isNone "http_recovery_not_observed".toList

structure AnomalyEntry where
  index : Option Int
  resetClass : CText
  flags : List CText
  deriving DecidableEq, Repr

/-- One turn of the loop. -/
def reportEntry (r : SummaryRecord) : Option AnomalyEntry :=
  let flags := reportFlags r
  if flags = [] then none else some ⟨r.index, r.resetClass, flags⟩

def anomalyReport (records : List SummaryRecord) : List AnomalyEntry :=
  records.filterMap reportEntry

/-! ## 3. The conditions -/

/-- What `run_event` prints as an anomaly. -/
inductive Anomaly where
  | marker (f : AnomalyFlag)
  | duplicateReset
  | noRomBanner
  | unexpectedBootField
  | recoveryNotObserved
  | portLost
  deriving DecidableEq, Repr

/-- What an analysis and the two other observations show. -/
def observed (analysis : Analysis) (recovered lostPort : Bool) : Anomaly → Bool
  | .marker f => analysis.flag f
  | .duplicateReset => decide (analysis.duplicateResetCount ≠ 0)
  | .noRomBanner => decide (analysis.romRstRaw = [])
  | .unexpectedBootField =>
    decide (analysis.romBootRaw ≠ []) && decide (analysis.romBootRaw ∉ expectedBootFields)
  | .recoveryNotObserved => !recovered
  | .portLost => lostPort

/-- An event of either program. -/
inductive ResetEvent where
  | triggered (e : TriggeredEvent)
  | extracted (e : ExtractedEvent)

namespace ResetEvent

def record : ResetEvent → EventRecord
  | .triggered e => e.record
  | .extracted e => e.record

/-- **The capture shows the condition.** -/
def shows : ResetEvent → Anomaly → Bool
  | .triggered e =>
    observed e.analysis e.value.recoveryMs.isSome (decide (e.disconnects ≠ []))
  | .extracted e =>
    observed e.analysis e.answer.recoveryMs.isSome (decide (e.portLost ≠ []))

/-- The conditions that the report has not heard of: `anomaly_report` does not ask for the reset
    line, and `phase2_extract` says of no record that the port was lost. -/
def unreported : ResetEvent → Anomaly → Bool
  | _, .noRomBanner => true
  | .extracted _, .portLost => true
  | _, _ => false

end ResetEvent

/-- A condition, of a record. -/
def EventRecord.condition (rec : EventRecord) : Anomaly → Bool
  | .marker .panic => rec.panic
  | .marker .wdt => rec.wdt
  | .marker .brownout => rec.brownout
  | .marker .downloadMode => rec.downloadMode
  | .duplicateReset => decide (rec.duplicateResetCount ≠ 0)
  | .noRomBanner => decide (rec.romRstRaw = [])
  | .unexpectedBootField =>
    decide (rec.romBootRaw ≠ []) && decide (rec.romBootRaw ∉ expectedBootFields)
  | .recoveryNotObserved => rec.httpRecoveryS.isNone
  | .portLost => rec.serialDisconnectDuringEvent

section Conditions

variable (rec : EventRecord)

theorem forall_anomaly {P : Anomaly → Prop} :
    (∀ a, P a) ↔ P (.marker .panic) ∧ P (.marker .wdt) ∧ P (.marker .brownout) ∧
      P (.marker .downloadMode) ∧ P .duplicateReset ∧ P .noRomBanner ∧ P .unexpectedBootField ∧
        P .recoveryNotObserved ∧ P .portLost := by
  refine ⟨fun h => ⟨h _, h _, h _, h _, h _, h _, h _, h _, h _⟩, ?_⟩
  rintro ⟨h1, h2, h3, h4, h5, h6, h7, h8, h9⟩ a
  cases a with
  | marker f => cases f <;> assumption
  | duplicateReset => exact h5
  | noRomBanner => exact h6
  | unexpectedBootField => exact h7
  | recoveryNotObserved => exact h8
  | portLost => exact h9

theorem flagIf_eq_nil {condition : Bool} {flag : CText} :
    flagIf condition flag = [] ↔ condition = false := by
  cases condition <;> simp [flagIf]

/-- **Nothing is printed** of a record without a condition, and only then. -/
theorem eventFlags_eq_nil : eventFlags rec = [] ↔ ∀ a, rec.condition a = false := by
  rw [forall_anomaly]
  simp only [eventFlags, List.append_eq_nil_iff, flagIf_eq_nil, EventRecord.condition, and_assoc]

/-- **Nothing is reported** of a record without a condition but the missing reset line. -/
theorem reportFlags_eq_nil :
    reportFlags rec.asdict = [] ↔ ∀ a, a ≠ .noRomBanner → rec.condition a = false := by
  have hboot : (rec.asdict.bootField.any fun raw => decide (raw ∉ expectedBootFields)) =
      (decide (rec.romBootRaw ≠ []) && decide (rec.romBootRaw ∉ expectedBootFields)) := by
    unfold SummaryRecord.bootField EventRecord.asdict
    by_cases h : rec.romBootRaw = [] <;> simp [h, Option.filter]
  rw [forall_anomaly]
  simp only [reportFlags, List.append_eq_nil_iff, flagIf_eq_nil, hboot]
  simp only [EventRecord.asdict, EventRecord.condition, Option.getD_some]
  constructor
  · rintro ⟨⟨⟨⟨⟨⟨⟨h1, h2⟩, h3⟩, h4⟩, h9⟩, h5⟩, h7⟩, h8⟩
    exact ⟨fun _ => h1, fun _ => h2, fun _ => h3, fun _ => h4, fun _ => h5, fun h => absurd rfl h,
      fun _ => h7, fun _ => h8, fun _ => h9⟩
  · rintro ⟨h1, h2, h3, h4, h5, -, h7, h8, h9⟩
    have hne {a : Anomaly} (h : decide (a = .noRomBanner) = false) : a ≠ .noRomBanner :=
      of_decide_eq_false h
    exact ⟨⟨⟨⟨⟨⟨⟨h1 (hne rfl), h2 (hne rfl)⟩, h3 (hne rfl)⟩, h4 (hne rfl)⟩, h9 (hne rfl)⟩,
      h5 (hne rfl)⟩, h7 (hne rfl)⟩, h8 (hne rfl)⟩

theorem recoverySeconds_isNone (recoveryMs : Option Nat) :
    (recoverySeconds recoveryMs).isNone = !recoveryMs.isSome := by
  cases recoveryMs <;> rfl

end Conditions

/-- **`run_event` writes what was captured.** -/
theorem TriggeredEvent.record_condition (e : TriggeredEvent) (a : Anomaly) :
    e.record.condition a = (ResetEvent.triggered e).shows a := by
  cases a with
  | marker f => cases f <;> rfl
  | recoveryNotObserved => exact recoverySeconds_isNone _
  | duplicateReset | noRomBanner | unexpectedBootField | portLost => rfl

/-- **So does `phase2_extract`**, but for a lost port. -/
theorem ExtractedEvent.record_condition (e : ExtractedEvent) (a : Anomaly) :
    e.record.condition a = (decide (a ≠ .portLost) && (ResetEvent.extracted e).shows a) := by
  cases a with
  | marker f => cases f <;> rfl
  | recoveryNotObserved => exact recoverySeconds_isNone _
  | duplicateReset | noRomBanner | unexpectedBootField | portLost => rfl

/-- **`run_event` prints exactly what the capture shows.** -/
theorem eventFlags_shows (e : TriggeredEvent) :
    eventFlags e.record ≠ [] ↔ ∃ a, (ResetEvent.triggered e).shows a = true := by
  rw [Ne, eventFlags_eq_nil]
  simp only [e.record_condition, not_forall, Bool.not_eq_false]

/-- **The report has a flag for an event** exactly when it shows a condition that comes through. -/
theorem reportFlags_shows (e : ResetEvent) :
    reportFlags e.record.asdict ≠ [] ↔ ∃ a, e.shows a = true ∧ e.unreported a = false := by
  rw [Ne, reportFlags_eq_nil]
  simp only [not_forall, Bool.not_eq_false, exists_prop]
  refine exists_congr fun a => ?_
  cases e with
  | triggered e =>
      have hu : (ResetEvent.triggered e).unreported a = false ↔ a ≠ .noRomBanner := by
        cases a <;> simp [ResetEvent.unreported]
      rw [hu, and_comm]
      exact and_congr_left' (by rw [← e.record_condition]; rfl)
  | extracted e =>
      have hu : (ResetEvent.extracted e).unreported a = false ↔
          a ≠ .noRomBanner ∧ a ≠ .portLost := by
        cases a <;> simp [ResetEvent.unreported]
      have hc : (ResetEvent.extracted e).record.condition a = true ↔
          a ≠ .portLost ∧ (ResetEvent.extracted e).shows a = true := by
        show e.record.condition a = true ↔ _
        rw [e.record_condition, Bool.and_eq_true, decide_eq_true_eq]
      rw [hu, hc]
      tauto

/-! ## 4. The report -/

/-- **The report of any list with this record has an entry for it**, between those of the records
    in front of it and those of the records behind it. -/
def Listed (rec : EventRecord) : Prop :=
  ∀ before behind : List SummaryRecord, ∃ entry : AnomalyEntry,
    entry.index = some rec.index ∧ entry.resetClass = rec.resetClass ∧
      anomalyReport (before ++ rec.asdict :: behind) =
        anomalyReport before ++ entry :: anomalyReport behind

theorem listed_iff (rec : EventRecord) : Listed rec ↔ reportFlags rec.asdict ≠ [] := by
  constructor
  · intro h hflags
    obtain ⟨entry, -, -, hreport⟩ := h [] []
    have hnone : reportEntry rec.asdict = none := if_pos hflags
    rw [anomalyReport, List.nil_append, List.filterMap_cons_none hnone] at hreport
    cases hreport
  · intro hflags before behind
    have hentry : reportEntry rec.asdict =
        some ⟨some rec.index, rec.resetClass, reportFlags rec.asdict⟩ := if_neg hflags
    refine ⟨⟨some rec.index, rec.resetClass, reportFlags rec.asdict⟩, rfl, rfl, ?_⟩
    unfold anomalyReport
    rw [List.filterMap_append, List.filterMap_cons_some hentry]

/-- **An event is listed when it shows a condition that comes through**: of the events with any
    condition, exactly those without such a one are not. -/
theorem anomaly_listed_iff (e : ResetEvent) :
    ((∃ a, e.shows a = true) → Listed e.record) ↔
      ((∃ a, e.shows a = true) → ∃ a, e.shows a = true ∧ e.unreported a = false) := by
  rw [listed_iff, reportFlags_shows]

/-! ## 5. Two events -/

/-- A reset whose ROM line was not captured; the application answers 4.1 s behind it. -/
def lateReader : SerialReader :=
  ⟨.reading, [], [(1008 / 10, "I (312) main: ready".toList)], [], false⟩

def noResetLine : TriggeredEvent :=
  ⟨7, "rts_dtr".toList, some false, some false, 100, lateReader, lateReader,
    ⟨"power_on".toList, some true, some 4100, .polled (.reply (statusAt 3300))⟩⟩

/-- An entry of `log_event`. -/
def portEvent (ts type : CText) (more : List (CText × Json)) : List (CText × Json) :=
  ("ts".toList, .str ts) :: ("type".toList, .str type) :: ("port".toList, .str "COM5".toList) :: more

/-- The port is lost and comes back behind the button's reset; nothing else is wrong. -/
def buttonLosesPort : ExtractedEvent where
  index := 12
  resetClass := .enButton
  rawLines := [(2000, "ESP-ROM:esp32s3-20210327".toList),
    (2010, "rst:0x1 (POWERON),boot:0x8 (SPI_FAST_FLASH_BOOT)".toList)]
  portEvents :=
    [portEvent "2026-09-12T15:09:53.120+00:00".toList "PORT_LOST".toList
      [("error".toList, .str "ClearCommError failed".toList)],
    portEvent "2026-09-12T15:09:54.480+00:00".toList "PORT_REACQUIRED".toList
      [("hwid".toList, .str benchHwid)]]
  httpEvents := [⟨1000, some (statusAt 90000), 1000⟩, ⟨6000, some (statusAt 3900), 6000⟩]

/-- **Both are lost**: the first is printed with `NO_ROM_BANNER_CAPTURED`, and the report of the two
    records is empty. -/
theorem report_lost :
    ¬ (∀ e : ResetEvent, (∃ a, e.shows a = true) → Listed e.record) ∧
      eventFlags noResetLine.record = ["NO_ROM_BANNER_CAPTURED".toList] ∧
      (ResetEvent.extracted buttonLosesPort).shows .portLost = true ∧
      anomalyReport [noResetLine.record.asdict, buttonLosesPort.record.asdict] = [] := by
  have hreport : anomalyReport [noResetLine.record.asdict] = [] := by decide +kernel
  refine ⟨fun h => ?_, by decide +kernel, by decide +kernel, by decide +kernel⟩
  have hshows : ∃ a, (ResetEvent.triggered noResetLine).shows a = true :=
    ⟨.noRomBanner, by decide +kernel⟩
  obtain ⟨entry, -, -, hentry⟩ := h (.triggered noResetLine) hshows [] []
  have hnil := hentry.symm.trans hreport
  cases hnil

end DragonBench
