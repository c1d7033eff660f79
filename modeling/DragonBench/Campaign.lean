/-
  File:      DragonBench/Campaign.lean
  Subject:   A CAMPAIGN AND ITS ANALYSIS: `main` of `tools/reset_characterization.py`, the file
             `write_summary` leaves, and `load_records` of `tools/analyze_summary.py`.

  A campaign triggers its events in a fixed order, the two classes in turn unless they are to be run
  one after the other, and writes all records at its end. The analysis reads any number of such
  files, and of records `phase2_extract` has printed, and leaves out the files that are not there.

  * `resetSequence`, `runEvents`, `campaign` -- `main`;
  * `asdictMembers`, `summaryFile`, `recordFile` -- what is written;
  * `loadRecords`, `summaryRecord` -- what is read, and the record the tables see in it;
  * **`analysed_as_recorded`** -- the tables see every record as it was written, in file order;
  * `resetSequence_balanced` -- the classes keep level;
  * **`campaign_analysed`** -- the numbers of a campaign that has run to its end.
-/
import DragonBench.Anomalies
import DragonBench.Lib.TextFile
import DragonBench.RequestBody

namespace DragonBench

open Json TextFile

/-! ## 1. What is written -/

/-- The texts of a record for the reader. -/
structure RecordTexts where
  operatorAction : CText
  triggerTime : CText
  notes : CText
  rawLogPath : CText

/-- A record with its texts. -/
structure SavedRecord where
  record : EventRecord
  texts : RecordTexts

/-- The text of `psram_test`. -/
def PsramTest.text : PsramTest → CText
  | .pass => "pass".toList
  | .fail => "fail".toList
  | .notObserved => "not_observed".toList

/-- An optional field. -/
def optional {α : Type} (f : α → Json) (v : Option α) : Json := (v.map f).getD .null

/-- **`asdict(rec)`**: the fields in their order. -/
def SavedRecord.asdictMembers (r : SavedRecord) : List (CText × Json) :=
  [("index".toList, .num r.record.index), ("reset_class".toList, .str r.record.resetClass),
    ("operator_action".toList, .str r.texts.operatorAction),
    ("trigger_time".toList, .str r.texts.triggerTime),
    ("true_power_disappearance".toList, optional .bool r.record.truePowerDisappearance),
    ("usb_reenumerated".toList, optional .bool r.record.usbReenumerated),
    ("rom_rst_raw".toList, .str r.record.romRstRaw),
    ("rom_rst_name".toList, .str r.record.romRstName),
    ("rom_boot_raw".toList, .str r.record.romBootRaw),
    ("rom_boot_name".toList, .str r.record.romBootName),
    ("app_reset_reason".toList, .str r.record.appResetReason),
    ("flash_size".toList, .str r.record.flashSize),
    ("psram_found".toList, .str r.record.psramFound),
    ("psram_test".toList, .str r.record.psramTest.text),
    ("phy_warning_present".toList, .bool r.record.phyWarningPresent),
    ("phy_warning_position".toList, .str r.record.phyWarningPosition),
    ("sta_associated".toList, optional .bool r.record.staAssociated),
    ("http_recovery_s".toList, optional .num r.record.httpRecoveryS),
    ("duplicate_reset_count".toList, .num (r.record.duplicateResetCount : Int)),
    ("panic".toList, .bool r.record.panic), ("wdt".toList, .bool r.record.wdt),
    ("brownout".toList, .bool r.record.brownout),
    ("download_mode".toList, .bool r.record.downloadMode),
    ("serial_disconnect_during_event".toList, .bool r.record.serialDisconnectDuringEvent),
    ("notes".toList, .str r.texts.notes), ("raw_log_path".toList, .str r.texts.rawLogPath)]

/-- The record as a JSON object. -/
def SavedRecord.json (r : SavedRecord) : Json := .obj r.asdictMembers

/-- `json.dumps(v, indent=2)`. -/
def pyDumpsIndented (fmt : ℚ → CText) (v : Json) : CText :=
  (Layout.indented asciiEscape 2).print fmt 0 v

/-- **`summary.json`** of `write_summary`. -/
def summaryFile (sep : LineSep) (fmt : ℚ → CText) (records : List SavedRecord) : CText :=
  written sep (pyDumpsIndented fmt (.arr (records.map SavedRecord.json)))

/-- What `phase2_extract` prints, sent to a file. -/
def recordFile (sep : LineSep) (fmt : ℚ → CText) (r : SavedRecord) : CText :=
  written sep (pyDumpsIndented fmt r.json ++ ['\n'])

/-! ## 2. What is read -/

/-- `json.loads(f.read_text(encoding="utf-8"))`; `none` is an exception. -/
def loadFile (file : CText) : Option Json :=
  (decodeUtf8 file).bind fun text => python.loads (universalNewlines text)

/-- One turn of the first loop of `load_records`; a file that is not there is `none`. What is no
    list is not what the other program writes. -/
def loadSummary : Option CText → Option (List Json)
  | none => some []
  | some file =>
    match loadFile file with
    | some (.arr xs) => some xs
    | _ => none

/-- One turn of the second loop. -/
def loadOne : Option CText → Option (List Json)
  | none => some []
  | some file => (loadFile file).map fun v => [v]

/-- **`load_records`.** -/
def loadRecords (summaryFiles phase2Files : List (Option CText)) : Option (List Json) :=
  (summaryFiles.mapM loadSummary).bind fun a =>
    (phase2Files.mapM loadOne).map fun b => a.flatten ++ b.flatten

/-- `r.get(name)` where `None` and no member are the same, as `f` reads it; `none` when `f` does
    not. -/
def readOptional {α : Type} (f : Json → Option α) (name : CText) (ms : List (CText × Json)) :
    Option (Option α) :=
  match member name ms with
  | none | some .null => some none
  | some v => (f v).map some

def readText? : Json → Option CText
  | .str s => some s
  | _ => none

def readBool? : Json → Option Bool
  | .bool b => some b
  | _ => none

def readNum? : Json → Option ℚ
  | .num q => some q
  | _ => none

def readInt? : Json → Option Int
  | .num q => if q.den = 1 then some q.num else none
  | _ => none

/-- **What the tables see of a record**, when its members have the types of the writer. -/
def summaryRecord : Json → Option SummaryRecord
  | .obj ms => do
    let index ← readOptional readInt? "index".toList ms
    let resetClass ← (member "reset_class".toList ms).bind readText?
    let romBootRaw ← readOptional readText? "rom_boot_raw".toList ms
    let phyWarningPresent ← readOptional readBool? "phy_warning_present".toList ms
    let httpRecoveryS ← readOptional readNum? "http_recovery_s".toList ms
    let duplicateResetCount ← readOptional readInt? "duplicate_reset_count".toList ms
    let panic ← readOptional readBool? "panic".toList ms
    let wdt ← readOptional readBool? "wdt".toList ms
    let brownout ← readOptional readBool? "brownout".toList ms
    let downloadMode ← readOptional readBool? "download_mode".toList ms
    let serialDisconnectDuringEvent ←
      readOptional readBool? "serial_disconnect_during_event".toList ms
    pure ⟨index, resetClass, romBootRaw, phyWarningPresent, httpRecoveryS,
      duplicateResetCount.map Int.toNat, panic, wdt, brownout, downloadMode,
      serialDisconnectDuringEvent⟩
  | _ => none

/-- The records the tables are made of. -/
def analysed (summaryFiles phase2Files : List (Option CText)) : Option (List SummaryRecord) :=
  (loadRecords summaryFiles phase2Files).bind fun vs => vs.mapM summaryRecord

/-! ## 3. There and back -/

section Files

variable {fmt : ℚ → CText} {read : ℚ → ℚ}

/-- A text without CR is read as it was written, whatever the line separator. -/
theorem universalNewlines_written (sep : LineSep) {t : CText} (h : '\r' ∉ t) :
    universalNewlines (t.flatMap sep.char) = t := by
  induction t with
  | nil => rfl
  | cons c t ih =>
      have hc : '\r' ≠ c := fun e => h (e ▸ List.mem_cons_self)
      have ht : '\r' ∉ t := fun hm => h (List.mem_cons_of_mem c hm)
      by_cases hn : c = '\n'
      · rw [List.flatMap_cons, LineSep.char, if_pos hn, universalNewlines_sep, ih ht, hn]
      · rw [List.flatMap_cons, LineSep.char, if_neg hn, List.singleton_append,
          universalNewlines_char (Ne.symm hc), ih ht]

/-- What is written is printable but for its new lines. -/
theorem pyDumpsIndented_chars (hf : NumFormat fmt read) (v : Json) :
    ∀ x ∈ pyDumpsIndented fmt v, x ≠ '\r' := by
  have hmade : (Layout.indented asciiEscape 2).Made fun x => x ≠ '\r' := by
    refine Layout.indented_made 2 (fun c x hx => ?_) (by decide) (by decide) fun x hx _ => ?_
    · rintro rfl
      exact absurd (mem_asciiEscape hx).1 (by decide)
    · rintro rfl
      exact absurd hx (by decide)
  exact Layout.print_all hmade hf v 0

/-- A character of a text is read as itself. -/
theorem python_encode (c : Char) : python.encode c.toNat = [c] := by
  show [Char.ofNat c.toNat] = _
  rw [Char.ofNat_toNat]

/-- **What `json.dumps` has written, `json.loads` reads.** -/
theorem loads_pyDumpsIndented (hf : NumFormat fmt read) (v : Json) {w : CText}
    (hw : ∀ c ∈ w, python.space c = true) :
    python.loads (pyDumpsIndented fmt v ++ w) = some (readBack read v) := by
  have hreads : (Layout.indented asciiEscape 2).Reads python fun c => python.encode c.toNat :=
    Layout.indented_reads (fun c r => Dialect.stringBody_asciiEscape _ c r) 2 rfl rfl
  rw [pyDumpsIndented, Layout.loads_print hreads hf v 0 hw, Layout.decoded_self python_encode]

/-- So does the program that reads the file. -/
theorem loadFile_written (hf : NumFormat fmt read) (sep : LineSep) (v : Json) {w : CText}
    (hw : ∀ c ∈ w, python.space c = true) (hcr : '\r' ∉ w) :
    loadFile (written sep (pyDumpsIndented fmt v ++ w)) = some (readBack read v) := by
  have hno : '\r' ∉ pyDumpsIndented fmt v ++ w := by
    intro hm
    rcases List.mem_append.mp hm with hm | hm
    · exact pyDumpsIndented_chars hf v _ hm rfl
    · exact hcr hm
  rw [loadFile, written, decodeUtf8_utf8, Option.bind_some, universalNewlines_written sep hno]
  exact loads_pyDumpsIndented hf v hw

theorem loadSummary_file (hf : NumFormat fmt read) (sep : LineSep) (records : List SavedRecord) :
    loadSummary (some (summaryFile sep fmt records)) =
      some (records.map fun r => readBack read r.json) := by
  have h := loadFile_written hf sep (.arr (records.map SavedRecord.json)) (w := [])
    (fun c hc => absurd hc List.not_mem_nil) List.not_mem_nil
  rw [List.append_nil] at h
  rw [loadSummary, summaryFile, h, readBack, readBackElems_eq, List.map_map]
  rfl

theorem loadOne_file (hf : NumFormat fmt read) (sep : LineSep) (r : SavedRecord) :
    loadOne (some (recordFile sep fmt r)) = some [readBack read r.json] := by
  rw [loadOne, recordFile, loadFile_written hf sep r.json (fun c hc => ?_) (by decide)]
  · rfl
  · rw [List.mem_singleton.mp hc]
    rfl

/-- **The tables see what was recorded**, when the numbers of the record are read as they are. -/
theorem summaryRecord_json (hint : ∀ n : Int, read n = n) {r : SavedRecord}
    (hq : ∀ q ∈ r.record.httpRecoveryS, read q = q) :
    summaryRecord (readBack read r.json) = some r.record.asdict := by
  have hnum : ∀ n : Int, readInt? (.num (read n)) = some n := fun n => by
    rw [hint, readInt?, if_pos (by rw [Rat.den_intCast]), Rat.num_intCast]
  have hrecovery : readOptional readNum? "http_recovery_s".toList
      (readBackMembers read r.asdictMembers) = some r.record.httpRecoveryS := by
    have h : member "http_recovery_s".toList r.asdictMembers =
        some (optional .num r.record.httpRecoveryS) := rfl
    rw [readOptional, member_readBack, h]
    cases hr : r.record.httpRecoveryS with
    | none => rfl
    | some q =>
        show some (some (read q)) = _
        rw [hq q hr]
  have h1 : member "index".toList r.asdictMembers = some (.num r.record.index) := rfl
  have h2 : member "reset_class".toList r.asdictMembers = some (.str r.record.resetClass) := rfl
  have h3 : member "rom_boot_raw".toList r.asdictMembers = some (.str r.record.romBootRaw) := rfl
  have h4 : member "phy_warning_present".toList r.asdictMembers =
      some (.bool r.record.phyWarningPresent) := rfl
  have h5 : member "duplicate_reset_count".toList r.asdictMembers =
      some (.num (r.record.duplicateResetCount : Int)) := rfl
  have h6 : member "panic".toList r.asdictMembers = some (.bool r.record.panic) := rfl
  have h7 : member "wdt".toList r.asdictMembers = some (.bool r.record.wdt) := rfl
  have h8 : member "brownout".toList r.asdictMembers = some (.bool r.record.brownout) := rfl
  have h9 : member "download_mode".toList r.asdictMembers = some (.bool r.record.downloadMode) := rfl
  have h10 : member "serial_disconnect_during_event".toList r.asdictMembers =
      some (.bool r.record.serialDisconnectDuringEvent) := rfl
  rw [readOptional, member_readBack] at hrecovery
  rw [SavedRecord.json, readBack, summaryRecord]
  simp only [readOptional, hrecovery, member_readBack, h1, h2, h3, h4, h5, h6, h7, h8, h9, h10,
    Option.map_some, readBack, hnum, readText?, readBool?, Option.bind_eq_bind, Option.bind_some,
    Int.toNat_natCast]
  rfl

theorem mapM_eq_some {α β : Type} {f : α → Option β} {g : α → β} {xs : List α}
    (h : ∀ x ∈ xs, f x = some (g x)) : xs.mapM f = some (xs.map g) := by
  induction xs with
  | nil => rfl
  | cons x xs ih =>
      obtain ⟨hx, hxs⟩ := List.forall_mem_cons.mp h
      rw [List.mapM_cons, hx, ih hxs]
      rfl

end Files

/-- The records behind the files that are there. -/
def recorded (summaries : List (Option (List SavedRecord))) (extracted : List (Option SavedRecord)) :
    List SavedRecord :=
  (summaries.map fun s => s.getD []).flatten ++ (extracted.map Option.toList).flatten

section Analysed

variable {fmt : ℚ → CText} {read : ℚ → ℚ}

/-- What `load_records` returns for files of the two programs. -/
theorem loadRecords_files (hf : NumFormat fmt read) (sep : LineSep)
    (summaries : List (Option (List SavedRecord))) (extracted : List (Option SavedRecord)) :
    loadRecords (summaries.map (Option.map (summaryFile sep fmt)))
      (extracted.map (Option.map (recordFile sep fmt))) =
        some ((recorded summaries extracted).map fun r => readBack read r.json) := by
  have hsummaries : (summaries.map (Option.map (summaryFile sep fmt))).mapM loadSummary =
      some (summaries.map fun s => (s.getD []).map fun r => readBack read r.json) := by
    rw [List.mapM_map]
    refine mapM_eq_some fun s _ => ?_
    cases s with
    | none => rfl
    | some records => exact loadSummary_file hf sep records
  have hextracted : (extracted.map (Option.map (recordFile sep fmt))).mapM loadOne =
      some (extracted.map fun r => r.toList.map fun r => readBack read r.json) := by
    rw [List.mapM_map]
    refine mapM_eq_some fun r _ => ?_
    cases r with
    | none => rfl
    | some r => exact loadOne_file hf sep r
  rw [loadRecords, hsummaries, hextracted, Option.bind_some, Option.map_some, recorded,
    List.map_append, List.map_flatten, List.map_flatten, List.map_map, List.map_map]
  rfl

/-- What the tables see of them. -/
theorem summaryRecords (hint : ∀ n : Int, read n = n) {records : List SavedRecord}
    (hq : ∀ r ∈ records, ∀ q ∈ r.record.httpRecoveryS, read q = q) :
    (records.map fun r => readBack read r.json).mapM summaryRecord =
      some (records.map fun r => r.record.asdict) := by
  rw [List.mapM_map]
  exact mapM_eq_some fun r hr => summaryRecord_json hint (hq r hr)

end Analysed

/-- **THE TABLES SEE WHAT WAS RECORDED**: of any number of summaries and single records, written on
    either platform, some of the files missing, the analysis is made of every record of every file
    that is there, once, in the order of the files, and of nothing else. -/
theorem analysed_as_recorded {fmt : ℚ → CText} {read : ℚ → ℚ} (hf : NumFormat fmt read)
    (hint : ∀ n : Int, read n = n) (sep : LineSep) {summaries : List (Option (List SavedRecord))}
    {extracted : List (Option SavedRecord)}
    (hq : ∀ r ∈ recorded summaries extracted, ∀ q ∈ r.record.httpRecoveryS, read q = q) :
    analysed (summaries.map (Option.map (summaryFile sep fmt)))
        (extracted.map (Option.map (recordFile sep fmt))) =
      some ((recorded summaries extracted).map fun r => r.record.asdict) := by
  rw [analysed, loadRecords_files hf, Option.bind_some]
  exact summaryRecords hint hq

/-! ## 4. A campaign -/

/-- The keys of `class_specs`. -/
inductive TriggerClass where
  | rtsDtr | software
  deriving DecidableEq, Repr

def TriggerClass.text : TriggerClass → CText
  | .rtsDtr => "rts_dtr".toList
  | .software => "software".toList

theorem TriggerClass.text_injective : Function.Injective TriggerClass.text := by
  intro c c' h
  cases c <;> cases c' <;> first | rfl | exact absurd h (by decide)

/-- Its first component. -/
def TriggerClass.operatorAction : TriggerClass → CText
  | .rtsDtr => "host-triggered RTS pulse (esptool-style hard reset)".toList
  | .software => "host-triggered CONTROLLED_REBOOT via HTTP API".toList

/-- `sequence`. -/
def resetSequence (sequential : Bool) (rtsDtrCount softwareCount : Nat) : List TriggerClass :=
  if sequential then
    List.replicate rtsDtrCount .rtsDtr ++ List.replicate softwareCount .software
  else
    (List.range (max rtsDtrCount softwareCount)).flatMap fun i =>
      (if i < rtsDtrCount then [.rtsDtr] else []) ++ if i < softwareCount then [.software] else []

/-- What happens during an event: the reader at its two reads, what the poll has stored, and the
    texts of its time, of the list of disconnects and of the directory of its log. -/
structure Happened where
  t0 : ℚ
  settled : SerialReader
  joined : SerialReader
  value : EventValue
  triggerTime : CText
  disconnects : CText
  outDir : CText

/-- `f"{index:03d}"`. -/
def decimal03 (n : Nat) : CText :=
  List.replicate (3 - (CText.decimal n).length) '0' ++ CText.decimal n

/-- The call of `run_event` that `main` makes. -/
def Happened.event (h : Happened) (index : Nat) (cls : TriggerClass) : TriggeredEvent :=
  ⟨index, cls.text, some false, some false, h.t0, h.settled, h.joined, h.value⟩

/-- What it returns. -/
def Happened.saved (h : Happened) (index : Nat) (cls : TriggerClass) : SavedRecord where
  record := (h.event index cls).record
  texts :=
    { operatorAction := cls.operatorAction
      triggerTime := h.triggerTime
      notes :=
        if (h.event index cls).disconnects ≠ [] then
          "serial reconnect during event window: ".toList ++ h.disconnects
        else []
      rawLogPath := h.outDir ++ decimal03 index ++ "_".toList ++ cls.text ++ ".log".toList }

/-- The loop of `main` behind `idx` events; `none` is an event that raises. -/
def runEvents (event : Nat → Option Happened) : Nat → List TriggerClass → Option (List SavedRecord)
  | _, [] => some []
  | idx, cls :: sequence =>
    (event (idx + 1)).bind fun h =>
      (runEvents event (idx + 1) sequence).map fun records => h.saved (idx + 1) cls :: records

/-- **`main`**: the records `write_summary` is called with, if it is. -/
def campaign (reachable : Bool) (event : Nat → Option Happened) (sequential : Bool)
    (rtsDtrCount softwareCount : Nat) : Option (List SavedRecord) :=
  if reachable then runEvents event 0 (resetSequence sequential rtsDtrCount softwareCount) else none

/-- A reset of which only one line comes; the device does not answer any more. -/
def silent : Happened :=
  ⟨100, lateReader, lateReader, eventValue false (.error .timeout), "2026-09-12T15:09:53".toList, [],
    "artifacts/reset_char/".toList⟩

/-- The same, and the device answers four seconds behind the trigger. -/
def answering : Happened :=
  { silent with value := ⟨"software".toList, some true, some 4000, .polled (.reply (statusAt 3300))⟩ }

theorem silent_recovery (index : Nat) (cls : TriggerClass) :
    ∀ q ∈ (silent.saved index cls).record.httpRecoveryS, ((q.num : Int) : ℚ) = q :=
  fun _ h => absurd h.symm (Option.some_ne_none _)

theorem answering_recovery (index : Nat) (cls : TriggerClass) :
    ∀ q ∈ (answering.saved index cls).record.httpRecoveryS, ((q.num : Int) : ℚ) = q := by
  intro q hq
  have hfour : (answering.saved index cls).record.httpRecoveryS = some 4 := by
    show recoverySeconds (some 4000) = some 4
    decide +kernel
  rw [hfour] at hq
  cases hq
  rfl

/-- A file with one record, a file that is missing, and a record of its own. -/
theorem analysed_as_recorded_answering :
    analysed [some (summaryFile .crlf intText [answering.saved 1 .rtsDtr]), none]
        [some (recordFile .crlf intText (silent.saved 2 .software))] =
      some [(answering.saved 1 .rtsDtr).record.asdict, (silent.saved 2 .software).record.asdict] := by
  have hrecorded :
      recorded [some [answering.saved 1 .rtsDtr], none] [some (silent.saved 2 .software)] =
        [answering.saved 1 .rtsDtr, silent.saved 2 .software] := rfl
  refine @analysed_as_recorded _ _ intFormat (fun n => by rw [Rat.num_intCast]) .crlf
    [some [answering.saved 1 .rtsDtr], none] [some (silent.saved 2 .software)] fun r hr => ?_
  rw [hrecorded] at hr
  simp only [List.mem_cons, List.not_mem_nil, or_false] at hr
  rcases hr with rfl | rfl
  · exact answering_recovery _ _
  · exact silent_recovery _ _

section Campaign

variable {event : Nat → Option Happened} {records : List SavedRecord}

/-- **The records are numbered in order, and of the classes that were planned.** -/
theorem runEvents_records {idx : Nat} {sequence : List TriggerClass}
    (h : runEvents event idx sequence = some records) :
    (records.map fun r => r.record.asdict.index) =
        (List.range sequence.length).map (fun i => some ((idx + 1 + i : Nat) : Int)) ∧
      (records.map fun r => r.record.asdict.resetClass) = sequence.map TriggerClass.text := by
  induction sequence generalizing idx records with
  | nil =>
      cases h
      exact ⟨rfl, rfl⟩
  | cons cls sequence ih =>
      obtain ⟨happened, -, h⟩ := Option.bind_eq_some_iff.mp h
      obtain ⟨rest, hrest, rfl⟩ := Option.map_eq_some_iff.mp h
      obtain ⟨h1, h2⟩ := ih hrest
      constructor
      · rw [List.map_cons, h1, List.length_cons, List.range_succ_eq_map, List.map_cons, List.map_map]
        refine congrArg₂ List.cons rfl (List.map_congr_left fun i _ => ?_)
        show some (((idx + 1) + 1 + i : Nat) : Int) = some ((idx + 1 + (i + 1) : Nat) : Int)
        rw [show idx + 1 + 1 + i = idx + 1 + (i + 1) by omega]
      · rw [List.map_cons, h2]
        rfl

/-- One round of the interleaved sequence. -/
def resetRound (a b i : Nat) : List TriggerClass :=
  (if i < a then [.rtsDtr] else []) ++ if i < b then [.software] else []

/-- The rounds up to the `m`th. -/
theorem count_rounds (a b m : Nat) :
    ((List.range m).flatMap (resetRound a b)).count .rtsDtr = min m a ∧
      ((List.range m).flatMap (resetRound a b)).count .software = min m b := by
  induction m with
  | zero => exact ⟨(Nat.zero_min a).symm, (Nat.zero_min b).symm⟩
  | succ m ih =>
      have hround : (resetRound a b m).count .rtsDtr = (if m < a then 1 else 0) ∧
          (resetRound a b m).count .software = if m < b then 1 else 0 := by
        unfold resetRound
        split_ifs <;> exact ⟨rfl, rfl⟩
      rw [List.range_succ, List.flatMap_append, List.flatMap_singleton, List.count_append,
        List.count_append, ih.1, ih.2, hround.1, hround.2]
      split_ifs <;> omega

/-- **The planned numbers.** -/
theorem resetSequence_counts (sequential : Bool) (a b : Nat) :
    (resetSequence sequential a b).count .rtsDtr = a ∧
      (resetSequence sequential a b).count .software = b := by
  unfold resetSequence
  split
  · simp only [List.count_append, List.count_replicate]
    exact ⟨by simp, by simp⟩
  · obtain ⟨h1, h2⟩ := count_rounds a b (max a b)
    exact ⟨h1.trans (by omega), h2.trans (by omega)⟩

theorem resetSequence_length (sequential : Bool) (a b : Nat) :
    (resetSequence sequential a b).length = a + b := by
  have hlen : ∀ l : List TriggerClass, l.length = l.count .rtsDtr + l.count .software := by
    intro l
    induction l with
    | nil => rfl
    | cons c l ih => cases c <;> simp only [List.length_cons, List.count_cons, ih] <;> grind
  obtain ⟨h1, h2⟩ := resetSequence_counts sequential a b
  rw [hlen, h1, h2]

/-- A part of some rounds is whole rounds and a part of the next one. -/
theorem take_rounds (a b n k : Nat) :
    ∃ m j, ((List.range n).flatMap (resetRound a b)).take k =
      (List.range m).flatMap (resetRound a b) ++ (resetRound a b m).take j := by
  induction n with
  | zero => exact ⟨0, 0, by rw [List.range_zero, List.flatMap_nil, List.take_nil, List.take_zero]; rfl⟩
  | succ n ih =>
      rw [List.range_succ, List.flatMap_append, List.flatMap_singleton, List.take_append]
      by_cases hk : k ≤ ((List.range n).flatMap (resetRound a b)).length
      · obtain ⟨m, j, h⟩ := ih
        refine ⟨m, j, ?_⟩
        rw [h, Nat.sub_eq_zero_of_le hk, List.take_zero, List.append_nil]
      · refine ⟨n, k - ((List.range n).flatMap (resetRound a b)).length, ?_⟩
        rw [List.take_of_length_le (by omega)]

/-- **The classes keep level** in every part of the list: while there are events of the one class to
    come, those of the other are at most one in front. -/
def KeepsLevel (a b : Nat) (classes : List TriggerClass) : Prop :=
  ∀ k, ((classes.take k).count .software < b →
      (classes.take k).count .rtsDtr ≤ (classes.take k).count .software + 1) ∧
    ((classes.take k).count .rtsDtr < a →
      (classes.take k).count .software ≤ (classes.take k).count .rtsDtr)

theorem resetSequence_balanced (a b : Nat) : KeepsLevel a b (resetSequence false a b) := by
  intro k
  obtain ⟨m, j, h⟩ := take_rounds a b (max a b) k
  have hseq : (resetSequence false a b).take k =
      (List.range m).flatMap (resetRound a b) ++ (resetRound a b m).take j := h
  obtain ⟨h1, h2⟩ := count_rounds a b m
  rw [hseq, List.count_append, List.count_append, h1, h2]
  -- what of the next round is there: nothing, its first event, or all of it
  unfold resetRound
  rcases j with - | - | j <;> by_cases ha : m < a <;> by_cases hb : m < b <;>
    simp only [ha, hb, if_true, if_false, List.take_zero, List.take_succ_cons, List.take_nil,
      List.nil_append, List.cons_append, List.count_cons, List.count_nil, beq_self_eq_true,
      reduceCtorEq, beq_iff_eq] <;> omega

end Campaign

/-- **What the analysis shows of a campaign.** -/
structure CampaignAnalysed (sequential : Bool) (a b : Nat) (rs : List SummaryRecord) : Prop where
  /-- `total_events` -/
  total : rs.length = a + b
  numbered : rs.map SummaryRecord.index = (List.range (a + b)).map fun i => some ((i + 1 : Nat) : Int)
  rtsDtr : (rs.countP fun r => decide (r.resetClass = TriggerClass.rtsDtr.text)) = a
  software : (rs.countP fun r => decide (r.resetClass = TriggerClass.software.text)) = b
  /-- every row of the table counts the planned events of its class -/
  intended : ∀ row ∈ bootFieldTable (byClass rs),
    row.resetClass = TriggerClass.rtsDtr.text ∧ row.intended = a ∨
      row.resetClass = TriggerClass.software.text ∧ row.intended = b
  level : sequential = false → ∃ classes, rs.map SummaryRecord.resetClass =
    classes.map TriggerClass.text ∧ KeepsLevel a b classes

/-- **THE NUMBERS OF A CAMPAIGN**: whatever happens during its events, when it comes to its end the
    analysis of its file is made of as many records as were planned, numbered in order, with the
    planned number of each class in the table, and interleaved, unless they were to be run one class
    behind the other. -/
theorem campaign_analysed {fmt : ℚ → CText} {read : ℚ → ℚ} (hf : NumFormat fmt read)
    (hint : ∀ n : Int, read n = n) (sep : LineSep) {reachable sequential : Bool}
    {event : Nat → Option Happened} {a b : Nat} {records : List SavedRecord}
    (h : campaign reachable event sequential a b = some records)
    (hq : ∀ r ∈ records, ∀ q ∈ r.record.httpRecoveryS, read q = q) :
    ∃ rs, analysed [some (summaryFile sep fmt records)] [] = some rs ∧
      CampaignAnalysed sequential a b rs := by
  have hrun : runEvents event 0 (resetSequence sequential a b) = some records := by
    unfold campaign at h
    split_ifs at h
    exact h
  obtain ⟨hindex, hclass⟩ := runEvents_records hrun
  obtain ⟨hca, hcb⟩ := resetSequence_counts sequential a b
  have hlen := resetSequence_length sequential a b
  have hrecorded : recorded [some records] [] = records := by
    simp only [recorded, List.map_cons, List.map_nil, Option.getD_some, List.flatten_cons,
      List.flatten_nil, List.append_nil]
  have hload : loadRecords [some (summaryFile sep fmt records)] [] =
      some (records.map fun r => readBack read r.json) := by
    have h := loadRecords_files hf sep [some records] []
    rwa [hrecorded] at h
  have hclasses : (records.map fun r => r.record.asdict).map SummaryRecord.resetClass =
      (resetSequence sequential a b).map TriggerClass.text := by
    rw [List.map_map]
    exact hclass
  have hcount : ∀ c : TriggerClass, ((records.map fun r => r.record.asdict).countP
      fun r => decide (r.resetClass = c.text)) = (resetSequence sequential a b).count c := by
    intro c
    have h := congrArg (List.count c.text) hclasses
    rw [List.count_map_of_injective _ _ TriggerClass.text_injective] at h
    rw [← h, List.count]
    refine Eq.trans (List.countP_congr fun r _ => ?_) List.countP_map.symm
    rw [Function.comp_apply, decide_eq_true_iff, beq_iff_eq]
  refine ⟨records.map fun r => r.record.asdict, ?_, ?_, ?_, (hcount .rtsDtr).trans hca,
    (hcount .software).trans hcb, fun row hrow => ?_, fun hs => ?_⟩
  · rw [analysed, hload, Option.bind_some]
    exact summaryRecords hint hq
  · rw [← List.length_map SummaryRecord.resetClass, hclasses, List.length_map, hlen]
  · rw [List.map_map, ← hlen]
    refine hindex.trans (List.map_congr_left fun i _ => ?_)
    rw [show 0 + 1 + i = i + 1 by omega]
  · have hcounts : CountsOnce (records.map fun r => r.record.asdict) SummaryRecord.resetClass
        (bootFieldTable (byClass (records.map fun r => r.record.asdict))) BootFieldRow.resetClass
        BootFieldRow.intended := countsOnce_groups (fun _ _ => rfl) fun _ _ => rfl
    have hcounted := hcounts.counted row hrow
    obtain ⟨g, hg, rfl⟩ := List.mem_map.mp hrow
    have hkey : g.1 ∈ (records.map fun r => r.record.asdict).map SummaryRecord.resetClass :=
      ((GroupBy.groups _ _).keys g.1).mp (List.mem_map_of_mem hg)
    rw [hclasses] at hkey
    obtain ⟨c, -, hc⟩ := List.mem_map.mp hkey
    have hrowKey : (bootFieldRow g.1 g.2).resetClass = c.text := hc.symm
    rw [hrowKey, hcount c] at hcounted
    cases c with
    | rtsDtr => exact Or.inl ⟨hrowKey, hcounted.trans hca⟩
    | software => exact Or.inr ⟨hrowKey, hcounted.trans hcb⟩
  · subst hs
    exact ⟨_, hclasses, resetSequence_balanced a b⟩

set_option maxRecDepth 4000 in
/-- Three resets, two of the one class and one of the other, of which the last is silent. -/
theorem campaign_analysed_answering :
    ∃ rs, analysed [some (summaryFile .lf intText
        [answering.saved 1 .rtsDtr, answering.saved 2 .software, silent.saved 3 .rtsDtr])] [] =
          some rs ∧
      CampaignAnalysed false 2 1 rs := by
  have hrun : campaign true (fun i => some (if i < 3 then answering else silent)) false 2 1 =
      some [answering.saved 1 .rtsDtr, answering.saved 2 .software, silent.saved 3 .rtsDtr] := rfl
  refine campaign_analysed intFormat (fun n => by rw [Rat.num_intCast]) .lf hrun fun r hr => ?_
  simp only [List.mem_cons, List.not_mem_nil, or_false] at hr
  rcases hr with rfl | rfl | rfl
  · exact answering_recovery _ _
  · exact answering_recovery _ _
  · exact silent_recovery _ _

end DragonBench
