/-
  File:      DragonBench/Phases.lean
  Subject:   THE TWO CAMPAIGNS ON ONE RESET: the record of `run_event`, whose reader thread splits the
             bytes of the port, and the record of `phase2_extract`, which reads them back from the
             log of `phase2_monitor`, say the same of the lines of the reset.

  The one takes the lines of its reader from the trigger up to the end of the settling time, the
  other the lines of the file whose stamps lie in the window of the command line. They may have read
  the stream in other pieces, and have stamped it with other clocks; of all that is read from the
  lines only the place of the PHY warning depends on the clock.

  * `Analysis.placed` -- an analysis with another place of the warning;
  * `analyzeCapture_texts` -- `analyze_capture` by the texts of the lines;
  * `loadRawLines_window` -- `load_raw_lines` takes the records in its window;
  * `SameCapture`, **`phases_agree`** -- what the two records say.
-/
import DragonBench.Anomalies
import DragonBench.RawLog
import DragonBench.ReadLoop

namespace DragonBench

open Transition Lines TextFile DateTime

/-! ## 1. An analysis by the texts -/

/-- The same with the warning at this place. -/
def Analysis.placed (a : Analysis) (p : CText) : Analysis := { a with phyWarningPosition := p }

def CaptureState.placed (s : CaptureState) (p : CText) : CaptureState :=
  { s with result := s.result.placed p }

section Placed

variable (s : CaptureState) (line p : CText)

theorem takeReset_placed : (s.placed p).takeReset line = (s.takeReset line).placed p := by
  unfold CaptureState.takeReset CaptureState.placed Analysis.placed
  dsimp only
  split
  · cases readReset line <;> rfl
  · rfl

theorem takeFlashSize_placed :
    (s.placed p).takeFlashSize line = (s.takeFlashSize line).placed p := by
  unfold CaptureState.takeFlashSize CaptureState.placed Analysis.placed
  dsimp only
  split
  · cases readFlashSize line <;> rfl
  · rfl

theorem takePsramFound_placed :
    (s.placed p).takePsramFound line = (s.takePsramFound line).placed p := by
  unfold CaptureState.takePsramFound CaptureState.placed Analysis.placed
  dsimp only
  split
  · cases readPsramFound line <;> rfl
  · rfl

theorem takePsramTest_placed :
    (s.placed p).takePsramTest line = (s.takePsramTest line).placed p := by
  unfold CaptureState.takePsramTest
  cases readPsramTest line <;> rfl

/-- The first warning leaves its own place. -/
theorem takePhyWarning_placed (q q' : ℚ) :
    ∃ p', (s.placed p).takePhyWarning line q' = (s.takePhyWarning line q).placed p' := by
  unfold CaptureState.takePhyWarning
  have hpresent : (s.placed p).result.phyWarningPresent = s.result.phyWarningPresent := rfl
  rw [hpresent]
  split
  · exact ⟨_, rfl⟩
  · exact ⟨p, rfl⟩

theorem takeMarkers_placed : (s.placed p).takeMarkers line = (s.takeMarkers line).placed p := rfl

/-- **One turn of the loop**, of two lines with one text. -/
theorem analyzeLine_placed (t0 t0' : ℚ) {e e' : ℚ × CText} (h : e'.2 = e.2) :
    ∃ p', analyzeLine t0' (s.placed p) e' = (analyzeLine t0 s e).placed p' := by
  unfold analyzeLine
  rw [h]
  dsimp only
  split
  · exact ⟨p, rfl⟩
  · rw [takeReset_placed, takeFlashSize_placed, takePsramFound_placed, takePsramTest_placed]
    obtain ⟨p', hp'⟩ := takePhyWarning_placed
      ((((s.takeReset (stripAnsi e.2)).takeFlashSize (stripAnsi e.2)).takePsramFound
        (stripAnsi e.2)).takePsramTest (stripAnsi e.2)) (stripAnsi e.2) p (e.1 - t0) (e'.1 - t0')
    rw [hp', takeMarkers_placed]
    exact ⟨p', rfl⟩

end Placed

/-- The loop. -/
theorem foldl_placed (t0 t0' : ℚ) {lines lines' : List (ℚ × CText)}
    (h : lines'.map Prod.snd = lines.map Prod.snd) (s : CaptureState) (p : CText) :
    ∃ p', lines'.foldl (analyzeLine t0') (s.placed p) = (lines.foldl (analyzeLine t0) s).placed p' := by
  induction lines generalizing lines' s p with
  | nil =>
      rw [List.map_nil, List.map_eq_nil_iff] at h
      rw [h]
      exact ⟨p, rfl⟩
  | cons e lines ih =>
      cases lines' with
      | nil => cases h
      | cons e' lines' =>
          rw [List.map_cons, List.map_cons] at h
          obtain ⟨p', hp'⟩ := analyzeLine_placed s p t0 t0' (List.cons.inj h).1
          rw [List.foldl_cons, List.foldl_cons, hp']
          exact ih (List.cons.inj h).2 _ p'

/-- **`analyze_capture` by the texts**: with other times it differs in the place of the warning. -/
theorem analyzeCapture_texts (t0 t0' : ℚ) {lines lines' : List (ℚ × CText)}
    (h : lines'.map Prod.snd = lines.map Prod.snd) :
    ∃ p, analyzeCapture lines' t0' = (analyzeCapture lines t0).placed p := by
  obtain ⟨p, hp⟩ := foldl_placed t0 t0' h .initial []
  refine ⟨p, ?_⟩
  unfold analyzeCapture captureEnd
  have hinitial : CaptureState.initial.placed [] = .initial := rfl
  rw [hinitial] at hp
  rw [hp]
  rfl

/-! ## 2. The window of the file -/

section Window

variable {reader : IsoReader} {start stop : Int} {sep : LineSep} {r : RawRecord}
  {records : List RawRecord}

/-- A record is in the window. -/
def RawRecord.Within (start stop : Int) (r : RawRecord) : Prop :=
  start ≤ r.instant ∧ r.instant ≤ stop

instance (start stop : Int) (r : RawRecord) : Decidable (r.Within start stop) :=
  inferInstanceAs (Decidable (_ ∧ _))

/-- A stamp that is read in the window of its instant alone is read so in every window. -/
theorem loadStamped_at {body : CText} {i : Int} {x : Int × CText}
    (h : loadStamped reader i i body = some (some x)) :
    loadStamped reader start stop body =
      if start ≤ i ∧ i ≤ stop then some (some (i - start, x.2)) else some none := by
  unfold loadStamped at h ⊢
  split at h
  · cases h
  · split at h
    · cases h
    · cases h
    · next ts _ =>
        split_ifs at h with hi
        · obtain rfl : ts = i := le_antisymm hi.2 hi.1
          cases h
          rfl
        · cases h

/-- A record outside is passed over. -/
theorem loadRawLine_outside (h : ¬ r.Within start stop) :
    loadRawLine reader start stop r.line = some none := by
  have hown : loadRawLine reader r.instant r.instant r.line =
      some (some (r.instant - r.instant, r.text)) :=
    loadRawLine_record ⟨le_refl r.instant, le_refl r.instant⟩
  exact (loadStamped_at hown).trans (if_neg h)

/-- **`load_raw_lines` takes the records in its window**, when no text holds a line boundary. -/
theorem loadRawLines_window (hplain : ∀ r ∈ records, ∀ c ∈ r.text, isBreak c = false) :
    texts (loadRawLines reader (some (rawFile sep records)) start stop) =
      some ((records.filter fun r => decide (r.Within start stop)).map RawRecord.text) := by
  show texts (loadLines reader start stop (readLines (rawFile sep records))) = _
  induction records with
  | nil => rfl
  | cons r records ih =>
      have ih := ih fun t ht => hplain t (List.mem_cons_of_mem r ht)
      rw [readLines_record (hplain r List.mem_cons_self)]
      by_cases h : r.Within start stop
      · rw [texts_cons h, ih, List.filter_cons, if_pos (decide_eq_true h)]
        rfl
      · rw [List.filter_cons, if_neg (by rw [decide_eq_false h]; exact Bool.false_ne_true), ← ih,
          loadLines, List.mapM_cons, loadRawLine_outside h]
        show texts (Option.map List.reduceOption ((readLines (rawFile sep records)).mapM
          (loadRawLine reader start stop) >>= fun entries => some (none :: entries))) = _
        unfold loadLines
        cases (readLines (rawFile sep records)).mapM (loadRawLine reader start stop) with
        | none => rfl
        | some entries => rfl

end Window

/-! ## 3. The two records -/

/-- **What two records say of the lines**, but for the place of the warning. -/
structure SameCapture (r r' : EventRecord) : Prop where
  romRstRaw : r.romRstRaw = r'.romRstRaw
  romRstName : r.romRstName = r'.romRstName
  romBootRaw : r.romBootRaw = r'.romBootRaw
  romBootName : r.romBootName = r'.romBootName
  flashSize : r.flashSize = r'.flashSize
  psramFound : r.psramFound = r'.psramFound
  psramTest : r.psramTest = r'.psramTest
  phyWarningPresent : r.phyWarningPresent = r'.phyWarningPresent
  duplicateResetCount : r.duplicateResetCount = r'.duplicateResetCount
  panic : r.panic = r'.panic
  wdt : r.wdt = r'.wdt
  brownout : r.brownout = r'.brownout
  downloadMode : r.downloadMode = r'.downloadMode

/-- One text is enough for both. -/
theorem sameCapture_of_texts {t : TriggeredEvent} {e : ExtractedEvent}
    (h : e.rawLines.map Prod.snd = (t.settled.snapshotSince t.t0).map Prod.snd) :
    SameCapture t.record e.record := by
  have htexts : (e.rawLines.map fun line => ((line.1 : ℚ) / 1000, line.2)).map Prod.snd =
      (t.settled.snapshotSince t.t0).map Prod.snd := by
    rw [List.map_map]
    exact h
  obtain ⟨p, hp⟩ := analyzeCapture_texts t.t0 0 htexts
  have ha : e.analysis = t.analysis.placed p := hp
  constructor <;>
    · unfold TriggeredEvent.record ExtractedEvent.record
      dsimp only
      rw [ha]
      rfl

/-- The window of the trigger: the lines the reader had recorded before, and those behind. -/
structure TriggerWindow (t : TriggeredEvent) (before inside : List (ℚ × CText)) : Prop where
  lines : t.settled.lines = before ++ inside
  before : ∀ l ∈ before, l.1 < t.t0
  inside : ∀ l ∈ inside, t.t0 ≤ l.1

/-- The window of the command line: what the monitor has logged before, inside, and behind. -/
structure FileWindow (m : Monitor) (start stop : Int) (before inside behind : List RawRecord) :
    Prop where
  raw : m.raw = before ++ inside ++ behind
  inside : ∀ r ∈ inside, r.Within start stop
  before : ∀ r ∈ before, ¬ r.Within start stop
  behind : ∀ r ∈ behind, ¬ r.Within start stop

/-- The anomalies that are read from the lines. -/
def Anomaly.ofLines : Anomaly → Bool
  | .recoveryNotObserved | .portLost => false
  | _ => true

/-- Such a condition is the same of both records. -/
theorem SameCapture.condition {r r' : EventRecord} (S : SameCapture r r') {a : Anomaly}
    (ha : Anomaly.ofLines a = true) : r.condition a = r'.condition a := by
  cases a with
  | marker f =>
      cases f with
      | panic => exact S.panic
      | wdt => exact S.wdt
      | brownout => exact S.brownout
      | downloadMode => exact S.downloadMode
  | duplicateReset => exact congrArg (fun n => decide (n ≠ 0)) S.duplicateResetCount
  | noRomBanner => exact congrArg (fun s => decide (s = [])) S.romRstRaw
  | unexpectedBootField =>
      exact congrArg (fun s => decide (s ≠ []) && decide (s ∉ expectedBootFields)) S.romBootRaw
  | recoveryNotObserved | portLost => cases ha

section Agree

variable {t : TriggeredEvent} {e : ExtractedEvent} {m : Monitor} {reader : IsoReader} {sep : LineSep}
  {start stop : Int} {stream later : CText} {chunks chunks' : List CText}
  {old new : List (ℚ × CText)} {before inside behind : List RawRecord}

/-- What `snapshot_since` returns. -/
theorem TriggerWindow.snapshot (w : TriggerWindow t old new) : t.settled.snapshotSince t.t0 = new := by
  have hold : old.filter (fun line => decide (t.t0 ≤ line.1)) = [] :=
    List.filter_eq_nil_iff.mpr fun l hl => by
      rw [decide_eq_true_eq, not_le]
      exact w.before l hl
  have hnew : new.filter (fun line => decide (t.t0 ≤ line.1)) = new :=
    List.filter_eq_self.mpr fun l hl => decide_eq_true (w.inside l hl)
  rw [SerialReader.snapshotSince, w.lines, List.filter_append, hold, hnew, List.nil_append]

/-- What stands in the window of the file. -/
theorem FileWindow.filter (w : FileWindow m start stop before inside behind) :
    (m.raw.filter fun r => decide (r.Within start stop)) = inside := by
  have hbefore : before.filter (fun r => decide (r.Within start stop)) = [] :=
    List.filter_eq_nil_iff.mpr fun r hr => by
      rw [decide_eq_true_eq]
      exact w.before r hr
  have hbehind : behind.filter (fun r => decide (r.Within start stop)) = [] :=
    List.filter_eq_nil_iff.mpr fun r hr => by
      rw [decide_eq_true_eq]
      exact w.behind r hr
  have hinside : inside.filter (fun r => decide (r.Within start stop)) = inside :=
    List.filter_eq_self.mpr fun r hr => decide_eq_true (w.inside r hr)
  rw [w.raw, List.filter_append, List.filter_append, hbefore, hbehind, hinside, List.nil_append,
    List.append_nil]

/-- **THE TWO CAMPAIGNS AGREE ON A RESET**: when both programs read the stream of the port while it
    stays, in pieces of any kind, and their windows begin behind the same line and hold as many, then
    all that the two records say of the lines is the same, but for the place of the PHY warning, and
    the captures show the same of the conditions that are read from lines. -/
theorem phases_agree {vidPid port hwid : CText} (h1 : ReaderReads chunks t.settled)
    (hc1 : chunks.flatten = stream) (h2 : MonitorReads vidPid port hwid chunks' m)
    (hc2 : chunks'.flatten = stream ++ later) (w1 : TriggerWindow t old new)
    (w2 : FileWindow m start stop before inside behind) (hbegin : before.length = old.length)
    (hlength : inside.length = new.length)
    (hplain : ∀ line ∈ streamLines (stream ++ later), ∀ c ∈ line, isBreak c = false)
    (hload : texts (loadRawLines reader (some (rawFile sep m.raw)) start stop) =
      some (e.rawLines.map Prod.snd)) :
    SameCapture t.record e.record ∧ ∀ a, Anomaly.ofLines a = true →
      (ResetEvent.triggered t).shows a = (ResetEvent.extracted e).shows a := by
  have hlines := reader_lines h1
  have hraw := monitor_lines h2
  rw [hc1, w1.lines, List.map_append] at hlines
  rw [hc2] at hraw
  -- the longer stream begins with the lines of the shorter one
  obtain ⟨rest, hrest⟩ := Chunks.terminated_append '\n' stream later
  have hfront : streamLines (stream ++ later) = streamLines stream ++ rest.map lineText := by
    rw [streamLines, hrest, List.map_append]
    rfl
  rw [hfront, ← hlines, w2.raw, List.map_append, List.map_append, List.append_assoc,
    List.append_assoc] at hraw
  obtain ⟨-, hraw⟩ := List.append_inj hraw (by rw [List.length_map, List.length_map, hbegin])
  obtain ⟨hinside, -⟩ := List.append_inj hraw (by rw [List.length_map, List.length_map, hlength])
  have hwindow : texts (loadRawLines reader (some (rawFile sep m.raw)) start stop) =
      some ((m.raw.filter fun r => decide (r.Within start stop)).map RawRecord.text) :=
    loadRawLines_window fun r hr => hplain r.text (by
      rw [← hc2, ← monitor_lines h2]
      exact List.mem_map_of_mem hr)
  rw [hload, w2.filter, hinside] at hwindow
  have htexts : e.rawLines.map Prod.snd = (t.settled.snapshotSince t.t0).map Prod.snd := by
    rw [w1.snapshot]
    exact Option.some.inj hwindow
  have S := sameCapture_of_texts htexts
  refine ⟨S, fun a ha => ?_⟩
  have hne : a ≠ .portLost := by
    rintro rfl
    cases ha
  rw [← t.record_condition, S.condition ha, e.record_condition, decide_eq_true hne, Bool.true_and]

end Agree

/-! ## 4. One reset, read twice -/

/-- A line of the last boot, then the banner and the reset line. -/
def resetStream : CText :=
  "idle\r\nESP-ROM:esp32s3\r\nrst:0x1 (POWERON),boot:0x9 (SPI_FAST_FLASH_BOOT)\r\n".toList

/-- The pieces of the reader thread, and what the monitor reads at once. -/
def resetChunks : List CText := [resetStream.take 9, resetStream.drop 9]

/-- The reader behind the three lines, of which two come behind the trigger. -/
def resetReader : SerialReader :=
  ⟨.reading, [], [(99, "idle".toList), (100, "ESP-ROM:esp32s3".toList),
    (201 / 2, "rst:0x1 (POWERON),boot:0x9 (SPI_FAST_FLASH_BOOT)".toList)], [], false⟩

def resetTriggered : TriggeredEvent :=
  ⟨1, "software".toList, some false, some false, 100, resetReader, resetReader,
    ⟨"power_on".toList, some true, some 4100, .polled (.reply (statusAt 3300))⟩⟩

/-- The three times of the monitor; the second is the stamp of the other examples. -/
def idleStamp : Utc := ⟨⟨2026, 9, 12, 15, 9, 40, 0⟩, by decide⟩

def resetStamp : Utc := ⟨⟨2026, 9, 12, 15, 9, 52, 386000⟩, by decide⟩

def resetMonitor : Monitor :=
  benchMonitor.runEnd benchStart
    [.read resetStream, .line idleStamp, .line benchStamp, .line resetStamp]

/-- What is loaded of its log: the window begins a second before the banner. -/
def resetExtracted : ExtractedEvent where
  index := 1
  resetClass := .enButton
  rawLines := [(1000, "ESP-ROM:esp32s3".toList),
    (2000, "rst:0x1 (POWERON),boot:0x9 (SPI_FAST_FLASH_BOOT)".toList)]
  portEvents := []
  httpEvents := []

def resetWindow : Int × Int :=
  (benchStamp.toMillis.micros - 1000000, benchStamp.toMillis.micros + 30000000)

set_option maxRecDepth 20000 in
/-- Both records name the unexpected boot field. -/
theorem phases_agree_reset :
    SameCapture resetTriggered.record resetExtracted.record ∧
      (ResetEvent.extracted resetExtracted).shows .unexpectedBootField = true := by
  have h1 : ReaderReads resetChunks resetTriggered.settled :=
    ⟨[.read (resetStream.take 9), .line 99, .read (resetStream.drop 9), .line 100, .line (201 / 2)],
      by decide +kernel, by decide, by decide +kernel, Or.inl rfl⟩
  have h2 : MonitorReads benchVidPid "COM5".toList benchHwid [resetStream] resetMonitor :=
    ⟨[.read resetStream, .line idleStamp, .line benchStamp, .line resetStamp],
      by decide +kernel, by decide, by decide +kernel, by decide +kernel⟩
  have w1 : TriggerWindow resetTriggered (resetReader.lines.take 1) (resetReader.lines.drop 1) :=
    ⟨by decide +kernel, by decide +kernel, by decide +kernel⟩
  have w2 : FileWindow resetMonitor resetWindow.1 resetWindow.2 (resetMonitor.raw.take 1)
      (resetMonitor.raw.drop 1) [] :=
    ⟨by decide +kernel, by decide +kernel, by decide +kernel, by decide⟩
  have hall : ((streamLines (resetStream ++ [])).all fun line =>
      line.all fun c => decide (isBreak c = false)) = true := by decide +kernel
  have hplain : ∀ line ∈ streamLines (resetStream ++ []), ∀ c ∈ line, isBreak c = false :=
    fun line hl => CText.forall_of_all (List.all_eq_true.mp hall line hl)
  have hread : [resetStream].flatten = resetStream ++ [] := by decide
  have hload : texts (loadRawLines utcReader (some (rawFile .crlf resetMonitor.raw)) resetWindow.1
      resetWindow.2) = some (resetExtracted.rawLines.map Prod.snd) := by
    decide +kernel
  obtain ⟨hsame, hshows⟩ := phases_agree h1 (by decide) h2 hread w1 w2 (by decide +kernel)
    (by decide +kernel) hplain hload
  refine ⟨hsame, ?_⟩
  rw [← hshows _ rfl]
  decide +kernel

end DragonBench
