/-
  File:      DragonBench/Capture.lean
  Subject:   WHAT A CAPTURE SHOWS: `analyze_capture` (`tools/reset_characterization.py`), over every
             list of lines.

  A line is stripped of its colours and goes through one detector after the other; the fields of
  the reset keep the first value seen, the flags stay up. A line with the ROM banner is counted,
  and none of the detectors sees it.

  * `analyzeLine`, `analyzeCapture` -- the loop, the segment each field was read in as history;
  * `AnomalyFlag`, `marked` -- the four flags and their markers;
  * `analyzeCapture_flag` -- what raises a flag;
  * **`flags_exact_iff`** -- the flags are exact when no marker is on banner lines alone;
  * `panic_missed` -- a panic message that a reset cuts short.
-/
import DragonBench.Lib.Regex
import DragonBench.Lib.Rounding
import Mathlib.Data.List.Infix

namespace DragonBench

/-! ## 1. The patterns -/

/-- `RST_BOOT_RE`. -/
def rstBootRe : Regex :=
  let number := Regex.group (.seq (.text "0x".toList) (.plus Regex.isHex))
  let name := .seq (.many Regex.isSpace) (.seq (.text "(".toList)
    (.seq (.group (.plus fun c => decide (c ≠ ')'))) (.text ")".toList)))
  .seq (.text "rst:".toList) (.seq number (.seq name (.seq (.few Regex.notNewline)
    (.seq (.text "boot:".toList) (.seq number name)))))

/-- `FLASH_SIZE_RE`. -/
def flashSizeRe : Regex :=
  .seq (.text "SPI Flash Size".toList) (.seq (.many Regex.isSpace) (.seq (.text ":".toList)
    (.seq (.many Regex.isSpace) (.group (.plus fun c => !Regex.isSpace c)))))

/-- `PSRAM_FOUND_RE`. -/
def psramFoundRe : Regex :=
  .seq (.text "esp_psram:".toList) (.seq (.many Regex.isSpace) (.seq (.text "Found".toList)
    (.seq (.plus Regex.isSpace) (.seq (.group (.plus fun c => !Regex.isSpace c))
      (.seq (.plus Regex.isSpace) (.text "PSRAM device".toList))))))

/-- `PSRAM_TEST_OK_RE`. -/
def psramTestOkRe : Regex :=
  .seq (.textIgnoreCase "esp_psram:".toList) (.seq (.many Regex.notNewline)
    (.textIgnoreCase "memory test ok".toList))

/-- `PSRAM_TEST_FAIL_RE`. -/
def psramTestFailRe : Regex :=
  .seq (.textIgnoreCase "esp_psram:".toList) (.seq (.many Regex.notNewline)
    (.seq (.textIgnoreCase "memory test".toList) (.seq (.plus Regex.isSpace)
      (.group (.alt (.textIgnoreCase "fail".toList) (.textIgnoreCase "failed".toList))))))

/-- The colour codes. -/
def ansiRe : Regex :=
  .seq (.text ['\x1b', '[']) (.seq (.many fun c => c.isDigit || c = ';') (.text "m".toList))

/-- `strip_ansi`. -/
def stripAnsi (text : CText) : CText := ansiRe.remove text

def phyWarning : CText := "saving new calibration data because of checksum failure".toList

/-- `ROM_BANNER in line`. -/
def hasBanner (line : CText) : Bool := decide ("ESP-ROM:esp32s3".toList <:+: line)

/-- The flags that a marker raises. -/
inductive AnomalyFlag where
  | panic | wdt | brownout | downloadMode
  deriving DecidableEq, Repr

/-- `PANIC_MARKERS`, `WDT_MARKERS`, `BROWNOUT_MARKER` and `DOWNLOAD_MODE_MARKER`. -/
def AnomalyFlag.markers : AnomalyFlag → List CText
  | .panic => ["Guru Meditation Error".toList, "abort() was called".toList]
  | .wdt => ["Task watchdog got triggered".toList, "Interrupt wdt timeout".toList]
  | .brownout => ["Brownout detector was triggered".toList]
  | .downloadMode => ["waiting for download".toList]

/-- `any(marker in line for marker in …)`. -/
def marked (f : AnomalyFlag) (line : CText) : Bool :=
  f.markers.any fun marker => decide (marker <:+: line)

/-! ## 2. What a line says -/

/-- The groups of a reset line. -/
structure ResetLine where
  rstRaw : CText
  rstName : CText
  bootRaw : CText
  bootName : CText
  deriving DecidableEq, Repr

def readReset (line : CText) : Option ResetLine :=
  match rstBootRe.search line with
  | some [rstRaw, rstName, bootRaw, bootName] => some ⟨rstRaw, rstName, bootRaw, bootName⟩
  | _ => none

def readFlashSize (line : CText) : Option CText := (flashSizeRe.search line).bind List.head?

def readPsramFound (line : CText) : Option CText := (psramFoundRe.search line).bind List.head?

inductive PsramTest where
  | pass | fail | notObserved
  deriving DecidableEq, Repr

def readPsramTest (line : CText) : Option PsramTest :=
  if (psramTestOkRe.search line).isSome then some .pass
  else if (psramTestFailRe.search line).isSome then some .fail
  else none

/-! ## 3. The loop -/

/-- The result of `analyze_capture`. -/
structure Analysis where
  romRstRaw : CText
  romRstName : CText
  romBootRaw : CText
  romBootName : CText
  flashSize : CText
  psramFound : CText
  psramTest : PsramTest
  phyWarningPresent : Bool
  phyWarningPosition : CText
  duplicateResetCount : Nat
  panic : Bool
  wdt : Bool
  brownout : Bool
  downloadMode : Bool
  deriving DecidableEq, Repr

def Analysis.initial : Analysis :=
  ⟨[], [], [], [], [], [], .notObserved, false, [], 0, false, false, false, false⟩

/-- The entry of a flag. -/
def Analysis.flag (a : Analysis) : AnomalyFlag → Bool
  | .panic => a.panic
  | .wdt => a.wdt
  | .brownout => a.brownout
  | .downloadMode => a.downloadMode

/-- History: the banners in front of the line a value was read from, where there is a value. -/
structure Origins where
  reset : Nat
  flashSize : Nat
  psramFound : Nat
  psramTest : Nat
  deriving DecidableEq, Repr

/-- The variables of the loop. -/
structure CaptureState where
  result : Analysis
  bannerCount : Nat
  origins : Origins
  deriving DecidableEq, Repr

def CaptureState.initial : CaptureState := ⟨.initial, 0, ⟨0, 0, 0, 0⟩⟩

namespace CaptureState

variable (s : CaptureState) (line : CText)

/-- `if not result["rom_rst_raw"]`. -/
def takeReset : CaptureState :=
  if s.result.romRstRaw = [] then
    match readReset line with
    | some m =>
      { s with
        result := { s.result with
          romRstRaw := m.rstRaw
          romRstName := m.rstName
          romBootRaw := m.bootRaw
          romBootName := m.bootName }
        origins := { s.origins with reset := s.bannerCount } }
    | none => s
  else s

/-- `if not result["flash_size"]`. -/
def takeFlashSize : CaptureState :=
  if s.result.flashSize = [] then
    match readFlashSize line with
    | some m =>
      { s with
        result := { s.result with flashSize := m }
        origins := { s.origins with flashSize := s.bannerCount } }
    | none => s
  else s

/-- `if not result["psram_found"]`. -/
def takePsramFound : CaptureState :=
  if s.result.psramFound = [] then
    match readPsramFound line with
    | some m =>
      { s with
        result := { s.result with psramFound := m }
        origins := { s.origins with psramFound := s.bannerCount } }
    | none => s
  else s

/-- The memory test has no such guard. -/
def takePsramTest : CaptureState :=
  match readPsramTest line with
  | some m =>
    { s with
      result := { s.result with psramTest := m }
      origins := { s.origins with psramTest := s.bannerCount } }
  | none => s

/-- The first warning and where it is; times are seconds. -/
def takePhyWarning (sinceStart : ℚ) : CaptureState :=
  if phyWarning <:+: line ∧ s.result.phyWarningPresent = false then
    { s with result := { s.result with
      phyWarningPresent := true
      phyWarningPosition := "t+".toList ++ Rounding.fixed 2 sinceStart ++ "s".toList } }
  else s

def takeMarkers : CaptureState :=
  { s with result := { s.result with
    panic := s.result.panic || marked .panic line
    wdt := s.result.wdt || marked .wdt line
    brownout := s.result.brownout || marked .brownout line
    downloadMode := s.result.downloadMode || marked .downloadMode line } }

end CaptureState

/-- One turn of the loop. -/
def analyzeLine (t0 : ℚ) (s : CaptureState) (entry : ℚ × CText) : CaptureState :=
  let line := stripAnsi entry.2
  if hasBanner line then { s with bannerCount := s.bannerCount + 1 }
  else
    (((((s.takeReset line).takeFlashSize line).takePsramFound line).takePsramTest line).takePhyWarning
      line (entry.1 - t0)).takeMarkers line

/-- The loop. -/
def captureEnd (t0 : ℚ) (lines : List (ℚ × CText)) : CaptureState :=
  lines.foldl (analyzeLine t0) .initial

/-- `analyze_capture`. -/
def analyzeCapture (lines : List (ℚ × CText)) (t0 : ℚ) : Analysis :=
  let s := captureEnd t0 lines
  { s.result with duplicateResetCount := s.bannerCount - 1 }

/-! ## 4. The flags -/

section Flags

variable {t0 : ℚ} {s : CaptureState} {line : CText} {f : AnomalyFlag}

theorem takeReset_flag : (s.takeReset line).result.flag f = s.result.flag f := by
  unfold CaptureState.takeReset
  split
  · split <;> cases f <;> rfl
  · rfl

theorem takeFlashSize_flag : (s.takeFlashSize line).result.flag f = s.result.flag f := by
  unfold CaptureState.takeFlashSize
  split
  · split <;> cases f <;> rfl
  · rfl

theorem takePsramFound_flag : (s.takePsramFound line).result.flag f = s.result.flag f := by
  unfold CaptureState.takePsramFound
  split
  · split <;> cases f <;> rfl
  · rfl

theorem takePsramTest_flag : (s.takePsramTest line).result.flag f = s.result.flag f := by
  unfold CaptureState.takePsramTest
  split <;> cases f <;> rfl

theorem takePhyWarning_flag {q : ℚ} :
    (s.takePhyWarning line q).result.flag f = s.result.flag f := by
  unfold CaptureState.takePhyWarning
  split <;> cases f <;> rfl

theorem takeMarkers_flag :
    (s.takeMarkers line).result.flag f = (s.result.flag f || marked f line) := by
  cases f <;> rfl

/-- A line without the banner raises the flags it has a marker of; one with it raises none. -/
theorem analyzeLine_flag (entry : ℚ × CText) :
    (analyzeLine t0 s entry).result.flag f =
      (s.result.flag f || (!hasBanner (stripAnsi entry.2) && marked f (stripAnsi entry.2))) := by
  unfold analyzeLine
  dsimp only
  split
  · rename_i hb
    rw [hb, Bool.not_true, Bool.false_and, Bool.or_false]
  · rename_i hb
    rw [takeMarkers_flag, takePhyWarning_flag, takePsramTest_flag, takePsramFound_flag,
      takeFlashSize_flag, takeReset_flag, eq_false_of_ne_true hb, Bool.not_false, Bool.true_and]

theorem foldl_flag (lines : List (ℚ × CText)) :
    (lines.foldl (analyzeLine t0) s).result.flag f =
      (s.result.flag f || lines.any fun e =>
        !hasBanner (stripAnsi e.2) && marked f (stripAnsi e.2)) := by
  induction lines generalizing s with
  | nil => exact (Bool.or_false _).symm
  | cons e lines ih => rw [List.foldl_cons, ih, analyzeLine_flag, List.any_cons, Bool.or_assoc]

end Flags

/-- The lines on which a flag is marked. -/
def markedLines (f : AnomalyFlag) (lines : List (ℚ × CText)) : List CText :=
  (lines.map fun e => stripAnsi e.2).filter (marked f)

/-- **A flag is up exactly when a line without the banner has a marker of it.** -/
theorem analyzeCapture_flag (lines : List (ℚ × CText)) (t0 : ℚ) (f : AnomalyFlag) :
    (analyzeCapture lines t0).flag f = true ↔
      ∃ line ∈ markedLines f lines, hasBanner line = false := by
  have hfold : (analyzeCapture lines t0).flag f = (captureEnd t0 lines).result.flag f := by
    cases f <;> rfl
  have hstart : CaptureState.initial.result.flag f = false := by
    cases f <;> rfl
  rw [hfold, captureEnd, foldl_flag, hstart, Bool.false_or, List.any_eq_true]
  unfold markedLines
  simp only [List.mem_filter, List.mem_map, Bool.and_eq_true, Bool.not_eq_true']
  constructor
  · rintro ⟨e, he, hb, hm⟩
    exact ⟨_, ⟨⟨e, he, rfl⟩, hm⟩, hb⟩
  · rintro ⟨line, ⟨⟨e, he, rfl⟩, hm⟩, hb⟩
    exact ⟨e, he, hb, hm⟩

/-- **The flags are exact**: each is up exactly when a line has a marker of it, whatever else is on
    the line. -/
def FlagsExact (lines : List (ℚ × CText)) (t0 : ℚ) : Prop :=
  ∀ f, (analyzeCapture lines t0).flag f = true ↔ markedLines f lines ≠ []

/-- **No flag has its markers on banner lines alone.** -/
def MarkedBesideBanners (lines : List (ℚ × CText)) : Prop :=
  ∀ f, markedLines f lines ≠ [] → ∃ line ∈ markedLines f lines, hasBanner line = false

/-- **The flags are exact when no flag has its markers on banner lines alone**, and only then. -/
theorem flags_exact_iff (lines : List (ℚ × CText)) (t0 : ℚ) :
    FlagsExact lines t0 ↔ MarkedBesideBanners lines := by
  refine forall_congr' fun f => ?_
  rw [analyzeCapture_flag]
  constructor
  · exact fun h => h.mpr
  · refine fun h => ⟨fun ⟨line, hl, _⟩ e => ?_, h⟩
    rw [e] at hl
    cases hl

/-- The message of a panic, and the banner behind it on the line. -/
def cutPanic : List (ℚ × CText) :=
  [(1, "Guru Meditation Error: Core  0 panESP-ROM:esp32s3-20210327".toList)]

set_option maxRecDepth 8000 in
/-- **A panic message that a reset cuts short is missed.** -/
theorem panic_missed :
    markedLines .panic cutPanic ≠ [] ∧ (analyzeCapture cutPanic 0).panic = false ∧
      ¬ FlagsExact cutPanic 0 := by
  have hmarked : markedLines .panic cutPanic ≠ [] := by decide +kernel
  have hpanic : (analyzeCapture cutPanic 0).panic = false := by decide +kernel
  refine ⟨hmarked, hpanic, fun h => ?_⟩
  have hup := (h .panic).mpr hmarked
  rw [Analysis.flag, hpanic] at hup
  cases hup

end DragonBench
