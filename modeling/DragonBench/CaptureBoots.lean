/-
  File:      DragonBench/CaptureBoots.lean
  Subject:   WHOSE VALUES? The boots of a capture, and the boot each value of `analyze_capture` was
             read in (`tools/reset_characterization.py`).

  A capture can hold several boots, one behind each ROM banner. The reset line, the flash size and
  the PSRAM size are the first ones seen, the memory test is the last one seen; nothing ties them
  to one boot.

  * `bootSegments` -- the lines between the banners;
  * `CaptureState.held` -- the values of the loop, each with its boot;
  * `captured_reset`, `captured_psramTest` -- first of the capture, last of the capture;
  * `OneBoot` -- the values are those of one boot, and its failed memory test is reported;
  * **`one_boot_iff`** -- when they are;
  * `failure_replaced` -- a failed memory test, and a second boot that passes.
-/
import DragonBench.Capture
import DragonBench.Lib.Segments

namespace DragonBench

open Segments

/-! ## 1. Boots and values -/

/-- What is between the banners; the first segment is in front of all of them. -/
def bootSegments (lines : List (ℚ × CText)) : List (List CText) :=
  (lines.map fun e => stripAnsi e.2).splitOnP hasBanner

/-- The values read so far, each with the number of its segment. -/
structure HeldValues where
  bannerCount : Nat
  reset : Option (Nat × ResetLine)
  flashSize : Option (Nat × CText)
  psramFound : Option (Nat × CText)
  psramTest : Option (Nat × PsramTest)
  deriving DecidableEq, Repr

/-- A text that is not empty and a test that was observed have been read. -/
def CaptureState.held (s : CaptureState) : HeldValues where
  bannerCount := s.bannerCount
  reset :=
    if s.result.romRstRaw = [] then none
    else some (s.origins.reset,
      ⟨s.result.romRstRaw, s.result.romRstName, s.result.romBootRaw, s.result.romBootName⟩)
  flashSize :=
    if s.result.flashSize = [] then none else some (s.origins.flashSize, s.result.flashSize)
  psramFound :=
    if s.result.psramFound = [] then none else some (s.origins.psramFound, s.result.psramFound)
  psramTest :=
    if s.result.psramTest = .notObserved then none
    else some (s.origins.psramTest, s.result.psramTest)

/-! ## 2. One line -/

section Reading

variable {line : CText} {s : CaptureState}

/-- No reading is an empty text. -/
theorem readReset_ne_nil {m : ResetLine} (h : readReset line = some m) : m.rstRaw ≠ [] := by
  unfold readReset at h
  split at h
  · rename_i hs
    cases h
    exact Regex.search_groups hs rfl _ List.mem_cons_self
  · cases h

theorem readGroup_ne_nil {r : Regex} {m : CText} (hr : r.groupsConsume = true)
    (h : (r.search line).bind List.head? = some m) : m ≠ [] := by
  obtain ⟨g, hs, hm⟩ := Option.bind_eq_some_iff.mp h
  exact Regex.search_groups hs hr _ (List.mem_of_head? hm)

theorem readPsramTest_observed {m : PsramTest} (h : readPsramTest line = some m) :
    m ≠ .notObserved := by
  unfold readPsramTest at h
  split at h
  · cases h
    decide
  · split at h
    · cases h
      decide
    · cases h

theorem takeReset_held : (s.takeReset line).held =
    { s.held with reset := s.held.reset.or ((readReset line).map (s.bannerCount, ·)) } := by
  unfold CaptureState.takeReset
  by_cases hs : s.result.romRstRaw = []
  · cases hr : readReset line with
    | none => simp [CaptureState.held, hs]
    | some m => simp [CaptureState.held, hs, readReset_ne_nil hr]
  · simp [CaptureState.held, hs]

theorem takeFlashSize_held : (s.takeFlashSize line).held =
    { s.held with flashSize := s.held.flashSize.or ((readFlashSize line).map (s.bannerCount, ·)) } := by
  unfold CaptureState.takeFlashSize
  by_cases hs : s.result.flashSize = []
  · cases hr : readFlashSize line with
    | none => simp [CaptureState.held, hs]
    | some m => simp [CaptureState.held, hs, readGroup_ne_nil rfl hr]
  · simp [CaptureState.held, hs]

theorem takePsramFound_held : (s.takePsramFound line).held =
    { s.held with
      psramFound := s.held.psramFound.or ((readPsramFound line).map (s.bannerCount, ·)) } := by
  unfold CaptureState.takePsramFound
  by_cases hs : s.result.psramFound = []
  · cases hr : readPsramFound line with
    | none => simp [CaptureState.held, hs]
    | some m => simp [CaptureState.held, hs, readGroup_ne_nil rfl hr]
  · simp [CaptureState.held, hs]

theorem takePsramTest_held : (s.takePsramTest line).held =
    { s.held with
      psramTest := ((readPsramTest line).map (s.bannerCount, ·)).or s.held.psramTest } := by
  unfold CaptureState.takePsramTest
  cases hr : readPsramTest line with
  | none => rfl
  | some m => simp [CaptureState.held, readPsramTest_observed hr]

theorem takePhyWarning_held {q : ℚ} : (s.takePhyWarning line q).held = s.held := by
  unfold CaptureState.takePhyWarning
  split <;> rfl

theorem takeMarkers_held : (s.takeMarkers line).held = s.held := rfl

/-- **What a line does to the values**: a banner is counted; any other line gives a value where
    there is none, and the memory test in any case. -/
theorem analyzeLine_held (t0 : ℚ) (s : CaptureState) (e : ℚ × CText) :
    (analyzeLine t0 s e).held =
      if hasBanner (stripAnsi e.2) then { s.held with bannerCount := s.bannerCount + 1 }
      else
        { bannerCount := s.bannerCount
          reset := s.held.reset.or ((readReset (stripAnsi e.2)).map (s.bannerCount, ·))
          flashSize := s.held.flashSize.or ((readFlashSize (stripAnsi e.2)).map (s.bannerCount, ·))
          psramFound :=
            s.held.psramFound.or ((readPsramFound (stripAnsi e.2)).map (s.bannerCount, ·))
          psramTest :=
            ((readPsramTest (stripAnsi e.2)).map (s.bannerCount, ·)).or s.held.psramTest } := by
  have hcount : ∀ s : CaptureState, s.bannerCount = s.held.bannerCount := fun _ => rfl
  unfold analyzeLine
  dsimp only
  split
  · rfl
  · simp only [takeMarkers_held, takePhyWarning_held, takePsramTest_held, takePsramFound_held,
      takeFlashSize_held, takeReset_held, hcount]

end Reading

/-! ## 3. The capture -/

section Captured

variable (lines : List (ℚ × CText)) (t0 : ℚ)

theorem bannerCount_step (s : CaptureState) (e : ℚ × CText) :
    (analyzeLine t0 s e).bannerCount =
      if hasBanner (stripAnsi e.2) then s.bannerCount + 1 else s.bannerCount := by
  have h := congrArg HeldValues.bannerCount (analyzeLine_held t0 s e)
  rw [apply_ite HeldValues.bannerCount] at h
  exact h

/-- **A field that is read once holds the first reading of the capture**, with its segment. -/
theorem captured_first {β : Type} (read : CText → Option β) (field : HeldValues → Option (Nat × β))
    (hstart : field CaptureState.initial.held = none)
    (hline : ∀ s e, field (analyzeLine t0 s e).held =
      if hasBanner (stripAnsi e.2) then field s.held
      else (field s.held).or ((read (stripAnsi e.2)).map (s.bannerCount, ·))) :
    field (captureEnd t0 lines).held = firstOf read (bootSegments lines) := by
  have hloop := foldl_first (l := lines) (s := CaptureState.initial) read (fun s => field s.held)
    (bannerCount_step t0) hline
  rw [captureEnd, hloop, hstart, Option.none_or]
  exact shift_zero _

theorem captured_reset :
    (captureEnd t0 lines).held.reset = firstOf readReset (bootSegments lines) :=
  captured_first lines t0 readReset HeldValues.reset rfl fun s e => by
    rw [analyzeLine_held, apply_ite HeldValues.reset]

theorem captured_flashSize :
    (captureEnd t0 lines).held.flashSize = firstOf readFlashSize (bootSegments lines) :=
  captured_first lines t0 readFlashSize HeldValues.flashSize rfl fun s e => by
    rw [analyzeLine_held, apply_ite HeldValues.flashSize]

theorem captured_psramFound :
    (captureEnd t0 lines).held.psramFound = firstOf readPsramFound (bootSegments lines) :=
  captured_first lines t0 readPsramFound HeldValues.psramFound rfl fun s e => by
    rw [analyzeLine_held, apply_ite HeldValues.psramFound]

/-- **The memory test is the last of the capture.** -/
theorem captured_psramTest :
    (captureEnd t0 lines).held.psramTest = lastOf readPsramTest (bootSegments lines) := by
  refine (foldl_last readPsramTest (fun s => s.held.psramTest) (bannerCount_step t0) fun s e => ?_).trans ?_
  · rw [analyzeLine_held, apply_ite HeldValues.psramTest]
  · exact Option.or_none.trans (shift_zero _)

end Captured

/-! ## 4. One boot -/

/-- What is read: one line for the reset, one value each for the others. -/
inductive CaptureField where
  | reset | flashSize | psramFound | psramTest
  deriving DecidableEq, Repr

/-- The segment a value was read in. -/
def HeldValues.boot (h : HeldValues) : CaptureField → Option Nat
  | .reset => h.reset.map Prod.fst
  | .flashSize => h.flashSize.map Prod.fst
  | .psramFound => h.psramFound.map Prod.fst
  | .psramTest => h.psramTest.map Prod.fst

/-- The segment `k` shows the field. -/
def CaptureField.shown (segments : List (List CText)) (k : Nat) : CaptureField → Bool
  | .reset => has readReset segments k
  | .flashSize => has readFlashSize segments k
  | .psramFound => has readPsramFound segments k
  | .psramTest => has readPsramTest segments k

/-- The result of the memory test in a segment. -/
def bootTest (segments : List (List CText)) (k : Nat) : Option PsramTest :=
  ((segments.getD k []).filterMap readPsramTest).getLast?

/-- **The values are those of one boot**, and when the boot whose reset is reported has failed its
    memory test, so is the failure. -/
structure OneBoot (lines : List (ℚ × CText)) (t0 : ℚ) : Prop where
  same : ∃ k, ∀ field n, (captureEnd t0 lines).held.boot field = some n → n = k
  failureKept : ∀ k, (captureEnd t0 lines).held.boot .reset = some k →
    bootTest (bootSegments lines) k = some .fail → (analyzeCapture lines t0).psramTest = .fail

/-- **The boot `k` shows every field that the capture shows**; none in front of it shows a field of
    those that are read once, and none behind it shows a memory test. -/
structure HoldsAll (segments : List (List CText)) (k : Nat) : Prop where
  complete : ∀ (field : CaptureField) (j : Nat), field.shown segments j = true →
    field.shown segments k = true
  notBefore : ∀ field : CaptureField, field ≠ .psramTest → ∀ j < k, field.shown segments j = false
  notBehind : ∀ j, k < j → CaptureField.psramTest.shown segments j = false

section Capture

variable {lines : List (ℚ × CText)} {t0 : ℚ} {field : CaptureField} {n : Nat}

/-- **Where a value was read**: nothing like it is in front of a value that is read once, nothing
    is behind the memory test. -/
theorem boot_spec (h : (captureEnd t0 lines).held.boot field = some n) :
    field.shown (bootSegments lines) n = true ∧
      (field ≠ .psramTest → ∀ j < n, field.shown (bootSegments lines) j = false) ∧
      (field = .psramTest → ∀ j, n < j → field.shown (bootSegments lines) j = false) := by
  cases field with
  | reset =>
      obtain ⟨r, hr, rfl⟩ := Option.map_eq_some_iff.mp h
      rw [captured_reset] at hr
      obtain ⟨hn, hbefore⟩ := firstOf_spec hr
      exact ⟨hn, fun _ => hbefore, fun e => CaptureField.noConfusion e⟩
  | flashSize =>
      obtain ⟨r, hr, rfl⟩ := Option.map_eq_some_iff.mp h
      rw [captured_flashSize] at hr
      obtain ⟨hn, hbefore⟩ := firstOf_spec hr
      exact ⟨hn, fun _ => hbefore, fun e => CaptureField.noConfusion e⟩
  | psramFound =>
      obtain ⟨r, hr, rfl⟩ := Option.map_eq_some_iff.mp h
      rw [captured_psramFound] at hr
      obtain ⟨hn, hbefore⟩ := firstOf_spec hr
      exact ⟨hn, fun _ => hbefore, fun e => CaptureField.noConfusion e⟩
  | psramTest =>
      obtain ⟨r, hr, rfl⟩ := Option.map_eq_some_iff.mp h
      rw [captured_psramTest] at hr
      exact ⟨has_of_lastOf hr, fun hne => absurd rfl hne, fun _ => (lastOf_spec hr).2⟩

/-- A value that was not read is nowhere in the capture. -/
theorem boot_none (h : (captureEnd t0 lines).held.boot field = none) (j : Nat) :
    field.shown (bootSegments lines) j = false := by
  cases field with
  | reset =>
      refine firstOf_none ?_ j
      rw [← captured_reset lines t0]
      exact Option.map_eq_none_iff.mp h
  | flashSize =>
      refine firstOf_none ?_ j
      rw [← captured_flashSize lines t0]
      exact Option.map_eq_none_iff.mp h
  | psramFound =>
      refine firstOf_none ?_ j
      rw [← captured_psramFound lines t0]
      exact Option.map_eq_none_iff.mp h
  | psramTest =>
      refine lastOf_none ?_ j
      rw [← captured_psramTest lines t0]
      exact Option.map_eq_none_iff.mp h

/-- Every value is read where the boot that shows all is. -/
theorem HoldsAll.boot_eq {k : Nat} (h : HoldsAll (bootSegments lines) k)
    (hn : (captureEnd t0 lines).held.boot field = some n) : n = k := by
  obtain ⟨hshown, hbefore, hbehind⟩ := boot_spec hn
  have hk : field.shown (bootSegments lines) k = true := h.complete field n hshown
  rcases Nat.lt_trichotomy n k with hlt | heq | hgt
  · exfalso
    by_cases hf : field = .psramTest
    · rw [hbehind hf k hlt] at hk
      cases hk
    · rw [h.notBefore field hf n hlt] at hshown
      cases hshown
  · exact heq
  · exfalso
    by_cases hf : field = .psramTest
    · rw [hf, h.notBehind n hgt] at hshown
      cases hshown
    · rw [hbefore hf k hgt] at hk
      cases hk

/-- When all values are read in the boot `k`, it shows all. -/
theorem holdsAll_of_same {k : Nat}
    (h : ∀ field n, (captureEnd t0 lines).held.boot field = some n → n = k) :
    HoldsAll (bootSegments lines) k := by
  refine ⟨fun field j hj => ?_, fun field hf j hj => ?_, fun j hj => ?_⟩
  · cases hb : (captureEnd t0 lines).held.boot field with
    | none =>
        rw [boot_none hb j] at hj
        cases hj
    | some n =>
        rw [← h field n hb]
        exact (boot_spec hb).1
  · cases hb : (captureEnd t0 lines).held.boot field with
    | none => exact boot_none hb j
    | some n =>
        rw [← h field n hb] at hj
        exact (boot_spec hb).2.1 hf j hj
  · cases hb : (captureEnd t0 lines).held.boot .psramTest with
    | none => exact boot_none hb j
    | some n =>
        rw [← h _ n hb] at hj
        exact (boot_spec hb).2.2 rfl j hj

/-- The memory test that is reported is the one of the segment it was read in. -/
theorem psramTest_of_boot (h : (captureEnd t0 lines).held.boot .psramTest = some n) :
    bootTest (bootSegments lines) n = some (analyzeCapture lines t0).psramTest := by
  obtain ⟨⟨k, b⟩, hr, rfl⟩ := Option.map_eq_some_iff.mp h
  have hb : b = (analyzeCapture lines t0).psramTest := by
    unfold CaptureState.held at hr
    dsimp only at hr
    split at hr
    · cases hr
    · cases hr
      rfl
  rw [captured_psramTest] at hr
  rw [← hb]
  exact (lastOf_spec hr).1

end Capture

/-- **The values are those of one boot exactly when one boot shows all that the capture shows**,
    its first values first and its memory test last. -/
theorem one_boot_iff (lines : List (ℚ × CText)) (t0 : ℚ) :
    OneBoot lines t0 ↔ ∃ k, HoldsAll (bootSegments lines) k := by
  constructor
  · rintro ⟨⟨k, hk⟩, -⟩
    exact ⟨k, holdsAll_of_same hk⟩
  · rintro ⟨k, hk⟩
    refine ⟨⟨k, fun field n hn => hk.boot_eq hn⟩, fun j hj hfail => ?_⟩
    have hshown : CaptureField.psramTest.shown (bootSegments lines) j = true := by
      refine filterMap_ne_nil fun e => ?_
      unfold bootTest at hfail
      rw [e] at hfail
      cases hfail
    cases hb : (captureEnd t0 lines).held.boot .psramTest with
    | none =>
        rw [boot_none hb j] at hshown
        cases hshown
    | some n =>
        have htest := psramTest_of_boot hb
        rw [hk.boot_eq hb, ← hk.boot_eq hj, hfail] at htest
        exact (Option.some.inj htest).symm

/-! ## 5. A failure that is replaced -/

/-- A boot fails its memory test and is reset; the next one passes. -/
def failedThenPassed : List (ℚ × CText) :=
  [(0, "ESP-ROM:esp32s3-20210327".toList),
    (1, "rst:0x1 (POWERON),boot:0x8 (SPI_FAST_FLASH_BOOT)".toList),
    (2, "esp_psram: SPI SRAM memory test failed".toList),
    (3, "ESP-ROM:esp32s3-20210327".toList),
    (4, "rst:0x3 (RTC_SW_SYS_RST),boot:0x8 (SPI_FAST_FLASH_BOOT)".toList),
    (5, "esp_psram: SPI SRAM memory test OK".toList)]

set_option maxRecDepth 8000 in
/-- **The failed memory test of the boot that is reported is replaced** by that of the next. -/
theorem failure_replaced :
    (analyzeCapture failedThenPassed 0).romRstRaw = "0x1".toList ∧
      bootTest (bootSegments failedThenPassed) 1 = some .fail ∧
      (analyzeCapture failedThenPassed 0).psramTest = .pass ∧ ¬ OneBoot failedThenPassed 0 := by
  have hboot : (captureEnd 0 failedThenPassed).held.boot .reset = some 1 := by decide +kernel
  have hfail : bootTest (bootSegments failedThenPassed) 1 = some .fail := by decide +kernel
  have hpass : (analyzeCapture failedThenPassed 0).psramTest = .pass := by decide +kernel
  refine ⟨by decide +kernel, hfail, hpass, fun h => ?_⟩
  have hkept := h.failureKept 1 hboot hfail
  rw [hpass] at hkept
  cases hkept

end DragonBench
