/-
  File:      DragonBench/Refusals.lean
  Subject:   WHAT A REFUSED RUN LEAVES BEHIND: nothing, unless the refusal comes behind
             `db_run_begin`.

  `runs_post` answers 400 and 409 `run already active` before it touches `current_run`. The third
  refusal, 409 `task creation failed`, comes when the record is already that of the new run; the
  handler then finishes the record instead of taking it back.

  * `Handling` -- the steps while `runs_post` is between its two sections under the lock;
  * `handling_keeps` -- nobody touches `current_run` meanwhile;
  * **`runs_post_leaves_run`** -- the record behind every answer but 201;
  * **`failed_creation_replaces_run`** -- the third answer replaces the record.
-/
import DragonBench.Firmware
import DragonBench.Ownership

namespace DragonBench

open Transition

/-- A step while `runs_post` is behind `db_run_begin` and has not answered. -/
def Handling (f : Firmware) (_ : FirmwareAction) : Prop := f.device.http.owns = true

section Steps

variable {B : FirmwareBoot} {f f' : Firmware}

/-- A step of the device keeps `current_run` while a handler owns it. -/
theorem deviceStep_keeps_run {d d' : Device} {a : Action} (I : DeviceInv d)
    (ho : d.http.owns = true) (ho' : d'.http.owns = true) (h : DeviceStep B.boot d a d') :
    d'.shared.run = d.shared.run := by
  cases h with
  | begin hh | abort hh =>
      rw [hh] at ho
      cases ho
  | finishFailed => cases ho'
  | task ht hs =>
      rcases hs.finishes with ⟨hrun, -⟩ | ⟨hpc, -⟩
      · exact hrun
      · -- a worker in front of its finish owns the run
        have hnot := I.owner.not_both (List.mem_of_getElem? ht) (by rw [hpc]; rfl)
        rw [hnot] at ho
        cases ho
  | refused | created | notCreated | abortRefused | mainNumber | mainBuild | mainInsert
  | startHttp | startFailed | tick | radio => rfl

/-- **Nobody touches `current_run`** between `db_run_begin` and the answer. -/
theorem handling_keeps (h : Reach (firmware B) Always f)
    (h' : Reach ((firmware B).startingAt f) Handling f') :
    f'.device.http.owns = true → f'.device.shared.run = f.device.shared.run := by
  refine (h'.inv (I := fun g => Reach (firmware B) Always g ∧ (g.device.http.owns = true →
    g.device.shared.run = f.device.shared.run)) ?_ ?_).2
  · rintro g rfl
    exact ⟨h, fun _ => rfl⟩
  · intro g a g' _ I ho hs
    refine ⟨.step I.1 trivial hs, fun ho' => ?_⟩
    rw [← I.2 ho]
    obtain ⟨-, hh⟩ := firmwareStep_halves hs
    rcases hh with ⟨a, hd, -⟩ | ⟨a, -, hd⟩ | ⟨hd, -⟩
    · exact deviceStep_keeps_run (deviceInv_reach (halves_reach I.1).1) ho ho' (step_cases hd).2
    · rw [hd]
      rfl
    · rw [hd]

/-- **What a POST /runs decides**: it is answered at once and changes nothing, or begins a run. -/
theorem runsPost_cases (B : Boot) (d : Device) (body : Option Json) :
    (∃ r, runsPostRefused B.cfg d.shared.run body = some r ∧ (r.status = 400 ∨ r.status = 409) ∧
        runsPost B d body = d) ∨
      ∃ request, runsPostRequest body = .ok request ∧
        runsPostRefused B.cfg d.shared.run body = none ∧ runsPost B d body = beginRun B d request := by
  unfold runsPostRefused runsPost
  cases runsPostRequest body with
  | error e => exact Or.inl ⟨_, rfl, Or.inl rfl, rfl⟩
  | ok request =>
      by_cases ha : d.shared.run.state = .running ∨ d.shared.run.state = .aborting
      · exact Or.inl ⟨_, if_pos ha, Or.inr rfl, if_pos ha⟩
      · exact Or.inr ⟨request, rfl, if_neg ha, if_neg ha⟩

/-- A step of the device behind which a handler answers. -/
theorem answered_device {a : Action} {r : Option HttpResponse}
    (h : ((firmwareDevice B f a).map fun g => g.answer r) = some f') :
    ∃ d, step B.boot f.device a = some d ∧ f' = { f.answer r with device := d } := by
  obtain ⟨g, hg, rfl⟩ := Option.map_eq_some_iff.mp h
  obtain ⟨d, hd, rfl⟩ := Option.map_eq_some_iff.mp hg
  exact ⟨d, hd, rfl⟩

/-- What the step of a POST /runs does to the whole device. -/
theorem firmware_runsPost {body : Option Json}
    (h : firmwareStep B f (.device (.runsPost body)) = some f') :
    f' = { f.answer (runsPostRefused B.boot.cfg f.device.shared.run body) with
      device := runsPost B.boot f.device body } := by
  unfold firmwareStep firmwareRunning runStep at h
  obtain ⟨-, h⟩ := Option.ite_none_left_eq_some.mp h
  dsimp only at h
  obtain ⟨-, h⟩ := Option.ite_none_right_eq_some.mp h
  obtain ⟨d, hd, rfl⟩ := answered_device h
  unfold step at hd
  obtain ⟨-, hd⟩ := Option.ite_none_left_eq_some.mp hd
  obtain ⟨-, hd⟩ := Option.ite_none_right_eq_some.mp hd
  cases hd
  rfl

/-- What the recording of a failed `xTaskCreate` does. -/
theorem firmware_finishFailed (h : firmwareStep B f (.device .finishFailed) = some f') :
    f.device.http = .createFailed ∧
      f' = { f.answer (some (runsPostFailed B.boot.cfg)) with device := finishFailed f.device } := by
  unfold firmwareStep firmwareRunning runStep at h
  obtain ⟨-, h⟩ := Option.ite_none_left_eq_some.mp h
  obtain ⟨d, hd, rfl⟩ := answered_device h
  unfold step at hd
  obtain ⟨-, hd⟩ := Option.ite_none_left_eq_some.mp hd
  obtain ⟨hh, hd⟩ := Option.ite_none_right_eq_some.mp hd
  cases hd
  exact ⟨hh, rfl⟩

end Steps

/-- The record of a run whose task could not be created: the run that was accepted, at once
    complete, with the result `fail`. -/
def failedRecord (run : DbRun) (nowMs : Nat) : DbRun :=
  { run with state := .complete, result := Verdict.fail.text, endedMs := nowMs }

/-- **What a POST /runs that is not answered with 201 leaves in `current_run`.** Answered at once,
    with 400 or 409, it leaves the device as it was. Otherwise the record is that of the accepted
    request, and the answer `task creation failed` leaves it complete with the result `fail`. -/
theorem runs_post_leaves_run {B : FirmwareBoot} {f f₁ : Firmware} {body : Option Json}
    (h : Reach (firmware B) Always f)
    (hs : firmwareStep B f (.device (.runsPost body)) = some f₁) :
    (∃ r, f₁ = f.answer (some r) ∧ (r.status = 400 ∨ r.status = 409)) ∨
      ∃ request, runsPostRequest body = .ok request ∧ f₁.responses = f.responses ∧
        f₁.device.shared.run = dbRunBegin request
          (runIdText B.boot.bootNonce.toNat f₁.device.runCounter) f.device.shared.clock ∧
        ∀ f₂ f₃, Reach ((firmware B).startingAt f₁) Handling f₂ →
          firmwareStep B f₂ (.device .finishFailed) = some f₃ →
          f₃.responses = f₂.responses ++ [runsPostFailed B.boot.cfg] ∧
            f₃.device.shared.run = failedRecord f₁.device.shared.run f₂.device.shared.clock := by
  have hf₁ : Reach (firmware B) Always f₁ := .step h trivial hs
  have e := firmware_runsPost hs
  rcases runsPost_cases B.boot f.device body with ⟨r, hr, hst, hd⟩ | ⟨request, hreq, hr, hd⟩
  · left
    refine ⟨r, ?_, hst⟩
    rw [e, hr, hd]
    rfl
  · rw [hr, hd] at e
    right
    refine ⟨request, hreq, ?_, by rw [e]; rfl, fun f₂ f₃ h₂ h₃ => ?_⟩
    · rw [e]
      exact List.append_nil _
    · obtain ⟨hh, e₃⟩ := firmware_finishFailed h₃
      have hrun := handling_keeps hf₁ h₂ (by rw [hh]; rfl)
      rw [e₃]
      refine ⟨rfl, ?_⟩
      rw [← hrun]
      unfold failedRecord
      show dbRunFinish f₂.device.shared.run (some Verdict.fail.text) f₂.device.shared.clock = _
      unfold dbRunFinish
      rw [Option.getD_some, Verdict.snprintf_text]

/-- The device in front of its first request. -/
def servingFirmware : Firmware :=
  (firmware benchFirmware).runEnd (.initial ⟨0, []⟩ ⟨⟨none, none⟩, ⟨none, none⟩⟩ storedPair)
    bootSteps

/-- A request whose task cannot be created, step by step. -/
def postedFirmware : Firmware :=
  (firmware benchFirmware).runEnd servingFirmware [.device (.runsPost (bodyOf .idle))]

def uncreatedFirmware : Firmware :=
  (firmware benchFirmware).runEnd postedFirmware [.device (.createTask false)]

def failedFirmware : Firmware :=
  (firmware benchFirmware).runEnd uncreatedFirmware [.device .finishFailed]

theorem servingFirmware_reach : Reach (firmware benchFirmware) Always servingFirmware :=
  reach_runEnd (.start ⟨_, _, _, rfl⟩) (by decide +kernel)

theorem posted_step : firmwareStep benchFirmware servingFirmware
    (.device (.runsPost (bodyOf .idle))) = some postedFirmware :=
  step_runEnd (firmware benchFirmware) servingFirmware (.device (.runsPost (bodyOf .idle)))
    (by decide +kernel)

theorem failed_step :
    firmwareStep benchFirmware uncreatedFirmware (.device .finishFailed) = some failedFirmware :=
  step_runEnd (firmware benchFirmware) uncreatedFirmware (.device .finishFailed)
    (by decide +kernel)

theorem uncreated_reach :
    Reach ((firmware benchFirmware).startingAt postedFirmware) Handling uncreatedFirmware :=
  .step (a := .device (.createTask false)) (.start rfl)
    (show postedFirmware.device.http.owns = true by decide +kernel)
    (step_runEnd (firmware benchFirmware) postedFirmware (.device (.createTask false))
      (by decide +kernel))

/-- A refusal of each kind: after `task creation failed` the record is the failed one. -/
theorem runs_post_leaves_run_failed :
    (∃ r, postedFirmware = servingFirmware.answer (some r) ∧ (r.status = 400 ∨ r.status = 409)) ∨
      failedFirmware.device.shared.run =
        failedRecord postedFirmware.device.shared.run uncreatedFirmware.device.shared.clock := by
  rcases runs_post_leaves_run servingFirmware_reach posted_step with h | ⟨_, -, -, -, h⟩
  · exact Or.inl h
  · exact Or.inr (h _ _ uncreated_reach failed_step).2

/-- **The third refusal replaces the record**: answered with `task creation failed`, a POST /runs
    leaves another `current_run` than it found. -/
theorem failed_creation_replaces_run :
    ¬ ∀ f f₁ f₂ f₃ body, Reach (firmware benchFirmware) Always f →
      firmwareStep benchFirmware f (.device (.runsPost body)) = some f₁ →
      Reach ((firmware benchFirmware).startingAt f₁) Handling f₂ →
      firmwareStep benchFirmware f₂ (.device .finishFailed) = some f₃ →
      f₃.device.shared.run = f.device.shared.run := by
  intro h
  have e := h _ _ _ _ _ servingFirmware_reach posted_step uncreated_reach failed_step
  exact absurd e (by decide +kernel)

end DragonBench
