/-
  File:      DragonBench/Reboot.lean
  Subject:   WHEN THE DEVICE RESTARTS ITSELF: a controlled reboot is what it looks like as long as
             no new run begins before it.

  `db_run_finish` frees the run slot; the test of the flag, the marker and a delay of 250 ms come
  after it. `should_abort` reads whichever run is current. A run accepted in that window hides an
  abort of the old run from the test, and is cut off by the restart.

  * `Task.rebooting` -- a controlled reboot between `db_run_finish` and its end;
  * `BeginsOverReboot` -- the step that opens the defect;
  * `RebootInv` -- without such a step, a rebooting task is alone on the device;
  * **`restart_right`** -- then every restart is that of a passed, never aborted
    CONTROLLED_REBOOT run with nothing else running.
-/
import DragonBench.Abort

namespace DragonBench

open Transition

/-! ## 1. The window -/

/-- The worker of a CONTROLLED_REBOOT run that returned true, between `db_run_finish` and its
    end. -/
def Task.rebooting (t : Task) : Bool :=
  !t.pc.live && decide (t.pc ≠ .deleted) && decide (t.run.request.workload = .controlledReboot) &&
    t.ok

theorem Task.rebooting_iff {t : Task} : t.rebooting = true ↔ t.pc.live = false ∧
    t.pc ≠ .deleted ∧ t.run.request.workload = .controlledReboot ∧ t.ok = true := by
  simp only [Task.rebooting, Bool.and_eq_true, Bool.not_eq_true', decide_eq_true_eq, and_assoc]

/-- The test of the flag is behind. -/
def TaskPc.tested : TaskPc → Bool
  | .markMagic | .markRunId | .delay | .restart => true
  | _ => false

/-- Whether `runs_post` finds the body valid. -/
def requestAccepted (body : Option Json) : Bool := (runsPostRequest body).toBool

/-- **The step that opens the defect**: a valid POST /runs while the run slot is free and a
    controlled reboot is still under way. -/
def BeginsOverReboot (d : Device) : Action → Prop
  | .runsPost body => requestAccepted body = true ∧ d.shared.run.state.active = false ∧
    ∃ t ∈ d.tasks, t.rebooting = true
  | _ => False

instance (d : Device) : (a : Action) → Decidable (BeginsOverReboot d a)
  | .runsPost body => inferInstanceAs (Decidable (requestAccepted body = true ∧
      d.shared.run.state.active = false ∧ ∃ t ∈ d.tasks, t.rebooting = true))
  | .abortPost _ | .createTask _ | .finishFailed | .task _ _ | .main _ | .tick _ | .radio _ _ =>
    isFalse id

/-- The step begins no run over a reboot. -/
def UndisturbedReboot (d : Device) (a : Action) : Prop := ¬ BeginsOverReboot d a

instance (d : Device) (a : Action) : Decidable (UndisturbedReboot d a) :=
  inferInstanceAs (Decidable (¬ BeginsOverReboot d a))

/-! ## 2. The invariant -/

/-- **A rebooting task is alone**: its run is the last one, the slot is free, no handler is at
    work, and once the flag is tested its run was never aborted. -/
structure RebootInv (d : Device) : Prop where
  alone : ∀ t ∈ d.tasks, t.rebooting = true →
    t.born = d.current ∧ d.shared.run.state.active = false ∧ d.http.owns = false
  tested : ∀ t ∈ d.tasks, t.pc.tested = true → t.rebooting = true ∧ t.born ∉ d.aborted

section Inv

variable {B : Boot}

/-- Behind `run_complete` only a controlled reboot that returned true goes on. -/
theorem afterEmit_reboot {t : Task} (h : afterEmit B t .runComplete ≠ .deleted) :
    t.run.request.workload = .controlledReboot ∧ t.ok = true := by
  simp only [afterEmit] at h
  split at h
  · assumption
  · exact absurd rfl h

/-- The reboot test is reached by controlled reboots that returned true only. -/
theorem task_rebootTest {C : Device → Action → Prop} {d : Device} (h : Reach (device B) C d) :
    ∀ t ∈ d.tasks, t.pc = .rebootTest → t.rebooting = true := by
  refine task_reach (P := fun t => t.pc = .rebootTest → t.rebooting = true) ?_ ?_ h
  · intro n e
    cases e
  · intro s t s' t' _ hs e
    cases hs with
    | @insert k ev hpc =>
        cases k with
        | phaseStart | fault | phaseEnd => cases e
        | runComplete =>
            have hne : afterEmit B t .runComplete ≠ .deleted := by
              intro e'
              rw [e'] at e
              cases e
            obtain ⟨hw, hok⟩ := afterEmit_reboot hne
            refine Task.rebooting_iff.mpr ⟨?_, hne, hw, hok⟩
            rw [e]
            rfl
    | choose hpc =>
        dsimp only at e
        split at e <;> cases e
    | copy | number | build | more | done | noFault | fault | finish | noReboot | reboot
    | markMagic | markRunId | delay | restart => cases e

/-- A task that is rebooting after its step was rebooting before, or has just finished its run. -/
theorem TaskStep.rebooting {s s' : Shared} {t t' : Task} (h : TaskStep B s t s' t')
    (hr : t'.rebooting = true) : t.rebooting = true ∧ s'.run = s.run ∨ t.pc = .finish := by
  obtain ⟨hdead, -, hw, hok⟩ := Task.rebooting_iff.mp hr
  rcases h.finishes with ⟨hrun, -, hlive⟩ | ⟨hpc, -⟩
  · refine Or.inl ⟨?_, hrun⟩
    have hdead' : t.pc.live = false := hlive ▸ hdead
    obtain ⟨-, erun, -, eok, -⟩ := h.keeps (TaskPc.chosen_of_dead hdead')
    refine Task.rebooting_iff.mpr ⟨hdead', ?_, erun ▸ hw, eok ▸ hok⟩
    intro e
    cases h <;> simp_all
  · exact Or.inr hpc

/-- The flag is tested in one step. -/
theorem TaskStep.tested {s s' : Shared} {t t' : Task} (h : TaskStep B s t s' t')
    (hr : t'.pc.tested = true) : (t.pc.tested = true ∨ t.pc = .rebootTest ∧
      s.run.abortRequested = false) ∧ t'.pc ≠ .deleted ∧ t'.run = t.run ∧ t'.ok = t.ok ∧
      t'.pc.live = false := by
  cases h with
  | reboot hpc ha => exact ⟨Or.inr ⟨hpc, ha⟩, TaskPc.noConfusion, rfl, rfl, rfl⟩
  | markMagic hpc | markRunId hpc | delay hpc =>
      refine ⟨Or.inl ?_, TaskPc.noConfusion, rfl, rfl, rfl⟩
      rw [hpc]
      rfl
  | @insert k _ hpc =>
      cases k with
      | phaseStart | fault | phaseEnd => cases hr
      | runComplete =>
          rcases afterEmit_runComplete B t with e | e <;> rw [e] at hr <;> cases hr
  | choose hpc =>
      dsimp only at hr
      split at hr <;> cases hr
  | copy | number | build | more | done | noFault | fault | finish | noReboot | restart =>
      cases hr

theorem rebootInv_step {d d' : Device} {a : Action} (I : DeviceInv d) (F : FlagInv d)
    (ht0 : ∀ t ∈ d.tasks, t.pc = .rebootTest → t.rebooting = true) (R : RebootInv d)
    (hc : UndisturbedReboot d a) (h : DeviceStep B d a d') : RebootInv d' := by
  -- a handler at work or an active run shows that nothing is rebooting
  have hhandler : d.http.owns = true → ∀ t ∈ d.tasks, t.rebooting = true → False := by
    intro ho t ht hr
    rw [(R.alone t ht hr).2.2] at ho
    cases ho
  cases h with
  | @begin body request hh hr hs =>
      have hnone : ∀ t ∈ d.tasks, t.rebooting = true → False := by
        intro t ht hreb
        refine hc ⟨?_, hs, t, ht, hreb⟩
        rw [requestAccepted, hr]
        rfl
      exact ⟨fun t ht hreb => (hnone t ht hreb).elim,
        fun t ht hp => (hnone t ht (R.tested t ht hp).1).elim⟩
  | created hh =>
      have hnone := hhandler (by rw [hh]; rfl)
      refine ⟨fun t ht hreb => ?_, fun t ht hp => ?_⟩
      · rcases List.mem_append.mp ht with ht | ht
        · exact (hnone t ht hreb).elim
        · rw [List.mem_singleton] at ht
          subst ht
          cases hreb
      · rcases List.mem_append.mp ht with ht | ht
        · exact (hnone t ht (R.tested t ht hp).1).elim
        · rw [List.mem_singleton] at ht
          subst ht
          cases hp
  | notCreated hh | finishFailed hh =>
      have hnone := hhandler (by rw [hh]; rfl)
      exact ⟨fun t ht hreb => (hnone t ht hreb).elim,
        fun t ht hp => (hnone t ht (R.tested t ht hp).1).elim⟩
  | abort hh hs hid =>
      have hnone : ∀ t ∈ d.tasks, t.rebooting = true → False := by
        intro t ht hreb
        have ha := (R.alone t ht hreb).2.1
        rw [hs] at ha
        cases ha
      exact ⟨fun t ht hreb => (hnone t ht hreb).elim,
        fun t ht hp => (hnone t ht (R.tested t ht hp).1).elim⟩
  | startHttp h =>
      exact ⟨fun t ht hreb => ⟨(R.alone t ht hreb).1, (R.alone t ht hreb).2.1, rfl⟩, R.tested⟩
  | @task i ret t t' s' ht hs =>
      have hmem := List.mem_of_getElem? ht
      have hset := fun u => KeyedList.mem_set_iff I.owner.nodup ht hs.born (b := u)
      refine ⟨fun u hu hreb => ?_, fun u hu hp => ?_⟩
      · rcases (hset u).mp hu with rfl | ⟨hu, -⟩
        · rcases hs.rebooting hreb with ⟨hreb', hrun⟩ | hpc
          · rw [hs.born, hrun]
            exact R.alone t hmem hreb'
          · have lt : t.pc.live = true := by rw [hpc]; rfl
            rcases hs.finishes with ⟨-, -, hlive⟩ | ⟨-, -, hrun, -⟩
            · rw [(Task.rebooting_iff.mp hreb).1, lt] at hlive
              cases hlive
            · refine ⟨?_, by rw [hrun]; rfl, I.owner.not_both hmem lt⟩
              rw [hs.born]
              exact (I.owner.worker t hmem lt).2
        · obtain ⟨hb, ha, ho⟩ := R.alone u hu hreb
          refine ⟨hb, ?_, ho⟩
          rcases hs.finishes with ⟨hrun, -, -⟩ | ⟨-, -, hrun, -⟩
          · rw [hrun]
            exact ha
          · rw [hrun]
            rfl
      · rcases (hset u).mp hu with rfl | ⟨hu, -⟩
        · obtain ⟨hbefore, hne, hrun, hok, hdead⟩ := hs.tested hp
          rw [hs.born]
          have hboth : t.rebooting = true ∧ t.born ∉ d.aborted := by
            rcases hbefore with hp' | ⟨hpc, hf⟩
            · exact R.tested t hmem hp'
            · have hreb := ht0 t hmem hpc
              refine ⟨hreb, fun hn => ?_⟩
              rw [(R.alone t hmem hreb).1, ← F.flag, hf] at hn
              cases hn
          obtain ⟨-, -, hw, hok'⟩ := Task.rebooting_iff.mp hboth.1
          exact ⟨Task.rebooting_iff.mpr ⟨hdead, hne, hrun ▸ hw, hok ▸ hok'⟩, hboth.2⟩
        · exact R.tested u hu hp
  | refused | abortRefused | mainNumber | mainBuild | mainInsert | startFailed | tick
  | radio => exact ⟨R.alone, R.tested⟩

theorem rebootInv_reach {d : Device} (h : Reach (device B) UndisturbedReboot d) :
    RebootInv d := by
  refine device_reach ?_ ?_ h
  · intro marker
    exact ⟨fun t ht => absurd ht List.not_mem_nil, fun t ht => absurd ht List.not_mem_nil⟩
  · intro s a s' hr R hc _ hs
    exact rebootInv_step (deviceInv_reach hr) (flagInv_reach hr) (task_rebootTest hr) R hc hs

/-! ## 3. The restart -/

/-- **A restart is right**: the run that called `esp_restart` asked for a controlled reboot, is
    recorded with the result `pass`, was never aborted, and no run is RUNNING or ABORTING. -/
def RestartRight (d : Device) : Prop :=
  ∀ n, d.shared.rebooted = some n →
    (∃ p, d.accepted[n]? = some p ∧ p.2.workload = .controlledReboot) ∧
    (∃ r, (n, r) ∈ d.shared.finished ∧ r.result = Verdict.pass.text) ∧
    n ∉ d.aborted ∧ d.shared.run.state.active = false

/-- Only a worker at its end restarts the device. -/
theorem TaskStep.restarts {s s' : Shared} {t t' : Task} (h : TaskStep B s t s' t') :
    s'.rebooted = s.rebooted ∨ t.pc = .restart ∧ s' = { s with rebooted := some t.born } := by
  cases h with
  | restart hpc => exact Or.inr ⟨hpc, rfl⟩
  | copy | number | build | insert | more | done | choose | noFault | fault | finish | noReboot
  | reboot | markMagic | markRunId | delay => exact Or.inl rfl

/-- What a rebooting task has recorded. -/
theorem rebooting_passed {d : Device} {t : Task} (H : HistoryInv d) (R : ResultInv d)
    (ht : t ∈ d.tasks) (hr : t.rebooting = true) (hn : t.born ∉ d.aborted) :
    ∃ r, (t.born, r) ∈ d.shared.finished ∧ r.result = Verdict.pass.text := by
  obtain ⟨hdead, -, -, hok⟩ := Task.rebooting_iff.mp hr
  obtain ⟨r, hm, hres⟩ := H.recorded t ht hdead
  refine ⟨r, hm, ?_⟩
  rcases R t ht (TaskPc.chosen_of_dead hdead) with ⟨-, ha⟩ | hv
  · exact absurd ha hn
  · rw [hres, hv, Task.verdict, hok]
    rfl

/-- **Every restart is right** in every interleaving that begins no run over a reboot. -/
theorem restart_right {d : Device} (h : Reach (device B) UndisturbedReboot d) :
    RestartRight d := by
  refine device_reach ?_ ?_ h
  · intro marker n hn
    cases hn
  · intro s a s' hreach _ _ hnone hstep n hn
    have I := (deviceInv_reach hreach).owner
    have R := rebootInv_reach hreach
    cases hstep with
    | @task i ret t t' s'' ht hst =>
        rcases hst.restarts with e | ⟨hpc, rfl⟩
        · rw [show s''.rebooted = some n from hn, hnone] at e
          cases e
        · cases hn
          have hmem := List.mem_of_getElem? ht
          obtain ⟨hreb, hna⟩ := R.tested t hmem (by rw [hpc]; rfl)
          obtain ⟨-, -, hw, -⟩ := Task.rebooting_iff.mp hreb
          obtain ⟨p, hp, -, hreq⟩ := I.copied t hmem (by rw [hpc]; exact TaskPc.noConfusion)
          have hpass := rebooting_passed (historyInv_reach hreach) (resultInv_reach hreach) hmem
            hreb hna
          exact ⟨⟨p, hp, hreq ▸ hw⟩, hpass, hna, (R.alone t hmem hreb).2.1⟩
    | refused | begin | created | notCreated | finishFailed | abortRefused | abort | mainNumber
    | mainBuild | mainInsert | startHttp | startFailed | tick | radio =>
        rw [show s.shared.rebooted = some n from hn] at hnone
        cases hnone

set_option maxRecDepth 4000 in
/-- A controlled reboot that nothing disturbs. -/
theorem restart_right_undisturbed :
    ∃ d, Reach (device benchBoot) UndisturbedReboot d ∧ d.shared.rebooted = some 0 ∧
      d.shared.run.state.active = false :=
  have h := benchRunIf_reach (C := UndisturbedReboot)
    (waited .controlledReboot ++ List.replicate 13 firstTask) (by decide)
  ⟨_, h, by decide, (restart_right h 0 (by decide)).2.2.2⟩

set_option maxRecDepth 4000 in
/-- **A restart can hit the next run**: accepted between `db_run_finish` and the test of the flag,
    it is RUNNING when the device restarts. -/
theorem restart_hits_next_run :
    ∃ d, Reach (device benchBoot) Always d ∧ d.shared.rebooted = some 0 ∧
      d.shared.run.state = .running ∧ d.current = 1 ∧ ¬ RestartRight d := by
  have h := benchRun_reach
    (waited .controlledReboot ++ List.replicate 5 firstTask ++
      [.runsPost (bodyOf .idle), .createTask true] ++ List.replicate 8 firstTask) (by decide)
  refine ⟨_, h, by decide, by decide, by decide, fun hr => ?_⟩
  exact absurd (hr 0 (by decide)).2.2.2 (by decide)

end Inv

end DragonBench
