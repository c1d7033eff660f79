/-
  File:      DragonBench/Abort.lean
  Subject:   WHAT BECOMES OF AN ACCEPTED ABORT: it decides the result of its run exactly when the
             worker has not yet chosen the result.

  `db_run_abort` accepts as long as the run is RUNNING, and the run is RUNNING until
  `db_run_finish`. The worker reads the flag for its result some steps earlier. An abort accepted
  between the two is acknowledged to the client and lost.

  * `FlagInv` -- the flag of `current_run`, its state and the accepted aborts agree;
  * `ResultInv` -- where a chosen result comes from;
  * `LateAbort` -- the step that loses an abort;
  * **`abort_decides`** -- in every run without such a step, every accepted abort is in the record
    and in the events of its run;
  * **`late_abort_lost`** -- after such a step the record never says `aborted`.
-/
import DragonBench.History

namespace DragonBench

open Transition

/-! ## 1. The flag -/

/-- **The flag invariant.** -/
structure FlagInv (d : Device) : Prop where
  running : d.shared.run.state = .running → d.shared.run.abortRequested = false
  aborting : d.shared.run.state = .aborting → d.shared.run.abortRequested = true
  flag : d.shared.run.abortRequested = true ↔ d.current ∈ d.aborted
  worker : ∀ n ∈ d.aborted, ∃ t ∈ d.tasks, t.born = n

section Inv

variable {B : Boot}

/-- While a handler serves no run of its own, an active run has a worker. -/
theorem OwnerInv.live_worker {run : DbRun} {http : HttpPc} {tasks : List Task}
    {accepted : List (CText × DbRunRequest)} (I : OwnerInv run http tasks accepted)
    (hh : http = .idle) (ha : run.state.active = true) : ∃ t ∈ tasks, t.pc.live = true := by
  rcases I.owned ha with ho | hw
  · rw [hh] at ho
    cases ho
  · exact hw

theorem flagInv_step {d d' : Device} {a : Action} (I : DeviceInv d) (F : FlagInv d)
    (h : DeviceStep B d a d') : FlagInv d' := by
  cases h with
  | @begin body request hh hr hs =>
      refine ⟨fun _ => rfl, fun hs => DbRunState.noConfusion hs,
        ⟨fun hf => Bool.noConfusion hf, fun hn => ?_⟩, F.worker⟩
      -- the number of the new run is larger than every number given so far
      obtain ⟨t, ht, e⟩ := F.worker _ hn
      have hlt := I.owner.born_lt t ht
      have hc : (beginRun B d request).current = d.accepted.length := by
        show (d.accepted ++ [_]).length - 1 = _
        rw [List.length_append, List.length_singleton, Nat.add_sub_cancel]
      omega
  | created hh =>
      refine ⟨F.running, F.aborting, F.flag, fun n hn => ?_⟩
      obtain ⟨t, ht, e⟩ := F.worker n hn
      exact ⟨t, List.mem_append_left _ ht, e⟩
  | finishFailed hh =>
      exact ⟨fun hs => DbRunState.noConfusion hs, fun hs => DbRunState.noConfusion hs, F.flag,
        F.worker⟩
  | abort hh hs hid =>
      have hself : d.current ∈ d.aborted ++ [d.current] :=
        List.mem_append_right _ (List.mem_singleton_self _)
      refine ⟨fun hs => DbRunState.noConfusion hs, fun _ => rfl, ⟨fun _ => hself, fun _ => rfl⟩,
        fun n hn => ?_⟩
      rcases List.mem_append.mp hn with hn | hn
      · exact F.worker n hn
      · rw [List.mem_singleton] at hn
        subst hn
        have ha : d.shared.run.state.active = true := by rw [hs]; rfl
        obtain ⟨t, ht, lt⟩ := I.owner.live_worker hh ha
        exact ⟨t, ht, (I.owner.worker t ht lt).2⟩
  | @task i ret t t' s' ht hs =>
      have hw : ∀ n ∈ d.aborted, ∃ u ∈ d.tasks.set i t', u.born = n := by
        intro n hn
        obtain ⟨u, hu, e⟩ := F.worker n hn
        obtain ⟨v, hv, e', -⟩ := KeyedList.exists_set I.owner.nodup ht hs.born
          (P := fun _ => True) id ⟨u, hu, e, trivial⟩
        exact ⟨v, hv, e'⟩
      rcases hs.finishes with ⟨hrun, -, -⟩ | ⟨-, -, hrun, -⟩
      · refine ⟨?_, ?_, ?_, hw⟩
        · rw [hrun]
          exact F.running
        · rw [hrun]
          exact F.aborting
        · rw [hrun]
          exact F.flag
      · refine ⟨fun hc => ?_, fun hc => ?_, ?_, hw⟩
        · rw [hrun] at hc
          cases hc
        · rw [hrun] at hc
          cases hc
        · rw [hrun]
          exact F.flag
  | refused | notCreated | abortRefused | mainNumber | mainBuild | mainInsert | startHttp
  | startFailed | tick | radio => exact ⟨F.running, F.aborting, F.flag, F.worker⟩

/-- **The flag invariant holds in every reachable state.** -/
theorem flagInv_reach {C : Device → Action → Prop} {d : Device} (h : Reach (device B) C d) :
    FlagInv d := by
  refine device_reach ?_ ?_ h
  · intro marker
    exact ⟨fun _ => rfl, fun hs => DbRunState.noConfusion hs,
      ⟨fun hf => Bool.noConfusion hf, fun hn => absurd hn List.not_mem_nil⟩,
      fun n hn => absurd hn List.not_mem_nil⟩
  · intro s a s' hr F _ _ hs
    exact flagInv_step (deviceInv_reach hr) F hs

/-! ## 2. The result -/

/-- **Where a chosen result comes from**: an accepted abort, or the return value of the workload. -/
def ResultInv (d : Device) : Prop :=
  ∀ t ∈ d.tasks, t.pc.chosen = true →
    t.result = .aborted ∧ t.born ∈ d.aborted ∨ t.result = t.verdict false

theorem resultInv_step {d d' : Device} {a : Action} (I : DeviceInv d) (F : FlagInv d)
    (R : ResultInv d) (h : DeviceStep B d a d') : ResultInv d' := by
  cases h with
  | created hh =>
      intro t ht hc
      rcases List.mem_append.mp ht with ht | ht
      · exact R t ht hc
      · rw [List.mem_singleton] at ht
        subst ht
        cases hc
  | abort hh hs hid =>
      intro t ht hc
      exact (R t ht hc).imp_left fun h => ⟨h.1, List.mem_append_left _ h.2⟩
  | @task i ret t t' s' ht hs =>
      intro u hu hc
      rcases (KeyedList.mem_set_iff I.owner.nodup ht hs.born).mp hu with rfl | ⟨hu, -⟩
      · have hmem := List.mem_of_getElem? ht
        rcases hs.chooses hc with hc' | ⟨hpc, hres, hok, -, -, -, -⟩
        · obtain ⟨-, -, hres, hok, -, -, -⟩ := hs.keeps hc'
          rw [hres, hs.born, Task.verdict, hok]
          exact R t hmem hc'
        · have hb : t.born = d.current := (I.owner.worker t hmem (by rw [hpc]; rfl)).2
          rw [hres, hs.born, Task.verdict, Task.verdict, hok]
          cases hf : d.shared.run.abortRequested with
          | true => exact Or.inl ⟨rfl, hb ▸ F.flag.mp hf⟩
          | false => exact Or.inr rfl
      · exact R u hu hc
  | refused | begin | notCreated | finishFailed | abortRefused | mainNumber | mainBuild
  | mainInsert | startHttp | startFailed | tick | radio => exact R

theorem resultInv_reach {C : Device → Action → Prop} {d : Device} (h : Reach (device B) C d) :
    ResultInv d := by
  refine device_reach ?_ ?_ h
  · intro marker t ht
    exact absurd ht List.not_mem_nil
  · intro s a s' hr R _ _ hs
    exact resultInv_step (deviceInv_reach hr) (flagInv_reach hr) R hs

/-! ## 3. Late aborts -/

/-- **The step that loses an abort**: `db_run_abort` will accept, and the worker of the run has
    chosen its result and not yet called `db_run_finish`. -/
def LateAbort (d : Device) : Action → Prop
  | .abortPost uri =>
    pathRunId uri true = some d.shared.run.runId ∧ d.shared.run.state = .running ∧
      ∃ t ∈ d.tasks, t.pc.live = true ∧ t.pc.chosen = true
  | _ => False

instance (d : Device) : (a : Action) → Decidable (LateAbort d a)
  | .abortPost uri => inferInstanceAs (Decidable (pathRunId uri true = some d.shared.run.runId ∧
      d.shared.run.state = .running ∧ ∃ t ∈ d.tasks, t.pc.live = true ∧ t.pc.chosen = true))
  | .runsPost _ | .createTask _ | .finishFailed | .task _ _ | .main _ | .tick _ | .radio _ _ =>
    isFalse id

/-- The step is no late abort. -/
def TimelyAborts (d : Device) (a : Action) : Prop := ¬ LateAbort d a

instance (d : Device) (a : Action) : Decidable (TimelyAborts d a) :=
  inferInstanceAs (Decidable (¬ LateAbort d a))

/-- The result of an aborted run, once chosen, is `aborted`. -/
def AbortInv (d : Device) : Prop :=
  ∀ t ∈ d.tasks, t.born ∈ d.aborted → t.pc.chosen = true → t.result = .aborted

theorem abortInv_step {d d' : Device} {a : Action} (I : DeviceInv d) (F : FlagInv d)
    (A : AbortInv d) (hc : TimelyAborts d a) (h : DeviceStep B d a d') : AbortInv d' := by
  cases h with
  | created hh =>
      intro t ht hn hch
      rcases List.mem_append.mp ht with ht | ht
      · exact A t ht hn hch
      · rw [List.mem_singleton] at ht
        subst ht
        cases hch
  | abort hh hs hid =>
      intro t ht hn hch
      rcases List.mem_append.mp hn with hn | hn
      · exact A t ht hn hch
      · -- the task of the run is the live worker, so the abort would be late
        rw [List.mem_singleton] at hn
        have ha : d.shared.run.state.active = true := by rw [hs]; rfl
        obtain ⟨u, hu, lu⟩ := I.owner.live_worker hh ha
        have hb := (I.owner.worker u hu lu).2
        have e := KeyedList.eq_of_key I.owner.nodup ht hu (hn.trans hb.symm)
        subst e
        exact absurd ⟨hid, hs, t, ht, lu, hch⟩ hc
  | @task i ret t t' s' ht hs =>
      intro u hu hn hch
      rcases (KeyedList.mem_set_iff I.owner.nodup ht hs.born).mp hu with rfl | ⟨hu, -⟩
      · have hmem := List.mem_of_getElem? ht
        rw [hs.born] at hn
        rcases hs.chooses hch with hc' | ⟨hpc, hres, -, -, -, -, -⟩
        · rw [(hs.keeps hc').2.2.1]
          exact A t hmem hn hc'
        · have hb : t.born = d.current := (I.owner.worker t hmem (by rw [hpc]; rfl)).2
          have hf : d.shared.run.abortRequested = true := F.flag.mpr (hb ▸ hn)
          rw [hres, hf]
          rfl
      · exact A u hu hn hch
  | refused | begin | notCreated | finishFailed | abortRefused | mainNumber | mainBuild
  | mainInsert | startHttp | startFailed | tick | radio => exact A

theorem abortInv_reach {d : Device} (h : Reach (device B) TimelyAborts d) : AbortInv d := by
  refine device_reach ?_ ?_ h
  · intro marker t ht
    exact absurd ht List.not_mem_nil
  · intro s a s' hr A hc _ hs
    exact abortInv_step (deviceInv_reach hr) (flagInv_reach hr) A hc hs

/-- **Every accepted abort is in the record and in the events of its run**: the result recorded by
    `db_run_finish`, and the result in `phase_end` and `run_complete`, is `aborted`. -/
def AbortHonoured (d : Device) : Prop :=
  ∀ n ∈ d.aborted,
    (∀ r, (n, r) ∈ d.shared.finished → r.result = Verdict.aborted.text) ∧
    (∀ i ∈ d.shared.inserted, i.source = some n →
      i.event.args.event = .phaseEnd ∨ i.event.args.event = .runComplete →
      i.event.args.result = some Verdict.aborted.text)

/-- **An abort that is not late decides the result of its run**, in every interleaving. -/
theorem abort_decides {d : Device} (h : Reach (device B) TimelyAborts d) : AbortHonoured d := by
  have I := (deviceInv_reach h).owner
  have H := historyInv_reach h
  have A := abortInv_reach h
  intro n hn
  refine ⟨fun r hr => ?_, fun i hi hsrc hkind => ?_⟩
  · rcases H.finished _ hr with ⟨t, ht, rfl, hdead, hres⟩ | ⟨hnone, -⟩
    · rw [hres, A t ht hn (TaskPc.chosen_of_dead hdead)]
    · obtain ⟨t, ht, e⟩ := (flagInv_reach h).worker n hn
      exact absurd e (hnone t ht)
  · obtain ⟨t, ht, rfl, k, hargs, -, hk⟩ := H.said i hi n hsrc
    rw [hargs] at hkind ⊢
    cases k with
    | phaseStart | fault => rcases hkind with hkind | hkind <;> cases hkind
    | phaseEnd | runComplete =>
        have hc : t.pc.chosen = true := hk.resolve_left RunEvent.noConfusion
        show some t.result.text = _
        rw [A t ht hn hc]

set_option maxRecDepth 4000 in
/-- A run that is aborted while it waits, up to its end. -/
theorem abort_decides_timely :
    ∃ d, Reach (device benchBoot) TimelyAborts d ∧ d.aborted = [0] ∧
      ∀ r, (0, r) ∈ d.shared.finished → r.result = Verdict.aborted.text :=
  have h := benchRunIf_reach (C := TimelyAborts)
    ((waited .idle).take 6 ++ firstAbort :: List.replicate 12 firstTask) (by decide)
  ⟨_, h, by decide, (abort_decides h 0 (by decide)).1⟩

set_option maxRecDepth 4000 in
/-- **An abort can be lost**: accepted behind the choice of the result, while the run is still
    RUNNING, it leaves a record that says `pass`. -/
theorem abort_can_be_lost :
    ∃ d, Reach (device benchBoot) Always d ∧ d.aborted = [0] ∧
      d.shared.finished.map (fun p => (p.1, p.2.result)) = [(0, Verdict.pass.text)] ∧
      ¬ AbortHonoured d := by
  have h := benchRun_reach
    (waited .idle ++ firstTask :: firstAbort :: List.replicate 4 firstTask) (by decide)
  refine ⟨_, h, by decide, by decide, fun hh => ?_⟩
  have hrec := (hh 0 (by decide)).1 _ (List.mem_of_getElem? (i := 0) rfl)
  exact absurd hrec (by decide)

/-- **After a late abort the record never says `aborted`**, whatever happens next. -/
theorem late_abort_lost {d d' d'' : Device} {a : Action} (h : Reach (device B) Always d)
    (hl : LateAbort d a) (hs : (device B).step d a = some d')
    (h' : Reach ((device B).startingAt d') Always d'') {r : DbRun}
    (hr : (d.current, r) ∈ d''.shared.finished) : r.result ≠ Verdict.aborted.text := by
  have I := deviceInv_reach h
  have hd' : Reach (device B) Always d' := .step h trivial hs
  -- the worker that has chosen against the abort
  have hworker : ∃ t ∈ d''.tasks, t.born = d.current ∧ t.pc.chosen = true ∧
      t.result ≠ .aborted := by
    refine h'.inv (I := fun x => ∃ t ∈ x.tasks, t.born = d.current ∧
      t.pc.chosen = true ∧ t.result ≠ .aborted) ?_ ?_
    · intro x hx
      subst hx
      obtain ⟨-, hstep⟩ := step_cases hs
      cases a with
      | abortPost uri =>
          obtain ⟨hid, hrun, t, ht, lt, hc⟩ := hl
          have hf : d.shared.run.abortRequested = false := (flagInv_reach h).running hrun
          have hn : d.current ∉ d.aborted := by
            intro hn
            rw [(flagInv_reach h).flag.mpr hn] at hf
            cases hf
          have hb : t.born = d.current := (I.owner.worker t ht lt).2
          have hres : t.result ≠ .aborted := by
            intro e
            rcases resultInv_reach h t ht hc with ⟨-, hm⟩ | hv
            · exact hn (hb ▸ hm)
            · rw [hv, Task.verdict] at e
              simp only [Bool.false_eq_true, if_false] at e
              split at e <;> cases e
          cases hstep with
          | abortRefused | abort => exact ⟨t, ht, hb, hc, hres⟩
      | _ => exact absurd hl id
    · intro x b x' hx hw _ hs'
      have I' := deviceInv_reach (reach_startingAt hd' hx)
      obtain ⟨-, hstep⟩ := step_cases hs'
      cases hstep with
      | created =>
          obtain ⟨t, ht, hP⟩ := hw
          exact ⟨t, List.mem_append_left _ ht, hP⟩
      | task ht hst =>
          refine KeyedList.exists_set I'.owner.nodup ht hst.born ?_ hw
          intro hP
          obtain ⟨hc', -, e, -⟩ := hst.keeps hP.1
          exact ⟨hc', e ▸ hP.2⟩
      | refused | begin | notCreated | finishFailed | abortRefused | abort | mainNumber
      | mainBuild | mainInsert | startHttp | startFailed | tick | radio => exact hw
  obtain ⟨t, ht, hb, hc, hres⟩ := hworker
  have hd'' := reach_startingAt hd' h'
  intro e
  rcases (historyInv_reach hd'').finished _ hr with ⟨u, hu, hbu, -, hru⟩ | ⟨hnone, -⟩
  · have e' := KeyedList.eq_of_key (deviceInv_reach hd'').owner.nodup hu ht (hbu.trans hb.symm)
    subst e'
    exact hres (Verdict.text_injective (hru.symm.trans e))
  · exact hnone t ht hb

end Inv

end DragonBench
