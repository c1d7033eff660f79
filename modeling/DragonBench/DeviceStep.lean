/-
  File:      DragonBench/DeviceStep.lean
  Subject:   What one step of the device can do, said once.

  `step` and `taskStep` are functions that branch; the proofs about runs of the device work on the
  two relations below, one constructor for each thing that can happen, guards included:

  * `TaskStep B s t s' t'` -- the workload task `t` on the shared variables `s`;
  * `DeviceStep B d a d'` -- the device under the label `a`;
  * `taskStep_cases`, `step_cases` -- every step of the functions is one of the relations.

  `device_reach` is the induction over the runs of the device, `task_reach` the one over the steps
  of one task, for facts that need nothing from the shared variables, and `work_reach` the one over
  the steps of its workload function. `benchBoot` and `bootActions`
  are the device the concrete runs of the later modules start from.
-/
import DragonBench.Device

namespace DragonBench

variable {B : Boot}

/-! ## 1. A workload task -/

/-- **What a step of a workload task can do.** -/
inductive TaskStep (B : Boot) (s : Shared) (t : Task) : Shared → Task → Prop where
  | copy (h : t.pc = .copy) :
      TaskStep B s t s { t with run := s.run, pc := .emit .phaseStart .number }
  | number {k : RunEvent} (h : t.pc = .emit k .number) :
      TaskStep B s t { s with eventSeq := (s.eventSeq + 1) % 2 ^ 64 }
        { t with pc := .emit k (.build (asDouble ((s.eventSeq + 1) % 2 ^ 64))) }
  | build {k : RunEvent} {n : Nat} (h : t.pc = .emit k (.build n)) :
      TaskStep B s t s { t with pc := .emit k (.insert ⟨taskArgs t k, n, asDouble s.clock⟩) }
  | insert {k : RunEvent} {e : Event} (h : t.pc = .emit k (.insert e)) :
      TaskStep B s t
        { s with
          ring := s.ring.push (e.slot B.cfg s.eventSeq)
          inserted := s.inserted ++ [⟨some t.born, s.eventSeq, e⟩] }
        { t with pc := afterEmit B t k }
  | more {w w' : Work} {ret : Int} (h : t.pc = .work w)
      (hw : workStep B.board (s.seen ret) w = .more w') :
      TaskStep B s t s { t with polls := t.pollsAfter w s.run.abortRequested, pc := .work w' }
  | done {w : Work} {ret : Int} {ok : Bool} {a b : Nat} (h : t.pc = .work w)
      (hw : workStep B.board (s.seen ret) w = .done ok a b) :
      TaskStep B s t s
        { t with
          polls := t.pollsAfter w s.run.abortRequested
          pc := .choose
          ok := ok
          a := a % 2 ^ 64
          b := b % 2 ^ 64 }
  | choose (h : t.pc = .choose) :
      TaskStep B s t s
        { t with
          result := t.verdict s.run.abortRequested
          pc := if t.ok then .emit .phaseEnd .number else .faultTest
          polls := t.polls ++ [s.run.abortRequested] }
  | noFault (h : t.pc = .faultTest) (ha : s.run.abortRequested = true) :
      TaskStep B s t s { t with pc := .emit .phaseEnd .number }
  | fault (h : t.pc = .faultTest) (ha : s.run.abortRequested = false) :
      TaskStep B s t s { t with pc := .emit .fault .number }
  | finish (h : t.pc = .finish) :
      TaskStep B s t
        { s with
          run := dbRunFinish s.run (some t.result.text) s.clock
          finished := s.finished ++ [(t.born, dbRunFinish s.run (some t.result.text) s.clock)] }
        { t with pc := .emit .runComplete .number }
  | noReboot (h : t.pc = .rebootTest) (ha : s.run.abortRequested = true) :
      TaskStep B s t s { t with pc := .deleted }
  | reboot (h : t.pc = .rebootTest) (ha : s.run.abortRequested = false) :
      TaskStep B s t s { t with pc := .markMagic }
  | markMagic (h : t.pc = .markMagic) :
      TaskStep B s t { s with marker := { s.marker with magic := rebootMarkerMagic } }
        { t with pc := .markRunId }
  | markRunId (h : t.pc = .markRunId) :
      TaskStep B s t
        { s with marker := { s.marker with runId := CText.snprintf dbRunIdLen t.run.runId } }
        { t with pc := .delay }
  | delay (h : t.pc = .delay) : TaskStep B s t s { t with pc := .restart }
  | restart (h : t.pc = .restart) :
      TaskStep B s t { s with rebooted := some t.born } { t with pc := .deleted }

/-- **Every step of `workload_task` is one of these.** -/
theorem taskStep_cases {s s' : Shared} {t t' : Task} {ret : Int}
    (h : taskStep B s t ret = some (s', t')) : TaskStep B s t s' t' := by
  unfold taskStep at h
  cases hpc : t.pc with
  | copy =>
      simp only [hpc] at h
      cases h
      exact .copy hpc
  | emit k stage =>
      simp only [hpc] at h
      cases stage with
      | number =>
          cases h
          exact .number hpc
      | build n =>
          cases h
          exact .build hpc
      | insert e =>
          cases h
          exact .insert hpc
  | work w =>
      simp only [hpc] at h
      cases hw : workStep B.board (s.seen ret) w with
      | more w' =>
          simp only [hw] at h
          cases h
          exact .more hpc hw
      | done ok a b =>
          simp only [hw] at h
          cases h
          exact .done hpc hw
  | choose =>
      simp only [hpc] at h
      cases h
      exact .choose hpc
  | faultTest =>
      simp only [hpc] at h
      cases ha : s.run.abortRequested with
      | true =>
          simp only [ha, if_true] at h
          cases h
          exact .noFault hpc ha
      | false =>
          simp only [ha, Bool.false_eq_true, if_false] at h
          cases h
          exact .fault hpc ha
  | finish =>
      simp only [hpc] at h
      cases h
      exact .finish hpc
  | rebootTest =>
      simp only [hpc] at h
      cases ha : s.run.abortRequested with
      | true =>
          simp only [ha, if_true] at h
          cases h
          exact .noReboot hpc ha
      | false =>
          simp only [ha, Bool.false_eq_true, if_false] at h
          cases h
          exact .reboot hpc ha
  | markMagic =>
      simp only [hpc] at h
      cases h
      exact .markMagic hpc
  | markRunId =>
      simp only [hpc] at h
      cases h
      exact .markRunId hpc
  | delay =>
      simp only [hpc] at h
      cases h
      exact .delay hpc
  | restart =>
      simp only [hpc] at h
      cases h
      exact .restart hpc
  | deleted =>
      simp only [hpc] at h
      cases h

/-- Behind `run_complete` stands the reboot test or the end. -/
theorem afterEmit_runComplete (B : Boot) (t : Task) :
    afterEmit B t .runComplete = .rebootTest ∨ afterEmit B t .runComplete = .deleted := by
  simp only [afterEmit]
  split
  · exact Or.inl rfl
  · exact Or.inr rfl

/-- The control points an event leads to. -/
inductive AfterEvent : TaskPc → Prop where
  | work (w : Work) : AfterEvent (.work w)
  | phaseEnd : AfterEvent (.emit .phaseEnd .number)
  | finish : AfterEvent .finish
  | rebootTest : AfterEvent .rebootTest
  | deleted : AfterEvent .deleted

theorem afterEvent_of_eq {t : Task} {k : RunEvent} {pc : TaskPc} (h : afterEmit B t k = pc) :
    AfterEvent pc := by
  subst h
  cases k with
  | phaseStart => exact .work _
  | fault => exact .phaseEnd
  | phaseEnd => exact .finish
  | runComplete =>
      rcases afterEmit_runComplete B t with h | h <;> rw [h]
      · exact .rebootTest
      · exact .deleted

/-! ## 2. The device -/

/-- The device after an accepted abort. -/
def acceptAbort (d : Device) : Device :=
  { d with
    shared := { d.shared with run := { d.shared.run with abortRequested := true, state := .aborting } }
    aborted := d.aborted ++ [d.current] }

/-- **What a step of the device can do.** -/
inductive DeviceStep (B : Boot) (d : Device) : Action → Device → Prop where
  | refused {body : Option Json} : DeviceStep B d (.runsPost body) d
  | begin {body : Option Json} {request : DbRunRequest} (hh : d.http = .idle)
      (hr : runsPostRequest body = .ok request) (hs : d.shared.run.state.active = false) :
      DeviceStep B d (.runsPost body) (beginRun B d request)
  | created (hh : d.http = .creating) : DeviceStep B d (.createTask true) (addTask d)
  | notCreated (hh : d.http = .creating) :
      DeviceStep B d (.createTask false) { d with http := .createFailed }
  | finishFailed (hh : d.http = .createFailed) : DeviceStep B d .finishFailed (finishFailed d)
  | abortRefused {uri : CText} : DeviceStep B d (.abortPost uri) d
  | abort {uri : CText} (hh : d.http = .idle) (hs : d.shared.run.state = .running)
      (hid : pathRunId uri true = some d.shared.run.runId) :
      DeviceStep B d (.abortPost uri) (acceptAbort d)
  | task {i : Nat} {ret : Int} {t t' : Task} {s' : Shared} (ht : d.tasks[i]? = some t)
      (hs : TaskStep B d.shared t s' t') :
      DeviceStep B d (.task i ret) { d with shared := s', tasks := d.tasks.set i t' }
  | mainNumber {up : Bool} {k : BootEvent} (h : d.main = .emit k .number) :
      DeviceStep B d (.main up)
        { d with
          shared := { d.shared with eventSeq := (d.shared.eventSeq + 1) % 2 ^ 64 }
          main := .emit k (.build (asDouble ((d.shared.eventSeq + 1) % 2 ^ 64))) }
  | mainBuild {up : Bool} {k : BootEvent} {n : Nat} (h : d.main = .emit k (.build n)) :
      DeviceStep B d (.main up)
        { d with main := .emit k (.insert ⟨mainArgs B k, n, asDouble d.shared.clock⟩) }
  | mainInsert {up : Bool} {k : BootEvent} {e : Event} (h : d.main = .emit k (.insert e)) :
      DeviceStep B d (.main up)
        { d with
          shared := { d.shared with
            ring := d.shared.ring.push (e.slot B.cfg d.shared.eventSeq)
            inserted := d.shared.inserted ++ [⟨none, d.shared.eventSeq, e⟩] }
          main := afterBootEvent k }
  | startHttp (h : d.main = .startHttp) :
      DeviceStep B d (.main true) { d with http := .idle, main := .emit .ready .number }
  | startFailed (h : d.main = .startHttp) :
      DeviceStep B d (.main false) { d with main := .returned }
  | tick {ms : Nat} :
      DeviceStep B d (.tick ms)
        { d with shared := { d.shared with clock := d.shared.clock + ms } }
  | radio {sta : Bool} {clients : Nat} :
      DeviceStep B d (.radio sta clients)
        { d with shared := { d.shared with staConnected := sta, apClientCount := clients } }

theorem active_eq_false {st : DbRunState} (h : ¬ (st = .running ∨ st = .aborting)) :
    st.active = false := by
  cases st with
  | idle | complete => rfl
  | running => exact absurd (Or.inl rfl) h
  | aborting => exact absurd (Or.inr rfl) h

/-- `runs_post` begins a run where none is active, or does nothing. -/
theorem runsPost_eq (B : Boot) (d : Device) (body : Option Json) :
    runsPost B d body = d ∨ ∃ request, runsPostRequest body = .ok request ∧
      d.shared.run.state.active = false ∧ runsPost B d body = beginRun B d request := by
  unfold runsPost
  cases runsPostRequest body with
  | error e => exact Or.inl rfl
  | ok request =>
      by_cases ha : d.shared.run.state = .running ∨ d.shared.run.state = .aborting
      · exact Or.inl (if_pos ha)
      · exact Or.inr ⟨request, rfl, active_eq_false ha, if_neg ha⟩

/-- **Every step of the device is one of these**, and none is taken after a restart. -/
theorem step_cases {d d' : Device} {a : Action} (h : step B d a = some d') :
    d.shared.rebooted = none ∧ DeviceStep B d a d' := by
  unfold step at h
  rw [Option.ite_none_left_eq_some] at h
  obtain ⟨hre, h⟩ := h
  refine ⟨Option.not_isSome_iff_eq_none.mp hre, ?_⟩
  cases a with
  | runsPost body =>
      simp only [Option.ite_none_right_eq_some, Option.some.injEq] at h
      obtain ⟨hh, rfl⟩ := h
      rcases runsPost_eq B d body with e | ⟨request, hr, ha, e⟩ <;> rw [e]
      · exact .refused
      · exact .begin hh hr ha
  | createTask created =>
      simp only [Option.ite_none_right_eq_some] at h
      obtain ⟨hh, h⟩ := h
      cases created with
      | true =>
          cases h
          exact .created hh
      | false =>
          cases h
          exact .notCreated hh
  | finishFailed =>
      simp only [Option.ite_none_right_eq_some, Option.some.injEq] at h
      obtain ⟨hh, rfl⟩ := h
      exact .finishFailed hh
  | abortPost uri =>
      simp only [Option.ite_none_right_eq_some, Option.some.injEq] at h
      obtain ⟨hh, rfl⟩ := h
      unfold abortPost
      cases hb : (pathRunId uri true).bind (dbRunAbort d.shared.run) with
      | none => exact .abortRefused
      | some run =>
          obtain ⟨id, hid, hab⟩ := Option.bind_eq_some_iff.mp hb
          obtain ⟨hrun, rfl, rfl⟩ := dbRunAbort_some hab
          exact .abort hh hrun hid
  | task i ret =>
      cases ht : d.tasks[i]? with
      | none =>
          simp only [ht] at h
          cases h
      | some t =>
          simp only [ht, Option.map_eq_some_iff] at h
          obtain ⟨⟨s', t'⟩, hs, rfl⟩ := h
          exact .task ht (taskStep_cases hs)
  | main up =>
      simp only [mainStep] at h
      cases hm : d.main with
      | emit k stage =>
          simp only [hm] at h
          cases stage with
          | number =>
              cases h
              exact .mainNumber hm
          | build n =>
              cases h
              exact .mainBuild hm
          | insert e =>
              cases h
              exact .mainInsert hm
      | startHttp =>
          simp only [hm] at h
          cases up with
          | true =>
              cases h
              exact .startHttp hm
          | false =>
              cases h
              exact .startFailed hm
      | returned =>
          simp only [hm] at h
          cases h
  | tick ms =>
      cases h
      exact .tick
  | radio sta clients =>
      cases h
      exact .radio

/-! ## 3. Induction over the runs -/

/-- **The rule for the device**: what it has in front of its first event, and what every step
    from a reachable state keeps, it has in every state reached. -/
theorem device_reach {C : Device → Action → Prop} {I : Device → Prop}
    (h0 : ∀ marker, I (.initial marker))
    (hI : ∀ d a d', Transition.Reach (device B) C d → I d → C d a → d.shared.rebooted = none →
      DeviceStep B d a d' → I d') {d : Device} (h : Transition.Reach (device B) C d) : I d := by
  refine h.inv ?_ ?_
  · intro s hs
    obtain ⟨marker, rfl⟩ := hs
    exact h0 marker
  · intro s a s' hr I hc hs
    obtain ⟨hre, hstep⟩ := step_cases hs
    exact hI s a s' hr I hc hre hstep

/-- **The rule for one task**: what a fresh task has, and what its own steps keep whatever the
    shared variables hold, every task has in every state reached. -/
theorem task_reach {P : Task → Prop} (h0 : ∀ n, P (.fresh n))
    (hP : ∀ s t s' t', P t → TaskStep B s t s' t' → P t') {C : Device → Action → Prop}
    {d : Device} (h : Transition.Reach (device B) C d) : ∀ t ∈ d.tasks, P t := by
  refine device_reach (I := fun d => ∀ t ∈ d.tasks, P t) ?_ ?_ h
  · intro marker t ht
    exact absurd ht List.not_mem_nil
  · intro s a s' _ I _ _ hs
    cases hs with
    | created hh =>
        intro t ht
        rcases List.mem_append.mp ht with ht | ht
        · exact I t ht
        · rw [List.mem_singleton] at ht
          subst ht
          exact h0 _
    | task ht hst =>
        intro u hu
        rcases List.mem_or_eq_of_mem_set hu with hu | rfl
        · exact I u hu
        · exact hP _ _ _ _ (I _ (List.mem_of_getElem? ht)) hst
    | refused | begin | notCreated | finishFailed | abortRefused | abort | mainNumber
    | mainBuild | mainInsert | startHttp | startFailed | tick | radio => exact I

/-- **The rule for the workload functions**: what the function of every request has at its start,
    and what its steps keep whatever they see, every worker's function has in every state
    reached, with the request the worker copied. -/
theorem work_reach {J : DbRunRequest → Work → Prop} (h0 : ∀ r, J r (workStart B.board r))
    (hJ : ∀ r e w w', J r w → workStep B.board e w = .more w' → J r w')
    {C : Device → Action → Prop} {d : Device} (h : Transition.Reach (device B) C d) :
    ∀ t ∈ d.tasks, ∀ w, t.pc = .work w → J t.run.request w := by
  refine task_reach (P := fun t => ∀ w, t.pc = .work w → J t.run.request w) ?_ ?_ h
  · intro n w hw
    cases hw
  · intro s t s' t' I hs w hw
    cases hs with
    | more h hstep =>
        cases hw
        exact hJ _ _ _ _ (I _ h) hstep
    | @insert k e h =>
        cases k with
        | phaseStart =>
            cases hw
            exact h0 _
        | runComplete =>
            simp only [afterEmit] at hw
            split at hw <;> cases hw
        | fault | phaseEnd => cases hw
    | choose h =>
        dsimp only at hw
        split at hw <;> cases hw
    | copy | number | build | done | noFault | fault | finish | noReboot | reboot | markMagic
    | markRunId | delay | restart => cases hw

/-! ## 4. A device for concrete runs -/

/-- A board without a scratch partition, booted with the nonce 42. -/
def benchBoot : Boot where
  cfg := ⟨"esp32s3-n8r8".toList, "0.1.0".toList, fun q => CText.decimal q.num.toNat,
    (jsonText false).parse⟩
  board := ⟨none, none, ⟨0x10000, 0x100000⟩⟩
  bootNonce := 42
  previousRebootRunId := []
  resetReasonText := "power_on".toList

/-- `app_main` up to `start_http`. -/
def bootActions : List Action := List.replicate 7 (.main true)

/-- The device after these steps. -/
def benchRun (actions : List Action) : Device :=
  (device benchBoot).runEnd (.initial ⟨0, []⟩) (bootActions ++ actions)

/-- A request for a run of this workload, of half a minute. -/
def bodyOf (w : DbWorkload) : Option Json :=
  some (.obj [("workload".toList, .str (dbWorkloadName w))])

/-- A step of the first workload task. -/
def firstTask : Action := .task 0 0

/-- A waiting run up to the end of its waiting: its worker stands in front of the choice of the
    result. -/
def waited (w : DbWorkload) : List Action :=
  [.runsPost (bodyOf w), .createTask true, firstTask, firstTask, firstTask, firstTask, firstTask,
    .tick 30000, firstTask]

/-- The abort request of the first run. -/
def firstAbort : Action := .abortPost "/api/v1/runs/0000002a-00000001/abort".toList

open Transition in
theorem benchRun_reach (actions : List Action)
    (h : ((device benchBoot).exec (.initial ⟨0, []⟩) (bootActions ++ actions)).isSome = true) :
    Reach (device benchBoot) Always (benchRun actions) :=
  reach_runEnd (.start ⟨_, rfl⟩) h

/-- The same run as long as its steps meet a condition. -/
def benchRunIf (C : Device → Action → Prop) [∀ d a, Decidable (C d a)] (actions : List Action) :
    Device :=
  ((device benchBoot).guard C).runEnd (.initial ⟨0, []⟩) (bootActions ++ actions)

open Transition in
theorem benchRunIf_reach {C : Device → Action → Prop} [∀ d a, Decidable (C d a)]
    (actions : List Action) (h : (((device benchBoot).guard C).exec (.initial ⟨0, []⟩)
      (bootActions ++ actions)).isSome = true) :
    Reach (device benchBoot) C (benchRunIf C actions) :=
  reach_guard (reach_runEnd (.start ⟨_, rfl⟩) h)

end DragonBench
