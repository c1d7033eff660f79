/-
  File:      DragonBench/RunService.lean
  Subject:   WHAT THE RUN SLOT IS FOR: a service that takes one run at a time, lets it be aborted and
             records one result for it, and the device as an implementation of that service.

  The service knows nothing of tasks, handlers or locks. Its state is the list of the runs it has
  taken, the list of the results it has recorded, and whether the run under way is to be aborted.
  A run is under way while there is a run without a result.

  * `RunService`, `serviceStep` -- the service; `RunService.view` -- what it shows of its slot;
  * `SlotInv` -- how the device stands to it;
  * `deviceService` -- the device refines the service;
  * **`device_is_service`** -- every interleaving of the device is a run of the service, and what
    `status_get` and `run_get` read is what the service shows;
  * **`records_in_order`** -- each accepted run is recorded once, in the order of acceptance.
-/
import DragonBench.Lib.Refinement
import DragonBench.Abort

namespace DragonBench

open Transition

/-! ## 1. The service -/

/-- The state of the service. -/
structure RunService where
  taken : List (CText × DbRunRequest)
  results : List CText
  aborting : Bool
  deriving DecidableEq, Repr

/-- A run is under way. -/
def RunService.busy (s : RunService) : Bool := decide (s.results.length < s.taken.length)

/-- What can be asked of the service. -/
inductive ServiceAction where
  | take (runId : CText) (request : DbRunRequest)
  | abort (runId : CText)
  | record (result : CText)
  deriving DecidableEq, Repr

/-- **The service**: it takes a run when none is under way, aborts the one under way by its id and
    once, and records `aborted` only for a run that was to be aborted. -/
def serviceStep (s : RunService) : ServiceAction → Option RunService
  | .take runId request =>
    if s.busy then none else some ⟨s.taken ++ [(runId, request)], s.results, false⟩
  | .abort runId =>
    if s.busy ∧ s.aborting = false ∧ s.taken.getLast?.map Prod.fst = some runId then
      some { s with aborting := true }
    else none
  | .record result =>
    if s.busy ∧ (result = Verdict.aborted.text → s.aborting = true) then
      some { s with results := s.results ++ [result] }
    else none

/-- The service as a transition system. -/
def runService : System RunService ServiceAction where
  init s := s = ⟨[], [], false⟩
  step := serviceStep

/-- What a client can read of the slot. -/
structure SlotView where
  runId : CText
  state : DbRunState
  workload : DbWorkload
  result : CText
  deriving DecidableEq, Repr

/-- What the service shows. -/
def RunService.view (s : RunService) : SlotView :=
  match s.taken.getLast? with
  | none => ⟨[], .idle, .idle, "none".toList⟩
  | some (runId, request) =>
    if s.busy then
      ⟨runId, if s.aborting then .aborting else .running, request.workload, "running".toList⟩
    else ⟨runId, .complete, request.workload, s.results.getLastD []⟩

/-- What `status_get` and `run_get` read of `current_run`. -/
def DbRun.view (run : DbRun) : SlotView := ⟨run.runId, run.state, run.request.workload, run.result⟩

/-- **The service never holds more than one run without a result.** -/
theorem service_slots {s s' : RunService} {b : ServiceAction} (h : serviceStep s b = some s')
    (I : s.results.length ≤ s.taken.length ∧ s.taken.length ≤ s.results.length + 1) :
    s'.results.length ≤ s'.taken.length ∧ s'.taken.length ≤ s'.results.length + 1 := by
  cases b with
  | take runId request =>
      simp only [serviceStep, RunService.busy, decide_eq_true_eq, Option.ite_none_left_eq_some,
        Option.some.injEq] at h
      obtain ⟨hb, rfl⟩ := h
      simp only [List.length_append, List.length_singleton]
      omega
  | abort runId =>
      simp only [serviceStep, Option.ite_none_right_eq_some, Option.some.injEq] at h
      obtain ⟨-, rfl⟩ := h
      exact I
  | record result =>
      simp only [serviceStep, RunService.busy, decide_eq_true_eq, Option.ite_none_right_eq_some,
        Option.some.injEq] at h
      obtain ⟨⟨hb, -⟩, rfl⟩ := h
      simp only [List.length_append, List.length_singleton]
      omega

/-! ## 2. How the device stands to it -/

/-- **The slot invariant**: the records are numbered in order, one run at most is without one, and
    `current_run` shows the last of them. -/
structure SlotInv (d : Device) : Prop where
  numbered : d.shared.finished.map Prod.fst = List.range d.shared.finished.length
  count : d.accepted.length =
    d.shared.finished.length + if d.shared.run.state.active then 1 else 0
  unused : d.accepted = [] → d.shared.run.view = DbRun.initial.view
  active : d.shared.run.state.active = true → d.shared.run.result = "running".toList
  complete : d.shared.run.state.active = false → d.accepted ≠ [] →
    d.shared.run.state = .complete ∧
      d.shared.run.result = (d.shared.finished.map fun p => p.2.result).getLastD []

section Inv

variable {B : Boot} {d : Device}

/-- A record of the current run is the next one. -/
theorem SlotInv.record (N : SlotInv d) (ha : d.shared.run.state.active = true) {run : DbRun}
    (hs : run.state = .complete) {s' : Shared} (hrun : s'.run = run)
    (hfin : s'.finished = d.shared.finished ++ [(d.current, run)]) {http : HttpPc}
    {tasks : List Task} : SlotInv { d with shared := s', http := http, tasks := tasks } := by
  have hcount : d.accepted.length = d.shared.finished.length + 1 := by
    have := N.count
    rwa [ha, if_pos rfl] at this
  have hcur : d.current = d.shared.finished.length := by
    show d.accepted.length - 1 = _
    omega
  have hinactive : s'.run.state.active = false := by
    rw [hrun, hs]
    rfl
  refine ⟨?_, ?_, fun he => ?_, fun h => ?_, fun _ _ => ⟨?_, ?_⟩⟩
  · show s'.finished.map Prod.fst = List.range s'.finished.length
    rw [hfin, List.map_append, N.numbered, List.length_append, List.length_singleton,
      List.range_succ, List.map_singleton, hcur]
  · show d.accepted.length = s'.finished.length + if s'.run.state.active then 1 else 0
    rw [hinactive, hfin, List.length_append, List.length_singleton, hcount]
    rfl
  · rw [show d.accepted = [] from he] at hcount
    cases hcount
  · rw [show s'.run.state.active = true from h] at hinactive
    cases hinactive
  · show s'.run.state = .complete
    rw [hrun, hs]
  · show s'.run.result = (s'.finished.map fun p => p.2.result).getLastD []
    rw [hfin, hrun, List.map_append, List.map_singleton, List.getLastD_concat]

theorem slotInv_step {d' : Device} {a : Action} (I : DeviceInv d) (N : SlotInv d)
    (h : DeviceStep B d a d') : SlotInv d' := by
  cases h with
  | begin hh hr hs =>
      refine ⟨N.numbered, ?_, fun he => ?_, fun _ => rfl, fun ha => Bool.noConfusion ha⟩
      · show (d.accepted ++ _).length = d.shared.finished.length + 1
        rw [List.length_append, List.length_singleton, N.count, hs]
        rfl
      · exact absurd he (List.append_ne_nil_of_right_ne_nil _ (List.cons_ne_nil _ _))
  | finishFailed hh =>
      have ho : d.http.owns = true := by rw [hh]; rfl
      exact N.record (I.owner.handler ho).1 rfl rfl rfl
  | abort hh hs hid =>
      have ha : d.shared.run.state.active = true := by rw [hs]; rfl
      refine ⟨N.numbered, ?_, fun he => ?_, fun _ => N.active ha, fun ha' => Bool.noConfusion ha'⟩
      · have := N.count
        rwa [ha] at this
      · have hcount := N.count
        rw [ha, show d.accepted = [] from he] at hcount
        cases (Nat.succ_ne_zero _ hcount.symm)
  | @task i ret t t' s' ht hs =>
      have hmem := List.mem_of_getElem? ht
      rcases hs.finishes with ⟨hrun, hfin, -⟩ | ⟨hpc, -, hrun, hfin⟩
      · refine ⟨?_, ?_, ?_, ?_, ?_⟩
        · show s'.finished.map Prod.fst = List.range s'.finished.length
          rw [hfin]
          exact N.numbered
        · show d.accepted.length = s'.finished.length + if s'.run.state.active then 1 else 0
          rw [hfin, hrun]
          exact N.count
        · show d.accepted = [] → s'.run.view = DbRun.initial.view
          rw [hrun]
          exact N.unused
        · show s'.run.state.active = true → s'.run.result = _
          rw [hrun]
          exact N.active
        · show s'.run.state.active = false → d.accepted ≠ [] → s'.run.state = .complete ∧
            s'.run.result = (s'.finished.map fun p => p.2.result).getLastD []
          rw [hrun, hfin]
          exact N.complete
      · have lt : t.pc.live = true := by rw [hpc]; rfl
        obtain ⟨ha, hb⟩ := I.owner.worker t hmem lt
        have hstate : s'.run.state = .complete := by
          rw [hrun]
          rfl
        refine N.record ha hstate rfl ?_
        rw [hfin, hb]
        rfl
  | refused | created | notCreated | abortRefused | mainNumber | mainBuild | mainInsert
  | startHttp | startFailed | tick | radio =>
      exact ⟨N.numbered, N.count, N.unused, N.active, N.complete⟩

theorem slotInv_reach {C : Device → Action → Prop} (h : Reach (device B) C d) : SlotInv d := by
  refine device_reach ?_ ?_ h
  · intro marker
    exact ⟨rfl, rfl, fun _ => rfl, fun ha => Bool.noConfusion ha, fun _ hne => absurd rfl hne⟩
  · intro s a s' hr N _ _ hs
    exact slotInv_step (deviceInv_reach hr) N hs

/-! ## 3. The refinement -/

/-- The device, seen as the service. -/
def Device.service (d : Device) : RunService :=
  ⟨d.accepted, d.shared.finished.map fun p => p.2.result, d.shared.run.abortRequested⟩

/-- What a step of the device asks of the service. -/
def Device.asks (B : Boot) (d : Device) : Action → Option ServiceAction
  | .runsPost body =>
    match runsPostRequest body with
    | .error _ => none
    | .ok request =>
      if d.shared.run.state.active then none
      else some (.take (runIdText B.bootNonce.toNat ((d.runCounter + 1) % 2 ^ 32)) request)
  | .abortPost uri =>
    ((pathRunId uri true).bind (dbRunAbort d.shared.run)).map fun _ => .abort d.shared.run.runId
  | .finishFailed => some (.record Verdict.fail.text)
  | .task i _ =>
    match d.tasks[i]? with
    | none => none
    | some t => if t.pc = .finish then some (.record t.result.text) else none
  | .createTask _ | .main _ | .tick _ | .radio _ _ => none

/-- The service is busy while the run is active. -/
theorem SlotInv.busy (N : SlotInv d) : d.service.busy = d.shared.run.state.active := by
  have hcount := N.count
  unfold RunService.busy Device.service
  rw [List.length_map]
  cases ha : d.shared.run.state.active with
  | true =>
      rw [ha, if_pos rfl] at hcount
      exact decide_eq_true (by dsimp only; omega)
  | false =>
      rw [ha, if_neg Bool.false_ne_true] at hcount
      exact decide_eq_false (by dsimp only; omega)

/-- An active run is the one taken last. -/
theorem service_current (I : DeviceInv d) (hne : d.accepted ≠ []) :
    d.accepted.getLast? = some (d.shared.run.runId, d.shared.run.request) := by
  have hlast : d.accepted[d.accepted.length - 1]? = some (d.accepted.getLast hne) := by
    rw [← List.getLast?_eq_getElem?, List.getLast?_eq_getLast_of_ne_nil hne]
  obtain ⟨hid, hreq⟩ := I.owner.current _ hlast
  rw [List.getLast?_eq_getLast_of_ne_nil hne, hid, hreq]

/-- **What the clients read of the slot is what the service shows.** -/
theorem service_view (I : DeviceInv d) (F : FlagInv d) (N : SlotInv d) :
    d.shared.run.view = d.service.view := by
  unfold RunService.view
  rw [N.busy]
  by_cases hne : d.accepted = []
  · rw [show d.service.taken = [] from hne]
    exact N.unused hne
  · rw [show d.service.taken.getLast? = _ from service_current I hne]
    cases ha : d.shared.run.state.active with
    | true =>
        have hres := N.active ha
        simp only [DbRun.view, hres, if_true, Device.service]
        cases hs : d.shared.run.state with
        | idle | complete =>
            rw [hs] at ha
            cases ha
        | running => simp only [F.running hs, Bool.false_eq_true, if_false]
        | aborting => simp only [F.aborting hs, if_true]
    | false =>
        obtain ⟨hs, hres⟩ := N.complete ha hne
        simp only [DbRun.view, hs, hres, Bool.false_eq_true, if_false, Device.service]

/-- The end of `runs_post`'s first section. -/
theorem step_runsPost {d' : Device} {body : Option Json} (h : step B d (.runsPost body) = some d') :
    d' = runsPost B d body := by
  unfold step at h
  rw [Option.ite_none_left_eq_some] at h
  simp only [Option.ite_none_right_eq_some, Option.some.injEq] at h
  exact h.2.2.symm

theorem step_abortPost {d' : Device} {uri : CText} (h : step B d (.abortPost uri) = some d') :
    d' = abortPost d uri := by
  unfold step at h
  rw [Option.ite_none_left_eq_some] at h
  simp only [Option.ite_none_right_eq_some, Option.some.injEq] at h
  exact h.2.2.symm

/-- What the service does when it is asked, or not asked. -/
def Answers (s : RunService) (b : Option ServiceAction) (s' : RunService) : Prop :=
  match b with
  | none => s' = s
  | some b => serviceStep s b = some s'

/-- `runs_post`, as the service sees it. -/
theorem runsPost_service (N : SlotInv d) (body : Option Json) :
    Answers d.service (d.asks B (.runsPost body)) (runsPost B d body).service := by
  cases hreq : runsPostRequest body with
  | error e =>
      have hask : d.asks B (.runsPost body) = none := by simp only [Device.asks, hreq]
      have hd : runsPost B d body = d := by simp only [runsPost, hreq]
      rw [hask, hd]
      exact rfl
  | ok request =>
      cases ha : d.shared.run.state.active with
      | true =>
          have hor : d.shared.run.state = .running ∨ d.shared.run.state = .aborting := by
            cases hs : d.shared.run.state with
            | running => exact Or.inl rfl
            | aborting => exact Or.inr rfl
            | idle | complete =>
                rw [hs] at ha
                cases ha
          have hask : d.asks B (.runsPost body) = none := by
            simp only [Device.asks, hreq, ha, if_true]
          have hd : runsPost B d body = d := by
            simp only [runsPost, hreq]
            exact if_pos hor
          rw [hask, hd]
          exact rfl
      | false =>
          have hor : ¬ (d.shared.run.state = .running ∨ d.shared.run.state = .aborting) := by
            rintro (hs | hs) <;>
            · rw [hs] at ha
              cases ha
          have hask : d.asks B (.runsPost body) = some (.take
              (runIdText B.bootNonce.toNat ((d.runCounter + 1) % 2 ^ 32)) request) := by
            simp only [Device.asks, hreq, ha, Bool.false_eq_true, if_false]
          have hd : runsPost B d body = beginRun B d request := by
            simp only [runsPost, hreq]
            exact if_neg hor
          rw [hask, hd]
          unfold Answers serviceStep
          dsimp only
          rw [N.busy, ha, if_neg Bool.false_ne_true]
          rfl

/-- `abort_post`, as the service sees it. -/
theorem abortPost_service (I : DeviceInv d) (F : FlagInv d) (N : SlotInv d) (uri : CText) :
    Answers d.service (d.asks B (.abortPost uri)) (abortPost d uri).service := by
  cases hb : (pathRunId uri true).bind (dbRunAbort d.shared.run) with
  | none =>
      have hask : d.asks B (.abortPost uri) = none := by
        simp only [Device.asks, hb, Option.map_none]
      have hd : abortPost d uri = d := by simp only [abortPost, hb]
      rw [hask, hd]
      exact rfl
  | some run =>
      obtain ⟨id, -, hab⟩ := Option.bind_eq_some_iff.mp hb
      obtain ⟨hrun, -, rfl⟩ := dbRunAbort_some hab
      have hask : d.asks B (.abortPost uri) = some (.abort d.shared.run.runId) := by
        simp only [Device.asks, hb, Option.map_some]
      have hd : abortPost d uri = acceptAbort d := by
        simp only [abortPost, hb]
        rfl
      have ha : d.shared.run.state.active = true := by rw [hrun]; rfl
      have hne : d.accepted ≠ [] := by
        intro e
        have hcount := N.count
        rw [ha, e] at hcount
        cases (Nat.succ_ne_zero _ hcount.symm)
      have hcur : d.service.taken.getLast?.map Prod.fst = some d.shared.run.runId := by
        rw [show d.service.taken.getLast? = _ from service_current I hne]
        rfl
      rw [hask, hd]
      unfold Answers serviceStep
      dsimp only
      rw [if_pos ⟨N.busy.trans ha, F.running hrun, hcur⟩]
      rfl

/-- A recorded result `aborted` is that of a run that was to be aborted. -/
theorem finish_aborting {C : Device → Action → Prop} (h : Reach (device B) C d) {t : Task}
    (ht : t ∈ d.tasks) (hpc : t.pc = .finish) (hres : t.result = .aborted) :
    d.shared.run.abortRequested = true := by
  have hcur : t.born = d.current := ((deviceInv_reach h).owner.worker t ht (by rw [hpc]; rfl)).2
  rcases resultInv_reach h t ht (by rw [hpc]; rfl) with ⟨-, hab⟩ | hv
  · exact (flagInv_reach h).flag.mpr (hcur ▸ hab)
  · rw [hres] at hv
    unfold Task.verdict at hv
    split at hv
    · contradiction
    · split at hv <;> cases hv

/-- A step of a worker, as the service sees it. -/
theorem task_service {C : Device → Action → Prop} (h : Reach (device B) C d) {i : Nat} {ret : Int}
    {t t' : Task} {s' : Shared} (ht : d.tasks[i]? = some t) (hs : TaskStep B d.shared t s' t') :
    Answers d.service (d.asks B (.task i ret))
      (Device.service { d with shared := s', tasks := d.tasks.set i t' }) := by
  have I := deviceInv_reach h
  have N := slotInv_reach h
  have hmem := List.mem_of_getElem? ht
  rcases hs.finishes with ⟨hrun, hfin, hl⟩ | ⟨hpc, -, hrun, hfin⟩
  · have hpc : t.pc ≠ .finish := by
      intro hpc
      cases hs with
      | finish =>
          rw [hpc] at hl
          cases hl
      | copy h | number h | build h | insert h | more h | done h | choose h | noFault h | fault h
      | noReboot h | reboot h | markMagic h | markRunId h | delay h | restart h =>
          rw [hpc] at h
          cases h
    have hask : d.asks B (.task i ret) = none := by simp only [Device.asks, ht, if_neg hpc]
    rw [hask]
    unfold Answers Device.service
    simp only [hrun, hfin]
  · have ha := (I.owner.worker t hmem (by rw [hpc]; rfl)).1
    have hask : d.asks B (.task i ret) = some (.record t.result.text) := by
      simp only [Device.asks, ht, if_pos hpc]
    have hres : s'.run.result = t.result.text := by
      rw [hrun]
      exact dbRunFinish_text _ _ _
    have hflag : s'.run.abortRequested = d.shared.run.abortRequested := by rw [hrun]; rfl
    rw [hask]
    unfold Answers serviceStep
    dsimp only
    rw [if_pos ⟨N.busy.trans ha, fun hr =>
      finish_aborting h hmem hpc (Verdict.text_injective hr)⟩]
    unfold Device.service
    simp only [hfin, hflag, List.map_append, List.map_singleton, hres]

/-- **Every step of the device is a step of the service, or one it does not see.** -/
theorem step_service (h : Reach (device B) Always d) {a : Action} {d' : Device}
    (hs : (device B).step d a = some d') : Answers d.service (d.asks B a) d'.service := by
  have N := slotInv_reach h
  have hstep : DeviceStep B d a d' := (step_cases hs).2
  cases a with
  | runsPost body =>
      rw [step_runsPost hs]
      exact runsPost_service N body
  | abortPost uri =>
      rw [step_abortPost (B := B) hs]
      exact abortPost_service (deviceInv_reach h) (flagInv_reach h) N uri
  | finishFailed =>
      cases hstep with
      | finishFailed hh =>
          have ha := ((deviceInv_reach h).owner.handler (by rw [hh]; rfl)).1
          unfold Answers Device.asks serviceStep
          dsimp only
          rw [if_pos ⟨N.busy.trans ha, fun hr => absurd hr (by decide)⟩]
          simp only [Device.service, finishFailed, List.map_append, List.map_singleton,
            dbRunFinish_text]
          rfl
  | task i ret =>
      cases hstep with
      | task ht hst => exact task_service h ht hst
  | createTask created =>
      cases hstep with
      | created hh => exact rfl
      | notCreated hh => exact rfl
  | main up => cases hstep <;> exact rfl
  | tick ms =>
      cases hstep
      exact rfl
  | radio sta clients =>
      cases hstep
      exact rfl

/-- **The device refines the service.** -/
def deviceService (B : Boot) : Refinement (device B) runService where
  abs := Device.service
  act := Device.asks B
  init d := by
    rintro ⟨marker, rfl⟩
    rfl
  stutter d a d' h hs hb := by
    have := step_service h hs
    rwa [hb] at this
  step d a d' b h hs hb := by
    have := step_service h hs
    rwa [hb] at this

/-- **The device is the service**: for every interleaving of requests, aborts, failing creations and
    workload tasks, what the device does is a run of the service over what it was asked, and what
    `status_get` and `run_get` read of the slot at its end is what the service shows. -/
theorem device_is_service {marker : RebootMarker} {actions : List Action}
    (hx : (device B).exec (.initial marker) actions = some d) :
    runService.exec ⟨[], [], false⟩ ((deviceService B).visible (.initial marker) actions) =
        some d.service ∧ d.shared.run.view = d.service.view := by
  have h0 : Reach (device B) Always (.initial marker) := .start ⟨marker, rfl⟩
  have h : Reach (device B) Always d := reach_exec h0 hx
  exact ⟨(deviceService B).exec h0 hx,
    service_view (deviceInv_reach h) (flagInv_reach h) (slotInv_reach h)⟩

/-- **Each accepted run is recorded once, in the order of acceptance**: the records carry the
    numbers from 0 on, at most the run accepted last is without one, and that is the case exactly
    while it is active. -/
theorem records_in_order (h : Reach (device B) Always d) :
    d.shared.finished.map Prod.fst = List.range d.shared.finished.length ∧
      d.shared.finished.length ≤ d.accepted.length ∧
      d.accepted.length ≤ d.shared.finished.length + 1 ∧
      (d.shared.run.state.active = true ↔ d.shared.finished.length < d.accepted.length) := by
  have N := slotInv_reach h
  obtain ⟨h1, h2⟩ := (deviceService B).inv
    (I := fun s => s.results.length ≤ s.taken.length ∧ s.taken.length ≤ s.results.length + 1)
    (fun s hs => by cases hs; exact ⟨le_refl _, Nat.zero_le _⟩)
    (fun _ _ _ hI hs => service_slots hs hI) h
  rw [show (deviceService B).abs d = d.service from rfl, Device.service, List.length_map] at h1 h2
  refine ⟨N.numbered, h1, h2, ?_⟩
  rw [← N.busy, RunService.busy, decide_eq_true_iff, Device.service, List.length_map]

end Inv

set_option maxRecDepth 4000 in
/-- An idle run that is taken, aborted and recorded, and a request in between that is refused. -/
theorem device_is_service_aborted :
    ∃ d, (device benchBoot).exec (.initial ⟨0, []⟩) (bootActions ++ ([.runsPost (bodyOf .idle),
        .createTask true, firstAbort, .runsPost (bodyOf .boot)] ++ List.replicate 13 firstTask)) =
        some d ∧ d.service.results = [Verdict.aborted.text] ∧
      d.shared.run.view = d.service.view := by
  obtain ⟨d, hx⟩ := Option.isSome_iff_exists.mp (show ((device benchBoot).exec (.initial ⟨0, []⟩)
    (bootActions ++ ([.runsPost (bodyOf .idle), .createTask true, firstAbort,
      .runsPost (bodyOf .boot)] ++ List.replicate 13 firstTask))).isSome = true by decide)
  refine ⟨d, hx, ?_, (device_is_service hx).2⟩
  have hd : d = benchRun ([.runsPost (bodyOf .idle), .createTask true, firstAbort,
      .runsPost (bodyOf .boot)] ++ List.replicate 13 firstTask) := by
    rw [benchRun, System.runEnd, hx]
    rfl
  rw [hd]
  decide

set_option maxRecDepth 4000 in
/-- The record of an idle run, and a second run behind it that is still active. -/
theorem records_in_order_second :
    ∃ d, Reach (device benchBoot) Always d ∧ d.accepted.length = 2 ∧
      d.shared.finished.map Prod.fst = List.range d.shared.finished.length := by
  have h := benchRun_reach (waited .idle ++ List.replicate 6 firstTask ++
    [.runsPost (bodyOf .idle)]) (by decide)
  exact ⟨_, h, by decide, (records_in_order h).1⟩

end DragonBench
