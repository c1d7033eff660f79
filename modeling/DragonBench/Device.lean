/-
  File:      DragonBench/Device.lean
  Subject:   The device between two resets: the HTTP task, the workload tasks and `app_main` on
             their shared variables, one atomic step at a time.

  Every `state_lock` section and every call is one step. The HTTP server runs one handler at a
  time, so `runs_post` is a control point of the one HTTP task (`HttpPc`); a workload task has the
  control points of `workload_task` (`TaskPc`), and there is any number of them, since a task whose
  run has finished lives on until `vTaskDelete`. `emit_event` is three steps (`EmitStage`): take a
  number from `event_seq` outside the lock, build the object, insert its text into the ring under
  the lock. The label of a step (`Action`) says who moves and what a library call returns; time and
  the radio are labels of their own. `esp_restart` ends the boot: nothing moves after it.

  The fields marked as history are not on the device. They record what the properties speak about:
  the runs accepted so far (their position is the number of the run), the accepted aborts, what
  `db_run_finish` recorded, what was inserted into the ring and by whom, and, in each task, the
  number of the run it was created for and the answers of its `should_abort` calls.
-/
import DragonBench.Event
import DragonBench.Lib.RingBuffer
import DragonBench.Lib.Transition
import DragonBench.RunsPost
import DragonBench.Workload

namespace DragonBench

/-! ## 1. The state -/

instance : NeZero dbEventCapacity := ⟨by decide⟩

/-- `reboot_marker_t`. -/
structure RebootMarker where
  magic : Nat
  runId : CText
  deriving DecidableEq, Repr

/-- `REBOOT_MARKER_MAGIC`. -/
def rebootMarkerMagic : Nat := 0x44524254

/-- What one boot does not change. -/
structure Boot where
  cfg : Config
  board : Board
  /-- `boot_nonce` -/
  bootNonce : BitVec 32
  /-- `previous_reboot_run_id` -/
  previousRebootRunId : CText
  /-- `reset_reason_text` -/
  resetReasonText : CText

/-- A ring insertion: the run of the workload task that made it (`none` for `app_main`), the
    `seq` field of the slot, and the event whose text the slot got. -/
structure Insertion where
  source : Option Nat
  slotSeq : Nat
  event : Event
  deriving DecidableEq

/-- `current_run` as `app_main` sets it up. -/
def DbRun.initial : DbRun :=
  ⟨[], ⟨.idle, 0, 0, 0, []⟩, .idle, false, CText.snprintf dbResultLen "none".toList, 0, 0⟩

/-- The variables the tasks share. -/
structure Shared where
  /-- `current_run` -/
  run : DbRun
  /-- `event_seq` -/
  eventSeq : Nat
  /-- `events`, `event_head`, `event_count` -/
  ring : RingBuffer DbEvent dbEventCapacity
  /-- `sta_state == DB_STA_CONNECTED` -/
  staConnected : Bool
  /-- `ap_client_count` -/
  apClientCount : Nat
  /-- the value of `uptime_ms()` -/
  clock : Nat
  /-- `reboot_marker` -/
  marker : RebootMarker
  /-- the run whose task has called `esp_restart` -/
  rebooted : Option Nat
  /-- history: the ring insertions, oldest first -/
  inserted : List Insertion
  /-- history: the run and `current_run` as `db_run_finish` left it -/
  finished : List (Nat × DbRun)

/-- The control points of `emit_event`. -/
inductive EmitStage where
  | number
  | build (seq : Nat)
  | insert (e : Event)
  deriving DecidableEq

/-- The events of a workload task. -/
inductive RunEvent where
  | phaseStart | fault | phaseEnd | runComplete
  deriving DecidableEq, Repr

def RunEvent.kind : RunEvent → EventKind
  | .phaseStart => .phaseStart
  | .fault => .fault
  | .phaseEnd => .phaseEnd
  | .runComplete => .runComplete

/-- The control points of `workload_task`. -/
inductive TaskPc where
  | copy
  | emit (k : RunEvent) (stage : EmitStage)
  | work (w : Work)
  | choose
  | faultTest
  | finish
  | rebootTest
  | markMagic
  | markRunId
  | delay
  | restart
  | deleted
  deriving DecidableEq

/-- A workload task with its locals. -/
structure Task where
  /-- history: the run the task was created for -/
  born : Nat
  pc : TaskPc
  run : DbRun
  ok : Bool
  a : Nat
  b : Nat
  result : Verdict
  /-- history: the answers of `should_abort` up to the choice of the result -/
  polls : List Bool
  deriving DecidableEq

/-- The events of `app_main`. -/
inductive BootEvent where
  | boot | resetReason | ready
  deriving DecidableEq, Repr

def BootEvent.kind : BootEvent → EventKind
  | .boot => .boot
  | .resetReason => .resetReason
  | .ready => .ready

/-- The control points of `app_main` around its events; `startHttp` stands for everything from
    `start_wifi` to `start_http`. -/
inductive MainPc where
  | emit (k : BootEvent) (stage : EmitStage)
  | startHttp
  | returned
  deriving DecidableEq

/-- The control points of the HTTP task inside `runs_post`: behind `db_run_begin` and in front of
    `xTaskCreate`, and behind its failure. -/
inductive HttpPc where
  | down
  | idle
  | creating
  | createFailed
  deriving DecidableEq

/-- The device. -/
structure Device where
  shared : Shared
  /-- `run_counter` -/
  runCounter : Nat
  http : HttpPc
  main : MainPc
  tasks : List Task
  /-- history: the runs begun, with the request that was validated -/
  accepted : List (CText × DbRunRequest)
  /-- history: the runs whose abort was accepted -/
  aborted : List Nat

/-! ## 2. `emit_event` -/

/-- One step of `emit_event` on behalf of `source`; `none` is the return. -/
def emitStep (B : Boot) (source : Option Nat) (args : EmitArgs) (s : Shared) :
    EmitStage → Shared × Option EmitStage
  | .number =>
    let n := (s.eventSeq + 1) % 2 ^ 64
    ({ s with eventSeq := n }, some (.build (asDouble n)))
  | .build n => (s, some (.insert ⟨args, n, asDouble s.clock⟩))
  | .insert e =>
    -- the slot's number is read again from `event_seq`
    ({ s with
        ring := s.ring.push (e.slot B.cfg s.eventSeq)
        inserted := s.inserted ++ [⟨source, s.eventSeq, e⟩] }, none)

/-! ## 3. `workload_task` -/

/-- The arguments of the four calls of `emit_event` in `workload_task`. -/
def taskArgs (t : Task) (k : RunEvent) : EmitArgs where
  event := k.kind
  phase := some (dbWorkloadName t.run.request.workload)
  runId := some t.run.runId
  result := match k with
    | .phaseStart => none
    | .fault => some Verdict.fail.text
    | .phaseEnd | .runComplete => some t.result.text
  parametersJson := some (parametersText t.run.request)
  metricsJson := match k with
    | .phaseStart => none
    | .fault | .phaseEnd | .runComplete => some (metricsText t.a t.b)

/-- What a step of a workload function sees. -/
def Shared.seen (s : Shared) (ret : Int) : Seen :=
  ⟨s.clock, s.run.abortRequested, s.staConnected, s.apClientCount, ret⟩

/-- The control point behind an event. -/
def afterEmit (B : Boot) (t : Task) : RunEvent → TaskPc
  | .phaseStart => .work (workStart B.board t.run.request)
  | .fault => .emit .phaseEnd .number
  | .phaseEnd => .finish
  | .runComplete =>
    if t.run.request.workload = .controlledReboot ∧ t.ok = true then .rebootTest else .deleted

/-- `should_abort() ? "aborted" : (ok ? "pass" : "fail")`. -/
def Task.verdict (t : Task) (abort : Bool) : Verdict :=
  if abort then .aborted else if t.ok then .pass else .fail

/-- The answers of `should_abort` after one step of the workload function. -/
def Task.pollsAfter (t : Task) (w : Work) (abort : Bool) : List Bool :=
  if w.polls then t.polls ++ [abort] else t.polls

/-- One step of `workload_task`. -/
def taskStep (B : Boot) (s : Shared) (t : Task) (ret : Int) : Option (Shared × Task) :=
  match t.pc with
  | .copy => some (s, { t with run := s.run, pc := .emit .phaseStart .number })
  | .emit k stage =>
    match emitStep B (some t.born) (taskArgs t k) s stage with
    | (s', some stage') => some (s', { t with pc := .emit k stage' })
    | (s', none) => some (s', { t with pc := afterEmit B t k })
  | .work w =>
    let polls := t.pollsAfter w s.run.abortRequested
    match workStep B.board (s.seen ret) w with
    | .more w' => some (s, { t with polls := polls, pc := .work w' })
    | .done ok a b =>
      -- the counters are 64 bits wide
      let a := a % 2 ^ 64
      let b := b % 2 ^ 64
      some (s, { t with polls := polls, pc := .choose, ok := ok, a := a, b := b })
  | .choose =>
    let pc := if t.ok then .emit .phaseEnd .number else .faultTest
    some (s, { t with
      result := t.verdict s.run.abortRequested
      pc := pc
      polls := t.polls ++ [s.run.abortRequested] })
  | .faultTest =>
    if s.run.abortRequested then some (s, { t with pc := .emit .phaseEnd .number })
    else some (s, { t with pc := .emit .fault .number })
  | .finish =>
    let run := dbRunFinish s.run (some t.result.text) s.clock
    some ({ s with run := run, finished := s.finished ++ [(t.born, run)] },
      { t with pc := .emit .runComplete .number })
  | .rebootTest =>
    if s.run.abortRequested then some (s, { t with pc := .deleted })
    else some (s, { t with pc := .markMagic })
  | .markMagic =>
    some ({ s with marker := { s.marker with magic := rebootMarkerMagic } },
      { t with pc := .markRunId })
  | .markRunId =>
    some ({ s with marker := { s.marker with runId := CText.snprintf dbRunIdLen t.run.runId } },
      { t with pc := .delay })
  | .delay => some (s, { t with pc := .restart })
  | .restart => some ({ s with rebooted := some t.born }, { t with pc := .deleted })
  | .deleted => none

/-! ## 4. The handlers -/

/-- The run id `runs_post` prints. -/
def runIdText (bootNonce runCounter : Nat) : CText :=
  CText.snprintf dbRunIdLen (CText.hex08 bootNonce ++ '-' :: CText.hex08 runCounter)

/-- The text in front of the first occurrence of `needle` (`strstr`). -/
def beforeInfix (needle : CText) : CText → Option CText
  | [] => if needle = [] then some [] else none
  | c :: s => if needle.isPrefixOf (c :: s) then some [] else (beforeInfix needle s).map (c :: ·)

/-- `path_run_id`. -/
def pathRunId (uri : CText) (abortPath : Bool) : Option CText :=
  let start := uri.drop "/api/v1/runs/".toList.length
  let id := if abortPath then beforeInfix "/abort".toList start else some start
  id.filter fun id => decide (id ≠ []) && decide (id.length < dbRunIdLen)

/-- The part of `runs_post` under the lock that begins a run. -/
def beginRun (B : Boot) (d : Device) (request : DbRunRequest) : Device :=
  let runCounter := (d.runCounter + 1) % 2 ^ 32
  let id := runIdText B.bootNonce.toNat runCounter
  { d with
    shared := { d.shared with run := dbRunBegin request id d.shared.clock }
    runCounter := runCounter
    http := .creating
    accepted := d.accepted ++ [(id, request)] }

/-- `runs_post` up to the end of its first `state_lock` section. -/
def runsPost (B : Boot) (d : Device) (body : Option Json) : Device :=
  match runsPostRequest body with
  | .error _ => d
  | .ok request =>
    if d.shared.run.state = .running ∨ d.shared.run.state = .aborting then d
    else beginRun B d request

/-- The number of the run accepted last. -/
def Device.current (d : Device) : Nat := d.accepted.length - 1

/-- A task as `xTaskCreate` leaves it; its locals hold nothing yet. -/
def Task.fresh (born : Nat) : Task := ⟨born, .copy, .initial, true, 0, 0, .fail, []⟩

/-- `xTaskCreate` succeeds. -/
def addTask (d : Device) : Device :=
  { d with http := .idle, tasks := d.tasks ++ [.fresh d.current] }

/-- `db_run_finish(&current_run, "fail", uptime_ms())` of `runs_post`. -/
def finishFailed (d : Device) : Device :=
  let run := dbRunFinish d.shared.run (some Verdict.fail.text) d.shared.clock
  { d with
    shared := { d.shared with
      run := run
      finished := d.shared.finished ++ [(d.current, run)] }
    http := .idle }

/-- `abort_post`. -/
def abortPost (d : Device) (uri : CText) : Device :=
  match (pathRunId uri true).bind (dbRunAbort d.shared.run) with
  | none => d
  | some run =>
    { d with shared := { d.shared with run := run }, aborted := d.aborted ++ [d.current] }

/-! ## 5. `app_main` -/

/-- The arguments of the three calls of `emit_event` in `app_main`. -/
def mainArgs (B : Boot) (k : BootEvent) : EmitArgs where
  event := k.kind
  phase := none
  runId := if B.previousRebootRunId = [] then none else some B.previousRebootRunId
  result := none
  parametersJson := none
  metricsJson := match k with
    | .boot | .ready => none
    | .resetReason => some (CText.snprintf 64
        ("\x7b\"reason\":\"".toList ++ B.resetReasonText ++ "\"\x7d".toList))

/-- The control point behind an event of `app_main`. -/
def afterBootEvent : BootEvent → MainPc
  | .boot => .emit .resetReason .number
  | .resetReason => .startHttp
  | .ready => .returned

/-- One step of `app_main`; `up` says whether `start_wifi` succeeded. -/
def mainStep (B : Boot) (d : Device) (up : Bool) : Option Device :=
  match d.main with
  | .emit k stage =>
    match emitStep B none (mainArgs B k) d.shared stage with
    | (s', some stage') => some { d with shared := s', main := .emit k stage' }
    | (s', none) => some { d with shared := s', main := afterBootEvent k }
  | .startHttp =>
    if up then some { d with http := .idle, main := .emit .ready .number }
    else some { d with main := .returned }
  | .returned => none

/-! ## 6. The system -/

/-- Who moves, and what the surroundings answer. -/
inductive Action where
  /-- a POST /runs request arrives; `none` when its body could not be read -/
  | runsPost (body : Option Json)
  /-- `xTaskCreate` returns -/
  | createTask (created : Bool)
  /-- the handler records the failure of `xTaskCreate` -/
  | finishFailed
  /-- a request reaches `abort_post` under this URI -/
  | abortPost (uri : CText)
  /-- the workload task at this position takes a step; its library call returns `ret` -/
  | task (i : Nat) (ret : Int)
  | main (up : Bool)
  /-- time passes -/
  | tick (ms : Nat)
  /-- the radio changes the variables the workloads read -/
  | radio (staConnected : Bool) (apClientCount : Nat)

/-- One step of the device. -/
def step (B : Boot) (d : Device) (a : Action) : Option Device :=
  if d.shared.rebooted.isSome then none
  else
    match a with
    | .runsPost body => if d.http = .idle then some (runsPost B d body) else none
    | .createTask created =>
      if d.http = .creating then
        if created then some (addTask d) else some { d with http := .createFailed }
      else none
    | .finishFailed => if d.http = .createFailed then some (finishFailed d) else none
    | .abortPost uri => if d.http = .idle then some (abortPost d uri) else none
    | .task i ret =>
      match d.tasks[i]? with
      | none => none
      | some t =>
        (taskStep B d.shared t ret).map fun p =>
          { d with shared := p.1, tasks := d.tasks.set i p.2 }
    | .main up => mainStep B d up
    | .tick ms => some { d with shared := { d.shared with clock := d.shared.clock + ms } }
    | .radio sta clients =>
      some { d with shared := { d.shared with staConnected := sta, apClientCount := clients } }

/-- The device in front of the first event of `app_main`. -/
def Device.initial (marker : RebootMarker) : Device where
  shared :=
    { run := .initial, eventSeq := 0, ring := .empty ⟨0, [], by decide⟩, staConnected := false,
      apClientCount := 0, clock := 0, marker := marker, rebooted := none, inserted := [],
      finished := [] }
  runCounter := 0
  http := .down
  main := .emit .boot .number
  tasks := []
  accepted := []
  aborted := []

/-- The device as a transition system; only the marker survives a reset. -/
def device (B : Boot) : Transition.System Device Action where
  init d := ∃ marker, d = .initial marker
  step := step B

end DragonBench
