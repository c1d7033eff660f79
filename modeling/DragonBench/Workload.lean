/-
  File:      DragonBench/Workload.lean
  Subject:   The workload functions of `main.c`, as programs that take one atomic step at a time.

  A workload function is a set of control points (`…Pc`, with the locals that are live there) and
  a step. One step performs at most one call of the source: it reads the clock (`uptime_ms`), the
  abort flag of the current run (`should_abort`), a shared variable, or the result `ret` of a call
  into ESP-IDF, lwIP or the C library. `Seen` is what the surroundings offer at that moment; a
  step uses what its call reads and nothing else. `Outcome.done` is the return: the value, and
  what `*operations`, `*bytes` or `*tx`, `*rx` hold.

  The functions share a shape (a deadline, a loop that polls the clock and the flag, an exit that
  reads the flag once more) and differ in what their loop does and in what makes it stop:

  * `waitAbortable`, `runCpu`, `runNvs`, `partitionCycle`, `runNetwork` -- one each;
  * `Work`, `workStart`, `workStep` -- the `switch` of `workload_task`;
  * `Work.polls` -- the steps that call `should_abort`;
  * `Serves`, `serves_step` -- the function under way is the one the request asks for;
  * `WorkInv`, `workStep_inv` -- how a workload function can end.
-/
import DragonBench.Run

namespace DragonBench

/-! ## 1. What a step sees and gives -/

/-- What the surroundings offer at one step. -/
structure Seen where
  /-- `uptime_ms()` -/
  now : Nat
  /-- `should_abort()` -/
  abort : Bool
  /-- `sta_state == DB_STA_CONNECTED` -/
  staConnected : Bool
  /-- `ap_client_count` -/
  apClientCount : Nat
  /-- the value a library call returns -/
  ret : Int

/-- What a step of a workload function gives: the next control point, or the return. -/
inductive Outcome (π : Type) where
  | more (pc : π)
  | done (ok : Bool) (a b : Nat)

/-- The next control point under another name. -/
def Outcome.map {π ρ : Type} (f : π → ρ) : Outcome π → Outcome ρ
  | .more pc => .more (f pc)
  | .done ok a b => .done ok a b

/-- A renamed outcome that goes on went on before. -/
theorem Outcome.map_eq_more {π ρ : Type} {f : π → ρ} {o : Outcome π} {w : ρ}
    (h : o.map f = .more w) : ∃ pc, o = .more pc ∧ w = f pc := by
  cases o with
  | more pc =>
      cases h
      exact ⟨pc, rfl, rfl⟩
  | done ok a b => cases h

/-- A renamed outcome that is a return was one before. -/
theorem Outcome.map_eq_done {π ρ : Type} {f : π → ρ} {o : Outcome π} {ok : Bool} {a b : Nat}
    (h : o.map f = .done ok a b) : o = .done ok a b := by
  cases o with
  | more pc => cases h
  | done ok a b =>
      cases h
      rfl

/-- `IO_BLOCK`. -/
def ioBlock : Nat := 4096

/-- `FLASH_ERASE_BLOCK`. -/
def flashEraseBlock : Nat := 4096

/-- `ESP_OK`. -/
def espOk : Int := 0

/-! ## 2. `wait_abortable` -/

inductive WaitPc where
  | enter (durationMs : Nat)
  | test (deadline : Nat)
  | poll (deadline : Nat)
  | delay (deadline : Nat)
  deriving DecidableEq, Repr

/-- `wait_abortable`. -/
def waitAbortable (e : Seen) : WaitPc → Outcome WaitPc
  | .enter durationMs => .more (.test (e.now + durationMs))
  | .test deadline => if e.now < deadline then .more (.poll deadline) else .done true 0 0
  | .poll deadline => if e.abort then .done false 0 0 else .more (.delay deadline)
  | .delay deadline => .more (.test deadline)

/-! ## 3. `run_cpu` -/

/-- One inner step: `x = (x << 5) ^ (x >> 3) ^ (uint32_t)i`. -/
def cpuStep (x : BitVec 32) (i : Nat) : BitVec 32 := (x <<< 5) ^^^ (x >>> 3) ^^^ BitVec.ofNat 32 i

/-- The inner loop of 4096 steps. -/
def cpuBlock (x : BitVec 32) : BitVec 32 := (List.range 4096).foldl cpuStep x

structure CpuLocals where
  deadline : Nat
  x : BitVec 32
  operations : Nat
  deriving DecidableEq, Repr

inductive CpuPc where
  | enter (durationMs : Nat)
  | test (l : CpuLocals)
  | poll (l : CpuLocals)
  | burn (l : CpuLocals)
  | exit (l : CpuLocals)
  deriving DecidableEq, Repr

/-- `run_cpu`. -/
def runCpu (e : Seen) : CpuPc → Outcome CpuPc
  | .enter durationMs => .more (.test ⟨e.now + durationMs, 0x12345678, 0⟩)
  | .test l => if e.now < l.deadline then .more (.poll l) else .more (.exit l)
  | .poll l => if e.abort then .more (.exit l) else .more (.burn l)
  | .burn l => .more (.test { l with x := cpuBlock l.x, operations := l.operations + 4096 })
  | .exit l => .done (!e.abort && decide (l.x ≠ 0)) l.operations 0

/-! ## 4. `run_nvs` -/

structure NvsLocals where
  deadline : Nat
  bytes : Nat
  ok : Bool
  deriving DecidableEq, Repr

inductive NvsPc where
  | open (durationMs : Nat)
  | enter (durationMs : Nat)
  | test (l : NvsLocals)
  | poll (l : NvsLocals)
  | setBlob (l : NvsLocals)
  | commit (l : NvsLocals)
  | close (l : NvsLocals)
  | exit (l : NvsLocals)
  deriving DecidableEq, Repr

/-- `run_nvs`. A failed `nvs_set_blob` or `nvs_commit` leaves the loop; `close` stands for the
    three calls after it, whose results are not looked at. -/
def runNvs (e : Seen) : NvsPc → Outcome NvsPc
  | .open durationMs => if e.ret ≠ espOk then .done false 0 0 else .more (.enter durationMs)
  | .enter durationMs => .more (.test ⟨e.now + durationMs, 0, true⟩)
  | .test l => if e.now < l.deadline then .more (.poll l) else .more (.close l)
  | .poll l => if e.abort then .more (.close l) else .more (.setBlob l)
  | .setBlob l => if e.ret = espOk then .more (.commit l) else .more (.close { l with ok := false })
  | .commit l =>
    if e.ret = espOk then .more (.test { l with ok := true, bytes := l.bytes + 512 })
    else .more (.close { l with ok := false })
  | .close l => .more (.exit l)
  | .exit l => .done (l.ok && !e.abort) l.bytes 0

/-! ## 5. `partition_cycle` -/

/-- What the workloads use of an `esp_partition_t`. -/
structure Partition where
  address : Nat
  size : Nat
  deriving DecidableEq, Repr

structure PartLocals where
  partition : Partition
  deadline : Nat
  offset : Nat
  bytes : Nat
  ok : Bool
  deriving DecidableEq, Repr

inductive PartPc where
  | check (partition : Option Partition) (durationMs : Nat)
  | alloc (partition : Partition) (durationMs : Nat)
  | enter (partition : Partition) (durationMs : Nat)
  | test (l : PartLocals)
  | poll (l : PartLocals)
  | erase (l : PartLocals)
  | write (l : PartLocals)
  | read (l : PartLocals)
  | compare (l : PartLocals)
  | exit (l : PartLocals)
  deriving DecidableEq, Repr

/-- `partition_cycle`; `running` is what `esp_ota_get_running_partition` returns. `malloc` returns
    0 when it fails, `memcmp` 0 when the blocks agree. -/
def partitionCycle (running : Partition) (e : Seen) : PartPc → Outcome PartPc
  | .check none _ => .done false 0 0
  | .check (some p) durationMs =>
    if p = running then .done false 0 0 else .more (.alloc p durationMs)
  | .alloc p durationMs => if e.ret = 0 then .done false 0 0 else .more (.enter p durationMs)
  | .enter p durationMs => .more (.test ⟨p, e.now + durationMs, 0, 0, true⟩)
  | .test l => if e.now < l.deadline then .more (.poll l) else .more (.exit l)
  | .poll l =>
    if e.abort then .more (.exit l)
    else
      let offset := if l.offset + ioBlock > l.partition.size then 0 else l.offset
      if offset % flashEraseBlock = 0 then .more (.erase { l with offset := offset })
      else .more (.write { l with offset := offset })
  | .erase l => if e.ret ≠ espOk then .more (.exit { l with ok := false }) else .more (.write l)
  | .write l => if e.ret ≠ espOk then .more (.exit { l with ok := false }) else .more (.read l)
  | .read l => if e.ret ≠ espOk then .more (.exit { l with ok := false }) else .more (.compare l)
  | .compare l =>
    if e.ret ≠ 0 then .more (.exit { l with ok := false })
    else .more (.test { l with offset := l.offset + ioBlock, bytes := l.bytes + ioBlock })
  | .exit l => .done (l.ok && !e.abort) l.bytes 0

/-! ## 6. `run_network` -/

structure NetLocals where
  request : DbRunRequest
  deadline : Nat
  tx : Nat
  rx : Nat
  ok : Bool
  deriving DecidableEq, Repr

inductive NetPc where
  | connect (request : DbRunRequest)
  | enter (request : DbRunRequest)
  | test (l : NetLocals)
  | poll (l : NetLocals)
  | send (l : NetLocals)
  | recv (l : NetLocals)
  | delay (l : NetLocals) (delayMs : Nat)
  | shutdown (l : NetLocals)
  | exit (l : NetLocals)
  deriving DecidableEq, Repr

/-- The pacing delay after one block: `(uint32_t)((IO_BLOCK * 8ULL * 1000ULL) / rate_bps)`. -/
def pacingDelayMs (rateBps : Nat) : Nat := (ioBlock * 8 * 1000 / rateBps) % 2 ^ 32

/-- The end of a loop body of `run_network`: the pacing delay, when there is one. -/
def netPace (l : NetLocals) : NetPc :=
  if l.request.rateBps ≠ 0 ∧ pacingDelayMs l.request.rateBps ≠ 0 then
    .delay l (pacingDelayMs l.request.rateBps)
  else .test l

/-- The loop body of `run_network` from the receiving half on. -/
def netRecv (l : NetLocals) : NetPc :=
  if l.request.workload ≠ .netTx then .recv l else netPace l

/-- The loop body of `run_network`. -/
def netSend (l : NetLocals) : NetPc :=
  if l.request.workload ≠ .netRx then .send l else netRecv l

/-- `run_network`. -/
def runNetwork (e : Seen) : NetPc → Outcome NetPc
  | .connect request => if e.ret < 0 then .done false 0 0 else .more (.enter request)
  | .enter request => .more (.test ⟨request, e.now + request.durationMs, 0, 0, true⟩)
  | .test l => if e.now < l.deadline then .more (.poll l) else .more (.shutdown l)
  | .poll l => if e.abort then .more (.shutdown l) else .more (netSend l)
  | .send l =>
    if e.ret ≤ 0 then .more (.shutdown { l with ok := false })
    else .more (netRecv { l with tx := l.tx + e.ret.toNat })
  | .recv l =>
    if e.ret ≤ 0 then .more (.shutdown { l with ok := false })
    else .more (netPace { l with rx := l.rx + e.ret.toNat })
  | .delay l _ => .more (.test l)
  | .shutdown l => .more (.exit l)
  | .exit l => .done (l.ok && !e.abort) l.tx l.rx

/-- Inside a call that uses the connection. -/
def NetPc.transfers : NetPc → Bool
  | .send _ | .recv _ => true
  | _ => false

/-! ## 7. The `switch` of `workload_task` -/

/-- The partitions the board's table offers. -/
structure Board where
  /-- `esp_partition_find_first(ESP_PARTITION_TYPE_DATA, 0x40, "scratch")` -/
  scratch : Option Partition
  /-- `esp_ota_get_next_update_partition(NULL)` -/
  nextUpdate : Option Partition
  /-- `esp_ota_get_running_partition()` -/
  running : Partition
  deriving DecidableEq, Repr

/-- A workload function under way. `associated` and `clients` are the two tests in front of the
    waiting of `DB_WIFI_ASSOCIATED_IDLE`. -/
inductive Work where
  | associated (durationMs : Nat)
  | clients (durationMs : Nat)
  | wait (pc : WaitPc)
  | cpu (pc : CpuPc)
  | nvs (pc : NvsPc)
  | partition (pc : PartPc)
  | network (pc : NetPc)
  deriving DecidableEq, Repr

/-- The function the `switch` calls. -/
def workStart (board : Board) (r : DbRunRequest) : Work :=
  match r.workload with
  | .boot | .idle => .wait (.enter r.durationMs)
  | .wifiAssociatedIdle => .associated r.durationMs
  | .netTx | .netRx | .netBidirectional => .network (.connect r)
  | .cpuStress => .cpu (.enter r.durationMs)
  | .flashWrite => .partition (.check board.scratch r.durationMs)
  | .nvsWrite => .nvs (.open r.durationMs)
  | .otaPartitionWrite => .partition (.check board.nextUpdate r.durationMs)
  | .controlledReboot => .wait (.enter r.durationMs)

/-- One step of the function under way. -/
def workStep (board : Board) (e : Seen) : Work → Outcome Work
  | .associated durationMs =>
    if e.staConnected then .more (.wait (.enter durationMs)) else .more (.clients durationMs)
  | .clients durationMs =>
    if e.apClientCount > 0 then .more (.wait (.enter durationMs)) else .done false 0 0
  | .wait pc => (waitAbortable e pc).map .wait
  | .cpu pc => (runCpu e pc).map .cpu
  | .nvs pc => (runNvs e pc).map .nvs
  | .partition pc => (partitionCycle board.running e pc).map .partition
  | .network pc => (runNetwork e pc).map .network

/-- The steps that call `should_abort`. The exits of `run_nvs` and `run_network` only do when
    `ok` is still true. -/
def Work.polls : Work → Bool
  | .wait (.poll _) => true
  | .cpu (.poll _) | .cpu (.exit _) => true
  | .nvs (.poll _) => true
  | .nvs (.exit l) => l.ok
  | .partition (.poll _) | .partition (.exit _) => true
  | .network (.poll _) => true
  | .network (.exit l) => l.ok
  | _ => false

/-! ## 8. What a workload function works on -/

/-- The workloads whose `case` calls this function. -/
def Work.runs : Work → DbWorkload → Bool
  | .associated _, w | .clients _, w => w = .wifiAssociatedIdle
  | .wait _, w => w = .boot || w = .idle || w = .wifiAssociatedIdle || w = .controlledReboot
  | .cpu _, w => w = .cpuStress
  | .nvs _, w => w = .nvsWrite
  | .partition _, w => w = .flashWrite || w = .otaPartitionWrite
  | .network _, w => isNetwork w

/-- The argument `duration_ms` of a function that has not yet made a deadline of it. -/
def Work.duration? : Work → Option Nat
  | .associated d | .clients d | .wait (.enter d) | .cpu (.enter d) | .nvs (.open d)
  | .nvs (.enter d) | .partition (.check _ d) | .partition (.alloc _ d)
  | .partition (.enter _ d) => some d
  | _ => none

/-- The argument `request` of `run_network`. -/
def NetPc.request : NetPc → DbRunRequest
  | .connect r | .enter r => r
  | .test l | .poll l | .send l | .recv l | .delay l _ | .shutdown l | .exit l => l.request

/-- **The function under way is the one the request asks for, on its arguments.** -/
structure Serves (r : DbRunRequest) (w : Work) : Prop where
  function : w.runs r.workload = true
  duration : ∀ d, w.duration? = some d → d = r.durationMs
  request : ∀ pc, w = .network pc → pc.request = r

theorem serves_start (board : Board) (r : DbRunRequest) : Serves r (workStart board r) := by
  cases r with
  | mk workload durationMs rateBps port host =>
      cases workload <;>
        exact ⟨rfl, fun d h => by cases h <;> rfl, fun pc h => by cases h <;> rfl⟩

theorem netPace_request (l : NetLocals) : (netPace l).request = l.request := by
  unfold netPace
  split <;> rfl

theorem netRecv_request (l : NetLocals) : (netRecv l).request = l.request := by
  unfold netRecv
  split
  · rfl
  · exact netPace_request l

theorem netSend_request (l : NetLocals) : (netSend l).request = l.request := by
  unfold netSend
  split
  · rfl
  · exact netRecv_request l

/-- `run_network` keeps its argument. -/
theorem runNetwork_request {e : Seen} {pc pc' : NetPc} (h : runNetwork e pc = .more pc') :
    pc'.request = pc.request := by
  cases pc with
  | connect r =>
      simp only [runNetwork] at h
      split at h <;> cases h
      rfl
  | enter r | delay l ms | shutdown l =>
      cases h
      rfl
  | test l =>
      simp only [runNetwork] at h
      split at h <;> cases h <;> rfl
  | poll l =>
      simp only [runNetwork] at h
      split at h <;> cases h
      · rfl
      · exact netSend_request l
  | send l =>
      simp only [runNetwork] at h
      split at h <;> cases h
      · rfl
      · exact netRecv_request _
  | recv l =>
      simp only [runNetwork] at h
      split at h <;> cases h
      · rfl
      · exact netPace_request _
  | exit l => cases h

/-- No step of a workload function changes the argument `duration_ms`. -/
theorem workStep_duration {board : Board} {e : Seen} {w w' : Work}
    (h : workStep board e w = .more w') : w'.duration? = none ∨ w'.duration? = w.duration? := by
  cases w with
  | associated d | clients d =>
      simp only [workStep] at h
      split at h <;> cases h <;> exact Or.inr rfl
  | wait pc =>
      simp only [workStep] at h
      obtain ⟨pc', h, rfl⟩ := Outcome.map_eq_more h
      cases pc <;> simp only [waitAbortable] at h <;> (try split at h) <;> cases h <;>
        exact Or.inl rfl
  | cpu pc =>
      simp only [workStep] at h
      obtain ⟨pc', h, rfl⟩ := Outcome.map_eq_more h
      cases pc <;> simp only [runCpu] at h <;> (try split at h) <;> cases h <;>
        exact Or.inl rfl
  | nvs pc =>
      simp only [workStep] at h
      obtain ⟨pc', h, rfl⟩ := Outcome.map_eq_more h
      cases pc <;> simp only [runNvs] at h <;> (try split at h) <;> cases h <;>
        first | exact Or.inl rfl | exact Or.inr rfl
  | partition pc =>
      simp only [workStep] at h
      obtain ⟨pc', h, rfl⟩ := Outcome.map_eq_more h
      cases pc with
      | check p d =>
          cases p with
          | none => cases h
          | some p =>
              simp only [partitionCycle] at h
              split at h <;> cases h
              exact Or.inr rfl
      | poll l =>
          simp only [partitionCycle] at h
          split at h
          · cases h
            exact Or.inl rfl
          · split at h <;> split at h <;> cases h <;> exact Or.inl rfl
      | alloc | enter | test | erase | write | read | compare | exit =>
          simp only [partitionCycle] at h
          (try split at h) <;> cases h <;> first | exact Or.inl rfl | exact Or.inr rfl
  | network pc =>
      simp only [workStep] at h
      obtain ⟨pc', h, rfl⟩ := Outcome.map_eq_more h
      exact Or.inl rfl

/-- The function under way stays the same, apart from the tests in front of the waiting. -/
theorem workStep_runs {board : Board} {e : Seen} {w w' : Work} {wl : DbWorkload}
    (h : workStep board e w = .more w') (hr : w.runs wl = true) : w'.runs wl = true := by
  cases w with
  | associated d | clients d =>
      simp only [workStep] at h
      have hw : wl = .wifiAssociatedIdle := of_decide_eq_true hr
      subst hw
      split at h <;> cases h <;> rfl
  | wait pc | cpu pc | nvs pc | partition pc | network pc =>
      obtain ⟨pc', -, rfl⟩ := Outcome.map_eq_more h
      exact hr

/-- Where a step of a workload function leads into `run_network`, it was there before. -/
theorem workStep_network {board : Board} {e : Seen} {w : Work} {pc' : NetPc}
    (h : workStep board e w = .more (.network pc')) :
    ∃ pc, w = .network pc ∧ pc'.request = pc.request := by
  cases w with
  | network pc =>
      simp only [workStep] at h
      obtain ⟨_, h, e'⟩ := Outcome.map_eq_more h
      cases e'
      exact ⟨pc, rfl, runNetwork_request h⟩
  | associated d | clients d =>
      simp only [workStep] at h
      split at h <;> cases h
  | wait pc | cpu pc | nvs pc | partition pc =>
      obtain ⟨_, -, e'⟩ := Outcome.map_eq_more h
      cases e'

/-- **A step keeps serving the request.** -/
theorem serves_step {board : Board} {e : Seen} {r : DbRunRequest} {w w' : Work}
    (S : Serves r w) (h : workStep board e w = .more w') : Serves r w' where
  function := workStep_runs h S.function
  duration d hd := by
    rcases workStep_duration h with hn | hs
    · rw [hn] at hd
      cases hd
    · exact S.duration d (hs ▸ hd)
  request pc' e' := by
    subst e'
    obtain ⟨pc, rfl, hr⟩ := workStep_network h
    rw [hr]
    exact S.request pc rfl

/-! ## 9. How a workload function can end -/

/-- **What is known at a control point** of a run that started at `started` and asked for
    `duration`: a deadline that has been set is not too early, and an exit is reached because the
    deadline has passed, because the flag is set, or because an operation failed. -/
def WorkInv (started duration now : Nat) (abort : Bool) : Work → Prop
  | .associated d | .clients d => d = duration
  | .wait (.enter d) => d = duration
  | .wait (.test dl) | .wait (.poll dl) | .wait (.delay dl) => started + duration ≤ dl
  | .cpu (.enter d) => d = duration
  | .cpu (.test l) | .cpu (.poll l) | .cpu (.burn l) => started + duration ≤ l.deadline
  | .cpu (.exit _) => started + duration ≤ now ∨ abort = true
  | .nvs (.open d) | .nvs (.enter d) => d = duration
  | .nvs (.test l) | .nvs (.poll l) | .nvs (.setBlob l) | .nvs (.commit l) =>
    started + duration ≤ l.deadline
  | .nvs (.close l) | .nvs (.exit l) =>
    l.ok = true → started + duration ≤ now ∨ abort = true
  | .partition (.check _ d) | .partition (.alloc _ d) | .partition (.enter _ d) => d = duration
  | .partition (.test l) | .partition (.poll l) | .partition (.erase l) | .partition (.write l)
  | .partition (.read l) | .partition (.compare l) => started + duration ≤ l.deadline
  | .partition (.exit l) => l.ok = true → started + duration ≤ now ∨ abort = true
  | .network (.connect r) | .network (.enter r) => r.durationMs = duration
  | .network (.test l) | .network (.poll l) | .network (.send l) | .network (.recv l)
  | .network (.delay l _) => started + duration ≤ l.deadline
  | .network (.shutdown l) | .network (.exit l) =>
    l.ok = true → started + duration ≤ now ∨ abort = true

theorem workInv_start (board : Board) (r : DbRunRequest) (started now : Nat) (abort : Bool) :
    WorkInv started r.durationMs now abort (workStart board r) := by
  unfold workStart
  cases r.workload <;> rfl

/-- Time passing and the flag being set keep what is known. -/
theorem workInv_mono {started duration now now' : Nat} {abort abort' : Bool} (hn : now ≤ now')
    (ha : abort = true → abort' = true) {w : Work} (h : WorkInv started duration now abort w) :
    WorkInv started duration now' abort' w := by
  have key : started + duration ≤ now ∨ abort = true →
      started + duration ≤ now' ∨ abort' = true := Or.imp (fun h => le_trans h hn) ha
  cases w with
  | associated d => exact h
  | clients d => exact h
  | wait pc => cases pc <;> exact h
  | cpu pc => cases pc <;> first | exact h | exact key h
  | nvs pc => cases pc <;> first | exact h | exact fun hok => key (h hok)
  | partition pc => cases pc <;> first | exact h | exact fun hok => key (h hok)
  | network pc => cases pc <;> first | exact h | exact fun hok => key (h hok)

/-- What a return value says. -/
def OutcomeInv (started duration now : Nat) (abort : Bool) : Outcome Work → Prop
  | .more w => WorkInv started duration now abort w
  | .done ok _ _ => ok = true → started + duration ≤ now ∨ abort = true

theorem waitAbortable_inv {started duration : Nat} {e : Seen} (hs : started ≤ e.now) {pc : WaitPc}
    (h : WorkInv started duration e.now e.abort (.wait pc)) :
    OutcomeInv started duration e.now e.abort ((waitAbortable e pc).map .wait) := by
  cases pc with
  | enter d =>
      cases h
      exact Nat.add_le_add_right hs _
  | test dl =>
      simp only [waitAbortable]
      split
      · exact h
      · rename_i hlt
        exact fun _ => Or.inl (le_trans h (Nat.le_of_not_lt hlt))
  | poll dl =>
      simp only [waitAbortable]
      split
      · exact fun hok => Bool.noConfusion hok
      · exact h
  | delay dl => exact h

theorem runCpu_inv {started duration : Nat} {e : Seen} (hs : started ≤ e.now) {pc : CpuPc}
    (h : WorkInv started duration e.now e.abort (.cpu pc)) :
    OutcomeInv started duration e.now e.abort ((runCpu e pc).map .cpu) := by
  cases pc with
  | enter d =>
      cases h
      exact Nat.add_le_add_right hs _
  | test l =>
      simp only [runCpu]
      split
      · exact h
      · rename_i hlt
        exact Or.inl (le_trans h (Nat.le_of_not_lt hlt))
  | poll l =>
      simp only [runCpu]
      split
      · rename_i ha
        exact Or.inr ha
      · exact h
  | burn l => exact h
  | exit l => exact fun _ => h

theorem runNvs_inv {started duration : Nat} {e : Seen} (hs : started ≤ e.now) {pc : NvsPc}
    (h : WorkInv started duration e.now e.abort (.nvs pc)) :
    OutcomeInv started duration e.now e.abort ((runNvs e pc).map .nvs) := by
  cases pc with
  | «open» d =>
      simp only [runNvs]
      split
      · exact fun hok => Bool.noConfusion hok
      · exact h
  | enter d =>
      cases h
      exact Nat.add_le_add_right hs _
  | test l =>
      simp only [runNvs]
      split
      · exact h
      · rename_i hlt
        exact fun _ => Or.inl (le_trans h (Nat.le_of_not_lt hlt))
  | poll l =>
      simp only [runNvs]
      split
      · rename_i ha
        exact fun _ => Or.inr ha
      · exact h
  | setBlob l | commit l =>
      simp only [runNvs]
      split
      · exact h
      · exact fun hok => Bool.noConfusion hok
  | close l => exact h
  | exit l => exact fun hok => h (Bool.and_eq_true_iff.mp hok).1

theorem partitionCycle_inv {started duration : Nat} {e : Seen} (running : Partition)
    (hs : started ≤ e.now) {pc : PartPc}
    (h : WorkInv started duration e.now e.abort (.partition pc)) :
    OutcomeInv started duration e.now e.abort ((partitionCycle running e pc).map .partition) := by
  cases pc with
  | check p d =>
      cases p with
      | none => exact fun hok => Bool.noConfusion hok
      | some p =>
          simp only [partitionCycle]
          split
          · exact fun hok => Bool.noConfusion hok
          · exact h
  | alloc p d =>
      simp only [partitionCycle]
      split
      · exact fun hok => Bool.noConfusion hok
      · exact h
  | enter p d =>
      cases h
      exact Nat.add_le_add_right hs _
  | test l =>
      simp only [partitionCycle]
      split
      · exact h
      · rename_i hlt
        exact fun _ => Or.inl (le_trans h (Nat.le_of_not_lt hlt))
  | poll l =>
      simp only [partitionCycle]
      split
      · rename_i ha
        exact fun _ => Or.inr ha
      · split <;> split <;> exact h
  | erase l | write l | read l | compare l =>
      simp only [partitionCycle]
      split
      · exact fun hok => Bool.noConfusion hok
      · exact h
  | exit l => exact fun hok => h (Bool.and_eq_true_iff.mp hok).1

/-- The loop body of `run_network` keeps the deadline. -/
theorem netPace_inv {started duration now : Nat} {abort : Bool} {l : NetLocals}
    (h : started + duration ≤ l.deadline) :
    WorkInv started duration now abort (.network (netPace l)) := by
  unfold netPace
  split <;> exact h

theorem netRecv_inv {started duration now : Nat} {abort : Bool} {l : NetLocals}
    (h : started + duration ≤ l.deadline) :
    WorkInv started duration now abort (.network (netRecv l)) := by
  unfold netRecv
  split
  · exact h
  · exact netPace_inv h

theorem netSend_inv {started duration now : Nat} {abort : Bool} {l : NetLocals}
    (h : started + duration ≤ l.deadline) :
    WorkInv started duration now abort (.network (netSend l)) := by
  unfold netSend
  split
  · exact h
  · exact netRecv_inv h

theorem runNetwork_inv {started duration : Nat} {e : Seen} (hs : started ≤ e.now) {pc : NetPc}
    (h : WorkInv started duration e.now e.abort (.network pc)) :
    OutcomeInv started duration e.now e.abort ((runNetwork e pc).map .network) := by
  cases pc with
  | connect r =>
      simp only [runNetwork]
      split
      · exact fun hok => Bool.noConfusion hok
      · exact h
  | enter r =>
      cases h
      exact Nat.add_le_add_right hs _
  | test l =>
      simp only [runNetwork]
      split
      · exact h
      · rename_i hlt
        exact fun _ => Or.inl (le_trans h (Nat.le_of_not_lt hlt))
  | poll l =>
      simp only [runNetwork]
      split
      · rename_i ha
        exact fun _ => Or.inr ha
      · exact netSend_inv h
  | send l =>
      simp only [runNetwork]
      split
      · exact fun hok => Bool.noConfusion hok
      · exact netRecv_inv (l := { l with tx := _ }) h
  | recv l =>
      simp only [runNetwork]
      split
      · exact fun hok => Bool.noConfusion hok
      · exact netPace_inv (l := { l with rx := _ }) h
  | delay l ms => exact h
  | shutdown l => exact h
  | exit l => exact fun hok => h (Bool.and_eq_true_iff.mp hok).1

/-- **A workload function that returns true has run to its deadline or seen the flag set.** -/
theorem workStep_inv (board : Board) {started duration : Nat} {e : Seen} (hs : started ≤ e.now)
    {w : Work} (h : WorkInv started duration e.now e.abort w) :
    OutcomeInv started duration e.now e.abort (workStep board e w) := by
  cases w with
  | associated d =>
      simp only [workStep]
      split <;> exact h
  | clients d =>
      simp only [workStep]
      split
      · exact h
      · exact fun hok => Bool.noConfusion hok
  | wait pc => exact waitAbortable_inv hs h
  | cpu pc => exact runCpu_inv hs h
  | nvs pc => exact runNvs_inv hs h
  | partition pc => exact partitionCycle_inv board.running hs h
  | network pc => exact runNetwork_inv hs h

end DragonBench
