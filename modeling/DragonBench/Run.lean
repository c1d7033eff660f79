/-
  File:      DragonBench/Run.lean
  Subject:   `firmware/common/db_run.h` and `db_run.c`: workloads, requests, the life of a run.

  The C structures are records, a `char` buffer is its text (`CText`), a `bool` that comes back
  beside a changed structure is an `Option` of the changed structure. The result of a run is a
  text in the source and a text here; the workload task writes the three texts of `Verdict`.
-/
import DragonBench.Lib.Text

namespace DragonBench

/-! ## 1. Sizes -/

/-- `DB_RUN_ID_LEN`. -/
def dbRunIdLen : Nat := 33

/-- `DB_HOST_LEN`. -/
def dbHostLen : Nat := 254

/-- `DB_EVENT_CAPACITY`. -/
def dbEventCapacity : Nat := 64

/-- `DB_EVENT_JSON_LEN`. -/
def dbEventJsonLen : Nat := 512

/-- The size of `db_run_t.result`. -/
def dbResultLen : Nat := 16

/-! ## 2. Workloads -/

/-- `db_workload_t` below `DB_WORKLOAD_COUNT`. -/
inductive DbWorkload where
  | boot | idle | wifiAssociatedIdle | netTx | netRx | netBidirectional | cpuStress | flashWrite
  | nvsWrite | otaPartitionWrite | controlledReboot
  deriving DecidableEq, Repr

/-- The workloads in the order of the enumeration. -/
def DbWorkload.all : List DbWorkload :=
  [.boot, .idle, .wifiAssociatedIdle, .netTx, .netRx, .netBidirectional, .cpuStress, .flashWrite,
    .nvsWrite, .otaPartitionWrite, .controlledReboot]

theorem DbWorkload.mem_all (w : DbWorkload) : w ∈ DbWorkload.all := by
  cases w <;> decide

/-- `db_workload_name`, the table `names`. -/
def dbWorkloadName : DbWorkload → CText
  | .boot => "BOOT".toList
  | .idle => "IDLE".toList
  | .wifiAssociatedIdle => "WIFI_ASSOCIATED_IDLE".toList
  | .netTx => "NET_TX".toList
  | .netRx => "NET_RX".toList
  | .netBidirectional => "NET_BIDIRECTIONAL".toList
  | .cpuStress => "CPU_STRESS".toList
  | .flashWrite => "FLASH_WRITE".toList
  | .nvsWrite => "NVS_WRITE".toList
  | .otaPartitionWrite => "OTA_PARTITION_WRITE".toList
  | .controlledReboot => "CONTROLLED_REBOOT".toList

/-- `db_workload_parse`: the first workload of that name. -/
def dbWorkloadParse (name : CText) : Option DbWorkload :=
  DbWorkload.all.find? fun w => decide (name = dbWorkloadName w)

/-- Parsing inverts naming. -/
theorem dbWorkloadParse_name (w : DbWorkload) : dbWorkloadParse (dbWorkloadName w) = some w := by
  cases w <;> decide

/-- `db_workload_supported`: the number of the workload is below `DB_WORKLOAD_COUNT`. -/
def dbWorkloadSupported (w : DbWorkload) : Bool :=
  decide (DbWorkload.all.idxOf w < DbWorkload.all.length)

theorem dbWorkloadSupported_eq (w : DbWorkload) : dbWorkloadSupported w = true :=
  decide_eq_true (List.idxOf_lt_length_of_mem w.mem_all)

/-! ## 3. Requests -/

/-- `db_run_request_t`. -/
structure DbRunRequest where
  workload : DbWorkload
  durationMs : Nat
  rateBps : Nat
  port : Nat
  host : CText
  deriving DecidableEq, Repr

/-- The flag `network` of `db_request_validate`. -/
def isNetwork (w : DbWorkload) : Bool :=
  w = .netTx || w = .netRx || w = .netBidirectional

/-- The characters `db_request_validate` lets through in a host. -/
def isHostChar (c : Char) : Bool :=
  c.isAlphanum || c = '.' || c = '-' || c = '_' || c = ':'

/-- `db_request_validate`: the error text of a refused request. -/
def dbRequestValidate (request : DbRunRequest) : Except CText Unit :=
  if dbWorkloadSupported request.workload = false then .error "unsupported workload".toList
  else if request.durationMs = 0 ∨ request.durationMs > 3600000 then
    .error "duration_ms must be 1..3600000".toList
  else if isNetwork request.workload = true ∧ (request.host = [] ∨ request.port = 0) then
    .error "network workloads require host and port".toList
  else if isNetwork request.workload = true ∧ request.host.all isHostChar = false then
    .error "host contains unsupported characters".toList
  else .ok ()

/-- **What a valid request meets.** -/
theorem dbRequestValidate_ok {r : DbRunRequest} (h : dbRequestValidate r = .ok ()) :
    0 < r.durationMs ∧ r.durationMs ≤ 3600000 ∧
      (isNetwork r.workload = true → r.host ≠ [] ∧ r.port ≠ 0 ∧ ∀ c ∈ r.host, isHostChar c = true) := by
  unfold dbRequestValidate at h
  split_ifs at h with h1 h2 h3 h4
  refine ⟨by omega, by omega, fun hn => ?_⟩
  refine ⟨fun e => h3 ⟨hn, Or.inl e⟩, fun e => h3 ⟨hn, Or.inr e⟩, ?_⟩
  have h5 : r.host.all isHostChar = true := by
    cases ha : r.host.all isHostChar with
    | true => rfl
    | false => exact absurd ⟨hn, ha⟩ h4
  exact List.all_eq_true.mp h5

/-- And what meets it is valid. -/
theorem dbRequestValidate_of {r : DbRunRequest} (hlo : 0 < r.durationMs)
    (hhi : r.durationMs ≤ 3600000)
    (hn : isNetwork r.workload = true → r.host ≠ [] ∧ r.port ≠ 0 ∧
      ∀ c ∈ r.host, isHostChar c = true) : dbRequestValidate r = .ok () := by
  have hsupported : ¬ dbWorkloadSupported r.workload = false := by
    rw [dbWorkloadSupported_eq]
    exact Bool.noConfusion
  have hduration : ¬ (r.durationMs = 0 ∨ r.durationMs > 3600000) := by omega
  unfold dbRequestValidate
  rw [if_neg hsupported, if_neg hduration, if_neg ?_, if_neg ?_]
  · rintro ⟨hnet, hall⟩
    rw [List.all_eq_true.mpr (hn hnet).2.2] at hall
    cases hall
  · rintro ⟨hnet, h | h⟩
    · exact (hn hnet).1 h
    · exact (hn hnet).2.1 h

/-! ## 4. Runs -/

/-- `db_run_state_t`. -/
inductive DbRunState where
  | idle | running | aborting | complete
  deriving DecidableEq, Repr

/-- The run slot is taken. -/
def DbRunState.active : DbRunState → Bool
  | .running | .aborting => true
  | .idle | .complete => false

/-- `db_run_t`. -/
structure DbRun where
  runId : CText
  request : DbRunRequest
  state : DbRunState
  abortRequested : Bool
  result : CText
  startedMs : Nat
  endedMs : Nat
  deriving DecidableEq, Repr

/-- `db_run_begin`: everything is overwritten. -/
def dbRunBegin (request : DbRunRequest) (runId : CText) (nowMs : Nat) : DbRun where
  runId := CText.snprintf dbRunIdLen runId
  request := request
  state := .running
  abortRequested := false
  result := CText.snprintf dbResultLen "running".toList
  startedMs := nowMs
  endedMs := 0

/-- `db_run_abort`: the changed run when it returns true, `none` when it returns false. -/
def dbRunAbort (run : DbRun) (runId : CText) : Option DbRun :=
  if run.state ≠ .running ∨ run.runId ≠ runId then none
  else some { run with abortRequested := true, state := .aborting }

/-- `db_run_finish`; a missing result is recorded as `fail`. -/
def dbRunFinish (run : DbRun) (result : Option CText) (nowMs : Nat) : DbRun :=
  { run with
    state := .complete
    endedMs := nowMs
    result := CText.snprintf dbResultLen (result.getD "fail".toList) }

/-- What an accepted abort found and left. -/
theorem dbRunAbort_some {run run' : DbRun} {runId : CText} (h : dbRunAbort run runId = some run') :
    run.state = .running ∧ run.runId = runId ∧
      run' = { run with abortRequested := true, state := .aborting } := by
  unfold dbRunAbort at h
  split_ifs at h with hn
  rw [not_or, not_not, not_not] at hn
  cases h
  exact ⟨hn.1, hn.2, rfl⟩

/-- The results a workload task chooses from. -/
inductive Verdict where
  | aborted | pass | fail
  deriving DecidableEq, Repr

/-- The text of a result. -/
def Verdict.text : Verdict → CText
  | .aborted => "aborted".toList
  | .pass => "pass".toList
  | .fail => "fail".toList

theorem Verdict.text_injective : Function.Injective Verdict.text := by
  intro v w h
  cases v <;> cases w <;> first | rfl | exact absurd h (by decide)

/-- No result is cut by the buffer of `db_run_t`. -/
theorem Verdict.snprintf_text (v : Verdict) : CText.snprintf dbResultLen v.text = v.text := by
  cases v <;> rfl

end DragonBench
