/-
  File:      DragonBench/Latency.lean
  Subject:   HOW SOON A RUN IS RECORDED once it has to end: within sixteen steps of its own worker,
             whatever the other tasks, the handlers, the clock and the radio do in between.

  A worker has to end when an abort of its run has been accepted, or when the clock has reached the
  deadline of its workload function. From then on every way through the loop that is under way, the
  exit of the function and the events leads to `db_run_finish`; the workloads differ in how many
  calls they are away from their next look at the flag or the clock.

  * `Work.deadline?` -- the deadline a workload function has computed;
  * `Work.Due`, `Task.Due` -- the worker has to end;
  * `Work.left`, `Task.left` -- how many of its steps are left at most;
  * `TaskStep.left` -- each step takes one off;
  * **`recorded_within`** -- the bound, for every interleaving.
-/
import DragonBench.Lib.Response
import DragonBench.Abort

namespace DragonBench

open Transition

/-! ## 1. A workload function that has to end -/

/-- The deadline a workload function has computed. -/
def Work.deadline? : Work → Option Nat
  | .wait (.test dl) | .wait (.poll dl) | .wait (.delay dl) => some dl
  | .cpu (.test l) | .cpu (.poll l) | .cpu (.burn l) | .cpu (.exit l) => some l.deadline
  | .nvs (.test l) | .nvs (.poll l) | .nvs (.setBlob l) | .nvs (.commit l) | .nvs (.close l)
  | .nvs (.exit l) => some l.deadline
  | .partition (.test l) | .partition (.poll l) | .partition (.erase l) | .partition (.write l)
  | .partition (.read l) | .partition (.compare l) | .partition (.exit l) => some l.deadline
  | .network (.test l) | .network (.poll l) | .network (.send l) | .network (.recv l)
  | .network (.delay l _) | .network (.shutdown l) | .network (.exit l) => some l.deadline
  | _ => none

/-- The loop is left. -/
def Work.leaving : Work → Bool
  | .cpu (.exit _) | .nvs (.close _) | .nvs (.exit _) | .partition (.exit _)
  | .network (.shutdown _) | .network (.exit _) => true
  | _ => false

/-- **The function has to end**: the flag is up, its deadline has passed, or its loop is left. -/
def Work.Due (now : Nat) (abort : Bool) (w : Work) : Prop :=
  abort = true ∨ (∃ dl, w.deadline? = some dl ∧ dl ≤ now) ∨ w.leaving = true

/-- The steps left in front of the test of a loop whose way out has `exit` steps, `before` steps
    before the test. With the flag up and time left the test still leads to the poll. -/
def loopLeft (abort : Bool) (exit before : Nat) : Nat :=
  before + exit + if abort then 2 else 1

/-- The steps left at the poll of such a loop with a body of `body` steps. -/
def pollLeft (abort : Bool) (exit body : Nat) : Nat :=
  if abort then exit + 1 else loopLeft abort exit (body + 1)

/-- **How many steps of the function are left at most**, once it has to end. -/
def Work.left (abort : Bool) : Work → Nat
  | .associated _ => 5
  | .clients _ => 4
  | .wait (.enter _) => 3
  | .wait (.test _) => loopLeft abort 0 0
  | .wait (.poll _) => pollLeft abort 0 1
  | .wait (.delay _) => loopLeft abort 0 1
  | .cpu (.enter _) => 4
  | .cpu (.test _) => loopLeft abort 1 0
  | .cpu (.poll _) => pollLeft abort 1 1
  | .cpu (.burn _) => loopLeft abort 1 1
  | .cpu (.exit _) => 1
  | .nvs (.open _) => 6
  | .nvs (.enter _) => 5
  | .nvs (.test _) => loopLeft abort 2 0
  | .nvs (.poll _) => pollLeft abort 2 2
  | .nvs (.setBlob _) => loopLeft abort 2 2
  | .nvs (.commit _) => loopLeft abort 2 1
  | .nvs (.close _) => 2
  | .nvs (.exit _) => 1
  | .partition (.check _ _) => 6
  | .partition (.alloc _ _) => 5
  | .partition (.enter _ _) => 4
  | .partition (.test _) => loopLeft abort 1 0
  | .partition (.poll _) => pollLeft abort 1 4
  | .partition (.erase _) => loopLeft abort 1 4
  | .partition (.write _) => loopLeft abort 1 3
  | .partition (.read _) => loopLeft abort 1 2
  | .partition (.compare _) => loopLeft abort 1 1
  | .partition (.exit _) => 1
  | .network (.connect _) => 6
  | .network (.enter _) => 5
  | .network (.test _) => loopLeft abort 2 0
  | .network (.poll _) => pollLeft abort 2 3
  | .network (.send _) => loopLeft abort 2 3
  | .network (.recv _) => loopLeft abort 2 2
  | .network (.delay _ _) => loopLeft abort 2 1
  | .network (.shutdown _) => 2
  | .network (.exit _) => 1

/-- What a step of a function that has to end gives, with `n` steps left in front of it. -/
def OutcomeLeft (e : Seen) (n : Nat) : Outcome Work → Prop
  | .more w => w.Due e.now e.abort ∧ w.left e.abort < n
  | .done _ _ _ => 0 < n

section Functions

variable {now : Nat} {abort : Bool} {w : Work} {dl : Nat} {e : Seen}

/-- Inside the loop: the flag is up, or the deadline has passed. -/
theorem Work.Due.loop (h : w.Due now abort) (hl : w.leaving = false) (hd : w.deadline? = some dl) :
    abort = true ∨ dl ≤ now := by
  rcases h with h | ⟨dl', hd', hle⟩ | h
  · exact Or.inl h
  · cases hd.symm.trans hd'
    exact Or.inr hle
  · rw [hl] at h
    cases h

/-- In front of the deadline: the flag is up. -/
theorem Work.Due.start (h : w.Due now abort) (hl : w.leaving = false) (hd : w.deadline? = none) :
    abort = true := by
  rcases h with h | ⟨dl, hd', -⟩ | h
  · exact h
  · cases hd.symm.trans hd'
  · rw [hl] at h
    cases h

theorem Work.due_loop (h : abort = true ∨ dl ≤ now) (hd : w.deadline? = some dl) :
    w.Due now abort :=
  h.imp_right fun hle => Or.inl ⟨dl, hd, hle⟩

/-- With time left, the flag is up. -/
theorem abort_of_lt (h : abort = true ∨ dl ≤ now) (hlt : now < dl) : abort = true :=
  h.resolve_right (Nat.not_le_of_lt hlt)

/-- With the flag down, the deadline has passed. -/
theorem flag_of_not (h : ¬ abort = true) : abort = false := Bool.eq_false_iff.mpr h

theorem waitAbortable_left {pc : WaitPc} (h : Work.Due e.now e.abort (.wait pc)) :
    OutcomeLeft e (Work.left e.abort (.wait pc)) ((waitAbortable e pc).map .wait) := by
  cases pc with
  | enter d =>
      have ha := h.start rfl rfl
      exact ⟨Or.inl ha, by simp [Work.left, loopLeft, ha]⟩
  | test dl =>
      have hl := h.loop rfl rfl
      simp only [waitAbortable]
      split
      · rename_i hlt
        have ha := abort_of_lt hl hlt
        exact ⟨Or.inl ha, by simp [Work.left, loopLeft, pollLeft, ha]⟩
      · exact Nat.lt_of_lt_of_le Nat.one_pos (by simp only [Work.left, loopLeft]; split <;> decide)
  | poll dl =>
      have hl := h.loop rfl rfl
      simp only [waitAbortable]
      split
      · rename_i ha
        simp [OutcomeLeft, Outcome.map, Work.left, pollLeft, ha]
      · rename_i ha
        exact ⟨Work.due_loop hl rfl, by simp [Work.left, loopLeft, pollLeft, flag_of_not ha]⟩
  | delay dl =>
      exact ⟨Work.due_loop (h.loop rfl rfl) rfl, by simp [Work.left, loopLeft]⟩

theorem runCpu_left {pc : CpuPc} (h : Work.Due e.now e.abort (.cpu pc)) :
    OutcomeLeft e (Work.left e.abort (.cpu pc)) ((runCpu e pc).map .cpu) := by
  cases pc with
  | enter d =>
      have ha := h.start rfl rfl
      exact ⟨Or.inl ha, by simp [Work.left, loopLeft, ha]⟩
  | test l =>
      have hl := h.loop rfl rfl
      simp only [runCpu]
      split
      · rename_i hlt
        have ha := abort_of_lt hl hlt
        exact ⟨Or.inl ha, by simp [Work.left, loopLeft, pollLeft, ha]⟩
      · exact ⟨Or.inr (Or.inr rfl), by simp only [Work.left, loopLeft]; split <;> decide⟩
  | poll l =>
      have hl := h.loop rfl rfl
      simp only [runCpu]
      split
      · rename_i ha
        exact ⟨Or.inl ha, by simp [Work.left, pollLeft, ha]⟩
      · rename_i ha
        exact ⟨Work.due_loop hl rfl, by simp [Work.left, loopLeft, pollLeft, flag_of_not ha]⟩
  | burn l => exact ⟨Work.due_loop (h.loop rfl rfl) rfl, by simp [Work.left, loopLeft]⟩
  | exit l => exact Nat.one_pos

theorem runNvs_left {pc : NvsPc} (h : Work.Due e.now e.abort (.nvs pc)) :
    OutcomeLeft e (Work.left e.abort (.nvs pc)) ((runNvs e pc).map .nvs) := by
  cases pc with
  | «open» d =>
      have ha := h.start rfl rfl
      simp only [runNvs]
      split
      · exact Nat.succ_pos 5
      · exact ⟨Or.inl ha, by simp [Work.left]⟩
  | enter d =>
      have ha := h.start rfl rfl
      exact ⟨Or.inl ha, by simp [Work.left, loopLeft, ha]⟩
  | test l =>
      have hl := h.loop rfl rfl
      simp only [runNvs]
      split
      · rename_i hlt
        have ha := abort_of_lt hl hlt
        exact ⟨Or.inl ha, by simp [Work.left, loopLeft, pollLeft, ha]⟩
      · exact ⟨Or.inr (Or.inr rfl), by simp only [Work.left, loopLeft]; split <;> decide⟩
  | poll l =>
      have hl := h.loop rfl rfl
      simp only [runNvs]
      split
      · rename_i ha
        exact ⟨Or.inl ha, by simp [Work.left, pollLeft, ha]⟩
      · rename_i ha
        exact ⟨Work.due_loop hl rfl, by simp [Work.left, loopLeft, pollLeft, flag_of_not ha]⟩
  | setBlob l | commit l =>
      have hl := h.loop rfl rfl
      simp only [runNvs]
      split
      · exact ⟨Work.due_loop hl rfl, by simp [Work.left, loopLeft]⟩
      · exact ⟨Or.inr (Or.inr rfl), by simp only [Work.left, loopLeft]; split <;> decide⟩
  | close l => exact ⟨Or.inr (Or.inr rfl), Nat.lt_succ_self 1⟩
  | exit l => exact Nat.one_pos

theorem partitionCycle_left (running : Partition) {pc : PartPc}
    (h : Work.Due e.now e.abort (.partition pc)) :
    OutcomeLeft e (Work.left e.abort (.partition pc)) ((partitionCycle running e pc).map .partition) := by
  cases pc with
  | check p d =>
      have ha := h.start rfl rfl
      cases p with
      | none => exact Nat.succ_pos 5
      | some p =>
          simp only [partitionCycle]
          split
          · exact Nat.succ_pos 5
          · exact ⟨Or.inl ha, by simp [Work.left]⟩
  | alloc p d =>
      have ha := h.start rfl rfl
      simp only [partitionCycle]
      split
      · exact Nat.succ_pos 4
      · exact ⟨Or.inl ha, by simp [Work.left]⟩
  | enter p d =>
      have ha := h.start rfl rfl
      exact ⟨Or.inl ha, by simp [Work.left, loopLeft, ha]⟩
  | test l =>
      have hl := h.loop rfl rfl
      simp only [partitionCycle]
      split
      · rename_i hlt
        have ha := abort_of_lt hl hlt
        exact ⟨Or.inl ha, by simp [Work.left, loopLeft, pollLeft, ha]⟩
      · exact ⟨Or.inr (Or.inr rfl), by simp only [Work.left, loopLeft]; split <;> decide⟩
  | poll l =>
      have hl := h.loop rfl rfl
      simp only [partitionCycle]
      split
      · rename_i ha
        exact ⟨Or.inl ha, by simp [Work.left, pollLeft, ha]⟩
      · rename_i ha
        -- wherever the offset wraps, the body starts at the erase or the write
        split <;> split <;>
          exact ⟨Work.due_loop hl rfl, by simp [Work.left, loopLeft, pollLeft, flag_of_not ha]⟩
  | erase l | write l | read l | compare l =>
      have hl := h.loop rfl rfl
      simp only [partitionCycle]
      split
      · exact ⟨Or.inr (Or.inr rfl), by simp only [Work.left, loopLeft]; split <;> decide⟩
      · exact ⟨Work.due_loop hl rfl, by simp [Work.left, loopLeft]⟩
  | exit l => exact Nat.one_pos

/-- The rest of a loop body of `run_network`. -/
theorem netPace_left {l : NetLocals} (h : abort = true ∨ l.deadline ≤ now) :
    Work.Due now abort (.network (netPace l)) ∧
      Work.left abort (.network (netPace l)) ≤ loopLeft abort 2 1 := by
  unfold netPace
  split
  · exact ⟨Work.due_loop h rfl, le_refl _⟩
  · exact ⟨Work.due_loop h rfl, by simp [Work.left, loopLeft]⟩

theorem netRecv_left {l : NetLocals} (h : abort = true ∨ l.deadline ≤ now) :
    Work.Due now abort (.network (netRecv l)) ∧
      Work.left abort (.network (netRecv l)) ≤ loopLeft abort 2 2 := by
  unfold netRecv
  split
  · exact ⟨Work.due_loop h rfl, le_refl _⟩
  · refine (netPace_left h).imp_right fun hle => le_trans hle ?_
    simp [loopLeft]

theorem netSend_left {l : NetLocals} (h : abort = true ∨ l.deadline ≤ now) :
    Work.Due now abort (.network (netSend l)) ∧
      Work.left abort (.network (netSend l)) ≤ loopLeft abort 2 3 := by
  unfold netSend
  split
  · exact ⟨Work.due_loop h rfl, le_refl _⟩
  · refine (netRecv_left h).imp_right fun hle => le_trans hle ?_
    simp [loopLeft]

theorem runNetwork_left {pc : NetPc} (h : Work.Due e.now e.abort (.network pc)) :
    OutcomeLeft e (Work.left e.abort (.network pc)) ((runNetwork e pc).map .network) := by
  cases pc with
  | connect r =>
      have ha := h.start rfl rfl
      simp only [runNetwork]
      split
      · exact Nat.succ_pos 5
      · exact ⟨Or.inl ha, by simp [Work.left]⟩
  | enter r =>
      have ha := h.start rfl rfl
      exact ⟨Or.inl ha, by simp [Work.left, loopLeft, ha]⟩
  | test l =>
      have hl := h.loop rfl rfl
      simp only [runNetwork]
      split
      · rename_i hlt
        have ha := abort_of_lt hl hlt
        exact ⟨Or.inl ha, by simp [Work.left, loopLeft, pollLeft, ha]⟩
      · exact ⟨Or.inr (Or.inr rfl), by simp only [Work.left, loopLeft]; split <;> decide⟩
  | poll l =>
      have hl := h.loop rfl rfl
      simp only [runNetwork]
      split
      · rename_i ha
        exact ⟨Or.inl ha, by simp [Work.left, pollLeft, ha]⟩
      · rename_i ha
        obtain ⟨hd, hle⟩ := netSend_left hl
        refine ⟨hd, Nat.lt_of_le_of_lt hle ?_⟩
        simp [Work.left, loopLeft, pollLeft, flag_of_not ha]
  | send l =>
      have hl := h.loop rfl rfl
      simp only [runNetwork]
      split
      · exact ⟨Or.inr (Or.inr rfl), by simp only [Work.left, loopLeft]; split <;> decide⟩
      · obtain ⟨hd, hle⟩ := netRecv_left (l := { l with tx := l.tx + e.ret.toNat }) hl
        refine ⟨hd, Nat.lt_of_le_of_lt hle ?_⟩
        simp [Work.left, loopLeft]
  | recv l =>
      have hl := h.loop rfl rfl
      simp only [runNetwork]
      split
      · exact ⟨Or.inr (Or.inr rfl), by simp only [Work.left, loopLeft]; split <;> decide⟩
      · obtain ⟨hd, hle⟩ := netPace_left (l := { l with rx := l.rx + e.ret.toNat }) hl
        refine ⟨hd, Nat.lt_of_le_of_lt hle ?_⟩
        simp [Work.left, loopLeft]
  | delay l ms => exact ⟨Work.due_loop (h.loop rfl rfl) rfl, by simp [Work.left, loopLeft]⟩
  | shutdown l => exact ⟨Or.inr (Or.inr rfl), Nat.lt_succ_self 1⟩
  | exit l => exact Nat.one_pos

/-- **Each step of a workload function that has to end takes one step off.** -/
theorem workStep_left (board : Board) (h : w.Due e.now e.abort) :
    OutcomeLeft e (w.left e.abort) (workStep board e w) := by
  cases w with
  | associated d =>
      have ha := h.start rfl rfl
      simp only [workStep]
      split <;> exact ⟨Or.inl ha, by simp [Work.left]⟩
  | clients d =>
      have ha := h.start rfl rfl
      simp only [workStep]
      split
      · exact ⟨Or.inl ha, by simp [Work.left]⟩
      · exact Nat.succ_pos 3
  | wait pc => exact waitAbortable_left h
  | cpu pc => exact runCpu_left h
  | nvs pc => exact runNvs_left h
  | partition pc => exact partitionCycle_left board.running h
  | network pc => exact runNetwork_left h

/-- A workload function starts six steps in front of its end at most. -/
theorem workStart_left (board : Board) (r : DbRunRequest) (abort : Bool) :
    (workStart board r).left abort ≤ 6 := by
  unfold workStart
  cases r.workload <;> simp [Work.left]

/-- No function has more than seven steps left. -/
theorem Work.left_le (abort : Bool) (w : Work) : w.left abort ≤ 7 := by
  cases w with
  | associated | clients => simp [Work.left]
  | wait pc => cases pc <;> cases abort <;> simp [Work.left, loopLeft, pollLeft]
  | cpu pc => cases pc <;> cases abort <;> simp [Work.left, loopLeft, pollLeft]
  | nvs pc => cases pc <;> cases abort <;> simp [Work.left, loopLeft, pollLeft]
  | partition pc => cases pc <;> cases abort <;> simp [Work.left, loopLeft, pollLeft]
  | network pc => cases pc <;> cases abort <;> simp [Work.left, loopLeft, pollLeft]

/-- Raising the flag puts back one step at most: the test leads to the poll once more. -/
theorem Work.left_raise (w : Work) : w.left true ≤ w.left false + 1 := by
  cases w with
  | associated | clients => simp [Work.left]
  | wait pc => cases pc <;> simp [Work.left, loopLeft, pollLeft]
  | cpu pc => cases pc <;> simp [Work.left, loopLeft, pollLeft]
  | nvs pc => cases pc <;> simp [Work.left, loopLeft, pollLeft]
  | partition pc => cases pc <;> simp [Work.left, loopLeft, pollLeft]
  | network pc => cases pc <;> simp [Work.left, loopLeft, pollLeft]

end Functions

/-! ## 2. A worker that has to end -/

/-- **The worker has to end.** -/
def Task.Due (now : Nat) (abort : Bool) (t : Task) : Prop :=
  match t.pc with
  | .copy | .emit .phaseStart _ => abort = true
  | .work w => w.Due now abort
  | _ => True

/-- The steps of `emit_event` left. -/
def EmitStage.left : EmitStage → Nat
  | .number => 3
  | .build _ => 2
  | .insert _ => 1

/-- The steps from the choice of the result to `db_run_finish`; with the flag up there is no fault
    event. -/
def choiceLeft (abort : Bool) : Nat := if abort then 6 else 9

/-- **How many of its steps a worker has left at most**, up to `db_run_finish`. -/
def TaskPc.left (abort : Bool) : TaskPc → Nat
  | .copy => 16
  | .emit .phaseStart stage => stage.left + 12
  | .work w => w.left abort + choiceLeft abort
  | .choose => choiceLeft abort
  | .faultTest => choiceLeft abort - 1
  | .emit .fault stage => stage.left + 4
  | .emit .phaseEnd stage => stage.left + 1
  | .finish => 1
  | _ => 0

theorem TaskPc.left_le (abort : Bool) (pc : TaskPc) : pc.left abort ≤ 16 := by
  cases pc with
  | emit k stage => cases k <;> cases stage <;> simp [TaskPc.left, EmitStage.left]
  | work w =>
      have := w.left_le abort
      cases abort <;> simp only [TaskPc.left, choiceLeft] <;> simp <;> omega
  | choose | faultTest => cases abort <;> simp [TaskPc.left, choiceLeft]
  | _ => simp [TaskPc.left]

/-- Up to `db_run_finish` there is a step left. -/
theorem TaskPc.left_pos (abort : Bool) {pc : TaskPc} (h : pc.live = true) : 0 < pc.left abort := by
  cases pc with
  | emit k stage =>
      cases k with
      | runComplete => cases h
      | phaseStart | fault | phaseEnd => exact Nat.lt_add_left _ (by decide)
  | work w => exact Nat.lt_add_left _ (by cases abort <;> decide)
  | choose | faultTest => cases abort <;> decide
  | copy | finish => exact Nat.succ_pos _
  | rebootTest | markMagic | markRunId | delay | restart | deleted => cases h

/-- Raising the flag under a worker that has to end puts no step back. -/
theorem Task.left_raise {now : Nat} {abort : Bool} {t : Task} (h : t.Due now abort) :
    t.pc.left true ≤ t.pc.left abort := by
  cases abort with
  | true => exact le_refl _
  | false =>
      unfold Task.Due at h
      cases hpc : t.pc with
      | copy => exact le_refl _
      | emit k stage => cases k <;> exact le_refl _
      | work w =>
          have := w.left_raise
          simp only [TaskPc.left, choiceLeft, if_true, Bool.false_eq_true, if_false]
          omega
      | choose | faultTest => simp [TaskPc.left, choiceLeft]
      | _ => exact le_refl _

/-- Time and the flag only make it more so. -/
theorem Task.Due.mono {now now' : Nat} {abort abort' : Bool} {t : Task} (h : t.Due now abort)
    (hn : now ≤ now') (ha : abort = true → abort' = true) : t.Due now' abort' := by
  unfold Task.Due at h ⊢
  cases hpc : t.pc with
  | emit k stage =>
      rw [hpc] at h
      cases k <;> first | exact ha h | trivial
  | copy =>
      rw [hpc] at h
      exact ha h
  | work w =>
      rw [hpc] at h
      rcases h with h | ⟨dl, hd, hle⟩ | h
      · exact Or.inl (ha h)
      · exact Or.inr (Or.inl ⟨dl, hd, le_trans hle hn⟩)
      · exact Or.inr (Or.inr h)
  | _ => trivial

section Step

variable {B : Boot} {s s' : Shared} {t t' : Task}

/-- **Each step of a worker that has to end takes one step off**, up to `db_run_finish`. -/
theorem TaskStep.left (h : TaskStep B s t s' t') (hl : t.pc.live = true)
    (hd : t.Due s.clock s.run.abortRequested) :
    t.pc = .finish ∨ t'.Due s.clock s.run.abortRequested ∧
      t'.pc.left s.run.abortRequested < t.pc.left s.run.abortRequested := by
  unfold Task.Due at hd
  cases h with
  | finish h => exact Or.inl h
  | copy h =>
      rw [h] at hd ⊢
      exact Or.inr ⟨hd, Nat.lt_succ_self 15⟩
  | @number k h | @build k n h =>
      rw [h] at hd ⊢
      refine Or.inr ⟨?_, ?_⟩
      · cases k <;> exact hd
      · cases k with
        | runComplete =>
            rw [h] at hl
            cases hl
        | phaseStart | fault | phaseEnd => simp [TaskPc.left, EmitStage.left]
  | @insert k e h =>
      rw [h] at hd ⊢
      cases k with
      | phaseStart =>
          have ha : s.run.abortRequested = true := hd
          have hw := workStart_left B.board t.run.request true
          refine Or.inr ⟨Or.inl ha, ?_⟩
          rw [ha]
          simp only [afterEmit, TaskPc.left, choiceLeft, EmitStage.left, if_true]
          omega
      | fault => exact Or.inr ⟨trivial, Nat.lt_succ_self 4⟩
      | phaseEnd => exact Or.inr ⟨trivial, Nat.lt_succ_self 1⟩
      | runComplete =>
          rw [h] at hl
          cases hl
  | @more w w' ret h hw =>
      rw [h] at hd ⊢
      have hleft := workStep_left (e := s.seen ret) B.board hd
      rw [hw] at hleft
      exact Or.inr ⟨hleft.1, Nat.add_lt_add_right hleft.2 _⟩
  | @done w ret ok a b h hw =>
      rw [h] at hd ⊢
      have hleft := workStep_left (e := s.seen ret) B.board hd
      rw [hw] at hleft
      exact Or.inr ⟨trivial, Nat.lt_add_of_pos_left hleft⟩
  | choose h =>
      rw [h]
      unfold Task.Due
      dsimp only
      cases t.ok with
      | true => exact Or.inr ⟨trivial, by cases s.run.abortRequested <;> decide⟩
      | false => exact Or.inr ⟨trivial, by cases s.run.abortRequested <;> decide⟩
  | noFault h ha =>
      rw [h, ha]
      exact Or.inr ⟨trivial, Nat.lt_succ_self 4⟩
  | fault h ha =>
      rw [h, ha]
      exact Or.inr ⟨trivial, Nat.lt_succ_self 7⟩
  | noReboot h | reboot h | markMagic h | markRunId h | delay h | restart h =>
      rw [h] at hl
      cases hl

/-- The step behind which the run is recorded, and only it, ends the ownership. -/
theorem TaskStep.finish_or (h : TaskStep B s t s' t') (hl : t.pc.live = true) :
    t.pc = .finish ∧ (t.born, s'.run) ∈ s'.finished ∨
      t.pc ≠ .finish ∧ t'.pc.live = true ∧ s'.run = s.run ∧ s'.clock = s.clock := by
  by_cases hpc : t.pc = .finish
  · refine Or.inl ⟨hpc, ?_⟩
    rcases h.finishes with ⟨-, -, hlive⟩ | ⟨-, -, -, hfin⟩
    · cases h with
      | finish => exact List.mem_append_right _ (List.mem_singleton_self _)
      | copy h | number h | build h | insert h | more h | done h | choose h | noFault h | fault h
      | noReboot h | reboot h | markMagic h | markRunId h | delay h | restart h =>
          rw [hpc] at h
          cases h
    · rw [hfin]
      exact List.mem_append_right _ (List.mem_singleton_self _)
  · refine Or.inr ⟨hpc, ?_⟩
    rcases h.finishes with ⟨hrun, -, hlive⟩ | ⟨hpc', -, -, -⟩
    · exact ⟨hlive.trans hl, hrun, by cases h <;> rfl⟩
    · exact absurd hpc' hpc

end Step

/-! ## 3. The device -/

/-- A step of the workload task at this position. -/
def Action.isStepOf (i : Nat) : Action → Bool
  | .task j _ => decide (j = i)
  | _ => false

/-- The run `n` is recorded. -/
def Device.Recorded (d : Device) (n : Nat) : Prop := ∃ r, (n, r) ∈ d.shared.finished

/-- The worker at position `i`, of the run `n`, has to end and has not yet. -/
def Device.Ending (d : Device) (i n : Nat) : Prop :=
  ∃ t, d.tasks[i]? = some t ∧ t.born = n ∧ t.pc.live = true ∧
    t.Due d.shared.clock d.shared.run.abortRequested

/-- How many of its steps the worker at position `i` has left at most. -/
def Device.stepsLeft (i : Nat) (d : Device) : Nat :=
  match d.tasks[i]? with
  | some t => t.pc.left d.shared.run.abortRequested
  | none => 0

section Run

variable {B : Boot} {i n : Nat}

theorem Device.stepsLeft_eq {d : Device} {t : Task} (h : d.tasks[i]? = some t) :
    d.stepsLeft i = t.pc.left d.shared.run.abortRequested := by
  unfold Device.stepsLeft
  rw [h]

/-- A record stays. -/
theorem recorded_stable {d d' : Device} {a : Action} (h : DeviceStep B d a d')
    (hr : d.Recorded n) : d'.Recorded n := by
  obtain ⟨r, hr⟩ := hr
  cases h with
  | task ht hs =>
      rcases hs.finishes with ⟨-, hf, -⟩ | ⟨-, -, -, hf⟩
      · refine ⟨r, ?_⟩
        show (n, r) ∈ Shared.finished _
        rw [hf]
        exact hr
      · refine ⟨r, ?_⟩
        show (n, r) ∈ Shared.finished _
        rw [hf]
        exact List.mem_append_left _ hr
  | finishFailed => exact ⟨r, List.mem_append_left _ hr⟩
  | refused | begin | created | notCreated | abortRefused | abort | mainNumber | mainBuild
  | mainInsert | startHttp | startFailed | tick | radio => exact ⟨r, hr⟩

/-- A step that leaves the worker alone leaves it its steps. -/
theorem Device.Ending.frame {d d' : Device} {t : Task} (ht : d.tasks[i]? = some t)
    (ht' : d'.tasks[i]? = some t) (hb : t.born = n) (hl : t.pc.live = true)
    (hd : t.Due d.shared.clock d.shared.run.abortRequested)
    (hc : d.shared.clock ≤ d'.shared.clock)
    (ha : d'.shared.run.abortRequested = d.shared.run.abortRequested ∨
      d'.shared.run.abortRequested = true) :
    d'.Ending i n ∧ d'.stepsLeft i ≤ d.stepsLeft i := by
  rw [Device.stepsLeft_eq ht, Device.stepsLeft_eq ht']
  rcases ha with ha | ha
  · exact ⟨⟨t, ht', hb, hl, hd.mono hc fun h => ha.trans h⟩, by rw [ha]⟩
  · exact ⟨⟨t, ht', hb, hl, hd.mono hc fun _ => ha⟩, by rw [ha]; exact Task.left_raise hd⟩

/-- **The bounded response of a worker that has to end.** -/
theorem ending_responds (B : Boot) (i n : Nat) :
    Responds (device B) (Action.isStepOf i) (fun d => d.Recorded n)
      (fun d => Reach (device B) Always d ∧ d.Ending i n) (Device.stepsLeft i) where
  stable d a d' hr hs := recorded_stable (step_cases hs).2 hr
  pos d := by
    rintro ⟨-, t, ht, -, hl, -⟩
    rw [Device.stepsLeft_eq ht]
    exact TaskPc.left_pos _ hl
  step d a d' := by
    rintro ⟨hr, t, ht, hb, hl, hd⟩ hs
    have hr' : Reach (device B) Always d' := .step hr trivial hs
    have I := deviceInv_reach hr
    have hmem := List.mem_of_getElem? ht
    have hact := (I.owner.worker t hmem hl).1
    have hno := I.owner.not_both hmem hl
    -- a step that is not the worker's costs nothing
    have other : Action.isStepOf i a = false → d'.Ending i n ∧ d'.stepsLeft i ≤ d.stepsLeft i →
        d'.Recorded n ∨ (Reach (device B) Always d' ∧ d'.Ending i n) ∧
          d'.stepsLeft i + (if Action.isStepOf i a then 1 else 0) ≤ d.stepsLeft i := by
      intro ha he
      rw [ha]
      exact Or.inr ⟨⟨hr', he.1⟩, he.2⟩
    cases (step_cases hs).2 with
    | @task j ret u u' s' hu hstep =>
        by_cases hj : j = i
        · subst hj
          cases ht.symm.trans hu
          have hlen := (List.getElem?_eq_some_iff.mp ht).1
          have hset : (d.tasks.set j u')[j]? = some u' := List.getElem?_set_self hlen
          rcases hstep.finish_or hl with ⟨-, hrec⟩ | ⟨hne, hlive, hrun, hclock⟩
          · exact Or.inl ⟨s'.run, hb ▸ hrec⟩
          · obtain ⟨hd', hlt⟩ := (hstep.left hl hd).resolve_left hne
            refine Or.inr ⟨⟨hr', u', hset, hstep.born.trans hb, hlive, ?_⟩, ?_⟩
            · show u'.Due s'.clock s'.run.abortRequested
              rw [hrun, hclock]
              exact hd'
            · rw [Device.stepsLeft_eq ht, Device.stepsLeft_eq hset]
              show u'.pc.left s'.run.abortRequested + _ ≤ _
              rw [hrun, show Action.isStepOf j (.task j ret) = true from decide_eq_true rfl]
              exact hlt
        · refine other (decide_eq_false hj) ?_
          have hne : u.pc.live = false := by
            cases hlu : u.pc.live with
            | false => rfl
            | true =>
                have e := I.owner.live_unique (List.mem_of_getElem? hu) hmem hlu hl
                subst e
                exact absurd ((List.getElem?_inj (List.getElem?_eq_some_iff.mp hu).1
                  (I.owner.nodup.of_map _)).mp (hu.trans ht.symm)) hj
          rcases hstep.finishes with ⟨hrun, -, -⟩ | ⟨hpc, -, -, -⟩
          · have hclock : s'.clock = d.shared.clock := by cases hstep <;> rfl
            refine Device.Ending.frame ht ?_ hb hl hd ?_ (Or.inl ?_)
            · show (d.tasks.set j u')[i]? = some t
              rw [List.getElem?_set_ne hj]
              exact ht
            · exact hclock ▸ le_refl _
            · show s'.run.abortRequested = _
              rw [hrun]
          · rw [hpc] at hne
            cases hne
    | begin hh hreq hfree =>
        rw [hact] at hfree
        cases hfree
    | created hh =>
        rw [hh] at hno
        cases hno
    | notCreated hh =>
        rw [hh] at hno
        cases hno
    | finishFailed hh =>
        rw [hh] at hno
        cases hno
    | abort => exact other rfl (Device.Ending.frame ht ht hb hl hd (le_refl _) (Or.inr rfl))
    | tick => exact other rfl (Device.Ending.frame ht ht hb hl hd (Nat.le_add_right _ _) (Or.inl rfl))
    | refused | abortRefused | mainNumber | mainBuild | mainInsert | startHttp | startFailed
    | radio => exact other rfl (Device.Ending.frame ht ht hb hl hd (le_refl _) (Or.inl rfl))

/-- With the flag up every worker has to end. -/
theorem Task.due_of_abort {now : Nat} {t : Task} : t.Due now true := by
  unfold Task.Due
  cases t.pc with
  | copy => rfl
  | emit k stage => cases k <;> trivial
  | work w => exact Or.inl rfl
  | _ => trivial

/-- A worker that has not recorded its run can always take a step. -/
theorem taskStep_isSome (B : Boot) (s : Shared) {t : Task} (ret : Int) (hl : t.pc.live = true) :
    (taskStep B s t ret).isSome = true := by
  unfold taskStep
  cases hpc : t.pc with
  | emit k stage => cases stage <;> rfl
  | work w =>
      dsimp only
      cases workStep B.board (s.seen ret) w <;> rfl
  | faultTest =>
      dsimp only
      split <;> rfl
  | copy | choose | finish => rfl
  | rebootTest | markMagic | markRunId | delay | restart | deleted =>
      rw [hpc] at hl
      cases hl

/-- **A run that has to end is recorded within sixteen steps of its worker**: from the acceptance of
    an abort on, or from the moment the clock reaches the deadline of the workload function, in
    every interleaving and with every outcome of the calls, either the record is there, or the
    worker has made fewer than sixteen steps and, unless the device has restarted, can make the
    next. -/
theorem recorded_within {d d' : Device} (h : Reach (device B) Always d) {t : Task}
    (ht : d.tasks[i]? = some t) (hl : t.pc.live = true)
    (hd : d.shared.run.abortRequested = true ∨
      ∃ w dl, t.pc = .work w ∧ w.deadline? = some dl ∧ dl ≤ d.shared.clock)
    {actions : List Action} (hx : (device B).exec d actions = some d') :
    d'.Recorded t.born ∨ actions.countP (Action.isStepOf i) < 16 ∧
      (d'.shared.rebooted = none → ∀ ret, ((device B).step d' (.task i ret)).isSome = true) := by
  have hdue : t.Due d.shared.clock d.shared.run.abortRequested := by
    rcases hd with ha | ⟨w, dl, hpc, hdl, hle⟩
    · rw [ha]
      exact Task.due_of_abort
    · unfold Task.Due
      rw [hpc]
      exact Or.inr (Or.inl ⟨dl, hdl, hle⟩)
  have R := ending_responds B i t.born
  have hI : Reach (device B) Always d ∧ d.Ending i t.born := ⟨h, t, ht, rfl, hl, hdue⟩
  refine (R.exec hI hx).imp_right fun ⟨hI', hμ⟩ => ⟨?_, fun hre ret => ?_⟩
  · have hpos := R.pos d' hI'
    have hle : d.stepsLeft i ≤ 16 := by
      rw [Device.stepsLeft_eq ht]
      exact TaskPc.left_le _ _
    omega
  · obtain ⟨-, u, hu, -, lu, -⟩ := hI'
    show (step B d' (.task i ret)).isSome = true
    unfold step
    rw [hre]
    simp only [Option.isSome_none, Bool.false_eq_true, if_false, hu, Option.isSome_map]
    exact taskStep_isSome B d'.shared ret lu

set_option maxRecDepth 4000 in
/-- An idle run aborted in front of its first look at the flag: sixteen steps later at most its
    record is there. -/
theorem recorded_within_idle :
    ∃ d d', Reach (device benchBoot) Always d ∧ d.shared.run.state = .aborting ∧
      (device benchBoot).exec d (List.replicate 16 firstTask) = some d' ∧ d'.Recorded 0 := by
  have h := benchRun_reach ([.runsPost (bodyOf .idle), .createTask true, firstAbort]) (by decide)
  obtain ⟨d', hx⟩ := Option.isSome_iff_exists.mp (show ((device benchBoot).exec
    (benchRun ([.runsPost (bodyOf .idle), .createTask true, firstAbort]))
    (List.replicate 16 firstTask)).isSome = true by decide)
  refine ⟨_, d', h, by decide, hx, ?_⟩
  refine (recorded_within (i := 0) h rfl (by decide) (Or.inl (by decide)) hx).resolve_right ?_
  rintro ⟨hlt, -⟩
  exact absurd hlt (by decide)

end Run

end DragonBench
