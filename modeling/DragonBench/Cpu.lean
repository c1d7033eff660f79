/-
  File:      DragonBench/Cpu.lean
  Subject:   THE ACCUMULATOR OF `run_cpu`: it is never zero at the end of a block.

  `run_cpu` returns false when its accumulator is zero, which would turn a healthy run into `fail`.
  The accumulator is looked at only behind whole blocks of 4096 steps, and there it goes round five
  values.

  * `cpuBlock_period` -- five blocks lead back to the start;
  * `cpu_accumulator_ne_zero` -- so no block, however late, ends at zero;
  * `Computing`, `computing`, `ComputingInv` -- `run_cpu` beside its blocks and its polls;
  * **`cpu_stress_returns_true`** -- a run that sees no abort returns true;
  * **`cpu_stress_never_fails`** -- at the device, no worker of `CPU_STRESS` records `fail`.
-/
import Mathlib.Dynamics.PeriodicPts.Defs
import DragonBench.Verdicts

namespace DragonBench

open Transition

/-! ## 1. The period -/

/-- `volatile uint32_t x = 0x12345678U`. -/
def cpuSeed : BitVec 32 := 0x12345678

/-- The five values at the ends of the blocks. -/
theorem cpuBlock_values :
    cpuBlock cpuSeed = 0x15a271bc ∧ cpuBlock 0x15a271bc = 0x2046339e ∧
      cpuBlock 0x2046339e = 0x7211e1f8 ∧ cpuBlock 0x7211e1f8 = 0xa7f7c60b ∧
      cpuBlock 0xa7f7c60b = cpuSeed := by decide +kernel

/-- **Five blocks lead back to the start.** -/
theorem cpuBlock_period : Function.IsPeriodicPt cpuBlock 5 cpuSeed := by
  obtain ⟨h0, h1, h2, h3, h4⟩ := cpuBlock_values
  show cpuBlock (cpuBlock (cpuBlock (cpuBlock (cpuBlock cpuSeed)))) = cpuSeed
  rw [h0, h1, h2, h3, h4]

/-- **No number of blocks leads to zero.** -/
theorem cpu_accumulator_ne_zero (n : Nat) : cpuBlock^[n] cpuSeed ≠ 0 := by
  obtain ⟨h0, h1, h2, h3, -⟩ := cpuBlock_values
  have hlt : n % 5 < 5 := Nat.mod_lt n (by omega)
  rw [← cpuBlock_period.iterate_mod_apply]
  generalize n % 5 = k at hlt ⊢
  match k, hlt with
  | 0, _ => decide
  | 1, _ =>
      show cpuBlock cpuSeed ≠ 0
      rw [h0]
      decide
  | 2, _ =>
      show cpuBlock (cpuBlock cpuSeed) ≠ 0
      rw [h0, h1]
      decide
  | 3, _ =>
      show cpuBlock (cpuBlock (cpuBlock cpuSeed)) ≠ 0
      rw [h0, h1, h2]
      decide
  | 4, _ =>
      show cpuBlock (cpuBlock (cpuBlock (cpuBlock cpuSeed))) ≠ 0
      rw [h0, h1, h2, h3]
      decide

/-! ## 2. The runs of `run_cpu` -/

/-- `run_cpu` with the number of blocks completed and the answers of `should_abort`. -/
structure Computing where
  stand : Outcome CpuPc
  blocks : Nat
  polls : List Bool

/-- The inner loop of 4096 steps is at a control point of its own. -/
def CpuPc.burns : CpuPc → Bool
  | .burn _ => true
  | _ => false

/-- One step of `run_cpu`. -/
def Computing.next (s : Computing) (e : Seen) (pc : CpuPc) : Computing where
  stand := runCpu e pc
  blocks := if pc.burns then s.blocks + 1 else s.blocks
  polls := if (Work.cpu pc).polls then s.polls ++ [e.abort] else s.polls

/-- **`run_cpu(duration_ms)`**, whatever the clock and the flag say. -/
def computing (durationMs : Nat) : System Computing Seen where
  init s := s = ⟨.more (.enter durationMs), 0, []⟩
  step s e :=
    match s.stand with
    | .more pc => some (s.next e pc)
    | .done _ _ _ => none

theorem computing_step {d : Nat} {s s' : Computing} {e : Seen}
    (h : (computing d).step s e = some s') : ∃ pc, s.stand = .more pc ∧ s' = s.next e pc := by
  simp only [computing] at h
  split at h
  · rename_i pc hpc
    cases h
    exact ⟨pc, hpc, rfl⟩
  · cases h

/-- The locals after `blocks` blocks. -/
structure Computed (l : CpuLocals) (blocks : Nat) : Prop where
  x : l.x = cpuBlock^[blocks] cpuSeed
  operations : l.operations = 4096 * blocks

/-- **What is known at a control point**: at the return, the value is the opposite of the last
    answer of `should_abort`. -/
def ComputingInv (s : Computing) : Prop :=
  match s.stand with
  | .more (.enter _) => s.blocks = 0
  | .more (.test l) | .more (.poll l) | .more (.burn l) | .more (.exit l) => Computed l s.blocks
  | .done ok a _ => a = 4096 * s.blocks ∧ ∃ aborted, aborted ∈ s.polls ∧ ok = !aborted

/-- What `run_cpu` returns is the opposite of its last poll. -/
theorem Computed.exit {l : CpuLocals} {blocks : Nat} (h : Computed l blocks) (e : Seen) :
    runCpu e (.exit l) = .done (!e.abort) (4096 * blocks) 0 := by
  have hx : decide (l.x ≠ 0) = true := by
    rw [h.x]
    exact decide_eq_true (cpu_accumulator_ne_zero blocks)
  simp only [runCpu, hx, Bool.and_true, h.operations]

theorem Computed.burn {l : CpuLocals} {blocks : Nat} (h : Computed l blocks) :
    Computed { l with x := cpuBlock l.x, operations := l.operations + 4096 } (blocks + 1) where
  x := by
    rw [Function.iterate_succ_apply', ← h.x]
  operations := by
    rw [Nat.mul_succ, ← h.operations]

/-- **A step of `run_cpu` keeps the account.** -/
theorem computingInv_step {s : Computing} {e : Seen} {pc : CpuPc} (hs : s.stand = .more pc)
    (I : ComputingInv s) : ComputingInv (s.next e pc) := by
  unfold ComputingInv at I
  rw [hs] at I
  cases pc with
  | enter d =>
      have hb : s.blocks = 0 := I
      show Computed _ s.blocks
      rw [hb]
      exact ⟨rfl, rfl⟩
  | test l | poll l =>
      unfold Computing.next
      simp only [runCpu]
      split <;> exact I
  | burn l =>
      have h : Computed l s.blocks := I
      exact h.burn
  | exit l =>
      have h : Computed l s.blocks := I
      unfold Computing.next
      rw [h.exit]
      exact ⟨rfl, e.abort, List.mem_append_right _ (List.mem_singleton_self _), rfl⟩

theorem computingInv_reach {d : Nat} {s : Computing} (h : Reach (computing d) Always s) :
    ComputingInv s := by
  refine h.inv ?_ ?_
  · intro s hs
    cases hs
    exact rfl
  · intro s e s' _ I _ hs
    obtain ⟨pc, hpc, rfl⟩ := computing_step hs
    exact computingInv_step hpc I

/-- A run that has returned false has seen an abort. -/
theorem polled_of_returned {d : Nat} {s : Computing} (h : Reach (computing d) Always s)
    {ok : Bool} {a b : Nat} (hs : s.stand = .done ok a b) (hok : ok = false) : true ∈ s.polls := by
  have I := computingInv_reach h
  unfold ComputingInv at I
  rw [hs] at I
  obtain ⟨-, aborted, hm, rfl⟩ := I
  cases aborted with
  | true => exact hm
  | false => cases hok

/-- **No block ends at zero, and a run that sees no abort returns true.** -/
theorem cpu_stress_returns_true :
    (∀ n, cpuBlock^[n] cpuSeed ≠ 0) ∧
      ∀ durationMs s, Reach (computing durationMs) Always s →
        ∀ ok a b, s.stand = .done ok a b → true ∉ s.polls → ok = true := by
  refine ⟨cpu_accumulator_ne_zero, ?_⟩
  intro durationMs s h ok a b hs hp
  cases ok with
  | true => rfl
  | false => exact absurd (polled_of_returned h hs rfl) hp

section Witness

/-- Two blocks and the end of the loop. -/
def twoBlocksBurnt : List Seen :=
  (List.replicate 7 0 ++ List.replicate 2 30000).map fun now => ⟨now, false, false, 0, 0⟩

theorem cpu_stress_returns_true_two_blocks :
    ∃ s, Reach (computing 30000) Always s ∧ s.blocks = 2 ∧ s.stand = .done true 8192 0 := by
  have hx : ((computing 30000).exec ⟨.more (.enter 30000), 0, []⟩ twoBlocksBurnt).isSome = true := by
    decide +kernel
  have h := reach_runEnd (.start rfl) hx
  have hs : ∃ ok, ((computing 30000).runEnd ⟨.more (.enter 30000), 0, []⟩ twoBlocksBurnt).stand =
      .done ok 8192 0 := ⟨_, rfl⟩
  obtain ⟨ok, hs⟩ := hs
  have hok := cpu_stress_returns_true.2 30000 _ h ok _ _ hs (by decide +kernel)
  subst hok
  exact ⟨_, h, rfl, hs⟩

end Witness

/-! ## 3. At the device -/

section Device

variable {B : Boot}

/-- **What is known of a worker of `CPU_STRESS`.** -/
structure CpuTask (t : Task) : Prop where
  work : ∀ w, t.pc = .work w → ∃ s pc, Reach (computing t.run.request.durationMs) Always s ∧
    s.stand = .more pc ∧ w = .cpu pc ∧ ∀ b ∈ s.polls, b ∈ t.polls
  returned : t.pc = .choose → t.ok = false → true ∈ t.polls
  chosen : t.pc.chosen = true → t.result = .fail → true ∈ t.polls

/-- A worker that neither works nor has returned. -/
theorem CpuTask.silent {t : Task} (hw : ∀ w, t.pc ≠ .work w) (hc : t.pc ≠ .choose)
    (hch : t.pc.chosen = false) : CpuTask t where
  work w e := absurd e (hw w)
  returned e := absurd e hc
  chosen e := by
    rw [hch] at e
    cases e

/-- The polls of the worker are those of its function. -/
theorem mem_polls_next {t : Task} {s : Computing} {e : Seen} {pc : CpuPc}
    (h : ∀ b ∈ s.polls, b ∈ t.polls) :
    ∀ b ∈ (s.next e pc).polls, b ∈ t.pollsAfter (.cpu pc) e.abort := by
  unfold Computing.next Task.pollsAfter
  intro b hb
  dsimp only at hb
  split at hb
  · rename_i hp
    rw [if_pos hp]
    rcases List.mem_append.mp hb with hb | hb
    · exact List.mem_append_left _ (h b hb)
    · exact List.mem_append_right _ hb
  · rename_i hp
    rw [if_neg hp]
    exact h b hb

/-- A run of `run_cpu` goes on from a control point, whatever is seen there. -/
theorem computing_next {d : Nat} {s : Computing} (h : Reach (computing d) Always s) {pc : CpuPc}
    (hs : s.stand = .more pc) (e : Seen) : Reach (computing d) Always (s.next e pc) := by
  have hstep : (computing d).step s e = some (s.next e pc) := by
    simp only [computing, hs]
  exact h.step trivial hstep

/-- **A step of a worker keeps it.** -/
theorem cpuTask_step {s s' : Shared} {t t' : Task} (h : TaskStep B s t s' t')
    (I : t.run.request.workload = .cpuStress → CpuTask t)
    (hw : t'.run.request.workload = .cpuStress) : CpuTask t' := by
  cases hc : t.pc.chosen with
  | true =>
      obtain ⟨hc', hrun, hres, -, -, -, hpolls⟩ := h.keeps hc
      rw [hrun] at hw
      refine ⟨fun w e => ?_, fun e => ?_, fun _ hr => ?_⟩
      · rw [e] at hc'
        cases hc'
      · rw [e] at hc'
        cases hc'
      · rw [hpolls]
        exact (I hw).chosen hc (hres ▸ hr)
  | false =>
      cases h with
      | copy => exact .silent (fun w => TaskPc.noConfusion) TaskPc.noConfusion rfl
      | @number k hpc | @build k _ hpc =>
          rw [hpc] at hc
          refine .silent (fun w => TaskPc.noConfusion) TaskPc.noConfusion ?_
          cases k <;> first | rfl | cases hc
      | @insert k e hpc =>
          rw [hpc] at hc
          cases k with
          | phaseStart =>
              refine ⟨fun w e => ?_, TaskPc.noConfusion, Bool.noConfusion⟩
              cases e
              refine ⟨_, .enter t.run.request.durationMs, .start rfl, rfl, ?_, ?_⟩
              · unfold workStart
                rw [hw]
              · exact fun b hb => absurd hb List.not_mem_nil
          | fault | phaseEnd | runComplete => cases hc
      | @more w w' ret hpc hstep =>
          obtain ⟨c, pc, hr, hs, rfl, hpolls⟩ := (I hw).work w hpc
          obtain ⟨pc', hstep', rfl⟩ := Outcome.map_eq_more hstep
          refine ⟨fun w e => ?_, TaskPc.noConfusion, Bool.noConfusion⟩
          cases e
          exact ⟨_, pc', computing_next hr hs (s.seen ret), hstep', rfl, mem_polls_next hpolls⟩
      | @done w ret ok a b hpc hstep =>
          obtain ⟨c, pc, hr, hs, rfl, hpolls⟩ := (I hw).work w hpc
          have hdone := Outcome.map_eq_done hstep
          refine ⟨fun w => TaskPc.noConfusion, fun _ hok => ?_, Bool.noConfusion⟩
          -- the return value is false, so a poll of the function was true
          exact mem_polls_next hpolls true
            (polled_of_returned (computing_next hr hs (s.seen ret)) hdone hok)
      | choose hpc =>
          obtain ⟨hne, hne'⟩ := TaskPc.behind_of_chosen (chosen_behind_choose t.ok)
          refine ⟨fun w e => absurd e (hne w), fun e => absurd e hne',
            fun _ hr => List.mem_append_left _ ?_⟩
          exact (I hw).returned hpc (Task.verdict_eq_fail hr).2
      | noFault hpc | fault hpc | finish hpc | noReboot hpc | reboot hpc | markMagic hpc
      | markRunId hpc | delay hpc | restart hpc =>
          rw [hpc] at hc
          cases hc

theorem cpuTask_reach {C : Device → Action → Prop} {d : Device} (h : Reach (device B) C d) :
    ∀ t ∈ d.tasks, t.run.request.workload = .cpuStress → CpuTask t := by
  refine task_reach ?_ ?_ h
  · intro n _
    exact .silent (fun w => TaskPc.noConfusion) TaskPc.noConfusion rfl
  · intro s t s' t' I hs hw
    exact cpuTask_step hs I hw

/-- **No worker of `CPU_STRESS` records `fail`**: its record says `pass`, or `aborted` when one of
    its polls saw the flag. -/
theorem cpu_stress_never_fails {d : Device} (h : Reach (device B) Always d) {t : Task}
    (ht : t ∈ d.tasks) (hw : t.run.request.workload = .cpuStress) {r : DbRun}
    (hr : (t.born, r) ∈ d.shared.finished) : r.result ≠ Verdict.fail.text := by
  intro hf
  rcases (historyInv_reach h).finished _ hr with ⟨u, hu, hb, hdead, hres⟩ | ⟨hnone, -⟩
  · have e := KeyedList.eq_of_key (deviceInv_reach h).owner.nodup hu ht hb
    subst e
    have hfail : u.result = .fail := Verdict.text_injective (hres.symm.trans hf)
    have hp := (cpuTask_reach h u hu hw).chosen (TaskPc.chosen_of_dead hdead) hfail
    exact Verdict.noConfusion
      (Verdict.text_injective ((record_aborted h hu hr hp).symm.trans hf))
  · exact hnone t ht rfl

end Device

end DragonBench
