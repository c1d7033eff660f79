/-
  File:      DragonBench/Verdicts.lean
  Subject:   WHAT A RECORDED RESULT SAYS: `pass` that the run lasted as long as it was asked to,
             `aborted` whenever a call of `should_abort` said so, `fail` that none did.

  The workload functions leave their loops at the deadline, at a raised flag or at a failed
  operation, and the result is chosen later from a read of its own. Two facts join them: while a
  run is active its flag never falls back, and `WorkInv` (Workload.lean) tells which exits can
  return true.

  * `TaskVerdict` -- what holds of the worker of the current run, for a start time, a clock and a
    flag; `TaskVerdict.mono` -- time and the flag only grow;
  * `TaskStep.verdict` -- a step of the worker keeps it;
  * `VerdictInv` -- the invariant over the workers and the records;
  * **`recorded_verdict`** -- what every record says.
-/
import DragonBench.Abort

namespace DragonBench

open Transition

/-! ## 1. The worker of the current run -/

/-- **What is known of a worker** whose run started at `started`. -/
structure TaskVerdict (started now : Nat) (abort : Bool) (t : Task) : Prop where
  polled : t.pc.chosen = false → true ∈ t.polls → abort = true
  aborted : t.pc.chosen = true → true ∈ t.polls → t.result = .aborted
  work : ∀ w, t.pc = .work w → WorkInv started t.run.request.durationMs now abort w
  returned : t.pc = .choose → t.ok = true →
    started + t.run.request.durationMs ≤ now ∨ abort = true
  passed : t.pc.chosen = true → t.result = .pass → started + t.run.request.durationMs ≤ now

/-- Time passing and the flag being set keep what is known. -/
theorem TaskVerdict.mono {started now now' : Nat} {abort abort' : Bool} {t : Task}
    (V : TaskVerdict started now abort t) (hn : now ≤ now')
    (ha : abort = true → abort' = true) : TaskVerdict started now' abort' t where
  polled hc hp := ha (V.polled hc hp)
  aborted := V.aborted
  work w hw := workInv_mono hn ha (V.work w hw)
  returned hc hok := (V.returned hc hok).imp (fun h => le_trans h hn) ha
  passed hc hr := le_trans (V.passed hc hr) hn

section Step

variable {B : Boot} {s s' : Shared} {t t' : Task}

theorem true_mem_pollsAfter {w : Work} {abort : Bool} (h : true ∈ t.pollsAfter w abort) :
    true ∈ t.polls ∨ abort = true := by
  unfold Task.pollsAfter at h
  split at h
  · rcases List.mem_append.mp h with h | h
    · exact Or.inl h
    · exact Or.inr (List.mem_singleton.mp h).symm
  · exact Or.inl h

/-- A step that neither chooses nor works keeps what is known. -/
theorem TaskVerdict.frame {started now : Nat} {abort : Bool}
    (V : TaskVerdict started now abort t) (hc : t'.pc.chosen = t.pc.chosen)
    (hp : t'.polls = t.polls) (hr : t'.result = t.result)
    (hd : t.pc.chosen = true → t'.run = t.run) (hw : ∀ w, t'.pc ≠ .work w)
    (hch : t'.pc ≠ .choose) : TaskVerdict started now abort t' where
  polled h hm := V.polled (hc ▸ h) (hp ▸ hm)
  aborted h hm := by
    rw [hr]
    exact V.aborted (hc ▸ h) (hp ▸ hm)
  work w e := absurd e (hw w)
  returned e := absurd e hch
  passed h e := by
    rw [hd (hc ▸ h)]
    exact V.passed (hc ▸ h) (hr ▸ e)

/-- **A step of the worker keeps what is known of it.** -/
theorem TaskStep.verdict (h : TaskStep B s t s' t') {started : Nat} (hs : started ≤ s.clock)
    (V : TaskVerdict started s.clock s.run.abortRequested t) :
    TaskVerdict started s.clock s.run.abortRequested t' := by
  cases h with
  | @number k hpc | @build k _ hpc =>
      refine V.frame ?_ rfl rfl (fun _ => rfl) (fun w => TaskPc.noConfusion) TaskPc.noConfusion
      rw [hpc]
      cases k <;> rfl
  | @insert k e hpc =>
      cases k with
      | phaseStart =>
          refine ⟨fun _ hp => V.polled (by rw [hpc]; rfl) hp, fun hc => Bool.noConfusion hc,
            fun w hw => ?_, fun hc => TaskPc.noConfusion hc, fun hc => Bool.noConfusion hc⟩
          cases hw
          exact workInv_start _ _ _ _ _
      | fault | phaseEnd =>
          exact V.frame (by rw [hpc]; rfl) rfl rfl (fun _ => rfl) (fun w => TaskPc.noConfusion)
            TaskPc.noConfusion
      | runComplete =>
          rcases afterEmit_runComplete B t with e | e <;> rw [e] <;>
            exact V.frame (by rw [hpc]; rfl) rfl rfl (fun _ => rfl)
              (fun w => TaskPc.noConfusion) TaskPc.noConfusion
  | @more w w' ret hpc hw =>
      have hc : t.pc.chosen = false := by rw [hpc]; rfl
      refine ⟨fun _ hp => ?_, fun hc' => Bool.noConfusion hc', fun w'' e => ?_,
        fun hc' => TaskPc.noConfusion hc', fun hc' => Bool.noConfusion hc'⟩
      · exact (true_mem_pollsAfter hp).elim (V.polled hc) id
      · cases e
        have hinv := workStep_inv B.board (e := s.seen ret) hs (V.work w hpc)
        rw [hw] at hinv
        exact hinv
  | @done w ret ok a b hpc hw =>
      have hc : t.pc.chosen = false := by rw [hpc]; rfl
      refine ⟨fun _ hp => ?_, fun hc' => Bool.noConfusion hc', fun w'' e => TaskPc.noConfusion e,
        fun _ => ?_, fun hc' => Bool.noConfusion hc'⟩
      · exact (true_mem_pollsAfter hp).elim (V.polled hc) id
      · have hinv := workStep_inv B.board (e := s.seen ret) hs (V.work w hpc)
        rw [hw] at hinv
        exact hinv
  | choose hpc =>
      have hc : t.pc.chosen = false := by rw [hpc]; rfl
      have hch := chosen_behind_choose t.ok
      obtain ⟨hwork, hchoose⟩ := TaskPc.behind_of_chosen hch
      refine ⟨fun hc' => ?_, fun _ hp => ?_, fun w e => absurd e (hwork w),
        fun e => absurd e hchoose, fun _ hr => ?_⟩
      · rw [hch] at hc'
        cases hc'
      · have hflag : s.run.abortRequested = true := by
          rcases List.mem_append.mp hp with hp | hp
          · exact V.polled hc hp
          · exact (List.mem_singleton.mp hp).symm
        show t.verdict s.run.abortRequested = .aborted
        rw [hflag]
        rfl
      · obtain ⟨hf, hok⟩ := Task.verdict_eq_pass hr
        rcases V.returned hpc hok with hle | ha
        · exact hle
        · rw [hf] at ha
          cases ha
  | copy hpc =>
      refine V.frame (by rw [hpc]; rfl) rfl rfl (fun hc => ?_) (fun w => TaskPc.noConfusion)
        TaskPc.noConfusion
      rw [hpc] at hc
      cases hc
  | noFault hpc | fault hpc | finish hpc | noReboot hpc | reboot hpc | markMagic hpc
  | markRunId hpc | delay hpc | restart hpc =>
      exact V.frame (by rw [hpc]; rfl) rfl rfl (fun _ => rfl) (fun w => TaskPc.noConfusion)
        TaskPc.noConfusion

end Step

/-! ## 2. The invariant -/

/-- **The verdict invariant.** -/
structure VerdictInv (d : Device) : Prop where
  started : d.shared.run.startedMs ≤ d.shared.clock
  live : ∀ t ∈ d.tasks, t.pc.live = true →
    TaskVerdict d.shared.run.startedMs d.shared.clock d.shared.run.abortRequested t
  dead : ∀ t ∈ d.tasks, t.pc.live = false → true ∈ t.polls → t.result = .aborted
  records : ∀ n r, (n, r) ∈ d.shared.finished → r.result = Verdict.pass.text →
    ∃ p, d.accepted[n]? = some p ∧ r.startedMs + p.2.durationMs ≤ r.endedMs

section Inv

variable {B : Boot}

theorem taskVerdict_fresh (started now : Nat) (abort : Bool) (n : Nat) :
    TaskVerdict started now abort (.fresh n) where
  polled _ hp := absurd hp List.not_mem_nil
  aborted hc := Bool.noConfusion hc
  work _ hw := TaskPc.noConfusion hw
  returned hc := TaskPc.noConfusion hc
  passed hc := Bool.noConfusion hc

theorem VerdictInv.step_task {d : Device} {s' : Shared} {t t' : Task} {i : Nat}
    (I : DeviceInv d) (V : VerdictInv d) (ht : d.tasks[i]? = some t)
    (h : TaskStep B d.shared t s' t') :
    VerdictInv { d with shared := s', tasks := d.tasks.set i t' } := by
  have hmem := List.mem_of_getElem? ht
  have hset := fun u => KeyedList.mem_set_iff I.owner.nodup ht h.born (b := u)
  have hclock : s'.clock = d.shared.clock := by cases h <;> rfl
  rcases h.finishes with ⟨hrun, hfin, hlive⟩ | ⟨hpc, hdead, hrun, hfin⟩
  · refine ⟨?_, fun u hu lu => ?_, fun u hu du hp => ?_, ?_⟩
    · rw [hrun, hclock]
      exact V.started
    · rw [hrun, hclock]
      rcases (hset u).mp hu with rfl | ⟨hu, -⟩
      · exact h.verdict V.started (V.live t hmem (hlive ▸ lu))
      · exact V.live u hu lu
    · rcases (hset u).mp hu with rfl | ⟨hu, -⟩
      · have hd : t.pc.live = false := hlive ▸ du
        obtain ⟨-, -, hres, -, -, -, hpolls⟩ := h.keeps (TaskPc.chosen_of_dead hd)
        rw [hres]
        exact V.dead t hmem hd (hpolls ▸ hp)
      · exact V.dead u hu du hp
    · rw [hfin]
      exact V.records
  · -- the worker records its result
    have hc : t.pc.chosen = true := by rw [hpc]; rfl
    have lt : t.pc.live = true := by rw [hpc]; rfl
    have hV := V.live t hmem lt
    refine ⟨?_, fun u hu lu => ?_, fun u hu du hp => ?_, fun n r hr hres => ?_⟩
    · rw [hrun, hclock]
      exact V.started
    · rcases (hset u).mp hu with rfl | ⟨hu, hk⟩
      · rw [hdead] at lu
        cases lu
      · exact absurd (congrArg Task.born (I.owner.live_unique hu hmem lu lt)) hk
    · rcases (hset u).mp hu with rfl | ⟨hu, -⟩
      · obtain ⟨-, -, hres, -, -, -, hpolls⟩ := h.keeps hc
        rw [hres]
        exact hV.aborted hc (hpolls ▸ hp)
      · exact V.dead u hu du hp
    · rw [hfin] at hr
      rcases List.mem_append.mp hr with hr | hr
      · exact V.records n r hr hres
      · rw [List.mem_singleton] at hr
        cases hr
        have hpass : t.result = .pass := by
          refine Verdict.text_injective ?_
          rw [← dbRunFinish_text d.shared.run t.result d.shared.clock, ← hrun]
          exact hres
        obtain ⟨p, hp, -, hreq⟩ := I.owner.copied t hmem (by rw [hpc]; exact TaskPc.noConfusion)
        refine ⟨p, hp, ?_⟩
        rw [hrun, ← hreq]
        exact hV.passed hc hpass

theorem verdictInv_step {d d' : Device} {a : Action} (I : DeviceInv d) (V : VerdictInv d)
    (h : DeviceStep B d a d') : VerdictInv d' := by
  cases h with
  | @begin body request hh hr hs =>
      refine ⟨le_refl _, fun t ht lt => ?_, V.dead, fun n r hr hres => ?_⟩
      · have ha := (I.owner.worker t ht lt).1
        rw [hs] at ha
        cases ha
      · obtain ⟨p, hp, hle⟩ := V.records n r hr hres
        refine ⟨p, ?_, hle⟩
        obtain ⟨hn, -⟩ := List.getElem?_eq_some_iff.mp hp
        exact (List.getElem?_append_left hn).trans hp
  | created hh =>
      refine ⟨V.started, fun t ht lt => ?_, fun t ht dt hp => ?_, V.records⟩
      · rcases List.mem_append.mp ht with ht | ht
        · exact V.live t ht lt
        · rw [List.mem_singleton] at ht
          subst ht
          exact taskVerdict_fresh _ _ _ _
      · rcases List.mem_append.mp ht with ht | ht
        · exact V.dead t ht dt hp
        · rw [List.mem_singleton] at ht
          subst ht
          cases dt
  | finishFailed hh =>
      refine ⟨V.started, V.live, V.dead, fun n r hr hres => ?_⟩
      rcases List.mem_append.mp hr with hr | hr
      · exact V.records n r hr hres
      · rw [List.mem_singleton] at hr
        cases hr
        exact absurd hres (by rw [dbRunFinish_text]; decide)
  | abort hh hs hid =>
      exact ⟨V.started, fun t ht lt => (V.live t ht lt).mono (le_refl _) fun _ => rfl, V.dead,
        V.records⟩
  | task ht hs => exact V.step_task I ht hs
  | tick =>
      exact ⟨Nat.le_add_right_of_le V.started,
        fun t ht lt => (V.live t ht lt).mono (Nat.le_add_right _ _) id, V.dead, V.records⟩
  | refused | notCreated | abortRefused | mainNumber | mainBuild | mainInsert | startHttp
  | startFailed | radio => exact ⟨V.started, V.live, V.dead, V.records⟩

theorem verdictInv_reach {C : Device → Action → Prop} {d : Device} (h : Reach (device B) C d) :
    VerdictInv d := by
  refine device_reach ?_ ?_ h
  · intro marker
    exact ⟨le_refl _, fun t ht => absurd ht List.not_mem_nil,
      fun t ht => absurd ht List.not_mem_nil, fun n r hr => absurd hr List.not_mem_nil⟩
  · intro s a s' hr V _ _ hs
    exact verdictInv_step (deviceInv_reach hr) V hs

/-! ## 3. The records -/

/-- The record of a run one of whose polls was true. -/
theorem record_aborted {d : Device} (h : Reach (device B) Always d) {r : DbRun} {t : Task}
    (ht : t ∈ d.tasks) (hr : (t.born, r) ∈ d.shared.finished) (hp : true ∈ t.polls) :
    r.result = Verdict.aborted.text := by
  rcases (historyInv_reach h).finished _ hr with ⟨u, hu, hbu, hdead, hres⟩ | ⟨hnone, -⟩
  · have e := KeyedList.eq_of_key (deviceInv_reach h).owner.nodup hu ht hbu
    subst e
    rw [hres, (verdictInv_reach h).dead u hu hdead hp]
  · exact absurd rfl (hnone t ht)

/-- **What a record says**, for every workload, every schedule of aborts and every outcome of the
    calls: `pass` means that the run lasted its duration; a call of `should_abort` that returned
    true means `aborted`; `fail` means that none did up to the choice of the result. -/
theorem recorded_verdict {d : Device} (h : Reach (device B) Always d) {n : Nat} {r : DbRun}
    (hr : (n, r) ∈ d.shared.finished) :
    (r.result = Verdict.pass.text →
      ∃ p, d.accepted[n]? = some p ∧ r.startedMs + p.2.durationMs ≤ r.endedMs) ∧
    ∀ t ∈ d.tasks, t.born = n →
      (true ∈ t.polls → r.result = Verdict.aborted.text) ∧
      (r.result = Verdict.fail.text → true ∉ t.polls) := by
  refine ⟨(verdictInv_reach h).records n r hr, fun t ht hb => ?_⟩
  subst hb
  refine ⟨record_aborted h ht hr, fun hf hp => ?_⟩
  rw [record_aborted h ht hr hp] at hf
  exact absurd hf (by decide)

set_option maxRecDepth 4000 in
/-- The record of an idle run that nobody aborts. -/
theorem recorded_verdict_idle :
    ∃ d, Reach (device benchBoot) Always d ∧
      ∃ r, (0, r) ∈ d.shared.finished ∧ r.result = Verdict.pass.text ∧
        ∃ p, d.accepted[0]? = some p ∧ r.startedMs + p.2.durationMs ≤ r.endedMs := by
  have h := benchRun_reach (waited .idle ++ List.replicate 5 firstTask) (by decide)
  have hm := List.mem_of_getElem? (i := 0)
    (l := (benchRun (waited .idle ++ List.replicate 5 firstTask)).shared.finished) rfl
  exact ⟨_, h, _, hm, by decide, (recorded_verdict h hm).1 (by decide)⟩

end Inv

end DragonBench
