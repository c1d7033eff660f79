/-
  File:      DragonBench/Faults.lean
  Subject:   WHICH RUNS REPORT A FAULT: a `phase_end` that says `fail` comes behind one `fault`
             event, the others behind none, as long as no abort is accepted between the two
             reads of the flag.

  The worker reads the flag for its result and once more to decide about the fault event. An abort
  accepted between the two leaves the result `fail` and suppresses the event.

  * `faultsOf`, `Task.owes` -- the fault events of a run, and how many its worker stands for;
  * `HidesFault` -- the step that opens the defect;
  * `FaultInv` -- what the events so far and the workers have to do with each other;
  * **`fault_before_phase_end`** -- the law, in every interleaving without such a step;
  * **`fault_suppressed`** -- an interleaving with one.
-/
import DragonBench.Abort

namespace DragonBench

open Transition

/-! ## 1. The events of a run -/

/-- A fault event of the run `n`. -/
def Insertion.isFault (n : Nat) (i : Insertion) : Bool :=
  decide (i.source = some n) && decide (i.event.args.event = .fault)

/-- How many fault events the run `n` has among these. -/
def faultsOf (n : Nat) (l : List Insertion) : Nat := l.countP (Insertion.isFault n)

/-- **The law of the fault events**: every `phase_end` that says `fail` has exactly one fault event
    of its run in front of it, every one that says `pass` or `aborted` none. -/
def FaultsAnnounced (l : List Insertion) : Prop :=
  ∀ pre i post, l = pre ++ i :: post → ∀ n, i.source = some n → i.event.args.event = .phaseEnd →
    (i.event.args.result = some Verdict.fail.text → faultsOf n pre = 1) ∧
      (i.event.args.result = some Verdict.pass.text ∨
        i.event.args.result = some Verdict.aborted.text → faultsOf n pre = 0)

theorem faultsOf_append (n : Nat) (l : List Insertion) (i : Insertion) :
    faultsOf n (l ++ [i]) = faultsOf n l + if i.isFault n then 1 else 0 := by
  unfold faultsOf
  rw [List.countP_append, List.countP_singleton]

/-- An event of another run does not count. -/
theorem faultsOf_append_other {n : Nat} {l : List Insertion} {i : Insertion}
    (h : i.source ≠ some n) : faultsOf n (l ++ [i]) = faultsOf n l := by
  have hf : i.isFault n = false := by
    unfold Insertion.isFault
    rw [decide_eq_false h, Bool.false_and]
  rw [faultsOf_append, hf]
  rfl

/-- Neither does an event of another kind. -/
theorem faultsOf_append_kind {n : Nat} {l : List Insertion} {i : Insertion}
    (h : i.event.args.event ≠ .fault) : faultsOf n (l ++ [i]) = faultsOf n l := by
  have hf : i.isFault n = false := by
    unfold Insertion.isFault
    rw [decide_eq_false h, Bool.and_false]
  rw [faultsOf_append, hf]
  rfl

/-- The law speaks about the last event and those before it. -/
theorem FaultsAnnounced.append {l : List Insertion} {i : Insertion} (h : FaultsAnnounced l)
    (hi : ∀ n, i.source = some n → i.event.args.event = .phaseEnd →
      (i.event.args.result = some Verdict.fail.text → faultsOf n l = 1) ∧
        (i.event.args.result = some Verdict.pass.text ∨
          i.event.args.result = some Verdict.aborted.text → faultsOf n l = 0)) :
    FaultsAnnounced (l ++ [i]) := by
  intro pre j post e
  rcases List.eq_nil_or_concat post with rfl | ⟨post, k, rfl⟩
  · obtain ⟨hl, hi'⟩ := List.append_inj' e rfl
    cases hl
    cases hi'
    exact hi
  · rw [List.concat_eq_append, ← List.cons_append, ← List.append_assoc] at e
    obtain ⟨hl, -⟩ := List.append_inj' e rfl
    exact h pre j post hl

/-- Events that are no `phase_end` fall under it only as predecessors. -/
theorem FaultsAnnounced.append_other {l : List Insertion} {i : Insertion} (h : FaultsAnnounced l)
    (hi : i.source = none ∨ i.event.args.event ≠ .phaseEnd) : FaultsAnnounced (l ++ [i]) := by
  refine h.append fun n hn hk => ?_
  rcases hi with hi | hi
  · rw [hi] at hn
    cases hn
  · exact absurd hk hi

/-! ## 2. What a worker stands for -/

/-- In front of the fault event, or of the decision that there is none. -/
def TaskPc.unfaulted : TaskPc → Bool
  | .copy | .emit .phaseStart _ | .work _ | .choose | .faultTest | .emit .fault _ => true
  | _ => false

/-- How many fault events the run of this worker has, as long as its `phase_end` is to come. -/
def Task.owes (t : Task) : Option Nat :=
  if t.pc.unfaulted then some 0
  else
    match t.pc with
    | .emit .phaseEnd _ => some (if t.result = .fail then 1 else 0)
    | _ => none

theorem Task.owes_zero {t : Task} (h : t.pc.unfaulted = true) : t.owes = some 0 := if_pos h

theorem Task.owes_end {t : Task} {stage : EmitStage} (h : t.pc = .emit .phaseEnd stage) :
    t.owes = some (if t.result = .fail then 1 else 0) := by
  unfold Task.owes
  rw [h]
  rfl

theorem Task.owes_none {t : Task} (h : t.pc.unfaulted = false)
    (hp : ∀ stage, t.pc ≠ .emit .phaseEnd stage) : t.owes = none := by
  unfold Task.owes
  rw [h]
  cases hpc : t.pc with
  | emit k stage =>
      cases k with
      | phaseEnd => exact absurd hpc (hp stage)
      | phaseStart | fault | runComplete => rfl
  | _ => rfl

/-- **The step that opens the defect**: `db_run_abort` will accept, and the worker of the run
    stands between its two reads of the flag. -/
def HidesFault (d : Device) : Action → Prop
  | .abortPost uri => pathRunId uri true = some d.shared.run.runId ∧
    d.shared.run.state = .running ∧ ∃ t ∈ d.tasks, t.pc = .faultTest
  | _ => False

instance (d : Device) : (a : Action) → Decidable (HidesFault d a)
  | .abortPost uri => inferInstanceAs (Decidable (pathRunId uri true = some d.shared.run.runId ∧
      d.shared.run.state = .running ∧ ∃ t ∈ d.tasks, t.pc = .faultTest))
  | .runsPost _ | .createTask _ | .finishFailed | .task _ _ | .main _ | .tick _ | .radio _ _ =>
    isFalse id

/-- No abort is accepted between the two reads. -/
def FaultsUnhidden (d : Device) (a : Action) : Prop := ¬ HidesFault d a

instance (d : Device) (a : Action) : Decidable (FaultsUnhidden d a) :=
  inferInstanceAs (Decidable (¬ HidesFault d a))

/-- **The fault invariant.** -/
structure FaultInv (d : Device) : Prop where
  owed : ∀ t ∈ d.tasks, ∀ k, t.owes = some k → faultsOf t.born d.shared.inserted = k
  heard : ∀ t ∈ d.tasks, t.pc = .faultTest → t.born ∈ d.aborted → t.result = .aborted
  failed : ∀ t ∈ d.tasks, ∀ stage, t.pc = .emit .fault stage → t.result = .fail
  announced : FaultsAnnounced d.shared.inserted

section Inv

variable {B : Boot}

/-- The test for a fault is reached by workloads that returned false. -/
theorem task_faultTest {C : Device → Action → Prop} {d : Device} (h : Reach (device B) C d) :
    ∀ t ∈ d.tasks, t.pc = .faultTest → t.ok = false := by
  refine task_reach (P := fun t => t.pc = .faultTest → t.ok = false) ?_ ?_ h
  · intro n e
    cases e
  · intro s t s' t' _ hs e
    cases hs with
    | choose hpc =>
        dsimp only at e
        by_cases hok : t.ok = true
        · rw [if_pos hok] at e
          cases e
        · exact Bool.eq_false_iff.mpr hok
    | insert => cases afterEvent_of_eq e
    | copy | number | build | more | done | noFault | fault | finish | noReboot | reboot
    | markMagic | markRunId | delay | restart => cases e

/-- A workload that returned true does not fail. -/
theorem Task.verdict_ne_fail {t : Task} (h : t.ok = true) (abort : Bool) :
    t.verdict abort ≠ .fail := by
  unfold Task.verdict
  rw [if_pos h]
  split <;> exact Verdict.noConfusion

/-- **What a step of a worker inserts, and what it then stands for.** -/
theorem TaskStep.owes {s s' : Shared} {t t' : Task} (h : TaskStep B s t s' t')
    (hargs : ∀ k e, t.pc = .emit k (.insert e) → e.args = taskArgs t k)
    (heard : t.pc = .faultTest → s.run.abortRequested = true → t.result = .aborted)
    (hfail : ∀ stage, t.pc = .emit .fault stage → t.result = .fail)
    (howes : ∀ k, t.owes = some k → faultsOf t.born s.inserted = k) :
    (∀ k, t'.owes = some k → faultsOf t.born s'.inserted = k) ∧
      (FaultsAnnounced s.inserted → FaultsAnnounced s'.inserted) := by
  -- up to the fault event the run has none
  have zero : t.pc.unfaulted = true → faultsOf t.born s.inserted = 0 :=
    fun hu => howes 0 (Task.owes_zero hu)
  cases h with
  | copy h | more h | done h | fault h =>
      refine ⟨fun k hk => ?_, id⟩
      cases (Task.owes_zero rfl).symm.trans hk
      exact zero (by rw [h]; rfl)
  | @number k h | @build k n h =>
      refine ⟨fun m hm => howes m ?_, id⟩
      rw [← hm]
      unfold Task.owes
      rw [h]
      cases k <;> rfl
  | choose h =>
      have h0 := zero (by rw [h]; rfl)
      refine ⟨fun k hk => ?_, id⟩
      by_cases hok : t.ok = true
      · cases (Task.owes_end (if_pos hok)).symm.trans hk
        exact h0.trans (if_neg (Task.verdict_ne_fail hok _)).symm
      · have hpc : (if t.ok then TaskPc.emit .phaseEnd .number else .faultTest) = .faultTest :=
          if_neg hok
        cases (Task.owes_zero (by dsimp only; rw [hpc]; rfl)).symm.trans hk
        exact h0
  | noFault h ha =>
      refine ⟨fun k hk => ?_, id⟩
      cases (Task.owes_end rfl).symm.trans hk
      refine (zero (by rw [h]; rfl)).trans (if_neg ?_).symm
      dsimp only
      rw [heard h ha]
      exact Verdict.noConfusion
  | @insert k e h =>
      have he := hargs k e h
      have hkind : e.args.event = k.kind := by
        rw [he]
        rfl
      cases k with
      | phaseStart =>
          refine ⟨fun m hm => ?_, fun hl => hl.append_other (Or.inr ?_)⟩
          · cases (Task.owes_zero rfl).symm.trans hm
            rw [faultsOf_append_kind (by rw [hkind]; exact EventKind.noConfusion)]
            exact zero (by rw [h]; rfl)
          · rw [hkind]
            exact EventKind.noConfusion
      | fault =>
          refine ⟨fun m hm => ?_, fun hl => hl.append_other (Or.inr ?_)⟩
          · -- the one fault event of the run
            have hf : Insertion.isFault t.born ⟨some t.born, s.eventSeq, e⟩ = true := by
              exact Bool.and_eq_true_iff.mpr ⟨decide_eq_true rfl, decide_eq_true hkind⟩
            cases (Task.owes_end rfl).symm.trans hm
            rw [faultsOf_append, zero (by rw [h]; rfl), hf]
            exact (if_pos (hfail _ h)).symm
          · rw [hkind]
            exact EventKind.noConfusion
      | phaseEnd =>
          have hnone : ∀ m, Task.owes { t with pc := afterEmit B t .phaseEnd } ≠ some m :=
            fun m hm => by cases hm
          refine ⟨fun m hm => absurd hm (hnone m), fun hl => hl.append fun n hn _ => ?_⟩
          -- the event says the result the worker stands for
          cases hn
          have hres : e.args.result = some t.result.text := by
            rw [he]
            rfl
          rw [hres, howes _ (Task.owes_end h)]
          refine ⟨fun e' => ?_, fun e' => ?_⟩
          · exact if_pos (Verdict.text_injective (Option.some.inj e'))
          · refine if_neg fun hf => ?_
            rw [hf] at e'
            rcases e' with e' | e' <;> cases Verdict.text_injective (Option.some.inj e')
      | runComplete =>
          have hnone : Task.owes { t with pc := afterEmit B t .runComplete } = none := by
            refine Task.owes_none ?_ fun stage hs => ?_
            · rcases afterEmit_runComplete B t with ha | ha <;> dsimp only <;> rw [ha] <;> rfl
            · rcases afterEmit_runComplete B t with ha | ha <;> dsimp only at hs <;>
                rw [ha] at hs <;> cases hs
          refine ⟨fun m hm => ?_, fun hl => hl.append_other (Or.inr ?_)⟩
          · rw [hnone] at hm
            cases hm
          · rw [hkind]
            exact EventKind.noConfusion
  | finish h | noReboot h | reboot h | markMagic h | markRunId h | delay h | restart h =>
      exact ⟨fun k hk => (by cases hk), id⟩

/-- A worker's insertion is one of its own run. -/
theorem TaskStep.faults_other {s s' : Shared} {t t' : Task} (h : TaskStep B s t s' t') {n : Nat}
    (hn : t.born ≠ n) : faultsOf n s'.inserted = faultsOf n s.inserted := by
  cases h with
  | insert => exact faultsOf_append_other fun e => hn (Option.some.inj e)
  | copy | number | build | more | done | choose | noFault | fault | finish | noReboot | reboot
  | markMagic | markRunId | delay | restart => rfl

/-- The test for a fault is reached by choosing a result. -/
theorem TaskStep.to_faultTest {s s' : Shared} {t t' : Task} (h : TaskStep B s t s' t')
    (hpc : t'.pc = .faultTest) : t.pc = .choose ∧ t'.result = t.verdict s.run.abortRequested := by
  cases h with
  | choose h => exact ⟨h, rfl⟩
  | insert => cases afterEvent_of_eq hpc
  | copy | number | build | more | done | noFault | fault | finish | noReboot | reboot
  | markMagic | markRunId | delay | restart => cases hpc

/-- The fault event is reached by a test that finds no abort. -/
theorem TaskStep.to_fault {s s' : Shared} {t t' : Task} {stage : EmitStage}
    (h : TaskStep B s t s' t') (hpc : t'.pc = .emit .fault stage) :
    (∃ stage', t.pc = .emit .fault stage') ∧ t'.result = t.result ∨
      t.pc = .faultTest ∧ s.run.abortRequested = false ∧ t'.result = t.result := by
  cases h with
  | fault h ha => exact Or.inr ⟨h, ha, rfl⟩
  | number h | build h =>
      cases hpc
      exact Or.inl ⟨⟨_, h⟩, rfl⟩
  | choose h =>
      dsimp only at hpc
      split at hpc <;> cases hpc
  | insert => cases afterEvent_of_eq hpc
  | copy | more | done | noFault | finish | noReboot | reboot | markMagic | markRunId | delay
  | restart => cases hpc

theorem faultInv_step {C : Device → Action → Prop} {d d' : Device} {a : Action}
    (hr : Reach (device B) C d)
    (I : FaultInv d) (hc : FaultsUnhidden d a) (h : DeviceStep B d a d') : FaultInv d' := by
  have D := deviceInv_reach hr
  have F := flagInv_reach hr
  cases h with
  | created hh =>
      have ho : d.http.owns = true := by rw [hh]; rfl
      have hlt := (D.owner.handler ho).2.2
      refine ⟨fun t ht k hk => ?_, fun t ht hpc hn => ?_, fun t ht stage hpc => ?_, I.announced⟩
      · rcases List.mem_append.mp ht with ht | ht
        · exact I.owed t ht k hk
        · -- nobody has spoken for the new run yet
          rw [List.mem_singleton] at ht
          subst ht
          cases hk
          refine List.countP_eq_zero.mpr fun i hi hf => ?_
          have hsrc := of_decide_eq_true (Bool.and_eq_true_iff.mp hf).1
          obtain ⟨u, hu, hb, -⟩ := (historyInv_reach hr).said i hi _ hsrc
          exact absurd hb (Nat.ne_of_lt (hlt u hu))
      · rcases List.mem_append.mp ht with ht | ht
        · exact I.heard t ht hpc hn
        · rw [List.mem_singleton] at ht
          subst ht
          cases hpc
      · rcases List.mem_append.mp ht with ht | ht
        · exact I.failed t ht stage hpc
        · rw [List.mem_singleton] at ht
          subst ht
          cases hpc
  | abort hh hs hid =>
      refine ⟨I.owed, fun t ht hpc hn => ?_, I.failed, I.announced⟩
      exact absurd ⟨hid, hs, t, ht, hpc⟩ hc
  | @task i ret t t' s' ht hs =>
      have hmem := List.mem_of_getElem? ht
      have hset := fun u => KeyedList.mem_set_iff D.owner.nodup ht hs.born (b := u)
      -- a worker in front of its finish works on the current run
      have hcurrent : t.pc.live = true → (d.shared.run.abortRequested = true ↔ t.born ∈ d.aborted) := by
        intro hl
        rw [(D.owner.worker t hmem hl).2]
        exact F.flag
      have hflag : t.pc = .faultTest → d.shared.run.abortRequested = true → t.result = .aborted :=
        fun hpc hf => I.heard t hmem hpc ((hcurrent (by rw [hpc]; rfl)).mp hf)
      obtain ⟨howes, hann⟩ := hs.owes (task_built hr t hmem) hflag (I.failed t hmem)
        (I.owed t hmem)
      refine ⟨fun u hu k hk => ?_, fun u hu hpc hn => ?_, fun u hu stage hpc => ?_,
        hann I.announced⟩
      · rcases (hset u).mp hu with rfl | ⟨hu, hne⟩
        · rw [hs.born]
          exact howes k hk
        · rw [hs.faults_other hne.symm]
          exact I.owed u hu k hk
      · rcases (hset u).mp hu with rfl | ⟨hu, -⟩
        · rw [hs.born] at hn
          obtain ⟨hpc', hres⟩ := hs.to_faultTest hpc
          rw [hres, (hcurrent (by rw [hpc']; rfl)).mpr hn]
          rfl
        · exact I.heard u hu hpc hn
      · rcases (hset u).mp hu with rfl | ⟨hu, -⟩
        · rcases hs.to_fault hpc with ⟨⟨stage', hpc'⟩, hres⟩ | ⟨hpc', hf, hres⟩
          · rw [hres]
            exact I.failed t hmem stage' hpc'
          · rw [hres]
            rcases resultInv_reach hr t hmem (by rw [hpc']; rfl) with ⟨-, hn⟩ | hv
            · rw [(hcurrent (by rw [hpc']; rfl)).mpr hn] at hf
              cases hf
            · rw [hv, Task.verdict, task_faultTest hr t hmem hpc']
              rfl
        · exact I.failed u hu stage hpc
  | refused | begin | notCreated | finishFailed | abortRefused | mainNumber | mainBuild
  | startHttp | startFailed | tick | radio =>
      exact ⟨I.owed, I.heard, I.failed, I.announced⟩
  | mainInsert hm =>
      refine ⟨fun t ht k hk => ?_, I.heard, I.failed, I.announced.append_other (Or.inl rfl)⟩
      exact (faultsOf_append_other fun e => (by cases e)).trans (I.owed t ht k hk)

theorem faultInv_reach {d : Device} (h : Reach (device B) FaultsUnhidden d) : FaultInv d := by
  refine device_reach ?_ ?_ h
  · intro marker
    refine ⟨fun t ht => absurd ht List.not_mem_nil, fun t ht => absurd ht List.not_mem_nil,
      fun t ht => absurd ht List.not_mem_nil, fun pre i post e => ?_⟩
    exact absurd e.symm (List.append_ne_nil_of_right_ne_nil _ (List.cons_ne_nil _ _))
  · intro s a s' hr I hc _ hs
    exact faultInv_step hr I hc hs

/-- **A failed run reports one fault before its `phase_end`, the others none**, in every
    interleaving in which no abort is accepted between the two reads of the flag. -/
theorem fault_before_phase_end {d : Device} (h : Reach (device B) FaultsUnhidden d) :
    FaultsAnnounced d.shared.inserted :=
  (faultInv_reach h).announced

/-- A run that fails at once: nobody is connected. -/
def failedRun : List Action :=
  [.runsPost (bodyOf .wifiAssociatedIdle), .createTask true] ++ List.replicate 7 firstTask

set_option maxRecDepth 4000 in
/-- Its events, when nobody aborts it: the fault stands in front of the `phase_end`. -/
theorem fault_before_phase_end_failed :
    ∃ d, Reach (device benchBoot) FaultsUnhidden d ∧
      (d.shared.inserted.map fun i => i.event.args.event) =
        [.boot, .resetReason, .phaseStart, .fault, .phaseEnd] ∧
      FaultsAnnounced d.shared.inserted :=
  have h := benchRunIf_reach (C := FaultsUnhidden) (failedRun ++ List.replicate 7 firstTask)
    (by decide)
  ⟨_, h, by decide, fault_before_phase_end h⟩

set_option maxRecDepth 4000 in
/-- **A fault can be suppressed**: aborted behind the choice of its result, the run ends with
    `fail` and has no fault event. -/
theorem fault_suppressed :
    ∃ d, Reach (device benchBoot) Always d ∧ d.aborted = [0] ∧
      (d.shared.inserted.map fun i => i.event.args.event) =
        [.boot, .resetReason, .phaseStart, .phaseEnd] ∧
      ¬ FaultsAnnounced d.shared.inserted := by
  have h := benchRun_reach (failedRun ++ firstAbort :: List.replicate 4 firstTask) (by decide)
  refine ⟨_, h, by decide, by decide, fun hl => ?_⟩
  have hone := (hl _ _ [] (List.take_append_getLast _ (by decide)).symm 0 (by decide) (by decide)).1
    (by decide)
  exact absurd hone (by decide)

end Inv

end DragonBench
