/-
  File:      DragonBench/Reports.lean
  Subject:   WHAT THE EVENTS OF ONE RUN SAY TOGETHER: one request, one result, one pair of counters,
             and times that bracket the run.

  The events of a run are built at four places of `workload_task`, each from the locals and the
  clock of that moment, and `db_run_finish` records a fifth view of the same run. In between, other
  tasks insert their events, aborts are accepted and time passes.

  * `reports` -- the insertions of one run; `Stamped` -- an event built with a time, whether it is
    inserted already or about to be;
  * `TaskStep.stamps` -- a step stamps at most one event, with the time of the clock;
  * `FaultSaid`, **`reports_agree`** -- the events of a run and its record agree;
  * `TimeInv` -- the invariant of the times; `TimedStep` -- a step of a worker in a state that has
    it, with a lemma for each of its parts;
  * **`run_timeline`** -- the times of the events of a run are in order, the recorded start and end
    lie where they belong, and the two phase events of a passed run are at least its duration apart.
-/
import DragonBench.Faults
import DragonBench.Verdicts

namespace DragonBench

open Transition

/-! ## 1. The reports of a run -/

/-- The insertions of one run, oldest first. -/
def Shared.reports (s : Shared) (n : Nat) : List Insertion :=
  s.inserted.filter fun i => decide (i.source = some n)

theorem Shared.mem_reports {s : Shared} {n : Nat} {i : Insertion} :
    i ∈ s.reports n ↔ i ∈ s.inserted ∧ i.source = some n := by
  unfold Shared.reports
  rw [List.mem_filter, decide_eq_true_iff]

/-- The reports of a run after an insertion. -/
theorem Shared.reports_insert {s s' : Shared} {i : Insertion} (hs : s'.inserted = s.inserted ++ [i])
    (n : Nat) : s'.reports n = s.reports n ++ if i.source = some n then [i] else [] := by
  unfold Shared.reports
  rw [hs, List.filter_append, List.filter_singleton]
  by_cases h : i.source = some n
  · rw [if_pos h, decide_eq_true h, cond_true]
  · rw [if_neg h, decide_eq_false h, cond_false]

/-- The event `k` of the run `n` has been built with the time `u`. -/
def Device.Stamped (d : Device) (n : Nat) (k : RunEvent) (u : Nat) : Prop :=
  (∃ i ∈ d.shared.inserted, i.source = some n ∧ i.event.args.event = k.kind ∧
    i.event.uptimeMs = u) ∨
  ∃ t ∈ d.tasks, t.born = n ∧ ∃ e, t.pc = .emit k (.insert e) ∧ e.uptimeMs = u

theorem RunEvent.kind_injective : Function.Injective RunEvent.kind := by
  intro k l h
  cases k <;> cases l <;> first | rfl | cases h

section Stamp

variable {B : Boot} {d : Device} {s' : Shared} {t t' : Task} {i : Nat}

/-- **What a step of a worker stamps**: nothing new, or the event it builds, with the time of the
    clock. -/
theorem TaskStep.stamps (I : DeviceInv d) (ht : d.tasks[i]? = some t)
    (hb : ∀ k e, t.pc = .emit k (.insert e) → e.args = taskArgs t k)
    (h : TaskStep B d.shared t s' t') {n : Nat} {k : RunEvent} {u : Nat}
    (hs : Device.Stamped { d with shared := s', tasks := d.tasks.set i t' } n k u) :
    d.Stamped n k u ∨ n = t.born ∧ (∃ m, t.pc = .emit k (.build m)) ∧
      u = asDouble d.shared.clock := by
  have hmem := List.mem_of_getElem? ht
  rcases hs with ⟨x, hx, hsrc, hk, hu⟩ | ⟨v, hv, hbv, e, hpc, hu⟩
  · -- an insertion was there before, or the task was about to make it
    rcases h.inserts hb with e' | ⟨k', e', hpc, e'', -⟩
    · rw [show ({ d with shared := s', tasks := _ } : Device).shared.inserted = _ from e'] at hx
      exact Or.inl (Or.inl ⟨x, hx, hsrc, hk, hu⟩)
    · rw [show ({ d with shared := s', tasks := _ } : Device).shared.inserted = _ from e''] at hx
      rcases List.mem_append.mp hx with hx | hx
      · exact Or.inl (Or.inl ⟨x, hx, hsrc, hk, hu⟩)
      · rw [List.mem_singleton] at hx
        subst hx
        have hkk : k' = k := by
          refine RunEvent.kind_injective ?_
          rw [← hk, hb k' e' hpc]
          rfl
        subst hkk
        exact Or.inl (Or.inr ⟨t, hmem, Option.some.inj hsrc, e', hpc, hu⟩)
  · rcases (KeyedList.mem_set_iff I.owner.nodup ht h.born).mp hv with rfl | ⟨hv, -⟩
    · cases h with
      | build hpc' =>
          cases hpc
          exact Or.inr ⟨hbv.symm, ⟨_, hpc'⟩, hu.symm⟩
      | insert => cases afterEvent_of_eq hpc
      | choose hpc' =>
          dsimp only at hpc
          split at hpc <;> cases hpc
      | copy | number | more | done | noFault | fault | finish | noReboot | reboot | markMagic
      | markRunId | delay | restart => cases hpc
    · exact Or.inl (Or.inr ⟨v, hv, hbv, e, hpc, hu⟩)

/-- A stamp belongs to a task that knows its run; all but the first come after the choice of the
    result. -/
theorem Device.Stamped.task (H : HistoryInv d) {n : Nat} {k : RunEvent} {u : Nat}
    (hs : d.Stamped n k u) : ∃ t ∈ d.tasks, t.born = n ∧ t.pc ≠ .copy ∧
      (k = .phaseStart ∨ t.pc.chosen = true) := by
  rcases hs with ⟨x, hx, hsrc, hk, -⟩ | ⟨t, ht, hb, e, hpc, -⟩
  · obtain ⟨t, ht, hb, k', hargs, hc, hk'⟩ := H.said x hx n hsrc
    have hkk : k' = k := by
      refine RunEvent.kind_injective ?_
      rw [← hk, hargs]
      rfl
    subst hkk
    exact ⟨t, ht, hb, hc, hk'⟩
  · refine ⟨t, ht, hb, by rw [hpc]; exact TaskPc.noConfusion, ?_⟩
    rw [hpc]
    cases k with
    | phaseStart => exact Or.inl rfl
    | fault | phaseEnd | runComplete => exact Or.inr rfl

end Stamp

/-! ## 2. The reports agree -/

/-- **Where a fault event stands**: the result of its run is `fail`. -/
structure FaultSaid (d : Device) : Prop where
  inserted : ∀ i ∈ d.shared.inserted, i.event.args.event = .fault → ∀ n, i.source = some n →
    ∃ t ∈ d.tasks, t.born = n ∧ t.pc.chosen = true ∧ t.result = .fail
  pending : ∀ t ∈ d.tasks, ∀ stage, t.pc = .emit .fault stage → t.result = .fail

section Agree

variable {B : Boot}

/-- The fault event is stood for by a run that failed and was not aborted by then. -/
theorem fault_of_test {C : Device → Action → Prop} {d : Device} (h : Reach (device B) C d)
    {t : Task} (ht : t ∈ d.tasks) (hpc : t.pc = .faultTest)
    (ha : d.shared.run.abortRequested = false) : t.result = .fail := by
  have hok := task_faultTest h t ht hpc
  rcases resultInv_reach h t ht (by rw [hpc]; rfl) with ⟨-, hab⟩ | hres
  · -- an abort of this run would still be in the flag
    have hcur : t.born = d.current := ((deviceInv_reach h).owner.worker t ht (by rw [hpc]; rfl)).2
    have hflag := (flagInv_reach h).flag.mpr (hcur ▸ hab)
    rw [ha] at hflag
    cases hflag
  · rw [hres, Task.verdict, hok]
    rfl

theorem faultSaid_step {C : Device → Action → Prop} {d d' : Device} {a : Action}
    (hr : Reach (device B) C d) (F : FaultSaid d) (h : DeviceStep B d a d') : FaultSaid d' := by
  have I := deviceInv_reach hr
  cases h with
  | created hh =>
      refine ⟨fun x hx hk n hn => ?_, fun t ht stage hpc => ?_⟩
      · obtain ⟨t, ht, hs⟩ := F.inserted x hx hk n hn
        exact ⟨t, List.mem_append_left _ ht, hs⟩
      · rcases List.mem_append.mp ht with ht | ht
        · exact F.pending t ht stage hpc
        · rw [List.mem_singleton] at ht
          subst ht
          cases hpc
  | @task i ret t t' s' ht hs =>
      have hmem := List.mem_of_getElem? ht
      have hkeep : t.pc.chosen = true ∧ t.result = .fail →
          t'.pc.chosen = true ∧ t'.result = .fail := by
        intro hc
        obtain ⟨hc', -, hres, -⟩ := hs.keeps hc.1
        exact ⟨hc', hres.trans hc.2⟩
      refine ⟨fun x hx hk n hn => ?_, fun u hu stage hpc => ?_⟩
      · have hold : x ∈ d.shared.inserted → ∃ v ∈ d.tasks.set i t', v.born = n ∧
            v.pc.chosen = true ∧ v.result = .fail := fun hx =>
          KeyedList.exists_set I.owner.nodup ht hs.born
            (P := fun v => v.pc.chosen = true ∧ v.result = .fail) hkeep (F.inserted x hx hk n hn)
        rcases hs.inserts (task_built hr t hmem) with e | ⟨k, e, hpc, e', -⟩
        · exact hold (e ▸ hx)
        · rw [show ({ d with shared := s', tasks := _ } : Device).shared.inserted = _ from e'] at hx
          rcases List.mem_append.mp hx with hx | hx
          · exact hold hx
          · -- the fault event is inserted
            rw [List.mem_singleton] at hx
            subst hx
            have hkk : k = .fault := by
              refine RunEvent.kind_injective ?_
              rw [show RunEvent.fault.kind = EventKind.fault from rfl, ← hk,
                task_built hr t hmem k e hpc]
              rfl
            subst hkk
            obtain ⟨hc, hres⟩ := hkeep ⟨by rw [hpc]; rfl, F.pending t hmem _ hpc⟩
            exact ⟨t', (KeyedList.mem_set_iff I.owner.nodup ht hs.born).mpr (Or.inl rfl),
              hs.born.trans (Option.some.inj hn), hc, hres⟩
      · rcases (KeyedList.mem_set_iff I.owner.nodup ht hs.born).mp hu with rfl | ⟨hu, -⟩
        · rcases hs.to_fault hpc with ⟨⟨stage', hpc'⟩, hres⟩ | ⟨hpc', ha, hres⟩
          · rw [hres]
            exact F.pending t hmem stage' hpc'
          · rw [hres]
            exact fault_of_test hr hmem hpc' ha
        · exact F.pending u hu stage hpc
  | mainInsert hm =>
      refine ⟨fun x hx hk n hn => ?_, F.pending⟩
      rcases List.mem_append.mp hx with hx | hx
      · exact F.inserted x hx hk n hn
      · rw [List.mem_singleton] at hx
        subst hx
        cases hn
  | refused | begin | notCreated | finishFailed | abortRefused | abort | mainNumber | mainBuild
  | startHttp | startFailed | tick | radio => exact ⟨F.inserted, F.pending⟩

theorem faultSaid_reach {C : Device → Action → Prop} {d : Device} (h : Reach (device B) C d) :
    FaultSaid d := by
  refine device_reach ?_ ?_ h
  · intro marker
    exact ⟨fun _ hx => absurd hx List.not_mem_nil, fun _ ht => absurd ht List.not_mem_nil⟩
  · intro s a s' hr F _ _ hs
    exact faultSaid_step hr F hs

/-- **What is said of one run**: by its events, whose request and counters are the same in all of
    them, and by its record. -/
structure ReportsAgree (d : Device) (n : Nat) (v : Verdict) (metrics : CText) : Prop where
  request : ∀ i ∈ d.shared.reports n, ∃ p, d.accepted[n]? = some p ∧
    i.event.args.runId = some p.1 ∧ i.event.args.phase = some (dbWorkloadName p.2.workload) ∧
    i.event.args.parametersJson = some (parametersText p.2)
  start : ∀ i ∈ d.shared.reports n, i.event.args.event = .phaseStart →
    i.event.args.result = none ∧ i.event.args.metricsJson = none
  later : ∀ i ∈ d.shared.reports n, i.event.args.event ≠ .phaseStart →
    i.event.args.result = some v.text ∧ i.event.args.metricsJson = some metrics
  record : ∀ r, (n, r) ∈ d.shared.finished → r.result = v.text

/-- The reports of a run with a task are what that task says. -/
theorem reportsAgree_of_task {d : Device} (h : Reach (device B) Always d) {t : Task}
    (ht : t ∈ d.tasks) : ReportsAgree d t.born t.result (metricsText t.a t.b) := by
  have I := deviceInv_reach h
  have H := historyInv_reach h
  have hsaid : ∀ i ∈ d.shared.reports t.born, t.said i.event.args := by
    intro i hi
    obtain ⟨hi, hn⟩ := Shared.mem_reports.mp hi
    obtain ⟨u, hu, hb, hs⟩ := H.said i hi _ hn
    rw [← KeyedList.eq_of_key I.owner.nodup hu ht hb]
    exact hs
  refine ⟨fun i hi => ?_, fun i hi hk => ?_, fun i hi hk => ?_, fun r hr => ?_⟩
  · obtain ⟨k, hargs, hc, -⟩ := hsaid i hi
    obtain ⟨p, hp, hid, hreq⟩ := I.owner.copied t ht hc
    rw [hargs]
    refine ⟨p, hp, ?_, ?_, ?_⟩
    · rw [← hid]
      rfl
    · rw [← hreq]
      rfl
    · rw [← hreq]
      rfl
  · obtain ⟨k, hargs, -, -⟩ := hsaid i hi
    rw [hargs] at hk ⊢
    cases k with
    | phaseStart => exact ⟨rfl, rfl⟩
    | fault | phaseEnd | runComplete => cases hk
  · obtain ⟨k, hargs, -, -⟩ := hsaid i hi
    rw [hargs]
    cases k with
    | phaseStart => exact absurd (by rw [hargs]; rfl) hk
    | fault =>
        -- a fault event stands only where the result is `fail`
        obtain ⟨hi, hn⟩ := Shared.mem_reports.mp hi
        obtain ⟨u, hu, hb, -, hres⟩ := (faultSaid_reach h).inserted i hi (by rw [hargs]; rfl) _ hn
        have e := KeyedList.eq_of_key I.owner.nodup hu ht hb
        subst e
        rw [hres]
        exact ⟨rfl, rfl⟩
    | phaseEnd | runComplete => exact ⟨rfl, rfl⟩
  · rcases H.finished _ hr with ⟨u, hu, hb, -, hres⟩ | ⟨hnone, -⟩
    · rw [hres, KeyedList.eq_of_key I.owner.nodup hu ht hb]
    · exact absurd rfl (hnone t ht)

/-- Without a task, which was not created or of no run, there is a failed record at most. -/
theorem reportsAgree_of_none {d : Device} (h : Reach (device B) Always d) {n : Nat}
    (hn : ¬ ∃ t ∈ d.tasks, t.born = n) (metrics : CText) : ReportsAgree d n .fail metrics := by
  have H := historyInv_reach h
  have hnone : ∀ i, i ∉ d.shared.reports n := by
    intro i hi
    obtain ⟨hi, hs⟩ := Shared.mem_reports.mp hi
    obtain ⟨u, hu, hb, -⟩ := H.said i hi _ hs
    exact hn ⟨u, hu, hb⟩
  refine ⟨fun i hi => absurd hi (hnone i), fun i hi => absurd hi (hnone i),
    fun i hi => absurd hi (hnone i), fun r hr => ?_⟩
  rcases H.finished _ hr with ⟨u, hu, hb, -⟩ | ⟨-, hres⟩
  · exact absurd ⟨u, hu, hb⟩ hn
  · exact hres

/-- **The reports of a run agree**, in every interleaving: whatever its fault event, its phase end,
    its completion and its record say of the request, the result and the counters is the same. -/
theorem reports_agree {d : Device} (h : Reach (device B) Always d) (n : Nat) :
    ∃ v metrics, ReportsAgree d n v metrics := by
  by_cases ht : ∃ t ∈ d.tasks, t.born = n
  · obtain ⟨t, ht, rfl⟩ := ht
    exact ⟨_, _, reportsAgree_of_task h ht⟩
  · exact ⟨_, [], reportsAgree_of_none h ht []⟩

set_option maxRecDepth 4000 in
/-- The four events of a run that fails at once. -/
theorem reports_agree_failed :
    ∃ d, Reach (device benchBoot) Always d ∧
      ((d.shared.reports 0).map fun i => (i.event.args.event, i.event.args.result)) =
        [(.phaseStart, none), (.fault, some Verdict.fail.text), (.phaseEnd, some Verdict.fail.text),
          (.runComplete, some Verdict.fail.text)] ∧
      ∃ v metrics, ReportsAgree d 0 v metrics := by
  have h := benchRun_reach (failedRun ++ List.replicate 11 firstTask) (by decide)
  exact ⟨_, h, by decide, reports_agree h 0⟩

end Agree

/-! ## 3. The times of a run -/

/-- The clock is one a double holds exactly. -/
def ExactClock (d : Device) (_ : Action) : Prop := d.shared.clock ≤ 2 ^ 53

instance (d : Device) (a : Action) : Decidable (ExactClock d a) :=
  inferInstanceAs (Decidable (d.shared.clock ≤ 2 ^ 53))

/-- **The time invariant**: what the stamps of a run have to do with each other, with the clock and
    with `current_run` or its record. -/
structure TimeInv (d : Device) : Prop where
  past : ∀ n k u, d.Stamped n k u → u ≤ d.shared.clock
  ordered : ∀ n, (d.shared.reports n).Pairwise fun i j => i.event.uptimeMs ≤ j.event.uptimeMs
  pending : ∀ t ∈ d.tasks, ∀ k e, t.pc = .emit k (.insert e) →
    ∀ i ∈ d.shared.reports t.born, i.event.uptimeMs ≤ e.uptimeMs
  live : ∀ t ∈ d.tasks, t.pc.live = true → ∀ k u, d.Stamped t.born k u →
    k ≠ .runComplete ∧ d.shared.run.startedMs ≤ u
  running : ∀ t ∈ d.tasks, t.pc.live = true → ∀ u, d.Stamped t.born .phaseStart u →
    TaskVerdict u d.shared.clock d.shared.run.abortRequested t
  lasted : ∀ t ∈ d.tasks, t.result = .pass → ∀ u v, d.Stamped t.born .phaseStart u →
    d.Stamped t.born .phaseEnd v → u + t.run.request.durationMs ≤ v
  recorded : ∀ n r, (n, r) ∈ d.shared.finished → r.startedMs ≤ r.endedMs ∧
    r.endedMs ≤ d.shared.clock ∧ ∀ k u, d.Stamped n k u → r.startedMs ≤ u ∧
      (k ≠ .runComplete → u ≤ r.endedMs) ∧ (k = .runComplete → r.endedMs ≤ u)

section Times

variable {B : Boot} {d : Device}

/-- In front of the work a worker is what it is from any start time on. -/
theorem TaskVerdict.of_starting {started now started' : Nat} {abort : Bool} {t : Task}
    {stage : EmitStage} (V : TaskVerdict started now abort t)
    (hpc : t.pc = .emit .phaseStart stage) : TaskVerdict started' now abort t where
  polled := V.polled
  aborted := V.aborted
  work w hw := by
    rw [hpc] at hw
    cases hw
  returned hc := by
    rw [hpc] at hc
    cases hc
  passed hc := by
    rw [hpc] at hc
    cases hc

/-- A run without a task has no stamps. -/
theorem HistoryInv.not_stamped (H : HistoryInv d) {n : Nat} (hn : ∀ t ∈ d.tasks, t.born ≠ n)
    {k : RunEvent} {u : Nat} : ¬ d.Stamped n k u := by
  intro hs
  obtain ⟨t, ht, hb, -⟩ := hs.task H
  exact hn t ht hb

/-- An event that a live worker's step builds is one in front of `db_run_finish`. -/
theorem TaskPc.ne_runComplete {k : RunEvent} {m : Nat} {pc : TaskPc} (h : pc = .emit k (.build m))
    (hl : pc.live = true) : k ≠ .runComplete := by
  intro e
  subst e
  rw [h] at hl
  cases hl

/-- A step of a worker, with all that is known of the device in front of it. -/
structure TimedStep (B : Boot) (d : Device) (i : Nat) (t : Task) (s' : Shared) (t' : Task) : Prop where
  inv : DeviceInv d
  history : HistoryInv d
  verdicts : VerdictInv d
  times : TimeInv d
  here : d.tasks[i]? = some t
  built : ∀ k e, t.pc = .emit k (.insert e) → e.args = taskArgs t k
  exact : d.shared.clock ≤ 2 ^ 53
  step : TaskStep B d.shared t s' t'

/-- The device behind it. -/
def Device.stepped (d : Device) (i : Nat) (s' : Shared) (t' : Task) : Device :=
  { d with shared := s', tasks := d.tasks.set i t' }

namespace TimedStep

variable {i : Nat} {t t' v : Task} {s' : Shared} {n : Nat} {k : RunEvent} {u w : Nat}

theorem mem (W : TimedStep B d i t s' t') : t ∈ d.tasks := List.mem_of_getElem? W.here

theorem clock (W : TimedStep B d i t s' t') : s'.clock = d.shared.clock := by cases W.step <;> rfl

theorem mem_stepped (W : TimedStep B d i t s' t') :
    v ∈ (d.stepped i s' t').tasks ↔ v = t' ∨ v ∈ d.tasks ∧ v.born ≠ t.born :=
  KeyedList.mem_set_iff W.inv.owner.nodup W.here W.step.born

/-- **What it stamps**: the event that it builds, with the clock. -/
theorem stamped (W : TimedStep B d i t s' t') (hs : (d.stepped i s' t').Stamped n k u) :
    d.Stamped n k u ∨ n = t.born ∧ (∃ m, t.pc = .emit k (.build m)) ∧ u = d.shared.clock := by
  have hs := W.step.stamps W.inv W.here W.built hs
  rwa [show asDouble d.shared.clock = d.shared.clock from asDouble_of_le W.exact] at hs

/-- A run of another task has the stamps it had. -/
theorem stamped_other (W : TimedStep B d i t s' t') (hne : n ≠ t.born)
    (hs : (d.stepped i s' t').Stamped n k u) : d.Stamped n k u :=
  (W.stamped hs).resolve_right fun h => hne h.1

/-- While this worker is alive, no other is. -/
theorem alone (W : TimedStep B d i t s' t') (lt : t.pc.live = true) (hv : v ∈ d.tasks)
    (hne : v.born ≠ t.born) : v.pc.live = false := by
  refine eq_false_of_ne_true fun lv => ?_
  exact hne (congrArg Task.born (W.inv.owner.live_unique hv W.mem lv lt))

theorem past (W : TimedStep B d i t s' t') (hs : (d.stepped i s' t').Stamped n k u) :
    u ≤ s'.clock := by
  rw [W.clock]
  rcases W.stamped hs with hs | ⟨-, -, rfl⟩
  · exact W.times.past n k u hs
  · exact le_refl _

theorem ordered (W : TimedStep B d i t s' t') (n : Nat) :
    (s'.reports n).Pairwise fun x y => x.event.uptimeMs ≤ y.event.uptimeMs := by
  rcases W.step.inserts W.built with e | ⟨k, e, hpc, e', -⟩
  · unfold Shared.reports
    rw [e]
    exact W.times.ordered n
  · rw [Shared.reports_insert e']
    by_cases hn : some t.born = some n
    · rw [if_pos hn]
      cases hn
      refine List.pairwise_append.mpr ⟨W.times.ordered _, List.pairwise_singleton _ _, ?_⟩
      intro x hx y hy
      rw [List.mem_singleton] at hy
      subst hy
      exact W.times.pending t W.mem k e hpc x hx
    · rw [if_neg hn, List.append_nil]
      exact W.times.ordered n

/-- An event that waits for its insertion was built behind those that are in. -/
theorem pending (W : TimedStep B d i t s' t') (hv : v ∈ (d.stepped i s' t').tasks) {e : Event}
    (hpc : v.pc = .emit k (.insert e)) {x : Insertion} (hx : x ∈ s'.reports v.born) :
    x.event.uptimeMs ≤ e.uptimeMs := by
  rcases W.mem_stepped.mp hv with rfl | ⟨hv, hne⟩
  · cases W.step with
    | @build k' m hpc' =>
        cases hpc
        show x.event.uptimeMs ≤ asDouble d.shared.clock
        rw [asDouble_of_le W.exact]
        obtain ⟨hx, hn⟩ := Shared.mem_reports.mp hx
        obtain ⟨u, hu, hbu, k, hargs, -⟩ := W.history.said x hx _ hn
        exact W.times.past _ k _ (Or.inl ⟨x, hx, hn, by rw [hargs]; rfl, rfl⟩)
    | insert => cases afterEvent_of_eq hpc
    | choose hpc' =>
        dsimp only at hpc
        split at hpc <;> cases hpc
    | copy | number | more | done | noFault | fault | finish | noReboot | reboot | markMagic
    | markRunId | delay | restart => cases hpc
  · have hx' : x ∈ d.shared.reports v.born := by
      rcases W.step.inserts W.built with e | ⟨k', e', -, e'', -⟩
      · unfold Shared.reports at hx
        rwa [e] at hx
      · rw [Shared.reports_insert e'', if_neg fun hn => hne (Option.some.inj hn).symm,
          List.append_nil] at hx
        exact hx
    exact W.times.pending v hv k e hpc x hx'

/-- A live worker has stamped nothing but what stands in front of its completion. -/
theorem live (W : TimedStep B d i t s' t') (hv : v ∈ (d.stepped i s' t').tasks)
    (lv : v.pc.live = true) (hs : (d.stepped i s' t').Stamped v.born k u) :
    k ≠ .runComplete ∧ s'.run.startedMs ≤ u := by
  rcases W.step.finishes with ⟨hrun, -, hlive⟩ | ⟨hpc, hdead, -, -⟩
  · rw [hrun]
    rcases W.mem_stepped.mp hv with rfl | ⟨hv, hne⟩
    · rw [W.step.born] at hs
      have lt : t.pc.live = true := hlive ▸ lv
      rcases W.stamped hs with hs | ⟨-, ⟨m, hpc⟩, rfl⟩
      · exact W.times.live t W.mem lt k u hs
      · exact ⟨TaskPc.ne_runComplete hpc lt, W.verdicts.started⟩
    · exact W.times.live v hv lv k u (W.stamped_other hne hs)
  · rcases W.mem_stepped.mp hv with rfl | ⟨hv, hne⟩
    · rw [hdead] at lv
      cases lv
    · rw [W.alone (by rw [hpc]; rfl) hv hne] at lv
      cases lv

theorem running (W : TimedStep B d i t s' t') (hv : v ∈ (d.stepped i s' t').tasks)
    (lv : v.pc.live = true) (hs : (d.stepped i s' t').Stamped v.born .phaseStart u) :
    TaskVerdict u s'.clock s'.run.abortRequested v := by
  rcases W.step.finishes with ⟨hrun, -, hlive⟩ | ⟨hpc, hdead, -, -⟩
  · rw [hrun, W.clock]
    rcases W.mem_stepped.mp hv with rfl | ⟨hv, hne⟩
    · rw [W.step.born] at hs
      have lt : t.pc.live = true := hlive ▸ lv
      rcases W.stamped hs with hs | ⟨-, ⟨m, hpc⟩, rfl⟩
      · exact W.step.verdict (W.times.past _ _ _ hs) (W.times.running t W.mem lt u hs)
      · exact W.step.verdict (le_refl _) ((W.verdicts.live t W.mem lt).of_starting hpc)
    · exact W.times.running v hv lv u (W.stamped_other hne hs)
  · rcases W.mem_stepped.mp hv with rfl | ⟨hv, hne⟩
    · rw [hdead] at lv
      cases lv
    · rw [W.alone (by rw [hpc]; rfl) hv hne] at lv
      cases lv

/-- A `phase_end` comes behind the choice of the result, and then the task keeps what it knows. -/
theorem passed_later (W : TimedStep B d i t s' t') (hres : t'.result = .pass)
    (hu : (d.stepped i s' t').Stamped t.born .phaseStart u)
    (hw : (d.stepped i s' t').Stamped t.born .phaseEnd w) (hch : t.pc.chosen = true)
    (hns : ∀ m, t.pc ≠ .emit .phaseStart (.build m)) :
    u + t'.run.request.durationMs ≤ w := by
  obtain ⟨-, hrun, hres', -⟩ := W.step.keeps hch
  have hu' : d.Stamped t.born .phaseStart u := by
    rcases W.stamped hu with hu | ⟨-, ⟨m, hpc⟩, -⟩
    · exact hu
    · exact absurd hpc (hns m)
  rw [hrun]
  rcases W.stamped hw with hw | ⟨-, ⟨m, hpc⟩, rfl⟩
  · exact W.times.lasted t W.mem (hres' ▸ hres) u w hu' hw
  · have lt : t.pc.live = true := by rw [hpc]; rfl
    exact (W.times.running t W.mem lt u hu').passed hch (hres' ▸ hres)

theorem lasted (W : TimedStep B d i t s' t') (hv : v ∈ (d.stepped i s' t').tasks)
    (hres : v.result = .pass) (hu : (d.stepped i s' t').Stamped v.born .phaseStart u)
    (hw : (d.stepped i s' t').Stamped v.born .phaseEnd w) :
    u + v.run.request.durationMs ≤ w := by
  rcases W.mem_stepped.mp hv with rfl | ⟨hv, hne⟩
  · rw [W.step.born] at hu hw
    rcases W.stamped hw with hw' | ⟨-, ⟨m, hpc⟩, -⟩
    · obtain ⟨z, hz, hbz, -, hk⟩ := hw'.task W.history
      have e := KeyedList.eq_of_key W.inv.owner.nodup hz W.mem hbz
      subst e
      refine W.passed_later hres hu hw (hk.resolve_left RunEvent.noConfusion) fun m hpc => ?_
      have hch := hk.resolve_left RunEvent.noConfusion
      rw [hpc] at hch
      cases hch
    · refine W.passed_later hres hu hw (by rw [hpc]; rfl) fun m' hpc' => ?_
      rw [hpc] at hpc'
      cases hpc'
  · exact W.times.lasted v hv hres u w (W.stamped_other hne hu) (W.stamped_other hne hw)

/-- A record of before brackets the events as it did. -/
theorem recorded_before (W : TimedStep B d i t s' t') {r : DbRun}
    (hr : (n, r) ∈ d.shared.finished) : r.startedMs ≤ r.endedMs ∧ r.endedMs ≤ s'.clock ∧
      ∀ k u, (d.stepped i s' t').Stamped n k u → r.startedMs ≤ u ∧
        (k ≠ .runComplete → u ≤ r.endedMs) ∧ (k = .runComplete → r.endedMs ≤ u) := by
  obtain ⟨hse, hec, hall⟩ := W.times.recorded n r hr
  refine ⟨hse, W.clock ▸ hec, fun k u hs => ?_⟩
  rcases W.stamped hs with hs | ⟨hn, ⟨m, hpc⟩, rfl⟩
  · exact hall k u hs
  · -- behind its record a run builds nothing but `run_complete`
    refine ⟨le_trans hse hec, fun hk => ?_, fun _ => hec⟩
    have lt : t.pc.live = true := by
      rw [hpc]
      cases k with
      | runComplete => exact absurd rfl hk
      | phaseStart | fault | phaseEnd => rfl
    obtain ⟨hact, hcur⟩ := W.inv.owner.worker t W.mem lt
    exact absurd (hn.trans hcur) (W.history.finished_old hact _ hr)

/-- The record of the worker that finishes brackets what it has stamped. -/
theorem recorded (W : TimedStep B d i t s' t') {r : DbRun} (hr : (n, r) ∈ s'.finished) :
    r.startedMs ≤ r.endedMs ∧ r.endedMs ≤ s'.clock ∧
      ∀ k u, (d.stepped i s' t').Stamped n k u → r.startedMs ≤ u ∧
        (k ≠ .runComplete → u ≤ r.endedMs) ∧ (k = .runComplete → r.endedMs ≤ u) := by
  rcases W.step.finishes with ⟨-, hfin, -⟩ | ⟨hpc, -, hrun, hfin⟩
  · rw [hfin] at hr
    exact W.recorded_before hr
  · rw [hfin] at hr
    rcases List.mem_append.mp hr with hr | hr
    · exact W.recorded_before hr
    · rw [List.mem_singleton] at hr
      cases hr
      have lt : t.pc.live = true := by rw [hpc]; rfl
      have hstart : s'.run.startedMs = d.shared.run.startedMs := by rw [hrun]; rfl
      have hend : s'.run.endedMs = d.shared.clock := by rw [hrun]; rfl
      rw [hstart, hend]
      refine ⟨W.verdicts.started, W.clock ▸ le_refl _, fun k u hs => ?_⟩
      rcases W.stamped hs with hs | ⟨-, ⟨m, hpc'⟩, -⟩
      · obtain ⟨hne, hle⟩ := W.times.live t W.mem lt k u hs
        exact ⟨hle, fun _ => W.times.past _ k u hs, fun hk => absurd hk hne⟩
      · rw [hpc] at hpc'
        cases hpc'

/-- **A step of a worker keeps the time invariant.** -/
theorem timeInv (W : TimedStep B d i t s' t') : TimeInv (d.stepped i s' t') where
  past _ _ _ hs := W.past hs
  ordered n := W.ordered n
  pending _ hv _ _ hpc _ hx := W.pending hv hpc hx
  live _ hv lv _ _ hs := W.live hv lv hs
  running _ hv lv _ hs := W.running hv lv hs
  lasted _ hv hres _ _ hu hw := W.lasted hv hres hu hw
  recorded _ _ hr := W.recorded hr

end TimedStep

/-- A step that makes no report of a run and leaves the tasks alone stamps nothing. -/
theorem stamped_frame {d' : Device} (hr : ∀ n, d'.shared.reports n = d.shared.reports n)
    (ht : d'.tasks = d.tasks) {n : Nat} {k : RunEvent} {u : Nat} (hs : d'.Stamped n k u) :
    d.Stamped n k u := by
  rcases hs with ⟨i, hi, hn, hs⟩ | hs
  · have hi := Shared.mem_reports.mpr ⟨hi, hn⟩
    rw [hr, Shared.mem_reports] at hi
    exact Or.inl ⟨i, hi.1, hn, hs⟩
  · rw [ht] at hs
    exact Or.inr hs

/-- A step that makes no report, moves no task and records nothing keeps the invariant. -/
theorem TimeInv.frame {d' : Device} (T : TimeInv d)
    (hr : ∀ n, d'.shared.reports n = d.shared.reports n) (ht : d'.tasks = d.tasks)
    (hf : d'.shared.finished = d.shared.finished) (hc : d.shared.clock ≤ d'.shared.clock)
    (hlive : ∀ t ∈ d.tasks, t.pc.live = true →
      d'.shared.run.startedMs = d.shared.run.startedMs ∧
        (d.shared.run.abortRequested = true → d'.shared.run.abortRequested = true)) :
    TimeInv d' where
  past n k u hs := le_trans (T.past n k u (stamped_frame hr ht hs)) hc
  ordered n := by
    rw [hr]
    exact T.ordered n
  pending t hm k e hpc i hx := by
    rw [ht] at hm
    rw [hr] at hx
    exact T.pending t hm k e hpc i hx
  live t hm lt k u hs := by
    rw [ht] at hm
    rw [(hlive t hm lt).1]
    exact T.live t hm lt k u (stamped_frame hr ht hs)
  running t hm lt u hs := by
    rw [ht] at hm
    exact (T.running t hm lt u (stamped_frame hr ht hs)).mono hc (hlive t hm lt).2
  lasted t hm hres u v hu hv := by
    rw [ht] at hm
    exact T.lasted t hm hres u v (stamped_frame hr ht hu) (stamped_frame hr ht hv)
  recorded n r hm := by
    rw [hf] at hm
    obtain ⟨hse, hec, hall⟩ := T.recorded n r hm
    exact ⟨hse, le_trans hec hc, fun k u hs => hall k u (stamped_frame hr ht hs)⟩

/-- A new task has no stamps. -/
theorem stamped_created {f : Task} (hpc : f.pc = .copy) {n : Nat} {k : RunEvent} {u : Nat} :
    Device.Stamped { d with http := .idle, tasks := d.tasks ++ [f] } n k u ↔ d.Stamped n k u := by
  refine or_congr Iff.rfl ⟨?_, ?_⟩
  · rintro ⟨t, ht, hb, e, he, hu⟩
    rcases List.mem_append.mp ht with ht | ht
    · exact ⟨t, ht, hb, e, he, hu⟩
    · rw [List.mem_singleton] at ht
      subst ht
      rw [hpc] at he
      cases he
  · rintro ⟨t, ht, hb, e, he, hu⟩
    exact ⟨t, List.mem_append_left _ ht, hb, e, he, hu⟩

theorem timeInv_step {d' : Device} {a : Action} (I : DeviceInv d) (H : HistoryInv d)
    (V : VerdictInv d) (T : TimeInv d)
    (hb : ∀ t ∈ d.tasks, ∀ k e, t.pc = .emit k (.insert e) → e.args = taskArgs t k)
    (hc : d.shared.clock ≤ 2 ^ 53) (h : DeviceStep B d a d') : TimeInv d' := by
  cases h with
  | task ht hs =>
      exact TimedStep.timeInv ⟨I, H, V, T, ht, hb _ (List.mem_of_getElem? ht), hc, hs⟩
  | begin hh hr hs =>
      refine T.frame (fun _ => rfl) rfl rfl (le_refl _) fun t ht lt => ?_
      -- the slot is free, so no worker is alive
      rw [(I.owner.worker t ht lt).1] at hs
      cases hs
  | created hh =>
      have ho : d.http.owns = true := by rw [hh]; rfl
      obtain ⟨-, -, hlt⟩ := I.owner.handler ho
      have hnew : ∀ k u, ¬ d.Stamped d.current k u := fun k u =>
        H.not_stamped fun t ht => Nat.ne_of_lt (hlt t ht)
      have hst : ∀ {n k u}, (addTask d).Stamped n k u → d.Stamped n k u :=
        (stamped_created rfl).mp
      refine ⟨fun n k u hs => T.past n k u (hst hs), T.ordered, fun t ht k e hpc => ?_,
        fun t ht lt k u hs => ?_, fun t ht lt u hs => ?_, fun t ht hres u v hu hv => ?_,
        fun n r hr => ?_⟩
      · rcases List.mem_append.mp ht with ht | ht
        · exact T.pending t ht k e hpc
        · rw [List.mem_singleton] at ht
          subst ht
          cases hpc
      · rcases List.mem_append.mp ht with ht | ht
        · exact T.live t ht lt k u (hst hs)
        · rw [List.mem_singleton] at ht
          subst ht
          exact absurd (hst hs) (hnew k u)
      · rcases List.mem_append.mp ht with ht | ht
        · exact T.running t ht lt u (hst hs)
        · rw [List.mem_singleton] at ht
          subst ht
          exact absurd (hst hs) (hnew _ u)
      · rcases List.mem_append.mp ht with ht | ht
        · exact T.lasted t ht hres u v (hst hu) (hst hv)
        · rw [List.mem_singleton] at ht
          subst ht
          exact absurd (hst hu) (hnew _ u)
      · obtain ⟨hse, hec, hall⟩ := T.recorded n r hr
        exact ⟨hse, hec, fun k u hs => hall k u (hst hs)⟩
  | finishFailed hh =>
      have ho : d.http.owns = true := by rw [hh]; rfl
      obtain ⟨-, -, hlt⟩ := I.owner.handler ho
      refine ⟨T.past, T.ordered, T.pending, T.live, T.running, T.lasted, fun n r hr => ?_⟩
      rcases List.mem_append.mp hr with hr | hr
      · exact T.recorded n r hr
      · rw [List.mem_singleton] at hr
        cases hr
        exact ⟨V.started, le_refl _, fun k u hs =>
          absurd hs (H.not_stamped fun t ht => Nat.ne_of_lt (hlt t ht))⟩
  | mainInsert hm =>
      refine T.frame (fun n => ?_) rfl rfl (le_refl _) fun _ _ _ => ⟨rfl, id⟩
      rw [Shared.reports_insert rfl, if_neg nofun, List.append_nil]
  | abort hh hs hid =>
      exact T.frame (fun _ => rfl) rfl rfl (le_refl _) fun _ _ _ => ⟨rfl, fun _ => rfl⟩
  | tick => exact T.frame (fun _ => rfl) rfl rfl (Nat.le_add_right _ _) fun _ _ _ => ⟨rfl, id⟩
  | refused | notCreated | abortRefused | mainNumber | mainBuild | startHttp | startFailed
  | radio => exact T.frame (fun _ => rfl) rfl rfl (le_refl _) fun _ _ _ => ⟨rfl, id⟩

theorem timeInv_initial (marker : RebootMarker) : TimeInv (.initial marker) := by
  have hnone : ∀ n k u, ¬ (Device.initial marker).Stamped n k u := by
    rintro n k u (⟨x, hx, -⟩ | ⟨t, ht, -⟩)
    · exact List.not_mem_nil hx
    · exact List.not_mem_nil ht
  exact ⟨fun n k u hs => absurd hs (hnone n k u), fun n => List.Pairwise.nil,
    fun t ht => absurd ht List.not_mem_nil, fun t ht => absurd ht List.not_mem_nil,
    fun t ht => absurd ht List.not_mem_nil, fun t ht => absurd ht List.not_mem_nil,
    fun n r hr => absurd hr List.not_mem_nil⟩

theorem timeInv_reach (h : Reach (device B) ExactClock d) : TimeInv d := by
  refine device_reach timeInv_initial ?_ h
  intro s a s' hr T hc _ hs
  exact timeInv_step (deviceInv_reach hr) (historyInv_reach hr) (verdictInv_reach hr) T
    (task_built hr) hc hs

/-- **The times of one run**, as its events and its record give them. -/
structure RunTimeline (d : Device) (n : Nat) : Prop where
  ordered : (d.shared.reports n).Pairwise fun i j => i.event.uptimeMs ≤ j.event.uptimeMs
  past : ∀ i ∈ d.shared.reports n, i.event.uptimeMs ≤ d.shared.clock
  record : ∀ r, (n, r) ∈ d.shared.finished → r.startedMs ≤ r.endedMs ∧
    ∀ i ∈ d.shared.reports n, r.startedMs ≤ i.event.uptimeMs ∧
      (i.event.args.event ≠ .runComplete → i.event.uptimeMs ≤ r.endedMs) ∧
      (i.event.args.event = .runComplete → r.endedMs ≤ i.event.uptimeMs)
  lasted : ∀ p, d.accepted[n]? = some p → ∀ i ∈ d.shared.reports n, ∀ j ∈ d.shared.reports n,
    i.event.args.event = .phaseStart → j.event.args.event = .phaseEnd →
    j.event.args.result = some Verdict.pass.text →
    i.event.uptimeMs + p.2.durationMs ≤ j.event.uptimeMs

/-- **The timeline of a run**, for every run and every interleaving: its events are in the order of
    their times, its record brackets all of them but `run_complete`, which comes behind it, and
    between the two phase events of a passed run lies at least the requested duration. -/
theorem run_timeline (h : Reach (device B) ExactClock d) (n : Nat) : RunTimeline d n := by
  have T := timeInv_reach h
  have I := deviceInv_reach h
  have H := historyInv_reach h
  -- a report is a stamp of the event its task made it for
  have hstamp : ∀ i ∈ d.shared.reports n, ∃ k, i.event.args.event = RunEvent.kind k ∧
      d.Stamped n k i.event.uptimeMs := by
    intro i hi
    obtain ⟨hi, hn⟩ := Shared.mem_reports.mp hi
    obtain ⟨t, -, -, k, hargs, -⟩ := H.said i hi n hn
    have hk : i.event.args.event = k.kind := by
      rw [hargs]
      rfl
    exact ⟨k, hk, Or.inl ⟨i, hi, hn, hk, rfl⟩⟩
  refine ⟨T.ordered n, fun i hi => ?_, fun r hr => ?_, fun p hp i hi j hj hki hkj hres => ?_⟩
  · obtain ⟨k, -, hs⟩ := hstamp i hi
    exact T.past n k _ hs
  · obtain ⟨hse, -, hall⟩ := T.recorded n r hr
    refine ⟨hse, fun i hi => ?_⟩
    obtain ⟨k, hk, hs⟩ := hstamp i hi
    obtain ⟨h1, h2, h3⟩ := hall k _ hs
    refine ⟨h1, fun hne => h2 fun e => hne ?_, fun he => h3 (RunEvent.kind_injective ?_)⟩
    · rw [hk, e]
      rfl
    · rw [← hk, he]
      rfl
  · obtain ⟨hj', hn⟩ := Shared.mem_reports.mp hj
    obtain ⟨t, ht, rfl, k, hargs, hc, -⟩ := H.said j hj' n hn
    have hk : k = .phaseEnd := by
      refine RunEvent.kind_injective ?_
      rw [← show j.event.args.event = RunEvent.phaseEnd.kind from hkj, hargs]
      rfl
    subst hk
    have hpass : t.result = .pass := by
      rw [hargs] at hres
      exact Verdict.text_injective (Option.some.inj hres)
    obtain ⟨q, hq, -, hreq⟩ := I.owner.copied t ht hc
    cases hp.symm.trans hq
    obtain ⟨k, hk, hs⟩ := hstamp i hi
    obtain ⟨k', hk', hs'⟩ := hstamp j hj
    cases RunEvent.kind_injective (hk.symm.trans hki : RunEvent.kind k = RunEvent.kind .phaseStart)
    cases RunEvent.kind_injective (hk'.symm.trans hkj : RunEvent.kind k' = RunEvent.kind .phaseEnd)
    rw [← hreq]
    exact T.lasted t ht hpass _ _ hs hs'

set_option maxRecDepth 4000 in
/-- The timeline of an idle run that passes. -/
theorem run_timeline_idle :
    ∃ d, Reach (device benchBoot) ExactClock d ∧ RunTimeline d 0 ∧
      (d.shared.reports 0).map (fun i => i.event.uptimeMs) = [0, 30000] := by
  have h := benchRunIf_reach (C := ExactClock) (waited .idle ++ List.replicate 4 firstTask)
    (by decide)
  exact ⟨_, h, run_timeline h 0, by decide⟩

end Times

end DragonBench
