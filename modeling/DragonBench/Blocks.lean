/-
  File:      DragonBench/Blocks.lean
  Subject:   HOW THE EVENTS OF SUCCESSIVE RUNS LIE IN THE RING: in blocks, run after run, except
             for `run_complete`.

  A worker emits `phase_start`, at most one `fault`, `phase_end` while it owns the run, and
  `run_complete` after `db_run_finish` has freed the slot. The next run may begin in between.

  * `runEvents`, `blockOf` -- the run events inserted so far, and those of one run;
  * `IsBlock` -- a whole block; `Progress` -- how much of it is inserted at a control point;
  * `BlockInv`, `blockInv_reach` -- the invariant;
  * **`core_blocks`** -- without `run_complete` the sequence is the concatenation of the blocks;
    each run's own events are a prefix of a block; when a run is over, only its `run_complete` can
    be outstanding;
  * `run_complete_late` -- what can happen to `run_complete`.
-/
import DragonBench.History
import DragonBench.Lib.Grouping

namespace DragonBench

open Transition Grouping

/-! ## 1. The run events -/

/-- The run events inserted so far, each with the number of its run. -/
def Shared.runEvents (s : Shared) : List (Nat × EventKind) :=
  s.inserted.filterMap fun i => i.source.map fun n => (n, i.event.args.event)

/-- The events of one run, in the order of their insertion. -/
def Shared.blockOf (s : Shared) (n : Nat) : List EventKind :=
  (group Prod.fst s.runEvents n).map Prod.snd

/-- The event stands inside the ownership of its run. -/
def isCore (k : EventKind) : Bool := k ≠ .runComplete

/-- The run events without `run_complete`. -/
def Shared.coreEvents (s : Shared) : List (Nat × EventKind) :=
  s.runEvents.filter fun p => isCore p.2

/-- A whole block. -/
def IsBlock (l : List EventKind) : Prop :=
  l = [.phaseStart, .phaseEnd, .runComplete] ∨ l = [.phaseStart, .fault, .phaseEnd, .runComplete]

/-- A block up to `phase_end`. -/
def IsCoreBlock (l : List EventKind) : Prop :=
  l = [.phaseStart, .phaseEnd] ∨ l = [.phaseStart, .fault, .phaseEnd]

/-- How much of its block a worker has inserted at a control point. -/
def Progress (l : List EventKind) : TaskPc → Prop
  | .copy | .emit .phaseStart _ => l = []
  | .work _ | .choose | .faultTest | .emit .fault _ => l = [.phaseStart]
  | .emit .phaseEnd _ => l = [.phaseStart] ∨ l = [.phaseStart, .fault]
  | .finish | .emit .runComplete _ => IsCoreBlock l
  | .rebootTest | .markMagic | .markRunId | .delay | .restart | .deleted => IsBlock l

/-- What is inserted is always the beginning of a block. -/
theorem Progress.isPrefix {l : List EventKind} {pc : TaskPc} (h : Progress l pc) :
    ∃ b, IsBlock b ∧ l <+: b := by
  have start : l = [.phaseStart] → ∃ b, IsBlock b ∧ l <+: b := by
    intro e
    subst e
    exact ⟨_, Or.inl rfl, [.phaseEnd, .runComplete], rfl⟩
  have core : IsCoreBlock l → ∃ b, IsBlock b ∧ l <+: b := by
    rintro (rfl | rfl)
    · exact ⟨_, Or.inl rfl, [.runComplete], rfl⟩
    · exact ⟨_, Or.inr rfl, [.runComplete], rfl⟩
  have nothing : l = [] → ∃ b, IsBlock b ∧ l <+: b := by
    intro e
    subst e
    exact ⟨_, Or.inl rfl, List.nil_prefix⟩
  cases pc with
  | copy => exact nothing h
  | emit k stage =>
      cases k with
      | phaseStart => exact nothing h
      | fault => exact start h
      | phaseEnd =>
          rcases h with rfl | rfl
          · exact start rfl
          · exact ⟨_, Or.inr rfl, [.phaseEnd, .runComplete], rfl⟩
      | runComplete => exact core h
  | work | choose | faultTest => exact start h
  | finish => exact core h
  | rebootTest | markMagic | markRunId | delay | restart | deleted =>
      exact ⟨l, h, List.prefix_refl l⟩

/-- Behind `db_run_finish` the block is there up to `phase_end`. -/
theorem Progress.core {l : List EventKind} {pc : TaskPc} (h : Progress l pc)
    (hd : pc.live = false) : ∃ c, IsCoreBlock c ∧ (l = c ∨ l = c ++ [.runComplete]) := by
  cases pc with
  | emit k stage =>
      cases k with
      | phaseStart | fault | phaseEnd => cases hd
      | runComplete => exact ⟨l, h, Or.inl rfl⟩
  | copy | work | choose | faultTest | finish => cases hd
  | rebootTest | markMagic | markRunId | delay | restart | deleted =>
      rcases h with rfl | rfl
      · exact ⟨_, Or.inl rfl, Or.inr rfl⟩
      · exact ⟨_, Or.inr rfl, Or.inr rfl⟩

section Step

variable {B : Boot} {s s' : Shared} {t t' : Task}

/-- **A step of a worker carries its block on**: it inserts the next event, or nothing. -/
theorem TaskStep.progress (h : TaskStep B s t s' t') {l : List EventKind} (hp : Progress l t.pc) :
    s'.inserted = s.inserted ∧ Progress l t'.pc ∨
      ∃ k e, t.pc = .emit k (.insert e) ∧
        s'.inserted = s.inserted ++ [⟨some t.born, s.eventSeq, e⟩] ∧
        Progress (l ++ [k.kind]) t'.pc := by
  cases h with
  | @number k hpc | @build k _ hpc =>
      refine Or.inl ⟨rfl, ?_⟩
      rw [hpc] at hp
      cases k <;> exact hp
  | @insert k e hpc =>
      refine Or.inr ⟨k, e, hpc, rfl, ?_⟩
      rw [hpc] at hp
      cases k with
      | phaseStart =>
          rw [show l = [] from hp]
          rfl
      | fault =>
          rw [show l = [.phaseStart] from hp]
          exact Or.inr rfl
      | phaseEnd =>
          rcases hp with rfl | rfl
          · exact Or.inl rfl
          · exact Or.inr rfl
      | runComplete =>
          have hb : IsBlock (l ++ [RunEvent.runComplete.kind]) := by
            rcases hp with rfl | rfl
            · exact Or.inl rfl
            · exact Or.inr rfl
          rcases afterEmit_runComplete B t with e' | e' <;> rw [e'] <;> exact hb
  | choose hpc =>
      refine Or.inl ⟨rfl, ?_⟩
      rw [hpc] at hp
      dsimp only
      split
      · exact Or.inl hp
      · exact hp
  | noFault hpc =>
      rw [hpc] at hp
      exact Or.inl ⟨rfl, Or.inl hp⟩
  | copy hpc | more hpc | done hpc | fault hpc | finish hpc | noReboot hpc | reboot hpc
  | markMagic hpc | markRunId hpc | delay hpc | restart hpc =>
      rw [hpc] at hp
      exact Or.inl ⟨rfl, hp⟩

/-- The run events after an insertion. -/
theorem runEvents_insert {i : Insertion} (hs : s'.inserted = s.inserted ++ [i]) :
    s'.runEvents = s.runEvents ++ (i.source.map fun n => (n, i.event.args.event)).toList := by
  rw [Shared.runEvents, hs, List.filterMap_append]
  cases hsrc : i.source <;> simp [Shared.runEvents, hsrc]

/-- The events of one run after an insertion. -/
theorem blockOf_insert {i : Insertion} (hs : s'.inserted = s.inserted ++ [i]) (n : Nat) :
    s'.blockOf n = s.blockOf n ++ (if i.source = some n then [i.event.args.event] else []) := by
  rw [Shared.blockOf, runEvents_insert hs, group_append, List.map_append]
  cases hsrc : i.source with
  | none => simp [Shared.blockOf]
  | some m =>
      by_cases hm : m = n
      · subst hm
        simp [Shared.blockOf, group]
      · simp [Shared.blockOf, group, hm]

end Step

/-! ## 2. The invariant -/

/-- **The block invariant.** -/
structure BlockInv (d : Device) : Prop where
  progress : ∀ t ∈ d.tasks, Progress (d.shared.blockOf t.born) t.pc
  sorted : (d.shared.coreEvents.map Prod.fst).Pairwise (· ≤ ·)

section Inv

variable {B : Boot}

/-- Every run event belongs to a task. -/
theorem HistoryInv.runEvents_task {d : Device} (H : HistoryInv d) {n : Nat} {k : EventKind}
    (h : (n, k) ∈ d.shared.runEvents) : ∃ t ∈ d.tasks, t.born = n := by
  obtain ⟨i, hi, e⟩ := List.mem_filterMap.mp h
  obtain ⟨m, hm, e'⟩ := Option.map_eq_some_iff.mp e
  cases e'
  obtain ⟨t, ht, hb, -⟩ := H.said i hi n hm
  exact ⟨t, ht, hb⟩

/-- A run without a task has no events. -/
theorem HistoryInv.blockOf_eq_nil {d : Device} (H : HistoryInv d) {n : Nat}
    (hn : ∀ t ∈ d.tasks, t.born ≠ n) : d.shared.blockOf n = [] := by
  rw [Shared.blockOf, List.map_eq_nil_iff, group, List.filter_eq_nil_iff]
  rintro ⟨m, k⟩ hm e
  obtain ⟨t, ht, hb⟩ := H.runEvents_task hm
  exact hn t ht (hb.trans (of_decide_eq_true e))

theorem BlockInv.step_task {d : Device} {s' : Shared} {t t' : Task} {i : Nat}
    (I : DeviceInv d) (H : HistoryInv d) (K : BlockInv d) (ht : d.tasks[i]? = some t)
    (hb : ∀ k e, t.pc = .emit k (.insert e) → e.args = taskArgs t k)
    (h : TaskStep B d.shared t s' t') :
    BlockInv { d with shared := s', tasks := d.tasks.set i t' } := by
  have hmem := List.mem_of_getElem? ht
  have hset := fun u => KeyedList.mem_set_iff I.owner.nodup ht h.born (b := u)
  rcases h.progress (K.progress t hmem) with ⟨hins, hp⟩ | ⟨k, e, hpc, hins, hp⟩
  · have hev : s'.runEvents = d.shared.runEvents := by
      rw [Shared.runEvents, hins]
      rfl
    refine ⟨fun u hu => ?_, ?_⟩
    · show Progress (s'.blockOf u.born) u.pc
      rw [Shared.blockOf, hev]
      rcases (hset u).mp hu with rfl | ⟨hu, -⟩
      · rw [h.born]
        exact hp
      · exact K.progress u hu
    · show (s'.coreEvents.map Prod.fst).Pairwise (· ≤ ·)
      rw [Shared.coreEvents, hev]
      exact K.sorted
  · have hkind : e.args.event = k.kind := by
      rw [hb k e hpc]
      rfl
    refine ⟨fun u hu => ?_, ?_⟩
    · show Progress (s'.blockOf u.born) u.pc
      rw [blockOf_insert hins]
      rcases (hset u).mp hu with rfl | ⟨hu, hk⟩
      · rw [h.born, if_pos rfl, hkind]
        exact hp
      · have hne : some t.born ≠ some u.born := fun e => hk (Option.some.inj e).symm
        rw [if_neg hne, List.append_nil]
        exact K.progress u hu
    · show (s'.coreEvents.map Prod.fst).Pairwise (· ≤ ·)
      rw [Shared.coreEvents, runEvents_insert hins, List.filter_append, List.map_append,
        List.pairwise_append]
      refine ⟨K.sorted, ?_, fun m hm x hx => ?_⟩
      · exact (List.pairwise_singleton _ _).sublist
          ((List.filter_sublist (l := [(t.born, e.args.event)])).map Prod.fst)
      · -- an event other than `run_complete` comes from the owner, whose number is the largest
        obtain ⟨⟨n, k'⟩, hn, rfl⟩ := List.mem_map.mp hm
        obtain ⟨u, hu, hbu⟩ := H.runEvents_task (List.mem_filter.mp hn).1
        obtain ⟨q, hq, rfl⟩ := List.mem_map.mp hx
        obtain ⟨hq, hcore⟩ := List.mem_filter.mp hq
        cases List.mem_singleton.mp hq
        rw [hkind] at hcore
        have lt : t.pc.live = true := by
          rw [hpc]
          cases k with
          | runComplete => exact Bool.noConfusion (show false = true from hcore)
          | phaseStart | fault | phaseEnd => rfl
        have hcur := (I.owner.worker t hmem lt).2
        have hlt := I.owner.born_lt u hu
        show n ≤ t.born
        omega

theorem blockInv_step {d d' : Device} {a : Action} (I : DeviceInv d) (H : HistoryInv d)
    (hb : ∀ t ∈ d.tasks, ∀ k e, t.pc = .emit k (.insert e) → e.args = taskArgs t k)
    (K : BlockInv d) (h : DeviceStep B d a d') : BlockInv d' := by
  cases h with
  | created hh =>
      refine ⟨fun t ht => ?_, K.sorted⟩
      rcases List.mem_append.mp ht with ht | ht
      · exact K.progress t ht
      · rw [List.mem_singleton] at ht
        subst ht
        have ho : d.http.owns = true := by rw [hh]; rfl
        exact H.blockOf_eq_nil fun t ht => Nat.ne_of_lt ((I.owner.handler ho).2.2 t ht)
  | task ht hs => exact K.step_task I H ht (hb _ (List.mem_of_getElem? ht)) hs
  | @mainInsert _ k e hm =>
      have hev : ({ d.shared with
          ring := d.shared.ring.push (e.slot B.cfg d.shared.eventSeq)
          inserted := d.shared.inserted ++ [⟨none, d.shared.eventSeq, e⟩] } : Shared).runEvents =
          d.shared.runEvents := by
        rw [runEvents_insert (s := d.shared) rfl]
        exact List.append_nil _
      refine ⟨fun t ht => ?_, ?_⟩
      · rw [Shared.blockOf, hev]
        exact K.progress t ht
      · rw [Shared.coreEvents, hev]
        exact K.sorted
  | refused | begin | notCreated | finishFailed | abortRefused | abort | mainNumber | mainBuild
  | startHttp | startFailed | tick | radio => exact ⟨K.progress, K.sorted⟩

theorem blockInv_reach {C : Device → Action → Prop} {d : Device} (h : Reach (device B) C d) :
    BlockInv d := by
  refine device_reach ?_ ?_ h
  · intro marker
    exact ⟨fun t ht => absurd ht List.not_mem_nil, List.Pairwise.nil⟩
  · intro s a s' hr K _ _ hs
    exact blockInv_step (deviceInv_reach hr) (historyInv_reach hr) (task_built hr) K hs

/-! ## 3. The blocks -/

/-- The group of a run among the core events, read off its block. -/
theorem group_coreEvents (s : Shared) (n : Nat) :
    group Prod.fst s.coreEvents n = ((s.blockOf n).filter isCore).map fun k => (n, k) := by
  rw [Shared.blockOf, Shared.coreEvents, List.filter_map, List.map_map, group, group,
    List.filter_filter, List.filter_filter]
  have hcongr : (s.runEvents.filter fun p => decide (p.1 = n) && isCore p.2) =
      s.runEvents.filter fun p => (isCore ∘ Prod.snd) p && decide (p.1 = n) :=
    List.filter_congr fun p _ => Bool.and_comm _ _
  rw [hcongr]
  refine (List.map_id'' (fun p => rfl) _).symm.trans (List.map_congr_left fun p hp => ?_)
  have e : p.1 = n := by
    have := (List.mem_filter.mp hp).2
    simp only [Bool.and_eq_true, decide_eq_true_eq] at this
    exact this.2
  show p = (n, p.2)
  rw [← e]

/-- Every run event carries the id its run was accepted under. -/
theorem runEvent_runId {C : Device → Action → Prop} {d : Device} (h : Reach (device B) C d)
    {i : Insertion} (hi : i ∈ d.shared.inserted) {n : Nat} (hn : i.source = some n) :
    ∃ p, d.accepted[n]? = some p ∧ i.event.args.runId = some p.1 := by
  obtain ⟨t, -, -, ⟨k, hargs⟩, p, hp, hid, -⟩ := runEvent_task h hi hn
  refine ⟨p, hp, ?_⟩
  rw [hargs, ← hid]
  rfl

/-- A run that is over has its block up to `phase_end`, when it ever had a worker. -/
theorem over_core {C : Device → Action → Prop} {d : Device} (h : Reach (device B) C d) {n : Nat}
    (hover : n = d.current → d.shared.run.state.active = false)
    (hw : ∃ t ∈ d.tasks, t.born = n) : ∃ c, IsCoreBlock c ∧
      (d.shared.blockOf n = c ∨ d.shared.blockOf n = c ++ [.runComplete]) := by
  obtain ⟨t, ht, rfl⟩ := hw
  refine ((blockInv_reach h).progress t ht).core ?_
  cases hl : t.pc.live with
  | false => rfl
  | true =>
      obtain ⟨ha, hb⟩ := (deviceInv_reach h).owner.worker t ht hl
      rw [hover hb] at ha
      cases ha

/-- **The blocks of the ring.** In every reachable state
    - the run events other than `run_complete` are the concatenation of the blocks of the runs, in
      the order of their acceptance;
    - the events of each run are the beginning of `phase_start`, at most one `fault`, `phase_end`,
      `run_complete`;
    - a run that is over has its block up to `phase_end`, so that at most its `run_complete` is
      outstanding, or it has no events because its task was never created;
    - every run event carries the id of its run. -/
theorem core_blocks {d : Device} (h : Reach (device B) Always d) :
    d.shared.coreEvents = (List.range d.accepted.length).flatMap (fun n =>
      ((d.shared.blockOf n).filter isCore).map fun k => (n, k)) ∧
    (∀ n, ∃ b, IsBlock b ∧ d.shared.blockOf n <+: b) ∧
    (∀ n, (n = d.current → d.shared.run.state.active = false) →
      ((∃ t ∈ d.tasks, t.born = n) → ∃ c, IsCoreBlock c ∧
        (d.shared.blockOf n = c ∨ d.shared.blockOf n = c ++ [.runComplete])) ∧
      ((∀ t ∈ d.tasks, t.born ≠ n) → d.shared.blockOf n = [])) ∧
    (∀ i ∈ d.shared.inserted, ∀ n, i.source = some n →
      ∃ p, d.accepted[n]? = some p ∧ i.event.args.runId = some p.1) := by
  have H := historyInv_reach h
  have K := blockInv_reach h
  have hlt : ∀ p ∈ d.shared.coreEvents, p.1 < d.accepted.length := by
    rintro ⟨n, k⟩ hp
    obtain ⟨t, ht, hb⟩ := H.runEvents_task (List.mem_filter.mp hp).1
    exact hb ▸ (deviceInv_reach h).owner.born_lt t ht
  refine ⟨?_, fun n => ?_, fun n hover => ⟨over_core h hover, H.blockOf_eq_nil⟩,
    fun i hi n hn => runEvent_runId h hi hn⟩
  · exact (flatMap_group K.sorted hlt).symm.trans
      (List.flatMap_congr fun n _ => group_coreEvents _ n)
  · by_cases hw : ∃ t ∈ d.tasks, t.born = n
    · obtain ⟨t, ht, rfl⟩ := hw
      exact (K.progress t ht).isPrefix
    · rw [H.blockOf_eq_nil fun t ht e => hw ⟨t, ht, e⟩]
      exact ⟨_, Or.inl rfl, List.nil_prefix⟩

set_option maxRecDepth 4000 in
/-- The block of an idle run that is over. -/
theorem core_blocks_idle :
    ∃ d, Reach (device benchBoot) Always d ∧ d.shared.run.state = .complete ∧
      ∃ c, IsCoreBlock c ∧
        (d.shared.blockOf 0 = c ∨ d.shared.blockOf 0 = c ++ [.runComplete]) :=
  have h := benchRun_reach (waited .idle ++ List.replicate 5 firstTask) (by decide)
  ⟨_, h, by decide, ((core_blocks h).2.2.1 0 (by decide)).1 (by decide)⟩

/-- The order that a reader of the ring would expect: whole blocks one after the other, and the
    whole block of a run that is COMPLETE. -/
def BlockLaw (d : Device) : Prop :=
  d.shared.runEvents = (List.range d.accepted.length).flatMap (fun n =>
    (d.shared.blockOf n).map fun k => (n, k)) ∧
  (d.shared.run.state = .complete → IsBlock (d.shared.blockOf d.current))

set_option maxRecDepth 4000 in
/-- **`run_complete` comes late**: the run is COMPLETE before it is inserted; the next run's
    `phase_start` may come first; a run whose task was not created is COMPLETE without events. -/
theorem run_complete_late :
    (∃ d, Reach (device benchBoot) Always d ∧ d.shared.run.state = .complete ∧
      d.shared.runEvents = [(0, .phaseStart), (0, .phaseEnd)] ∧ ¬ BlockLaw d) ∧
    (∃ d, Reach (device benchBoot) Always d ∧
      d.shared.runEvents =
        [(0, .phaseStart), (0, .phaseEnd), (1, .phaseStart), (0, .runComplete)] ∧
      ¬ BlockLaw d) ∧
    (∃ d, Reach (device benchBoot) Always d ∧ d.shared.run.state = .complete ∧
      d.shared.runEvents = [] ∧ ¬ BlockLaw d) := by
  refine ⟨?_, ?_, ?_⟩
  · have h := benchRun_reach (waited .idle ++ List.replicate 5 firstTask) (by decide)
    refine ⟨_, h, by decide, by decide, fun hl => ?_⟩
    rcases hl.2 (by decide) with e | e <;> exact absurd e (by decide)
  · have h := benchRun_reach (waited .idle ++ List.replicate 5 firstTask ++
      [.runsPost (bodyOf .idle), .createTask true] ++ List.replicate 4 (.task 1 0) ++
      List.replicate 3 firstTask) (by decide)
    exact ⟨_, h, by decide, fun hl => absurd hl.1 (by decide)⟩
  · have h := benchRun_reach [.runsPost (bodyOf .idle), .createTask false, .finishFailed]
      (by decide)
    refine ⟨_, h, by decide, by decide, fun hl => ?_⟩
    rcases hl.2 (by decide) with e | e <;> exact absurd e (by decide)

end Inv

end DragonBench
