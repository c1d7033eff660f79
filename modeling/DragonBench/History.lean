/-
  File:      DragonBench/History.lean
  Subject:   What the history fields record: every run event in the ring and every recorded result
             belongs to a workload task and says what that task says.

  * `TaskPc.chosen`, `TaskStep.keeps` -- once chosen, the result and the counters stay;
  * `Task.said`, `TaskStep.said` -- what a task has said it keeps saying;
  * `HistoryInv` -- each insertion was said by the task of its run, each record holds the result
    its task chose (or the `fail` of a creation that failed), each finished task has its record;
  * `historyInv_step`, `historyInv_reach` -- kept by every step, true in every reachable state;
  * `runEvent_task` -- where a run event comes from.
-/
import DragonBench.Ownership

namespace DragonBench

open Transition

/-! ## 1. What a task keeps -/

/-- The result is chosen. -/
def TaskPc.chosen : TaskPc → Bool
  | .copy | .emit .phaseStart _ | .work _ | .choose => false
  | .faultTest | .emit .fault _ | .emit .phaseEnd _ | .finish | .emit .runComplete _
  | .rebootTest | .markMagic | .markRunId | .delay | .restart | .deleted => true

theorem TaskPc.chosen_of_dead {pc : TaskPc} (h : pc.live = false) : pc.chosen = true := by
  cases pc with
  | emit k stage => cases k <;> first | rfl | cases h
  | copy | work | choose => cases h
  | _ => rfl

/-- Where the result is chosen, the worker neither works nor chooses. -/
theorem TaskPc.behind_of_chosen {pc : TaskPc} (h : pc.chosen = true) :
    (∀ w, pc ≠ .work w) ∧ pc ≠ .choose := by
  refine ⟨fun w e => ?_, fun e => ?_⟩ <;>
  · rw [e] at h
    cases h

/-- The control point behind the choice. -/
theorem chosen_behind_choose (ok : Bool) :
    (if ok = true then TaskPc.emit .phaseEnd .number else .faultTest).chosen = true := by
  cases ok <;> rfl

/-- A chosen `pass` is a workload that returned true, with the flag down. -/
theorem Task.verdict_eq_pass {t : Task} {abort : Bool} (h : t.verdict abort = .pass) :
    abort = false ∧ t.ok = true := by
  unfold Task.verdict at h
  cases abort with
  | true => cases h
  | false =>
      cases hok : t.ok with
      | true => exact ⟨rfl, rfl⟩
      | false =>
          rw [hok] at h
          cases h

/-- A chosen `fail` is a workload that returned false, with the flag down. -/
theorem Task.verdict_eq_fail {t : Task} {abort : Bool} (h : t.verdict abort = .fail) :
    abort = false ∧ t.ok = false := by
  unfold Task.verdict at h
  cases abort with
  | true => cases h
  | false =>
      cases hok : t.ok with
      | true =>
          rw [hok] at h
          cases h
      | false => exact ⟨rfl, rfl⟩

section Step

variable {B : Boot} {s s' : Shared} {t t' : Task}

/-- No step leads back to the copying. -/
theorem TaskStep.ne_copy (h : TaskStep B s t s' t') : t'.pc ≠ .copy := by
  intro e
  cases h with
  | insert => cases afterEvent_of_eq e
  | choose h =>
      dsimp only at e
      split at e <;> cases e
  | copy | number | build | more | done | noFault | fault | finish | noReboot | reboot
  | markMagic | markRunId | delay | restart => cases e

/-- **Once the result is chosen**, it stays, and with it everything the later events say. -/
theorem TaskStep.keeps (h : TaskStep B s t s' t') (hc : t.pc.chosen = true) :
    t'.pc.chosen = true ∧ t'.run = t.run ∧ t'.result = t.result ∧ t'.ok = t.ok ∧ t'.a = t.a ∧
      t'.b = t.b ∧ t'.polls = t.polls := by
  cases h with
  | copy h | more h | done h | choose h =>
      rw [h] at hc
      cases hc
  | @number k h | @build k _ h =>
      rw [h] at hc
      refine ⟨?_, rfl, rfl, rfl, rfl, rfl, rfl⟩
      cases k <;> exact hc
  | @insert k e h =>
      rw [h] at hc
      refine ⟨?_, rfl, rfl, rfl, rfl, rfl, rfl⟩
      cases k with
      | phaseStart => cases hc
      | fault | phaseEnd => rfl
      | runComplete =>
          rcases afterEmit_runComplete B t with e | e <;> rw [e] <;> rfl
  | noFault | fault | finish | noReboot | reboot | markMagic | markRunId | delay | restart =>
      exact ⟨rfl, rfl, rfl, rfl, rfl, rfl, rfl⟩

/-- The result is chosen in one step, from the flag and the return value of the workload. -/
theorem TaskStep.chooses (h : TaskStep B s t s' t') (hc : t'.pc.chosen = true) :
    t.pc.chosen = true ∨ t.pc = .choose ∧ t'.result = t.verdict s.run.abortRequested ∧
      t'.ok = t.ok ∧ t'.polls = t.polls ++ [s.run.abortRequested] ∧ t'.run = t.run ∧
      s' = s ∧ t'.pc.live = true := by
  cases h with
  | copy | more | done => cases hc
  | @number k h | @build k _ h =>
      left
      rw [h]
      cases k <;> exact hc
  | @insert k e h =>
      left
      rw [h]
      cases k <;> first | rfl | cases hc
  | choose h =>
      refine Or.inr ⟨h, rfl, rfl, rfl, rfl, rfl, ?_⟩
      dsimp only
      split <;> rfl
  | noFault h | fault h | finish h | noReboot h | reboot h | markMagic h | markRunId h | delay h
  | restart h =>
      left
      rw [h]
      rfl

/-- The task has emitted an event with these arguments, or could have: it knows its run, and
    everything but the first event comes after the choice of the result. -/
def Task.said (t : Task) (args : EmitArgs) : Prop :=
  ∃ k, args = taskArgs t k ∧ t.pc ≠ .copy ∧ (k = .phaseStart ∨ t.pc.chosen = true)

/-- **A task keeps saying what it has said.** -/
theorem TaskStep.said (h : TaskStep B s t s' t') {args : EmitArgs} (hs : t.said args) :
    t'.said args := by
  obtain ⟨k, rfl, hcopy, hk⟩ := hs
  have hrun : t'.run = t.run := by
    rcases h.copies with ⟨hpc, -⟩ | ⟨-, e⟩
    · exact absurd hpc hcopy
    · exact e
  rcases hk with rfl | hc
  · refine ⟨.phaseStart, ?_, h.ne_copy, Or.inl rfl⟩
    simp only [taskArgs, hrun]
  · obtain ⟨hc', -, hres, -, ha, hb, -⟩ := h.keeps hc
    refine ⟨k, ?_, h.ne_copy, Or.inr hc'⟩
    simp only [taskArgs, hrun, hres, ha, hb]

/-- What an event under construction says is what its task says. -/
theorem task_built {C : Device → Action → Prop} {d : Device} (h : Reach (device B) C d) :
    ∀ t ∈ d.tasks, ∀ k e, t.pc = .emit k (.insert e) → e.args = taskArgs t k := by
  refine task_reach (P := fun t => ∀ k e, t.pc = .emit k (.insert e) → e.args = taskArgs t k)
    ?_ ?_ h
  · intro n k e hpc
    cases hpc
  · intro s t s' t' _ hs k e hpc
    cases hs with
    | build hpc' =>
        cases hpc
        rfl
    | insert => cases afterEvent_of_eq hpc
    | choose hpc' =>
        dsimp only at hpc
        split at hpc <;> cases hpc
    | copy | number | more | done | noFault | fault | finish | noReboot | reboot | markMagic
    | markRunId | delay | restart => cases hpc

/-- An insertion of a task says what the task says. -/
theorem TaskStep.inserts (h : TaskStep B s t s' t')
    (hb : ∀ k e, t.pc = .emit k (.insert e) → e.args = taskArgs t k) :
    s'.inserted = s.inserted ∨ ∃ k e, t.pc = .emit k (.insert e) ∧
      s'.inserted = s.inserted ++ [⟨some t.born, s.eventSeq, e⟩] ∧ t'.said e.args := by
  cases h with
  | @insert k e hpc =>
      refine Or.inr ⟨k, e, hpc, rfl, k, hb k e hpc, ?_⟩
      cases k with
      | phaseStart => exact ⟨TaskPc.noConfusion, Or.inl rfl⟩
      | fault | phaseEnd => exact ⟨TaskPc.noConfusion, Or.inr rfl⟩
      | runComplete =>
          rcases afterEmit_runComplete B t with ha | ha <;> rw [ha] <;>
            exact ⟨TaskPc.noConfusion, Or.inr rfl⟩
  | copy | number | build | more | done | choose | noFault | fault | finish | noReboot | reboot
  | markMagic | markRunId | delay | restart => exact Or.inl rfl

end Step

/-! ## 2. The invariant -/

/-- **The history invariant.** -/
structure HistoryInv (d : Device) : Prop where
  said : ∀ i ∈ d.shared.inserted, ∀ n, i.source = some n →
    ∃ t ∈ d.tasks, t.born = n ∧ t.said i.event.args
  finished : ∀ p ∈ d.shared.finished,
    (∃ t ∈ d.tasks, t.born = p.1 ∧ t.pc.live = false ∧ p.2.result = t.result.text) ∨
      (∀ t ∈ d.tasks, t.born ≠ p.1) ∧ p.2.result = Verdict.fail.text
  finished_lt : ∀ p ∈ d.shared.finished, p.1 < d.accepted.length
  finished_old : d.shared.run.state.active = true →
    ∀ p ∈ d.shared.finished, p.1 ≠ d.current
  recorded : ∀ t ∈ d.tasks, t.pc.live = false →
    ∃ r, (t.born, r) ∈ d.shared.finished ∧ r.result = t.result.text

section Inv

variable {B : Boot}

/-- What is recorded is the text of the result. -/
theorem dbRunFinish_text (run : DbRun) (v : Verdict) (now : Nat) :
    (dbRunFinish run (some v.text) now).result = v.text :=
  v.snprintf_text

theorem HistoryInv.step_task {d : Device} {s' : Shared} {t t' : Task} {i : Nat}
    (I : DeviceInv d) (H : HistoryInv d) (ht : d.tasks[i]? = some t)
    (hb : ∀ k e, t.pc = .emit k (.insert e) → e.args = taskArgs t k)
    (h : TaskStep B d.shared t s' t') :
    HistoryInv { d with shared := s', tasks := d.tasks.set i t' } := by
  have hmem : t ∈ d.tasks := List.mem_of_getElem? ht
  have hset := fun u => KeyedList.mem_set_iff I.owner.nodup ht h.born (b := u)
  have hself : t' ∈ d.tasks.set i t' := (hset t').mpr (Or.inl rfl)
  have hnext : ∀ {P : Task → Prop}, (P t → P t') → ∀ n, (∃ u ∈ d.tasks, u.born = n ∧ P u) →
      ∃ u ∈ d.tasks.set i t', u.born = n ∧ P u :=
    fun hP _ he => KeyedList.exists_set I.owner.nodup ht h.born hP he
  have hnone : ∀ n, (∀ u ∈ d.tasks, u.born ≠ n) → ∀ u ∈ d.tasks.set i t', u.born ≠ n := by
    intro n hn u hu
    rcases (hset u).mp hu with rfl | ⟨hu, -⟩
    · rw [h.born]
      exact hn t hmem
    · exact hn u hu
  have hsaid : ∀ x ∈ s'.inserted, ∀ n, x.source = some n →
      ∃ u ∈ d.tasks.set i t', u.born = n ∧ u.said x.event.args := by
    intro x hx n hn
    rcases h.inserts hb with e | ⟨k, e, -, e', hs⟩
    · rw [e] at hx
      exact hnext h.said n (H.said x hx n hn)
    · rw [e'] at hx
      rcases List.mem_append.mp hx with hx | hx
      · exact hnext h.said n (H.said x hx n hn)
      · rw [List.mem_singleton] at hx
        subst hx
        cases hn
        exact ⟨t', hself, h.born, hs⟩
  have hold : ∀ p ∈ d.shared.finished,
      (∃ u ∈ d.tasks.set i t', u.born = p.1 ∧ u.pc.live = false ∧ p.2.result = u.result.text) ∨
        (∀ u ∈ d.tasks.set i t', u.born ≠ p.1) ∧ p.2.result = Verdict.fail.text := by
    intro p hp
    rcases H.finished p hp with hw | ⟨hn, hf⟩
    · refine Or.inl (hnext (P := fun u => u.pc.live = false ∧ p.2.result = u.result.text) ?_ _ hw)
      intro hd
      obtain ⟨hdead, hr⟩ := hd
      refine ⟨?_, by rw [(h.keeps (TaskPc.chosen_of_dead hdead)).2.2.1]; exact hr⟩
      rcases h.finishes with ⟨-, -, hl⟩ | ⟨-, hl, -⟩
      · rw [hl]
        exact hdead
      · exact hl
    · exact Or.inr ⟨hnone _ hn, hf⟩
  rcases h.finishes with ⟨hrun, hfin, hlive⟩ | ⟨hpc, hdead, hrun, hfin⟩
  · refine ⟨hsaid, ?_, ?_, ?_, fun u hu hd => ?_⟩
    · rw [hfin]
      exact hold
    · rw [hfin]
      exact H.finished_lt
    · rw [hfin, hrun]
      exact H.finished_old
    · rw [hfin]
      rcases (hset u).mp hu with rfl | ⟨hu, -⟩
      · have hd' : t.pc.live = false := hlive ▸ hd
        obtain ⟨r, hr, hres⟩ := H.recorded t hmem hd'
        refine ⟨r, by rw [h.born]; exact hr, ?_⟩
        rw [(h.keeps (TaskPc.chosen_of_dead hd')).2.2.1]
        exact hres
      · exact H.recorded u hu hd
  · -- the worker finishes: its record is appended
    have hres : t'.result = t.result := (h.keeps (by rw [hpc]; rfl)).2.2.1
    have hrec : s'.run.result = t'.result.text := by
      rw [hrun, hres]
      exact dbRunFinish_text _ _ _
    refine ⟨hsaid, fun p hp => ?_, fun p hp => ?_, fun ha => ?_, fun u hu hd => ?_⟩
    · rw [hfin] at hp
      rcases List.mem_append.mp hp with hp | hp
      · exact hold p hp
      · rw [List.mem_singleton] at hp
        subst hp
        exact Or.inl ⟨t', hself, h.born, hdead, hrec⟩
    · rw [hfin] at hp
      rcases List.mem_append.mp hp with hp | hp
      · exact H.finished_lt p hp
      · rw [List.mem_singleton] at hp
        subst hp
        exact I.owner.born_lt t hmem
    · have hc : s'.run.state.active = false := by rw [hrun]; rfl
      rw [hc] at ha
      cases ha
    · rw [hfin]
      rcases (hset u).mp hu with rfl | ⟨hu, -⟩
      · exact ⟨s'.run, List.mem_append_right _ (by rw [h.born]; exact List.mem_singleton_self _),
          hrec⟩
      · obtain ⟨r, hr, hres⟩ := H.recorded u hu hd
        exact ⟨r, List.mem_append_left _ hr, hres⟩

theorem historyInv_step {d d' : Device} {a : Action} (I : DeviceInv d) (H : HistoryInv d)
    (hb : ∀ t ∈ d.tasks, ∀ k e, t.pc = .emit k (.insert e) → e.args = taskArgs t k)
    (h : DeviceStep B d a d') : HistoryInv d' := by
  cases h with
  | @begin body request hh hr hs =>
      have hlen : (d.accepted ++ [(runIdText B.bootNonce.toNat ((d.runCounter + 1) % 2 ^ 32),
          request)]).length = d.accepted.length + 1 := by
        rw [List.length_append, List.length_singleton]
      refine ⟨H.said, H.finished, fun p hp => ?_, fun _ p hp => ?_, H.recorded⟩
      · show p.1 < (d.accepted ++ _).length
        rw [hlen]
        exact Nat.lt_succ_of_lt (H.finished_lt p hp)
      · show p.1 ≠ (d.accepted ++ _).length - 1
        rw [hlen]
        exact Nat.ne_of_lt (H.finished_lt p hp)
  | created hh =>
      have ho : d.http.owns = true := by rw [hh]; rfl
      obtain ⟨ha, -, -⟩ := I.owner.handler ho
      refine ⟨fun x hx n hn => ?_, fun p hp => ?_, H.finished_lt, H.finished_old,
        fun t ht hd => ?_⟩
      · obtain ⟨t, ht, hs⟩ := H.said x hx n hn
        exact ⟨t, List.mem_append_left _ ht, hs⟩
      · rcases H.finished p hp with ⟨t, ht, hs⟩ | ⟨hn, hf⟩
        · exact Or.inl ⟨t, List.mem_append_left _ ht, hs⟩
        · refine Or.inr ⟨fun t ht => ?_, hf⟩
          rcases List.mem_append.mp ht with ht | ht
          · exact hn t ht
          · rw [List.mem_singleton] at ht
            subst ht
            exact (H.finished_old ha p hp).symm
      · rcases List.mem_append.mp ht with ht | ht
        · exact H.recorded t ht hd
        · rw [List.mem_singleton] at ht
          subst ht
          cases hd
  | finishFailed hh =>
      have ho : d.http.owns = true := by rw [hh]; rfl
      obtain ⟨-, hne, hlt⟩ := I.owner.handler ho
      have hpos : 0 < d.accepted.length := List.length_pos_iff.mpr hne
      refine ⟨H.said, fun p hp => ?_, fun p hp => ?_, fun ha => ?_, fun t ht hd => ?_⟩
      · rcases List.mem_append.mp hp with hp | hp
        · exact H.finished p hp
        · rw [List.mem_singleton] at hp
          subst hp
          exact Or.inr ⟨fun t ht => Nat.ne_of_lt (hlt t ht), dbRunFinish_text _ _ _⟩
      · rcases List.mem_append.mp hp with hp | hp
        · exact H.finished_lt p hp
        · rw [List.mem_singleton] at hp
          subst hp
          exact Nat.sub_lt hpos Nat.one_pos
      · cases ha
      · obtain ⟨r, hr, hres⟩ := H.recorded t ht hd
        exact ⟨r, List.mem_append_left _ hr, hres⟩
  | abort hh hs hid =>
      exact ⟨H.said, H.finished, H.finished_lt, fun _ => H.finished_old (by rw [hs]; rfl),
        H.recorded⟩
  | task ht hs => exact H.step_task I ht (hb _ (List.mem_of_getElem? ht)) hs
  | mainInsert hm =>
      refine ⟨fun x hx n hn => ?_, H.finished, H.finished_lt, H.finished_old, H.recorded⟩
      rcases List.mem_append.mp hx with hx | hx
      · exact H.said x hx n hn
      · rw [List.mem_singleton] at hx
        subst hx
        cases hn
  | refused | notCreated | abortRefused | mainNumber | mainBuild | startHttp | startFailed
  | tick | radio => exact ⟨H.said, H.finished, H.finished_lt, H.finished_old, H.recorded⟩

theorem historyInv_initial (marker : RebootMarker) : HistoryInv (.initial marker) where
  said _ hx := absurd hx List.not_mem_nil
  finished _ hp := absurd hp List.not_mem_nil
  finished_lt _ hp := absurd hp List.not_mem_nil
  finished_old ha := Bool.noConfusion ha
  recorded _ ht := absurd ht List.not_mem_nil

/-- **The histories are right in every reachable state.** -/
theorem historyInv_reach {C : Device → Action → Prop} {d : Device} (h : Reach (device B) C d) :
    HistoryInv d := by
  refine device_reach historyInv_initial ?_ h
  intro s a s' hr H _ _ hs
  exact historyInv_step (deviceInv_reach hr) H (task_built hr) hs

/-- **Where a run event comes from**: a worker of the run said it, and the worker knows its run as
    it was accepted. -/
theorem runEvent_task {C : Device → Action → Prop} {d : Device} (h : Reach (device B) C d)
    {i : Insertion} (hi : i ∈ d.shared.inserted) {n : Nat} (hn : i.source = some n) :
    ∃ t ∈ d.tasks, t.born = n ∧ (∃ k, i.event.args = taskArgs t k) ∧
      ∃ p, d.accepted[n]? = some p ∧ t.run.runId = p.1 ∧ t.run.request = p.2 := by
  obtain ⟨t, ht, rfl, k, hargs, hc, -⟩ := (historyInv_reach h).said i hi n hn
  exact ⟨t, ht, rfl, ⟨k, hargs⟩, (deviceInv_reach h).owner.copied t ht hc⟩

end Inv

end DragonBench
