/-
  File:      DragonBench/Association.lean
  Subject:   WHEN `WIFI_ASSOCIATED_IDLE` LOOKS AT THE ASSOCIATION: once, in front of its waiting.

  `workload_task` tests the station and, when it is not connected, the clients of the access point;
  then it waits, and the waiting polls the abort flag only. So a `pass` says that the board was
  associated when the waiting began, and nothing of what came later.

  * `Look`, `Task.look?`, `Watched`, `watched` -- the device beside what the radio was like at each
    test of the association and each abort poll;
  * `AssociatedThroughout`, `associated_throughout_fails` -- an association lost while waiting goes
    unnoticed;
  * `Tested`, `AssocTask`, `AssocInv` -- what is known of the worker of such a run;
  * **`pass_was_associated_at_start`** -- what a `pass` does say.
-/
import DragonBench.Verdicts

namespace DragonBench

open Transition

/-! ## 1. What the radio is like at the tests and the polls -/

inductive LookKind where
  /-- `sta_state == DB_STA_CONNECTED` -/
  | station
  /-- `ap_client_count > 0` -/
  | clients
  /-- `should_abort()` -/
  | poll
  deriving DecidableEq, Repr

/-- The radio at one of these, in the run with this number. -/
structure Look where
  run : Nat
  kind : LookKind
  staConnected : Bool
  apClientCount : Nat
  deriving DecidableEq, Repr

/-- The station was connected or the access point had a client. -/
def Look.associated (l : Look) : Bool := l.staConnected || 0 < l.apClientCount

/-- A test that found what it asked for. -/
def Look.found (l : Look) : Bool :=
  match l.kind with
  | .station => l.staConnected
  | .clients => 0 < l.apClientCount
  | .poll => false

/-- The test or the poll a task is at. -/
def TaskPc.look? : TaskPc → Option LookKind
  | .work (.associated _) => some .station
  | .work (.clients _) => some .clients
  | .work w => if w.polls then some .poll else none
  | .choose | .faultTest | .rebootTest => some .poll
  | _ => none

/-- What the next step of a task looks at. -/
def Task.look? (s : Shared) (t : Task) : Option Look :=
  t.pc.look?.map fun kind => ⟨t.born, kind, s.staConnected, s.apClientCount⟩

/-- What a step of the device looks at. -/
def Device.look? (d : Device) : Action → Option Look
  | .task i _ => d.tasks[i]?.bind (Task.look? d.shared)
  | _ => none

/-- The device with the looks of all its runs, in their order. -/
structure Watched where
  device : Device
  looks : List Look

/-- The device under watch. -/
def watched (B : Boot) : System Watched Action where
  init w := (device B).init w.device ∧ w.looks = []
  step w a := ((device B).step w.device a).map fun d => ⟨d, w.looks ++ (w.device.look? a).toList⟩

variable {B : Boot}

/-- The device under watch is the device. -/
theorem watched_device {w : Watched} (h : Reach (watched B) Always w) :
    Reach (device B) Always w.device := by
  induction h with
  | start h => exact .start h.1
  | step _ hc hs ih =>
      obtain ⟨d, hd, rfl⟩ := Option.map_eq_some_iff.mp hs
      exact .step ih hc hd

/-! ## 2. What does not hold -/

/-- **A `pass` means association at every abort poll.** -/
def AssociatedThroughout (B : Boot) : Prop :=
  ∀ w, Reach (watched B) Always w → ∀ n r p, (n, r) ∈ w.device.shared.finished →
    w.device.accepted[n]? = some p → p.2.workload = .wifiAssociatedIdle →
    r.result = Verdict.pass.text → ∀ l ∈ w.looks, l.run = n → l.kind = .poll → l.associated = true

/-- The station is connected at the test and lost before the first poll. -/
def lostWhileWaiting : List Action :=
  bootActions ++ [.radio true 0, .runsPost (bodyOf .wifiAssociatedIdle), .createTask true] ++
    List.replicate 7 firstTask ++ [.radio false 0, firstTask, firstTask, .tick 30000] ++
    List.replicate 6 firstTask

/-- That run, under watch. -/
def lostWatched : Watched := (watched benchBoot).runEnd ⟨.initial ⟨0, []⟩, []⟩ lostWhileWaiting

set_option maxRecDepth 8000 in
theorem lostWatched_reach : Reach (watched benchBoot) Always lostWatched :=
  reach_runEnd (.start ⟨⟨_, rfl⟩, rfl⟩) (by decide)

set_option maxRecDepth 8000 in
/-- Its first run has passed, and was one of `WIFI_ASSOCIATED_IDLE`. -/
theorem lostWatched_passed :
    (∃ r, (0, r) ∈ lostWatched.device.shared.finished ∧ r.result = Verdict.pass.text) ∧
      ∃ p, lostWatched.device.accepted[0]? = some p ∧ p.2.workload = .wifiAssociatedIdle :=
  ⟨⟨_, List.mem_of_getElem? (i := 0) rfl, by decide⟩, _, rfl, rfl⟩

set_option maxRecDepth 8000 in
/-- **An association lost while waiting goes unnoticed.** -/
theorem associated_throughout_fails : ¬ AssociatedThroughout benchBoot := by
  intro h
  obtain ⟨⟨r, hr, hres⟩, p, hp, hw⟩ := lostWatched_passed
  have hl : (⟨0, .poll, false, 0⟩ : Look) ∈ lostWatched.looks := by decide
  have := h _ lostWatched_reach 0 r p hr hp hw hres _ hl rfl rfl
  cases this

/-! ## 3. The worker of such a run -/

/-- **The association was tested and found**, and the run had not polled before. -/
def Tested (n : Nat) (looks : List Look) : Prop :=
  ∃ before l after, looks = before ++ l :: after ∧ l.run = n ∧ l.found = true ∧
    ∀ k ∈ before, k.run = n → k.kind ≠ .poll

/-- What was found stays found. -/
theorem Tested.append {n : Nat} {looks : List Look} (h : Tested n looks) (more : List Look) :
    Tested n (looks ++ more) := by
  obtain ⟨before, l, after, rfl, hrest⟩ := h
  exact ⟨before, l, after ++ more, by simp, hrest⟩

/-- A look that finds the association is the test. -/
theorem tested_snoc {n : Nat} {looks : List Look} (h : ∀ k ∈ looks, k.run = n → k.kind ≠ .poll)
    {l : Look} (hl : l.run = n) (hf : l.found = true) : Tested n (looks ++ [l]) :=
  ⟨looks, l, [], rfl, hl, hf, h⟩

/-- The worker has not come to its waiting. -/
def TaskPc.early : TaskPc → Bool
  | .copy | .emit .phaseStart _ | .work (.associated _) | .work (.clients _) => true
  | _ => false

/-- **What is known of a worker**: it does not poll before it waits; and where its request is for
    the associated waiting, it waits, returns true and passes only after the test. -/
structure AssocTask (looks : List Look) (t : Task) : Prop where
  early : t.pc.early = true → ∀ l ∈ looks, l.run = t.born → l.kind ≠ .poll
  waiting : t.run.request.workload = .wifiAssociatedIdle → ∀ pc, t.pc = .work (.wait pc) →
    Tested t.born looks
  returned : t.run.request.workload = .wifiAssociatedIdle → t.pc = .choose → t.ok = true →
    Tested t.born looks
  chosen : t.run.request.workload = .wifiAssociatedIdle → t.pc.chosen = true → t.result = .pass →
    Tested t.born looks

/-- The looks of other tasks change nothing. -/
theorem AssocTask.frame {looks : List Look} {t : Task} (A : AssocTask looks t) {more : List Look}
    (h : ∀ l ∈ more, l.run ≠ t.born) : AssocTask (looks ++ more) t where
  early he l hl hr := by
    rcases List.mem_append.mp hl with hl | hl
    · exact A.early he l hl hr
    · exact absurd hr (h l hl)
  waiting hw pc hpc := (A.waiting hw pc hpc).append more
  returned hw hpc hok := (A.returned hw hpc hok).append more
  chosen hw hc hr := (A.chosen hw hc hr).append more

theorem TaskPc.early_of_chosen {pc : TaskPc} (h : pc.chosen = true) : pc.early = false := by
  cases pc with
  | emit k stage => cases k <;> first | rfl | cases h
  | copy | work | choose => cases h
  | _ => rfl

/-- A worker in front of its workload function. -/
theorem AssocTask.silent {looks : List Look} {t : Task}
    (he : ∀ l ∈ looks, l.run = t.born → l.kind ≠ .poll) (hw : ∀ pc, t.pc ≠ .work (.wait pc))
    (hc : t.pc ≠ .choose) (hch : t.pc.chosen = false) : AssocTask looks t where
  early _ := he
  waiting _ pc e := absurd e (hw pc)
  returned _ e := absurd e hc
  chosen _ e := by
    rw [hch] at e
    cases e

section Step

variable {s s' : Shared} {t t' : Task} {looks : List Look}

/-- A task that is neither at a test nor at a poll. -/
theorem look?_of_pc {pc : TaskPc} (h : t.pc = pc) (hl : pc.look? = none) : t.look? s = none := by
  unfold Task.look?
  rw [h, hl]
  rfl

/-- The tests and the waiting, step by step. -/
theorem AssocTask.more {w w' : Work} {ret : Int} (A : AssocTask looks t) (hpc : t.pc = .work w)
    (hw : workStep B.board (s.seen ret) w = .more w') {polls : List Bool} :
    AssocTask (looks ++ (t.look? s).toList) { t with polls := polls, pc := .work w' } := by
  have hlook : t.look? s = t.pc.look?.map fun kind =>
    ⟨t.born, kind, s.staConnected, s.apClientCount⟩ := rfl
  rw [hpc] at hlook
  cases w with
  | associated d =>
      have he := A.early (by rw [hpc]; rfl)
      rw [hlook]
      simp only [workStep] at hw
      split at hw
      · rename_i hsta
        cases hw
        refine ⟨fun e => Bool.noConfusion e, fun _ pc _ => ?_, fun _ e => TaskPc.noConfusion e,
          fun _ e => Bool.noConfusion e⟩
        exact tested_snoc he rfl hsta
      · cases hw
        refine .silent ?_ (fun pc e => by cases e) TaskPc.noConfusion rfl
        intro l hl hr
        rcases List.mem_append.mp hl with hl | hl
        · exact he l hl hr
        · rw [List.mem_singleton.mp hl]
          exact LookKind.noConfusion
  | clients d =>
      have he := A.early (by rw [hpc]; rfl)
      rw [hlook]
      simp only [workStep] at hw
      split at hw
      · rename_i hcount
        cases hw
        refine ⟨fun e => Bool.noConfusion e, fun _ pc _ => ?_, fun _ e => TaskPc.noConfusion e,
          fun _ e => Bool.noConfusion e⟩
        exact tested_snoc he rfl (decide_eq_true hcount)
      · cases hw
  | wait pc =>
      obtain ⟨pc', -, rfl⟩ := Outcome.map_eq_more hw
      exact ⟨fun e => Bool.noConfusion e, fun hr pc'' _ => (A.waiting hr pc hpc).append _,
        fun _ e => TaskPc.noConfusion e, fun _ e => Bool.noConfusion e⟩
  | cpu pc | nvs pc | partition pc | network pc =>
      obtain ⟨pc', -, rfl⟩ := Outcome.map_eq_more hw
      exact ⟨fun e => Bool.noConfusion e, fun _ pc e => (by cases e),
        fun _ e => TaskPc.noConfusion e, fun _ e => Bool.noConfusion e⟩

/-- Only the waiting returns true for the associated waiting. -/
theorem AssocTask.returns {w : Work} {ret : Int} {ok : Bool} {a b : Nat} (A : AssocTask looks t)
    (hpc : t.pc = .work w) (S : Serves t.run.request w)
    (hr : t.run.request.workload = .wifiAssociatedIdle)
    (hw : workStep B.board (s.seen ret) w = .done ok a b) (hok : ok = true) :
    Tested t.born looks := by
  have hf := S.function
  rw [hr] at hf
  cases w with
  | wait pc => exact A.waiting hr pc hpc
  | associated d =>
      simp only [workStep] at hw
      split at hw <;> cases hw
  | clients d =>
      simp only [workStep] at hw
      split at hw <;> cases hw
      cases hok
  | cpu pc | nvs pc | partition pc => cases hf
  | network pc => cases hf

/-- **A step of a worker keeps what is known of it.** -/
theorem assocTask_step (h : TaskStep B s t s' t') (S : ∀ w, t.pc = .work w → Serves t.run.request w)
    (A : AssocTask looks t) : AssocTask (looks ++ (t.look? s).toList) t' := by
  cases hc : t.pc.chosen with
  | true =>
      obtain ⟨hc', hrun, hres, -, -, -, -⟩ := h.keeps hc
      have hb : t'.born = t.born := h.born
      refine ⟨fun e => ?_, fun _ pc e => ?_, fun _ e => ?_, fun hw _ hr => ?_⟩
      · rw [TaskPc.early_of_chosen hc'] at e
        cases e
      · rw [e] at hc'
        cases hc'
      · rw [e] at hc'
        cases hc'
      · rw [hb]
        exact (A.chosen (hrun ▸ hw) hc (hres ▸ hr)).append _
  | false =>
      cases h with
      | copy hpc =>
          have he := A.early (by rw [hpc]; rfl)
          rw [look?_of_pc hpc rfl, Option.toList_none, List.append_nil]
          exact .silent he (fun pc => TaskPc.noConfusion) TaskPc.noConfusion rfl
      | @number k hpc | @build k _ hpc =>
          rw [hpc] at hc
          cases k with
          | phaseStart =>
              have he := A.early (by rw [hpc]; rfl)
              rw [look?_of_pc hpc rfl, Option.toList_none, List.append_nil]
              exact .silent he (fun pc => TaskPc.noConfusion) TaskPc.noConfusion rfl
          | fault | phaseEnd | runComplete => cases hc
      | @insert k e hpc =>
          rw [hpc] at hc
          cases k with
          | phaseStart =>
              have he := A.early (by rw [hpc]; rfl)
              rw [look?_of_pc hpc rfl, Option.toList_none, List.append_nil]
              refine ⟨fun _ => he, fun hr pc e => ?_, fun _ => TaskPc.noConfusion,
                fun _ => Bool.noConfusion⟩
              -- the function of this workload begins with the test
              have hwork : workStart B.board t.run.request = .wait pc := TaskPc.work.inj e
              unfold workStart at hwork
              rw [hr] at hwork
              cases hwork
          | fault | phaseEnd | runComplete => cases hc
      | more hpc hw => exact A.more hpc hw
      | done hpc hw =>
          exact ⟨fun e => Bool.noConfusion e, fun _ pc => TaskPc.noConfusion,
            fun hr _ hok => (A.returns hpc (S _ hpc) hr hw hok).append _,
            fun _ => Bool.noConfusion⟩
      | choose hpc =>
          have hch := chosen_behind_choose t.ok
          obtain ⟨hne, hne'⟩ := TaskPc.behind_of_chosen hch
          refine ⟨fun e => ?_, fun _ pc e => absurd e (hne _), fun _ e => absurd e hne',
            fun hr _ hres => ?_⟩
          · rw [TaskPc.early_of_chosen hch] at e
            cases e
          · exact (A.returned hr hpc (Task.verdict_eq_pass hres).2).append _
      | noFault hpc | fault hpc | finish hpc | noReboot hpc | reboot hpc | markMagic hpc
      | markRunId hpc | delay hpc | restart hpc =>
          rw [hpc] at hc
          cases hc

end Step

/-! ## 4. The invariant -/

/-- **The association invariant.** -/
structure AssocInv (w : Watched) : Prop where
  born : ∀ l ∈ w.looks, ∃ t ∈ w.device.tasks, t.born = l.run
  task : ∀ t ∈ w.device.tasks, AssocTask w.looks t

/-- A new task has no looks yet. -/
theorem AssocInv.created {d : Device} {looks : List Look} (A : AssocInv ⟨d, looks⟩)
    (hn : ((addTask d).tasks.map Task.born).Nodup) : AssocInv ⟨addTask d, looks⟩ where
  born l hl := by
    obtain ⟨t, ht, hb⟩ := A.born l hl
    exact ⟨t, List.mem_append_left _ ht, hb⟩
  task t ht := by
    rcases List.mem_append.mp ht with ht | ht
    · exact A.task t ht
    · rw [List.mem_singleton] at ht
      subst ht
      refine .silent (fun l hl hr => ?_) (fun pc => TaskPc.noConfusion) TaskPc.noConfusion rfl
      obtain ⟨u, hu, hb⟩ := A.born l hl
      have hnew : (addTask d).tasks.map Task.born = d.tasks.map Task.born ++ [d.current] :=
        List.map_append
      rw [hnew] at hn
      have hmem : d.current ∈ d.tasks.map Task.born :=
        List.mem_map.mpr ⟨u, hu, hb.trans hr⟩
      exact absurd rfl ((List.nodup_append.mp hn).2.2 _ hmem _ (List.mem_singleton_self _))

/-- A step of one worker. -/
theorem AssocInv.step_task {d : Device} {looks : List Look} {s' : Shared} {t t' : Task} {i : Nat}
    (I : DeviceInv d) (A : AssocInv ⟨d, looks⟩) (ht : d.tasks[i]? = some t)
    (S : ∀ w, t.pc = .work w → Serves t.run.request w) (h : TaskStep B d.shared t s' t') :
    AssocInv ⟨{ d with shared := s', tasks := d.tasks.set i t' },
      looks ++ (t.look? d.shared).toList⟩ := by
  have hmem := List.mem_of_getElem? ht
  have hset := fun u => KeyedList.mem_set_iff I.owner.nodup ht h.born (b := u)
  have hlook : ∀ l ∈ (t.look? d.shared).toList, l.run = t.born := by
    intro l hl
    obtain ⟨k, -, rfl⟩ := Option.map_eq_some_iff.mp (Option.mem_toList.mp hl)
    rfl
  refine ⟨fun l hl => ?_, fun u hu => ?_⟩
  · have hold : ∃ u ∈ d.tasks, u.born = l.run := by
      rcases List.mem_append.mp hl with hl | hl
      · exact A.born l hl
      · exact ⟨t, hmem, (hlook l hl).symm⟩
    obtain ⟨u, hu, hb⟩ := hold
    by_cases hk : u.born = t.born
    · exact ⟨t', (hset t').mpr (Or.inl rfl), h.born.trans (hk.symm.trans hb)⟩
    · exact ⟨u, (hset u).mpr (Or.inr ⟨hu, hk⟩), hb⟩
  · rcases (hset u).mp hu with rfl | ⟨hu, hk⟩
    · exact assocTask_step h S (A.task t hmem)
    · exact (A.task u hu).frame fun l hl hr => hk (hr.symm.trans (hlook l hl))

theorem assocInv_reach {w : Watched} (h : Reach (watched B) Always w) : AssocInv w := by
  refine h.inv ?_ ?_
  · rintro ⟨d, looks⟩ ⟨⟨marker, rfl⟩, rfl⟩
    exact ⟨fun l hl => absurd hl List.not_mem_nil, fun t ht => absurd ht List.not_mem_nil⟩
  · rintro ⟨d, looks⟩ a w' hr A _ hs
    obtain ⟨d', hd, rfl⟩ := Option.map_eq_some_iff.mp hs
    have hdev : Reach (device B) Always d := watched_device hr
    have hdev' : Reach (device B) Always d' := hdev.step trivial hd
    cases (step_cases hd).2 with
    | created hh =>
        have A' := A.created (deviceInv_reach hdev').owner.nodup
        simpa [Device.look?] using A'
    | @task i ret t t' s' ht hst =>
        have hl : d.look? (.task i ret) = t.look? d.shared := by
          simp only [Device.look?, ht, Option.bind_some]
        rw [hl]
        exact A.step_task (deviceInv_reach hdev) ht
          (worker_serves hdev t (List.mem_of_getElem? ht)) hst
    | refused | begin | notCreated | finishFailed | abortRefused | abort | mainNumber | mainBuild
    | mainInsert | startHttp | startFailed | tick | radio =>
        refine ⟨fun l hl => A.born l ?_, fun t ht => ?_⟩
        · simpa [Device.look?] using hl
        · simpa [Device.look?] using A.task t ht

/-- **What a `pass` of `WIFI_ASSOCIATED_IDLE` says**: before its first poll the run tested the
    station and found it connected, or then the clients and found one. -/
theorem pass_was_associated_at_start {w : Watched} (h : Reach (watched B) Always w) {n : Nat}
    {r : DbRun} {p : CText × DbRunRequest} (hr : (n, r) ∈ w.device.shared.finished)
    (hp : w.device.accepted[n]? = some p) (hw : p.2.workload = .wifiAssociatedIdle)
    (hres : r.result = Verdict.pass.text) : Tested n w.looks := by
  have hdev : Reach (device B) Always w.device := watched_device h
  rcases (historyInv_reach hdev).finished _ hr with ⟨t, ht, rfl, hdead, hres'⟩ | ⟨-, hfail⟩
  · have hne : t.pc ≠ .copy := by
      intro e
      rw [e] at hdead
      cases hdead
    obtain ⟨p', hp', -, hreq, -⟩ := worker_executes_accepted hdev ht hne
    have e : p' = p := Option.some_inj.mp (hp'.symm.trans hp)
    subst e
    have hpass : t.result = .pass := Verdict.text_injective (hres'.symm.trans hres)
    exact ((assocInv_reach h).task t ht).chosen (hreq ▸ hw) (TaskPc.chosen_of_dead hdead) hpass
  · rw [hfail] at hres
    exact absurd (Verdict.text_injective hres) Verdict.noConfusion

/-- The run that loses its association had it at its start. -/
theorem pass_was_associated_at_start_lost : Tested 0 lostWatched.looks := by
  obtain ⟨⟨r, hr, hres⟩, p, hp, hw⟩ := lostWatched_passed
  exact pass_was_associated_at_start lostWatched_reach hr hp hw hres

end DragonBench
