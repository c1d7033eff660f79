/-
  File:      DragonBench/Ownership.lean
  Subject:   WHO OWNS THE RUN: in every reachable state the run is active exactly when one handler
             or one workload task has still to finish it.

  `workload_task` gets no argument; it copies `current_run` some time after its creation, and the
  tasks of finished runs live on. That it nevertheless copies its own run, and later finishes its
  own run, rests on one invariant:

  * `OwnerInv` -- the invariant, on the fields it speaks about: the tasks carry increasing run
    numbers, a task that has not finished belongs to the run accepted last, the handler owns the
    run only while no such task exists, and what a task has copied is what was accepted;
  * `OwnerInv.step_task`, `ownerInv_step` -- it is kept by every step;
  * `ownerInv_reach` -- it holds in every reachable state;
  * `RequestInv`, `requestInv_reach` -- what was accepted is what `runs_post` validated, under the
    run id it printed;
  * **`one_owner`**, **`worker_executes_accepted`** -- what follows for owners and workers.
-/
import DragonBench.DeviceStep
import DragonBench.Lib.KeyedList

namespace DragonBench

open Transition

/-! ## 1. The invariant -/

/-- The worker has not yet called `db_run_finish`. -/
def TaskPc.live : TaskPc → Bool
  | .emit .runComplete _ | .rebootTest | .markMagic | .markRunId | .delay | .restart
  | .deleted => false
  | .copy | .emit .phaseStart _ | .work _ | .choose | .faultTest | .emit .fault _
  | .emit .phaseEnd _ | .finish => true

/-- The handler stands between `db_run_begin` and the end of its own part. -/
def HttpPc.owns : HttpPc → Bool
  | .creating | .createFailed => true
  | .down | .idle => false

/-- **The ownership invariant** on `current_run`, the HTTP task, the workload tasks and the runs
    accepted so far. -/
structure OwnerInv (run : DbRun) (http : HttpPc) (tasks : List Task)
    (accepted : List (CText × DbRunRequest)) : Prop where
  born_lt : ∀ t ∈ tasks, t.born < accepted.length
  increasing : (tasks.map Task.born).Pairwise (· < ·)
  handler : http.owns = true → run.state.active = true ∧ accepted ≠ [] ∧
    ∀ t ∈ tasks, t.born < accepted.length - 1
  worker : ∀ t ∈ tasks, t.pc.live = true →
    run.state.active = true ∧ t.born = accepted.length - 1
  owned : run.state.active = true → http.owns = true ∨ ∃ t ∈ tasks, t.pc.live = true
  current : ∀ p, accepted[accepted.length - 1]? = some p →
    run.runId = p.1 ∧ run.request = p.2
  copied : ∀ t ∈ tasks, t.pc ≠ .copy → ∃ p, accepted[t.born]? = some p ∧
    t.run.runId = p.1 ∧ t.run.request = p.2

section Inv

variable {B : Boot} {run : DbRun} {http : HttpPc} {tasks : List Task}
  {accepted : List (CText × DbRunRequest)}

theorem OwnerInv.nodup (I : OwnerInv run http tasks accepted) : (tasks.map Task.born).Nodup :=
  I.increasing.imp fun h => Nat.ne_of_lt h

/-- Two unfinished tasks are one. -/
theorem OwnerInv.live_unique (I : OwnerInv run http tasks accepted) {t u : Task} (ht : t ∈ tasks)
    (hu : u ∈ tasks) (lt : t.pc.live = true) (lu : u.pc.live = true) : t = u := by
  refine KeyedList.eq_of_key I.nodup ht hu ?_
  rw [(I.worker t ht lt).2, (I.worker u hu lu).2]

/-- The handler and a worker never own the run at the same time. -/
theorem OwnerInv.not_both (I : OwnerInv run http tasks accepted) {t : Task} (ht : t ∈ tasks)
    (lt : t.pc.live = true) : http.owns = false := by
  cases ho : http.owns with
  | false => rfl
  | true =>
      have h1 := (I.worker t ht lt).2
      have h2 := (I.handler ho).2.2 t ht
      omega

/-! ## 2. A step of a workload task -/

/-- A task stays with its run. -/
theorem TaskStep.born {s s' : Shared} {t t' : Task} (h : TaskStep B s t s' t') :
    t'.born = t.born := by
  cases h <;> rfl

/-- What a task knows of its run is what it copied. -/
theorem TaskStep.copies {s s' : Shared} {t t' : Task} (h : TaskStep B s t s' t') :
    t.pc = .copy ∧ t'.run = s.run ∨ t.pc ≠ .copy ∧ t'.run = t.run := by
  cases h with
  | copy h => exact Or.inl ⟨h, rfl⟩
  | _ =>
      refine Or.inr ⟨?_, rfl⟩
      simp_all

/-- Only `db_run_finish` touches the run, and it ends the ownership. -/
theorem TaskStep.finishes {s s' : Shared} {t t' : Task} (h : TaskStep B s t s' t') :
    s'.run = s.run ∧ s'.finished = s.finished ∧ t'.pc.live = t.pc.live ∨
      t.pc = .finish ∧ t'.pc.live = false ∧
        s'.run = dbRunFinish s.run (some t.result.text) s.clock ∧
        s'.finished = s.finished ++ [(t.born, s'.run)] := by
  cases h with
  | finish h => exact Or.inr ⟨h, rfl, rfl, rfl⟩
  | @number k h | @build k _ h =>
      refine Or.inl ⟨rfl, rfl, ?_⟩
      rw [h]
      cases k <;> rfl
  | @insert k e h =>
      refine Or.inl ⟨rfl, rfl, ?_⟩
      rw [h]
      cases k with
      | runComplete => rcases afterEmit_runComplete B t with ha | ha <;> rw [ha] <;> rfl
      | phaseStart | fault | phaseEnd => rfl
  | choose h =>
      refine Or.inl ⟨rfl, rfl, ?_⟩
      rw [h]
      dsimp only
      split <;> rfl
  | copy h | more h | done h | noFault h | fault h | noReboot h | reboot h | markMagic h
  | markRunId h | delay h | restart h =>
      refine Or.inl ⟨rfl, rfl, ?_⟩
      rw [h]
      rfl

/-- **A step of a workload task keeps the invariant.** -/
theorem OwnerInv.step_task {s s' : Shared} {t t' : Task} {i : Nat}
    (I : OwnerInv s.run http tasks accepted) (ht : tasks[i]? = some t)
    (h : TaskStep B s t s' t') : OwnerInv s'.run http (tasks.set i t') accepted := by
  have hmem : t ∈ tasks := List.mem_of_getElem? ht
  have hset := fun u => KeyedList.mem_set_iff I.nodup ht h.born (b := u)
  have hborn : ∀ u ∈ tasks.set i t', ∃ v ∈ tasks, v.born = u.born := by
    intro u hu
    rcases (hset u).mp hu with rfl | ⟨hu, -⟩
    · exact ⟨t, hmem, h.born.symm⟩
    · exact ⟨u, hu, rfl⟩
  have hcopied : ∀ u ∈ tasks.set i t', u.pc ≠ .copy → ∃ p, accepted[u.born]? = some p ∧
      u.run.runId = p.1 ∧ u.run.request = p.2 := by
    intro u hu hc
    rcases (hset u).mp hu with rfl | ⟨hu, -⟩
    · rw [h.born]
      rcases h.copies with ⟨hpc, e⟩ | ⟨hpc, e⟩
      · have hb := (I.worker t hmem (by rw [hpc]; rfl)).2
        have hp := List.getElem?_eq_getElem (I.born_lt t hmem)
        refine ⟨_, hp, ?_⟩
        rw [e]
        exact I.current _ (hb ▸ hp)
      · rw [e]
        exact I.copied t hmem hpc
    · exact I.copied u hu hc
  have hlt : ∀ u ∈ tasks.set i t', u.born < accepted.length := by
    intro u hu
    obtain ⟨v, hv, e⟩ := hborn u hu
    exact e ▸ I.born_lt v hv
  have hinc : ((tasks.set i t').map Task.born).Pairwise (· < ·) := by
    rw [KeyedList.map_key_set ht h.born]
    exact I.increasing
  rcases h.finishes with ⟨hrun, -, hlive⟩ | ⟨hpc, hdead, hrun, -⟩
  · rw [hrun]
    refine ⟨hlt, hinc, fun ho => ?_, fun u hu lu => ?_, fun ha => ?_, I.current, hcopied⟩
    · obtain ⟨ha, hne, hall⟩ := I.handler ho
      refine ⟨ha, hne, fun u hu => ?_⟩
      obtain ⟨v, hv, e⟩ := hborn u hu
      exact e ▸ hall v hv
    · rcases (hset u).mp hu with rfl | ⟨hu, -⟩
      · rw [h.born]
        exact I.worker t hmem (hlive ▸ lu)
      · exact I.worker u hu lu
    · rcases I.owned ha with ho | ⟨u, hu, lu⟩
      · exact Or.inl ho
      · by_cases hk : u.born = t.born
        · have e := KeyedList.eq_of_key I.nodup hu hmem hk
          subst e
          exact Or.inr ⟨t', (hset t').mpr (Or.inl rfl), hlive.trans lu⟩
        · exact Or.inr ⟨u, (hset u).mpr (Or.inr ⟨hu, hk⟩), lu⟩
  · -- the finishing task was the owner, and nobody is afterwards
    have lt : t.pc.live = true := by rw [hpc]; rfl
    have hno : http.owns = false := I.not_both hmem lt
    have hcomplete : s'.run.state.active = false := by rw [hrun]; rfl
    refine ⟨hlt, hinc, fun ho => ?_, fun u hu lu => ?_, fun ha => ?_, ?_, hcopied⟩
    · rw [hno] at ho
      cases ho
    · rcases (hset u).mp hu with rfl | ⟨hu, hk⟩
      · rw [hdead] at lu
        cases lu
      · exact absurd (congrArg Task.born (I.live_unique hu hmem lu lt)) hk
    · rw [hcomplete] at ha
      cases ha
    · rw [hrun]
      exact I.current

end Inv

/-! ## 3. A step of the device -/

/-- `start_http` has not been called. -/
def MainPc.booting : MainPc → Bool
  | .emit .boot _ | .emit .resetReason _ | .startHttp => true
  | .emit .ready _ | .returned => false

/-- The invariant on the device: ownership, and no handler runs before `start_http`. -/
structure DeviceInv (d : Device) : Prop where
  owner : OwnerInv d.shared.run d.http d.tasks d.accepted
  boot : d.main.booting = true → d.http = .down

section Device

variable {B : Boot}

/-- The run id fills 17 characters. -/
theorem runIdText_eq {nonce counter : Nat} (hn : nonce < 2 ^ 32) (hc : counter < 2 ^ 32) :
    runIdText nonce counter = CText.hex08 nonce ++ '-' :: CText.hex08 counter := by
  refine CText.snprintf_of_lt ?_
  rw [List.length_append, List.length_cons, CText.hex08_length hn, CText.hex08_length hc]
  decide

theorem runIdText_length {nonce counter : Nat} (hn : nonce < 2 ^ 32) (hc : counter < 2 ^ 32) :
    (runIdText nonce counter).length = 17 := by
  rw [runIdText_eq hn hc, List.length_append, List.length_cons, CText.hex08_length hn,
    CText.hex08_length hc]

/-- `db_run_begin` keeps the whole id. -/
theorem snprintf_runIdText (nonce : BitVec 32) (counter : Nat) :
    CText.snprintf dbRunIdLen (runIdText nonce.toNat (counter % 2 ^ 32)) =
      runIdText nonce.toNat (counter % 2 ^ 32) := by
  refine CText.snprintf_of_lt ?_
  rw [runIdText_length nonce.isLt (Nat.mod_lt _ (by omega))]
  decide

theorem OwnerInv.begin {run : DbRun} {tasks : List Task} {accepted : List (CText × DbRunRequest)}
    (I : OwnerInv run .idle tasks accepted) (hs : run.state.active = false)
    {id : CText} (hid : CText.snprintf dbRunIdLen id = id) (request : DbRunRequest) (now : Nat) :
    OwnerInv (dbRunBegin request id now) .creating tasks (accepted ++ [(id, request)]) := by
  have hdead : ∀ t ∈ tasks, t.pc.live = false := by
    intro t ht
    cases hl : t.pc.live with
    | false => rfl
    | true =>
        have ha := (I.worker t ht hl).1
        rw [hs] at ha
        cases ha
  have hlen : (accepted ++ [(id, request)]).length - 1 = accepted.length := by
    rw [List.length_append, List.length_singleton, Nat.add_sub_cancel]
  refine ⟨fun t ht => ?_, I.increasing, fun _ => ⟨rfl, ?_, fun t ht => ?_⟩, fun t ht lt => ?_,
    fun _ => Or.inl rfl, fun p hp => ?_, fun t ht hc => ?_⟩
  · rw [List.length_append]
    exact Nat.lt_add_right _ (I.born_lt t ht)
  · exact List.append_ne_nil_of_right_ne_nil _ (List.cons_ne_nil _ _)
  · rw [hlen]
    exact I.born_lt t ht
  · rw [hdead t ht] at lt
    cases lt
  · rw [hlen, List.getElem?_concat_length] at hp
    cases hp
    exact ⟨hid, rfl⟩
  · obtain ⟨p, hp, hr⟩ := I.copied t ht hc
    exact ⟨p, by rw [List.getElem?_append_left (I.born_lt t ht)]; exact hp, hr⟩

theorem OwnerInv.created {run : DbRun} {tasks : List Task}
    {accepted : List (CText × DbRunRequest)} (I : OwnerInv run .creating tasks accepted) :
    OwnerInv run .idle (tasks ++ [.fresh (accepted.length - 1)]) accepted := by
  obtain ⟨ha, hne, hlt⟩ := I.handler rfl
  have hpos : 0 < accepted.length := List.length_pos_iff.mpr hne
  refine ⟨fun t ht => ?_, ?_, fun ho => ?_, fun t ht lt => ?_, fun _ => Or.inr ?_, I.current,
    fun t ht hc => ?_⟩
  · rcases List.mem_append.mp ht with ht | ht
    · exact I.born_lt t ht
    · rw [List.mem_singleton] at ht
      subst ht
      show accepted.length - 1 < accepted.length
      omega
  · rw [List.map_append, List.pairwise_append]
    refine ⟨I.increasing, List.pairwise_singleton _ _, fun a hma b hmb => ?_⟩
    obtain ⟨t, ht, rfl⟩ := List.mem_map.mp hma
    rw [List.map_singleton, List.mem_singleton] at hmb
    subst hmb
    exact hlt t ht
  · cases ho
  · rcases List.mem_append.mp ht with ht | ht
    · exact I.worker t ht lt
    · rw [List.mem_singleton] at ht
      subst ht
      exact ⟨ha, rfl⟩
  · exact ⟨_, List.mem_append_right _ (List.mem_singleton_self _), rfl⟩
  · rcases List.mem_append.mp ht with ht | ht
    · exact I.copied t ht hc
    · rw [List.mem_singleton] at ht
      subst ht
      exact absurd rfl hc

theorem OwnerInv.finishFailed {run : DbRun} {tasks : List Task}
    {accepted : List (CText × DbRunRequest)} (I : OwnerInv run .createFailed tasks accepted)
    (result : Option CText) (now : Nat) :
    OwnerInv (dbRunFinish run result now) .idle tasks accepted := by
  obtain ⟨-, -, hlt⟩ := I.handler rfl
  refine ⟨I.born_lt, I.increasing, fun ho => ?_, fun t ht lt => ?_, fun ha => ?_, I.current,
    I.copied⟩
  · cases ho
  · have hb := (I.worker t ht lt).2
    have hb' := hlt t ht
    omega
  · cases ha

/-- An accepted abort changes neither the owner nor the request. -/
theorem OwnerInv.abort {run : DbRun} {http : HttpPc} {tasks : List Task}
    {accepted : List (CText × DbRunRequest)} (I : OwnerInv run http tasks accepted)
    (hs : run.state = .running) :
    OwnerInv { run with abortRequested := true, state := .aborting } http tasks accepted where
  born_lt := I.born_lt
  increasing := I.increasing
  handler ho := ⟨rfl, (I.handler ho).2⟩
  worker t ht lt := ⟨rfl, (I.worker t ht lt).2⟩
  owned _ := I.owned (by rw [hs]; rfl)
  current := I.current
  copied := I.copied

/-- **Every step of the device keeps the invariant.** -/
theorem deviceInv_step {d d' : Device} {a : Action} (I : DeviceInv d)
    (h : DeviceStep B d a d') : DeviceInv d' := by
  obtain ⟨I, hboot⟩ := I
  -- a handler that runs shows that the boot is over
  have hbooted : d.http ≠ .down → d.main.booting = true → d'.http = .down :=
    fun hne hb => absurd (hboot hb) hne
  cases h with
  | begin hh hr hs =>
      refine ⟨?_, hbooted (by rw [hh]; decide)⟩
      rw [hh] at I
      exact I.begin hs (snprintf_runIdText _ _) _ _
  | created hh =>
      refine ⟨?_, hbooted (by rw [hh]; decide)⟩
      rw [hh] at I
      exact I.created
  | notCreated hh =>
      refine ⟨?_, hbooted (by rw [hh]; decide)⟩
      rw [hh] at I
      exact ⟨I.born_lt, I.increasing, fun _ => I.handler rfl, I.worker, fun _ => Or.inl rfl,
        I.current, I.copied⟩
  | finishFailed hh =>
      refine ⟨?_, hbooted (by rw [hh]; decide)⟩
      rw [hh] at I
      exact I.finishFailed _ _
  | abort hh hs hid => exact ⟨I.abort hs, hboot⟩
  | task ht hs => exact ⟨I.step_task ht hs, hboot⟩
  | @mainNumber _ k h | @mainBuild _ k _ h =>
      refine ⟨I, fun hb => hboot ?_⟩
      rw [h]
      cases k <;> exact hb
  | @mainInsert _ k _ h =>
      refine ⟨I, fun hb => hboot ?_⟩
      rw [h]
      cases k <;> first | rfl | exact hb
  | startHttp h =>
      have hd : d.http = .down := hboot (by rw [h]; rfl)
      rw [hd] at I
      refine ⟨⟨I.born_lt, I.increasing, fun ho => ?_, I.worker, fun ha => ?_, I.current,
        I.copied⟩, fun hb => ?_⟩
      · cases ho
      · rcases I.owned ha with ho | hw
        · cases ho
        · exact Or.inr hw
      · cases hb
  | startFailed h => exact ⟨I, fun hb => Bool.noConfusion hb⟩
  | refused | abortRefused | tick | radio => exact ⟨I, hboot⟩

theorem deviceInv_initial (marker : RebootMarker) : DeviceInv (.initial marker) where
  owner :=
    { born_lt := fun t ht => absurd ht List.not_mem_nil
      increasing := List.Pairwise.nil
      handler := fun ho => Bool.noConfusion ho
      worker := fun t ht => absurd ht List.not_mem_nil
      owned := fun ha => Bool.noConfusion ha
      current := fun p hp => by cases hp
      copied := fun t ht => absurd ht List.not_mem_nil }
  boot _ := rfl

/-- **The invariant holds in every reachable state.** -/
theorem deviceInv_reach {C : Device → Action → Prop} {d : Device} (h : Reach (device B) C d) :
    DeviceInv d := by
  refine device_reach deviceInv_initial ?_ h
  intro s a s' _ I _ _ hs
  exact deviceInv_step I hs

/-! ## 4. What is accepted -/

/-- **The accepted requests**: each is what `runs_post` made of some body, and it has the run id
    printed for its number. -/
structure RequestInv (B : Boot) (d : Device) : Prop where
  counter : d.runCounter = d.accepted.length % 2 ^ 32
  request : ∀ p ∈ d.accepted, ∃ body, runsPostRequest body = .ok p.2
  runId : ∀ n p, d.accepted[n]? = some p →
    p.1 = runIdText B.bootNonce.toNat ((n + 1) % 2 ^ 32)

theorem requestInv_step {d d' : Device} {a : Action} (I : RequestInv B d)
    (h : DeviceStep B d a d') : RequestInv B d' := by
  obtain ⟨hc, hr, hi⟩ := I
  cases h with
  | @begin body request hh hreq hs =>
      have hc' : (d.runCounter + 1) % 2 ^ 32 = (d.accepted.length + 1) % 2 ^ 32 := by
        rw [hc, Nat.mod_add_mod]
      refine ⟨?_, fun p hp => ?_, fun n p hp => ?_⟩
      · show (d.runCounter + 1) % 2 ^ 32 = (d.accepted ++ [_]).length % 2 ^ 32
        rw [hc', List.length_append, List.length_singleton]
      · rcases List.mem_append.mp hp with hp | hp
        · exact hr p hp
        · rw [List.mem_singleton] at hp
          subst hp
          exact ⟨body, hreq⟩
      · rcases Nat.lt_trichotomy n d.accepted.length with hn | rfl | hn
        · rw [beginRun, List.getElem?_append_left hn] at hp
          exact hi n p hp
        · rw [beginRun, List.getElem?_concat_length] at hp
          cases hp
          show runIdText _ _ = _
          rw [hc']
        · rw [beginRun, List.getElem?_eq_none (by rw [List.length_append]; exact hn)] at hp
          cases hp
  | refused | created | notCreated | finishFailed | abortRefused | abort | task | mainNumber
  | mainBuild | mainInsert | startHttp | startFailed | tick | radio => exact ⟨hc, hr, hi⟩

theorem requestInv_reach {C : Device → Action → Prop} {d : Device}
    (h : Reach (device B) C d) : RequestInv B d := by
  refine device_reach ?_ ?_ h
  · intro marker
    exact ⟨rfl, fun p hp => absurd hp List.not_mem_nil, fun n p hp => by cases hp⟩
  · intro s a s' _ I _ _ hs
    exact requestInv_step I hs

/-- An accepted request passed the validation. -/
theorem RequestInv.valid {d : Device} (I : RequestInv B d) {p : CText × DbRunRequest}
    (hp : p ∈ d.accepted) : dbRequestValidate p.2 = .ok () := by
  obtain ⟨body, hb⟩ := I.request p hp
  exact (runsPostRequest_ok hb).1

end Device

/-! ## 5. Owners and workers -/

/-- Who has still to call `db_run_finish` for the current run: the handler that has begun it, or
    the workload task at a position. -/
inductive Owner where
  | handler
  | worker (i : Nat)

/-- Being such an owner. -/
def Owns (d : Device) : Owner → Prop
  | .handler => d.http.owns = true
  | .worker i => ∃ t, d.tasks[i]? = some t ∧ t.pc.live = true

section Owners

variable {B : Boot}

/-- **The run is active exactly when it has an owner, and it has never two.** -/
theorem one_owner {d : Device} (h : Reach (device B) Always d) :
    (d.shared.run.state.active = true → ∃! o, Owns d o) ∧
      (d.shared.run.state.active = false → ∀ o, ¬ Owns d o) := by
  have I := (deviceInv_reach h).owner
  refine ⟨fun ha => ?_, fun ha o ho => ?_⟩
  · rcases I.owned ha with hh | ⟨t, ht, lt⟩
    · refine ⟨.handler, hh, fun o ho => ?_⟩
      cases o with
      | handler => rfl
      | worker i =>
          obtain ⟨u, hu, lu⟩ := ho
          have hn := I.not_both (List.mem_of_getElem? hu) lu
          rw [hn] at hh
          cases hh
    · obtain ⟨i, hi, rfl⟩ := List.mem_iff_getElem.mp ht
      refine ⟨.worker i, ⟨_, List.getElem?_eq_getElem hi, lt⟩, fun o ho => ?_⟩
      cases o with
      | handler =>
          have hn := I.not_both ht lt
          rw [Owns, hn] at ho
          cases ho
      | worker j =>
          obtain ⟨u, hu, lu⟩ := ho
          obtain ⟨hj, rfl⟩ := List.getElem?_eq_some_iff.mp hu
          have e := I.live_unique (List.getElem_mem hj) ht lu lt
          have hnd : d.tasks.Nodup := List.Nodup.of_map _ I.nodup
          rw [(List.Nodup.getElem_inj_iff hnd).mp e]
  · cases o with
    | handler =>
        have hh := (I.handler ho).1
        rw [ha] at hh
        cases hh
    | worker i =>
        obtain ⟨t, ht, lt⟩ := ho
        have hw := (I.worker t (List.mem_of_getElem? ht) lt).1
        rw [ha] at hw
        cases hw

/-- **A worker executes what was validated and accepted under its run id.** -/
theorem worker_executes_accepted {d : Device} (h : Reach (device B) Always d) {t : Task}
    (ht : t ∈ d.tasks) (hc : t.pc ≠ .copy) :
    ∃ p, d.accepted[t.born]? = some p ∧ t.run.runId = p.1 ∧ t.run.request = p.2 ∧
      dbRequestValidate p.2 = .ok () := by
  obtain ⟨p, hp, hid, hreq⟩ := (deviceInv_reach h).owner.copied t ht hc
  exact ⟨p, hp, hid, hreq, (requestInv_reach h).valid (List.mem_of_getElem? hp)⟩

/-- The workload function a worker runs serves the request it copied. -/
theorem worker_serves {C : Device → Action → Prop} {d : Device} (h : Reach (device B) C d) :
    ∀ t ∈ d.tasks, ∀ w, t.pc = .work w → Serves t.run.request w :=
  work_reach (serves_start B.board) (fun _ _ _ _ S hw => serves_step S hw) h

/-- The run a worker finishes is its own. -/
theorem finishes_own_run {d : Device} (h : Reach (device B) Always d) {t : Task}
    (ht : t ∈ d.tasks) (hpc : t.pc = .finish) : d.shared.run.runId = t.run.runId := by
  have I := (deviceInv_reach h).owner
  obtain ⟨p, hp, hid, -⟩ := I.copied t ht (by rw [hpc]; exact TaskPc.noConfusion)
  have hb := (I.worker t ht (by rw [hpc]; rfl)).2
  rw [hid]
  exact (I.current p (hb ▸ hp)).1

/-- **Ownership in every reachable state**: one owner exactly while the run is active, workers on
    the requests accepted under their run ids, and each finishing its own run. -/
theorem run_ownership {d : Device} (h : Reach (device B) Always d) :
    ((d.shared.run.state.active = true → ∃! o, Owns d o) ∧
      (d.shared.run.state.active = false → ∀ o, ¬ Owns d o)) ∧
    (∀ t ∈ d.tasks, t.pc ≠ .copy → ∃ p, d.accepted[t.born]? = some p ∧ t.run.runId = p.1 ∧
      t.run.request = p.2 ∧ dbRequestValidate p.2 = .ok ()) ∧
    (∀ t ∈ d.tasks, ∀ w, t.pc = .work w → Serves t.run.request w) ∧
    (∀ t ∈ d.tasks, t.pc = .finish → d.shared.run.runId = t.run.runId) :=
  ⟨one_owner h, fun _ ht hc => worker_executes_accepted h ht hc, worker_serves h,
    fun _ ht hpc => finishes_own_run h ht hpc⟩

set_option maxRecDepth 4000 in
/-- The run of an idle request whose worker is about to finish it. -/
theorem run_ownership_finishing :
    ∃ d, Reach (device benchBoot) Always d ∧ (∃ t ∈ d.tasks, t.pc = .finish) ∧ ∃! o, Owns d o :=
  have h := benchRun_reach (waited .idle ++ List.replicate 4 firstTask) (by decide)
  ⟨_, h, by decide, (run_ownership h).1.1 (by decide)⟩

end Owners

end DragonBench
