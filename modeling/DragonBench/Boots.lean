/-
  File:      DragonBench/Boots.lean
  Subject:   WHAT A BOOT SAYS OF THE BOOT BEFORE: `previous_reboot_run_id` over any sequence of
             resets.

  The marker is two fields in memory that only a power loss disturbs. A worker writes both, waits
  250 ms and restarts; `app_main` believes the marker after a software reset only, and takes it
  back. What it cannot see is that a second worker wrote its run id into the marker during the wait
  of the first.

  * `Phase` -- `app_main` up to its first event, one statement at a time;
  * `boots` -- boots and resets, with a crash possible between any two steps;
  * `MarkerOverwritten` -- the step that opens the defect;
  * `markerInv_reach` -- without it, a worker that is about to restart has its own id in the marker;
  * **`reports_iff`** -- then a boot reports a run exactly when that run's worker restarted it;
  * `reports_other_run` -- two controlled reboots at once.
-/
import DragonBench.Reboot

namespace DragonBench

open Transition

/-! ## 1. Resets -/

/-- `esp_reset_reason_t`. -/
inductive ResetReason where
  | unknown | powerOn | ext | sw | panic | intWdt | taskWdt | wdt | deepSleep | brownout | sdio
  | usb | jtag | efuse | pwrGlitch | cpuLockup
  deriving DecidableEq, Repr

/-- `reset_name`. -/
def resetName : ResetReason → CText
  | .unknown => "unknown".toList
  | .powerOn => "power_on".toList
  | .ext => "external_pin".toList
  | .sw => "software".toList
  | .panic => "panic".toList
  | .intWdt => "interrupt_watchdog".toList
  | .taskWdt => "task_watchdog".toList
  | .wdt => "watchdog".toList
  | .deepSleep => "deep_sleep".toList
  | .brownout => "brownout".toList
  | .sdio => "sdio".toList
  | .usb => "usb".toList
  | .jtag => "jtag".toList
  | .efuse => "efuse_error".toList
  | .pwrGlitch => "power_glitch".toList
  | .cpuLockup => "cpu_lockup".toList

/-- The size of `reset_reason_text`. -/
def resetReasonLen : Nat := 32

/-- Where a boot stands: in front of `if (reset_reason != ESP_RST_SW)`, behind it, behind the copy
    of the run id, or past all this. -/
inductive Phase where
  | reset (reason : ResetReason) (marker : RebootMarker)
  | cleared (reason : ResetReason) (marker : RebootMarker)
  | copied (reason : ResetReason) (marker : RebootMarker) (previous : CText)
  | up (B : Boot) (d : Device)

/-- The marker in memory. -/
def Phase.marker : Phase → RebootMarker
  | .reset _ marker | .cleared _ marker | .copied _ marker _ => marker
  | .up _ d => d.shared.marker

/-- The run whose worker has called `esp_restart`. -/
def Phase.restarted : Phase → Option CText
  | .up _ d => d.shared.rebooted.bind fun n => (d.accepted[n]?).map Prod.fst
  | .reset .. | .cleared .. | .copied .. => none

/-- A device that is reset again and again. -/
structure Boots where
  phase : Phase
  /-- history: the run whose `workload_task` ended the boot before by `esp_restart` -/
  ended : Option CText

/-- What a boot is given. -/
def bootOf (cfg : Config) (board : Board) (reason : ResetReason) (nonce : BitVec 32)
    (previous : CText) : Boot where
  cfg := cfg
  board := board
  bootNonce := nonce
  previousRebootRunId := previous
  resetReasonText := CText.snprintf resetReasonLen (resetName reason)

inductive BootsAction where
  /-- `app_main` takes its next statement; `esp_random` has returned `nonce` -/
  | main (nonce : BitVec 32)
  | run (a : Action)
  /-- the device is reset; after a loss of power the marker is whatever the memory comes up with -/
  | reset (reason : ResetReason) (noise : RebootMarker)

/-- One step over the boots. Only `esp_restart` is a software reset. -/
def bootsStep (cfg : Config) (board : Board) (s : Boots) : BootsAction → Option Boots
  | .main nonce =>
    match s.phase with
    | .reset reason marker =>
      let marker := if reason ≠ .sw then { marker with magic := 0 } else marker
      some { s with phase := .cleared reason marker }
    | .cleared reason marker =>
      if marker.magic = rebootMarkerMagic then
        some { s with phase := .copied reason marker (CText.snprintf dbRunIdLen marker.runId) }
      else
        some { s with phase := .up (bootOf cfg board reason nonce []) (.initial marker) }
    | .copied reason marker previous =>
      let marker := { marker with magic := 0 }
      some { s with phase := .up (bootOf cfg board reason nonce previous) (.initial marker) }
    | .up .. => none
  | .run a =>
    match s.phase with
    | .up B d => (step B d a).map fun d' => { s with phase := .up B d' }
    | .reset .. | .cleared .. | .copied .. => none
  | .reset reason noise =>
    if reason = .sw ∧ s.phase.restarted = none then none
    else
      let marker := if reason = .powerOn then noise else s.phase.marker
      some ⟨.reset reason marker, if reason = .sw then s.phase.restarted else none⟩

/-- The boots of a device from its first one on. -/
def boots (cfg : Config) (board : Board) : System Boots BootsAction where
  init s := ∃ reason marker, reason ≠ .sw ∧ s = ⟨.reset reason marker, none⟩
  step := bootsStep cfg board

/-! ## 2. The marker during a boot -/

/-- The worker has written its id into the marker and has not restarted yet. -/
def TaskPc.marked : TaskPc → Bool
  | .delay | .restart => true
  | _ => false

/-- **The step that opens the defect**: a worker writes its run id into the marker while another
    worker has its own id there. -/
def MarkerOverwritten (d : Device) : Action → Prop
  | .task i _ => ∃ u ∈ d.tasks[i]?, u.pc = .markRunId ∧
    ∃ t ∈ d.tasks, t.pc.marked = true ∧ t.run.runId ≠ u.run.runId
  | _ => False

instance (d : Device) : (a : Action) → Decidable (MarkerOverwritten d a)
  | .task i _ => inferInstanceAs (Decidable (∃ u ∈ d.tasks[i]?, u.pc = .markRunId ∧
      ∃ t ∈ d.tasks, t.pc.marked = true ∧ t.run.runId ≠ u.run.runId))
  | .runsPost _ | .abortPost _ | .createTask _ | .finishFailed | .main _ | .tick _ | .radio _ _ =>
    isFalse id

/-- The step overwrites no marker. -/
def MarkerKept (d : Device) (a : Action) : Prop := ¬ MarkerOverwritten d a

instance (d : Device) (a : Action) : Decidable (MarkerKept d a) :=
  inferInstanceAs (Decidable (¬ MarkerOverwritten d a))

/-- **The marker of a worker that is about to restart**: both fields are its own; and a restart
    leaves the id of its run behind. -/
structure MarkerInv (d : Device) : Prop where
  magic : ∀ t ∈ d.tasks, t.pc = .markRunId ∨ t.pc.marked = true →
    d.shared.marker.magic = rebootMarkerMagic
  runId : ∀ t ∈ d.tasks, t.pc.marked = true → d.shared.marker.runId = t.run.runId
  restarted : ∀ n, d.shared.rebooted = some n → d.shared.marker.magic = rebootMarkerMagic ∧
    ∃ p, d.accepted[n]? = some p ∧ d.shared.marker.runId = p.1

section Marker

variable {B : Boot}

/-- The id of an accepted run: 17 characters, which fit the marker. -/
theorem accepted_runId {C : Device → Action → Prop} {d : Device} (h : Reach (device B) C d)
    {n : Nat} {p : CText × DbRunRequest} (hp : d.accepted[n]? = some p) :
    p.1 ≠ [] ∧ CText.snprintf dbRunIdLen p.1 = p.1 := by
  have e : p.1 = runIdText B.bootNonce.toNat ((n + 1) % 2 ^ 32) := (requestInv_reach h).runId n p hp
  have hlen : p.1.length = 17 := by
    rw [e]
    exact runIdText_length B.bootNonce.isLt (Nat.mod_lt _ (by omega))
  refine ⟨fun hnil => ?_, ?_⟩
  · rw [hnil] at hlen
    cases hlen
  · rw [e]
    exact snprintf_runIdText B.bootNonce (n + 1)

/-- **What a step of a worker does to the marker.** -/
inductive MarkStep (s s' : Shared) (t t' : Task) : Prop where
  | magic (hm : s'.marker = { s.marker with magic := rebootMarkerMagic })
      (hpc' : t'.pc = .markRunId) : MarkStep s s' t t'
  | runId (hpc : t.pc = .markRunId) (hrun : t'.run = t.run)
      (hm : s'.marker = { s.marker with runId := CText.snprintf dbRunIdLen t.run.runId }) :
      MarkStep s s' t t'
  | keeps (hm : s'.marker = s.marker) (hne : t'.pc ≠ .markRunId)
      (hback : t'.pc.marked = true → t.pc.marked = true ∧ t'.run = t.run) : MarkStep s s' t t'

theorem TaskStep.marks {s s' : Shared} {t t' : Task} (h : TaskStep B s t s' t') :
    MarkStep s s' t t' := by
  cases h with
  | markMagic hpc => exact .magic rfl rfl
  | markRunId hpc => exact .runId hpc rfl rfl
  | delay hpc =>
      refine .keeps rfl TaskPc.noConfusion fun _ => ⟨?_, rfl⟩
      rw [hpc]
      rfl
  | @insert k e hpc =>
      cases k with
      | phaseStart | fault | phaseEnd => exact .keeps rfl TaskPc.noConfusion Bool.noConfusion
      | runComplete =>
          rcases afterEmit_runComplete B t with e | e
          · exact .keeps rfl (fun h => TaskPc.noConfusion (e.symm.trans h))
              fun h => Bool.noConfusion ((congrArg TaskPc.marked e).symm.trans h)
          · exact .keeps rfl (fun h => TaskPc.noConfusion (e.symm.trans h))
              fun h => Bool.noConfusion ((congrArg TaskPc.marked e).symm.trans h)
  | choose hpc =>
      split <;> exact .keeps rfl TaskPc.noConfusion Bool.noConfusion
  | copy | number | build | more | done | noFault | fault | finish | noReboot | reboot | restart =>
      exact .keeps rfl TaskPc.noConfusion Bool.noConfusion

/-- **A step of a worker keeps the two fields together**, when it overwrites no marker. -/
theorem MarkerInv.step_task {C : Device → Action → Prop} {d : Device} {t t' : Task} {s' : Shared}
    {i : Nat} {ret : Int} (hr : Reach (device B) C d) (M : MarkerInv d)
    (hc : MarkerKept d (.task i ret)) (ht : d.tasks[i]? = some t)
    (hs : TaskStep B d.shared t s' t') (hnone : d.shared.rebooted = none) :
    MarkerInv { d with shared := s', tasks := d.tasks.set i t' } := by
  have I := (deviceInv_reach hr).owner
  have hmem : t ∈ d.tasks := List.mem_of_getElem? ht
  have hset := fun u => KeyedList.mem_set_iff I.nodup ht hs.born (b := u)
  have hrestarted : ∀ n, s'.rebooted = some n → s'.marker.magic = rebootMarkerMagic ∧
      ∃ p, d.accepted[n]? = some p ∧ s'.marker.runId = p.1 := by
    intro n hn
    rcases hs.restarts with e | ⟨hpc, rfl⟩
    · rw [e, hnone] at hn
      cases hn
    · cases hn
      have hmarked : t.pc.marked = true := by rw [hpc]; rfl
      obtain ⟨p, hp, hid, -⟩ := I.copied t hmem (by rw [hpc]; exact TaskPc.noConfusion)
      exact ⟨M.magic t hmem (Or.inr hmarked), p, hp, (M.runId t hmem hmarked).trans hid⟩
  cases hs.marks with
  | keeps hm hne hback =>
      refine ⟨fun u hu hp => ?_, fun u hu hp => ?_, hrestarted⟩
      · show s'.marker.magic = _
        rw [hm]
        rcases (hset u).mp hu with rfl | ⟨hu, -⟩
        · rcases hp with hp | hp
          · exact absurd hp hne
          · exact M.magic t hmem (Or.inr (hback hp).1)
        · exact M.magic u hu hp
      · show s'.marker.runId = _
        rw [hm]
        rcases (hset u).mp hu with rfl | ⟨hu, -⟩
        · rw [(hback hp).2]
          exact M.runId t hmem (hback hp).1
        · exact M.runId u hu hp
  | magic hm hpc' =>
      refine ⟨fun u hu hp => ?_, fun u hu hp => ?_, hrestarted⟩
      · show s'.marker.magic = _
        rw [hm]
      · show s'.marker.runId = _
        rw [hm]
        rcases (hset u).mp hu with rfl | ⟨hu, -⟩
        · rw [hpc'] at hp
          cases hp
        · exact M.runId u hu hp
  | runId hpc hrun hm =>
      have hmagic : s'.marker.magic = rebootMarkerMagic := by
        rw [hm]
        exact M.magic t hmem (Or.inl hpc)
      have hid : s'.marker.runId = t.run.runId := by
        obtain ⟨p, hp, e, -⟩ := I.copied t hmem (by rw [hpc]; exact TaskPc.noConfusion)
        rw [hm]
        show CText.snprintf dbRunIdLen t.run.runId = _
        rw [e]
        exact (accepted_runId hr hp).2
      refine ⟨fun u hu hp => hmagic, fun u hu hp => ?_, hrestarted⟩
      show s'.marker.runId = _
      rw [hid]
      rcases (hset u).mp hu with rfl | ⟨hu, -⟩
      · rw [hrun]
      · -- whoever is waiting for its restart has the same id
        by_contra hne
        exact hc ⟨t, by rw [ht]; exact rfl, hpc, u, hu, hp, fun e => hne e.symm⟩

/-- **The invariant holds in every boot** in which no marker is overwritten. -/
theorem markerInv_reach {d : Device} (h : Reach (device B) MarkerKept d) : MarkerInv d := by
  refine device_reach ?_ ?_ h
  · intro marker
    exact ⟨fun t ht => absurd ht List.not_mem_nil, fun t ht => absurd ht List.not_mem_nil,
      fun n hn => by cases hn⟩
  · intro s a s' hr M hc hnone hs
    have hno : ∀ n, s.shared.rebooted = some n → False := by
      intro n hn
      rw [hnone] at hn
      cases hn
    cases hs with
    | task ht hst => exact M.step_task hr hc ht hst hnone
    | created hh =>
        refine ⟨fun t ht hp => ?_, fun t ht hp => ?_, fun n hn => (hno n hn).elim⟩
        · rcases List.mem_append.mp ht with ht | ht
          · exact M.magic t ht hp
          · rw [List.mem_singleton] at ht
            subst ht
            rcases hp with hp | hp <;> cases hp
        · rcases List.mem_append.mp ht with ht | ht
          · exact M.runId t ht hp
          · rw [List.mem_singleton] at ht
            subst ht
            cases hp
    | begin | refused | notCreated | finishFailed | abortRefused | abort | mainNumber | mainBuild
    | mainInsert | startHttp | startFailed | tick | radio =>
        exact ⟨M.magic, M.runId, fun n hn => (hno n hn).elim⟩

end Marker

/-! ## 3. The report -/

/-- The boot that is past its first statements. -/
def Boots.boot (s : Boots) : Option Boot :=
  match s.phase with
  | .up B _ => some B
  | .reset .. | .cleared .. | .copied .. => none

/-- `status_get` and the events of the boot name this run. -/
def Reports (B : Boot) (r : CText) : Prop := B.previousRebootRunId = r ∧ r ≠ []

/-- No marker is overwritten in a step of the running boot. -/
def BootsKept (s : Boots) : BootsAction → Prop
  | .run a => match s.phase with
    | .up _ d => MarkerKept d a
    | .reset .. | .cleared .. | .copied .. => True
  | .main _ | .reset _ _ => True

instance (s : Boots) : (a : BootsAction) → Decidable (BootsKept s a)
  | .run a => by
      unfold BootsKept
      cases s.phase <;> infer_instance
  | .main _ | .reset _ _ => isTrue trivial

/-- A marker that names the run that restarted the device. -/
def NamesEnded (marker : RebootMarker) (ended : Option CText) : Prop :=
  marker.magic = rebootMarkerMagic ∧ ended = some marker.runId ∧ marker.runId ≠ [] ∧
    CText.snprintf dbRunIdLen marker.runId = marker.runId

/-- **The invariant over the boots.** -/
def BootsInv (s : Boots) : Prop :=
  match s.phase with
  | .reset reason marker => reason = .sw ∧ NamesEnded marker s.ended ∨ reason ≠ .sw ∧ s.ended = none
  | .cleared _ marker =>
    NamesEnded marker s.ended ∨ marker.magic ≠ rebootMarkerMagic ∧ s.ended = none
  | .copied _ _ previous => previous ≠ [] ∧ s.ended = some previous
  | .up B d => Reach (device B) MarkerKept d ∧
    (B.previousRebootRunId ≠ [] ∧ s.ended = some B.previousRebootRunId ∨
      B.previousRebootRunId = [] ∧ s.ended = none)

section Report

variable {cfg : Config} {board : Board}

/-- A restart leaves a marker that names its run. -/
theorem restarted_marker {B : Boot} {d : Device} (h : Reach (device B) MarkerKept d)
    {r : CText} (hr : (Phase.up B d).restarted = some r) :
    NamesEnded d.shared.marker (some r) := by
  obtain ⟨n, hn, hp⟩ := Option.bind_eq_some_iff.mp hr
  obtain ⟨p, hacc, rfl⟩ := Option.map_eq_some_iff.mp hp
  obtain ⟨hmagic, q, hq, hid⟩ := (markerInv_reach h).restarted n hn
  rw [hacc] at hq
  cases hq
  obtain ⟨hne, hfits⟩ := accepted_runId h hacc
  rw [← hid] at hne hfits
  exact ⟨hmagic, by rw [hid], hne, hfits⟩

/-- A boot that has read its marker reports the run that ended the boot before, or nothing. -/
theorem bootsInv_main {s s' : Boots} {nonce : BitVec 32} (I : BootsInv s)
    (hs : bootsStep cfg board s (.main nonce) = some s') : BootsInv s' := by
  unfold bootsStep at hs
  unfold BootsInv at I
  cases hp : s.phase with
  | reset reason marker =>
      simp only [hp] at hs I
      cases hs
      rcases I with ⟨hsw, hn⟩ | ⟨hsw, hn⟩
      · left
        rw [if_neg (not_not.mpr hsw)]
        exact hn
      · right
        rw [if_pos hsw]
        exact ⟨Nat.zero_ne_add_one _, hn⟩
  | cleared reason marker =>
      simp only [hp] at hs I
      by_cases hm : marker.magic = rebootMarkerMagic
      · rw [if_pos hm] at hs
        cases hs
        rcases I with ⟨-, hn, hne, hfits⟩ | ⟨hm', -⟩
        · show CText.snprintf dbRunIdLen marker.runId ≠ [] ∧ s.ended = _
          rw [hfits]
          exact ⟨hne, hn⟩
        · exact absurd hm hm'
      · rw [if_neg hm] at hs
        cases hs
        rcases I with ⟨hm', -⟩ | ⟨-, hn⟩
        · exact absurd hm' hm
        · exact ⟨.start ⟨_, rfl⟩, Or.inr ⟨rfl, hn⟩⟩
  | copied reason marker previous =>
      simp only [hp] at hs I
      cases hs
      exact ⟨.start ⟨_, rfl⟩, Or.inl I⟩
  | up B d =>
      simp only [hp] at hs
      cases hs

theorem bootsInv_step {s s' : Boots} {a : BootsAction} (I : BootsInv s) (hc : BootsKept s a)
    (hs : bootsStep cfg board s a = some s') : BootsInv s' := by
  cases a with
  | main nonce => exact bootsInv_main I hs
  | run a =>
      unfold bootsStep at hs
      unfold BootsInv at I
      unfold BootsKept at hc
      cases hp : s.phase with
      | up B d =>
          simp only [hp, Option.map_eq_some_iff] at hs I hc
          obtain ⟨d', hd, rfl⟩ := hs
          exact ⟨.step I.1 hc hd, I.2⟩
      | reset reason marker | cleared reason marker | copied reason marker previous =>
          simp only [hp] at hs
          cases hs
  | reset reason noise =>
      unfold bootsStep at hs
      dsimp only at hs
      by_cases hno : reason = .sw ∧ s.phase.restarted = none
      · rw [if_pos hno] at hs
        cases hs
      · rw [if_neg hno] at hs
        cases hs
        by_cases hsw : reason = .sw
        · -- a software reset: the boot before was past its first statements, and restarted
          subst hsw
          left
          rw [if_pos rfl, if_neg (by decide)]
          refine ⟨rfl, ?_⟩
          unfold BootsInv at I
          cases hp : s.phase with
          | up B d =>
              simp only [hp] at I hno ⊢
              obtain ⟨r, hr⟩ := Option.ne_none_iff_exists'.mp fun e => hno ⟨trivial, e⟩
              rw [hr]
              exact restarted_marker I.1 hr
          | reset reason marker | cleared reason marker | copied reason marker previous =>
              simp only [hp] at hno
              exact absurd ⟨trivial, rfl⟩ hno
        · right
          rw [if_neg hsw]
          exact ⟨hsw, rfl⟩

/-- **A boot reports a run exactly when that run's worker ended the boot before by its restart**,
    over every sequence of boots in which no worker overwrites the marker of another. -/
theorem reports_iff {s : Boots} (h : Reach (boots cfg board) BootsKept s) {B : Boot}
    (hb : s.boot = some B) (r : CText) : Reports B r ↔ s.ended = some r := by
  have I : BootsInv s := by
    refine h.inv ?_ ?_
    · intro t ht
      obtain ⟨reason, marker, hne, rfl⟩ := ht
      exact Or.inr ⟨hne, rfl⟩
    · intro t a t' _ I hc ht
      exact bootsInv_step I hc ht
  unfold BootsInv at I
  unfold Boots.boot at hb
  cases hp : s.phase with
  | up B' d =>
      simp only [hp, Option.some.injEq] at hb I
      subst hb
      rcases I.2 with ⟨hne, he⟩ | ⟨hnil, he⟩
      · rw [he]
        constructor
        · rintro ⟨rfl, -⟩
          rfl
        · intro e
          cases e
          exact ⟨rfl, hne⟩
      · rw [he]
        constructor
        · rintro ⟨rfl, hr⟩
          exact absurd hnil hr
        · intro e
          cases e
  | reset reason marker | cleared reason marker | copied reason marker previous =>
      simp only [hp] at hb
      cases hb

/-- A first boot of the bench device behind which these steps lie. -/
def bootsRun (actions : List BootsAction) : Boots :=
  ((boots benchBoot.cfg benchBoot.board).guard BootsKept).runEnd ⟨.reset .powerOn ⟨0, []⟩, none⟩
    (.main 42 :: .main 42 :: bootActions.map .run ++ actions)

theorem bootsRun_reach (actions : List BootsAction)
    (h : (((boots benchBoot.cfg benchBoot.board).guard BootsKept).exec
      ⟨.reset .powerOn ⟨0, []⟩, none⟩
      (.main 42 :: .main 42 :: bootActions.map .run ++ actions)).isSome = true) :
    Reach (boots benchBoot.cfg benchBoot.board) BootsKept (bootsRun actions) :=
  reach_guard (reach_runEnd (.start ⟨_, _, by decide, rfl⟩) h)

/-- The reset of a restart and the boot behind it. -/
def nextBoot : List BootsAction := [.reset .sw ⟨0, []⟩, .main 43, .main 43, .main 43]

/-- A controlled reboot and the boot behind it. -/
def oneReboot : List BootsAction :=
  (waited .controlledReboot ++ List.replicate 13 firstTask).map .run ++ nextBoot

set_option maxRecDepth 8000 in
/-- The boot behind a controlled reboot reports its run. -/
theorem reports_iff_reboot :
    ∃ s B, Reach (boots benchBoot.cfg benchBoot.board) BootsKept s ∧ s.boot = some B ∧
      Reports B "0000002a-00000001".toList := by
  have h := bootsRun_reach oneReboot (by decide)
  have hb : (bootsRun oneReboot).boot.isSome = true := by decide
  exact ⟨_, _, h, (Option.some_get hb).symm, (reports_iff h (Option.some_get hb).symm _).mpr (by decide)⟩

/-- A request for a controlled reboot after one millisecond. -/
def quickReboot : Option Json :=
  some (.obj [("workload".toList, .str (dbWorkloadName .controlledReboot)),
    ("duration_ms".toList, .num 1)])

/-- While the worker of run 1 waits for its restart, run 2 is accepted, passes and marks its own
    reboot; then run 1 restarts the device. -/
def overlappingReboots : List Action :=
  bootActions ++ waited .controlledReboot ++ List.replicate 11 firstTask ++
    [.runsPost quickReboot, .createTask true] ++ List.replicate 5 (.task 1 0) ++ [.tick 1] ++
    List.replicate 12 (.task 1 0) ++ [firstTask, firstTask]

/-- The boot behind them. -/
def afterOverlap : Boots :=
  (boots benchBoot.cfg benchBoot.board).runEnd ⟨.reset .powerOn ⟨0, []⟩, none⟩
    (.main 42 :: .main 42 :: overlappingReboots.map .run ++ nextBoot)

set_option maxRecDepth 8000 in
/-- **A boot can report another run**: run 1 restarted the device, the boot behind reports run 2. -/
theorem reports_other_run :
    ∃ s B, Reach (boots benchBoot.cfg benchBoot.board) Always s ∧ s.boot = some B ∧
      Reports B "0000002a-00000002".toList ∧ s.ended = some "0000002a-00000001".toList ∧
      ¬ ∀ r, Reports B r ↔ s.ended = some r := by
  have h : Reach (boots benchBoot.cfg benchBoot.board) Always afterOverlap :=
    reach_runEnd (.start ⟨_, _, by decide, rfl⟩) (by decide)
  have hprev : afterOverlap.boot.map Boot.previousRebootRunId =
      some "0000002a-00000002".toList := by decide
  have he : afterOverlap.ended = some "0000002a-00000001".toList := by decide
  obtain ⟨B, hB, hid⟩ := Option.map_eq_some_iff.mp hprev
  have hr : Reports B "0000002a-00000002".toList := ⟨hid, by decide⟩
  refine ⟨_, B, h, hB, hr, he, fun hall => ?_⟩
  have hne := (hall _).mp hr
  rw [he] at hne
  exact absurd hne (by decide)

end Report

end DragonBench
