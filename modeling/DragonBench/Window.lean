/-
  File:      DragonBench/Window.lean
  Subject:   WHETHER A CONTEXT CONNECTS WHILE THE WORKER CONFIGURES THE RADIO.

  Between `esp_wifi_disconnect` and the clearing of `sta_reconfiguring` the worker has the radio to
  itself, as far as the flag keeps the others away. The handler of a disconnection and the timer
  callback test the flag some steps before they connect.

  * `WorkerPc.window` -- the control points of the worker between the two;
  * `EventPc.connecting`, `TimerPc.connecting` -- a context behind its test of the flag;
  * `DisconnectsAlone` -- the worker disconnects when no context is;
  * **`connects_outside`** -- in a run of such steps nobody connects in the window;
  * `connects_inside` -- a run in which the handler does.
-/
import DragonBench.Retry

namespace DragonBench

open Transition

/-! ## 1. The window -/

/-- The worker has disconnected and not cleared `sta_reconfiguring`. -/
def WorkerPc.window : WorkerPc → Bool
  | .secondDelay | .configure _ | .setSsid | .retryDelay _ | .save _ | .setConfigured
  | .resetRetryCount | .readConfigured | .setState _ | .setLastReason | .setResult
  | .setRequestId | .clearCreds | .clearReconfiguring => true
  | .receive | .firstDelay | .setReconfiguring | .stopTimer | .disconnect | .testConfigured
  | .schedule _ => false

/-- In the window the flag is set. -/
theorem WorkerPc.reconfiguring_of_window {pc : WorkerPc} (h : pc.window = true) :
    pc.reconfiguring = true := by
  cases pc with
  | receive | firstDelay | setReconfiguring | stopTimer | disconnect | testConfigured | schedule =>
      cases h
  | secondDelay | configure | setSsid | retryDelay | save | setConfigured | resetRetryCount
  | readConfigured | setState | setLastReason | setResult | setRequestId | clearCreds
  | clearReconfiguring => rfl

/-- It begins with the disconnection. -/
theorem WorkerStep.window {n n' : Net} {w w' : Worker} {ok : Bool} {reason : Nat}
    (h : WorkerStep n w ok reason n' w') (hw : w'.pc.window = true) :
    w.pc.window = true ∨ w.pc = .disconnect := by
  cases h with
  | disconnect hpc => exact Or.inr hpc
  | receive | firstDelay | setReconfiguring | stopTimer | clearReconfiguring | schedules
  | schedulesNot | schedule | scheduled => cases hw
  | secondDelay hpc | refused hpc | configured hpc | setSsid hpc | tryAgain hpc | giveUp hpc
  | save hpc | saved hpc | setConfigured hpc | resetRetryCount hpc | readConfigured hpc
  | setState hpc | setLastReason hpc | setResult hpc | setRequestId hpc | clearCreds hpc =>
      rw [hpc]
      exact Or.inl rfl

/-- The step calls `esp_wifi_connect`. -/
def Connects (s : Station) : StationAction → Prop
  | .worker _ _ => s.worker.pc = .schedule .connect
  | .event _ _ => s.event = .schedule .connect
  | .timer _ => s.timer = .connect
  | .start _ => s.start = .connect
  | .post _ | .overwrite | .status | .read _ | .fire | .apEvent _ | .gotIp _ | .lost _
  | .flush _ => False

/-! ## 2. Behind the test of the flag -/

/-- `sta_schedule_retry` may still connect. -/
def RetryStage.connecting : RetryStage → Bool
  | .readCount | .setConnecting | .connect => true
  | .writeCount count => decide (dbStaRetryDelayMs count = 0)
  | .stop _ | .start _ => false

/-- The handler has found `sta_reconfiguring` clear and may still connect. -/
def EventPc.connecting : EventPc → Bool
  | .testConfigured => true
  | .schedule stage => stage.connecting
  | .idle | .setLastReason _ | .setDisconnected _ | .testReason _ | .testReconfiguring
  | .setIp _ _ | .setConnected _ | .stopTimer | .resetRetryCount | .readRssi => false

/-- So has the timer callback. -/
def TimerPc.connecting : TimerPc → Bool
  | .testConfigured | .setConnecting | .connect => true
  | .idle | .testReconfiguring => false

theorem ScheduleStep.connecting {n n' : Net} {ok : Bool} {stage stage' : RetryStage}
    (h : ScheduleStep n ok stage n' (some stage')) (hc : stage'.connecting = true) :
    stage.connecting = true := by
  cases h with
  | atOnce hd => exact decide_eq_true hd
  | readCount | setConnecting => rfl
  | later | stop => cases hc

/-- **The handler gets behind the test only while the flag is clear.** -/
theorem EventStep.connecting {n n' : Net} {ok : Bool} {rssi : Option Int} {pc pc' : EventPc}
    (h : EventStep n ok rssi pc n' pc') (hc : pc'.connecting = true) :
    pc.connecting = true ∨ n.staReconfiguring = false := by
  cases h with
  | notReconfiguring hr => exact Or.inr hr
  | configured => exact Or.inl rfl
  | schedule hs => exact Or.inl (hs.connecting hc)
  | neutral | disconnected | gotIp | setLastReason | setDisconnected | assocLeave | otherReason
  | reconfiguring | notConfigured | scheduled | setIp | setConnected | stopTimer
  | resetRetryCount | noRssi | readRssi => cases hc

theorem TimerStep.connecting {n n' : Net} {ok : Bool} {pc pc' : TimerPc}
    (h : TimerStep n ok pc n' pc') (hc : pc'.connecting = true) :
    pc.connecting = true ∨ n.staReconfiguring = false := by
  cases h with
  | notReconfiguring hr => exact Or.inr hr
  | configured | setConnecting => exact Or.inl rfl
  | reconfiguring | notConfigured | connect => cases hc

/-- **The worker disconnects when no context is behind its test of the flag.** -/
def DisconnectsAlone (s : Station) : StationAction → Prop
  | .worker _ _ => s.worker.pc = .disconnect →
      s.event.connecting = false ∧ s.timer.connecting = false
  | .post _ | .overwrite | .status | .read _ | .event _ _ | .timer _ | .fire | .start _
  | .apEvent _ | .gotIp _ | .lost _ | .flush _ => True

instance (s : Station) : (a : StationAction) → Decidable (DisconnectsAlone s a)
  | .worker _ _ => by
      unfold DisconnectsAlone
      infer_instance
  | .post _ | .overwrite | .status | .read _ | .event _ _ | .timer _ | .fire | .start _
  | .apEvent _ | .gotIp _ | .lost _ | .flush _ => isTrue trivial

/-! ## 3. The invariant -/

section Window

variable {B : StationBoot}

/-- **In the window no context is behind its test of the flag.** -/
theorem aloneInv_reach {s : Station} (h : Reach (station B) DisconnectsAlone s)
    (hw : s.worker.pc.window = true) : s.event.connecting = false ∧ s.timer.connecting = false := by
  refine station_reach (I := fun s => s.worker.pc.window = true →
    s.event.connecting = false ∧ s.timer.connecting = false) ?_ ?_ h hw
  · intro nvs pair hw
    cases hw
  · intro s a s' hr I hc hs hw
    -- a context that gets behind the test finds the flag clear
    have hflag : s.worker.pc.window = true → s.net.staReconfiguring = true := fun hwin =>
      (reconfiguring_reach hr).trans (WorkerPc.reconfiguring_of_window hwin)
    cases hs with
    | worker hstep =>
        rcases hstep.window hw with hbefore | hdis
        · exact I hbefore
        · exact hc hdis
    | @event ok rssi n' pc' he =>
        obtain ⟨hev, ht⟩ := I hw
        refine ⟨?_, ht⟩
        by_contra hne
        rcases he.connecting (Bool.eq_true_of_not_eq_false hne) with h | h
        · rw [hev] at h
          cases h
        · rw [hflag hw] at h
          cases h
    | @timer ok n' pc' hstep =>
        obtain ⟨hev, ht⟩ := I hw
        refine ⟨hev, ?_⟩
        by_contra hne
        rcases hstep.connecting (Bool.eq_true_of_not_eq_false hne) with h | h
        · rw [ht] at h
          cases h
        · rw [hflag hw] at h
          cases h
    | fire => exact ⟨(I hw).1, rfl⟩
    | postRefused | post | overwrite | status | read | respond | start | startHttp | apEvent
    | gotIp | lost | flush => exact I hw

/-- **Nobody connects in the window**, in a run in which the worker disconnects only when no
    context is behind its test of the flag. -/
theorem connects_outside {s s' : Station} {a : StationAction}
    (h : Reach (station B) DisconnectsAlone s) (hs : (station B).step s a = some s')
    (hc : Connects s a) : s.worker.pc.window = false := by
  by_contra hne
  have hw : s.worker.pc.window = true := Bool.eq_true_of_not_eq_false hne
  obtain ⟨hev, ht⟩ := aloneInv_reach h hw
  unfold Connects at hc
  cases a with
  | worker ok reason =>
      rw [hc] at hw
      cases hw
  | event ok rssi =>
      rw [hc] at hev
      cases hev
  | timer ok =>
      rw [hc] at ht
      cases ht
  | start ok =>
      have hdown := (startInv_reach h (by rw [hc]; exact StartPc.noConfusion)).2.1
      rw [hdown] at hw
      cases hw
  | post | overwrite | status | read | fire | apEvent | gotIp | lost | flush => exact hc

end Window

/-! ## 4. Runs -/

/-- A disconnection is handled up to the call of `esp_wifi_connect`. -/
def handledRun : Station :=
  ((station benchStation).guard DisconnectsAlone).runEnd
    (.initial ⟨⟨none, none⟩, ⟨none, none⟩⟩ storedPair)
    (storedStart ++ submit "b".toList ++ workerSteps 27 ++ lostFor 201 13)

set_option maxRecDepth 8000 in
theorem connects_outside_handled :
    Connects handledRun (.event true none) ∧ handledRun.worker.pc.window = false := by
  have hc : Connects handledRun (.event true none) := by
    show handledRun.event = _
    decide
  have hs : ((station benchStation).step handledRun (.event true none)).isSome = true := by decide
  obtain ⟨s', hs'⟩ := Option.isSome_iff_exists.mp hs
  exact ⟨hc, connects_outside (reach_guard (reach_runEnd (.start ⟨_, _, rfl⟩) (by decide))) hs' hc⟩

/-- A submission arrives, and the worker disconnects, while the handler of a disconnection is
    behind its test of the flag. -/
def insideRun : Station :=
  (station benchStation).runEnd (.initial ⟨⟨none, none⟩, ⟨none, none⟩⟩ storedPair)
    (storedStart ++ submit "b".toList ++ lostFor 201 5 ++ workerSteps 6 ++
      List.replicate 4 (.event true none))

set_option maxRecDepth 8000 in
/-- **The handler connects in the window.** -/
theorem connects_inside :
    Reach (station benchStation) Always insideRun ∧
      ((station benchStation).step insideRun (.event true none)).isSome = true ∧
      Connects insideRun (.event true none) ∧ insideRun.worker.pc.window = true := by
  refine ⟨reach_runEnd (.start ⟨_, _, rfl⟩) (by decide), by decide, ?_, by decide⟩
  show insideRun.event = _
  decide

end DragonBench
