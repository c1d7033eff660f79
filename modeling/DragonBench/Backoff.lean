/-
  File:      DragonBench/Backoff.lean
  Subject:   THE DELAYS OF THE RECONNECTION: `db_sta_retry_delay_ms` and `sta_schedule_retry`.

  The delay of an attempt is a power of two cut off at a minute; the attempts are counted by
  `sta_retry_count`, which only a new address and a reconfiguration set back. So between two of
  these the delays never fall, and from the eighth attempt on they are at the ceiling.

  * `backoffDoublings` -- the iterations of the loop; `backoffLoop_eq` -- they are at most four,
    and none overflows;
  * `dbStaRetryDelayMs_eq` -- the delay in closed form;
  * `Station.scheduled`, `Reconnecting`, `reconnecting` -- the station side beside the delays its
    retries are scheduled with;
  * `Uninterrupted` -- no address, no reconfiguration;
  * `RetryStep` -- the next attempt and the delay under way over one step;
  * **`sta_retry_delays`** -- the delays of every uninterrupted stretch.
-/
import DragonBench.Retry

namespace DragonBench

open Transition

/-! ## 1. One attempt -/

/-- The iterations of `backoffLoop`. -/
def backoffDoublings : Nat → Nat → Nat
  | 0, _ => 0
  | step + 1, delay =>
    if delay < dbStaBackoffMaxMs then backoffDoublings step (delay * 2 % 2 ^ 32) + 1 else 0

/-- At the ceiling the loop ends, whatever is left of the steps. -/
theorem backoffLoop_of_le {delay : Nat} (h : dbStaBackoffMaxMs ≤ delay) (step : Nat) :
    backoffLoop step delay = delay ∧ backoffDoublings step delay = 0 := by
  cases step with
  | zero => exact ⟨rfl, rfl⟩
  | succ step =>
      unfold backoffLoop backoffDoublings
      rw [if_neg (Nat.not_lt.mpr h), if_neg (Nat.not_lt.mpr h)]
      exact ⟨rfl, rfl⟩

/-- **The loop doubles at most four times**, and its value is that of unbounded arithmetic. -/
theorem backoffLoop_eq (step : Nat) :
    backoffDoublings step dbStaBackoffMinMs = min step 4 ∧
      backoffLoop step dbStaBackoffMinMs = dbStaBackoffMinMs * 2 ^ min step 4 := by
  match step with
  | 0 | 1 | 2 | 3 => decide
  | step + 4 =>
      obtain ⟨hloop, hdoublings⟩ := @backoffLoop_of_le 80000 (by decide) step
      rw [Nat.min_eq_right (Nat.le_add_left 4 step)]
      constructor
      · show backoffDoublings step 80000 + 4 = 4
        rw [hdoublings]
      · show backoffLoop step 80000 = 80000
        exact hloop

/-- **The delay of an attempt** in closed form. -/
theorem dbStaRetryDelayMs_eq (attempt : Nat) :
    dbStaRetryDelayMs attempt =
      if attempt < 3 then 0 else min 60000 (5000 * 2 ^ (attempt - 3)) := by
  unfold dbStaRetryDelayMs dbStaFastRetries
  split
  · rfl
  · dsimp only
    rw [(backoffLoop_eq _).2]
    unfold dbStaBackoffMaxMs dbStaBackoffMinMs
    by_cases h : attempt - 3 ≤ 4
    · rw [Nat.min_eq_left h]
      split <;> omega
    · have hpow : 2 ^ 4 ≤ 2 ^ (attempt - 3) := Nat.pow_le_pow_right (by omega) (by omega)
      rw [Nat.min_eq_right (by omega)]
      have hbig : 60000 ≤ 5000 * 2 ^ (attempt - 3) := by omega
      rw [Nat.min_eq_left hbig]
      rfl

/-- A later attempt does not wait less. -/
theorem dbStaRetryDelayMs_mono {attempt attempt' : Nat} (h : attempt ≤ attempt') :
    dbStaRetryDelayMs attempt ≤ dbStaRetryDelayMs attempt' := by
  have hpow : 2 ^ (attempt - 3) ≤ 2 ^ (attempt' - 3) :=
    Nat.pow_le_pow_right (by omega) (Nat.sub_le_sub_right h 3)
  rw [dbStaRetryDelayMs_eq, dbStaRetryDelayMs_eq]
  split
  · exact Nat.zero_le _
  · rw [if_neg (by omega)]
    omega

/-- From the eighth attempt on the delay is at the ceiling. -/
theorem dbStaRetryDelayMs_ceiling {attempt : Nat} (h : 7 ≤ attempt) :
    dbStaRetryDelayMs attempt = 60000 := by
  have hpow : 2 ^ 4 ≤ 2 ^ (attempt - 3) := Nat.pow_le_pow_right (by omega) (by omega)
  rw [dbStaRetryDelayMs_eq, if_neg (by omega)]
  omega

/-! ## 2. The retries of a run -/

/-- The delay a step of `sta_schedule_retry` schedules a retry with, `timer` being what it leaves
    in `sta_retry_timer`: none in front of `esp_wifi_connect`, and what the timer is armed with
    after `esp_timer_start_once`. -/
def RetryStage.scheduled (timer : Option Nat) : RetryStage → Option Nat
  | .connect => some 0
  | .start _ => timer
  | .readCount | .writeCount _ | .setConnecting | .stop _ => none

def EventPc.scheduled (timer : Option Nat) : EventPc → Option Nat
  | .schedule stage => stage.scheduled timer
  | _ => none

def WorkerPc.scheduled (timer : Option Nat) : WorkerPc → Option Nat
  | .schedule stage => stage.scheduled timer
  | _ => none

/-- The delay of the retry that the step from `s` to `s'` schedules. -/
def Station.scheduled (s s' : Station) : StationAction → Option Nat
  | .event _ _ => s.event.scheduled s'.net.timer
  | .worker _ _ => s.worker.pc.scheduled s'.net.timer
  | _ => none

/-- The station side with the delays of the retries scheduled so far. -/
structure Reconnecting where
  station : Station
  delays : List Nat

/-- The station side from a state on. -/
def reconnecting (B : StationBoot) (s₀ : Station) : System Reconnecting StationAction where
  init r := r = ⟨s₀, []⟩
  step r a :=
    (stationStep B r.station a).map fun s => ⟨s, r.delays ++ (r.station.scheduled s a).toList⟩

/-- **No address and no reconfiguration**: the handler of an address does not set the count back,
    and the provisioning worker, whose last call is a retry of its own, does not run. -/
def Uninterrupted (r : Reconnecting) : StationAction → Prop
  | .worker _ _ => False
  | .event _ _ => r.station.event ≠ .resetRetryCount
  | _ => True

instance (r : Reconnecting) (a : StationAction) : Decidable (Uninterrupted r a) := by
  unfold Uninterrupted
  cases a <;> infer_instance

/-- The number of the attempt the event task makes next: the one it has read, or that of the
    variable. -/
def EventPc.attempt (staRetryCount : Nat) : EventPc → Nat
  | .schedule (.writeCount count) => count
  | _ => staRetryCount

def Station.nextAttempt (s : Station) : Nat := s.event.attempt s.net.staRetryCount

/-- The delay computed for the retry under way, from the write of the count to the call that
    schedules it. -/
def RetryStage.underway : RetryStage → Option Nat
  | .setConnecting | .connect => some 0
  | .stop delayMs | .start delayMs => some delayMs
  | .readCount | .writeCount _ => none

def EventPc.underway : EventPc → Option Nat
  | .schedule stage => stage.underway
  | _ => none

section Run

variable {B : StationBoot}

theorem Net.connect_retryCount (n : Net) (ok : Bool) :
    (n.connect ok).staRetryCount = n.staRetryCount := by
  unfold Net.connect
  split <;> rfl

theorem Net.connect_timer (n : Net) (ok : Bool) : (n.connect ok).timer = n.timer := by
  unfold Net.connect
  split <;> rfl

theorem Net.startTimer_retryCount (n : Net) (delayMs : Nat) :
    (n.startTimer delayMs).staRetryCount = n.staRetryCount := by
  unfold Net.startTimer
  split <;> rfl

/-- A stopped timer is armed with the delay it is given. -/
theorem Net.startTimer_timer {n : Net} (h : n.timer = none) (delayMs : Nat) :
    (n.startTimer delayMs).timer = some delayMs := by
  unfold Net.startTimer
  rw [h]

/-- The timer is stopped in front of `esp_timer_start_once`. -/
def EventPc.TimerStopped (n : Net) (pc : EventPc) : Prop :=
  ∀ delayMs, pc = .schedule (.start delayMs) → n.timer = none

/-- **What a step does with the attempts**: from the next attempt and the delay under way to those
    after it, with the delay scheduled. -/
inductive RetryStep (attempt : Nat) : Option Nat → Nat → Option Nat → Option Nat → Prop where
  | keeps {underway : Option Nat} : RetryStep attempt underway attempt underway none
  | computes :
      RetryStep attempt none ((attempt + 1) % 2 ^ 32) (some (dbStaRetryDelayMs attempt)) none
  | schedules {delay : Nat} : RetryStep attempt (some delay) attempt none (some delay)

/-- **What the event task does with them**, outside the handler of an address. -/
theorem EventStep.retries {n n' : Net} {ok : Bool} {rssi : Option Int} {pc pc' : EventPc}
    (h : EventStep n ok rssi pc n' pc') (hne : pc ≠ .resetRetryCount) (ht : pc.TimerStopped n) :
    RetryStep (pc.attempt n.staRetryCount) pc.underway (pc'.attempt n'.staRetryCount) pc'.underway
      (pc.scheduled n'.timer) := by
  cases h with
  | resetRetryCount => exact absurd rfl hne
  | @neutral e events hq he =>
      cases e with
      | apStart ip => cases ip <;> exact .keeps
      | apStaConnected | apStaDisconnected | staConnected => exact .keeps
      | staDisconnected reason | staGotIp ip since => cases he
  | schedule hs =>
      cases hs with
      | @atOnce count h0 =>
          have hc : RetryStep count none ((count + 1) % 2 ^ 32) (some (dbStaRetryDelayMs count)) none :=
            .computes
          rw [h0] at hc
          exact hc
      | later => exact .computes
      | readCount | setConnecting | stop => exact .keeps
  | scheduled hs =>
      cases hs with
      | connect =>
          show RetryStep _ (some 0) (n.connect ok).staRetryCount none (some 0)
          rw [Net.connect_retryCount]
          exact .schedules
      | @start delayMs =>
          show RetryStep _ (some delayMs) (n.startTimer delayMs).staRetryCount none
            (n.startTimer delayMs).timer
          rw [Net.startTimer_retryCount, Net.startTimer_timer (ht delayMs rfl)]
          exact .schedules
  | disconnected | gotIp | setLastReason | setDisconnected | assocLeave | otherReason
  | reconfiguring | notReconfiguring | configured | notConfigured | setIp | setConnected
  | stopTimer | noRssi | readRssi => exact .keeps

/-- `esp_timer_stop` stands in front of `esp_timer_start_once`. -/
theorem EventStep.timerStopped {n n' : Net} {ok : Bool} {rssi : Option Int} {pc pc' : EventPc}
    (h : EventStep n ok rssi pc n' pc') : pc'.TimerStopped n' := by
  intro delayMs hpc
  cases h with
  | @neutral e events hq he =>
      cases e with
      | apStart ip => cases ip <;> cases hpc
      | apStaConnected | apStaDisconnected | staConnected => cases hpc
      | staDisconnected reason | staGotIp ip since => cases he
  | schedule hs =>
      cases hs with
      | stop => rfl
      | readCount | atOnce | later | setConnecting => cases hpc
  | resetRetryCount | scheduled | disconnected | gotIp | setLastReason | setDisconnected
  | assocLeave | otherReason | reconfiguring | notReconfiguring | configured | notConfigured
  | setIp | setConnected | stopTimer | noRssi | readRssi => cases hpc

/-- The timer callback and `app_main` leave the count and the timer alone. -/
theorem TimerStep.leaves {n n' : Net} {ok : Bool} {pc pc' : TimerPc}
    (h : TimerStep n ok pc n' pc') :
    n'.staRetryCount = n.staRetryCount ∧ n'.timer = n.timer := by
  cases h with
  | connect => exact ⟨Net.connect_retryCount _ _, Net.connect_timer _ _⟩
  | reconfiguring | notReconfiguring | configured | notConfigured | setConnecting => exact ⟨rfl, rfl⟩

theorem StartStep.leaves {n n' : Net} {ok : Bool} {pc pc' : StartPc}
    (h : StartStep n ok pc n' pc') :
    n'.staRetryCount = n.staRetryCount ∧ n'.timer = n.timer := by
  cases h with
  | connect => exact ⟨Net.connect_retryCount _ _, Net.connect_timer _ _⟩
  | configured | notConfigured | configureFailed | connects | connectsNot | startFailed
  | setConnecting => exact ⟨rfl, rfl⟩

/-- **What an uninterrupted step does with the attempts.** -/
theorem StationStep.retries {s s' : Station} {a : StationAction} {delays : List Nat}
    (h : StationStep B s a s') (hc : Uninterrupted ⟨s, delays⟩ a)
    (ht : s.event.TimerStopped s.net) :
    RetryStep s.nextAttempt s.event.underway s'.nextAttempt s'.event.underway (s.scheduled s' a) ∧
      s'.event.TimerStopped s'.net := by
  cases h with
  | worker => exact hc.elim
  | event hs => exact ⟨hs.retries hc ht, hs.timerStopped⟩
  | @timer ok n' pc' hs =>
      obtain ⟨hcount, htimer⟩ := hs.leaves
      constructor
      · show RetryStep (s.event.attempt s.net.staRetryCount) _ (s.event.attempt n'.staRetryCount) _ _
        rw [hcount]
        exact .keeps
      · exact fun delayMs hpc => htimer.trans (ht delayMs hpc)
  | @start ok n' pc' hs =>
      obtain ⟨hcount, htimer⟩ := hs.leaves
      constructor
      · show RetryStep (s.event.attempt s.net.staRetryCount) _ (s.event.attempt n'.staRetryCount) _ _
        rw [hcount]
        exact .keeps
      · exact fun delayMs hpc => htimer.trans (ht delayMs hpc)
  | fire => exact ⟨.keeps, fun _ _ => rfl⟩
  | postRefused | post | overwrite | status | read | respond | startHttp | apEvent | gotIp | lost
  | flush => exact ⟨.keeps, ht⟩

/-- **The delays so far**, as long as the count has not wrapped: those of successive attempts; the
    one under way is that of the attempt after them. -/
structure DelaysInv (first : Nat) (r : Reconnecting) : Prop where
  stopped : r.station.event.TimerStopped r.station.net
  delays : first + r.delays.length ≤ 2 ^ 32 →
    r.delays = (List.range r.delays.length).map fun i => dbStaRetryDelayMs (first + i)
  next : first + r.delays.length < 2 ^ 32 →
    match r.station.event.underway with
    | none => r.station.nextAttempt = first + r.delays.length
    | some delay => delay = dbStaRetryDelayMs (first + r.delays.length) ∧
        r.station.nextAttempt = (first + r.delays.length + 1) % 2 ^ 32

theorem delaysInv_step {first : Nat} {s s' : Station} {delays : List Nat} {scheduled : Option Nat}
    (h : RetryStep s.nextAttempt s.event.underway s'.nextAttempt s'.event.underway scheduled)
    (hstop : s'.event.TimerStopped s'.net) (I : DelaysInv first ⟨s, delays⟩) :
    DelaysInv first ⟨s', delays ++ scheduled.toList⟩ := by
  obtain ⟨-, hd, hn⟩ := I
  dsimp only at hd hn
  generalize s.nextAttempt = attempt at h hn
  generalize s.event.underway = underway at h hn
  generalize hattempt' : s'.nextAttempt = attempt' at h
  generalize hunderway' : s'.event.underway = underway' at h
  cases h with
  | keeps =>
      rw [Option.toList_none, List.append_nil]
      refine ⟨hstop, hd, ?_⟩
      dsimp only
      rw [hattempt', hunderway']
      exact hn
  | computes =>
      rw [Option.toList_none, List.append_nil]
      refine ⟨hstop, hd, fun hlt => ?_⟩
      have hnext : attempt = first + delays.length := hn hlt
      dsimp only
      rw [hattempt', hunderway', hnext]
      exact ⟨rfl, rfl⟩
  | @schedules delay =>
      have hlen : (delays ++ (some delay).toList).length = delays.length + 1 := by simp
      refine ⟨hstop, fun hle => ?_, fun hlt => ?_⟩
      · dsimp only at hle ⊢
        rw [hlen] at hle ⊢
        obtain ⟨hdelay, -⟩ : delay = dbStaRetryDelayMs (first + delays.length) ∧ _ :=
          hn (by omega)
        rw [List.range_succ, List.map_append, ← hd (by omega), hdelay]
        rfl
      · dsimp only at hlt ⊢
        rw [hlen] at hlt ⊢
        obtain ⟨-, hnext⟩ : _ ∧ attempt = (first + delays.length + 1) % 2 ^ 32 := hn (by omega)
        rw [hunderway', hattempt', hnext, Nat.mod_eq_of_lt (by omega), Nat.add_assoc]

theorem delaysInv_reach {s₀ : Station} {r : Reconnecting} (h₀ : s₀.event.underway = none)
    (h : Reach (reconnecting B s₀) Uninterrupted r) : DelaysInv s₀.nextAttempt r := by
  refine h.inv ?_ ?_
  · intro r hr
    cases hr
    refine ⟨fun delayMs hpc => ?_, fun _ => rfl, fun _ => ?_⟩
    · dsimp only at hpc
      rw [hpc] at h₀
      cases h₀
    · dsimp only
      rw [h₀]
      rfl
  · intro r a r' _ I hc hs
    obtain ⟨s', hst, rfl⟩ := Option.map_eq_some_iff.mp hs
    obtain ⟨hstep, hstop⟩ := (stationStep_cases hst).retries hc I.stopped
    exact delaysInv_step hstep hstop I

/-- **The delays of the reconnection.** The delay of every attempt is the closed form, reached by
    at most four doublings without an overflow. From any state on in which no retry is under way,
    as long as there is no address and no reconfiguration and the count does not wrap, the delays
    the retries are scheduled with are those of successive attempts: they do not fall, and from
    the eighth attempt on they are a minute. -/
theorem sta_retry_delays :
    (∀ attempt < 2 ^ 32,
      dbStaRetryDelayMs attempt =
          (if attempt < 3 then 0 else min 60000 (5000 * 2 ^ (attempt - 3))) ∧
        backoffDoublings (attempt - 3) 5000 ≤ 4 ∧
        backoffLoop (attempt - 3) 5000 = 5000 * 2 ^ backoffDoublings (attempt - 3) 5000) ∧
    ∀ (B : StationBoot) s₀ r, s₀.event.underway = none →
      Reach (reconnecting B s₀) Uninterrupted r → s₀.nextAttempt + r.delays.length ≤ 2 ^ 32 →
        r.delays = (List.range r.delays.length).map
            (fun i => dbStaRetryDelayMs (s₀.nextAttempt + i)) ∧
          r.delays.Pairwise (· ≤ ·) ∧
          ∀ i (hi : i < r.delays.length), 7 ≤ s₀.nextAttempt + i → r.delays[i] = 60000 := by
  constructor
  · intro attempt _
    obtain ⟨hdoublings, hloop⟩ := backoffLoop_eq (attempt - 3)
    unfold dbStaBackoffMinMs at hdoublings hloop
    refine ⟨dbStaRetryDelayMs_eq attempt, ?_, ?_⟩
    · rw [hdoublings]
      exact Nat.min_le_right _ _
    · rw [hdoublings, hloop]
  · intro B s₀ r h₀ h hle
    have hd := (delaysInv_reach h₀ h).delays hle
    refine ⟨hd, ?_, ?_⟩
    · rw [hd, List.pairwise_map]
      refine List.pairwise_lt_range.imp fun hij => ?_
      exact dbStaRetryDelayMs_mono (Nat.add_le_add_left (Nat.le_of_lt hij) _)
    · intro i hi h7
      have hi' : r.delays[i]? = some (dbStaRetryDelayMs (s₀.nextAttempt + i)) := by
        rw [hd]
        simp [hi]
      rw [List.getElem?_eq_getElem hi, Option.some_inj] at hi'
      rw [hi', dbStaRetryDelayMs_ceiling h7]

end Run

/-! ## 3. A run -/

/-- The armed timer expires, and the station connects again. -/
def fired : List StationAction := .fire :: List.replicate 4 (.timer true)

/-- Eight losses in a row after a boot with a stored network. -/
def eightLosses : List StationAction :=
  storedStart ++ lostFor 201 10 ++ lostFor 201 10 ++ lostFor 201 10 ++
    (List.replicate 5 (lostFor 201 10 ++ fired)).flatten

def storedBoot : Station := .initial ⟨⟨none, none⟩, ⟨none, none⟩⟩ storedPair

def eightDelays : Reconnecting :=
  ((reconnecting benchStation storedBoot).guard Uninterrupted).runEnd ⟨storedBoot, []⟩ eightLosses

set_option maxRecDepth 8000 in
theorem eightDelays_reach : Reach (reconnecting benchStation storedBoot) Uninterrupted eightDelays :=
  reach_guard (reach_runEnd (.start rfl) (by decide))

set_option maxRecDepth 8000 in
theorem sta_retry_delays_eight :
    eightDelays.delays = [0, 0, 0, 5000, 10000, 20000, 40000, 60000] ∧
      eightDelays.delays.Pairwise (· ≤ ·) ∧ dbStaRetryDelayMs 8 = 60000 :=
  ⟨by decide, (sta_retry_delays.2 benchStation storedBoot _ rfl eightDelays_reach (by decide)).2.1,
    (sta_retry_delays.1 8 (by omega)).1⟩

end DragonBench
