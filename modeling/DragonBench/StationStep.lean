/-
  File:      DragonBench/StationStep.lean
  Subject:   What one step of the station side can do, said once.

  One relation for each context, a constructor for each thing it can do, guards included; every
  step of the functions is one of them.

  * `ScheduleStep`, `WorkerStep`, `EventStep`, `TimerStep`, `StartStep` -- the contexts;
  * `StationStep`, `stationStep_cases` -- the station side as a whole;
  * `station_reach`, `reader_reach` -- the induction over its runs, for a state and for what
    `status_get` has read;
  * `Keeps` -- what only the worker and the HTTP task change;
  * `StartInv`, `reconfiguring_reach` -- no handler runs before `start_http`, and whose flag
    `sta_reconfiguring` is.
-/
import DragonBench.Station

namespace DragonBench

open Transition

/-! ## 1. `sta_schedule_retry` -/

/-- **What a step of `sta_schedule_retry` can do**; `none` is the return. -/
inductive ScheduleStep (n : Net) (ok : Bool) : RetryStage → Net → Option RetryStage → Prop where
  | readCount : ScheduleStep n ok .readCount n (some (.writeCount n.staRetryCount))
  | atOnce {count : Nat} (h : dbStaRetryDelayMs count = 0) :
      ScheduleStep n ok (.writeCount count) { n with staRetryCount := (count + 1) % 2 ^ 32 }
        (some .setConnecting)
  | later {count : Nat} (h : dbStaRetryDelayMs count ≠ 0) :
      ScheduleStep n ok (.writeCount count) { n with staRetryCount := (count + 1) % 2 ^ 32 }
        (some (.stop (dbStaRetryDelayMs count)))
  | setConnecting :
      ScheduleStep n ok .setConnecting { n with staState := .connecting } (some .connect)
  | connect : ScheduleStep n ok .connect (n.connect ok) none
  | stop {delayMs : Nat} :
      ScheduleStep n ok (.stop delayMs) { n with timer := none } (some (.start delayMs))
  | start {delayMs : Nat} : ScheduleStep n ok (.start delayMs) (n.startTimer delayMs) none

theorem scheduleStep_cases {n n' : Net} {ok : Bool} {stage : RetryStage}
    {next : Option RetryStage} (h : scheduleStep n ok stage = (n', next)) :
    ScheduleStep n ok stage n' next := by
  unfold scheduleStep at h
  cases stage with
  | readCount =>
      cases h
      exact .readCount
  | writeCount count =>
      dsimp only at h
      by_cases hd : dbStaRetryDelayMs count = 0
      · rw [if_pos hd] at h
        cases h
        exact .atOnce hd
      · rw [if_neg hd] at h
        cases h
        exact .later hd
  | setConnecting =>
      cases h
      exact .setConnecting
  | connect =>
      cases h
      exact .connect
  | stop delayMs =>
      cases h
      exact .stop
  | start delayMs =>
      cases h
      exact .start

/-! ## 2. `sta_config_task` -/

/-- **What a step of the worker can do.** -/
inductive WorkerStep (n : Net) (w : Worker) (ok : Bool) (reason : Nat) : Net → Worker → Prop where
  | receive {creds : StaCredentials} (h : w.pc = .receive) (hq : n.queue = some creds) :
      WorkerStep n w ok reason { n with queue := none } { w with pc := .firstDelay, creds := creds }
  | firstDelay (h : w.pc = .firstDelay) :
      WorkerStep n w ok reason n { w with pc := .setReconfiguring }
  | setReconfiguring (h : w.pc = .setReconfiguring) :
      WorkerStep n w ok reason { n with staReconfiguring := true } { w with pc := .stopTimer }
  | stopTimer (h : w.pc = .stopTimer) :
      WorkerStep n w ok reason { n with timer := none } { w with pc := .disconnect }
  | disconnect (h : w.pc = .disconnect) :
      WorkerStep n w ok reason (n.disconnect reason) { w with pc := .secondDelay }
  | secondDelay (h : w.pc = .secondDelay) :
      WorkerStep n w ok reason n { w with pc := .configure 0, applied := false }
  | refused {attempt : Nat} (h : w.pc = .configure attempt)
      (hr : configureSta w.creds.ssid w.creds.password = none ∨ ok = false) :
      WorkerStep n w ok reason n { w with pc := .retryDelay attempt }
  | configured {attempt : Nat} {config : WifiConfig} (h : w.pc = .configure attempt)
      (hc : configureSta w.creds.ssid w.creds.password = some config) (hok : ok = true) :
      WorkerStep n w ok reason { n with config := config } { w with pc := .setSsid }
  | setSsid (h : w.pc = .setSsid) :
      WorkerStep n w ok reason
        { n with
          staSsid := CText.snprintf staSsidLen w.creds.ssid
          finished := n.finished + 1 }
        { w with pc := .save .open, applied := true }
  | tryAgain {attempt : Nat} (h : w.pc = .retryDelay attempt)
      (ha : attempt + 1 < configureAttempts) :
      WorkerStep n w ok reason n { w with pc := .configure (attempt + 1) }
  | giveUp {attempt : Nat} (h : w.pc = .retryDelay attempt)
      (ha : ¬ attempt + 1 < configureAttempts) :
      WorkerStep n w ok reason { n with finished := n.finished + 1 }
        { w with pc := .resetRetryCount }
  | save {stage stage' : SaveStage} {nvs : Nvs} (h : w.pc = .save stage)
      (hs : saveStep w.creds n.nvs ok stage = (nvs, some stage')) :
      WorkerStep n w ok reason { n with nvs := nvs } { w with pc := .save stage' }
  | saved {stage : SaveStage} (h : w.pc = .save stage)
      (hs : saveStep w.creds n.nvs ok stage = (n.nvs, none)) :
      WorkerStep n w ok reason n { w with pc := .setConfigured }
  | setConfigured (h : w.pc = .setConfigured) :
      WorkerStep n w ok reason { n with staConfigured := true } { w with pc := .resetRetryCount }
  | resetRetryCount (h : w.pc = .resetRetryCount) :
      WorkerStep n w ok reason { n with staRetryCount := 0 } { w with pc := .readConfigured }
  | readConfigured (h : w.pc = .readConfigured) :
      WorkerStep n w ok reason n { w with pc := .setState n.staConfigured }
  | setState {configured : Bool} (h : w.pc = .setState configured) :
      WorkerStep n w ok reason
        { n with staState := if configured then .connecting else .unconfigured }
        { w with pc := .setLastReason }
  | setLastReason (h : w.pc = .setLastReason) :
      WorkerStep n w ok reason { n with staLastReason := 0 } { w with pc := .setResult }
  | setResult (h : w.pc = .setResult) :
      WorkerStep n w ok reason { n with result := staConfigOutcome w.applied }
        { w with pc := .setRequestId }
  | setRequestId (h : w.pc = .setRequestId) :
      WorkerStep n w ok reason
        { n with
          requestId := w.creds.requestId
          published := n.published ++ [⟨w.creds, w.applied⟩] }
        { w with pc := .clearCreds }
  | clearCreds (h : w.pc = .clearCreds) :
      WorkerStep n w ok reason n { w with pc := .clearReconfiguring, creds := .zero }
  | clearReconfiguring (h : w.pc = .clearReconfiguring) :
      WorkerStep n w ok reason { n with staReconfiguring := false } { w with pc := .testConfigured }
  | schedules (h : w.pc = .testConfigured) (hc : n.staConfigured = true) :
      WorkerStep n w ok reason n { w with pc := .schedule .readCount }
  | schedulesNot (h : w.pc = .testConfigured) (hc : n.staConfigured = false) :
      WorkerStep n w ok reason n { w with pc := .receive }
  | schedule {stage stage' : RetryStage} {n' : Net} (h : w.pc = .schedule stage)
      (hs : ScheduleStep n ok stage n' (some stage')) :
      WorkerStep n w ok reason n' { w with pc := .schedule stage' }
  | scheduled {stage : RetryStage} {n' : Net} (h : w.pc = .schedule stage)
      (hs : ScheduleStep n ok stage n' none) :
      WorkerStep n w ok reason n' { w with pc := .receive }

/-- The last call of `nvs_save_sta` changes nothing. -/
theorem saveStep_none {creds : StaCredentials} {nvs nvs' : Nvs} {ok : Bool} {stage : SaveStage}
    (h : saveStep creds nvs ok stage = (nvs', none)) : nvs' = nvs := by
  unfold saveStep at h
  cases stage with
  | «open» =>
      cases ok <;> cases h
      rfl
  | close =>
      cases h
      rfl
  | setSsid | setPassword =>
      dsimp only at h
      split at h <;> cases h
  | commit => cases h

/-- **Every step of `sta_config_task` is one of these.** -/
theorem workerStep_cases {n n' : Net} {w w' : Worker} {ok : Bool} {reason : Nat}
    (h : workerStep n w ok reason = some (n', w')) : WorkerStep n w ok reason n' w' := by
  unfold workerStep at h
  cases hpc : w.pc with
  | receive =>
      simp only [hpc] at h
      cases hq : n.queue with
      | none =>
          simp only [hq] at h
          cases h
      | some creds =>
          simp only [hq] at h
          cases h
          exact .receive hpc hq
  | firstDelay =>
      simp only [hpc] at h
      cases h
      exact .firstDelay hpc
  | setReconfiguring =>
      simp only [hpc] at h
      cases h
      exact .setReconfiguring hpc
  | stopTimer =>
      simp only [hpc] at h
      cases h
      exact .stopTimer hpc
  | disconnect =>
      simp only [hpc] at h
      cases h
      exact .disconnect hpc
  | secondDelay =>
      simp only [hpc] at h
      cases h
      exact .secondDelay hpc
  | configure attempt =>
      simp only [hpc] at h
      cases hc : configureSta w.creds.ssid w.creds.password with
      | none =>
          simp only [hc] at h
          cases h
          exact .refused hpc (Or.inl hc)
      | some config =>
          simp only [hc] at h
          cases ok with
          | true =>
              cases h
              exact .configured hpc hc rfl
          | false =>
              cases h
              exact .refused hpc (Or.inr rfl)
  | setSsid =>
      simp only [hpc] at h
      cases h
      exact .setSsid hpc
  | retryDelay attempt =>
      simp only [hpc] at h
      by_cases ha : attempt + 1 < configureAttempts
      · rw [if_pos ha] at h
        cases h
        exact .tryAgain hpc ha
      · rw [if_neg ha] at h
        cases h
        exact .giveUp hpc ha
  | save stage =>
      simp only [hpc] at h
      cases hs : saveStep w.creds n.nvs ok stage with
      | mk nvs next =>
          simp only [hs] at h
          cases next with
          | none =>
              cases h
              have e := saveStep_none hs
              subst e
              exact .saved hpc hs
          | some stage' =>
              cases h
              exact .save hpc hs
  | setConfigured =>
      simp only [hpc] at h
      cases h
      exact .setConfigured hpc
  | resetRetryCount =>
      simp only [hpc] at h
      cases h
      exact .resetRetryCount hpc
  | readConfigured =>
      simp only [hpc] at h
      cases h
      exact .readConfigured hpc
  | setState configured =>
      simp only [hpc] at h
      cases h
      exact .setState hpc
  | setLastReason =>
      simp only [hpc] at h
      cases h
      exact .setLastReason hpc
  | setResult =>
      simp only [hpc] at h
      cases h
      exact .setResult hpc
  | setRequestId =>
      simp only [hpc] at h
      cases h
      exact .setRequestId hpc
  | clearCreds =>
      simp only [hpc] at h
      cases h
      exact .clearCreds hpc
  | clearReconfiguring =>
      simp only [hpc] at h
      cases h
      exact .clearReconfiguring hpc
  | testConfigured =>
      simp only [hpc] at h
      cases hc : n.staConfigured with
      | true =>
          simp only [hc] at h
          cases h
          exact .schedules hpc hc
      | false =>
          simp only [hc] at h
          cases h
          exact .schedulesNot hpc hc
  | schedule stage =>
      simp only [hpc] at h
      cases hs : scheduleStep n ok stage with
      | mk m next =>
          simp only [hs] at h
          cases next with
          | none =>
              cases h
              exact .scheduled hpc (scheduleStep_cases hs)
          | some stage' =>
              cases h
              exact .schedule hpc (scheduleStep_cases hs)

/-! ## 3. `wifi_event` -/

/-- **What a step of the event task can do.** -/
inductive EventStep (n : Net) (ok : Bool) (rssi : Option Int) : EventPc → Net → EventPc → Prop where
  | neutral {e : WifiEvent} {events : List WifiEvent} (hq : n.events = e :: events)
      (he : e.neutral = true) :
      EventStep n ok rssi .idle (takeEvent { n with events := events } e).1 .idle
  | disconnected {reason : Nat} {events : List WifiEvent}
      (hq : n.events = .staDisconnected reason :: events) :
      EventStep n ok rssi .idle { n with events := events } (.setLastReason reason)
  | gotIp {ip : CText} {since : Nat} {events : List WifiEvent}
      (hq : n.events = .staGotIp ip since :: events) :
      EventStep n ok rssi .idle { n with events := events } (.setIp ip since)
  | setLastReason {reason : Nat} :
      EventStep n ok rssi (.setLastReason reason) { n with staLastReason := reason }
        (.setDisconnected reason)
  | setDisconnected {reason : Nat} :
      EventStep n ok rssi (.setDisconnected reason) { n with staState := .disconnected }
        (.testReason reason)
  | assocLeave : EventStep n ok rssi (.testReason wifiReasonAssocLeave) n .idle
  | otherReason {reason : Nat} (hr : reason ≠ wifiReasonAssocLeave) :
      EventStep n ok rssi (.testReason reason) n .testReconfiguring
  | reconfiguring (hr : n.staReconfiguring = true) : EventStep n ok rssi .testReconfiguring n .idle
  | notReconfiguring (hr : n.staReconfiguring = false) :
      EventStep n ok rssi .testReconfiguring n .testConfigured
  | configured (hc : n.staConfigured = true) :
      EventStep n ok rssi .testConfigured n (.schedule .readCount)
  | notConfigured (hc : n.staConfigured = false) : EventStep n ok rssi .testConfigured n .idle
  | schedule {stage stage' : RetryStage} {n' : Net} (hs : ScheduleStep n ok stage n' (some stage')) :
      EventStep n ok rssi (.schedule stage) n' (.schedule stage')
  | scheduled {stage : RetryStage} {n' : Net} (hs : ScheduleStep n ok stage n' none) :
      EventStep n ok rssi (.schedule stage) n' .idle
  | setIp {ip : CText} {since : Nat} :
      EventStep n ok rssi (.setIp ip since) { n with staIp := ip } (.setConnected since)
  | setConnected {since : Nat} :
      EventStep n ok rssi (.setConnected since) { n with staState := .connected, since := since }
        .stopTimer
  | stopTimer : EventStep n ok rssi .stopTimer { n with timer := none } .resetRetryCount
  | resetRetryCount : EventStep n ok rssi .resetRetryCount { n with staRetryCount := 0 } .readRssi
  | noRssi : EventStep n ok rssi .readRssi n .idle
  | readRssi {value : Int} : EventStep n ok rssi .readRssi { n with wifiRssi := value } .idle

theorem takeEvent_cases {n n' : Net} {e : WifiEvent} {events : List WifiEvent} {pc' : EventPc}
    {ok : Bool} {rssi : Option Int} (hq : n.events = e :: events)
    (h : takeEvent { n with events := events } e = (n', pc')) :
    EventStep n ok rssi .idle n' pc' := by
  have hneutral : e.neutral = true → pc' = .idle → EventStep n ok rssi .idle n' pc' := by
    intro he hpc
    have hn : n' = (takeEvent { n with events := events } e).1 := by rw [h]
    rw [hn, hpc]
    exact .neutral hq he
  cases e with
  | apStart ip => cases ip <;> (cases h; exact hneutral rfl rfl)
  | apStaConnected | apStaDisconnected | staConnected =>
      cases h
      exact hneutral rfl rfl
  | staDisconnected reason =>
      cases h
      exact .disconnected hq
  | staGotIp ip since =>
      cases h
      exact .gotIp hq

/-- **Every step of the event task is one of these.** -/
theorem eventStep_cases {n n' : Net} {pc pc' : EventPc} {ok : Bool} {rssi : Option Int}
    (h : eventStep n ok rssi pc = some (n', pc')) : EventStep n ok rssi pc n' pc' := by
  unfold eventStep at h
  cases pc with
  | idle =>
      dsimp only at h
      cases hq : n.events with
      | nil =>
          simp only [hq] at h
          cases h
      | cons e events =>
          simp only [hq, Option.some.injEq] at h
          exact takeEvent_cases hq h
  | setLastReason reason =>
      cases h
      exact .setLastReason
  | setDisconnected reason =>
      cases h
      exact .setDisconnected
  | testReason reason =>
      dsimp only at h
      by_cases hr : reason = wifiReasonAssocLeave
      · rw [if_pos hr] at h
        cases h
        rw [hr]
        exact .assocLeave
      · rw [if_neg hr] at h
        cases h
        exact .otherReason hr
  | testReconfiguring =>
      dsimp only at h
      cases hr : n.staReconfiguring with
      | true =>
          simp only [hr] at h
          cases h
          exact .reconfiguring hr
      | false =>
          simp only [hr] at h
          cases h
          exact .notReconfiguring hr
  | testConfigured =>
      dsimp only at h
      cases hc : n.staConfigured with
      | true =>
          simp only [hc] at h
          cases h
          exact .configured hc
      | false =>
          simp only [hc] at h
          cases h
          exact .notConfigured hc
  | schedule stage =>
      dsimp only at h
      cases hs : scheduleStep n ok stage with
      | mk m next =>
          simp only [hs] at h
          cases next with
          | none =>
              cases h
              exact .scheduled (scheduleStep_cases hs)
          | some stage' =>
              cases h
              exact .schedule (scheduleStep_cases hs)
  | setIp ip since =>
      cases h
      exact .setIp
  | setConnected since =>
      cases h
      exact .setConnected
  | stopTimer =>
      cases h
      exact .stopTimer
  | resetRetryCount =>
      cases h
      exact .resetRetryCount
  | readRssi =>
      dsimp only at h
      cases rssi with
      | none =>
          cases h
          exact .noRssi
      | some value =>
          cases h
          exact .readRssi

/-! ## 4. `sta_retry_fire` -/

/-- **What a step of the timer callback can do.** -/
inductive TimerStep (n : Net) (ok : Bool) : TimerPc → Net → TimerPc → Prop where
  | reconfiguring (hr : n.staReconfiguring = true) : TimerStep n ok .testReconfiguring n .idle
  | notReconfiguring (hr : n.staReconfiguring = false) :
      TimerStep n ok .testReconfiguring n .testConfigured
  | configured (hc : n.staConfigured = true) : TimerStep n ok .testConfigured n .setConnecting
  | notConfigured (hc : n.staConfigured = false) : TimerStep n ok .testConfigured n .idle
  | setConnecting : TimerStep n ok .setConnecting { n with staState := .connecting } .connect
  | connect : TimerStep n ok .connect (n.connect ok) .idle

/-- **Every step of the timer callback is one of these.** -/
theorem timerStep_cases {n n' : Net} {pc pc' : TimerPc} {ok : Bool}
    (h : timerStep n ok pc = some (n', pc')) : TimerStep n ok pc n' pc' := by
  unfold timerStep at h
  cases pc with
  | idle => cases h
  | testReconfiguring =>
      dsimp only at h
      cases hr : n.staReconfiguring with
      | true =>
          simp only [hr] at h
          cases h
          exact .reconfiguring hr
      | false =>
          simp only [hr] at h
          cases h
          exact .notReconfiguring hr
  | testConfigured =>
      dsimp only at h
      cases hc : n.staConfigured with
      | true =>
          simp only [hc] at h
          cases h
          exact .configured hc
      | false =>
          simp only [hc] at h
          cases h
          exact .notConfigured hc
  | setConnecting =>
      cases h
      exact .setConnecting
  | connect =>
      cases h
      exact .connect

/-! ## 5. `app_main` -/

/-- **What a step of `app_main` around the station can do.** -/
inductive StartStep (n : Net) (ok : Bool) : StartPc → Net → StartPc → Prop where
  | configured {ssid password : CText} {config : WifiConfig} (hc : n.staConfigured = true)
      (hs : configureSta ssid password = some config) (hok : ok = true) :
      StartStep n ok (.configure ssid password)
        { n with config := config, staSsid := CText.snprintf staSsidLen ssid } .startRadio
  | notConfigured {ssid password : CText} (hc : n.staConfigured = false) :
      StartStep n ok (.configure ssid password) n .startRadio
  | configureFailed {ssid password : CText} (hc : n.staConfigured = true)
      (hr : configureSta ssid password = none ∨ ok = false) :
      StartStep n ok (.configure ssid password) n .failed
  | connects (hok : ok = true) (hc : n.staConfigured = true) :
      StartStep n ok .startRadio n .setConnecting
  | connectsNot (hok : ok = true) (hc : n.staConfigured = false) :
      StartStep n ok .startRadio n .startHttp
  | startFailed (hok : ok = false) : StartStep n ok .startRadio n .failed
  | setConnecting : StartStep n ok .setConnecting { n with staState := .connecting } .connect
  | connect : StartStep n ok .connect (n.connect ok) .startHttp

/-! ## 6. The station side -/

/-- **What a step of the station side can do.** -/
inductive StationStep (B : StationBoot) (s : Station) : StationAction → Station → Prop where
  | postRefused {body : Option Json} (hh : s.http = .idle) (hb : staRequest body = none) :
      StationStep B s (.post body) s
  | post {body : Option Json} {ssid password : CText} (hh : s.http = .idle)
      (hb : staRequest body = some (ssid, password)) :
      StationStep B s (.post body)
        { s with
          requestCounter := dbRequestIdNext s.requestCounter
          http := .posting (credentials (dbRequestIdNext s.requestCounter) ssid password) }
  | overwrite {creds : StaCredentials} (hh : s.http = .posting creds) :
      StationStep B s .overwrite
        { s with
          net := { s.net with queue := some creds }
          http := .idle
          submitted := s.submitted ++ [creds] }
  | status (hh : s.http = .idle) :
      StationStep B s .status { s with http := .status .mode .blank }
  | read {live : Option CText} {pc pc' : StatusPc} {r r' : NetworkStatus}
      (hh : s.http = .status pc r) (hr : statusStep B s.net live r pc = (r', some pc')) :
      StationStep B s (.read live) { s with http := .status pc' r' }
  | respond {live : Option CText} {r r' : NetworkStatus} {pc : StatusPc}
      (hh : s.http = .status pc r) (hr : statusStep B s.net live r pc = (r', none)) :
      StationStep B s (.read live) { s with http := .idle, responses := s.responses ++ [r'] }
  | worker {ok : Bool} {reason : Nat} {n' : Net} {w' : Worker}
      (hs : WorkerStep s.net s.worker ok reason n' w') :
      StationStep B s (.worker ok reason) { s with net := n', worker := w' }
  | event {ok : Bool} {rssi : Option Int} {n' : Net} {pc' : EventPc}
      (hs : EventStep s.net ok rssi s.event n' pc') :
      StationStep B s (.event ok rssi) { s with net := n', event := pc' }
  | timer {ok : Bool} {n' : Net} {pc' : TimerPc} (hs : TimerStep s.net ok s.timer n' pc') :
      StationStep B s (.timer ok) { s with net := n', timer := pc' }
  | fire {delayMs : Nat} (ha : s.net.timer = some delayMs) (ht : s.timer = .idle) :
      StationStep B s .fire
        { s with net := { s.net with timer := none }, timer := .testReconfiguring }
  | start {ok : Bool} {n' : Net} {pc' : StartPc} (hs : StartStep s.net ok s.start n' pc') :
      StationStep B s (.start ok) { s with net := n', start := pc' }
  | startHttp {ok : Bool} (hp : s.start = .startHttp) :
      StationStep B s (.start ok)
        { s with http := .idle, start := .up, base := (s.net.config, s.net.staSsid) }
  | apEvent {e : WifiEvent} (he : e.neutral = true) :
      StationStep B s (.apEvent e)
        { s with net := { s.net with events := s.net.events ++ [e] } }
  | gotIp {ip : CText} (hl : s.net.link ≠ .idle) :
      StationStep B s (.gotIp ip)
        { s with net := { s.net with
            link := .associated
            events := s.net.events ++ [.staGotIp ip s.net.finished] } }
  | lost {reason : Nat} (hl : s.net.link ≠ .idle) :
      StationStep B s (.lost reason)
        { s with net := { s.net with
            link := .idle
            events := s.net.events ++ [.staDisconnected reason] } }
  | flush {key : NvsKey} :
      StationStep B s (.flush key) { s with net := { s.net with nvs := s.net.nvs.flush key } }

theorem startStep_cases {B : StationBoot} {s s' : Station} {ok : Bool}
    (h : startStep s ok = some s') : StationStep B s (.start ok) s' := by
  unfold startStep at h
  have hstart : ∀ {n' : Net} {pc' : StartPc}, StartStep s.net ok s.start n' pc' →
      s' = { s with net := n', start := pc' } → StationStep B s (.start ok) s' := by
    intro n' pc' hs e
    rw [e]
    exact .start hs
  cases hp : s.start with
  | configure ssid password =>
      simp only [hp] at h
      rw [hp] at hstart
      cases hc : s.net.staConfigured with
      | false =>
          simp only [hc] at h
          cases h
          exact hstart (.notConfigured hc) rfl
      | true =>
          simp only [hc, if_true] at h
          cases hs : configureSta ssid password with
          | none =>
              simp only [hs] at h
              cases h
              exact hstart (.configureFailed hc (Or.inl hs)) rfl
          | some config =>
              simp only [hs] at h
              cases ok with
              | true =>
                  cases h
                  exact hstart (.configured hc hs rfl) (by simp only [hc])
              | false =>
                  cases h
                  exact hstart (.configureFailed hc (Or.inr rfl)) rfl
  | startRadio =>
      simp only [hp] at h
      rw [hp] at hstart
      cases ok with
      | false =>
          cases h
          exact hstart (.startFailed rfl) rfl
      | true =>
          cases hc : s.net.staConfigured with
          | true =>
              simp only [hc] at h
              cases h
              exact hstart (.connects rfl hc) rfl
          | false =>
              simp only [hc] at h
              cases h
              exact hstart (.connectsNot rfl hc) rfl
  | setConnecting =>
      simp only [hp] at h
      rw [hp] at hstart
      cases h
      exact hstart .setConnecting rfl
  | connect =>
      simp only [hp] at h
      rw [hp] at hstart
      cases h
      exact hstart .connect rfl
  | startHttp =>
      simp only [hp] at h
      cases h
      exact .startHttp hp
  | up | failed =>
      simp only [hp] at h
      cases h

/-- **Every step of the station side is one of these.** -/
theorem stationStep_cases {B : StationBoot} {s s' : Station} {a : StationAction}
    (h : stationStep B s a = some s') : StationStep B s a s' := by
  unfold stationStep at h
  cases a with
  | post body =>
      simp only [Option.ite_none_right_eq_some, Option.some.injEq] at h
      obtain ⟨hh, rfl⟩ := h
      unfold networkStaPost
      cases hb : staRequest body with
      | none => exact .postRefused hh hb
      | some p => exact .post hh hb
  | overwrite =>
      cases hh : s.http with
      | posting creds =>
          simp only [hh] at h
          cases h
          exact .overwrite hh
      | down | idle | status pc r =>
          simp only [hh] at h
          cases h
  | status =>
      simp only [Option.ite_none_right_eq_some, Option.some.injEq] at h
      obtain ⟨hh, rfl⟩ := h
      exact .status hh
  | read live =>
      cases hh : s.http with
      | status pc r =>
          simp only [hh] at h
          cases hr : statusStep B s.net live r pc with
          | mk r' next =>
              simp only [hr] at h
              cases next with
              | none =>
                  cases h
                  exact .respond hh hr
              | some pc' =>
                  cases h
                  exact .read hh hr
      | down | idle | posting creds =>
          simp only [hh] at h
          cases h
  | worker ok reason =>
      simp only [Option.map_eq_some_iff] at h
      obtain ⟨⟨n', w'⟩, hs, rfl⟩ := h
      exact .worker (workerStep_cases hs)
  | event ok rssi =>
      simp only [Option.map_eq_some_iff] at h
      obtain ⟨⟨n', pc'⟩, hs, rfl⟩ := h
      exact .event (eventStep_cases hs)
  | timer ok =>
      simp only [Option.map_eq_some_iff] at h
      obtain ⟨⟨n', pc'⟩, hs, rfl⟩ := h
      exact .timer (timerStep_cases hs)
  | fire =>
      simp only [Option.ite_none_right_eq_some, Option.some.injEq] at h
      obtain ⟨⟨ha, ht⟩, rfl⟩ := h
      obtain ⟨delayMs, hd⟩ := Option.isSome_iff_exists.mp ha
      exact .fire hd ht
  | start ok => exact startStep_cases h
  | apEvent e =>
      simp only [Option.ite_none_right_eq_some, Option.some.injEq] at h
      obtain ⟨he, rfl⟩ := h
      exact .apEvent he
  | gotIp ip =>
      simp only [Option.ite_none_left_eq_some, Option.some.injEq] at h
      obtain ⟨hl, rfl⟩ := h
      exact .gotIp hl
  | lost reason =>
      simp only [Option.ite_none_left_eq_some, Option.some.injEq] at h
      obtain ⟨hl, rfl⟩ := h
      exact .lost hl
  | flush key =>
      cases h
      exact .flush

/-! ## 7. Induction over the runs -/

/-- **The rule for the station side**: what it has when `start_wifi` has created the worker, and
    what every step from a reachable state keeps, it has in every state reached. -/
theorem station_reach {B : StationBoot} {C : Station → StationAction → Prop} {I : Station → Prop}
    (h0 : ∀ nvs pair, I (.initial nvs pair))
    (hI : ∀ s a s', Reach (station B) C s → I s → C s a → StationStep B s a s' → I s')
    {s : Station} (h : Reach (station B) C s) : I s := by
  refine h.inv ?_ ?_
  · intro s hs
    obtain ⟨nvs, pair, rfl⟩ := hs
    exact h0 nvs pair
  · intro s a s' hr I hc hs
    exact hI s a s' hr I hc (stationStep_cases hs)

/-- **The rule for `status_get`**: what holds in front of its first read, what every read keeps and
    what no other step takes away, holds at every control point, and ends as `Q` in the response. -/
theorem reader_reach {B : StationBoot} {C : Station → StationAction → Prop}
    {R : Net → StatusPc → NetworkStatus → Prop} {Q : Net → NetworkStatus → Prop}
    (h0 : ∀ n, R n .mode .blank)
    (hread : ∀ s live pc r, Reach (station B) C s → C s (.read live) → s.http = .status pc r →
      R s.net pc r → ∀ r' next, statusStep B s.net live r pc = (r', next) →
        (∀ pc', next = some pc' → R s.net pc' r') ∧ (next = none → Q s.net r'))
    (hnet : ∀ s a s', Reach (station B) C s → C s a → StationStep B s a s' →
      (∀ pc r, s.http = .status pc r → R s.net pc r → R s'.net pc r) ∧
        ∀ r, Q s.net r → Q s'.net r)
    {s : Station} (h : Reach (station B) C s) :
    (∀ pc r, s.http = .status pc r → R s.net pc r) ∧ ∀ r ∈ s.responses, Q s.net r := by
  refine station_reach (I := fun s => (∀ pc r, s.http = .status pc r → R s.net pc r) ∧
    ∀ r ∈ s.responses, Q s.net r) ?_ ?_ h
  · intro nvs pair
    exact ⟨fun pc r e => StationHttp.noConfusion e, fun r hr => absurd hr List.not_mem_nil⟩
  · intro s a s' hr I hc hs
    obtain ⟨hR, hQ⟩ := hnet s a s' hr hc hs
    have hresp : ∀ r ∈ s.responses, Q s'.net r := fun r hm => hQ r (I.2 r hm)
    cases hs with
    | read hh hstep =>
        refine ⟨fun pc r e => ?_, hresp⟩
        cases e
        exact (hread s _ _ _ hr hc hh (I.1 _ _ hh) _ _ hstep).1 _ rfl
    | respond hh hstep =>
        refine ⟨fun pc r e => StationHttp.noConfusion e, fun r hm => ?_⟩
        rcases List.mem_append.mp hm with hm | hm
        · exact hresp r hm
        · rw [List.mem_singleton] at hm
          rw [hm]
          exact (hread s _ _ _ hr hc hh (I.1 _ _ hh) _ _ hstep).2 rfl
    | status =>
        refine ⟨fun pc r e => ?_, hresp⟩
        cases e
        exact h0 s.net
    | post | overwrite | startHttp => exact ⟨fun pc r e => StationHttp.noConfusion e, hresp⟩
    | postRefused | worker | event | timer | fire | start | apEvent | gotIp | lost | flush =>
        exact ⟨fun pc r e => hR pc r e (I.1 pc r e), hresp⟩

/-! ## 8. Frames -/

/-- The variables of the provisioning are the same. -/
structure Keeps (n n' : Net) : Prop where
  queue : n'.queue = n.queue
  requestId : n'.requestId = n.requestId
  result : n'.result = n.result
  config : n'.config = n.config
  staSsid : n'.staSsid = n.staSsid
  staConfigured : n'.staConfigured = n.staConfigured
  staReconfiguring : n'.staReconfiguring = n.staReconfiguring
  nvs : n'.nvs = n.nvs
  finished : n'.finished = n.finished
  published : n'.published = n.published

theorem Keeps.refl (n : Net) : Keeps n n := ⟨rfl, rfl, rfl, rfl, rfl, rfl, rfl, rfl, rfl, rfl⟩

theorem Net.connect_keeps (n : Net) (ok : Bool) : Keeps n (n.connect ok) := by
  unfold Net.connect
  split
  · exact ⟨rfl, rfl, rfl, rfl, rfl, rfl, rfl, rfl, rfl, rfl⟩
  · exact .refl n

theorem Net.disconnect_keeps (n : Net) (reason : Nat) : Keeps n (n.disconnect reason) := by
  unfold Net.disconnect
  split
  · exact .refl n
  · exact ⟨rfl, rfl, rfl, rfl, rfl, rfl, rfl, rfl, rfl, rfl⟩

theorem Net.startTimer_keeps (n : Net) (delayMs : Nat) : Keeps n (n.startTimer delayMs) := by
  unfold Net.startTimer
  split
  · exact ⟨rfl, rfl, rfl, rfl, rfl, rfl, rfl, rfl, rfl, rfl⟩
  · exact .refl n

theorem ScheduleStep.keeps {n n' : Net} {ok : Bool} {stage : RetryStage}
    {next : Option RetryStage} (h : ScheduleStep n ok stage n' next) : Keeps n n' := by
  cases h with
  | connect => exact n.connect_keeps ok
  | start => exact n.startTimer_keeps _
  | readCount | atOnce | later | setConnecting | stop =>
      exact ⟨rfl, rfl, rfl, rfl, rfl, rfl, rfl, rfl, rfl, rfl⟩

/-- The event task leaves the provisioning alone. -/
theorem EventStep.keeps {n n' : Net} {ok : Bool} {rssi : Option Int} {pc pc' : EventPc}
    (h : EventStep n ok rssi pc n' pc') : Keeps n n' := by
  cases h with
  | @neutral e events hq he =>
      cases e with
      | apStart ip => cases ip <;> exact ⟨rfl, rfl, rfl, rfl, rfl, rfl, rfl, rfl, rfl, rfl⟩
      | apStaConnected | apStaDisconnected | staConnected =>
          exact ⟨rfl, rfl, rfl, rfl, rfl, rfl, rfl, rfl, rfl, rfl⟩
      | staDisconnected | staGotIp => cases he
  | schedule hs | scheduled hs => exact hs.keeps
  | disconnected | gotIp | setLastReason | setDisconnected | assocLeave | otherReason
  | reconfiguring | notReconfiguring | configured | notConfigured | setIp | setConnected
  | stopTimer | resetRetryCount | noRssi | readRssi =>
      exact ⟨rfl, rfl, rfl, rfl, rfl, rfl, rfl, rfl, rfl, rfl⟩

/-- So does the timer callback. -/
theorem TimerStep.keeps {n n' : Net} {ok : Bool} {pc pc' : TimerPc}
    (h : TimerStep n ok pc n' pc') : Keeps n n' := by
  cases h with
  | connect => exact n.connect_keeps ok
  | reconfiguring | notReconfiguring | configured | notConfigured | setConnecting =>
      exact ⟨rfl, rfl, rfl, rfl, rfl, rfl, rfl, rfl, rfl, rfl⟩

/-! ## 9. Before `start_http` -/

/-- No handler runs before `start_http`, so the worker has nothing to do. -/
def StartInv (s : Station) : Prop :=
  s.start ≠ .up → s.http = .down ∧ s.worker.pc = .receive ∧ s.net.queue = none ∧
    s.net.published = [] ∧ s.submitted = []

/-- What `app_main` leaves alone: all of the provisioning but the radio configuration and
    `sta_ssid`. -/
structure StartKeeps (n n' : Net) (pc : StartPc) : Prop where
  ne_up : pc ≠ .up
  queue : n'.queue = n.queue
  published : n'.published = n.published
  finished : n'.finished = n.finished
  requestId : n'.requestId = n.requestId
  result : n'.result = n.result
  staReconfiguring : n'.staReconfiguring = n.staReconfiguring
  staConfigured : n'.staConfigured = n.staConfigured
  nvs : n'.nvs = n.nvs

theorem StartStep.keeps {n n' : Net} {ok : Bool} {pc pc' : StartPc}
    (h : StartStep n ok pc n' pc') : StartKeeps n n' pc := by
  cases h with
  | connect =>
      have k := n.connect_keeps ok
      exact ⟨StartPc.noConfusion, k.queue, k.published, k.finished, k.requestId, k.result,
        k.staReconfiguring, k.staConfigured, k.nvs⟩
  | configured | notConfigured | configureFailed | connects | connectsNot | startFailed
  | setConnecting => exact ⟨StartPc.noConfusion, rfl, rfl, rfl, rfl, rfl, rfl, rfl, rfl⟩

theorem startInv_reach {B : StationBoot} {C : Station → StationAction → Prop} {s : Station}
    (h : Reach (station B) C s) : StartInv s := by
  refine station_reach ?_ ?_ h
  · intro nvs pair _
    exact ⟨rfl, rfl, rfl, rfl, rfl⟩
  · intro s a s' _ I _ hs
    -- a handler that runs, or a worker that moves, shows that `start_http` is behind
    have hup : s.http ≠ .down → s.start = .up := by
      intro hne
      by_contra hn
      exact hne (I hn).1
    cases hs with
    | postRefused => exact I
    | post hh | overwrite hh | status hh | read hh | respond hh =>
        intro hn
        exact absurd (hup (by rw [hh]; exact StationHttp.noConfusion)) hn
    | @worker ok reason n' w' hw =>
        intro hn
        obtain ⟨-, hpc, hq, -⟩ := I hn
        cases hw with
        | receive h hq' =>
            rw [hq] at hq'
            cases hq'
        | _ => simp_all
    | event he =>
        intro hn
        obtain ⟨h1, h2, h3, h4, h5⟩ := I hn
        exact ⟨h1, h2, he.keeps.queue.trans h3, he.keeps.published.trans h4, h5⟩
    | timer ht =>
        intro hn
        obtain ⟨h1, h2, h3, h4, h5⟩ := I hn
        exact ⟨h1, h2, ht.keeps.queue.trans h3, ht.keeps.published.trans h4, h5⟩
    | start hst =>
        intro hn
        obtain ⟨h1, h2, h3, h4, h5⟩ := I hst.keeps.ne_up
        exact ⟨h1, h2, hst.keeps.queue.trans h3, hst.keeps.published.trans h4, h5⟩
    | startHttp hp =>
        intro hn
        exact absurd rfl hn
    | fire | apEvent | gotIp | lost | flush => exact I

/-! ## 10. The flag -/

/-- The worker has set `sta_reconfiguring` and not cleared it. -/
def WorkerPc.reconfiguring : WorkerPc → Bool
  | .receive | .firstDelay | .setReconfiguring | .testConfigured | .schedule _ => false
  | .stopTimer | .disconnect | .secondDelay | .configure _ | .setSsid | .retryDelay _ | .save _
  | .setConfigured | .resetRetryCount | .readConfigured | .setState _ | .setLastReason
  | .setResult | .setRequestId | .clearCreds | .clearReconfiguring => true

theorem WorkerStep.flag {n n' : Net} {w w' : Worker} {ok : Bool} {reason : Nat}
    (h : WorkerStep n w ok reason n' w') (hf : n.staReconfiguring = w.pc.reconfiguring) :
    n'.staReconfiguring = w'.pc.reconfiguring := by
  cases h with
  | disconnect hpc =>
      rw [(n.disconnect_keeps reason).staReconfiguring, hf, hpc]
      rfl
  | schedule hpc hs | scheduled hpc hs =>
      rw [hs.keeps.staReconfiguring, hf, hpc]
      rfl
  | setReconfiguring | clearReconfiguring => rfl
  | receive hpc | firstDelay hpc | stopTimer hpc | secondDelay hpc | refused hpc
  | configured hpc | setSsid hpc | tryAgain hpc | giveUp hpc | save hpc | saved hpc
  | setConfigured hpc | resetRetryCount hpc | readConfigured hpc | setState hpc
  | setLastReason hpc | setResult hpc | setRequestId hpc | clearCreds hpc | schedules hpc
  | schedulesNot hpc =>
      rw [hpc] at hf
      exact hf

/-- **The flag is the worker's own.** -/
theorem reconfiguring_reach {B : StationBoot} {C : Station → StationAction → Prop} {s : Station}
    (h : Reach (station B) C s) : s.net.staReconfiguring = s.worker.pc.reconfiguring := by
  refine station_reach (I := fun s => s.net.staReconfiguring = s.worker.pc.reconfiguring) ?_ ?_ h
  · intro nvs pair
    rfl
  · intro s a s' _ I _ hs
    cases hs with
    | worker hw => exact hw.flag I
    | event he => exact he.keeps.staReconfiguring.trans I
    | timer ht => exact ht.keeps.staReconfiguring.trans I
    | start hst => exact hst.keeps.staReconfiguring.trans I
    | postRefused | post | overwrite | status | read | respond | fire | startHttp | apEvent
    | gotIp | lost | flush => exact I

end DragonBench
