/-
  File:      DragonBench/Station.lean
  Subject:   The station side of the device: provisioning, reconnecting and the status reader on
             their shared variables, one access at a time.

  Five contexts share these variables: the HTTP task (`network_sta_post`, `status_get`), the
  provisioning worker `sta_config_task`, the event task (`wifi_event`), the timer callback
  `sta_retry_fire`, and `app_main` while it starts. Each read or write of a shared variable and
  each call of the radio, the queue, the timer or NVS is one step of its context. The handling of
  an access point event, which touches no variable of the station, is one step.

  The driver is `config`, `link` and `events`. A connection attempt that is accepted ends with an
  address or a disconnection, whenever and for whatever reason; both are posted to the one event
  queue, which the event task empties in order. A connected station may renew its address. Time
  is not modelled: a delay is a step, an armed timer may fire at any time.

  The fields marked as history are not on the device. They number the submissions the worker has
  received: `finished` counts those it is through with, `published` those it has reported.
-/
import DragonBench.Credentials
import DragonBench.Lib.Transition
import DragonBench.Network

namespace DragonBench

/-! ## 1. The state -/

/-- `sta_config_result`. -/
inductive StaConfigResult where
  | none | applied | failed
  deriving DecidableEq, Repr

/-- The text of a result. -/
def StaConfigResult.text : StaConfigResult → CText
  | .none => "none".toList
  | .applied => "applied".toList
  | .failed => "failed".toList

/-- `applied ? "applied" : "failed"`. -/
def staConfigOutcome (applied : Bool) : StaConfigResult := if applied then .applied else .failed

/-- What the radio is doing on the station side. -/
inductive Link where
  | idle | connecting | associated
  deriving DecidableEq, Repr

/-- The events `wifi_event` is registered for. -/
inductive WifiEvent where
  /-- with what `esp_netif_get_ip_info` answers -/
  | apStart (ip : Option CText)
  | apStaConnected
  | apStaDisconnected
  | staConnected
  | staDisconnected (reason : Nat)
  /-- history: the submissions the worker was through with when the address was obtained -/
  | staGotIp (ip : CText) (since : Nat)
  deriving DecidableEq, Repr

/-- `WIFI_REASON_ASSOC_LEAVE`. -/
def wifiReasonAssocLeave : Nat := 8

/-- A submission the worker has reported. -/
structure Publication where
  creds : StaCredentials
  applied : Bool
  deriving DecidableEq, Repr

/-- The shared variables, the driver and NVS. -/
structure Net where
  apState : DbApState
  apIp : CText
  apClientCount : Nat
  staState : DbStaState
  staConfigured : Bool
  staReconfiguring : Bool
  staRetryCount : Nat
  staLastReason : Nat
  staSsid : CText
  staIp : CText
  wifiRssi : Int
  /-- `sta_config_request_id` -/
  requestId : Nat
  /-- `sta_config_result` -/
  result : StaConfigResult
  /-- `sta_config_queue` -/
  queue : Option StaCredentials
  /-- `sta_retry_timer`: the delay it is armed with -/
  timer : Option Nat
  /-- the station configuration of the radio -/
  config : WifiConfig
  link : Link
  /-- the event queue -/
  events : List WifiEvent
  nvs : Nvs
  /-- history: how many submissions the worker is through with -/
  finished : Nat
  /-- history: the submissions reported, oldest first -/
  published : List Publication
  /-- history: `finished` when the address was obtained that last set `DB_STA_CONNECTED` -/
  since : Nat
  deriving DecidableEq

/-- The control points of `sta_schedule_retry`. -/
inductive RetryStage where
  | readCount
  | writeCount (count : Nat)
  | setConnecting
  | connect
  | stop (delayMs : Nat)
  | start (delayMs : Nat)
  deriving DecidableEq, Repr

/-- The control points of `sta_config_task`. -/
inductive WorkerPc where
  | receive
  | firstDelay
  | setReconfiguring
  | stopTimer
  | disconnect
  | secondDelay
  | configure (attempt : Nat)
  | setSsid
  | retryDelay (attempt : Nat)
  | save (stage : SaveStage)
  | setConfigured
  | resetRetryCount
  | readConfigured
  | setState (configured : Bool)
  | setLastReason
  | setResult
  | setRequestId
  | clearCreds
  | clearReconfiguring
  | testConfigured
  | schedule (stage : RetryStage)
  deriving DecidableEq, Repr

/-- `sta_config_task` with its locals. -/
structure Worker where
  pc : WorkerPc
  creds : StaCredentials
  applied : Bool
  deriving DecidableEq, Repr

/-- The control points of `wifi_event` on the event task. -/
inductive EventPc where
  | idle
  | setLastReason (reason : Nat)
  | setDisconnected (reason : Nat)
  | testReason (reason : Nat)
  | testReconfiguring
  | testConfigured
  | schedule (stage : RetryStage)
  | setIp (ip : CText) (since : Nat)
  | setConnected (since : Nat)
  | stopTimer
  | resetRetryCount
  | readRssi
  deriving DecidableEq, Repr

/-- The control points of `sta_retry_fire`. -/
inductive TimerPc where
  | idle | testReconfiguring | testConfigured | setConnecting | connect
  deriving DecidableEq, Repr

/-- What `status_get` has read of the variables above. -/
structure NetworkStatus where
  mode : Bool
  apState : DbApState
  apActive : Bool
  apIp : CText
  apClientCount : Nat
  staState : DbStaState
  staSsid : CText
  staLastReason : Nat
  requestId : Nat
  result : StaConfigResult
  configured : Bool
  connected : Bool
  staIp : Option CText
  hostname : CText
  networkConnected : Bool
  /-- history: `since` when the state was read, `published` when the request id was read -/
  since : Nat
  serial : Nat
  deriving DecidableEq, Repr

/-- The record before the first read. -/
def NetworkStatus.blank : NetworkStatus :=
  ⟨false, .starting, false, [], 0, .unconfigured, [], 0, 0, .none, false, false, none, [], false,
    0, 0⟩

/-- The control points of `status_get` between its reads. -/
inductive StatusPc where
  | mode | apState | apActive | apIp | apClientCount | staState | staSsid | staLastReason
  | requestId | result | configured | connected | ipTest | ip | hostname | networkConnected
  deriving DecidableEq, Repr

/-- The control points of the HTTP task inside these handlers. -/
inductive StationHttp where
  | down
  | idle
  | posting (creds : StaCredentials)
  | status (pc : StatusPc) (read : NetworkStatus)
  deriving DecidableEq

/-- The control points of `app_main` around the station; `startRadio` stands for the rest of
    `start_wifi`. -/
inductive StartPc where
  | configure (ssid password : CText)
  | startRadio
  | setConnecting
  | connect
  | startHttp
  | up
  | failed
  deriving DecidableEq, Repr

/-- The station side of the device. -/
structure Station where
  net : Net
  worker : Worker
  event : EventPc
  timer : TimerPc
  http : StationHttp
  start : StartPc
  /-- `request_counter` -/
  requestCounter : Nat
  /-- history: the submissions put into the queue, oldest first -/
  submitted : List StaCredentials
  /-- history: the status responses, oldest first -/
  responses : List NetworkStatus
  /-- history: the radio configuration and the ssid `start_wifi` has left -/
  base : WifiConfig × CText
  deriving DecidableEq

/-- What one boot does not change. -/
structure StationBoot where
  /-- `mdns_hostname` -/
  mdnsHostname : CText
  mdnsReady : Bool

/-! ## 2. Calls -/

/-- `esp_wifi_connect`: a station that is not idle refuses it. -/
def Net.connect (n : Net) (accepted : Bool) : Net :=
  if n.link = .idle ∧ accepted = true then { n with link := .connecting } else n

/-- `esp_wifi_disconnect`. -/
def Net.disconnect (n : Net) (reason : Nat) : Net :=
  if n.link = .idle then n
  else { n with link := .idle, events := n.events ++ [.staDisconnected reason] }

/-- `esp_timer_start_once`: an armed timer refuses it. -/
def Net.startTimer (n : Net) (delayMs : Nat) : Net :=
  match n.timer with
  | none => { n with timer := some delayMs }
  | some _ => n

/-- One step of `sta_schedule_retry`; `none` is the return. -/
def scheduleStep (n : Net) (accepted : Bool) : RetryStage → Net × Option RetryStage
  | .readCount => (n, some (.writeCount n.staRetryCount))
  | .writeCount count =>
    let delayMs := dbStaRetryDelayMs count
    ({ n with staRetryCount := (count + 1) % 2 ^ 32 },
      if delayMs = 0 then some .setConnecting else some (.stop delayMs))
  | .setConnecting => ({ n with staState := .connecting }, some .connect)
  | .connect => (n.connect accepted, none)
  | .stop delayMs => ({ n with timer := none }, some (.start delayMs))
  | .start delayMs => (n.startTimer delayMs, none)

/-! ## 3. `sta_config_task` -/

/-- The attempts to configure the radio. -/
def configureAttempts : Nat := 20

/-- One step of `sta_config_task`; `ok` is what its call returns, `reason` the reason a
    disconnection is reported with. -/
def workerStep (n : Net) (w : Worker) (ok : Bool) (reason : Nat) : Option (Net × Worker) :=
  match w.pc with
  | .receive =>
    match n.queue with
    | none => none
    | some creds => some ({ n with queue := none }, { w with pc := .firstDelay, creds := creds })
  | .firstDelay => some (n, { w with pc := .setReconfiguring })
  | .setReconfiguring => some ({ n with staReconfiguring := true }, { w with pc := .stopTimer })
  | .stopTimer => some ({ n with timer := none }, { w with pc := .disconnect })
  | .disconnect => some (n.disconnect reason, { w with pc := .secondDelay })
  | .secondDelay => some (n, { w with pc := .configure 0, applied := false })
  | .configure attempt =>
    match configureSta w.creds.ssid w.creds.password with
    | none => some (n, { w with pc := .retryDelay attempt })
    | some config =>
      if ok then some ({ n with config := config }, { w with pc := .setSsid })
      else some (n, { w with pc := .retryDelay attempt })
  | .setSsid =>
    some ({ n with
        staSsid := CText.snprintf staSsidLen w.creds.ssid
        finished := n.finished + 1 }, { w with pc := .save .open, applied := true })
  | .retryDelay attempt =>
    if attempt + 1 < configureAttempts then some (n, { w with pc := .configure (attempt + 1) })
    else some ({ n with finished := n.finished + 1 }, { w with pc := .resetRetryCount })
  | .save stage =>
    match saveStep w.creds n.nvs ok stage with
    | (nvs, some stage') => some ({ n with nvs := nvs }, { w with pc := .save stage' })
    | (nvs, none) => some ({ n with nvs := nvs }, { w with pc := .setConfigured })
  | .setConfigured => some ({ n with staConfigured := true }, { w with pc := .resetRetryCount })
  | .resetRetryCount => some ({ n with staRetryCount := 0 }, { w with pc := .readConfigured })
  | .readConfigured => some (n, { w with pc := .setState n.staConfigured })
  | .setState configured =>
    let staState := if configured then .connecting else .unconfigured
    some ({ n with staState := staState }, { w with pc := .setLastReason })
  | .setLastReason => some ({ n with staLastReason := 0 }, { w with pc := .setResult })
  | .setResult =>
    some ({ n with result := staConfigOutcome w.applied }, { w with pc := .setRequestId })
  | .setRequestId =>
    some ({ n with
        requestId := w.creds.requestId
        published := n.published ++ [⟨w.creds, w.applied⟩] }, { w with pc := .clearCreds })
  | .clearCreds => some (n, { w with pc := .clearReconfiguring, creds := .zero })
  | .clearReconfiguring =>
    some ({ n with staReconfiguring := false }, { w with pc := .testConfigured })
  | .testConfigured =>
    let pc := if n.staConfigured then .schedule .readCount else .receive
    some (n, { w with pc := pc })
  | .schedule stage =>
    match scheduleStep n ok stage with
    | (n', some stage') => some (n', { w with pc := .schedule stage' })
    | (n', none) => some (n', { w with pc := .receive })

/-! ## 4. `wifi_event` and `sta_retry_fire` -/

/-- The event task takes an event from the queue. -/
def takeEvent (n : Net) : WifiEvent → Net × EventPc
  | .apStart (some ip) => ({ n with apIp := ip, apState := .active }, .idle)
  | .apStart none => ({ n with apState := .failed }, .idle)
  | .apStaConnected => ({ n with apClientCount := (n.apClientCount + 1) % 2 ^ 32 }, .idle)
  | .apStaDisconnected => ({ n with apClientCount := n.apClientCount - 1 }, .idle)
  | .staConnected => (n, .idle)
  | .staDisconnected reason => (n, .setLastReason reason)
  | .staGotIp ip since => (n, .setIp ip since)

/-- One step of the event task; `ok` is what its call returns, `rssi` what
    `esp_wifi_sta_get_ap_info` does. -/
def eventStep (n : Net) (ok : Bool) (rssi : Option Int) : EventPc → Option (Net × EventPc)
  | .idle =>
    match n.events with
    | [] => none
    | e :: events => some (takeEvent { n with events := events } e)
  | .setLastReason reason => some ({ n with staLastReason := reason }, .setDisconnected reason)
  | .setDisconnected reason => some ({ n with staState := .disconnected }, .testReason reason)
  | .testReason reason =>
    some (n, if reason = wifiReasonAssocLeave then .idle else .testReconfiguring)
  | .testReconfiguring => some (n, if n.staReconfiguring then .idle else .testConfigured)
  | .testConfigured => some (n, if n.staConfigured then .schedule .readCount else .idle)
  | .schedule stage =>
    match scheduleStep n ok stage with
    | (n', some stage') => some (n', .schedule stage')
    | (n', none) => some (n', .idle)
  | .setIp ip since => some ({ n with staIp := ip }, .setConnected since)
  | .setConnected since => some ({ n with staState := .connected, since := since }, .stopTimer)
  | .stopTimer => some ({ n with timer := none }, .resetRetryCount)
  | .resetRetryCount => some ({ n with staRetryCount := 0 }, .readRssi)
  | .readRssi =>
    match rssi with
    | none => some (n, .idle)
    | some rssi => some ({ n with wifiRssi := rssi }, .idle)

/-- One step of the timer callback. -/
def timerStep (n : Net) (accepted : Bool) : TimerPc → Option (Net × TimerPc)
  | .idle => none
  | .testReconfiguring => some (n, if n.staReconfiguring then .idle else .testConfigured)
  | .testConfigured => some (n, if n.staConfigured then .setConnecting else .idle)
  | .setConnecting => some ({ n with staState := .connecting }, .connect)
  | .connect => some (n.connect accepted, .idle)

/-! ## 5. `status_get` -/

/-- One read of `status_get`; `live` is what `mdns_hostname_get` returns, `none` is the response. -/
def statusStep (B : StationBoot) (n : Net) (live : Option CText) (r : NetworkStatus) :
    StatusPc → NetworkStatus × Option StatusPc
  | .mode => ({ r with mode := n.staConfigured }, some .apState)
  | .apState => ({ r with apState := n.apState }, some .apActive)
  | .apActive => ({ r with apActive := decide (n.apState = .active) }, some .apIp)
  | .apIp => ({ r with apIp := n.apIp }, some .apClientCount)
  | .apClientCount => ({ r with apClientCount := n.apClientCount }, some .staState)
  | .staState => ({ r with staState := n.staState, since := n.since }, some .staSsid)
  | .staSsid => ({ r with staSsid := n.staSsid }, some .staLastReason)
  | .staLastReason => ({ r with staLastReason := n.staLastReason }, some .requestId)
  | .requestId =>
    ({ r with requestId := n.requestId, serial := n.published.length }, some .result)
  | .result => ({ r with result := n.result }, some .configured)
  | .configured => ({ r with configured := n.staConfigured }, some .connected)
  | .connected => ({ r with connected := decide (n.staState = .connected) }, some .ipTest)
  | .ipTest => (r, if n.staState = .connected then some .ip else some .hostname)
  | .ip => ({ r with staIp := some n.staIp }, some .hostname)
  | .hostname =>
    let name := if B.mdnsReady then live.getD B.mdnsHostname else B.mdnsHostname
    ({ r with hostname := name }, some .networkConnected)
  | .networkConnected => ({ r with networkConnected := decide (n.staState = .connected) }, none)

/-! ## 6. The system -/

/-- Who moves, and what the surroundings answer. -/
inductive StationAction where
  /-- a POST /network/sta request arrives; `none` when its body could not be read -/
  | post (body : Option Json)
  /-- `xQueueOverwrite` -/
  | overwrite
  /-- a GET /status request arrives -/
  | status
  /-- `status_get` takes its next read -/
  | read (live : Option CText)
  | worker (ok : Bool) (reason : Nat)
  | event (ok : Bool) (rssi : Option Int)
  | timer (accepted : Bool)
  /-- the armed timer expires -/
  | fire
  | start (ok : Bool)
  /-- the access point, or the association, posts an event -/
  | apEvent (e : WifiEvent)
  /-- the station obtains an address, or renews it -/
  | gotIp (ip : CText)
  /-- a connection attempt fails, or the connection is lost -/
  | lost (reason : Nat)
  /-- a written key becomes durable -/
  | flush (key : NvsKey)

/-- The events that say nothing about the connection of the station. -/
def WifiEvent.neutral : WifiEvent → Bool
  | .apStart _ | .apStaConnected | .apStaDisconnected | .staConnected => true
  | .staDisconnected _ | .staGotIp _ _ => false

/-- `network_sta_post` up to its answer or to `xQueueOverwrite`. -/
def networkStaPost (s : Station) (body : Option Json) : Station :=
  match staRequest body with
  | none => s
  | some (ssid, password) =>
    let requestCounter := dbRequestIdNext s.requestCounter
    { s with
      requestCounter := requestCounter
      http := .posting (credentials requestCounter ssid password) }

/-- One step of `app_main`. -/
def startStep (s : Station) (ok : Bool) : Option Station :=
  match s.start with
  | .configure ssid password =>
    if s.net.staConfigured then
      match configureSta ssid password with
      | none => some { s with start := .failed }
      | some config =>
        if ok then
          some { s with
            net := { s.net with config := config, staSsid := CText.snprintf staSsidLen ssid }
            start := .startRadio }
        else some { s with start := .failed }
    else some { s with start := .startRadio }
  | .startRadio =>
    if ok then
      some { s with start := if s.net.staConfigured then .setConnecting else .startHttp }
    else some { s with start := .failed }
  | .setConnecting =>
    some { s with net := { s.net with staState := .connecting }, start := .connect }
  | .connect => some { s with net := s.net.connect ok, start := .startHttp }
  | .startHttp =>
    some { s with http := .idle, start := .up, base := (s.net.config, s.net.staSsid) }
  | .up | .failed => none

/-- One step of the station side. -/
def stationStep (B : StationBoot) (s : Station) : StationAction → Option Station
  | .post body => if s.http = .idle then some (networkStaPost s body) else none
  | .overwrite =>
    match s.http with
    | .posting creds =>
      some { s with
        net := { s.net with queue := some creds }
        http := .idle
        submitted := s.submitted ++ [creds] }
    | .down | .idle | .status _ _ => none
  | .status => if s.http = .idle then some { s with http := .status .mode .blank } else none
  | .read live =>
    match s.http with
    | .status pc r =>
      match statusStep B s.net live r pc with
      | (r', some pc') => some { s with http := .status pc' r' }
      | (r', none) => some { s with http := .idle, responses := s.responses ++ [r'] }
    | .down | .idle | .posting _ => none
  | .worker ok reason =>
    (workerStep s.net s.worker ok reason).map fun p => { s with net := p.1, worker := p.2 }
  | .event ok rssi =>
    (eventStep s.net ok rssi s.event).map fun p => { s with net := p.1, event := p.2 }
  | .timer accepted =>
    (timerStep s.net accepted s.timer).map fun p => { s with net := p.1, timer := p.2 }
  | .fire =>
    if s.net.timer.isSome ∧ s.timer = .idle then
      some { s with net := { s.net with timer := none }, timer := .testReconfiguring }
    else none
  | .start ok => startStep s ok
  | .apEvent e =>
    if e.neutral then some { s with net := { s.net with events := s.net.events ++ [e] } } else none
  | .gotIp ip =>
    if s.net.link = .idle then none
    else
      some { s with net := { s.net with
        link := .associated
        events := s.net.events ++ [.staGotIp ip s.net.finished] } }
  | .lost reason =>
    if s.net.link = .idle then none
    else
      some { s with net := { s.net with
        link := .idle
        events := s.net.events ++ [.staDisconnected reason] } }
  | .flush key => some { s with net := { s.net with nvs := s.net.nvs.flush key } }

/-- The variables in front of `configure_sta` in `start_wifi`. -/
def Net.initial (nvs : Nvs) (ssid : CText) : Net where
  apState := .starting
  apIp := []
  apClientCount := 0
  staState := if dbStaIsConfigured ssid then .connecting else .unconfigured
  staConfigured := dbStaIsConfigured ssid
  staReconfiguring := false
  staRetryCount := 0
  staLastReason := 0
  staSsid := []
  staIp := []
  wifiRssi := 0
  requestId := 0
  result := .none
  queue := none
  timer := none
  config := .zero
  link := .idle
  events := []
  nvs := nvs
  finished := 0
  published := []
  since := 0

/-- `start_wifi` with the pair it uses, the queue, the timer and the worker created. -/
def Station.initial (nvs : Nvs) (pair : CText × CText) : Station where
  net := .initial nvs pair.1
  worker := ⟨.receive, .zero, false⟩
  event := .idle
  timer := .idle
  http := .down
  start := .configure pair.1 pair.2
  requestCounter := 0
  submitted := []
  responses := []
  base := (.zero, [])

/-- The station side as a transition system, from any pair and any content of NVS. -/
def station (B : StationBoot) : Transition.System Station StationAction where
  init s := ∃ nvs pair, s = .initial nvs pair
  step := stationStep B

end DragonBench
