/-
  File:      DragonBench/Secret.lean
  Subject:   THE STATION PASSWORD NEVER LEAVES THE DEVICE: two runs that differ in the passwords
             only send the same responses and keep the same events.

  * `erasePassword` -- the passwords the radio takes are all made one;
  * `Station.erase`, `StationAction.erase` -- a state and a label without their passwords;
  * `stationStep_erase`, `firmwareStep_erase` -- a step without the passwords is the step, without
    them: neither the data nor the control flow of any context depends on them;
  * `SameButPassword` -- labels that differ in valid passwords only;
  * **`passwords_unseen`** -- what an observer sees of two such runs is the same at every step.
-/
import DragonBench.Firmware

namespace DragonBench

open Transition

/-! ## 1. A state without its passwords -/

/-- A password the radio takes is made the empty one. -/
def erasePassword (password : CText) : CText := if password.length < 64 then [] else password

def StaCredentials.erase (c : StaCredentials) : StaCredentials :=
  { c with password := erasePassword c.password }

/-- With the password goes the authentication mode that follows from it. -/
def WifiConfig.erase (c : WifiConfig) : WifiConfig := ⟨c.ssid, [], .openNetwork⟩

def NvsEntry.map (f : NvsWrite → NvsWrite) (e : NvsEntry) : NvsEntry :=
  ⟨e.durable.map f, e.written.map f⟩

def Nvs.erase (nvs : Nvs) : Nvs where
  ssid := nvs.ssid.map fun v => ⟨v.text, v.origin.erase⟩
  password := nvs.password.map fun v => ⟨erasePassword v.text, v.origin.erase⟩

def Publication.erase (p : Publication) : Publication := { p with creds := p.creds.erase }

def Net.erase (n : Net) : Net :=
  { n with
    queue := n.queue.map StaCredentials.erase
    config := n.config.erase
    nvs := n.nvs.erase
    published := n.published.map Publication.erase }

def Worker.erase (w : Worker) : Worker := { w with creds := w.creds.erase }

def StationHttp.erase : StationHttp → StationHttp
  | .posting creds => .posting creds.erase
  | .down => .down
  | .idle => .idle
  | .status pc r => .status pc r

def StartPc.erase : StartPc → StartPc
  | .configure ssid password => .configure ssid (erasePassword password)
  | .startRadio => .startRadio
  | .setConnecting => .setConnecting
  | .connect => .connect
  | .startHttp => .startHttp
  | .up => .up
  | .failed => .failed

def Station.erase (s : Station) : Station :=
  { s with
    net := s.net.erase
    worker := s.worker.erase
    http := s.http.erase
    start := s.start.erase
    submitted := s.submitted.map StaCredentials.erase
    base := (s.base.1.erase, s.base.2) }

/-- A valid body with its password left out; a body that is refused is no body. -/
def eraseBody (body : Option Json) : Option Json :=
  (staRequest body).map fun p => .obj [("ssid".toList, .str p.1)]

def StationAction.erase : StationAction → StationAction
  | .post body => .post (eraseBody body)
  | a => a

/-! ## 2. Calls -/

theorem erasePassword_of_lt {password : CText} (h : password.length < 64) :
    erasePassword password = [] := if_pos h

theorem erasePassword_of_le {password : CText} (h : ¬ password.length < 64) :
    erasePassword password = password := if_neg h

/-- `configure_sta` does not look into a password the radio takes. -/
theorem configureSta_erase (ssid password : CText) :
    configureSta ssid (erasePassword password) =
      (configureSta ssid password).map WifiConfig.erase := by
  by_cases h : password.length < 64
  · rw [erasePassword_of_lt h]
    unfold configureSta
    have hnil : ([] : CText).length = 0 := rfl
    by_cases hs : ssid.length < 1 ∨ ssid.length ≥ 32 ∨ password.length ≥ 64
    · have hs' : ssid.length < 1 ∨ ssid.length ≥ 32 ∨ ([] : CText).length ≥ 64 := by omega
      rw [if_pos hs, if_pos hs']
      rfl
    · have hs' : ¬ (ssid.length < 1 ∨ ssid.length ≥ 32 ∨ ([] : CText).length ≥ 64) := by omega
      rw [if_neg hs, if_neg hs']
      rfl
  · rw [erasePassword_of_le h]
    unfold configureSta
    rw [if_pos (Or.inr (Or.inr (by omega)))]
    rfl

theorem NvsEntry.flush_map (e : NvsEntry) (f : NvsWrite → NvsWrite) :
    (e.map f).flush = e.flush.map f := by
  obtain ⟨durable, written⟩ := e
  cases written <;> rfl

theorem Nvs.flush_erase (nvs : Nvs) (key : NvsKey) : nvs.erase.flush key = (nvs.flush key).erase := by
  cases key with
  | ssid | password =>
      unfold Nvs.flush Nvs.erase
      dsimp only
      rw [NvsEntry.flush_map]

/-- A call of `nvs_save_sta` writes what it is given. -/
theorem saveStep_erase (creds : StaCredentials) (nvs : Nvs) (ok : Bool) (stage : SaveStage) :
    saveStep creds.erase nvs.erase ok stage =
      ((saveStep creds nvs ok stage).1.erase, (saveStep creds nvs ok stage).2) := by
  unfold saveStep
  cases stage with
  | «open» | close => rfl
  | setSsid | setPassword => cases ok <;> rfl
  | commit =>
      cases ok with
      | true =>
          show ((nvs.erase.flush .ssid).flush .password, _) = _
          rw [Nvs.flush_erase, Nvs.flush_erase]
          rfl
      | false => rfl

theorem Net.connect_erase (n : Net) (ok : Bool) : n.erase.connect ok = (n.connect ok).erase := by
  unfold Net.connect
  by_cases h : n.link = .idle ∧ ok = true
  · rw [if_pos h]
    exact if_pos h
  · rw [if_neg h]
    exact if_neg h

theorem Net.disconnect_erase (n : Net) (reason : Nat) :
    n.erase.disconnect reason = (n.disconnect reason).erase := by
  unfold Net.disconnect
  by_cases h : n.link = .idle
  · rw [if_pos h]
    exact if_pos h
  · rw [if_neg h]
    exact if_neg h

theorem scheduleStep_erase (n : Net) (ok : Bool) (stage : RetryStage) :
    scheduleStep n.erase ok stage =
      ((scheduleStep n ok stage).1.erase, (scheduleStep n ok stage).2) := by
  unfold scheduleStep
  cases stage with
  | readCount | writeCount | setConnecting | stop => rfl
  | connect =>
      dsimp only
      rw [Net.connect_erase]
  | start delayMs =>
      have htimer : n.erase.timer = n.timer := rfl
      dsimp only
      unfold Net.startTimer
      rw [htimer]
      cases n.timer <;> rfl

/-! ## 3. The contexts -/

theorem workerStep_erase (n : Net) (w : Worker) (ok : Bool) (reason : Nat) :
    workerStep n.erase w.erase ok reason =
      (workerStep n w ok reason).map fun p => (p.1.erase, p.2.erase) := by
  have hpc : w.erase.pc = w.pc := rfl
  unfold workerStep
  rw [hpc]
  cases w.pc with
  | receive =>
      have hqueue : n.erase.queue = n.queue.map StaCredentials.erase := rfl
      dsimp only
      rw [hqueue]
      cases n.queue <;> rfl
  | disconnect =>
      dsimp only
      rw [Net.disconnect_erase]
      rfl
  | configure attempt =>
      have hssid : w.erase.creds.ssid = w.creds.ssid := rfl
      have hpass : w.erase.creds.password = erasePassword w.creds.password := rfl
      dsimp only
      rw [hssid, hpass, configureSta_erase]
      cases configureSta w.creds.ssid w.creds.password with
      | none => rfl
      | some config => cases ok <;> rfl
  | retryDelay attempt =>
      dsimp only
      by_cases h : attempt + 1 < configureAttempts
      · rw [if_pos h, if_pos h]
        rfl
      · rw [if_neg h, if_neg h]
        rfl
  | save stage =>
      have hsave := saveStep_erase w.creds n.nvs ok stage
      unfold Worker.erase Net.erase
      dsimp only
      rw [hsave]
      cases saveStep w.creds n.nvs ok stage with
      | mk nvs next => cases next <;> rfl
  | schedule stage =>
      dsimp only
      rw [scheduleStep_erase]
      cases scheduleStep n ok stage with
      | mk n' next => cases next <;> rfl
  | setRequestId =>
      dsimp only [Option.map_some, Net.erase]
      rw [List.map_append]
      rfl
  | firstDelay | setReconfiguring | stopTimer | secondDelay | setSsid | setConfigured
  | resetRetryCount | readConfigured | setState | setLastReason | setResult | clearCreds
  | clearReconfiguring | testConfigured => rfl

theorem eventStep_erase (n : Net) (ok : Bool) (rssi : Option Int) (pc : EventPc) :
    eventStep n.erase ok rssi pc =
      (eventStep n ok rssi pc).map fun p => (p.1.erase, p.2) := by
  unfold eventStep
  cases pc with
  | idle =>
      have hevents : n.erase.events = n.events := rfl
      dsimp only
      rw [hevents]
      cases n.events with
      | nil => rfl
      | cons e events =>
          cases e with
          | apStart ip => cases ip <;> rfl
          | apStaConnected | apStaDisconnected | staConnected | staDisconnected | staGotIp => rfl
  | schedule stage =>
      dsimp only
      rw [scheduleStep_erase]
      cases scheduleStep n ok stage with
      | mk n' next => cases next <;> rfl
  | readRssi => cases rssi <;> rfl
  | setLastReason | setDisconnected | testReason | testReconfiguring | testConfigured | setIp
  | setConnected | stopTimer | resetRetryCount => rfl

theorem timerStep_erase (n : Net) (ok : Bool) (pc : TimerPc) :
    timerStep n.erase ok pc = (timerStep n ok pc).map fun p => (p.1.erase, p.2) := by
  unfold timerStep
  cases pc with
  | connect =>
      dsimp only
      rw [Net.connect_erase]
      rfl
  | idle | testReconfiguring | testConfigured | setConnecting => rfl

/-- `status_get` reads nothing of a password. -/
theorem statusStep_erase (B : StationBoot) (n : Net) (live : Option CText) (r : NetworkStatus)
    (pc : StatusPc) : statusStep B n.erase live r pc = statusStep B n live r pc := by
  unfold statusStep
  cases pc with
  | requestId =>
      show (_, _) = (_, _)
      unfold Net.erase
      rw [List.length_map]
  | mode | apState | apActive | apIp | apClientCount | staState | staSsid | staLastReason | result
  | configured | connected | ipTest | ip | hostname | networkConnected => rfl

theorem startStep_erase (s : Station) (ok : Bool) :
    startStep s.erase ok = (startStep s ok).map Station.erase := by
  have hpe : s.erase.start = s.start.erase := rfl
  have hconf : s.erase.net.staConfigured = s.net.staConfigured := rfl
  unfold startStep
  rw [hpe]
  cases hp : s.start with
  | configure ssid password =>
      dsimp only [StartPc.erase]
      rw [hconf, configureSta_erase]
      cases s.net.staConfigured with
      | false => rfl
      | true =>
          cases configureSta ssid password with
          | none => rfl
          | some config => cases ok <;> rfl
  | startRadio =>
      dsimp only [StartPc.erase]
      rw [hconf]
      cases ok with
      | false => rfl
      | true => cases s.net.staConfigured <;> rfl
  | connect =>
      show some { s.erase with net := s.net.erase.connect ok, start := .startHttp } = _
      rw [Net.connect_erase]
      rfl
  | setConnecting | startHttp | up | failed => rfl

/-! ## 4. Requests -/

theorem staRequest_no_nul {body : Option Json} {ssid password : CText}
    (h : staRequest body = some (ssid, password)) : '\x00' ∉ ssid := by
  obtain ⟨v, -, hv⟩ := Option.bind_eq_some_iff.mp (staRequest_read h).1
  exact valuestring_no_nul hv

/-- A body without its password asks for the same network. -/
theorem staRequest_eraseBody (body : Option Json) :
    staRequest (eraseBody body) = (staRequest body).map fun p => (p.1, []) := by
  unfold eraseBody
  cases hb : staRequest body with
  | none => rfl
  | some p =>
      obtain ⟨ssid, password⟩ := p
      obtain ⟨hne, hlen, -⟩ := staRequest_some hb
      have hcstr : cstr ssid = ssid := cstr_of_not_mem (staRequest_no_nul hb)
      have hssid : (bodyItem (some (.obj [("ssid".toList, .str ssid)])) "ssid".toList).bind
          valuestring = some ssid := congrArg some hcstr
      have hpass : bodyItem (some (.obj [("ssid".toList, .str ssid)])) "password".toList = none :=
        rfl
      show staRequest (some (.obj [("ssid".toList, .str ssid)])) = some (ssid, [])
      unfold staRequest
      rw [hssid, hpass]
      exact if_pos ⟨hne, hlen, Or.inl rfl, by decide⟩

/-- The credentials of a body without its password. -/
theorem credentials_erase {body : Option Json} {ssid password : CText} (id : Nat)
    (h : staRequest body = some (ssid, password)) :
    credentials id ssid [] = (credentials id ssid password).erase := by
  obtain ⟨-, hs, -, hp⟩ := staRequest_some h
  rw [credentials_whole id h]
  unfold StaCredentials.erase credentials
  rw [erasePassword_of_lt hp, CText.snprintf_of_lt (Nat.lt_trans hs (by decide))]
  rfl

theorem networkStaPost_erase (s : Station) (body : Option Json) :
    networkStaPost s.erase (eraseBody body) = (networkStaPost s body).erase := by
  unfold networkStaPost
  rw [staRequest_eraseBody]
  cases hb : staRequest body with
  | none => rfl
  | some p =>
      obtain ⟨ssid, password⟩ := p
      show ({ s.erase with
        requestCounter := dbRequestIdNext s.requestCounter
        http := .posting (credentials (dbRequestIdNext s.requestCounter) ssid []) } : Station) = _
      rw [credentials_erase _ hb]
      rfl

/-! ## 5. The station -/

/-- A guarded step under a map of the states. -/
theorem ite_none_map {α β : Type*} {p q : Prop} [Decidable p] [Decidable q] {f : α → β}
    {x : Option β} {y : Option α} (h : p ↔ q) (e : x = y.map f) :
    (if p then x else none) = (if q then y else none).map f := by
  by_cases hq : q
  · rw [if_pos hq, if_pos (h.mpr hq), e]
  · rw [if_neg hq, if_neg fun hp => hq (h.mp hp)]
    rfl

theorem StationHttp.erase_idle {http : StationHttp} : http.erase = .idle ↔ http = .idle := by
  cases http with
  | posting => exact ⟨fun e => StationHttp.noConfusion e, fun e => StationHttp.noConfusion e⟩
  | down | idle | status => exact Iff.rfl

/-- **A step of the station without the passwords is the step, without them.** -/
theorem stationStep_erase (B : StationBoot) (s : Station) (a : StationAction) :
    stationStep B s.erase a.erase = (stationStep B s a).map Station.erase := by
  have hh : s.erase.http = s.http.erase := rfl
  have hidle : s.erase.http = .idle ↔ s.http = .idle := StationHttp.erase_idle
  cases a with
  | post body => exact ite_none_map hidle (congrArg some (networkStaPost_erase s body))
  | overwrite =>
      unfold stationStep
      dsimp only [StationAction.erase]
      rw [hh]
      cases hp : s.http with
      | posting creds =>
          dsimp only [StationHttp.erase, Option.map_some, Station.erase]
          rw [List.map_append]
          rfl
      | down | idle | status => rfl
  | status => exact ite_none_map hidle rfl
  | read live =>
      have hn : s.erase.net = s.net.erase := rfl
      unfold stationStep
      dsimp only [StationAction.erase]
      rw [hh, hn]
      cases hp : s.http with
      | status pc r =>
          dsimp only [StationHttp.erase]
          rw [statusStep_erase]
          cases statusStep B s.net live r pc with
          | mk r' next => cases next <;> rfl
      | down | idle | posting => rfl
  | worker ok reason =>
      show (workerStep s.net.erase s.worker.erase ok reason).map _ = _
      rw [workerStep_erase, Option.map_map]
      show _ = ((workerStep s.net s.worker ok reason).map _).map _
      rw [Option.map_map]
      rfl
  | event ok rssi =>
      show (eventStep s.net.erase ok rssi s.event).map _ = _
      rw [eventStep_erase, Option.map_map]
      show _ = ((eventStep s.net ok rssi s.event).map _).map _
      rw [Option.map_map]
      rfl
  | timer ok =>
      show (timerStep s.net.erase ok s.timer).map _ = _
      rw [timerStep_erase, Option.map_map]
      show _ = ((timerStep s.net ok s.timer).map _).map _
      rw [Option.map_map]
      rfl
  | fire => exact ite_none_map Iff.rfl rfl
  | start ok => exact startStep_erase s ok
  | apEvent e => exact ite_none_map Iff.rfl rfl
  | gotIp ip | lost reason =>
      show (if s.net.link = .idle then none else some _) =
        (if s.net.link = .idle then none else some _).map _
      by_cases hl : s.net.link = .idle
      · rw [if_pos hl, if_pos hl]
        rfl
      · rw [if_neg hl, if_neg hl]
        rfl
  | flush key =>
      show some { s.erase with net := { s.net.erase with nvs := s.net.nvs.erase.flush key } } = _
      rw [Nvs.flush_erase]
      rfl

/-! ## 6. The device -/

def Firmware.erase (f : Firmware) : Firmware := { f with station := f.station.erase }

def FirmwareAction.erase : FirmwareAction → FirmwareAction
  | .station a => .station a.erase
  | a => a

section Firmware

variable (B : FirmwareBoot) (f : Firmware)

theorem Firmware.free_erase : f.erase.free ↔ f.free := by
  unfold Firmware.free
  exact and_congr Iff.rfl (and_congr StationHttp.erase_idle Iff.rfl)

theorem serve_erase (response : HttpResponse) :
    serve f.erase response = (serve f response).map Firmware.erase :=
  ite_none_map f.free_erase rfl

theorem firmwareDevice_erase (a : Action) :
    firmwareDevice B f.erase a = (firmwareDevice B f a).map Firmware.erase := by
  unfold firmwareDevice
  rw [Option.map_map]
  rfl

theorem firmwareStation_erase (a : StationAction) :
    firmwareStation B f.erase a.erase = (firmwareStation B f a).map Firmware.erase := by
  show (stationStep B.station f.station.erase a.erase).map _ =
    ((stationStep B.station f.station a).map _).map _
  rw [stationStep_erase, Option.map_map, Option.map_map]
  rfl

/-- What a step does behind one that commutes. -/
theorem map_erase {x y : Option Firmware} {k k' : Firmware → Firmware} (h : x = y.map Firmware.erase)
    (hk : ∀ g : Firmware, k g.erase = (k' g).erase) : x.map k = (y.map k').map Firmware.erase := by
  rw [h, Option.map_map, Option.map_map]
  exact congrArg (fun k => y.map k) (funext hk)

theorem wifiStarted_erase (start : StartPc) (up : Bool) :
    wifiStarted start.erase up ↔ wifiStarted start up := by
  have hup : start.erase = .up ↔ start = .up := by
    cases start with
    | configure => exact ⟨fun e => StartPc.noConfusion e, fun e => StartPc.noConfusion e⟩
    | startRadio | setConnecting | connect | startHttp | up | failed => exact Iff.rfl
  have hfailed : start.erase = .failed ↔ start = .failed := by
    cases start with
    | configure => exact ⟨fun e => StartPc.noConfusion e, fun e => StartPc.noConfusion e⟩
    | startRadio | setConnecting | connect | startHttp | up | failed => exact Iff.rfl
  unfold wifiStarted
  rw [hup, hfailed]

theorem runStep_erase (a : Action) :
    runStep B f.erase a = (runStep B f a).map Firmware.erase := by
  have hd := firmwareDevice_erase B f a
  unfold runStep
  cases a with
  | runsPost body | abortPost uri =>
      exact ite_none_map f.free_erase (map_erase hd fun _ => rfl)
  | createTask created | finishFailed => exact map_erase hd fun _ => rfl
  | main up =>
      refine ite_none_map ?_ hd
      show (f.device.main = .startHttp → wifiStarted f.station.start.erase up) ↔ _
      rw [wifiStarted_erase]
  | radio => rfl
  | task i ret | tick ms => exact hd

/-- `status_get` answers the same. -/
theorem statusDone_erase (live : Option CText) :
    statusDone B f.erase live = statusDone B f live := by
  have hn : f.erase.station.net = f.station.net.erase := rfl
  have hh : f.erase.station.http = f.station.http.erase := rfl
  unfold statusDone
  rw [hn, hh]
  cases f.station.http with
  | status pc r =>
      have hs : f.erase.serving = f.serving := rfl
      rw [hs]
      cases f.serving with
      | statusNetwork run uptimeMs =>
          dsimp only [StationHttp.erase]
          rw [statusStep_erase]
      | idle | statusUptime | sensorsRssi | sensorsIncluded => rfl
  | down | idle | posting => rfl

/-- A refusal does not show the password. -/
theorem networkStaPostRefused_erase (cfg : Config) (body : Option Json) :
    networkStaPostRefused cfg (eraseBody body) = networkStaPostRefused cfg body := by
  unfold networkStaPostRefused
  rw [staRequest_eraseBody]
  cases staRequest body <;> rfl

theorem wifiStep_erase (a : StationAction) :
    wifiStep B f.erase a.erase = (wifiStep B f a).map Firmware.erase := by
  have hs := firmwareStation_erase B f a
  unfold wifiStep
  cases a with
  | post body =>
      refine ite_none_map f.free_erase (map_erase hs fun g => ?_)
      show g.erase.answer (networkStaPostRefused B.boot.cfg (eraseBody body)) = _
      rw [networkStaPostRefused_erase]
      rfl
  | overwrite =>
      refine map_erase hs fun g => ?_
      have hh : f.erase.station.http = f.station.http.erase := rfl
      rw [hh]
      cases f.station.http <;> rfl
  | status => rfl
  | read live =>
      refine map_erase hs fun g => ?_
      dsimp only
      rw [statusDone_erase]
      rfl
  | start ok => exact ite_none_map Iff.rfl hs
  | worker | event | timer | fire | apEvent | gotIp | lost | flush => exact hs

/-- **A step of the device without the passwords is the step, without them.** -/
theorem firmwareStep_erase (a : FirmwareAction) :
    firmwareStep B f.erase a.erase = (firmwareStep B f a).map Firmware.erase := by
  have hrun : firmwareRunning B f.erase a.erase = (firmwareRunning B f a).map Firmware.erase := by
    unfold firmwareRunning
    cases a with
    | device a => exact runStep_erase B f a
    | station a => exact wifiStep_erase B f a
    | landingGet | setupGet | deviceGet | workloadsGet | runGet uri | eventsGet allocated =>
        exact serve_erase f _
    | statusGet | sensorsGet temperature => exact ite_none_map f.free_erase rfl
    | uptime =>
        have hs : f.erase.serving = f.serving := rfl
        dsimp only [FirmwareAction.erase]
        rw [hs]
        cases f.serving with
        | statusUptime run =>
            exact map_erase (firmwareStation_erase B f .status) fun _ => rfl
        | idle | statusNetwork | sensorsRssi | sensorsIncluded => rfl
    | sensorsRead =>
        have hs : f.erase.serving = f.serving := rfl
        dsimp only [FirmwareAction.erase]
        rw [hs]
        cases f.serving <;> rfl
  show (if f.device.shared.rebooted.isSome then none else _) = _
  unfold firmwareStep
  rw [hrun]
  cases f.device.shared.rebooted.isSome <;> rfl

end Firmware

/-! ## 7. Two runs -/

/-- The same label, or the same submission with another valid password. -/
inductive SameButPassword : FirmwareAction → FirmwareAction → Prop where
  | same (a : FirmwareAction) : SameButPassword a a
  | post {body₁ body₂ : Option Json} {ssid password₁ password₂ : CText}
      (h₁ : staRequest body₁ = some (ssid, password₁))
      (h₂ : staRequest body₂ = some (ssid, password₂)) :
      SameButPassword (.station (.post body₁)) (.station (.post body₂))

theorem SameButPassword.erase {a₁ a₂ : FirmwareAction} (h : SameButPassword a₁ a₂) :
    a₁.erase = a₂.erase := by
  cases h with
  | same => rfl
  | post h₁ h₂ =>
      show FirmwareAction.station (.post (eraseBody _)) = .station (.post (eraseBody _))
      unfold eraseBody
      rw [h₁, h₂]
      rfl

theorem map_erase_eq {as₁ as₂ : List FirmwareAction} (h : List.Forall₂ SameButPassword as₁ as₂) :
    as₁.map FirmwareAction.erase = as₂.map FirmwareAction.erase := by
  induction h with
  | nil => rfl
  | cons ha _ ih => rw [List.map_cons, List.map_cons, ha.erase, ih]

/-- What can be seen from outside: the responses and the event ring. -/
def Firmware.seen (f : Firmware) : List HttpResponse × RingBuffer DbEvent dbEventCapacity :=
  (f.responses, f.device.shared.ring)

/-- `nvs_get_str` of a key whose texts are changed and keep fitting, or not. -/
theorem NvsEntry.get_map {e : NvsEntry} {f : NvsWrite → NvsWrite} {g : CText → CText} (size : Nat)
    (ok : Bool) (hf : ∀ v, (f v).text = g v.text)
    (hg : ∀ t, (g t).length < size ↔ t.length < size) :
    (e.map f).get size ok = (e.get size ok).map g := by
  unfold NvsEntry.get
  cases ok with
  | false => rfl
  | true =>
      rw [if_pos rfl, if_pos rfl]
      show ((e.durable.map f).map NvsWrite.text).filter _ = _
      cases e.durable with
      | none => rfl
      | some v =>
          show Option.filter (fun s => decide (s.length < size)) (some (f v).text) =
            (Option.filter (fun s => decide (s.length < size)) (some v.text)).map g
          rw [hf]
          unfold Option.filter
          dsimp only
          by_cases h : v.text.length < size
          · rw [if_pos (decide_eq_true ((hg _).mpr h)), if_pos (decide_eq_true h)]
            rfl
          · rw [if_neg fun hd => h ((hg _).mp (of_decide_eq_true hd)),
              if_neg fun hd => h (of_decide_eq_true hd)]
            rfl

theorem erasePassword_fits (t : CText) :
    (erasePassword t).length < staPasswordLen ↔ t.length < staPasswordLen := by
  unfold staPasswordLen
  by_cases h : t.length < 64
  · rw [erasePassword_of_lt h]
    exact iff_of_true (by decide) (by omega)
  · rw [erasePassword_of_le h]

/-- **The pair `start_wifi` uses, without its password, is that of the NVS without them.** -/
theorem startPair_erase (kconfig : CText × CText) (nvs : Nvs) (load : LoadOutcome) :
    startPair (kconfig.1, erasePassword kconfig.2) nvs.erase load =
      ((startPair kconfig nvs load).1, erasePassword (startPair kconfig nvs load).2) := by
  have hssid : nvs.erase.ssid.get staSsidLen load.ssid = nvs.ssid.get staSsidLen load.ssid := by
    have h := NvsEntry.get_map (e := nvs.ssid) (f := fun v => ⟨v.text, v.origin.erase⟩) (g := id)
      staSsidLen load.ssid (fun _ => rfl) (fun _ => Iff.rfl)
    rw [Option.map_id] at h
    exact h
  have hpass : nvs.erase.password.get staPasswordLen load.password =
      (nvs.password.get staPasswordLen load.password).map erasePassword :=
    NvsEntry.get_map staPasswordLen load.password (fun _ => rfl) erasePassword_fits
  unfold startPair nvsLoadSta
  rw [hssid, hpass]
  cases load.opened with
  | false => rfl
  | true =>
      cases nvs.ssid.get staSsidLen load.ssid with
      | none => rfl
      | some ssid =>
          rw [if_pos rfl, if_pos rfl]
          dsimp only
          by_cases hne : ssid ≠ []
          · rw [if_pos hne, if_pos hne]
            cases nvs.password.get staPasswordLen load.password <;> rfl
          · rw [if_neg hne, if_neg hne]
            rfl

theorem initial_erase (marker : RebootMarker) (nvs : Nvs) (pair : CText × CText) :
    (Firmware.initial marker nvs pair).erase =
      .initial marker nvs.erase (pair.1, erasePassword pair.2) := rfl

/-- A run without the passwords shows the same. -/
theorem exec_seen (B : FirmwareBoot) (f : Firmware) (as : List FirmwareAction) :
    ((firmware B).exec f as).map Firmware.seen =
      ((firmware B).exec f.erase (as.map FirmwareAction.erase)).map Firmware.seen := by
  have hstep : ∀ f a, (firmware B).step (Firmware.erase f) a.erase =
      ((firmware B).step f a).map Firmware.erase := firmwareStep_erase B
  rw [exec_map Firmware.erase FirmwareAction.erase hstep f as, Option.map_map]
  rfl

/-- **No password can be seen from outside**: two runs from the same boot, with NVS and requests
    that differ in valid passwords only, and with the same events, clock and outcomes of all calls,
    show the same responses and the same event ring after every number of steps. -/
theorem passwords_unseen {B : FirmwareBoot} {marker : RebootMarker} {kconfig : CText × CText}
    {load : LoadOutcome} {nvs₁ nvs₂ : Nvs} (hn : nvs₁.erase = nvs₂.erase)
    {as₁ as₂ : List FirmwareAction} (ha : List.Forall₂ SameButPassword as₁ as₂) (k : Nat) :
    ((firmware B).exec (.initial marker nvs₁ (startPair kconfig nvs₁ load)) (as₁.take k)).map
        Firmware.seen =
      ((firmware B).exec (.initial marker nvs₂ (startPair kconfig nvs₂ load)) (as₂.take k)).map
        Firmware.seen := by
  have hpair : ((startPair kconfig nvs₁ load).1, erasePassword (startPair kconfig nvs₁ load).2) =
      ((startPair kconfig nvs₂ load).1, erasePassword (startPair kconfig nvs₂ load).2) := by
    rw [← startPair_erase, ← startPair_erase, hn]
  have hinit : (Firmware.initial marker nvs₁ (startPair kconfig nvs₁ load)).erase =
      (Firmware.initial marker nvs₂ (startPair kconfig nvs₂ load)).erase := by
    rw [initial_erase, initial_erase, hn, hpair]
  have hlabels : (as₁.take k).map FirmwareAction.erase = (as₂.take k).map FirmwareAction.erase := by
    rw [List.map_take, List.map_take, map_erase_eq ha]
  rw [exec_seen, hinit, hlabels, ← exec_seen]

/-- A submission for `ssid` with this password. -/
def submission (password : CText) : Option Json :=
  some (.obj [("ssid".toList, .str "lab".toList), ("password".toList, .str password)])

/-- A submission is applied, and the status asked for. -/
def statusSteps : List FirmwareAction :=
  .station .overwrite :: (workerSteps 27).map .station ++ [.statusGet, .uptime] ++
    List.replicate 15 (.station (.read none))

/-- The device starts, takes a submission with this password and answers for its status. -/
def provisioned (password : CText) : List FirmwareAction :=
  bootSteps ++ .station (.post (submission password)) :: statusSteps

theorem forall₂_same_around {a₁ a₂ : FirmwareAction} (h : SameButPassword a₁ a₂)
    (before behind : List FirmwareAction) :
    List.Forall₂ SameButPassword (before ++ a₁ :: behind) (before ++ a₂ :: behind) := by
  induction before with
  | nil => exact .cons h (List.forall₂_same.mpr fun a _ => .same a)
  | cons a before ih => exact .cons (.same a) ih

theorem storedNvs_erase {password : CText} (h : password.length < 64) :
    (storedNvs password).erase = storedNvs [] := by
  have herase := erasePassword_of_lt h
  unfold storedNvs Nvs.erase NvsEntry.map StaCredentials.erase
  dsimp only [Option.map_some, Option.map_none]
  rw [herase]

theorem provisioned_same {p₁ p₂ ssid q₁ q₂ : CText}
    (h₁ : staRequest (submission p₁) = some (ssid, q₁))
    (h₂ : staRequest (submission p₂) = some (ssid, q₂)) :
    List.Forall₂ SameButPassword (provisioned p₁) (provisioned p₂) := by
  unfold provisioned
  exact forall₂_same_around (.post h₁ h₂) bootSteps statusSteps

/-- The first 58 steps with these passwords. -/
def provisionedRun (stored submitted : CText) : Option Firmware :=
  (firmware benchFirmware).exec
    (.initial ⟨0, []⟩ (storedNvs stored)
      (startPair ([], []) (storedNvs stored) ⟨true, true, true⟩))
    ((provisioned submitted).take 58)

set_option maxRecDepth 8000 in
/-- Two stored and two submitted passwords; both devices answer twice. -/
theorem passwords_unseen_two :
    (provisionedRun "12345678".toList "longer password".toList).map Firmware.seen =
      (provisionedRun "abcdefgh".toList []).map Firmware.seen ∧
    (provisionedRun "abcdefgh".toList []).map (fun f => f.responses.length) = some 2 := by
  have h₁ : staRequest (submission "longer password".toList) =
      some ("lab".toList, "longer password".toList) := by decide
  have h₂ : staRequest (submission []) = some ("lab".toList, []) := by decide
  have hn : (storedNvs "12345678".toList).erase = (storedNvs "abcdefgh".toList).erase :=
    (storedNvs_erase (by decide)).trans (storedNvs_erase (by decide)).symm
  have ha := provisioned_same h₁ h₂
  constructor
  · unfold provisionedRun
    exact passwords_unseen hn ha 58
  · decide +kernel

end DragonBench
