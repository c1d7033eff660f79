/-
  File:      DragonBench/Firmware.lean
  Subject:   The whole device: the runs (`Device`), the station (`Station`) and the one HTTP task
             that serves both, with every response it sends.

  The workloads and the handlers read `sta_state` and `ap_client_count` of the station; a step of
  the station passes them on (`syncRadio`). The HTTP task runs one handler at a time (`Firmware.free`).
  `app_main` starts the station behind its first two events and the handlers behind the station.
-/
import DragonBench.DeviceStep
import DragonBench.Responses
import DragonBench.Retry
import DragonBench.StationStep

namespace DragonBench

open Transition

/-! ## 1. The state -/

/-- Where the HTTP task is inside `status_get` and `sensors_get`, apart from the reads of
    `StatusPc`. -/
inductive Serving where
  | idle
  | statusUptime (run : DbRun)
  | statusNetwork (run : DbRun) (uptimeMs : Nat)
  | sensorsRssi (temperature : Option ℚ) (available : Bool)
  | sensorsIncluded (temperature : Option ℚ) (available : Bool) (rssi : Int)
  deriving DecidableEq

structure Firmware where
  device : Device
  station : Station
  serving : Serving
  /-- history: the responses sent, oldest first -/
  responses : List HttpResponse

/-- Who moves, and what the surroundings answer. -/
inductive FirmwareAction where
  | device (a : Action)
  | station (a : StationAction)
  | landingGet
  | setupGet
  | deviceGet
  | statusGet
  /-- `status_get` reads the clock -/
  | uptime
  /-- with the temperature, when it can be read -/
  | sensorsGet (temperature : Option ℚ)
  /-- `sensors_get` takes its next read -/
  | sensorsRead
  | workloadsGet
  | runGet (uri : CText)
  | eventsGet (allocated : Bool)

/-- The HTTP task is between two requests. -/
def Firmware.free (f : Firmware) : Prop :=
  f.device.http = .idle ∧ f.station.http = .idle ∧ f.serving = .idle

instance (f : Firmware) : Decidable f.free := inferInstanceAs (Decidable (_ ∧ _ ∧ _))

/-! ## 2. Steps -/

/-- A response is sent, when there is one. -/
def Firmware.answer (f : Firmware) (response : Option HttpResponse) : Firmware :=
  { f with responses := f.responses ++ response.toList }

/-- What the rest of the device sees of the station. -/
def syncRadio (d : Device) (n : Net) : Device :=
  { d with shared := { d.shared with
      staConnected := decide (n.staState = .connected)
      apClientCount := n.apClientCount } }

def firmwareDevice (B : FirmwareBoot) (f : Firmware) (a : Action) : Option Firmware :=
  (step B.boot f.device a).map fun d => { f with device := d }

def firmwareStation (B : FirmwareBoot) (f : Firmware) (a : StationAction) : Option Firmware :=
  (stationStep B.station f.station a).map fun s =>
    { f with station := s, device := syncRadio f.device s.net }

/-- `start_wifi` has come to the end that `up` says. -/
def wifiStarted (start : StartPc) (up : Bool) : Prop :=
  start = .up ∧ up = true ∨ start = .failed ∧ up = false

instance (start : StartPc) (up : Bool) : Decidable (wifiStarted start up) :=
  inferInstanceAs (Decidable (_ ∨ _))

/-- The steps of the runs, with what the handlers answer. -/
def runStep (B : FirmwareBoot) (f : Firmware) (a : Action) : Option Firmware :=
  let cfg := B.boot.cfg
  match a with
  | .runsPost body =>
    if f.free then
      (firmwareDevice B f a).map fun g => g.answer (runsPostRefused cfg f.device.shared.run body)
    else none
  | .createTask created =>
    -- no other handler has moved `run_counter` since
    let id := runIdText B.boot.bootNonce.toNat f.device.runCounter
    (firmwareDevice B f a).map fun g =>
      g.answer (if created then some (runsPostStarted cfg id) else none)
  | .finishFailed => (firmwareDevice B f a).map fun g => g.answer (some (runsPostFailed cfg))
  | .abortPost uri =>
    if f.free then
      (firmwareDevice B f a).map fun g =>
        g.answer (some (abortPostResponse cfg f.device.shared.run uri))
    else none
  | .main up =>
    if f.device.main = .startHttp → wifiStarted f.station.start up then firmwareDevice B f a
    else none
  | .radio _ _ => none
  | .task _ _ | .tick _ => firmwareDevice B f a

/-- The response of `status_get`, when this is its last read. -/
def statusDone (B : FirmwareBoot) (f : Firmware) (live : Option CText) : Option HttpResponse :=
  match f.station.http, f.serving with
  | .status pc r, .statusNetwork run uptimeMs =>
    match statusStep B.station f.station.net live r pc with
    | (r', none) => some (statusGet B run uptimeMs r')
    | (_, some _) => none
  | _, _ => none

/-- The steps of the station, with what the handlers answer. -/
def wifiStep (B : FirmwareBoot) (f : Firmware) (a : StationAction) : Option Firmware :=
  let cfg := B.boot.cfg
  match a with
  | .post body =>
    if f.free then
      (firmwareStation B f a).map fun g => g.answer (networkStaPostRefused cfg body)
    else none
  | .overwrite =>
    let response := match f.station.http with
      | .posting creds => some (networkStaPostAccepted cfg creds)
      | .down | .idle | .status _ _ => none
    (firmwareStation B f a).map fun g => g.answer response
  | .status => none
  | .read live =>
    let response := statusDone B f live
    let serving := if response.isSome then .idle else f.serving
    (firmwareStation B f a).map fun g => { g.answer response with serving := serving }
  | .start _ => if f.device.main = .startHttp then firmwareStation B f a else none
  | .worker _ _ | .event _ _ | .timer _ | .fire | .apEvent _ | .gotIp _ | .lost _ | .flush _ =>
    firmwareStation B f a

/-- A handler that reads what it answers in one step. -/
def serve (f : Firmware) (response : HttpResponse) : Option Firmware :=
  if f.free then some (f.answer (some response)) else none

/-- One step of the device before a restart. -/
def firmwareRunning (B : FirmwareBoot) (f : Firmware) : FirmwareAction → Option Firmware
  | .device a => runStep B f a
  | .station a => wifiStep B f a
  | .landingGet => serve f (sendPage B.landing)
  | .setupGet => serve f (sendPage B.setupPage)
  | .deviceGet => serve f (deviceGet B)
  | .statusGet =>
    if f.free then some { f with serving := .statusUptime f.device.shared.run } else none
  | .uptime =>
    match f.serving with
    | .statusUptime run =>
      (firmwareStation B f .status).map fun g =>
        { g with serving := .statusNetwork run f.device.shared.clock }
    | _ => none
  | .sensorsGet temperature =>
    let available := decide (f.station.net.staState = .connected)
    if f.free then some { f with serving := .sensorsRssi temperature available } else none
  | .sensorsRead =>
    match f.serving with
    | .sensorsRssi temperature available =>
      some { f with serving := .sensorsIncluded temperature available f.station.net.wifiRssi }
    | .sensorsIncluded temperature available rssi =>
      let included := decide (f.station.net.staState = .connected)
      let response := sensorsGet B.boot.cfg temperature available rssi included
      some { f.answer (some response) with serving := .idle }
    | _ => none
  | .workloadsGet => serve f (workloadsGet B.boot.cfg)
  | .runGet uri => serve f (runGet B.boot.cfg f.device.shared.run uri)
  | .eventsGet allocated => serve f (eventsGet allocated f.device.shared.ring)

/-- One step of the device. -/
def firmwareStep (B : FirmwareBoot) (f : Firmware) (a : FirmwareAction) : Option Firmware :=
  if f.device.shared.rebooted.isSome then none else firmwareRunning B f a

/-- The device in front of the first event of `app_main`; `pair` is what `start_wifi` will use. -/
def Firmware.initial (marker : RebootMarker) (nvs : Nvs) (pair : CText × CText) : Firmware where
  device := .initial marker
  station := .initial nvs pair
  serving := .idle
  responses := []

def firmware (B : FirmwareBoot) : System Firmware FirmwareAction where
  init f := ∃ marker nvs pair, f = .initial marker nvs pair
  step := firmwareStep B

/-! ## 3. The two halves -/

/-- A step of the runs, of the station, or of neither. -/
def Halves (B : FirmwareBoot) (f f' : Firmware) : Prop :=
  (∃ a, step B.boot f.device a = some f'.device ∧ f'.station = f.station) ∨
    (∃ a, stationStep B.station f.station a = some f'.station ∧
      f'.device = syncRadio f.device f'.station.net) ∨
    f'.device = f.device ∧ f'.station = f.station

section Halves

variable {B : FirmwareBoot} {f f' : Firmware}

theorem firmwareDevice_halves {a : Action} {g : Firmware} (h : firmwareDevice B f a = some g)
    (hd : f'.device = g.device) (hs : f'.station = g.station) : Halves B f f' := by
  obtain ⟨d, hstep, rfl⟩ := Option.map_eq_some_iff.mp h
  exact Or.inl ⟨a, by rw [hd]; exact hstep, hs⟩

theorem firmwareStation_halves {a : StationAction} {g : Firmware}
    (h : firmwareStation B f a = some g) (hd : f'.device = g.device)
    (hs : f'.station = g.station) : Halves B f f' := by
  obtain ⟨s, hstep, rfl⟩ := Option.map_eq_some_iff.mp h
  exact Or.inr (Or.inl ⟨a, by rw [hs]; exact hstep, by rw [hd, hs]⟩)

theorem runStep_halves {a : Action} (h : runStep B f a = some f') : Halves B f f' := by
  unfold runStep at h
  cases a with
  | runsPost body | abortPost uri =>
      obtain ⟨-, h⟩ := Option.ite_none_right_eq_some.mp h
      obtain ⟨g, hg, rfl⟩ := Option.map_eq_some_iff.mp h
      exact firmwareDevice_halves hg rfl rfl
  | createTask created | finishFailed =>
      obtain ⟨g, hg, rfl⟩ := Option.map_eq_some_iff.mp h
      exact firmwareDevice_halves hg rfl rfl
  | main up =>
      obtain ⟨-, h⟩ := Option.ite_none_right_eq_some.mp h
      exact firmwareDevice_halves h rfl rfl
  | radio sta clients => cases h
  | task i ret | tick ms => exact firmwareDevice_halves h rfl rfl

theorem wifiStep_halves {a : StationAction} (h : wifiStep B f a = some f') : Halves B f f' := by
  unfold wifiStep at h
  cases a with
  | post body =>
      obtain ⟨-, h⟩ := Option.ite_none_right_eq_some.mp h
      obtain ⟨g, hg, rfl⟩ := Option.map_eq_some_iff.mp h
      exact firmwareStation_halves hg rfl rfl
  | overwrite | read live =>
      obtain ⟨g, hg, rfl⟩ := Option.map_eq_some_iff.mp h
      exact firmwareStation_halves hg rfl rfl
  | status => cases h
  | start ok =>
      obtain ⟨-, h⟩ := Option.ite_none_right_eq_some.mp h
      exact firmwareStation_halves h rfl rfl
  | worker | event | timer | fire | apEvent | gotIp | lost | flush =>
      exact firmwareStation_halves h rfl rfl

theorem serve_halves {response : HttpResponse} (h : serve f response = some f') :
    Halves B f f' := by
  obtain ⟨-, h⟩ := Option.ite_none_right_eq_some.mp h
  cases h
  exact Or.inr (Or.inr ⟨rfl, rfl⟩)

/-- **Every step is one of a half, or of neither**, and none is taken behind a restart. -/
theorem firmwareStep_halves {a : FirmwareAction} (h : firmwareStep B f a = some f') :
    f.device.shared.rebooted.isSome = false ∧ Halves B f f' := by
  unfold firmwareStep at h
  obtain ⟨hre, h⟩ := Option.ite_none_left_eq_some.mp h
  refine ⟨Bool.eq_false_of_not_eq_true hre, ?_⟩
  unfold firmwareRunning at h
  cases a with
  | device a => exact runStep_halves h
  | station a => exact wifiStep_halves h
  | landingGet | setupGet | deviceGet | workloadsGet | runGet uri | eventsGet allocated =>
      exact serve_halves h
  | statusGet | sensorsGet temperature =>
      obtain ⟨-, h⟩ := Option.ite_none_right_eq_some.mp h
      cases h
      exact Or.inr (Or.inr ⟨rfl, rfl⟩)
  | uptime =>
      dsimp only at h
      split at h
      · obtain ⟨g, hg, rfl⟩ := Option.map_eq_some_iff.mp h
        exact firmwareStation_halves hg rfl rfl
      · cases h
  | sensorsRead =>
      dsimp only at h
      split at h
      · cases h
        exact Or.inr (Or.inr ⟨rfl, rfl⟩)
      · cases h
        exact Or.inr (Or.inr ⟨rfl, rfl⟩)
      · cases h

/-- **What the device does to its runs is a run of `device`, what it does to its station one of
    `station`.** -/
theorem halves_reach {C : Firmware → FirmwareAction → Prop} (h : Reach (firmware B) C f) :
    Reach (device B.boot) Always f.device ∧ Reach (station B.station) Always f.station := by
  refine h.inv (I := fun f => Reach (device B.boot) Always f.device ∧
    Reach (station B.station) Always f.station) ?_ ?_
  · intro f hf
    obtain ⟨marker, nvs, pair, rfl⟩ := hf
    exact ⟨.start ⟨marker, rfl⟩, .start ⟨nvs, pair, rfl⟩⟩
  · intro f a f' _ I _ hs
    obtain ⟨hre, hs⟩ := firmwareStep_halves hs
    rcases hs with ⟨a, hd, hst⟩ | ⟨a, hst, hd⟩ | ⟨hd, hst⟩
    · rw [hst]
      exact ⟨.step I.1 trivial hd, I.2⟩
    · refine ⟨?_, .step I.2 trivial hst⟩
      -- a step of the station is one of the radio for the runs
      have hradio : (device B.boot).step f.device
          (.radio (decide (f'.station.net.staState = .connected))
            f'.station.net.apClientCount) = some f'.device := by
        unfold device
        dsimp only
        unfold step
        rw [hre, hd]
        rfl
      exact .step I.1 trivial hradio
    · rw [hd, hst]
      exact I

end Halves

/-! ## 4. A device for concrete runs -/

/-- A board for one run. -/
def benchFirmware : FirmwareBoot where
  boot := benchBoot
  station := benchStation
  deviceId := "db-0001".toList
  apSsid := "DragonBench-0001".toList
  landing := "<html></html>".toList
  setupPage := "<html></html>".toList

/-- A stored network with this password. -/
def storedNvs (password : CText) : Nvs :=
  let creds : StaCredentials := ⟨1, "home".toList, password⟩
  ⟨⟨some ⟨creds.ssid, creds⟩, none⟩, ⟨some ⟨password, creds⟩, none⟩⟩

/-- `app_main`. -/
def bootSteps : List FirmwareAction :=
  List.replicate 6 (.device (.main true)) ++ storedStart.map .station ++ [.device (.main true)]

end DragonBench
