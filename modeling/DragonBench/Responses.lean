/-
  File:      DragonBench/Responses.lean
  Subject:   What the handlers answer: the status and the body of every response of the HTTP server.

  A handler builds a cJSON object and `send_json` prints it; `events_get` and the two pages send
  text of their own. The pages are constants of the build.
-/
import DragonBench.Client
import DragonBench.Station

namespace DragonBench

/-! ## 1. Sending -/

/-- What one boot does not change, for the handlers. -/
structure FirmwareBoot where
  boot : Boot
  station : StationBoot
  /-- `device_id` -/
  deviceId : CText
  /-- `ap_ssid` -/
  apSsid : CText
  /-- `landing` -/
  landing : CText
  /-- `setup_page` -/
  setupPage : CText

/-- `send_json`. -/
def sendJson (cfg : Config) (root : List (CText × Json)) (status : Nat) : HttpResponse :=
  ⟨status, "application/json".toList, (Json.obj root).print cfg.numText⟩

/-- An object with the one member `error`. -/
def sendError (cfg : Config) (error : CText) (status : Nat) : HttpResponse :=
  sendJson cfg [("error".toList, .str error)] status

/-- `httpd_resp_send_err(req, HTTPD_400_BAD_REQUEST, "bad run id")`. -/
def badRunId : HttpResponse := ⟨400, "text/html".toList, "bad run id".toList⟩

/-- `send_page`. -/
def sendPage (html : CText) : HttpResponse := ⟨200, "text/html".toList, html⟩

/-- `run_state_name`. -/
def runStateName : DbRunState → CText
  | .idle => "idle".toList
  | .running => "running".toList
  | .aborting => "aborting".toList
  | .complete => "complete".toList

/-! ## 2. Reading -/

/-- `identity_json`. -/
def identityJson (B : FirmwareBoot) : List (CText × Json) :=
  [("product".toList, .str "DragonBench".toList), ("target".toList, .str B.boot.cfg.targetName),
    ("firmware_version".toList, .str B.boot.cfg.firmwareVersion),
    ("device_id".toList, .str B.deviceId), ("image_class".toList, .str "characterization".toList),
    ("heater_capability".toList, .bool false), ("fan_control_capability".toList, .bool false),
    ("measurement_authority".toList, .str "external_bench_equipment".toList)]

/-- `device_get`. -/
def deviceGet (B : FirmwareBoot) : HttpResponse := sendJson B.boot.cfg (identityJson B) 200

/-- What `status_get` reads of `current_run` under the lock. -/
def runStatus (run : DbRun) : List (CText × Json) :=
  [("run_id".toList, .str run.runId), ("last_run_id".toList, .str run.runId),
    ("run_state".toList, .str (runStateName run.state)),
    ("workload".toList, .str (dbWorkloadName run.request.workload)),
    ("result".toList, .str run.result)]

/-- The object `network`. -/
def networkStatus (B : FirmwareBoot) (r : NetworkStatus) : List (CText × Json) :=
  [("mode".toList, .str (if r.mode then "apsta".toList else "ap".toList)),
    ("ap_state".toList, .str (dbApStateName r.apState)), ("ap_active".toList, .bool r.apActive),
    ("ap_ssid".toList, .str B.apSsid), ("ap_ip".toList, .str r.apIp),
    ("ap_client_count".toList, .num (r.apClientCount : ℚ)),
    ("sta_state".toList, .str (dbStaStateName r.staState)),
    ("sta_ssid".toList, .str r.staSsid),
    ("sta_last_disconnect_reason".toList, .num (r.staLastReason : ℚ)),
    ("sta_config_request_id".toList, .num (r.requestId : ℚ)),
    ("sta_config_result".toList, .str r.result.text),
    ("sta_configured".toList, .bool r.configured),
    ("sta_connected".toList, .bool r.connected)] ++
  stringMember "sta_ip".toList r.staIp ++
  [("mdns_hostname".toList, .str r.hostname), ("mdns_ready".toList, .bool B.station.mdnsReady)]

/-- `status_get` behind its last read. -/
def statusGet (B : FirmwareBoot) (run : DbRun) (uptimeMs : Nat) (r : NetworkStatus) :
    HttpResponse :=
  sendJson B.boot.cfg (identityJson B ++ runStatus run ++
    [("uptime_ms".toList, .num (asDouble uptimeMs : ℚ)),
      ("reset_reason".toList, .str B.boot.resetReasonText)] ++
    stringMember "previous_reboot_run_id".toList
      (some B.boot.previousRebootRunId |>.filter fun s => decide (s ≠ [])) ++
    [("network".toList, .obj (networkStatus B r)),
      ("network_connected".toList, .bool r.networkConnected)]) 200

/-- `add_sensor`. -/
def addSensor (id name unit source status : CText) (value : Option ℚ) : Json :=
  .obj ([("id".toList, .str id), ("name".toList, .str name), ("unit".toList, .str unit),
    ("source".toList, .str source), ("status".toList, .str status)] ++
    (value.map fun v => ("value".toList, Json.num v)).toList)

/-- The text of a sensor's `status`. -/
def sensorStatus (available : Bool) : CText :=
  if available then "available".toList else "unavailable".toList

/-- `sensors_get` behind its reads: of the temperature, of `sta_state` for the status, of
    `wifi_rssi`, and of `sta_state` for the value. -/
def sensorsGet (cfg : Config) (temperature : Option ℚ) (available : Bool) (rssi : Int)
    (included : Bool) : HttpResponse :=
  sendJson cfg [("sensors".toList, .arr
    [addSensor "soc_temperature".toList "SoC temperature".toList "degC".toList "on_die".toList
        (sensorStatus temperature.isSome) temperature,
      addSensor "wifi_rssi".toList "Station Wi-Fi RSSI".toList "dBm".toList "wifi".toList
        (sensorStatus available) (if included then some (rssi : ℚ) else none),
      addSensor "supply_voltage".toList "MCU supply voltage".toList "V".toList "none".toList
        "unsupported".toList none,
      addSensor "supply_current".toList "MCU supply current".toList "A".toList "none".toList
        "unsupported".toList none])] 200

/-- A workload of the list and its status. -/
def workloadEntry (id status : CText) : Json :=
  .obj [("id".toList, .str id), ("status".toList, .str status)]

/-- The workloads no image supports. -/
def unsupportedWorkloads : List CText :=
  ["BLE_STRESS".toList, "GENERIC_PERIPHERAL_LOAD".toList, "CRYPTO_BENCHMARK".toList,
    "FILESYSTEM_BENCHMARK".toList, "REBOOT_LOOP".toList]

/-- `workloads_get`. -/
def workloadsGet (cfg : Config) : HttpResponse :=
  let supported := DbWorkload.all.map fun w =>
    workloadEntry (dbWorkloadName w)
      (if dbWorkloadSupported w then "available".toList else "unsupported".toList)
  let unsupported := unsupportedWorkloads.map fun id => workloadEntry id "unsupported".toList
  sendJson cfg [("workloads".toList, .arr (supported ++ unsupported))] 200

/-- `run_get`. -/
def runGet (cfg : Config) (run : DbRun) (uri : CText) : HttpResponse :=
  match pathRunId uri false with
  | none => badRunId
  | some id =>
    if id = run.runId then
      sendJson cfg [("run_id".toList, .str id),
        ("workload".toList, .str (dbWorkloadName run.request.workload)),
        ("state".toList, .str (runStateName run.state)), ("result".toList, .str run.result)] 200
    else sendError cfg "run not found".toList 404

/-! ## 3. Writing -/

/-- `runs_post` when it begins no run. -/
def runsPostRefused (cfg : Config) (run : DbRun) (body : Option Json) : Option HttpResponse :=
  match runsPostRequest body with
  | .error validation => some (sendError cfg validation 400)
  | .ok _ =>
    if run.state = .running ∨ run.state = .aborting then
      some (sendError cfg "run already active".toList 409)
    else none

/-- `runs_post` behind `xTaskCreate`. -/
def runsPostStarted (cfg : Config) (id : CText) : HttpResponse :=
  sendJson cfg [("run_id".toList, .str id), ("state".toList, .str "running".toList)] 201

/-- `runs_post` behind the failure of `xTaskCreate`. -/
def runsPostFailed (cfg : Config) : HttpResponse :=
  sendError cfg "task creation failed".toList 409

/-- `abort_post`. -/
def abortPostResponse (cfg : Config) (run : DbRun) (uri : CText) : HttpResponse :=
  match pathRunId uri true with
  | none => badRunId
  | some id =>
    match dbRunAbort run id with
    | none => sendError cfg "run not active".toList 409
    | some _ =>
      sendJson cfg [("run_id".toList, .str id), ("state".toList, .str "aborting".toList)] 200

/-- `network_sta_post` when it refuses the body. -/
def networkStaPostRefused (cfg : Config) (body : Option Json) : Option HttpResponse :=
  match staRequest body with
  | none =>
    some (sendError cfg
      "ssid required (<32 chars); password must be empty or 8-63 chars".toList 400)
  | some _ => none

/-- `network_sta_post` behind `xQueueOverwrite`. -/
def networkStaPostAccepted (cfg : Config) (creds : StaCredentials) : HttpResponse :=
  sendJson cfg [("state".toList, .str "connecting".toList),
    ("request_id".toList, .num (creds.requestId : ℚ)), ("ssid".toList, .str creds.ssid)] 200

end DragonBench
