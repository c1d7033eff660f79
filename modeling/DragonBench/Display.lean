/-
  File:      DragonBench/Display.lean
  Subject:   WHAT THE DEVICE ANSWERS, ON THE DASHBOARD: from the handlers over cJSON, the decoder of
             `res.text()` and `JSON.parse` to the elements of the page.

  The strings of the device are bytes and need not be UTF-8 (a network name is what was typed or
  configured); the page shows U+FFFD for what is none. A string that is empty is shown as a dash.

  * `received` -- a tree of the device, as the script has it;
  * `DeviceAnswer` -- the three answers the page polls;
  * `DeviceAnswer.Shown` -- what the page then shows;
  * **`device_displayed`** -- it shows it, until the next answer that is read.
-/
import DragonBench.Dashboard
import DragonBench.Firmware
import DragonBench.Lib.JsonBytes

namespace DragonBench

open Json Transition LastWrite Utf8Replace

/-! ## 1. A tree of the device -/

/-- A response, as the callbacks of a poll get it. -/
def fetchOutcome (response : HttpResponse) : FetchOutcome :=
  if 200 ≤ response.status ∧ response.status < 300 then .body (decodeReplace response.body)
  else .http response.status

/-- A tree that was printed by the device, decoded and parsed. -/
def received (read : ℚ → ℚ) (v : Json) : Json := readBack read (v.mapStr decodeReplace)

section Received

variable {cfg : Config} {read : ℚ → ℚ}

/-- **A response arrives as its tree**, whatever bytes are in its strings. -/
theorem parse_sendJson (hf : NumFormat cfg.numText read) (root : List (CText × Json)) :
    ∃ text, fetchOutcome (sendJson cfg root 200) = .body text ∧
      jsonParse text = some (received read (.obj root)) := by
  refine ⟨_, if_pos ⟨le_rfl, show 200 < 300 by decide⟩, ?_⟩
  show jsonParse (decodeReplace ((Json.obj root).print cfg.numText)) = _
  rw [decodeReplace_print hf]
  exact Dialect.loads_print hf python _

theorem received_arr (xs : List Json) : received read (.arr xs) = .arr (xs.map (received read)) := by
  rw [received, mapStr, readBack, readBackElems_eq, mapStrElems_eq, List.map_map]
  rfl

/-- **A member arrives under its name.** -/
theorem member_received {ms : List (CText × Json)} (h : ∀ m ∈ ms, ∀ c ∈ m.1, c.toNat < 0x80)
    (name : CText) :
    Js.member name (received read (.obj ms)) = (Js.member name (.obj ms)).map (received read) := by
  have hms : received read (.obj ms) = .obj (ms.map fun m => (m.1, received read m.2)) := by
    rw [received, mapStr, readBack, readBackMembers_eq, mapStrMembers_eq, List.map_map]
    refine congrArg Json.obj (List.map_congr_left fun m hm => ?_)
    show (decodeReplace m.1, _) = _
    rw [decodeReplace_ascii (h m hm)]
    rfl
  rw [hms]
  exact member_map (received read) name ms

end Received

/-! ## 2. The answers -/

/-- What the device answers a poll with. -/
inductive DeviceAnswer where
  | status (run : DbRun) (uptimeMs : Nat) (r : NetworkStatus)
  | sensors (temperature : Option ℚ) (available : Bool) (rssi : Int) (included : Bool)
  | workloads

def DeviceAnswer.endpoint : DeviceAnswer → Endpoint
  | .status .. => .status
  | .sensors .. => .sensors
  | .workloads => .workloads

def DeviceAnswer.response (B : FirmwareBoot) : DeviceAnswer → HttpResponse
  | .status run uptimeMs r => statusGet B run uptimeMs r
  | .sensors temperature available rssi included =>
    sensorsGet B.boot.cfg temperature available rssi included
  | .workloads => workloadsGet B.boot.cfg

/-- The uptime, with which the page computes, is read as it is. -/
def DeviceAnswer.Exact (read : ℚ → ℚ) : DeviceAnswer → Prop
  | .status _ uptimeMs _ => read (asDouble uptimeMs : ℚ) = (asDouble uptimeMs : ℚ)
  | .sensors .. | .workloads => True

/-- A text of the device on the page. -/
def shownText (s : CText) : CText := if s = [] then "—".toList else s

/-- A tile of a text, with the text as its status when there is one. -/
def stateTile (label s : CText) : MetricTile :=
  ⟨label, shownText s, if s = [] then none else some s⟩

/-- The hours, minutes and seconds of a time. -/
def uptimeText (E : Engine) (ms : Nat) : CText :=
  E.numText (ms / 3600000 : Nat) ++ "h ".toList ++ E.numText (ms / 60000 % 60 : Nat) ++
    "m ".toList ++ E.numText (ms / 1000 % 60 : Nat) ++ "s".toList

/-- The panel of a status. -/
def statusShown (E : Engine) (B : FirmwareBoot) (run : DbRun) (uptimeMs : Nat) (r : NetworkStatus) :
    StatusPanel :=
  let target := decodeReplace B.boot.cfg.targetName
  let firmware := decodeReplace B.boot.cfg.firmwareVersion
  { tiles := [⟨"Target".toList, shownText target, none⟩, ⟨"Firmware".toList, shownText firmware, none⟩,
      ⟨"Image class".toList, "characterization".toList, none⟩,
      stateTile "Run state".toList (runStateName run.state),
      ⟨"Workload".toList, dbWorkloadName run.request.workload, none⟩,
      stateTile "Result".toList (decodeReplace run.result),
      ⟨"Uptime".toList, uptimeText E (asDouble uptimeMs), none⟩,
      ⟨"Reset reason".toList, shownText (decodeReplace B.boot.resetReasonText), none⟩,
      ⟨"Previous reboot run".toList, shownText (decodeReplace B.boot.previousRebootRunId), none⟩,
      stateTile "Network".toList
        (if r.networkConnected then "connected".toList else "disconnected".toList),
      ⟨"Run ID".toList, shownText (decodeReplace run.runId), none⟩,
      ⟨"Measurement authority".toList, "external_bench_equipment".toList, none⟩]
    heater := ⟨"ABSENT".toList, "unsupported".toList⟩
    fan := ⟨"ABSENT".toList, "unsupported".toList⟩
    identity := (if target = [] then "target —".toList else target) ++ " · firmware ".toList ++
      shownText firmware }

/-- The row of a sensor. -/
def rowShown (E : Engine) (read : ℚ → ℚ) (id name unit status : CText) (value : Option ℚ) : SensorRow :=
  ⟨id, name, match value with
    | none => "—".toList
    | some v => E.numText (read v) ++ ' ' :: unit, ⟨status, status⟩⟩

/-- The rows of the four sensors. -/
def sensorsShown (E : Engine) (read : ℚ → ℚ) (temperature : Option ℚ) (available : Bool) (rssi : Int)
    (included : Bool) : List SensorRow :=
  [rowShown E read "soc_temperature".toList "SoC temperature".toList "degC".toList
      (sensorStatus temperature.isSome) temperature,
    rowShown E read "wifi_rssi".toList "Station Wi-Fi RSSI".toList "dBm".toList
      (sensorStatus available) (if included then some (rssi : ℚ) else none),
    rowShown E read "supply_voltage".toList "MCU supply voltage".toList "V".toList
      "unsupported".toList none,
    rowShown E read "supply_current".toList "MCU supply current".toList "A".toList
      "unsupported".toList none]

/-- The chip of a workload. -/
def chipShown (id status : CText) : StatusText := ⟨id ++ " · ".toList ++ status, status⟩

/-- The chips of all workloads. -/
def workloadsShown : List StatusText :=
  (DbWorkload.all.map fun w => chipShown (dbWorkloadName w)
    (if dbWorkloadSupported w then "available".toList else "unsupported".toList)) ++
  unsupportedWorkloads.map fun id => chipShown id "unsupported".toList

/-- **The page shows an answer.** -/
def DeviceAnswer.Shown (E : Engine) (read : ℚ → ℚ) (B : FirmwareBoot) (s : Dashboard) :
    DeviceAnswer → Prop
  | .status run uptimeMs r => s.panel = statusShown E B run uptimeMs r
  | .sensors temperature available rssi included =>
    s.sensorRows = sensorsShown E read temperature available rssi included
  | .workloads => s.workloadChips = workloadsShown

/-! ## 3. The renderers on them -/

section Renderers

variable {E : Engine} {B : FirmwareBoot} {read : ℚ → ℚ}

theorem dashText_str (s : CText) : dashText E (some (.str s)) = some (shownText s) := by
  cases s <;> rfl

/-- A tile of a string. -/
theorem metricTile_str (label s : CText) :
    metricTile E label (some (.str s)) none = some ⟨label, shownText s, none⟩ := by
  rw [metricTile, dashText_str]
  rfl

theorem metricTile_state (label s : CText) :
    metricTile E label (some (.str s)) (some (.str s)) = some (stateTile label s) := by
  rw [metricTile, dashText_str, stateTile]
  cases s <;> rfl

/-- **The uptime** is in whole hours, minutes and seconds. -/
theorem fmtUptime_natCast (ms : Nat) : fmtUptime E (some (.num (ms : ℚ))) = uptimeText E ms := by
  have hs : ⌊(ms : ℚ) / 1000⌋ = ((ms / 1000 : Nat) : Int) := by
    exact_mod_cast Rat.floor_natCast_div_natCast ms 1000
  have hh : ((ms / 1000 : Nat) : Int).fdiv 3600 = ((ms / 3600000 : Nat) : Int) := by
    rw [Int.fdiv_eq_ediv_of_nonneg _ (by decide)]
    omega
  have hrest : ((ms / 1000 : Nat) : Int).tmod 3600 = ((ms / 1000 % 3600 : Nat) : Int) :=
    Int.tmod_eq_emod_of_nonneg (Int.natCast_nonneg _)
  have hm : ((ms / 1000 % 3600 : Nat) : Int).fdiv 60 = ((ms / 60000 % 60 : Nat) : Int) := by
    rw [Int.fdiv_eq_ediv_of_nonneg _ (by decide)]
    omega
  have hsec : ((ms / 1000 : Nat) : Int).tmod 60 = ((ms / 1000 % 60 : Nat) : Int) :=
    Int.tmod_eq_emod_of_nonneg (Int.natCast_nonneg _)
  rw [fmtUptime, uptimeText]
  simp only [hs, hh, hrest, hm, hsec, Int.cast_natCast]

/-- The members of a status. -/
def statusMembers (B : FirmwareBoot) (run : DbRun) (uptimeMs : Nat) (r : NetworkStatus) :
    List (CText × Json) :=
  identityJson B ++ runStatus run ++
    [("uptime_ms".toList, .num (asDouble uptimeMs : ℚ)),
      ("reset_reason".toList, .str B.boot.resetReasonText)] ++
    stringMember "previous_reboot_run_id".toList
      (some B.boot.previousRebootRunId |>.filter fun s => decide (s ≠ [])) ++
    [("network".toList, .obj (networkStatus B r)),
      ("network_connected".toList, .bool r.networkConnected)]

/-- The names the page asks a status for. -/
structure StatusFields (B : FirmwareBoot) (run : DbRun) (uptimeMs : Nat) (r : NetworkStatus)
    (field : CText → Option Json) : Prop where
  target : field "target".toList = some (.str B.boot.cfg.targetName)
  firmware : field "firmware_version".toList = some (.str B.boot.cfg.firmwareVersion)
  imageClass : field "image_class".toList = some (.str "characterization".toList)
  runState : field "run_state".toList = some (.str (runStateName run.state))
  workload : field "workload".toList = some (.str (dbWorkloadName run.request.workload))
  result : field "result".toList = some (.str run.result)
  uptime : field "uptime_ms".toList = some (.num (asDouble uptimeMs : ℚ))
  resetReason : field "reset_reason".toList = some (.str B.boot.resetReasonText)
  previous : field "previous_reboot_run_id".toList =
    if B.boot.previousRebootRunId = [] then none else some (.str B.boot.previousRebootRunId)
  connected : field "network_connected".toList = some (.bool r.networkConnected)
  runId : field "run_id".toList = some (.str run.runId)
  authority : field "measurement_authority".toList = some (.str "external_bench_equipment".toList)
  heater : field "heater_capability".toList = some (.bool false)
  fan : field "fan_control_capability".toList = some (.bool false)

theorem status_fields (run : DbRun) (uptimeMs : Nat) (r : NetworkStatus) :
    StatusFields B run uptimeMs r fun name => Js.member name (.obj (statusMembers B run uptimeMs r)) := by
  unfold statusMembers
  cases hp : B.boot.previousRebootRunId with
  | nil => exact ⟨rfl, rfl, rfl, rfl, rfl, rfl, rfl, rfl, by rw [hp]; rfl, rfl, rfl, rfl, rfl, rfl⟩
  | cons c s => exact ⟨rfl, rfl, rfl, rfl, rfl, rfl, rfl, rfl, by rw [hp]; rfl, rfl, rfl, rfl, rfl, rfl⟩

/-- Whether the names of these members are ASCII. -/
def asciiNames (ms : List (CText × Json)) : Bool :=
  (ms.map Prod.fst).all fun name => name.all fun c => decide (c.toNat < 0x80)

theorem member_received_of_ascii {ms : List (CText × Json)} (h : asciiNames ms = true) (name : CText) :
    Js.member name (received read (.obj ms)) = (Js.member name (.obj ms)).map (received read) := by
  refine member_received (fun m hm c hc => ?_) name
  have hall := List.all_eq_true.mp h m.1 (List.mem_map_of_mem hm)
  exact of_decide_eq_true (List.all_eq_true.mp hall c hc)

theorem statusMembers_ascii (run : DbRun) (uptimeMs : Nat) (r : NetworkStatus) :
    asciiNames (statusMembers B run uptimeMs r) = true := by
  unfold statusMembers
  cases hp : B.boot.previousRebootRunId <;> rfl

theorem runStateName_ascii (state : DbRunState) :
    decodeReplace (runStateName state) = runStateName state := by
  cases state <;> rfl

theorem dbWorkloadName_ascii (w : DbWorkload) :
    decodeReplace (dbWorkloadName w) = dbWorkloadName w := by
  cases w <;> rfl

theorem shownText_of_ne {s : CText} (h : s ≠ []) : shownText s = s := if_neg h

theorem shownText_dbWorkloadName (w : DbWorkload) : shownText (dbWorkloadName w) = dbWorkloadName w :=
  shownText_of_ne (by cases w <;> decide)

theorem shownText_uptimeText (ms : Nat) : shownText (uptimeText E ms) = uptimeText E ms :=
  shownText_of_ne (List.append_ne_nil_of_right_ne_nil _ (by decide))

theorem appendAll_some {α : Type} (xs : List α) : appendAll (xs.map some) = (xs, true) := by
  induction xs with
  | nil => rfl
  | cons x xs ih => rw [List.map_cons, appendAll, ih]

/-- **`renderStatus` on a status of the device.** -/
theorem renderStatus_received (run : DbRun) {uptimeMs : Nat}
    (hread : read (asDouble uptimeMs : ℚ) = (asDouble uptimeMs : ℚ)) (r : NetworkStatus)
    (p : StatusPanel) :
    renderStatus E (received read (.obj (statusMembers B run uptimeMs r))) p =
      (statusShown E B run uptimeMs r, true) := by
  have F := status_fields (B := B) run uptimeMs r
  have hfield : ∀ name, Js.member name (received read (.obj (statusMembers B run uptimeMs r))) =
      (Js.member name (.obj (statusMembers B run uptimeMs r))).map (received read) :=
    member_received_of_ascii (statusMembers_ascii run uptimeMs r)
  have hstr : ∀ s, received read (.str s) = .str (decodeReplace s) := fun _ => rfl
  have hnull : Js.isNull (received read (.obj (statusMembers B run uptimeMs r))) = false := rfl
  have hprevious : (Option.map (received read) (if B.boot.previousRebootRunId = [] then none
      else some (.str B.boot.previousRebootRunId))) =
      if B.boot.previousRebootRunId = [] then none
      else some (.str (decodeReplace B.boot.previousRebootRunId)) := by
    split_ifs <;> rfl
  have htile : metricTile E "Previous reboot run".toList
      (if B.boot.previousRebootRunId = [] then none
        else some (.str (decodeReplace B.boot.previousRebootRunId))) none =
      some ⟨"Previous reboot run".toList, shownText (decodeReplace B.boot.previousRebootRunId), none⟩ := by
    split_ifs with hp
    · rw [hp]
      rfl
    · exact metricTile_str _ _
  have hnet : netText (some (.bool r.networkConnected)) =
      some (.str (if r.networkConnected then "connected".toList else "disconnected".toList)) := by
    cases r.networkConnected <;> rfl
  have hbool : ∀ b, received read (.bool b) = .bool b := fun _ => rfl
  have hnum : ∀ q, received read (.num q) = .num (read q) := fun _ => rfl
  have hclass : decodeReplace "characterization".toList = "characterization".toList := rfl
  have hauthority : decodeReplace "external_bench_equipment".toList =
    "external_bench_equipment".toList := rfl
  have htiles : statusTiles E (received read (.obj (statusMembers B run uptimeMs r))) =
      (statusShown E B run uptimeMs r).tiles.map some := by
    simp only [statusTiles, hfield, F.target, F.firmware, F.imageClass, F.runState, F.workload,
      F.result, F.uptime, F.resetReason, F.previous, F.connected, F.runId, F.authority, hprevious,
      Option.map_some, htile]
    simp only [hstr, hbool, hnet, hnum, hread, fmtUptime_natCast, metricTile_str, metricTile_state,
      runStateName_ascii, dbWorkloadName_ascii, shownText_dbWorkloadName, shownText_uptimeText, hclass,
      hauthority]
    rfl
  have hidentity : identityText E (received read (.obj (statusMembers B run uptimeMs r))) =
      some (statusShown E B run uptimeMs r).identity := by
    simp only [identityText, hfield, F.target, F.firmware, Option.map_some, hstr, Js.orElse_text]
    rfl
  have hall : appendAll (statusTiles E (received read (.obj (statusMembers B run uptimeMs r)))) =
      ((statusShown E B run uptimeMs r).tiles, true) := by
    rw [htiles, appendAll_some]
  simp only [renderStatus, hnull, hall, hidentity, hfield, F.heater, F.fan]
  rfl

/-- A constant text of the device that arrives as it is. -/
def Plain (s : CText) : Prop := s ≠ [] ∧ decodeReplace s = s

instance (s : CText) : Decidable (Plain s) := inferInstanceAs (Decidable (_ ∧ _))

/-- **A row of `renderSensors`.** -/
theorem sensorRow_received {id name unit source status : CText} {value : Option ℚ} (hid : Plain id)
    (hname : Plain name) (hunit : Plain unit) (hstatus : Plain status) :
    sensorRow E (received read (addSensor id name unit source status value)) =
      some (rowShown E read id name unit status value) := by
  have hmembers : received read (addSensor id name unit source status value) = .obj
      ([("id".toList, .str id), ("name".toList, .str name), ("unit".toList, .str unit),
        ("source".toList, .str (decodeReplace source)), ("status".toList, .str status)] ++
      (value.map fun v => ("value".toList, Json.num (read v))).toList) := by
    cases value <;>
      · simp only [received, addSensor, Option.map_none, Option.map_some, Option.toList, List.append_nil,
          List.cons_append, List.nil_append, mapStr, mapStrMembers, readBack, readBackMembers, hid.2,
          hname.2, hunit.2, hstatus.2]
        rfl
  have horElse : ∀ s t, s ≠ [] → Js.orElse (some (.str s)) t = .str s := fun s t hs => by
    rw [Js.orElse_text, if_neg hs]
  have htruthy : ∀ s : CText, s ≠ [] → Js.truthy (some (.str s)) = true := fun s hs =>
    decide_eq_true hs
  have hvalue : ∀ v : Option ℚ, sensorValue E (v.map fun q => .num (read q)) (some (.str unit)) =
      some (match v with
        | none => "—".toList
        | some q => E.numText (read q) ++ ' ' :: unit) := by
    intro v
    cases v with
    | none => rfl
    | some q =>
        simp only [Option.map_some, sensorValue, htruthy unit hunit.1, if_true]
        rfl
  rw [hmembers]
  generalize hM : Json.obj ([("id".toList, Json.str id), ("name".toList, .str name),
    ("unit".toList, .str unit), ("source".toList, .str (decodeReplace source)),
    ("status".toList, .str status)] ++
      (value.map fun v => ("value".toList, Json.num (read v))).toList) = M
  have h0 : Js.isNull M = false := by rw [← hM]; rfl
  have h1 : Js.member "id".toList M = some (.str id) := by rw [← hM]; cases value <;> rfl
  have h2 : Js.member "name".toList M = some (.str name) := by rw [← hM]; cases value <;> rfl
  have h3 : Js.member "unit".toList M = some (.str unit) := by rw [← hM]; cases value <;> rfl
  have h4 : Js.member "status".toList M = some (.str status) := by rw [← hM]; cases value <;> rfl
  have h5 : Js.member "value".toList M = value.map fun q => .num (read q) := by
    rw [← hM]
    cases value <;> rfl
  simp only [sensorRow, h0, h1, h2, h3, h4, h5, horElse _ _ hid.1, horElse _ _ hstatus.1,
    htruthy _ hname.1, hvalue]
  rfl

theorem plain_sensorStatus (available : Bool) : Plain (sensorStatus available) := by
  cases available <;> decide

/-- **A list of the device**: all its children can be made. -/
theorem renderList_received {α : Type} {name : CText} {child : Json → Option α} {items : List Json}
    {shown : List α} (hname : ∀ c ∈ name, c.toNat < 0x80)
    (h : items.map (fun v => child (received read v)) = shown.map some) :
    renderList name child (received read (.obj [(name, .arr items)])) = (shown, true) := by
  have hmember : Js.member name (received read (.obj [(name, .arr items)])) =
      some (.arr (items.map (received read))) := by
    rw [member_received fun m hm => by rw [List.mem_singleton.mp hm]; exact hname, Js.member, member,
      List.reverse_singleton, List.find?_singleton, if_pos (decide_eq_true rfl)]
    exact congrArg some (received_arr items)
  have hlist : listOf name (received read (.obj [(name, .arr items)])) =
      some (items.map (received read)) := by
    rw [listOf, hmember]
    rfl
  rw [renderList, hlist]
  show appendAll ((items.map (received read)).map child) = _
  rw [List.map_map]
  exact (congrArg appendAll h).trans (appendAll_some shown)

/-- The objects of the four sensors. -/
def sensorItems (temperature : Option ℚ) (available : Bool) (rssi : Int) (included : Bool) :
    List Json :=
  [addSensor "soc_temperature".toList "SoC temperature".toList "degC".toList "on_die".toList
      (sensorStatus temperature.isSome) temperature,
    addSensor "wifi_rssi".toList "Station Wi-Fi RSSI".toList "dBm".toList "wifi".toList
      (sensorStatus available) (if included then some (rssi : ℚ) else none),
    addSensor "supply_voltage".toList "MCU supply voltage".toList "V".toList "none".toList
      "unsupported".toList none,
    addSensor "supply_current".toList "MCU supply current".toList "A".toList "none".toList
      "unsupported".toList none]

/-- **`renderSensors` on the sensors of the device.** -/
theorem renderSensors_received (temperature : Option ℚ) (available : Bool) (rssi : Int)
    (included : Bool) :
    renderSensors E (received read
        (.obj [("sensors".toList, .arr (sensorItems temperature available rssi included))])) =
      (sensorsShown E read temperature available rssi included, true) := by
  have hunsupported : Plain "unsupported".toList := by decide
  refine renderList_received (CText.forall_of_all (by decide)) ?_
  simp only [sensorItems, sensorsShown, List.map_cons, List.map_nil]
  rw [sensorRow_received (by decide) (by decide) (by decide) (plain_sensorStatus _),
    sensorRow_received (by decide) (by decide) (by decide) (plain_sensorStatus _),
    sensorRow_received (by decide) (by decide) (by decide) hunsupported,
    sensorRow_received (by decide) (by decide) (by decide) hunsupported]

/-- **A chip of `renderWorkloads`.** -/
theorem workloadChip_received {id status : CText} (hid : Plain id) (hstatus : Plain status) :
    workloadChip E (received read (workloadEntry id status)) = some (chipShown id status) := by
  have hmembers : received read (workloadEntry id status) =
      .obj [("id".toList, .str id), ("status".toList, .str status)] := by
    simp only [received, workloadEntry, mapStr, mapStrMembers, readBack, readBackMembers, hid.2,
      hstatus.2]
    rfl
  have h1 : Js.member "id".toList (.obj [("id".toList, .str id), ("status".toList, .str status)]) =
      some (.str id) := rfl
  have h2 : Js.member "status".toList
      (.obj [("id".toList, .str id), ("status".toList, .str status)]) = some (.str status) := rfl
  have h0 : Js.isNull (.obj [("id".toList, .str id), ("status".toList, .str status)]) = false := rfl
  rw [hmembers]
  simp only [workloadChip, h0, h1, h2, Js.orElse_text, if_neg hid.1, if_neg hstatus.1]
  rfl

/-- The objects of the workloads. -/
def workloadItems : List Json :=
  (DbWorkload.all.map fun w => workloadEntry (dbWorkloadName w)
    (if dbWorkloadSupported w then "available".toList else "unsupported".toList)) ++
  unsupportedWorkloads.map fun id => workloadEntry id "unsupported".toList

/-- **`renderWorkloads` on the workloads of the device.** -/
theorem renderWorkloads_received :
    renderWorkloads E (received read (.obj [("workloads".toList, .arr workloadItems)])) =
      (workloadsShown, true) := by
  have hname : ∀ w, Plain (dbWorkloadName w) := fun w => by cases w <;> decide
  have hstate : ∀ w, Plain
      (if dbWorkloadSupported w then "available".toList else "unsupported".toList) := fun w => by
    cases dbWorkloadSupported w <;> decide
  have hunsupported : ∀ id ∈ unsupportedWorkloads, Plain id := by decide
  refine renderList_received (CText.forall_of_all (by decide)) ?_
  rw [workloadItems, workloadsShown, List.map_append, List.map_append, List.map_map, List.map_map,
    List.map_map, List.map_map]
  refine congrArg₂ (· ++ ·) (List.map_congr_left fun w _ => ?_) (List.map_congr_left fun id hid => ?_)
  · exact workloadChip_received (hname w) (hstate w)
  · exact workloadChip_received (hunsupported id hid) (by decide)

end Renderers

/-! ## 4. The page -/

section Page

variable {E : Engine} {B : FirmwareBoot} {read : ℚ → ℚ}

/-- The members of an answer. -/
def DeviceAnswer.members (B : FirmwareBoot) : DeviceAnswer → List (CText × Json)
  | .status run uptimeMs r => statusMembers B run uptimeMs r
  | .sensors temperature available rssi included =>
    [("sensors".toList, .arr (sensorItems temperature available rssi included))]
  | .workloads => [("workloads".toList, .arr workloadItems)]

theorem DeviceAnswer.response_eq (a : DeviceAnswer) :
    a.response B = sendJson B.boot.cfg (a.members B) 200 := by
  cases a <;> rfl

/-- **Every answer of the device is shown**: its renderer returns. -/
theorem returns_received (a : DeviceAnswer) (hread : a.Exact read) :
    returns E (received read (.obj (a.members B))) a.endpoint = true := by
  cases a with
  | status run uptimeMs r =>
      have h := renderStatus_received (E := E) (B := B) run hread r (Dashboard.initial [] 0).panel
      have heffect := renderStatus_effect (E := E)
        (received read (.obj (statusMembers B run uptimeMs r))) (Dashboard.initial [] 0).panel
      exact heffect.2.2.2.2.symm.trans (congrArg Prod.snd h)
  | sensors temperature available rssi included =>
      exact congrArg Prod.snd (renderSensors_received temperature available rssi included)
  | workloads => exact congrArg Prod.snd renderWorkloads_received

/-- A poll that has brought no data is not shown. -/
theorem failure_of_data_none {x : Settled} (h : x.data = none) : x.failure E ≠ none := by
  obtain ⟨e, outcome, time⟩ := x
  cases outcome with
  | rejected message => exact Option.some_ne_none _
  | http status => exact Option.some_ne_none _
  | body text =>
      have hj : jsonParse text = none := h
      simp only [Settled.failure, hj]
      exact Option.some_ne_none _

variable {s : Dashboard} {a : DeviceAnswer} {before after : List Settled} {x : Settled} {data : Json}
  {time : Nat}

/-- **The panel is the last status that was read**, written over what stood there. -/
theorem panel_last (I : Reflects E s) (hlog : s.settled = before ++ x :: after)
    (hx : x.dataOf .status = some data) (hsilent : ∀ y ∈ after, y.dataOf .status = none) :
    ∃ p, s.panel = (renderStatus E data p).1 := by
  refine ⟨⟨[], (lastBy (writesCapability E "heater_capability".toList) before).getD
      ⟨"ABSENT".toList, "unsupported".toList⟩,
    (lastBy (writesCapability E "fan_control_capability".toList) before).getD
      ⟨"ABSENT".toList, "unsupported".toList⟩,
    (lastBy (writesIdentity E) before).getD s.served⟩, ?_⟩
  refine StatusPanel.ext ?_ ?_ ?_ ?_
  · rw [I.tiles, hlog, getD_split _ fun y hy => by rw [writesTiles, hsilent y hy]; rfl, writesTiles,
      hx, (renderStatus_effect data _).1]
    rfl
  · rw [I.heater, hlog, getD_split _ fun y hy => by rw [writesCapability, hsilent y hy]; rfl,
      writesCapability, hx, (renderStatus_effect data _).2.1]
    rfl
  · rw [I.fan, hlog, getD_split _ fun y hy => by rw [writesCapability, hsilent y hy]; rfl,
      writesCapability, hx, (renderStatus_effect data _).2.2.1]
    rfl
  · rw [I.identity, hlog, getD_split _ fun y hy => by rw [writesIdentity, hsilent y hy]; rfl,
      writesIdentity, hx, (renderStatus_effect data _).2.2.2.1]
    rfl

theorem sensorRows_last (I : Reflects E s) (hlog : s.settled = before ++ x :: after)
    (hx : x.dataOf .sensors = some data) (hsilent : ∀ y ∈ after, y.dataOf .sensors = none) :
    s.sensorRows = (renderSensors E data).1 := by
  rw [I.sensors, hlog, getD_split _ fun y hy => by rw [writesSensors, hsilent y hy]; rfl,
    writesSensors, hx]
  rfl

theorem workloadChips_last (I : Reflects E s) (hlog : s.settled = before ++ x :: after)
    (hx : x.dataOf .workloads = some data) (hsilent : ∀ y ∈ after, y.dataOf .workloads = none) :
    s.workloadChips = (renderWorkloads E data).1 := by
  rw [I.workloads, hlog, getD_split _ fun y hy => by rw [writesWorkloads, hsilent y hy]; rfl,
    writesWorkloads, hx]
  rfl

/-- **A note tells of the polls that have failed** since an answer was shown. -/
theorem note_hidden_iff {e : Endpoint} (I : Reflects E s) (hlog : s.settled = before ++ x :: after)
    (hx : x.endpoint = e) (hshown : x.failure E = none)
    (hlater : ∀ y ∈ after, y.endpoint = e → y.data = none) :
    s.note e = none ↔ ∀ y ∈ after, y.endpoint ≠ e := by
  rw [I.note, hlog]
  constructor
  · -- a later poll of the endpoint has failed, and its note stands
    intro hnone y hy he
    rw [List.append_cons, lastBy_append] at hnone
    cases hl : lastBy (writesNote E e) after with
    | none =>
        have := lastBy_eq_none.mp hl y hy
        rw [writesNote, if_pos he] at this
        exact Option.some_ne_none _ this
    | some note =>
        obtain ⟨z, hz, hw⟩ := lastBy_some hl
        rw [writesNote] at hw
        split_ifs at hw with hze
        obtain ⟨why, hwhy⟩ :=
          Option.ne_none_iff_exists'.mp (failure_of_data_none (E := E) (hlater z hz hze))
        rw [hl, Option.some_or, Option.getD_some, ← Option.some.inj hw, hwhy] at hnone
        exact Option.some_ne_none _ hnone
  · intro hother
    have hsilent : ∀ y ∈ after, writesNote E e y = none := fun y hy => if_neg (hother y hy)
    rw [getD_split _ hsilent, writesNote, if_pos hx, hshown]
    rfl

/-- **WHAT THE DEVICE ANSWERS IS WHAT THE PAGE SHOWS**, whatever bytes its strings are and in
    whatever order the polls come back: when the last data of an endpoint are an answer of the
    device, the panel shows that answer and the raw view its tree, and its time is the time of the
    endpoint. Polls that have failed since change nothing but the note, which tells of them. -/
theorem device_displayed (hf : NumFormat B.boot.cfg.numText read)
    (hread : a.Exact read) (h : Reach (dashboard E) Always s)
    (hlog : s.settled = before ++ ⟨a.endpoint, fetchOutcome (a.response B), time⟩ :: after)
    (hlater : ∀ y ∈ after, y.endpoint = a.endpoint → y.data = none) :
    a.Shown E read B s ∧
    s.raw a.endpoint = rawText E (received read (.obj (a.members B))) ∧
    s.last a.endpoint = time ∧
    (s.note a.endpoint = none ↔ ∀ y ∈ after, y.endpoint ≠ a.endpoint) := by
  obtain ⟨I, -⟩ := reflects_reach h
  obtain ⟨text, htext, hparse⟩ := parse_sendJson hf (a.members B)
  rw [← a.response_eq] at htext
  rw [htext] at hlog
  have hdata : Settled.data ⟨a.endpoint, .body text, time⟩ =
      some (received read (.obj (a.members B))) := hparse
  have hfailure : Settled.failure E ⟨a.endpoint, .body text, time⟩ = none := by
    simp only [Settled.failure, hparse, returns_received a hread, if_true]
  -- behind the answer nothing is written but notes
  have hsilent : ∀ y ∈ after, y.dataOf a.endpoint = none := by
    intro y hy
    unfold Settled.dataOf
    split_ifs with he
    · exact hlater y hy he
    · rfl
  have hof : Settled.dataOf a.endpoint ⟨a.endpoint, .body text, time⟩ =
      some (received read (.obj (a.members B))) := (if_pos rfl).trans hdata
  refine ⟨?_, ?_, ?_, ?_⟩
  · cases a with
    | status run uptimeMs r =>
        obtain ⟨p, hp⟩ := panel_last I hlog hof hsilent
        exact hp.trans (congrArg Prod.fst (renderStatus_received run hread r p))
    | sensors temperature available rssi included =>
        exact (sensorRows_last I hlog hof hsilent).trans
          (congrArg Prod.fst (renderSensors_received temperature available rssi included))
    | workloads =>
        exact (workloadChips_last I hlog hof hsilent).trans (congrArg Prod.fst renderWorkloads_received)
  · rw [I.raw, hlog, getD_split _ fun y hy => by rw [writesRaw, hsilent y hy]; rfl, writesRaw, hof]
    rfl
  · have hlast : ∀ y ∈ after, writesLast E a.endpoint y = none := fun y hy =>
      if_neg fun hc => failure_of_data_none (hlater y hy hc.1) hc.2
    rw [I.last, lastShown, hlog, getD_split _ hlast, writesLast, if_pos ⟨rfl, hfailure⟩]
    rfl
  · exact note_hidden_iff I hlog rfl hfailure hlater

/-- Two answers of the device. -/
def idleStatus : DeviceAnswer := .status .initial 3723004 .blank

def warmSensors : DeviceAnswer := .sensors (some 41) false 0 false

/-- Both are shown, and then a poll fails. -/
def shownTwice : List DashEvent :=
  [.settle 0 .status (fetchOutcome (idleStatus.response benchFirmware)),
    .settle 0 .sensors (fetchOutcome (warmSensors.response benchFirmware)), .tick 2000, .pollAll,
    .settle 1 .sensors (.rejected "Failed to fetch".toList)]

set_option maxRecDepth 20000 in
/-- The sensors stay, and the note tells of the failure. -/
theorem device_displayed_bench :
    ∃ s, (dashboard plainEngine).exec (.initial benchIdentity 1000) shownTwice = some s ∧
      s.panel = statusShown plainEngine benchFirmware .initial 3723004 .blank ∧
      warmSensors.Shown plainEngine (fun q => (q.num.toNat : ℚ)) benchFirmware s ∧
      s.note .status = none ∧ s.note .sensors ≠ none ∧ s.last .sensors = 1000 := by
  have hx : ((dashboard plainEngine).exec (.initial benchIdentity 1000) shownTwice).any (fun s =>
      decide (s.settled = [⟨.status, fetchOutcome (idleStatus.response benchFirmware), 1000⟩,
        ⟨.sensors, fetchOutcome (warmSensors.response benchFirmware), 1000⟩,
        ⟨.sensors, .rejected "Failed to fetch".toList, 3000⟩])) = true := by decide +kernel
  obtain ⟨s, hs, hlog⟩ := (Option.any_eq_true _ _).mp hx
  have hlog := of_decide_eq_true hlog
  have hreach : Reach (dashboard plainEngine) Always s :=
    reach_exec (.start ⟨_, 1000, by decide, rfl⟩) hs
  have hread : idleStatus.Exact fun q => (q.num.toNat : ℚ) := by
    show ((((asDouble 3723004 : Nat) : ℚ).num.toNat : Nat) : ℚ) = (asDouble 3723004 : ℚ)
    rw [Rat.num_natCast, Int.toNat_natCast]
  have hf : NumFormat benchFirmware.boot.cfg.numText fun q => (q.num.toNat : ℚ) := decimalFormat
  have hfirst : s.settled =
      [] ++ ⟨idleStatus.endpoint, fetchOutcome (idleStatus.response benchFirmware), 1000⟩ ::
        [⟨.sensors, fetchOutcome (warmSensors.response benchFirmware), 1000⟩,
          ⟨.sensors, .rejected "Failed to fetch".toList, 3000⟩] := hlog
  have hsecond : s.settled =
      [⟨.status, fetchOutcome (idleStatus.response benchFirmware), 1000⟩] ++
        ⟨warmSensors.endpoint, fetchOutcome (warmSensors.response benchFirmware), 1000⟩ ::
          [⟨.sensors, .rejected "Failed to fetch".toList, 3000⟩] := hlog
  obtain ⟨hstatus, -, -, hnote⟩ := device_displayed hf hread hreach hfirst (by decide)
  obtain ⟨hsensors, -, htime, hfailed⟩ :=
    device_displayed (a := warmSensors) hf trivial hreach hsecond (by decide)
  refine ⟨s, hs, hstatus, hsensors, hnote.mpr (by decide), fun hn => ?_, htime⟩
  exact hfailed.mp hn _ List.mem_cons_self rfl

end Page

end DragonBench
