/-
  File:      DragonBench/Dashboard.lean
  Subject:   THE DASHBOARD (`web/index.html`, the page `landing` of the firmware): what it shows is
             settled by the polls that have come back, in the order in which they did.

  Every two seconds the page polls three endpoints, whether or not earlier polls are back, so any
  number of polls are on their way and their answers arrive in any order. An answer that is read
  fills the raw view and the panel of its endpoint; a value the panel cannot show stops the renderer
  where it stands. A badge tells how old the oldest of the three good answers is.

  * `renderStatus`, `renderSensors`, `renderWorkloads` -- the renderers, up to where they throw;
  * `Dashboard.settle`, `Dashboard.updateFreshness`, `dashboard` -- the script of the page;
  * `Reflects` -- every part of the page as a function of the answers so far;
  * `reflects_reach` -- it is one;
  * **`dashboard_honest`** -- what a note, a panel and the badge mean.
-/
import DragonBench.FormRequest
import DragonBench.Lib.LastWrite

namespace DragonBench

open Json Transition LastWrite

/-! ## 1. The renderers -/

/-- How the browser writes a number, and the message of its `TypeError`s. -/
structure Engine where
  numText : ℚ → CText
  typeError : Json → CText

/-- A child of `status-fields`. -/
structure MetricTile where
  label : CText
  text : CText
  status : Option CText
  deriving DecidableEq, Repr

/-- An element with a text and a `data-status`. -/
structure StatusText where
  text : CText
  status : CText
  deriving DecidableEq, Repr

/-- A child of `sensor-fields`. -/
structure SensorRow where
  sensorId : CText
  name : CText
  value : CText
  badge : StatusText
  deriving DecidableEq, Repr

/-- The elements that `renderStatus` writes. -/
@[ext]
structure StatusPanel where
  tiles : List MetricTile
  heater : StatusText
  fan : StatusText
  identity : CText
  deriving DecidableEq, Repr

/-- Children are appended until one of them cannot be made; whether all of them could. -/
def appendAll {α : Type} : List (Option α) → List α × Bool
  | [] => ([], true)
  | none :: _ => ([], false)
  | some a :: rest => (a :: (appendAll rest).1, (appendAll rest).2)

section Render

variable (E : Engine)

/-- `text`. -/
def dashText (v : Option Json) : Option CText :=
  match v with
  | none | some .null | some (.str []) => some "—".toList
  | some v => Js.toText E.numText v

/-- `fmtUptime`. -/
def fmtUptime (ms : Option Json) : CText :=
  match ms with
  | some (.num q) =>
    let s : Int := ⌊q / 1000⌋
    let h : Int := s.fdiv 3600
    let m : Int := (s.tmod 3600).fdiv 60
    let sec : Int := s.tmod 60
    E.numText h ++ "h ".toList ++ E.numText m ++ "m ".toList ++ E.numText sec ++ "s".toList
  | _ => "—".toList

/-- `metricTile`; `none` is an exception. -/
def metricTile (label : CText) (value status : Option Json) : Option MetricTile :=
  (dashText E value).bind fun text =>
    if Js.truthy status then
      (Js.toText E.numText (status.getD .null)).map fun s => ⟨label, text, some s⟩
    else some ⟨label, text, none⟩

/-- `net===true?'connected':net===false?'disconnected':undefined`. -/
def netText (net : Option Json) : Option Json :=
  match net with
  | some (.bool true) => some (.str "connected".toList)
  | some (.bool false) => some (.str "disconnected".toList)
  | _ => none

/-- The tiles of `renderStatus`, in order. -/
def statusTiles (data : Json) : List (Option MetricTile) :=
  let field (name : String) : Option Json := Js.member name.toList data
  let net := netText (field "network_connected")
  [metricTile E "Target".toList (field "target") none,
    metricTile E "Firmware".toList (field "firmware_version") none,
    metricTile E "Image class".toList (field "image_class") none,
    metricTile E "Run state".toList (field "run_state") (field "run_state"),
    metricTile E "Workload".toList (field "workload") none,
    metricTile E "Result".toList (field "result") (field "result"),
    metricTile E "Uptime".toList (some (.str (fmtUptime E (field "uptime_ms")))) none,
    metricTile E "Reset reason".toList (field "reset_reason") none,
    metricTile E "Previous reboot run".toList (field "previous_reboot_run_id") none,
    metricTile E "Network".toList net net,
    metricTile E "Run ID".toList (field "run_id") none,
    metricTile E "Measurement authority".toList (field "measurement_authority") none]

/-- A capability of the page. -/
def capability (v : Option Json) : Option StatusText :=
  match v with
  | some (.bool true) => some ⟨"PRESENT".toList, "error".toList⟩
  | some (.bool false) => some ⟨"ABSENT".toList, "unsupported".toList⟩
  | _ => none

/-- The text of `identity`. -/
def identityText (data : Json) : Option CText :=
  (Js.toText E.numText (Js.orElse (Js.member "target".toList data) "target —".toList)).bind fun t =>
    (Js.toText E.numText (Js.orElse (Js.member "firmware_version".toList data) "—".toList)).map
      fun f => t ++ " · firmware ".toList ++ f

/-- **`renderStatus`**: the panel it leaves, and whether it returns. Reading a member of `null`
    throws behind the removal of the old tiles. -/
def renderStatus (data : Json) (p : StatusPanel) : StatusPanel × Bool :=
  if Js.isNull data then ({ p with tiles := [] }, false)
  else
    let (tiles, all) := appendAll (statusTiles E data)
    let p := { p with tiles := tiles }
    if all then
      let p := { p with
        heater := (capability (Js.member "heater_capability".toList data)).getD p.heater
        fan := (capability (Js.member "fan_control_capability".toList data)).getD p.fan }
      match identityText E data with
      | none => (p, false)
      | some identity => ({ p with identity := identity }, true)
    else (p, false)

/-- The value of a sensor with its unit. -/
def sensorValue (value unit : Option Json) : Option CText :=
  match value with
  | none | some .null => some "—".toList
  | some v =>
    (Js.toText E.numText v).bind fun text =>
      if Js.truthy unit then
        (Js.toText E.numText (unit.getD .null)).map fun u => text ++ ' ' :: u
      else some text

/-- One row of `renderSensors`. -/
def sensorRow (s : Json) : Option SensorRow :=
  if Js.isNull s then none
  else
    let field (name : String) : Option Json := Js.member name.toList s
    let text (v : Json) : Option CText := Js.toText E.numText v
    (text (Js.orElse (field "id") [])).bind fun sensorId =>
      (text (if Js.truthy (field "name") then (field "name").getD .null
        else Js.orElse (field "id") "sensor".toList)).bind fun name =>
        (sensorValue E (field "value") (field "unit")).bind fun value =>
          (text (Js.orElse (field "status") "unavailable".toList)).map fun status =>
            ⟨sensorId, name, value, ⟨status, status⟩⟩

/-- One chip of `renderWorkloads`. -/
def workloadChip (w : Json) : Option StatusText :=
  if Js.isNull w then none
  else
    (Js.toText E.numText (Js.orElse (Js.member "status".toList w) "unsupported".toList)).bind
      fun status =>
        (Js.toText E.numText (Js.orElse (Js.member "id".toList w) "workload".toList)).map fun id =>
          ⟨id ++ " · ".toList ++ status, status⟩

/-- `(data.name||[])` of which `forEach` is called; `none` is an exception. -/
def listOf (name : CText) (data : Json) : Option (List Json) :=
  if Js.isNull data then none
  else if Js.truthy (Js.member name data) then
    match Js.member name data with
    | some (.arr xs) => some xs
    | _ => none
  else some []

/-- The children a list panel ends with, and whether its renderer returns. -/
def renderList {α : Type} (name : CText) (child : Json → Option α) (data : Json) : List α × Bool :=
  match listOf name data with
  | none => ([], false)
  | some xs => appendAll (xs.map child)

/-- **`renderSensors`.** -/
def renderSensors (data : Json) : List SensorRow × Bool :=
  renderList "sensors".toList (sensorRow E) data

/-- **`renderWorkloads`.** -/
def renderWorkloads (data : Json) : List StatusText × Bool :=
  renderList "workloads".toList (workloadChip E) data

end Render

/-! ## 2. The script -/

/-- `ENDPOINTS`. -/
inductive Endpoint where
  | status | sensors | workloads
  deriving DecidableEq, Repr

def Endpoint.all : List Endpoint := [.status, .sensors, .workloads]

/-- How a poll ends: `fetch` or `res.text()` is rejected, `res.ok` is false, or there is a text. -/
inductive FetchOutcome where
  | rejected (message : CText)
  | http (status : Nat)
  | body (text : CText)
  deriving DecidableEq

/-- History: a poll that has come back. -/
structure Settled where
  endpoint : Endpoint
  outcome : FetchOutcome
  time : Nat
  deriving DecidableEq

/-- The page. -/
structure Dashboard where
  panel : StatusPanel
  sensorRows : List SensorRow
  workloadChips : List StatusText
  raw : Endpoint → CText
  /-- the notes; `none` is a hidden one -/
  note : Endpoint → Option CText
  freshness : StatusText
  /-- `last`; 0 stands for no member -/
  last : Endpoint → Nat
  /-- `Date.now()` -/
  now : Nat
  /-- the text of `identity` in the page as it was served -/
  served : CText
  /-- for each call of `pollAll` whose `updateFreshness` is to come, the polls that are not back -/
  batches : List (List Endpoint)
  /-- history: the polls that are back, and at the last `updateFreshness` the time and their number -/
  settled : List Settled
  refreshed : Option (Nat × Nat)

/-- What happens to the page. -/
inductive DashEvent where
  /-- the timer of `pollAll` -/
  | pollAll
  /-- a poll of this batch comes back -/
  | settle (batch : Nat) (endpoint : Endpoint) (outcome : FetchOutcome)
  /-- all polls of this batch are back -/
  | allSettled (batch : Nat)
  /-- the timer of `updateFreshness` -/
  | refresh
  /-- time goes on -/
  | tick (ms : Nat)

/-- `STALE_MS`. -/
def staleMs : Nat := 5000

section Script

variable (E : Engine)

/-- `JSON.stringify(data,null,2)`. -/
def rawText (data : Json) : CText := (Layout.indented escape 2).print E.numText 0 (Js.listed data)

/-- `renderers[name](data)`. -/
def Dashboard.render (s : Dashboard) (e : Endpoint) (data : Json) : Dashboard × Bool :=
  match e with
  | .status => ({ s with panel := (renderStatus E data s.panel).1 }, (renderStatus E data s.panel).2)
  | .sensors => ({ s with sensorRows := (renderSensors E data).1 }, (renderSensors E data).2)
  | .workloads => ({ s with workloadChips := (renderWorkloads E data).1 }, (renderWorkloads E data).2)

/-- `setError`. -/
def Dashboard.setError (s : Dashboard) (e : Endpoint) (message : Option CText) : Dashboard :=
  { s with note := Function.update s.note e message }

/-- The function that catches. -/
def Dashboard.caught (s : Dashboard) (e : Endpoint) (message : CText) : Dashboard :=
  s.setError e (some ("unreachable: ".toList ++ message))

/-- **The callbacks of a poll.** -/
def Dashboard.settle (s : Dashboard) (e : Endpoint) : FetchOutcome → Dashboard
  | .rejected message => s.caught e message
  | .http status => s.caught e ("HTTP ".toList ++ CText.decimal status)
  | .body text =>
    match jsonParse text with
    | none => s.caught e "malformed JSON".toList
    | some data =>
      let (s, returned) :=
        ({ s with raw := Function.update s.raw e (rawText E data) }).render E e data
      if returned then
        let s := s.setError e none
        { s with last := Function.update s.last e s.now }
      else s.caught e (E.typeError data)

/-- The badge at a time, of what `last` holds. -/
def freshnessAt (now : Nat) (last : Endpoint → Nat) : StatusText :=
  if Endpoint.all.all fun e => decide (last e = 0) then ⟨"unreachable".toList, "error".toList⟩
  else if Endpoint.all.any fun e => decide (last e = 0 ∨ 3 * staleMs < now - last e) then
    ⟨"stale".toList, "error".toList⟩
  else if Endpoint.all.any fun e => decide (staleMs < now - last e) then
    ⟨"stale".toList, "stale".toList⟩
  else ⟨"live".toList, "live".toList⟩

/-- `updateFreshness`. -/
def Dashboard.updateFreshness (s : Dashboard) : Dashboard :=
  { s with
    freshness := freshnessAt s.now s.last
    refreshed := some (s.now, s.settled.length) }

/-- One event. -/
def Dashboard.step (s : Dashboard) : DashEvent → Option Dashboard
  | .pollAll => some { s with batches := s.batches ++ [Endpoint.all] }
  | .settle i e outcome =>
    match s.batches[i]? with
    | none => none
    | some polls =>
      if e ∈ polls then
        some { s.settle E e outcome with
          batches := s.batches.set i (polls.erase e)
          settled := s.settled ++ [⟨e, outcome, s.now⟩] }
      else none
  | .allSettled i =>
    if s.batches[i]? = some [] then
      some { s.updateFreshness with batches := s.batches.eraseIdx i }
    else none
  | .refresh => some s.updateFreshness
  | .tick ms => some { s with now := s.now + ms }

/-- The page behind its first call of `pollAll`; the firmware is in the text it is served with. -/
def Dashboard.initial (served : CText) (now : Nat) : Dashboard where
  panel := ⟨[], ⟨"ABSENT".toList, "unsupported".toList⟩, ⟨"ABSENT".toList, "unsupported".toList⟩,
    served⟩
  sensorRows := []
  workloadChips := []
  raw _ := "unavailable".toList
  note _ := none
  freshness := ⟨"connecting…".toList, "connecting".toList⟩
  last _ := 0
  now := now
  served := served
  batches := [Endpoint.all]
  settled := []
  refreshed := none

/-- **The dashboard**, loaded at some time behind 1970; the clock is not set back. -/
def dashboard : System Dashboard DashEvent where
  init s := ∃ served now, 0 < now ∧ s = .initial served now
  step := Dashboard.step E

end Script

/-! ## 3. The page as a function of the answers -/

section Writes

variable (E : Engine)

/-- What was parsed. -/
def Settled.data (x : Settled) : Option Json :=
  match x.outcome with
  | .body text => jsonParse text
  | .rejected _ | .http _ => none

/-- What was parsed of an endpoint. -/
def Settled.dataOf (e : Endpoint) (x : Settled) : Option Json := if x.endpoint = e then x.data else none

/-- The tiles a status leaves. -/
def tilesLeft (data : Json) : List MetricTile :=
  if Js.isNull data then [] else (appendAll (statusTiles E data)).1

/-- Whether all tiles of a status can be made. -/
def tilesMade (data : Json) : Bool := !Js.isNull data && (appendAll (statusTiles E data)).2

/-- Whether the renderer of an endpoint returns. -/
def returns (data : Json) : Endpoint → Bool
  | .status => tilesMade E data && (identityText E data).isSome
  | .sensors => (renderSensors E data).2
  | .workloads => (renderWorkloads E data).2

/-- Why a poll is not shown; `none` when it is. -/
def Settled.failure (x : Settled) : Option CText :=
  match x.outcome with
  | .rejected message => some message
  | .http status => some ("HTTP ".toList ++ CText.decimal status)
  | .body text =>
    match jsonParse text with
    | none => some "malformed JSON".toList
    | some data => if returns E data x.endpoint then none else some (E.typeError data)

/-- What an answer writes into the raw view of an endpoint. -/
def writesRaw (e : Endpoint) (x : Settled) : Option CText := (x.dataOf e).map (rawText E)

def writesTiles (x : Settled) : Option (List MetricTile) := (x.dataOf .status).map (tilesLeft E)

/-- What it writes into the field of a capability. -/
def writesCapability (name : CText) (x : Settled) : Option StatusText :=
  (x.dataOf .status).bind fun data =>
    if tilesMade E data then capability (Js.member name data) else none

def writesIdentity (x : Settled) : Option CText :=
  (x.dataOf .status).bind fun data => if tilesMade E data then identityText E data else none

def writesSensors (x : Settled) : Option (List SensorRow) :=
  (x.dataOf .sensors).map fun data => (renderSensors E data).1

def writesWorkloads (x : Settled) : Option (List StatusText) :=
  (x.dataOf .workloads).map fun data => (renderWorkloads E data).1

/-- What it writes into the note of an endpoint: a failure is shown, a success hides it. -/
def writesNote (e : Endpoint) (x : Settled) : Option (Option CText) :=
  if x.endpoint = e then some ((x.failure E).map fun why => "unreachable: ".toList ++ why) else none

def writesLast (e : Endpoint) (x : Settled) : Option Nat :=
  if x.endpoint = e ∧ x.failure E = none then some x.time else none

/-- When an endpoint was last shown, by these answers; 0 when it never was. -/
def lastShown (log : List Settled) (e : Endpoint) : Nat := (lastBy (writesLast E e) log).getD 0

/-- **Every part of the page is what the last answer that concerns it has left there**, the badge of
    the answers that were back at its last update. -/
structure Reflects (s : Dashboard) : Prop where
  raw : ∀ e, s.raw e = (lastBy (writesRaw E e) s.settled).getD "unavailable".toList
  tiles : s.panel.tiles = (lastBy (writesTiles E) s.settled).getD []
  heater : s.panel.heater = (lastBy (writesCapability E "heater_capability".toList) s.settled).getD
    ⟨"ABSENT".toList, "unsupported".toList⟩
  fan : s.panel.fan = (lastBy (writesCapability E "fan_control_capability".toList) s.settled).getD
    ⟨"ABSENT".toList, "unsupported".toList⟩
  identity : s.panel.identity = (lastBy (writesIdentity E) s.settled).getD s.served
  sensors : s.sensorRows = (lastBy (writesSensors E) s.settled).getD []
  workloads : s.workloadChips = (lastBy (writesWorkloads E) s.settled).getD []
  note : ∀ e, s.note e = (lastBy (writesNote E e) s.settled).getD none
  last : s.last = lastShown E s.settled
  freshness : s.freshness = match s.refreshed with
    | none => ⟨"connecting…".toList, "connecting".toList⟩
    | some (t, k) => freshnessAt t (lastShown E (s.settled.take k))

/-- The answers carry the times at which they came back. -/
structure Timed (s : Dashboard) : Prop where
  positive : 0 < s.now
  ordered : s.settled.Pairwise fun x y => x.time ≤ y.time
  times : ∀ x ∈ s.settled, 0 < x.time ∧ x.time ≤ s.now
  refreshed : ∀ t k, s.refreshed = some (t, k) →
    t ≤ s.now ∧ k ≤ s.settled.length ∧ ∀ x ∈ s.settled.take k, x.time ≤ t

end Writes

/-! ## 4. The steps -/

section Steps

variable {E : Engine} {s s' : Dashboard}

/-- `renderStatus`, part by part. -/
theorem renderStatus_effect (data : Json) (p : StatusPanel) :
    (renderStatus E data p).1.tiles = tilesLeft E data ∧
    (renderStatus E data p).1.heater = (if tilesMade E data then
      capability (Js.member "heater_capability".toList data) else none).getD p.heater ∧
    (renderStatus E data p).1.fan = (if tilesMade E data then
      capability (Js.member "fan_control_capability".toList data) else none).getD p.fan ∧
    (renderStatus E data p).1.identity =
      (if tilesMade E data then identityText E data else none).getD p.identity ∧
    (renderStatus E data p).2 = returns E data .status := by
  unfold renderStatus tilesLeft returns
  cases hn : Js.isNull data with
  | true => simp [tilesMade, hn]
  | false =>
      cases ha : (appendAll (statusTiles E data)).2 with
      | false => simp [tilesMade, hn, ha]
      | true =>
          cases identityText E data with
          | none => simp [tilesMade, hn, ha]
          | some identity => simp [tilesMade, hn, ha]

/-- **What an answer does to the page**: it writes what it writes. -/
structure Written (E : Engine) (s s' : Dashboard) (x : Settled) : Prop where
  raw : ∀ e, s'.raw e = (writesRaw E e x).getD (s.raw e)
  tiles : s'.panel.tiles = (writesTiles E x).getD s.panel.tiles
  heater : s'.panel.heater = (writesCapability E "heater_capability".toList x).getD s.panel.heater
  fan : s'.panel.fan = (writesCapability E "fan_control_capability".toList x).getD s.panel.fan
  identity : s'.panel.identity = (writesIdentity E x).getD s.panel.identity
  sensors : s'.sensorRows = (writesSensors E x).getD s.sensorRows
  workloads : s'.workloadChips = (writesWorkloads E x).getD s.workloadChips
  note : ∀ e, s'.note e = (writesNote E e x).getD (s.note e)
  last : ∀ e, s'.last e = (writesLast E e x).getD (s.last e)
  frame : s'.freshness = s.freshness ∧ s'.now = s.now ∧ s'.refreshed = s.refreshed ∧
    s'.served = s.served

/-- What the note becomes. -/
theorem update_note (x : Settled) (message : Option CText)
    (hm : message = (x.failure E).map fun why => "unreachable: ".toList ++ why) (e : Endpoint) :
    Function.update s.note x.endpoint message e = (writesNote E e x).getD (s.note e) := by
  unfold writesNote
  rw [Function.update_apply]
  by_cases h : x.endpoint = e
  · rw [if_pos h, if_pos h.symm, hm]
    rfl
  · rw [if_neg h, if_neg fun h' => h h'.symm]
    rfl

/-- A failure leaves the time of the last success. -/
theorem writesLast_failed {x : Settled} (hf : x.failure E ≠ none) (e : Endpoint) :
    writesLast E e x = none := if_neg fun h => hf h.2

/-- An answer that is no JSON writes into the note only. -/
theorem caught_written {x : Settled} {why : CText} (hdata : x.data = none)
    (hf : x.failure E = some why) : Written E s (s.caught x.endpoint why) x := by
  have hof : ∀ e, x.dataOf e = none := fun e => by
    unfold Settled.dataOf
    rw [hdata, ite_self]
  have hlast := writesLast_failed (E := E) (x := x) (by rw [hf]; exact Option.some_ne_none why)
  refine ⟨fun e => ?_, ?_, ?_, ?_, ?_, ?_, ?_, fun e => ?_, fun e => ?_, rfl, rfl, rfl, rfl⟩
  · rw [writesRaw, hof]
    rfl
  · rw [writesTiles, hof]
    rfl
  · rw [writesCapability, hof]
    rfl
  · rw [writesCapability, hof]
    rfl
  · rw [writesIdentity, hof]
    rfl
  · rw [writesSensors, hof]
    rfl
  · rw [writesWorkloads, hof]
    rfl
  · exact update_note x _ (by rw [hf]; rfl) e
  · rw [hlast]
    rfl

/-- **A renderer** writes the panel of its endpoint, and nothing else. -/
structure Rendered (E : Engine) (s : Dashboard) (x : Settled) (r : Dashboard × Bool) : Prop where
  tiles : r.1.panel.tiles = (writesTiles E x).getD s.panel.tiles
  heater : r.1.panel.heater = (writesCapability E "heater_capability".toList x).getD s.panel.heater
  fan : r.1.panel.fan = (writesCapability E "fan_control_capability".toList x).getD s.panel.fan
  identity : r.1.panel.identity = (writesIdentity E x).getD s.panel.identity
  sensors : r.1.sensorRows = (writesSensors E x).getD s.sensorRows
  workloads : r.1.workloadChips = (writesWorkloads E x).getD s.workloadChips
  frame : r.1.raw = s.raw ∧ r.1.note = s.note ∧ r.1.last = s.last ∧ r.1.freshness = s.freshness ∧
    r.1.now = s.now ∧ r.1.refreshed = s.refreshed ∧ r.1.served = s.served

theorem render_rendered {x : Settled} {data : Json} (hdata : x.data = some data) :
    Rendered E s x (s.render E x.endpoint data) ∧
      (s.render E x.endpoint data).2 = returns E data x.endpoint := by
  obtain ⟨e, outcome, time⟩ := x
  have hof : ∀ e', Settled.dataOf e' ⟨e, outcome, time⟩ = if e = e' then some data else none := by
    intro e'
    unfold Settled.dataOf
    rw [hdata]
  obtain ⟨h1, h2, h3, h4, h5⟩ := renderStatus_effect (E := E) data s.panel
  unfold Dashboard.render
  cases e with
  | status =>
      refine ⟨⟨?_, ?_, ?_, ?_, ?_, ?_, rfl, rfl, rfl, rfl, rfl, rfl, rfl⟩, h5⟩
      · rw [writesTiles, hof]
        exact h1
      · rw [writesCapability, hof]
        exact h2
      · rw [writesCapability, hof]
        exact h3
      · rw [writesIdentity, hof]
        exact h4
      · rw [writesSensors, hof]
        rfl
      · rw [writesWorkloads, hof]
        rfl
  | sensors | workloads =>
      refine ⟨⟨?_, ?_, ?_, ?_, ?_, ?_, rfl, rfl, rfl, rfl, rfl, rfl, rfl⟩, rfl⟩
      · rw [writesTiles, hof]
        rfl
      · rw [writesCapability, hof]
        rfl
      · rw [writesCapability, hof]
        rfl
      · rw [writesIdentity, hof]
        rfl
      · rw [writesSensors, hof]
        rfl
      · rw [writesWorkloads, hof]
        rfl

/-- **An answer that is JSON** writes the raw view, the panel, and the note or the time. -/
theorem body_written (e : Endpoint) {text : CText} {data : Json} (hj : jsonParse text = some data) :
    Written E s (s.settle E e (.body text)) ⟨e, .body text, s.now⟩ := by
  have hdata : Settled.data ⟨e, .body text, s.now⟩ = some data := hj
  have hraw : ∀ e', Function.update s.raw e (rawText E data) e' =
      (writesRaw E e' ⟨e, .body text, s.now⟩).getD (s.raw e') := by
    intro e'
    rw [Function.update_apply, writesRaw, Settled.dataOf, hdata]
    by_cases h : e = e'
    · rw [if_pos h.symm, if_pos h]
      rfl
    · rw [if_neg fun h' => h h'.symm, if_neg h]
      rfl
  obtain ⟨R, hret⟩ := render_rendered (E := E)
    (s := { s with raw := Function.update s.raw e (rawText E data) }) hdata
  have hfailure : Settled.failure E ⟨e, .body text, s.now⟩ =
      if returns E data e then none else some (E.typeError data) := by
    simp only [Settled.failure, hj]
  simp only [Dashboard.settle, hj]
  generalize ({ s with raw := Function.update s.raw e (rawText E data) } : Dashboard).render E e data =
    r at R hret ⊢
  obtain ⟨r, returned⟩ := r
  obtain ⟨fraw, fnote, flast, ffresh, fnow, frefreshed, fserved⟩ := R.frame
  cases hr : returns E data e with
  | true =>
      rw [hr, if_pos rfl] at hfailure
      rw [if_pos (hret.trans hr)]
      refine ⟨fun e' => ?_, R.tiles, R.heater, R.fan, R.identity, R.sensors, R.workloads,
        fun e' => ?_, fun e' => ?_, ffresh, fnow, frefreshed, fserved⟩
      · exact (congrFun fraw e').trans (hraw e')
      · have hnote := update_note (E := E) (s := s) ⟨e, .body text, s.now⟩ none
          (by rw [hfailure]; rfl) e'
        rw [← hnote]
        exact congrFun (congrArg (fun f => Function.update f e none) fnote) e'
      · have hlast : Function.update r.last e r.now e' = Function.update s.last e s.now e' :=
          congrFun (congrArg₂ (fun f n => Function.update f e n) flast fnow) e'
        refine hlast.trans ?_
        rw [Function.update_apply, writesLast, hfailure]
        by_cases h : e = e'
        · rw [if_pos h.symm, if_pos ⟨h, rfl⟩]
          rfl
        · rw [if_neg fun h' => h h'.symm, if_neg fun h' => h h'.1]
          rfl
  | false =>
      rw [hr, if_neg Bool.false_ne_true] at hfailure
      rw [if_neg (by rw [hret.trans hr]; exact Bool.false_ne_true)]
      refine ⟨fun e' => ?_, R.tiles, R.heater, R.fan, R.identity, R.sensors, R.workloads,
        fun e' => ?_, fun e' => ?_, ffresh, fnow, frefreshed, fserved⟩
      · exact (congrFun fraw e').trans (hraw e')
      · have hnote := update_note (E := E) (s := s) ⟨e, .body text, s.now⟩
          (some ("unreachable: ".toList ++ E.typeError data)) (by rw [hfailure]; rfl) e'
        rw [← hnote]
        exact congrFun (congrArg (fun f => Function.update f e _) fnote) e'
      · rw [writesLast_failed (by rw [hfailure]; exact Option.some_ne_none _)]
        exact congrFun flast e'

/-- **The callbacks of a poll** write what its answer writes. -/
theorem settle_written (s : Dashboard) (e : Endpoint) (outcome : FetchOutcome) :
    Written E s (s.settle E e outcome) ⟨e, outcome, s.now⟩ := by
  cases outcome with
  | rejected message => exact caught_written (x := ⟨e, .rejected message, s.now⟩) rfl rfl
  | http status => exact caught_written (x := ⟨e, .http status, s.now⟩) rfl rfl
  | body text =>
      cases hj : jsonParse text with
      | some data => exact body_written e hj
      | none =>
          have hf : Settled.failure E ⟨e, .body text, s.now⟩ = some "malformed JSON".toList := by
            simp only [Settled.failure, hj]
          simp only [Dashboard.settle, hj]
          exact caught_written (x := ⟨e, .body text, s.now⟩) hj hf

/-- One more answer. -/
theorem reflects_settle (I : Reflects E s) (T : Timed s) (e : Endpoint) (outcome : FetchOutcome)
    (batches : List (List Endpoint)) :
    Reflects E { s.settle E e outcome with
      batches := batches
      settled := s.settled ++ [⟨e, outcome, s.now⟩] } := by
  have W := settle_written (E := E) s e outcome
  refine ⟨fun e' => ?_, ?_, ?_, ?_, ?_, ?_, ?_, fun e' => ?_, funext fun e' => ?_, ?_⟩
  · rw [getD_concat, ← I.raw e']
    exact W.raw e'
  · rw [getD_concat, ← I.tiles]
    exact W.tiles
  · rw [getD_concat, ← I.heater]
    exact W.heater
  · rw [getD_concat, ← I.fan]
    exact W.fan
  · obtain ⟨-, -, -, hserved⟩ := W.frame
    show _ = (lastBy (writesIdentity E) _).getD (s.settle E e outcome).served
    rw [hserved, getD_concat, ← I.identity]
    exact W.identity
  · rw [getD_concat, ← I.sensors]
    exact W.sensors
  · rw [getD_concat, ← I.workloads]
    exact W.workloads
  · rw [getD_concat, ← I.note e']
    exact W.note e'
  · rw [lastShown, getD_concat]
    refine (W.last e').trans ?_
    rw [I.last]
    rfl
  · obtain ⟨hfresh, -, hrefreshed, -⟩ := W.frame
    show (s.settle E e outcome).freshness = _
    rw [hfresh, I.freshness]
    dsimp only
    rw [hrefreshed]
    cases hr : s.refreshed with
    | none => rfl
    | some tk =>
        obtain ⟨t, k⟩ := tk
        dsimp only
        rw [List.take_append_of_le_length (T.refreshed t k hr).2.1]

/-- An update of the badge. -/
theorem reflects_refresh (I : Reflects E s) (batches : List (List Endpoint)) :
    Reflects E { s.updateFreshness with batches := batches } := by
  refine ⟨I.raw, I.tiles, I.heater, I.fan, I.identity, I.sensors, I.workloads, I.note, I.last, ?_⟩
  show freshnessAt s.now s.last = freshnessAt s.now (lastShown E (s.settled.take s.settled.length))
  rw [List.take_length, I.last]

theorem timed_refresh (T : Timed s) (batches : List (List Endpoint)) :
    Timed { s.updateFreshness with batches := batches } := by
  refine ⟨T.positive, T.ordered, T.times, fun t k h => ?_⟩
  cases h
  exact ⟨le_rfl, le_rfl, fun x hx => (T.times x (List.mem_of_mem_take hx)).2⟩

/-- **A step keeps both.** -/
theorem reflects_step (I : Reflects E s) (T : Timed s) {a : DashEvent} (h : s.step E a = some s') :
    Reflects E s' ∧ Timed s' := by
  cases a with
  | pollAll =>
      cases h
      exact ⟨⟨I.raw, I.tiles, I.heater, I.fan, I.identity, I.sensors, I.workloads, I.note, I.last,
        I.freshness⟩, ⟨T.positive, T.ordered, T.times, T.refreshed⟩⟩
  | refresh =>
      cases h
      exact ⟨reflects_refresh I s.batches, timed_refresh T s.batches⟩
  | tick ms =>
      cases h
      refine ⟨⟨I.raw, I.tiles, I.heater, I.fan, I.identity, I.sensors, I.workloads, I.note, I.last,
        I.freshness⟩, ⟨Nat.add_pos_left T.positive ms, T.ordered, fun x hx => ?_, fun t k hr => ?_⟩⟩
      · exact ⟨(T.times x hx).1, Nat.le_add_right_of_le (T.times x hx).2⟩
      · obtain ⟨h1, h2, h3⟩ := T.refreshed t k hr
        exact ⟨Nat.le_add_right_of_le h1, h2, h3⟩
  | allSettled i =>
      simp only [Dashboard.step] at h
      split_ifs at h
      cases h
      exact ⟨reflects_refresh I _, timed_refresh T _⟩
  | settle i e outcome =>
      simp only [Dashboard.step] at h
      split at h
      · cases h
      · split_ifs at h
        cases h
        refine ⟨reflects_settle I T e outcome _, ?_⟩
        obtain ⟨-, hnow, hrefreshed, -⟩ := (settle_written (E := E) s e outcome).frame
        refine ⟨?_, ?_, fun x hx => ?_, fun t k hr => ?_⟩
        · show 0 < (s.settle E e outcome).now
          rw [hnow]
          exact T.positive
        · refine List.pairwise_append.mpr ⟨T.ordered, List.pairwise_singleton _ _, fun x hx y hy => ?_⟩
          rw [List.mem_singleton.mp hy]
          exact (T.times x hx).2
        · show 0 < x.time ∧ x.time ≤ (s.settle E e outcome).now
          rw [hnow]
          rcases List.mem_append.mp hx with hx | hx
          · exact T.times x hx
          · rw [List.mem_singleton.mp hx]
            exact ⟨T.positive, le_rfl⟩
        · obtain ⟨h1, h2, h3⟩ := T.refreshed t k (hrefreshed.symm.trans hr)
          refine ⟨?_, ?_, fun x hx => ?_⟩
          · show t ≤ (s.settle E e outcome).now
            rw [hnow]
            exact h1
          · rw [List.length_append]
            exact Nat.le_add_right_of_le h2
          · rw [List.take_append_of_le_length h2] at hx
            exact h3 x hx

/-- **The page is a function of the answers**, in every reachable state. -/
theorem reflects_reach (h : Reach (dashboard E) Always s) : Reflects E s ∧ Timed s := by
  refine h.inv (I := fun s => Reflects E s ∧ Timed s) ?_ ?_
  · rintro s ⟨served, now, hnow, rfl⟩
    exact ⟨⟨fun _ => rfl, rfl, rfl, rfl, rfl, rfl, rfl, fun _ => rfl, rfl, rfl⟩,
      ⟨hnow, List.Pairwise.nil, fun x hx => absurd hx List.not_mem_nil, fun t k hr => by cases hr⟩⟩
  · rintro s a s' - ⟨I, T⟩ - hs
    exact reflects_step I T hs

end Steps

/-! ## 5. What the page means -/

section Meaning

variable {E : Engine} {s : Dashboard}

theorem forall_endpoint {p : Endpoint → Prop} [DecidablePred p] :
    (Endpoint.all.all fun e => decide (p e)) = true ↔ ∀ e, p e := by
  rw [List.all_eq_true]
  exact ⟨fun h e => of_decide_eq_true (h e (by cases e <;> decide)), fun h e _ => decide_eq_true (h e)⟩

theorem exists_endpoint {p : Endpoint → Prop} [DecidablePred p] :
    (Endpoint.all.any fun e => decide (p e)) = true ↔ ∃ e, p e := by
  rw [List.any_eq_true]
  exact ⟨fun ⟨e, _, h⟩ => ⟨e, of_decide_eq_true h⟩,
    fun ⟨e, h⟩ => ⟨e, by cases e <;> decide, decide_eq_true h⟩⟩

/-- The badge is "live" when all three endpoints were shown a short time ago. -/
theorem freshnessAt_live {now : Nat} {last : Endpoint → Nat} :
    (freshnessAt now last).text = "live".toList ↔ ∀ e, last e ≠ 0 ∧ now ≤ last e + staleMs := by
  unfold freshnessAt
  split_ifs with hall hold hstale
  · exact iff_of_false (by decide) fun h => (h .status).1 (forall_endpoint.mp hall .status)
  · refine iff_of_false (by decide) fun h => ?_
    obtain ⟨e, he⟩ := exists_endpoint.mp hold
    have := h e
    omega
  · refine iff_of_false (by decide) fun h => ?_
    obtain ⟨e, he⟩ := exists_endpoint.mp hstale
    have := h e
    omega
  · refine iff_of_true rfl fun e => ?_
    have h1 : ¬(last e = 0 ∨ 3 * staleMs < now - last e) := fun h => hold (exists_endpoint.mpr ⟨e, h⟩)
    have h2 : ¬staleMs < now - last e := fun h => hstale (exists_endpoint.mpr ⟨e, h⟩)
    omega

/-- It is "unreachable" when none was ever shown. -/
theorem freshnessAt_unreachable {now : Nat} {last : Endpoint → Nat} :
    (freshnessAt now last).text = "unreachable".toList ↔ ∀ e, last e = 0 := by
  unfold freshnessAt
  split_ifs with hall hold hstale
  · exact iff_of_true rfl (forall_endpoint.mp hall)
  · exact iff_of_false (by decide) fun h => hall (forall_endpoint.mpr h)
  · exact iff_of_false (by decide) fun h => hall (forall_endpoint.mpr h)
  · exact iff_of_false (by decide) fun h => hall (forall_endpoint.mpr h)

/-- It is an error when one was not shown for a long time. -/
theorem freshnessAt_error {now : Nat} {last : Endpoint → Nat} :
    (freshnessAt now last).status = "error".toList ↔
      ∃ e, ¬(last e ≠ 0 ∧ now ≤ last e + 3 * staleMs) := by
  unfold freshnessAt
  split_ifs with hall hold hstale
  · exact iff_of_true rfl ⟨.status, fun h => h.1 (forall_endpoint.mp hall .status)⟩
  · obtain ⟨e, he⟩ := exists_endpoint.mp hold
    exact iff_of_true rfl ⟨e, fun h => by omega⟩
  · exact iff_of_false (by decide) fun ⟨e, he⟩ => hold (exists_endpoint.mpr ⟨e, by omega⟩)
  · exact iff_of_false (by decide) fun ⟨e, he⟩ => hold (exists_endpoint.mpr ⟨e, by omega⟩)

/-- **An endpoint shown within some time**, by the times the answers carry. -/
theorem shown_within {log : List Settled} (hord : log.Pairwise fun x y => x.time ≤ y.time)
    (hpos : ∀ x ∈ log, 0 < x.time) (e : Endpoint) (t within : Nat) :
    (lastShown E log e ≠ 0 ∧ t ≤ lastShown E log e + within) ↔
      ∃ x ∈ log, x.endpoint = e ∧ x.failure E = none ∧ t ≤ x.time + within := by
  constructor
  · rintro ⟨hne, hle⟩
    unfold lastShown at hne hle
    cases hl : lastBy (writesLast E e) log with
    | none =>
        rw [hl] at hne
        exact absurd rfl hne
    | some time =>
        obtain ⟨x, hx, hw⟩ := lastBy_some hl
        rw [hl] at hle
        unfold writesLast at hw
        split_ifs at hw with hc
        cases hw
        exact ⟨x, hx, hc.1, hc.2, hle⟩
  · rintro ⟨x, hx, he, hf, ht⟩
    have hw : writesLast E e x = some x.time := if_pos ⟨he, hf⟩
    have hgrow : log.Pairwise fun y z =>
        ∀ b ∈ writesLast E e y, ∀ c ∈ writesLast E e z, b ≤ c := by
      refine hord.imp fun {y z} hyz b hb c hc => ?_
      unfold writesLast at hb hc
      split_ifs at hb
      · split_ifs at hc
        · cases hb
          cases hc
          exact hyz
        · exact absurd hc (Option.not_mem_none c)
      · exact absurd hb (Option.not_mem_none b)
    obtain ⟨c, hc, hle⟩ := le_lastBy hgrow hx hw
    have := hpos x hx
    unfold lastShown
    rw [hc]
    show c ≠ 0 ∧ t ≤ c + within
    omega

/-- **The dashboard tells the truth about its polls**, in whatever order they come back. Every part
    of the page is what the last answer that concerns it has left there, a note is hidden exactly
    when the last answer of its endpoint could be shown, and the badge, at its last update, has told
    whether every endpoint was shown within the last five seconds, within the last fifteen, or
    none of them ever. -/
theorem dashboard_honest (h : Reach (dashboard E) Always s) :
    Reflects E s ∧
    (∀ e x, lastBy (fun y => if y.endpoint = e then some y else none) s.settled = some x →
      s.note e = (x.failure E).map fun why => "unreachable: ".toList ++ why) ∧
    ∀ t k, s.refreshed = some (t, k) →
      (s.freshness.text = "live".toList ↔ ∀ e, ∃ x ∈ s.settled.take k,
        x.endpoint = e ∧ x.failure E = none ∧ t ≤ x.time + staleMs) ∧
      (s.freshness.status = "error".toList ↔ ∃ e, ∀ x ∈ s.settled.take k,
        x.endpoint = e → x.failure E = none → x.time + 3 * staleMs < t) ∧
      (s.freshness.text = "unreachable".toList ↔ ∀ x ∈ s.settled.take k, x.failure E ≠ none) := by
  obtain ⟨I, T⟩ := reflects_reach h
  refine ⟨I, fun e x hx => ?_, fun t k hr => ?_⟩
  · -- a note is the last answer of its endpoint, read for its failure
    have hmap : writesNote E e = fun y => (if y.endpoint = e then some y else none).map
        fun y => (y.failure E).map fun why => "unreachable: ".toList ++ why := by
      funext y
      unfold writesNote
      split_ifs <;> rfl
    rw [I.note e, hmap, lastBy_map, hx]
    rfl
  · have hord := T.ordered.sublist (List.take_sublist k s.settled)
    have hpos : ∀ x ∈ s.settled.take k, 0 < x.time := fun x hx =>
      (T.times x (List.mem_of_mem_take hx)).1
    have hold := (T.refreshed t k hr).2.2
    have hfresh : s.freshness = freshnessAt t (lastShown E (s.settled.take k)) := by
      rw [I.freshness, hr]
    rw [hfresh]
    refine ⟨?_, ?_, ?_⟩
    · rw [freshnessAt_live]
      exact forall_congr' fun e => shown_within hord hpos e t staleMs
    · rw [freshnessAt_error]
      refine exists_congr fun e => ?_
      rw [shown_within hord hpos e t (3 * staleMs)]
      simp only [not_exists, not_and, not_le]
    · rw [freshnessAt_unreachable]
      constructor
      · intro hnone x hx hf
        have hle : t ≤ x.time + t := Nat.le_add_left t x.time
        exact ((shown_within hord hpos x.endpoint t t).mpr ⟨x, hx, rfl, hf, hle⟩).1 (hnone _)
      · intro hfail e
        by_contra hne
        obtain ⟨x, hx, -, hf, -⟩ :=
          (shown_within (E := E) hord hpos e t t).mp ⟨hne, Nat.le_add_left t _⟩
        exact hfail x hx hf

/-- A browser that writes whole numbers. -/
def plainEngine : Engine where
  numText q := intText q.num
  typeError _ := "TypeError".toList

/-- What a page is served with. -/
def benchIdentity : CText := "Target: esp32s3-n8r8 · Firmware: —".toList

/-- The second round of polls is back before the first, of which one poll then fails and the others
    are read, one of them with a panel that throws at its second chip. -/
def overtaken : List DashEvent :=
  [.tick 2000, .pollAll, .settle 1 .status (.body "\x7b\"run_state\":\"RUNNING\"\x7d".toList),
    .settle 1 .sensors (.body "\x7b\"sensors\":[]\x7d".toList),
    .settle 1 .workloads (.body "\x7b\"workloads\":[]\x7d".toList), .allSettled 1, .tick 16000,
    .settle 0 .status (.http 503),
    .settle 0 .workloads (.body "\x7b\"workloads\":[\x7b\"id\":\"IDLE\"\x7d,null]\x7d".toList),
    .settle 0 .sensors (.body "\x7b\"sensors\":[\x7b\"id\":\"t\",\"value\":21\x7d]\x7d".toList),
    .refresh]

set_option maxRecDepth 20000 in
theorem dashboard_honest_overtaken :
    ∃ s, (dashboard plainEngine).exec (.initial benchIdentity 1000) overtaken = some s ∧
      (s.note .status = some "unreachable: HTTP 503".toList ∧
        s.note .workloads = some "unreachable: TypeError".toList ∧ s.note .sensors = none ∧
        s.workloadChips = [⟨"IDLE · unsupported".toList, "unsupported".toList⟩] ∧
        s.freshness = ⟨"stale".toList, "error".toList⟩) ∧
      Reflects plainEngine s ∧
      (s.freshness.status = "error".toList ↔ ∃ e, ∀ x ∈ s.settled.take 6,
        x.endpoint = e → x.failure plainEngine = none → x.time + 3 * staleMs < 19000) := by
  have hx : ((dashboard plainEngine).exec (.initial benchIdentity 1000) overtaken).any (fun s =>
      decide (s.note .status = some "unreachable: HTTP 503".toList ∧
        s.note .workloads = some "unreachable: TypeError".toList ∧ s.note .sensors = none ∧
        s.workloadChips = [⟨"IDLE · unsupported".toList, "unsupported".toList⟩] ∧
        s.freshness = ⟨"stale".toList, "error".toList⟩) && decide (s.refreshed = some (19000, 6))) =
      true := by decide +kernel
  obtain ⟨s, hs, hp⟩ := (Option.any_eq_true _ _).mp hx
  obtain ⟨hview, hr⟩ := Bool.and_eq_true_iff.mp hp
  have hreach : Reach (dashboard plainEngine) Always s :=
    reach_exec (.start ⟨_, 1000, by decide, rfl⟩) hs
  obtain ⟨I, -, hbadge⟩ := dashboard_honest hreach
  exact ⟨s, hs, of_decide_eq_true hview, I, (hbadge _ _ (of_decide_eq_true hr)).2.1⟩

end Meaning

end DragonBench
