/-
  File:      DragonBench/Credentials.lean
  Subject:   Station credentials: what `network_sta_post` takes, what `configure_sta` makes of it
             for the radio, and what NVS keeps of it.

  Each `nvs_set_str` that succeeds may become durable on its own, at any later time; `nvs_commit`
  makes both durable at the latest. A loss of power takes what is not durable.

  * `staRequest` -- the credentials of a request body, `staRequest_some` -- what they meet;
  * `configureSta` -- the configuration `esp_wifi_set_config` is given;
  * `Nvs`, `saveStep` -- the two keys, `nvs_save_sta` one call at a time;
  * `nvsLoadSta` -- what the next boot reads of them.
-/
import DragonBench.RunsPost

namespace DragonBench

/-! ## 1. Requests -/

/-- `sta_credentials_t`. -/
structure StaCredentials where
  requestId : Nat
  ssid : CText
  password : CText
  deriving DecidableEq, Repr

/-- The sizes of `sta_credentials_t.ssid` and `sta_ssid`. -/
def staSsidLen : Nat := 33

/-- The size of `sta_credentials_t.password`. -/
def staPasswordLen : Nat := 65

/-- A record after `memset`. -/
def StaCredentials.zero : StaCredentials := ⟨0, [], []⟩

/-- The ssid and the password of a body `network_sta_post` finds valid. -/
def staRequest (body : Option Json) : Option (CText × CText) :=
  let password := ((bodyItem body "password".toList).bind valuestring).getD []
  match (bodyItem body "ssid".toList).bind valuestring with
  | none => none
  | some ssid =>
    if ssid ≠ [] ∧ ssid.length < 32 ∧ (password = [] ∨ password.length ≥ 8) ∧
        password.length < 64 then some (ssid, password)
    else none

/-- What `network_sta_post` puts into the queue. -/
def credentials (requestId : Nat) (ssid password : CText) : StaCredentials where
  requestId := requestId
  ssid := CText.snprintf staSsidLen ssid
  password := CText.snprintf staPasswordLen password

/-- A password `network_sta_post` takes. -/
def ValidPassword (password : CText) : Prop :=
  (password = [] ∨ 8 ≤ password.length) ∧ password.length < 64

/-- What is valid was read, and the limits hold. -/
theorem staRequest_read {body : Option Json} {ssid password : CText}
    (h : staRequest body = some (ssid, password)) :
    (bodyItem body "ssid".toList).bind valuestring = some ssid ∧
      ssid ≠ [] ∧ ssid.length < 32 ∧ ValidPassword password := by
  unfold staRequest at h
  dsimp only at h
  split at h
  · cases h
  · rename_i s hs
    rw [Option.ite_none_right_eq_some] at h
    obtain ⟨⟨hne, hlen, hp, hpl⟩, h⟩ := h
    cases h
    exact ⟨hs, hne, hlen, hp, hpl⟩

/-- **What valid credentials meet.** -/
theorem staRequest_some {body : Option Json} {ssid password : CText}
    (h : staRequest body = some (ssid, password)) :
    ssid ≠ [] ∧ ssid.length < 32 ∧ ValidPassword password := (staRequest_read h).2

/-- The queue keeps them whole. -/
theorem credentials_whole {body : Option Json} {ssid password : CText} (id : Nat)
    (h : staRequest body = some (ssid, password)) :
    credentials id ssid password = ⟨id, ssid, password⟩ := by
  obtain ⟨-, hs, -, hp⟩ := staRequest_some h
  unfold credentials
  rw [CText.snprintf_of_lt (Nat.lt_trans hs (by decide)),
    CText.snprintf_of_lt (Nat.lt_trans hp (by decide))]

/-! ## 2. The radio configuration -/

/-- `wifi_auth_mode_t`, as far as `configure_sta` sets it. -/
inductive WifiAuth where
  | openNetwork | wpa2Psk
  deriving DecidableEq, Repr

/-- The station part of `wifi_config_t`. -/
structure WifiConfig where
  ssid : CText
  password : CText
  authmode : WifiAuth
  deriving DecidableEq, Repr

/-- `wifi_config_t sta = {0}`. -/
def WifiConfig.zero : WifiConfig := ⟨[], [], .openNetwork⟩

/-- `configure_sta` up to `esp_wifi_set_config`: the configuration, unless a length is refused. -/
def configureSta (ssid password : CText) : Option WifiConfig :=
  if ssid.length < 1 ∨ ssid.length ≥ 32 ∨ password.length ≥ 64 then none
  else
    let authmode := if password ≠ [] then .wpa2Psk else .openNetwork
    some ⟨CText.snprintf 32 ssid, CText.snprintf 64 password, authmode⟩

/-- Valid credentials are configured as they are. -/
theorem configureSta_valid {ssid password : CText} (hne : ssid ≠ []) (hs : ssid.length < 32)
    (hp : password.length < 64) : configureSta ssid password =
      some ⟨ssid, password, if password ≠ [] then .wpa2Psk else .openNetwork⟩ := by
  have hpos : 0 < ssid.length := List.length_pos_iff.mpr hne
  unfold configureSta
  rw [if_neg (by omega), CText.snprintf_of_lt hs, CText.snprintf_of_lt hp]

/-! ## 3. NVS -/

/-- A value written to a key. -/
structure NvsWrite where
  text : CText
  /-- history: the credentials it is part of -/
  origin : StaCredentials
  deriving DecidableEq, Repr

/-- A key: what is durable, and what was written since and is not known to be. -/
structure NvsEntry where
  durable : Option NvsWrite
  written : Option NvsWrite
  deriving DecidableEq, Repr

/-- What was written becomes durable. -/
def NvsEntry.flush (e : NvsEntry) : NvsEntry :=
  match e.written with
  | none => e
  | some v => ⟨some v, none⟩

/-- The namespace `db_wifi`. -/
structure Nvs where
  ssid : NvsEntry
  password : NvsEntry
  deriving DecidableEq, Repr

inductive NvsKey where
  | ssid | password
  deriving DecidableEq, Repr

def Nvs.flush (nvs : Nvs) : NvsKey → Nvs
  | .ssid => { nvs with ssid := nvs.ssid.flush }
  | .password => { nvs with password := nvs.password.flush }

/-- Power is lost. -/
def Nvs.lose (nvs : Nvs) : Nvs where
  ssid := { nvs.ssid with written := none }
  password := { nvs.password with written := none }

/-- The calls of `nvs_save_sta`. -/
inductive SaveStage where
  | open | setSsid | setPassword | commit | close
  deriving DecidableEq, Repr

/-- One call of `nvs_save_sta`; `ok` says whether it succeeds, `none` is the return. A call that
    fails changes nothing. -/
def saveStep (creds : StaCredentials) (nvs : Nvs) (ok : Bool) : SaveStage → Nvs × Option SaveStage
  | .open => (nvs, if ok then some .setSsid else none)
  | .setSsid =>
    if ok then
      ({ nvs with ssid := { nvs.ssid with written := some ⟨creds.ssid, creds⟩ } },
        some .setPassword)
    else (nvs, some .close)
  | .setPassword =>
    if ok then
      ({ nvs with password := { nvs.password with written := some ⟨creds.password, creds⟩ } },
        some .commit)
    else (nvs, some .close)
  | .commit => (if ok then (nvs.flush .ssid).flush .password else nvs, some .close)
  | .close => (nvs, none)

/-- Whether the calls of `nvs_load_sta` succeed. -/
structure LoadOutcome where
  opened : Bool
  ssid : Bool
  password : Bool
  deriving DecidableEq, Repr

/-- `nvs_get_str` into a buffer of `size` bytes; what does not fit is an error. -/
def NvsEntry.get (e : NvsEntry) (size : Nat) (ok : Bool) : Option CText :=
  if ok then (e.durable.map NvsWrite.text).filter fun s => decide (s.length < size) else none

/-- `nvs_load_sta` with the buffers of `start_wifi`, after a reset. -/
def nvsLoadSta (nvs : Nvs) (o : LoadOutcome) : Option (CText × CText) :=
  if o.opened then
    let password := (nvs.password.get staPasswordLen o.password).getD []
    match nvs.ssid.get staSsidLen o.ssid with
    | none => none
    | some ssid => if ssid ≠ [] then some (ssid, password) else none
  else none

/-- **The pair `start_wifi` uses**; `kconfig` is the Kconfig pair as it copies it. -/
def startPair (kconfig : CText × CText) (nvs : Nvs) (o : LoadOutcome) : CText × CText :=
  (nvsLoadSta nvs o).getD kconfig

end DragonBench
