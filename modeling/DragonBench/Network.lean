/-
  File:      DragonBench/Network.lean
  Subject:   `firmware/common/db_network.h` and `db_network.c`: the states of the two interfaces,
             the retry delay, the request ids.
-/
import DragonBench.Lib.Text

namespace DragonBench

/-! ## 1. States -/

/-- `db_ap_state_t`. -/
inductive DbApState where
  | starting | active | failed
  deriving DecidableEq, Repr

/-- `db_sta_state_t`. -/
inductive DbStaState where
  | unconfigured | connecting | connected | disconnected
  deriving DecidableEq, Repr

/-- `db_ap_state_name`. -/
def dbApStateName : DbApState → CText
  | .starting => "starting".toList
  | .active => "active".toList
  | .failed => "failed".toList

/-- `db_sta_state_name`. -/
def dbStaStateName : DbStaState → CText
  | .unconfigured => "unconfigured".toList
  | .connecting => "connecting".toList
  | .connected => "connected".toList
  | .disconnected => "disconnected".toList

/-- `db_sta_is_configured`. -/
def dbStaIsConfigured (ssid : CText) : Bool := decide (ssid ≠ [])

/-! ## 2. Retries -/

/-- `DB_STA_FAST_RETRIES`. -/
def dbStaFastRetries : Nat := 3

/-- `DB_STA_BACKOFF_MIN_MS`. -/
def dbStaBackoffMinMs : Nat := 5000

/-- `DB_STA_BACKOFF_MAX_MS`. -/
def dbStaBackoffMaxMs : Nat := 60000

/-- `while (step-- > 0 && delay < DB_STA_BACKOFF_MAX_MS) delay *= 2U;`. -/
def backoffLoop : Nat → Nat → Nat
  | 0, delay => delay
  | step + 1, delay =>
    if delay < dbStaBackoffMaxMs then backoffLoop step (delay * 2 % 2 ^ 32) else delay

/-- `db_sta_retry_delay_ms`. -/
def dbStaRetryDelayMs (attempt : Nat) : Nat :=
  if attempt < dbStaFastRetries then 0
  else
    let delay := backoffLoop (attempt - dbStaFastRetries) dbStaBackoffMinMs
    if delay < dbStaBackoffMaxMs then delay else dbStaBackoffMaxMs

/-! ## 3. Request ids -/

/-- `db_request_id_next`. -/
def dbRequestIdNext (current : Nat) : Nat :=
  let next := (current + 1) % 2 ^ 32
  if next = 0 then 1 else next

/-- `db_request_id_is_newer`. -/
def dbRequestIdIsNewer (candidate reference : Nat) : Bool :=
  let distance := (candidate + 2 ^ 32 - reference) % 2 ^ 32
  decide (distance ≠ 0) && decide (distance < 0x80000000)

/-- Up to the wrap the ids count. -/
theorem dbRequestIdNext_of_lt {current : Nat} (h : current < 2 ^ 32 - 1) :
    dbRequestIdNext current = current + 1 := by
  have hm : (current + 1) % 2 ^ 32 = current + 1 := Nat.mod_eq_of_lt (by omega)
  unfold dbRequestIdNext
  dsimp only
  rw [hm, if_neg (Nat.succ_ne_zero current)]

end DragonBench
