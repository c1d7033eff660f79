/-
  File:      DragonBench/Recovery.lean
  Subject:   HAS IT RESTARTED? The two detectors of a recovery after a reset:
             `poll_status_for_recovery` (`tools/reset_characterization.py`) and the heartbeat scan
             of `main` (`tools/phase2_extract.py`).

  Both compare the uptime of a status with one taken before the reset. A lower uptime is one of a
  later boot; a later boot whose uptime has passed the old one by the time it is asked looks like
  the boot before the reset.

  * `pollLoop`, `PollEnd.answer` -- the loop of attempts and what it returns;
  * `scanHeartbeats`, `resetMarker` -- the scan and the reset it looks behind;
  * `PollExact`, `ScanExact` -- the recovery reported is the first sample of a later boot;
  * **`recovery_exact_iff`** -- that is so exactly when the first one has a lower uptime;
  * `recovery_missed` -- a device that is reset 5 s after its boot.
-/
import DragonBench.Lib.Epochs
import DragonBench.Lib.Grouping
import DragonBench.Lib.Text
import Mathlib.Data.List.Find
import Mathlib.Data.List.Infix

namespace DragonBench

open Epochs

/-! ## 1. `poll_status_for_recovery` -/

/-- The fields of a status response that are read; an instant is in milliseconds. -/
structure StatusReply where
  uptimeMs : Option Nat
  resetReason : Option CText
  networkConnected : Option Bool
  deriving DecidableEq, Repr

/-- What `http_get` raises. -/
inductive HttpFailure where
  | urlError | timeout | connection
  /-- the response is cut short, is not text or is not JSON -/
  | incompleteRead | unicodeDecode | jsonDecode
  deriving DecidableEq, Repr

/-- `except (urllib.error.URLError, TimeoutError, ConnectionError)`. -/
def HttpFailure.caught : HttpFailure → Bool
  | .urlError | .timeout | .connection => true
  | .incompleteRead | .unicodeDecode | .jsonDecode => false

inductive PollOutcome where
  | reply (status : StatusReply)
  | failed (e : HttpFailure)
  deriving DecidableEq, Repr

/-- An `http_get` of the status: the clock at the head of the loop and at the answer. -/
structure PollAttempt where
  startedAt : Nat
  outcome : PollOutcome
  finishedAt : Nat
  /-- history: the instant at which the device took the values it replies with -/
  sampledAt : Nat
  deriving DecidableEq, Repr

/-- `uptime_before_ms`: an exception leaves it unknown. -/
def uptimeBefore : PollOutcome → Option Nat
  | .reply status => status.uptimeMs
  | .failed _ => none

/-- Both uptimes are known and the one read is not below the one before. -/
def isStale (before : Option Nat) (status : StatusReply) : Bool :=
  match before, status.uptimeMs with
  | some before, some uptime => decide (uptime ≥ before)
  | _, _ => false

/-- How the loop ends. -/
inductive PollEnd where
  | recovered (a : PollAttempt) (status : StatusReply)
  | gaveUp (lastErr : Option HttpFailure) (lastStale : Option StatusReply)
  | raised (e : HttpFailure)
  deriving DecidableEq, Repr

/-- `while time.monotonic() < deadline`, over the attempts the surroundings allow; behind the last
    one the deadline has passed. -/
def pollLoop (deadline : Nat) (before : Option Nat) :
    List PollAttempt → Option HttpFailure → Option StatusReply → PollEnd
  | [], lastErr, lastStale => .gaveUp lastErr lastStale
  | a :: rest, lastErr, lastStale =>
    if a.startedAt < deadline then
      match a.outcome with
      | .reply status =>
        if isStale before status then pollLoop deadline before rest lastErr (some status)
        else .recovered a status
      | .failed e =>
        if e.caught then pollLoop deadline before rest (some e) lastStale else .raised e
    else .gaveUp lastErr lastStale

/-- The last part of what is returned. -/
inductive PollStatus where
  | reply (status : StatusReply)
  /-- with the note "stale pre-reset read only; no post-reset response observed within max_wait" -/
  | staleOnly (status : StatusReply)
  | error (last : Option HttpFailure)
  deriving DecidableEq, Repr

/-- What `poll_status_for_recovery` returns. -/
structure PollAnswer where
  resetReason : CText
  networkConnected : Option Bool
  recoveryMs : Option Nat
  status : PollStatus
  deriving DecidableEq, Repr

/-- The return, or the exception. -/
def PollEnd.answer (trigger : Nat) : PollEnd → Except HttpFailure PollAnswer
  | .recovered a status =>
    .ok ⟨status.resetReason.getD [], some (status.networkConnected.getD false),
      some (a.finishedAt - trigger), .reply status⟩
  | .gaveUp _ (some stale) =>
    .ok ⟨stale.resetReason.getD [], some (stale.networkConnected.getD false), none,
      .staleOnly stale⟩
  | .gaveUp lastErr none => .ok ⟨[], none, none, .error lastErr⟩
  | .raised e => .error e

/-- `poll_status_for_recovery` up to its return. -/
def pollStatusForRecovery (startedAt maxWait : Nat) (before : Option Nat)
    (attempts : List PollAttempt) : PollEnd :=
  pollLoop (startedAt + maxWait) before attempts none none

/-- The attempt reported as the recovery. -/
def PollEnd.reported : PollEnd → Option PollAttempt
  | .recovered a _ => some a
  | .gaveUp _ _ | .raised _ => none

/-- The attempts in front of the deadline. -/
def inTime (deadline : Nat) (attempts : List PollAttempt) : List PollAttempt :=
  attempts.takeWhile fun a => decide (a.startedAt < deadline)

/-- The loop takes this attempt for the recovery. -/
def PollAttempt.recovers (before : Option Nat) (a : PollAttempt) : Bool :=
  match a.outcome with
  | .reply status => !isStale before status
  | .failed _ => false

/-- The loop ends with this attempt: with a reply that is not stale, or with an exception that is
    not caught. -/
def PollAttempt.stops (before : Option Nat) (a : PollAttempt) : Bool :=
  match a.outcome with
  | .reply status => !isStale before status
  | .failed e => !e.caught

/-- How it ends with the attempt. -/
def PollAttempt.ended (a : PollAttempt) : PollEnd :=
  match a.outcome with
  | .reply status => .recovered a status
  | .failed e => .raised e

theorem inTime_cons (deadline : Nat) (a : PollAttempt) (rest : List PollAttempt) :
    inTime deadline (a :: rest) = if a.startedAt < deadline then a :: inTime deadline rest else [] := by
  unfold inTime
  simp only [List.takeWhile_cons, decide_eq_true_eq]

/-- **The loop ends with the first attempt in front of the deadline that stops it**, and gives up
    when none does. -/
theorem pollLoop_end (deadline : Nat) (before : Option Nat) (attempts : List PollAttempt)
    (lastErr : Option HttpFailure) (lastStale : Option StatusReply) :
    match (inTime deadline attempts).find? (PollAttempt.stops before) with
    | some a => pollLoop deadline before attempts lastErr lastStale = a.ended
    | none => ∃ err stale, pollLoop deadline before attempts lastErr lastStale = .gaveUp err stale := by
  induction attempts generalizing lastErr lastStale with
  | nil => exact ⟨lastErr, lastStale, rfl⟩
  | cons a rest ih =>
      rw [inTime_cons, pollLoop]
      by_cases ht : a.startedAt < deadline
      · rw [if_pos ht, if_pos ht]
        cases ho : a.outcome with
        | reply status =>
            by_cases hs : isStale before status = true
            · rw [List.find?_cons_of_neg (by simp [PollAttempt.stops, ho, hs])]
              simp only [hs, if_true]
              exact ih lastErr (some status)
            · rw [List.find?_cons_of_pos (by simp [PollAttempt.stops, ho, hs])]
              simp only [hs, Bool.false_eq_true, if_false, PollAttempt.ended, ho]
        | failed e =>
            by_cases hc : e.caught = true
            · rw [List.find?_cons_of_neg (by simp [PollAttempt.stops, ho, hc])]
              simp only [hc, if_true]
              exact ih (some e) lastStale
            · rw [List.find?_cons_of_pos (by simp [PollAttempt.stops, ho, hc])]
              simp only [hc, Bool.false_eq_true, if_false, PollAttempt.ended, ho]
      · rw [if_neg ht, if_neg ht]
        exact ⟨lastErr, lastStale, rfl⟩

theorem pollLoop_stopped {deadline : Nat} {before : Option Nat} {attempts : List PollAttempt}
    {a : PollAttempt} (lastErr : Option HttpFailure) (lastStale : Option StatusReply)
    (h : (inTime deadline attempts).find? (PollAttempt.stops before) = some a) :
    pollLoop deadline before attempts lastErr lastStale = a.ended := by
  have hend := pollLoop_end deadline before attempts lastErr lastStale
  rw [h] at hend
  exact hend

theorem pollLoop_gaveUp {deadline : Nat} {before : Option Nat} {attempts : List PollAttempt}
    (lastErr : Option HttpFailure) (lastStale : Option StatusReply)
    (h : (inTime deadline attempts).find? (PollAttempt.stops before) = none) :
    ∃ err stale, pollLoop deadline before attempts lastErr lastStale = .gaveUp err stale := by
  have hend := pollLoop_end deadline before attempts lastErr lastStale
  rw [h] at hend
  exact hend

/-- **The loop reports the first reply that is not stale**, if nothing it does not catch is raised
    before. -/
theorem pollLoop_reported {deadline : Nat} {before : Option Nat} {attempts : List PollAttempt}
    (hcaught : ∀ a ∈ attempts, ∀ e, a.outcome = .failed e → e.caught = true)
    (lastErr : Option HttpFailure) (lastStale : Option StatusReply) :
    (pollLoop deadline before attempts lastErr lastStale).reported =
      (inTime deadline attempts).find? (PollAttempt.recovers before) := by
  have hstops : ∀ a ∈ inTime deadline attempts, a.stops before = a.recovers before := by
    intro a ha
    unfold PollAttempt.stops PollAttempt.recovers
    cases ho : a.outcome with
    | reply status => rfl
    | failed e =>
        simp only [hcaught a ((List.takeWhile_sublist _).subset ha) e ho, Bool.not_true]
  rw [← List.find?_congr hstops]
  cases hf : (inTime deadline attempts).find? (PollAttempt.stops before) with
  | none =>
      obtain ⟨err, stale, hend⟩ := pollLoop_gaveUp lastErr lastStale hf
      rw [hend]
      rfl
  | some a =>
      have hr := List.find?_some hf
      rw [hstops a (List.mem_of_find?_eq_some hf)] at hr
      unfold PollAttempt.recovers at hr
      rw [pollLoop_stopped lastErr lastStale hf, PollAttempt.ended]
      cases ho : a.outcome with
      | reply status => rfl
      | failed e =>
          rw [ho] at hr
          cases hr

/-! ## 2. The heartbeat scan -/

/-- An entry of the heartbeat log: its time in the window, and the status, unless the request
    failed or the status is empty. -/
structure Heartbeat where
  t : Nat
  status : Option StatusReply
  /-- history: the instant at which the device took the values -/
  sampledAt : Nat
  deriving DecidableEq, Repr

/-- A line of the raw log that contains `marker`: the first one's time. -/
def firstMarked (marker : CText) (rawLines : List (Nat × CText)) : Option Nat :=
  (rawLines.find? fun line => decide (marker <:+: line.2)).map Prod.fst

/-- `reset_t`: the ROM banner, or the boot event of the application. -/
def resetMarker (rawLines : List (Nat × CText)) : Option Nat :=
  match firstMarked "ESP-ROM:esp32s3".toList rawLines with
  | some t => some t
  | none => firstMarked "\"event\":\"boot\"".toList rawLines

/-- `for h in http_events`: the entry at which it breaks. -/
def scanHeartbeats (resetT : Option Nat) : Option Nat → List Heartbeat → Option Heartbeat
  | _, [] => none
  | before, h :: rest =>
    match h.status, resetT with
    | none, _ => scanHeartbeats resetT before rest
    | some _, none => scanHeartbeats resetT before rest
    | some status, some r =>
      if h.t < r then scanHeartbeats resetT status.uptimeMs rest
      else if isStale before status then scanHeartbeats resetT before rest
      else some h

/-- What `main` takes from the entry; the record has the time in seconds, to the hundredth. -/
structure ExtractAnswer where
  appReason : CText
  netConnected : Option Bool
  recoveryMs : Option Nat
  deriving DecidableEq, Repr

def extractAnswer (resetT : Option Nat) (found : Option Heartbeat) : ExtractAnswer :=
  match found, resetT with
  | some h, some r =>
    ⟨(h.status.bind StatusReply.resetReason).getD [],
      some ((h.status.bind StatusReply.networkConnected).getD false), some (h.t - r)⟩
  | _, _ => ⟨[], none, none⟩

/-- The scan takes this entry for the recovery. -/
def Heartbeat.recovers (before : Option Nat) (h : Heartbeat) : Bool :=
  match h.status with
  | some status => !isStale before status
  | none => false

/-- The last entry with a status in front of the marker. -/
def baseline (r : Nat) (events : List Heartbeat) : Option Heartbeat :=
  ((events.filter fun h => decide (h.t < r)).filter fun h => h.status.isSome).getLast?

/-- The entries from the marker on. -/
def fromMarker (r : Nat) (events : List Heartbeat) : List Heartbeat :=
  events.filter fun h => decide (r ≤ h.t)

section Scan

variable {resetT before : Option Nat} {r : Nat} {a : Heartbeat} {rest : List Heartbeat}
  {status : StatusReply}

theorem scanHeartbeats_none (hs : a.status = none) :
    scanHeartbeats resetT before (a :: rest) = scanHeartbeats resetT before rest := by
  rw [scanHeartbeats.eq_def]
  simp only [hs]

theorem scanHeartbeats_remembers (hs : a.status = some status) (ht : a.t < r) :
    scanHeartbeats (some r) before (a :: rest) =
      scanHeartbeats (some r) status.uptimeMs rest := by
  rw [scanHeartbeats.eq_def]
  simp only [hs, ht, if_true]

theorem scanHeartbeats_stale (hs : a.status = some status) (ht : r ≤ a.t)
    (hst : isStale before status = true) :
    scanHeartbeats (some r) before (a :: rest) = scanHeartbeats (some r) before rest := by
  rw [scanHeartbeats.eq_def]
  simp only [hs, Nat.not_lt.mpr ht, hst, if_false, if_true]

theorem scanHeartbeats_breaks (hs : a.status = some status) (ht : r ≤ a.t)
    (hst : ¬ isStale before status = true) :
    scanHeartbeats (some r) before (a :: rest) = some a := by
  rw [scanHeartbeats.eq_def]
  simp only [hs, Nat.not_lt.mpr ht, hst, if_false, Bool.false_eq_true]

/-- Entries without a status are passed over. -/
theorem scanHeartbeats_skip {skipped : List Heartbeat} (h : ∀ b ∈ skipped, b.status = none) :
    scanHeartbeats resetT before (skipped ++ rest) = scanHeartbeats resetT before rest := by
  induction skipped with
  | nil => rfl
  | cons a skipped ih =>
      rw [List.cons_append, scanHeartbeats_none (h a List.mem_cons_self)]
      exact ih fun b hb => h b (List.mem_cons_of_mem a hb)

/-- **In front of the marker the scan only remembers the last uptime.** -/
theorem scanHeartbeats_early {early late : List Heartbeat} {h : Heartbeat}
    (hearly : ∀ b ∈ early, b.t < r)
    (hlast : (early.filter fun b => b.status.isSome).getLast? = some h) :
    scanHeartbeats (some r) before (early ++ late) =
      scanHeartbeats (some r) (h.status.bind StatusReply.uptimeMs) late := by
  induction early generalizing before with
  | nil => cases hlast
  | cons a early ih =>
      have ht := hearly a List.mem_cons_self
      have ih := fun before => @ih before fun b hb => hearly b (List.mem_cons_of_mem a hb)
      rw [List.cons_append]
      cases hs : a.status with
      | none =>
          rw [List.filter_cons_of_neg (by simp [hs])] at hlast
          rw [scanHeartbeats_none hs]
          exact ih before hlast
      | some status =>
          rw [List.filter_cons_of_pos (by simp [hs]), List.getLast?_cons] at hlast
          rw [scanHeartbeats_remembers hs ht]
          cases hl : (early.filter fun b => b.status.isSome).getLast? with
          | some b =>
              rw [hl] at hlast
              cases hlast
              exact ih status.uptimeMs hl
          | none =>
              -- no status is left in front of the marker
              rw [hl, Option.getD_none, Option.some.injEq] at hlast
              rw [← hlast, hs]
              refine scanHeartbeats_skip fun b hb => ?_
              rw [List.getLast?_eq_none_iff, List.filter_eq_nil_iff] at hl
              simpa using hl b hb

/-- **Behind the marker it reports the first entry that is not stale.** -/
theorem scanHeartbeats_late {late : List Heartbeat} (hlate : ∀ b ∈ late, r ≤ b.t) :
    scanHeartbeats (some r) before late = late.find? (Heartbeat.recovers before) := by
  induction late with
  | nil => rfl
  | cons a late ih =>
      have ih := ih fun b hb => hlate b (List.mem_cons_of_mem a hb)
      have ht := hlate a List.mem_cons_self
      cases hs : a.status with
      | none =>
          rw [List.find?_cons_of_neg (by simp [Heartbeat.recovers, hs]), scanHeartbeats_none hs]
          exact ih
      | some status =>
          by_cases hst : isStale before status = true
          · rw [List.find?_cons_of_neg (by simp [Heartbeat.recovers, hs, hst]),
              scanHeartbeats_stale hs ht hst]
            exact ih
          · rw [List.find?_cons_of_pos (by simp [Heartbeat.recovers, hs, hst]),
              scanHeartbeats_breaks hs ht hst]

/-- What it reports has a status and is not in front of the marker. -/
theorem scanHeartbeats_found {events : List Heartbeat} {h : Heartbeat}
    (hf : scanHeartbeats (some r) before events = some h) :
    h ∈ events ∧ h.status.isSome = true ∧ r ≤ h.t := by
  induction events generalizing before with
  | nil => cases hf
  | cons a rest ih =>
      cases hs : a.status with
      | none =>
          rw [scanHeartbeats_none hs] at hf
          exact (ih hf).imp_left (List.mem_cons_of_mem a)
      | some status =>
          by_cases ht : a.t < r
          · rw [scanHeartbeats_remembers hs ht] at hf
            exact (ih hf).imp_left (List.mem_cons_of_mem a)
          · by_cases hst : isStale before status = true
            · rw [scanHeartbeats_stale hs (Nat.le_of_not_lt ht) hst] at hf
              exact (ih hf).imp_left (List.mem_cons_of_mem a)
            · rw [scanHeartbeats_breaks hs (Nat.le_of_not_lt ht) hst] at hf
              cases hf
              exact ⟨List.mem_cons_self, by rw [hs]; rfl, Nat.le_of_not_lt ht⟩

end Scan

/-- **The scan of a log in the order of time.** -/
theorem scanHeartbeats_reported {r : Nat} {events : List Heartbeat} {base : Heartbeat}
    (hord : (events.map Heartbeat.t).Pairwise (· ≤ ·)) (hbase : baseline r events = some base) :
    scanHeartbeats (some r) none events =
      (fromMarker r events).find?
        (Heartbeat.recovers (base.status.bind StatusReply.uptimeMs)) := by
  have hearly : ∀ b ∈ events.filter fun h => decide (h.t < r), b.t < r := fun b hb =>
    of_decide_eq_true (List.mem_filter.mp hb).2
  have hlate : ∀ b ∈ fromMarker r events, r ≤ b.t := fun b hb =>
    of_decide_eq_true (List.mem_filter.mp hb).2
  have hsplit : (events.filter fun h => decide (h.t < r)) ++ fromMarker r events = events :=
    Grouping.filter_lt_append hord r
  rw [← scanHeartbeats_late hlate, ← scanHeartbeats_early hearly hbase, hsplit]

/-! ## 3. The device -/

/-- The boots of a device and its `uptime_ms`, by the instant. -/
abbrev DeviceTimeline := Timeline Nat Nat Nat

/-- A status shows the uptime at the instant it was taken. -/
def ReadAt (T : DeviceTimeline) (status : StatusReply) (instant : Nat) : Prop :=
  status.uptimeMs = some (T.counter instant)

/-- The attempts poll a device after the instant `start`, and what fails is caught. -/
structure PolledFrom (T : DeviceTimeline) (start : Nat) (attempts : List PollAttempt) : Prop where
  after : ∀ a ∈ attempts, start ≤ a.sampledAt
  reads : ∀ a ∈ attempts, ∀ status, a.outcome = .reply status → ReadAt T status a.sampledAt
  caught : ∀ a ∈ attempts, ∀ e, a.outcome = .failed e → e.caught = true

/-- The entries are in the order of time and show the device. -/
structure Logged (T : DeviceTimeline) (events : List Heartbeat) : Prop where
  ordered : (events.map Heartbeat.t).Pairwise (· ≤ ·)
  sampled : (events.map Heartbeat.sampledAt).Pairwise (· ≤ ·)
  reads : ∀ h ∈ events, ∀ status, h.status = some status → ReadAt T status h.sampledAt

def PollOutcome.replied : PollOutcome → Bool
  | .reply _ => true
  | .failed _ => false

/-- A reply of a later boot than that of the instant `base`. -/
def PollAttempt.later (T : DeviceTimeline) (base : Nat) (a : PollAttempt) : Bool :=
  a.outcome.replied && decide (T.epoch base < T.epoch a.sampledAt)

def Heartbeat.later (T : DeviceTimeline) (base : Nat) (h : Heartbeat) : Bool :=
  h.status.isSome && decide (T.epoch base < T.epoch h.sampledAt)

/-- The first sample of a later boot in front of the deadline, and from the marker on. -/
def firstPolled (T : DeviceTimeline) (base deadline : Nat) (attempts : List PollAttempt) :
    Option PollAttempt := (inTime deadline attempts).find? (PollAttempt.later T base)

def firstLogged (T : DeviceTimeline) (base r : Nat) (events : List Heartbeat) :
    Option Heartbeat := (fromMarker r events).find? (Heartbeat.later T base)

/-- **The poll reports exactly the first sample of a later boot**, and nothing when there is
    none. -/
def PollExact (T : DeviceTimeline) (base : PollAttempt) (startedAt maxWait : Nat)
    (attempts : List PollAttempt) : Prop :=
  (pollStatusForRecovery startedAt maxWait (uptimeBefore base.outcome) attempts).reported =
    firstPolled T base.sampledAt (startedAt + maxWait) attempts

/-- **So does the scan.** -/
def ScanExact (T : DeviceTimeline) (base : Heartbeat) (r : Nat) (rawLines : List (Nat × CText))
    (events : List Heartbeat) : Prop :=
  scanHeartbeats (resetMarker rawLines) none events = firstLogged T base.sampledAt r events

/-! ## 4. When they are exact -/

section Exact

variable {T : DeviceTimeline}

/-- Not stale is lower. -/
theorem isStale_read {status : StatusReply} {instant before : Nat}
    (h : ReadAt T status instant) :
    (!isStale (some before) status) = decide (T.counter instant < before) := by
  unfold ReadAt at h
  unfold isStale
  rw [h]
  by_cases hlt : T.counter instant < before
  · simp [hlt]
  · simp [hlt, Nat.le_of_not_lt hlt]

/-- **The poll.** -/
theorem pollExact_iff {base : PollAttempt} {status : StatusReply} {startedAt maxWait : Nat}
    {attempts : List PollAttempt} (hb : base.outcome = .reply status)
    (hr : ReadAt T status base.sampledAt) (hp : PolledFrom T base.sampledAt attempts) :
    PollExact T base startedAt maxWait attempts ↔
      ∀ a, firstPolled T base.sampledAt (startedAt + maxWait) attempts = some a →
        T.counter a.sampledAt < T.counter base.sampledAt := by
  have hsub : ∀ a ∈ inTime (startedAt + maxWait) attempts, a ∈ attempts := fun a ha =>
    (List.takeWhile_sublist _).subset ha
  have hbefore : uptimeBefore base.outcome = some (T.counter base.sampledAt) := by
    rw [hb]
    exact hr
  unfold PollExact pollStatusForRecovery
  rw [pollLoop_reported hp.caught, hbefore]
  refine T.first_later_iff (fun a => a.outcome.replied)
    (fun a ha => hp.after a (hsub a ha)) (fun a ha => ?_) (fun a _ => rfl)
  unfold PollAttempt.recovers PollOutcome.replied
  cases ho : a.outcome with
  | reply status => exact isStale_read (hp.reads a (hsub a ha) status ho)
  | failed e => rfl

/-- **The scan.** -/
theorem scanExact_iff {base : Heartbeat} {r : Nat} {rawLines : List (Nat × CText)}
    {events : List Heartbeat} (hm : resetMarker rawLines = some r) (hl : Logged T events)
    (hb : baseline r events = some base) :
    ScanExact T base r rawLines events ↔
      ∀ h, firstLogged T base.sampledAt r events = some h →
        T.counter h.sampledAt < T.counter base.sampledAt := by
  have hsplit : (events.filter fun h => decide (h.t < r)) ++ fromMarker r events = events :=
    Grouping.filter_lt_append hl.ordered r
  obtain ⟨hearly, hsome⟩ := List.mem_filter.mp (List.mem_of_getLast? hb)
  obtain ⟨status, hs⟩ := Option.isSome_iff_exists.mp hsome
  have hbefore : base.status.bind StatusReply.uptimeMs = some (T.counter base.sampledAt) := by
    rw [hs]
    exact hl.reads base (List.mem_filter.mp hearly).1 status hs
  have hafter : ∀ h ∈ fromMarker r events, base.sampledAt ≤ h.sampledAt := by
    have hord := hl.sampled
    rw [← hsplit, List.map_append, List.pairwise_append] at hord
    exact fun h hh => hord.2.2 _ (List.mem_map_of_mem hearly) _ (List.mem_map_of_mem hh)
  unfold ScanExact
  rw [hm, scanHeartbeats_reported hl.ordered hb, hbefore]
  refine T.first_later_iff (fun h => h.status.isSome) hafter (fun h hh => ?_)
    (fun h _ => rfl)
  unfold Heartbeat.recovers
  cases hs : h.status with
  | none => rfl
  | some status => exact isStale_read (hl.reads h (List.mem_filter.mp hh).1 status hs)

/-- **Both detectors report the first sample of a later boot exactly when its uptime is below the
    one before the reset**, or there is none; the samples of the poll are taken after the trigger,
    those of the scan from the marker on. -/
theorem recovery_exact_iff (T : DeviceTimeline) :
    (∀ (base : PollAttempt) (status : StatusReply) (startedAt maxWait : Nat)
      (attempts : List PollAttempt), base.outcome = .reply status →
      ReadAt T status base.sampledAt → PolledFrom T base.sampledAt attempts →
      (PollExact T base startedAt maxWait attempts ↔
        ∀ a, firstPolled T base.sampledAt (startedAt + maxWait) attempts = some a →
          T.counter a.sampledAt < T.counter base.sampledAt)) ∧
    ∀ (base : Heartbeat) (r : Nat) (rawLines : List (Nat × CText)) (events : List Heartbeat),
      resetMarker rawLines = some r → Logged T events → baseline r events = some base →
      (ScanExact T base r rawLines events ↔
        ∀ h, firstLogged T base.sampledAt r events = some h →
          T.counter h.sampledAt < T.counter base.sampledAt) :=
  ⟨fun _ _ _ _ _ hb hr hp => pollExact_iff hb hr hp, fun _ _ _ _ hm hl hb => scanExact_iff hm hl hb⟩

end Exact

/-! ## 5. Two devices -/

/-- A device that restarts at the instant `reset`; its uptime counts from each boot. -/
def restartedAt (reset : Nat) : DeviceTimeline where
  epoch t := if t < reset then 0 else 1
  counter t := if t < reset then t else t - reset
  epoch_mono := by
    intro t u htu
    dsimp only
    split <;> split <;> omega
  counter_lt := by
    intro t u htu he
    by_cases ht : t < reset
    · by_cases hu : u < reset
      · simpa [ht, hu] using htu
      · simp [ht, hu] at he
    · have hu : ¬ u < reset := by omega
      simp only [ht, hu, if_false]
      omega

/-- What the device replies at an instant. -/
def replyOf (T : DeviceTimeline) (instant : Nat) : StatusReply :=
  ⟨some (T.counter instant), some "software".toList, some true⟩

/-- A request that is answered, and one that times out. -/
def answered (T : DeviceTimeline) (startedAt : Nat) : PollAttempt :=
  ⟨startedAt, .reply (replyOf T (startedAt + 50)), startedAt + 100, startedAt + 50⟩

def timedOut (startedAt : Nat) : PollAttempt :=
  ⟨startedAt, .failed .timeout, startedAt + 2000, startedAt + 2000⟩

theorem polledFrom_of {T : DeviceTimeline} {start : Nat} {attempts : List PollAttempt}
    (h : ∀ a ∈ attempts, ∃ s, start ≤ s ∧ (a = answered T s ∨ a = timedOut s)) :
    PolledFrom T start attempts := by
  refine ⟨fun a ha => ?_, fun a ha status ho => ?_, fun a ha e ho => ?_⟩
  · obtain ⟨s, hs, rfl | rfl⟩ := h a ha
    · exact Nat.le_add_right_of_le hs
    · exact Nat.le_add_right_of_le hs
  · obtain ⟨s, hs, rfl | rfl⟩ := h a ha
    · cases ho
      rfl
    · cases ho
  · obtain ⟨s, hs, rfl | rfl⟩ := h a ha
    · cases ho
    · cases ho
      rfl

/-- A status is taken at `t`; a second later the reset is triggered, which happens a second after
    that; the device is back on the network four seconds later. -/
def benchAttempts (T : DeviceTimeline) (t : Nat) : List PollAttempt :=
  answered T (t + 1000) :: answered T (t + 1400) :: timedOut (t + 1800) :: timedOut (t + 4100) ::
    (List.range 24).map fun i => answered T (t + 6400 + 400 * i)

theorem benchAttempts_polled (T : DeviceTimeline) (t : Nat) :
    PolledFrom T (answered T t).sampledAt (benchAttempts T t) := by
  have hstart : (answered T t).sampledAt = t + 50 := rfl
  refine polledFrom_of fun a ha => ?_
  rcases List.mem_cons.mp ha with rfl | ha
  · exact ⟨t + 1000, by omega, Or.inl rfl⟩
  rcases List.mem_cons.mp ha with rfl | ha
  · exact ⟨t + 1400, by omega, Or.inl rfl⟩
  rcases List.mem_cons.mp ha with rfl | ha
  · exact ⟨t + 1800, by omega, Or.inr rfl⟩
  rcases List.mem_cons.mp ha with rfl | ha
  · exact ⟨t + 4100, by omega, Or.inr rfl⟩
  obtain ⟨i, -, rfl⟩ := List.mem_map.mp ha
  exact ⟨t + 6400 + 400 * i, by omega, Or.inl rfl⟩

/-- An entry of the heartbeat log of the device, and one that was not answered. -/
def beat (T : DeviceTimeline) (t : Nat) : Heartbeat := ⟨t, some (replyOf T (t + 50)), t + 50⟩

def missedBeat (t : Nat) : Heartbeat := ⟨t, none, t + 50⟩

/-- The same reset in the logs: the banner, and an entry about each second. -/
def benchLines (t : Nat) : List (Nat × CText) :=
  [(t + 900, "run_complete".toList), (t + 2100, "ESP-ROM:esp32s3-20210327".toList)]

def benchBeats (T : DeviceTimeline) (t : Nat) : List Heartbeat :=
  [beat T t, beat T (t + 1100), missedBeat (t + 2200), missedBeat (t + 5300), beat T (t + 6400),
    beat T (t + 7500)]

theorem benchBeats_logged (T : DeviceTimeline) (t : Nat) : Logged T (benchBeats T t) := by
  refine ⟨?_, ?_, fun h hh status hs => ?_⟩
  · simp [benchBeats, beat, missedBeat]
  · simp [benchBeats, beat, missedBeat]
  · simp only [benchBeats, List.mem_cons, List.not_mem_nil, or_false] at hh
    rcases hh with rfl | rfl | rfl | rfl | rfl | rfl <;> cases hs <;> rfl

set_option maxRecDepth 4000 in
/-- A minute after its boot both detectors find the restart. -/
theorem recovery_exact_minute :
    PollExact (restartedAt 62000) (answered (restartedAt 62000) 60000) 61000 15000
      (benchAttempts (restartedAt 62000) 60000) ∧
    ScanExact (restartedAt 62000) (beat (restartedAt 62000) 61100) 62100 (benchLines 60000)
      (benchBeats (restartedAt 62000) 60000) := by
  obtain ⟨hpoll, hscan⟩ := recovery_exact_iff (restartedAt 62000)
  refine ⟨(hpoll (answered (restartedAt 62000) 60000) _ 61000 15000 _ rfl rfl
      (benchAttempts_polled _ _)).mpr fun a ha => ?_,
    (hscan (beat (restartedAt 62000) 61100) 62100 (benchLines 60000) _ (by decide)
      (benchBeats_logged _ _) (by decide)).mpr fun h hh => ?_⟩
  · have hfirst : firstPolled (restartedAt 62000) 60050 76000
        (benchAttempts (restartedAt 62000) 60000) = some (answered (restartedAt 62000) 66400) := by
      decide
    cases hfirst.symm.trans ha
    decide
  · have hfirst : firstLogged (restartedAt 62000) 61150 62100
        (benchBeats (restartedAt 62000) 60000) = some (beat (restartedAt 62000) 66400) := by
      decide
    cases hfirst.symm.trans hh
    decide

set_option maxRecDepth 4000 in
/-- **Three seconds after its boot they do not**: all it replies from 4.4 s after the restart on,
    up to the deadline, is taken for replies of the boot before. -/
theorem recovery_missed :
    (restartedAt 5000).counter 0 = 0 ∧ (restartedAt 5000).counter 5000 = 0 ∧
    PolledFrom (restartedAt 5000) (answered (restartedAt 5000) 3000).sampledAt
      (benchAttempts (restartedAt 5000) 3000) ∧
    firstPolled (restartedAt 5000) 3050 19000 (benchAttempts (restartedAt 5000) 3000) =
      some (answered (restartedAt 5000) 9400) ∧
    ¬ PollExact (restartedAt 5000) (answered (restartedAt 5000) 3000) 4000 15000
      (benchAttempts (restartedAt 5000) 3000) ∧
    Logged (restartedAt 5000) (benchBeats (restartedAt 5000) 3000) ∧
    resetMarker (benchLines 3000) = some 5100 ∧
    baseline 5100 (benchBeats (restartedAt 5000) 3000) = some (beat (restartedAt 5000) 4100) ∧
    firstLogged (restartedAt 5000) 4150 5100 (benchBeats (restartedAt 5000) 3000) =
      some (beat (restartedAt 5000) 9400) ∧
    ¬ ScanExact (restartedAt 5000) (beat (restartedAt 5000) 4100) 5100 (benchLines 3000)
      (benchBeats (restartedAt 5000) 3000) := by
  refine ⟨rfl, rfl, benchAttempts_polled _ _, by decide, ?_, benchBeats_logged _ _, by decide,
    by decide, by decide, ?_⟩
  · unfold PollExact
    decide
  · unfold ScanExact
    decide

end DragonBench
