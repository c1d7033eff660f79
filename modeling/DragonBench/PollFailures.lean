/-
  File:      DragonBench/PollFailures.lean
  Subject:   WHAT THE POLL SURVIVES: the failures of `http_get` between a reset and the first status
             of the new boot.

  The device is reset in the middle of what it sends. A refused or reset connection and a timeout
  are caught and the poll goes on; a response that is cut short, is not text or is not JSON ends
  the polling thread, and `run_event` records that nothing came back.

  * `PollAttempt.below` -- a status with an uptime below the baseline;
  * `PollSurvives` -- nothing is raised, and the first such status is returned;
  * `eventValue` -- what `run_event` makes of the thread;
  * `truncated_kills_poll` -- a response cut short, and the new boot behind it;
  * **`poll_survives_iff`** -- the poll survives exactly the failures it catches;
  * `event_recovered_iff` -- and the event is recorded as recovered exactly then.
-/
import DragonBench.Recovery
import Mathlib.Data.List.TakeWhile

namespace DragonBench

open Epochs

/-! ## 1. What a poll has to survive -/

/-- A reply with an uptime below the baseline. -/
def PollAttempt.below (baseline : Nat) (a : PollAttempt) : Bool :=
  match a.outcome with
  | .reply status => status.uptimeMs.any fun uptime => decide (uptime < baseline)
  | .failed _ => false

/-- Every reply has an uptime. -/
def UptimesKnown (attempts : List PollAttempt) : Prop :=
  ∀ a ∈ attempts, ∀ status, a.outcome = .reply status → status.uptimeMs.isSome = true

/-- `poll_status_for_recovery` with a baseline: its return, or its exception. -/
def pollAnswer (trigger startedAt maxWait baseline : Nat) (attempts : List PollAttempt) :
    Except HttpFailure PollAnswer :=
  (pollStatusForRecovery startedAt maxWait (some baseline) attempts).answer trigger

/-- **The poll raises nothing, and returns the first reply below the baseline**, with a recovery
    time, when there is one in front of the deadline. -/
structure PollSurvives (trigger startedAt maxWait baseline : Nat) (attempts : List PollAttempt) :
    Prop where
  raisesNothing : ∀ e, pollAnswer trigger startedAt maxWait baseline attempts ≠ .error e
  recovers : ∀ a status,
    (inTime (startedAt + maxWait) attempts).find? (PollAttempt.below baseline) = some a →
      a.outcome = .reply status →
        pollAnswer trigger startedAt maxWait baseline attempts =
          .ok ⟨status.resetReason.getD [], some (status.networkConnected.getD false),
            some (a.finishedAt - trigger), .reply status⟩

/-- The status of an event. -/
inductive EventStatus where
  | polled (status : PollStatus)
  /-- "poll_thread_timeout" -/
  | pollThreadTimeout
  deriving DecidableEq, Repr

/-- `app_reason, net_connected, recovery_s, status` of `run_event`. -/
structure EventValue where
  appReason : CText
  netConnected : Option Bool
  recoveryMs : Option Nat
  status : EventStatus
  deriving DecidableEq, Repr

/-- `poll_result.get("value", …)`: a thread that has raised or has not returned has stored
    nothing. -/
def eventValue (returned : Bool) (answer : Except HttpFailure PollAnswer) : EventValue :=
  match returned, answer with
  | true, .ok a => ⟨a.resetReason, a.networkConnected, a.recoveryMs, .polled a.status⟩
  | _, _ => ⟨[], none, none, .pollThreadTimeout⟩

/-! ## 2. When it is so -/

/-- **Every failure in front of the first reply below the baseline is one the poll catches.** -/
def CaughtInFront (baseline : Nat) (attempts : List PollAttempt) : Prop :=
  ∀ a ∈ attempts.takeWhile fun a => !a.below baseline, ∀ e, a.outcome = .failed e →
    e.caught = true

section Poll

variable {trigger startedAt maxWait baseline : Nat} {attempts : List PollAttempt}

/-- An attempt below the baseline is a reply with an uptime. -/
theorem PollAttempt.reply_of_below {a : PollAttempt} (h : a.below baseline = true) :
    ∃ status, a.outcome = .reply status ∧ status.uptimeMs.isSome = true := by
  unfold PollAttempt.below at h
  cases ho : a.outcome with
  | failed e =>
      rw [ho] at h
      cases h
  | reply status =>
      refine ⟨status, rfl, ?_⟩
      rw [ho] at h
      dsimp only at h
      cases hu : status.uptimeMs with
      | none =>
          rw [hu] at h
          cases h
      | some uptime => rfl

/-- Such a reply ends the loop exactly when it is below the baseline. -/
theorem stops_eq_below {a : PollAttempt} {status : StatusReply} (ho : a.outcome = .reply status)
    (hk : status.uptimeMs.isSome = true) : a.stops (some baseline) = a.below baseline := by
  obtain ⟨uptime, hu⟩ := Option.isSome_iff_exists.mp hk
  unfold PollAttempt.stops PollAttempt.below isStale
  by_cases hlt : uptime < baseline
  · simp [ho, hu, hlt]
  · simp [ho, hu, hlt, Nat.le_of_not_lt hlt]

theorem PollAttempt.stops_of_below {a : PollAttempt} (h : a.below baseline = true) :
    a.stops (some baseline) = true := by
  obtain ⟨status, ho, hk⟩ := PollAttempt.reply_of_below h
  rw [stops_eq_below ho hk]
  exact h

/-- Any other reply is stale, and a failure stops the loop when it is not caught. -/
theorem stops_iff_caught {a : PollAttempt} (hb : a.below baseline = false)
    (hk : ∀ status, a.outcome = .reply status → status.uptimeMs.isSome = true) :
    a.stops (some baseline) = false ↔ ∀ e, a.outcome = .failed e → e.caught = true := by
  cases ho : a.outcome with
  | failed e => simp [PollAttempt.stops, ho]
  | reply status =>
      rw [stops_eq_below ho (hk status ho)]
      exact ⟨fun _ e he => PollOutcome.noConfusion he, fun _ => hb⟩

/-- The loop passes over what is in front of the first reply below the baseline exactly when it
    catches all of it. -/
theorem caughtInFront_iff (hk : UptimesKnown attempts) :
    CaughtInFront baseline attempts ↔
      ∀ a, attempts.find? (PollAttempt.stops (some baseline)) = some a →
        a.below baseline = true := by
  rw [found_iff fun a _ => PollAttempt.stops_of_below]
  refine forall₂_congr fun a ha => (stops_iff_caught ?_ ?_).symm
  · simpa using List.mem_takeWhile_imp ha
  · exact hk a ((List.takeWhile_sublist _).subset ha)

/-- The first reply below the baseline ends the loop, when nothing else ends it before. -/
theorem first_below (hc : CaughtInFront baseline attempts) (hk : UptimesKnown attempts) :
    attempts.find? (PollAttempt.below baseline) =
      attempts.find? (PollAttempt.stops (some baseline)) :=
  (find_eq_iff fun _ _ => PollAttempt.stops_of_below).mpr ((caughtInFront_iff hk).mp hc)

/-- What an attempt that stops the loop makes the poll return. -/
theorem pollAnswer_stopped {a : PollAttempt}
    (h : (inTime (startedAt + maxWait) attempts).find? (PollAttempt.stops (some baseline)) =
      some a) :
    pollAnswer trigger startedAt maxWait baseline attempts = a.ended.answer trigger := by
  rw [pollAnswer, pollStatusForRecovery, pollLoop_stopped none none h]

/-- A poll that raises nothing was stopped by no failure. -/
theorem below_of_stops {a : PollAttempt} (hk : UptimesKnown (inTime (startedAt + maxWait) attempts))
    (hs : ∀ e, pollAnswer trigger startedAt maxWait baseline attempts ≠ .error e)
    (h : (inTime (startedAt + maxWait) attempts).find? (PollAttempt.stops (some baseline)) =
      some a) : a.below baseline = true := by
  have hstops := List.find?_some h
  cases ho : a.outcome with
  | failed e =>
      refine absurd ?_ (hs e)
      rw [pollAnswer_stopped h, PollAttempt.ended, ho]
      rfl
  | reply status =>
      rw [← stops_eq_below ho (hk a (List.mem_of_find?_eq_some h) status ho)]
      exact hstops

/-- **The first reply below the baseline is returned** when every failure before it is caught. -/
theorem pollAnswer_recovers {a : PollAttempt} {status : StatusReply}
    (hk : UptimesKnown (inTime (startedAt + maxWait) attempts))
    (hc : CaughtInFront baseline (inTime (startedAt + maxWait) attempts))
    (hf : (inTime (startedAt + maxWait) attempts).find? (PollAttempt.below baseline) = some a)
    (ho : a.outcome = .reply status) :
    pollAnswer trigger startedAt maxWait baseline attempts =
      .ok ⟨status.resetReason.getD [], some (status.networkConnected.getD false),
        some (a.finishedAt - trigger), .reply status⟩ := by
  rw [pollAnswer_stopped ((first_below hc hk).symm.trans hf), PollAttempt.ended, ho]
  rfl

/-- **The poll survives exactly the failures it catches**, whatever the outcomes and their order:
    no failure in front of the first reply below the baseline escapes it. -/
theorem poll_survives_iff (hk : UptimesKnown (inTime (startedAt + maxWait) attempts)) :
    PollSurvives trigger startedAt maxWait baseline attempts ↔
      CaughtInFront baseline (inTime (startedAt + maxWait) attempts) := by
  constructor
  · intro hs
    exact (caughtInFront_iff hk).mpr fun a ha => below_of_stops hk hs.raisesNothing ha
  · intro hc
    refine ⟨fun e he => ?_, fun a status hf ho => pollAnswer_recovers hk hc hf ho⟩
    cases hf : (inTime (startedAt + maxWait) attempts).find? (PollAttempt.below baseline) with
    | none =>
        obtain ⟨err, stale, hend⟩ :=
          pollLoop_gaveUp none none ((first_below hc hk).symm.trans hf)
        rw [pollAnswer, pollStatusForRecovery, hend] at he
        cases stale <;> cases he
    | some a =>
        obtain ⟨status, ho, -⟩ := PollAttempt.reply_of_below (List.find?_some hf)
        rw [pollAnswer_recovers hk hc hf ho] at he
        cases he

/-- **The event is recorded as recovered exactly then**, when a reply below the baseline came in
    time and the thread was waited for. -/
theorem event_recovered_iff {a : PollAttempt}
    (hk : UptimesKnown (inTime (startedAt + maxWait) attempts))
    (hf : (inTime (startedAt + maxWait) attempts).find? (PollAttempt.below baseline) = some a) :
    (eventValue true (pollAnswer trigger startedAt maxWait baseline attempts)).recoveryMs.isSome =
        true ↔
      CaughtInFront baseline (inTime (startedAt + maxWait) attempts) := by
  constructor
  · intro h
    have hraises : ∀ e, pollAnswer trigger startedAt maxWait baseline attempts ≠ .error e := by
      intro e he
      rw [he] at h
      cases h
    exact (caughtInFront_iff hk).mpr fun b hb => below_of_stops hk hraises hb
  · intro hc
    obtain ⟨status, ho, -⟩ := PollAttempt.reply_of_below (List.find?_some hf)
    rw [pollAnswer_recovers hk hc hf ho]
    rfl

end Poll

/-! ## 3. Two polls -/

/-- The status of a device `uptime` milliseconds after its boot. -/
def statusAt (uptime : Nat) : StatusReply := ⟨some uptime, some "software".toList, some true⟩

/-- The reset cuts the first response short; half a second later the new boot answers. -/
def cutShort : List PollAttempt :=
  [⟨1000, .failed .incompleteRead, 1100, 1100⟩, ⟨1400, .reply (statusAt 300), 1450, 1440⟩]

/-- **The truncated response ends the poll**, and the event is recorded as not recovered. -/
theorem truncated_kills_poll :
    ¬ (∀ (trigger startedAt maxWait baseline : Nat) (attempts : List PollAttempt),
        UptimesKnown (inTime (startedAt + maxWait) attempts) →
          PollSurvives trigger startedAt maxWait baseline attempts) ∧
      eventValue true (pollAnswer 900 950 15000 60000 cutShort) =
        ⟨[], none, none, .pollThreadTimeout⟩ := by
  have hk : UptimesKnown (inTime (950 + 15000) cutShort) := by
    simp [UptimesKnown, inTime, cutShort, statusAt]
  exact ⟨fun h => (h 900 950 15000 60000 cutShort hk).raisesNothing .incompleteRead (by decide),
    by decide⟩

/-- The connection is reset, a request times out, the old boot answers once more, and then the
    new one. -/
def caughtAll : List PollAttempt :=
  [⟨1000, .failed .connection, 1100, 1100⟩, ⟨1400, .failed .timeout, 3400, 3400⟩,
    ⟨3700, .reply (statusAt 60500), 3750, 3740⟩, ⟨4050, .reply (statusAt 300), 4100, 4090⟩]

theorem poll_survives_caught :
    pollAnswer 900 950 15000 60000 caughtAll =
        .ok ⟨"software".toList, some true, some 3200, .reply (statusAt 300)⟩ ∧
      PollSurvives 900 950 15000 60000 caughtAll := by
  have hk : UptimesKnown (inTime (950 + 15000) caughtAll) := by
    simp [UptimesKnown, inTime, caughtAll, statusAt]
  have hc : CaughtInFront 60000 (inTime (950 + 15000) caughtAll) := by
    simp [CaughtInFront, inTime, caughtAll, statusAt, PollAttempt.below, HttpFailure.caught]
  exact ⟨by decide, (poll_survives_iff hk).mpr hc⟩

end DragonBench
