/-
  File:      DragonBench/Monitor.lean
  Subject:   THE MONITOR OUTLIVES THE PORT: `serial_loop` and `_reacquire` of
             `tools/phase2_monitor.py`, over every order of reads, disconnects and attempts to open
             the port again.

  `_reacquire` opens the port to see whether it is there, closes it and returns; `serial_loop`
  then opens it once more, inside its exception handler. A failure of the first is caught, a
  failure of the second is not.

  * `monitorStep`, `MonitorStep` -- one call after the other, what each can do;
  * `portChanges`, `Alternating` -- losses and reacquisitions in the event log;
  * `alternating_reach` -- they alternate in every run;
  * **`serial_loop_survives`** -- a run in which no second opening fails does not end;
  * `serial_loop_ends` -- the port goes away between the two.
-/
import DragonBench.Lib.DateTime
import DragonBench.Lib.Transition
import DragonBench.Lib.Utf8Replace
import Mathlib.Data.List.Chain
import Mathlib.Data.List.DropRight
import Mathlib.Data.List.Infix

namespace DragonBench

open Transition

/-! ## 1. The loop -/

/-- An entry of `list_ports.comports()`. -/
structure ComPort where
  device : CText
  hwid : CText
  deriving DecidableEq, Repr

/-- `hwid_of`. -/
def hwidOf (portName : CText) (ports : List ComPort) : Option CText :=
  (ports.find? fun p => decide (p.device = portName)).map ComPort.hwid

/-- `candidates_for`; a hardware id is ASCII. -/
def candidatesFor (vidPid : CText) (ports : List ComPort) : List CText :=
  (ports.filter fun p => decide (vidPid <:+: p.hwid.map Char.toUpper)).map ComPort.device

/-- The records of the events file. -/
inductive MonitorEvent where
  | monitorStart (port hwid vidPid : CText)
  | portLost (port error : CText)
  | portReacquired (port : CText) (hwid : Option CText)
  | ambiguous (candidates : List CText)
  | waiting (waited : Nat)
  deriving DecidableEq, Repr

/-- A line of the raw log: the time, and the text behind it. -/
structure RawRecord where
  stamp : DateTime.Utc
  text : CText
  deriving DecidableEq

/-- The control points of `serial_loop`, those of `_reacquire` among them. -/
inductive MonitorPc where
  /-- at `ser.read` -/
  | reading
  /-- `while b"\n" in partial` -/
  | splitting
  /-- at `time.sleep` of `_reacquire` -/
  | sleeping
  /-- at the `serial.Serial` of `_reacquire` -/
  | probing (cand : CText)
  /-- at the `serial.Serial` behind `_reacquire` -/
  | reopening
  /-- at `PORT_REACQUIRED` -/
  | reporting
  /-- an exception has left the loop -/
  | terminated (error : CText)
  deriving DecidableEq, Repr

/-- The monitor behind its start. Times are tenths of a second; the sums of 0.3 are exact. -/
structure Monitor where
  pc : MonitorPc
  currentPort : CText
  partialLine : CText
  waited : Nat
  lastAmbiguousReport : Nat
  raw : List RawRecord
  events : List MonitorEvent
  deriving DecidableEq

/-- What the calls return. -/
inductive MonitorAction where
  /-- `ser.read` returns, without a byte when it timed out -/
  | read (chunk : CText)
  /-- it raises `SerialException` or `OSError`; so may the write of a line -/
  | fail (error : CText)
  /-- a line is written at `now` -/
  | line (now : DateTime.Utc)
  /-- the ports behind the sleep -/
  | scan (ports : List ComPort)
  /-- whether the probe could be opened and closed -/
  | probe (ok : Bool)
  /-- the exception of the second opening -/
  | reopen (error : Option CText)
  /-- the ports at `hwid_of` -/
  | report (ports : List ComPort)
  deriving DecidableEq

/-- Where the loop is with what it has of the next line. -/
def splitPc (partialLine : CText) : MonitorPc :=
  if '\n' ∈ partialLine then .splitting else .reading

/-- `line.decode(errors="replace").rstrip("\r")`. -/
def lineText (line : CText) : CText :=
  (Utf8Replace.decodeReplace line).rdropWhile fun c => decide (c = '\r')

/-- `_reacquire` behind its sleep. -/
def reacquireScan (vidPid : CText) (s : Monitor) (ports : List ComPort) : Monitor :=
  let waited := s.waited + 3
  let candidates := candidatesFor vidPid ports
  match candidates with
  | [cand] => { s with waited := waited, pc := .probing cand }
  | _ =>
    let report := decide (candidates.length > 1 ∧ waited - s.lastAmbiguousReport > 30)
    { s with
      waited := waited
      lastAmbiguousReport := if report then waited else s.lastAmbiguousReport
      events := s.events ++ (if report then [.ambiguous candidates] else []) ++
        if waited % 600 ≤ 3 then [.waiting waited] else [] }

/-- One step of the monitor. -/
def monitorStep (vidPid : CText) (s : Monitor) : MonitorAction → Option Monitor
  | .read chunk =>
    match s.pc with
    | .reading =>
      let partialLine := s.partialLine ++ chunk
      some { s with partialLine := partialLine, pc := splitPc partialLine }
    | _ => none
  | .fail error =>
    match s.pc with
    | .reading | .splitting =>
      some { s with
        events := s.events ++ [.portLost s.currentPort error]
        partialLine := []
        waited := 0
        lastAmbiguousReport := 0
        pc := .sleeping }
    | _ => none
  | .line now =>
    match s.pc with
    | .splitting =>
      let line := s.partialLine.takeWhile fun c => decide (c ≠ '\n')
      let rest := (s.partialLine.dropWhile fun c => decide (c ≠ '\n')).drop 1
      some { s with
        raw := s.raw ++ [⟨now, lineText line⟩]
        partialLine := rest
        pc := splitPc rest }
    | _ => none
  | .scan ports =>
    match s.pc with
    | .sleeping => some (reacquireScan vidPid s ports)
    | _ => none
  | .probe ok =>
    match s.pc with
    | .probing cand =>
      if ok then some { s with currentPort := cand, pc := .reopening }
      else some { s with pc := .sleeping }
    | _ => none
  | .reopen error =>
    match s.pc with
    | .reopening =>
      match error with
      | none => some { s with pc := .reporting }
      | some error => some { s with pc := .terminated error }
    | _ => none
  | .report ports =>
    match s.pc with
    | .reporting =>
      some { s with
        events := s.events ++ [.portReacquired s.currentPort (hwidOf s.currentPort ports)]
        pc := .reading }
    | _ => none

/-- The monitor from the moment its first port is open. -/
def Monitor.initial (port hwid vidPid : CText) : Monitor :=
  ⟨.reading, port, [], 0, 0, [], [.monitorStart port hwid vidPid]⟩

/-- The monitor of the devices with a vendor and product id. -/
def monitor (vidPid : CText) : System Monitor MonitorAction where
  init s := ∃ port hwid, s = .initial port hwid vidPid
  step := monitorStep vidPid

/-- **What a step can do.** -/
inductive MonitorStep (vidPid : CText) (s : Monitor) : MonitorAction → Monitor → Prop where
  | read {chunk : CText} (h : s.pc = .reading) :
      MonitorStep vidPid s (.read chunk)
        { s with partialLine := s.partialLine ++ chunk, pc := splitPc (s.partialLine ++ chunk) }
  | fail {error : CText} (h : s.pc = .reading ∨ s.pc = .splitting) :
      MonitorStep vidPid s (.fail error)
        { s with
          events := s.events ++ [.portLost s.currentPort error]
          partialLine := []
          waited := 0
          lastAmbiguousReport := 0
          pc := .sleeping }
  | line {now : DateTime.Utc} {line rest : CText} (h : s.pc = .splitting)
      (hl : line = s.partialLine.takeWhile fun c => decide (c ≠ '\n'))
      (hr : rest = (s.partialLine.dropWhile fun c => decide (c ≠ '\n')).drop 1) :
      MonitorStep vidPid s (.line now)
        { s with
          raw := s.raw ++ [⟨now, lineText line⟩]
          partialLine := rest
          pc := splitPc rest }
  | scan {ports : List ComPort} (h : s.pc = .sleeping) :
      MonitorStep vidPid s (.scan ports) (reacquireScan vidPid s ports)
  | probed {cand : CText} (h : s.pc = .probing cand) :
      MonitorStep vidPid s (.probe true) { s with currentPort := cand, pc := .reopening }
  | probeFailed {cand : CText} (h : s.pc = .probing cand) :
      MonitorStep vidPid s (.probe false) { s with pc := .sleeping }
  | reopened (h : s.pc = .reopening) :
      MonitorStep vidPid s (.reopen none) { s with pc := .reporting }
  | reopenFailed {error : CText} (h : s.pc = .reopening) :
      MonitorStep vidPid s (.reopen (some error)) { s with pc := .terminated error }
  | report {ports : List ComPort} (h : s.pc = .reporting) :
      MonitorStep vidPid s (.report ports)
        { s with
          events := s.events ++ [.portReacquired s.currentPort (hwidOf s.currentPort ports)]
          pc := .reading }

/-- **Every step of the monitor is one of these.** -/
theorem monitorStep_cases {vidPid : CText} {s s' : Monitor} {a : MonitorAction}
    (h : monitorStep vidPid s a = some s') : MonitorStep vidPid s a s' := by
  unfold monitorStep at h
  cases a with
  | read chunk =>
      dsimp only at h
      split at h
      · cases h
        exact .read ‹_›
      · cases h
  | fail error =>
      dsimp only at h
      split at h
      · cases h
        exact .fail (Or.inl ‹_›)
      · cases h
        exact .fail (Or.inr ‹_›)
      · cases h
  | line now =>
      dsimp only at h
      split at h
      · cases h
        exact .line ‹_› rfl rfl
      · cases h
  | scan ports =>
      dsimp only at h
      split at h
      · cases h
        exact .scan ‹_›
      · cases h
  | probe ok =>
      dsimp only at h
      split at h
      · cases ok with
        | true =>
            cases h
            exact .probed ‹_›
        | false =>
            cases h
            exact .probeFailed ‹_›
      · cases h
  | reopen error =>
      dsimp only at h
      split at h
      · cases error with
        | none =>
            cases h
            exact .reopened ‹_›
        | some error =>
            cases h
            exact .reopenFailed ‹_›
      · cases h
  | report ports =>
      dsimp only at h
      split at h
      · cases h
        exact .report ‹_›
      · cases h

/-! ## 2. Losses and reacquisitions -/

inductive PortChange where
  | lost | reacquired
  deriving DecidableEq, Repr

def MonitorEvent.change : MonitorEvent → Option PortChange
  | .portLost _ _ => some .lost
  | .portReacquired _ _ => some .reacquired
  | .monitorStart _ _ _ | .ambiguous _ | .waiting _ => none

/-- `PORT_LOST` and `PORT_REACQUIRED`, in the order of the log. -/
def portChanges (events : List MonitorEvent) : List PortChange :=
  events.filterMap MonitorEvent.change

/-- **Each loss is followed by one reacquisition before the next loss**: the log begins with a
    loss, and no two of a kind are next to each other. -/
def Alternating (events : List MonitorEvent) : Prop :=
  (portChanges events).IsChain (· ≠ ·) ∧ (portChanges events).head? ≠ some .reacquired

/-- The port is lost and not reported as reacquired. -/
def MonitorPc.lost : MonitorPc → Bool
  | .reading | .splitting => false
  | .sleeping | .probing _ | .reopening | .reporting | .terminated _ => true

/-- The last change of the log. -/
def lastChange (events : List MonitorEvent) : Option PortChange := (portChanges events).getLast?

/-- **The log and the loop agree.** -/
def PortInv (s : Monitor) : Prop :=
  Alternating s.events ∧ (lastChange s.events = some .lost ↔ s.pc.lost = true)

section Changes

variable {events more : List MonitorEvent}

theorem portChanges_append :
    portChanges (events ++ more) = portChanges events ++ portChanges more :=
  List.filterMap_append ..

/-- An entry of the other kind keeps the log alternating. -/
theorem Alternating.add {e : MonitorEvent} {c : PortChange} (h : Alternating events)
    (he : e.change = some c) (hlast : lastChange events ≠ some c)
    (hfirst : c = .reacquired → lastChange events = some .lost) :
    Alternating (events ++ [e]) := by
  have hp : portChanges (events ++ [e]) = portChanges events ++ [c] := by
    rw [portChanges_append]
    unfold portChanges
    rw [List.filterMap_cons_some he]
    rfl
  unfold Alternating
  rw [hp]
  refine ⟨List.isChain_append.mpr ⟨h.1, List.isChain_singleton c, fun x hx y hy => ?_⟩, ?_⟩
  · cases hy
    intro e
    subst e
    exact hlast hx
  · cases hchanges : portChanges events with
    | nil =>
        intro e
        cases e
        have hl := hfirst rfl
        unfold lastChange at hl
        rw [hchanges] at hl
        cases hl
    | cons x l =>
        have hh := h.2
        rw [hchanges] at hh
        exact hh

theorem lastChange_add {e : MonitorEvent} {c : PortChange} (he : e.change = some c) :
    lastChange (events ++ [e]) = some c := by
  unfold lastChange
  rw [portChanges_append]
  unfold portChanges
  rw [List.filterMap_cons_some he]
  exact List.getLast?_concat

end Changes

/-- A scan reports no change, and leaves the loop where the port is lost. -/
theorem reacquireScan_keeps (vidPid : CText) (s : Monitor) (ports : List ComPort)
    (h : s.pc = .sleeping) :
    portChanges (reacquireScan vidPid s ports).events = portChanges s.events ∧
      (reacquireScan vidPid s ports).pc.lost = true := by
  unfold reacquireScan
  dsimp only
  split
  · exact ⟨rfl, rfl⟩
  · rw [portChanges_append, portChanges_append, h]
    refine ⟨?_, rfl⟩
    have h1 : ∀ (c : Prop) [Decidable c] (e : MonitorEvent), e.change = none →
        portChanges (if c then [e] else []) = [] := by
      intro c _ e he
      split
      · exact List.filterMap_cons_none he
      · rfl
    rw [h1 _ _ rfl, h1 _ _ rfl, List.append_nil, List.append_nil]

theorem splitPc_lost (partialLine : CText) : (splitPc partialLine).lost = false := by
  unfold splitPc
  split <;> rfl

/-- **A step keeps the log and the loop in agreement.** -/
theorem MonitorStep.portInv {vidPid : CText} {s s' : Monitor} {a : MonitorAction}
    (h : MonitorStep vidPid s a s') (I : PortInv s) : PortInv s' := by
  obtain ⟨halt, hlast⟩ := I
  cases h with
  | read hpc | line hpc =>
      rw [hpc] at hlast
      exact ⟨halt, hlast.trans (by rw [splitPc_lost]; rfl)⟩
  | fail hpc =>
      have hheld : s.pc.lost = false := by
        rcases hpc with hpc | hpc <;> rw [hpc] <;> rfl
      have hne : lastChange s.events ≠ some .lost := fun e => by
        rw [hlast.mp e] at hheld
        cases hheld
      exact ⟨halt.add rfl hne fun e => PortChange.noConfusion e,
        ⟨fun _ => rfl, fun _ => lastChange_add rfl⟩⟩
  | @scan ports hpc =>
      obtain ⟨hc, hl⟩ := reacquireScan_keeps vidPid s ports hpc
      unfold PortInv Alternating lastChange
      rw [hc, hl]
      rw [hpc] at hlast
      exact ⟨halt, hlast⟩
  | probed hpc | probeFailed hpc | reopened hpc | reopenFailed hpc =>
      rw [hpc] at hlast
      exact ⟨halt, hlast⟩
  | @report ports hpc =>
      have hlost : lastChange s.events = some .lost := hlast.mpr (by rw [hpc]; rfl)
      have hne : lastChange s.events ≠ some .reacquired := by
        rw [hlost]
        decide
      have hnew : lastChange
          (s.events ++ [.portReacquired s.currentPort (hwidOf s.currentPort ports)]) =
          some .reacquired := lastChange_add rfl
      refine ⟨halt.add rfl hne fun _ => hlost, ⟨fun e => ?_, fun e => ?_⟩⟩
      · cases hnew.symm.trans e
      · cases e

section Runs

variable {vidPid : CText}

/-- **In every run losses and reacquisitions alternate.** -/
theorem alternating_reach {C : Monitor → MonitorAction → Prop} {s : Monitor}
    (h : Reach (monitor vidPid) C s) : PortInv s := by
  refine h.inv ?_ ?_
  · intro s hs
    obtain ⟨port, hwid, rfl⟩ := hs
    refine ⟨⟨List.isChain_nil, fun e => ?_⟩, ⟨fun e => ?_, fun e => ?_⟩⟩ <;> cases e
  · intro s a s' _ I _ hs
    exact (monitorStep_cases hs).portInv I

/-! ## 3. The second opening -/

/-- The port the probe has found is still there when it is opened again. -/
def ReopenHolds (_ : Monitor) : MonitorAction → Prop
  | .reopen (some _) => False
  | _ => True

instance (s : Monitor) : (a : MonitorAction) → Decidable (ReopenHolds s a)
  | .reopen (some _) => isFalse id
  | .reopen none | .read _ | .fail _ | .line _ | .scan _ | .probe _ | .report _ => isTrue trivial

/-- **The monitor goes on, and its log alternates**, in every run in which no second opening
    fails. -/
theorem serial_loop_survives {s : Monitor} (h : Reach (monitor vidPid) ReopenHolds s) :
    (∀ error, s.pc ≠ .terminated error) ∧ Alternating s.events := by
  refine ⟨?_, (alternating_reach h).1⟩
  refine h.inv (I := fun s => ∀ error, s.pc ≠ .terminated error) ?_ ?_
  · intro s hs error
    obtain ⟨port, hwid, rfl⟩ := hs
    exact MonitorPc.noConfusion
  · intro s a s' _ I hc hs error
    have hsplit : ∀ l, splitPc l ≠ .terminated error := fun l => by
      unfold splitPc
      split <;> exact MonitorPc.noConfusion
    cases monitorStep_cases hs with
    | read | line => exact hsplit _
    | @scan ports hpc =>
        unfold reacquireScan
        dsimp only
        split
        · exact MonitorPc.noConfusion
        · exact I error
    | reopenFailed => exact hc.elim
    | fail | probed | probeFailed | reopened | report => exact MonitorPc.noConfusion

end Runs

/-! ## 4. Two runs -/

def benchVidPid : CText := "1A86:55D3".toList

def benchHwid : CText := "USB VID:PID=1A86:55D3 SER=5970".toList

def benchMonitor : System Monitor MonitorAction := monitor benchVidPid

def benchStart : Monitor := .initial "COM5".toList benchHwid benchVidPid

/-- The port is lost and is back under another name: the probe opens it. -/
def portBack : List MonitorAction :=
  [.read "boot".toList, .fail "device reports readiness to read".toList, .scan [],
    .scan [⟨"COM7".toList, benchHwid⟩], .probe true]

def reacquiredRun : Monitor :=
  (benchMonitor.guard ReopenHolds).runEnd benchStart
    (portBack ++ [.reopen none, .report [⟨"COM7".toList, benchHwid⟩]])

set_option maxRecDepth 4000 in
/-- The port is opened again, and the monitor reads on. -/
theorem serial_loop_survives_reacquired :
    Alternating reacquiredRun.events ∧ reacquiredRun.pc = .reading ∧
      portChanges reacquiredRun.events = [.lost, .reacquired] := by
  have hr : Reach benchMonitor ReopenHolds reacquiredRun :=
    reach_guard (reach_runEnd (.start ⟨_, _, rfl⟩) (by decide))
  exact ⟨(serial_loop_survives hr).2, by decide, by decide⟩

/-- The port goes away again between the probe and the second opening. -/
def endedRun : Monitor :=
  benchMonitor.runEnd benchStart (portBack ++ [.reopen (some "could not open port".toList)])

set_option maxRecDepth 4000 in
/-- **The monitor can end by a serial exception**, with the loss as its last change. -/
theorem serial_loop_ends :
    Reach benchMonitor Always endedRun ∧
      endedRun.pc = .terminated "could not open port".toList ∧
      portChanges endedRun.events = [.lost] :=
  ⟨reach_runEnd (.start ⟨_, _, rfl⟩) (by decide), by decide, by decide⟩

end DragonBench
