/-
  File:      DragonBench/Evidence.lean
  Subject:   THE EVIDENCE OF A RESET BY HAND: the two JSON logs that the threads of
             `tools/phase2_monitor.py` append to, and what the record of `tools/phase2_extract.py`
             says of a window of them.

  `serial_loop` logs what happens to the port, `http_heartbeat` asks the device for its status every
  second and logs the answer or the error. Each log is a line a record, with the time of the record
  in front. The threads go on in any order and share no file.

  * `LoggedEvent`, `LoggedBeat`, `jsonLog` -- the records, and the file they leave;
  * `Evidence`, `evidenceStep` -- the two threads;
  * `beatReply`, `beatTime`, `extracted` -- `main` of `phase2_extract` behind `load_raw_lines`;
  * `loadJsonl_log` -- a log is read as its records in the window;
  * **`evidence_recorded`** -- what the record says of the port and of the device has happened.
-/
import DragonBench.Display
import DragonBench.Export

namespace DragonBench

open DateTime Json Lines TextFile Transition Utf8Replace

/-! ## 1. The logs -/

/-- `ev` of `log_event`, behind its time. -/
def MonitorEvent.members : MonitorEvent → List (CText × Json)
  | .monitorStart port hwid vidPid =>
    [("type".toList, .str "MONITOR_START".toList), ("port".toList, .str port),
      ("hwid".toList, .str hwid), ("vid_pid".toList, .str vidPid)]
  | .portLost port error =>
    [("type".toList, .str "PORT_LOST".toList), ("port".toList, .str port),
      ("error".toList, .str error)]
  | .portReacquired port hwid =>
    [("type".toList, .str "PORT_REACQUIRED".toList), ("port".toList, .str port),
      ("hwid".toList, optional .str hwid)]
  | .ambiguous candidates =>
    [("type".toList, .str "PORT_REACQUIRE_AMBIGUOUS".toList),
      ("candidates".toList, .arr (candidates.map .str))]
  | .waiting waited =>
    -- `round(waited, 1)`, of tenths
    [("type".toList, .str "PORT_REACQUIRE_WAITING".toList), ("waited_s".toList, .num (waited / 10))]

structure LoggedEvent where
  stamp : Utc
  event : MonitorEvent
  deriving DecidableEq

/-- A record of `http_heartbeat`: the response, none when `urlopen` raises, and the text of the
    exception, if there is one. -/
structure LoggedBeat where
  stamp : Utc
  response : Option HttpResponse
  error : CText

/-- `json.loads(resp.read().decode())`; `urlopen` raises on an error status. -/
def heartbeatStatus (response : HttpResponse) : Option Json :=
  if 400 ≤ response.status then none else (decodeUtf8 response.body).bind python.loads

/-- `rec`, behind its time. -/
def LoggedBeat.members (b : LoggedBeat) : List (CText × Json) :=
  match b.response.bind heartbeatStatus with
  | some v => [("status".toList, v)]
  | none => [("error".toList, .str b.error)]

/-- A record with its time. -/
def stamped (record : Utc × List (CText × Json)) : List (CText × Json) :=
  ("ts".toList, .str (isoformat record.1.toFields)) :: record.2

/-- The file the records leave, a line each. -/
def jsonLog (sep : LineSep) (fmt : ℚ → CText) (records : List (Utc × List (CText × Json))) : CText :=
  records.flatMap fun r => written sep (pyDumps fmt (.obj (stamped r)) ++ ['\n'])

def LoggedEvent.record (e : LoggedEvent) : Utc × List (CText × Json) := (e.stamp, e.event.members)

def LoggedBeat.record (b : LoggedBeat) : Utc × List (CText × Json) := (b.stamp, b.members)

/-! ## 2. The threads -/

/-- The monitor with what its threads have written. -/
structure Evidence where
  serial : Monitor
  events : List LoggedEvent
  /-- `rec` of a request that is on its way -/
  asked : Option Utc
  beats : List LoggedBeat

inductive EvidenceAction where
  /-- a step of `serial_loop`, and the time of each record it logs -/
  | serial (a : MonitorAction) (stamps : List Utc)
  /-- `http_heartbeat` at `now_iso()` -/
  | ask (now : Utc)
  /-- it logs what has come of its request -/
  | answered (response : Option HttpResponse) (error : CText)

/-- One step of either thread. -/
def evidenceStep (vidPid : CText) (s : Evidence) : EvidenceAction → Option Evidence
  | .serial a stamps =>
    (monitorStep vidPid s.serial a).bind fun m =>
      let logged := m.events.drop s.serial.events.length
      if stamps.length = logged.length then
        some { s with serial := m, events := s.events ++ List.zipWith .mk stamps logged }
      else none
  | .ask now =>
    match s.asked with
    | none => some { s with asked := some now }
    | some _ => none
  | .answered response error =>
    s.asked.map fun now => { s with asked := none, beats := s.beats ++ [⟨now, response, error⟩] }

/-- Both threads from the moment the port is open. -/
def Evidence.initial (port hwid vidPid : CText) (now : Utc) : Evidence :=
  ⟨.initial port hwid vidPid, [⟨now, .monitorStart port hwid vidPid⟩], none, []⟩

def evidence (vidPid : CText) : System Evidence EvidenceAction where
  init s := ∃ port hwid now, s = .initial port hwid vidPid now
  step := evidenceStep vidPid

/-! ## 3. `main` of `phase2_extract` -/

/-- The entry is in the window. -/
def InWindow (start stop : Int) (t : Utc) : Prop :=
  start ≤ t.toMillis.micros ∧ t.toMillis.micros ≤ stop

instance (start stop : Int) (t : Utc) : Decidable (InWindow start stop t) :=
  inferInstanceAs (Decidable (_ ∧ _))

/-- What is read of `st`, when its members have the types of a status; without a value for other
    types. -/
def statusReply : List (CText × Json) → Option (Option StatusReply)
  | [] => some none
  | st => do
    let uptime ← readOptional readInt? "uptime_ms".toList st
    let reason ← readOptional readText? "reset_reason".toList st
    let connected ← readOptional readBool? "network_connected".toList st
    pure (some ⟨uptime.map Int.toNat, reason, connected⟩)

/-- `h.get("status")`; the scan passes over one that counts as false. -/
def beatReply (h : List (CText × Json)) : Option (Option StatusReply) :=
  match member "status".toList h with
  | none | some .null | some (.bool false) | some (.str []) | some (.arr []) => some none
  | some (.num q) => if q = 0 then some none else none
  | some (.obj st) => statusReply st
  | some (.bool true) | some (.str _) | some (.arr _) => none

/-- `t`, in milliseconds behind the start, which is a whole one. -/
def beatTime (reader : IsoReader) (start : Int) (h : List (CText × Json)) : Option Nat :=
  match member "ts".toList h with
  | some (.str ts) =>
    match reader.fromisoformat ts with
    | some (.aware t) => some ((t - start) / 1000).toNat
    | _ => none
  | _ => none

/-- An entry of `http_events`, as the scan reads it. -/
def heartbeatEntry (reader : IsoReader) (start : Int) (h : List (CText × Json)) :
    Option Heartbeat := do
  let reply ← beatReply h
  let t ← beatTime reader start h
  pure ⟨t, reply, t⟩

/-- **What `main` makes its record of**, when nothing raises. -/
def extracted (reader : IsoReader) (start stop : Int) (index : Int) (resetClass : ExtractClass)
    (rawLines : List (Nat × CText)) (eventsFile httpLog : CText) : Option ExtractedEvent := do
  let portEvents ← loadJsonl reader pythonReader start stop (some eventsFile)
  let httpEvents ← loadJsonl reader pythonReader start stop (some httpLog)
  let heartbeats ← httpEvents.mapM (heartbeatEntry reader start)
  pure ⟨index, resetClass, rawLines, portEvents, heartbeats⟩

/-! ## 4. A log is read back -/

section Log

variable {fmt : ℚ → CText} {read : ℚ → ℚ} {reader : IsoReader} {start stop : Int} {sep : LineSep}

/-- **What `json.dumps` has written on one line, `json.loads` reads.** -/
theorem loads_pyDumps (hf : NumFormat fmt read) (v : Json) :
    python.loads (pyDumps fmt v) = some (readBack read v) := by
  have hreads : (Layout.oneLine asciiEscape [' ']).Reads python fun c => python.encode c.toNat := by
    refine Layout.oneLine_reads (fun c r => Dialect.stringBody_asciiEscape _ c r) fun c hc => ?_
    rw [List.mem_singleton.mp hc]
    rfl
  have h := Layout.loads_print hreads hf v 0 (w := []) fun c hc => absurd hc List.not_mem_nil
  rwa [List.append_nil, Layout.decoded_self python_encode] at h

/-- It is printable ASCII, so it holds no line boundary. -/
theorem pyDumps_plain (hf : NumFormat fmt read) (v : Json) :
    ∀ c ∈ pyDumps fmt v, isBreak c = false := by
  intro c hc
  obtain ⟨h1, h2⟩ := pyDumps_ascii hf v c hc
  rw [Bool.eq_false_iff]
  intro hb
  simp only [isBreak, Bool.or_eq_true, decide_eq_true_eq] at hb
  rcases hb with ((((((((rfl | rfl) | rfl) | rfl) | rfl) | rfl) | rfl) | rfl) | rfl) | rfl <;>
    revert h1 h2 <;> decide

/-- The line of a record is read as its object, when its time is in the window. -/
theorem loadJsonLine_stamped (hf : NumFormat fmt read) (r : Utc × List (CText × Json))
    (hts : member "ts".toList (stamped r) = some (.str (isoformat r.1.toFields))) :
    loadJsonLine reader pythonReader start stop (pyDumps fmt (.obj (stamped r))) =
      some (if InWindow start stop r.1 then some (readBackMembers read (stamped r)) else none) := by
  have hload : pythonReader.loads (pyDumps fmt (.obj (stamped r))) =
      .object (readBackMembers read (stamped r)) := by
    unfold pythonReader
    dsimp only
    rw [loads_pyDumps hf]
    rfl
  have hblank : isBlank (pyDumps fmt (.obj (stamped r))) = false := rfl
  have htext : pythonReader.ts (readBackMembers read (stamped r)) =
      .text (isoformat r.1.toFields) := by
    unfold pythonReader
    dsimp only
    rw [member_readBack, hts]
    rfl
  rw [loadJsonLine, hblank, hload]
  show loadRecord reader pythonReader start stop (readBackMembers read (stamped r)) = _
  unfold loadRecord
  simp only [htext, reader.inverse]
  split_ifs with h1 h2 h2
  · rfl
  · exact absurd h1 h2
  · exact absurd h2 h1
  · rfl

/-- **A log is read as its records in the window**, in their order. -/
theorem loadJsonl_log (hf : NumFormat fmt read) (sep : LineSep)
    (records : List (Utc × List (CText × Json)))
    (hts : ∀ r ∈ records, member "ts".toList (stamped r) = some (.str (isoformat r.1.toFields))) :
    loadJsonl reader pythonReader start stop (some (jsonLog sep fmt records)) =
      some ((records.filter fun r => decide (InWindow start stop r.1)).map fun r =>
        readBackMembers read (stamped r)) := by
  have hlines : readLines (jsonLog sep fmt records) =
      records.map fun r => pyDumps fmt (.obj (stamped r)) := by
    have hflat : jsonLog sep fmt records =
        written sep (records.flatMap fun r => pyDumps fmt (.obj (stamped r)) ++ ['\n']) := by
      unfold jsonLog
      clear hts
      induction records with
      | nil => rfl
      | cons r records ih => rw [List.flatMap_cons, List.flatMap_cons, ih, ← written_append]
    rw [hflat]
    clear hflat hts
    induction records with
    | nil => rfl
    | cons r records ih =>
        rw [List.flatMap_cons, List.append_assoc, List.singleton_append,
          readLines_line (pyDumps_plain hf _), ih]
        rfl
  show Option.map List.reduceOption ((readLines (jsonLog sep fmt records)).mapM
    (loadJsonLine reader pythonReader start stop)) = _
  rw [hlines]
  clear hlines
  induction records with
  | nil => rfl
  | cons r records ih =>
      have ih := ih fun t ht => hts t (List.mem_cons_of_mem r ht)
      obtain ⟨entries, he, hr⟩ := Option.map_eq_some_iff.mp ih
      rw [List.map_cons, List.mapM_cons, loadJsonLine_stamped hf r (hts r List.mem_cons_self), he]
      by_cases h : InWindow start stop r.1
      · rw [if_pos h, List.filter_cons, if_pos (decide_eq_true h), List.map_cons, ← hr]
        rfl
      · rw [if_neg h, List.filter_cons, if_neg (by rw [decide_eq_false h]; exact Bool.false_ne_true),
          ← hr]
        rfl

/-- So is one of records of any kind. -/
theorem loadJsonl_map {α : Type} (hf : NumFormat fmt read) (sep : LineSep) (xs : List α)
    (f : α → Utc × List (CText × Json))
    (hts : ∀ x, member "ts".toList (stamped (f x)) = some (.str (isoformat (f x).1.toFields))) :
    loadJsonl reader pythonReader start stop (some (jsonLog sep fmt (xs.map f))) =
      some ((xs.filter fun x => decide (InWindow start stop (f x).1)).map fun x =>
        readBackMembers read (stamped (f x))) := by
  rw [loadJsonl_log hf sep (xs.map f), List.filter_map, List.map_map]
  · rfl
  · intro r hr
    obtain ⟨x, -, rfl⟩ := List.mem_map.mp hr
    exact hts x

/-- No record has a second time. -/
theorem LoggedEvent.record_ts (e : LoggedEvent) :
    member "ts".toList (stamped e.record) = some (.str (isoformat e.record.1.toFields)) := by
  obtain ⟨stamp, event⟩ := e
  cases event <;> rfl

theorem LoggedBeat.record_ts (b : LoggedBeat) :
    member "ts".toList (stamped b.record) = some (.str (isoformat b.record.1.toFields)) := by
  unfold LoggedBeat.record LoggedBeat.members
  cases b.response.bind heartbeatStatus <;> rfl

end Log

/-! ## 5. The records of a run -/

section Records

variable {vidPid : CText} {s s' : Evidence}

/-- The events only grow. -/
theorem MonitorStep.events {m m' : Monitor} {a : MonitorAction} (h : MonitorStep vidPid m a m') :
    m.events <+: m'.events := by
  cases h with
  | fail | report => exact List.prefix_append _ _
  | @scan ports hpc =>
      unfold reacquireScan
      dsimp only
      split
      · exact List.prefix_refl _
      · rw [List.append_assoc]
        exact List.prefix_append _ _
  | read | line | probed | probeFailed | reopened | reopenFailed => exact List.prefix_refl _

/-- **What a step can do.** -/
inductive EvidenceStep (vidPid : CText) (s : Evidence) : EvidenceAction → Evidence → Prop where
  | serial {a : MonitorAction} {m : Monitor} {logged : List LoggedEvent}
      (hm : monitorStep vidPid s.serial a = some m)
      (hlogged : m.events = s.serial.events ++ logged.map LoggedEvent.event) :
      EvidenceStep vidPid s (.serial a (logged.map LoggedEvent.stamp))
        { s with serial := m, events := s.events ++ logged }
  | ask {now : Utc} : EvidenceStep vidPid s (.ask now) { s with asked := some now }
  | answered {now : Utc} {response : Option HttpResponse} {error : CText} (h : s.asked = some now) :
      EvidenceStep vidPid s (.answered response error)
        { s with asked := none, beats := s.beats ++ [⟨now, response, error⟩] }

/-- Times and events in pairs. -/
theorem map_zipWith_mk {stamps : List Utc} {events : List MonitorEvent}
    (h : stamps.length = events.length) :
    (List.zipWith LoggedEvent.mk stamps events).map LoggedEvent.stamp = stamps ∧
      (List.zipWith LoggedEvent.mk stamps events).map LoggedEvent.event = events := by
  induction stamps generalizing events with
  | nil =>
      cases events with
      | nil => exact ⟨rfl, rfl⟩
      | cons e events => cases h
  | cons now stamps ih =>
      cases events with
      | nil => cases h
      | cons e events =>
          obtain ⟨h1, h2⟩ := ih (Nat.succ.inj h)
          exact ⟨congrArg (now :: ·) h1, congrArg (e :: ·) h2⟩

theorem evidenceStep_cases {a : EvidenceAction} (h : evidenceStep vidPid s a = some s') :
    EvidenceStep vidPid s a s' := by
  cases a with
  | serial a stamps =>
      obtain ⟨m, hm, h⟩ := Option.bind_eq_some_iff.mp h
      dsimp only at h
      split_ifs at h with hlen
      cases h
      obtain ⟨hstamps, hevents⟩ := map_zipWith_mk hlen
      obtain ⟨more, hmore⟩ := (monitorStep_cases hm).events
      have hlogged : m.events = s.serial.events ++ (List.zipWith LoggedEvent.mk stamps
          (m.events.drop s.serial.events.length)).map LoggedEvent.event := by
        rw [hevents, ← hmore, List.drop_left]
      have hstep := EvidenceStep.serial hm hlogged
      rwa [hstamps] at hstep
  | ask now =>
      cases hasked : s.asked with
      | none =>
          simp only [evidenceStep, hasked, Option.some.injEq] at h
          rw [← h]
          exact .ask
      | some t =>
          simp only [evidenceStep, hasked] at h
          cases h
  | answered response error =>
      obtain ⟨now, hnow, rfl⟩ := Option.map_eq_some_iff.mp h
      exact .answered hnow

/-- **The log holds the events of the loop**, whose losses and reacquisitions alternate. -/
theorem events_reach (h : Reach (evidence vidPid) Always s) :
    s.events.map LoggedEvent.event = s.serial.events ∧ PortInv s.serial := by
  refine h.inv (I := fun s => s.events.map LoggedEvent.event = s.serial.events ∧ PortInv s.serial)
    ?_ ?_
  · rintro s ⟨port, hwid, now, rfl⟩
    exact ⟨rfl, alternating_reach (C := Always) (.start ⟨port, hwid, rfl⟩)⟩
  · intro s a s' _ I _ hs
    cases evidenceStep_cases hs with
    | serial hm hlogged =>
        refine ⟨?_, (monitorStep_cases hm).portInv I.2⟩
        show List.map LoggedEvent.event (s.events ++ _) = _
        rw [List.map_append, I.1, hlogged]
    | ask | answered => exact I

end Records

/-! ## 6. A window of the log -/

section Window

variable {start stop : Int} {events : List LoggedEvent}

def LoggedEvent.instant (e : LoggedEvent) : Int := e.stamp.toMillis.micros

/-- The entries of a window. -/
def windowOf (start stop : Int) (events : List LoggedEvent) : List LoggedEvent :=
  events.filter fun e => decide (InWindow start stop e.stamp)

/-- Behind the start a window is the first part of what is left. -/
theorem window_prefix (h : events.Pairwise fun x y => x.instant ≤ y.instant)
    (hstart : ∀ e ∈ events, start ≤ e.instant) : windowOf start stop events <+: events := by
  induction events with
  | nil => exact List.prefix_refl _
  | cons e events ih =>
      obtain ⟨hle, h⟩ := List.pairwise_cons.mp h
      obtain ⟨hs, hstart⟩ := List.forall_mem_cons.mp hstart
      by_cases hin : e.instant ≤ stop
      · rw [windowOf, List.filter_cons, if_pos (decide_eq_true ⟨hs, hin⟩)]
        exact List.cons_prefix_cons.mpr ⟨rfl, ih h hstart⟩
      · have hnone : windowOf start stop (e :: events) = [] := by
          refine List.filter_eq_nil_iff.mpr fun x hx => ?_
          have hex : e.instant ≤ x.instant := by
            rcases List.mem_cons.mp hx with rfl | hx
            · exact le_rfl
            · exact hle x hx
          rw [decide_eq_true_eq]
          exact fun hw => hin (hex.trans hw.2)
        rw [hnone]
        exact List.nil_prefix

/-- **When the clock is not set back, a window is one piece of the log.** -/
theorem window_infix (h : events.Pairwise fun x y => x.instant ≤ y.instant) :
    ∃ before behind, events = before ++ windowOf start stop events ++ behind := by
  induction events with
  | nil => exact ⟨[], [], rfl⟩
  | cons e events ih =>
      obtain ⟨hle, hrest⟩ := List.pairwise_cons.mp h
      by_cases hs : start ≤ e.instant
      · have hall : ∀ x ∈ e :: events, start ≤ x.instant :=
          List.forall_mem_cons.mpr ⟨hs, fun x hx => hs.trans (hle x hx)⟩
        have hfront : windowOf start stop (e :: events) <+: e :: events := window_prefix h hall
        obtain ⟨behind, hb⟩ := hfront
        exact ⟨[], behind, hb.symm⟩
      · obtain ⟨before, behind, hb⟩ := ih hrest
        refine ⟨e :: before, behind, ?_⟩
        have hout : windowOf start stop (e :: events) = windowOf start stop events :=
          List.filter_cons_of_neg fun hw => hs (of_decide_eq_true hw).1
        rw [hout, List.cons_append, List.cons_append, ← hb]

/-- A chain of unequal values of one kind. -/
theorem chain_of_one {c : PortChange} {l : List PortChange} (h : l.IsChain (· ≠ ·))
    (hc : ∀ x ∈ l, x = c) (hne : l ≠ []) : l = [c] := by
  match l, hne with
  | [x], _ => rw [hc x List.mem_cons_self]
  | x :: y :: l, _ =>
      have hxy : x ≠ y := (List.isChain_cons_cons.mp h).1
      exact absurd ((hc x List.mem_cons_self).trans
        (hc y (List.mem_cons_of_mem _ List.mem_cons_self)).symm) hxy

end Window

/-! ## 7. The record -/

section Record

variable {fmt : ℚ → CText} {read pyRead : ℚ → ℚ} {reader : IsoReader} {start stop : Int}

/-- **The response is a status of the device**, with an uptime that the log gives back. -/
structure AnsweredBy (read pyRead : ℚ → ℚ) (b : LoggedBeat) (FB : FirmwareBoot) (uptimeMs : Nat)
    (r : NetworkStatus) : Prop where
  format : NumFormat FB.boot.cfg.numText read
  uptime : pyRead (read (asDouble uptimeMs : ℚ)) = (asDouble uptimeMs : ℚ)
  status : ∃ run, b.response = some (statusGet FB run uptimeMs r)

/-- What the heartbeat thread loads is the status, and its texts were UTF-8. -/
theorem heartbeatStatus_statusGet {FB : FirmwareBoot} (hf : NumFormat FB.boot.cfg.numText read)
    {run : DbRun} {uptimeMs : Nat} {r : NetworkStatus} {v : Json}
    (h : heartbeatStatus (statusGet FB run uptimeMs r) = some v) :
    v = received read (.obj (statusMembers FB run uptimeMs r)) ∧
      utf8 (decodeReplace FB.boot.resetReasonText) = FB.boot.resetReasonText := by
  have heq : statusGet FB run uptimeMs r =
      sendJson FB.boot.cfg (statusMembers FB run uptimeMs r) 200 :=
    (DeviceAnswer.status run uptimeMs r).response_eq
  unfold heartbeatStatus at h
  split_ifs at h
  obtain ⟨raw, hraw, hv⟩ := Option.bind_eq_some_iff.mp h
  rw [heq] at hraw
  refine ⟨?_, utf8_of_print hf python hraw (status_fields (B := FB) run uptimeMs r).resetReason⟩
  rw [decodeUtf8_print hf hraw, Dialect.loads_print hf python] at hv
  exact (Option.some.inj hv).symm

/-- What `main` reads of it. -/
theorem statusReply_received {FB : FirmwareBoot} {run : DbRun} {uptimeMs : Nat}
    (hnum : pyRead (read (asDouble uptimeMs : ℚ)) = (asDouble uptimeMs : ℚ)) {r : NetworkStatus}
    {st : List (CText × Json)}
    (hst : received read (.obj (statusMembers FB run uptimeMs r)) = .obj st) :
    statusReply (readBackMembers pyRead st) =
      some (some ⟨some (asDouble uptimeMs), some (decodeReplace FB.boot.resetReasonText),
        some r.networkConnected⟩) := by
  have F := status_fields (B := FB) run uptimeMs r
  have hmember : ∀ name, member name (readBackMembers pyRead st) =
      ((Js.member name (.obj (statusMembers FB run uptimeMs r))).map (received read)).map
        (readBack pyRead) := by
    intro name
    rw [member_readBack, ← member_received_of_ascii (statusMembers_ascii run uptimeMs r), hst]
    rfl
  have hne : ∀ st : List (CText × Json), st ≠ [] → statusReply st = (do
      let uptime ← readOptional readInt? "uptime_ms".toList st
      let reason ← readOptional readText? "reset_reason".toList st
      let connected ← readOptional readBool? "network_connected".toList st
      pure (some ⟨uptime.map Int.toNat, reason, connected⟩)) := by
    intro st h
    cases st with
    | nil => exact absurd rfl h
    | cons m st => rfl
  have hu : readOptional readInt? "uptime_ms".toList (readBackMembers pyRead st) =
      some (some (asDouble uptimeMs : Int)) := by
    rw [readOptional, hmember, F.uptime]
    show (readInt? (.num (pyRead (read (asDouble uptimeMs : ℚ))))).map some = _
    rw [hnum, readInt?, if_pos (Rat.den_natCast _), Rat.num_natCast]
    rfl
  have hr : readOptional readText? "reset_reason".toList (readBackMembers pyRead st) =
      some (some (decodeReplace FB.boot.resetReasonText)) := by
    rw [readOptional, hmember, F.resetReason]
    rfl
  have hc : readOptional readBool? "network_connected".toList (readBackMembers pyRead st) =
      some (some r.networkConnected) := by
    rw [readOptional, hmember, F.connected]
    rfl
  have hcons : readBackMembers pyRead st ≠ [] := by
    intro hnil
    rw [hnil] at hu
    cases hu
  rw [hne _ hcons, hu, hr, hc]
  rfl

/-- What is loaded of a heartbeat is a status of the device. -/
def FromDevice (read pyRead : ℚ → ℚ) (b : LoggedBeat) : Prop :=
  b.response.bind heartbeatStatus ≠ none → ∃ FB uptimeMs r, AnsweredBy read pyRead b FB uptimeMs r

/-- The reply of a logged heartbeat. -/
inductive Replied (read pyRead : ℚ → ℚ) (b : LoggedBeat) : Option StatusReply → Prop where
  /-- no answer, an error, or bytes that are no UTF-8 -/
  | error (h : b.response.bind heartbeatStatus = none) : Replied read pyRead b none
  | status {FB : FirmwareBoot} {uptimeMs : Nat} {r : NetworkStatus} {v : Json}
      (h : b.response.bind heartbeatStatus = some v)
      (answered : AnsweredBy read pyRead b FB uptimeMs r) :
      Replied read pyRead b (some ⟨some (asDouble uptimeMs),
        some (decodeReplace FB.boot.resetReasonText), some r.networkConnected⟩)

theorem FromDevice.replied {b : LoggedBeat} (h : FromDevice read pyRead b) :
    ∃ reply, Replied read pyRead b reply := by
  cases hv : b.response.bind heartbeatStatus with
  | none => exact ⟨none, .error hv⟩
  | some v =>
      obtain ⟨FB, uptimeMs, r, hanswered⟩ := h (by rw [hv]; exact Option.some_ne_none v)
      exact ⟨_, .status hv hanswered⟩

/-- The milliseconds of a record behind the start. -/
def millisBehind (start : Int) (t : Utc) : Nat := ((t.toMillis.micros - start) / 1000).toNat

/-- **A logged heartbeat is read as its reply at its time.** -/
theorem heartbeatEntry_record {b : LoggedBeat} {reply : Option StatusReply}
    (h : Replied read pyRead b reply) :
    heartbeatEntry reader start (readBackMembers pyRead (stamped b.record)) =
      some ⟨millisBehind start b.stamp, reply, millisBehind start b.stamp⟩ := by
  have htime : beatTime reader start (readBackMembers pyRead (stamped b.record)) =
      some (millisBehind start b.stamp) := by
    have hts : member "ts".toList (readBackMembers pyRead (stamped b.record)) =
        some (.str (isoformat b.stamp.toFields)) := by
      rw [member_readBack, b.record_ts]
      rfl
    simp only [beatTime, hts, reader.inverse, millisBehind]
  suffices hreply : beatReply (readBackMembers pyRead (stamped b.record)) = some reply by
    simp only [heartbeatEntry, hreply, htime]
    rfl
  cases h with
  | error hnone =>
      have hstatus : member "status".toList (readBackMembers pyRead (stamped b.record)) = none := by
        rw [member_readBack, LoggedBeat.record, LoggedBeat.members, hnone]
        rfl
      rw [beatReply, hstatus]
  | @status FB uptimeMs r v hv hanswered =>
      obtain ⟨hf, hnum, run, hresponse⟩ := hanswered
      have hloaded : heartbeatStatus (statusGet FB run uptimeMs r) = some v := by
        rwa [hresponse] at hv
      obtain ⟨rfl, -⟩ := heartbeatStatus_statusGet hf hloaded
      obtain ⟨st, hst⟩ : ∃ st, received read (.obj (statusMembers FB run uptimeMs r)) = .obj st :=
        ⟨_, rfl⟩
      have hstatus : member "status".toList (readBackMembers pyRead (stamped b.record)) =
          some (.obj (readBackMembers pyRead st)) := by
        rw [member_readBack, LoggedBeat.record, LoggedBeat.members, hv, hst]
        rfl
      simp only [beatReply, hstatus, statusReply_received hnum hst]

/-- The heartbeats of a window. -/
theorem heartbeats_read (reader : IsoReader) (start : Int) {beats : List LoggedBeat}
    (h : ∀ b ∈ beats, FromDevice read pyRead b) :
    ∃ hs, (beats.map fun b => readBackMembers pyRead (stamped b.record)).mapM
        (heartbeatEntry reader start) = some hs ∧
      ∀ x ∈ hs, ∃ b ∈ beats, ∃ reply, Replied read pyRead b reply ∧
        x = ⟨millisBehind start b.stamp, reply, millisBehind start b.stamp⟩ := by
  induction beats with
  | nil => exact ⟨[], rfl, fun x hx => absurd hx List.not_mem_nil⟩
  | cons b beats ih =>
      obtain ⟨hs, he, hall⟩ := ih fun x hx => h x (List.mem_cons_of_mem b hx)
      obtain ⟨reply, hreply⟩ := (h b List.mem_cons_self).replied
      refine ⟨⟨millisBehind start b.stamp, reply, millisBehind start b.stamp⟩ :: hs, ?_, ?_⟩
      · rw [List.map_cons, List.mapM_cons, heartbeatEntry_record hreply, he]
        rfl
      · refine List.forall_mem_cons.mpr ⟨⟨b, List.mem_cons_self, reply, hreply, rfl⟩, fun x hx => ?_⟩
        obtain ⟨b', hb', hx⟩ := hall x hx
        exact ⟨b', List.mem_cons_of_mem b hb', hx⟩

/-- The name under which a change is logged. -/
def PortChange.type : PortChange → CText
  | .lost => "PORT_LOST".toList
  | .reacquired => "PORT_REACQUIRED".toList

/-- It is found again. -/
theorem hasType_record (c : PortChange) (e : LoggedEvent) :
    hasType c.type (readBackMembers pyRead (stamped e.record)) =
      decide (e.event.change = some c) := by
  rw [hasType, member_readBack]
  obtain ⟨stamp, event⟩ := e
  cases c <;> cases event <;> rfl

/-- **A kind of change is in the loaded log exactly when it was logged in the window.** -/
theorem loaded_change_iff (c : PortChange) (events : List LoggedEvent) :
    decide (1 ≤ ((events.map fun e => readBackMembers pyRead (stamped e.record)).filter
        (hasType c.type)).length) = true ↔ ∃ e ∈ events, e.event.change = some c := by
  rw [decide_eq_true_eq, Nat.one_le_iff_ne_zero, Nat.ne_zero_iff_zero_lt,
    List.length_pos_iff_exists_mem]
  constructor
  · rintro ⟨x, hx⟩
    obtain ⟨hx, htype⟩ := List.mem_filter.mp hx
    obtain ⟨e, he, rfl⟩ := List.mem_map.mp hx
    rw [hasType_record] at htype
    exact ⟨e, he, of_decide_eq_true htype⟩
  · rintro ⟨e, he, hc⟩
    refine ⟨_, List.mem_filter.mpr ⟨List.mem_map_of_mem he, ?_⟩⟩
    rw [hasType_record]
    exact decide_eq_true hc

/-- What the record says of the port. -/
theorem record_changes {e : ExtractedEvent} {events : List LoggedEvent}
    (h : e.portEvents = events.map fun x => readBackMembers pyRead (stamped x.record)) :
    (e.resetClass = .coldPower → (e.record.truePowerDisappearance = some true ↔
      ∃ x ∈ events, x.event.change = some .lost)) ∧
    (e.resetClass = .coldPower → (e.record.usbReenumerated = some true ↔
      ∃ x ∈ events, x.event.change = some .reacquired)) := by
  have hpower : e.resetClass = .coldPower → e.powerEvidence =
      (decide (1 ≤ e.portLost.length), decide (1 ≤ e.portReacquired.length)) := by
    intro hc
    rw [ExtractedEvent.powerEvidence, hc]
  have hl : e.portLost = (events.map fun x => readBackMembers pyRead (stamped x.record)).filter
      (hasType PortChange.lost.type) := by
    rw [← h]
    rfl
  have hr : e.portReacquired = (events.map fun x => readBackMembers pyRead (stamped x.record)).filter
      (hasType PortChange.reacquired.type) := by
    rw [← h]
    rfl
  constructor
  · intro hc
    show some e.powerEvidence.1 = some true ↔ _
    rw [hpower hc, Option.some_inj, hl]
    exact loaded_change_iff .lost events
  · intro hc
    show some e.powerEvidence.2 = some true ↔ _
    rw [hpower hc, Option.some_inj, hr]
    exact loaded_change_iff .reacquired events

/-- What it says of the device. -/
theorem answered_of_recovery {e : ExtractedEvent} {beats : List LoggedBeat} {q : ℚ}
    (h : ∀ x ∈ e.httpEvents, ∃ b ∈ beats, ∃ reply, Replied read pyRead b reply ∧
      x = ⟨millisBehind start b.stamp, reply, millisBehind start b.stamp⟩)
    (hq : e.record.httpRecoveryS = some q) :
    ∃ b ∈ beats, ∃ FB uptimeMs r, AnsweredBy read pyRead b FB uptimeMs r ∧
      utf8 e.record.appResetReason = FB.boot.resetReasonText ∧
      e.record.staAssociated = some r.networkConnected ∧
      ∃ marker, resetMarker e.rawLines = some marker ∧ marker ≤ millisBehind start b.stamp ∧
        q = Rounding.roundTo 2 ((millisBehind start b.stamp - marker : Nat) / 1000) := by
  obtain ⟨ms, hms, rfl⟩ := Option.map_eq_some_iff.mp hq
  cases hmarker : resetMarker e.rawLines with
  | none =>
      have hnone : e.answer.recoveryMs = none := by
        rw [ExtractedEvent.answer, hmarker, extractAnswer]
        exact fun _ _ _ h => Option.some_ne_none _ h.symm
      rw [hnone] at hms
      cases hms
  | some marker =>
      cases hfound : scanHeartbeats (some marker) none e.httpEvents with
      | none =>
          have hnone : e.answer.recoveryMs = none := by
            rw [ExtractedEvent.answer, hmarker, hfound]
            rfl
          rw [hnone] at hms
          cases hms
      | some x =>
          have hanswer : e.answer = ⟨(x.status.bind StatusReply.resetReason).getD [],
              some ((x.status.bind StatusReply.networkConnected).getD false),
              some (x.t - marker)⟩ := by
            rw [ExtractedEvent.answer, hmarker, hfound]
            rfl
          obtain ⟨hx, hsome, hle⟩ := scanHeartbeats_found hfound
          obtain ⟨b, hb, reply, hreply, rfl⟩ := h x hx
          rw [hanswer] at hms
          cases hms
          cases hreply with
          | error => cases hsome
          | @status FB uptimeMs r v hv hanswered =>
              refine ⟨b, hb, FB, uptimeMs, r, hanswered, ?_, ?_, marker, rfl, hle, rfl⟩
              · obtain ⟨run, hresponse⟩ := hanswered.status
                rw [hresponse] at hv
                have hreason : e.record.appResetReason = decodeReplace FB.boot.resetReasonText := by
                  show e.answer.appReason = _
                  rw [hanswer]
                  rfl
                rw [hreason]
                exact (heartbeatStatus_statusGet hanswered.format hv).2
              · show e.answer.netConnected = _
                rw [hanswer]
                rfl

end Record

/-- **What the record says of a window**: of the port, and of the device. -/
structure EvidenceRecorded (read pyRead : ℚ → ℚ) (start stop : Int) (s : Evidence) (e : ExtractedEvent) :
    Prop where
  lost : e.resetClass = .coldPower → (e.record.truePowerDisappearance = some true ↔
    ∃ x ∈ windowOf start stop s.events, x.event.change = some .lost)
  reacquired : e.resetClass = .coldPower → (e.record.usbReenumerated = some true ↔
    ∃ x ∈ windowOf start stop s.events, x.event.change = some .reacquired)
  /-- reacquired and not lost: the port was away when the window began, and came back once -/
  away : e.resetClass = .coldPower → (s.events.Pairwise fun x y => x.instant ≤ y.instant) →
    e.record.usbReenumerated = some true → e.record.truePowerDisappearance ≠ some true →
      ∃ before behind, s.events = before ++ windowOf start stop s.events ++ behind ∧
        lastChange (before.map LoggedEvent.event) = some .lost ∧
        portChanges ((windowOf start stop s.events).map LoggedEvent.event) = [.reacquired]
  /-- a recovery is a status of the device, behind the marker -/
  answered : ∀ q, e.record.httpRecoveryS = some q →
    ∃ b ∈ s.beats, InWindow start stop b.stamp ∧
      ∃ FB uptimeMs r, AnsweredBy read pyRead b FB uptimeMs r ∧
      utf8 e.record.appResetReason = FB.boot.resetReasonText ∧
      e.record.staAssociated = some r.networkConnected ∧
      ∃ marker, resetMarker e.rawLines = some marker ∧ marker ≤ millisBehind start b.stamp ∧
        q = Rounding.roundTo 2 ((millisBehind start b.stamp - marker : Nat) / 1000)

section Recorded

variable {fmt : ℚ → CText} {read pyRead : ℚ → ℚ} {reader : IsoReader} {start stop : Int}
  {vidPid : CText} {s : Evidence}

/-- **The port was away** when a window only holds its return. -/
theorem away_before (h : Reach (evidence vidPid) Always s)
    (hclock : s.events.Pairwise fun x y => x.instant ≤ y.instant)
    (hback : ∃ x ∈ windowOf start stop s.events, x.event.change = some .reacquired)
    (hkept : ¬ ∃ x ∈ windowOf start stop s.events, x.event.change = some .lost) :
    ∃ before behind, s.events = before ++ windowOf start stop s.events ++ behind ∧
      lastChange (before.map LoggedEvent.event) = some .lost ∧
      portChanges ((windowOf start stop s.events).map LoggedEvent.event) = [.reacquired] := by
  have hinfix : ∃ before behind, s.events = before ++ windowOf start stop s.events ++ behind :=
    window_infix hclock
  obtain ⟨before, behind, hsplit⟩ := hinfix
  obtain ⟨hevents, ⟨hchain, hhead⟩, -⟩ := events_reach h
  have hchanges : portChanges s.serial.events = portChanges (before.map LoggedEvent.event) ++
      portChanges ((windowOf start stop s.events).map LoggedEvent.event) ++
        portChanges (behind.map LoggedEvent.event) := by
    rw [← hevents, hsplit, List.map_append, List.map_append, portChanges_append, portChanges_append,
      ← hsplit]
  rw [hchanges] at hchain hhead
  obtain ⟨hfront, -, -⟩ := List.isChain_append.mp hchain
  obtain ⟨hbefore, hwindow, hjoin⟩ := List.isChain_append.mp hfront
  have hone : portChanges ((windowOf start stop s.events).map LoggedEvent.event) = [.reacquired] := by
    refine chain_of_one hwindow (fun c hc => ?_) fun hnil => ?_
    · obtain ⟨event, he, hchange⟩ := List.mem_filterMap.mp hc
      obtain ⟨x, hx, rfl⟩ := List.mem_map.mp he
      cases c with
      | lost => exact absurd ⟨x, hx, hchange⟩ hkept
      | reacquired => rfl
    · obtain ⟨x, hx, hchange⟩ := hback
      have hmem : PortChange.reacquired ∈
          portChanges ((windowOf start stop s.events).map LoggedEvent.event) :=
        List.mem_filterMap.mpr ⟨x.event, List.mem_map_of_mem hx, hchange⟩
      rw [hnil] at hmem
      cases hmem
  refine ⟨before, behind, hsplit, ?_, hone⟩
  unfold lastChange
  cases hlast : (portChanges (before.map LoggedEvent.event)).getLast? with
  | none =>
      -- the log does not begin with a reacquisition
      rw [List.getLast?_eq_none_iff.mp hlast, hone] at hhead
      exact absurd rfl hhead
  | some c =>
      cases c with
      | lost => rfl
      | reacquired => exact absurd rfl (hjoin _ hlast .reacquired (by rw [hone]; rfl))

/-- **THE RECORD OF A RESET BY HAND**: in every run of the two threads, with any window that begins
    at a whole millisecond, the logs are read without an exception, and what the record says has
    happened: the port was lost or came back in the window, and a recovery is a status the device has
    answered in it, with its reset reason. -/
theorem evidence_recorded (hpy : NumFormat fmt pyRead)
    (h : Reach (evidence vidPid) Always s) (hbeats : ∀ b ∈ s.beats, FromDevice read pyRead b)
    (sep : LineSep) (index : Int) (resetClass : ExtractClass) (rawLines : List (Nat × CText)) :
    ∃ e, extracted reader start stop index resetClass rawLines
        (jsonLog sep fmt (s.events.map LoggedEvent.record))
        (jsonLog sep fmt (s.beats.map LoggedBeat.record)) = some e ∧
      (e.index = index ∧ e.resetClass = resetClass ∧ e.rawLines = rawLines) ∧
      EvidenceRecorded read pyRead start stop s e := by
  have hevents : loadJsonl reader pythonReader start stop
      (some (jsonLog sep fmt (s.events.map LoggedEvent.record))) =
      some ((windowOf start stop s.events).map fun e => readBackMembers pyRead (stamped e.record)) :=
    loadJsonl_map hpy sep s.events LoggedEvent.record LoggedEvent.record_ts
  have hhttp : loadJsonl reader pythonReader start stop
      (some (jsonLog sep fmt (s.beats.map LoggedBeat.record))) =
      some ((s.beats.filter fun b => decide (InWindow start stop b.stamp)).map fun b =>
        readBackMembers pyRead (stamped b.record)) :=
    loadJsonl_map hpy sep s.beats LoggedBeat.record LoggedBeat.record_ts
  have hin : ∀ b ∈ s.beats.filter fun b => decide (InWindow start stop b.stamp),
      FromDevice read pyRead b := fun b hb => hbeats b (List.mem_filter.mp hb).1
  obtain ⟨hs, hread, hall⟩ := heartbeats_read reader start hin
  refine ⟨⟨index, resetClass, rawLines, (windowOf start stop s.events).map fun e =>
    readBackMembers pyRead (stamped e.record), hs⟩, ?_, ⟨rfl, rfl, rfl⟩, ?_⟩
  · simp only [extracted, hevents, hhttp, Option.bind_eq_bind, Option.bind_some, hread]
    rfl
  · obtain ⟨hlost, hback⟩ := record_changes (e := ⟨index, resetClass, rawLines, _, hs⟩) rfl
    refine ⟨hlost, hback, fun hc hclock hb hk => ?_, fun q hq => ?_⟩
    · exact away_before h hclock ((hback hc).mp hb) fun hl => hk ((hlost hc).mpr hl)
    · obtain ⟨b, hb, hanswered⟩ := answered_of_recovery hall hq
      obtain ⟨hb, hin⟩ := List.mem_filter.mp hb
      exact ⟨b, hb, of_decide_eq_true hin, hanswered⟩

end Recorded

/-! ## 8. A power cycle -/

/-- The status of a device on a network with an umlaut in its name. -/
def officeStatus : NetworkStatus := { NetworkStatus.blank with staSsid := utf8 "Büro".toList }

/-- The port is lost and back, with a heartbeat that fails between two that are answered. -/
def powerCycle : Evidence :=
  (evidence benchVidPid).runEnd (.initial "COM5".toList benchHwid benchVidPid benchStamp)
    [.ask benchStamp, .answered (some (statusGet benchFirmware .initial 60000 officeStatus)) [],
      .serial (.fail "device reports readiness to read".toList) [benchStamp],
      .serial (.scan []) [benchStamp], .ask benchStamp, .answered none "timed out".toList,
      .serial (.scan [⟨"COM7".toList, benchHwid⟩]) [], .serial (.probe true) [],
      .serial (.reopen none) [], .serial (.report [⟨"COM7".toList, benchHwid⟩]) [benchStamp],
      .ask benchStamp, .answered (some (statusGet benchFirmware .initial 3000 officeStatus)) []]

set_option maxRecDepth 20000 in
/-- The record of the window around it. -/
theorem evidence_recorded_power_cycle :
    ∃ e, extracted utcReader benchWindow.1 benchWindow.2 1 .coldPower
        [(1000, "ESP-ROM:esp32s3".toList)]
        (jsonLog .crlf intText (powerCycle.events.map LoggedEvent.record))
        (jsonLog .crlf intText (powerCycle.beats.map LoggedBeat.record)) = some e ∧
      e.record.truePowerDisappearance = some true ∧ e.record.usbReenumerated = some true := by
  have hreach : Reach (evidence benchVidPid) Always powerCycle :=
    reach_runEnd (.start ⟨_, _, _, rfl⟩) (by decide +kernel)
  have hf : NumFormat benchFirmware.boot.cfg.numText fun q => (q.num.toNat : ℚ) := decimalFormat
  have hnum : ∀ n : Nat, (((((asDouble n : ℚ).num.toNat : ℚ)).num : Int) : ℚ) = (asDouble n : ℚ) := by
    intro n
    simp only [Rat.num_natCast, Int.toNat_natCast, Int.cast_natCast]
  have hbeats : ∀ b ∈ powerCycle.beats,
      FromDevice (fun q => (q.num.toNat : ℚ)) (fun q => (q.num : ℚ)) b := by
    intro b hb hloaded
    have hlist : powerCycle.beats =
        [⟨benchStamp, some (statusGet benchFirmware .initial 60000 officeStatus), []⟩,
          ⟨benchStamp, none, "timed out".toList⟩,
          ⟨benchStamp, some (statusGet benchFirmware .initial 3000 officeStatus), []⟩] := rfl
    rw [hlist] at hb
    simp only [List.mem_cons, List.not_mem_nil, or_false] at hb
    rcases hb with rfl | rfl | rfl
    · exact ⟨benchFirmware, 60000, officeStatus, hf, hnum 60000, .initial, rfl⟩
    · exact absurd rfl hloaded
    · exact ⟨benchFirmware, 3000, officeStatus, hf, hnum 3000, .initial, rfl⟩
  obtain ⟨e, he, ⟨-, hclass, -⟩, R⟩ := evidence_recorded intFormat hreach hbeats .crlf 1
    .coldPower [(1000, "ESP-ROM:esp32s3".toList)]
  refine ⟨e, he, (R.lost hclass).mpr ?_, (R.reacquired hclass).mpr ?_⟩
  · exact ⟨⟨benchStamp, .portLost "COM5".toList "device reports readiness to read".toList⟩,
      by decide +kernel, rfl⟩
  · exact ⟨⟨benchStamp, .portReacquired "COM7".toList (some benchHwid)⟩, by decide +kernel, rfl⟩

end DragonBench
