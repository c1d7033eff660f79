/-
  File:      DragonBench/ReadLoop.lean
  Subject:   TWO READERS, ONE STREAM: `SerialMonitor._read_loop` (`tools/reset_characterization.py`)
             records what `serial_loop` (`tools/phase2_monitor.py`) logs, however the bytes are cut
             into reads.

  * `readLoopStep`, `serialReader` -- the reading thread, its reconnects and its end;
  * `streamLines` -- the stream split at the newlines, decoded and stripped;
  * `LinesSoFar` -- the texts so far and the bytes of the next line stand for the bytes read;
  * `reader_lines`, `monitor_lines` -- what an undisturbed run of either has recorded;
  * **`lines_agree`** -- every cut is a run of both, and both record the lines of the stream.
-/
import DragonBench.Lib.Chunks
import DragonBench.Monitor
import Mathlib.Data.Rat.Init

namespace DragonBench

open Chunks Transition

/-! ## 1. The reading thread -/

/-- The control points of `_read_loop`. -/
inductive ReaderPc where
  /-- at `self.ser.read` -/
  | reading
  /-- at `while b"\n" in partial` -/
  | splitting
  /-- in `_reconnect` -/
  | reconnecting (lostAt : ℚ)
  /-- behind the loop -/
  | stopped
  deriving DecidableEq, Repr

/-- `SerialMonitor`; times are seconds. -/
structure SerialReader where
  pc : ReaderPc
  partialLine : CText
  lines : List (ℚ × CText)
  /-- `disconnect_events`; the reader that gives up enters -1 for the second time -/
  disconnectEvents : List (ℚ × Option ℚ)
  stop : Bool
  deriving DecidableEq, Repr

/-- What the calls return. -/
inductive ReaderAction where
  /-- `self.ser.read` returns, without a byte when it timed out -/
  | read (chunk : CText)
  /-- it raises, at this time -/
  | fail (lostAt : ℚ)
  /-- a line is recorded at this time -/
  | line (ts : ℚ)
  /-- `_reconnect` has opened the port again -/
  | reconnected (reacquiredAt : ℚ)
  /-- or has not, for 120 s -/
  | gaveUp
  /-- `close` -/
  | close
  deriving DecidableEq, Repr

/-- `while not self._stop`. -/
def loopHead (stop : Bool) : ReaderPc := if stop then .stopped else .reading

/-- Where the loop is with what it has of the next line. -/
def readerPc (stop : Bool) (partialLine : CText) : ReaderPc :=
  if '\n' ∈ partialLine then .splitting else loopHead stop

/-- One step of the thread. -/
def readLoopStep (s : SerialReader) : ReaderAction → Option SerialReader
  | .read chunk =>
    match s.pc with
    | .reading =>
      if chunk = [] then some { s with pc := loopHead s.stop }
      else
        let partialLine := s.partialLine ++ chunk
        some { s with partialLine := partialLine, pc := readerPc s.stop partialLine }
    | _ => none
  | .fail lostAt =>
    match s.pc with
    | .reading => some { s with pc := .reconnecting lostAt }
    | _ => none
  | .line ts =>
    match s.pc with
    | .splitting =>
      let line := s.partialLine.takeWhile fun c => decide (c ≠ '\n')
      let rest := (s.partialLine.dropWhile fun c => decide (c ≠ '\n')).drop 1
      some { s with
        lines := s.lines ++ [(ts, lineText line)]
        partialLine := rest
        pc := readerPc s.stop rest }
    | _ => none
  | .reconnected reacquiredAt =>
    match s.pc with
    | .reconnecting lostAt =>
      some { s with
        disconnectEvents := s.disconnectEvents ++ [(lostAt, some reacquiredAt)]
        partialLine := []
        pc := loopHead s.stop }
    | _ => none
  | .gaveUp =>
    match s.pc with
    | .reconnecting lostAt =>
      some { s with
        disconnectEvents := s.disconnectEvents ++ [(lostAt, none)]
        partialLine := []
        stop := true
        pc := .stopped }
    | _ => none
  | .close => some { s with stop := true }

/-- The reader behind its start. -/
def SerialReader.initial : SerialReader := ⟨.reading, [], [], [], false⟩

def serialReader : System SerialReader ReaderAction where
  init s := s = .initial
  step := readLoopStep

/-! ## 2. The lines of a stream -/

/-- **The stream split at its newlines**, the tail left out, each piece decoded and stripped. -/
def streamLines (stream : CText) : List CText := (terminated '\n' stream).map lineText

/-- The texts and the bytes of the next line stand for the bytes read. -/
def LinesSoFar (bytes : CText) (texts : List CText) (partialLine : CText) : Prop :=
  ∃ pieces, Carries '\n' bytes pieces partialLine ∧ texts = pieces.map lineText

section LinesSoFar

variable {bytes partialLine : CText} {texts : List CText}

theorem linesSoFar_nil : LinesSoFar [] [] [] := ⟨[], carries_nil, rfl⟩

theorem LinesSoFar.read (h : LinesSoFar bytes texts partialLine) (chunk : CText) :
    LinesSoFar (bytes ++ chunk) texts (partialLine ++ chunk) := by
  obtain ⟨pieces, hc, ht⟩ := h
  exact ⟨pieces, hc.read chunk, ht⟩

/-- A line is taken off at the first newline. -/
theorem LinesSoFar.line (h : LinesSoFar bytes texts partialLine) (hn : '\n' ∈ partialLine) :
    LinesSoFar bytes (texts ++ [lineText (partialLine.takeWhile fun c => decide (c ≠ '\n'))])
      ((partialLine.dropWhile fun c => decide (c ≠ '\n')).drop 1) := by
  obtain ⟨pieces, hc, rfl⟩ := h
  rw [cut_eq hn] at hc
  refine ⟨_, hc.cut (not_mem_front '\n' partialLine), ?_⟩
  rw [List.map_append]
  rfl

/-- **All lines are recorded** when no newline is waiting. -/
theorem LinesSoFar.lines (h : LinesSoFar bytes texts partialLine) (hn : '\n' ∉ partialLine) :
    texts = streamLines bytes := by
  obtain ⟨pieces, hc, rfl⟩ := h
  rw [streamLines, ← hc.pieces hn]

/-- What is behind a newline is shorter. -/
theorem behind_shorter (hn : '\n' ∈ partialLine) :
    ((partialLine.dropWhile fun c => decide (c ≠ '\n')).drop 1).length < partialLine.length := by
  have hlen := congrArg List.length (cut_eq hn)
  rw [List.length_append, List.length_cons] at hlen
  omega

end LinesSoFar

/-! ## 3. The recorded lines -/

/-- The chunk of a read. -/
def ReaderAction.chunk : ReaderAction → List CText
  | .read chunk => [chunk]
  | .line _ | .close | .fail _ | .reconnected _ | .gaveUp => []

/-- The port stays. -/
def ReaderAction.undisturbed : ReaderAction → Bool
  | .read _ | .line _ | .close => true
  | .fail _ | .reconnected _ | .gaveUp => false

/-- **A run that reads these chunks** while the port stays, and has split what it has read. -/
def ReaderReads (chunks : List CText) (s : SerialReader) : Prop :=
  ∃ as, serialReader.exec .initial as = some s ∧ (∀ a ∈ as, a.undisturbed = true) ∧
    as.flatMap ReaderAction.chunk = chunks ∧ (s.pc = .reading ∨ s.pc = .stopped)

/-- What holds of the reader while the port stays. -/
structure ReaderInv (chunks : List CText) (s : SerialReader) : Prop where
  logged : LinesSoFar chunks.flatten (s.lines.map Prod.snd) s.partialLine
  waiting : s.pc ≠ .splitting → '\n' ∉ s.partialLine
  splitting : s.pc = .splitting → '\n' ∈ s.partialLine

theorem loopHead_ne (stop : Bool) : loopHead stop ≠ .splitting := by
  cases stop <;> exact ReaderPc.noConfusion

theorem readerPc_splitting (stop : Bool) (l : CText) : readerPc stop l = .splitting ↔ '\n' ∈ l := by
  unfold readerPc
  split
  · exact iff_of_true rfl ‹_›
  · exact iff_of_false (loopHead_ne stop) ‹_›

theorem flatten_concat (chunks : List CText) (chunk : CText) :
    (chunks ++ [chunk]).flatten = chunks.flatten ++ chunk := by
  rw [List.flatten_append, List.flatten_cons, List.flatten_nil, List.append_nil]

/-- **A step of the thread** keeps what has been read and what is recorded together. -/
theorem readLoopStep_inv (chunks : List CText) (s : SerialReader) (a : ReaderAction)
    (s' : SerialReader) (I : ReaderInv chunks s) (ha : a.undisturbed = true)
    (h : serialReader.step s a = some s') : ReaderInv (chunks ++ a.chunk) s' := by
  have hstep : readLoopStep s a = some s' := h
  unfold readLoopStep at hstep
  cases a with
  | read chunk =>
      dsimp only at hstep
      split at hstep
      · rename_i hpc
        have hlogged := I.logged.read chunk
        rw [← flatten_concat] at hlogged
        split at hstep
        · rename_i hempty
          cases hstep
          rw [hempty, List.append_nil] at hlogged
          rw [hempty]
          exact ⟨hlogged, fun _ => I.waiting (by rw [hpc]; exact ReaderPc.noConfusion),
            fun e => absurd e (loopHead_ne _)⟩
        · cases hstep
          exact ⟨hlogged, fun hne hn => hne ((readerPc_splitting _ _).mpr hn),
            (readerPc_splitting _ _).mp⟩
      · cases hstep
  | line ts =>
      dsimp only at hstep
      split at hstep
      · rename_i hpc
        cases hstep
        have hlogged := I.logged.line (I.splitting hpc)
        refine ⟨?_, fun hne hn => hne ((readerPc_splitting _ _).mpr hn), (readerPc_splitting _ _).mp⟩
        rw [ReaderAction.chunk, List.append_nil, List.map_append]
        exact hlogged
      · cases hstep
  | close =>
      cases hstep
      rw [ReaderAction.chunk, List.append_nil]
      exact ⟨I.logged, I.waiting, I.splitting⟩
  | fail | reconnected | gaveUp => cases ha

theorem foldl_chunks {α : Type} (chunk : α → List CText) (as : List α) :
    as.foldl (fun chunks a => chunks ++ chunk a) [] = as.flatMap chunk :=
  List.flatMap_eq_foldl.symm

/-- **What the reader has recorded**: the lines of what it has read. -/
theorem reader_lines {chunks : List CText} {s : SerialReader} (h : ReaderReads chunks s) :
    s.lines.map Prod.snd = streamLines chunks.flatten := by
  obtain ⟨as, hx, hu, rfl, hpc⟩ := h
  have hI : ReaderInv [] .initial :=
    ⟨linesSoFar_nil, fun _ => List.not_mem_nil, fun e => ReaderPc.noConfusion e⟩
  have hend := exec_inv (P := fun a : ReaderAction => a.undisturbed = true) readLoopStep_inv hu hI hx
  rw [foldl_chunks] at hend
  refine hend.logged.lines (hend.waiting fun e => ?_)
  rcases hpc with hpc | hpc
  · rw [hpc] at e
    cases e
  · rw [hpc] at e
    cases e

/-! ## 4. The monitor -/

/-- The chunk of a read of the monitor. -/
def MonitorAction.chunk : MonitorAction → List CText
  | .read chunk => [chunk]
  | .line _ | .fail _ | .scan _ | .probe _ | .reopen _ | .report _ => []

def MonitorAction.undisturbed : MonitorAction → Bool
  | .read _ | .line _ => true
  | .fail _ | .scan _ | .probe _ | .reopen _ | .report _ => false

/-- The first instant of the calendar, for a line of which the time does not matter. -/
def epoch : DateTime.Utc := ⟨⟨1, 1, 1, 0, 0, 0, 0⟩, by decide⟩

/-- The same for the monitor: it is back at its read. -/
def MonitorReads (vidPid port hwid : CText) (chunks : List CText) (m : Monitor) : Prop :=
  ∃ as, (monitor vidPid).exec (.initial port hwid vidPid) as = some m ∧
    (∀ a ∈ as, a.undisturbed = true) ∧ as.flatMap MonitorAction.chunk = chunks ∧ m.pc = .reading

/-- What holds of the monitor while the port stays. -/
structure MonitorInv (chunks : List CText) (m : Monitor) : Prop where
  logged : LinesSoFar chunks.flatten (m.raw.map RawRecord.text) m.partialLine
  pc : m.pc = splitPc m.partialLine

theorem splitPc_splitting {l : CText} : splitPc l = .splitting ↔ '\n' ∈ l := by
  unfold splitPc
  split
  · exact iff_of_true rfl ‹_›
  · exact iff_of_false MonitorPc.noConfusion ‹_›

/-- **A step of the monitor** keeps what has been read and what is logged together. -/
theorem monitorStep_inv {vidPid : CText} (chunks : List CText) (m : Monitor) (a : MonitorAction)
    (m' : Monitor) (I : MonitorInv chunks m) (ha : a.undisturbed = true)
    (h : (monitor vidPid).step m a = some m') : MonitorInv (chunks ++ a.chunk) m' := by
  cases monitorStep_cases h with
  | @read chunk hpc =>
      refine ⟨?_, rfl⟩
      rw [MonitorAction.chunk, flatten_concat]
      exact I.logged.read chunk
  | line hpc hl hr =>
      refine ⟨?_, rfl⟩
      rw [MonitorAction.chunk, List.append_nil, List.map_append, hl, hr]
      exact I.logged.line (splitPc_splitting.mp (I.pc.symm.trans hpc))
  | fail | scan | probed | probeFailed | reopened | reopenFailed | report => cases ha

/-- **What the monitor has logged**: the lines of what it has read. -/
theorem monitor_lines {vidPid port hwid : CText} {chunks : List CText} {m : Monitor}
    (h : MonitorReads vidPid port hwid chunks m) :
    m.raw.map RawRecord.text = streamLines chunks.flatten := by
  obtain ⟨as, hx, hu, rfl, hpc⟩ := h
  have hI : MonitorInv [] (.initial port hwid vidPid) := ⟨linesSoFar_nil, rfl⟩
  have hend := exec_inv (P := fun a : MonitorAction => a.undisturbed = true) monitorStep_inv hu hI hx
  rw [foldl_chunks] at hend
  refine hend.logged.lines fun hn => ?_
  rw [hend.pc, splitPc_splitting.mpr hn] at hpc
  cases hpc

/-! ## 5. Every cut is a run -/

/-- A loop that can read any chunk and then split all of it can read any chunks. -/
theorem reads_exist {σ α : Type} {S : System σ α} {I goal : σ → Prop} {line : α → Prop}
    (read : CText → α) (chunk : α → List CText) (μ : σ → Nat)
    (hread : ∀ s c, I s → goal s → ∃ s', S.step s (read c) = some s' ∧ I s')
    (hline : ∀ s, I s → ¬ goal s →
      ∃ a s', line a ∧ S.step s a = some s' ∧ I s' ∧ μ s' < μ s)
    (hchunk : ∀ c, chunk (read c) = [c]) (hnone : ∀ a, line a → chunk a = [])
    (chunks : List CText) (s : σ) (hs : I s) (hg : goal s) :
    ∃ as s', S.exec s as = some s' ∧ (∀ a ∈ as, line a ∨ ∃ c, a = read c) ∧
      as.flatMap chunk = chunks ∧ goal s' := by
  induction chunks generalizing s with
  | nil => exact ⟨[], s, rfl, fun a ha => absurd ha List.not_mem_nil, rfl, hg⟩
  | cons c chunks ih =>
      obtain ⟨t, ht, hI⟩ := hread s c hs hg
      obtain ⟨lines, u, hu, hlines, hIu, hgu⟩ := exec_until μ hline t hI
      obtain ⟨as, s', hx, has, hchunks, hgoal⟩ := ih u hIu hgu
      have hsilent : lines.flatMap chunk = [] :=
        List.flatMap_eq_nil_iff.mpr fun a ha => hnone a (hlines a ha)
      refine ⟨read c :: (lines ++ as), s', ?_, ?_, ?_, hgoal⟩
      · show (S.step s (read c)).bind (fun t => S.exec t (lines ++ as)) = some s'
        rw [ht, Option.bind_some, exec_append, hu]
        exact hx
      · refine List.forall_mem_cons.mpr ⟨Or.inr ⟨c, rfl⟩, List.forall_mem_append.mpr ⟨?_, has⟩⟩
        exact fun a ha => Or.inl (hlines a ha)
      · rw [List.flatMap_cons, List.flatMap_append, hsilent, hchunks, hchunk]
        rfl

/-- The loop goes on, and is where its bytes say. -/
def ReaderReady (s : SerialReader) : Prop := s.stop = false ∧ s.pc = readerPc false s.partialLine

/-- **Every cut is a run of the reader.** -/
theorem reader_reads (chunks : List CText) : ∃ s, ReaderReads chunks s := by
  have hread : ∀ s c, ReaderReady s → s.pc = .reading →
      ∃ s', serialReader.step s (.read c) = some s' ∧ ReaderReady s' := by
    rintro s c ⟨hstop, hsplit⟩ hpc
    show ∃ s', readLoopStep s (.read c) = some s' ∧ ReaderReady s'
    unfold readLoopStep
    simp only [hpc, hstop]
    split
    · exact ⟨_, rfl, rfl, hpc.symm.trans hsplit⟩
    · exact ⟨_, rfl, rfl, rfl⟩
  have hline : ∀ s, ReaderReady s → s.pc ≠ .reading → ∃ a s', (∃ ts, a = ReaderAction.line ts) ∧
      serialReader.step s a = some s' ∧ ReaderReady s' ∧
        s'.partialLine.length < s.partialLine.length := by
    rintro s ⟨hstop, hsplit⟩ hpc
    have hn : '\n' ∈ s.partialLine := by
      by_contra hn
      rw [readerPc, if_neg hn] at hsplit
      exact hpc hsplit
    have hpc : s.pc = .splitting := hsplit.trans ((readerPc_splitting _ _).mpr hn)
    have hstep : readLoopStep s (.line 0) = some { s with
        lines := s.lines ++ [(0, lineText (s.partialLine.takeWhile fun c => decide (c ≠ '\n')))]
        partialLine := (s.partialLine.dropWhile fun c => decide (c ≠ '\n')).drop 1
        pc := readerPc s.stop ((s.partialLine.dropWhile fun c => decide (c ≠ '\n')).drop 1) } := by
      unfold readLoopStep
      simp only [hpc]
    exact ⟨.line 0, _, ⟨0, rfl⟩, hstep, ⟨hstop, by rw [hstop]⟩, behind_shorter hn⟩
  obtain ⟨as, s, hx, has, hchunks, hgoal⟩ := reads_exist ReaderAction.read ReaderAction.chunk _
    hread hline (fun _ => rfl) (by rintro a ⟨ts, rfl⟩; rfl) chunks .initial ⟨rfl, rfl⟩ rfl
  refine ⟨s, as, hx, fun a ha => ?_, hchunks, Or.inl hgoal⟩
  rcases has a ha with ⟨ts, rfl⟩ | ⟨c, rfl⟩ <;> rfl

/-- **Every cut is a run of the monitor.** -/
theorem monitor_reads (vidPid port hwid : CText) (chunks : List CText) :
    ∃ m, MonitorReads vidPid port hwid chunks m := by
  have hread : ∀ (m : Monitor) (c : CText), m.pc = splitPc m.partialLine → m.pc = .reading →
      ∃ m', (monitor vidPid).step m (.read c) = some m' ∧ m'.pc = splitPc m'.partialLine := by
    intro m c _ hpc
    have hstep : monitorStep vidPid m (.read c) = some { m with
        partialLine := m.partialLine ++ c
        pc := splitPc (m.partialLine ++ c) } := by
      unfold monitorStep
      simp only [hpc]
    exact ⟨_, hstep, rfl⟩
  have hline : ∀ m : Monitor, m.pc = splitPc m.partialLine → m.pc ≠ .reading →
      ∃ a m', (∃ now, a = MonitorAction.line now) ∧ (monitor vidPid).step m a = some m' ∧
        m'.pc = splitPc m'.partialLine ∧ m'.partialLine.length < m.partialLine.length := by
    intro m hsplit hpc
    have hn : '\n' ∈ m.partialLine := by
      by_contra hn
      rw [splitPc, if_neg hn] at hsplit
      exact hpc hsplit
    have hpc : m.pc = .splitting := hsplit.trans (splitPc_splitting.mpr hn)
    have hstep : monitorStep vidPid m (.line epoch) = some { m with
        raw := m.raw ++ [⟨epoch, lineText (m.partialLine.takeWhile fun c => decide (c ≠ '\n'))⟩]
        partialLine := (m.partialLine.dropWhile fun c => decide (c ≠ '\n')).drop 1
        pc := splitPc ((m.partialLine.dropWhile fun c => decide (c ≠ '\n')).drop 1) } := by
      unfold monitorStep
      simp only [hpc]
    exact ⟨.line epoch, _, ⟨epoch, rfl⟩, hstep, rfl, behind_shorter hn⟩
  obtain ⟨as, m, hx, has, hchunks, hgoal⟩ := reads_exist MonitorAction.read MonitorAction.chunk _
    hread hline (fun _ => rfl) (by rintro a ⟨now, rfl⟩; rfl) chunks (.initial port hwid vidPid)
    rfl rfl
  refine ⟨m, as, hx, fun a ha => ?_, hchunks, hgoal⟩
  rcases has a ha with ⟨now, rfl⟩ | ⟨c, rfl⟩ <;> rfl

/-! ## 6. The two readers -/

/-- **Both readers record the lines of the stream**, however it is cut for the one and for the
    other while the port stays; every cut is a run of both. -/
theorem lines_agree (vidPid port hwid stream : CText) {chunks chunks' : List CText}
    (h : chunks.flatten = stream) (h' : chunks'.flatten = stream) :
    (∃ s, ReaderReads chunks s) ∧ (∃ m, MonitorReads vidPid port hwid chunks' m) ∧
      ∀ s m, ReaderReads chunks s → MonitorReads vidPid port hwid chunks' m →
        s.lines.map Prod.snd = streamLines stream ∧
          m.raw.map RawRecord.text = streamLines stream := by
  refine ⟨reader_reads chunks, monitor_reads vidPid port hwid chunks', fun s m hs hm => ?_⟩
  constructor
  · rw [reader_lines hs, h]
  · rw [monitor_lines hm, h']

/-- A line end and a character of two bytes are cut apart. -/
theorem lines_agree_boot :
    ∃ s m, ReaderReads ["boot\r".toList, "\n\u00c3".toList, [], "\u00bc\n#".toList] s ∧
      MonitorReads benchVidPid "COM5".toList benchHwid ["boot\r\n\u00c3\u00bc\n#".toList] m ∧
      s.lines.map Prod.snd = ["boot".toList, "\u00fc".toList] ∧
      m.raw.map RawRecord.text = ["boot".toList, "\u00fc".toList] := by
  obtain ⟨⟨s, hs⟩, ⟨m, hm⟩, hagree⟩ :=
    @lines_agree benchVidPid "COM5".toList benchHwid "boot\r\n\u00c3\u00bc\n#".toList
      ["boot\r".toList, "\n\u00c3".toList, [], "\u00bc\n#".toList]
      ["boot\r\n\u00c3\u00bc\n#".toList] (by decide) (by decide)
  have hlines : streamLines "boot\r\n\u00c3\u00bc\n#".toList =
      ["boot".toList, "\u00fc".toList] := by decide +kernel
  rw [hlines] at hagree
  exact ⟨s, m, hs, hm, hagree s m hs hm⟩

end DragonBench
