/-
  File:      DragonBench/RawLog.lean
  Subject:   WHAT IS READ OF THE RAW LOG: the lines `serial_loop` logs come back from
             `load_raw_lines` (`tools/phase2_extract.py`) exactly when none holds a line boundary.

  The monitor ends a line at a newline byte and nowhere else. The reader takes CR for a newline and
  splits at eight more characters; what stands behind one of them does not begin with a bracket
  and is dropped, or passes for a record of its own.

  * `rawFile` -- the file of a list of records;
  * `loadRawLine`, `loadRawLines` -- the reader;
  * `loadRawLine_record` -- the line of a record, up to wherever it is cut;
  * **`raw_lines_back_iff`** -- when the texts come back;
  * `raw_lines_lost` -- a progress line.
-/
import DragonBench.Lib.TextFile
import DragonBench.Monitor

namespace DragonBench

open DateTime Lines TextFile Transition

/-! ## 1. Writing -/

/-- `[{now_iso()}] {text}`. -/
def RawRecord.line (r : RawRecord) : CText :=
  '[' :: (isoformat r.stamp.toFields ++ ']' :: ' ' :: r.text)

/-- The file, record by record. -/
def rawFile (sep : LineSep) (records : List RawRecord) : CText :=
  records.flatMap fun r => written sep (r.line ++ ['\n'])

theorem rawFile_cons (sep : LineSep) (r : RawRecord) (records : List RawRecord) :
    rawFile sep (r :: records) = written sep (r.line ++ ['\n']) ++ rawFile sep records := rfl

theorem rawFile_eq (sep : LineSep) (records : List RawRecord) :
    rawFile sep records = written sep (records.flatMap fun r => r.line ++ ['\n']) := by
  induction records with
  | nil => rfl
  | cons r records ih => rw [rawFile_cons, ih, List.flatMap_cons, ← written_append]

/-! ## 2. Reading -/

/-- A line behind its bracket. -/
def loadStamped (reader : IsoReader) (start stop : Int) (body : CText) :
    Option (Option (Int × CText)) :=
  match body.dropWhile fun c => decide (c ≠ ']') with
  | [] => some none
  | _ :: behind =>
    match reader.fromisoformat (body.takeWhile fun c => decide (c ≠ ']')) with
    | none => some none
    | some .naive => none
    | some (.aware ts) =>
      if start ≤ ts ∧ ts ≤ stop then some (some (ts - start, behind.drop 1)) else some none

/-- One turn of the loop of `load_raw_lines`: the entry, none when the line is passed over;
    without a value where the comparison with a time of no time zone raises. -/
def loadRawLine (reader : IsoReader) (start stop : Int) : CText → Option (Option (Int × CText))
  | '[' :: body => loadStamped reader start stop body
  | _ => some none

/-- The loop. -/
def loadLines (reader : IsoReader) (start stop : Int) (lines : List CText) :
    Option (List (Int × CText)) :=
  (lines.mapM (loadRawLine reader start stop)).map List.reduceOption

/-- `load_raw_lines`, of a file that may not be there; an offset is in microseconds. -/
def loadRawLines (reader : IsoReader) (file : Option CText) (start stop : Int) :
    Option (List (Int × CText)) :=
  match file with
  | none => some []
  | some file => loadLines reader start stop (readLines file)

/-- The texts of what it returns. -/
def texts (loaded : Option (List (Int × CText))) : Option (List CText) :=
  loaded.map (List.map Prod.snd)

/-- The instant a record shows. -/
def RawRecord.instant (r : RawRecord) : Int := r.stamp.toMillis.micros

/-- The window covers the records. -/
def Covers (start stop : Int) (records : List RawRecord) : Prop :=
  ∀ r ∈ records, start ≤ r.instant ∧ r.instant ≤ stop

/-! ## 3. The line of a record -/

/-- A record cut behind `w`. -/
def RawRecord.cut (r : RawRecord) (w : CText) : RawRecord := { r with text := w }

/-- A timestamp holds no boundary and no bracket. -/
theorem isoformat_plain {f : Fields} {c : Char} (h : c ∈ isoformat f) :
    isBreak c = false ∧ c ≠ ']' := by
  have hpunct : ∀ c ∈ "-T:.+".toList, isBreak c = false ∧ c ≠ ']' := by simp [isBreak]
  have hbreak : ∀ c, isBreak c = true → c.isDigit = false := by
    intro c hb
    simp only [isBreak, Bool.or_eq_true, decide_eq_true_eq] at hb
    rcases hb with ((((((((rfl | rfl) | rfl) | rfl) | rfl) | rfl) | rfl) | rfl) | rfl) | rfl <;> rfl
  rcases isoformat_chars h with h | h
  · refine ⟨Bool.eq_false_iff.mpr fun hb => ?_, fun e => ?_⟩
    · rw [hbreak c hb] at h
      cases h
    · rw [e] at h
      cases h
  · exact hpunct c h

theorem line_plain {r : RawRecord} (h : ∀ c ∈ r.text, isBreak c = false) :
    ∀ c ∈ r.line, isBreak c = false := by
  intro c hc
  rcases List.mem_cons.mp hc with rfl | hc
  · rfl
  · rcases List.mem_append.mp hc with hc | hc
    · exact (isoformat_plain hc).1
    · rcases List.mem_cons.mp hc with rfl | hc
      · rfl
      · rcases List.mem_cons.mp hc with rfl | hc
        · rfl
        · exact h c hc

section Reader

variable {reader : IsoReader} {start stop : Int} {sep : LineSep} {r : RawRecord}
  {records : List RawRecord}

/-- **The line of a record is read as its text.** -/
theorem loadRawLine_record (h : start ≤ r.instant ∧ r.instant ≤ stop) :
    loadRawLine reader start stop r.line = some (some (r.instant - start, r.text)) := by
  have hstamp : ∀ c ∈ isoformat r.stamp.toFields, decide (c ≠ ']') = true := fun c hc =>
    decide_eq_true (isoformat_plain hc).2
  have hbody : (isoformat r.stamp.toFields ++ ']' :: ' ' :: r.text).takeWhile
      (fun c => decide (c ≠ ']')) = isoformat r.stamp.toFields := by
    rw [List.takeWhile_append_of_pos hstamp, List.takeWhile_cons_of_neg (by decide),
      List.append_nil]
  have hbehind : (isoformat r.stamp.toFields ++ ']' :: ' ' :: r.text).dropWhile
      (fun c => decide (c ≠ ']')) = ']' :: ' ' :: r.text := by
    rw [List.dropWhile_append_of_pos hstamp, List.dropWhile_cons_of_neg (by decide)]
  show loadStamped reader start stop (isoformat r.stamp.toFields ++ ']' :: ' ' :: r.text) = _
  unfold loadStamped
  rw [hbehind, hbody, reader.inverse]
  exact if_pos h

/-- A line without boundaries comes back, and the rest of the file behind it. -/
theorem readLines_record (h : ∀ c ∈ r.text, isBreak c = false) :
    readLines (rawFile sep (r :: records)) = r.line :: readLines (rawFile sep records) := by
  rw [rawFile_eq, rawFile_eq, List.flatMap_cons, List.append_assoc, List.singleton_append]
  exact readLines_line (line_plain h) _

/-- A line with one is cut at the first. -/
theorem readLines_record_cut (sep : LineSep) (records : List RawRecord) {w z : CText} {x : Char}
    (ht : r.text = w ++ x :: z)
    (hw : ∀ c ∈ w, isBreak c = false) (hx : isBreak x = true) :
    ∃ rest, readLines (rawFile sep (r :: records)) = (r.cut w).line :: rest := by
  have hline : r.line ++ ['\n'] ++ (records.flatMap fun r => r.line ++ ['\n']) =
      (r.cut w).line ++ x :: (z ++ '\n' :: records.flatMap fun r => r.line ++ ['\n']) := by
    unfold RawRecord.line RawRecord.cut
    rw [ht]
    simp only [List.append_assoc, List.cons_append, List.nil_append]
  rw [rawFile_eq, List.flatMap_cons, hline]
  exact readLines_cut (line_plain hw) hx _

/-- The texts of the lines behind that of a record. -/
theorem texts_cons {lines : List CText} (h : start ≤ r.instant ∧ r.instant ≤ stop) :
    texts (loadLines reader start stop (r.line :: lines)) =
      (texts (loadLines reader start stop lines)).map (r.text :: ·) := by
  unfold loadLines
  rw [List.mapM_cons, loadRawLine_record h]
  cases lines.mapM (loadRawLine reader start stop) with
  | none => rfl
  | some entries => rfl

/-! ## 4. The file -/

/-- **The texts come back exactly when none holds a line boundary**, for every window that covers
    the records. -/
theorem raw_lines_back_iff (hcover : Covers start stop records) :
    texts (loadRawLines reader (some (rawFile sep records)) start stop) =
        some (records.map RawRecord.text) ↔
      ∀ r ∈ records, ∀ c ∈ r.text, isBreak c = false := by
  show texts (loadLines reader start stop (readLines (rawFile sep records))) = _ ↔ _
  induction records with
  | nil => exact ⟨fun _ r hr => absurd hr List.not_mem_nil, fun _ => rfl⟩
  | cons r records ih =>
      have hr := hcover r List.mem_cons_self
      have ih := ih fun t ht => hcover t (List.mem_cons_of_mem r ht)
      by_cases hplain : ∀ c ∈ r.text, isBreak c = false
      · rw [readLines_record hplain, texts_cons hr, List.map_cons, List.forall_mem_cons, ← ih]
        constructor
        · intro h
          obtain ⟨ts, hts, e⟩ := Option.map_eq_some_iff.mp h
          rw [hts, (List.cons.inj e).2]
          exact ⟨hplain, rfl⟩
        · rintro ⟨-, h⟩
          rw [h]
          rfl
      · refine iff_of_false (fun h => ?_) fun h => hplain (h r List.mem_cons_self)
        -- the first text with a boundary comes back without what stands behind it
        simp only [not_forall, Bool.not_eq_false] at hplain
        obtain ⟨b, hb, hbb⟩ := hplain
        obtain ⟨w, x, z, ht, hw, hx⟩ := first_break hb hbb
        obtain ⟨rest, hrest⟩ := readLines_record_cut sep records ht hw hx
        have hcut : start ≤ (r.cut w).instant ∧ (r.cut w).instant ≤ stop := hr
        rw [hrest, texts_cons hcut] at h
        obtain ⟨ts, -, e⟩ := Option.map_eq_some_iff.mp h
        have hw' : w = r.text := (List.cons.inj e).1
        have hlen := congrArg List.length (hw'.trans ht)
        rw [List.length_append, List.length_cons] at hlen
        omega

end Reader

/-! ## 5. Two logs -/

def benchStamp : Utc := ⟨⟨2026, 9, 12, 15, 9, 51, 386000⟩, by decide⟩

/-- A minute around it. -/
def benchWindow : Int × Int :=
  (benchStamp.toMillis.micros - 30000000, benchStamp.toMillis.micros + 30000000)

/-- What the monitor logs of the bytes of a few lines. -/
def loggedRun (bytes : CText) (lines : Nat) : Monitor :=
  benchMonitor.runEnd benchStart (.read bytes :: List.replicate lines (.line benchStamp))

set_option maxRecDepth 8000 in
/-- A boot: an empty line and a garbled byte come back. -/
theorem raw_lines_back_boot :
    texts (loadRawLines utcReader
      (some (rawFile .crlf (loggedRun "\u00ffESP-ROM:esp32s3\r\n\r\n".toList 2).raw))
      benchWindow.1 benchWindow.2) =
    some ["\ufffdESP-ROM:esp32s3".toList, []] := by
  have htexts : (loggedRun "\u00ffESP-ROM:esp32s3\r\n\r\n".toList 2).raw.map RawRecord.text =
      ["\ufffdESP-ROM:esp32s3".toList, []] := by decide
  refine (raw_lines_back_iff (by unfold Covers; decide)).mpr ?_
  rw [← List.forall_mem_map (P := fun t => ∀ c ∈ t, isBreak c = false), htexts]
  simp [isBreak]

set_option maxRecDepth 8000 in
/-- **A progress line is read up to its CR.** -/
theorem raw_lines_lost :
    Reach benchMonitor Always (loggedRun "10%\r20%\r\n".toList 1) ∧
      Covers benchWindow.1 benchWindow.2 (loggedRun "10%\r20%\r\n".toList 1).raw ∧
      (loggedRun "10%\r20%\r\n".toList 1).raw.map RawRecord.text = ["10%\r20%".toList] ∧
      texts (loadRawLines utcReader (some (rawFile .lf (loggedRun "10%\r20%\r\n".toList 1).raw))
        benchWindow.1 benchWindow.2) = some ["10%".toList] :=
  ⟨reach_runEnd (.start ⟨_, _, rfl⟩) (by decide), by unfold Covers; decide, by decide, by decide⟩

end DragonBench
