/-
  File:      DragonBench/Extract.lean
  Subject:   WHAT STOPS THE LOADERS: `load_raw_lines` and `load_jsonl` (`tools/phase2_extract.py`)
             over every content of the three logs.

  A line that is not JSON and a text that is no timestamp are passed over. A timestamp without a
  time zone cannot be compared with the window, JSON that is not an object has no `get`, and a `ts`
  that is not a text is no argument of `fromisoformat`: each raises what is not caught, and nothing
  of any file is returned.

  * `loadJsonl` -- the reader of the event log and of the heartbeat log;
  * `RawEntry`, `JsonEntry` -- the entries in the window;
  * `RawRaises`, `JsonRaises` -- the lines that raise;
  * `Returns`, `returns_iff` -- a loader returns the entries exactly when no line raises;
  * **`loads_all_iff`** -- so for the three files;
  * `naive_hides` -- a raw log that begins with lines of an older tool.
-/
import DragonBench.Client
import DragonBench.Lib.Chunks
import DragonBench.Lib.Regex
import DragonBench.RawLog

namespace DragonBench

open DateTime TextFile

/-! ## 1. The JSON loader -/

/-- What `json.loads` does with a line; a record is an object of it. -/
inductive JsonLoad (ρ : Type) where
  | object (rec : ρ)
  /-- a value of another type -/
  | other
  /-- `JSONDecodeError` -/
  | decodeError
  /-- another exception: too deep a nesting, too long a numeral -/
  | otherError

/-- What `rec.get("ts")` returns. -/
inductive TsValue where
  /-- not there, or a value that counts as false -/
  | falsy
  | text (ts : CText)
  /-- a value of another type -/
  | other
  deriving DecidableEq, Repr

/-- `json.loads` and the records it makes. -/
structure JsonReader (ρ : Type) where
  loads : CText → JsonLoad ρ
  ts : ρ → TsValue

section Loader

variable {ρ : Type} (reader : IsoReader) (json : JsonReader ρ) (start stop : Int)

/-- A record behind `rec.get("ts")`. -/
def loadRecord (rec : ρ) : Option (Option ρ) :=
  match json.ts rec with
  | .falsy => some none
  | .other => none
  | .text ts =>
    match reader.fromisoformat ts with
    | none => some none
    | some .naive => none
    | some (.aware t) => if start ≤ t ∧ t ≤ stop then some (some rec) else some none

/-- `not line.strip()`. -/
def isBlank (line : CText) : Bool := line.all Regex.isSpace

/-- One turn of the loop of `load_jsonl`; without a value where it raises. -/
def loadJsonLine (line : CText) : Option (Option ρ) :=
  if isBlank line then some none
  else
    match json.loads line with
    | .object rec => loadRecord reader json start stop rec
    | .decodeError => some none
    | .other | .otherError => none

/-- `load_jsonl`, of a file that may not be there. -/
def loadJsonl (file : Option CText) : Option (List ρ) :=
  match file with
  | none => some []
  | some file =>
    ((readLines file).mapM (loadJsonLine reader json start stop)).map List.reduceOption

end Loader

/-! ## 2. Entries, and lines that raise -/

section Lines

variable {ρ : Type} (reader : IsoReader) (json : JsonReader ρ) (start stop : Int)

/-- **A line of the raw log with a time in the window**: the time behind the start, and the text
    behind the bracket and one more character. -/
def RawEntry (line : CText) (entry : Int × CText) : Prop :=
  ∃ stamp behind t, line = '[' :: (stamp ++ ']' :: behind) ∧ ']' ∉ stamp ∧
    reader.fromisoformat stamp = some (.aware t) ∧ (start ≤ t ∧ t ≤ stop) ∧
      entry = (t - start, behind.drop 1)

/-- **A line with a record whose time is in the window.** -/
def JsonEntry (line : CText) (rec : ρ) : Prop :=
  isBlank line = false ∧ json.loads line = .object rec ∧
    ∃ ts t, json.ts rec = .text ts ∧ reader.fromisoformat ts = some (.aware t) ∧
      (start ≤ t ∧ t ≤ stop)

/-- The time in the brackets has no time zone. -/
def RawRaises (line : CText) : Prop :=
  ∃ stamp behind, line = '[' :: (stamp ++ ']' :: behind) ∧ ']' ∉ stamp ∧
    reader.fromisoformat stamp = some .naive

/-- The time of a record is not a text, or has no time zone. -/
def RecordRaises (rec : ρ) : Prop :=
  json.ts rec = .other ∨ ∃ ts, json.ts rec = .text ts ∧ reader.fromisoformat ts = some .naive

/-- The line is JSON but no object, or cannot be read for another reason than its form, or its
    record raises. -/
def JsonRaises (line : CText) : Prop :=
  isBlank line = false ∧ (json.loads line = .other ∨ json.loads line = .otherError ∨
    ∃ rec, json.loads line = .object rec ∧ RecordRaises reader json rec)

variable {reader json start stop} {line body stamp behind : CText}

theorem no_bracket (h : ']' ∉ stamp) : ∀ c ∈ stamp, decide (c ≠ ']') = true :=
  fun _ hc => decide_eq_true fun e => h (e ▸ hc)

theorem loadStamped_open (h : ']' ∉ body) : loadStamped reader start stop body = some none := by
  have hdrop : body.dropWhile (fun c => decide (c ≠ ']')) = [] :=
    List.dropWhile_eq_nil_iff.mpr (no_bracket h)
  unfold loadStamped
  rw [hdrop]

theorem loadStamped_closed (h : ']' ∉ stamp) :
    loadStamped reader start stop (stamp ++ ']' :: behind) =
      match reader.fromisoformat stamp with
      | none => some none
      | some .naive => none
      | some (.aware t) =>
        if start ≤ t ∧ t ≤ stop then some (some (t - start, behind.drop 1)) else some none := by
  have hdrop : (stamp ++ ']' :: behind).dropWhile (fun c => decide (c ≠ ']')) = ']' :: behind := by
    rw [List.dropWhile_append_of_pos (no_bracket h), List.dropWhile_cons_of_neg (by decide)]
  have htake : (stamp ++ ']' :: behind).takeWhile (fun c => decide (c ≠ ']')) = stamp := by
    rw [List.takeWhile_append_of_pos (no_bracket h), List.takeWhile_cons_of_neg (by decide),
      List.append_nil]
  cases hread : reader.fromisoformat stamp with
  | none => simp only [loadStamped, hdrop, htake, hread]
  | some time => cases time <;> simp only [loadStamped, hdrop, htake, hread]

/-- A line in brackets, or one that is passed over. -/
theorem rawLine_cases (line : CText) :
    (∃ stamp behind, line = '[' :: (stamp ++ ']' :: behind) ∧ ']' ∉ stamp) ∨
      ((¬ ∃ stamp behind, line = '[' :: (stamp ++ ']' :: behind) ∧ ']' ∉ stamp) ∧
        ∀ reader start stop, loadRawLine reader start stop line = some none) := by
  by_cases h : ∃ body, line = '[' :: body
  · obtain ⟨body, rfl⟩ := h
    by_cases hb : ']' ∈ body
    · exact Or.inl ⟨_, _, congrArg _ (Chunks.cut_eq hb), Chunks.not_mem_front ']' body⟩
    · refine Or.inr ⟨?_, fun _ _ _ => loadStamped_open hb⟩
      rintro ⟨stamp, behind, e, -⟩
      rw [(List.cons.inj e).2] at hb
      exact hb (List.mem_append_right stamp List.mem_cons_self)
  · refine Or.inr ⟨?_, fun reader start stop => ?_⟩
    · rintro ⟨stamp, behind, e, -⟩
      exact h ⟨_, e⟩
    · unfold loadRawLine
      split
      · exact absurd ⟨_, rfl⟩ h
      · rfl

/-- The two readings of a line in brackets are the same. -/
theorem stamp_inj {stamp' behind' : CText} (hs : ']' ∉ stamp) (hs' : ']' ∉ stamp')
    (e : '[' :: (stamp ++ ']' :: behind) = '[' :: (stamp' ++ ']' :: behind')) :
    stamp = stamp' ∧ behind = behind' := by
  have hfront : ∀ {s b : CText}, ']' ∉ s →
      (s ++ ']' :: b).takeWhile (fun c => decide (c ≠ ']')) = s := by
    intro s b h
    rw [List.takeWhile_append_of_pos (no_bracket h), List.takeWhile_cons_of_neg (by decide), List.append_nil]
  have htail := (List.cons.inj e).2
  have hstamp : stamp = stamp' := by rw [← @hfront stamp behind hs, htail, hfront hs']
  rw [hstamp] at htail
  exact ⟨hstamp, (List.cons.inj (List.append_cancel_left htail)).2⟩

/-- **A line of the raw log is an entry, raises or is passed over.** -/
theorem loadRawLine_spec (line : CText) :
    (loadRawLine reader start stop line = none ↔ RawRaises reader line) ∧
      ∀ entry, loadRawLine reader start stop line = some (some entry) ↔
        RawEntry reader start stop line entry := by
  rcases rawLine_cases line with ⟨stamp, behind, rfl, hs⟩ | ⟨hno, hpass⟩
  · have hload : loadRawLine reader start stop ('[' :: (stamp ++ ']' :: behind)) = _ :=
      loadStamped_closed hs
    have hraises : RawRaises reader ('[' :: (stamp ++ ']' :: behind)) ↔
        reader.fromisoformat stamp = some .naive := by
      refine ⟨?_, fun h => ⟨stamp, behind, rfl, hs, h⟩⟩
      rintro ⟨stamp', behind', e, hs', h⟩
      rwa [(stamp_inj hs hs' e).1]
    have hentry : ∀ entry, RawEntry reader start stop ('[' :: (stamp ++ ']' :: behind)) entry ↔
        ∃ t, reader.fromisoformat stamp = some (.aware t) ∧ (start ≤ t ∧ t ≤ stop) ∧
          entry = (t - start, behind.drop 1) := by
      refine fun entry => ⟨?_, fun ⟨t, h⟩ => ⟨stamp, behind, t, rfl, hs, h⟩⟩
      rintro ⟨stamp', behind', t, e, hs', h⟩
      obtain ⟨rfl, rfl⟩ := stamp_inj hs hs' e
      exact ⟨t, h⟩
    rw [hload, hraises]
    simp only [hentry]
    cases reader.fromisoformat stamp with
    | none => simp
    | some time =>
        cases time with
        | naive => simp
        | aware t =>
            by_cases hw : start ≤ t ∧ t ≤ stop
            · simp [hw, eq_comm]
            · simp [hw]
  · rw [hpass]
    constructor
    · refine iff_of_false (fun e => ?_) ?_
      · cases e
      · rintro ⟨stamp, behind, e, hs, -⟩
        exact hno ⟨stamp, behind, e, hs⟩
    · intro entry
      refine iff_of_false (fun e => ?_) ?_
      · cases e
      · rintro ⟨stamp, behind, -, e, hs, -⟩
        exact hno ⟨stamp, behind, e, hs⟩

theorem loadRecord_spec (rec : ρ) :
    (loadRecord reader json start stop rec = none ↔ RecordRaises reader json rec) ∧
      ∀ entry, loadRecord reader json start stop rec = some (some entry) ↔
        rec = entry ∧ ∃ ts t, json.ts rec = .text ts ∧
          reader.fromisoformat ts = some (.aware t) ∧ (start ≤ t ∧ t ≤ stop) := by
  unfold loadRecord RecordRaises
  cases json.ts rec with
  | falsy => simp
  | other => simp
  | text ts =>
      cases hi : reader.fromisoformat ts with
      | none => simp [hi]
      | some time =>
          cases time with
          | naive => simp [hi]
          | aware t =>
              by_cases hw : start ≤ t ∧ t ≤ stop
              · simp [hi, hw]
              · simp [hi, hw]

/-- **So is a line of the other logs.** -/
theorem loadJsonLine_spec (line : CText) :
    (loadJsonLine reader json start stop line = none ↔ JsonRaises reader json line) ∧
      ∀ rec, loadJsonLine reader json start stop line = some (some rec) ↔
        JsonEntry reader json start stop line rec := by
  unfold loadJsonLine JsonRaises JsonEntry
  cases hb : isBlank line with
  | true => simp
  | false =>
      cases hl : json.loads line with
      | object rec =>
          obtain ⟨hnone, hsome⟩ := @loadRecord_spec ρ reader json start stop rec
          simp only [Bool.false_eq_true, if_false, hnone, hsome, true_and, JsonLoad.object.injEq,
            reduceCtorEq, false_or, exists_eq_left']
          refine fun entry => ⟨?_, ?_⟩
          · rintro ⟨rfl, h⟩
            exact ⟨rfl, h⟩
          · rintro ⟨rfl, h⟩
            exact ⟨rfl, h⟩
      | other | decodeError | otherError => simp

end Lines

/-! ## 3. A file -/

section Files

variable {β : Type} {f : CText → Option (Option β)} {lines : List CText}

/-- **Exactly the entries are returned**, in the order of the lines. -/
def Returns (R : CText → β → Prop) (lines : List CText) (loaded : Option (List β)) : Prop :=
  ∃ g : CText → Option β, (∀ line entry, g line = some entry ↔ R line entry) ∧
    loaded = some (lines.filterMap g)

/-- A loop that raises at no line collects what each gives. -/
theorem collected (h : ∀ line ∈ lines, f line ≠ none) :
    (lines.mapM f).map List.reduceOption = some (lines.filterMap fun line => (f line).join) := by
  induction lines with
  | nil => rfl
  | cons line lines ih =>
      obtain ⟨hline, hlines⟩ := List.forall_mem_cons.mp h
      obtain ⟨entries, he, hr⟩ := Option.map_eq_some_iff.mp (ih hlines)
      obtain ⟨o, ho⟩ := Option.ne_none_iff_exists'.mp hline
      rw [List.mapM_cons, ho, he]
      cases o with
      | none =>
          rw [List.filterMap_cons_none (by rw [ho]; rfl), ← hr]
          rfl
      | some entry =>
          rw [List.filterMap_cons_some (b := entry) (by rw [ho]; rfl), ← hr]
          rfl

/-- One that returns has raised at none. -/
theorem raises_nowhere {entries : List (Option β)} (h : lines.mapM f = some entries) :
    ∀ line ∈ lines, f line ≠ none := by
  induction lines generalizing entries with
  | nil => exact fun line hl => absurd hl List.not_mem_nil
  | cons line lines ih =>
      rw [List.mapM_cons] at h
      obtain ⟨o, ho, h⟩ := Option.bind_eq_some_iff.mp h
      obtain ⟨rest, hrest, -⟩ := Option.bind_eq_some_iff.mp h
      refine List.forall_mem_cons.mpr ⟨?_, ih hrest⟩
      rw [ho]
      exact Option.some_ne_none o

/-- **A loader returns the entries exactly when no line raises.** -/
theorem returns_iff {R : CText → β → Prop} {raises : CText → Prop}
    (hnone : ∀ line, f line = none ↔ raises line)
    (hsome : ∀ line entry, f line = some (some entry) ↔ R line entry) :
    Returns R lines ((lines.mapM f).map List.reduceOption) ↔ ∀ line ∈ lines, ¬ raises line := by
  have hraises : (∀ line ∈ lines, ¬ raises line) ↔ ∀ line ∈ lines, f line ≠ none :=
    forall₂_congr fun line _ => not_congr (hnone line).symm
  rw [hraises]
  constructor
  · rintro ⟨g, -, h⟩
    obtain ⟨entries, he, -⟩ := Option.map_eq_some_iff.mp h
    exact raises_nowhere he
  · intro h
    refine ⟨fun line => (f line).join, fun line entry => ?_, collected h⟩
    rw [← hsome, Option.join_eq_some_iff]

end Files

/-! ## 4. The three logs -/

/-- The files `main` reads, where they are there. -/
structure LogFiles where
  rawLog : Option CText
  eventsFile : Option CText
  httpLog : Option CText

/-- The lines of a file. -/
def fileLines (file : Option CText) : List CText := (file.map readLines).getD []

section Logs

variable {ρ : Type} (reader : IsoReader) (json : JsonReader ρ) (start stop : Int) (files : LogFiles)

/-- **The loaders return, and what they return are the entries in the window.** -/
structure LoadsAll : Prop where
  raw : Returns (RawEntry reader start stop) (fileLines files.rawLog)
    (loadRawLines reader files.rawLog start stop)
  events : Returns (JsonEntry reader json start stop) (fileLines files.eventsFile)
    (loadJsonl reader json start stop files.eventsFile)
  heartbeats : Returns (JsonEntry reader json start stop) (fileLines files.httpLog)
    (loadJsonl reader json start stop files.httpLog)

/-- **No line of the three raises.** -/
structure NothingRaises : Prop where
  raw : ∀ line ∈ fileLines files.rawLog, ¬ RawRaises reader line
  events : ∀ line ∈ fileLines files.eventsFile, ¬ JsonRaises reader json line
  heartbeats : ∀ line ∈ fileLines files.httpLog, ¬ JsonRaises reader json line

theorem raw_returns_iff (file : Option CText) :
    Returns (RawEntry reader start stop) (fileLines file) (loadRawLines reader file start stop) ↔
      ∀ line ∈ fileLines file, ¬ RawRaises reader line := by
  have h := @returns_iff _ (loadRawLine reader start stop) (fileLines file) _ _
    (fun line => (loadRawLine_spec line).1) fun line => (loadRawLine_spec line).2
  cases file with
  | none => exact h
  | some file => exact h

theorem json_returns_iff (file : Option CText) :
    Returns (JsonEntry reader json start stop) (fileLines file)
        (loadJsonl reader json start stop file) ↔
      ∀ line ∈ fileLines file, ¬ JsonRaises reader json line := by
  have h := @returns_iff _ (loadJsonLine reader json start stop) (fileLines file) _ _
    (fun line => (loadJsonLine_spec line).1) fun line => (loadJsonLine_spec line).2
  cases file with
  | none => exact h
  | some file => exact h

/-- **The loaders return all entries in the window exactly when no line raises**, whatever else the
    files hold. -/
theorem loads_all_iff :
    LoadsAll reader json start stop files ↔ NothingRaises reader json files := by
  constructor
  · rintro ⟨hraw, hevents, hheartbeats⟩
    exact ⟨(raw_returns_iff reader start stop _).mp hraw,
      (json_returns_iff reader json start stop _).mp hevents,
      (json_returns_iff reader json start stop _).mp hheartbeats⟩
  · rintro ⟨hraw, hevents, hheartbeats⟩
    exact ⟨(raw_returns_iff reader start stop _).mpr hraw,
      (json_returns_iff reader json start stop _).mpr hevents,
      (json_returns_iff reader json start stop _).mpr hheartbeats⟩

end Logs

/-! ## 5. A log of an older tool -/

/-- It reads the texts of `isoformat`, with and without their time zone. -/
def naiveReader : IsoReader where
  fromisoformat s :=
    match utcReader.fromisoformat s with
    | some time => some time
    | none => if (utcReader.fromisoformat (s ++ "+00:00".toList)).isSome then some .naive else none
  inverse t := by rw [utcReader.inverse]

/-- The records of the logs; a text with a lone surrogate is refused. -/
def pythonReader : JsonReader (List (CText × Json)) where
  loads line :=
    match python.loads line with
    | some (.obj ms) => .object ms
    | some _ => .other
    | none => .decodeError
  ts ms :=
    match Json.member "ts".toList ms with
    | none | some .null | some (.bool false) | some (.str []) | some (.arr []) | some (.obj []) =>
      .falsy
    | some (.num q) => if q = 0 then .falsy else .other
    | some (.str ts) => .text ts
    | some (.bool true) | some (.arr _) | some (.obj _) => .other

/-- A line with a naive time in front of one of the monitor, and a heartbeat that is no object. -/
def olderLogs : LogFiles where
  rawLog := some "[2026-09-12T15:09:51.386] boot\n[2026-09-12T15:09:51.386+00:00] boot\n".toList
  eventsFile := none
  httpLog := some "null\n\x7b\"ts\": \"2026-09-12T15:09:51.386+00:00\"\x7d\n".toList

set_option maxRecDepth 8000 in
/-- **The first line hides the second**, in either log. -/
theorem naive_hides :
    loadRawLines naiveReader olderLogs.rawLog benchWindow.1 benchWindow.2 = none ∧
      (loadJsonl naiveReader pythonReader benchWindow.1 benchWindow.2 olderLogs.httpLog).isNone ∧
      ¬ LoadsAll naiveReader pythonReader benchWindow.1 benchWindow.2 olderLogs := by
  have hraw : loadRawLines naiveReader olderLogs.rawLog benchWindow.1 benchWindow.2 = none := by
    decide +kernel
  refine ⟨hraw, by decide +kernel, fun h => ?_⟩
  obtain ⟨g, -, e⟩ := h.raw
  rw [hraw] at e
  cases e

end DragonBench
