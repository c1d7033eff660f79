/-
  File:      DragonBench/Client.lean
  Subject:   WHAT THE CLIENT READS OF THE RING: the texts of the ring come back one by one exactly
             when none of them holds U+0085, U+2028 or U+2029.

  `events_get` ends each text with one newline byte. `Client.request` of the CLI decodes the body
  and splits it with `str.splitlines`, which knows ten boundaries. Seven of them are control
  characters, which cJSON escapes; the other three it leaves as they are.

  * `eventsGet`, `clientRequest` -- the two ends of the wire;
  * `documentText` -- what a slot holds of a document;
  * `clientRequest_lines` -- what the client makes of a body of documents;
  * **`events_decoded_iff`** -- when that is the list of their values.
-/
import DragonBench.Lib.JsonText
import DragonBench.Lib.Lines
import DragonBench.Widths

namespace DragonBench

open Transition Json

/-! ## 1. The two ends -/

/-- What a request is answered with. -/
structure HttpResponse where
  status : Nat
  contentType : CText
  body : CText

/-- The content type of the event lines. -/
def ndjsonType : CText := "application/x-ndjson".toList

/-- `snapshot_events_locked`: oldest first, each text up to its NUL and inside its buffer. -/
def snapshotEventsLocked (ring : RingBuffer DbEvent dbEventCapacity) : List CText :=
  ring.toList.map fun src => CText.snprintf dbEventJsonLen (cstr src.json)

/-- `events_get`; `allocated` says whether there was memory for the snapshot. -/
def eventsGet (allocated : Bool) (ring : RingBuffer DbEvent dbEventCapacity) : HttpResponse :=
  if allocated then
    ⟨200, ndjsonType, Lines.join (snapshotEventsLocked ring)⟩
  else
    ⟨503, "application/json".toList,
      "\x7b\"error\":\"event snapshot unavailable\"\x7d".toList⟩

/-- `json.loads` on text: four white space characters, no raw control characters in strings. Lone
    surrogate escapes, which Python takes, are refused here; cJSON prints none. -/
def python : Dialect where
  space c := c = ' ' || c = '\t' || c = '\n' || c = '\r'
  literal c := decide (32 ≤ c.toNat)
  encode n := [Char.ofNat n]
  space_le := whitespace_le
  literal_of_le _ h := decide_eq_true h
  encode_ascii _ _ := rfl
  encode_length _ := Nat.succ_le_succ (Nat.zero_le 3)

/-- `Client.request` behind `urlopen`; `none` is an exception. -/
def clientRequest (response : HttpResponse) : Option Json :=
  -- `urlopen` raises on these
  if 400 ≤ response.status then none
  else
    (decodeUtf8 response.body).bind fun raw =>
      if response.contentType = ndjsonType then
        ((Lines.lines raw).mapM python.loads).map .arr
      else if raw = [] then some (.obj [])
      else python.loads raw

/-! ## 2. Documents on the wire -/

section Documents

variable {fmt : ℚ → CText} {read : ℚ → ℚ}

/-- The text cJSON prints of a document: its strings are UTF-8 bytes in the tree. -/
def documentText (fmt : ℚ → CText) (v : Json) : CText := print fmt (v.mapStr utf8)

/-- The boundaries cJSON does not escape. -/
def splitsLine (c : Char) : Bool := c = '\x85' || c = '\u2028' || c = '\u2029'

theorem isBreak_eq {c : Char} (h : 32 ≤ c.toNat) : Lines.isBreak c = splitsLine c := by
  have hne : ∀ x : Char, x.toNat < 32 → decide (c = x) = false := by
    intro x hx
    refine decide_eq_false ?_
    intro e
    subst e
    omega
  simp only [Lines.isBreak, splitsLine, hne '\n' (by decide), hne '\r' (by decide),
    hne '\x0b' (by decide), hne '\x0c' (by decide), hne '\x1c' (by decide),
    hne '\x1d' (by decide), hne '\x1e' (by decide), Bool.false_or]

/-- Visible ASCII characters are no boundaries. -/
theorem isBreak_ascii {c : Char} (h : 32 < c.toNat ∧ c.toNat < 128) :
    Lines.isBreak c = false := by
  have hne : ∀ x : Char, 128 ≤ x.toNat → decide (c = x) = false := by
    intro x hx
    refine decide_eq_false ?_
    intro e
    subst e
    omega
  rw [isBreak_eq (by omega), splitsLine, hne '\x85' (by decide), hne '\u2028' (by decide),
    hne '\u2029' (by decide)]
  rfl

/-- One value for each text. -/
theorem length_of_mapM {α β : Type} {f : α → Option β} {xs : List α} {ys : List β}
    (h : xs.mapM f = some ys) : ys.length = xs.length := by
  induction xs generalizing ys with
  | nil =>
      cases h
      rfl
  | cons x xs ih =>
      rw [List.mapM_cons] at h
      obtain ⟨y, -, h⟩ := Option.bind_eq_some_iff.mp h
      obtain ⟨ys', hys, h⟩ := Option.bind_eq_some_iff.mp h
      cases h
      rw [List.length_cons, List.length_cons, ih hys]

theorem mapM_loads (hf : NumFormat fmt read) (vs : List Json) :
    (vs.map (print fmt)).mapM python.loads = some (vs.map (readBack read)) := by
  induction vs with
  | nil => rfl
  | cons v vs ih =>
      rw [List.map_cons, List.mapM_cons, python.loads_print hf, ih]
      rfl

/-- A snapshot of documents is the documents. -/
theorem snapshot_documents (hf : NumFormat fmt read)
    {ring : RingBuffer DbEvent dbEventCapacity} {vs : List Json}
    (h : ring.toList.map DbEvent.json = vs.map (documentText fmt)) :
    snapshotEventsLocked ring = vs.map (documentText fmt) := by
  rw [← h, snapshotEventsLocked]
  refine List.map_congr_left fun e he => ?_
  have hnul : '\x00' ∉ e.json := by
    intro hc
    have hmem : e.json ∈ vs.map (documentText fmt) := h ▸ List.mem_map_of_mem he
    obtain ⟨v, -, hv⟩ := List.mem_map.mp hmem
    rw [← hv] at hc
    exact absurd (print_ge hf _ _ hc) (by decide)
  rw [cstr_of_not_mem hnul, CText.snprintf_of_lt e.fits]

theorem clientRequest_ndjson (body : CText) :
    clientRequest ⟨200, ndjsonType, body⟩ =
      (decodeUtf8 body).bind fun raw => ((Lines.lines raw).mapM python.loads).map .arr := by
  have hstatus : ¬ 400 ≤ 200 := by decide
  simp only [clientRequest, hstatus, if_false, if_true]

theorem utf8_join (ts : List CText) : utf8 (Lines.join ts) = Lines.join (ts.map utf8) := by
  induction ts with
  | nil => rfl
  | cons t ts ih =>
      rw [List.map_cons, Lines.join_cons, Lines.join_cons, utf8_append, utf8_cons, ih,
        utf8Bytes_ascii (by decide)]
      rfl

/-- **What the client makes of a ring of documents**: the lines of their texts, read one by one. -/
theorem clientRequest_lines (hf : NumFormat fmt read)
    {ring : RingBuffer DbEvent dbEventCapacity} {vs : List Json}
    (h : ring.toList.map DbEvent.json = vs.map (documentText fmt)) :
    clientRequest (eventsGet true ring) =
      ((Lines.lines (Lines.join (vs.map (print fmt)))).mapM python.loads).map .arr := by
  have htext : vs.map (documentText fmt) = (vs.map (print fmt)).map utf8 := by
    rw [List.map_map]
    exact List.map_congr_left fun v _ => print_utf8 hf v
  have hbody : Lines.join (snapshotEventsLocked ring) =
      utf8 (Lines.join (vs.map (print fmt))) := by
    rw [snapshot_documents hf h, htext, utf8_join]
  rw [eventsGet, if_pos rfl, hbody, clientRequest_ndjson, decodeUtf8_utf8, Option.bind_some]

/-- A document without boundaries is a line. -/
theorem lines_documents (hf : NumFormat fmt read) {vs : List Json}
    (h : ∀ v ∈ vs, ∀ c ∈ print fmt v, splitsLine c = false) :
    Lines.lines (Lines.join (vs.map (print fmt))) = vs.map (print fmt) := by
  have hsplit : Lines.splitlines (Lines.join (vs.map (print fmt))) = vs.map (print fmt) := by
    refine Lines.splitlines_join fun t ht c hc => ?_
    obtain ⟨v, hv, rfl⟩ := List.mem_map.mp ht
    rw [isBreak_eq (print_ge hf v c hc)]
    exact h v hv c hc
  rw [Lines.lines, hsplit, List.filter_eq_self]
  intro t ht
  obtain ⟨v, -, rfl⟩ := List.mem_map.mp ht
  exact decide_eq_true (List.ne_nil_of_length_pos (Dialect.print_length_pos hf v))

/-- A document with a boundary is too many lines. -/
theorem too_many_lines (hf : NumFormat fmt read) {vs : List Json} {v : Json} (hv : v ∈ vs)
    {c : Char} (hc : c ∈ print fmt v) (hs : splitsLine c = true) :
    vs.length < (Lines.lines (Lines.join (vs.map (print fmt)))).length := by
  have hr : ∀ u : Json, '\r' ∉ print fmt u := fun u hm =>
    absurd (print_ge hf u _ hm) (by decide)
  have hlines : Lines.lines (Lines.join (vs.map (print fmt))) =
      vs.flatMap fun u => Lines.lines (print fmt u ++ ['\n']) := by
    rw [Lines.lines_join, List.flatMap_map]
    intro t ht
    obtain ⟨u, -, rfl⟩ := List.mem_map.mp ht
    exact hr u
  rw [hlines]
  refine Lines.length_lt_flatMap (fun u _ => ?_) hv ?_
  · obtain ⟨a, z, ha, -, hab, -⟩ := print_ends hf u
    exact Lines.one_le_lines (List.mem_append_left _ (List.mem_of_head? ha)) (isBreak_ascii hab)
  · obtain ⟨a, z, ha, hz, hab, hzb⟩ := print_ends hf v
    refine Lines.two_le_lines (hr v) ha hz (isBreak_ascii hab) (isBreak_ascii hzb) hc ?_
    rw [isBreak_eq (print_ge hf v c hc)]
    exact hs

/-- A boundary in a document is fatal: the client raises or returns more values than texts. -/
theorem clientRequest_ne (hf : NumFormat fmt read)
    {ring : RingBuffer DbEvent dbEventCapacity} {vs : List Json}
    (h : ring.toList.map DbEvent.json = vs.map (documentText fmt)) {v : Json} (hv : v ∈ vs)
    {c : Char} (hc : c ∈ print fmt v) (hs : splitsLine c = true) {ws : List Json}
    (hws : ws.length = vs.length) : clientRequest (eventsGet true ring) ≠ some (.arr ws) := by
  rw [clientRequest_lines hf h]
  intro e
  obtain ⟨ys, hys, e⟩ := Option.map_eq_some_iff.mp e
  cases e
  have hlen := length_of_mapM hys
  have hlt := too_many_lines hf hv hc hs
  omega

/-- **The client returns the values of the texts exactly when none of the texts holds one of the
    three boundaries** that cJSON does not escape. -/
theorem events_decoded_iff (hf : NumFormat fmt read)
    {ring : RingBuffer DbEvent dbEventCapacity} {vs : List Json}
    (h : ring.toList.map DbEvent.json = vs.map (documentText fmt)) :
    clientRequest (eventsGet true ring) = some (.arr (vs.map (readBack read))) ↔
      ∀ v ∈ vs, ∀ c ∈ print fmt v, splitsLine c = false := by
  constructor
  · intro e v hv c hc
    cases hs : splitsLine c with
    | false => rfl
    | true => exact absurd e (clientRequest_ne hf h hv hc hs (List.length_map _))
  · intro hall
    rw [clientRequest_lines hf h, lines_documents hf hall, mapM_loads hf]
    rfl

end Documents

/-! ## 3. Two hosts on the wire -/

/-- A document of the board of the concrete runs, up to its own members. -/
def benchDocument (event : EventKind) (seq : Nat) (ms : List (CText × Json)) : Json :=
  .obj ([("schema".toList, .num 1), ("event".toList, .str event.text),
    ("seq".toList, .num (seq : ℚ)), ("uptime_ms".toList, .num 0),
    ("target".toList, .str benchBoot.cfg.targetName),
    ("firmware_version".toList, .str benchBoot.cfg.firmwareVersion)] ++ ms)

/-- The documents of the ring after the first event of an idle run with this host. -/
def firstDocuments (host : CText) : List Json :=
  [benchDocument .boot 1 [],
    benchDocument .resetReason 2
      [("metrics".toList, .obj [("reason".toList, .str "power_on".toList)])],
    benchDocument .phaseStart 3
      [("phase".toList, .str "IDLE".toList), ("run_id".toList, .str "0000002a-00000001".toList),
        ("parameters".toList, .obj (requestMembers ⟨.idle, 30000, 0, 0, host⟩))]]

/-- The value of a numeral of the concrete runs. -/
def benchRead (q : ℚ) : ℚ := q.num.toNat

set_option maxRecDepth 4000 in
/-- The ring of an idle run towards `bench.local` comes back. -/
theorem events_decoded_bench : ∃ d, Reach (device benchBoot) Always d ∧
    clientRequest (eventsGet true d.shared.ring) =
      some (.arr ((firstDocuments "bench.local".toList).map (readBack benchRead))) := by
  have h := benchRun_reach (firstEvent "bench.local".toList) (by decide)
  have hring : (benchRun (firstEvent "bench.local".toList)).shared.ring.toList.map DbEvent.json =
      (firstDocuments "bench.local".toList).map (documentText benchBoot.cfg.numText) := by
    decide +kernel
  have hplain : ∀ v ∈ firstDocuments "bench.local".toList,
      (print benchBoot.cfg.numText v).all (fun c => decide (splitsLine c = false)) = true := by
    decide +kernel
  exact ⟨_, h, (events_decoded_iff decimalFormat hring).mpr
    fun v hv => CText.forall_of_all (hplain v hv)⟩

set_option maxRecDepth 4000 in
/-- **A host of one line separator**: the ring holds three documents, and the client does not
    return their values. -/
theorem boundary_splits : ∃ d, Reach (device benchBoot) Always d ∧
    (∃ p, d.accepted[0]? = some p ∧ p.2.host = utf8 ['\u2028']) ∧
    d.shared.ring.toList.map DbEvent.json =
      (firstDocuments ['\u2028']).map (documentText benchBoot.cfg.numText) ∧
    clientRequest (eventsGet true d.shared.ring) ≠
      some (.arr ((firstDocuments ['\u2028']).map (readBack benchRead))) := by
  have h := benchRun_reach (firstEvent (utf8 ['\u2028'])) (by decide)
  have hring : (benchRun (firstEvent (utf8 ['\u2028']))).shared.ring.toList.map DbEvent.json =
      (firstDocuments ['\u2028']).map (documentText benchBoot.cfg.numText) := by
    decide +kernel
  obtain ⟨v, hv⟩ : ∃ v, (firstDocuments ['\u2028'])[2]? = some v := ⟨_, rfl⟩
  have hc : ∀ v ∈ (firstDocuments ['\u2028'])[2]?, '\u2028' ∈ print benchBoot.cfg.numText v := by
    decide +kernel
  refine ⟨_, h, ⟨_, rfl, rfl⟩, hring, ?_⟩
  exact clientRequest_ne decimalFormat hring (List.mem_of_getElem? hv) (hc v hv) (by decide)
    (List.length_map _)

end DragonBench
