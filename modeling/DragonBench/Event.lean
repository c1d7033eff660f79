/-
  File:      DragonBench/Event.lean
  Subject:   The texts of an event: the `parameters` and `metrics` buffers of `workload_task`,
             the cJSON object of `emit_event`, and the text the ring slot keeps.

  `emit_event` parses the two buffers again and hangs what it reads into its object; a text that
  does not parse leaves the member out. `Event` is what one call puts into the object, `root` the
  object, `text` what `cJSON_PrintUnformatted` makes of it and `slotText` what the slot keeps.
-/
import DragonBench.CJson
import DragonBench.Run

namespace DragonBench

/-! ## 1. What an event says -/

/-- The first argument of `emit_event`. -/
inductive EventKind where
  | boot | resetReason | ready | phaseStart | fault | phaseEnd | runComplete
  deriving DecidableEq, Repr

/-- The text of the argument. -/
def EventKind.text : EventKind → CText
  | .boot => "boot".toList
  | .resetReason => "reset_reason".toList
  | .ready => "ready".toList
  | .phaseStart => "phase_start".toList
  | .fault => "fault".toList
  | .phaseEnd => "phase_end".toList
  | .runComplete => "run_complete".toList

/-- The arguments of `emit_event`; NULL is `none`. -/
structure EmitArgs where
  event : EventKind
  phase : Option CText
  runId : Option CText
  result : Option CText
  parametersJson : Option CText
  metricsJson : Option CText
  deriving DecidableEq, Repr

/-- One event: the arguments, the number taken from `event_seq`, the time. -/
structure Event where
  args : EmitArgs
  seq : Nat
  uptimeMs : Nat
  deriving DecidableEq, Repr

/-- `(double)` of a 64-bit counter: from 2^53 on only multiples of a power of two remain, rounded
    half to even. -/
def asDouble (n : Nat) : Nat :=
  let k := n.log2 - 52
  let m := n >>> k
  let r := n - m <<< k
  if k = 0 then n
  else if 2 * r < 2 ^ k ∨ (2 * r = 2 ^ k ∧ m % 2 = 0) then m <<< k
  else (m + 1) <<< k

/-- Up to 2^53 a double is exact. -/
theorem asDouble_of_le {n : Nat} (h : n ≤ 2 ^ 53) : asDouble n = n := by
  by_cases hn : n = 2 ^ 53
  · subst hn
    decide
  · have hk : n.log2 - 52 = 0 := by
      rcases Nat.eq_zero_or_pos n with rfl | hpos
      · rfl
      · have := (Nat.log2_lt (by omega)).mpr (show n < 2 ^ 53 by omega)
        omega
    simp only [asDouble, hk, if_true]

/-- The build-time configuration, and how cJSON reads and writes. -/
structure Config where
  /-- `CONFIG_DB_TARGET_NAME` -/
  targetName : CText
  /-- `CONFIG_DB_FIRMWARE_VERSION` -/
  firmwareVersion : CText
  /-- the text cJSON prints for a number node -/
  numText : ℚ → CText
  /-- `cJSON_Parse` -/
  parse : CText → Option Json

/-! ## 2. The buffers of `workload_task` -/

/-- The size of `parameters`. -/
def parametersLen : Nat := 384

/-- The size of `metrics`. -/
def metricsLen : Nat := 128

/-- What the format string of `parameters` makes of a request. -/
def parametersFormat (r : DbRunRequest) : CText :=
  "\x7b\"duration_ms\":".toList ++ CText.decimal r.durationMs ++ ",\"rate_bps\":".toList ++
    CText.decimal r.rateBps ++ ",\"host\":\"".toList ++ r.host ++ "\",\"port\":".toList ++
    CText.decimal r.port ++ "\x7d".toList

/-- The buffer `parameters`. -/
def parametersText (r : DbRunRequest) : CText := CText.snprintf parametersLen (parametersFormat r)

/-- What the format string of `metrics` makes of the two counters. -/
def metricsFormat (a b : Nat) : CText :=
  "\x7b\"operations_or_bytes\":".toList ++ CText.decimal a ++ ",\"bytes_rx\":".toList ++
    CText.decimal b ++ "\x7d".toList

/-- The buffer `metrics`. -/
def metricsText (a b : Nat) : CText := CText.snprintf metricsLen (metricsFormat a b)

/-! ## 3. The object and its text -/

/-- A string member, when there is one. -/
def stringMember (name : CText) (s : Option CText) : List (CText × Json) :=
  (s.map fun t => (name, Json.str t)).toList

/-- A member read from JSON text, when there is text and it parses. -/
def parsedMember (parse : CText → Option Json) (name : CText) (s : Option CText) :
    List (CText × Json) :=
  ((s.bind parse).map fun v => (name, cTree v)).toList

/-- The cJSON object `root` of `emit_event`. -/
def Event.root (cfg : Config) (e : Event) : Json :=
  .obj ([("schema".toList, .num 1), ("event".toList, .str e.args.event.text),
      ("seq".toList, .num (e.seq : ℚ)), ("uptime_ms".toList, .num (e.uptimeMs : ℚ)),
      ("target".toList, .str cfg.targetName),
      ("firmware_version".toList, .str cfg.firmwareVersion)] ++
    stringMember "phase".toList e.args.phase ++
    stringMember "run_id".toList (e.args.runId.filter fun s => decide (s ≠ [])) ++
    stringMember "result".toList e.args.result ++
    parsedMember cfg.parse "parameters".toList e.args.parametersJson ++
    parsedMember cfg.parse "metrics".toList e.args.metricsJson)

theorem stringMember_names {name k : CText} (h : name ≠ cstr k) (s : Option CText) :
    name ∉ (stringMember k s).map fun m => cstr m.1 := by
  cases s with
  | none => exact List.not_mem_nil
  | some t => exact fun hm => h (List.mem_singleton.mp hm)

/-- The member `parameters` is its text, read and cut into C strings. -/
theorem Event.root_parameters (cfg : Config) (e : Event) :
    getObjectItem "parameters".toList (e.root cfg) =
      (e.args.parametersJson.bind cfg.parse).map cTree := by
  have hfixed : "parameters".toList ∉ ["schema".toList, "event".toList, "seq".toList,
      "uptime_ms".toList, "target".toList, "firmware_version".toList].map cstr := by decide
  rw [Event.root]
  simp only [List.append_assoc]
  rw [getObjectItem_append hfixed, getObjectItem_append (stringMember_names (by decide) _),
    getObjectItem_append (stringMember_names (by decide) _),
    getObjectItem_append (stringMember_names (by decide) _)]
  unfold parsedMember
  cases e.args.parametersJson.bind cfg.parse with
  | some v => rfl
  | none => cases e.args.metricsJson.bind cfg.parse <;> rfl

/-- The text cJSON prints. -/
def Event.text (cfg : Config) (e : Event) : CText := (e.root cfg).print cfg.numText

/-- What `snprintf(slot->json, sizeof(slot->json), "%s", json)` keeps. -/
def Event.slotText (cfg : Config) (e : Event) : CText :=
  CText.snprintf dbEventJsonLen (e.text cfg)

/-- `db_event_t`: a number and a text that fits its buffer with its NUL. -/
structure DbEvent where
  seq : Nat
  json : CText
  fits : json.length < dbEventJsonLen
  deriving DecidableEq

theorem Event.slotText_fits (cfg : Config) (e : Event) :
    (e.slotText cfg).length < dbEventJsonLen := by
  rw [slotText, CText.snprintf, List.length_take]
  unfold dbEventJsonLen
  omega

/-- The slot `emit_event` fills, under the number it reads from `event_seq`. -/
def Event.slot (cfg : Config) (e : Event) (seq : Nat) : DbEvent :=
  ⟨seq, e.slotText cfg, e.slotText_fits cfg⟩

end DragonBench
