/-
  File:      DragonBench/Schema.lean
  Subject:   EVERY EVENT OF THE DEVICE MEETS `protocol/event.schema.json`, as an object and as a line
             of `/api/v1/events`.

  The schema is published for the readers of the event log; nothing in the firmware looks at it. The
  three events of `app_main` and the four of `workload_task` fill its members from different places:
  the numbers from counters that pass through a double, the results from the verdict, the objects
  `parameters` and `metrics` from texts that are printed into fixed buffers and parsed again.

  * `eventSchema` -- the schema;
  * `ArgsConform` -- what the arguments of `emit_event` must meet;
  * `eventMembers_valid` -- an object built by `emit_event` from such arguments meets the schema;
  * `SchemaInv` -- the events under construction and in the ring;
  * **`events_conform`** -- in every run whose counters a double still holds.
-/
import DragonBench.Client
import DragonBench.Lib.JsonSchema
import DragonBench.Sequence

namespace DragonBench

open Transition Json

/-! ## 1. The schema -/

/-- `target`. -/
def schemaTargets : List CText := ["esp32s3-n8r8".toList, "esp32s3-tinys3d".toList]

/-- `result`. -/
def schemaResults : List CText :=
  ["pass".toList, "fail".toList, "aborted".toList, "unsupported".toList]

/-- `event`. -/
def schemaEvents : List CText :=
  ["boot".toList, "ready".toList, "phase_start".toList, "phase_end".toList, "fault".toList,
    "reset_reason".toList, "run_complete".toList]

/-- `properties`. -/
def schemaProperties : List (CText × Schema) :=
  [("schema".toList, .const (.num 1)), ("event".toList, .enum schemaEvents),
    ("run_id".toList, .string), ("phase".toList, .string), ("seq".toList, .integer 1),
    ("uptime_ms".toList, .integer 0), ("result".toList, .enum schemaResults),
    ("parameters".toList, .object [] []), ("metrics".toList, .object [] []),
    ("target".toList, .enum schemaTargets), ("firmware_version".toList, .string)]

/-- `required`. -/
def schemaRequired : List CText :=
  ["schema".toList, "event".toList, "seq".toList, "uptime_ms".toList, "target".toList,
    "firmware_version".toList]

/-- `protocol/event.schema.json`. -/
def eventSchema : Schema := .object schemaRequired schemaProperties

theorem schemaProperties_nodup : (schemaProperties.map Prod.fst).Nodup := by decide

/-! ## 2. One event -/

/-- **What the arguments of `emit_event` must meet**: a result of the list, and texts that begin an
    object. -/
structure ArgsConform (args : EmitArgs) : Prop where
  result : ∀ r ∈ args.result, r ∈ schemaResults
  parameters : ∀ t ∈ args.parametersJson, t.head? = some '{'
  metrics : ∀ t ∈ args.metricsJson, t.head? = some '{'

/-- In the grammar a text that begins an object is an object, or nothing. -/
theorem readsObjects_jsonText (rawControl : Bool) : ReadsObjects (jsonText rawControl).parse := by
  intro t v h hv
  cases t with
  | nil => cases h
  | cons c r =>
      cases h
      obtain ⟨p, hp, rfl⟩ := Option.map_eq_some_iff.mp hv
      rw [Dialect.value, (jsonText rawControl).skip_cons (by decide)] at hp
      simp only [show ('{' : Char) ≠ '"' by decide, show ('{' : Char) ≠ '[' by decide, if_false,
        if_true] at hp
      split at hp
      · cases hp
        exact ⟨[], rfl⟩
      · obtain ⟨q, -, rfl⟩ := Option.map_eq_some_iff.mp hp
        exact ⟨q.1, rfl⟩

/-- An object, or no member at all. -/
def IsObject (v : Option Json) : Prop := ∀ x ∈ v, ∃ ms, x = .obj ms

/-- What `emit_event` parses of such a text. -/
theorem parsed_isObject {parse : CText → Option Json} (hparse : ReadsObjects parse)
    {s : Option CText} (h : ∀ t ∈ s, t.head? = some '{') :
    IsObject ((s.bind parse).map cTree) := by
  intro x hx
  obtain ⟨v, hv, rfl⟩ := Option.map_eq_some_iff.mp hx
  obtain ⟨t, ht, hread⟩ := Option.bind_eq_some_iff.mp hv
  obtain ⟨ms, rfl⟩ := hparse t v (h t ht) hread
  exact ⟨_, rfl⟩

/-- The members of an event, its numbers and parsed objects as a reader has them. -/
def eventMembers (one seq uptimeMs : ℚ) (event target firmwareVersion : CText)
    (phase runId result : Option CText) (parameters metrics : Option Json) : List (CText × Json) :=
  [("schema".toList, .num one), ("event".toList, .str event), ("seq".toList, .num seq),
    ("uptime_ms".toList, .num uptimeMs), ("target".toList, .str target),
    ("firmware_version".toList, .str firmwareVersion)] ++
  stringMember "phase".toList phase ++ stringMember "run_id".toList runId ++
  stringMember "result".toList result ++
  (parameters.map fun v => ("parameters".toList, v)).toList ++
  (metrics.map fun v => ("metrics".toList, v)).toList

/-- The member of a described name. -/
theorem describes_property {k : CText} {s : Schema} {x : Json} (hs : (k, s) ∈ schemaProperties)
    (hx : s.Valid x) : Describes schemaProperties (k, x) :=
  describes_of_mem schemaProperties_nodup hs hx

/-- **Such members meet the schema.** -/
theorem eventMembers_valid {seq uptimeMs : Int} {event target firmwareVersion : CText}
    {phase runId result : Option CText} {parameters metrics : Option Json} (hseq : 1 ≤ seq)
    (huptime : 0 ≤ uptimeMs) (hevent : event ∈ schemaEvents) (htarget : target ∈ schemaTargets)
    (hresult : ∀ r ∈ result, r ∈ schemaResults) (hparameters : IsObject parameters)
    (hmetrics : IsObject metrics) :
    eventSchema.Valid (.obj (eventMembers 1 seq uptimeMs event target firmwareVersion phase runId
      result parameters metrics)) := by
  refine valid_object (fun k hk => ?_) fun m hm => ?_
  · rw [eventMembers]
    simp only [List.map_append, List.mem_append]
    exact Or.inl (Or.inl (Or.inl (Or.inl (Or.inl hk))))
  · have hobject : ∀ {v : Option Json} {k : CText}, IsObject v →
        (k, Schema.object [] []) ∈ schemaProperties → ∀ {m : CText × Json},
          m ∈ (v.map fun x => (k, x)).toList → Describes schemaProperties m := by
      intro v k hv hk m hm
      obtain ⟨x, hx, rfl⟩ := Option.map_eq_some_iff.mp (Option.mem_toList.mp hm)
      obtain ⟨ms, rfl⟩ := hv x hx
      exact describes_property hk (valid_anyObject ms)
    have hstring : ∀ {s : Option CText} {k : CText} {sch : Schema}, (k, sch) ∈ schemaProperties →
        (∀ t ∈ s, sch.Valid (.str t)) → ∀ {m : CText × Json}, m ∈ stringMember k s →
          Describes schemaProperties m := by
      intro s k sch hk hs m hm
      obtain ⟨t, ht, rfl⟩ := Option.map_eq_some_iff.mp (Option.mem_toList.mp hm)
      exact describes_property hk (hs t ht)
    rw [eventMembers] at hm
    simp only [List.mem_append] at hm
    rcases hm with ((((hm | hm) | hm) | hm) | hm) | hm
    · simp only [List.mem_cons, List.not_mem_nil, or_false] at hm
      rcases hm with rfl | rfl | rfl | rfl | rfl | rfl
      · exact describes_property (s := .const (.num 1)) (by simp [schemaProperties]) (.const _)
      · exact describes_property (s := .enum schemaEvents) (by simp [schemaProperties]) (.enum hevent)
      · exact describes_property (s := .integer 1) (by simp [schemaProperties]) (.integer hseq)
      · exact describes_property (s := .integer 0) (by simp [schemaProperties]) (.integer huptime)
      · exact describes_property (s := .enum schemaTargets) (by simp [schemaProperties])
          (.enum htarget)
      · exact describes_property (s := .string) (by simp [schemaProperties]) (.string _)
    · exact @hstring _ _ .string (by simp [schemaProperties]) (fun t _ => .string t) _ hm
    · exact @hstring _ _ .string (by simp [schemaProperties]) (fun t _ => .string t) _ hm
    · exact @hstring _ _ (.enum schemaResults) (by simp [schemaProperties])
        (fun t ht => .enum (hresult t ht)) _ hm
    · exact hobject hparameters (by simp [schemaProperties]) hm
    · exact hobject hmetrics (by simp [schemaProperties]) hm

/-- An event whose numbers a double holds and whose arguments conform. -/
structure EventConforms (e : Event) : Prop where
  args : ArgsConform e.args
  seq_pos : 1 ≤ e.seq
  seq_le : e.seq ≤ 2 ^ 53
  uptime_le : e.uptimeMs ≤ 2 ^ 53

theorem EventKind.mem_schema (k : EventKind) : k.text ∈ schemaEvents := by
  cases k <;> decide

section Event

variable {cfg : Config} {e : Event} {read : ℚ → ℚ}

/-- The object of an event has these members. -/
theorem root_eq (cfg : Config) (e : Event) :
    e.root cfg = .obj (eventMembers 1 e.seq e.uptimeMs e.args.event.text cfg.targetName
      cfg.firmwareVersion e.args.phase (e.args.runId.filter fun s => decide (s ≠ [])) e.args.result
      ((e.args.parametersJson.bind cfg.parse).map cTree)
      ((e.args.metricsJson.bind cfg.parse).map cTree)) := by
  simp only [Event.root, eventMembers, parsedMember, Option.map_map]
  rfl

theorem readBackMembers_append (read : ℚ → ℚ) (l l' : List (CText × Json)) :
    readBackMembers read (l ++ l') = readBackMembers read l ++ readBackMembers read l' := by
  induction l with
  | nil => rfl
  | cons m l ih =>
      show (m.1, readBack read m.2) :: readBackMembers read (l ++ l') = _
      rw [ih]
      rfl

/-- What a reader makes of the members. -/
theorem readBack_eventMembers (one seq uptimeMs : ℚ) (event target firmwareVersion : CText)
    (phase runId result : Option CText) (parameters metrics : Option Json) :
    readBack read (.obj (eventMembers one seq uptimeMs event target firmwareVersion phase runId result
      parameters metrics)) =
    .obj (eventMembers (read one) (read seq) (read uptimeMs) event target firmwareVersion phase runId
      result (parameters.map (readBack read)) (metrics.map (readBack read))) := by
  simp only [readBack, eventMembers, readBackMembers_append]
  cases phase <;> cases runId <;> cases result <;> cases parameters <;> cases metrics <;> rfl

theorem isObject_readBack {v : Option Json} (h : IsObject v) : IsObject (v.map (readBack read)) := by
  intro x hx
  obtain ⟨y, hy, rfl⟩ := Option.map_eq_some_iff.mp hx
  obtain ⟨ms, rfl⟩ := h y hy
  exact ⟨_, rfl⟩

/-- **The object of such an event meets the schema.** -/
theorem EventConforms.root_valid (h : EventConforms e) (hparse : ReadsObjects cfg.parse)
    (htarget : cfg.targetName ∈ schemaTargets) : eventSchema.Valid (e.root cfg) := by
  rw [root_eq]
  have hseq : (1 : Int) ≤ e.seq := by exact_mod_cast h.seq_pos
  exact eventMembers_valid hseq (Int.natCast_nonneg _) e.args.event.mem_schema htarget h.args.result
    (parsed_isObject hparse h.args.parameters) (parsed_isObject hparse h.args.metrics)

/-- The numbers of an event are printed so that they are read back: the version, the number and the
    time. -/
structure NumbersExact (read : ℚ → ℚ) (e : Event) : Prop where
  schema : read 1 = 1
  seq : read e.seq = e.seq
  uptimeMs : read e.uptimeMs = e.uptimeMs

/-- **So does what any reader makes of its text**, when its numbers are read back. -/
theorem EventConforms.text_valid (h : EventConforms e) (hparse : ReadsObjects cfg.parse)
    (htarget : cfg.targetName ∈ schemaTargets) (hf : NumFormat cfg.numText read)
    (hexact : NumbersExact read e) (D : Dialect) :
    ∃ v, D.loads (e.text cfg) = some v ∧ eventSchema.Valid v := by
  refine ⟨_, D.loads_print hf (e.root cfg), ?_⟩
  rw [root_eq, readBack_eventMembers, hexact.schema, hexact.seq, hexact.uptimeMs]
  have hseq : (1 : Int) ≤ e.seq := by exact_mod_cast h.seq_pos
  exact eventMembers_valid hseq (Int.natCast_nonneg _) e.args.event.mem_schema htarget h.args.result
    (isObject_readBack (parsed_isObject hparse h.args.parameters))
    (isObject_readBack (parsed_isObject hparse h.args.metrics))

end Event

/-! ## 3. The device -/

/-- **A double still holds the counters**: the clock, and the number an event would take next. -/
def ExactCounters (d : Device) (_ : Action) : Prop :=
  d.shared.clock ≤ 2 ^ 53 ∧ d.shared.eventSeq + 1 ≤ 2 ^ 53

instance (d : Device) (a : Action) : Decidable (ExactCounters d a) :=
  inferInstanceAs (Decidable (d.shared.clock ≤ 2 ^ 53 ∧ d.shared.eventSeq + 1 ≤ 2 ^ 53))

/-- What an emission under way holds. -/
def EmitStage.Conforms : EmitStage → Prop
  | .number => True
  | .build n => 1 ≤ n ∧ n ≤ 2 ^ 53
  | .insert e => EventConforms e

/-- **Every event on its way and every event inserted conforms.** -/
structure SchemaInv (d : Device) : Prop where
  inserted : ∀ i ∈ d.shared.inserted, EventConforms i.event
  tasks : ∀ t ∈ d.tasks, ∀ k stage, t.pc = .emit k stage → stage.Conforms
  main : ∀ k stage, d.main = .emit k stage → stage.Conforms

/-- A text that is cut keeps its first character. -/
theorem head_snprintf {n : Nat} {c : Char} {t : CText} (hn : 1 < n) :
    (CText.snprintf n (c :: t)).head? = some c := by
  obtain ⟨m, rfl⟩ : ∃ m, n = m + 2 := ⟨n - 2, by omega⟩
  rfl

/-- The arguments of the four calls in `workload_task`. -/
theorem taskArgs_conform (t : Task) (k : RunEvent) : ArgsConform (taskArgs t k) where
  result r hr := by
    cases k with
    | phaseStart => cases hr
    | fault =>
        cases hr
        decide
    | phaseEnd | runComplete =>
        cases hr
        cases t.result <;> decide
  parameters p hp := by
    cases hp
    exact head_snprintf (by decide)
  metrics p hp := by
    cases k with
    | phaseStart => cases hp
    | fault | phaseEnd | runComplete =>
        cases hp
        exact head_snprintf (by decide)

/-- The arguments of the three calls in `app_main`. -/
theorem mainArgs_conform (B : Boot) (k : BootEvent) : ArgsConform (mainArgs B k) where
  result := nofun
  parameters := nofun
  metrics p hp := by
    cases k with
    | boot | ready => cases hp
    | resetReason =>
        cases hp
        exact head_snprintf (by decide)

/-- The number taken from `event_seq`. -/
theorem number_conforms {n : Nat} (h : n + 1 ≤ 2 ^ 53) :
    1 ≤ asDouble ((n + 1) % 2 ^ 64) ∧ asDouble ((n + 1) % 2 ^ 64) ≤ 2 ^ 53 := by
  rw [(number_exact h).2]
  exact ⟨Nat.le_add_left _ _, h⟩

/-- The event built from it. -/
theorem built_conforms {args : EmitArgs} {n clock : Nat} (ha : ArgsConform args)
    (hn : 1 ≤ n ∧ n ≤ 2 ^ 53) (hc : clock ≤ 2 ^ 53) : EventConforms ⟨args, n, asDouble clock⟩ :=
  ⟨ha, hn.1, hn.2, by rwa [asDouble_of_le hc]⟩

section Proofs

variable {B : Boot} {d : Device} {s s' : Shared} {t t' : Task}

/-- **One step of a task.** -/
theorem TaskStep.conforms (h : TaskStep B s t s' t') (hclock : s.clock ≤ 2 ^ 53)
    (hseq : s.eventSeq + 1 ≤ 2 ^ 53) (hi : ∀ i ∈ s.inserted, EventConforms i.event)
    (ht : ∀ k stage, t.pc = .emit k stage → stage.Conforms) :
    (∀ i ∈ s'.inserted, EventConforms i.event) ∧
      ∀ k stage, t'.pc = .emit k stage → stage.Conforms := by
  cases h with
  | number =>
      refine ⟨hi, fun k stage hpc => ?_⟩
      cases hpc
      exact number_conforms hseq
  | build hpc =>
      refine ⟨hi, fun k stage hpc' => ?_⟩
      cases hpc'
      exact built_conforms (taskArgs_conform t _) (ht _ _ hpc) hclock
  | insert hpc =>
      refine ⟨fun i hm => ?_, fun k stage hpc' => ?_⟩
      · rcases List.mem_append.mp hm with hm | hm
        · exact hi i hm
        · rw [List.mem_singleton.mp hm]
          exact ht _ _ hpc
      · cases afterEvent_of_eq hpc'
        exact trivial
  | choose =>
      refine ⟨hi, fun k stage hpc => ?_⟩
      dsimp only at hpc
      split at hpc <;> cases hpc
      exact trivial
  | copy | noFault | fault | finish =>
      refine ⟨hi, fun k stage hpc => ?_⟩
      cases hpc
      exact trivial
  | more | done | noReboot | reboot | markMagic | markRunId | delay | restart =>
      exact ⟨hi, nofun⟩

theorem schemaInv_step {d' : Device} {a : Action} (I : SchemaInv d) (hc : ExactCounters d a)
    (h : DeviceStep B d a d') : SchemaInv d' := by
  cases h with
  | @task i ret t t' s' ht hst =>
      have hmem := List.mem_of_getElem? ht
      obtain ⟨hins, hpc⟩ := hst.conforms hc.1 hc.2 I.inserted (I.tasks t hmem)
      refine ⟨hins, fun u hu => ?_, I.main⟩
      rcases List.mem_or_eq_of_mem_set hu with hu | rfl
      · exact I.tasks u hu
      · exact hpc
  | created hh =>
      refine ⟨I.inserted, fun u hu => ?_, I.main⟩
      rcases List.mem_append.mp hu with hu | hu
      · exact I.tasks u hu
      · rw [List.mem_singleton.mp hu]
        exact nofun
  | mainNumber hm =>
      refine ⟨I.inserted, I.tasks, fun k stage hpc => ?_⟩
      cases hpc
      exact number_conforms hc.2
  | mainBuild hm =>
      refine ⟨I.inserted, I.tasks, fun k stage hpc => ?_⟩
      cases hpc
      exact built_conforms (mainArgs_conform B _) (I.main _ _ hm) hc.1
  | @mainInsert up k e hm =>
      refine ⟨fun i hi => ?_, I.tasks, fun k' stage hpc => ?_⟩
      · rcases List.mem_append.mp hi with hi | hi
        · exact I.inserted i hi
        · rw [List.mem_singleton.mp hi]
          exact I.main _ _ hm
      · have hpc : afterBootEvent k = .emit k' stage := hpc
        cases k <;> cases hpc
        exact trivial
  | startHttp hm =>
      refine ⟨I.inserted, I.tasks, fun k stage hpc => ?_⟩
      cases hpc
      exact trivial
  | startFailed hm => exact ⟨I.inserted, I.tasks, nofun⟩
  | refused | begin | notCreated | finishFailed | abortRefused | abort | tick | radio =>
      exact ⟨I.inserted, I.tasks, I.main⟩

theorem schemaInv_reach (h : Reach (device B) ExactCounters d) : SchemaInv d := by
  refine device_reach (I := SchemaInv) ?_ ?_ h
  · intro marker
    refine ⟨fun i hi => absurd hi List.not_mem_nil, fun t ht => absurd ht List.not_mem_nil,
      fun k stage hpc => ?_⟩
    cases hpc
    exact trivial
  · intro s a s' _ I hc _ hs
    exact schemaInv_step I hc hs

/-- A line of a snapshot is the text of an event up to the size of the slot. -/
theorem snapshot_line {read : ℚ → ℚ} (hf : NumFormat B.cfg.numText read)
    {C : Device → Action → Prop} (h : Reach (device B) C d) {line : CText}
    (hl : line ∈ snapshotEventsLocked d.shared.ring) :
    ∃ i ∈ d.shared.inserted, line = i.event.slotText B.cfg := by
  rw [snapshotEventsLocked, ring_reads h, List.map_map] at hl
  obtain ⟨i, hi, rfl⟩ := List.mem_map.mp hl
  refine ⟨i, List.mem_of_mem_drop hi, ?_⟩
  -- the text has no NUL, so only its length can cut it
  have h0 : '\x00' ∉ i.event.slotText B.cfg := by
    intro hm
    have hge := print_ge hf (i.event.root B.cfg) _ (List.take_subset _ _ hm)
    exact absurd hge (by decide)
  show CText.snprintf dbEventJsonLen (cstr (i.event.slotText B.cfg)) = _
  rw [cstr_of_not_mem h0]
  exact CText.snprintf_of_lt (i.event.slotText_fits B.cfg)

end Proofs

/-- **EVERY EVENT MEETS THE PUBLISHED SCHEMA**: in every run whose counters a double holds, on a
    board whose target the schema knows, the object of every event the device has emitted meets it;
    every line of `/api/v1/events` is the text of such an event up to 511 characters, and what any
    JSON reader makes of a line that holds the whole text meets it too. -/
theorem events_conform {B : Boot} {read : ℚ → ℚ} {d : Device}
    (htarget : B.cfg.targetName ∈ schemaTargets) (hparse : ReadsObjects B.cfg.parse)
    (hf : NumFormat B.cfg.numText read)
    (hexact : ∀ i ∈ d.shared.inserted, NumbersExact read i.event)
    (h : Reach (device B) ExactCounters d) :
    (∀ i ∈ d.shared.inserted, eventSchema.Valid (i.event.root B.cfg)) ∧
    ∀ line ∈ snapshotEventsLocked d.shared.ring, ∃ i ∈ d.shared.inserted,
      line = (i.event.text B.cfg).take 511 ∧
      ((i.event.text B.cfg).length ≤ 511 → line = i.event.text B.cfg ∧ ∀ D : Dialect,
        ∃ v, D.loads line = some v ∧ eventSchema.Valid v) := by
  have I := schemaInv_reach h
  refine ⟨fun i hi => (I.inserted i hi).root_valid hparse htarget, fun line hl => ?_⟩
  obtain ⟨i, hi, rfl⟩ := snapshot_line hf h hl
  refine ⟨i, hi, rfl, fun hfits => ?_⟩
  have hwhole : i.event.slotText B.cfg = i.event.text B.cfg :=
    CText.snprintf_of_lt (Nat.lt_succ_of_le hfits)
  rw [hwhole]
  exact ⟨rfl, (I.inserted i hi).text_valid hparse htarget hf (hexact i hi)⟩

set_option maxRecDepth 8000 in
/-- An idle run up to the choice of its result. -/
theorem events_conform_idle :
    let d := benchRunIf ExactCounters (waited .idle)
    (∀ i ∈ d.shared.inserted, eventSchema.Valid (i.event.root benchBoot.cfg)) ∧
    ∀ line ∈ snapshotEventsLocked d.shared.ring, ∃ i ∈ d.shared.inserted,
      line = (i.event.text benchBoot.cfg).take 511 ∧
      ((i.event.text benchBoot.cfg).length ≤ 511 → line = i.event.text benchBoot.cfg ∧
        ∀ D : Dialect, ∃ v, D.loads line = some v ∧ eventSchema.Valid v) := by
  have hnat : ∀ n : Nat, (((n : ℚ).num.toNat : Nat) : ℚ) = n := fun n => by
    rw [Rat.num_natCast, Int.toNat_natCast]
  exact events_conform (B := benchBoot) (by decide) (readsObjects_jsonText false) decimalFormat
    (fun i _ => ⟨by norm_num, hnat _, hnat _⟩)
    (benchRunIf_reach (waited .idle) (by decide +kernel))

end DragonBench
