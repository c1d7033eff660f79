/-
  File:      DragonBench/Widths.lean
  Subject:   WHICH EVENTS FIT THEIR SLOT: the buffers `parameters` and `metrics` are always large
             enough, the 512 bytes of the ring slot are not.

  Every field of an event has its own maximum, and the maxima do not fit together: a request with
  a host of 253 characters prints as more than 511 characters as soon as the metrics are there.
  A host that holds raw control characters grows sixfold when cJSON prints it again.

  * `ReadsFormats` -- what is asked of `cJSON_Parse`: it reads the two texts;
  * `eventWidth` -- the width of an event from the widths of what it is made of;
  * `Event.text_length` -- it is the length of the text cJSON prints;
  * **`buffers_complete_iff`** -- all three copies are complete exactly when it is at most 511;
  * `runEvent_complete_iff` -- the same for the events the ring was given.
-/
import DragonBench.Lib.JsonWidth
import DragonBench.Parameters

namespace DragonBench

open Transition Json

/-! ## 1. The metrics -/

/-- The members of the metrics. -/
def metricsMembers (a b : Nat) : List (CText × Json) :=
  [("operations_or_bytes".toList, .num (a : ℚ)), ("bytes_rx".toList, .num (b : ℚ))]

/-- The metrics text is the compact text of its members. -/
theorem metricsFormat_eq (a b : Nat) : metricsFormat a b =
    (Json.obj (metricsMembers a b)).print fun q => CText.decimal q.num.toNat := by
  have h1 : "\x7b\"operations_or_bytes\":".toList =
      '{' :: (printString "operations_or_bytes".toList ++ [':']) := by decide
  have h2 : ",\"bytes_rx\":".toList = ',' :: (printString "bytes_rx".toList ++ [':']) := by decide
  have h3 : "\x7d".toList = ['}'] := by decide
  unfold metricsFormat
  simp only [h1, h2, h3, metricsMembers, print, printMembers, Rat.num_natCast, Int.toNat_natCast,
    List.append_assoc, List.cons_append, List.nil_append]

/-- The two counters come back. -/
theorem parse_metrics (d : Dialect) (a b : Nat) :
    d.parse (metricsFormat a b) = some (.obj (metricsMembers a b)) := by
  have h := d.parse_print decimalFormat (.obj (metricsMembers a b)) (r := [])
    (fun c hc => absurd hc (by simp))
  rw [List.append_nil, ← metricsFormat_eq] at h
  rw [h]
  simp only [readBack, readBackMembers, metricsMembers, Rat.num_natCast, Int.toNat_natCast]

/-- **What is asked of `cJSON_Parse`**: it reads the text of a request with a plain host, and that
    of two counters, as what they were printed from. -/
structure ReadsFormats (parse : CText → Option Json) : Prop where
  parameters : ReadsParameters parse
  metrics : ∀ a b, a < 2 ^ 64 → b < 2 ^ 64 →
    parse (metricsFormat a b) = some (.obj (metricsMembers a b))

/-- A reader of JSON does. -/
theorem ReadsJson.formats {parse : CText → Option Json} (h : ReadsJson parse) :
    ReadsFormats parse where
  parameters := h.parameters
  metrics a b _ _ := h _ _ (parse_metrics _ a b) rfl

/-- **`metrics` is never cut**: 36 characters of its own, and twice 20. -/
theorem metricsText_eq {a b : Nat} (ha : a < 2 ^ 64) (hb : b < 2 ^ 64) :
    metricsText a b = metricsFormat a b := by
  have h1 : (CText.decimal a).length ≤ 20 := CText.decimal_length_le (by decide) (by omega)
  have h2 : (CText.decimal b).length ≤ 20 := CText.decimal_length_le (by decide) (by omega)
  have h3 : "\x7b\"operations_or_bytes\":".toList.length = 23 := by decide
  have h4 : ",\"bytes_rx\":".toList.length = 12 := by decide
  have h5 : "\x7d".toList.length = 1 := by decide
  refine CText.snprintf_of_lt ?_
  unfold metricsFormat metricsLen
  simp only [List.length_append, h3, h4, h5]
  omega

/-! ## 2. The width of an event -/

/-- The width of a number node. -/
def Config.numWidth (cfg : Config) (q : ℚ) : Nat := (cfg.numText q).length

/-- A member, and the comma or brace behind it. -/
def memberWidth (name : CText) (w : Nat) : Nat := stringWidth name + 1 + w + 1

/-- A string member that may be missing. -/
def optionWidth (name : CText) : Option CText → Nat
  | none => 0
  | some s => memberWidth name (stringWidth s)

/-- The member `parameters`. A host of plain characters is printed as it was read; with any other
    host it is up to `cJSON_Parse` what the text is read as, if anything. -/
def parametersWidth (cfg : Config) (r : DbRunRequest) : Nat :=
  if r.host.all (jsonText false).plain then
    memberWidth "parameters".toList
      (1 + memberWidth "duration_ms".toList (cfg.numWidth r.durationMs) +
        memberWidth "rate_bps".toList (cfg.numWidth r.rateBps) +
        memberWidth "host".toList (stringWidth r.host) +
        memberWidth "port".toList (cfg.numWidth r.port))
  else
    match cfg.parse (parametersFormat r) with
    | none => 0
    | some v => memberWidth "parameters".toList (width cfg.numWidth (cTree v))

/-- The member `metrics`, which `phase_start` does not have. -/
def metricsWidth (cfg : Config) (a b : Nat) : RunEvent → Nat
  | .phaseStart => 0
  | .fault | .phaseEnd | .runComplete => memberWidth "metrics".toList
      (1 + memberWidth "operations_or_bytes".toList (cfg.numWidth a) +
        memberWidth "bytes_rx".toList (cfg.numWidth b))

/-- **The width of an event of a workload task.** -/
def eventWidth (cfg : Config) (t : Task) (k : RunEvent) (seq uptimeMs : Nat) : Nat :=
  1 + memberWidth "schema".toList (cfg.numWidth 1) +
    memberWidth "event".toList (stringWidth k.kind.text) +
    memberWidth "seq".toList (cfg.numWidth seq) +
    memberWidth "uptime_ms".toList (cfg.numWidth uptimeMs) +
    memberWidth "target".toList (stringWidth cfg.targetName) +
    memberWidth "firmware_version".toList (stringWidth cfg.firmwareVersion) +
    memberWidth "phase".toList (stringWidth (dbWorkloadName t.run.request.workload)) +
    optionWidth "run_id".toList ((some t.run.runId).filter fun s => decide (s ≠ [])) +
    optionWidth "result".toList (taskArgs t k).result +
    parametersWidth cfg t.run.request + metricsWidth cfg t.a t.b k

theorem widthMembers_stringMember (w : ℚ → Nat) (name : CText) (s : Option CText) :
    widthMembers w (stringMember name s) = optionWidth name s := by
  cases s <;> rfl

section Width

variable (cfg : Config) (hparse : ReadsFormats cfg.parse)

include hparse

theorem widthMembers_parameters {body : Option Json} {r : DbRunRequest}
    (h : runsPostRequest body = .ok r) :
    widthMembers cfg.numWidth (parsedMember cfg.parse "parameters".toList
      (some (parametersText r))) = parametersWidth cfg r := by
  rw [parametersText_eq h, parsedMember, Option.bind_some]
  unfold parametersWidth
  by_cases hp : r.host.all (jsonText false).plain = true
  · obtain ⟨hduration, hrate, hport⟩ := request_bounds h
    rw [if_pos hp, hparse.parameters r hduration hrate hport (List.all_eq_true.mp hp)]
    have hnul : '\x00' ∉ r.host := (runsPostRequest_ok h).2.2.2.2
    rw [Option.map_some, cTree_requestMembers hnul]
    simp only [Option.toList_some, widthMembers, width, requestMembers, memberWidth]
    simp only [Config.numWidth]
    omega
  · rw [if_neg hp]
    cases cfg.parse (parametersFormat r) <;> rfl

theorem widthMembers_metrics {a b : Nat} (ha : a < 2 ^ 64) (hb : b < 2 ^ 64) :
    widthMembers cfg.numWidth (parsedMember cfg.parse "metrics".toList
      (some (metricsText a b))) = memberWidth "metrics".toList
        (1 + memberWidth "operations_or_bytes".toList (cfg.numWidth a) +
          memberWidth "bytes_rx".toList (cfg.numWidth b)) := by
  have h1 : cstr "operations_or_bytes".toList = "operations_or_bytes".toList :=
    cstr_of_not_mem (by decide)
  have h2 : cstr "bytes_rx".toList = "bytes_rx".toList := cstr_of_not_mem (by decide)
  rw [metricsText_eq ha hb, parsedMember, Option.bind_some, hparse.metrics a b ha hb]
  simp only [Option.map_some, Option.toList_some, metricsMembers, cTree, mapStr, mapStrMembers, h1, h2,
    widthMembers, width, memberWidth]
  omega

/-- **The width of an event is the length of the text cJSON prints.** -/
theorem Event.text_length {body : Option Json} {t : Task}
    (h : runsPostRequest body = .ok t.run.request) (ha : t.a < 2 ^ 64) (hb : t.b < 2 ^ 64)
    (k : RunEvent) (seq uptimeMs : Nat) :
    (Event.text cfg ⟨taskArgs t k, seq, uptimeMs⟩).length = eventWidth cfg t k seq uptimeMs := by
  have hp := widthMembers_parameters cfg hparse h
  have hm := widthMembers_metrics cfg hparse ha hb
  have hmetrics : widthMembers cfg.numWidth (parsedMember cfg.parse "metrics".toList
      (taskArgs t k).metricsJson) = metricsWidth cfg t.a t.b k := by
    cases k with
    | phaseStart => rfl
    | fault | phaseEnd | runComplete => exact hm
  rw [Event.text, print_length]
  show width cfg.numWidth (Event.root cfg _) = _
  rw [Event.root, width]
  simp only [widthMembers_append, widthMembers_stringMember, hmetrics]
  simp only [taskArgs, hp, widthMembers, width, eventWidth, memberWidth, optionWidth]
  omega

/-- The ring slot holds the whole text exactly when it is no wider than 511 characters. -/
theorem Event.slotText_eq_iff {body : Option Json} {t : Task}
    (h : runsPostRequest body = .ok t.run.request) (ha : t.a < 2 ^ 64) (hb : t.b < 2 ^ 64)
    (k : RunEvent) (seq uptimeMs : Nat) :
    Event.slotText cfg ⟨taskArgs t k, seq, uptimeMs⟩ =
      Event.text cfg ⟨taskArgs t k, seq, uptimeMs⟩ ↔ eventWidth cfg t k seq uptimeMs ≤ 511 := by
  have hsize : 0 < dbEventJsonLen := by decide
  rw [Event.slotText, CText.snprintf_eq_iff hsize, Event.text_length cfg hparse h ha hb]
  exact Nat.lt_succ_iff

/-- **No buffer on the way of an event of a workload task cuts anything exactly when the event is
    no wider than 511 characters**; `parameters` and `metrics` never do. -/
theorem buffers_complete_iff {body : Option Json} {t : Task}
    (h : runsPostRequest body = .ok t.run.request) (ha : t.a < 2 ^ 64) (hb : t.b < 2 ^ 64)
    (k : RunEvent) (seq uptimeMs : Nat) :
    (parametersText t.run.request = parametersFormat t.run.request ∧
      metricsText t.a t.b = metricsFormat t.a t.b ∧
      Event.slotText cfg ⟨taskArgs t k, seq, uptimeMs⟩ =
        Event.text cfg ⟨taskArgs t k, seq, uptimeMs⟩) ↔
      eventWidth cfg t k seq uptimeMs ≤ 511 := by
  rw [← Event.slotText_eq_iff cfg hparse h ha hb]
  exact ⟨fun hall => hall.2.2, fun hs => ⟨parametersText_eq h, metricsText_eq ha hb, hs⟩⟩

end Width

/-! ## 3. The events of the ring -/

section Runs

variable {B : Boot}

/-- The counters of a worker are 64 bits wide. -/
theorem task_counters {C : Device → Action → Prop} {d : Device} (h : Reach (device B) C d) :
    ∀ t ∈ d.tasks, t.a < 2 ^ 64 ∧ t.b < 2 ^ 64 := by
  refine task_reach (P := fun t => t.a < 2 ^ 64 ∧ t.b < 2 ^ 64) ?_ ?_ h
  · intro n
    exact ⟨Nat.two_pow_pos 64, Nat.two_pow_pos 64⟩
  · intro s t s' t' ht hs
    cases hs with
    | done => exact ⟨Nat.mod_lt _ (Nat.two_pow_pos 64), Nat.mod_lt _ (Nat.two_pow_pos 64)⟩
    | copy | number | build | insert | more | choose | noFault | fault | finish | noReboot | reboot
    | markMagic | markRunId | delay | restart => exact ht

/-- **Every run event in the ring is complete exactly when it is no wider than 511 characters.** -/
theorem runEvent_complete_iff (hparse : ReadsFormats B.cfg.parse) {d : Device}
    (h : Reach (device B) Always d) {i : Insertion} (hi : i ∈ d.shared.inserted) {n : Nat}
    (hn : i.source = some n) :
    ∃ t ∈ d.tasks, ∃ k, t.born = n ∧ i.event.args = taskArgs t k ∧
      (i.event.slotText B.cfg = i.event.text B.cfg ↔
        eventWidth B.cfg t k i.event.seq i.event.uptimeMs ≤ 511) := by
  obtain ⟨t, ht, hb, ⟨k, hargs⟩, p, hp, -, hreq⟩ := runEvent_task h hi hn
  obtain ⟨body, hr⟩ := (requestInv_reach h).request p (List.mem_of_getElem? hp)
  obtain ⟨ha, hb'⟩ := task_counters h t ht
  have hev : i.event = ⟨taskArgs t k, i.event.seq, i.event.uptimeMs⟩ := by rw [← hargs]
  refine ⟨t, ht, k, hb, hargs, ?_⟩
  rw [hev]
  exact Event.slotText_eq_iff B.cfg hparse (hreq.symm ▸ hr) ha hb' k _ _

end Runs

/-! ## 4. Two hosts -/

/-- The bench reads the two texts. -/
theorem bench_formats : ReadsFormats benchBoot.cfg.parse := readsJson_jsonText.formats

/-- The widest host that fits the request. -/
def wideHost : CText := List.replicate 253 'a'

/-- An idle run with a host up to its `phase_end`. -/
def hostRun (host : CText) : List Action :=
  firstEvent host ++ [firstTask, .tick 30000] ++ List.replicate 5 firstTask

set_option maxRecDepth 4000 in
/-- The `phase_end` of an idle run towards `bench.local` is complete. -/
theorem buffers_complete_bench : ∃ d, Reach (device benchBoot) Always d ∧
    ∃ t ∈ d.tasks, t.run.request.host = "bench.local".toList ∧
      Event.slotText benchBoot.cfg ⟨taskArgs t .phaseEnd, 4, 30000⟩ =
        Event.text benchBoot.cfg ⟨taskArgs t .phaseEnd, 4, 30000⟩ := by
  have h := benchRun_reach (hostRun "bench.local".toList) (by decide)
  have ht := List.mem_of_getElem? (i := 0)
    (l := (benchRun (hostRun "bench.local".toList)).tasks) rfl
  have hr : runsPostRequest (idleWithHost "bench.local".toList) =
      .ok ⟨.idle, 30000, 0, 0, "bench.local".toList⟩ := by rfl
  refine ⟨_, h, _, ht, by decide, ?_⟩
  exact ((buffers_complete_iff benchBoot.cfg bench_formats hr (by decide) (by decide) .phaseEnd 4 30000).mpr
    (by decide)).2.2

set_option maxRecDepth 4000 in
/-- **The `phase_end` of an idle run with the widest host is cut**. -/
theorem slot_cut : ∃ d, Reach (device benchBoot) Always d ∧
    ∃ i ∈ d.shared.inserted, ∃ p, i.source = some 0 ∧ d.accepted[0]? = some p ∧
      p.2.host = wideHost ∧ i.event.args.event = .phaseEnd ∧
      i.event.slotText benchBoot.cfg ≠ i.event.text benchBoot.cfg := by
  have h := benchRun_reach (hostRun wideHost) (by decide)
  obtain ⟨i, hi⟩ : ∃ i, (benchRun (hostRun wideHost)).shared.inserted[3]? = some i := ⟨_, rfl⟩
  obtain ⟨t, ht⟩ : ∃ t, (benchRun (hostRun wideHost)).tasks[0]? = some t := ⟨_, rfl⟩
  have hr : runsPostRequest (idleWithHost wideHost) = .ok ⟨.idle, 30000, 0, 0, wideHost⟩ := by rfl
  have hsource : (benchRun (hostRun wideHost)).shared.inserted[3]?.map Insertion.source =
      some (some 0) := by decide +kernel
  have hevent : (benchRun (hostRun wideHost)).shared.inserted[3]?.map Insertion.event =
      (benchRun (hostRun wideHost)).tasks[0]?.map fun t => ⟨taskArgs t .phaseEnd, 4, 30000⟩ := by
    decide +kernel
  have htask : ∀ t ∈ (benchRun (hostRun wideHost)).tasks,
      t.run.request = ⟨.idle, 30000, 0, 0, wideHost⟩ ∧ t.a < 2 ^ 64 ∧ t.b < 2 ^ 64 ∧
        511 < eventWidth benchBoot.cfg t .phaseEnd 4 30000 := by decide +kernel
  rw [hi, Option.map_some, Option.some.injEq] at hsource
  rw [hi, ht, Option.map_some, Option.map_some, Option.some.injEq] at hevent
  obtain ⟨hreq, ha, hb, hw⟩ := htask t (List.mem_of_getElem? ht)
  refine ⟨_, h, i, List.mem_of_getElem? hi, _, hsource, rfl, rfl, by rw [hevent]; rfl,
    fun e => ?_⟩
  rw [hevent, Event.slotText_eq_iff benchBoot.cfg bench_formats (hreq ▸ hr) ha hb] at e
  exact absurd e (Nat.not_le.mpr hw)

end DragonBench
