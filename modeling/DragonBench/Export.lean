/-
  File:      DragonBench/Export.lean
  Subject:   THE EXPORT OF A RUN: three requests at three times, between which the device goes on, and
             one payload that is true of one run.

  `export` asks `status_get` for the id of the last run, `run_get` for its record and `events_get`
  for the ring. Between the requests the run may end, its task may emit and another run may begin.
  What is read later contains what was read earlier, because the runs accepted, the records and the
  insertions only grow.

  * `exportRun` -- the command; `exportFile` -- the file of `--output`;
  * `Grows` -- the histories of the device only grow; `exec_grows`;
  * `clientRequest_plain`, `clientRequest_events` -- what the client reads;
  * `Coherent` -- what is true of a payload;
  * **`export_coherent`** -- every export that returns is coherent.
-/
import DragonBench.Blocks
import DragonBench.Campaign
import DragonBench.Firmware
import DragonBench.Reports
import DragonBench.RunIds
import DragonBench.RunService
import DragonBench.Sequence

namespace DragonBench

open Transition Json

/-! ## 1. The command -/

/-- A text of a dictionary; there is no other value under these names. -/
def dictText (name : CText) (ms : List (CText × Json)) : CText :=
  match member name ms with
  | some (.str s) => s
  | _ => []

/-- `status.get("last_run_id") or status.get("run_id")`; none is an exception. -/
def exportId : Json → Option CText
  | .obj status =>
    let last := dictText "last_run_id".toList status
    let id := if last = [] then dictText "run_id".toList status else last
    if id = [] then none else some id
  | _ => none

/-- `payload`. -/
def exportPayload (run events : Json) : Json :=
  .obj [("source".toList, .str "dut_reported".toList), ("run".toList, run), ("events".toList, events),
    ("external_measurements".toList, .null)]

/-- **`export`** of `execute`, by the answers to its requests; `none` is a `ClientError`. -/
def exportRun (runId : CText) (status : HttpResponse) (runGet : CText → HttpResponse)
    (events : HttpResponse) : Option (CText × Json) :=
  (if runId = "latest".toList then (clientRequest status).bind exportId else some runId).bind
    fun id => (clientRequest (runGet (runPath id))).bind fun run =>
      (clientRequest events).map fun events => (id, exportPayload run events)

/-- The file of `--output`. -/
def exportFile (sep : TextFile.LineSep) (fmt : ℚ → CText) (payload : Json) : CText :=
  TextFile.written sep (pyDumpsIndented fmt payload ++ ['\n'])

/-! ## 2. What only grows -/

/-- **A later state has the histories of an earlier one.** -/
structure Grows (d d' : Device) : Prop where
  accepted : d.accepted <+: d'.accepted
  finished : d.shared.finished <+: d'.shared.finished
  inserted : d.shared.inserted <+: d'.shared.inserted

section Growth

variable {B : Boot} {d d' : Device}

theorem grows_refl (d : Device) : Grows d d :=
  ⟨List.prefix_refl _, List.prefix_refl _, List.prefix_refl _⟩

theorem Grows.trans {d'' : Device} (h : Grows d d') (h' : Grows d' d'') : Grows d d'' :=
  ⟨h.accepted.trans h'.accepted, h.finished.trans h'.finished, h.inserted.trans h'.inserted⟩

theorem grows_step {a : Action} (hb : ∀ t ∈ d.tasks, ∀ k e, t.pc = .emit k (.insert e) →
    e.args = taskArgs t k) (h : DeviceStep B d a d') : Grows d d' := by
  cases h with
  | begin =>
      exact ⟨List.prefix_append _ _, List.prefix_refl _, List.prefix_refl _⟩
  | finishFailed =>
      exact ⟨List.prefix_refl _, List.prefix_append _ _, List.prefix_refl _⟩
  | @task i ret t t' s' ht hs =>
      refine ⟨List.prefix_refl _, ?_, ?_⟩
      · rcases hs.finishes with ⟨-, hfin, -⟩ | ⟨-, -, -, hfin⟩
        · show d.shared.finished <+: s'.finished
          rw [hfin]
        · show d.shared.finished <+: s'.finished
          rw [hfin]
          exact List.prefix_append _ _
      · rcases hs.inserts (hb t (List.mem_of_getElem? ht)) with e | ⟨k, e, -, e', -⟩
        · show d.shared.inserted <+: s'.inserted
          rw [e]
        · show d.shared.inserted <+: s'.inserted
          rw [e']
          exact List.prefix_append _ _
  | mainInsert =>
      exact ⟨List.prefix_refl _, List.prefix_refl _, List.prefix_append _ _⟩
  | refused | created | notCreated | abortRefused | abort | mainNumber | mainBuild | startHttp
  | startFailed | tick | radio =>
      exact ⟨List.prefix_refl _, List.prefix_refl _, List.prefix_refl _⟩

/-- A run. -/
theorem exec_grows {as : List Action} (h : Reach (device B) Always d)
    (hx : (device B).exec d as = some d') : Grows d d' := by
  induction as generalizing d with
  | nil =>
      cases hx
      exact grows_refl _
  | cons a as ih =>
      obtain ⟨t, ht, hx⟩ := Option.bind_eq_some_iff.mp hx
      have hstep : Grows d t := grows_step (fun v hv => task_built h v hv) (step_cases ht).2
      exact hstep.trans (ih (.step h trivial ht) hx)

end Growth

/-! ## 3. What the client reads -/

section Reads

variable {cfg : Config} {read : ℚ → ℚ}

theorem decodeUtf8_ascii {s : CText} (h : ∀ c ∈ s, c.toNat < 0x80) : decodeUtf8 s = some s := by
  have := decodeUtf8_utf8 s
  rwa [utf8_ascii h] at this

/-- An answer in ASCII. -/
def Plainly (response : HttpResponse) : Prop := ∀ c ∈ response.body, c.toNat < 0x80

/-- **An object in ASCII is read as its tree.** -/
theorem clientRequest_plain (hf : NumFormat cfg.numText read) {root : List (CText × Json)}
    (h : Plainly (sendJson cfg root 200)) :
    clientRequest (sendJson cfg root 200) = some (readBack read (.obj root)) := by
  have hstatus : ¬ 400 ≤ (sendJson cfg root 200).status := by
    show ¬ 400 ≤ 200
    decide
  have htype : (sendJson cfg root 200).contentType ≠ ndjsonType := by
    show "application/json".toList ≠ ndjsonType
    decide
  have hne : (sendJson cfg root 200).body ≠ [] :=
    List.ne_nil_of_length_pos (Dialect.print_length_pos hf _)
  rw [clientRequest, if_neg hstatus, decodeUtf8_ascii h, Option.bind_some, if_neg htype, if_neg hne]
  exact Dialect.loads_print hf python _

variable {B : Boot} {d : Device}

/-- **The events in ASCII, none of them cut, are read as their objects**, oldest first. -/
theorem clientRequest_events (hf : NumFormat B.cfg.numText read)
    {C : Device → Action → Prop} (hr : Reach (device B) C d)
    (hcut : ∀ i ∈ d.held, (i.event.text B.cfg).length < dbEventJsonLen)
    (h : Plainly (eventsGet true d.shared.ring)) :
    clientRequest (eventsGet true d.shared.ring) =
      some (.arr (d.held.map fun i => readBack read (i.event.root B.cfg))) := by
  -- what the slots hold are the texts
  have hsnap : snapshotEventsLocked d.shared.ring =
      (d.held.map fun i => i.event.root B.cfg).map (print B.cfg.numText) := by
    rw [snapshotEventsLocked, ring_reads hr, List.map_map, List.map_map]
    refine List.map_congr_left fun i hi => ?_
    have hwhole : i.event.slotText B.cfg = i.event.text B.cfg :=
      CText.snprintf_of_lt (hcut i hi)
    have h0 : '\x00' ∉ i.event.text B.cfg := fun hm =>
      absurd (print_ge hf (i.event.root B.cfg) _ hm) (by decide)
    show CText.snprintf dbEventJsonLen (cstr (i.event.slotText B.cfg)) = i.event.text B.cfg
    rw [hwhole, cstr_of_not_mem h0, CText.snprintf_of_lt (hcut i hi)]
  have hbody : (eventsGet true d.shared.ring).body =
      Lines.join ((d.held.map fun i => i.event.root B.cfg).map (print B.cfg.numText)) := by
    rw [← hsnap]
    rfl
  have hascii : ∀ v ∈ d.held.map (fun i => i.event.root B.cfg),
      ∀ c ∈ print B.cfg.numText v, c.toNat < 0x80 := by
    intro v hv c hc
    refine h c ?_
    rw [hbody]
    exact List.mem_flatMap.mpr ⟨_, List.mem_map_of_mem hv, List.mem_append_left _ hc⟩
  have hplain : ∀ v ∈ d.held.map (fun i => i.event.root B.cfg),
      ∀ c ∈ print B.cfg.numText v, splitsLine c = false := by
    intro v hv c hc
    have hne : ∀ x : Char, 0x80 ≤ x.toNat → decide (c = x) = false := by
      intro x hx
      refine decide_eq_false ?_
      rintro rfl
      exact absurd (hascii v hv c hc) (not_lt.mpr hx)
    rw [splitsLine, hne '\x85' (by decide), hne '\u2028' (by decide), hne '\u2029' (by decide)]
    rfl
  have hget : eventsGet true d.shared.ring = ⟨200, ndjsonType, (eventsGet true d.shared.ring).body⟩ :=
    rfl
  rw [hget, clientRequest_ndjson, decodeUtf8_ascii h, Option.bind_some, hbody,
    lines_documents hf hplain, mapM_loads hf, List.map_map]
  rfl

end Reads

/-! ## 4. What an export says -/

/-- **A payload is true of one run**: `d` is the device when the record was read, `d'` when the ring
    was. -/
structure Coherent (B : Boot) (read : ℚ → ℚ) (d d' : Device) (id : CText) (payload : Json)
    (p : CText × DbRunRequest) (v : Verdict) (metrics : CText) : Prop where
  /-- the record is that of the run accepted last -/
  last : d.accepted.getLast? = some p ∧ id = p.1
  payload : payload = exportPayload
    (.obj [("run_id".toList, .str p.1), ("workload".toList, .str (dbWorkloadName p.2.workload)),
      ("state".toList, .str (runStateName d.shared.run.state)),
      ("result".toList, .str d.shared.run.result)])
    (.arr (d'.held.map fun i => readBack read (i.event.root B.cfg)))
  /-- the run events that carry its id are its events -/
  events : ∀ i ∈ d'.held, ∀ n, i.source = some n → (i.event.args.runId = some p.1 ↔ n = d.current)
  /-- they agree with each other and with the record, once there is one -/
  agree : ReportsAgree d' d.current v metrics
  pending : d.shared.run.state.active = true → d.shared.run.result = "running".toList
  recorded : d.shared.run.state.active = false →
    d.shared.run.state = .complete ∧ d.shared.run.result = v.text
  /-- a recorded run has emitted all but its last event -/
  whole : d.shared.run.state.active = false → (∃ t ∈ d'.tasks, t.born = d.current) →
    ∃ c, IsCoreBlock c ∧ (d'.shared.blockOf d.current = c ∨
      d'.shared.blockOf d.current = c ++ [.runComplete])

section Coherence

variable {B : Boot} {d d' : Device}

/-- `run_get` of the client returns the record of the current run, or raises. -/
theorem clientRequest_runGet {cfg : Config} {run : DbRun} {id : CText} {v : Json}
    (h : clientRequest (runGet cfg run (runPath id)) = some v) :
    id = run.runId ∧ id ≠ [] ∧ runGet cfg run (runPath id) =
      sendJson cfg [("run_id".toList, .str id),
        ("workload".toList, .str (dbWorkloadName run.request.workload)),
        ("state".toList, .str (runStateName run.state)), ("result".toList, .str run.result)] 200 := by
  have hpath : pathRunId (runPath id) false =
      (some id).filter fun id => decide (id ≠ []) && decide (id.length < dbRunIdLen) := rfl
  have hraises : ∀ status contentType body, 400 ≤ status →
      clientRequest ⟨status, contentType, body⟩ = none := fun _ _ _ hs => if_pos hs
  unfold runGet at h ⊢
  rw [hpath] at h ⊢
  cases hf : (some id).filter fun id => decide (id ≠ []) && decide (id.length < dbRunIdLen) with
  | none =>
      rw [hf] at h
      rw [show clientRequest badRunId = none from hraises _ _ _ (by decide)] at h
      cases h
  | some id' =>
      obtain ⟨he, hcond⟩ := Option.filter_eq_some_iff.mp hf
      cases he
      rw [hf] at h
      dsimp only at h ⊢
      by_cases hid : id = run.runId
      · rw [Bool.and_eq_true, decide_eq_true_eq] at hcond
        exact ⟨hid, hcond.1, if_pos hid⟩
      · rw [if_neg hid, sendError, sendJson, hraises _ _ _ (by decide)] at h
        cases h

/-- The current run keeps its number while no other run is accepted. -/
theorem current_getElem {p : CText × DbRunRequest}
    (hp : d.accepted.getLast? = some p) : d.accepted[d.current]? = some p := by
  rw [Device.current, ← List.getLast?_eq_getElem?]
  exact hp

/-- An accepted run is accepted in every later state. -/
theorem Grows.getElem (G : Grows d d') {n : Nat} {p : CText × DbRunRequest}
    (h : d.accepted[n]? = some p) : d'.accepted[n]? = some p := by
  obtain ⟨rest, e⟩ := G.accepted
  obtain ⟨hn, -⟩ := List.getElem?_eq_some_iff.mp h
  rw [← e, List.getElem?_append_left hn, h]

/-- An id has one number. -/
theorem index_of_id (hnd : (d.accepted.map Prod.fst).Nodup) {m n : Nat} {p q : CText × DbRunRequest}
    (hp : d.accepted[m]? = some p) (hq : d.accepted[n]? = some q) (h : p.1 = q.1) : m = n := by
  obtain ⟨hm, rfl⟩ := List.getElem?_eq_some_iff.mp hp
  obtain ⟨hn, rfl⟩ := List.getElem?_eq_some_iff.mp hq
  rw [← List.length_map Prod.fst] at hm hn
  have hsame : (d.accepted.map Prod.fst)[m] = (d.accepted.map Prod.fst)[n] := by
    rw [List.getElem_map, List.getElem_map]
    exact h
  exact hnd.getElem_inj_iff.mp hsame

/-- A recorded run has its record in every later state. -/
theorem record_later {C : Device → Action → Prop} (h : Reach (device B) C d) (G : Grows d d')
    (ha : d.shared.run.state.active = false) (hne : d.accepted ≠ []) :
    ∃ r, (d.current, r) ∈ d'.shared.finished ∧ r.result = d.shared.run.result := by
  have N := slotInv_reach h
  have hcount := N.count
  rw [ha, if_neg Bool.false_ne_true] at hcount
  have hpos := List.length_pos_of_ne_nil hne
  rcases List.eq_nil_or_concat' d.shared.finished with he | ⟨rest, ⟨n, r⟩, he⟩
  · rw [he, List.length_nil] at hcount
    omega
  · have hnum := N.numbered
    rw [he, List.map_append, List.length_append, List.length_singleton, List.range_succ,
      List.map_singleton] at hnum
    have hn : n = d.current := by
      have hlast : n = rest.length := (List.cons.inj (List.append_inj_right' hnum rfl)).1
      rw [he, List.length_append, List.length_singleton] at hcount
      rw [hlast, Device.current, hcount]
      rfl
    have hres := (N.complete ha hne).2
    rw [he, List.map_append, List.map_singleton, List.getLastD_concat] at hres
    refine ⟨r, ?_, hres.symm⟩
    refine G.finished.subset ?_
    rw [he, ← hn]
    exact List.mem_append_right _ List.mem_cons_self

/-- A recorded run is over in every later state. -/
theorem over_later {C : Device → Action → Prop} (h : Reach (device B) C d)
    (h' : Reach (device B) C d') (G : Grows d d') (ha : d.shared.run.state.active = false)
    (hne : d.accepted ≠ []) (hcur : d.current = d'.current) : d'.shared.run.state.active = false := by
  have N := slotInv_reach h
  have N' := slotInv_reach h'
  have hcount := N.count
  have hcount' := N'.count
  rw [ha, if_neg Bool.false_ne_true] at hcount
  have hpos := List.length_pos_of_ne_nil hne
  have hfin := G.finished.length_le
  have hacc := G.accepted.length_le
  rw [Device.current, Device.current] at hcur
  cases ha' : d'.shared.run.state.active with
  | false => rfl
  | true =>
      rw [ha', if_pos rfl] at hcount'
      omega

variable {FB : FirmwareBoot} {read : ℚ → ℚ} {d₀ d₁ d₂ : Device} {as as' : List Action}
  {uptimeMs : Nat} {r : NetworkStatus} {allocated : Bool}

/-- What `export latest` finds in an answer of `status_get`. -/
theorem exportId_status (hf : NumFormat FB.boot.cfg.numText read) {run : DbRun}
    (hplain : Plainly (statusGet FB run uptimeMs r)) :
    (clientRequest (statusGet FB run uptimeMs r)).bind exportId =
      if run.runId = [] then none else some run.runId := by
  rw [statusGet] at hplain ⊢
  rw [clientRequest_plain hf hplain, Option.bind_some, readBack, exportId]
  have hlast : ∀ name : CText, name = "last_run_id".toList ∨ name = "run_id".toList →
      member name (identityJson FB ++ runStatus run ++
        [("uptime_ms".toList, .num (asDouble uptimeMs : ℚ)),
          ("reset_reason".toList, .str FB.boot.resetReasonText)] ++
        stringMember "previous_reboot_run_id".toList
          (some FB.boot.previousRebootRunId |>.filter fun s => decide (s ≠ [])) ++
        [("network".toList, .obj (networkStatus FB r)),
          ("network_connected".toList, .bool r.networkConnected)]) = some (.str run.runId) := by
    rintro name (rfl | rfl) <;>
      · cases hp : FB.boot.previousRebootRunId <;> rfl
  simp only [dictText, member_readBack, hlast _ (Or.inl rfl), hlast _ (Or.inr rfl), Option.map_some,
    readBack, ite_self]

/-- What an export needs: answers in ASCII, and no event that was cut. -/
structure Legible (FB : FirmwareBoot) (d₀ d₁ d₂ : Device) (uptimeMs : Nat) (r : NetworkStatus) :
    Prop where
  status : Plainly (statusGet FB d₀.shared.run uptimeMs r)
  record : Plainly (runGet FB.boot.cfg d₁.shared.run (runPath d₁.shared.run.runId))
  events : Plainly (eventsGet true d₂.shared.ring)
  whole : ∀ i ∈ d₂.held, (i.event.text FB.boot.cfg).length < dbEventJsonLen

/-- **An export that returns is coherent.** -/
theorem coherent_of_export (hf : NumFormat FB.boot.cfg.numText read)
    (h₁ : Reach (device FB.boot) Always d₁) (hx' : (device FB.boot).exec d₁ as' = some d₂)
    (hids : d₂.accepted.length < 2 ^ 32) (L : Legible FB d₀ d₁ d₂ uptimeMs r) {runId id : CText}
    {payload : Json} (hexport : exportRun runId (statusGet FB d₀.shared.run uptimeMs r)
      (runGet FB.boot.cfg d₁.shared.run) (eventsGet allocated d₂.shared.ring) = some (id, payload)) :
    ∃ p v metrics, Coherent FB.boot read d₁ d₂ id payload p v metrics := by
  have h₂ := reach_exec h₁ hx'
  have G' := exec_grows h₁ hx'
  -- the three answers
  obtain ⟨id', -, hrest⟩ := Option.bind_eq_some_iff.mp hexport
  obtain ⟨run, hrun, hrest⟩ := Option.bind_eq_some_iff.mp hrest
  obtain ⟨events, hev, he⟩ := Option.map_eq_some_iff.mp hrest
  cases he
  obtain ⟨hcurrent, hne, hsent⟩ := clientRequest_runGet hrun
  have hrecord := L.record
  rw [← hcurrent, hsent] at hrecord
  rw [hsent, clientRequest_plain hf hrecord] at hrun
  cases allocated with
  | false => cases hev
  | true =>
      rw [clientRequest_events hf h₂ L.whole L.events] at hev
      cases hrun
      cases hev
      have hacc : d₁.accepted ≠ [] := fun hnil =>
        hne (hcurrent.trans (congrArg SlotView.runId ((slotInv_reach h₁).unused hnil)))
      have hlast := service_current (deviceInv_reach h₁) hacc
      have hlater := G'.getElem (current_getElem hlast)
      obtain ⟨v, metrics, hagree⟩ : ∃ v metrics, ReportsAgree d₂ d₁.current v metrics := by
        by_cases ht : ∃ t ∈ d₂.tasks, t.born = d₁.current
        · obtain ⟨t, ht, hborn⟩ := ht
          exact ⟨_, _, hborn ▸ reportsAgree_of_task h₂ ht⟩
        · exact ⟨_, [], reportsAgree_of_none h₂ ht []⟩
      refine ⟨_, v, metrics, ⟨hlast, hcurrent⟩, ?_, fun i hi n hn => ?_, hagree,
        (slotInv_reach h₁).active, fun ha => ?_, fun ha hw => ?_⟩
      · rw [hcurrent]
        rfl
      · obtain ⟨p', hp', hid'⟩ := runEvent_runId h₂ (List.mem_of_mem_drop hi) hn
        rw [hid', Option.some.injEq]
        constructor
        · intro e
          exact index_of_id (issued_nodup h₂ hids) hp' hlater e
        · rintro rfl
          rw [hp', Option.some.injEq] at hlater
          rw [hlater]
      · obtain ⟨hs, -⟩ := (slotInv_reach h₁).complete ha hacc
        obtain ⟨r, hr, hres⟩ := record_later h₁ G' ha hacc
        exact ⟨hs, hres.symm.trans (hagree.record r hr)⟩
      · exact over_core h₂ (fun hcur => over_later h₁ h₂ G' ha hacc hcur) hw

/-- **`export latest` returns exactly when there is a run and none was accepted behind it** before
    its record was read. -/
theorem export_latest_iff (hf : NumFormat FB.boot.cfg.numText read)
    (h : Reach (device FB.boot) Always d₀) (hx : (device FB.boot).exec d₀ as = some d₁)
    (hx' : (device FB.boot).exec d₁ as' = some d₂) (hids : d₂.accepted.length < 2 ^ 32)
    (L : Legible FB d₀ d₁ d₂ uptimeMs r) :
    (exportRun "latest".toList (statusGet FB d₀.shared.run uptimeMs r)
      (runGet FB.boot.cfg d₁.shared.run) (eventsGet true d₂.shared.ring)).isSome = true ↔
      d₀.accepted ≠ [] ∧ d₁.accepted = d₀.accepted := by
  have h₁ := reach_exec h hx
  have h₂ := reach_exec h₁ hx'
  have G := exec_grows h hx
  have G' := exec_grows h₁ hx'
  rw [exportRun, if_pos rfl, exportId_status hf L.status]
  constructor
  · intro hsome
    obtain ⟨x, hx⟩ := Option.isSome_iff_exists.mp hsome
    obtain ⟨id, hid, hrest⟩ := Option.bind_eq_some_iff.mp hx
    obtain ⟨run, hrun, -⟩ := Option.bind_eq_some_iff.mp hrest
    obtain ⟨hcurrent, hne, -⟩ := clientRequest_runGet hrun
    rw [Option.ite_none_left_eq_some, Option.some.injEq] at hid
    have hacc₀ : d₀.accepted ≠ [] := fun hnil =>
      hid.1 (congrArg SlotView.runId ((slotInv_reach h).unused hnil))
    have hacc : d₁.accepted ≠ [] := fun hnil =>
      hne (hcurrent.trans (congrArg SlotView.runId ((slotInv_reach h₁).unused hnil)))
    -- the id of the status names the run accepted last, then and now
    have hget₀ := (G.trans G').getElem (current_getElem (service_current (deviceInv_reach h) hacc₀))
    have hget₁ := G'.getElem (current_getElem (service_current (deviceInv_reach h₁) hacc))
    have hsame : d₀.current = d₁.current :=
      index_of_id (issued_nodup h₂ hids) hget₀ hget₁ (hid.2.trans hcurrent)
    have hpos₀ := List.length_pos_of_ne_nil hacc₀
    have hpos₁ := List.length_pos_of_ne_nil hacc
    rw [Device.current, Device.current] at hsame
    exact ⟨hacc₀, (G.accepted.eq_of_length (by omega)).symm⟩
  · rintro ⟨hacc₀, hsame⟩
    have hlast₀ := service_current (deviceInv_reach h) hacc₀
    have hlast₁ := service_current (deviceInv_reach h₁) (by rw [hsame]; exact hacc₀)
    rw [hsame, hlast₀, Option.some.injEq, Prod.mk.injEq] at hlast₁
    have hpath := (issued_paths h₁ (List.mem_of_getElem? (current_getElem
      (service_current (deviceInv_reach h₁) (by rw [hsame]; exact hacc₀))))).1
    have hget : runGet FB.boot.cfg d₁.shared.run (runPath d₁.shared.run.runId) =
        sendJson FB.boot.cfg [("run_id".toList, .str d₁.shared.run.runId),
          ("workload".toList, .str (dbWorkloadName d₁.shared.run.request.workload)),
          ("state".toList, .str (runStateName d₁.shared.run.state)),
          ("result".toList, .str d₁.shared.run.result)] 200 := by
      unfold runGet
      rw [hpath]
      exact if_pos rfl
    have hne : d₀.shared.run.runId ≠ [] := by
      rw [hlast₁.1]
      rintro hnil
      rw [hnil] at hpath
      cases hpath
    have hrecord := L.record
    rw [hget] at hrecord
    rw [if_neg hne, Option.bind_some, hlast₁.1, hget, clientRequest_plain hf hrecord,
      Option.bind_some, clientRequest_events hf h₂ L.whole L.events]
    rfl

end Coherence

/-- **EVERY EXPORT IS COHERENT**, whatever the device does between the three requests. When the
    answers are legible,
    - `export latest` returns exactly when there is a run and none was accepted behind it before its
      record was read;
    - a payload has the record of the run accepted last, and the run events under its id are that
      run's; they agree with each other and with the record, and behind a record of a run that is
      over stand all events of the run but the last, as far as the ring still holds them;
    - the file of `--output` is read back as the payload. -/
theorem export_coherent {FB : FirmwareBoot} {read : ℚ → ℚ} {d₀ d₁ d₂ : Device}
    {as as' : List Action} {uptimeMs : Nat} {r : NetworkStatus}
    (hf : NumFormat FB.boot.cfg.numText read) (h : Reach (device FB.boot) Always d₀)
    (hx : (device FB.boot).exec d₀ as = some d₁) (hx' : (device FB.boot).exec d₁ as' = some d₂)
    (hids : d₂.accepted.length < 2 ^ 32) (L : Legible FB d₀ d₁ d₂ uptimeMs r) :
    ((exportRun "latest".toList (statusGet FB d₀.shared.run uptimeMs r)
      (runGet FB.boot.cfg d₁.shared.run) (eventsGet true d₂.shared.ring)).isSome = true ↔
        d₀.accepted ≠ [] ∧ d₁.accepted = d₀.accepted) ∧
    ∀ runId allocated id payload, exportRun runId (statusGet FB d₀.shared.run uptimeMs r)
      (runGet FB.boot.cfg d₁.shared.run) (eventsGet allocated d₂.shared.ring) = some (id, payload) →
        (∃ p v metrics, Coherent FB.boot read d₁ d₂ id payload p v metrics) ∧
        ∀ fmt pyRead sep, NumFormat fmt pyRead →
          loadFile (exportFile sep fmt payload) = some (readBack pyRead payload) := by
  refine ⟨export_latest_iff hf h hx hx' hids L, fun runId allocated id payload hexport => ⟨?_, ?_⟩⟩
  · exact coherent_of_export hf (reach_exec h hx) hx' hids L hexport
  · intro fmt pyRead sep hpy
    refine loadFile_written hpy sep payload (fun c hc => ?_) (by decide)
    rw [List.mem_singleton.mp hc]
    rfl

/-! ## 5. An export beside a run -/

/-- An idle run at work, its end in front of `run_complete`, and behind it. -/
def atWork : Device := benchRun (waited .idle)

def atEnd : Device := (device benchBoot).runEnd atWork (List.replicate 5 firstTask)

def behindEnd : Device := (device benchBoot).runEnd atEnd (List.replicate 3 firstTask)

set_option maxRecDepth 20000 in
/-- The status is read of the run at work, the record of the run that is over. -/
theorem export_coherent_idle :
    (exportRun "latest".toList (statusGet benchFirmware atWork.shared.run 30000 .blank)
      (runGet benchBoot.cfg atEnd.shared.run) (eventsGet true behindEnd.shared.ring)).isSome = true ∧
    ∀ id payload, exportRun "latest".toList (statusGet benchFirmware atWork.shared.run 30000 .blank)
      (runGet benchBoot.cfg atEnd.shared.run) (eventsGet true behindEnd.shared.ring) =
        some (id, payload) → ∃ p v metrics,
          Coherent benchBoot (fun q => (q.num.toNat : ℚ)) atEnd behindEnd id payload p v metrics := by
  have L : Legible benchFirmware atWork atEnd behindEnd 30000 .blank :=
    ⟨CText.forall_of_all (by decide +kernel), CText.forall_of_all (by decide +kernel),
      CText.forall_of_all (by decide +kernel), by decide +kernel⟩
  have hf : NumFormat benchFirmware.boot.cfg.numText fun q => (q.num.toNat : ℚ) := decimalFormat
  obtain ⟨hlatest, hall⟩ := export_coherent hf
    (benchRun_reach (waited .idle) (by decide +kernel))
    (exec_runEnd _ _ (List.replicate 5 firstTask) (by decide +kernel))
    (exec_runEnd _ _ (List.replicate 3 firstTask) (by decide +kernel)) (by decide +kernel) L
  exact ⟨hlatest.mpr (by decide +kernel), fun id payload h => (hall _ _ _ _ h).1⟩

end DragonBench
