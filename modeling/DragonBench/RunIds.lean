/-
  File:      DragonBench/RunIds.lean
  Subject:   RUN IDS NAME ONE RUN: the ids of one boot differ, they survive the way into a path and
             back, and a late abort never hits a newer run.

  `runs_post` prints the nonce of the boot and a counter that wraps at 2^32. `run_get` and
  `abort_post` cut the id out of the path again, and `abort_post` compares it with `current_run`.

  * `runIdText_injective` -- different counters, different ids;
  * `issued_nodup` -- the ids issued so far are pairwise distinct;
  * `issued_paths` -- both handlers read back the id a path was built from;
  * `abort_changes` -- an abort changes the run it names, while that run is RUNNING, or nothing;
  * **`run_ids_unique`** -- the three together.
-/
import DragonBench.Routes

namespace DragonBench

open Transition

/-! ## 1. The text of an id -/

/-- Ids of one boot differ when their counters do. -/
theorem runIdText_injective {nonce a b : Nat} (hn : nonce < 2 ^ 32) (ha : a < 2 ^ 32)
    (hb : b < 2 ^ 32) (h : runIdText nonce a = runIdText nonce b) : a = b := by
  rw [runIdText_eq hn ha, runIdText_eq hn hb] at h
  have ht := List.append_cancel_left h
  exact CText.hex08_injective (List.cons_inj_right _ |>.mp ht)

/-- The path a run is read under. -/
def runPath (id : CText) : CText := "/api/v1/runs/".toList ++ id

/-- The path a run is aborted under. -/
def abortPath (id : CText) : CText := "/api/v1/runs/".toList ++ id ++ "/abort".toList

section Ids

variable {B : Boot} {C : Device → Action → Prop}

/-- The id of the run of this number. -/
theorem issued_eq {d : Device} (h : Reach (device B) C d) {n : Nat} {p : CText × DbRunRequest}
    (hp : d.accepted[n]? = some p) : p.1 = (RunId.issued B.bootNonce (n + 1)).text :=
  (requestInv_reach h).runId n p hp

/-- **The ids issued in one boot are pairwise distinct** while the counter has not wrapped. -/
theorem issued_nodup {d : Device} (h : Reach (device B) C d)
    (hlen : d.accepted.length < 2 ^ 32) : (d.accepted.map Prod.fst).Nodup := by
  rw [List.nodup_iff_pairwise_ne, List.pairwise_iff_getElem]
  intro i j hi hj hij he
  rw [List.length_map] at hi hj
  rw [List.getElem_map, List.getElem_map, issued_eq h (List.getElem?_eq_getElem hi),
    issued_eq h (List.getElem?_eq_getElem hj)] at he
  have hc := runIdText_injective B.bootNonce.isLt (Nat.mod_lt _ (by omega))
    (Nat.mod_lt _ (by omega)) he
  rw [Nat.mod_eq_of_lt (by omega), Nat.mod_eq_of_lt (by omega)] at hc
  omega

/-- **Both handlers read back the id a path was built from.** -/
theorem issued_paths {d : Device} (h : Reach (device B) C d) {p : CText × DbRunRequest}
    (hp : p ∈ d.accepted) :
    pathRunId (runPath p.1) false = some p.1 ∧ pathRunId (abortPath p.1) true = some p.1 := by
  obtain ⟨n, hn, rfl⟩ := List.mem_iff_getElem.mp hp
  rw [issued_eq h (List.getElem?_eq_getElem hn)]
  exact ⟨pathRunId_read _, pathRunId_abort _⟩

/-- **An abort changes the run it names, and only while that run is RUNNING.** -/
theorem abort_changes {d d' : Device} (h : Reach (device B) C d)
    (hlen : d.accepted.length < 2 ^ 32) {n : Nat} {p : CText × DbRunRequest}
    (hp : d.accepted[n]? = some p) (hs : step B d (.abortPost (abortPath p.1)) = some d')
    (hne : d'.shared.run ≠ d.shared.run) :
    d.shared.run.state = .running ∧ d.shared.run.runId = p.1 ∧ n = d.current := by
  obtain ⟨-, hstep⟩ := step_cases hs
  cases hstep with
  | abortRefused => exact absurd rfl hne
  | abort hh hrun hid =>
      have hpath := (issued_paths h (List.mem_of_getElem? hp)).2
      rw [hpath] at hid
      have e : p.1 = d.shared.run.runId := Option.some.inj hid
      refine ⟨hrun, e.symm, ?_⟩
      -- the run accepted last has this id too, and no two runs share one
      obtain ⟨hn, hpn⟩ := List.getElem?_eq_some_iff.mp hp
      have hlt : d.current < d.accepted.length := by
        rw [Device.current]
        omega
      have hcur := ((deviceInv_reach h).owner.current _ (List.getElem?_eq_getElem hlt)).1
      have hnd := issued_nodup h hlen
      rw [← List.length_map Prod.fst] at hn hlt
      have hsame : (d.accepted.map Prod.fst)[n] = (d.accepted.map Prod.fst)[d.current] := by
        rw [List.getElem_map, List.getElem_map, hpn, e]
        exact hcur
      exact (List.Nodup.getElem_inj_iff hnd).mp hsame

/-- **A run id names one run**, in every state of a boot that has accepted fewer than 2^32 runs. -/
theorem run_ids_unique {d : Device} (h : Reach (device B) Always d)
    (hlen : d.accepted.length < 2 ^ 32) :
    (d.accepted.map Prod.fst).Nodup ∧
    (∀ p ∈ d.accepted, pathRunId (runPath p.1) false = some p.1 ∧
      pathRunId (abortPath p.1) true = some p.1) ∧
    (∀ n p d', d.accepted[n]? = some p → step B d (.abortPost (abortPath p.1)) = some d' →
      d'.shared.run ≠ d.shared.run →
      d.shared.run.state = .running ∧ d.shared.run.runId = p.1 ∧ n = d.current) :=
  ⟨issued_nodup h hlen, fun _ hp => issued_paths h hp,
    fun _ _ _ hp hs hne => abort_changes h hlen hp hs hne⟩

set_option maxRecDepth 4000 in
/-- A second run behind a finished first one: the two ids differ. -/
theorem run_ids_unique_second :
    ∃ d, Reach (device benchBoot) Always d ∧ d.accepted.length = 2 ∧
      (d.accepted.map Prod.fst).Nodup := by
  have h := benchRun_reach (waited .idle ++ List.replicate 8 firstTask ++
    [.runsPost (bodyOf .idle)]) (by decide)
  have hlen : (benchRun (waited .idle ++ List.replicate 8 firstTask ++
    [.runsPost (bodyOf .idle)])).accepted.length = 2 := by decide
  refine ⟨_, h, hlen, (run_ids_unique h ?_).1⟩
  rw [hlen]
  decide

end Ids

end DragonBench
