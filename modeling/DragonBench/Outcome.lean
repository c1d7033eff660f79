/-
  File:      DragonBench/Outcome.lean
  Subject:   WHETHER A STATUS RESPONSE PAIRS A REQUEST ID WITH ITS RESULT.

  The worker writes `sta_config_result` and then `sta_config_request_id`; `status_get` reads the
  id and then the result. Between two submissions with different outcomes either pair of accesses
  can fall into the other.

  * `Named`, `Tells` -- the report an id was read of, a result that is its outcome;
  * `SharedInv` -- which report the shared result belongs to;
  * `ReadTogether` -- the steps that do not split a pair of accesses over two outcomes;
  * **`responses_tell`** -- in a run of such steps every response pairs an id with its result;
  * `responses_tell_split` -- a response of a run that splits one.
-/
import DragonBench.Provision

namespace DragonBench

open Transition

/-! ## 1. What a response says -/

/-- `p` is the report whose request id `r` has read: the last one when it was read. -/
structure Named (published : List Publication) (r : NetworkStatus) (p : Publication) : Prop where
  pos : 0 < r.serial
  report : published[r.serial - 1]? = some p
  id : p.creds.requestId = r.requestId

/-- Later reports do not change it. -/
theorem Named.append {published : List Publication} {r : NetworkStatus} {p : Publication}
    (h : Named published r p) (more : List Publication) : Named (published ++ more) r p where
  pos := h.pos
  report := by
    have hlt : r.serial - 1 < published.length := (List.getElem?_eq_some_iff.mp h.report).1
    rw [List.getElem?_append_left hlt]
    exact h.report
  id := h.id

/-- Only the id and the report it stood for matter. -/
theorem Named.of_same {published : List Publication} {r r' : NetworkStatus} {p : Publication}
    (h : Named published r p) (hid : r'.requestId = r.requestId) (hserial : r'.serial = r.serial) :
    Named published r' p where
  pos := by
    rw [hserial]
    exact h.pos
  report := by
    rw [hserial]
    exact h.report
  id := h.id.trans hid.symm

/-- An id that was read is that of the last report. -/
theorem named_last {published : List Publication} {r : NetworkStatus}
    (hid : r.requestId = ((published.getLast?).map fun p => p.creds.requestId).getD 0)
    (hserial : r.serial = published.length) (hne : r.requestId ≠ 0) :
    ∃ p, published.getLast? = some p ∧ Named published r p := by
  cases hp : published.getLast? with
  | none =>
      rw [hp] at hid
      exact absurd hid hne
  | some p =>
      rw [hp] at hid
      have hpos : 0 < published.length :=
        List.length_pos_iff.mpr fun e => by rw [e] at hp; cases hp
      refine ⟨p, rfl, by omega, ?_, hid.symm⟩
      rw [hserial, ← List.getLast?_eq_getElem?]
      exact hp

/-- `result` is the outcome of the submission whose request id `r` has read. -/
def Tells (published : List Publication) (r : NetworkStatus) (result : StaConfigResult) : Prop :=
  r.requestId ≠ 0 → ∃ p, Named published r p ∧ result = staConfigOutcome p.applied

theorem Tells.append {published : List Publication} {r : NetworkStatus} {result : StaConfigResult}
    (h : Tells published r result) (more : List Publication) :
    Tells (published ++ more) r result := by
  intro hid
  obtain ⟨p, hp, hres⟩ := h hid
  exact ⟨p, hp.append more, hres⟩

theorem Tells.of_same {published : List Publication} {r r' : NetworkStatus}
    {result : StaConfigResult} (h : Tells published r result) (hid : r'.requestId = r.requestId)
    (hserial : r'.serial = r.serial) : Tells published r' result := by
  intro hne
  rw [hid] at hne
  obtain ⟨p, hp, hres⟩ := h hne
  exact ⟨p, hp.of_same hid hserial, hres⟩

/-- The result of the last report. -/
def lastResult (published : List Publication) : StaConfigResult :=
  ((published.getLast?).map fun p => staConfigOutcome p.applied).getD .none

theorem lastResult_concat (published : List Publication) (p : Publication) :
    lastResult (published ++ [p]) = staConfigOutcome p.applied := by
  unfold lastResult
  rw [List.getLast?_concat]
  rfl

/-- An id and a result of the last report belong together. -/
theorem tells_last {published : List Publication} {r : NetworkStatus}
    (hid : r.requestId = ((published.getLast?).map fun p => p.creds.requestId).getD 0)
    (hserial : r.serial = published.length) : Tells published r (lastResult published) := by
  intro hne
  obtain ⟨p, hlast, hp⟩ := named_last hid hserial hne
  refine ⟨p, hp, ?_⟩
  unfold lastResult
  rw [hlast]
  rfl

/-! ## 2. The accesses -/

/-- The control points of `status_get` behind the read of `sta_config_result`. -/
def StatusPc.afterResult : StatusPc → Bool
  | .configured | .connected | .ipTest | .ip | .hostname | .networkConnected => true
  | .mode | .apState | .apActive | .apIp | .apClientCount | .staState | .staSsid | .staLastReason
  | .requestId | .result => false

/-- **What a read of `status_get` does to the id and the result**, by where it stands. -/
inductive PairRead (n : Net) (r r' : NetworkStatus) : StatusPc → Option StatusPc → Prop where
  | id (hid : r'.requestId = n.requestId) (hserial : r'.serial = n.published.length) :
      PairRead n r r' .requestId (some .result)
  | result (hid : r'.requestId = r.requestId) (hserial : r'.serial = r.serial)
      (hres : r'.result = n.result) : PairRead n r r' .result (some .configured)
  | behind {pc : StatusPc} {next : Option StatusPc} (hpc : pc.afterResult = true)
      (hid : r'.requestId = r.requestId) (hserial : r'.serial = r.serial)
      (hres : r'.result = r.result) (hnext : next ≠ some .result) : PairRead n r r' pc next
  | before {pc pc' : StatusPc} (hne : pc' ≠ .result) (hafter : pc'.afterResult = false) :
      PairRead n r r' pc (some pc')

theorem statusStep_pair {B : StationBoot} {n : Net} {live : Option CText} {r r' : NetworkStatus}
    {pc : StatusPc} {next : Option StatusPc} (h : statusStep B n live r pc = (r', next)) :
    PairRead n r r' pc next := by
  unfold statusStep at h
  cases pc with
  | requestId =>
      cases h
      exact .id rfl rfl
  | result =>
      cases h
      exact .result rfl rfl rfl
  | ipTest =>
      cases h
      refine .behind rfl rfl rfl rfl ?_
      split <;> exact fun e => by cases e
  | configured | connected | ip | hostname | networkConnected =>
      cases h
      exact .behind rfl rfl rfl rfl fun e => by cases e
  | mode | apState | apActive | apIp | apClientCount | staState | staSsid | staLastReason =>
      cases h
      exact .before StatusPc.noConfusion rfl

/-- **What a step of the worker does to them.** -/
inductive PairWrite (n n' : Net) (w w' : Worker) : Prop where
  | result (hpc : w.pc = .setResult) (hres : n'.result = staConfigOutcome w.applied)
      (hpub : n'.published = n.published) (hpc' : w'.pc = .setRequestId)
      (happ : w'.applied = w.applied) : PairWrite n n' w w'
  | id (hpc : w.pc = .setRequestId) (hres : n'.result = n.result)
      (hpub : n'.published = n.published ++ [⟨w.creds, w.applied⟩])
      (hpc' : w'.pc ≠ .setRequestId) : PairWrite n n' w w'
  | neither (hpc : w.pc ≠ .setRequestId) (hres : n'.result = n.result)
      (hpub : n'.published = n.published) (hpc' : w'.pc ≠ .setRequestId) : PairWrite n n' w w'

theorem WorkerStep.pair {n n' : Net} {w w' : Worker} {ok : Bool} {reason : Nat}
    (h : WorkerStep n w ok reason n' w') : PairWrite n n' w w' := by
  cases h with
  | setResult hpc => exact .result hpc rfl rfl rfl rfl
  | setRequestId hpc => exact .id hpc rfl rfl WorkerPc.noConfusion
  | disconnect hpc =>
      have k := n.disconnect_keeps reason
      exact .neither (by rw [hpc]; exact WorkerPc.noConfusion) k.result k.published
        WorkerPc.noConfusion
  | schedule hpc hs | scheduled hpc hs =>
      exact .neither (by rw [hpc]; exact WorkerPc.noConfusion) hs.keeps.result
        hs.keeps.published WorkerPc.noConfusion
  | receive hpc | firstDelay hpc | setReconfiguring hpc | stopTimer hpc | secondDelay hpc
  | refused hpc | configured hpc | setSsid hpc | tryAgain hpc | giveUp hpc | save hpc | saved hpc
  | setConfigured hpc | resetRetryCount hpc | readConfigured hpc | setState hpc
  | setLastReason hpc | clearCreds hpc | clearReconfiguring hpc | schedules hpc
  | schedulesNot hpc =>
      exact .neither (by rw [hpc]; exact WorkerPc.noConfusion) rfl rfl WorkerPc.noConfusion

/-! ## 3. The shared result -/

/-- **The shared result is that of the last report**, but between the two writes of the worker. -/
structure SharedInv (s : Station) : Prop where
  settled : s.worker.pc ≠ .setRequestId → s.net.result = lastResult s.net.published
  between : s.worker.pc = .setRequestId → s.net.result = staConfigOutcome s.worker.applied

/-- Every response pairs an id with its result. -/
def ResponsesTell (s : Station) : Prop :=
  ∀ r ∈ s.responses, Tells s.net.published r r.result

/-- `status_get` stands in front of the read of `sta_config_request_id`. -/
def StationHttp.beforeId : StationHttp → Bool
  | .status .requestId _ => true
  | _ => false

/-- `status_get` has read an id and not yet the result. -/
def StationHttp.behindId : StationHttp → Bool
  | .status .result r => decide (r.requestId ≠ 0)
  | _ => false

/-- **No pair of accesses is split over two outcomes**: the worker does not replace the result by
    another one while a reader stands behind an id, and no reader takes an id while the worker
    stands between its two writes with another result. -/
def ReadTogether (s : Station) : StationAction → Prop
  | .worker _ _ => s.worker.pc = .setResult → s.http.behindId = true →
      s.net.result = staConfigOutcome s.worker.applied
  | .read _ => s.http.beforeId = true → s.worker.pc = .setRequestId → s.net.requestId ≠ 0 →
      s.net.result = lastResult s.net.published
  | .post _ | .overwrite | .status | .event _ _ | .timer _ | .fire | .start _ | .apEvent _
  | .gotIp _ | .lost _ | .flush _ => True

instance (s : Station) : (a : StationAction) → Decidable (ReadTogether s a)
  | .worker _ _ | .read _ => by
      unfold ReadTogether
      infer_instance
  | .post _ | .overwrite | .status | .event _ _ | .timer _ | .fire | .start _ | .apEvent _
  | .gotIp _ | .lost _ | .flush _ => isTrue trivial

section Outcome

variable {B : StationBoot} {C : Station → StationAction → Prop}

theorem sharedInv_reach {s : Station} (h : Reach (station B) C s) : SharedInv s := by
  refine station_reach ?_ ?_ h
  · intro nvs pair
    exact ⟨fun _ => rfl, fun e => WorkerPc.noConfusion e⟩
  · intro s a s' _ I _ hs
    have hsame : ∀ {n' : Net}, n'.result = s.net.result → n'.published = s.net.published →
        SharedInv { s with net := n' } := by
      intro n' hres hpub
      refine ⟨fun hn => ?_, fun e => hres.trans (I.between e)⟩
      show n'.result = lastResult n'.published
      rw [hres, hpub]
      exact I.settled hn
    cases hs with
    | @worker ok reason n' w' hw =>
        cases hw.pair with
        | result hpc hres hpub hpc' happ =>
            refine ⟨fun hn => absurd hpc' hn, fun _ => ?_⟩
            show n'.result = staConfigOutcome w'.applied
            rw [happ]
            exact hres
        | id hpc hres hpub hpc' =>
            refine ⟨fun _ => ?_, fun e => absurd e hpc'⟩
            show n'.result = lastResult n'.published
            rw [hres, hpub, lastResult_concat]
            exact I.between hpc
        | neither hpc hres hpub hpc' =>
            refine ⟨fun _ => ?_, fun e => absurd e hpc'⟩
            show n'.result = lastResult n'.published
            rw [hres, hpub]
            exact I.settled hpc
    | event he =>
        have J := hsame he.keeps.result he.keeps.published
        exact ⟨J.settled, J.between⟩
    | timer ht =>
        have J := hsame ht.keeps.result ht.keeps.published
        exact ⟨J.settled, J.between⟩
    | start hst =>
        have J := hsame hst.keeps.result hst.keeps.published
        exact ⟨J.settled, J.between⟩
    | postRefused | post | overwrite | status | read | respond | fire | startHttp | apEvent
    | gotIp | lost | flush => exact ⟨I.settled, I.between⟩

/-! ## 4. What a reader has in hand -/

/-- **Only the worker writes the id and the result.** -/
theorem StationStep.pair {s s' : Station} {a : StationAction} (h : StationStep B s a s') :
    (s'.net.published = s.net.published ∨
        (∃ ok reason, a = .worker ok reason) ∧ s.worker.pc = .setRequestId ∧
          s'.net.published = s.net.published ++ [⟨s.worker.creds, s.worker.applied⟩]) ∧
      (s'.net.result = s.net.result ∨
        (∃ ok reason, a = .worker ok reason) ∧ s.worker.pc = .setResult ∧
          s'.net.result = staConfigOutcome s.worker.applied) := by
  cases h with
  | worker hw =>
      cases hw.pair with
      | result hpc hres hpub => exact ⟨Or.inl hpub, Or.inr ⟨⟨_, _, rfl⟩, hpc, hres⟩⟩
      | id hpc hres hpub => exact ⟨Or.inr ⟨⟨_, _, rfl⟩, hpc, hpub⟩, Or.inl hres⟩
      | neither _ hres hpub => exact ⟨Or.inl hpub, Or.inl hres⟩
  | event he => exact ⟨Or.inl he.keeps.published, Or.inl he.keeps.result⟩
  | timer ht => exact ⟨Or.inl ht.keeps.published, Or.inl ht.keeps.result⟩
  | start hst => exact ⟨Or.inl hst.keeps.published, Or.inl hst.keeps.result⟩
  | postRefused | post | overwrite | status | read | respond | fire | startHttp | apEvent
  | gotIp | lost | flush => exact ⟨Or.inl rfl, Or.inl rfl⟩

theorem StationStep.adds {s s' : Station} {a : StationAction} (h : StationStep B s a s') :
    ∃ more, s'.net.published = s.net.published ++ more := by
  rcases h.pair.1 with hpub | ⟨-, -, hpub⟩
  · exact ⟨[], hpub.trans (List.append_nil _).symm⟩
  · exact ⟨_, hpub⟩

/-- What belongs together at the control points of `status_get`. -/
def ReaderTells (n : Net) (pc : StatusPc) (r : NetworkStatus) : Prop :=
  (pc = .result → Tells n.published r n.result) ∧
    (pc.afterResult = true → Tells n.published r r.result)

/-- **A read keeps it together.** -/
theorem readerTells_read {s : Station} {live : Option CText} {pc : StatusPc}
    {next : Option StatusPc} {r r' : NetworkStatus} (J : SharedInv s)
    (hreq : s.net.requestId =
      ((s.net.published.getLast?).map fun p => p.creds.requestId).getD 0)
    (hc : ReadTogether s (.read live)) (hh : s.http = .status pc r) (I : ReaderTells s.net pc r)
    (hr : statusStep B s.net live r pc = (r', next)) :
    (∀ pc', next = some pc' → ReaderTells s.net pc' r') ∧
      (next = none → Tells s.net.published r' r'.result) := by
  cases statusStep_pair hr with
  | id hid hser =>
      refine ⟨fun pc' e => ?_, fun e => by cases e⟩
      cases e
      refine ⟨fun _ => ?_, fun e => Bool.noConfusion e⟩
      by_cases hw : s.worker.pc = .setRequestId
      · intro hne
        -- between the two writes of the worker the result is still that of the last report
        rw [hc (by rw [hh]; rfl) hw fun hz => hne (hid.trans hz)]
        exact tells_last (hid.trans hreq) hser hne
      · rw [J.settled hw]
        exact tells_last (hid.trans hreq) hser
  | result hid hser hres =>
      have hafter : Tells s.net.published r' r'.result := by
        rw [hres]
        exact (I.1 rfl).of_same hid hser
      refine ⟨fun pc' e => ?_, fun _ => hafter⟩
      cases e
      exact ⟨fun e => StatusPc.noConfusion e, fun _ => hafter⟩
  | behind hpc hid hser hres hn =>
      have hafter : Tells s.net.published r' r'.result := by
        rw [hres]
        exact (I.2 hpc).of_same hid hser
      exact ⟨fun pc' e => ⟨fun e' => absurd (e'.symm ▸ e) hn, fun _ => hafter⟩, fun _ => hafter⟩
  | before hne hafter =>
      refine ⟨fun pc' e => ?_, fun e => by cases e⟩
      cases e
      rw [ReaderTells, hafter]
      exact ⟨fun e => absurd e hne, fun e => Bool.noConfusion e⟩

/-- **The other steps do not tear it apart.** -/
theorem readerTells_net {s s' : Station} {a : StationAction} {pc : StatusPc} {r : NetworkStatus}
    (hc : ReadTogether s a) (hs : StationStep B s a s') (hh : s.http = .status pc r)
    (I : ReaderTells s.net pc r) : ReaderTells s'.net pc r := by
  obtain ⟨more, hpub⟩ := hs.adds
  unfold ReaderTells
  rw [hpub]
  refine ⟨fun e => ?_, fun e => (I.2 e).append more⟩
  rcases hs.pair.2 with hres | ⟨⟨ok, reason, rfl⟩, hpc, hres⟩
  · rw [hres]
    exact (I.1 e).append more
  · subst e
    intro hid
    have hbehind : s.http.behindId = true := by
      rw [hh]
      exact decide_eq_true hid
    rw [hres, ← hc hpc hbehind]
    exact (I.1 rfl).append more hid

/-! ## 5. The responses -/

/-- **Every response pairs an id with its result** in a run no step of which splits a pair of
    accesses over two outcomes. -/
theorem responses_tell {s : Station} (h : Reach (station B) ReadTogether s) : ResponsesTell s := by
  refine (reader_reach (R := ReaderTells) (Q := fun n r => Tells n.published r r.result)
    ?_ ?_ ?_ h).2
  · intro n
    exact ⟨fun e => StatusPc.noConfusion e, fun e => Bool.noConfusion e⟩
  · intro s live pc r hr hc hh I r' next hread
    exact readerTells_read (sharedInv_reach hr) (settledInv_reach hr).requestId hc hh I hread
  · intro s a s' _ hc hs
    obtain ⟨more, hpub⟩ := hs.adds
    refine ⟨fun pc r hh I => readerTells_net hc hs hh I, fun r ht => ?_⟩
    rw [hpub]
    exact ht.append more

end Outcome

/-- A GET /status request, and its first `reads` reads. -/
def statusReads (reads : Nat) : List StationAction :=
  .status :: List.replicate reads (.read none)

/-- The worker takes `steps` steps, and the radio refuses what it is asked. -/
def refusedSteps (steps : Nat) : List StationAction := List.replicate steps (.worker false 8)

/-- The first submission is applied; then the status is asked for. -/
def toldActions : List StationAction :=
  startActions ++ submit "a".toList ++ workerSteps 27 ++ statusReads 15

def toldRun : Station :=
  ((station benchStation).guard ReadTogether).runEnd
    (.initial ⟨⟨none, none⟩, ⟨none, none⟩⟩ ([], [])) toldActions

set_option maxRecDepth 8000 in
/-- The response tells id 1 and `applied`. -/
theorem responses_tell_first :
    ResponsesTell toldRun ∧ toldRun.responses.map NetworkStatus.requestId = [1] ∧
      toldRun.responses.map NetworkStatus.result = [.applied] :=
  ⟨responses_tell (reach_guard (reach_runEnd (.start ⟨_, _, rfl⟩) (by decide))), by decide,
    by decide⟩

/-- The second submission fails. A reader takes id 1 before the worker writes the result of the
    second one, and the result after it. -/
def splitRun : Station :=
  stationRun (startActions ++ submit "a".toList ++ workerSteps 27 ++ submit "b".toList ++
    workerSteps 6 ++ refusedSteps 44 ++ statusReads 9 ++ workerSteps 1 ++
    List.replicate 6 (.read none))

set_option maxRecDepth 8000 in
/-- **A response can tell the id of one submission with the result of the next**: submission 1 was
    applied, the response says that it failed. -/
theorem responses_tell_split :
    Reach (station benchStation) Always splitRun ∧ ¬ ResponsesTell splitRun ∧
      splitRun.responses.map NetworkStatus.requestId = [1] ∧
      splitRun.responses.map NetworkStatus.result = [.failed] ∧
      splitRun.net.published.map Publication.applied = [true] := by
  have hpub : splitRun.net.published.map Publication.applied = [true] := by decide
  refine ⟨stationRun_reach (by decide), fun h => ?_, by decide, by decide, hpub⟩
  obtain ⟨r, hr, hid, hserial, hres⟩ : ∃ r ∈ splitRun.responses,
      r.requestId ≠ 0 ∧ r.serial = 1 ∧ r.result = .failed := by decide
  obtain ⟨p, ⟨-, hp, -⟩, hout⟩ := h r hr hid
  have happ : p.applied = true := by
    rw [hserial] at hp
    have hget := congrArg (fun l => l[0]?) hpub
    rw [List.getElem?_map, hp] at hget
    exact Option.some.inj hget
  rw [hres, happ] at hout
  cases hout

end DragonBench
