/-
  File:      DragonBench/Connected.lean
  Subject:   WHETHER A `connected` NEXT TO A REQUEST ID IS A SUCCESS OF THAT SUBMISSION.

  `status_get` reads `sta_state` before `sta_config_request_id`. The worker moves `sta_state` off
  `connected` before it writes the id; a reader that read the state before, and an address event
  of the old association that is still queued or being handled, bring the old `connected` back.

  * `FinishedInv` -- how many submissions the worker is through with, against the reports;
  * `NetFresh`, `StationHttp.Fresh` -- every `connected` at hand is of an address obtained when the
    worker was through with `k` submissions;
  * `NoStaleAddress` -- the worker writes an id only over such;
  * **`connected_since`** -- in a run of such steps a response that tells an id and `connected`
    tells of an address obtained after the worker was through with that submission;
  * `connected_since_stale` -- a response of a run that does not.
-/
import DragonBench.Outcome

namespace DragonBench

open Transition

/-! ## 1. How far the worker is -/

/-- The worker is through with a submission it has not reported. -/
def WorkerPc.through : WorkerPc → Bool
  | .save _ | .setConfigured | .resetRetryCount | .readConfigured | .setState _ | .setLastReason
  | .setResult | .setRequestId => true
  | .receive | .firstDelay | .setReconfiguring | .stopTimer | .disconnect | .secondDelay
  | .configure _ | .setSsid | .retryDelay _ | .clearCreds | .clearReconfiguring | .testConfigured
  | .schedule _ => false

/-- `finished` by the reports and the worker. -/
def finishedBy (n : Net) (w : Worker) : Nat :=
  n.published.length + if w.pc.through then 1 else 0

def FinishedInv (s : Station) : Prop := s.net.finished = finishedBy s.net s.worker

theorem WorkerStep.finished {n n' : Net} {w w' : Worker} {ok : Bool} {reason : Nat}
    (h : WorkerStep n w ok reason n' w') (hf : n.finished = finishedBy n w) :
    n'.finished = finishedBy n' w' := by
  unfold finishedBy at hf ⊢
  cases h with
  | setSsid hpc | giveUp hpc =>
      rw [hpc] at hf
      exact congrArg (· + 1) hf
  | setRequestId hpc =>
      rw [hpc] at hf
      rw [List.length_append]
      exact hf
  | disconnect hpc =>
      have k := n.disconnect_keeps reason
      rw [hpc] at hf
      rw [k.finished, k.published]
      exact hf
  | schedule hpc hs | scheduled hpc hs =>
      rw [hpc] at hf
      rw [hs.keeps.finished, hs.keeps.published]
      exact hf
  | receive hpc | firstDelay hpc | setReconfiguring hpc | stopTimer hpc | secondDelay hpc
  | refused hpc | configured hpc | tryAgain hpc | save hpc | saved hpc | setConfigured hpc
  | resetRetryCount hpc | readConfigured hpc | setState hpc | setLastReason hpc | setResult hpc
  | clearCreds hpc | clearReconfiguring hpc | schedules hpc | schedulesNot hpc =>
      rw [hpc] at hf
      exact hf

theorem finishedInv_reach {B : StationBoot} {C : Station → StationAction → Prop} {s : Station}
    (h : Reach (station B) C s) : FinishedInv s := by
  refine station_reach ?_ ?_ h
  · intro nvs pair
    rfl
  · intro s a s' _ I _ hs
    unfold FinishedInv finishedBy at I ⊢
    cases hs with
    | worker hw => exact hw.finished I
    | event he => exact he.keeps.finished.trans (I.trans (by rw [he.keeps.published]))
    | timer ht => exact ht.keeps.finished.trans (I.trans (by rw [ht.keeps.published]))
    | start hst => exact hst.keeps.finished.trans (I.trans (by rw [hst.keeps.published]))
    | postRefused | post | overwrite | status | read | respond | fire | startHttp | apEvent
    | gotIp | lost | flush => exact I

/-! ## 2. Where `connected` comes from -/

/-- An address event, when it is one, is of an address obtained since `k`. -/
def WifiEvent.Fresh (k : Nat) : WifiEvent → Prop
  | .staGotIp _ since => k ≤ since
  | .apStart _ | .apStaConnected | .apStaDisconnected | .staConnected | .staDisconnected _ => True

instance (k : Nat) : (e : WifiEvent) → Decidable (e.Fresh k)
  | .staGotIp _ since => inferInstanceAs (Decidable (k ≤ since))
  | .apStart _ | .apStaConnected | .apStaDisconnected | .staConnected | .staDisconnected _ =>
    isTrue trivial

/-- So is the one being handled. -/
def EventPc.Fresh (k : Nat) : EventPc → Prop
  | .setIp _ since | .setConnected since => k ≤ since
  | .idle | .setLastReason _ | .setDisconnected _ | .testReason _ | .testReconfiguring
  | .testConfigured | .schedule _ | .stopTimer | .resetRetryCount | .readRssi => True

instance (k : Nat) : (pc : EventPc) → Decidable (pc.Fresh k)
  | .setIp _ since | .setConnected since => inferInstanceAs (Decidable (k ≤ since))
  | .idle | .setLastReason _ | .setDisconnected _ | .testReason _ | .testReconfiguring
  | .testConfigured | .schedule _ | .stopTimer | .resetRetryCount | .readRssi => isTrue trivial

/-- And the one a reader has read `connected` of. -/
def NetworkStatus.Fresh (k : Nat) (r : NetworkStatus) : Prop :=
  r.staState = .connected → k ≤ r.since

instance (k : Nat) (r : NetworkStatus) : Decidable (r.Fresh k) :=
  inferInstanceAs (Decidable (_ → _))

/-- The control points of `status_get` between the reads of the state and of the id. -/
def StatusPc.behindState : StatusPc → Bool
  | .staSsid | .staLastReason | .requestId => true
  | .mode | .apState | .apActive | .apIp | .apClientCount | .staState | .result | .configured
  | .connected | .ipTest | .ip | .hostname | .networkConnected => false

/-- The control points behind both. -/
def StatusPc.behindBoth : StatusPc → Bool
  | .result | .configured | .connected | .ipTest | .ip | .hostname | .networkConnected => true
  | .mode | .apState | .apActive | .apIp | .apClientCount | .staState | .staSsid | .staLastReason
  | .requestId => false

def StationHttp.Fresh (k : Nat) : StationHttp → Prop
  | .status pc r => pc.behindState = true → r.Fresh k
  | .down | .idle | .posting _ => True

instance (k : Nat) : (http : StationHttp) → Decidable (http.Fresh k)
  | .status pc r => inferInstanceAs (Decidable (pc.behindState = true → r.Fresh k))
  | .down | .idle | .posting _ => isTrue trivial

/-- **Every `connected` on the device is of an address obtained since `k`.** -/
def NetFresh (k : Nat) (n : Net) (event : EventPc) : Prop :=
  (n.staState = .connected → k ≤ n.since) ∧ (∀ e ∈ n.events, e.Fresh k) ∧ event.Fresh k

instance (k : Nat) (n : Net) (event : EventPc) : Decidable (NetFresh k n event) :=
  inferInstanceAs (Decidable (_ ∧ _ ∧ _))

/-- Nothing is connected by the way from `n` to `n'`. -/
structure NoAddress (n n' : Net) : Prop where
  state : n'.staState = .connected → n.staState = .connected ∧ n'.since = n.since
  events : ∀ e ∈ n'.events, e ∈ n.events ∨ ∀ k, e.Fresh k

theorem NoAddress.of_same {n n' : Net} (hs : n'.staState = n.staState) (hi : n'.since = n.since)
    (he : n'.events = n.events) : NoAddress n n' where
  state h := ⟨hs.symm.trans h, hi⟩
  events _ h := Or.inl (he ▸ h)

theorem NoAddress.of_state {n n' : Net} (hs : n'.staState ≠ .connected)
    (he : n'.events = n.events) : NoAddress n n' where
  state h := absurd h hs
  events _ h := Or.inl (he ▸ h)

theorem NetFresh.of_noAddress {k : Nat} {n n' : Net} {event event' : EventPc}
    (h : NetFresh k n event) (hn : NoAddress n n') (he : event'.Fresh k) :
    NetFresh k n' event' := by
  obtain ⟨hstate, hevents, -⟩ := h
  refine ⟨fun hc => ?_, fun e hm => ?_, he⟩
  · obtain ⟨hc', hsince⟩ := hn.state hc
    rw [hsince]
    exact hstate hc'
  · rcases hn.events e hm with hm | hf
    · exact hevents e hm
    · exact hf k

/-- An event is posted. -/
theorem NetFresh.queued {k : Nat} {n n' : Net} {event : EventPc} {e : WifiEvent}
    (h : NetFresh k n event) (he : n'.events = n.events ++ [e]) (hf : e.Fresh k)
    (hs : n'.staState = n.staState) (hi : n'.since = n.since) : NetFresh k n' event := by
  unfold NetFresh
  rw [he, hs, hi]
  exact ⟨h.1, List.forall_mem_append.mpr ⟨h.2.1, List.forall_mem_singleton.mpr hf⟩, h.2.2⟩

theorem Net.connect_noAddress (n : Net) (ok : Bool) : NoAddress n (n.connect ok) := by
  unfold Net.connect
  split
  · exact .of_same rfl rfl rfl
  · exact .of_same rfl rfl rfl

theorem Net.disconnect_noAddress (n : Net) (reason : Nat) :
    NoAddress n (n.disconnect reason) := by
  unfold Net.disconnect
  split
  · exact .of_same rfl rfl rfl
  · refine ⟨fun h => ⟨h, rfl⟩, fun e hm => ?_⟩
    rcases List.mem_append.mp hm with hm | hm
    · exact Or.inl hm
    · rw [List.mem_singleton] at hm
      rw [hm]
      exact Or.inr fun _ => trivial

theorem Net.startTimer_noAddress (n : Net) (delayMs : Nat) :
    NoAddress n (n.startTimer delayMs) := by
  unfold Net.startTimer
  split
  · exact .of_same rfl rfl rfl
  · exact .of_same rfl rfl rfl

theorem ScheduleStep.noAddress {n n' : Net} {ok : Bool} {stage : RetryStage}
    {next : Option RetryStage} (h : ScheduleStep n ok stage n' next) : NoAddress n n' := by
  cases h with
  | connect => exact n.connect_noAddress ok
  | start => exact n.startTimer_noAddress _
  | setConnecting => exact .of_state DbStaState.noConfusion rfl
  | readCount | atOnce | later | stop => exact .of_same rfl rfl rfl

/-- The worker connects nothing. -/
theorem WorkerStep.noAddress {n n' : Net} {w w' : Worker} {ok : Bool} {reason : Nat}
    (h : WorkerStep n w ok reason n' w') : NoAddress n n' := by
  cases h with
  | disconnect => exact n.disconnect_noAddress reason
  | schedule _ hs | scheduled _ hs => exact hs.noAddress
  | @setState configured _ =>
      refine .of_state ?_ rfl
      cases configured <;> exact DbStaState.noConfusion
  | receive | firstDelay | setReconfiguring | stopTimer | secondDelay | refused | configured
  | setSsid | tryAgain | giveUp | save | saved | setConfigured | resetRetryCount | readConfigured
  | setLastReason | setResult | setRequestId | clearCreds | clearReconfiguring | schedules
  | schedulesNot => exact .of_same rfl rfl rfl

theorem TimerStep.noAddress {n n' : Net} {ok : Bool} {pc pc' : TimerPc}
    (h : TimerStep n ok pc n' pc') : NoAddress n n' := by
  cases h with
  | connect => exact n.connect_noAddress ok
  | setConnecting => exact .of_state DbStaState.noConfusion rfl
  | reconfiguring | notReconfiguring | configured | notConfigured => exact .of_same rfl rfl rfl

theorem StartStep.noAddress {n n' : Net} {ok : Bool} {pc pc' : StartPc}
    (h : StartStep n ok pc n' pc') : NoAddress n n' := by
  cases h with
  | connect => exact n.connect_noAddress ok
  | setConnecting => exact .of_state DbStaState.noConfusion rfl
  | configured | notConfigured | configureFailed | connects | connectsNot | startFailed =>
      exact .of_same rfl rfl rfl

theorem WifiEvent.Fresh.of_neutral {e : WifiEvent} (he : e.neutral = true) (k : Nat) :
    e.Fresh k := by
  cases e with
  | apStart | apStaConnected | apStaDisconnected | staConnected => trivial
  | staDisconnected | staGotIp => cases he

/-- The event task passes an address on, from the queue to `sta_state`. -/
theorem EventStep.netFresh {k : Nat} {n n' : Net} {ok : Bool} {rssi : Option Int}
    {pc pc' : EventPc} (h : EventStep n ok rssi pc n' pc') (hf : NetFresh k n pc) :
    NetFresh k n' pc' := by
  have htail : ∀ {e : WifiEvent} {events : List WifiEvent}, n.events = e :: events →
      e.Fresh k ∧ ∀ e' ∈ events, e'.Fresh k := by
    intro e events hq
    have hall := hf.2.1
    rw [hq] at hall
    exact List.forall_mem_cons.mp hall
  cases h with
  | @neutral e events hq he =>
      have ht := (htail hq).2
      cases e with
      | apStart ip => cases ip <;> exact ⟨hf.1, ht, trivial⟩
      | apStaConnected | apStaDisconnected | staConnected => exact ⟨hf.1, ht, trivial⟩
      | staDisconnected | staGotIp => cases he
  | disconnected hq => exact ⟨hf.1, (htail hq).2, trivial⟩
  | gotIp hq => exact ⟨hf.1, (htail hq).2, (htail hq).1⟩
  | setConnected => exact ⟨fun _ => hf.2.2, hf.2.1, trivial⟩
  | setDisconnected => exact hf.of_noAddress (.of_state DbStaState.noConfusion rfl) trivial
  | schedule hs | scheduled hs => exact hf.of_noAddress hs.noAddress trivial
  | setIp => exact hf.of_noAddress (.of_same rfl rfl rfl) hf.2.2
  | setLastReason | assocLeave | otherReason | reconfiguring | notReconfiguring | configured
  | notConfigured | stopTimer | resetRetryCount | noRssi | readRssi =>
      exact hf.of_noAddress (.of_same rfl rfl rfl) trivial

/-! ## 3. The reports -/

/-- **The worker writes an id only when no older `connected` is left**: on the device, or read by a
    `status_get` that has not read the id. -/
def NoStaleAddress (s : Station) : StationAction → Prop
  | .worker _ _ => s.worker.pc = .setRequestId →
      NetFresh s.net.finished s.net s.event ∧ s.http.Fresh s.net.finished
  | .post _ | .overwrite | .status | .read _ | .event _ _ | .timer _ | .fire | .start _
  | .apEvent _ | .gotIp _ | .lost _ | .flush _ => True

instance (s : Station) : (a : StationAction) → Decidable (NoStaleAddress s a)
  | .worker _ _ => by
      unfold NoStaleAddress
      infer_instance
  | .post _ | .overwrite | .status | .read _ | .event _ _ | .timer _ | .fire | .start _
  | .apEvent _ | .gotIp _ | .lost _ | .flush _ => isTrue trivial

section Connected

variable {B : StationBoot}

/-- At a report the worker is through with one submission more than it has reported. -/
theorem finished_at_report {C : Station → StationAction → Prop} {s : Station}
    (h : Reach (station B) C s) (hpc : s.worker.pc = .setRequestId) :
    s.net.finished = s.net.published.length + 1 := by
  have hf := finishedInv_reach h
  unfold FinishedInv finishedBy at hf
  rw [hpc] at hf
  exact hf

/-- **Every `connected` on the device is of an address obtained since the last report.** -/
theorem netFresh_reach {s : Station} (h : Reach (station B) NoStaleAddress s) :
    NetFresh s.net.published.length s.net s.event := by
  refine station_reach (I := fun s => NetFresh s.net.published.length s.net s.event) ?_ ?_ h
  · intro nvs pair
    exact ⟨fun _ => Nat.zero_le _, fun e hm => absurd hm List.not_mem_nil, trivial⟩
  · intro s a s' hr I hc hs
    cases hs with
    | @worker ok reason n' w' hw =>
        show NetFresh n'.published.length n' s.event
        cases hw.pair with
        | id hpc _ hpub =>
            obtain ⟨hfresh, -⟩ := hc hpc
            rw [finished_at_report hr hpc] at hfresh
            rw [hpub, List.length_append]
            exact hfresh.of_noAddress hw.noAddress hfresh.2.2
        | result _ _ hpub | neither _ _ hpub =>
            rw [hpub]
            exact I.of_noAddress hw.noAddress I.2.2
    | @event ok rssi n' pc' he =>
        show NetFresh n'.published.length n' pc'
        rw [he.keeps.published]
        exact he.netFresh I
    | @timer ok n' pc' ht =>
        show NetFresh n'.published.length n' s.event
        rw [ht.keeps.published]
        exact I.of_noAddress ht.noAddress I.2.2
    | @start ok n' pc' hst =>
        show NetFresh n'.published.length n' s.event
        rw [hst.keeps.published]
        exact I.of_noAddress hst.noAddress I.2.2
    | apEvent he => exact I.queued rfl (.of_neutral he _) rfl rfl
    | gotIp =>
        have hf : s.net.finished = finishedBy s.net s.worker := finishedInv_reach hr
        unfold finishedBy at hf
        have hle : s.net.published.length ≤ s.net.finished := by omega
        exact I.queued rfl hle rfl rfl
    | lost => exact I.queued rfl trivial rfl rfl
    | postRefused | post | overwrite | status | read | respond | fire | startHttp | flush =>
        exact I

/-! ## 4. What a reader has in hand -/

/-- A request id and `connected`: the address was obtained after the worker was through with that
    submission. -/
def ConnectedSince (published : List Publication) (r : NetworkStatus) : Prop :=
  r.requestId ≠ 0 → r.staState = .connected → ∃ p, Named published r p ∧ r.serial ≤ r.since

theorem ConnectedSince.append {published : List Publication} {r : NetworkStatus}
    (h : ConnectedSince published r) (more : List Publication) :
    ConnectedSince (published ++ more) r := by
  intro hid hstate
  obtain ⟨p, hp, hle⟩ := h hid hstate
  exact ⟨p, hp.append more, hle⟩

/-- **What a read of `status_get` does to the state and the id**, by where it stands. -/
inductive StateRead (n : Net) (r r' : NetworkStatus) : StatusPc → Option StatusPc → Prop where
  | state {pc : StatusPc} (hstate : r'.staState = n.staState) (hsince : r'.since = n.since) :
      StateRead n r r' pc (some .staSsid)
  | between {pc pc' : StatusPc} (hpc : pc.behindState = true)
      (hstate : r'.staState = r.staState) (hsince : r'.since = r.since)
      (hpc' : pc'.behindState = true) : StateRead n r r' pc (some pc')
  | id {pc : StatusPc} (hpc : pc.behindState = true) (hstate : r'.staState = r.staState)
      (hsince : r'.since = r.since) (hid : r'.requestId = n.requestId)
      (hserial : r'.serial = n.published.length) : StateRead n r r' pc (some .result)
  | behind {pc : StatusPc} {next : Option StatusPc} (hpc : pc.behindBoth = true)
      (hstate : r'.staState = r.staState) (hsince : r'.since = r.since)
      (hid : r'.requestId = r.requestId) (hserial : r'.serial = r.serial)
      (hnext : ∀ pc', next = some pc' → pc'.behindState = false) : StateRead n r r' pc next
  | before {pc pc' : StatusPc} (hstate : pc'.behindState = false)
      (hboth : pc'.behindBoth = false) : StateRead n r r' pc (some pc')

theorem statusStep_state {B : StationBoot} {n : Net} {live : Option CText}
    {r r' : NetworkStatus} {pc : StatusPc} {next : Option StatusPc}
    (h : statusStep B n live r pc = (r', next)) : StateRead n r r' pc next := by
  unfold statusStep at h
  cases pc with
  | staState =>
      cases h
      exact .state rfl rfl
  | staSsid | staLastReason =>
      cases h
      exact .between rfl rfl rfl rfl
  | requestId =>
      cases h
      exact .id rfl rfl rfl rfl rfl
  | ipTest =>
      cases h
      refine .behind rfl rfl rfl rfl rfl fun pc' e => ?_
      split at e <;> (cases e; rfl)
  | result | configured | connected | ip | hostname =>
      cases h
      refine .behind rfl rfl rfl rfl rfl fun pc' e => ?_
      cases e
      rfl
  | networkConnected =>
      cases h
      refine .behind rfl rfl rfl rfl rfl fun pc' e => ?_
      cases e
  | mode | apState | apActive | apIp | apClientCount =>
      cases h
      exact .before rfl rfl

/-- What `status_get` has in hand at its control points. -/
def ReaderSince (n : Net) (pc : StatusPc) (r : NetworkStatus) : Prop :=
  (pc.behindState = true → r.Fresh n.published.length) ∧
    (pc.behindBoth = true → ConnectedSince n.published r)

/-- **A read of a fresh state, and of the id behind it.** -/
theorem readerSince_read {s : Station} {live : Option CText} {pc : StatusPc}
    {next : Option StatusPc} {r r' : NetworkStatus}
    (hfresh : NetFresh s.net.published.length s.net s.event)
    (hreq : s.net.requestId =
      ((s.net.published.getLast?).map fun p => p.creds.requestId).getD 0)
    (I : ReaderSince s.net pc r) (hr : statusStep B s.net live r pc = (r', next)) :
    (∀ pc', next = some pc' → ReaderSince s.net pc' r') ∧
      (next = none → ConnectedSince s.net.published r') := by
  unfold ReaderSince at I ⊢
  unfold NetworkStatus.Fresh at I ⊢
  cases statusStep_state hr with
  | state hst hsi =>
      rw [hst, hsi]
      refine ⟨fun pc' e => ?_, fun e => by cases e⟩
      cases e
      exact ⟨fun _ => hfresh.1, fun e => Bool.noConfusion e⟩
  | @between qc hpc hst hsi hq =>
      rw [hst, hsi]
      refine ⟨fun pc' e => ?_, fun e => by cases e⟩
      cases e
      refine ⟨fun _ => I.1 hpc, fun e => ?_⟩
      cases qc <;> cases hq <;> cases e
  | id hpc hst hsi hid hser =>
      refine ⟨fun pc' e => ?_, fun e => by cases e⟩
      cases e
      refine ⟨fun e => Bool.noConfusion e, fun _ hne hcon => ?_⟩
      -- the id is read: no report came since the state was read
      obtain ⟨p, -, hp⟩ := named_last (hid.trans hreq) hser hne
      rw [hst] at hcon
      rw [hser, hsi]
      exact ⟨p, hp, I.1 hpc hcon⟩
  | behind hpc hst hsi hid hser hn =>
      have hboth : ConnectedSince s.net.published r' := by
        intro hne hcon
        rw [hid] at hne
        rw [hst] at hcon
        obtain ⟨p, hp, hle⟩ := I.2 hpc hne hcon
        rw [← hser, ← hsi] at hle
        exact ⟨p, hp.of_same hid hser, hle⟩
      refine ⟨fun pc' e => ⟨fun e' => ?_, fun _ => hboth⟩, fun _ => hboth⟩
      rw [hn pc' e] at e'
      cases e'
  | before hq hq' =>
      refine ⟨fun pc' e => ?_, fun e => by cases e⟩
      cases e
      rw [hq, hq']
      exact ⟨fun e => Bool.noConfusion e, fun e => Bool.noConfusion e⟩

/-- **A report over nothing stale leaves a reader with what is fresh.** -/
theorem readerSince_net {s s' : Station} {a : StationAction} {pc : StatusPc} {r : NetworkStatus}
    (h : Reach (station B) NoStaleAddress s) (hc : NoStaleAddress s a)
    (hs : StationStep B s a s') (hh : s.http = .status pc r) (I : ReaderSince s.net pc r) :
    ReaderSince s'.net pc r := by
  unfold ReaderSince
  rcases hs.pair.1 with hpub | ⟨⟨ok, reason, rfl⟩, hpc, hpub⟩
  · rw [hpub]
    exact I
  · refine ⟨fun hb => ?_, fun hb => ?_⟩
    · obtain ⟨-, hread⟩ := hc hpc
      rw [hh, finished_at_report h hpc] at hread
      rw [hpub, List.length_append]
      exact hread hb
    · rw [hpub]
      exact (I.2 hb).append _

/-! ## 5. The responses -/

/-- **A response that tells an id and `connected` tells of an address obtained after the worker was
    through with that submission**, in a run that reports over no stale address. -/
theorem connected_since {s : Station} (h : Reach (station B) NoStaleAddress s) :
    ∀ r ∈ s.responses, ConnectedSince s.net.published r := by
  refine (reader_reach (R := ReaderSince) (Q := fun n r => ConnectedSince n.published r)
    ?_ ?_ ?_ h).2
  · intro n
    exact ⟨fun e => Bool.noConfusion e, fun e => Bool.noConfusion e⟩
  · intro s live pc r hr _ _ I r' next hread
    exact readerSince_read (netFresh_reach hr) (settledInv_reach hr).requestId I hread
  · intro s a s' hr hc hs
    obtain ⟨more, hpub⟩ := hs.adds
    refine ⟨fun pc r hh I => readerSince_net hr hc hs hh I, fun r ht => ?_⟩
    rw [hpub]
    exact ht.append more

end Connected

/-- A submission is applied, the station obtains an address, the status is asked for. -/
def freshActions : List StationAction :=
  startActions ++ submit "a".toList ++ workerSteps 27 ++ [.gotIp "10.0.0.2".toList] ++
    List.replicate 6 (.event true none) ++ statusReads 16

def freshRun : Station :=
  ((station benchStation).guard NoStaleAddress).runEnd
    (.initial ⟨⟨none, none⟩, ⟨none, none⟩⟩ ([], [])) freshActions

set_option maxRecDepth 8000 in
/-- The response tells id 1 and `connected`. -/
theorem connected_since_first :
    (∀ r ∈ freshRun.responses, ConnectedSince freshRun.net.published r) ∧
      freshRun.responses.map NetworkStatus.requestId = [1] ∧
      freshRun.responses.map NetworkStatus.staState = [.connected] :=
  ⟨connected_since (reach_guard (reach_runEnd (.start ⟨_, _, rfl⟩) (by decide))), by decide,
    by decide⟩

/-- The second submission arrives when the station has just obtained an address. The event is
    handled behind its report. -/
def staleRun : Station :=
  stationRun (startActions ++ submit "a".toList ++ workerSteps 27 ++ submit "b".toList ++
    [.gotIp "10.0.0.2".toList] ++ workerSteps 20 ++ List.replicate 6 (.event true none) ++
    statusReads 16)

set_option maxRecDepth 8000 in
/-- **A response can report the old connection as a success of the new submission**: id 2,
    `connected`, and an address obtained when the worker was through with submission 1 only. -/
theorem connected_since_stale :
    Reach (station benchStation) Always staleRun ∧
      (∃ r ∈ staleRun.responses, r.requestId = 2 ∧ r.staState = .connected ∧ r.since = 1) ∧
      ¬ ∀ r ∈ staleRun.responses, ConnectedSince staleRun.net.published r := by
  have hresp : ∃ r ∈ staleRun.responses,
      r.requestId = 2 ∧ r.staState = .connected ∧ r.since = 1 ∧ r.serial = 2 := by decide
  obtain ⟨r, hr, hid, hstate, hsince, hserial⟩ := hresp
  refine ⟨stationRun_reach (by decide), ⟨r, hr, hid, hstate, hsince⟩, fun h => ?_⟩
  obtain ⟨-, -, hle⟩ := h r hr (by omega) hstate
  omega

end DragonBench
