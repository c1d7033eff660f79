/-
  File:      DragonBench/Accepted.lean
  Subject:   ACCEPTED PAIRS ARRIVE: a pair `network_sta_post` accepts reaches the radio, NVS and the
             radio of the next boot as it was sent.

  The buffers on the way hold 33 and 65 bytes (the queue record, the buffers of `start_wifi`) and
  32 and 64 bytes (`wifi_config_t`), each with its terminator; the request is checked against the
  smallest.

  * `NvsEntry.latest` -- what a key holds once what was written is durable;
  * `Station.saved` -- the submission NVS holds, unless the worker is writing another one;
  * `savedInv_reach` -- it is durable, both parts, when all calls succeed;
  * `loaded_configures` -- whatever pair a boot reads from NVS, `configure_sta` takes it;
  * **`accepted_pair_kept`** -- both together, with what lies between.
-/
import DragonBench.Persist

namespace DragonBench

open Transition

/-! ## 1. Saving -/

/-- What a key holds once what was written is durable. -/
def NvsEntry.latest (e : NvsEntry) : Option NvsWrite := e.written.or e.durable

theorem NvsEntry.flush_eq (e : NvsEntry) : e.flush = ⟨e.latest, none⟩ := by
  unfold NvsEntry.flush NvsEntry.latest
  cases e with
  | mk durable written => cases written <;> rfl

theorem NvsEntry.latest_flush (e : NvsEntry) : e.flush.latest = e.latest := by
  rw [e.flush_eq]
  rfl

/-- Both keys are durable and hold a submission. -/
def Nvs.keeping (c : StaCredentials) : Nvs where
  ssid := ⟨some ⟨c.ssid, c⟩, none⟩
  password := ⟨some ⟨c.password, c⟩, none⟩

theorem Nvs.flush_keeping (c : StaCredentials) (key : NvsKey) :
    (Nvs.keeping c).flush key = Nvs.keeping c := by
  cases key <;> rfl

/-- How far the worker is with saving the submission it holds. -/
inductive SaveProgress where
  | untouched | ssidWritten | bothWritten | durable | notApplied

def WorkerPc.progress : WorkerPc → SaveProgress
  | .save .setPassword => .ssidWritten
  | .save .commit => .bothWritten
  | .save .close | .setConfigured | .resetRetryCount | .readConfigured | .setState _
  | .setLastReason | .setResult | .setRequestId => .durable
  | .retryDelay _ => .notApplied
  | .receive | .firstDelay | .setReconfiguring | .stopTimer | .disconnect | .secondDelay
  | .configure _ | .setSsid | .save .open | .save .setSsid | .clearCreds | .clearReconfiguring
  | .testConfigured | .schedule _ => .untouched

/-- What NVS holds meanwhile; a submission that is not applied is not among it. -/
def SaveFacts (n : Net) (creds : StaCredentials) : SaveProgress → Prop
  | .untouched => ∀ p, n.published.getLast? = some p → n.nvs = .keeping p.creds
  | .ssidWritten => n.nvs.ssid.latest = some ⟨creds.ssid, creds⟩
  | .bothWritten =>
    n.nvs.ssid.latest = some ⟨creds.ssid, creds⟩ ∧
      n.nvs.password.latest = some ⟨creds.password, creds⟩
  | .durable => n.nvs = .keeping creds
  | .notApplied => False

/-- **How far the save is**, when all calls succeed. -/
def SavedInv (n : Net) (w : Worker) : Prop := SaveFacts n w.creds w.pc.progress

/-- The submission saved last, unless a later one is half saved. -/
def Station.saved (s : Station) : Option StaCredentials :=
  match s.worker.pc.progress with
  | .untouched => (s.net.published.getLast?).map Publication.creds
  | .durable => some s.worker.creds
  | .ssidWritten | .bothWritten | .notApplied => none

theorem SavedInv.saved {s : Station} {c : StaCredentials} (I : SavedInv s.net s.worker)
    (h : s.saved = some c) : s.net.nvs = .keeping c := by
  unfold Station.saved at h
  unfold SavedInv at I
  split at h
  · rename_i hp
    obtain ⟨p, hlast, rfl⟩ := Option.map_eq_some_iff.mp h
    rw [hp] at I
    exact I p hlast
  · rename_i hp
    cases h
    rw [hp] at I
    exact I
  · cases h
  · cases h
  · cases h

/-- All calls succeed. -/
def CallsSucceed (_ : Lifetime) : LifetimeAction → Prop
  | .run (.worker ok _) | .run (.start ok) => ok = true
  | .run _ => True
  | .powerLoss load => load = ⟨true, true, true⟩

instance (s : Lifetime) : (a : LifetimeAction) → Decidable (CallsSucceed s a)
  | .run (.worker ok _) | .run (.start ok) => inferInstanceAs (Decidable (ok = true))
  | .run (.post _) | .run .overwrite | .run .status | .run (.read _) | .run (.event _ _)
  | .run (.timer _) | .run .fire | .run (.apEvent _) | .run (.gotIp _) | .run (.lost _)
  | .run (.flush _) => isTrue trivial
  | .powerLoss load => inferInstanceAs (Decidable (load = ⟨true, true, true⟩))

section Saving

variable {n n' : Net} {w w' : Worker}

/-- What neither writes a key nor reports keeps the facts. -/
theorem SaveFacts.of_same {creds : StaCredentials} {progress : SaveProgress}
    (I : SaveFacts n creds progress) (hn : n'.nvs = n.nvs) (hp : n'.published = n.published) :
    SaveFacts n' creds progress := by
  unfold SaveFacts
  rw [hn, hp]
  exact I

/-- A key becomes durable. -/
theorem SaveFacts.flush {creds : StaCredentials} {progress : SaveProgress}
    (I : SaveFacts n creds progress) (key : NvsKey) :
    SaveFacts { n with nvs := n.nvs.flush key } creds progress := by
  have hs : (n.nvs.flush key).ssid.latest = n.nvs.ssid.latest := by
    cases key with
    | ssid => exact NvsEntry.latest_flush _
    | password => rfl
  have hp : (n.nvs.flush key).password.latest = n.nvs.password.latest := by
    cases key with
    | ssid => rfl
    | password => exact NvsEntry.latest_flush _
  cases progress with
  | untouched =>
      intro p hlast
      show n.nvs.flush key = .keeping p.creds
      rw [I p hlast, Nvs.flush_keeping]
  | ssidWritten => exact hs.trans I
  | bothWritten => exact ⟨hs.trans I.1, hp.trans I.2⟩
  | durable =>
      show n.nvs.flush key = .keeping creds
      rw [show n.nvs = .keeping creds from I, Nvs.flush_keeping]
  | notApplied => exact I

/-- **A step of the worker**, when the credentials it holds are valid and its call succeeds. -/
theorem WorkerStep.saves {reason : Nat} (h : WorkerStep n w true reason n' w')
    (hv : w.pc.carries = true → w.creds.Valid) (I : SavedInv n w) : SavedInv n' w' := by
  unfold SavedInv at I ⊢
  cases h with
  | receive hpc | firstDelay hpc | setReconfiguring hpc | stopTimer hpc | secondDelay hpc
  | configured hpc | setSsid hpc | setConfigured hpc | resetRetryCount hpc | readConfigured hpc
  | setState hpc | setLastReason hpc | setResult hpc | clearCreds hpc | clearReconfiguring hpc
  | schedules hpc | schedulesNot hpc =>
      rw [hpc] at I
      exact I
  | disconnect hpc =>
      rw [hpc] at I
      have k := n.disconnect_keeps reason
      exact SaveFacts.of_same I k.nvs k.published
  | schedule hpc hs | scheduled hpc hs =>
      rw [hpc] at I
      exact SaveFacts.of_same I hs.keeps.nvs hs.keeps.published
  | refused hpc hr =>
      have hconf := (hv (by rw [hpc]; rfl)).configure
      rcases hr with hr | hr
      · rw [hconf] at hr
        cases hr
      · cases hr
  | tryAgain hpc | giveUp hpc =>
      rw [hpc] at I
      exact I.elim
  | @save stage stage' nvs hpc hs =>
      rw [hpc] at I
      cases stage with
      | «open» =>
          obtain ⟨rfl, hs⟩ := Prod.mk.inj hs
          cases hs
          exact I
      | setSsid =>
          obtain ⟨rfl, hs⟩ := Prod.mk.inj hs
          cases hs
          exact rfl
      | setPassword =>
          obtain ⟨rfl, hs⟩ := Prod.mk.inj hs
          cases hs
          exact ⟨I, rfl⟩
      | commit =>
          obtain ⟨rfl, hs⟩ := Prod.mk.inj hs
          cases hs
          obtain ⟨hss, hpp⟩ := I
          show Nvs.mk n.nvs.ssid.flush n.nvs.password.flush = Nvs.keeping w.creds
          rw [NvsEntry.flush_eq, NvsEntry.flush_eq, hss, hpp]
          rfl
      | close => cases hs
  | @saved stage hpc hs =>
      have hnext := congrArg Prod.snd hs
      have hclose : stage = .close := by
        cases stage with
        | close => rfl
        | «open» | setSsid | setPassword | commit => cases hnext
      rw [hpc, hclose] at I
      exact I
  | setRequestId hpc =>
      -- the report takes over from the worker's credentials
      rw [hpc] at I
      intro p hlast
      have hp : some (Publication.mk w.creds w.applied) = some p := by
        rw [← hlast]
        exact List.getLast?_concat.symm
      cases hp
      exact I

end Saving

/-- A step of the station side. -/
theorem StationStep.saves {B : StationBoot} {C : Station → StationAction → Prop} {s s' : Station}
    {a : StationAction} (hr : Reach (station B) C s) (h : StationStep B s a s')
    (hok : ∀ ok reason, a = .worker ok reason → ok = true) (I : SavedInv s.net s.worker) :
    SavedInv s'.net s'.worker := by
  cases h with
  | @worker ok reason n' w' hw =>
      cases hok ok reason rfl
      exact hw.saves (fun hc => (validInv_reach hr).1 _ (carried_submitted (heldInv_reach hr) hc)) I
  | event he => exact SaveFacts.of_same I he.keeps.nvs he.keeps.published
  | timer ht => exact SaveFacts.of_same I ht.keeps.nvs ht.keeps.published
  | start hst => exact SaveFacts.of_same I hst.keeps.nvs hst.keeps.published
  | flush => exact SaveFacts.flush I _
  | postRefused | post | overwrite | status | read | respond | fire | startHttp | apEvent | gotIp
  | lost => exact SaveFacts.of_same I rfl rfl

/-! ## 2. Every boot -/

section Lifetimes

variable {B : StationBoot} {kconfig : CText × CText}

/-- **The save in every run whose calls succeed.** -/
theorem savedInv_reach {s : Lifetime} (h : Reach (lifetime B kconfig) CallsSucceed s) :
    SavedInv s.station.net s.station.worker := by
  have h0 : ∀ nvs pair, SavedInv (Station.initial nvs pair).net (Station.initial nvs pair).worker :=
    fun nvs pair p hlast => by cases hlast
  refine h.inv (I := fun s => SavedInv s.station.net s.station.worker) ?_ ?_
  · intro s hs
    cases hs
    exact h0 _ _
  · intro s a s' hr I hc hs
    cases a with
    | run a =>
        obtain ⟨t, ht, rfl⟩ := Option.map_eq_some_iff.mp hs
        refine (stationStep_cases ht).saves (keysInv_reach hr).running ?_ I
        intro ok reason e
        rw [e] at hc
        exact hc
    | powerLoss load =>
        cases hs
        exact h0 _ _

end Lifetimes

/-- What `nvs_get_str` reads is a durable value that fits. -/
theorem NvsEntry.get_some {e : NvsEntry} {size : Nat} {ok : Bool} {text : CText}
    (h : e.get size ok = some text) :
    ∃ v, e.durable = some v ∧ v.text = text ∧ text.length < size := by
  unfold NvsEntry.get at h
  rw [Option.ite_none_right_eq_some] at h
  obtain ⟨-, h⟩ := h
  obtain ⟨hm, hlen⟩ := Option.filter_eq_some_iff.mp h
  obtain ⟨v, hv, ht⟩ := Option.map_eq_some_iff.mp hm
  exact ⟨v, hv, ht, of_decide_eq_true hlen⟩

/-- **`configure_sta` takes every pair a boot reads from NVS**, also one whose two parts come from
    two submissions. -/
theorem loaded_configures {nvs : Nvs} {load : LoadOutcome} {submissions : List StaCredentials}
    {ssid password : CText} (hn : nvs.Holds submissions) (hv : ∀ c ∈ submissions, c.Valid)
    (h : nvsLoadSta nvs load = some (ssid, password)) :
    configureSta ssid password =
      some ⟨ssid, password, if password ≠ [] then .wpa2Psk else .openNetwork⟩ := by
  unfold nvsLoadSta at h
  rw [Option.ite_none_right_eq_some] at h
  obtain ⟨-, h⟩ := h
  dsimp only at h
  split at h
  · cases h
  · rename_i text hs
    rw [Option.ite_none_right_eq_some] at h
    obtain ⟨hne, h⟩ := h
    cases h
    obtain ⟨v, hd, ht, -⟩ := NvsEntry.get_some hs
    obtain ⟨ho, hot⟩ := hn.ssid v (Or.inl hd)
    have hlen : v.text.length < 32 := by
      rw [hot]
      exact (hv _ ho).ssid.2
    rw [ht] at hlen
    refine configureSta_valid hne hlen ?_
    cases hp : nvs.password.get staPasswordLen load.password with
    | none => decide
    | some p =>
        obtain ⟨v, hd, ht, -⟩ := NvsEntry.get_some hp
        obtain ⟨ho, hot⟩ := hn.password v (Or.inl hd)
        rw [Option.getD_some, ← ht, hot]
        exact (hv _ ho).password.2

/-! ## 3. The way of a submission -/

section Way

variable {B : StationBoot} {kconfig : CText × CText}

/-- The worker takes a submission from the queue and configures the radio with it. -/
theorem submission_applied {s : Station} {creds : StaCredentials} (hpc : s.worker.pc = .receive)
    (hq : s.net.queue = some creds) (hv : creds.Valid) :
    ∃ t, (station B).exec s (workerSteps 8) = some t ∧ t.worker.pc = .save .open ∧
      t.worker.creds = creds ∧ t.net.config = creds.config ∧ t.net.staSsid = creds.ssid := by
  have hcopy := hv.copied
  have hconf := hv.configure
  simp [System.exec, workerSteps, station, stationStep, workerStep, List.replicate, hpc, hq, hconf,
    hcopy]

/-- From the opening of NVS it comes to a commit. -/
theorem save_completes {s : Station} (hpc : s.worker.pc = .save .open) :
    ∃ s', (station B).exec s (workerSteps 4) = some s' ∧ s'.saved = some s.worker.creds ∧
      s'.net.config = s.net.config ∧ s'.net.staSsid = s.net.staSsid := by
  simp [System.exec, workerSteps, station, stationStep, workerStep, saveStep, Station.saved,
    WorkerPc.progress, List.replicate, hpc]

/-- **The worker takes a submission to the radio and to NVS.** -/
theorem submission_saved {s : Station} {creds : StaCredentials} (hpc : s.worker.pc = .receive)
    (hq : s.net.queue = some creds) (hv : creds.Valid) :
    ∃ s', (station B).exec s (workerSteps 12) = some s' ∧ s'.saved = some creds ∧
      s'.net.config = creds.config ∧ s'.net.staSsid = creds.ssid := by
  obtain ⟨t, hx, hsave, hcreds, hconf, hssid⟩ := submission_applied (B := B) hpc hq hv
  obtain ⟨s', hx', hsaved, hconf', hssid'⟩ := save_completes (B := B) hsave
  refine ⟨s', ?_, by rw [hsaved, hcreds], hconf'.trans hconf, hssid'.trans hssid⟩
  show (station B).exec s (workerSteps 8 ++ workerSteps 4) = some s'
  rw [exec_append, hx]
  exact hx'

/-- The station side runs inside a boot as it runs alone. -/
theorem run_exec (s : Lifetime) (as : List StationAction) :
    (lifetime B kconfig).exec s (as.map .run) =
      ((station B).exec s.station as).map fun station => { s with station := station } := by
  exact exec_map (S := station B) (T := lifetime B kconfig)
    (fun station => { s with station := station }) LifetimeAction.run (fun _ _ => rfl) s.station as

/-- **The next boot**, when the pair it uses can be configured. -/
theorem next_boot (B : StationBoot) (kconfig : CText × CText) (s : Lifetime) (load : LoadOutcome)
    {config : WifiConfig}
    (hne : (startPair kconfig s.station.net.nvs.lose load).1 ≠ [])
    (h : configureSta (startPair kconfig s.station.net.nvs.lose load).1
      (startPair kconfig s.station.net.nvs.lose load).2 = some config) :
    ∃ s', (lifetime B kconfig).exec s [.powerLoss load, .run (.start true)] = some s' ∧
      s'.pair = startPair kconfig s.station.net.nvs.lose load ∧
      s'.station.net.config = config ∧ s'.station.start = .startRadio := by
  simp [System.exec, lifetime, lifetimeStep, stationStep, startStep, Station.initial, Net.initial,
    dbStaIsConfigured, hne, h]

/-- What a boot reads after all calls of the save succeeded. -/
theorem startPair_keeping (c : StaCredentials) (hv : c.Valid) :
    startPair kconfig (Nvs.keeping c).lose ⟨true, true, true⟩ = (c.ssid, c.password) := by
  have hs : c.ssid.length < staSsidLen := Nat.lt_trans hv.ssid.2 (by decide)
  have hp : c.password.length < staPasswordLen := Nat.lt_trans hv.password.2 (by decide)
  have hgs : (Nvs.keeping c).lose.ssid.get staSsidLen true = some c.ssid :=
    NvsEntry.get_of_some (v := ⟨c.ssid, c⟩) rfl hs
  have hgp : (Nvs.keeping c).lose.password.get staPasswordLen true = some c.password :=
    NvsEntry.get_of_some (v := ⟨c.password, c⟩) rfl hp
  unfold startPair nvsLoadSta
  rw [if_pos rfl, hgs, hgp]
  simp only [ne_eq, hv.ssid.1, not_false_eq_true, if_true, Option.getD_some]

/-- **An accepted pair arrives as it was sent.** The queue record holds it whole; `configure_sta`
    takes it, with WPA2 exactly when there is a password; the worker that finds it in the queue
    brings it to the radio and to NVS; a boot after that reads it back and configures the radio
    with it. And no boot, after any run, fails to configure the pair it reads from NVS. -/
theorem accepted_pair_kept {body : Option Json} {ssid password : CText}
    (h : staRequest body = some (ssid, password)) (B : StationBoot) (kconfig : CText × CText)
    (id : Nat) :
    credentials id ssid password = ⟨id, ssid, password⟩ ∧
    (∃ config, configureSta ssid password = some config ∧
      (config.ssid = ssid ∧ config.password = password ∧
        (config.authmode = .wpa2Psk ↔ password ≠ [])) ∧
      ∀ s, Reach (lifetime B kconfig) CallsSucceed s →
        (s.station.worker.pc = .receive →
          s.station.net.queue = some (credentials id ssid password) →
          ∃ s', (lifetime B kconfig).exec s ((workerSteps 12).map .run) = some s' ∧
            s'.station.saved = some (credentials id ssid password) ∧
            s'.station.net.config = config) ∧
        (s.station.saved = some (credentials id ssid password) →
          ∃ s', (lifetime B kconfig).exec s [powerLoss, .run (.start true)] = some s' ∧
            s'.pair = (ssid, password) ∧ s'.station.net.config = config ∧
            s'.station.start = .startRadio)) ∧
    ∀ s, Reach (lifetime B kconfig) Always s → ∀ load pair,
      nvsLoadSta s.station.net.nvs.lose load = some pair →
      ∃ s', (lifetime B kconfig).exec s [.powerLoss load, .run (.start true)] = some s' ∧
        s'.station.start = .startRadio := by
  have hw := credentials_whole id h
  have hv := credentials_valid id h
  rw [hw] at hv ⊢
  refine ⟨rfl, ⟨_, hv.configure, ⟨rfl, rfl, ?_⟩, fun s hs => ⟨fun hpc hq => ?_, fun hsaved => ?_⟩⟩,
    fun s hs load pair hload => ?_⟩
  · unfold StaCredentials.config
    by_cases hp : password = []
    · simp [hp]
    · simp [hp]
  · obtain ⟨t, hx, hsaved, hconf, -⟩ := submission_saved (B := B) hpc hq hv
    refine ⟨{ s with station := t }, ?_, hsaved, hconf⟩
    rw [run_exec, hx]
    rfl
  · have hnvs := (savedInv_reach hs).saved hsaved
    have hpair : startPair kconfig s.station.net.nvs.lose ⟨true, true, true⟩ = (ssid, password) := by
      rw [hnvs]
      exact startPair_keeping _ hv
    have hboot := next_boot B kconfig s ⟨true, true, true⟩
      (by rw [hpair]; exact hv.ssid.1) (by rw [hpair]; exact hv.configure)
    rw [hpair] at hboot
    exact hboot
  · have K := keysInv_reach hs
    have hconf := loaded_configures K.holds.lose K.valid hload
    have hpair : startPair kconfig s.station.net.nvs.lose load = pair := by
      unfold startPair
      rw [hload]
      rfl
    have hne : pair.1 ≠ [] := by
      intro e
      rw [e] at hconf
      cases hconf
    obtain ⟨s', hx, -, -, hst⟩ := next_boot B kconfig s load
      (by rw [hpair]; exact hne) (by rw [hpair]; exact hconf)
    exact ⟨s', hx, hst⟩

end Way

/-- An ssid and a password of the greatest length. -/
def longestSsid : CText := List.replicate 31 's'
def longestPassword : CText := List.replicate 63 'p'

def longestBody : Option Json :=
  some (.obj [("ssid".toList, .str longestSsid), ("password".toList, .str longestPassword)])

/-- They are submitted and saved. -/
def longestLife : Lifetime :=
  (benchLifetime.guard CallsSucceed).runEnd newDevice
    ((startActions ++ [StationAction.post longestBody, .overwrite] ++ workerSteps 12).map .run)

set_option maxRecDepth 8000 in
theorem accepted_pair_kept_longest :
    ∃ s', benchLifetime.exec longestLife [powerLoss, .run (.start true)] = some s' ∧
      s'.pair = (longestSsid, longestPassword) ∧ s'.station.start = .startRadio := by
  have hlong : staRequest longestBody = some (longestSsid, longestPassword) := by decide
  have hr : Reach benchLifetime CallsSucceed longestLife :=
    reach_guard (reach_runEnd (.start rfl) (by decide))
  obtain ⟨-, ⟨config, -, -, hrun⟩, -⟩ := accepted_pair_kept hlong benchStation ([], []) 1
  obtain ⟨s', hx, hpair, -, hst⟩ := (hrun longestLife hr).2 (by decide)
  exact ⟨s', hx, hpair, hst⟩

end DragonBench
