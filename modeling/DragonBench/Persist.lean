/-
  File:      DragonBench/Persist.lean
  Subject:   WHICH PAIR THE NEXT BOOT USES: what NVS keeps of the submissions over every sequence of
             boots.

  `nvs_save_sta` writes the ssid and then the password; each becomes durable on its own. Power is
  lost between any two steps, and `start_wifi` of the next boot reads what is durable.

  * `Lifetime` -- a device over its boots: the station side of the running one, the submissions
    accepted so far, the pair its `start_wifi` uses;
  * `Nvs.Holds` -- each key holds that part of submissions;
  * `SaveLog`, `savingLifetime` -- the calls of `nvs_save_sta`, numbered, and which of them the
    keys were written and made durable by;
  * `PowerLostWhole` -- both writes of a save are durable or neither, and the password is read
    where the ssid is;
  * **`start_pair_whole`** -- when power is lost so only, every boot uses the Kconfig pair or that
    of one submission;
  * `start_pair_torn` -- a boot that uses neither.
-/
import DragonBench.Provision

namespace DragonBench

open Transition

/-! ## 1. A device over its boots -/

structure Lifetime where
  station : Station
  /-- history: the submissions of the boots before, oldest first -/
  earlier : List StaCredentials
  /-- the pair `start_wifi` of the running boot uses -/
  pair : CText × CText
  deriving DecidableEq

inductive LifetimeAction where
  | run (a : StationAction)
  /-- power is lost; whether the calls of the next `nvs_load_sta` succeed -/
  | powerLoss (load : LoadOutcome)

/-- One step: of the running boot, or the loss of power and the start of the next. -/
def lifetimeStep (B : StationBoot) (kconfig : CText × CText) (s : Lifetime) :
    LifetimeAction → Option Lifetime
  | .run a => (stationStep B s.station a).map fun station => { s with station := station }
  | .powerLoss load =>
    let nvs := s.station.net.nvs.lose
    let pair := startPair kconfig nvs load
    some ⟨.initial nvs pair, s.earlier ++ s.station.submitted, pair⟩

/-- A device that leaves the factory with empty NVS. -/
def lifetime (B : StationBoot) (kconfig : CText × CText) : System Lifetime LifetimeAction where
  init s := s = ⟨.initial ⟨⟨none, none⟩, ⟨none, none⟩⟩ kconfig, [], kconfig⟩
  step := lifetimeStep B kconfig

/-- The submissions accepted so far. -/
def Lifetime.submissions (s : Lifetime) : List StaCredentials := s.earlier ++ s.station.submitted

/-- **The Kconfig pair, or one that a single submission carried.** -/
def PairOf (kconfig : CText × CText) (submissions : List StaCredentials)
    (pair : CText × CText) : Prop :=
  pair = kconfig ∨ ∃ c ∈ submissions, pair = (c.ssid, c.password)

theorem PairOf.mono {kconfig pair : CText × CText} {submissions more : List StaCredentials}
    (h : PairOf kconfig submissions pair) (hsub : submissions ⊆ more) :
    PairOf kconfig more pair := by
  rcases h with h | ⟨c, hc, h⟩
  · exact Or.inl h
  · exact Or.inr ⟨c, hsub hc, h⟩

/-! ## 2. What the keys hold -/

/-- What a key holds is `field` of a submission, the one it was written for. -/
def NvsEntry.Holds (e : NvsEntry) (field : StaCredentials → CText)
    (submissions : List StaCredentials) : Prop :=
  ∀ v, e.durable = some v ∨ e.written = some v → v.origin ∈ submissions ∧ v.text = field v.origin

structure Nvs.Holds (nvs : Nvs) (submissions : List StaCredentials) : Prop where
  ssid : nvs.ssid.Holds StaCredentials.ssid submissions
  password : nvs.password.Holds StaCredentials.password submissions

section Holds

variable {e : NvsEntry} {nvs : Nvs} {field : StaCredentials → CText}
  {submissions more : List StaCredentials}

theorem NvsEntry.Holds.mono (h : e.Holds field submissions) (hsub : submissions ⊆ more) :
    e.Holds field more := by
  intro v hv
  obtain ⟨ho, ht⟩ := h v hv
  exact ⟨hsub ho, ht⟩

theorem NvsEntry.Holds.flush (h : e.Holds field submissions) :
    e.flush.Holds field submissions := by
  unfold NvsEntry.flush
  split
  · exact h
  · rename_i v hw
    intro v' hv
    rcases hv with hv | hv
    · exact h v' (Or.inr (hw.trans hv))
    · cases hv

theorem NvsEntry.Holds.lose (h : e.Holds field submissions) :
    ({ e with written := none } : NvsEntry).Holds field submissions := by
  intro v hv
  rcases hv with hv | hv
  · exact h v (Or.inl hv)
  · cases hv

theorem NvsEntry.Holds.write {creds : StaCredentials} (h : e.Holds field submissions)
    (hc : creds ∈ submissions) :
    ({ e with written := some ⟨field creds, creds⟩ } : NvsEntry).Holds field submissions := by
  intro v hv
  rcases hv with hv | hv
  · exact h v (Or.inl hv)
  · cases hv
    exact ⟨hc, rfl⟩

theorem Nvs.Holds.mono (h : nvs.Holds submissions) (hsub : submissions ⊆ more) :
    nvs.Holds more := ⟨h.ssid.mono hsub, h.password.mono hsub⟩

theorem Nvs.Holds.flush (h : nvs.Holds submissions) (key : NvsKey) :
    (nvs.flush key).Holds submissions := by
  cases key with
  | ssid => exact ⟨h.ssid.flush, h.password⟩
  | password => exact ⟨h.ssid, h.password.flush⟩

theorem Nvs.Holds.lose (h : nvs.Holds submissions) : nvs.lose.Holds submissions :=
  ⟨h.ssid.lose, h.password.lose⟩

/-- **A call of `nvs_save_sta` writes a part of the submission it saves.** -/
theorem saveStep_holds {creds : StaCredentials} {nvs' : Nvs} {ok : Bool} {stage : SaveStage}
    {next : Option SaveStage} (h : saveStep creds nvs ok stage = (nvs', next))
    (hc : creds ∈ submissions) (hn : nvs.Holds submissions) : nvs'.Holds submissions := by
  unfold saveStep at h
  cases stage with
  | «open» | close =>
      cases h
      exact hn
  | setSsid =>
      dsimp only at h
      split at h
      · cases h
        exact ⟨hn.ssid.write hc, hn.password⟩
      · cases h
        exact hn
  | setPassword =>
      dsimp only at h
      split at h
      · cases h
        exact ⟨hn.ssid, hn.password.write hc⟩
      · cases h
        exact hn
  | commit =>
      cases h
      split
      · exact (hn.flush .ssid).flush .password
      · exact hn

end Holds

theorem WorkerStep.holds {n n' : Net} {w w' : Worker} {ok : Bool} {reason : Nat}
    {submissions : List StaCredentials} (h : WorkerStep n w ok reason n' w')
    (hc : w.pc.carries = true → w.creds ∈ submissions) (hn : n.nvs.Holds submissions) :
    n'.nvs.Holds submissions := by
  cases h with
  | save hpc hs => exact saveStep_holds hs (hc (by rw [hpc]; rfl)) hn
  | disconnect =>
      rw [(n.disconnect_keeps reason).nvs]
      exact hn
  | schedule _ hs | scheduled _ hs =>
      rw [hs.keeps.nvs]
      exact hn
  | receive | firstDelay | setReconfiguring | stopTimer | secondDelay | refused | configured
  | setSsid | tryAgain | giveUp | saved | setConfigured | resetRetryCount | readConfigured
  | setState | setLastReason | setResult | setRequestId | clearCreds | clearReconfiguring
  | schedules | schedulesNot => exact hn

/-- **A step of the station side keeps what NVS holds.** -/
theorem StationStep.holds {B : StationBoot} {C : Station → StationAction → Prop}
    {s s' : Station} {a : StationAction} {earlier : List StaCredentials}
    (hr : Reach (station B) C s) (h : StationStep B s a s')
    (hn : s.net.nvs.Holds (earlier ++ s.submitted)) :
    s'.net.nvs.Holds (earlier ++ s'.submitted) := by
  cases h with
  | overwrite =>
      refine hn.mono fun c hc => ?_
      rcases List.mem_append.mp hc with hc | hc
      · exact List.mem_append_left _ hc
      · exact List.mem_append_right _ (List.mem_append_left _ hc)
  | worker hw =>
      exact hw.holds
        (fun hc => List.mem_append_right _ (carried_submitted (heldInv_reach hr) hc)) hn
  | @event ok rssi n' pc' he =>
      show n'.nvs.Holds _
      rw [he.keeps.nvs]
      exact hn
  | @timer ok n' pc' ht =>
      show n'.nvs.Holds _
      rw [ht.keeps.nvs]
      exact hn
  | @start ok n' pc' hst =>
      show n'.nvs.Holds _
      rw [hst.keeps.nvs]
      exact hn
  | flush => exact hn.flush _
  | postRefused | post | status | read | respond | fire | startHttp | apEvent | gotIp | lost =>
      exact hn

/-! ## 3. What the next boot reads -/

/-- The durable value a call that succeeds reads. -/
def NvsEntry.readable (e : NvsEntry) (ok : Bool) : Option NvsWrite := if ok then e.durable else none

theorem NvsEntry.get_eq (e : NvsEntry) (size : Nat) (ok : Bool) : e.get size ok =
    ((e.readable ok).map NvsWrite.text).filter fun s => decide (s.length < size) := by
  unfold NvsEntry.readable NvsEntry.get
  cases ok <;> rfl

theorem NvsEntry.get_of_none {e : NvsEntry} {size : Nat} {ok : Bool} (h : e.readable ok = none) :
    e.get size ok = none := by
  rw [e.get_eq, h]
  rfl

theorem NvsEntry.get_of_some {e : NvsEntry} {size : Nat} {ok : Bool} {v : NvsWrite}
    (h : e.readable ok = some v) (hlen : v.text.length < size) : e.get size ok = some v.text := by
  rw [e.get_eq, h]
  exact Option.filter_eq_some_iff.mpr ⟨rfl, decide_eq_true hlen⟩

theorem NvsEntry.Holds.readable {e : NvsEntry} {field : StaCredentials → CText}
    {submissions : List StaCredentials} {ok : Bool} {v : NvsWrite}
    (h : e.Holds field submissions) (hv : e.readable ok = some v) :
    v.origin ∈ submissions ∧ v.text = field v.origin := by
  unfold NvsEntry.readable at hv
  split at hv
  · exact h v (Or.inl hv)
  · cases hv

/-- **A pair read from one save is whole**: where an ssid is read, the durable password was written
    with it, and is read or is empty. -/
theorem startPair_of_one_save {kconfig : CText × CText} {nvs : Nvs} {load : LoadOutcome}
    {submissions : List StaCredentials} (hn : nvs.Holds submissions)
    (hvalid : ∀ c ∈ submissions, c.Valid)
    (h : load.opened = true → load.ssid = true → ∀ v, nvs.ssid.durable = some v →
      ∃ p, nvs.password.durable = some p ∧ p.origin = v.origin ∧
        (load.password = true ∨ p.text = [])) :
    PairOf kconfig submissions (startPair kconfig nvs load) := by
  unfold startPair nvsLoadSta
  by_cases ho : load.opened = true
  · rw [if_pos ho]
    cases hs : nvs.ssid.readable load.ssid with
    | none =>
        rw [NvsEntry.get_of_none hs]
        exact Or.inl rfl
    | some v =>
        obtain ⟨hv, ht⟩ := hn.ssid.readable hs
        obtain ⟨hok, hd⟩ : load.ssid = true ∧ nvs.ssid.durable = some v :=
          Option.ite_none_right_eq_some.mp hs
        obtain ⟨p, hp, horigin, hread⟩ := h ho hok v hd
        obtain ⟨hpo, hpt⟩ := hn.password p (Or.inl hp)
        have hval := hvalid _ hv
        have hne : v.text ≠ [] := by
          rw [ht]
          exact hval.ssid.1
        have hss : v.text.length < staSsidLen := by
          rw [ht]
          exact Nat.lt_trans hval.ssid.2 (by decide)
        have hps : p.text.length < staPasswordLen := by
          rw [hpt]
          exact Nat.lt_trans (hvalid _ hpo).password.2 (by decide)
        have hget : (nvs.password.get staPasswordLen load.password).getD [] = p.text := by
          cases hok : load.password with
          | true =>
              have hr : nvs.password.readable true = some p := hp
              rw [NvsEntry.get_of_some hr hps, Option.getD_some]
          | false =>
              rcases hread with hread | hread
              · rw [hok] at hread
                cases hread
              · rw [NvsEntry.get_of_none rfl, Option.getD_none, hread]
        rw [NvsEntry.get_of_some hs hss, hget]
        simp only [hne, ne_eq, not_false_eq_true, if_true, Option.getD_some]
        exact Or.inr ⟨v.origin, hv, by rw [ht, hpt, horigin]⟩
  · rw [if_neg ho]
    exact Or.inl rfl

/-! ## 4. The calls of `nvs_save_sta` -/

/-- Which call of `nvs_save_sta` the durable value of a key is of, and which one the value written
    since and not known to be durable. -/
structure KeyLog where
  durable : Option Nat
  written : Option Nat
  deriving DecidableEq

def KeyLog.flush (l : KeyLog) : KeyLog :=
  match l.written with
  | none => l
  | some call => ⟨some call, none⟩

/-- The calls of `nvs_save_sta` over all boots, numbered from one, and what became of their
    writes. -/
structure SaveLog where
  calls : Nat
  ssid : KeyLog
  password : KeyLog
  deriving DecidableEq

/-- Nothing has been saved. -/
def SaveLog.empty : SaveLog := ⟨0, ⟨none, none⟩, ⟨none, none⟩⟩

def SaveLog.flush (log : SaveLog) : NvsKey → SaveLog
  | .ssid => { log with ssid := log.ssid.flush }
  | .password => { log with password := log.password.flush }

/-- Power is lost. -/
def SaveLog.lose (log : SaveLog) : SaveLog :=
  { log with
    ssid := { log.ssid with written := none }
    password := { log.password with written := none } }

/-- One call inside `nvs_save_sta`, of which only the success counts. -/
def SaveLog.save (log : SaveLog) (ok : Bool) : SaveStage → SaveLog
  | .open => { log with calls := log.calls + 1 }
  | .setSsid =>
    if ok then { log with ssid := { log.ssid with written := some log.calls } } else log
  | .setPassword =>
    if ok then { log with password := { log.password with written := some log.calls } } else log
  | .commit => if ok then (log.flush .ssid).flush .password else log
  | .close => log

/-- What a step of the worker adds. -/
def SaveLog.work (log : SaveLog) (ok : Bool) : WorkerPc → SaveLog
  | .save stage => log.save ok stage
  | _ => log

/-- What a step of the device adds. -/
def SaveLog.next (log : SaveLog) (s : Lifetime) : LifetimeAction → SaveLog
  | .run (.worker ok _) => log.work ok s.station.worker.pc
  | .run (.flush key) => log.flush key
  | .run _ => log
  | .powerLoss _ => log.lose

/-- A device over its boots, with its saves. -/
structure SavingLife where
  life : Lifetime
  log : SaveLog
  deriving DecidableEq

def savingLifetime (B : StationBoot) (kconfig : CText × CText) :
    System SavingLife LifetimeAction where
  init r := (lifetime B kconfig).init r.life ∧ r.log = .empty
  step r a := (lifetimeStep B kconfig r.life a).map fun s => ⟨s, r.log.next r.life a⟩

/-- **Power is lost with both writes of a save durable or neither**: where the next boot reads an
    ssid, the durable password is of the same call of `nvs_save_sta`, and is read too, unless it is
    empty. -/
def PowerLostWhole (r : SavingLife) : LifetimeAction → Prop
  | .run _ => True
  | .powerLoss load =>
    load.opened = true → load.ssid = true → r.log.ssid.durable.isSome = true →
      r.log.password.durable = r.log.ssid.durable ∧
        (load.password = true ∨
          r.life.station.net.nvs.password.durable.map NvsWrite.text = some [])

instance (r : SavingLife) : (a : LifetimeAction) → Decidable (PowerLostWhole r a)
  | .run _ => isTrue trivial
  | .powerLoss load => inferInstanceAs (Decidable (load.opened = true → load.ssid = true →
      r.log.ssid.durable.isSome = true → r.log.password.durable = r.log.ssid.durable ∧
        (load.password = true ∨
          r.life.station.net.nvs.password.durable.map NvsWrite.text = some [])))

/-! ## 5. What the log tells of the keys -/

/-- The calls named are of those so far, and what a key holds is `field` of the submission its call
    has saved. -/
structure KeyLog.Tells (l : KeyLog) (e : NvsEntry) (field : StaCredentials → CText)
    (saved : Nat → StaCredentials) (calls : Nat) : Prop where
  durable : e.durable = l.durable.map fun call => ⟨field (saved call), saved call⟩
  written : e.written = l.written.map fun call => ⟨field (saved call), saved call⟩
  bound : ∀ call, l.durable = some call ∨ l.written = some call → call ≤ calls

structure SaveLog.Tells (log : SaveLog) (nvs : Nvs) (saved : Nat → StaCredentials) : Prop where
  ssid : log.ssid.Tells nvs.ssid StaCredentials.ssid saved log.calls
  password : log.password.Tells nvs.password StaCredentials.password saved log.calls

/-- **The log and NVS**: `saved` tells which submission each call has saved, the one under way that
    of the worker. -/
def SavesLogged (log : SaveLog) (nvs : Nvs) (w : Worker) : Prop :=
  ∃ saved, log.Tells nvs saved ∧
    ∀ stage, w.pc = .save stage → stage ≠ .open → saved log.calls = w.creds

section Log

variable {l : KeyLog} {e : NvsEntry} {field : StaCredentials → CText}
  {saved : Nat → StaCredentials} {calls : Nat} {log : SaveLog} {nvs nvs' : Nvs}

theorem KeyLog.Tells.flush (T : l.Tells e field saved calls) :
    l.flush.Tells e.flush field saved calls := by
  obtain ⟨hd, hw, hb⟩ := T
  unfold KeyLog.flush NvsEntry.flush
  rw [hw]
  cases hl : l.written with
  | none => exact ⟨hd, hw, hb⟩
  | some call =>
      refine ⟨rfl, rfl, fun call' h => hb call' (Or.inr ?_)⟩
      rcases h with h | h
      · exact hl.trans h
      · cases h

theorem KeyLog.Tells.lose (T : l.Tells e field saved calls) :
    ({ l with written := none } : KeyLog).Tells { e with written := none } field saved calls := by
  refine ⟨T.durable, rfl, fun call h => ?_⟩
  rcases h with h | h
  · exact T.bound call (Or.inl h)
  · cases h

/-- The call under way writes. -/
theorem KeyLog.Tells.write (T : l.Tells e field saved calls) {creds : StaCredentials}
    (hc : saved calls = creds) :
    ({ l with written := some calls } : KeyLog).Tells
      { e with written := some ⟨field creds, creds⟩ } field saved calls := by
  refine ⟨T.durable, by rw [← hc]; rfl, fun call h => ?_⟩
  rcases h with h | h
  · exact T.bound call (Or.inl h)
  · cases h
    exact Nat.le_refl _

/-- Another call begins. -/
theorem KeyLog.Tells.begin (T : l.Tells e field saved calls) (creds : StaCredentials) :
    l.Tells e field (Function.update saved (calls + 1) creds) (calls + 1) := by
  obtain ⟨hd, hw, hb⟩ := T
  have hold : ∀ call, l.durable = some call ∨ l.written = some call →
      Function.update saved (calls + 1) creds call = saved call := by
    intro call h
    have hle := hb call h
    exact Function.update_of_ne (by omega) _ _
  refine ⟨?_, ?_, fun call h => Nat.le_succ_of_le (hb call h)⟩
  · rw [hd]
    exact Option.map_congr fun call h => by rw [hold call (Or.inl h)]
  · rw [hw]
    exact Option.map_congr fun call h => by rw [hold call (Or.inr h)]

theorem SaveLog.Tells.flush (T : log.Tells nvs saved) (key : NvsKey) :
    (log.flush key).Tells (nvs.flush key) saved := by
  cases key with
  | ssid => exact ⟨T.ssid.flush, T.password⟩
  | password => exact ⟨T.ssid, T.password.flush⟩

/-- **A call inside `nvs_save_sta`** is logged. -/
theorem saveStep_log {creds : StaCredentials} {ok : Bool} {stage : SaveStage}
    {next : Option SaveStage} (h : saveStep creds nvs ok stage = (nvs', next))
    (T : log.Tells nvs saved) (hc : stage ≠ .open → saved log.calls = creds) :
    ∃ saved', (log.save ok stage).Tells nvs' saved' ∧
      saved' (log.save ok stage).calls = creds := by
  unfold saveStep at h
  cases stage with
  | «open» =>
      cases h
      refine ⟨Function.update saved (log.calls + 1) creds,
        ⟨T.ssid.begin creds, T.password.begin creds⟩, Function.update_self _ _ _⟩
  | setSsid =>
      have hcalls := hc (by decide)
      unfold SaveLog.save
      cases ok with
      | true =>
          cases h
          exact ⟨saved, ⟨T.ssid.write hcalls, T.password⟩, hcalls⟩
      | false =>
          cases h
          exact ⟨saved, T, hcalls⟩
  | setPassword =>
      have hcalls := hc (by decide)
      unfold SaveLog.save
      cases ok with
      | true =>
          cases h
          exact ⟨saved, ⟨T.ssid, T.password.write hcalls⟩, hcalls⟩
      | false =>
          cases h
          exact ⟨saved, T, hcalls⟩
  | commit =>
      have hcalls := hc (by decide)
      unfold SaveLog.save
      cases ok with
      | true =>
          cases h
          exact ⟨saved, (T.flush .ssid).flush .password, hcalls⟩
      | false =>
          cases h
          exact ⟨saved, T, hcalls⟩
  | close =>
      cases h
      exact ⟨saved, T, hc (by decide)⟩

end Log

/-- **A step of the worker** is logged. -/
theorem WorkerStep.logs {n n' : Net} {w w' : Worker} {ok : Bool} {reason : Nat} {log : SaveLog}
    (h : WorkerStep n w ok reason n' w') (I : SavesLogged log n.nvs w) :
    SavesLogged (log.work ok w.pc) n'.nvs w' := by
  obtain ⟨saved, T, hc⟩ := I
  cases h with
  | save hpc hs =>
      rw [hpc]
      obtain ⟨saved', T', hc'⟩ := saveStep_log hs T (hc _ hpc)
      exact ⟨saved', T', fun _ _ _ => hc'⟩
  | saved hpc hs =>
      rw [hpc]
      obtain ⟨saved', T', -⟩ := saveStep_log hs T (hc _ hpc)
      exact ⟨saved', T', fun _ hsave => by cases hsave⟩
  | setSsid hpc =>
      rw [hpc]
      refine ⟨saved, T, fun stage hsave hne => ?_⟩
      cases hsave
      exact absurd rfl hne
  | disconnect hpc =>
      rw [hpc, (n.disconnect_keeps reason).nvs]
      exact ⟨saved, T, fun _ hsave => by cases hsave⟩
  | schedule hpc hs | scheduled hpc hs =>
      rw [hpc, hs.keeps.nvs]
      exact ⟨saved, T, fun _ hsave => by cases hsave⟩
  | receive hpc | firstDelay hpc | setReconfiguring hpc | stopTimer hpc | secondDelay hpc
  | refused hpc | configured hpc | tryAgain hpc | giveUp hpc | setConfigured hpc
  | resetRetryCount hpc | readConfigured hpc | setState hpc | setLastReason hpc | setResult hpc
  | setRequestId hpc | clearCreds hpc | clearReconfiguring hpc | schedules hpc
  | schedulesNot hpc =>
      rw [hpc]
      exact ⟨saved, T, fun _ hsave => by cases hsave⟩

/-- **A step of the station side** is logged. -/
theorem StationStep.logs {B : StationBoot} {s : Lifetime} {t : Station} {a : StationAction}
    {log : SaveLog} (h : StationStep B s.station a t)
    (I : SavesLogged log s.station.net.nvs s.station.worker) :
    SavesLogged (log.next s (.run a)) t.net.nvs t.worker := by
  cases h with
  | worker hw => exact hw.logs I
  | flush =>
      obtain ⟨saved, T, hc⟩ := I
      refine ⟨saved, T.flush _, fun stage hsave hne => ?_⟩
      rw [← hc stage hsave hne]
      rename_i key
      cases key <;> rfl
  | @event ok rssi n' pc' he =>
      show SavesLogged log n'.nvs _
      rw [he.keeps.nvs]
      exact I
  | @timer ok n' pc' ht =>
      show SavesLogged log n'.nvs _
      rw [ht.keeps.nvs]
      exact I
  | @start ok n' pc' hst =>
      show SavesLogged log n'.nvs _
      rw [hst.keeps.nvs]
      exact I
  | postRefused | post | overwrite | status | read | respond | fire | startHttp | apEvent | gotIp
  | lost => exact I

/-! ## 6. Every boot -/

/-- **What every run has**, whatever fails. -/
structure KeysInv (B : StationBoot) (s : Lifetime) : Prop where
  running : Reach (station B) Always s.station
  earlier : ∀ c ∈ s.earlier, c.Valid
  holds : s.station.net.nvs.Holds s.submissions

section Lifetimes

variable {B : StationBoot} {kconfig : CText × CText}

theorem KeysInv.valid {s : Lifetime} (I : KeysInv B s) : ∀ c ∈ s.submissions, c.Valid := by
  intro c hc
  rcases List.mem_append.mp hc with hc | hc
  · exact I.earlier c hc
  · exact (validInv_reach I.running).1 c hc

/-- The submissions of a boot grow. -/
theorem StationStep.submitted_subset {s s' : Station} {a : StationAction}
    (h : StationStep B s a s') : s.submitted ⊆ s'.submitted := by
  cases h.submission with
  | puts _ _ hsub _ =>
      rw [hsub]
      exact List.subset_append_left _ _
  | takes _ _ _ hsub _ | neither _ hsub _ | opens _ _ hsub _ => exact fun c hc => hsub ▸ hc

theorem keysInv_reach {C : Lifetime → LifetimeAction → Prop} {s : Lifetime}
    (h : Reach (lifetime B kconfig) C s) : KeysInv B s := by
  refine h.inv ?_ ?_
  · intro s hs
    cases hs
    exact ⟨.start ⟨_, _, rfl⟩, fun c hc => absurd hc List.not_mem_nil,
      ⟨fun v hv => by (rcases hv with hv | hv <;> cases hv),
        fun v hv => by (rcases hv with hv | hv <;> cases hv)⟩⟩
  · intro s a s' _ I _ hs
    cases a with
    | run a =>
        obtain ⟨t, ht, rfl⟩ := Option.map_eq_some_iff.mp hs
        have hstep := stationStep_cases ht
        exact ⟨.step I.running trivial ht, I.earlier, hstep.holds I.running I.holds⟩
    | powerLoss load =>
        cases hs
        exact ⟨.start ⟨_, _, rfl⟩, I.valid,
          I.holds.lose.mono (List.subset_append_left _ _)⟩

/-- A run with its saves is a run. -/
theorem life_reach {C : SavingLife → LifetimeAction → Prop} {r : SavingLife}
    (h : Reach (savingLifetime B kconfig) C r) : Reach (lifetime B kconfig) Always r.life := by
  refine h.inv (I := fun r => Reach (lifetime B kconfig) Always r.life) ?_ ?_
  · exact fun r hr => .start hr.1
  · intro r a r' _ I _ hs
    obtain ⟨s, hstep, rfl⟩ := Option.map_eq_some_iff.mp hs
    exact .step I trivial hstep

theorem savesLogged_reach {C : SavingLife → LifetimeAction → Prop} {r : SavingLife}
    (h : Reach (savingLifetime B kconfig) C r) :
    SavesLogged r.log r.life.station.net.nvs r.life.station.worker := by
  refine h.inv (I := fun r => SavesLogged r.log r.life.station.net.nvs r.life.station.worker) ?_ ?_
  · intro r hr
    obtain ⟨hlife, hlog⟩ := hr
    rw [hlife, hlog]
    have hb : ∀ call : Nat, (none : Option Nat) = some call ∨ (none : Option Nat) = some call →
        call ≤ 0 := by
      intro call h
      rcases h with h | h <;> cases h
    exact ⟨fun _ => .zero, ⟨⟨rfl, rfl, hb⟩, ⟨rfl, rfl, hb⟩⟩, fun _ hsave => by cases hsave⟩
  · intro r a r' _ I _ hs
    obtain ⟨s, hstep, rfl⟩ := Option.map_eq_some_iff.mp hs
    cases a with
    | run a =>
        obtain ⟨t, ht, rfl⟩ := Option.map_eq_some_iff.mp hstep
        exact (stationStep_cases ht).logs I
    | powerLoss load =>
        cases hstep
        obtain ⟨saved, T, -⟩ := I
        exact ⟨saved, ⟨T.ssid.lose, T.password.lose⟩, fun _ hsave => by cases hsave⟩

/-- **The pair of the next boot** after a loss of power that leaves no half of a save. -/
theorem startPair_of_whole {C : SavingLife → LifetimeAction → Prop} {r : SavingLife}
    {load : LoadOutcome} (h : Reach (savingLifetime B kconfig) C r)
    (hw : PowerLostWhole r (.powerLoss load)) :
    PairOf kconfig r.life.submissions (startPair kconfig r.life.station.net.nvs.lose load) := by
  have K := keysInv_reach (life_reach h)
  obtain ⟨saved, T, -⟩ := savesLogged_reach h
  refine startPair_of_one_save K.holds.lose K.valid fun hopened hssid v hv => ?_
  have hd : (r.log.ssid.durable.map fun call => (⟨(saved call).ssid, saved call⟩ : NvsWrite)) =
      some v := T.ssid.durable.symm.trans hv
  obtain ⟨call, hcall, rfl⟩ := Option.map_eq_some_iff.mp hd
  obtain ⟨hsame, hread⟩ := hw hopened hssid (by rw [hcall]; rfl)
  have hp : r.life.station.net.nvs.password.durable = some ⟨(saved call).password, saved call⟩ := by
    rw [T.password.durable, hsame, hcall]
    rfl
  refine ⟨_, hp, rfl, hread.imp_right fun hempty => ?_⟩
  rw [hp] at hempty
  exact Option.some.inj hempty

/-- **Every boot uses the Kconfig pair or that of one submission**, when at every loss of power
    both writes of a save are durable or neither, and the password is read where the ssid is. -/
theorem start_pair_whole {r : SavingLife}
    (h : Reach (savingLifetime B kconfig) PowerLostWhole r) :
    PairOf kconfig r.life.submissions r.life.pair := by
  refine h.inv (I := fun r => PairOf kconfig r.life.submissions r.life.pair) ?_ ?_
  · intro r hr
    rw [hr.1]
    exact Or.inl rfl
  · intro r a r' hr I hc hs
    obtain ⟨s, hstep, rfl⟩ := Option.map_eq_some_iff.mp hs
    cases a with
    | run a =>
        obtain ⟨t, ht, rfl⟩ := Option.map_eq_some_iff.mp hstep
        exact I.mono (List.append_subset.mpr ⟨List.subset_append_left _ _,
          fun c hm => List.mem_append_right _ ((stationStep_cases ht).submitted_subset hm)⟩)
    | powerLoss load =>
        cases hstep
        exact (startPair_of_whole hr hc).mono (List.subset_append_left _ _)

end Lifetimes

/-- A device without a Kconfig network. -/
def benchLifetime : System Lifetime LifetimeAction := lifetime benchStation ([], [])

def newDevice : Lifetime := ⟨.initial ⟨⟨none, none⟩, ⟨none, none⟩⟩ ([], []), [], ([], [])⟩

/-- The calls of the next boot succeed. -/
def powerLoss : LifetimeAction := .powerLoss ⟨true, true, true⟩

/-- The same with its saves. -/
def benchSaving : System SavingLife LifetimeAction := savingLifetime benchStation ([], [])

/-- A submission is saved up to `nvs_commit`; then power is lost. -/
def savedLife : SavingLife :=
  (benchSaving.guard PowerLostWhole).runEnd ⟨newDevice, .empty⟩
    ((startActions ++ submit "a".toList ++ workerSteps 12).map .run ++ [powerLoss])

set_option maxRecDepth 8000 in
/-- The next boot uses the submission. -/
theorem start_pair_whole_saved :
    PairOf ([], []) savedLife.life.submissions savedLife.life.pair ∧
      savedLife.life.pair = ("a".toList, "12345678".toList) :=
  ⟨start_pair_whole (B := benchStation) (reach_guard (reach_runEnd (.start ⟨rfl, rfl⟩) (by decide))),
    by decide⟩

/-- The ssid is written and durable when power is lost; the password is not written. -/
def tornLife : Lifetime :=
  benchLifetime.runEnd newDevice
    ((startActions ++ submit "a".toList ++ workerSteps 10 ++ [StationAction.flush .ssid]).map .run ++
      [powerLoss])

set_option maxRecDepth 8000 in
/-- **A boot can use the ssid of a submission without its password.** -/
theorem start_pair_torn :
    Reach benchLifetime Always tornLife ∧ tornLife.pair = ("a".toList, []) ∧
      ¬ PairOf ([], []) tornLife.submissions tornLife.pair := by
  refine ⟨reach_runEnd (.start rfl) (by decide), by decide, fun h => ?_⟩
  rcases h with h | h
  · exact absurd h (by decide)
  · exact absurd h (by decide)

end DragonBench
