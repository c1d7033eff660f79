/-
  File:      DragonBench/Retry.lean
  Subject:   WHETHER A LOST STATION CONNECTION IS ALWAYS RETRIED.

  Three contexts arm, stop and skip retries. A configured station that is idle comes back only
  through one of them, through an armed timer, or through what is still queued for one of them.

  * `Retrying` -- somebody will bring the station back;
  * `Closed` -- in the event queue of an idle station a disconnection follows every address, so
    that the handler of the address does not stop the last timer;
  * `KeepsRetrying` -- the steps that give a retry up leave somebody else;
  * **`retry_armed`** -- in a run of such steps a quiet station without a connection has its timer
    armed;
  * `retry_armed_assoc_leave` -- the access point says that it leaves, and nobody is left.
-/
import DragonBench.Provision

namespace DragonBench

open Transition

/-! ## 1. Who brings the station back -/

def WifiEvent.isDisconnection : WifiEvent → Bool
  | .staDisconnected _ => true
  | .apStart _ | .apStaConnected | .apStaDisconnected | .staConnected | .staGotIp _ _ => false

/-- The handler is on the way from a disconnection to a retry. -/
def EventPc.disconnecting : EventPc → Bool
  | .setLastReason _ | .setDisconnected _ | .testReason _ | .testReconfiguring | .testConfigured
  | .schedule _ => true
  | .idle | .setIp _ _ | .setConnected _ | .stopTimer | .resetRetryCount | .readRssi => false

/-- `app_main` has not called `esp_wifi_connect`. -/
def StartPc.starting : StartPc → Bool
  | .configure _ _ | .startRadio | .setConnecting | .connect => true
  | .startHttp | .up | .failed => false

/-- The radio, the timer, the queue of the worker or that of the events will. -/
def NetRetrying (n : Net) : Prop :=
  n.link ≠ .idle ∨ n.timer.isSome = true ∨ n.queue.isSome = true ∨
    n.events.any WifiEvent.isDisconnection = true

/-- **Somebody will bring the station back.** -/
def Retrying (n : Net) (worker : WorkerPc) (event : EventPc) (timer : TimerPc)
    (start : StartPc) : Prop :=
  NetRetrying n ∨ worker ≠ .receive ∨ event.disconnecting = true ∨ timer ≠ .idle ∨
    start.starting = true

theorem NetRetrying.of_link {n : Net} (h : n.link ≠ .idle) : NetRetrying n := Or.inl h

theorem NetRetrying.of_timer {n : Net} (h : n.timer.isSome = true) : NetRetrying n :=
  Or.inr (Or.inl h)

theorem NetRetrying.of_queue {n : Net} (h : n.queue.isSome = true) : NetRetrying n :=
  Or.inr (Or.inr (Or.inl h))

theorem NetRetrying.of_events {n : Net} (h : n.events.any WifiEvent.isDisconnection = true) :
    NetRetrying n := Or.inr (Or.inr (Or.inr h))

section Who

variable {n : Net} {worker : WorkerPc} {event : EventPc} {timer : TimerPc} {start : StartPc}

theorem NetRetrying.retrying (h : NetRetrying n) : Retrying n worker event timer start := Or.inl h

theorem Retrying.of_worker (h : worker ≠ .receive) : Retrying n worker event timer start :=
  Or.inr (Or.inl h)

theorem Retrying.of_event (h : event.disconnecting = true) :
    Retrying n worker event timer start := Or.inr (Or.inr (Or.inl h))

theorem Retrying.of_timer (h : timer ≠ .idle) : Retrying n worker event timer start :=
  Or.inr (Or.inr (Or.inr (Or.inl h)))

theorem Retrying.of_start (h : start.starting = true) : Retrying n worker event timer start :=
  Or.inr (Or.inr (Or.inr (Or.inr h)))

end Who

instance (n : Net) : Decidable (NetRetrying n) := inferInstanceAs (Decidable (_ ∨ _ ∨ _ ∨ _))

instance (n : Net) (worker : WorkerPc) (event : EventPc) (timer : TimerPc) (start : StartPc) :
    Decidable (Retrying n worker event timer start) :=
  inferInstanceAs (Decidable (_ ∨ _ ∨ _ ∨ _ ∨ _))

/-- Nothing is going on, and the station has no connection. -/
structure Quiet (s : Station) : Prop where
  configured : s.net.staConfigured = true
  reconfiguring : s.net.staReconfiguring = false
  worker : s.worker.pc = .receive ∧ s.net.queue = none
  event : s.event = .idle ∧ s.net.events = []
  timer : s.timer = .idle
  start : s.start.starting = false
  link : s.net.link = .idle

/-- A quiet station has nobody left but the timer. -/
theorem Quiet.armed {s : Station} (hq : Quiet s)
    (h : Retrying s.net s.worker.pc s.event s.timer s.start) : s.net.timer.isSome = true := by
  rcases h with (h | h | h | h) | h | h | h | h
  · exact absurd hq.link h
  · exact h
  · rw [hq.worker.2] at h
    cases h
  · rw [hq.event.2] at h
    cases h
  · exact absurd hq.worker.1 h
  · rw [hq.event.1] at h
    cases h
  · exact absurd hq.timer h
  · rw [hq.start] at h
    cases h

/-! ## 2. The steps that give a retry up -/

/-- The step of `app_main` that fails, by the answer of its call. -/
def StartPc.failing : StartPc → Bool → Bool
  | .configure ssid password, ok => !ok || (configureSta ssid password).isNone
  | .startRadio, ok | .connect, ok => !ok
  | .setConnecting, _ | .startHttp, _ | .up, _ | .failed, _ => false

/-- **A step that gives a retry up leaves somebody else**: the handler that returns on
    `WIFI_REASON_ASSOC_LEAVE`, the call of `esp_wifi_connect` that is refused, the start that
    fails. -/
def KeepsRetrying (s : Station) : StationAction → Prop
  | .event ok _ =>
    s.event = .testReason wifiReasonAssocLeave ∨ s.event = .schedule .connect ∧ ok = false →
      s.net.staConfigured = true → Retrying s.net s.worker.pc .idle s.timer s.start
  | .worker ok _ =>
    s.worker.pc = .schedule .connect ∧ ok = false →
      s.net.staConfigured = true → Retrying s.net .receive s.event s.timer s.start
  | .timer ok =>
    s.timer = .connect ∧ ok = false →
      s.net.staConfigured = true → Retrying s.net s.worker.pc s.event .idle s.start
  | .start ok =>
    s.start.failing ok = true →
      s.net.staConfigured = true → Retrying s.net s.worker.pc s.event s.timer .failed
  | .post _ | .overwrite | .status | .read _ | .fire | .apEvent _ | .gotIp _ | .lost _
  | .flush _ => True

instance (s : Station) : (a : StationAction) → Decidable (KeepsRetrying s a)
  | .event _ _ | .worker _ _ | .timer _ | .start _ => by
      unfold KeepsRetrying
      infer_instance
  | .post _ | .overwrite | .status | .read _ | .fire | .apEvent _ | .gotIp _ | .lost _
  | .flush _ => isTrue trivial

/-! ## 3. The event queue of an idle station -/

/-- A disconnection is queued behind every address. -/
def Closed : List WifiEvent → Prop
  | [] => True
  | e :: events =>
    (e.isDisconnection = false → e.neutral = false →
      events.any WifiEvent.isDisconnection = true) ∧ Closed events

theorem any_concat_disconnection (events : List WifiEvent) (reason : Nat) :
    (events ++ [WifiEvent.staDisconnected reason]).any WifiEvent.isDisconnection = true := by
  rw [List.any_append]
  exact Bool.or_true _

theorem closed_disconnection (events : List WifiEvent) (reason : Nat) :
    Closed (events ++ [.staDisconnected reason]) := by
  induction events with
  | nil => exact ⟨fun e => Bool.noConfusion e, trivial⟩
  | cons e events ih => exact ⟨fun _ _ => any_concat_disconnection events reason, ih⟩

theorem Closed.neutral {events : List WifiEvent} {e : WifiEvent} (h : Closed events)
    (he : e.neutral = true) : Closed (events ++ [e]) := by
  induction events with
  | nil => exact ⟨fun _ hn => absurd (he.symm.trans hn) Bool.noConfusion, trivial⟩
  | cons e' events ih =>
      refine ⟨fun hd hn => ?_, ih h.2⟩
      show (events ++ [e]).any WifiEvent.isDisconnection = true
      rw [List.any_append, h.1 hd hn]
      exact Bool.true_or _

/-- The handler is about to stop the timer for an address. -/
def EventPc.addressing : EventPc → Bool
  | .setIp _ _ | .setConnected _ | .stopTimer => true
  | .idle | .setLastReason _ | .setDisconnected _ | .testReason _ | .testReconfiguring
  | .testConfigured | .schedule _ | .resetRetryCount | .readRssi => false

/-- **An idle station has a disconnection behind every address**, the one being handled
    included. -/
def ClosedInv (n : Net) (event : EventPc) : Prop :=
  n.link = .idle → Closed n.events ∧
    (event.addressing = true → n.events.any WifiEvent.isDisconnection = true)

/-- The link goes idle only with a disconnection. -/
def LinkStep (n n' : Net) : Prop :=
  n'.events = n.events ∧ (n'.link = .idle → n.link = .idle) ∨
    ∃ reason, n'.events = n.events ++ [.staDisconnected reason]

theorem ClosedInv.link {n n' : Net} {event event' : EventPc} (I : ClosedInv n event)
    (h : LinkStep n n') (he : event'.addressing = true → event.addressing = true) :
    ClosedInv n' event' := by
  intro hidle
  rcases h with ⟨hev, hlink⟩ | ⟨reason, hev⟩
  · rw [hev]
    obtain ⟨hc, ha⟩ := I (hlink hidle)
    exact ⟨hc, fun h => ha (he h)⟩
  · rw [hev]
    exact ⟨closed_disconnection _ _, fun _ => any_concat_disconnection _ _⟩

theorem LinkStep.of_same {n n' : Net} (hl : n'.link = n.link) (he : n'.events = n.events) :
    LinkStep n n' := Or.inl ⟨he, fun h => hl.symm.trans h⟩

theorem Net.connect_link (n : Net) (ok : Bool) : LinkStep n (n.connect ok) := by
  unfold Net.connect
  by_cases hc : n.link = .idle ∧ ok = true
  · rw [if_pos hc]
    exact Or.inl ⟨rfl, fun _ => hc.1⟩
  · rw [if_neg hc]
    exact .of_same rfl rfl

theorem ScheduleStep.link {n n' : Net} {ok : Bool} {stage : RetryStage}
    {next : Option RetryStage} (h : ScheduleStep n ok stage n' next) : LinkStep n n' := by
  cases h with
  | connect => exact n.connect_link ok
  | start =>
      unfold Net.startTimer
      split
      · exact .of_same rfl rfl
      · exact .of_same rfl rfl
  | readCount | atOnce | later | setConnecting | stop => exact .of_same rfl rfl

theorem WorkerStep.link {n n' : Net} {w w' : Worker} {ok : Bool} {reason : Nat}
    (h : WorkerStep n w ok reason n' w') : LinkStep n n' := by
  cases h with
  | disconnect =>
      unfold Net.disconnect
      split
      · exact .of_same rfl rfl
      · exact Or.inr ⟨reason, rfl⟩
  | schedule _ hs | scheduled _ hs => exact hs.link
  | receive | firstDelay | setReconfiguring | stopTimer | secondDelay | refused | configured
  | setSsid | tryAgain | giveUp | save | saved | setConfigured | resetRetryCount | readConfigured
  | setState | setLastReason | setResult | setRequestId | clearCreds | clearReconfiguring
  | schedules | schedulesNot => exact .of_same rfl rfl

theorem TimerStep.link {n n' : Net} {ok : Bool} {pc pc' : TimerPc}
    (h : TimerStep n ok pc n' pc') : LinkStep n n' := by
  cases h with
  | connect => exact n.connect_link ok
  | reconfiguring | notReconfiguring | configured | notConfigured | setConnecting =>
      exact .of_same rfl rfl

theorem StartStep.link {n n' : Net} {ok : Bool} {pc pc' : StartPc}
    (h : StartStep n ok pc n' pc') : LinkStep n n' := by
  cases h with
  | connect => exact n.connect_link ok
  | configured | notConfigured | configureFailed | connects | connectsNot | startFailed
  | setConnecting => exact .of_same rfl rfl

theorem EventStep.closedInv {n n' : Net} {ok : Bool} {rssi : Option Int} {pc pc' : EventPc}
    (h : EventStep n ok rssi pc n' pc') (I : ClosedInv n pc) : ClosedInv n' pc' := by
  cases h with
  | @neutral e events hq he =>
      have ht : n.link = .idle → Closed events := by
        intro hl
        have hc := (I hl).1
        rw [hq] at hc
        exact hc.2
      cases e with
      | apStart ip => cases ip <;> exact fun hl => ⟨ht hl, fun e => Bool.noConfusion e⟩
      | apStaConnected | apStaDisconnected | staConnected =>
          exact fun hl => ⟨ht hl, fun e => Bool.noConfusion e⟩
      | staDisconnected | staGotIp => cases he
  | disconnected hq =>
      intro hl
      have hc := (I hl).1
      rw [hq] at hc
      exact ⟨hc.2, fun e => Bool.noConfusion e⟩
  | gotIp hq =>
      intro hl
      have hc := (I hl).1
      rw [hq] at hc
      exact ⟨hc.2, fun _ => hc.1 rfl rfl⟩
  | schedule hs | scheduled hs => exact I.link hs.link fun e => Bool.noConfusion e
  | setIp | setConnected => exact I.link (.of_same rfl rfl) fun _ => rfl
  | setLastReason | setDisconnected | assocLeave | otherReason | reconfiguring
  | notReconfiguring | configured | notConfigured | stopTimer | resetRetryCount | noRssi
  | readRssi => exact I.link (.of_same rfl rfl) fun e => Bool.noConfusion e

section Retry

variable {B : StationBoot}

theorem closedInv_reach {C : Station → StationAction → Prop} {s : Station}
    (h : Reach (station B) C s) : ClosedInv s.net s.event := by
  refine station_reach (I := fun s => ClosedInv s.net s.event) ?_ ?_ h
  · intro nvs pair _
    exact ⟨trivial, fun e => Bool.noConfusion e⟩
  · intro s a s' _ I _ hs
    cases hs with
    | worker hw => exact I.link hw.link id
    | event he => exact he.closedInv I
    | timer ht => exact I.link ht.link id
    | start hst => exact I.link hst.link id
    | apEvent he =>
        intro hl
        obtain ⟨hc, ha⟩ := I hl
        refine ⟨hc.neutral he, fun h => ?_⟩
        show (s.net.events ++ [_]).any WifiEvent.isDisconnection = true
        rw [List.any_append, ha h]
        exact Bool.true_or _
    | gotIp => exact fun hl => Link.noConfusion hl
    | lost => exact I.link (Or.inr ⟨_, rfl⟩) id
    | postRefused | post | overwrite | status | read | respond | fire | startHttp | flush =>
        exact I.link (.of_same rfl rfl) id

/-! ## 4. The invariant -/

/-- What a step leaves of the retries in the shared variables. -/
theorem Retrying.of_net {n n' : Net} {worker : WorkerPc} {event event' : EventPc}
    {timer : TimerPc} {start start' : StartPc} (h : Retrying n worker event timer start)
    (hn : NetRetrying n → NetRetrying n')
    (he : event.disconnecting = true → event'.disconnecting = true)
    (hs : start.starting = true → start'.starting = true) :
    Retrying n' worker event' timer start' := by
  rcases h with h | h | h | h | h
  · exact (hn h).retrying
  · exact .of_worker h
  · exact .of_event (he h)
  · exact .of_timer h
  · exact .of_start (hs h)

theorem NetRetrying.of_same {n n' : Net} (h : NetRetrying n) (hl : n'.link = n.link)
    (ht : n'.timer = n.timer) (hq : n'.queue = n.queue) (he : n'.events = n.events) :
    NetRetrying n' := by
  unfold NetRetrying
  rw [hl, ht, hq, he]
  exact h

/-- A call of `esp_wifi_connect` that is not refused leaves the radio busy. -/
theorem Net.connect_retrying (n : Net) : NetRetrying (n.connect true) := by
  unfold Net.connect
  by_cases hc : n.link = .idle ∧ true = true
  · rw [if_pos hc]
    exact .of_link Link.noConfusion
  · rw [if_neg hc]
    exact .of_link fun e => hc ⟨e, rfl⟩

theorem Net.connect_refused (n : Net) : n.connect false = n := by
  unfold Net.connect
  rw [if_neg fun h => Bool.noConfusion h.2]

/-- After a call somebody is at it, if somebody is when the call is refused. -/
theorem Net.connect_called {ok : Bool} {worker : WorkerPc} {event : EventPc} {timer : TimerPc}
    {start : StartPc} (n : Net) (h : ok = false → Retrying n worker event timer start) :
    Retrying (n.connect ok) worker event timer start := by
  cases ok with
  | true => exact n.connect_retrying.retrying
  | false =>
      rw [n.connect_refused]
      exact h rfl

/-- `sta_schedule_retry` returns with a retry under way, unless the radio refuses it. -/
theorem ScheduleStep.retrying {n n' : Net} {ok : Bool} {stage : RetryStage}
    (h : ScheduleStep n ok stage n' none) :
    NetRetrying n' ∨ stage = .connect ∧ ok = false ∧ n' = n := by
  cases h with
  | connect =>
      cases ok with
      | true => exact Or.inl n.connect_retrying
      | false => exact Or.inr ⟨rfl, rfl, n.connect_refused⟩
  | start =>
      refine Or.inl (.of_timer ?_)
      unfold Net.startTimer
      split
      · rfl
      · rename_i hd
        rw [hd]
        rfl

/-- The worker returns to its queue with a retry under way. -/
theorem WorkerStep.retrying {s : Station} {n' : Net} {w' : Worker} {ok : Bool} {reason : Nat}
    (h : WorkerStep s.net s.worker ok reason n' w') (hk : KeepsRetrying s (.worker ok reason))
    (hconf : n'.staConfigured = true) : Retrying n' w'.pc s.event s.timer s.start := by
  cases h with
  | schedulesNot _ hc =>
      rw [hc] at hconf
      cases hconf
  | @scheduled stage _ hpc hs =>
      rcases hs.retrying with hn | ⟨hstage, hok, hn⟩
      · exact hn.retrying
      · rw [hn] at hconf ⊢
        exact hk ⟨by rw [hpc, hstage], hok⟩ hconf
  | receive | firstDelay | setReconfiguring | stopTimer | disconnect | secondDelay | refused
  | configured | setSsid | tryAgain | giveUp | save | saved | setConfigured | resetRetryCount
  | readConfigured | setState | setLastReason | setResult | setRequestId | clearCreds
  | clearReconfiguring | schedules | schedule =>
      exact .of_worker WorkerPc.noConfusion

/-- The handler of an event returns with a retry under way, or had none to make. -/
theorem EventStep.retrying {n n' : Net} {pc pc' : EventPc} {ok : Bool} {rssi : Option Int}
    {worker : WorkerPc} {timer : TimerPc} {start : StartPc}
    (h : EventStep n ok rssi pc n' pc') (hclosed : ClosedInv n pc)
    (hflag : n.staReconfiguring = worker.reconfiguring)
    (I : Retrying n worker pc timer start)
    (hk : pc = .testReason wifiReasonAssocLeave ∨ pc = .schedule .connect ∧ ok = false →
      n.staConfigured = true → Retrying n worker .idle timer start)
    (hconf : n.staConfigured = true) : Retrying n' worker pc' timer start := by
  -- a popped event that is no disconnection leaves those behind it
  have htail : ∀ {e : WifiEvent} {events : List WifiEvent}, n.events = e :: events →
      e.isDisconnection = false → ∀ {m : Net}, m.link = n.link → m.timer = n.timer →
      m.queue = n.queue → m.events = events → NetRetrying n → NetRetrying m := by
    intro e events hq he m hl ht hqu hev hn
    unfold NetRetrying at hn ⊢
    rw [hq, List.any_cons, he, Bool.false_or] at hn
    rw [hl, ht, hqu, hev]
    exact hn
  have hsame : ∀ {m : Net} {pc' : EventPc}, m.link = n.link → m.timer = n.timer →
      m.queue = n.queue → m.events = n.events → pc.disconnecting = false →
      Retrying m worker pc' timer start := fun hl ht hqu hev hd =>
    I.of_net (fun hn => hn.of_same hl ht hqu hev) (fun e => by rw [hd] at e; cases e) id
  cases h with
  | @neutral e events hq he =>
      cases e with
      | apStart ip =>
          cases ip <;>
            exact I.of_net (htail hq rfl rfl rfl rfl rfl) (fun e => Bool.noConfusion e) id
      | apStaConnected | apStaDisconnected | staConnected =>
          exact I.of_net (htail hq rfl rfl rfl rfl rfl) (fun e => Bool.noConfusion e) id
      | staDisconnected | staGotIp => cases he
  | gotIp hq => exact I.of_net (htail hq rfl rfl rfl rfl rfl) (fun e => Bool.noConfusion e) id
  | disconnected | setLastReason | setDisconnected | otherReason | notReconfiguring | configured
  | schedule => exact .of_event rfl
  | assocLeave => exact hk (Or.inl rfl) hconf
  | reconfiguring hr =>
      refine .of_worker fun e => ?_
      rw [hflag, e] at hr
      cases hr
  | notConfigured hc =>
      rw [hc] at hconf
      cases hconf
  | scheduled hs =>
      rcases hs.retrying with hn | ⟨hstage, hok, hn⟩
      · exact hn.retrying
      · rw [hn]
        exact hk (Or.inr ⟨by rw [hstage], hok⟩) hconf
  | stopTimer =>
      -- the station is associated, or a disconnection is queued
      by_cases hl : n.link = .idle
      · exact NetRetrying.retrying (.of_events ((hclosed hl).2 rfl))
      · exact NetRetrying.retrying (.of_link hl)
  | setIp | setConnected | resetRetryCount | noRssi | readRssi =>
      exact hsame rfl rfl rfl rfl rfl

/-- The timer callback does too. -/
theorem TimerStep.retrying {n n' : Net} {pc pc' : TimerPc} {ok : Bool} {worker : WorkerPc}
    {event : EventPc} {start : StartPc} (h : TimerStep n ok pc n' pc')
    (hflag : n.staReconfiguring = worker.reconfiguring)
    (hk : pc = .connect ∧ ok = false → n.staConfigured = true →
      Retrying n worker event .idle start)
    (hconf : n.staConfigured = true) : Retrying n' worker event pc' start := by
  cases h with
  | reconfiguring hr =>
      refine .of_worker fun e => ?_
      rw [hflag, e] at hr
      cases hr
  | notConfigured hc =>
      rw [hc] at hconf
      cases hconf
  | connect => exact n.connect_called fun hok => hk ⟨rfl, hok⟩ hconf
  | notReconfiguring | configured | setConnecting =>
      exact .of_timer TimerPc.noConfusion

/-- And `app_main`. -/
theorem StartStep.retrying {n n' : Net} {pc pc' : StartPc} {ok : Bool} {worker : WorkerPc}
    {event : EventPc} {timer : TimerPc} (h : StartStep n ok pc n' pc')
    (hk : pc.failing ok = true → n.staConfigured = true → Retrying n worker event timer .failed)
    (hconf : n.staConfigured = true) : Retrying n' worker event timer pc' := by
  cases h with
  | @configureFailed ssid password _ hr =>
      refine hk ?_ hconf
      show (!ok || (configureSta ssid password).isNone) = true
      rcases hr with hr | hr
      · rw [hr]
        exact Bool.or_true _
      · rw [hr]
        exact Bool.true_or _
  | startFailed hok =>
      subst hok
      exact hk rfl hconf
  | connectsNot _ hc =>
      rw [hc] at hconf
      cases hconf
  | connect =>
      refine n.connect_called fun hok => ?_
      subst hok
      exact hk rfl hconf
  | configured | notConfigured | connects | setConnecting => exact .of_start rfl

/-- **Somebody always brings a configured station back.** -/
theorem retrying_reach {s : Station} (h : Reach (station B) KeepsRetrying s)
    (hconf : s.net.staConfigured = true) :
    Retrying s.net s.worker.pc s.event s.timer s.start := by
  refine station_reach (I := fun s => s.net.staConfigured = true →
    Retrying s.net s.worker.pc s.event s.timer s.start) ?_ ?_ h hconf
  · intro nvs pair _
    exact .of_start rfl
  · intro s a s' hr I hc hs hconf
    cases hs with
    | worker hw => exact hw.retrying hc hconf
    | event he =>
        have hconf' : s.net.staConfigured = true := he.keeps.staConfigured.symm.trans hconf
        exact he.retrying (closedInv_reach hr) (reconfiguring_reach hr) (I hconf') hc hconf'
    | timer ht =>
        exact ht.retrying (reconfiguring_reach hr) hc (ht.keeps.staConfigured.symm.trans hconf)
    | start hst =>
        exact hst.retrying hc (hst.keeps.staConfigured.symm.trans hconf)
    | startHttp hp =>
        refine (I hconf).of_net id id fun e => ?_
        rw [hp] at e
        cases e
    | overwrite => exact NetRetrying.retrying (.of_queue rfl)
    | fire => exact .of_timer TimerPc.noConfusion
    | gotIp => exact NetRetrying.retrying (.of_link Link.noConfusion)
    | lost => exact NetRetrying.retrying (.of_events (any_concat_disconnection _ _))
    | @apEvent e he =>
        refine (I hconf).of_net (fun hn => ?_) id id
        rcases hn with hn | hn | hn | hn
        · exact .of_link hn
        · exact .of_timer hn
        · exact .of_queue hn
        · refine .of_events ?_
          show (s.net.events ++ [e]).any WifiEvent.isDisconnection = true
          rw [List.any_append, hn]
          exact Bool.true_or _
    | postRefused | post | status | read | respond => exact I hconf
    | flush => exact (I hconf).of_net (fun hn => hn.of_same rfl rfl rfl rfl) id id

/-- **A quiet station without a connection has its retry timer armed**, in a run no step of which
    gives up the last retry. -/
theorem retry_armed {s : Station} (h : Reach (station B) KeepsRetrying s) (hq : Quiet s) :
    s.net.timer.isSome = true :=
  hq.armed (retrying_reach h hq.configured)

end Retry

/-! ## 5. Runs -/

/-- A boot with a stored network, up to the call of `esp_wifi_connect` and `start_http`. -/
def storedPair : CText × CText := ("home".toList, "12345678".toList)

def storedStart : List StationAction := List.replicate 5 (.start true)

/-- The connection is lost, and the handler is through with it. -/
def lostFor (reason : Nat) (steps : Nat) : List StationAction :=
  .lost reason :: List.replicate steps (.event true none)

/-- Four losses: three retries at once, then the timer. -/
def retriedRun : Station :=
  ((station benchStation).guard KeepsRetrying).runEnd
    (.initial ⟨⟨none, none⟩, ⟨none, none⟩⟩ storedPair)
    (storedStart ++ lostFor 201 10 ++ lostFor 201 10 ++ lostFor 201 10 ++ lostFor 201 10)

instance (s : Station) : Decidable (Quiet s) :=
  decidable_of_iff (s.net.staConfigured = true ∧ s.net.staReconfiguring = false ∧
      (s.worker.pc = .receive ∧ s.net.queue = none) ∧ (s.event = .idle ∧ s.net.events = []) ∧
      s.timer = .idle ∧ s.start.starting = false ∧ s.net.link = .idle)
    ⟨fun ⟨h1, h2, h3, h4, h5, h6, h7⟩ => ⟨h1, h2, h3, h4, h5, h6, h7⟩,
      fun ⟨h1, h2, h3, h4, h5, h6, h7⟩ => ⟨h1, h2, h3, h4, h5, h6, h7⟩⟩

set_option maxRecDepth 8000 in
theorem retry_armed_fourth :
    retriedRun.net.timer.isSome = true ∧ retriedRun.net.timer = some 5000 :=
  ⟨retry_armed (reach_guard (reach_runEnd (.start ⟨_, _, rfl⟩) (by decide))) (by decide),
    by decide⟩

/-- The access point disconnects the station with `WIFI_REASON_ASSOC_LEAVE`. -/
def leftRun : Station :=
  (station benchStation).runEnd (.initial ⟨⟨none, none⟩, ⟨none, none⟩⟩ storedPair)
    (storedStart ++ [.gotIp "10.0.0.2".toList] ++ List.replicate 6 (.event true none) ++
      lostFor wifiReasonAssocLeave 4)

set_option maxRecDepth 8000 in
/-- **A station the access point has left is not retried.** -/
theorem retry_armed_assoc_leave :
    Reach (station benchStation) Always leftRun ∧ Quiet leftRun ∧ leftRun.net.timer = none :=
  ⟨reach_runEnd (.start ⟨_, _, rfl⟩) (by decide), by decide, by decide⟩

end DragonBench
