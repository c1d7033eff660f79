/-
  File:      DragonBench/StateLock.lean
  Subject:   THE SECTIONS UNDER `state_lock`, STATEMENT BY STATEMENT: they behave as single steps.

  The device model takes a section of `state_lock` as one step. Here the sections are the statements
  of `main.c` and `db_run.c`, run in any interleaving by any number of threads that call them in any
  order. `state_lock` guards `current_run`, `run_counter` and the ring; `event_seq` and the clock are
  open, and no section reads them more than once.

  * `Guarded`, `OpenMemory` -- the two parts of the memory;
  * `LockCall`, `LockCall.effect` -- the sections, and what each does in one step, in the words of
    the device model;
  * `sectionOf`, `section_run` -- their statements, and that uninterrupted they do just that;
  * `Serial` -- sections one after another;
  * **`state_lock_serial`** -- every interleaving of the statements leaves the memory and gives the
    threads the answers of the sections in one order, which the clock agrees with;
  * `pastOf` -- the calls a thread has made, also one inside a section;
  * **`snapshots_one_order`** -- in every interleaving the insertions of all threads come in one
    order; all snapshots are windows of it, and those of one thread move forward in it.
-/
import DragonBench.Lib.Lock
import DragonBench.Responses
import DragonBench.Snapshots

namespace DragonBench

open Transition Lock

/-! ## 1. The memory and the sections -/

/-- What `state_lock` guards: `current_run`, `run_counter` and the ring. -/
structure Guarded where
  run : DbRun
  runCounter : Nat
  ring : RawRing
  fits : ring.count ≤ dbEventCapacity

/-- What every thread may change: `event_seq` and the value of `uptime_ms()`. -/
structure OpenMemory where
  eventSeq : Nat
  clock : Nat

/-- A C string. -/
structure CString where
  text : CText
  noNul : '\x00' ∉ text

/-- The sections under `state_lock`. -/
inductive LockCall where
  /-- `run = current_run` of `workload_task` -/
  | copyRun
  /-- `should_abort` -/
  | shouldAbort
  /-- `db_run_finish(&current_run, result, uptime_ms())` -/
  | finish (result : Option CText)
  /-- the first section of `runs_post` -/
  | beginRun (request : DbRunRequest)
  /-- `db_run_abort(&current_run, id)` -/
  | abort (id : CText)
  /-- the section of `status_get` -/
  | status
  /-- the section of `run_get` -/
  | get (id : CText)
  /-- the section of `emit_event` -/
  | insert (text : CString)
  /-- `snapshot_events_locked` -/
  | snapshot

/-- What a section leaves in the locals of its caller. -/
inductive LockReply where
  | run (run : DbRun)
  | flag (value : Bool)
  | done
  | begun (id : Option CText)
  | members (members : List (CText × Json))
  | texts (texts : List CText)

/-- The members `run_get` adds for the run it found. -/
def runFound (id : CText) (run : DbRun) : List (CText × Json) :=
  [("run_id".toList, .str id), ("workload".toList, .str (dbWorkloadName run.request.workload)),
    ("state".toList, .str (runStateName run.state)), ("result".toList, .str run.result)]

/-- An insertion keeps the fill count of the ring within its capacity. -/
theorem insertEventLocked_fits {ring : RawRing} (h : ring.count ≤ dbEventCapacity) (seq : Nat)
    (text : CText) : (insertEventLocked ring seq text).count ≤ dbEventCapacity := by
  show (if ring.count < dbEventCapacity then ring.count + 1 else ring.count) ≤ dbEventCapacity
  split <;> omega

/-- **What a section does in one step**, as the device model has it. -/
def LockCall.effect (nonce : Nat) (u : OpenMemory) (m : Guarded) : LockCall → Guarded × LockReply
  | .copyRun => (m, .run m.run)
  | .shouldAbort => (m, .flag m.run.abortRequested)
  | .finish result => ({ m with run := dbRunFinish m.run result u.clock }, .done)
  | .beginRun request =>
    if m.run.state = .running ∨ m.run.state = .aborting then (m, .begun none)
    else
      let runCounter := (m.runCounter + 1) % 2 ^ 32
      let id := runIdText nonce runCounter
      ({ m with run := dbRunBegin request id u.clock, runCounter := runCounter }, .begun (some id))
  | .abort id =>
    match dbRunAbort m.run id with
    | none => (m, .flag false)
    | some run => ({ m with run := run }, .flag true)
  | .status => (m, .members (runStatus m.run))
  | .get id => (m, .members (if id = m.run.runId then runFound id m.run else []))
  | .insert text =>
    ({ m with
        ring := insertEventLocked m.ring u.eventSeq text.text
        fits := insertEventLocked_fits m.fits _ _ }, .done)
  | .snapshot => (m, .texts (snapshotRawLocked m.ring))

/-! ## 2. The statements -/

/-- The locals of the sections. -/
structure Locals where
  call : LockCall
  /-- history: the earlier calls of the thread and their answers -/
  past : List (LockCall × LockReply)
  /-- `run` of `workload_task` -/
  run : DbRun
  /-- `value`, `ok`, `match`; in `runs_post` that the slot is free -/
  value : Bool
  /-- `id` of `runs_post` -/
  id : CText
  /-- the argument `now_ms` -/
  nowMs : Nat
  /-- the index of `slot` in `events` -/
  slot : Nat
  /-- `start` of `snapshot_events_locked` -/
  start : Nat
  /-- `snapshot->json`, its length is `snapshot->count` at the end -/
  json : List CText
  /-- the object of the response -/
  members : List (CText × Json)

/-- The locals in front of a section. -/
def Locals.fresh (call : LockCall) (past : List (LockCall × LockReply)) : Locals :=
  ⟨call, past, .initial, false, [], 0, 0, 0, [], []⟩

/-- What the caller goes on with. -/
def Locals.reply (l : Locals) : LockReply :=
  match l.call with
  | .copyRun => .run l.run
  | .shouldAbort | .abort _ => .flag l.value
  | .finish _ | .insert _ => .done
  | .beginRun _ => .begun (if l.value then some l.id else none)
  | .status | .get _ => .members l.members
  | .snapshot => .texts l.json

/-- A statement of a section under `state_lock`. -/
abbrev LockStmt := Stmt Guarded Locals

/-- A statement that changes locals. -/
def readTo (f : Guarded → Locals → Locals) : LockStmt := fun m => (m.1, f m.1 m.2)

/-- A statement that changes `current_run`. -/
def writeRun (f : Locals → DbRun → DbRun) : LockStmt :=
  fun m => ({ m.1 with run := f m.2 m.1.run }, m.2)

/-- A statement in the branch that the flag `value` guards. -/
def whenSet (s : LockStmt) : LockStmt := fun m => if m.2.value then s m else m

/-- `++run_counter`. -/
def countRun : LockStmt := fun m =>
  ({ m.1 with runCounter := (m.1.runCounter + 1) % 2 ^ 32 }, m.2)

/-- `cJSON_AddStringToObject(o, name, text)`. -/
def addMember (name : String) (text : Guarded → CText) : LockStmt :=
  readTo fun g l => { l with members := l.members ++ [(name.toList, .str (text g))] }

/-- `current_run` behind `memset(run, 0, sizeof(*run))`. -/
def DbRun.zero : DbRun := ⟨[], ⟨.boot, 0, 0, 0, []⟩, .idle, false, [], 0, 0⟩

/-- `events[l.slot]` is changed. -/
def writeSlot (f : RawEvent → RawEvent) : LockStmt := fun m =>
  let i := Fin.ofNat dbEventCapacity m.2.slot
  ({ m.1 with
      ring := { m.1.ring with slots := Function.update m.1.ring.slots i (f (m.1.ring.slots i)) } },
    m.2)

/-- `slot->seq = seq`. -/
def RawEvent.setSeq (slot : RawEvent) (seq : Nat) : RawEvent := { slot with seq := seq }

/-- `snprintf(slot->json, sizeof(slot->json), "%s", text)`. -/
def RawEvent.setJson (slot : RawEvent) (text : CText) : RawEvent := slot.write slot.seq text

/-- `event_head = (event_head + 1U) % DB_EVENT_CAPACITY`. -/
def advanceHead : LockStmt := fun m =>
  ({ m.1 with ring := { m.1.ring with head := (m.1.ring.head + 1) % dbEventCapacity } }, m.2)

/-- `if (event_count < DB_EVENT_CAPACITY) ++event_count`. -/
def countUp : LockStmt := fun m =>
  ({ m.1 with
      ring := { m.1.ring with
        count := if m.1.ring.count < dbEventCapacity then m.1.ring.count + 1 else m.1.ring.count }
      fits := by
        show (if m.1.ring.count < dbEventCapacity then _ else _) ≤ dbEventCapacity
        have h := m.1.fits
        split <;> omega }, m.2)

/-- The body of the loop of `snapshot_events_locked` at `i`, behind its condition. -/
def copyEvent (i : Nat) : LockStmt := readTo fun g l =>
  if i < g.ring.count then
    { l with json := l.json ++ [(g.ring.slots (Fin.ofNat dbEventCapacity (l.start + i))).text] }
  else l

/-- `if (test) { before; pivot; after }`: the statements of the branch look at the flag `value` that
    the test sets. -/
def branchSection (test : LockStmt) (before : List LockStmt) (pivot : OpenMemory → LockStmt)
    (after : List LockStmt) : Section Guarded OpenMemory Locals where
  before := test :: before.map whenSet
  pivot u := whenSet (pivot u)
  after := after.map whenSet

/-- **The statements of a section.** A section that reads nothing open has its first statement as
    the pivot. -/
def sectionOf (nonce : Nat) : LockCall → Section Guarded OpenMemory Locals
  | .copyRun =>
    { before := []
      pivot := fun _ => readTo fun g l => { l with run := { l.run with runId := g.run.runId } }
      after :=
        [readTo fun g l => { l with run := { l.run with request := g.run.request } },
          readTo fun g l => { l with run := { l.run with state := g.run.state } },
          readTo fun g l => { l with run := { l.run with abortRequested := g.run.abortRequested } },
          readTo fun g l => { l with run := { l.run with result := g.run.result } },
          readTo fun g l => { l with run := { l.run with startedMs := g.run.startedMs } },
          readTo fun g l => { l with run := { l.run with endedMs := g.run.endedMs } }] }
  | .shouldAbort =>
    { before := []
      pivot := fun _ => readTo fun g l => { l with value := g.run.abortRequested }
      after := [] }
  | .finish result =>
    { before := []
      pivot := fun u => readTo fun _ l => { l with nowMs := u.clock }
      after :=
        [writeRun fun _ r => { r with state := .complete },
          writeRun fun l r => { r with endedMs := l.nowMs },
          writeRun fun _ r =>
            { r with result := CText.snprintf dbResultLen (result.getD "fail".toList) }] }
  | .beginRun request =>
    branchSection
      (readTo fun g l =>
        { l with value := !decide (g.run.state = .running ∨ g.run.state = .aborting) })
      [countRun, readTo fun g l => { l with id := runIdText nonce g.runCounter }]
      (fun u => readTo fun _ l => { l with nowMs := u.clock })
      [writeRun fun _ _ => .zero,
        writeRun fun _ r => { r with request := request },
        writeRun fun l r => { r with runId := CText.snprintf dbRunIdLen l.id },
        writeRun fun _ r => { r with state := .running },
        writeRun fun l r => { r with startedMs := l.nowMs },
        writeRun fun _ r => { r with result := CText.snprintf dbResultLen "running".toList }]
  | .abort id =>
    branchSection
      (readTo fun g l => { l with value := !decide (g.run.state ≠ .running ∨ g.run.runId ≠ id) })
      []
      (fun _ => writeRun fun _ r => { r with abortRequested := true })
      [writeRun fun _ r => { r with state := .aborting }]
  | .status =>
    { before := []
      pivot := fun _ => addMember "run_id" fun g => g.run.runId
      after :=
        [addMember "last_run_id" fun g => g.run.runId,
          addMember "run_state" fun g => runStateName g.run.state,
          addMember "workload" fun g => dbWorkloadName g.run.request.workload,
          addMember "result" fun g => g.run.result] }
  | .get id =>
    branchSection (readTo fun g l => { l with value := decide (id = g.run.runId) })
      []
      (fun _ => addMember "run_id" fun _ => id)
      [addMember "workload" fun g => dbWorkloadName g.run.request.workload,
        addMember "state" fun g => runStateName g.run.state,
        addMember "result" fun g => g.run.result]
  | .insert text =>
    { before := [readTo fun g l => { l with slot := g.ring.head }]
      pivot := fun u => writeSlot fun slot => slot.setSeq u.eventSeq
      after := [writeSlot fun slot => slot.setJson text.text, advanceHead, countUp] }
  | .snapshot =>
    { before := []
      pivot := fun _ => readTo fun g l => { l with start := g.ring.start }
      after := (List.range dbEventCapacity).map copyEvent }

/-- A thread in front of or behind its sections. -/
structure Caller where
  /-- the section it waits for -/
  pending : Option LockCall
  /-- history: its calls and their answers -/
  past : List (LockCall × LockReply)

/-- What happens outside the sections. -/
inductive OutsideStep where
  /-- the thread comes to a section -/
  | call (c : LockCall)
  /-- `++event_seq` -/
  | number
  /-- a millisecond passes -/
  | time

/-- **The threads**: each calls any section at any time. -/
def lockClient (nonce : Nat) : Client Guarded OpenMemory Locals Caller OutsideStep where
  outside
    | .call c, u, o => if o.pending.isNone then some (u, { o with pending := some c }) else none
    | .number, u, o => some ({ u with eventSeq := (u.eventSeq + 1) % 2 ^ 64 }, o)
    | .time, u, o => some ({ u with clock := u.clock + 1 }, o)
  asks o := o.pending.map fun c => (sectionOf nonce c, .fresh c o.past)
  back l := ⟨none, l.past ++ [(l.call, l.reply)]⟩

/-- The memory at the start, and no thread has called anything. -/
def lockStart (ι : Type) (g : Guarded) (u : OpenMemory) : Atomic ι Guarded OpenMemory Caller :=
  ⟨g, u, fun _ => ⟨none, []⟩⟩

/-! ## 3. A section uninterrupted -/

/-- The loop of `snapshot_events_locked` up to `n`. -/
theorem runAll_copyEvent (g : Guarded) (l : Locals) (n : Nat) :
    runAll ((List.range n).map copyEvent) (g, l) =
      (g, { l with json := l.json ++ (List.range (min n g.ring.count)).map fun i =>
        (g.ring.slots (Fin.ofNat dbEventCapacity (l.start + i))).text }) := by
  induction n with
  | zero =>
      rw [Nat.zero_min]
      simp only [runAll, List.range_zero, List.map_nil, List.foldl_nil, List.append_nil]
  | succ n ih =>
      rw [runAll, List.range_succ, List.map_append, List.foldl_append]
      rw [runAll] at ih
      rw [ih]
      simp only [List.map_cons, List.map_nil, List.foldl_cons, List.foldl_nil, copyEvent, readTo]
      by_cases hn : n < g.ring.count
      · rw [if_pos hn, Nat.min_eq_left (by omega), Nat.min_eq_left (by omega), List.range_succ,
          List.map_append, List.append_assoc]
        rfl
      · rw [if_neg hn, Nat.min_eq_right (by omega), Nat.min_eq_right (by omega)]

/-- A branch not taken. -/
theorem runAll_whenSet_of_not {l : List LockStmt} {m : Guarded × Locals} (h : m.2.value = false) :
    runAll (l.map whenSet) m = m := by
  induction l with
  | nil => rfl
  | cons s l ih =>
      have hs : whenSet s m = m := by
        rw [whenSet, if_neg (ne_true_of_eq_false h)]
      show runAll (l.map whenSet) (whenSet s m) = m
      rw [hs]
      exact ih

/-- The statement leaves the flag of the branch alone. -/
def KeepsFlag (s : LockStmt) : Prop := ∀ m, (s m).2.value = m.2.value

theorem runAll_keeps {l : List LockStmt} (hl : ∀ s ∈ l, KeepsFlag s) (m : Guarded × Locals) :
    (runAll l m).2.value = m.2.value := by
  induction l generalizing m with
  | nil => rfl
  | cons s l ih =>
      obtain ⟨hs, hl⟩ := List.forall_mem_cons.mp hl
      exact (ih hl (s m)).trans (hs m)

/-- A branch taken, whose statements leave its flag alone. -/
theorem runAll_whenSet_of {l : List LockStmt} (hl : ∀ s ∈ l, KeepsFlag s)
    {m : Guarded × Locals} (h : m.2.value = true) : runAll (l.map whenSet) m = runAll l m := by
  induction l generalizing m with
  | nil => rfl
  | cons s l ih =>
      obtain ⟨hs, hl⟩ := List.forall_mem_cons.mp hl
      have he : whenSet s m = s m := by
        rw [whenSet, if_pos h]
      show runAll (l.map whenSet) (whenSet s m) = runAll l (s m)
      rw [he]
      exact ih hl ((hs m).trans h)

/-- **What a section with a branch does.** -/
theorem branchSection_run {test : LockStmt} {before after : List LockStmt}
    {pivot : OpenMemory → LockStmt} (u : OpenMemory) (hb : ∀ s ∈ before, KeepsFlag s)
    (hp : KeepsFlag (pivot u)) (ha : ∀ s ∈ after, KeepsFlag s) (m : Guarded × Locals) :
    (branchSection test before pivot after).run u m =
      if (test m).2.value then runAll after (pivot u (runAll before (test m))) else test m := by
  show runAll (after.map whenSet) (whenSet (pivot u) (runAll (before.map whenSet) (test m))) = _
  cases hv : (test m).2.value with
  | false =>
      rw [runAll_whenSet_of_not hv, whenSet, if_neg (ne_true_of_eq_false hv),
        runAll_whenSet_of_not hv]
      rfl
  | true =>
      have hv1 : (runAll before (test m)).2.value = true := (runAll_keeps hb _).trans hv
      rw [runAll_whenSet_of hb hv, whenSet, if_pos hv1, runAll_whenSet_of ha ((hp _).trans hv1)]
      rfl

/-- What the two writes to a slot leave in it. -/
theorem update_slot {ring : RawRing} (i : Fin dbEventCapacity) (seq : Nat) (text : CText) :
    Function.update (Function.update ring.slots i ((ring.slots i).setSeq seq)) i
        (RawEvent.setJson (Function.update ring.slots i ((ring.slots i).setSeq seq) i) text) =
      Function.update ring.slots i ((ring.slots i).write seq text) := by
  rw [Function.update_self, Function.update_idem]
  rfl

/-- **A section that nothing comes in between** does what its one step does. -/
theorem section_run (nonce : Nat) (c : LockCall) (u : OpenMemory) (g : Guarded)
    (past : List (LockCall × LockReply)) :
    ((sectionOf nonce c).run u (g, .fresh c past)).1 = (c.effect nonce u g).1 ∧
      (lockClient nonce).back ((sectionOf nonce c).run u (g, .fresh c past)).2 =
        ⟨none, past ++ [(c, (c.effect nonce u g).2)]⟩ := by
  cases c with
  | copyRun | shouldAbort | finish result =>
      simp only [Section.run, sectionOf, runAll, List.foldl_cons, List.foldl_nil, readTo, writeRun,
        LockCall.effect, lockClient, Locals.fresh, Locals.reply, dbRunFinish, and_self]
  | beginRun request =>
      rw [sectionOf, branchSection_run u (by simp [KeepsFlag, countRun, readTo])
        (by simp [KeepsFlag, readTo]) (by simp [KeepsFlag, writeRun])]
      by_cases h : g.run.state = .running ∨ g.run.state = .aborting
      · simp only [readTo, Locals.fresh, decide_eq_true h, Bool.not_true, LockCall.effect, if_pos h,
          lockClient, Locals.reply, Bool.false_eq_true, if_false, and_self]
      · simp only [readTo, Locals.fresh, decide_eq_false h, Bool.not_false, if_true,
          LockCall.effect, if_neg h, runAll, List.foldl_cons, List.foldl_nil, writeRun, countRun,
          dbRunBegin, DbRun.zero, lockClient, Locals.reply, true_and]
  | abort id =>
      rw [sectionOf, branchSection_run u (by simp) (by simp [KeepsFlag, writeRun])
        (by simp [KeepsFlag, writeRun])]
      by_cases h : g.run.state ≠ .running ∨ g.run.runId ≠ id
      · simp only [readTo, Locals.fresh, decide_eq_true h, Bool.not_true, LockCall.effect,
          dbRunAbort, if_pos h, lockClient, Locals.reply, Bool.false_eq_true, if_false, and_self]
      · simp only [readTo, Locals.fresh, decide_eq_false h, Bool.not_false, if_true,
          LockCall.effect, dbRunAbort, if_neg h, runAll, List.foldl_cons, List.foldl_nil, writeRun,
          lockClient, Locals.reply, true_and]
  | status =>
      simp only [Section.run, sectionOf, runAll, List.foldl_cons, List.foldl_nil, readTo, addMember,
        LockCall.effect, lockClient, Locals.fresh, Locals.reply, runStatus, List.nil_append,
        List.cons_append, and_self]
  | get id =>
      rw [sectionOf, branchSection_run u (by simp) (by simp [KeepsFlag, addMember, readTo])
        (by simp [KeepsFlag, addMember, readTo])]
      by_cases h : id = g.run.runId
      · simp only [readTo, Locals.fresh, decide_eq_true h, if_true, LockCall.effect, if_pos h, runAll,
          List.foldl_cons, List.foldl_nil, addMember, lockClient, Locals.reply, runFound,
          List.nil_append, List.cons_append, and_self]
      · simp only [readTo, Locals.fresh, decide_eq_false h, LockCall.effect, if_neg h, lockClient,
          Locals.reply, Bool.false_eq_true, if_false, and_self]
  | insert text =>
      refine ⟨?_, rfl⟩
      simp only [Section.run, sectionOf, runAll, List.foldl_cons, List.foldl_nil, readTo, writeSlot,
        advanceHead, countUp, LockCall.effect, insertEventLocked, RingBuffer.push, update_slot]
  | snapshot =>
      have hrun : (sectionOf nonce .snapshot).run u (g, .fresh .snapshot past) = _ :=
        runAll_copyEvent g { Locals.fresh .snapshot past with start := g.ring.start } dbEventCapacity
      rw [hrun, Nat.min_eq_right g.fits]
      refine ⟨rfl, ?_⟩
      simp only [lockClient, Locals.fresh, Locals.reply, List.nil_append, LockCall.effect,
        snapshotRawLocked, RingBuffer.toList, List.map_map]
      rfl

/-! ## 4. Sections one after another -/

/-- A section that was run: by whom, what it saw of the open memory, and its answer. -/
structure Served (ι : Type) where
  who : ι
  call : LockCall
  seen : OpenMemory
  reply : LockReply

/-- **Sections one after another** from the memory `g0`. -/
inductive Serial (nonce : Nat) (g0 : Guarded) {ι : Type} : List (Served ι) → Guarded → Prop where
  | start : Serial nonce g0 [] g0
  | serve {log : List (Served ι)} {g : Guarded} (h : Serial nonce g0 log g) (who : ι)
      (c : LockCall) (u : OpenMemory) :
      Serial nonce g0 (log ++ [⟨who, c, u, (c.effect nonce u g).2⟩]) (c.effect nonce u g).1

variable {ι : Type} [DecidableEq ι]

/-- The calls of one thread and their answers. -/
def answersOf (log : List (Served ι)) (i : ι) : List (LockCall × LockReply) :=
  (log.filter fun e => decide (e.who = i)).map fun e => (e.call, e.reply)

/-- The times of a log do not fall. -/
def InOrder (log : List (Served ι)) : Prop := log.Pairwise fun a b => a.seen.clock ≤ b.seen.clock

/-- **A log explains a state**: one after another, its sections leave the memory the next owner of
    the lock finds and have given every thread outside its answers. -/
structure Explains (nonce : Nat) (g0 : Guarded) (log : List (Served ι))
    (m : Machine ι Guarded OpenMemory Locals Caller) : Prop where
  serial : ∃ g, Serial nonce g0 log g ∧ (m.owner = none → m.guarded = g)
  answers : ∀ i o, m.thread i = .out o → o.past = answersOf log i
  inOrder : InOrder log

/-- The log of a state of the atomic machine. -/
structure LogInv (nonce : Nat) (g0 : Guarded) (log : List (Served ι))
    (a : Atomic ι Guarded OpenMemory Caller) : Prop where
  serial : Serial nonce g0 log a.guarded
  answers : ∀ i, (a.thread i).past = answersOf log i
  inOrder : InOrder log
  late : ∀ e ∈ log, e.seen.clock ≤ a.open_.clock

section Proofs

variable {nonce : Nat} {g0 : Guarded} {u0 : OpenMemory} {log : List (Served ι)}
  {a a' : Atomic ι Guarded OpenMemory Caller} {m m' : Machine ι Guarded OpenMemory Locals Caller}

/-- The answers behind one more section. -/
theorem answersOf_concat (log : List (Served ι)) (e : Served ι) (i : ι) :
    answersOf (log ++ [e]) i = answersOf log i ++ if e.who = i then [(e.call, e.reply)] else [] := by
  unfold answersOf
  rw [List.filter_append, List.map_append, List.filter_singleton]
  by_cases h : e.who = i
  · rw [if_pos h, decide_eq_true h]
    rfl
  · rw [if_neg h, decide_eq_false h]
    rfl

/-- A step outside changes neither the memory under the lock nor an answer, and the clock does not
    fall. -/
theorem outside_past {s : OutsideStep} {u u' : OpenMemory} {o o' : Caller}
    (h : (lockClient nonce).outside s u o = some (u', o')) :
    o'.past = o.past ∧ u.clock ≤ u'.clock := by
  cases s with
  | call c =>
      obtain ⟨-, h⟩ := Option.ite_none_right_eq_some.mp h
      cases h
      exact ⟨rfl, le_rfl⟩
  | number =>
      cases h
      exact ⟨rfl, le_rfl⟩
  | time =>
      cases h
      exact ⟨rfl, Nat.le_succ _⟩

/-- **One step of the atomic machine** lengthens the log by at most one section. -/
theorem logInv_step (I : LogInv nonce g0 log a) {b : AtomicLabel ι OutsideStep}
    (h : atomicStep (lockClient nonce) a b = some a') : ∃ more, LogInv nonce g0 (log ++ more) a' := by
  cases b with
  | outside i s =>
      simp only [atomicStep, Option.map_eq_some_iff] at h
      obtain ⟨⟨u, o⟩, hs, rfl⟩ := h
      obtain ⟨hpast, hclock⟩ := outside_past hs
      refine ⟨[], ?_⟩
      rw [List.append_nil]
      refine ⟨I.serial, fun j => ?_, I.inOrder, fun e he => (I.late e he).trans hclock⟩
      show (Function.update a.thread i o j).past = _
      by_cases hj : j = i
      · subst hj
        rw [Function.update_self, hpast]
        exact I.answers j
      · rw [Function.update_of_ne hj]
        exact I.answers j
  | section_ i =>
      simp only [atomicStep, lockClient, Option.map_map, Option.map_eq_some_iff] at h
      obtain ⟨c, -, rfl⟩ := h
      obtain ⟨hmem, hback⟩ := section_run nonce c a.open_ a.guarded (a.thread i).past
      refine ⟨[⟨i, c, a.open_, (c.effect nonce a.open_ a.guarded).2⟩], ?_, fun j => ?_, ?_, ?_⟩
      · show Serial nonce g0 _ ((sectionOf nonce c).run a.open_ (a.guarded, _)).1
        rw [hmem]
        exact I.serial.serve i c a.open_
      · show (Function.update a.thread i ((lockClient nonce).back _) j).past = _
        rw [answersOf_concat, ← I.answers j]
        by_cases hj : j = i
        · subst hj
          rw [Function.update_self, if_pos rfl]
          exact congrArg Caller.past hback
        · rw [Function.update_of_ne hj, if_neg (Ne.symm hj), List.append_nil]
      · exact List.pairwise_append.mpr ⟨I.inOrder, List.pairwise_singleton _ _, fun e he e' he' => by
          rw [List.mem_singleton.mp he']
          exact I.late e he⟩
      · intro e he
        rcases List.mem_append.mp he with he | he
        · exact I.late e he
        · rw [List.mem_singleton.mp he]
          exact le_rfl

/-- A run of the atomic machine lengthens the log. -/
theorem logInv_exec {start : Atomic ι Guarded OpenMemory Caller}
    {bs : List (AtomicLabel ι OutsideStep)} (I : LogInv nonce g0 log a)
    (hx : (atomicMachine (lockClient nonce) start).exec a bs = some a') :
    ∃ more, LogInv nonce g0 (log ++ more) a' := by
  induction bs generalizing a log with
  | nil =>
      cases hx
      exact ⟨[], by rwa [List.append_nil]⟩
  | cons b bs ih =>
      obtain ⟨t, ht, hx⟩ := Option.bind_eq_some_iff.mp hx
      obtain ⟨l1, I1⟩ := logInv_step I ht
      obtain ⟨l2, I2⟩ := ih I1 hx
      exact ⟨l1 ++ l2, by rwa [← List.append_assoc]⟩

/-- Every state of the atomic machine has a log. -/
theorem logInv_reach (h : Reach (atomicMachine (lockClient nonce) (lockStart ι g0 u0)) Always a) :
    ∃ log, LogInv nonce g0 log a := by
  refine h.inv (I := fun a => ∃ log, LogInv nonce g0 log a) ?_ ?_
  · rintro s rfl
    exact ⟨[], .start, fun i => rfl, List.Pairwise.nil, nofun⟩
  · rintro s b s' - ⟨log, I⟩ - hs
    obtain ⟨more, I'⟩ := logInv_step I hs
    exact ⟨_, I'⟩

/-- The log of the atomic state explains the state. -/
theorem LogInv.explains (I : LogInv nonce g0 log (m.abs (lockClient nonce))) :
    Explains nonce g0 log m where
  serial := ⟨_, I.serial, fun ho => (abs_guarded_none ho).symm⟩
  answers i o ho := by
    rw [← I.answers i]
    show o.past = ((m.thread i).abs (lockClient nonce) m).past
    rw [ho]
    rfl
  inOrder := I.inOrder

end Proofs

/-- **THE SECTIONS UNDER `state_lock` ARE SERIAL**: any number of threads call them in any order,
    their statements come in any interleaving; what they leave and answer is what the sections do
    one after another, in an order that later steps only lengthen. -/
theorem state_lock_serial {nonce : Nat} {g0 : Guarded} {u0 : OpenMemory}
    {m m' : Machine ι Guarded OpenMemory Locals Caller} {as : List (Label ι OutsideStep)}
    (h : Reach (machine (lockClient nonce) (lockStart ι g0 u0)) Always m)
    (hx : (machine (lockClient nonce) (lockStart ι g0 u0)).exec m as = some m') :
    ∃ log more, Explains nonce g0 log m ∧ Explains nonce g0 (log ++ more) m' := by
  obtain ⟨log, I⟩ := logInv_reach ((lockRefinement _ _).reach h)
  obtain ⟨more, I'⟩ := logInv_exec I (lock_refines h hx)
  exact ⟨log, more, I.explains, I'.explains⟩

/-- The machine at the start. -/
def lockMachine (ι : Type) (g : Guarded) (u : OpenMemory) :
    Machine ι Guarded OpenMemory Locals Caller :=
  ⟨g, u, fun _ => .out ⟨none, []⟩, none, (g, ⟨none, []⟩)⟩

theorem lockMachine_reach (nonce : Nat) (g : Guarded) (u : OpenMemory) :
    Reach (machine (lockClient nonce) (lockStart ι g u)) Always (lockMachine ι g u) :=
  .start ⟨rfl, rfl, rfl, rfl⟩

/-- The memory of `app_main` in front of its first event. -/
def Guarded.boot : Guarded := ⟨.initial, 0, .empty .zero, Nat.zero_le _⟩

/-- One thread stands in the middle of an insertion, another one waits for a snapshot. -/
def halfInserted : List (Label Bool OutsideStep) :=
  [.outside false .number, .outside false (.call (.insert ⟨"boot".toList, by decide⟩)),
    .outside true (.call .snapshot), .take false, .statement false, .outside true .time,
    .statement false]

/-- The insertion ends and the snapshot is taken. -/
def thenSnapshot : List (Label Bool OutsideStep) :=
  [.statement false, .statement false, .statement false, .give false, .take true] ++
    List.replicate (dbEventCapacity + 1) (.statement true) ++ [.give true]

/-- The machine with two threads. -/
abbrev twoThreads : System (Machine Bool Guarded OpenMemory Locals Caller) (Label Bool OutsideStep) :=
  machine (lockClient 0) (lockStart Bool .boot ⟨0, 0⟩)

theorem thenSnapshot_runs :
    (twoThreads.exec (lockMachine Bool .boot ⟨0, 0⟩) (halfInserted ++ thenSnapshot)).isSome = true := by
  decide +kernel

/-- From the start to the end of the snapshot. -/
theorem state_lock_serial_two :
    ∃ log more, Explains 0 .boot log (lockMachine Bool .boot ⟨0, 0⟩) ∧
      Explains 0 .boot (log ++ more)
        ((twoThreads.exec (lockMachine Bool .boot ⟨0, 0⟩) (halfInserted ++ thenSnapshot)).get
          thenSnapshot_runs) :=
  state_lock_serial (lockMachine_reach 0 .boot ⟨0, 0⟩) (Option.some_get thenSnapshot_runs).symm

/-! ## 5. Snapshots -/

/-- What a section puts into the ring. -/
def LockCall.inserted : LockCall → Option CText
  | .insert text => some (CText.snprintf dbEventJsonLen text.text)
  | .copyRun | .shouldAbort | .finish _ | .beginRun _ | .abort _ | .status | .get _ | .snapshot =>
    none

/-- The texts a list of calls puts into the ring. -/
def insertedTexts (l : List (LockCall × LockReply)) : List CText :=
  l.filterMap fun e => e.1.inserted

/-- The snapshots a list of calls has got. -/
def snapshotsOf (l : List (LockCall × LockReply)) : List (List CText) :=
  l.filterMap fun e =>
    match e.2 with
    | .texts texts => some texts
    | .run _ | .flag _ | .done | .begun _ | .members _ => none

/-- The last texts of the first `k` that the ring holds. -/
def window (texts : List CText) (k : Nat) : List CText := (texts.take k).drop (k - dbEventCapacity)

/-- The snapshot a section takes of a ring that holds the texts. -/
def LockCall.shown (xs : List CText) : LockCall → List (List CText)
  | .snapshot => [window xs xs.length]
  | .copyRun | .shouldAbort | .finish _ | .beginRun _ | .abort _ | .status | .get _ | .insert _ => []

section Proofs

variable {nonce : Nat} {u0 : OpenMemory} {log : List (Served ι)} {g : Guarded}

/-- The calls of a log. -/
def callsOf (log : List (Served ι)) : List (LockCall × LockReply) :=
  log.map fun e => (e.call, e.reply)

/-- A text of the ring as it reads back. -/
theorem RawEvent.text_write_cut (slot : RawEvent) (seq : Nat) (text : CString) :
    (slot.write seq text.text).text = CText.snprintf dbEventJsonLen text.text := by
  have h0 : '\x00' ∉ CText.snprintf dbEventJsonLen text.text :=
    fun h => text.noNul (List.take_subset _ _ h)
  unfold RawEvent.text
  rw [RawEvent.json_write]
  exact CText.scan_overwrite _ (Nat.le_sub_one_of_lt (snprintf_slot_length _)) h0

/-- **One section on the ring**: it holds the inserted texts, and a snapshot is their last ones. -/
theorem effect_ring {xs : List CText} (h : (g.ring.map RawEvent.text).Holds xs) (c : LockCall)
    (u : OpenMemory) :
    ((c.effect nonce u g).1.ring.map RawEvent.text).Holds (xs ++ c.inserted.toList) ∧
      snapshotsOf [(c, (c.effect nonce u g).2)] = c.shown xs := by
  cases c with
  | insert text =>
      refine ⟨?_, rfl⟩
      show ((insertEventLocked g.ring u.eventSeq text.text).map RawEvent.text).Holds _
      rw [insertEventLocked, RingBuffer.map_push, RawEvent.text_write_cut]
      exact RingBuffer.holds_push h _
  | snapshot =>
      refine ⟨by rwa [LockCall.inserted, Option.toList_none, List.append_nil], ?_⟩
      have hsnap : snapshotRawLocked g.ring = window xs xs.length := by
        rw [snapshotRawLocked, ← RingBuffer.map_toList, window, List.take_length]
        exact h.toList
      rw [LockCall.shown, ← hsnap]
      rfl
  | beginRun request =>
      rw [LockCall.inserted, Option.toList_none, List.append_nil]
      simp only [LockCall.effect]
      split
      · exact ⟨h, rfl⟩
      · exact ⟨h, rfl⟩
  | abort id =>
      rw [LockCall.inserted, Option.toList_none, List.append_nil]
      simp only [LockCall.effect]
      cases dbRunAbort g.run id with
      | none => exact ⟨h, rfl⟩
      | some run => exact ⟨h, rfl⟩
  | copyRun | shouldAbort | finish | status | get =>
      rw [LockCall.inserted, Option.toList_none, List.append_nil]
      exact ⟨h, rfl⟩

/-- A window of the first texts stays one when texts are added. -/
theorem window_append {xs ys : List CText} {k : Nat} (hk : k ≤ xs.length) :
    window (xs ++ ys) k = window xs k := by
  rw [window, List.take_append_of_le_length hk, window]

/-- **The snapshots of a log**: the ring holds the inserted texts, and every thread has got windows
    of them that move forward. -/
theorem serial_ring (h : Serial nonce .boot log g) :
    (g.ring.map RawEvent.text).Holds (insertedTexts (callsOf log)) ∧
      ∀ i, ∃ ks : List Nat, ks.Pairwise (· ≤ ·) ∧
        (∀ k ∈ ks, k ≤ (insertedTexts (callsOf log)).length) ∧
        snapshotsOf (answersOf log i) = ks.map (window (insertedTexts (callsOf log))) := by
  induction h with
  | start =>
      exact ⟨RingBuffer.holds_empty _, fun i => ⟨[], List.Pairwise.nil, nofun, rfl⟩⟩
  | @serve log g h who c u ih =>
      obtain ⟨hring, hks⟩ := ih
      obtain ⟨hring', hsnap⟩ := @effect_ring nonce _ _ hring c u
      -- the texts so far, with that of the section
      have htexts : insertedTexts (callsOf (log ++ [⟨who, c, u, (c.effect nonce u g).2⟩])) =
          insertedTexts (callsOf log) ++ c.inserted.toList := by
        rw [callsOf, List.map_append, insertedTexts, List.filterMap_append]
        refine congrArg _ ?_
        show List.filterMap _ [(c, (c.effect nonce u g).2)] = _
        rw [List.filterMap_cons]
        cases c.inserted <;> rfl
      rw [htexts]
      refine ⟨hring', fun i => ?_⟩
      obtain ⟨ks, hsort, hle, hs⟩ := hks i
      have hgrow : ks.map (window (insertedTexts (callsOf log))) =
          ks.map (window (insertedTexts (callsOf log) ++ c.inserted.toList)) :=
        List.map_congr_left fun k hk => (window_append (hle k hk)).symm
      have hle' : ∀ k ∈ ks, k ≤ (insertedTexts (callsOf log) ++ c.inserted.toList).length :=
        fun k hk => (hle k hk).trans (by rw [List.length_append]; omega)
      have happ : ∀ l l', snapshotsOf (l ++ l') = snapshotsOf l ++ snapshotsOf l' :=
        fun _ _ => List.filterMap_append
      rw [answersOf_concat, happ, hs, hgrow]
      by_cases hw : who = i
      · rw [if_pos hw, hsnap]
        cases c with
        | snapshot =>
            refine ⟨ks ++ [(insertedTexts (callsOf log)).length], ?_, ?_, ?_⟩
            · refine List.pairwise_append.mpr ⟨hsort, List.pairwise_singleton _ _, fun k hk k' hk' => ?_⟩
              rw [List.mem_singleton.mp hk']
              exact hle k hk
            · intro k hk
              rcases List.mem_append.mp hk with hk | hk
              · exact hle' k hk
              · rw [List.mem_singleton.mp hk, List.length_append]
                omega
            · rw [List.map_append, List.map_singleton, window_append le_rfl]
              rfl
        | copyRun | shouldAbort | finish | beginRun | abort | status | get | insert =>
            exact ⟨ks, hsort, hle', List.append_nil _⟩
      · rw [if_neg hw]
        exact ⟨ks, hsort, hle', List.append_nil _⟩

/-- The insertions of a log, with the threads that made them. -/
def insertionsOf (log : List (Served ι)) : List (ι × CText) :=
  log.filterMap fun e => e.call.inserted.map fun text => (e.who, text)

omit [DecidableEq ι] in
/-- Their texts are those of the calls. -/
theorem insertionsOf_texts (log : List (Served ι)) :
    (insertionsOf log).map Prod.snd = insertedTexts (callsOf log) := by
  rw [insertionsOf, List.map_filterMap, insertedTexts, callsOf, List.filterMap_map]
  refine List.filterMap_congr fun e _ => ?_
  rw [Option.map_map]
  exact Option.map_id'

/-- Those of one thread are its own, in its own order. -/
theorem insertionsOf_thread (log : List (Served ι)) (i : ι) :
    ((insertionsOf log).filter fun e => decide (e.1 = i)).map Prod.snd =
      insertedTexts (answersOf log i) := by
  induction log with
  | nil => rfl
  | cons e log ih =>
      have hcons : insertionsOf (e :: log) =
          (e.call.inserted.map fun text => (e.who, text)).toList ++ insertionsOf log := by
        rw [insertionsOf, List.filterMap_cons]
        cases e.call.inserted <;> rfl
      have hpast : insertedTexts (answersOf (e :: log) i) =
          (if e.who = i then e.call.inserted.toList else []) ++ insertedTexts (answersOf log i) := by
        unfold answersOf
        rw [List.filter_cons]
        by_cases hw : e.who = i
        · rw [if_pos (decide_eq_true hw), if_pos hw, List.map_cons, insertedTexts,
            List.filterMap_cons]
          cases e.call.inserted <;> rfl
        · rw [if_neg (by rw [decide_eq_true_eq]; exact hw), if_neg hw, List.nil_append]
      rw [hcons, hpast, List.filter_append, List.map_append, ih]
      refine congrArg (· ++ _) ?_
      by_cases hw : e.who = i
      · rw [if_pos hw]
        cases e.call.inserted with
        | none => rfl
        | some text => simp [hw]
      · rw [if_neg hw]
        cases e.call.inserted with
        | none => rfl
        | some text => simp [hw]

end Proofs

/-- **The calls a thread has made and their answers.** Inside a section it has made the call from
    the statement on that reads the open memory. -/
def pastOf (nonce : Nat) (m : Machine ι Guarded OpenMemory Locals Caller) (i : ι) :
    List (LockCall × LockReply) := ((m.abs (lockClient nonce)).thread i).past

omit [DecidableEq ι] in
/-- Outside a section it is what the thread remembers. -/
theorem pastOf_out {nonce : Nat} {m : Machine ι Guarded OpenMemory Locals Caller} {i : ι}
    {o : Caller} (h : m.thread i = .out o) : pastOf nonce m i = o.past := by
  show ((m.thread i).abs (lockClient nonce) m).past = _
  rw [h]
  rfl

/-- **ALL SNAPSHOTS SHOW ONE ORDER**: in every interleaving of the statements of the sections the
    insertions all threads have made come in one order, which holds those of every thread in its
    own; every snapshot any thread has got is the last 64 of its first `k` texts, and `k` never
    falls from one snapshot of a thread to its next. What a thread outside the sections has made
    is what it remembers; one inside has made its call from the pivot of the section on. -/
theorem snapshots_one_order {nonce : Nat} {u0 : OpenMemory}
    {m : Machine ι Guarded OpenMemory Locals Caller}
    (h : Reach (machine (lockClient nonce) (lockStart ι .boot u0)) Always m) :
    ∃ order : List (ι × CText), ∀ i, (∀ o, m.thread i = .out o → pastOf nonce m i = o.past) ∧
      (order.filter fun e => decide (e.1 = i)).map Prod.snd = insertedTexts (pastOf nonce m i) ∧
      ∃ ks : List Nat, ks.Pairwise (· ≤ ·) ∧ (∀ k ∈ ks, k ≤ order.length) ∧
        snapshotsOf (pastOf nonce m i) = ks.map (window (order.map Prod.snd)) := by
  obtain ⟨log, I⟩ := logInv_reach ((lockRefinement _ _).reach h)
  refine ⟨insertionsOf log, fun i => ?_⟩
  have hpast : pastOf nonce m i = answersOf log i := I.answers i
  obtain ⟨ks, hsort, hle, hshown⟩ := (serial_ring I.serial).2 i
  rw [hpast, insertionsOf_texts]
  refine ⟨fun o ho => hpast.symm.trans (pastOf_out ho), insertionsOf_thread log i, ks, hsort,
    fun k hk => ?_, hshown⟩
  have hlength : (insertionsOf log).length = (insertedTexts (callsOf log)).length := by
    rw [← insertionsOf_texts, List.length_map]
  rw [hlength]
  exact hle k hk

/-- The machine behind the insertion of one thread and the snapshot of the other. -/
def snapshotTaken : Machine Bool Guarded OpenMemory Locals Caller :=
  twoThreads.runEnd (lockMachine Bool .boot ⟨0, 0⟩) (halfInserted ++ thenSnapshot)

/-- The snapshot shows the text. -/
theorem snapshots_one_order_two :
    (insertedTexts (pastOf 0 snapshotTaken false) = ["boot".toList] ∧
      snapshotsOf (pastOf 0 snapshotTaken true) = [["boot".toList]]) ∧
    ∃ order : List (Bool × CText), ∀ i,
      (∀ o, snapshotTaken.thread i = .out o → pastOf 0 snapshotTaken i = o.past) ∧
      (order.filter fun e => decide (e.1 = i)).map Prod.snd =
        insertedTexts (pastOf 0 snapshotTaken i) ∧
      ∃ ks : List Nat, ks.Pairwise (· ≤ ·) ∧ (∀ k ∈ ks, k ≤ order.length) ∧
        snapshotsOf (pastOf 0 snapshotTaken i) = ks.map (window (order.map Prod.snd)) :=
  ⟨by decide +kernel,
    snapshots_one_order (reach_runEnd (lockMachine_reach 0 .boot ⟨0, 0⟩) thenSnapshot_runs)⟩

end DragonBench
