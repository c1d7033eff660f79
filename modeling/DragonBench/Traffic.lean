/-
  File:      DragonBench/Traffic.lean
  Subject:   `run_network` AGAINST `traffic_peer`: one TCP connection, two byte queues of finite
             capacity, and when both ends wait for each other.

  The device sends a whole block before it receives, and receives once, whatever `recv` gives. The
  peer in echo mode returns all it has read (`sendall`) before it reads again. What the device has
  not received stays on the way and grows by up to 4095 bytes an iteration; nothing bounds it.

  * `trafficPeer` -- the loop of `traffic_peer`, all three modes;
  * `Traffic`, `traffic` -- the two programs and the two queues, any fragmentation;
  * `FlowFits` -- what a send needs to be safe: room for the whole block, or so few bytes on the
    way that the two queues cannot both be full;
  * **`unfit_send_deadlocks`** -- a send that begins without it can end in the deadlock;
  * **`echo_deadlock_reachable`** -- and such a send comes, whatever the capacities;
  * **`echo_no_deadlock`** -- no deadlock in the runs all of whose sends begin with `FlowFits`.
-/
import DragonBench.Lib.Transition
import DragonBench.Lib.BoundedQueue
import DragonBench.Workload

namespace DragonBench

open Transition

/-! ## 1. `traffic_peer` -/

/-- `--mode`. -/
inductive TrafficMode where
  | sink
  | source
  | echo
  deriving DecidableEq, Repr

/-- Where the loop of `traffic_peer` stands. In `sendall`, `data` is the argument and `left` what
    the socket has not accepted yet. -/
inductive PeerPc where
  | test
  | recv
  | sendall (data left : List UInt8)
  | closed
  deriving DecidableEq, Repr

/-- The loop of `traffic_peer` with its counters. -/
structure Peer where
  pc : PeerPc
  tx : Nat
  rx : Nat
  deriving DecidableEq, Repr

/-- `bytes((i % 251 for i in range(4096)))`. -/
def peerBlock : List UInt8 := (List.range 4096).map fun i => UInt8.ofNat (i % 251)

/-- What a call of the loop meets. -/
inductive PeerSees where
  /-- `time.monotonic() < deadline` -/
  | clock (inTime : Bool)
  /-- `recv` returns `data`, empty when the other side has closed -/
  | received (data : List UInt8)
  /-- the socket takes `k` more bytes of a `sendall` -/
  | accepted (k : Nat)
  /-- `socket.timeout` -/
  | timeout
  /-- another exception of the socket, which ends the function -/
  | reset

/-- `traffic_peer`, from `conn.settimeout` on. A timed-out `sendall` has sent what the socket took
    and is not counted. -/
def trafficPeer (mode : TrafficMode) (p : Peer) : PeerSees → Option Peer
  | .clock inTime =>
    match p.pc with
    | .test =>
      if !inTime then some { p with pc := .closed }
      else if mode = .source then some { p with pc := .sendall peerBlock peerBlock }
      else some { p with pc := .recv }
    | _ => none
  | .received data =>
    match p.pc with
    | .recv =>
      if data = [] then some { p with pc := .closed }
      else if mode = .echo then
        some { p with pc := .sendall data data, rx := p.rx + data.length }
      else some { p with pc := .test, rx := p.rx + data.length }
    | _ => none
  | .accepted k =>
    match p.pc with
    | .sendall data left =>
      if left.drop k = [] then some { p with pc := .test, tx := p.tx + data.length }
      else some { p with pc := .sendall data (left.drop k) }
    | _ => none
  | .timeout =>
    match p.pc with
    | .recv | .sendall _ _ => some { p with pc := .test }
    | _ => none
  | .reset =>
    match p.pc with
    | .recv | .sendall _ _ => some { p with pc := .closed }
    | _ => none

/-- What a `sendall` under way has still to hand over. -/
def Peer.left (p : Peer) : List UInt8 :=
  match p.pc with
  | .sendall _ left => left
  | _ => []

/-! ## 2. The connection -/

/-- How many bytes each direction of the connection holds: the sender's and the receiver's buffers
    together. -/
structure Buffers where
  toPeer : Nat
  toDevice : Nat
  deriving DecidableEq, Repr

/-- The two programs and what is on the way between them. `device` is empty once `run_network` has
    returned; `unsent` is what a `send` under way has still to hand over. -/
structure Traffic (b : Buffers) where
  device : Option NetPc
  block : List UInt8
  unsent : List UInt8
  toPeer : BoundedQueue UInt8 b.toPeer
  toDevice : BoundedQueue UInt8 b.toDevice
  peer : Peer

/-- The surroundings of a call that returns `ret`. -/
def Seen.returning (ret : Int) : Seen := ⟨0, false, false, 0, ret⟩

/-- Inside `send`. -/
def NetPc.sending : NetPc → Bool
  | .send _ => true
  | _ => false

/-- The socket is closed on the device's side: `shutdown` is behind. -/
def NetPc.hungUp : NetPc → Bool
  | .exit _ => true
  | _ => false

namespace Traffic

variable {b : Buffers}

/-- `run_network` goes on after a call; a `send` begins with the whole block to hand over. -/
def resume (s : Traffic b) : Outcome NetPc → Traffic b
  | .more pc => { s with device := some pc, unsent := if pc.sending then s.block else [] }
  | .done _ _ _ => { s with device := none, unsent := [] }

/-- The device has closed its socket. -/
def deviceGone (s : Traffic b) : Bool := s.device.all NetPc.hungUp

/-- Who moves, and how much the connection gives or takes. -/
inductive Label where
  /-- a step of `run_network` outside `send` and `recv` -/
  | device (e : Seen)
  /-- the connection takes `k` more bytes of the block -/
  | send (k : Nat)
  /-- `recv` of the device returns `n` bytes -/
  | recv (n : Nat)
  /-- `send` or `recv` of the device returns 0 or less, the peer having closed -/
  | fail (ret : Int)
  /-- the peer's clock, its `recv` of `n` bytes, `k` bytes of its `sendall`, its timeouts -/
  | peerTest (inTime : Bool)
  | peerRecv (n : Nat)
  | peerSend (k : Nat)
  | peerTimeout
  /-- the peer meets the end of the stream, or an exception, the device having closed -/
  | peerEnd
  | peerReset

/-- The connection takes `k` bytes of the block; with the last of them `send` returns. -/
def sendStep (s : Traffic b) (l : NetLocals) (k : Nat) : Option (Traffic b) :=
  if 0 < k ∧ k ≤ s.unsent.length then
    (s.toPeer.push (s.unsent.take k)).map fun q =>
      if s.unsent.drop k = [] then
        { s with toPeer := q }.resume (runNetwork (.returning ioBlock) (.send l))
      else { s with toPeer := q, unsent := s.unsent.drop k }
  else none

/-- `recv` returns the oldest `n` bytes and writes them over the front of the block. -/
def recvStep (s : Traffic b) (l : NetLocals) (n : Nat) : Option (Traffic b) :=
  if 0 < n ∧ n ≤ ioBlock then
    (s.toDevice.pop n).map fun r =>
      { s with toDevice := r.2, block := r.1 ++ s.block.drop n }.resume
        (runNetwork (.returning n) (.recv l))
  else none

/-- The peer takes `n` bytes. -/
def peerRecvStep (mode : TrafficMode) (s : Traffic b) (n : Nat) : Option (Traffic b) :=
  if 0 < n ∧ n ≤ peerBlock.length then
    (s.toPeer.pop n).bind fun r =>
      (trafficPeer mode s.peer (.received r.1)).map fun p => { s with peer := p, toPeer := r.2 }
  else none

/-- The connection takes `k` bytes of the peer. -/
def peerSendStep (mode : TrafficMode) (s : Traffic b) (k : Nat) : Option (Traffic b) :=
  if 0 < k ∧ k ≤ s.peer.left.length then
    (s.toDevice.push (s.peer.left.take k)).bind fun q =>
      (trafficPeer mode s.peer (.accepted k)).map fun p => { s with peer := p, toDevice := q }
  else none

/-- One step of one of the two programs. -/
def step (mode : TrafficMode) (s : Traffic b) : Label → Option (Traffic b)
  | .device e =>
    match s.device with
    | some pc => if pc.transfers then none else some (s.resume (runNetwork e pc))
    | none => none
  | .send k =>
    match s.device with
    | some (.send l) => s.sendStep l k
    | _ => none
  | .recv n =>
    match s.device with
    | some (.recv l) => s.recvStep l n
    | _ => none
  | .fail ret =>
    match s.device with
    | some pc =>
      if pc.transfers ∧ s.peer.pc = .closed ∧ ret ≤ 0 then
        some (s.resume (runNetwork (.returning ret) pc))
      else none
    | none => none
  | .peerTest inTime =>
    (trafficPeer mode s.peer (.clock inTime)).map fun p => { s with peer := p }
  | .peerRecv n => s.peerRecvStep mode n
  | .peerSend k => s.peerSendStep mode k
  | .peerTimeout => (trafficPeer mode s.peer .timeout).map fun p => { s with peer := p }
  | .peerEnd =>
    if s.deviceGone ∧ s.toPeer.items = [] then
      (trafficPeer mode s.peer (.received [])).map fun p => { s with peer := p }
    else none
  | .peerReset =>
    if s.deviceGone then (trafficPeer mode s.peer .reset).map fun p => { s with peer := p }
    else none

end Traffic

/-- `run_network` on a NET_BIDIRECTIONAL request, just connected to a `traffic_peer` that waits in
    its loop. -/
structure TrafficStart {b : Buffers} (s : Traffic b) : Prop where
  device : ∃ r : DbRunRequest, r.workload = .netBidirectional ∧ s.device = some (.connect r)
  block : s.block.length = ioBlock
  unsent : s.unsent = []
  toPeer : s.toPeer = .empty
  toDevice : s.toDevice = .empty
  peer : s.peer = ⟨.test, 0, 0⟩

/-- A NET_BIDIRECTIONAL run against `traffic_peer`. -/
def traffic (b : Buffers) (mode : TrafficMode) : System (Traffic b) Traffic.Label where
  init := TrafficStart
  step := Traffic.step mode

/-! ## 3. Blocked ends -/

namespace Traffic

variable {b : Buffers}

/-- The device waits in `send` for room. -/
def DeviceBlocked (s : Traffic b) : Prop :=
  (∃ l, s.device = some (.send l)) ∧ s.unsent ≠ [] ∧ s.toPeer.Full

/-- The peer waits in `sendall` for room. -/
def PeerBlocked (s : Traffic b) : Prop := s.peer.left ≠ [] ∧ s.toDevice.Full

/-- **What a send of `d` more bytes needs**: room for all of them, or so little on the way in both
    directions that the two queues cannot be full with bytes left on both sides. -/
def FlowFits (s : Traffic b) (d : Nat) : Prop :=
  s.toPeer.length + d ≤ b.toPeer ∨
    s.toPeer.length + s.peer.left.length + s.toDevice.length + d ≤ b.toPeer + b.toDevice + 1

/-- The step at which the loop body of `run_network` begins. -/
def begins (s : Traffic b) (e : Seen) : Bool :=
  match s.device with
  | some (.poll _) => !e.abort
  | _ => false

/-- **Every send begins with room enough.** -/
def SendFits (s : Traffic b) : Label → Prop
  | .device e => s.begins e = true → s.FlowFits ioBlock
  | _ => True

/-- The device is inside `send`. -/
def sending (s : Traffic b) : Bool := s.device.any NetPc.sending

/-- **The invariant**: what is still to be sent keeps fitting. -/
structure FlowInv (s : Traffic b) : Prop where
  block : s.block.length = ioBlock
  flow : s.sending = true → s.FlowFits s.unsent.length

/-- Two ends that wait for each other do not fit. -/
theorem FlowInv.not_both {s : Traffic b} (I : FlowInv s) :
    ¬ (s.DeviceBlocked ∧ s.PeerBlocked) := by
  rintro ⟨⟨⟨l, hd⟩, hu, hp⟩, hl, hq⟩
  have hs : s.sending = true := by
    unfold sending
    rw [hd]
    rfl
  have hu' : 0 < s.unsent.length := List.length_pos_iff.mpr hu
  have hl' : 0 < s.peer.left.length := List.length_pos_iff.mpr hl
  unfold BoundedQueue.Full at hp hq
  rcases I.flow hs with h | h <;> omega

end Traffic

/-! ## 4. What a step does to the bytes -/

section Peer

variable {p p' : Peer}

theorem left_clock {m : TrafficMode} {inTime : Bool} (hm : m ≠ .source)
    (h : trafficPeer m p (.clock inTime) = some p') : p.left = [] ∧ p'.left = [] := by
  cases p with
  | mk pc tx rx =>
      cases pc with
      | test =>
          simp only [trafficPeer, if_neg hm] at h
          split at h <;> cases h <;> exact ⟨rfl, rfl⟩
      | recv | sendall | closed => cases h

theorem left_received {data : List UInt8}
    (h : trafficPeer .echo p (.received data) = some p') : p.left = [] ∧ p'.left = data := by
  cases p with
  | mk pc tx rx =>
      cases pc with
      | recv =>
          simp only [trafficPeer] at h
          split at h
          · rename_i hd
            cases h
            exact ⟨rfl, hd.symm⟩
          · cases h
            exact ⟨rfl, rfl⟩
      | test | sendall | closed => cases h

theorem left_accepted {m : TrafficMode} {k : Nat}
    (h : trafficPeer m p (.accepted k) = some p') : p'.left = p.left.drop k := by
  cases p with
  | mk pc tx rx =>
      cases pc with
      | sendall data left =>
          simp only [trafficPeer] at h
          split at h
          · rename_i hd
            cases h
            exact hd.symm
          · cases h
            rfl
      | test | recv | closed => cases h

theorem left_interrupted {m : TrafficMode} {e : PeerSees} (he : e = .timeout ∨ e = .reset)
    (h : trafficPeer m p e = some p') : p'.left = [] := by
  cases p with
  | mk pc tx rx =>
      rcases he with rfl | rfl <;> cases pc with
      | recv | sendall =>
          cases h
          rfl
      | test | closed => cases h

end Peer

/-- `run_network` enters `send` only from the head of its loop body. -/
theorem runNetwork_sends {e : Seen} {pc pc' : NetPc} (h : runNetwork e pc = .more pc')
    (hs : pc'.sending = true) : ∃ l, pc = .poll l ∧ e.abort = false := by
  have hpace : ∀ l, (netPace l).sending = false := by
    intro l
    unfold netPace
    split <;> rfl
  have hrecv : ∀ l, (netRecv l).sending = false := by
    intro l
    unfold netRecv
    split
    · rfl
    · exact hpace l
  cases pc with
  | poll l =>
      simp only [runNetwork] at h
      by_cases ha : e.abort = true
      · rw [if_pos ha] at h
        cases h
        cases hs
      · exact ⟨l, rfl, Bool.eq_false_iff.mpr ha⟩
  | send l =>
      simp only [runNetwork] at h
      split at h <;> cases h
      · cases hs
      · rw [hrecv] at hs
        cases hs
  | recv l =>
      simp only [runNetwork] at h
      split at h <;> cases h
      · cases hs
      · rw [hpace] at hs
        cases hs
  | connect | test =>
      simp only [runNetwork] at h
      split at h <;> cases h <;> cases hs
  | enter | delay | shutdown =>
      cases h
      cases hs
  | exit => cases h

namespace Traffic

variable {b : Buffers}

/-- Where `run_network` goes on elsewhere than in `send`, nothing is left to send. -/
theorem flowInv_resume {s : Traffic b} {e : Seen} {pc : NetPc} (hb : s.block.length = ioBlock)
    (hf : ∀ l, pc = .poll l → e.abort = false → s.FlowFits ioBlock) :
    FlowInv (s.resume (runNetwork e pc)) := by
  cases hr : runNetwork e pc with
  | done ok tx rx => exact ⟨hb, fun h => by cases h⟩
  | more pc' =>
      refine ⟨hb, fun h => ?_⟩
      have hs : pc'.sending = true := h
      obtain ⟨l, hpc, ha⟩ := runNetwork_sends hr hs
      have hu : (s.resume (.more pc')).unsent = s.block := if_pos hs
      rw [hu, hb]
      exact hf l hpc ha

/-- The peer's side of a step keeps the rest, and keeps what has to fit. -/
theorem flowInv_peer {s : Traffic b} (I : FlowInv s) {p : Peer} {u : BoundedQueue UInt8 b.toPeer}
    {v : BoundedQueue UInt8 b.toDevice}
    (h : ∀ d, s.FlowFits d → u.length + d ≤ b.toPeer ∨
      u.length + p.left.length + v.length + d ≤ b.toPeer + b.toDevice + 1) :
    FlowInv { s with peer := p, toPeer := u, toDevice := v } :=
  ⟨I.block, fun hs => h _ (I.flow hs)⟩

/-- A peer that gives up what it had left keeps what has to fit. -/
theorem flowInv_idle {s : Traffic b} (I : FlowInv s) {p : Peer} (h : p.left = []) :
    FlowInv { s with peer := p } := by
  refine flowInv_peer I fun d hd => ?_
  rw [h, List.length_nil]
  rcases hd with hd | hd <;> omega

/-- What has gone into the queue is no longer to be sent. -/
theorem flowInv_sendStep {s s' : Traffic b} {l : NetLocals} {k : Nat} (I : FlowInv s)
    (hd : s.device = some (.send l)) (h : s.sendStep l k = some s') : FlowInv s' := by
  unfold sendStep at h
  split at h
  · rename_i hk
    obtain ⟨q, hq, he⟩ := Option.map_eq_some_iff.mp h
    have hlen := BoundedQueue.push_length hq
    rw [List.length_take_of_le hk.2] at hlen
    split at he
    · subst he
      exact flowInv_resume I.block fun l' hpc => by cases hpc
    · subst he
      have hs : s.sending = true := by
        unfold sending
        rw [hd]
        rfl
      have hdrop : (s.unsent.drop k).length = s.unsent.length - k := List.length_drop
      refine ⟨I.block, fun _ => ?_⟩
      have hfit := I.flow hs
      unfold FlowFits at hfit ⊢
      dsimp only
      rw [hdrop, hlen]
      omega
  · cases h

/-- What is received overwrites as many bytes of the block. -/
theorem flowInv_recvStep {s s' : Traffic b} {l : NetLocals} {n : Nat} (I : FlowInv s)
    (h : s.recvStep l n = some s') : FlowInv s' := by
  unfold recvStep at h
  split at h
  · rename_i hn
    obtain ⟨r, hr, he⟩ := Option.map_eq_some_iff.mp h
    subst he
    obtain ⟨-, hlen⟩ := BoundedQueue.pop_items hr
    refine flowInv_resume ?_ fun l' hpc => by cases hpc
    dsimp only
    rw [List.length_append, List.length_drop, hlen, I.block]
    exact Nat.add_sub_of_le hn.2
  · cases h

/-- The bytes leave the queue and are what the peer has to return. -/
theorem flowInv_peerRecvStep {s s' : Traffic b} {n : Nat} (I : FlowInv s)
    (h : s.peerRecvStep .echo n = some s') : FlowInv s' := by
  unfold peerRecvStep at h
  split at h
  · obtain ⟨r, hr, h⟩ := Option.bind_eq_some_iff.mp h
    obtain ⟨p, hp, he⟩ := Option.map_eq_some_iff.mp h
    subst he
    have hq := BoundedQueue.pop_length hr
    obtain ⟨-, hn⟩ := BoundedQueue.pop_items hr
    obtain ⟨hl, hl'⟩ := left_received hp
    refine flowInv_peer I fun d hd => ?_
    unfold FlowFits at hd
    rw [hl, List.length_nil] at hd
    rw [hl', hn]
    omega
  · cases h

/-- They go from the peer to the other queue. -/
theorem flowInv_peerSendStep {s s' : Traffic b} {k : Nat} (I : FlowInv s)
    (h : s.peerSendStep .echo k = some s') : FlowInv s' := by
  unfold peerSendStep at h
  split at h
  · rename_i hk
    obtain ⟨q, hq, h⟩ := Option.bind_eq_some_iff.mp h
    obtain ⟨p, hp, he⟩ := Option.map_eq_some_iff.mp h
    subst he
    have hlen := BoundedQueue.push_length hq
    rw [List.length_take_of_le hk.2] at hlen
    refine flowInv_peer I fun d hd => ?_
    unfold FlowFits at hd
    rw [left_accepted hp, List.length_drop, hlen]
    omega
  · cases h

theorem flowInv_step {s s' : Traffic b} {a : Label} (I : FlowInv s) (hc : SendFits s a)
    (h : step .echo s a = some s') : FlowInv s' := by
  cases a with
  | device e =>
      simp only [step] at h
      split at h
      · rename_i pc hd
        split at h
        · cases h
        · cases h
          refine flowInv_resume I.block fun l hpc ha => hc ?_
          unfold begins
          rw [hd, hpc, ha]
          rfl
      · cases h
  | send k =>
      simp only [step] at h
      split at h
      · rename_i l hd
        exact flowInv_sendStep I hd h
      · cases h
  | recv n =>
      simp only [step] at h
      split at h
      · exact flowInv_recvStep I h
      · cases h
  | fail ret =>
      simp only [step] at h
      split at h
      · split at h
        · rename_i pc hd hf
          cases h
          refine flowInv_resume I.block fun l hpc => ?_
          rw [hpc] at hf
          cases hf.1
        · cases h
      · cases h
  | peerTest inTime =>
      obtain ⟨p, hp, he⟩ := Option.map_eq_some_iff.mp h
      subst he
      exact flowInv_idle I (left_clock TrafficMode.noConfusion hp).2
  | peerRecv n => exact flowInv_peerRecvStep I h
  | peerSend k => exact flowInv_peerSendStep I h
  | peerTimeout =>
      obtain ⟨p, hp, he⟩ := Option.map_eq_some_iff.mp h
      subst he
      exact flowInv_idle I (left_interrupted (Or.inl rfl) hp)
  | peerEnd =>
      obtain ⟨-, h⟩ := Option.ite_none_right_eq_some.mp h
      obtain ⟨p, hp, he⟩ := Option.map_eq_some_iff.mp h
      subst he
      exact flowInv_idle I (left_received hp).2
  | peerReset =>
      obtain ⟨-, h⟩ := Option.ite_none_right_eq_some.mp h
      obtain ⟨p, hp, he⟩ := Option.map_eq_some_iff.mp h
      subst he
      exact flowInv_idle I (left_interrupted (Or.inr rfl) hp)

theorem flowInv_start {s : Traffic b} (h : TrafficStart s) : FlowInv s := by
  refine ⟨h.block, fun hs => ?_⟩
  obtain ⟨r, -, hd⟩ := h.device
  unfold sending at hs
  rw [hd] at hs
  cases hs

theorem flowInv_reach {s : Traffic b} (h : Reach (traffic b .echo) SendFits s) : FlowInv s := by
  refine Reach.inv (C := SendFits) ?_ ?_ h
  · intro s h0
    exact flowInv_start h0
  · intro s a s' _ I hc hs
    exact flowInv_step I hc hs

end Traffic

/-! ## 5. The deadlock is there

Runs are followed by their numbers only: how many bytes the device has still to send, how many are
in each queue, how many the peer has still to return. -/

/-- Where the device stands: `d + 1` bytes of a block to send, or about to receive. -/
inductive Stage where
  | sending (d : Nat)
  | receiving

/-- The numbers of a state. `P` is what is known of the device's locals; the peer waits in `recv`
    or is returning bytes. -/
structure Shows {b : Buffers} (P : NetLocals → Prop) (s : Traffic b) (g : Stage) (p q l : Nat) :
    Prop where
  stage : match g with
    | .sending d => ∃ r, P r ∧ s.device = some (.send r) ∧ s.unsent.length = d + 1
    | .receiving => ∃ r, P r ∧ s.device = some (.recv r)
  block : s.block.length = ioBlock
  toPeer : s.toPeer.length = p
  toDevice : s.toDevice.length = q
  left : s.peer.left.length = l
  waits : s.peer.pc = .test ∨ s.peer.pc = .recv ∨ 0 < l

/-- A run from `s₀` reaches a state with these numbers. -/
def Reaches {b : Buffers} (s₀ : Traffic b) (P : NetLocals → Prop) (g : Stage) (p q l : Nat) :
    Prop :=
  ∃ s, Reach ((traffic b .echo).startingAt s₀) Always s ∧ Shows P s g p q l

namespace Reaches

variable {b : Buffers} {s₀ : Traffic b} {P : NetLocals → Prop} {g : Stage} {d p q l : Nat}

/-- The queues hold what they hold. -/
theorem bounds (h : Reaches s₀ P g p q l) : p ≤ b.toPeer ∧ q ≤ b.toDevice := by
  obtain ⟨s, -, S⟩ := h
  exact ⟨S.toPeer ▸ s.toPeer.length_le, S.toDevice ▸ s.toDevice.length_le⟩

/-- One more step of the run. -/
theorem later {s s' : Traffic b} {a : Traffic.Label}
    (h : Reach ((traffic b .echo).startingAt s₀) Always s)
    (hs : Traffic.step .echo s a = some s') :
    Reach ((traffic b .echo).startingAt s₀) Always s' :=
  .step h trivial hs

/-- `run_network` takes a step that leaves the connection alone. -/
theorem steps {s : Traffic b} {e : Seen} {pc pc' : NetPc} (hd : s.device = some pc)
    (ht : pc.transfers = false) (hrun : runNetwork e pc = .more pc') :
    Traffic.step .echo s (.device e) = some (s.resume (.more pc')) := by
  simp only [Traffic.step, hd, ht, hrun]
  rfl

/-- The numbers after one more step. -/
theorem after {s s' : Traffic b} {a : Traffic.Label}
    (h : Reach ((traffic b .echo).startingAt s₀) Always s) (hs : Traffic.step .echo s a = some s')
    (S : Shows P s' g p q l) : Reaches s₀ P g p q l :=
  ⟨s', later h hs, S⟩

/-- The connection takes a byte of the block that is not its last. -/
theorem handOver (h : Reaches s₀ P (.sending (d + 1)) p q l) (hp : p < b.toPeer) :
    Reaches s₀ P (.sending d) (p + 1) q l := by
  obtain ⟨s, hr, S⟩ := h
  obtain ⟨r, hP, hd, hu⟩ := S.stage
  have hdrop : (s.unsent.drop 1).length = d + 1 := by
    rw [List.length_drop, hu]
    rfl
  have hne : s.unsent.drop 1 ≠ [] := by
    intro e
    rw [e] at hdrop
    cases hdrop
  obtain ⟨u, hq, hlen⟩ := s.toPeer.push_one s.unsent (by omega)
    (by rw [S.toPeer]; exact hp)
  rw [S.toPeer] at hlen
  have hstep : Traffic.step .echo s (.send 1) =
      some { s with toPeer := u, unsent := s.unsent.drop 1 } := by
    simp only [Traffic.step, hd, Traffic.sendStep, hq, Option.map_some, if_neg hne]
    exact if_pos ⟨Nat.one_pos, by omega⟩
  exact after hr hstep ⟨⟨r, hP, hd, hdrop⟩, S.block, hlen, S.toDevice, S.left, S.waits⟩

/-- The connection takes the last byte of the block, and `send` returns. -/
theorem finish (h : Reaches s₀ P (.sending 0) p q l) (hp : p < b.toPeer)
    (hP : ∀ r n, P r → r.request.workload ≠ .netTx ∧ P { r with tx := n }) :
    Reaches s₀ P .receiving (p + 1) q l := by
  obtain ⟨s, hr, S⟩ := h
  obtain ⟨r, hr', hd, hu⟩ := S.stage
  have hdrop : s.unsent.drop 1 = [] := List.drop_eq_nil_of_le (Nat.le_of_eq hu)
  obtain ⟨u, hq, hlen⟩ := s.toPeer.push_one s.unsent (by omega)
    (by rw [S.toPeer]; exact hp)
  rw [S.toPeer] at hlen
  obtain ⟨hw, hP'⟩ := hP r (r.tx + 4096) hr'
  have hrun : runNetwork (.returning ioBlock) (.send r) =
      .more (.recv { r with tx := r.tx + 4096 }) := by
    have hrecv : netRecv { r with tx := r.tx + 4096 } = .recv { r with tx := r.tx + 4096 } :=
      if_pos hw
    rw [← hrecv]
    rfl
  have hstep : Traffic.step .echo s (.send 1) =
      some ({ s with toPeer := u }.resume (.more (.recv { r with tx := r.tx + 4096 }))) := by
    simp only [Traffic.step, hd, Traffic.sendStep, hq, Option.map_some, if_pos hdrop, hrun]
    exact if_pos ⟨Nat.one_pos, by omega⟩
  exact after hr hstep ⟨⟨_, hP', rfl⟩, S.block, hlen, S.toDevice, S.left, S.waits⟩

/-- The connection takes a byte of the peer; with the last one `sendall` returns. -/
theorem giveBack (h : Reaches s₀ P g p q (l + 1)) (hq : q < b.toDevice) :
    Reaches s₀ P g p (q + 1) l := by
  obtain ⟨s, hr, S⟩ := h
  have hleft := S.left
  have hdrop : (s.peer.left.drop 1).length = l := by
    rw [List.length_drop, hleft]
    rfl
  obtain ⟨v, hv, hlen⟩ := s.toDevice.push_one s.peer.left (by omega)
    (by rw [S.toDevice]; exact hq)
  rw [S.toDevice] at hlen
  obtain ⟨p', hp', hw⟩ : ∃ p', trafficPeer .echo s.peer (.accepted 1) = some p' ∧
      (p'.pc = .test ∨ p'.pc = .recv ∨ 0 < l) := by
    cases hp : s.peer with
    | mk pc tx rx =>
        cases pc with
        | sendall data left =>
            simp only [trafficPeer]
            by_cases he : left.drop 1 = []
            · exact ⟨_, if_pos he, Or.inl rfl⟩
            · rw [hp] at hdrop
              refine ⟨_, if_neg he, Or.inr (Or.inr ?_)⟩
              rw [← hdrop]
              exact List.length_pos_iff.mpr he
        | test | recv | closed =>
            rw [hp] at hleft
            cases hleft
  have hstep : Traffic.step .echo s (.peerSend 1) =
      some { s with peer := p', toDevice := v } := by
    simp only [Traffic.step, Traffic.peerSendStep, hv, Option.bind_some, hp', Option.map_some]
    exact if_pos ⟨Nat.one_pos, by omega⟩
  refine after hr hstep ⟨S.stage, S.block, S.toPeer, hlen, ?_, hw⟩
  rw [left_accepted hp']
  exact hdrop

/-- The peer reads one byte. -/
theorem takeIn (h : Reaches s₀ P g (p + 1) q 0) : Reaches s₀ P g p q 1 := by
  obtain ⟨s, hr, S⟩ := h
  -- back in front of `recv`, if the peer is not there yet
  obtain ⟨s₁, hr₁, S₁, hpc⟩ : ∃ s₁, Reach ((traffic b .echo).startingAt s₀) Always s₁ ∧
      Shows P s₁ g (p + 1) q 0 ∧ s₁.peer.pc = .recv := by
    rcases S.waits with hpc | hpc | hpos
    · have hstep : Traffic.step .echo s (.peerTest true) =
          some { s with peer := { s.peer with pc := .recv } } := by
        simp only [Traffic.step, trafficPeer, hpc]
        rfl
      exact ⟨_, later hr hstep,
        ⟨S.stage, S.block, S.toPeer, S.toDevice, rfl, Or.inr (Or.inl rfl)⟩, rfl⟩
    · exact ⟨s, hr, S, hpc⟩
    · cases hpos
  obtain ⟨xs, u, hu, hn, hlen⟩ := s₁.toPeer.pop_one
    (by rw [S₁.toPeer]; exact Nat.succ_pos p)
  rw [S₁.toPeer] at hlen
  have hne : xs ≠ [] := List.length_pos_iff.mp (by rw [hn]; exact Nat.one_pos)
  have hstep : Traffic.step .echo s₁ (.peerRecv 1) =
      some { s₁ with
        peer := { s₁.peer with pc := .sendall xs xs, rx := s₁.peer.rx + xs.length }
        toPeer := u } := by
    simp only [Traffic.step, Traffic.peerRecvStep, hu, Option.bind_some, trafficPeer, hpc,
      if_neg hne]
    exact if_pos ⟨Nat.one_pos, by unfold peerBlock; rw [List.length_map, List.length_range]; decide⟩
  exact after hr₁ hstep ⟨S₁.stage, S₁.block, by dsimp only; omega, S₁.toDevice, hn,
    Or.inr (Or.inr Nat.one_pos)⟩

/-- Before the deadline the loop goes on. -/
theorem tested {r : NetLocals} (hdl : 0 < r.deadline) :
    runNetwork (.returning 0) (.test r) = .more (.poll r) :=
  if_pos hdl

/-- A poll that finds no abort leads into `send`. -/
theorem polled {r : NetLocals} (hw : r.request.workload ≠ .netRx) :
    runNetwork (.returning 0) (.poll r) = .more (.send r) := by
  have hsend : netSend r = .send r := if_pos hw
  rw [← hsend]
  rfl

/-- `recv` returns a byte, and without pacing the loop comes round to the next block. -/
theorem next (h : Reaches s₀ P .receiving p (q + 1) l)
    (hP : ∀ r n, P r → r.request.workload ≠ .netRx ∧ r.request.rateBps = 0 ∧ 0 < r.deadline ∧
      P { r with rx := n }) : Reaches s₀ P (.sending 4095) p q l := by
  obtain ⟨s, hr, S⟩ := h
  obtain ⟨r, hr', hd⟩ := S.stage
  obtain ⟨xs, v, hv, hn, hlen⟩ := s.toDevice.pop_one
    (by rw [S.toDevice]; exact Nat.succ_pos q)
  rw [S.toDevice] at hlen
  obtain ⟨hw, hrate, hdl, hP'⟩ := hP r (r.rx + 1) hr'
  -- recv, test, poll
  have hpace : runNetwork (.returning (1 : Nat)) (.recv r) = .more (.test { r with rx := r.rx + 1 }) := by
    have h1 : netPace { r with rx := r.rx + 1 } = .test { r with rx := r.rx + 1 } :=
      if_neg fun hc => hc.1 hrate
    rw [← h1]
    rfl
  have hblock : (xs ++ s.block.drop 1).length = ioBlock := by
    rw [List.length_append, List.length_drop, hn, S.block]
    rfl
  have hs1 : Traffic.step .echo s (.recv 1) =
      some ({ s with toDevice := v, block := xs ++ s.block.drop 1 }.resume
        (.more (.test { r with rx := r.rx + 1 }))) := by
    simp only [Traffic.step, hd, Traffic.recvStep, hv, Option.map_some, hpace]
    exact if_pos ⟨Nat.one_pos, by decide⟩
  have hs2 := later (later hr hs1) (steps rfl rfl (tested (r := { r with rx := r.rx + 1 }) hdl))
  exact after hs2 (steps rfl rfl (polled (r := { r with rx := r.rx + 1 }) hw))
    ⟨⟨_, hP', rfl, hblock⟩, hblock, S.toPeer, by dsimp only [Traffic.resume]; omega, S.left, S.waits⟩

/-- **A send in progress** is at its last byte and has room for it, stands still with the peer, or
    a byte moves: nothing is lost on the way, and the three moves lower `3 d + 2 p + l`. -/
theorem move (hb : 0 < b.toPeer) (h : Reaches s₀ P (.sending d) p q l) :
    d = 0 ∧ p < b.toPeer ∨ p = b.toPeer ∧ q = b.toDevice ∧ 0 < l ∨
      ∃ d' p' q' l', Reaches s₀ P (.sending d') p' q' l' ∧
        3 * d' + 2 * p' + l' < 3 * d + 2 * p + l ∧ p' + l' + q' + d' = p + l + q + d ∧
        (l = 0 ∧ l' = 1 ∧ p' + d' < p + d ∨ l' ≤ l ∧ p' + d' = p + d) := by
  obtain ⟨hp, hq⟩ := h.bounds
  by_cases hroom : p < b.toPeer
  · by_cases hd : d = 0
    · exact Or.inl ⟨hd, hroom⟩
    · obtain ⟨d, rfl⟩ := Nat.exists_eq_succ_of_ne_zero hd
      exact Or.inr (Or.inr ⟨d, p + 1, q, l, h.handOver hroom, by omega, by omega, by omega⟩)
  · by_cases hl : l = 0
    · obtain ⟨p, rfl⟩ : ∃ e, p = e + 1 := ⟨p - 1, by omega⟩
      subst hl
      exact Or.inr (Or.inr ⟨d, p, q, 1, h.takeIn, by omega, by omega, by omega⟩)
    · obtain ⟨l, rfl⟩ := Nat.exists_eq_succ_of_ne_zero hl
      by_cases hroom' : q < b.toDevice
      · exact Or.inr (Or.inr ⟨d, p, q + 1, l, h.giveBack hroom', by omega, by omega, by omega⟩)
      · exact Or.inr (Or.inl ⟨by omega, by omega, Nat.succ_pos l⟩)

/-- **A send that does not fit ends in the deadlock**: no move is left only when both ends are
    blocked. -/
theorem deadlock (hb : 0 < b.toPeer) (h : Reaches s₀ P (.sending d) p q l)
    (h1 : b.toPeer < p + (d + 1)) (h2 : b.toPeer + b.toDevice + 1 < p + l + q + (d + 1)) :
    ∃ d' l', Reaches s₀ P (.sending d') b.toPeer b.toDevice (l' + 1) := by
  induction hm : 3 * d + 2 * p + l using Nat.strong_induction_on generalizing d p q l with
  | _ m ih =>
      rcases h.move hb with ⟨hd, hp⟩ | ⟨rfl, rfl, hl⟩ | ⟨d', p', q', l', h', hlt, hsum, hl⟩
      · omega
      · obtain ⟨l, rfl⟩ := Nat.exists_eq_succ_of_ne_zero (Nat.ne_of_gt hl)
        exact ⟨d, l, h⟩
      · obtain ⟨-, hq'⟩ := h'.bounds
        exact ih _ (by omega) h' (by omega) (by omega) rfl

/-- A send that fits can come to its end, and what was to be sent is then on the way. -/
theorem sent (hb : 0 < b.toPeer) (h : Reaches s₀ P (.sending d) p q l) (hl : l ≤ 1)
    (hP : ∀ r n, P r → r.request.workload ≠ .netTx ∧ P { r with tx := n })
    (hfit : p + (d + 1) ≤ b.toPeer ∨ p + l + q + (d + 1) ≤ b.toPeer + b.toDevice + 1) :
    ∃ p' q' l', Reaches s₀ P .receiving p' q' l' ∧ l' ≤ 1 ∧ p' + q' + l' = p + q + l + (d + 1) := by
  induction hm : 3 * d + 2 * p + l using Nat.strong_induction_on generalizing d p q l with
  | _ m ih =>
      rcases h.move hb with ⟨rfl, hp⟩ | ⟨hp, hq, hl'⟩ | ⟨d', p', q', l', h', hlt, hsum, hmove⟩
      · exact ⟨_, _, _, h.finish hp hP, hl, by omega⟩
      · omega
      · obtain ⟨p'', q'', l'', hr, hl', hs⟩ := ih _ (by omega) h' (by omega) (by omega) rfl
        exact ⟨p'', q'', l'', hr, hl', by omega⟩

/-- Something on the way can be brought to where the device receives it. -/
theorem fed (hb : 0 < b.toDevice) (h : Reaches s₀ P .receiving p q l) (hl : l ≤ 1)
    (hs : 0 < p + q + l) :
    ∃ p' q' l', Reaches s₀ P .receiving p' (q' + 1) l' ∧ l' ≤ 1 ∧
      p' + (q' + 1) + l' = p + q + l := by
  by_cases hq : q = 0
  · subst hq
    by_cases h0 : l = 0
    · obtain ⟨p, rfl⟩ : ∃ e, p = e + 1 := ⟨p - 1, by omega⟩
      subst h0
      exact ⟨p, 0, 0, h.takeIn.giveBack hb, Nat.zero_le _, by omega⟩
    · obtain rfl : l = 1 := by omega
      exact ⟨p, 0, 0, h.giveBack hb, Nat.zero_le _, by omega⟩
  · obtain ⟨q, rfl⟩ : ∃ e, q = e + 1 := ⟨q - 1, by omega⟩
    exact ⟨p, q, l, h, hl, rfl⟩

/-- An unpaced bidirectional run before its deadline. -/
def Unpaced (r : NetLocals) : Prop :=
  r.request.workload = .netBidirectional ∧ r.request.rateBps = 0 ∧ 0 < r.deadline

theorem Unpaced.moves {r : NetLocals} (h : Unpaced r) :
    r.request.workload ≠ .netTx ∧ r.request.workload ≠ .netRx := by
  rw [h.1]
  exact ⟨DbWorkload.noConfusion, DbWorkload.noConfusion⟩

/-- **Every iteration leaves 4095 bytes more on the way**, until a send does not fit. -/
theorem piles_up (hp : 0 < b.toPeer) (hq : 0 < b.toDevice)
    (h : Reaches s₀ Unpaced (.sending 4095) p q l) (hl : l ≤ 1) :
    ∃ d' l', Reaches s₀ Unpaced (.sending d') b.toPeer b.toDevice (l' + 1) := by
  induction hm : b.toPeer + b.toDevice + 1 - (p + q + l) using Nat.strong_induction_on
    generalizing p q l with
  | _ m ih =>
      obtain ⟨hp', hq'⟩ := h.bounds
      by_cases hfit : p + (4095 + 1) ≤ b.toPeer ∨
          p + l + q + (4095 + 1) ≤ b.toPeer + b.toDevice + 1
      · obtain ⟨p₁, q₁, l₁, h₁, hl₁, hs₁⟩ :=
          h.sent hp hl (fun r n hr => ⟨(Unpaced.moves hr).1, hr⟩) hfit
        obtain ⟨p₂, q₂, l₂, h₂, hl₂, hs₂⟩ := h₁.fed hq hl₁ (by omega)
        have h₃ := h₂.next fun r n hr => ⟨(Unpaced.moves hr).2, hr.2.1, hr.2.2, hr⟩
        exact ih _ (by omega) h₃ hl₂ rfl
      · obtain ⟨h1, h2⟩ := not_or.mp hfit
        exact h.deadlock hp (by omega) (by omega)

/-- The first block of a run. -/
theorem first {r : DbRunRequest} (h₀ : TrafficStart s₀) (hr : s₀.device = some (.connect r))
    (hw : r.workload = .netBidirectional) (hrate : r.rateBps = 0) (hdur : 0 < r.durationMs) :
    Reaches s₀ Unpaced (.sending 4095) 0 0 0 := by
  have hlocals : Unpaced ⟨r, 0 + r.durationMs, 0, 0, true⟩ := ⟨hw, hrate, Nat.lt_add_left 0 hdur⟩
  have hstart : Reach ((traffic b .echo).startingAt s₀) Always s₀ := .start rfl
  have hconnected := later hstart (steps (e := .returning 0) hr rfl rfl)
  have htest := later hconnected (steps (e := .returning 0) rfl rfl rfl)
  have hpoll := later htest (steps rfl rfl (tested hlocals.2.2))
  exact after hpoll (steps rfl rfl (polled hlocals.moves.2))
    ⟨⟨_, hlocals, rfl, h₀.block⟩, h₀.block, congrArg BoundedQueue.length h₀.toPeer,
      congrArg BoundedQueue.length h₀.toDevice, by simp only [Traffic.resume, h₀.peer]; rfl,
      Or.inl (by simp only [Traffic.resume, h₀.peer])⟩

end Reaches

namespace Traffic

variable {b : Buffers} {s₀ s : Traffic b} {P : NetLocals → Prop}

/-- Full queues with bytes left on both sides. -/
theorem blocked_of_shows {d l : Nat} (S : Shows P s (.sending d) b.toPeer b.toDevice (l + 1)) :
    s.DeviceBlocked ∧ s.PeerBlocked := by
  obtain ⟨r, -, hd, hu⟩ := S.stage
  refine ⟨⟨⟨r, hd⟩, ?_, S.toPeer⟩, ?_, S.toDevice⟩
  · exact List.length_pos_iff.mp (by omega)
  · exact List.length_pos_iff.mp (by rw [S.left]; exact Nat.succ_pos l)

end Traffic

/-- **A send that begins without room enough can end in the deadlock**: the condition of
    `echo_no_deadlock` leaves out no send that is safe. -/
theorem unfit_send_deadlocks {b : Buffers} (hb : 0 < b.toPeer) {s : Traffic b} {l : NetLocals}
    (hd : s.device = some (.send l)) (hblock : s.block.length = ioBlock)
    (hu : s.unsent.length = ioBlock)
    (hpc : s.peer.pc = .test ∨ s.peer.pc = .recv ∨ s.peer.left ≠ [])
    (hf : ¬ s.FlowFits ioBlock) :
    ∃ t, Reach ((traffic b .echo).startingAt s) Always t ∧ t.DeviceBlocked ∧ t.PeerBlocked := by
  have h : Reaches s (fun _ => True) (.sending 4095) s.toPeer.length s.toDevice.length
      s.peer.left.length :=
    ⟨s, .start rfl, ⟨⟨l, trivial, hd, hu⟩, hblock, rfl, rfl, rfl,
      hpc.imp_right (Or.imp_right List.length_pos_iff.mpr)⟩⟩
  have hio : ioBlock = 4096 := rfl
  obtain ⟨h1, h2⟩ := not_or.mp hf
  obtain ⟨d', l', t, ht, S⟩ := h.deadlock hb (by omega) (by omega)
  exact ⟨t, ht, Traffic.blocked_of_shows S⟩

/-- **The deadlock comes**: from every start of an unpaced run, over connections of any capacities,
    by receiving a byte at a time. -/
theorem echo_deadlock_reachable {b : Buffers} (hp : 0 < b.toPeer) (hq : 0 < b.toDevice)
    {s₀ : Traffic b} (h₀ : TrafficStart s₀) {r : DbRunRequest} (hr : s₀.device = some (.connect r))
    (hw : r.workload = .netBidirectional) (hrate : r.rateBps = 0) (hdur : 0 < r.durationMs) :
    ∃ s, Reach (traffic b .echo) Always s ∧ s.DeviceBlocked ∧ s.PeerBlocked := by
  obtain ⟨d, l, s, hs, S⟩ :=
    (Reaches.first h₀ hr hw hrate hdur).piles_up hp hq (Nat.zero_le 1)
  exact ⟨s, reach_startingAt (.start h₀) hs, Traffic.blocked_of_shows S⟩

/-! ## 6. Deadlock freedom, and its limit -/

/-- **No deadlock while every send fits**: in every run of NET_BIDIRECTIONAL against an echoing
    peer whose sends begin with room enough, the device and the peer are never both blocked. -/
theorem echo_no_deadlock {b : Buffers} {s : Traffic b}
    (h : Reach (traffic b .echo) Traffic.SendFits s) : ¬ (s.DeviceBlocked ∧ s.PeerBlocked) :=
  (Traffic.flowInv_reach h).not_both

/-- A run of one hour without pacing, just connected. -/
def trafficStart (b : Buffers) : Traffic b where
  device := some (.connect ⟨.netBidirectional, 3600000, 0, 5000, ['p', 'c']⟩)
  block := List.replicate 4096 0
  unsent := []
  toPeer := .empty
  toDevice := .empty
  peer := ⟨.test, 0, 0⟩

theorem trafficStart_starts (b : Buffers) : TrafficStart (trafficStart b) :=
  ⟨⟨_, rfl, rfl⟩, List.length_replicate, rfl, rfl, rfl, rfl⟩

/-- The first send of that run, with room for one block each way. -/
theorem echo_no_deadlock_first :
    ∃ s : Traffic ⟨4096, 4096⟩, Reach (traffic ⟨4096, 4096⟩ .echo) Traffic.SendFits s ∧
      s.sending = true ∧ ¬ (s.DeviceBlocked ∧ s.PeerBlocked) := by
  have go : ∀ {s s' : Traffic ⟨4096, 4096⟩}, Reach (traffic ⟨4096, 4096⟩ .echo) Traffic.SendFits s →
      Traffic.SendFits s (.device (.returning 0)) →
      Traffic.step .echo s (.device (.returning 0)) = some s' →
      Reach (traffic ⟨4096, 4096⟩ .echo) Traffic.SendFits s' := fun h hc hs => .step h hc hs
  have h1 := go (.start (trafficStart_starts _)) (fun h => by cases h) (Reaches.steps rfl rfl rfl)
  have h2 := go h1 (fun h => by cases h) (Reaches.steps rfl rfl rfl)
  have h3 := go h2 (fun h => by cases h) (Reaches.steps rfl rfl (Reaches.tested (by decide)))
  have h4 := go h3 (fun _ => Or.inl (by decide))
    (Reaches.steps rfl rfl (Reaches.polled DbWorkload.noConfusion))
  exact ⟨_, h4, rfl, echo_no_deadlock h4⟩

/-- **The two ends can wait for each other**, here with 136832 bytes of buffers towards the peer and
    22144 towards the device. -/
theorem echo_deadlocks :
    ¬ ∀ s : Traffic ⟨136832, 22144⟩, Reach (traffic ⟨136832, 22144⟩ .echo) Always s →
      ¬ (s.DeviceBlocked ∧ s.PeerBlocked) := by
  intro h
  obtain ⟨s, hs, hb⟩ := echo_deadlock_reachable (by decide) (by decide)
    (trafficStart_starts ⟨136832, 22144⟩) rfl rfl rfl (by decide)
  exact h s hs hb

end DragonBench
