/-
  File:      DragonBench/Transfers.lean
  Subject:   WHAT THE TWO ENDS OF A NETWORK RUN COUNT: `run_network` against `traffic_peer`, every
             workload against every mode, over one connection of any capacities.

  A session is the two programs and the two queues with a history of the bytes that went into and
  came out of the connection. The counters of both programs are compared with these bytes, and the
  pairs of a workload and a mode are told apart by what a passing run has moved.

  * `Session`, `session` -- the two programs with their history, any fragmentation;
  * `SessionStep`, `sessionStep_cases` -- what a step can do;
  * `WireInv`, `PeerInv`, `Counted` -- the connection, the peer and the device;
  * **`traffic_accounts`** -- no byte is lost, made up or put out of order between the two ends, and
    what each of them reports is what it has handed over or got;
  * **`mismatched_pass`** -- what a passing run has moved when the mode does not fit the workload.
-/
import DragonBench.Echo

namespace DragonBench

open Transition

/-! ## 1. A session -/

/-- What `run_network` returns: `ok`, `*tx`, `*rx`. -/
abbrev NetResult := Bool × Nat × Nat

/-- How much of a `sendall` under way the socket has taken. -/
def Peer.handed (p : Peer) : Nat :=
  match p.pc with
  | .sendall data left => data.length - left.length
  | .test | .recv | .closed => 0

/-- The two programs, and as history the bytes that each of them has handed over and got, what
    `run_network` has returned, whether the peer has met the end of the stream, and how many bytes
    the socket had taken of the `sendall`s that the peer has given up. -/
structure Session (b : Buffers) where
  now : Traffic b
  sent : List UInt8
  received : List UInt8
  peerSent : List UInt8
  peerReceived : List UInt8
  result : Option NetResult
  ended : Bool
  givenUp : Nat

/-- What a call returns. -/
def Outcome.returned {π : Type} : Outcome π → Option NetResult
  | .more _ => none
  | .done ok a b => some (ok, a, b)

/-- The outcome of `run_network` at a step. -/
def Traffic.outcome {b : Buffers} (s : Traffic b) (e : Seen) : Option NetResult :=
  s.device.bind fun pc => (runNetwork e pc).returned

namespace Session

variable {b : Buffers}

/-- One step of one of the two programs, and the bytes it moves. -/
def step (mode : TrafficMode) (s : Session b) (a : Traffic.Label) : Option (Session b) :=
  (s.now.step mode a).map fun t =>
    match a with
    | .device e => { s with now := t, result := (s.now.outcome e).or s.result }
    | .send k => { s with now := t, sent := s.sent ++ s.now.unsent.take k }
    | .recv n => { s with now := t, received := s.received ++ s.now.toDevice.items.take n }
    | .peerRecv n => { s with now := t, peerReceived := s.peerReceived ++ s.now.toPeer.items.take n }
    | .peerSend k => { s with now := t, peerSent := s.peerSent ++ s.now.peer.left.take k }
    | .peerEnd => { s with now := t, ended := true }
    | .peerTimeout | .peerReset => { s with now := t, givenUp := s.givenUp + s.now.peer.handed }
    | .fail _ | .peerTest _ => { s with now := t }

end Session

/-- `run_network` in front of `connect_peer`, and a peer that waits in its loop. -/
structure SessionStart {b : Buffers} (r : DbRunRequest) (s : Session b) : Prop where
  device : s.now.device = some (.connect r)
  block : s.now.block.length = ioBlock
  unsent : s.now.unsent = []
  toPeer : s.now.toPeer = .empty
  toDevice : s.now.toDevice = .empty
  peer : s.now.peer = ⟨.test, 0, 0⟩
  history : s.sent = [] ∧ s.received = [] ∧ s.peerSent = [] ∧ s.peerReceived = []
  result : s.result = none
  ended : s.ended = false
  givenUp : s.givenUp = 0

/-- A run of the request `r` against `traffic_peer`. -/
def session (b : Buffers) (mode : TrafficMode) (r : DbRunRequest) :
    System (Session b) Traffic.Label where
  init := SessionStart r
  step := Session.step mode

/-! ## 2. What a step can do -/

/-- **What a step of a session can do.** -/
inductive SessionStep {b : Buffers} (mode : TrafficMode) (s : Session b) :
    Traffic.Label → Session b → Prop where
  | device {e : Seen} {pc : NetPc} (hd : s.now.device = some pc) (ht : pc.transfers = false) :
      SessionStep mode s (.device e)
        { s with
          now := s.now.resume (runNetwork e pc)
          result := (runNetwork e pc).returned.or s.result }
  | sendPart {l : NetLocals} {k : Nat} {q : BoundedQueue UInt8 b.toPeer}
      (hd : s.now.device = some (.send l)) (hk : 0 < k) (hlt : k < s.now.unsent.length)
      (hq : q.items = s.now.toPeer.items ++ s.now.unsent.take k) :
      SessionStep mode s (.send k)
        { s with
          now := { s.now with toPeer := q, unsent := s.now.unsent.drop k }
          sent := s.sent ++ s.now.unsent.take k }
  | sendAll {l : NetLocals} {k : Nat} {q : BoundedQueue UInt8 b.toPeer}
      (hd : s.now.device = some (.send l)) (hk : 0 < k) (hlen : s.now.unsent.length = k)
      (hq : q.items = s.now.toPeer.items ++ s.now.unsent) :
      SessionStep mode s (.send k)
        { s with
          now := { s.now with toPeer := q }.resume (runNetwork (.returning ioBlock) (.send l))
          sent := s.sent ++ s.now.unsent }
  | recv {l : NetLocals} {n : Nat} {xs : List UInt8} {q : BoundedQueue UInt8 b.toDevice}
      (hd : s.now.device = some (.recv l)) (hn : 0 < n) (hle : n ≤ ioBlock)
      (hq : s.now.toDevice.items = xs ++ q.items) (hlen : xs.length = n) :
      SessionStep mode s (.recv n)
        { s with
          now := { s.now with toDevice := q, block := xs ++ s.now.block.drop n }.resume
            (runNetwork (.returning n) (.recv l))
          received := s.received ++ xs }
  | fail {ret : Int} {pc : NetPc} (hd : s.now.device = some pc) (ht : pc.transfers = true)
      (hp : s.now.peer.pc = .closed) (hret : ret ≤ 0) :
      SessionStep mode s (.fail ret)
        { s with now := s.now.resume (runNetwork (.returning ret) pc) }
  | peerTest {inTime : Bool} {p : Peer} (hp : trafficPeer mode s.now.peer (.clock inTime) = some p) :
      SessionStep mode s (.peerTest inTime) { s with now := { s.now with peer := p } }
  | peerRecv {n : Nat} {xs : List UInt8} {q : BoundedQueue UInt8 b.toPeer} {p : Peer}
      (hn : 0 < n) (hq : s.now.toPeer.items = xs ++ q.items) (hlen : xs.length = n)
      (hp : trafficPeer mode s.now.peer (.received xs) = some p) :
      SessionStep mode s (.peerRecv n)
        { s with
          now := { s.now with peer := p, toPeer := q }
          peerReceived := s.peerReceived ++ xs }
  | peerSend {k : Nat} {q : BoundedQueue UInt8 b.toDevice} {p : Peer} (hk : 0 < k)
      (hle : k ≤ s.now.peer.left.length)
      (hq : q.items = s.now.toDevice.items ++ s.now.peer.left.take k)
      (hp : trafficPeer mode s.now.peer (.accepted k) = some p) :
      SessionStep mode s (.peerSend k)
        { s with
          now := { s.now with peer := p, toDevice := q }
          peerSent := s.peerSent ++ s.now.peer.left.take k }
  | peerTimeout {p : Peer} (hp : trafficPeer mode s.now.peer .timeout = some p) :
      SessionStep mode s .peerTimeout
        { s with
          now := { s.now with peer := p }
          givenUp := s.givenUp + s.now.peer.handed }
  | peerEnd {p : Peer} (hg : s.now.deviceGone = true) (hq : s.now.toPeer.items = [])
      (hp : trafficPeer mode s.now.peer (.received []) = some p) :
      SessionStep mode s .peerEnd { s with now := { s.now with peer := p }, ended := true }
  | peerReset {p : Peer} (hp : trafficPeer mode s.now.peer .reset = some p) :
      SessionStep mode s .peerReset
        { s with
          now := { s.now with peer := p }
          givenUp := s.givenUp + s.now.peer.handed }

/-- **Every step is one of these.** -/
theorem sessionStep_cases {b : Buffers} {mode : TrafficMode} {s s' : Session b} {a : Traffic.Label}
    (h : Session.step mode s a = some s') : SessionStep mode s a s' := by
  obtain ⟨t, ht, rfl⟩ := Option.map_eq_some_iff.mp h
  cases a with
  | device e =>
      simp only [Traffic.step] at ht
      split at ht
      · rename_i pc hd
        split at ht
        · cases ht
        · rename_i hf
          cases ht
          have hout : s.now.outcome e = (runNetwork e pc).returned := by
            rw [Traffic.outcome, hd]
            rfl
          dsimp only
          rw [hout]
          exact .device hd (Bool.eq_false_iff.mpr hf)
      · cases ht
  | send k =>
      simp only [Traffic.step] at ht
      split at ht
      · rename_i l hd
        obtain ⟨⟨hk, hle⟩, ht⟩ := Option.ite_none_right_eq_some.mp ht
        obtain ⟨q, hq, rfl⟩ := Option.map_eq_some_iff.mp ht
        have hitems := BoundedQueue.push_items hq
        by_cases he : s.now.unsent.drop k = []
        · have hlen : s.now.unsent.length = k := by
            have h0 := List.drop_eq_nil_iff.mp he
            omega
          have htake : s.now.unsent.take k = s.now.unsent := by
            rw [← hlen, List.take_length]
          rw [htake] at hitems
          dsimp only
          rw [if_pos he, htake]
          exact .sendAll hd hk hlen hitems
        · dsimp only
          rw [if_neg he]
          refine .sendPart hd hk ?_ hitems
          by_contra hn
          exact he (List.drop_eq_nil_of_le (by omega))
      · cases ht
  | recv n =>
      simp only [Traffic.step] at ht
      split at ht
      · rename_i l hd
        obtain ⟨⟨hn, hle⟩, ht⟩ := Option.ite_none_right_eq_some.mp ht
        obtain ⟨⟨xs, q⟩, hq, rfl⟩ := Option.map_eq_some_iff.mp ht
        obtain ⟨hi, hlen⟩ := BoundedQueue.pop_items hq
        dsimp only
        rw [BoundedQueue.pop_take hq]
        exact .recv hd hn hle hi hlen
      · cases ht
  | fail ret =>
      simp only [Traffic.step] at ht
      split at ht
      · rename_i pc hd
        obtain ⟨⟨hf, hp, hret⟩, ht⟩ := Option.ite_none_right_eq_some.mp ht
        cases ht
        exact .fail hd hf hp hret
      · cases ht
  | peerTest inTime =>
      obtain ⟨p, hp, rfl⟩ := Option.map_eq_some_iff.mp ht
      exact .peerTest hp
  | peerRecv n =>
      obtain ⟨⟨hn, -⟩, ht⟩ := Option.ite_none_right_eq_some.mp ht
      obtain ⟨⟨xs, q⟩, hq, ht⟩ := Option.bind_eq_some_iff.mp ht
      obtain ⟨p, hp, rfl⟩ := Option.map_eq_some_iff.mp ht
      obtain ⟨hi, hlen⟩ := BoundedQueue.pop_items hq
      dsimp only
      rw [BoundedQueue.pop_take hq]
      exact .peerRecv hn hi hlen hp
  | peerSend k =>
      obtain ⟨⟨hk, hle⟩, ht⟩ := Option.ite_none_right_eq_some.mp ht
      obtain ⟨q, hq, ht⟩ := Option.bind_eq_some_iff.mp ht
      obtain ⟨p, hp, rfl⟩ := Option.map_eq_some_iff.mp ht
      exact .peerSend hk hle (BoundedQueue.push_items hq) hp
  | peerTimeout =>
      obtain ⟨p, hp, rfl⟩ := Option.map_eq_some_iff.mp ht
      exact .peerTimeout hp
  | peerEnd =>
      obtain ⟨⟨hg, hq⟩, ht⟩ := Option.ite_none_right_eq_some.mp ht
      obtain ⟨p, hp, rfl⟩ := Option.map_eq_some_iff.mp ht
      exact .peerEnd hg hq hp
  | peerReset =>
      obtain ⟨-, ht⟩ := Option.ite_none_right_eq_some.mp ht
      obtain ⟨p, hp, rfl⟩ := Option.map_eq_some_iff.mp ht
      exact .peerReset hp

/-! ## 3. The connection -/

/-- **What is on the way** is what was handed over and not yet got; at the end of the stream nothing
    is on the way any more. -/
structure WireInv {b : Buffers} (s : Session b) : Prop where
  toPeer : s.sent = s.peerReceived ++ s.now.toPeer.items
  toDevice : s.peerSent = s.received ++ s.now.toDevice.items
  ended : s.ended = true → s.now.deviceGone = true ∧ s.now.toPeer.items = []

section Proofs

variable {b : Buffers} {mode : TrafficMode} {r : DbRunRequest} {s s' : Session b}

/-- Once `shutdown` is behind, the device is gone for good. -/
theorem gone_resume {t : Traffic b} {e : Seen} {pc : NetPc} (hd : t.device = some pc)
    (h : t.deviceGone = true) : (t.resume (runNetwork e pc)).deviceGone = true := by
  rw [Traffic.deviceGone, hd] at h
  cases pc with
  | exit l => rfl
  | connect | enter | test | poll | send | recv | delay | shutdown => cases h

/-- The device is not gone while it is in a call. -/
theorem not_gone {t : Traffic b} {pc : NetPc} (hd : t.device = some pc) (ht : pc.hungUp = false) :
    t.deviceGone = false := by
  rw [Traffic.deviceGone, hd]
  exact ht

theorem resume_toPeer (t : Traffic b) (o : Outcome NetPc) : (t.resume o).toPeer = t.toPeer := by
  cases o <;> rfl

theorem resume_toDevice (t : Traffic b) (o : Outcome NetPc) :
    (t.resume o).toDevice = t.toDevice := by
  cases o <;> rfl

theorem resume_peer (t : Traffic b) (o : Outcome NetPc) : (t.resume o).peer = t.peer := by
  cases o <;> rfl

/-- A device in a call has not been seen to end. -/
theorem WireInv.not_ended (I : WireInv s) {pc : NetPc} (hd : s.now.device = some pc)
    (ht : pc.hungUp = false) : s.ended = false := by
  cases he : s.ended with
  | false => rfl
  | true =>
      have hg := (I.ended he).1
      rw [not_gone hd ht] at hg
      cases hg

/-- The device goes on, and nothing is handed over. -/
theorem WireInv.resume (I : WireInv s) {e : Seen} {pc : NetPc} (hd : s.now.device = some pc)
    (result : Option NetResult) :
    WireInv { s with now := s.now.resume (runNetwork e pc), result := result } where
  toPeer := by
    rw [resume_toPeer]
    exact I.toPeer
  toDevice := by
    rw [resume_toDevice]
    exact I.toDevice
  ended he := by
    refine ⟨gone_resume hd (I.ended he).1, ?_⟩
    rw [resume_toPeer]
    exact (I.ended he).2

theorem wireInv_step (I : WireInv s) {a : Traffic.Label} (h : SessionStep mode s a s') :
    WireInv s' := by
  cases h with
  | device hd ht => exact I.resume hd _
  | @sendPart l k q hd hk hlt hq =>
      refine ⟨?_, I.toDevice, fun he => ?_⟩
      · show s.sent ++ s.now.unsent.take k = s.peerReceived ++ q.items
        rw [hq, I.toPeer, List.append_assoc]
      · cases he.symm.trans (I.not_ended hd rfl)
  | @sendAll l k q hd hk hlen hq =>
      refine ⟨?_, ?_, fun he => ?_⟩
      · rw [resume_toPeer]
        show s.sent ++ s.now.unsent = s.peerReceived ++ q.items
        rw [hq, I.toPeer, List.append_assoc]
      · rw [resume_toDevice]
        exact I.toDevice
      · cases he.symm.trans (I.not_ended hd rfl)
  | @recv l n xs q hd hn hle hq hlen =>
      refine ⟨?_, ?_, fun he => ?_⟩
      · rw [resume_toPeer]
        exact I.toPeer
      · rw [resume_toDevice]
        show s.peerSent = s.received ++ xs ++ q.items
        rw [I.toDevice, hq, List.append_assoc]
      · cases he.symm.trans (I.not_ended hd rfl)
  | fail hd ht hp hret => exact I.resume hd _
  | peerTest | peerTimeout | peerReset => exact ⟨I.toPeer, I.toDevice, I.ended⟩
  | @peerRecv n xs q p hn hq hlen hp =>
      refine ⟨?_, I.toDevice, fun he => ?_⟩
      · show s.sent = s.peerReceived ++ xs ++ q.items
        rw [I.toPeer, hq, List.append_assoc]
      · -- nothing can be read behind the end of the stream
        have hnil := (I.ended he).2
        rw [hq, List.append_eq_nil_iff] at hnil
        rw [hnil.1] at hlen
        exact absurd hlen (Nat.ne_of_lt hn)
  | @peerSend k q p hk hle hq hp =>
      refine ⟨I.toPeer, ?_, I.ended⟩
      show s.peerSent ++ s.now.peer.left.take k = s.received ++ q.items
      rw [hq, I.toDevice, List.append_assoc]
  | peerEnd hg hq hp => exact ⟨I.toPeer, I.toDevice, fun _ => ⟨hg, hq⟩⟩

theorem wireInv_start (h : SessionStart r s) : WireInv s := by
  obtain ⟨h1, h2, h3, h4⟩ := h.history
  refine ⟨?_, ?_, fun he => ?_⟩
  · rw [h1, h4, h.toPeer]
    rfl
  · rw [h2, h3, h.toDevice]
    rfl
  · cases he.symm.trans h.ended

end Proofs

/-! ## 4. The peer -/

theorem handed_sendall (data left : List UInt8) (tx rx : Nat) :
    (Peer.mk (.sendall data left) tx rx).handed = data.length - left.length := rfl

/-- **The counters of the peer.** What it has counted as sent, what the socket has taken of the
    `sendall` under way and of those given up is all it has handed over. What an echo has given back
    is, in order, some of what it got; a sink gives nothing, a source gets nothing. -/
structure PeerInv {b : Buffers} (mode : TrafficMode) (s : Session b) : Prop where
  rx : s.now.peer.rx = s.peerReceived.length
  tx : s.now.peer.tx + s.now.peer.handed + s.givenUp = s.peerSent.length
  left : ∀ data left, s.now.peer.pc = .sendall data left → left.length ≤ data.length ∧ left ≠ []
  echo : mode = .echo → (s.peerSent ++ s.now.peer.left).Sublist s.peerReceived
  sink : mode = .sink → s.peerSent = [] ∧ s.now.peer.left = []
  source : mode = .source → s.peerReceived = [] ∧ s.now.peer.pc ≠ .recv

section Proofs

variable {b : Buffers} {mode : TrafficMode} {r : DbRunRequest} {s s' : Session b} {p : Peer}

theorem peerBlock_length : peerBlock.length = 4096 := by
  rw [peerBlock, List.length_map, List.length_range]

/-- The end of the stream ends the loop, with no `sendall` under way. -/
theorem peer_eof (h : trafficPeer mode s.now.peer (.received []) = some p) :
    p = { s.now.peer with pc := .closed } ∧ s.now.peer.handed = 0 := by
  simp only [trafficPeer] at h
  split at h
  · rename_i hpc
    cases h
    exact ⟨rfl, by rw [Peer.handed, hpc]⟩
  · cases h

/-- The peer goes to a point where it has nothing left to send, its counters unchanged: a `sendall`
    under way is given up. -/
theorem PeerInv.idle (I : PeerInv mode s) {pc : PeerPc} (hpc : pc = .test ∨ pc = .closed)
    {givenUp : Nat} (hg : givenUp = s.givenUp + s.now.peer.handed) :
    PeerInv mode { s with
      now := { s.now with peer := { s.now.peer with pc := pc } }
      givenUp := givenUp } where
  rx := I.rx
  tx := by
    have h := I.tx
    have hnone : (Peer.mk pc s.now.peer.tx s.now.peer.rx).handed = 0 := by
      rcases hpc with rfl | rfl <;> rfl
    show s.now.peer.tx + (Peer.mk pc s.now.peer.tx s.now.peer.rx).handed + givenUp = s.peerSent.length
    rw [hnone, hg]
    omega
  left data left h := by
    rcases hpc with rfl | rfl <;> cases h
  echo hm := by
    have hsub := (List.sublist_append_left s.peerSent s.now.peer.left).trans (I.echo hm)
    rcases hpc with rfl | rfl <;> rwa [Peer.left, List.append_nil]
  sink hm := ⟨(I.sink hm).1, by rcases hpc with rfl | rfl <;> rfl⟩
  source hm := ⟨(I.source hm).1, by rcases hpc with rfl | rfl <;> exact fun h => PeerPc.noConfusion h⟩

/-- Nothing of the device's side concerns the peer. -/
theorem PeerInv.frame (I : PeerInv mode s) {t : Traffic b} (ht : t.peer = s.now.peer)
    (sent received : List UInt8) (result : Option NetResult) (ended : Bool) :
    PeerInv mode ⟨t, sent, received, s.peerSent, s.peerReceived, result, ended, s.givenUp⟩ where
  rx := by rw [ht]; exact I.rx
  tx := by rw [ht]; exact I.tx
  left := by rw [ht]; exact I.left
  echo := by rw [ht]; exact I.echo
  sink := by rw [ht]; exact I.sink
  source := by rw [ht]; exact I.source

/-- **A piece of a `sendall`**: what the socket takes leaves the argument and joins the stream. -/
theorem PeerInv.taken (I : PeerInv mode s) {data left : List UInt8} {k : Nat}
    (hpc : s.now.peer.pc = .sendall data left) (hk : k ≤ left.length) :
    left.length ≤ data.length ∧ mode ≠ .sink ∧
      (s.peerSent ++ left.take k).length = s.peerSent.length + k ∧
      s.now.peer.tx + (data.length - left.length) + s.givenUp = s.peerSent.length ∧
      (mode = .echo → (s.peerSent ++ left.take k ++ left.drop k).Sublist s.peerReceived) := by
  obtain ⟨hlen, hne⟩ := I.left data left hpc
  have hleft := Peer.left_sendall hpc
  have htx := I.tx
  rw [Peer.handed, hpc] at htx
  refine ⟨hlen, fun h => ?_, ?_, htx, fun h => ?_⟩
  · have hnone := (I.sink h).2
    rw [hleft] at hnone
    exact hne hnone
  · rw [List.length_append, List.length_take_of_le hk]
  · have hsub := I.echo h
    rw [hleft] at hsub
    rwa [List.append_assoc, List.take_append_drop]

theorem peerInv_step (I : PeerInv mode s) {a : Traffic.Label} (h : SessionStep mode s a s') :
    PeerInv mode s' := by
  cases h with
  | device | fail =>
      refine I.frame ?_ _ _ _ _
      exact resume_peer ..
  | sendAll | recv =>
      refine I.frame ?_ _ _ _ _
      exact (resume_peer ..).trans rfl
  | sendPart =>
      refine I.frame ?_ _ _ _ _
      rfl
  | @peerTest inTime p hp =>
      cases peerStep_cases hp with
      | timeUp hpc => exact I.idle (Or.inr rfl) (by rw [Peer.handed, hpc, Nat.add_zero])
      | block hpc hm =>
          refine ⟨I.rx, ?_, ?_, fun h => ?_, fun h => ?_, fun _ =>
            ⟨(I.source hm).1, fun h => PeerPc.noConfusion h⟩⟩
          · rw [handed_sendall, Nat.sub_self, ← I.tx, Peer.handed, hpc]
          · intro data left h
            obtain ⟨h1, h2⟩ := PeerPc.sendall.inj h
            rw [← h1, ← h2]
            refine ⟨le_rfl, fun e => ?_⟩
            have hlen := congrArg List.length e
            rw [peerBlock_length] at hlen
            cases hlen
          · cases hm.symm.trans h
          · cases hm.symm.trans h
      | await hpc hm =>
          refine ⟨I.rx, ?_, fun _ _ h => PeerPc.noConfusion h, fun h => ?_,
            fun h => ⟨(I.sink h).1, rfl⟩, fun h => absurd h hm⟩
          · rw [← I.tx, Peer.handed, Peer.handed, hpc]
          · have hsub := (List.sublist_append_left s.peerSent s.now.peer.left).trans (I.echo h)
            rwa [Peer.left, List.append_nil]
  | @peerRecv n xs q p hn hq hlen hp =>
      have hrx : s.now.peer.rx + xs.length = (s.peerReceived ++ xs).length := by
        rw [I.rx, List.length_append]
      cases peerStep_cases hp with
      | eof hpc => exact absurd hlen (Nat.ne_of_lt hn)
      | sink hpc hm =>
          refine ⟨hrx, ?_, fun _ _ h => PeerPc.noConfusion h, fun h => absurd h hm,
            fun h => ⟨(I.sink h).1, rfl⟩, fun h => ?_⟩
          · rw [← I.tx, Peer.handed, Peer.handed, hpc]
          · exact absurd hpc (I.source h).2
      | echo hpc hm hne =>
          have hleft : s.now.peer.left = [] := by
            rw [Peer.left, hpc]
          refine ⟨hrx, ?_, ?_, fun h => ?_, fun h => ?_, fun h => ?_⟩
          · rw [handed_sendall, Nat.sub_self, ← I.tx, Peer.handed, hpc]
          · intro data left h
            cases h
            exact ⟨le_rfl, hne⟩
          · have hsub := I.echo h
            rw [hleft, List.append_nil] at hsub
            exact hsub.append (List.Sublist.refl xs)
          · cases hm.symm.trans h
          · exact absurd hpc (I.source h).2
  | @peerSend k q p hk hle hq hp =>
      cases peerStep_cases hp with
      | @all _ data left hpc hd =>
          rw [Peer.left_sendall hpc] at hle ⊢
          obtain ⟨hlen, hsink, hsum, htx, hecho⟩ := I.taken hpc hle
          have hk' := List.drop_eq_nil_iff.mp hd
          refine ⟨I.rx, ?_, fun _ _ h => PeerPc.noConfusion h, fun h => ?_,
            fun h => absurd h hsink, fun h => ⟨(I.source h).1, fun h => PeerPc.noConfusion h⟩⟩
          · show s.now.peer.tx + data.length + 0 + s.givenUp = (s.peerSent ++ left.take k).length
            rw [hsum]
            omega
          · have hsub := hecho h
            rwa [hd] at hsub
      | @more _ data left hpc hd =>
          rw [Peer.left_sendall hpc] at hle ⊢
          obtain ⟨hlen, hsink, hsum, htx, hecho⟩ := I.taken hpc hle
          refine ⟨I.rx, ?_, ?_, hecho, fun h => absurd h hsink, fun h =>
            ⟨(I.source h).1, fun h => PeerPc.noConfusion h⟩⟩
          · rw [handed_sendall, hsum, List.length_drop]
            show s.now.peer.tx + (data.length - (left.length - k)) + s.givenUp = s.peerSent.length + k
            omega
          · intro data' left' h
            cases h
            rw [List.length_drop]
            exact ⟨by omega, hd⟩
  | peerTimeout hp =>
      cases peerStep_cases hp with
      | lull | cut => exact I.idle (Or.inl rfl) rfl
  | peerReset hp =>
      cases peerStep_cases hp with
      | reset => exact I.idle (Or.inr rfl) rfl
  | peerEnd hg hq hp =>
      obtain ⟨rfl, hnone⟩ := peer_eof hp
      exact (I.idle (Or.inr rfl) (by rw [hnone, Nat.add_zero])).frame rfl _ _ _ _

theorem peerInv_start (h : SessionStart r s) : PeerInv mode s := by
  obtain ⟨-, -, h3, h4⟩ := h.history
  refine ⟨?_, ?_, ?_, fun _ => ?_, fun _ => ⟨h3, ?_⟩, fun _ => ⟨h4, ?_⟩⟩
  all_goals rw [h.peer]
  · rw [h4]
    rfl
  · rw [h3, h.givenUp]
    rfl
  · exact nofun
  · rw [h3]
    exact List.nil_sublist _
  · rfl
  · exact nofun

end Proofs

/-! ## 5. The device -/

/-- **The counters of a loop that runs**: `part` bytes of a block are handed over and not yet
    counted, `ahead` is 1 between the send and the receipt of one round. -/
structure Counting (r : DbRunRequest) (sent received : Nat) (l : NetLocals) (part ahead : Nat) :
    Prop where
  request : l.request = r
  ok : l.ok = true
  tx : sent = l.tx + part
  rx : received = l.rx
  onlyTx : r.workload = .netTx → l.rx = 0
  onlyRx : r.workload = .netRx → l.tx = 0
  /-- a round that receives gets at least one byte for its block -/
  both : r.workload ≠ .netTx → l.tx ≤ ioBlock * (l.rx + ahead)

/-- **The counters behind the loop.** -/
structure Stopped (r : DbRunRequest) (sent received : Nat) (ok : Bool) (tx rx : Nat) : Prop where
  got : received = rx
  tx_le : tx ≤ sent
  tx_lt : sent < tx + ioBlock
  tx_eq : ok = true → sent = tx
  onlyTx : r.workload = .netTx → rx = 0
  onlyRx : r.workload = .netRx → sent = 0
  both : ok = true → r.workload ≠ .netTx → tx ≤ ioBlock * rx

/-- **What `run_network` has counted** at a control point, of the bytes it has handed over and got,
    with `unsent` bytes of a block left to hand over. -/
def Counted (r : DbRunRequest) (sent received unsent : Nat) : NetPc → Prop
  | .connect r' | .enter r' => r' = r ∧ sent = 0 ∧ received = 0
  | .test l | .poll l | .delay l _ => Counting r sent received l 0 0
  | .send l => r.workload ≠ .netRx ∧ 0 < unsent ∧ unsent ≤ ioBlock ∧
      Counting r sent received l (ioBlock - unsent) 0
  | .recv l => r.workload ≠ .netTx ∧ Counting r sent received l 0 1
  | .shutdown l | .exit l => Stopped r sent received l.ok l.tx l.rx

/-- The same of an outcome. -/
def CountedOutcome (r : DbRunRequest) (sent received : Nat) : Outcome NetPc → Prop
  | .more pc => Counted r sent received ioBlock pc
  | .done ok tx rx => Stopped r sent received ok tx rx

/-- The device of a session. -/
structure TallyInv {b : Buffers} (r : DbRunRequest) (s : Session b) : Prop where
  block : s.now.block.length = ioBlock
  running : ∀ pc, s.now.device = some pc →
    s.result = none ∧ Counted r s.sent.length s.received.length s.now.unsent.length pc
  returned : ∀ ok tx rx, s.result = some (ok, tx, rx) →
    Stopped r s.sent.length s.received.length ok tx rx

section Proofs

variable {r : DbRunRequest} {sent received : Nat} {l : NetLocals} {part : Nat}

theorem Counting.weaken (C : Counting r sent received l part 0) :
    Counting r sent received l part 1 :=
  { C with both := fun h => (C.both h).trans (Nat.mul_le_mul_left _ (Nat.le_succ _)) }

/-- A loop that ends without a failure. -/
theorem Counting.stopped (C : Counting r sent received l 0 0) :
    Stopped r sent received l.ok l.tx l.rx where
  got := C.rx
  tx_le := Nat.le_of_eq C.tx.symm
  tx_lt := by
    rw [C.tx]
    exact Nat.lt_add_of_pos_right (by decide)
  tx_eq _ := C.tx
  onlyTx := C.onlyTx
  onlyRx h := C.tx.trans (C.onlyRx h)
  both _ := C.both

/-- A failed call ends the loop. -/
theorem Counting.failed {ahead : Nat} (C : Counting r sent received l part ahead)
    (hpart : part < ioBlock) (hrx : r.workload = .netRx → part = 0) :
    Stopped r sent received false l.tx l.rx where
  got := C.rx
  tx_le := by
    rw [C.tx]
    exact Nat.le_add_right _ _
  tx_lt := by
    rw [C.tx]
    exact Nat.add_lt_add_left hpart _
  tx_eq := nofun
  onlyTx := C.onlyTx
  onlyRx h := by rw [C.tx, C.onlyRx h, hrx h]
  both := nofun

theorem counted_pace {n : Nat} (C : Counting r sent received l 0 0) :
    Counted r sent received n (netPace l) := by
  unfold netPace
  split <;> exact C

/-- The receiving half begins with one round ahead. -/
theorem counted_netRecv {n : Nat} (C : Counting r sent received l 0 1) :
    Counted r sent received n (netRecv l) := by
  unfold netRecv
  by_cases h : l.request.workload = .netTx
  · rw [if_neg (not_not.mpr h)]
    rw [C.request] at h
    exact counted_pace { C with both := fun hn => absurd h hn }
  · rw [if_pos h]
    rw [C.request] at h
    exact ⟨h, C⟩

theorem counted_netSend (C : Counting r sent received l 0 0) :
    Counted r sent received ioBlock (netSend l) := by
  unfold netSend
  by_cases h : l.request.workload = .netRx
  · rw [if_neg (not_not.mpr h)]
    exact counted_netRecv C.weaken
  · rw [if_pos h]
    rw [C.request] at h
    refine ⟨h, by decide, le_rfl, ?_⟩
    rw [Nat.sub_self]
    exact C

/-- **A step of `run_network` outside `send` and `recv`** keeps the counters. -/
theorem counted_step {unsent : Nat} {e : Seen} {pc : NetPc}
    (h : Counted r sent received unsent pc) (ht : pc.transfers = false) :
    CountedOutcome r sent received (runNetwork e pc) := by
  cases pc with
  | connect r' =>
      obtain ⟨rfl, h1, h2⟩ := h
      simp only [runNetwork]
      split
      · subst h1 h2
        exact ⟨rfl, le_rfl, by decide, fun _ => rfl, fun _ => rfl, fun _ => rfl,
          fun h => Bool.noConfusion h⟩
      · exact ⟨rfl, h1, h2⟩
  | enter r' =>
      obtain ⟨rfl, rfl, rfl⟩ := h
      exact ⟨rfl, rfl, rfl, rfl, fun _ => rfl, fun _ => rfl, fun _ => Nat.zero_le _⟩
  | test l =>
      simp only [runNetwork]
      split
      · exact h
      · exact Counting.stopped h
  | poll l =>
      simp only [runNetwork]
      split
      · exact Counting.stopped h
      · exact counted_netSend h
  | send | recv => cases ht
  | delay l ms => exact h
  | shutdown l => exact h
  | exit l =>
      have S : Stopped r sent received l.ok l.tx l.rx := h
      refine ⟨S.got, S.tx_le, S.tx_lt, fun hok => S.tx_eq ?_, S.onlyTx, S.onlyRx, fun hok => S.both ?_⟩
      · exact (Bool.and_eq_true_iff.mp hok).1
      · exact (Bool.and_eq_true_iff.mp hok).1

/-- A `send` that has handed over the whole block. -/
theorem counted_sent {unsent : Nat} (h : Counted r sent received unsent (.send l)) :
    CountedOutcome r (sent + unsent) received (runNetwork (.returning ioBlock) (.send l)) := by
  obtain ⟨hw, -, hle, C⟩ := h
  refine counted_netRecv (l := { l with tx := l.tx + ioBlock }) ⟨C.request, C.ok, ?_, C.rx, C.onlyTx,
    fun h => absurd h hw, fun h => ?_⟩
  · have htx := C.tx
    show sent + unsent = l.tx + ioBlock + 0
    omega
  · have hb := C.both h
    show l.tx + ioBlock ≤ ioBlock * (l.rx + 1)
    rw [Nat.mul_succ]
    exact Nat.add_le_add_right hb _

/-- A `recv` that has got `n` bytes. -/
theorem counted_received {n unsent : Nat} (h : Counted r sent received unsent (.recv l)) (hn : 0 < n) :
    CountedOutcome r sent (received + n) (runNetwork (.returning n) (.recv l)) := by
  obtain ⟨hw, C⟩ := h
  have hrun : runNetwork (.returning n) (.recv l) = .more (netPace { l with rx := l.rx + n }) := by
    have hpos : ¬ ((n : Int) ≤ 0) := by omega
    exact if_neg hpos
  rw [hrun]
  refine counted_pace ⟨C.request, C.ok, C.tx, ?_, fun h => absurd h hw, C.onlyRx, fun h => ?_⟩
  · rw [C.rx]
  · refine (C.both h).trans (Nat.mul_le_mul_left _ ?_)
    show l.rx + 1 ≤ l.rx + n + 0
    omega

/-- A call that fails. -/
theorem counted_failed {unsent : Nat} {pc : NetPc} {ret : Int}
    (h : Counted r sent received unsent pc) (ht : pc.transfers = true) (hret : ret ≤ 0) :
    CountedOutcome r sent received (runNetwork (.returning ret) pc) := by
  cases pc with
  | send l =>
      obtain ⟨hw, hpos, hle, C⟩ := h
      have hrun : runNetwork (.returning ret) (.send l) = .more (.shutdown { l with ok := false }) :=
        if_pos hret
      rw [hrun]
      exact C.failed (by omega) fun h => absurd h hw
  | recv l =>
      obtain ⟨hw, C⟩ := h
      have hrun : runNetwork (.returning ret) (.recv l) = .more (.shutdown { l with ok := false }) :=
        if_pos hret
      rw [hrun]
      exact C.failed (by decide) fun _ => rfl
  | connect | enter | test | poll | delay | shutdown | exit => cases ht

variable {b : Buffers} {mode : TrafficMode} {s s' : Session b}

/-- **`run_network` goes on** with the counters of its outcome. -/
theorem tallyInv_resume {t : Traffic b} {o : Outcome NetPc} {sent received : List UInt8}
    {result : Option NetResult} (hb : t.block.length = ioBlock) (hr : result = none)
    (h : CountedOutcome r sent.length received.length o) (peerSent peerReceived : List UInt8)
    (ended : Bool) (givenUp : Nat) :
    TallyInv r
      ⟨t.resume o, sent, received, peerSent, peerReceived, o.returned.or result, ended, givenUp⟩ := by
  subst hr
  cases o with
  | more pc =>
      refine ⟨hb, fun pc' hpc => ?_, nofun⟩
      cases hpc
      refine ⟨rfl, ?_⟩
      show Counted r sent.length received.length (if pc.sending then t.block else []).length pc
      cases pc with
      | send l =>
          show Counted r _ _ t.block.length (.send l)
          rw [hb]
          exact h
      | connect | enter | test | poll | recv | delay | shutdown | exit => exact h
  | done ok tx rx =>
      refine ⟨hb, nofun, fun ok' tx' rx' h' => ?_⟩
      cases h'
      exact h

/-- Nothing of the peer's side concerns the device. -/
theorem TallyInv.frame (I : TallyInv r s) {t : Traffic b} (hd : t.device = s.now.device)
    (hu : t.unsent = s.now.unsent) (hb : t.block = s.now.block) (peerSent peerReceived : List UInt8)
    (ended : Bool) (givenUp : Nat) :
    TallyInv r ⟨t, s.sent, s.received, peerSent, peerReceived, s.result, ended, givenUp⟩ where
  block := by rw [hb]; exact I.block
  running pc h := by
    rw [hu]
    exact I.running pc (hd ▸ h)
  returned := I.returned

theorem tallyInv_step (I : TallyInv r s) {a : Traffic.Label} (h : SessionStep mode s a s') :
    TallyInv r s' := by
  cases h with
  | @device e pc hd ht =>
      obtain ⟨hr, hc⟩ := I.running pc hd
      exact tallyInv_resume I.block hr (counted_step hc ht) _ _ _ _
  | @sendPart l k q hd hk hlt hq =>
      obtain ⟨hr, hw, hpos, hle, C⟩ := I.running _ hd
      refine ⟨I.block, fun pc hpc => ?_, fun ok tx rx h => ?_⟩
      · cases hd.symm.trans hpc
        refine ⟨hr, hw, ?_, ?_, ?_⟩
        · show 0 < (s.now.unsent.drop k).length
          rw [List.length_drop]
          omega
        · show (s.now.unsent.drop k).length ≤ ioBlock
          rw [List.length_drop]
          omega
        · refine { C with tx := ?_ }
          have htx := C.tx
          show (s.sent ++ s.now.unsent.take k).length =
            l.tx + (ioBlock - (s.now.unsent.drop k).length)
          rw [List.length_append, List.length_take_of_le (Nat.le_of_lt hlt), List.length_drop]
          omega
      · cases hr.symm.trans h
  | @sendAll l k q hd hk hlen hq =>
      obtain ⟨hr, hc⟩ := I.running _ hd
      have hout := counted_sent hc
      rw [← List.length_append] at hout
      have hnone : (runNetwork (.returning ioBlock) (.send l)).returned = none := rfl
      have D := tallyInv_resume (t := { s.now with toPeer := q }) I.block hr hout s.peerSent
        s.peerReceived s.ended s.givenUp
      rwa [hnone, Option.none_or] at D
  | @recv l n xs q hd hn hle hq hlen =>
      obtain ⟨hr, hc⟩ := I.running _ hd
      have hout := counted_received hc hn
      rw [← hlen, ← List.length_append, hlen] at hout
      have hnone : (runNetwork (.returning n) (.recv l)).returned = none := by
        simp only [runNetwork]
        split <;> rfl
      have hb : (xs ++ s.now.block.drop n).length = ioBlock := by
        rw [List.length_append, List.length_drop, hlen, I.block]
        omega
      have D := tallyInv_resume (t := { s.now with
        toDevice := q, block := xs ++ s.now.block.drop n }) hb hr hout s.peerSent s.peerReceived
        s.ended s.givenUp
      rwa [hnone, Option.none_or] at D
  | @fail ret pc hd ht hp hret =>
      obtain ⟨hr, hc⟩ := I.running pc hd
      have hnone : (runNetwork (.returning ret) pc).returned = none := by
        cases pc with
        | send | recv =>
            simp only [runNetwork]
            split <;> rfl
        | connect | enter | test | poll | delay | shutdown | exit => cases ht
      have D := tallyInv_resume (t := s.now) I.block hr (counted_failed hc ht hret) s.peerSent
        s.peerReceived s.ended s.givenUp
      rwa [hnone, Option.none_or] at D
  | peerTest | peerTimeout | peerReset | peerRecv | peerSend | peerEnd =>
      refine I.frame ?_ ?_ ?_ _ _ _ _ <;> rfl

theorem tallyInv_start (h : SessionStart r s) : TallyInv r s := by
  obtain ⟨h1, h2, -, -⟩ := h.history
  refine ⟨h.block, fun pc hpc => ?_, fun ok tx rx hr => ?_⟩
  · cases h.device.symm.trans hpc
    exact ⟨h.result, rfl, congrArg List.length h1, congrArg List.length h2⟩
  · cases h.result.symm.trans hr

/-- The three invariants of a session. -/
theorem session_reach (h : Reach (session b mode r) Always s) :
    WireInv s ∧ PeerInv mode s ∧ TallyInv r s := by
  refine h.inv (I := fun s => WireInv s ∧ PeerInv mode s ∧ TallyInv r s) ?_ ?_
  · exact fun s hs => ⟨wireInv_start hs, peerInv_start hs, tallyInv_start hs⟩
  · rintro s a s' - ⟨W, P, D⟩ - hs
    have hstep := sessionStep_cases hs
    exact ⟨wireInv_step W hstep, peerInv_step P hstep, tallyInv_step D hstep⟩

end Proofs

/-! ## 6. What the two ends report -/

/-- **THE TWO ENDS AGREE ON EVERY BYTE**, for every workload, every mode, all capacities and any
    fragmentation: what one end has got is, in order, what the other one has handed over, short of
    what is on the way; an echo returns bytes in the order it got them; the peer counts what it got
    and what it gave, short of the bytes of a `sendall` under way or given up; `run_network` returns
    what it got and what it handed over, short of a block whose send failed; and when a passing run
    is over and the peer has met the end of the stream, both report the same number. -/
theorem traffic_accounts {b : Buffers} {mode : TrafficMode} {r : DbRunRequest} {s : Session b}
    (h : Reach (session b mode r) Always s) :
    s.sent = s.peerReceived ++ s.now.toPeer.items ∧
    s.peerSent = s.received ++ s.now.toDevice.items ∧
    (mode = .echo → s.received.Sublist s.sent) ∧
    s.now.peer.rx = s.peerReceived.length ∧
    s.now.peer.tx + s.now.peer.handed + s.givenUp = s.peerSent.length ∧
    ∀ ok tx rx, s.result = some (ok, tx, rx) →
      rx = s.received.length ∧ tx ≤ s.sent.length ∧ s.sent.length < tx + ioBlock ∧
      (ok = true → tx = s.sent.length ∧ (s.ended = true → s.now.peer.rx = tx)) := by
  obtain ⟨W, P, D⟩ := session_reach h
  refine ⟨W.toPeer, W.toDevice, fun hm => ?_, P.rx, P.tx, fun ok tx rx hr => ?_⟩
  · have h1 : s.received.Sublist s.peerSent := by
      rw [W.toDevice]
      exact List.sublist_append_left _ _
    have h2 := (List.sublist_append_left s.peerSent s.now.peer.left).trans (P.echo hm)
    have h3 : s.peerReceived.Sublist s.sent := by
      rw [W.toPeer]
      exact List.sublist_append_left _ _
    exact h1.trans (h2.trans h3)
  · have S := D.returned ok tx rx hr
    refine ⟨S.got.symm, S.tx_le, S.tx_lt, fun hok => ⟨(S.tx_eq hok).symm, fun he => ?_⟩⟩
    rw [P.rx, ← S.tx_eq hok, W.toPeer, (W.ended he).2, List.append_nil]

/-- A session at its start. -/
def Session.start (b : Buffers) (r : DbRunRequest) : Session b where
  now := ⟨some (.connect r), List.replicate ioBlock 0, [], .empty, .empty, ⟨.test, 0, 0⟩⟩
  sent := []
  received := []
  peerSent := []
  peerReceived := []
  result := none
  ended := false
  givenUp := 0

theorem session_start (b : Buffers) (mode : TrafficMode) (r : DbRunRequest) :
    Reach (session b mode r) Always (Session.start b r) :=
  .start ⟨rfl, List.length_replicate, rfl, rfl, rfl, rfl, ⟨rfl, rfl, rfl, rfl⟩, rfl, rfl, rfl⟩

/-- A request of one second. -/
def oneSecond (w : DbWorkload) : DbRunRequest := ⟨w, 1000, 0, 5001, "peer".toList⟩

/-- A connection of 5000 bytes each way. -/
def smallBuffers : Buffers := ⟨5000, 5000⟩

/-- One block, in two pieces, to a peer that reads while the second one waits. -/
def oneBlock : List Traffic.Label :=
  [.device (.returning 0), .device (.returning 0), .device (.returning 0), .device (.returning 0),
    .send 4000, .peerTest true, .peerRecv 3000, .peerTest true, .send 96]

/-- The deadline passes, the device hangs up, and the peer reads to the end of the stream. -/
def toTheEnd : List Traffic.Label :=
  [.device ⟨1000, false, false, 0, 0⟩, .device (.returning 0), .device (.returning 0), .peerRecv 1096,
    .peerTest true, .peerEnd]

set_option maxRecDepth 20000 in
theorem oneBlock_runs :
    ((session smallBuffers .sink (oneSecond .netTx)).exec (.start smallBuffers (oneSecond .netTx))
      (oneBlock ++ toTheEnd)).isSome = true := by
  decide +kernel

/-- One block of NET_TX to a sink, up to the end of the stream. -/
theorem traffic_accounts_block :
    let s := (session smallBuffers .sink (oneSecond .netTx)).runEnd
      (.start smallBuffers (oneSecond .netTx)) (oneBlock ++ toTheEnd)
    s.sent = s.peerReceived ++ s.now.toPeer.items ∧
    s.peerSent = s.received ++ s.now.toDevice.items ∧
    (TrafficMode.sink = .echo → s.received.Sublist s.sent) ∧
    s.now.peer.rx = s.peerReceived.length ∧
    s.now.peer.tx + s.now.peer.handed + s.givenUp = s.peerSent.length ∧
    ∀ ok tx rx, s.result = some (ok, tx, rx) →
      rx = s.received.length ∧ tx ≤ s.sent.length ∧ s.sent.length < tx + ioBlock ∧
      (ok = true → tx = s.sent.length ∧ (s.ended = true → s.now.peer.rx = tx)) :=
  traffic_accounts (reach_runEnd (session_start ..) oneBlock_runs)

/-- **WHAT A PASSING RUN HAS MOVED WHEN THE MODE DOES NOT FIT**: a run that receives moves nothing
    at all against a sink, nor does NET_RX against an echo; and against a source no run has sent
    more than the connection holds. -/
theorem mismatched_pass {b : Buffers} {mode : TrafficMode} {r : DbRunRequest} {s : Session b}
    {tx rx : Nat} (h : Reach (session b mode r) Always s) (hr : s.result = some (true, tx, rx)) :
    (r.workload ≠ .netTx → mode = .sink ∨ mode = .echo ∧ r.workload = .netRx → tx = 0 ∧ rx = 0) ∧
    (mode = .source → tx ≤ b.toPeer) := by
  obtain ⟨W, P, D⟩ := session_reach h
  have S := D.returned true tx rx hr
  have hsent := S.tx_eq rfl
  constructor
  · intro hw hm
    have hsilent : s.peerSent = [] := by
      rcases hm with hm | ⟨hm, hrx⟩
      · exact (P.sink hm).1
      · -- NET_RX sends nothing that could be returned
        have h0 := List.length_eq_zero_iff.mp (S.onlyRx hrx)
        rw [W.toPeer, List.append_eq_nil_iff] at h0
        have hsub := P.echo hm
        rw [h0.1, List.sublist_nil, List.append_eq_nil_iff] at hsub
        exact hsub.1
    have hrx : rx = 0 := by
      rw [W.toDevice, List.append_eq_nil_iff] at hsilent
      rw [← S.got, hsilent.1]
      rfl
    have htx := S.both rfl hw
    rw [hrx, Nat.mul_zero] at htx
    exact ⟨Nat.le_zero.mp htx, hrx⟩
  · intro hm
    have hlen := congrArg List.length W.toPeer
    rw [(P.source hm).1, List.nil_append, hsent] at hlen
    rw [hlen]
    exact s.now.toPeer.length_le

/-- A run whose deadline has passed before its first round. -/
def tooLate : List Traffic.Label :=
  [.device (.returning 0), .device (.returning 0), .device ⟨1000, false, false, 0, 0⟩,
    .device (.returning 0), .device (.returning 0)]

set_option maxRecDepth 20000 in
/-- NET_RX against a sink passes when it has not begun. -/
theorem mismatched_pass_late :
    let s := (session smallBuffers .sink (oneSecond .netRx)).runEnd
      (.start smallBuffers (oneSecond .netRx)) tooLate
    s.result = some (true, 0, 0) ∧
      ((oneSecond .netRx).workload ≠ .netTx →
        TrafficMode.sink = .sink ∨ TrafficMode.sink = .echo ∧ (oneSecond .netRx).workload = .netRx →
          0 = 0 ∧ 0 = 0) ∧
      (TrafficMode.sink = .source → 0 ≤ smallBuffers.toPeer) := by
  have hr : ((session smallBuffers .sink (oneSecond .netRx)).runEnd
      (.start smallBuffers (oneSecond .netRx)) tooLate).result = some (true, 0, 0) := by
    decide +kernel
  exact ⟨hr, mismatched_pass (reach_runEnd (session_start ..) (by decide +kernel)) hr⟩

end DragonBench
