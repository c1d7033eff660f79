/-
  File:      DragonBench/Fitting.lean
  Subject:   A PEER WHOSE MODE FITS THE WORKLOAD NEVER BLOCKS A TRANSFER FOR GOOD.

  An echo can end in the deadlock with a device that sends whole blocks. A sink only reads and a
  source only writes, so one end of the connection can always move: a full queue to a sink can be
  read, an empty queue from a source can be filled.

  * `Matched` -- the pairs that fit;
  * `send_progress`, `recv_progress` -- a step that brings the call nearer to its return;
  * **`matched_never_stuck`** -- the call can always be completed, without a timeout and without a
    failure.
-/
import DragonBench.Transfers

namespace DragonBench

open Transition

/-! ## 1. The transfers -/

/-- The mode fits the workload: a sink for NET_TX, a source for NET_RX. -/
def Matched (w : DbWorkload) (mode : TrafficMode) : Prop :=
  w = .netTx ∧ mode = .sink ∨ w = .netRx ∧ mode = .source

/-- The device is in a call on the connection. -/
def Session.inTransfer {b : Buffers} (s : Session b) : Bool := s.now.device.any NetPc.transfers

/-- A step of the transfer itself: no timeout, no failure, the peer's deadline not yet reached. -/
def Traffic.Label.moves : Traffic.Label → Bool
  | .send _ | .recv _ | .peerRecv _ | .peerSend _ => true
  | .peerTest inTime => inTime
  | .device _ | .fail _ | .peerTimeout | .peerEnd | .peerReset => false

/-! ## 2. Single steps -/

section Proofs

variable {b : Buffers} {mode : TrafficMode} {r : DbRunRequest} {s : Session b}

/-- A step of the two programs is a step of their session. -/
theorem session_lift (r : DbRunRequest) {a : Traffic.Label} {t : Traffic b}
    (h : s.now.step mode a = some t) :
    ∃ s', (session b mode r).step s a = some s' ∧ s'.now = t := by
  unfold session Session.step
  dsimp only
  rw [h]
  cases a <;> exact ⟨_, rfl, rfl⟩

/-- The connection takes one byte of the block. -/
theorem send_one {l : NetLocals} (hd : s.now.device = some (.send l)) (hu : 0 < s.now.unsent.length)
    (hroom : s.now.toPeer.length < b.toPeer) :
    ∃ t, s.now.step mode (.send 1) = some t ∧ t.peer = s.now.peer ∧
      t.unsent.length < s.now.unsent.length ∧ t.toPeer.length = s.now.toPeer.length + 1 := by
  obtain ⟨q, hq, hlen⟩ := s.now.toPeer.push_one s.now.unsent hu hroom
  by_cases he : s.now.unsent.drop 1 = []
  · refine ⟨{ s.now with toPeer := q }.resume (runNetwork (.returning ioBlock) (.send l)), ?_,
      resume_peer .., ?_, ?_⟩
    · simp only [Traffic.step, hd, Traffic.sendStep, hq, Option.map_some, if_pos he]
      exact if_pos ⟨Nat.one_pos, hu⟩
    · have hrun : runNetwork (.returning ioBlock) (.send l) =
          .more (netRecv { l with tx := l.tx + ioBlock }) := rfl
      have hquiet : (netRecv { l with tx := l.tx + ioBlock }).sending = false := by
        unfold netRecv netPace
        split
        · rfl
        · split <;> rfl
      rw [hrun]
      show (if (netRecv { l with tx := l.tx + ioBlock }).sending then s.now.block else []).length < _
      rw [hquiet]
      exact hu
    · rw [resume_toPeer]
      exact hlen
  · refine ⟨{ s.now with toPeer := q, unsent := s.now.unsent.drop 1 }, ?_, rfl, ?_, hlen⟩
    · simp only [Traffic.step, hd, Traffic.sendStep, hq, Option.map_some, if_neg he]
      exact if_pos ⟨Nat.one_pos, hu⟩
    · show (s.now.unsent.drop 1).length < _
      rw [List.length_drop]
      omega

/-- `recv` of the device returns one byte. -/
theorem recv_one {l : NetLocals} (hd : s.now.device = some (.recv l))
    (hq : 0 < s.now.toDevice.length) :
    ∃ t, s.now.step mode (.recv 1) = some t ∧ t.peer = s.now.peer ∧
      t.device.any NetPc.transfers = false := by
  obtain ⟨xs, q, hpop, hn, -⟩ := s.now.toDevice.pop_one hq
  refine ⟨{ s.now with toDevice := q, block := xs ++ s.now.block.drop 1 }.resume
    (runNetwork (.returning (1 : Nat)) (.recv l)), ?_, resume_peer .., ?_⟩
  · simp only [Traffic.step, hd, Traffic.recvStep, hpop, Option.map_some]
    exact if_pos ⟨Nat.one_pos, by decide⟩
  · show (netPace { l with rx := l.rx + 1 }).transfers = false
    unfold netPace
    split <;> rfl

/-- The peer goes on with its loop. -/
theorem peer_begins (mode : TrafficMode) (hpc : s.now.peer.pc = .test) :
    ∃ t, s.now.step mode (.peerTest true) = some t ∧ t.device = s.now.device ∧
      t.unsent = s.now.unsent ∧ t.toPeer = s.now.toPeer ∧ t.toDevice = s.now.toDevice ∧
      t.peer.pc ≠ .test ∧ t.peer.pc ≠ .closed := by
  by_cases hm : mode = .source
  · refine ⟨{ s.now with peer := { s.now.peer with pc := .sendall peerBlock peerBlock } }, ?_, rfl,
      rfl, rfl, rfl, fun h => PeerPc.noConfusion h,
      fun h => PeerPc.noConfusion h⟩
    simp only [Traffic.step, trafficPeer, hpc, if_pos hm]
    rfl
  · refine ⟨{ s.now with peer := { s.now.peer with pc := .recv } }, ?_, rfl, rfl, rfl, rfl,
      fun h => PeerPc.noConfusion h, fun h => PeerPc.noConfusion h⟩
    simp only [Traffic.step, trafficPeer, hpc, if_neg hm]
    rfl

/-- A sink reads one byte and is back in front of its loop. -/
theorem sink_reads (hpc : s.now.peer.pc = .recv)
    (hq : 0 < s.now.toPeer.length) :
    ∃ t, s.now.step .sink (.peerRecv 1) = some t ∧ t.unsent = s.now.unsent ∧
      s.now.toPeer.length = 1 + t.toPeer.length ∧ t.peer.pc = .test := by
  obtain ⟨xs, q, hpop, hn, hlen⟩ := s.now.toPeer.pop_one hq
  have hne : xs ≠ [] := by
    rintro rfl
    cases hn
  refine ⟨{ s.now with
    peer := { s.now.peer with pc := .test, rx := s.now.peer.rx + xs.length }, toPeer := q }, ?_, rfl,
    hlen, rfl⟩
  have hpeer : trafficPeer .sink s.now.peer (.received xs) =
      some { s.now.peer with pc := .test, rx := s.now.peer.rx + xs.length } := by
    simp only [trafficPeer, hpc, if_neg hne]
    rfl
  simp only [Traffic.step, Traffic.peerRecvStep, hpop, Option.bind_some, hpeer, Option.map_some]
  exact if_pos ⟨Nat.one_pos, by rw [peerBlock_length]; decide⟩

/-- The connection takes one byte of a `sendall`. -/
theorem peer_sends (mode : TrafficMode) {data left : List UInt8} (hpc : s.now.peer.pc = .sendall data left)
    (hne : left ≠ []) (hroom : s.now.toDevice.length < b.toDevice) :
    ∃ t, s.now.step mode (.peerSend 1) = some t ∧ t.device = s.now.device ∧
      t.toDevice.length = s.now.toDevice.length + 1 ∧ t.peer.pc ≠ .closed := by
  have hleft : s.now.peer.left = left := by
    rw [Peer.left, hpc]
  have hpos : 0 < s.now.peer.left.length := by
    rw [hleft]
    exact List.length_pos_iff.mpr hne
  obtain ⟨q, hq, hlen⟩ := s.now.toDevice.push_one s.now.peer.left hpos hroom
  have hpeer : ∃ p, trafficPeer mode s.now.peer (.accepted 1) = some p ∧ p.pc ≠ .closed := by
    simp only [trafficPeer, hpc]
    split
    · exact ⟨_, rfl, fun h => PeerPc.noConfusion h⟩
    · exact ⟨_, rfl, fun h => PeerPc.noConfusion h⟩
  obtain ⟨p, hp, hopen⟩ := hpeer
  refine ⟨{ s.now with peer := p, toDevice := q }, ?_, rfl, hlen, hopen⟩
  simp only [Traffic.step, Traffic.peerSendStep, hq, Option.bind_some, hp, Option.map_some]
  exact if_pos ⟨Nat.one_pos, hpos⟩

/-! ## 3. Progress -/

/-- The states the transfer goes through: reachable, the peer in its loop. -/
def Open (b : Buffers) (mode : TrafficMode) (r : DbRunRequest) (s : Session b) : Prop :=
  Reach (session b mode r) Always s ∧ s.now.peer.pc ≠ .closed

/-- What is left to do of a `send` to a sink: bytes to hand over, bytes to read, and the test. -/
def sendMeasure (s : Session b) : Nat :=
  4 * s.now.unsent.length + 2 * s.now.toPeer.length + if s.now.peer.pc = .test then 1 else 0

/-- What is left to do of a `recv` from a source. -/
def recvMeasure (s : Session b) : Nat :=
  if s.inTransfer then
    if 0 < s.now.toDevice.length then 1 else if s.now.peer.pc = .test then 3 else 2
  else 0

/-- **A `send` to a sink moves on.** -/
theorem send_progress (hw : r.workload = .netTx) (hb : 0 < b.toPeer) (h : Open b .sink r s)
    (ht : ¬ s.inTransfer = false) :
    ∃ a s', a.moves = true ∧ (session b .sink r).step s a = some s' ∧ Open b .sink r s' ∧
      sendMeasure s' < sendMeasure s := by
  obtain ⟨-, P, D⟩ := session_reach h.1
  obtain ⟨l, hd, hu⟩ : ∃ l, s.now.device = some (.send l) ∧ 0 < s.now.unsent.length := by
    cases hd : s.now.device with
    | none =>
        rw [Session.inTransfer, hd] at ht
        exact absurd rfl ht
    | some pc =>
        have hc := (D.running pc hd).2
        cases pc with
        | send l => exact ⟨l, rfl, hc.2.1⟩
        | recv l => exact absurd hw hc.1
        | connect | enter | test | poll | delay | shutdown | exit =>
            rw [Session.inTransfer, hd] at ht
            exact absurd rfl ht
  by_cases hroom : s.now.toPeer.length < b.toPeer
  · obtain ⟨t, hstep, hpeer, hlt, hlen⟩ := send_one hd hu hroom
    obtain ⟨s', hs', rfl⟩ := session_lift r hstep
    refine ⟨.send 1, s', rfl, hs', ⟨.step h.1 trivial hs', by rw [hpeer]; exact h.2⟩, ?_⟩
    unfold sendMeasure
    rw [hpeer, hlen]
    omega
  · have hfull : 0 < s.now.toPeer.length := by omega
    cases hpc : s.now.peer.pc with
    | test =>
        obtain ⟨t, hstep, -, hun, hq, -, htest, hopen⟩ := peer_begins .sink hpc
        obtain ⟨s', hs', rfl⟩ := session_lift r hstep
        refine ⟨.peerTest true, s', rfl, hs', ⟨.step h.1 trivial hs', hopen⟩, ?_⟩
        unfold sendMeasure
        rw [hun, hq, if_neg htest, if_pos hpc]
        omega
    | recv =>
        obtain ⟨t, hstep, hun, hlen, htest⟩ := sink_reads hpc hfull
        obtain ⟨s', hs', rfl⟩ := session_lift r hstep
        refine ⟨.peerRecv 1, s', rfl, hs', ⟨.step h.1 trivial hs', by rw [htest]; nofun⟩, ?_⟩
        unfold sendMeasure
        rw [hun, hlen, if_pos htest]
        omega
    | sendall data left =>
        have hleft := (P.sink rfl).2
        rw [Peer.left, hpc] at hleft
        exact absurd hleft (P.left data left hpc).2
    | closed => exact absurd hpc h.2

/-- **A `recv` from a source moves on.** -/
theorem recv_progress (hw : r.workload = .netRx) (hb : 0 < b.toDevice) (h : Open b .source r s)
    (ht : ¬ s.inTransfer = false) :
    ∃ a s', a.moves = true ∧ (session b .source r).step s a = some s' ∧ Open b .source r s' ∧
      recvMeasure s' < recvMeasure s := by
  obtain ⟨-, P, D⟩ := session_reach h.1
  have hin : s.inTransfer = true := Bool.not_eq_false _ ▸ ht
  obtain ⟨l, hd⟩ : ∃ l, s.now.device = some (.recv l) := by
    cases hd : s.now.device with
    | none =>
        rw [Session.inTransfer, hd] at hin
        cases hin
    | some pc =>
        have hc := (D.running pc hd).2
        cases pc with
        | recv l => exact ⟨l, rfl⟩
        | send l => exact absurd hw hc.1
        | connect | enter | test | poll | delay | shutdown | exit =>
            rw [Session.inTransfer, hd] at hin
            cases hin
  by_cases hq : 0 < s.now.toDevice.length
  · obtain ⟨t, hstep, hpeer, hout⟩ := recv_one hd hq
    obtain ⟨s', hs', rfl⟩ := session_lift r hstep
    refine ⟨.recv 1, s', rfl, hs', ⟨.step h.1 trivial hs', by rw [hpeer]; exact h.2⟩, ?_⟩
    unfold recvMeasure
    rw [hin, Session.inTransfer, hout, if_pos hq]
    exact Nat.one_pos
  · cases hpc : s.now.peer.pc with
    | test =>
        obtain ⟨t, hstep, hdev, -, -, hdq, htest, hopen⟩ := peer_begins .source hpc
        obtain ⟨s', hs', rfl⟩ := session_lift r hstep
        refine ⟨.peerTest true, s', rfl, hs', ⟨.step h.1 trivial hs', hopen⟩, ?_⟩
        have hin' : s'.inTransfer = true := by
          rw [Session.inTransfer, hdev]
          exact hin
        unfold recvMeasure
        rw [hin, hin', hdq, if_neg hq, if_neg hq, if_neg htest, if_pos hpc]
        decide
    | recv => exact absurd hpc (P.source rfl).2
    | sendall data left =>
        obtain ⟨t, hstep, hdev, hlen, hopen⟩ :=
          peer_sends .source hpc (P.left data left hpc).2 (by omega)
        obtain ⟨s', hs', rfl⟩ := session_lift r hstep
        refine ⟨.peerSend 1, s', rfl, hs', ⟨.step h.1 trivial hs', hopen⟩, ?_⟩
        have hin' : s'.inTransfer = true := by
          rw [Session.inTransfer, hdev]
          exact hin
        have hpos : 0 < s'.now.toDevice.length := by omega
        have htest : ¬ s.now.peer.pc = .test := by
          rw [hpc]
          nofun
        unfold recvMeasure
        rw [hin, hin', if_pos hpos, if_neg hq, if_neg htest]
        decide
    | closed => exact absurd hpc h.2

end Proofs

/-- **A FITTING PEER NEVER BLOCKS A TRANSFER FOR GOOD**: wherever a run of NET_TX against a sink, or
    of NET_RX against a source, stands in a `send` or a `recv` with the peer still in its loop, the
    two programs can go on, without a timeout and without a failure, until the call has returned;
    whatever the capacities of the connection. -/
theorem matched_never_stuck {b : Buffers} {mode : TrafficMode} {r : DbRunRequest} {s : Session b}
    (hm : Matched r.workload mode) (hp : 0 < b.toPeer) (hd : 0 < b.toDevice)
    (h : Reach (session b mode r) Always s) (hopen : s.now.peer.pc ≠ .closed) :
    ∃ as s', (session b mode r).exec s as = some s' ∧ (∀ a ∈ as, a.moves = true) ∧
      s'.now.peer.pc ≠ .closed ∧ s'.inTransfer = false := by
  rcases hm with ⟨hw, rfl⟩ | ⟨hw, rfl⟩
  · obtain ⟨as, s', hx, ha, hI, hg⟩ := exec_until (S := session b .sink r) (I := Open b .sink r)
      (P := fun a => a.moves = true) sendMeasure
      (fun s hs ht => send_progress hw hp hs ht) s ⟨h, hopen⟩
    exact ⟨as, s', hx, ha, hI.2, hg⟩
  · obtain ⟨as, s', hx, ha, hI, hg⟩ := exec_until (S := session b .source r) (I := Open b .source r)
      (P := fun a => a.moves = true) recvMeasure
      (fun s hs ht => recv_progress hw hd hs ht) s ⟨h, hopen⟩
    exact ⟨as, s', hx, ha, hI.2, hg⟩

set_option maxRecDepth 20000 in
/-- In the middle of a block, the peer not yet in front of its `recv`. -/
theorem matched_never_stuck_block :
    let s := (session smallBuffers .sink (oneSecond .netTx)).runEnd
      (.start smallBuffers (oneSecond .netTx)) (oneBlock.take 5)
    ∃ as s', (session smallBuffers .sink (oneSecond .netTx)).exec s as = some s' ∧
      (∀ a ∈ as, a.moves = true) ∧ s'.now.peer.pc ≠ .closed ∧ s'.inTransfer = false :=
  matched_never_stuck (Or.inl ⟨rfl, rfl⟩) (by decide) (by decide)
    (reach_runEnd (session_start ..) (by decide +kernel)) (by decide +kernel)

end DragonBench
