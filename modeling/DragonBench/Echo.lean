/-
  File:      DragonBench/Echo.lean
  Subject:   WHAT `traffic_peer` SENDS AND REPORTS: the two streams of its connection beside its
             counters.

  The loop counts a `sendall` when it returns. One that times out has handed a prefix of its
  argument to the socket, and the handler goes on as after a `recv` that timed out: what was sent
  is not counted, and what was left is not sent.

  * `PeerRun`, `peerRun` -- the loop with the bytes it has received and sent and its report;
  * `EchoExact` -- the stream sent is a prefix of the stream received, and the report is right;
  * `echo_drops` -- one `sendall` that times out, and neither holds;
  * `SendsReturn` -- no timeout strikes in `sendall`;
  * **`counts_exact`** -- the report of such a run, in all three modes;
  * **`echo_exact`** -- the echo of such a run, and what every other timeout makes possible.
-/
import DragonBench.Traffic

namespace DragonBench

open Transition

/-! ## 1. The loop and its streams -/

/-- `bytes_tx` and `bytes_rx` of the report. -/
structure PeerReport where
  bytesTx : Nat
  bytesRx : Nat
  deriving DecidableEq, Repr

/-- The loop of `traffic_peer`; as history the bytes `recv` has returned and the bytes the socket
    has taken. -/
structure PeerRun where
  peer : Peer
  received : List UInt8
  sent : List UInt8
  report : Option PeerReport
  deriving DecidableEq, Repr

/-- What `recv` returns. -/
def PeerSees.incoming : PeerSees → List UInt8
  | .received data => data
  | _ => []

/-- What the socket takes. -/
def Peer.taken (p : Peer) : PeerSees → List UInt8
  | .accepted k => p.left.take k
  | _ => []

/-- The report behind the loop. An exception that ends the function leaves none. -/
def Peer.reported (p : Peer) : PeerSees → Option PeerReport
  | .reset => none
  | _ => if p.pc = .closed then some ⟨p.tx, p.rx⟩ else none

def PeerRun.step (mode : TrafficMode) (s : PeerRun) (e : PeerSees) : Option PeerRun :=
  (trafficPeer mode s.peer e).map fun p =>
    { peer := p
      received := s.received ++ e.incoming
      sent := s.sent ++ s.peer.taken e
      report := p.reported e }

/-- The connection has been accepted. -/
def PeerRun.accepted : PeerRun := ⟨⟨.test, 0, 0⟩, [], [], none⟩

/-- **`traffic_peer` from the accepted connection on**, whatever comes in, in whatever pieces, and
    whenever the socket times out. -/
def peerRun (mode : TrafficMode) : System PeerRun PeerSees where
  init s := s = .accepted
  step := PeerRun.step mode

/-! ## 2. What does not hold -/

/-- **The report tells what was sent and received.** -/
def CountsExact (s : PeerRun) : Prop :=
  ∀ r, s.report = some r → r = ⟨s.sent.length, s.received.length⟩

/-- **What is sent is a prefix of what was received, and the report is right.** -/
structure EchoExact (s : PeerRun) : Prop where
  stream : s.sent <+: s.received
  counts : CountsExact s

/-- The other side does not read for a second: the socket takes one byte of two, and the rest is
    given up. -/
def droppedByte : List PeerSees :=
  [.clock true, .received [1, 2], .accepted 1, .timeout, .clock true, .received [3], .accepted 1,
    .clock false]

/-- Three bytes come in, the first and the third go out, and the report knows of one. -/
theorem echo_drops :
    ¬ (∀ s, Reach (peerRun .echo) Always s → s.sent <+: s.received) ∧
      ¬ ∀ s, Reach (peerRun .echo) Always s → CountsExact s := by
  have hreach : Reach (peerRun .echo) Always ((peerRun .echo).runEnd .accepted droppedByte) :=
    reach_runEnd (.start rfl) (by decide)
  refine ⟨fun h => absurd (h _ hreach) (by decide), fun h => ?_⟩
  exact absurd (h _ hreach ⟨1, 3⟩ (by decide)) (by decide)

/-! ## 3. What a step does -/

/-- **What a step of the loop can do.** -/
inductive PeerStep (mode : TrafficMode) (p : Peer) : PeerSees → Peer → Prop where
  | timeUp (h : p.pc = .test) : PeerStep mode p (.clock false) { p with pc := .closed }
  | await (h : p.pc = .test) (hm : mode ≠ .source) :
      PeerStep mode p (.clock true) { p with pc := .recv }
  | block (h : p.pc = .test) (hm : mode = .source) :
      PeerStep mode p (.clock true) { p with pc := .sendall peerBlock peerBlock }
  | eof (h : p.pc = .recv) : PeerStep mode p (.received []) { p with pc := .closed }
  | sink {data : List UInt8} (h : p.pc = .recv) (hm : mode ≠ .echo) :
      PeerStep mode p (.received data) { p with pc := .test, rx := p.rx + data.length }
  | echo {data : List UInt8} (h : p.pc = .recv) (hm : mode = .echo) (hdata : data ≠ []) :
      PeerStep mode p (.received data) { p with pc := .sendall data data, rx := p.rx + data.length }
  | more {k : Nat} {data left : List UInt8} (h : p.pc = .sendall data left) (hk : left.drop k ≠ []) :
      PeerStep mode p (.accepted k) { p with pc := .sendall data (left.drop k) }
  | all {k : Nat} {data left : List UInt8} (h : p.pc = .sendall data left) (hk : left.drop k = []) :
      PeerStep mode p (.accepted k) { p with pc := .test, tx := p.tx + data.length }
  | lull (h : p.pc = .recv) : PeerStep mode p .timeout { p with pc := .test }
  | cut {data left : List UInt8} (h : p.pc = .sendall data left) :
      PeerStep mode p .timeout { p with pc := .test }
  | reset (h : p.pc ≠ .closed) : PeerStep mode p .reset { p with pc := .closed }

theorem peerStep_cases {mode : TrafficMode} {p p' : Peer} {e : PeerSees}
    (h : trafficPeer mode p e = some p') : PeerStep mode p e p' := by
  unfold trafficPeer at h
  cases e with
  | clock inTime =>
      dsimp only at h
      split at h
      · rename_i hpc
        cases inTime with
        | false =>
            cases h
            exact .timeUp hpc
        | true =>
            by_cases hm : mode = .source
            · simp only [hm, Bool.not_true, Bool.false_eq_true, if_false, if_true] at h
              cases h
              exact .block hpc hm
            · simp only [hm, Bool.not_true, Bool.false_eq_true, if_false] at h
              cases h
              exact .await hpc hm
      · cases h
  | received data =>
      dsimp only at h
      split at h
      · rename_i hpc
        by_cases hdata : data = []
        · subst hdata
          cases h
          exact .eof hpc
        · by_cases hm : mode = .echo
          · simp only [hdata, hm, if_false, if_true] at h
            cases h
            exact .echo hpc hm hdata
          · simp only [hdata, hm, if_false] at h
            cases h
            exact .sink hpc hm
      · cases h
  | accepted k =>
      dsimp only at h
      split at h
      · rename_i data left hpc
        by_cases hk : left.drop k = []
        · simp only [hk, if_true] at h
          cases h
          exact .all hpc hk
        · simp only [hk, if_false] at h
          cases h
          exact .more hpc hk
      · cases h
  | timeout =>
      dsimp only at h
      split at h
      · rename_i hpc
        cases h
        exact .lull hpc
      · rename_i data left hpc
        cases h
        exact .cut hpc
      · cases h
  | reset =>
      dsimp only at h
      split at h
      · rename_i hpc
        cases h
        exact .reset (by rw [hpc]; exact PeerPc.noConfusion)
      · rename_i data left hpc
        cases h
        exact .reset (by rw [hpc]; exact PeerPc.noConfusion)
      · cases h

/-- A step of the run is a step of the loop, with what it moved. -/
theorem peerRun_cases {mode : TrafficMode} {s s' : PeerRun} {e : PeerSees}
    (h : (peerRun mode).step s e = some s') :
    ∃ p, PeerStep mode s.peer e p ∧
      s' = ⟨p, s.received ++ e.incoming, s.sent ++ s.peer.taken e, p.reported e⟩ := by
  obtain ⟨p, hp, rfl⟩ := Option.map_eq_some_iff.mp h
  exact ⟨p, peerStep_cases hp, rfl⟩

/-- The argument of the `sendall` under way. -/
def Peer.argument (p : Peer) : List UInt8 :=
  match p.pc with
  | .sendall data _ => data
  | _ => []

theorem Peer.left_sendall {p : Peer} {data left : List UInt8} (h : p.pc = .sendall data left) :
    p.left = left := by
  unfold Peer.left
  rw [h]

theorem Peer.argument_sendall {p : Peer} {data left : List UInt8} (h : p.pc = .sendall data left) :
    p.argument = data := by
  unfold Peer.argument
  rw [h]

theorem Peer.taken_sendall {p : Peer} {k : Nat} {data left : List UInt8}
    (h : p.pc = .sendall data left) : p.taken (.accepted k) = left.take k := by
  unfold Peer.taken
  rw [Peer.left_sendall h]

/-- In front of a test of the clock and in `recv` no argument is under way. -/
theorem Peer.idle {p : Peer} (h : p.pc = .test ∨ p.pc = .recv) :
    p.pc ≠ .closed ∧ p.left = [] ∧ p.argument = [] := by
  rcases h with h | h
  · simp [Peer.left, Peer.argument, h]
  · simp [Peer.left, Peer.argument, h]

/-! ## 4. The counters -/

/-- **No timeout strikes in `sendall`.** -/
def SendsReturn (s : PeerRun) : PeerSees → Prop
  | .timeout => s.peer.pc = .recv
  | _ => True

instance (s : PeerRun) (e : PeerSees) : Decidable (SendsReturn s e) := by
  unfold SendsReturn
  split <;> infer_instance

/-- A timeout in `sendall` is not let through. -/
theorem not_cut {s : PeerRun} {data left : List UInt8} (hc : SendsReturn s .timeout)
    (h : s.peer.pc = .sendall data left) : False := by
  have hrecv : s.peer.pc = .recv := hc
  rw [h] at hrecv
  cases hrecv

/-- **What the counters know**: all that came in, and all that went out but for the part of the
    argument the socket has already taken. A report is made of them where no argument is under
    way. -/
structure CountInv (s : PeerRun) : Prop where
  rx : s.peer.rx = s.received.length
  tx : s.peer.pc ≠ .closed →
    s.peer.tx + s.peer.argument.length = s.sent.length + s.peer.left.length
  report : CountsExact s

/-- Without a report none is wrong. -/
theorem countsExact_of_none {s : PeerRun} (h : s.report = none) : CountsExact s := by
  intro r e
  rw [h] at e
  cases e

/-- Where no argument is under way, `bytes_tx` is what was sent. -/
theorem CountInv.tx_idle {s : PeerRun} (I : CountInv s) (h : s.peer.pc = .test ∨ s.peer.pc = .recv) :
    s.peer.tx = s.sent.length := by
  obtain ⟨hpc, hleft, hargument⟩ := Peer.idle h
  have htx := I.tx hpc
  rw [hleft, hargument] at htx
  exact htx

/-- Inside `sendall` the whole argument would be counted too early by what is left of it. -/
theorem CountInv.tx_sendall {s : PeerRun} {data left : List UInt8} (I : CountInv s)
    (h : s.peer.pc = .sendall data left) :
    s.peer.tx + data.length = s.sent.length + left.length := by
  have htx := I.tx (by rw [h]; exact PeerPc.noConfusion)
  rw [Peer.left_sendall h, Peer.argument_sendall h] at htx
  exact htx

theorem countInv_reach {mode : TrafficMode} {s : PeerRun}
    (h : Reach (peerRun mode) SendsReturn s) : CountInv s := by
  refine h.inv ?_ ?_
  · rintro s rfl
    exact ⟨rfl, fun _ => rfl, countsExact_of_none rfl⟩
  · intro s e s' _ I hc hs
    obtain ⟨p, hp, rfl⟩ := peerRun_cases hs
    have hrx := I.rx
    cases hp with
    | timeUp hpc =>
        have htx := I.tx_idle (Or.inl hpc)
        refine ⟨by simp [PeerSees.incoming, hrx], fun h => absurd rfl h, fun r e => ?_⟩
        cases e
        simp [PeerSees.incoming, Peer.taken, hrx, htx]
    | await hpc hm | block hpc hm =>
        have htx := I.tx_idle (Or.inl hpc)
        refine ⟨by simp [PeerSees.incoming, hrx], fun _ => ?_, countsExact_of_none rfl⟩
        simp [Peer.taken, Peer.left, Peer.argument, htx]
    | eof hpc =>
        have htx := I.tx_idle (Or.inr hpc)
        refine ⟨by simp [PeerSees.incoming, hrx], fun h => absurd rfl h, fun r e => ?_⟩
        cases e
        simp [PeerSees.incoming, Peer.taken, hrx, htx]
    | sink hpc hm | echo hpc hm hdata | lull hpc =>
        have htx := I.tx_idle (Or.inr hpc)
        refine ⟨by simp [PeerSees.incoming, hrx], fun _ => ?_, countsExact_of_none rfl⟩
        simp [Peer.taken, Peer.left, Peer.argument, htx]
    | @more k data left hpc hk =>
        have htx := I.tx_sendall hpc
        refine ⟨by simp [PeerSees.incoming, hrx], fun _ => ?_, countsExact_of_none rfl⟩
        simp only [Peer.taken_sendall hpc, Peer.left, Peer.argument, List.length_append,
          List.length_take, List.length_drop]
        omega
    | @all k data left hpc hk =>
        have htx := I.tx_sendall hpc
        have hlen : left.length ≤ k := List.drop_eq_nil_iff.mp hk
        refine ⟨by simp [PeerSees.incoming, hrx], fun _ => ?_, countsExact_of_none rfl⟩
        rw [Peer.taken_sendall hpc, List.take_of_length_le hlen]
        simp [Peer.left, Peer.argument, htx]
    | cut hpc => exact (not_cut hc hpc).elim
    | reset hpc =>
        exact ⟨by simp [PeerSees.incoming, hrx], fun h => absurd rfl h, countsExact_of_none rfl⟩

/-- **The report is exact in every mode** when no timeout strikes in `sendall`. -/
theorem counts_exact {mode : TrafficMode} {s : PeerRun}
    (h : Reach (peerRun mode) SendsReturn s) : CountsExact s :=
  (countInv_reach h).report

/-! ## 5. The echo -/

/-- **What is left of the argument is all that the echo is behind.** The end of the function may
    leave it unsent. -/
structure EchoInv (s : PeerRun) : Prop where
  whole : s.peer.pc ≠ .closed → s.sent ++ s.peer.left = s.received
  stream : s.sent <+: s.received

/-- While the function runs, the equation is enough. -/
theorem echoInv_of_whole {s : PeerRun} (h : s.sent ++ s.peer.left = s.received) : EchoInv s :=
  ⟨fun _ => h, ⟨s.peer.left, h⟩⟩

/-- Where no argument is under way, all that came in has been sent. -/
theorem EchoInv.sent_idle {s : PeerRun} (I : EchoInv s) (h : s.peer.pc = .test ∨ s.peer.pc = .recv) :
    s.sent = s.received := by
  obtain ⟨hpc, hleft, -⟩ := Peer.idle h
  have hwhole := I.whole hpc
  rwa [hleft, List.append_nil] at hwhole

/-- Inside `sendall` the rest of the argument is still to come. -/
theorem EchoInv.sent_sendall {s : PeerRun} {data left : List UInt8} (I : EchoInv s)
    (h : s.peer.pc = .sendall data left) : s.sent ++ left = s.received := by
  have hwhole := I.whole (by rw [h]; exact PeerPc.noConfusion)
  rwa [Peer.left_sendall h] at hwhole

theorem echoInv_reach {s : PeerRun} (h : Reach (peerRun .echo) SendsReturn s) : EchoInv s := by
  refine h.inv ?_ ?_
  · rintro s rfl
    exact echoInv_of_whole rfl
  · intro s e s' _ I hc hs
    obtain ⟨p, hp, rfl⟩ := peerRun_cases hs
    cases hp with
    | timeUp hpc | await hpc hm =>
        refine echoInv_of_whole ?_
        simp [Peer.taken, Peer.left, PeerSees.incoming, I.sent_idle (Or.inl hpc)]
    | block hpc hm => cases hm
    | eof hpc | echo hpc hm hdata | lull hpc =>
        refine echoInv_of_whole ?_
        simp [Peer.taken, Peer.left, PeerSees.incoming, I.sent_idle (Or.inr hpc)]
    | sink hpc hm => exact absurd rfl hm
    | @more k data left hpc hk =>
        have hwhole := I.sent_sendall hpc
        refine echoInv_of_whole ?_
        rw [Peer.taken_sendall hpc, ← hwhole]
        simp [Peer.left, PeerSees.incoming]
    | @all k data left hpc hk =>
        have hwhole := I.sent_sendall hpc
        refine echoInv_of_whole ?_
        rw [Peer.taken_sendall hpc, List.take_of_length_le (List.drop_eq_nil_iff.mp hk), hwhole]
        simp [Peer.left, PeerSees.incoming]
    | cut hpc => exact (not_cut hc hpc).elim
    | reset hpc =>
        refine ⟨fun h => absurd rfl h, ?_⟩
        simp [Peer.taken, PeerSees.incoming, I.stream]

/-- **In any run the echo is at least what is left of the argument behind.** -/
structure BehindInv (s : PeerRun) : Prop where
  behind : s.sent.length + s.peer.left.length ≤ s.received.length
  left : ∀ data left, s.peer.pc = .sendall data left → left ≠ []

theorem behindInv_reach {s : PeerRun} (h : Reach (peerRun .echo) Always s) : BehindInv s := by
  refine h.inv ?_ ?_
  · rintro s rfl
    exact ⟨Nat.le_refl 0, fun data left e => PeerPc.noConfusion e⟩
  · intro s e s' _ I _ hs
    obtain ⟨p, hp, rfl⟩ := peerRun_cases hs
    have hbehind := I.behind
    cases hp with
    | timeUp hpc | await hpc hm | eof hpc | lull hpc | cut hpc | reset hpc =>
        refine ⟨?_, fun data left e => PeerPc.noConfusion e⟩
        simp only [Peer.taken, Peer.left, PeerSees.incoming, List.append_nil, List.length_nil]
        omega
    | block hpc hm => cases hm
    | sink hpc hm => exact absurd rfl hm
    | @echo data hpc hm hdata =>
        refine ⟨?_, fun data left e => ?_⟩
        · simp only [Peer.taken, Peer.left, PeerSees.incoming, List.append_nil, List.length_append]
          omega
        · cases e
          exact hdata
    | @more k data left hpc hk =>
        rw [Peer.left_sendall hpc] at hbehind
        refine ⟨?_, fun data left e => ?_⟩
        · rw [Peer.taken_sendall hpc]
          simp only [Peer.left, PeerSees.incoming, List.append_nil, List.length_append,
            List.length_take, List.length_drop]
          omega
        · cases e
          exact hk
    | @all k data left hpc hk =>
        rw [Peer.left_sendall hpc] at hbehind
        refine ⟨?_, fun data left e => PeerPc.noConfusion e⟩
        rw [Peer.taken_sendall hpc]
        simp only [Peer.left, PeerSees.incoming, List.append_nil, List.length_append,
          List.length_take, List.length_nil]
        omega

theorem exists_other_byte (byte : UInt8) : ∃ other : UInt8, other ≠ byte := by
  by_cases h : byte = 0
  · exact ⟨1, by rw [h]; decide⟩
  · exact ⟨0, Ne.symm h⟩

/-- **An echo that is behind and has given up what was left goes wrong**: the next byte that comes in
    and differs from the one that was dropped is sent in its place. -/
theorem behind_goes_wrong {s : PeerRun} (hpc : s.peer.pc = .test)
    (h : s.sent.length < s.received.length) :
    ∃ t, Reach ((peerRun .echo).startingAt s) Always t ∧ ¬ EchoExact t := by
  obtain ⟨byte, hbyte⟩ := exists_other_byte s.received[s.sent.length]
  have hx : ((peerRun .echo).startingAt s).exec s [.clock true, .received [byte], .accepted 1] =
      some ⟨⟨.test, s.peer.tx + 1, s.peer.rx + 1⟩, s.received ++ [byte], s.sent ++ [byte], none⟩ := by
    simp [System.exec, System.startingAt, peerRun, PeerRun.step, trafficPeer, hpc, Peer.taken,
      Peer.left, PeerSees.incoming, Peer.reported]
  refine ⟨_, reach_exec (.start rfl) hx, fun hechoes => ?_⟩
  obtain ⟨rest, hrest⟩ := hechoes.stream
  have hat := congrArg (fun l => l[s.sent.length]?) hrest
  rw [List.append_assoc, List.getElem?_append_right (Nat.le_refl _),
    List.getElem?_append_left h, List.getElem?_eq_getElem h, Nat.sub_self] at hat
  exact hbyte (Option.some.inj hat)

/-- **No timeout in `sendall`, and the echo is right; and only then.** In every run in which none
    strikes there, what is sent is a prefix of what was received and the report is exact; and
    behind every timeout that does, of whatever run, the echo can go wrong. -/
theorem echo_exact (s : PeerRun) :
    (Reach (peerRun .echo) SendsReturn s → EchoExact s) ∧
      ∀ e s', Reach (peerRun .echo) Always s → ¬ SendsReturn s e →
        (peerRun .echo).step s e = some s' →
          ∃ t, Reach ((peerRun .echo).startingAt s') Always t ∧ ¬ EchoExact t := by
  refine ⟨fun h => ⟨(echoInv_reach h).stream, counts_exact h⟩, ?_⟩
  intro e s' h hc hs
  have I := behindInv_reach h
  obtain ⟨p, hp, rfl⟩ := peerRun_cases hs
  cases hp with
  | @cut data left hpc =>
      have hbehind := I.behind
      rw [Peer.left_sendall hpc] at hbehind
      have hleft : 0 < left.length := List.length_pos_iff.mpr (I.left data left hpc)
      refine behind_goes_wrong rfl ?_
      simp only [Peer.taken, PeerSees.incoming, List.append_nil]
      omega
  | lull hpc => exact absurd hpc hc
  | timeUp hpc | await hpc hm | block hpc hm | eof hpc | sink hpc hm | echo hpc hm hdata | more hpc hk
  | all hpc hk | reset hpc => exact absurd trivial hc

/-- Two chunks come in with a pause of a second between them, and the socket takes the first in
    two pieces. -/
def twoChunks : List PeerSees :=
  [.clock true, .received [1, 2], .accepted 1, .accepted 1, .clock true, .timeout, .clock true,
    .received [3], .accepted 1, .clock false]

def twoChunksEnd : PeerRun := ((peerRun .echo).guard SendsReturn).runEnd .accepted twoChunks

theorem echo_exact_two_chunks :
    twoChunksEnd.sent = [1, 2, 3] ∧ twoChunksEnd.report = some ⟨3, 3⟩ ∧ EchoExact twoChunksEnd :=
  ⟨by decide, by decide,
    (echo_exact _).1 (reach_guard (reach_runEnd (.start rfl) (by decide)))⟩

end DragonBench
