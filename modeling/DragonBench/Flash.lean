/-
  File:      DragonBench/Flash.lean
  Subject:   WHERE `partition_cycle` ERASES, WRITES AND READS.

  The loop keeps an offset, wraps it before it uses it and leaves at the first call that fails.
  Whatever the clock, the flag and the flash answer, its calls are those of one script: pass after
  pass erase, write, read and compare of one block, the blocks taken in cyclic order.

  * `FlashCall`, `Cycle`, `cycling` -- `partition_cycle` beside the list of its calls;
  * `blockAt`, `flashScript` -- the block of a pass, and the script;
  * `CycleInv`, `cycleInv_step`, `cycleInv_reach` -- how far the script has come at each control
    point;
  * **`partition_cycle_blocks`** -- what every list of calls is like, and what is reported;
  * **`worker_inside_partition`** -- the same range, at the workers of the device.
-/
import DragonBench.Lib.Script
import DragonBench.Lib.SerialNumber
import DragonBench.DeviceStep

namespace DragonBench

open Transition Script

/-! ## 1. The calls -/

inductive FlashOp where
  | erase
  | write
  | read
  | compare
  deriving DecidableEq, Repr

/-- A call of a loop body: the pass through the loop it belongs to, counted from 1, and the range
    of the partition it is about. `compare` is the `memcmp` of what was written and read there. -/
structure FlashCall where
  pass : Nat
  op : FlashOp
  offset : Nat
  size : Nat
  deriving DecidableEq, Repr

/-- The call at a control point, with its range. -/
def PartPc.call? : PartPc → Option (FlashOp × Nat × Nat)
  | .erase l => some (.erase, l.offset, flashEraseBlock)
  | .write l => some (.write, l.offset, ioBlock)
  | .read l => some (.read, l.offset, ioBlock)
  | .compare l => some (.compare, l.offset, ioBlock)
  | _ => none

/-- Whether the answer is the good one. -/
def FlashOp.passed (ret : Int) : FlashOp → Bool
  | .compare => ret = 0
  | .erase | .write | .read => ret = espOk

/-- `partition_cycle` with the number of loop bodies begun and the calls made, each with whether
    it went well. -/
structure Cycle where
  stand : Outcome PartPc
  passes : Nat
  calls : List (FlashCall × Bool)

/-- A loop body begins when the poll finds the flag down. -/
def PartPc.begins (e : Seen) : PartPc → Bool
  | .poll _ => !e.abort
  | _ => false

/-- One step of `partition_cycle`. -/
def Cycle.next (running : Partition) (s : Cycle) (e : Seen) (pc : PartPc) : Cycle where
  stand := partitionCycle running e pc
  passes := if pc.begins e then s.passes + 1 else s.passes
  calls := s.calls ++ (pc.call?.map fun c => (⟨s.passes, c.1, c.2.1, c.2.2⟩, c.1.passed e.ret)).toList

/-- **`partition_cycle(partition, duration_ms)`**, whatever the clock, the flag and the flash
    answer. -/
def cycling (running : Partition) (partition : Option Partition) (durationMs : Nat) :
    System Cycle Seen where
  init s := s = ⟨.more (.check partition durationMs), 0, []⟩
  step s e :=
    match s.stand with
    | .more pc => some (s.next running e pc)
    | .done _ _ _ => none

theorem cycling_step {running : Partition} {p : Option Partition} {d : Nat} {s s' : Cycle}
    {e : Seen} (h : (cycling running p d).step s e = some s') :
    ∃ pc, s.stand = .more pc ∧ s' = s.next running e pc := by
  simp only [cycling] at h
  split at h
  · rename_i pc hpc
    cases h
    exact ⟨pc, hpc, rfl⟩
  · cases h

/-- A run goes on from a control point, whatever is seen there. -/
theorem cycling_next {running : Partition} {q : Option Partition} {d : Nat} {s : Cycle}
    (h : Reach (cycling running q d) Always s) {pc : PartPc} (hs : s.stand = .more pc) (e : Seen) :
    Reach (cycling running q d) Always (s.next running e pc) := by
  have hstep : (cycling running q d).step s e = some (s.next running e pc) := by
    simp only [cycling, hs]
  exact h.step trivial hstep

/-! ## 2. The script -/

/-- The block of pass `n + 1`. -/
def blockAt (p : Partition) (n : Nat) : Nat := 4096 * (n % (p.size / 4096))

/-- The offset as the loop body uses it. -/
def wrapped (p : Partition) (offset : Nat) : Nat := if offset + ioBlock > p.size then 0 else offset

/-- The calls of a pass in their order. -/
def FlashOp.nth : Nat → FlashOp
  | 0 => .erase
  | 1 => .write
  | 2 => .read
  | _ => .compare

/-- **Pass after pass, the four calls about one block.** -/
def flashScript (p : Partition) (j : Nat) : FlashCall :=
  ⟨j / 4 + 1, FlashOp.nth (j % 4), blockAt p (j / 4), 4096⟩

section Blocks

variable {p : Partition}

theorem blockAt_zero : blockAt p 0 = 0 := by
  unfold blockAt
  rw [Nat.zero_mod, Nat.mul_zero]

theorem blockAt_mod (n : Nat) : blockAt p n % 4096 = 0 := Nat.mul_mod_right _ _

theorem blocks_pos (h : 4096 ≤ p.size) : 0 < p.size / 4096 := Nat.div_pos h (by omega)

/-- A block lies inside the partition. -/
theorem blockAt_inside (h : 4096 ≤ p.size) (n : Nat) : blockAt p n + 4096 ≤ p.size := by
  have hlt : n % (p.size / 4096) < p.size / 4096 := Nat.mod_lt _ (blocks_pos h)
  have hle := Nat.mul_div_le p.size 4096
  unfold blockAt
  omega

/-- The offset behind a block, wrapped, is the next block. -/
theorem wrapped_blockAt (h : 4096 ≤ p.size) (n : Nat) :
    wrapped p (blockAt p n + 4096) = blockAt p (n + 1) := by
  have hpos := blocks_pos h
  have hlt : n % (p.size / 4096) < p.size / 4096 := Nat.mod_lt _ hpos
  have hle := Nat.mul_div_le p.size 4096
  have hgt := Nat.lt_mul_div_succ p.size (b := 4096) (by omega)
  unfold wrapped blockAt ioBlock
  rw [SerialNumber.succ_mod_of_pos hpos]
  split <;> split <;> omega

theorem wrapped_zero : wrapped p 0 = blockAt p 0 := by
  rw [blockAt_zero]
  unfold wrapped
  split <;> rfl

end Blocks

/-! ## 3. How far the script has come -/

/-- The blocks that verified. -/
def verified (calls : List (FlashCall × Bool)) : Nat :=
  calls.countP fun c => c.1.op = .compare && c.2

section Made

variable (p : Partition)

/-- The call of a pass at its place in the script. -/
theorem flashScript_pass (n : Nat) {k : Nat} (hk : k < 4) :
    flashScript p (4 * n + k) = ⟨n + 1, FlashOp.nth k, blockAt p n, 4096⟩ := by
  have hdiv : (4 * n + k) / 4 = n := by omega
  have hmod : (4 * n + k) % 4 = k := by omega
  unfold flashScript
  rw [hdiv, hmod]

/-- Every fourth call of the script is a comparison. -/
theorem nth_eq_compare {k : Nat} (hk : k < 4) : FlashOp.nth k = .compare ↔ k = 3 := by
  match k, hk with
  | 0, _ | 1, _ | 2, _ | 3, _ => decide

theorem verified_made (m : Nat) : verified (made (flashScript p) m) = m / 4 := by
  induction m with
  | zero => rfl
  | succ m ih =>
      have hop : (flashScript p m).op = .compare ↔ m % 4 = 3 :=
        nth_eq_compare (Nat.mod_lt m (by omega))
      unfold verified at ih ⊢
      rw [made_succ, List.countP_append, ih, List.countP_singleton]
      simp only [hop, Bool.and_true, decide_eq_true_eq]
      split <;> omega

theorem verified_failed (calls : List (FlashCall × Bool)) (c : FlashCall) :
    verified (calls ++ [(c, false)]) = verified calls := by
  simp [verified]

end Made

/-- At the test of the loop, `n` passes completed: the offset is the one behind the last block, to
    be wrapped before it is used. -/
structure Between (p : Partition) (n : Nat) (l : PartLocals) (s : Cycle) : Prop where
  partition : l.partition = p
  bytes : l.bytes = 4096 * n
  passes : s.passes = n
  offset : wrapped p l.offset = blockAt p n
  within : l.offset ≤ p.size
  calls : s.calls = made (flashScript p) (4 * n)

/-- In a pass, `n` passes completed and `k` calls of this one made. -/
structure Inside (p : Partition) (n k : Nat) (l : PartLocals) (s : Cycle) : Prop where
  partition : l.partition = p
  bytes : l.bytes = 4096 * n
  passes : s.passes = n + 1
  offset : l.offset = blockAt p n
  calls : s.calls = made (flashScript p) (4 * n + k)

/-- Behind the loop: the script was followed up to some call, or up to one that failed. -/
def Left (p : Partition) (bytes : Nat) (s : Cycle) : Prop :=
  Follows (flashScript p) s.calls ∧ bytes = 4096 * verified s.calls

/-- Before the loop. -/
def Fresh (s : Cycle) : Prop := s.passes = 0 ∧ s.calls = []

/-- **What is known at a control point.** -/
def CycleInv (p : Partition) (s : Cycle) : Prop :=
  match s.stand with
  | .more (.check q _) => q = some p ∧ Fresh s
  | .more (.alloc q _) | .more (.enter q _) => q = p ∧ Fresh s
  | .more (.test l) | .more (.poll l) => ∃ n, Between p n l s
  | .more (.erase l) => ∃ n, Inside p n 0 l s
  | .more (.write l) => ∃ n, Inside p n 1 l s
  | .more (.read l) => ∃ n, Inside p n 2 l s
  | .more (.compare l) => ∃ n, Inside p n 3 l s
  | .more (.exit l) => Left p l.bytes s
  | .done _ a _ => Left p a s

section Step

variable {p running : Partition} {s : Cycle} {e : Seen}

theorem Between.left {n : Nat} {l : PartLocals} (h : Between p n l s) : Left p l.bytes s := by
  refine ⟨h.calls ▸ Follows.made _, ?_⟩
  rw [h.bytes, h.calls, verified_made, Nat.mul_div_cancel_left n (by omega)]

/-- A pass that goes on makes the next call of the script. -/
theorem Inside.call {n k : Nat} {l : PartLocals} (h : Inside p n k l s) (hk : k < 4) (ok : Bool) :
    s.calls ++ [(⟨s.passes, FlashOp.nth k, l.offset, 4096⟩, ok)] =
      made (flashScript p) (4 * n + k) ++ [(flashScript p (4 * n + k), ok)] := by
  rw [h.calls, h.passes, h.offset, flashScript_pass p n hk]

/-- A call that fails is the last of the script. -/
theorem Inside.fails {n k : Nat} {l : PartLocals} (h : Inside p n k l s) (hk : k < 4) {s' : Cycle}
    (hs' : s'.calls = s.calls ++ [(⟨s.passes, FlashOp.nth k, l.offset, 4096⟩, false)]) :
    Left p l.bytes s' := by
  have hv : verified s'.calls = n := by
    rw [hs', verified_failed, h.calls, verified_made]
    omega
  refine ⟨?_, by rw [hv, h.bytes]⟩
  rw [hs', h.call hk]
  exact Follows.failed _

/-- A call that goes well leads to the next. -/
theorem Inside.goes {n k : Nat} {l : PartLocals} (h : Inside p n k l s) (hk : k < 4) {s' : Cycle}
    (hp : s'.passes = s.passes)
    (hs' : s'.calls = s.calls ++ [(⟨s.passes, FlashOp.nth k, l.offset, 4096⟩, true)]) :
    Inside p n (k + 1) l s' where
  partition := h.partition
  bytes := h.bytes
  passes := hp.trans h.passes
  offset := h.offset
  calls := by rw [hs', h.call hk, ← Nat.add_assoc, made_succ]

/-- The last call of a pass leads back to the test of the loop, behind the block. -/
theorem Inside.completes {n : Nat} {l : PartLocals} (h : Inside p n 3 l s) (hp : 4096 ≤ p.size)
    {s' : Cycle} (hpass : s'.passes = s.passes)
    (hs' : s'.calls = s.calls ++ [(⟨s.passes, .compare, l.offset, 4096⟩, true)]) :
    Between p (n + 1) { l with offset := l.offset + ioBlock, bytes := l.bytes + ioBlock } s' where
  partition := h.partition
  bytes := by
    show l.bytes + 4096 = 4096 * (n + 1)
    rw [h.bytes, Nat.mul_succ]
  passes := hpass.trans h.passes
  offset := by
    show wrapped p (l.offset + 4096) = blockAt p (n + 1)
    rw [h.offset, wrapped_blockAt hp]
  within := by
    show l.offset + 4096 ≤ p.size
    rw [h.offset]
    exact blockAt_inside hp n
  calls := (h.goes (by omega) hpass hs').calls

/-- A step that neither calls nor begins a pass. -/
theorem next_silent {pc : PartPc} (hc : pc.call? = none) (hb : pc.begins e = false) :
    s.next running e pc = ⟨partitionCycle running e pc, s.passes, s.calls⟩ := by
  unfold Cycle.next
  rw [hc, hb]
  simp

/-- A step that calls. -/
theorem next_call {pc : PartPc} {op : FlashOp} {offset size : Nat}
    (hc : pc.call? = some (op, offset, size)) (hb : pc.begins e = false) :
    s.next running e pc = ⟨partitionCycle running e pc, s.passes,
      s.calls ++ [(⟨s.passes, op, offset, size⟩, op.passed e.ret)]⟩ := by
  unfold Cycle.next
  rw [hc, hb]
  rfl

/-- **An erase, a write or a read** goes on to the next call of the pass, or is the last. -/
theorem Inside.advance {n k : Nat} {l : PartLocals} {pc next : PartPc} (h : Inside p n k l s)
    (hk : k < 3) (hc : pc.call? = some (FlashOp.nth k, l.offset, 4096)) (hb : pc.begins e = false)
    (hpc : partitionCycle running e pc =
      if e.ret ≠ espOk then .more (.exit { l with ok := false }) else .more next)
    (hnext : ∀ s', s'.stand = .more next → Inside p n (k + 1) l s' → CycleInv p s') :
    CycleInv p (s.next running e pc) := by
  have hpassed : (FlashOp.nth k).passed e.ret = decide (e.ret = espOk) := by
    match k, hk with
    | 0, _ | 1, _ | 2, _ => rfl
  rw [next_call hc hb, hpc, hpassed]
  by_cases he : e.ret = espOk
  · rw [if_neg (not_not.mpr he), decide_eq_true he]
    exact hnext _ rfl (h.goes (by omega) rfl rfl)
  · rw [if_pos he, decide_eq_false he]
    exact h.fails (by omega) rfl

/-- **A step of `partition_cycle` keeps to the script.** -/
theorem cycleInv_step (hp : 4096 ≤ p.size) (hr : p ≠ running) {pc : PartPc}
    (hs : s.stand = .more pc) (I : CycleInv p s) : CycleInv p (s.next running e pc) := by
  unfold CycleInv at I
  rw [hs] at I
  cases pc with
  | check q d =>
      obtain ⟨rfl, hf⟩ := I
      rw [next_silent rfl rfl]
      simp only [partitionCycle, if_neg hr]
      exact ⟨rfl, hf⟩
  | alloc q d =>
      obtain ⟨rfl, hf⟩ := I
      rw [next_silent rfl rfl, hf.2]
      simp only [partitionCycle]
      split
      · exact ⟨Follows.made 0, rfl⟩
      · exact ⟨rfl, hf.1, rfl⟩
  | enter q d =>
      obtain ⟨rfl, hf⟩ := I
      rw [next_silent rfl rfl]
      exact ⟨0, rfl, rfl, hf.1, wrapped_zero, Nat.zero_le _, hf.2⟩
  | test l =>
      obtain ⟨n, h⟩ := I
      rw [next_silent rfl rfl]
      simp only [partitionCycle]
      split
      · exact ⟨n, h.partition, h.bytes, h.passes, h.offset, h.within, h.calls⟩
      · exact h.left
  | poll l =>
      obtain ⟨n, h⟩ := I
      cases ha : e.abort with
      | true =>
          rw [next_silent rfl (by simp [PartPc.begins, ha])]
          simp only [partitionCycle, ha, if_true]
          exact h.left
      | false =>
          -- the wrapped offset is a multiple of the block, so every pass begins with an erase
          have ho : (if l.offset + ioBlock > l.partition.size then 0 else l.offset) =
              blockAt p n := by
            rw [h.partition]
            exact h.offset
          have hm : blockAt p n % flashEraseBlock = 0 := blockAt_mod n
          unfold Cycle.next
          simp only [partitionCycle, ha, ho, hm, PartPc.begins, PartPc.call?]
          exact ⟨n, h.partition, h.bytes, congrArg (· + 1) h.passes, rfl,
            (List.append_nil _).trans h.calls⟩
  | erase l | write l | read l =>
      -- each of the three calls goes on with the next, in the same block
      obtain ⟨n, h⟩ := I
      refine h.advance (by omega) rfl rfl rfl fun s' hs' h' => ?_
      rw [CycleInv, hs']
      exact ⟨n, h'⟩
  | compare l =>
      obtain ⟨n, h⟩ := I
      rw [next_call rfl rfl]
      by_cases he : e.ret = 0
      · simp only [partitionCycle, he, ne_eq, not_true, if_false]
        exact ⟨n + 1, h.completes hp rfl (by simp [FlashOp.passed, ioBlock])⟩
      · simp only [partitionCycle, he, ne_eq, not_false_iff, if_true]
        exact h.fails (by omega) (by simp [FlashOp.passed, FlashOp.nth, ioBlock, he])
  | exit l =>
      rw [next_silent rfl rfl]
      exact I

end Step

/-- **The invariant of every run** on a partition that is not the running one. -/
theorem cycleInv_reach {p running : Partition} {d : Nat} {s : Cycle} (hp : 4096 ≤ p.size)
    (hr : p ≠ running) (h : Reach (cycling running (some p) d) Always s) : CycleInv p s := by
  refine h.inv ?_ ?_
  · intro s hs
    cases hs
    exact ⟨rfl, rfl, rfl⟩
  · intro s e s' _ I _ hs
    obtain ⟨pc, hpc, rfl⟩ := cycling_step hs
    exact cycleInv_step hp hr hpc I

/-- At every control point the calls made keep to the script. -/
theorem CycleInv.follows {p : Partition} {s : Cycle} (I : CycleInv p s) :
    Follows (flashScript p) s.calls := by
  unfold CycleInv at I
  cases hs : s.stand with
  | done ok a b =>
      rw [hs] at I
      exact I.1
  | more pc =>
      rw [hs] at I
      cases pc with
      | check | alloc | enter =>
          obtain ⟨-, -, hc⟩ := I
          exact hc ▸ Follows.made 0
      | test | poll | erase | write | read | compare =>
          obtain ⟨n, h⟩ := I
          exact h.calls ▸ Follows.made _
      | exit => exact I.1

/-- What is reported at the end. -/
theorem CycleInv.reported {p : Partition} {s : Cycle} (I : CycleInv p s) {ok : Bool} {a b : Nat}
    (hs : s.stand = .done ok a b) : a = 4096 * verified s.calls := by
  unfold CycleInv at I
  rw [hs] at I
  exact I.2

/-! ## 4. Every list of calls -/

/-- The passes that have erased, with the block each of them erased. -/
def visits (calls : List (FlashCall × Bool)) : List (Nat × Nat) :=
  (calls.filter fun c => c.1.op = .erase).map fun c => (c.1.pass, c.1.offset)

/-- **Calls that stay inside a partition, block by block.** -/
structure BlockByBlock (p : Partition) (calls : List (FlashCall × Bool)) : Prop where
  inside : ∀ c ∈ calls, c.1.size = 4096 ∧ c.1.offset % 4096 = 0 ∧ c.1.offset + 4096 ≤ p.size
  onePass : ∀ c ∈ calls, ∃ n, c.1.pass = n + 1 ∧ c.1.offset = blockAt p n
  erased : ∀ j c, calls[j]? = some c → c.1.op = .write →
    0 < j ∧ calls[j - 1]? = some ({ c.1 with op := .erase }, true)
  cyclic : visits calls =
    (List.range (visits calls).length).map fun n => (n + 1, blockAt p n)

section Script

variable {p : Partition}

theorem nth_eq_erase {k : Nat} (hk : k < 4) : FlashOp.nth k = .erase ↔ k = 0 := by
  match k, hk with
  | 0, _ | 1, _ | 2, _ | 3, _ => decide

theorem nth_eq_write {k : Nat} (hk : k < 4) : FlashOp.nth k = .write ↔ k = 1 := by
  match k, hk with
  | 0, _ | 1, _ | 2, _ | 3, _ => decide

theorem visits_append (calls : List (FlashCall × Bool)) (c : FlashCall × Bool) :
    visits (calls ++ [c]) =
      visits calls ++ if c.1.op = .erase then [(c.1.pass, c.1.offset)] else [] := by
  unfold visits
  rw [List.filter_append, List.map_append]
  by_cases h : c.1.op = .erase <;> simp [h]

/-- The next call of the script visits the next block exactly when it begins a pass. -/
theorem visits_next {m v : Nat} {calls : List (FlashCall × Bool)} {ok : Bool} (hv : v = (m + 3) / 4)
    (h : visits calls = (List.range v).map fun n => (n + 1, blockAt p n)) :
    visits (calls ++ [(flashScript p m, ok)]) =
      (List.range ((m + 1 + 3) / 4)).map fun n => (n + 1, blockAt p n) := by
  have hop : (flashScript p m).op = .erase ↔ m % 4 = 0 := nth_eq_erase (Nat.mod_lt m (by omega))
  rw [visits_append, h]
  by_cases hm : m % 4 = 0
  · have hn : (m + 1 + 3) / 4 = v + 1 := by omega
    have hd : m / 4 = v := by omega
    rw [if_pos (hop.mpr hm), hn, List.range_succ, List.map_append]
    simp [flashScript, hd]
  · have hn : (m + 1 + 3) / 4 = v := by omega
    rw [if_neg fun e => hm (hop.mp e), hn, List.append_nil]

theorem visits_made (m : Nat) : visits (made (flashScript p) m) =
    (List.range ((m + 3) / 4)).map fun n => (n + 1, blockAt p n) := by
  induction m with
  | zero => rfl
  | succ m ih =>
      rw [made_succ]
      exact visits_next rfl ih

/-- **Whoever keeps to the script works block by block.** -/
theorem blockByBlock_of_follows (hp : 4096 ≤ p.size) {calls : List (FlashCall × Bool)}
    (h : Follows (flashScript p) calls) : BlockByBlock p calls where
  inside c hc := by
    obtain ⟨j, hj⟩ := h.mem hc
    rw [hj]
    exact ⟨rfl, blockAt_mod _, blockAt_inside hp _⟩
  onePass c hc := by
    obtain ⟨j, hj⟩ := h.mem hc
    rw [hj]
    exact ⟨j / 4, rfl, rfl⟩
  erased j c hj hop := by
    obtain ⟨hc, hfront⟩ := h.getElem? hj
    rw [hc] at hop ⊢
    have hm : j % 4 = 1 := (nth_eq_write (Nat.mod_lt j (by omega))).mp hop
    have hpos : 0 < j := by omega
    have hd : (j - 1) / 4 = j / 4 := by omega
    have hm' : (j - 1) % 4 = 0 := by omega
    refine ⟨hpos, (hfront (j - 1) (by omega)).trans ?_⟩
    simp [flashScript, hd, hm', FlashOp.nth]
  cyclic := by
    cases h with
    | made m => rw [visits_made, List.length_map, List.length_range]
    | failed m => rw [visits_next rfl (visits_made m), List.length_map, List.length_range]

end Script

/-- On the running partition, and without one, no call is made and nothing but false returned. -/
theorem partition_cycle_refuses {running : Partition} {q : Option Partition} {d : Nat} {s : Cycle}
    (hq : q = none ∨ q = some running) (h : Reach (cycling running q d) Always s) :
    s.calls = [] ∧ (s.stand = .more (.check q d) ∨ s.stand = .done false 0 0) := by
  refine h.inv (I := fun s => s.calls = [] ∧
    (s.stand = .more (.check q d) ∨ s.stand = .done false 0 0)) ?_ ?_
  · intro s hs
    cases hs
    exact ⟨rfl, Or.inl rfl⟩
  · rintro s e s' - ⟨hc, hs⟩ - hstep
    obtain ⟨pc, hpc, rfl⟩ := cycling_step hstep
    rcases hs with hs | hs
    · rw [hs] at hpc
      cases hpc
      rw [next_silent rfl rfl]
      refine ⟨hc, Or.inr ?_⟩
      rcases hq with rfl | rfl
      · rfl
      · exact if_pos rfl
    · rw [hs] at hpc
      cases hpc

/-- **Every run of `partition_cycle`** on a partition of 4096 bytes to 2 GiB: on any but the
    running one it works block by block inside the partition, the sum it compares with the size
    does not overflow 32 bits, and it reports 4096 bytes for each block that verified; on the
    running one it makes no call and returns false. -/
theorem partition_cycle_blocks {p running : Partition} {durationMs : Nat} {s : Cycle}
    (hmin : 4096 ≤ p.size) (hmax : p.size ≤ 2 ^ 31)
    (h : Reach (cycling running (some p) durationMs) Always s) :
    (p ≠ running → BlockByBlock p s.calls ∧
      (∀ l, s.stand = .more (.poll l) → l.offset + ioBlock < 2 ^ 32) ∧
      ∀ ok a b, s.stand = .done ok a b → a = 4096 * verified s.calls) ∧
    (p = running → s.calls = [] ∧ ∀ ok a b, s.stand = .done ok a b → ok = false) := by
  constructor
  · intro hr
    have I := cycleInv_reach hmin hr h
    refine ⟨blockByBlock_of_follows hmin I.follows, ?_, fun ok a b hs => I.reported hs⟩
    intro l hl
    unfold CycleInv at I
    rw [hl] at I
    obtain ⟨n, hn⟩ := I
    have hw := hn.within
    unfold ioBlock
    omega
  · rintro rfl
    obtain ⟨hc, hs⟩ := partition_cycle_refuses (Or.inr rfl) h
    refine ⟨hc, ?_⟩
    rintro ok a b he
    rcases hs with hs | hs
    · rw [hs] at he
      cases he
    · rw [hs] at he
      cases he
      rfl

section Witness

/-- A partition of two blocks and a rest, and the running one. -/
def twoBlocks : Partition := ⟨0x110000, 8292⟩

def bootPartition : Partition := ⟨0x10000, 0x100000⟩

/-- A flash that answers every call well, at one moment. -/
def goodFlash (now : Nat) (ret : Int) : Seen := ⟨now, false, false, 0, ret⟩

/-- Three passes and the end of the loop: the third is back at the first block. -/
def threePasses : List Seen :=
  [goodFlash 0 0, goodFlash 0 1] ++ List.replicate 19 (goodFlash 0 0) ++
    List.replicate 2 (goodFlash 30000 0)

theorem partition_cycle_blocks_three_passes :
    ∃ s, Reach (cycling bootPartition (some twoBlocks) 30000) Always s ∧
      visits s.calls = [(1, 0), (2, 4096), (3, 0)] ∧ s.stand = .done true 12288 0 ∧
      12288 = 4096 * verified s.calls :=
  have hx : ((cycling bootPartition (some twoBlocks) 30000).exec
      ⟨.more (.check (some twoBlocks) 30000), 0, []⟩ threePasses).isSome = true := by decide
  have h := reach_runEnd (.start rfl) hx
  ⟨_, h, by decide, rfl,
    ((partition_cycle_blocks (by decide) (by decide) h).1 (by decide)).2.2 _ _ _ rfl⟩

end Witness

/-! ## 5. At the device -/

section Device

variable {B : Boot}

/-- **The worker of a flash workload runs `partition_cycle`** on the scratch partition or the next
    update partition, for the duration of its request. -/
theorem worker_cycles {C : Device → Action → Prop} {d : Device} (h : Reach (device B) C d) :
    ∀ t ∈ d.tasks, ∀ w, t.pc = .work w → ∀ pc, w = .partition pc →
      ∃ q s, (q = B.board.scratch ∨ q = B.board.nextUpdate) ∧
        Reach (cycling B.board.running q t.run.request.durationMs) Always s ∧
        s.stand = .more pc := by
  refine work_reach (J := fun r w => ∀ pc, w = .partition pc →
    ∃ q s, (q = B.board.scratch ∨ q = B.board.nextUpdate) ∧
      Reach (cycling B.board.running q r.durationMs) Always s ∧ s.stand = .more pc) ?_ ?_ h
  · intro r pc hw
    unfold workStart at hw
    cases hwl : r.workload <;> simp only [hwl] at hw <;> cases hw
    · exact ⟨_, _, Or.inl rfl, .start rfl, rfl⟩
    · exact ⟨_, _, Or.inr rfl, .start rfl, rfl⟩
  · intro r e w w' I hw pc' e'
    subst e'
    cases w with
    | partition pc =>
        obtain ⟨q, s, hq, hr, hs⟩ := I pc rfl
        obtain ⟨pc₁, hp, e₁⟩ := Outcome.map_eq_more hw
        cases e₁
        exact ⟨q, s.next B.board.running e pc, hq, cycling_next hr hs e, hp⟩
    | associated d | clients d =>
        simp only [workStep] at hw
        split at hw <;> cases hw
    | wait pc | cpu pc | nvs pc | network pc =>
        obtain ⟨_, -, e₁⟩ := Outcome.map_eq_more hw
        cases e₁

/-- **Every range a worker is about to erase, write or read** is one block inside its partition,
    which is not the running one. -/
theorem worker_inside_partition (hb : ∀ p, (B.board.scratch = some p ∨ B.board.nextUpdate = some p) →
      4096 ≤ p.size) {C : Device → Action → Prop} {d : Device} (h : Reach (device B) C d) {t : Task}
    (ht : t ∈ d.tasks) {pc : PartPc} (hpc : t.pc = .work (.partition pc)) {op : FlashOp}
    {offset size : Nat} (hc : pc.call? = some (op, offset, size)) :
    ∃ p, (B.board.scratch = some p ∨ B.board.nextUpdate = some p) ∧ p ≠ B.board.running ∧
      size = 4096 ∧ offset % 4096 = 0 ∧ offset + 4096 ≤ p.size := by
  obtain ⟨q, s, hq, hr, hs⟩ := worker_cycles h t ht _ hpc pc rfl
  have refused : q = none ∨ q = some B.board.running → False := by
    intro hq'
    obtain ⟨-, hs' | hs'⟩ := partition_cycle_refuses hq' hr
    · rw [hs] at hs'
      cases hs'
      cases hc
    · rw [hs] at hs'
      cases hs'
  cases q with
  | none => exact (refused (Or.inl rfl)).elim
  | some p =>
      have hne : p ≠ B.board.running := fun e => refused (Or.inr (congrArg some e))
      have hp : B.board.scratch = some p ∨ B.board.nextUpdate = some p :=
        hq.imp Eq.symm Eq.symm
      have hbegins : pc.begins (goodFlash 0 0) = false := by
        cases pc <;> first | rfl | cases hc
      -- the next step makes the call, so it is among the calls of the state behind it
      have hr' := cycling_next hr hs (goodFlash 0 0)
      have I := blockByBlock_of_follows (hb p hp) (cycleInv_reach (hb p hp) hne hr').follows
      rw [next_call hc hbegins] at I
      obtain ⟨hsize, hmod, hin⟩ := I.inside _ (List.mem_append_right _ (List.mem_singleton_self _))
      exact ⟨p, hp, hne, hsize, hmod, hin⟩

end Device

end DragonBench
