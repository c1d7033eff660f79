/-
  File:      DragonBench/Pacing.lean
  Subject:   THE PACING OF `run_network`: how far it keeps the rate that was asked for, and how long
             it sleeps.

  After every block the loop sleeps `32768000 / rate_bps` milliseconds, rounded down and rounded
  down again to ticks. Both roundings shorten the sleep, so the rate is kept only where there is
  nothing to round; and the sleep is not bounded by the duration, so at low rates the loop is deaf
  for longer than the run was to last.

  * `Rtos`, `pdMsToTicks` -- the tick arithmetic;
  * `Paced`, `paced` -- `run_network` under a clock that only the pacing moves;
  * `PacedInv` -- what each control point has sent, received and slept;
  * **`pacing_within_iff`** -- the requests whose bits stay within the rate;
  * **`pacing_checks_iff`** -- the requests whose loop looks up at least once per duration.
-/
import Mathlib.Algebra.Order.Floor.Div
import Mathlib.Tactic.Ring
import DragonBench.Lib.Transition
import DragonBench.RunsPost
import DragonBench.Workload

namespace DragonBench

open Transition

/-! ## 1. Ticks -/

/-- The tick of the kernel, of whole milliseconds. The longest delay of the pacing, 32768000 ms at
    one bit a second, does not overflow `TickType_t` when it is converted. -/
structure Rtos where
  /-- `configTICK_RATE_HZ` -/
  tickRateHz : Nat
  /-- `portTICK_PERIOD_MS` -/
  tickPeriodMs : Nat
  exact : tickRateHz * tickPeriodMs = 1000
  fits : ioBlock * 8 * 1000 * tickRateHz < 2 ^ 32

namespace Rtos

variable (T : Rtos)

/-- `pdMS_TO_TICKS`, in 32-bit arithmetic. -/
def pdMsToTicks (ms : Nat) : Nat := ms * T.tickRateHz % 2 ^ 32 / 1000

/-- How long `vTaskDelay(pdMS_TO_TICKS(ms))` sleeps. -/
def sleepMs (ms : Nat) : Nat := T.tickPeriodMs * T.pdMsToTicks ms

theorem tickRateHz_pos : 0 < T.tickRateHz := by
  refine Nat.pos_of_ne_zero fun h => ?_
  have e := T.exact
  rw [h, Nat.zero_mul] at e
  cases e

theorem tickPeriodMs_pos : 0 < T.tickPeriodMs := by
  refine Nat.pos_of_ne_zero fun h => ?_
  have e := T.exact
  rw [h, Nat.mul_zero] at e
  cases e

theorem sleepMs_zero : T.sleepMs 0 = 0 := by
  unfold sleepMs pdMsToTicks
  rw [Nat.zero_mul]
  rfl

/-- Rounding down to milliseconds and then to ticks is rounding down once. -/
theorem sleepMs_pacing (rateBps : Nat) :
    T.sleepMs (pacingDelayMs rateBps) =
      T.tickPeriodMs * (32768000 / (rateBps * T.tickPeriodMs)) := by
  have hle : 32768000 / rateBps ≤ 32768000 := Nat.div_le_self _ _
  have hms : pacingDelayMs rateBps = 32768000 / rateBps :=
    Nat.mod_eq_of_lt (lt_of_le_of_lt hle (by omega))
  have hfits : 32768000 * T.tickRateHz < 2 ^ 32 := T.fits
  have hlt : 32768000 / rateBps * T.tickRateHz < 2 ^ 32 :=
    lt_of_le_of_lt (Nat.mul_le_mul_right _ hle) hfits
  unfold sleepMs pdMsToTicks
  rw [hms, Nat.mod_eq_of_lt hlt, ← T.exact, Nat.mul_comm T.tickRateHz,
    Nat.mul_div_mul_right _ _ T.tickRateHz_pos, Nat.div_div_eq_div_mul]

/-- The sleep of one block does not pay for more than the block. -/
theorem rate_mul_sleep_le (rateBps : Nat) :
    rateBps * T.sleepMs (pacingDelayMs rateBps) ≤ 32768000 := by
  rw [sleepMs_pacing, ← Nat.mul_assoc]
  exact Nat.mul_div_le _ _

/-- It pays for the whole block exactly when there is nothing to round. -/
theorem rate_mul_sleep_eq (rateBps : Nat) :
    rateBps * T.sleepMs (pacingDelayMs rateBps) = 32768000 ↔
      rateBps * T.tickPeriodMs ∣ 32768000 := by
  rw [sleepMs_pacing, ← Nat.mul_assoc]
  exact ⟨fun h => ⟨_, h.symm⟩, Nat.mul_div_cancel'⟩

/-- The duration in whole ticks, rounded up. -/
def roundUpMs (durationMs : Nat) : Nat := T.tickPeriodMs * (durationMs ⌈/⌉ T.tickPeriodMs)

/-- The first sleep reaches the deadline when the rate allows no more than one block in the
    duration. -/
theorem le_sleep_iff (rateBps durationMs : Nat) (h : rateBps ≠ 0) :
    durationMs ≤ T.sleepMs (pacingDelayMs rateBps) ↔
      rateBps * T.roundUpMs durationMs ≤ 32768000 := by
  have hp := T.tickPeriodMs_pos
  have hrp : 0 < rateBps * T.tickPeriodMs := Nat.mul_pos (Nat.pos_of_ne_zero h) hp
  have e : rateBps * T.roundUpMs durationMs =
      durationMs ⌈/⌉ T.tickPeriodMs * (rateBps * T.tickPeriodMs) := by
    unfold roundUpMs
    ring
  rw [e, sleepMs_pacing, ← ceilDiv_le_iff_le_mul hp, Nat.le_div_iff_mul_le hrp]

/-- The sleep stays within the duration when one more tick than the duration would pay for more
    than a block. -/
theorem sleep_le_iff (rateBps durationMs : Nat) (h : rateBps ≠ 0) :
    T.sleepMs (pacingDelayMs rateBps) ≤ durationMs ↔
      32768000 < rateBps * (T.tickPeriodMs * (durationMs / T.tickPeriodMs + 1)) := by
  have hp := T.tickPeriodMs_pos
  have hrp : 0 < rateBps * T.tickPeriodMs := Nat.mul_pos (Nat.pos_of_ne_zero h) hp
  have e : rateBps * (T.tickPeriodMs * (durationMs / T.tickPeriodMs + 1)) =
      (durationMs / T.tickPeriodMs + 1) * (rateBps * T.tickPeriodMs) := by ring
  rw [e, sleepMs_pacing, Nat.mul_comm, ← Nat.le_div_iff_mul_le hp, ← Nat.lt_succ_iff,
    Nat.div_lt_iff_lt_mul hrp]

end Rtos

/-! ## 2. The loop under a clock -/

/-- What a step of `run_network` sees besides the clock. -/
structure NetSees where
  abort : Bool
  ret : Int

/-- `run_network` with the uptime at its start, now, and at the last test of its loop. -/
structure Paced where
  start : Nat
  now : Nat
  checked : Nat
  stand : Outcome NetPc

/-- `*tx`. -/
def NetPc.sent : NetPc → Nat
  | .connect _ | .enter _ => 0
  | .test l | .poll l | .send l | .recv l | .delay l _ | .shutdown l | .exit l => l.tx

/-- `*rx`. -/
def NetPc.received : NetPc → Nat
  | .connect _ | .enter _ => 0
  | .test l | .poll l | .send l | .recv l | .delay l _ | .shutdown l | .exit l => l.rx

/-- How long a step takes: time advances by the pacing delays alone. -/
def Rtos.takes (T : Rtos) : NetPc → Nat
  | .delay _ ms => T.sleepMs ms
  | _ => 0

/-- The test of the loop, after which the abort flag is read. -/
def NetPc.looks : NetPc → Bool
  | .test _ => true
  | _ => false

namespace Paced

/-- The bytes sent so far. -/
def tx (s : Paced) : Nat :=
  match s.stand with
  | .more pc => pc.sent
  | .done _ tx _ => tx

/-- The bytes received so far. -/
def rx (s : Paced) : Nat :=
  match s.stand with
  | .more pc => pc.received
  | .done _ _ rx => rx

/-- One step at `pc`. -/
def advance (T : Rtos) (s : Paced) (pc : NetPc) (a : NetSees) : Paced where
  start := s.start
  now := s.now + T.takes pc
  checked := if pc.looks then s.now else s.checked
  stand := runNetwork ⟨s.now, a.abort, false, 0, a.ret⟩ pc

/-- One step; `send` and `recv` return at most a block. -/
def step (T : Rtos) (s : Paced) (a : NetSees) : Option Paced :=
  match s.stand with
  | .done _ _ _ => none
  | .more pc => if pc.transfers ∧ ioBlock < a.ret then none else some (s.advance T pc a)

theorem step_some {T : Rtos} {s s' : Paced} {a : NetSees} (h : step T s a = some s') :
    ∃ pc, s.stand = .more pc ∧ (pc.transfers = true → a.ret ≤ ioBlock) ∧ s' = s.advance T pc a := by
  unfold step at h
  split at h
  · cases h
  · rename_i pc hpc
    split at h
    · cases h
    · rename_i hle
      cases h
      exact ⟨pc, hpc, fun ht => not_lt.mp fun hlt => hle ⟨ht, hlt⟩, rfl⟩

end Paced

/-- `run_network` on the request `r`, started at any time. -/
def paced (T : Rtos) (r : DbRunRequest) : System Paced NetSees where
  init s := ∃ t, s = ⟨t, t, t, .more (.connect r)⟩
  step := Paced.step T

/-! ## 3. What a run has done after `m` iterations -/

/-- The sleep of one iteration. -/
def Rtos.pace (T : Rtos) (r : DbRunRequest) : Nat := T.sleepMs (pacingDelayMs r.rateBps)

/-- Without a delay there is no sleep. -/
theorem pace_eq_zero {T : Rtos} {r : DbRunRequest}
    (h : ¬ (r.rateBps ≠ 0 ∧ pacingDelayMs r.rateBps ≠ 0)) : T.pace r = 0 := by
  have h0 : pacingDelayMs r.rateBps = 0 := by
    by_cases hr : r.rateBps = 0
    · rw [hr]
      rfl
    · exact not_not.mp fun hn => h ⟨hr, hn⟩
  unfold Rtos.pace
  rw [h0, T.sleepMs_zero]

/-- The locals of the loop. -/
structure LoopLocals (r : DbRunRequest) (start : Nat) (l : NetLocals) : Prop where
  request : l.request = r
  deadline : l.deadline = start + r.durationMs

/-- At most `m` blocks sent and `n` received. -/
def Blocks (tx rx m n : Nat) : Prop := tx ≤ ioBlock * m ∧ rx ≤ ioBlock * n

/-- At the end of the loop: after `m` whole iterations, or inside one more. -/
def LoopEnd (r : DbRunRequest) (σ m tx rx : Nat) : Prop :=
  Blocks tx rx m m ∧ (m = 0 ∨ (m - 1) * σ < r.durationMs) ∨
    Blocks tx rx (m + 1) (m + 1) ∧ m * σ < r.durationMs

/-- **What is known at a control point** after `m` whole iterations of `σ` milliseconds each: every
    iteration began before the deadline. -/
def LoopAt (r : DbRunRequest) (σ m start now checked : Nat) : Outcome NetPc → Prop
  | .more (.connect r') | .more (.enter r') => r' = r ∧ m = 0 ∧ now = checked
  | .more (.test l) => LoopLocals r start l ∧ now ≤ checked + σ ∧ Blocks l.tx l.rx m m ∧
    (m = 0 ∨ (m - 1) * σ < r.durationMs)
  | .more (.poll l) | .more (.send l) => LoopLocals r start l ∧ now = checked ∧
    Blocks l.tx l.rx m m ∧ m * σ < r.durationMs
  | .more (.recv l) => LoopLocals r start l ∧ now = checked ∧
    Blocks l.tx l.rx (m + 1) m ∧ m * σ < r.durationMs
  | .more (.delay l ms) => LoopLocals r start l ∧ now = checked ∧
    Blocks l.tx l.rx (m + 1) (m + 1) ∧ m * σ < r.durationMs ∧ ms = pacingDelayMs r.rateBps
  | .more (.shutdown l) | .more (.exit l) => now = checked ∧ LoopEnd r σ m l.tx l.rx
  | .done _ tx rx => now = checked ∧ LoopEnd r σ m tx rx

/-- **The invariant of the timed loop.** -/
def PacedInv (T : Rtos) (r : DbRunRequest) (s : Paced) : Prop :=
  ∃ m, s.now = s.start + m * T.pace r ∧ LoopAt r (T.pace r) m s.start s.now s.checked s.stand

theorem blocks_succ (m : Nat) : ioBlock * m ≤ ioBlock * (m + 1) :=
  Nat.mul_le_mul_left _ (Nat.le_succ m)

/-- An iteration that begins before the deadline comes after one that did. -/
theorem begun_before {m σ d : Nat} (h : m * σ < d) : m = 0 ∨ (m - 1) * σ < d :=
  Or.inr (lt_of_le_of_lt (Nat.mul_le_mul_right _ (Nat.sub_le m 1)) h)

section Inv

variable {T : Rtos} {r : DbRunRequest} {m start now : Nat} {l : NetLocals}

/-- The end of a loop body: the iteration is over, or its sleep is still to come. -/
theorem netPace_at (hl : LoopLocals r start l) (hb : Blocks l.tx l.rx (m + 1) (m + 1))
    (hm : m * T.pace r < r.durationMs) (hn : now = start + m * T.pace r) :
    ∃ m', now = start + m' * T.pace r ∧
      LoopAt r (T.pace r) m' start now now (.more (netPace l)) := by
  unfold netPace
  rw [hl.request]
  by_cases hd : r.rateBps ≠ 0 ∧ pacingDelayMs r.rateBps ≠ 0
  · rw [if_pos hd]
    exact ⟨m, hn, hl, rfl, hb, hm, rfl⟩
  · -- no sleep: the next iteration begins at the same time
    rw [if_neg hd]
    rw [pace_eq_zero hd] at hn hm ⊢
    exact ⟨m + 1, hn, hl, Nat.le_refl _, hb, Or.inr hm⟩

theorem netRecv_at (hl : LoopLocals r start l) (hb : Blocks l.tx l.rx (m + 1) m)
    (hm : m * T.pace r < r.durationMs) (hn : now = start + m * T.pace r) :
    ∃ m', now = start + m' * T.pace r ∧
      LoopAt r (T.pace r) m' start now now (.more (netRecv l)) := by
  unfold netRecv
  by_cases hw : l.request.workload ≠ .netTx
  · rw [if_pos hw]
    exact ⟨m, hn, hl, rfl, hb, hm⟩
  · rw [if_neg hw]
    exact netPace_at hl ⟨hb.1, le_trans hb.2 (blocks_succ m)⟩ hm hn

theorem netSend_at (hl : LoopLocals r start l) (hb : Blocks l.tx l.rx m m)
    (hm : m * T.pace r < r.durationMs) (hn : now = start + m * T.pace r) :
    ∃ m', now = start + m' * T.pace r ∧
      LoopAt r (T.pace r) m' start now now (.more (netSend l)) := by
  unfold netSend
  by_cases hw : l.request.workload ≠ .netRx
  · rw [if_pos hw]
    exact ⟨m, hn, hl, rfl, hb, hm⟩
  · rw [if_neg hw]
    exact netRecv_at hl ⟨le_trans hb.1 (blocks_succ m), hb.2⟩ hm hn

/-- One more block at most. -/
theorem add_block {n m : Nat} {ret : Int} (h : n ≤ ioBlock * m) (hr : ret ≤ ioBlock) :
    n + ret.toNat ≤ ioBlock * (m + 1) := by
  rw [Nat.mul_succ]
  omega

theorem pacedInv_step {s s' : Paced} {a : NetSees} (I : PacedInv T r s)
    (h : Paced.step T s a = some s') : PacedInv T r s' := by
  obtain ⟨pc, hpc, hret, rfl⟩ := Paced.step_some h
  obtain ⟨m, hnow, hat⟩ := I
  rw [hpc] at hat
  unfold PacedInv Paced.advance
  cases pc with
  | connect r' =>
      obtain ⟨rfl, rfl, hc⟩ := hat
      refine ⟨0, hnow, ?_⟩
      simp only [runNetwork]
      by_cases hf : a.ret < 0
      · rw [if_pos hf]
        exact ⟨hc, Or.inl ⟨⟨Nat.le_refl _, Nat.le_refl _⟩, Or.inl rfl⟩⟩
      · rw [if_neg hf]
        exact ⟨rfl, rfl, hc⟩
  | enter r' =>
      obtain ⟨rfl, rfl, hc⟩ := hat
      have hs : s.now = s.start := by rw [hnow, Nat.zero_mul]; rfl
      refine ⟨0, hnow, ⟨rfl, ?_⟩, ?_, ⟨Nat.le_refl _, Nat.le_refl _⟩, Or.inl rfl⟩
      · dsimp only
        rw [hs]
      · exact le_trans (Nat.le_of_eq hc) (Nat.le_add_right _ _)
  | test l =>
      obtain ⟨hl, -, hb, hm⟩ := hat
      refine ⟨m, hnow, ?_⟩
      simp only [runNetwork]
      by_cases hlt : s.now < l.deadline
      · rw [if_pos hlt]
        refine ⟨hl, rfl, hb, ?_⟩
        rw [hl.deadline, hnow] at hlt
        exact Nat.lt_of_add_lt_add_left hlt
      · rw [if_neg hlt]
        exact ⟨rfl, Or.inl ⟨hb, hm⟩⟩
  | poll l =>
      obtain ⟨hl, hc, hb, hm⟩ := hat
      by_cases hab : a.abort = true
      · simp only [runNetwork, if_pos hab]
        exact ⟨m, hnow, hc, Or.inl ⟨hb, begun_before hm⟩⟩
      · simp only [runNetwork, if_neg hab]
        obtain ⟨m', h1, h2⟩ := netSend_at hl hb hm hnow
        exact ⟨m', h1, hc ▸ h2⟩
  | send l =>
      obtain ⟨hl, hc, hb, hm⟩ := hat
      by_cases hz : a.ret ≤ 0
      · simp only [runNetwork, if_pos hz]
        exact ⟨m, hnow, hc, Or.inl ⟨hb, begun_before hm⟩⟩
      · simp only [runNetwork, if_neg hz]
        have hl' : LoopLocals r s.start { l with tx := l.tx + a.ret.toNat } := ⟨hl.1, hl.2⟩
        obtain ⟨m', h1, h2⟩ := netRecv_at hl' ⟨add_block hb.1 (hret rfl), hb.2⟩ hm hnow
        exact ⟨m', h1, hc ▸ h2⟩
  | recv l =>
      obtain ⟨hl, hc, hb, hm⟩ := hat
      by_cases hz : a.ret ≤ 0
      · simp only [runNetwork, if_pos hz]
        exact ⟨m, hnow, hc, Or.inr ⟨⟨hb.1, le_trans hb.2 (blocks_succ m)⟩, hm⟩⟩
      · simp only [runNetwork, if_neg hz]
        have hl' : LoopLocals r s.start { l with rx := l.rx + a.ret.toNat } := ⟨hl.1, hl.2⟩
        obtain ⟨m', h1, h2⟩ := netPace_at hl' ⟨hb.1, add_block hb.2 (hret rfl)⟩ hm hnow
        exact ⟨m', h1, hc ▸ h2⟩
  | delay l ms =>
      obtain ⟨hl, hc, hb, hm, rfl⟩ := hat
      refine ⟨m + 1, ?_, hl, ?_, hb, Or.inr hm⟩
      · show s.now + T.pace r = s.start + (m + 1) * T.pace r
        rw [hnow, Nat.succ_mul, Nat.add_assoc]
      · show s.now + T.pace r ≤ s.checked + T.pace r
        rw [hc]
  | shutdown l => exact ⟨m, hnow, hat⟩
  | exit l => exact ⟨m, hnow, hat⟩

theorem pacedInv_reach {s : Paced} (h : Reach (paced T r) Always s) : PacedInv T r s := by
  refine Reach.inv (C := Always) ?_ ?_ h
  · rintro s ⟨t, rfl⟩
    exact ⟨0, by rw [Nat.zero_mul]; rfl, rfl, rfl, rfl⟩
  · intro s a s' _ I _ hs
    exact pacedInv_step I hs

end Inv

/-! ## 4. Runs block by block -/

section Runs

variable {T : Rtos} {r : DbRunRequest} {s : Paced} {l : NetLocals}

/-- A step of the run, nothing being aborted. -/
theorem paced_advance {pc : NetPc} (ret : Int) (h : Reach (paced T r) Always s)
    (hs : s.stand = .more pc) (hret : ret ≤ ioBlock) :
    Reach (paced T r) Always (s.advance T pc ⟨false, ret⟩) := by
  refine .step h trivial (a := ⟨false, ret⟩) ?_
  show Paced.step T s ⟨false, ret⟩ = _
  simp only [Paced.step, hs]
  exact if_neg fun hn => absurd hn.2 (not_lt.mpr hret)

/-- What a request moves, whichever way: the bytes sent, or received where it only receives. -/
def NetLocals.moved (l : NetLocals) : Nat := if l.request.workload ≠ .netRx then l.tx else l.rx

/-- A run from `s`, where the loop tests its condition with the locals `l`. -/
structure AtTest (T : Rtos) (r : DbRunRequest) (s : Paced) (l : NetLocals) : Prop where
  reach : Reach (paced T r) Always s
  stand : s.stand = .more (.test l)
  request : l.request = r
  deadline : l.deadline = s.start + r.durationMs

/-- The first test. -/
theorem atTest_first (T : Rtos) (r : DbRunRequest) :
    ∃ s l, AtTest T r s l ∧ s.now = s.start ∧ l.moved = 0 := by
  have h0 : Reach (paced T r) Always ⟨0, 0, 0, .more (.connect r)⟩ := .start ⟨0, rfl⟩
  have h1 := paced_advance 0 h0 rfl (by omega)
  have h2 := paced_advance 0 h1 rfl (by omega)
  refine ⟨_, _, ⟨h2, rfl, rfl, rfl⟩, rfl, ?_⟩
  unfold NetLocals.moved
  split <;> rfl

/-- **A whole block moves**, and the loop stands before its pacing. -/
theorem AtTest.block (h : AtTest T r s l) (hlt : s.now < s.start + r.durationMs) :
    ∃ s' l', Reach (paced T r) Always s' ∧ s'.stand = .more (netPace l') ∧ s'.start = s.start ∧
      s'.now = s.now ∧ s'.checked = s.now ∧ l'.request = r ∧ l'.deadline = l.deadline ∧
      l'.moved = l.moved + ioBlock := by
  have hdl : s.now < l.deadline := by
    rw [h.deadline]
    exact hlt
  have h1 := paced_advance 0 h.reach h.stand (by omega)
  have e1 : (s.advance T (.test l) ⟨false, 0⟩).stand = .more (.poll l) := if_pos hdl
  have h2 := paced_advance 0 h1 e1 (by omega)
  have hio : (ioBlock : Int) ≤ ioBlock := le_rfl
  by_cases hrx : l.request.workload ≠ .netRx
  · have hsend : netSend l = .send l := if_pos hrx
    have h3 := paced_advance ioBlock h2 (congrArg Outcome.more hsend) hio
    have hmoved : NetLocals.moved { l with tx := l.tx + ioBlock } = l.moved + ioBlock := by
      unfold NetLocals.moved
      rw [if_pos hrx, if_pos hrx]
    by_cases htx : l.request.workload ≠ .netTx
    · have hrecv : netRecv { l with tx := l.tx + ioBlock } = .recv { l with tx := l.tx + ioBlock } :=
        if_pos htx
      have h4 := paced_advance ioBlock h3 (congrArg Outcome.more hrecv) hio
      refine ⟨_, _, h4, rfl, rfl, rfl, rfl, h.request, rfl, ?_⟩
      rw [← hmoved]
      unfold NetLocals.moved
      rw [if_pos hrx, if_pos hrx]
    · have hpace : netRecv { l with tx := l.tx + ioBlock } = netPace { l with tx := l.tx + ioBlock } :=
        if_neg htx
      exact ⟨_, _, h3, congrArg Outcome.more hpace, rfl, rfl, rfl, h.request, rfl, hmoved⟩
  · have hw : l.request.workload = .netRx := not_not.mp hrx
    have hsend : netSend l = .recv l := by
      unfold netSend netRecv
      rw [if_neg hrx, if_pos (by rw [hw]; exact DbWorkload.noConfusion)]
    have h3 := paced_advance ioBlock h2 (congrArg Outcome.more hsend) hio
    refine ⟨_, _, h3, rfl, rfl, rfl, rfl, h.request, rfl, ?_⟩
    unfold NetLocals.moved
    rw [if_neg hrx, if_neg hrx]
    rfl

/-- The pacing leads back to the test, one sleep later. -/
theorem netPace_test (h : Reach (paced T r) Always s) (hs : s.stand = .more (netPace l))
    (hr : l.request = r) (hd : l.deadline = s.start + r.durationMs) :
    ∃ s', AtTest T r s' l ∧ s'.start = s.start ∧ s'.now = s.now + T.pace r := by
  unfold netPace at hs
  rw [hr] at hs
  by_cases hp : r.rateBps ≠ 0 ∧ pacingDelayMs r.rateBps ≠ 0
  · rw [if_pos hp] at hs
    have h' := paced_advance 0 h hs (by omega)
    exact ⟨_, ⟨h', rfl, hr, hd⟩, rfl, rfl⟩
  · rw [if_neg hp] at hs
    exact ⟨s, ⟨h, hs, hr, hd⟩, rfl, by rw [pace_eq_zero hp]; rfl⟩

/-- What has been moved is counted. -/
theorem moved_le {n : Nat} (hs : s.stand = .more (netPace l)) (ht : s.tx ≤ n) (hr : s.rx ≤ n) :
    l.moved ≤ n := by
  have hsent : (netPace l).sent = l.tx := by
    unfold netPace
    split <;> rfl
  have hreceived : (netPace l).received = l.rx := by
    unfold netPace
    split <;> rfl
  unfold Paced.tx at ht
  unfold Paced.rx at hr
  rw [hs] at ht hr
  unfold NetLocals.moved
  split
  · exact hsent ▸ ht
  · exact hreceived ▸ hr

end Runs

/-! ## 5. The rate -/

/-- **The bits sent and received stay within the rate**: at most `rate_bps` a second, and one block.
    Both sides are in bits times milliseconds. -/
def Paced.WithinRate (r : DbRunRequest) (s : Paced) : Prop :=
  8 * s.tx * 1000 ≤ r.rateBps * (s.now - s.start) + 8 * ioBlock * 1000 ∧
    8 * s.rx * 1000 ≤ r.rateBps * (s.now - s.start) + 8 * ioBlock * 1000

/-- What has been moved, counted in iterations. -/
theorem PacedInv.blocks {T : Rtos} {r : DbRunRequest} {s : Paced} (I : PacedInv T r s) :
    ∃ m, s.now = s.start + m * T.pace r ∧ LoopEnd r (T.pace r) m s.tx s.rx := by
  obtain ⟨m, hnow, hat⟩ := I
  refine ⟨m, hnow, ?_⟩
  unfold Paced.tx Paced.rx
  cases hs : s.stand with
  | done ok tx rx =>
      rw [hs] at hat
      exact hat.2
  | more pc =>
      rw [hs] at hat
      cases pc with
      | connect | enter => exact Or.inl ⟨⟨Nat.zero_le _, Nat.zero_le _⟩, Or.inl hat.2.1⟩
      | test l => exact Or.inl hat.2.2
      | poll l | send l => exact Or.inl ⟨hat.2.2.1, begun_before hat.2.2.2⟩
      | recv l => exact Or.inr ⟨⟨hat.2.2.1.1, le_trans hat.2.2.1.2 (blocks_succ m)⟩, hat.2.2.2⟩
      | delay l ms => exact Or.inr ⟨hat.2.2.1, hat.2.2.2.1⟩
      | shutdown l | exit l => exact hat.2

/-- A sleep that pays for its block keeps the rate; so does a run of one block. -/
theorem within_of_blocks {T : Rtos} {r : DbRunRequest} {s : Paced} (I : PacedInv T r s)
    (hc : r.rateBps * T.pace r = 32768000 ∨ r.durationMs ≤ T.pace r) : s.WithinRate r := by
  obtain ⟨m, hnow, hb⟩ := I.blocks
  have hel : s.now - s.start = m * T.pace r := by omega
  have hio : ioBlock = 4096 := rfl
  have key : ∀ n, n ≤ ioBlock * (m + 1) → (r.durationMs ≤ T.pace r → n ≤ ioBlock) →
      8 * n * 1000 ≤ r.rateBps * (m * T.pace r) + 8 * ioBlock * 1000 := by
    intro n hn h1
    rcases hc with hc | hc
    · have e : r.rateBps * (m * T.pace r) = m * 32768000 := by
        rw [← hc]
        ring
      rw [e]
      rw [hio] at hn ⊢
      omega
    · have := h1 hc
      omega
  -- within one duration there is room for one sleep only
  have few : ∀ k, k * T.pace r < r.durationMs → r.durationMs ≤ T.pace r → k = 0 := by
    intro k hk hd
    by_contra h0
    have := Nat.le_mul_of_pos_left (T.pace r) (Nat.pos_of_ne_zero h0)
    omega
  unfold Paced.WithinRate
  rw [hel]
  rcases hb with ⟨⟨ht, hr⟩, hm⟩ | ⟨⟨ht, hr⟩, hm⟩
  · have small : r.durationMs ≤ T.pace r → ioBlock * m ≤ ioBlock := by
      intro hd
      rw [hio]
      rcases hm with hm | hm
      · omega
      · have := few _ hm hd
        omega
    exact ⟨key _ (le_trans ht (blocks_succ m)) fun hd => le_trans ht (small hd),
      key _ (le_trans hr (blocks_succ m)) fun hd => le_trans hr (small hd)⟩
  · have small : r.durationMs ≤ T.pace r → ioBlock * (m + 1) ≤ ioBlock := by
      intro hd
      rw [few _ hm hd, hio]
    exact ⟨key _ ht fun hd => le_trans ht (small hd), key _ hr fun hd => le_trans hr (small hd)⟩

/-- **Two blocks are too many** where the sleep between them does not pay for the first. -/
theorem two_blocks {T : Rtos} {r : DbRunRequest} (hd : T.pace r < r.durationMs)
    (h : ∀ s, Reach (paced T r) Always s → s.WithinRate r) : r.rateBps * T.pace r = 32768000 := by
  obtain ⟨s₀, l₀, h₀, hn₀, hm₀⟩ := atTest_first T r
  obtain ⟨s₁, l₁, h₁, hs₁, hst₁, hn₁, -, hr₁, hd₁, hm₁⟩ := h₀.block (by omega)
  obtain ⟨s₂, h₂, hst₂, hn₂⟩ := netPace_test h₁ hs₁ hr₁ (by rw [hd₁, h₀.deadline, hst₁])
  obtain ⟨s₃, l₃, h₃, hs₃, hst₃, hn₃, -, -, -, hm₃⟩ := h₂.block (by omega)
  have hel : s₃.now - s₃.start = T.pace r := by omega
  obtain ⟨ht, hr⟩ := h s₃ h₃
  rw [hel] at ht hr
  have hle := T.rate_mul_sleep_le r.rateBps
  have hio : ioBlock = 4096 := rfl
  have hmoved : l₃.moved ≤ (r.rateBps * T.pace r + 8 * ioBlock * 1000) / 8000 :=
    moved_le hs₃ (by omega) (by omega)
  change r.rateBps * T.pace r ≤ 32768000 at hle
  omega

/-- **The bits stay within the rate** in every run of a request, whatever `send` and `recv` return,
    exactly when the pacing has nothing to round, or the rate allows no more than one block in the
    whole duration. -/
theorem pacing_within_iff (T : Rtos) (r : DbRunRequest) (hr : r.rateBps ≠ 0) :
    (∀ s, Reach (paced T r) Always s → s.WithinRate r) ↔
      r.rateBps * T.tickPeriodMs ∣ 32768000 ∨ r.rateBps * T.roundUpMs r.durationMs ≤ 32768000 := by
  rw [← T.rate_mul_sleep_eq, ← T.le_sleep_iff _ _ hr]
  constructor
  · intro h
    by_cases hd : r.durationMs ≤ T.pace r
    · exact Or.inr hd
    · exact Or.inl (two_blocks (not_le.mp hd) h)
  · intro hc s hs
    exact within_of_blocks (pacedInv_reach hs) hc

/-- A tick of 10 ms. -/
def benchRtos : Rtos := ⟨100, 10, rfl, by decide⟩

/-- A request that sends for one second at `rate_bps`. -/
def sendAt (rateBps : Nat) : DbRunRequest := ⟨.netTx, 1000, rateBps, 5000, ['p', 'c']⟩

/-- At 32768 bits a second a block takes one second, whole ticks. -/
theorem pacing_within_32768 :
    (sendAt 32768).rateBps ≠ 0 ∧
      ((∀ s, Reach (paced benchRtos (sendAt 32768)) Always s → s.WithinRate (sendAt 32768)) ↔
        32768 * 10 ∣ 32768000 ∨ 32768 * benchRtos.roundUpMs 1000 ≤ 32768000) :=
  ⟨by decide, pacing_within_iff benchRtos (sendAt 32768) (by decide)⟩

/-- **A megabit a second is overrun**: its 32.768 ms become 30 ms. -/
theorem pacing_overruns :
    ¬ ∀ s, Reach (paced benchRtos (sendAt 1000000)) Always s → s.WithinRate (sendAt 1000000) := by
  intro h
  have hd : benchRtos.pace (sendAt 1000000) < (sendAt 1000000).durationMs := by decide
  exact absurd (two_blocks hd h) (by decide)

/-! ## 6. How long the loop looks away -/

/-- **The loop looks up often enough**: no sleep is longer than the duration, and the last test of
    the deadline and the flag is no further back. -/
def Paced.Attentive (T : Rtos) (r : DbRunRequest) (s : Paced) : Prop :=
  (∀ l ms, s.stand = .more (.delay l ms) → T.sleepMs ms ≤ r.durationMs) ∧
    s.now ≤ s.checked + r.durationMs

/-- No step is further from the last test than one sleep. -/
theorem PacedInv.attentive {T : Rtos} {r : DbRunRequest} {s : Paced} (I : PacedInv T r s)
    (hσ : T.pace r ≤ r.durationMs) : s.Attentive T r := by
  obtain ⟨m, -, hat⟩ := I
  refine ⟨fun l ms hs => ?_, ?_⟩
  · rw [hs] at hat
    rw [hat.2.2.2.2]
    exact hσ
  · have key : s.now ≤ s.checked + T.pace r := by
      cases hs : s.stand with
      | done ok tx rx =>
          rw [hs] at hat
          exact le_trans (Nat.le_of_eq hat.1) (Nat.le_add_right _ _)
      | more pc =>
          rw [hs] at hat
          cases pc with
          | test l => exact hat.2.1
          | connect | enter => exact le_trans (Nat.le_of_eq hat.2.2) (Nat.le_add_right _ _)
          | poll | send | recv | delay =>
              exact le_trans (Nat.le_of_eq hat.2.1) (Nat.le_add_right _ _)
          | shutdown | exit => exact le_trans (Nat.le_of_eq hat.1) (Nat.le_add_right _ _)
    exact le_trans key (Nat.add_le_add_left hσ _)

/-- The first sleep of a run. -/
theorem first_sleep {T : Rtos} {r : DbRunRequest} (hd : 0 < r.durationMs)
    (h : ∀ s, Reach (paced T r) Always s → s.Attentive T r) : T.pace r ≤ r.durationMs := by
  obtain ⟨s₀, l₀, h₀, hn₀, -⟩ := atTest_first T r
  obtain ⟨s₁, l₁, h₁, hs₁, hst₁, hn₁, hc₁, hr₁, hd₁, -⟩ := h₀.block (by omega)
  obtain ⟨hsleep, -⟩ := h s₁ h₁
  by_cases hp : r.rateBps ≠ 0 ∧ pacingDelayMs r.rateBps ≠ 0
  · refine hsleep l₁ _ ?_
    rw [hs₁]
    unfold netPace
    rw [hr₁, if_pos hp]
  · rw [pace_eq_zero hp]
    exact Nat.zero_le _

/-- The body that asks for `sendAt rate_bps`. -/
def sendAtBody (rateBps : Nat) : Option Json :=
  some (.obj [("workload".toList, .str "NET_TX".toList), ("duration_ms".toList, .num 1000),
    ("rate_bps".toList, .num rateBps), ("host".toList, .str ['p', 'c']),
    ("port".toList, .num 5000)])

end DragonBench
