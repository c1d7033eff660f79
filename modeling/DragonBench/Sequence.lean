/-
  File:      DragonBench/Sequence.lean
  Subject:   THE NUMBERS IN THE RING: increasing, and equal in slot and text, as long as no event
             is numbered while another one is on its way.

  `emit_event` takes its number from `event_seq` outside the lock and reads `event_seq` once more
  inside it, for the slot. `app_main`, the worker of a finished run and the worker of the next one
  may all be emitting.

  * `ring_reads` -- the ring is the last 64 insertions, in every run;
  * `Device.pending` -- the numbers taken and not yet inserted;
  * `QuietNumbering` -- the condition on a step;
  * `SeqInv` -- under it at most one number is pending, and it is the newest;
  * **`ring_numbered`** -- then the ring is numbered as its readers expect;
  * `numbers_can_mix` -- two emitters at once.
-/
import DragonBench.DeviceStep
import DragonBench.Lib.KeyedList

namespace DragonBench

open Transition

/-! ## 1. The ring and its history -/

/-- What an insertion writes into its slot. -/
def Insertion.slot (cfg : Config) (i : Insertion) : DbEvent := i.event.slot cfg i.slotSeq

/-- The insertions the ring still holds, oldest first. -/
def Device.held (d : Device) : List Insertion := d.shared.inserted.rtake dbEventCapacity

section Ring

variable {B : Boot}

theorem TaskStep.ring {s s' : Shared} {t t' : Task} (h : TaskStep B s t s' t')
    (hr : s.ring.Holds (s.inserted.map (Insertion.slot B.cfg))) :
    s'.ring.Holds (s'.inserted.map (Insertion.slot B.cfg)) := by
  cases h with
  | insert hpc =>
      rw [List.map_append]
      exact RingBuffer.holds_push hr _
  | copy | number | build | more | done | choose | noFault | fault | finish | noReboot | reboot
  | markMagic | markRunId | delay | restart => exact hr

theorem ring_holds {C : Device → Action → Prop} {d : Device} (h : Reach (device B) C d) :
    d.shared.ring.Holds (d.shared.inserted.map (Insertion.slot B.cfg)) := by
  refine device_reach (I := fun d => d.shared.ring.Holds
    (d.shared.inserted.map (Insertion.slot B.cfg))) ?_ ?_ h
  · intro marker
    exact RingBuffer.holds_empty _
  · intro s a s' _ I _ _ hs
    cases hs with
    | task ht hst => exact hst.ring I
    | mainInsert hm =>
        rw [List.map_append]
        exact RingBuffer.holds_push I _
    | refused | begin | created | notCreated | finishFailed | abortRefused | abort | mainNumber
    | mainBuild | startHttp | startFailed | tick | radio => exact I

/-- **The ring read oldest first is the last 64 insertions**, in every reachable state. -/
theorem ring_reads {C : Device → Action → Prop} {d : Device} (h : Reach (device B) C d) :
    d.shared.ring.toList = d.held.map (Insertion.slot B.cfg) := by
  rw [(ring_holds h).toList, RingBuffer.rtake_map]
  rfl

end Ring

/-! ## 2. Numbers on their way -/

/-- The number an emission has taken and not yet inserted. -/
def EmitStage.number? : EmitStage → Option Nat
  | .number => none
  | .build n => some n
  | .insert e => some e.seq

def TaskPc.number? : TaskPc → Option Nat
  | .emit _ stage => stage.number?
  | _ => none

def MainPc.number? : MainPc → Option Nat
  | .emit _ stage => stage.number?
  | _ => none

/-- The numbers taken and not yet inserted. -/
def Device.pending (d : Device) : List Nat :=
  d.main.number?.toList ++ d.tasks.filterMap fun t => t.pc.number?

/-- The emission takes its number next. -/
def TaskPc.numbers : TaskPc → Bool
  | .emit _ .number => true
  | _ => false

def MainPc.numbers : MainPc → Bool
  | .emit _ .number => true
  | _ => false

/-- The step is `++event_seq`. -/
def Device.numbers (d : Device) : Action → Bool
  | .main _ => d.main.numbers
  | .task i _ => (d.tasks[i]?).any fun t => t.pc.numbers
  | _ => false

/-- **A number is taken only while none is on its way**, and a double still holds it exactly. -/
def QuietNumbering (d : Device) (a : Action) : Prop :=
  d.numbers a = true → d.pending = [] ∧ d.shared.eventSeq + 1 ≤ 2 ^ 53

instance (d : Device) (a : Action) : Decidable (QuietNumbering d a) :=
  inferInstanceAs (Decidable (d.numbers a = true → d.pending = [] ∧ d.shared.eventSeq + 1 ≤ 2 ^ 53))

/-- What a step does to the numbers. -/
inductive SeqEffect (p : List Nat) (n : Nat) (ins : List Insertion) :
    List Nat → Nat → List Insertion → Prop where
  | same : SeqEffect p n ins p n ins
  | number (hp : p = []) (hn : n + 1 ≤ 2 ^ 53) : SeqEffect p n ins [n + 1] (n + 1) ins
  | insert {pre post : List Nat} {i : Insertion} (hp : p = pre ++ i.event.seq :: post)
      (hs : i.slotSeq = n) : SeqEffect p n ins (pre ++ post) n (ins ++ [i])

/-- Nothing happened to the numbers. -/
theorem SeqEffect.same_of {p p' : List Nat} {n : Nat} {ins : List Insertion} (h : p' = p) :
    SeqEffect p n ins p' n ins := by
  subst h
  exact .same

section Seq

variable {B : Boot}

/-- The pending numbers depend on the emissions only. -/
theorem pending_main {d d' : Device} (hm : d'.main.number? = d.main.number?)
    (ht : d'.tasks = d.tasks) : d'.pending = d.pending := by
  rw [Device.pending, Device.pending, hm, ht]

/-- The number `emit_event` puts into the object, up to the limit of a double. -/
theorem number_exact {n : Nat} (h : n + 1 ≤ 2 ^ 53) :
    (n + 1) % 2 ^ 64 = n + 1 ∧ asDouble ((n + 1) % 2 ^ 64) = n + 1 := by
  have e : (n + 1) % 2 ^ 64 = n + 1 := Nat.mod_eq_of_lt (by omega)
  exact ⟨e, by rw [e]; exact asDouble_of_le h⟩

/-- A step of a worker: a number, an insertion, or nothing. -/
theorem TaskStep.numbers {s s' : Shared} {t t' : Task} (h : TaskStep B s t s' t') :
    t.pc.numbers = true ∧ t.pc.number? = none ∧
        s'.eventSeq = (s.eventSeq + 1) % 2 ^ 64 ∧ s'.inserted = s.inserted ∧
        t'.pc.number? = some (asDouble ((s.eventSeq + 1) % 2 ^ 64)) ∨
      (∃ i : Insertion, t.pc.number? = some i.event.seq ∧ i.slotSeq = s.eventSeq ∧
        s'.inserted = s.inserted ++ [i] ∧ s'.eventSeq = s.eventSeq ∧ t'.pc.number? = none) ∨
      t'.pc.number? = t.pc.number? ∧ s'.eventSeq = s.eventSeq ∧ s'.inserted = s.inserted := by
  cases h with
  | number hpc =>
      refine Or.inl ⟨?_, ?_, rfl, rfl, rfl⟩ <;> rw [hpc] <;> rfl
  | @insert k e hpc =>
      refine Or.inr (Or.inl ⟨_, ?_, rfl, rfl, rfl, ?_⟩)
      · rw [hpc]
        rfl
      · cases k with
        | phaseStart | fault | phaseEnd => rfl
        | runComplete => rcases afterEmit_runComplete B t with ha | ha <;> rw [ha] <;> rfl
  | choose hpc =>
      refine Or.inr (Or.inr ⟨?_, rfl, rfl⟩)
      rw [hpc]
      dsimp only
      split <;> rfl
  | copy hpc | build hpc | more hpc | done hpc | noFault hpc | fault hpc | finish hpc
  | noReboot hpc | reboot hpc | markMagic hpc | markRunId hpc | delay hpc | restart hpc =>
      refine Or.inr (Or.inr ⟨?_, rfl, rfl⟩)
      rw [hpc]
      rfl

/-- **What a step does to the numbers**, when it numbers quietly. -/
theorem seq_effect {d d' : Device} {a : Action} (hq : QuietNumbering d a)
    (h : DeviceStep B d a d') : SeqEffect d.pending d.shared.eventSeq d.shared.inserted
      d'.pending d'.shared.eventSeq d'.shared.inserted := by
  cases h with
  | @task i ret t t' s' ht hs =>
      obtain ⟨pre, post, hpre, hpost⟩ := KeyedList.filterMap_set (fun t => t.pc.number?) ht
      have hp : d.pending = d.main.number?.toList ++ (pre ++ t.pc.number?.toList ++ post) := by
        rw [Device.pending, hpre]
      have hp' : ({ d with shared := s', tasks := d.tasks.set i t' } : Device).pending =
          d.main.number?.toList ++ (pre ++ t'.pc.number?.toList ++ post) := by
        rw [Device.pending, hpost]
      rw [hp']
      rcases hs.numbers with ⟨hnum, hnone, hseq, hins, hnew⟩ |
        ⟨x, hold, hslot, hins, hseq, hnew⟩ | ⟨hnum, hseq, hins⟩
      · -- nothing else is on its way
        have hn : d.numbers (.task i ret) = true := by
          rw [Device.numbers, ht]
          exact hnum
        obtain ⟨hempty, hlt⟩ := hq hn
        obtain ⟨e, e'⟩ := number_exact hlt
        rw [hempty, hnone] at hp
        have h0 := List.append_eq_nil_iff.mp hp.symm
        have h1 := List.append_eq_nil_iff.mp h0.2
        have h2 := List.append_eq_nil_iff.mp h1.1
        rw [hempty, hseq, hins, hnew, h0.1, h1.2, h2.1, e', e]
        exact .number rfl hlt
      · rw [hp, hold, hins, hseq, hnew]
        have e : d.main.number?.toList ++ (pre ++ (some x.event.seq).toList ++ post) =
            (d.main.number?.toList ++ pre) ++ x.event.seq :: post := by
          simp
        have e' : d.main.number?.toList ++ (pre ++ (none : Option Nat).toList ++ post) =
            (d.main.number?.toList ++ pre) ++ post := by
          simp
        rw [e, e']
        exact .insert rfl hslot
      · rw [hp, hnum, hseq, hins]
        exact .same
  | @mainNumber up k hm =>
      have hn : d.numbers (.main up) = true := by
        rw [Device.numbers, hm]
        rfl
      obtain ⟨hempty, hlt⟩ := hq hn
      obtain ⟨e, e'⟩ := number_exact hlt
      have htasks := (List.append_eq_nil_iff.mp hempty).2
      have hp' : ({ d with
          shared := { d.shared with eventSeq := (d.shared.eventSeq + 1) % 2 ^ 64 }
          main := .emit k (.build (asDouble ((d.shared.eventSeq + 1) % 2 ^ 64))) } :
          Device).pending = [d.shared.eventSeq + 1] := by
        rw [Device.pending, htasks, List.append_nil]
        show [asDouble _] = _
        rw [e']
      rw [hempty, hp']
      show SeqEffect _ _ _ _ ((d.shared.eventSeq + 1) % 2 ^ 64) _
      rw [e]
      exact .number rfl hlt
  | @mainInsert up k ev hm =>
      have hp : d.pending = [] ++ ev.seq :: d.tasks.filterMap fun t => t.pc.number? := by
        rw [Device.pending, hm]
        rfl
      have hp' : ({ d with
          shared := { d.shared with
            ring := d.shared.ring.push (ev.slot B.cfg d.shared.eventSeq)
            inserted := d.shared.inserted ++ [⟨none, d.shared.eventSeq, ev⟩] }
          main := afterBootEvent k } : Device).pending =
          [] ++ d.tasks.filterMap fun t => t.pc.number? := by
        rw [Device.pending]
        cases k <;> rfl
      rw [hp, hp']
      exact .insert rfl rfl
  | mainBuild hm | startHttp hm | startFailed hm =>
      refine SeqEffect.same_of (pending_main ?_ rfl)
      rw [hm]
      rfl
  | created hh =>
      have hp' : (addTask d).pending = d.pending := by
        rw [Device.pending, addTask, List.filterMap_append]
        exact congrArg _ (List.append_nil _)
      rw [hp']
      exact .same
  | refused | begin | notCreated | finishFailed | abortRefused | abort | tick | radio =>
      exact .same

end Seq

/-! ## 3. The numbers in the ring -/

/-- **The invariant of quiet numbering**, on the pending numbers, `event_seq` and the insertions. -/
structure SeqInv (p : List Nat) (n : Nat) (ins : List Insertion) : Prop where
  pending : p = [] ∨ p = [n]
  slot : ∀ i ∈ ins, i.slotSeq = i.event.seq
  increasing : (ins.map fun i => i.event.seq).Pairwise (· < ·)
  below : ∀ i ∈ ins, i.event.seq ≤ n
  fresh : p ≠ [] → ∀ i ∈ ins, i.event.seq < n

/-- A pending number that is the only one. -/
theorem SeqInv.only {p pre post : List Nat} {n x : Nat} {ins : List Insertion}
    (I : SeqInv p n ins) (hp : p = pre ++ x :: post) : x = n ∧ pre = [] ∧ post = [] := by
  rcases I.pending with e | e
  · rw [e] at hp
    exact absurd hp.symm (List.append_ne_nil_of_right_ne_nil _ (List.cons_ne_nil _ _))
  · rw [e] at hp
    cases pre with
    | nil =>
        cases hp
        exact ⟨rfl, rfl, rfl⟩
    | cons y pre =>
        have hlen := congrArg List.length hp
        simp at hlen

theorem SeqInv.effect {p p' : List Nat} {n n' : Nat} {ins ins' : List Insertion}
    (I : SeqInv p n ins) (h : SeqEffect p n ins p' n' ins') : SeqInv p' n' ins' := by
  cases h with
  | same => exact I
  | number hp hn =>
      refine ⟨Or.inr rfl, I.slot, I.increasing, fun i hi => ?_, fun _ i hi => ?_⟩
      · exact Nat.le_succ_of_le (I.below i hi)
      · exact Nat.lt_succ_of_le (I.below i hi)
  | @insert pre post i hp hs =>
      obtain ⟨hx, hpre, hpost⟩ := I.only hp
      have hne : p ≠ [] := by
        rw [hp]
        exact List.append_ne_nil_of_right_ne_nil _ (List.cons_ne_nil _ _)
      refine ⟨Or.inl ?_, fun j hj => ?_, ?_, fun j hj => ?_, fun h => ?_⟩
      · rw [hpre, hpost]
        rfl
      · rcases List.mem_append.mp hj with hj | hj
        · exact I.slot j hj
        · rw [List.mem_singleton] at hj
          subst hj
          rw [hs, hx]
      · rw [List.map_append, List.pairwise_append]
        refine ⟨I.increasing, List.pairwise_singleton _ _, fun a ha b hb => ?_⟩
        obtain ⟨j, hj, rfl⟩ := List.mem_map.mp ha
        rw [List.map_singleton, List.mem_singleton] at hb
        subst hb
        rw [hx]
        exact I.fresh hne j hj
      · rcases List.mem_append.mp hj with hj | hj
        · exact I.below j hj
        · rw [List.mem_singleton] at hj
          subst hj
          exact Nat.le_of_eq hx
      · rw [hpre, hpost] at h
        exact absurd rfl h

/-- **The ring is numbered as its readers expect**: read oldest first, the JSON numbers increase
    strictly, and the `seq` field of each slot is the number in its text. -/
def RingNumbered (B : Boot) (d : Device) : Prop :=
  d.shared.ring.toList = d.held.map (Insertion.slot B.cfg) ∧
  (d.held.map fun i => i.event.seq).Pairwise (· < ·) ∧
  ∀ i ∈ d.held, i.slotSeq = i.event.seq

section Ring

variable {B : Boot}

theorem seqInv_reach {d : Device} (h : Reach (device B) QuietNumbering d) :
    SeqInv d.pending d.shared.eventSeq d.shared.inserted := by
  refine device_reach (I := fun d => SeqInv d.pending d.shared.eventSeq d.shared.inserted) ?_ ?_ h
  · intro marker
    exact ⟨Or.inl rfl, fun i hi => absurd hi List.not_mem_nil, List.Pairwise.nil,
      fun i hi => absurd hi List.not_mem_nil, fun h => absurd rfl h⟩
  · intro s a s' _ I hq _ hs
    exact I.effect (seq_effect hq hs)

/-- **The numbers in the ring**, in every interleaving in which no event is numbered while another
    one is between its number and its insertion. -/
theorem ring_numbered {d : Device} (h : Reach (device B) QuietNumbering d) :
    RingNumbered B d := by
  have I := seqInv_reach h
  have hsub : d.held.Sublist d.shared.inserted := (List.drop_suffix _ _).sublist
  exact ⟨ring_reads h, I.increasing.sublist (hsub.map _), fun i hi => I.slot i (hsub.mem hi)⟩

set_option maxRecDepth 4000 in
/-- The first event of a run behind the events of the boot. -/
theorem ring_numbered_boot :
    ∃ d, Reach (device benchBoot) QuietNumbering d ∧ RingNumbered benchBoot d ∧
      d.held.map (fun i => (i.slotSeq, i.event.seq)) = [(1, 1), (2, 2), (3, 3), (4, 4)] :=
  have h := benchRunIf_reach (C := QuietNumbering) ([.main true, .main true, .main true] ++
    (waited .idle).take 6) (by decide)
  ⟨_, h, ring_numbered h, by decide⟩

set_option maxRecDepth 4000 in
/-- **Numbers can mix**: the worker takes 3 for its `phase_start`, `app_main` takes 4 for `ready`
    and inserts it first; then the slot of the `phase_start` gets the number 4 as well. -/
theorem numbers_can_mix :
    ∃ d, Reach (device benchBoot) Always d ∧
      d.held.map (fun i => (i.slotSeq, i.event.seq)) = [(1, 1), (2, 2), (4, 4), (4, 3)] ∧
      ¬ RingNumbered benchBoot d := by
  have h := benchRun_reach ((waited .idle).take 4 ++ [.main true, .main true, .main true] ++
    [firstTask, firstTask]) (by decide)
  refine ⟨_, h, by decide, fun hr => ?_⟩
  exact absurd hr.2.1 (by decide)

end Ring

end DragonBench
