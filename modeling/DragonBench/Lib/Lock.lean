/-
  File:      DragonBench/Lib/Lock.lean
  Subject:   Threads that take one lock around their sections, statement by statement, and that their
             sections behave as single steps.

  The memory has a part that is only touched under the lock and a part that every thread may change
  at any time. A section is a list of statements on the guarded part and the locals of the section;
  at most one of them, the pivot, also reads the open part. The machine runs the statements of the
  threads in any order, with taking and giving the lock as steps of their own.

  * `Section`, `Section.run` -- a section, and what it does when nothing comes in between;
  * `Client` -- when a thread asks for the lock and what it does with its locals afterwards;
  * `machine`, `atomicMachine` -- the statements interleaved, the sections as single steps;
  * `Machine.abs` -- the atomic state a state of the machine stands for: up to its pivot a section has
    not happened, from then on it has;
  * `LockInv` -- only the owner is inside;
  * **`lock_refines`** -- the machine refines the atomic machine.
-/
import DragonBench.Lib.Refinement
import Mathlib.Logic.Function.Basic

namespace Lock

open Transition

universe u

variable {ι P U F O α : Type u}

/-! ## 1. Sections and threads -/

/-- A statement of a section: it works on the guarded memory and on the locals. -/
abbrev Stmt (P F : Type u) := P × F → P × F

/-- The statements, one after another. -/
def runAll (l : List (Stmt P F)) (m : P × F) : P × F := l.foldl (fun m s => s m) m

/-- A section: one of its statements may read the open memory. -/
structure Section (P U F : Type u) where
  before : List (Stmt P F)
  pivot : U → Stmt P F
  after : List (Stmt P F)

/-- **What a section does** when nothing comes in between. -/
def Section.run (s : Section P U F) (u : U) (m : P × F) : P × F :=
  runAll s.after (s.pivot u (runAll s.before m))

/-- The threads: what they do outside, when they ask for the lock, with which locals the section
    starts, and how they go on. -/
structure Client (P U F O α : Type u) where
  outside : α → U → O → Option (U × O)
  asks : O → Option (Section P U F × F)
  back : F → O

/-- Where a thread is: outside, or inside in front of its pivot or behind it. -/
inductive Control (P U F O : Type u) where
  | out (o : O)
  | early (rest : List (Stmt P F)) (s : Section P U F) (f : F)
  | late (rest : List (Stmt P F)) (f : F)

/-- The state of the machine. -/
structure Machine (ι P U F O : Type u) where
  guarded : P
  open_ : U
  thread : ι → Control P U F O
  owner : Option ι
  /-- history: the guarded memory and the control of the owner when it took the lock -/
  entry : P × O

/-- The state of the atomic machine. -/
structure Atomic (ι P U O : Type u) where
  guarded : P
  open_ : U
  thread : ι → O

/-- The steps of the machine. -/
inductive Label (ι α : Type u) where
  | outside (i : ι) (a : α)
  | take (i : ι)
  | statement (i : ι)
  | give (i : ι)

/-- The steps of the atomic machine. -/
inductive AtomicLabel (ι α : Type u) where
  | outside (i : ι) (a : α)
  | section_ (i : ι)

variable [DecidableEq ι]

/-- One statement of a thread. -/
def statement (m : Machine ι P U F O) (i : ι) : Option (Machine ι P U F O) :=
  match m.thread i with
  | .out _ => none
  | .early (st :: rest) s f =>
    let r := st (m.guarded, f)
    some { m with guarded := r.1, thread := Function.update m.thread i (.early rest s r.2) }
  | .early [] s f =>
    let r := s.pivot m.open_ (m.guarded, f)
    some { m with guarded := r.1, thread := Function.update m.thread i (.late s.after r.2) }
  | .late (st :: rest) f =>
    let r := st (m.guarded, f)
    some { m with guarded := r.1, thread := Function.update m.thread i (.late rest r.2) }
  | .late [] _ => none

/-- One step of the machine. -/
def machineStep (c : Client P U F O α) (m : Machine ι P U F O) :
    Label ι α → Option (Machine ι P U F O)
  | .outside i a =>
    match m.thread i with
    | .out o => (c.outside a m.open_ o).map fun r =>
        { m with open_ := r.1, thread := Function.update m.thread i (.out r.2) }
    | .early _ _ _ | .late _ _ => none
  | .take i =>
    match m.thread i, m.owner with
    | .out o, none => (c.asks o).map fun sf =>
        { m with
          thread := Function.update m.thread i (.early sf.1.before sf.1 sf.2)
          owner := some i
          entry := (m.guarded, o) }
    | _, _ => none
  | .statement i => statement m i
  | .give i =>
    match m.thread i with
    | .late [] f =>
      some { m with thread := Function.update m.thread i (.out (c.back f)), owner := none }
    | _ => none

/-- One step of the atomic machine. -/
def atomicStep (c : Client P U F O α) (m : Atomic ι P U O) :
    AtomicLabel ι α → Option (Atomic ι P U O)
  | .outside i a => (c.outside a m.open_ (m.thread i)).map fun r =>
      { m with open_ := r.1, thread := Function.update m.thread i r.2 }
  | .section_ i => (c.asks (m.thread i)).map fun sf =>
      let r := sf.1.run m.open_ (m.guarded, sf.2)
      { m with guarded := r.1, thread := Function.update m.thread i (c.back r.2) }

/-- **The machine**: every thread starts outside and the lock is free. -/
def machine (c : Client P U F O α) (start : Atomic ι P U O) :
    System (Machine ι P U F O) (Label ι α) where
  init m := m.guarded = start.guarded ∧ m.open_ = start.open_ ∧
    m.thread = (fun i => .out (start.thread i)) ∧ m.owner = none
  step := machineStep c

/-- **The atomic machine.** -/
def atomicMachine (c : Client P U F O α) (start : Atomic ι P U O) :
    System (Atomic ι P U O) (AtomicLabel ι α) where
  init m := m = start
  step := atomicStep c

/-! ## 2. What a state of the machine stands for -/

/-- A thread, seen as one of the atomic machine. -/
def Control.abs (c : Client P U F O α) (m : Machine ι P U F O) : Control P U F O → O
  | .out o => o
  | .early _ _ _ => m.entry.2
  | .late rest f => c.back (runAll rest (m.guarded, f)).2

/-- The guarded memory as the owner leaves it to the others. -/
def Control.memory (m : Machine ι P U F O) : Control P U F O → P
  | .out _ => m.guarded
  | .early _ _ _ => m.entry.1
  | .late rest f => (runAll rest (m.guarded, f)).1

/-- **The atomic state a state of the machine stands for.** -/
def Machine.abs (c : Client P U F O α) (m : Machine ι P U F O) : Atomic ι P U O where
  guarded :=
    match m.owner with
    | none => m.guarded
    | some i => (m.thread i).memory m
  open_ := m.open_
  thread i := (m.thread i).abs c m

/-- The atomic step a step of the machine stands for: a section happens at its pivot. -/
def Machine.act (m : Machine ι P U F O) : Label ι α → Option (AtomicLabel ι α)
  | .outside i a => some (.outside i a)
  | .statement i =>
    match m.thread i with
    | .early [] _ _ => some (.section_ i)
    | _ => none
  | .take _ | .give _ => none

/-- **The invariant of the lock**, on the guarded memory, the threads, the owner and what it found. -/
structure LockInv (c : Client P U F O α) (g : P) (thread : ι → Control P U F O) (owner : Option ι)
    (entry : P × O) : Prop where
  others : ∀ i, owner = some i ∨ ∃ o, thread i = .out o
  inside : ∀ i o, owner = some i → thread i ≠ .out o
  early : ∀ i rest s f, thread i = .early rest s f → ∃ f0, c.asks entry.2 = some (s, f0) ∧
    runAll s.before (entry.1, f0) = runAll rest (g, f)

section Update

variable {β : Type*} {g : ι → β} {i j : ι} {t x : β}

/-- What a changed function shows. -/
theorem update_cases (h : Function.update g i t j = x) : j = i ∧ t = x ∨ j ≠ i ∧ g j = x := by
  by_cases hj : j = i
  · subst hj
    rw [Function.update_self] at h
    exact Or.inl ⟨rfl, h⟩
  · rw [Function.update_of_ne hj] at h
    exact Or.inr ⟨hj, h⟩

end Update

section Proofs

variable {c : Client P U F O α} {m m' : Machine ι P U F O} {g : P} {thread : ι → Control P U F O}
  {owner : Option ι} {entry : P × O} {i : ι}

omit [DecidableEq ι] in
/-- A thread that is not outside owns the lock. -/
theorem LockInv.owner_of (I : LockInv c g thread owner entry) (h : ∀ o, thread i ≠ .out o) :
    owner = some i :=
  (I.others i).resolve_right fun ⟨o, ho⟩ => h o ho

omit [DecidableEq ι] in
theorem LockInv.owner_early (I : LockInv c g thread owner entry) {rest : List (Stmt P F)}
    {s : Section P U F} {f : F} (ht : thread i = .early rest s f) : owner = some i :=
  I.owner_of (by rw [ht]; nofun)

omit [DecidableEq ι] in
theorem LockInv.owner_late (I : LockInv c g thread owner entry) {rest : List (Stmt P F)} {f : F}
    (ht : thread i = .late rest f) : owner = some i :=
  I.owner_of (by rw [ht]; nofun)

omit [DecidableEq ι] in
/-- The other threads are outside. -/
theorem LockInv.out_of_ne (I : LockInv c g thread owner entry) (h : owner = some i) {j : ι}
    (hj : j ≠ i) : ∃ o, thread j = .out o :=
  (I.others j).resolve_left fun hj' => hj (Option.some.inj (hj'.symm.trans h))

/-- A thread outside moves. -/
theorem LockInv.outside (I : LockInv c g thread owner entry) {o : O} (ht : thread i = .out o)
    (o' : O) : LockInv c g (Function.update thread i (.out o')) owner entry where
  others j := by
    by_cases hj : j = i
    · subst hj
      exact Or.inr ⟨o', Function.update_self ..⟩
    · rw [Function.update_of_ne hj]
      exact I.others j
  inside j o'' hj h := by
    rcases update_cases h with ⟨rfl, -⟩ | ⟨-, h⟩
    · exact I.inside j o hj ht
    · exact I.inside j o'' hj h
  early j rest s f h := by
    rcases update_cases h with ⟨-, h⟩ | ⟨-, h⟩
    · cases h
    · exact I.early j rest s f h

/-- A thread takes the free lock. -/
theorem LockInv.take (I : LockInv c g thread none entry) {o : O} {s : Section P U F} {f : F}
    (hask : c.asks o = some (s, f)) :
    LockInv c g (Function.update thread i (.early s.before s f)) (some i) (g, o) where
  others j := by
    by_cases hj : j = i
    · exact Or.inl (congrArg some hj.symm)
    · rw [Function.update_of_ne hj]
      exact Or.inr ((I.others j).resolve_left nofun)
  inside j o' hj h := by
    cases hj
    rw [Function.update_self] at h
    cases h
  early j rest s' f' h := by
    rcases update_cases h with ⟨-, h⟩ | ⟨-, h⟩
    · cases h
      exact ⟨f, hask, rfl⟩
    · obtain ⟨o', h'⟩ := (I.others j).resolve_left nofun
      rw [h'] at h
      cases h

/-- The owner moves inside its section. -/
theorem LockInv.move (I : LockInv c g thread owner entry) (ho : owner = some i) {g' : P}
    {t : Control P U F O} (ht : ∀ o, t ≠ .out o)
    (he : ∀ rest s f, t = .early rest s f → ∃ f0, c.asks entry.2 = some (s, f0) ∧
      runAll s.before (entry.1, f0) = runAll rest (g', f)) :
    LockInv c g' (Function.update thread i t) owner entry where
  others j := by
    by_cases hj : j = i
    · exact Or.inl (hj ▸ ho)
    · rw [Function.update_of_ne hj]
      exact Or.inr (I.out_of_ne ho hj)
  inside j o hj h := by
    cases Option.some.inj (ho.symm.trans hj)
    rw [Function.update_self] at h
    exact ht o h
  early j rest s f h := by
    rcases update_cases h with ⟨-, h⟩ | ⟨hj, h⟩
    · exact he rest s f h
    · obtain ⟨o, h'⟩ := I.out_of_ne ho hj
      rw [h'] at h
      cases h

/-- The owner gives the lock back. -/
theorem LockInv.give (I : LockInv c g thread owner entry) (ho : owner = some i) (o : O) :
    LockInv c g (Function.update thread i (.out o)) none entry := by
  have hout : ∀ j, ∃ o', Function.update thread i (.out o) j = .out o' := by
    intro j
    by_cases hj : j = i
    · subst hj
      exact ⟨o, Function.update_self ..⟩
    · rw [Function.update_of_ne hj]
      exact I.out_of_ne ho hj
  refine ⟨fun j => Or.inr (hout j), fun j o' hj => (nomatch hj), fun j rest s f h => ?_⟩
  obtain ⟨o', h'⟩ := hout j
  cases h'.symm.trans h

/-- The invariant of a machine. -/
def Machine.Inv (c : Client P U F O α) (m : Machine ι P U F O) : Prop :=
  LockInv c m.guarded m.thread m.owner m.entry

/-! ## 3. What a step can do -/

/-- **What a step of the machine can do.** -/
inductive Step (c : Client P U F O α) (m : Machine ι P U F O) :
    Label ι α → Machine ι P U F O → Prop where
  | outside {i : ι} {a : α} {o o' : O} {u : U} (ht : m.thread i = .out o)
      (h : c.outside a m.open_ o = some (u, o')) :
      Step c m (.outside i a)
        { m with open_ := u, thread := Function.update m.thread i (.out o') }
  | take {i : ι} {o : O} {s : Section P U F} {f : F} (ht : m.thread i = .out o)
      (ho : m.owner = none) (h : c.asks o = some (s, f)) :
      Step c m (.take i)
        { m with
          thread := Function.update m.thread i (.early s.before s f)
          owner := some i
          entry := (m.guarded, o) }
  | early {i : ι} {st : Stmt P F} {rest : List (Stmt P F)} {s : Section P U F} {f : F}
      (ht : m.thread i = .early (st :: rest) s f) :
      Step c m (.statement i)
        { m with
          guarded := (st (m.guarded, f)).1
          thread := Function.update m.thread i (.early rest s (st (m.guarded, f)).2) }
  | pivot {i : ι} {s : Section P U F} {f : F} (ht : m.thread i = .early [] s f) :
      Step c m (.statement i)
        { m with
          guarded := (s.pivot m.open_ (m.guarded, f)).1
          thread := Function.update m.thread i
            (.late s.after (s.pivot m.open_ (m.guarded, f)).2) }
  | late {i : ι} {st : Stmt P F} {rest : List (Stmt P F)} {f : F}
      (ht : m.thread i = .late (st :: rest) f) :
      Step c m (.statement i)
        { m with
          guarded := (st (m.guarded, f)).1
          thread := Function.update m.thread i (.late rest (st (m.guarded, f)).2) }
  | give {i : ι} {f : F} (ht : m.thread i = .late [] f) :
      Step c m (.give i)
        { m with thread := Function.update m.thread i (.out (c.back f)), owner := none }

/-- **Every step is one of these.** -/
theorem machineStep_cases {a : Label ι α} (h : machineStep c m a = some m') : Step c m a m' := by
  cases a with
  | outside i a =>
      simp only [machineStep] at h
      cases ht : m.thread i with
      | out o =>
          simp only [ht, Option.map_eq_some_iff] at h
          obtain ⟨⟨u, o'⟩, ha, rfl⟩ := h
          exact .outside ht ha
      | early | late =>
          simp only [ht] at h
          cases h
  | take i =>
      simp only [machineStep] at h
      cases ht : m.thread i with
      | out o =>
          cases ho : m.owner with
          | none =>
              simp only [ht, ho, Option.map_eq_some_iff] at h
              obtain ⟨⟨s, f⟩, hask, rfl⟩ := h
              exact .take ht ho hask
          | some k =>
              simp only [ht, ho] at h
              cases h
      | early | late =>
          simp only [ht] at h
          cases h
  | statement i =>
      simp only [machineStep, statement] at h
      cases ht : m.thread i with
      | out o =>
          simp only [ht] at h
          cases h
      | early rest s f =>
          cases rest with
          | nil =>
              simp only [ht, Option.some.injEq] at h
              subst h
              exact .pivot ht
          | cons st rest =>
              simp only [ht, Option.some.injEq] at h
              subst h
              exact .early ht
      | late rest f =>
          cases rest with
          | nil =>
              simp only [ht] at h
              cases h
          | cons st rest =>
              simp only [ht, Option.some.injEq] at h
              subst h
              exact .late ht
  | give i =>
      simp only [machineStep] at h
      cases ht : m.thread i with
      | out | early =>
          simp only [ht] at h
          cases h
      | late rest f =>
          cases rest with
          | cons st rest =>
              simp only [ht] at h
              cases h
          | nil =>
              simp only [ht, Option.some.injEq] at h
              subst h
              exact .give ht

/-- **Every step keeps the invariant.** -/
theorem lockInv_step (I : m.Inv c) {a : Label ι α} (h : Step c m a m') : m'.Inv c := by
  cases h with
  | outside ht h => exact LockInv.outside I ht _
  | take ht ho h =>
      have I : LockInv c m.guarded m.thread none m.entry := ho ▸ I
      exact I.take h
  | @early i st rest s f ht =>
      obtain ⟨f0, hask, hrun⟩ := I.early i (st :: rest) s f ht
      refine LockInv.move I (I.owner_early ht) nofun fun rest' s' f' e => ?_
      cases e
      exact ⟨f0, hask, hrun⟩
  | pivot ht => exact LockInv.move I (I.owner_early ht) nofun nofun
  | late ht => exact LockInv.move I (I.owner_late ht) nofun nofun
  | give ht => exact LockInv.give I (I.owner_late ht) _

theorem lockInv_reach {start : Atomic ι P U O} {C : Machine ι P U F O → Label ι α → Prop}
    (h : Reach (machine c start) C m) : m.Inv c := by
  refine h.inv (I := Machine.Inv c) ?_ ?_
  · rintro s ⟨-, -, ht, ho⟩
    refine ⟨fun i => Or.inr ⟨_, congrFun ht i⟩, fun i o hi => ?_, fun i rest s f h => ?_⟩
    · rw [ho] at hi
      cases hi
    · rw [congrFun ht i] at h
      cases h
  · intro s a s' _ I _ hs
    exact lockInv_step I (machineStep_cases hs)

/-! ## 4. The refinement -/

omit [DecidableEq ι] in
/-- The guarded memory of a state, by its owner. -/
theorem abs_guarded_some (h : m.owner = some i) :
    (m.abs c).guarded = (m.thread i).memory m := by
  simp only [Machine.abs, h]

omit [DecidableEq ι] in
theorem abs_guarded_none (h : m.owner = none) : (m.abs c).guarded = m.guarded := by
  simp only [Machine.abs, h]

omit [DecidableEq ι] in
/-- Atomic states with the same parts are the same. -/
theorem atomic_ext {x y : Atomic ι P U O} (hg : x.guarded = y.guarded) (hu : x.open_ = y.open_)
    (ht : ∀ j, x.thread j = y.thread j) : x = y := by
  cases x
  cases y
  cases hg
  cases hu
  cases funext ht
  rfl

/-- **What a state stands for after its owner moves** inside its section. -/
theorem abs_move (I : m.Inv c) (ho : m.owner = some i) {g' : P} {t : Control P U F O}
    {m' : Machine ι P U F O}
    (hm : m' = { m with guarded := g', thread := Function.update m.thread i t }) :
    m'.abs c = ⟨t.memory m', m.open_, Function.update (m.abs c).thread i (t.abs c m')⟩ := by
  have ho' : m'.owner = some i := by
    rw [hm]
    exact ho
  have hg : (m'.abs c).guarded = t.memory m' := by
    have hthread : m'.thread i = t := by
      rw [hm]
      exact Function.update_self ..
    rw [abs_guarded_some ho', hthread]
  subst hm
  refine atomic_ext hg rfl fun j => ?_
  show (Function.update m.thread i t j).abs c _ = Function.update (m.abs c).thread i _ j
  by_cases hj : j = i
  · subst hj
    rw [Function.update_self, Function.update_self]
  · obtain ⟨o, h⟩ := LockInv.out_of_ne I ho hj
    rw [Function.update_of_ne hj, Function.update_of_ne hj, h]
    show o = (m.thread j).abs c m
    rw [h]
    rfl

/-- The owner moves and nothing is seen. -/
theorem abs_move_same (I : m.Inv c) (ho : m.owner = some i) {g' : P} {t : Control P U F O}
    {m' : Machine ι P U F O}
    (hm : m' = { m with guarded := g', thread := Function.update m.thread i t })
    (hmem : t.memory m' = (m.thread i).memory m) (habs : t.abs c m' = (m.thread i).abs c m) :
    m'.abs c = m.abs c := by
  rw [abs_move I ho hm, hmem, habs, ← abs_guarded_some (c := c) ho,
    show (m.thread i).abs c m = (m.abs c).thread i from rfl, Function.update_eq_self]
  rfl

/-- **What a state stands for after a thread moves outside.** -/
theorem abs_outside (I : m.Inv c) {o o' : O} {u : U} (ht : m.thread i = .out o)
    {m' : Machine ι P U F O}
    (hm : m' = { m with open_ := u, thread := Function.update m.thread i (.out o') }) :
    m'.abs c = ⟨(m.abs c).guarded, u, Function.update (m.abs c).thread i o'⟩ := by
  have hg : (m'.abs c).guarded = (m.abs c).guarded := by
    have howner : m'.owner = m.owner := by rw [hm]
    cases ho : m.owner with
    | none =>
        rw [abs_guarded_none ho, abs_guarded_none (howner.trans ho), hm]
    | some k =>
        -- the thread outside is not the owner
        have hk : k ≠ i := fun e => I.inside k o ho (e ▸ ht)
        have hthread : m'.thread k = m.thread k := by
          rw [hm]
          exact Function.update_of_ne hk ..
        rw [abs_guarded_some ho, abs_guarded_some (howner.trans ho), hthread, hm]
        cases m.thread k <;> rfl
  subst hm
  refine atomic_ext hg rfl fun j => ?_
  show (Function.update m.thread i (.out o') j).abs c _ = Function.update (m.abs c).thread i o' j
  by_cases hj : j = i
  · subst hj
    rw [Function.update_self, Function.update_self]
    rfl
  · rw [Function.update_of_ne hj, Function.update_of_ne hj]
    rfl

/-- **Steps the atomic machine does not see**: they change nothing in what the state stands for. -/
theorem abs_stutter (I : m.Inv c) {a : Label ι α} (h : Step c m a m') (ha : m.act a = none) :
    m'.abs c = m.abs c := by
  cases h with
  | outside ht h => cases ha
  | pivot ht =>
      simp only [Machine.act, ht] at ha
      cases ha
  | early ht => exact abs_move_same I (I.owner_early ht) rfl (by rw [ht]; rfl) (by rw [ht]; rfl)
  | late ht => exact abs_move_same I (I.owner_late ht) rfl (by rw [ht]; rfl) (by rw [ht]; rfl)
  | @take i o s f ht ho h =>
      refine atomic_ext ?_ rfl fun j => ?_
      · refine (abs_guarded_some (i := i) rfl).trans ?_
        show (Function.update m.thread i _ i).memory _ = _
        rw [Function.update_self, abs_guarded_none ho]
        rfl
      · show (Function.update m.thread i _ j).abs c _ = (m.thread j).abs c m
        by_cases hj : j = i
        · subst hj
          rw [Function.update_self, ht]
          rfl
        · obtain ⟨o', h'⟩ := (I.others j).resolve_left fun e => by rw [ho] at e; cases e
          rw [Function.update_of_ne hj, h']
          rfl
  | @give i f ht =>
      have ho := I.owner_late ht
      refine atomic_ext ?_ rfl fun j => ?_
      · refine (abs_guarded_none rfl).trans ?_
        rw [abs_guarded_some ho, ht]
        rfl
      · show (Function.update m.thread i _ j).abs c _ = (m.thread j).abs c m
        by_cases hj : j = i
        · subst hj
          rw [Function.update_self, ht]
          rfl
        · obtain ⟨o', h'⟩ := LockInv.out_of_ne I ho hj
          rw [Function.update_of_ne hj, h']
          rfl

/-- **Steps the atomic machine sees**: a step outside, and the pivot as the whole section. -/
theorem abs_step (I : m.Inv c) {a : Label ι α} {b : AtomicLabel ι α} (h : Step c m a m')
    (ha : m.act a = some b) : atomicStep c (m.abs c) b = some (m'.abs c) := by
  cases h with
  | @outside i a o o' u ht h =>
      cases ha
      have hi : (m.abs c).thread i = o := by
        show (m.thread i).abs c m = o
        rw [ht]
        rfl
      simp only [atomicStep, hi]
      rw [show (m.abs c).open_ = m.open_ from rfl, h, Option.map_some, Option.some_inj]
      exact (abs_outside I ht rfl).symm
  | @pivot i s f ht =>
      have ho := I.owner_early ht
      simp only [Machine.act, ht, Option.some.injEq] at ha
      subst ha
      -- what the section found, and what its first statements made of it
      obtain ⟨f0, hask, hrun⟩ := I.early i [] s f ht
      have hi : (m.abs c).thread i = m.entry.2 := by
        show (m.thread i).abs c m = _
        rw [ht]
        rfl
      have hg : (m.abs c).guarded = m.entry.1 := by
        rw [abs_guarded_some ho, ht]
        rfl
      simp only [atomicStep, hi, hask, Option.map_some, Option.some_inj]
      rw [abs_move I ho rfl, hg, Section.run, hrun]
      rfl
  | early ht | late ht =>
      simp only [Machine.act, ht] at ha
      cases ha
  | take | give => cases ha

/-- **The machine refines the atomic machine.** -/
def lockRefinement (c : Client P U F O α) (start : Atomic ι P U O) :
    Refinement (machine c start) (atomicMachine c start) where
  abs := Machine.abs c
  act := Machine.act
  init m := by
    rintro ⟨hg, hu, ht, ho⟩
    refine atomic_ext ?_ hu fun j => ?_
    · rw [abs_guarded_none ho, hg]
    · show (m.thread j).abs c m = _
      rw [congrFun ht j]
      rfl
  stutter m a m' h hs ha := abs_stutter (lockInv_reach h) (machineStep_cases hs) ha
  step m a m' b h hs ha := abs_step (lockInv_reach h) (machineStep_cases hs) ha

/-- **Sections behave as single steps**: every interleaving of the statements is, seen from outside
    the sections, an interleaving of whole sections. -/
theorem lock_refines {start : Atomic ι P U O} {as : List (Label ι α)}
    (h : Reach (machine c start) Always m) (hx : (machine c start).exec m as = some m') :
    (atomicMachine c start).exec (m.abs c) ((lockRefinement c start).visible m as) =
      some (m'.abs c) :=
  (lockRefinement c start).exec h hx

end Proofs

end Lock
