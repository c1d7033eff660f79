/-
  File:      DragonBench/Snapshots.lean
  Subject:   THE EVENT RING BYTE FOR BYTE: a snapshot is the list of the last 64 inserted texts.

  A slot of the ring is a buffer of 512 bytes. An insertion writes a text and its NUL to the front
  of the slot at `event_head` and leaves the bytes behind them as they were; a snapshot walks from
  the oldest slot and copies each one up to its first NUL.

  * `RawEvent` -- a slot with all its bytes;
  * `insertEventLocked`, `snapshotRawLocked` -- the two sections under `state_lock`;
  * `view_insert`, `view_snapshot` -- the ring of texts of the device is what they show;
  * **`snapshots_exact`** -- over every sequence of the two, each snapshot is what the list of the
    texts inserted so far ends in.
-/
import DragonBench.Client

namespace DragonBench

/-! ## 1. The ring in memory -/

/-- `db_event_t` with every byte of its buffer. -/
structure RawEvent where
  seq : Nat
  json : List Char
  size : json.length = dbEventJsonLen

/-- A slot of static memory. -/
def RawEvent.zero : RawEvent := ⟨0, List.replicate dbEventJsonLen '\x00', List.length_replicate⟩

/-- The bytes a C string keeps in a slot of its size. -/
theorem snprintf_slot_length (text : CText) :
    (CText.snprintf dbEventJsonLen text).length < dbEventJsonLen := by
  rw [CText.snprintf, List.length_take]
  unfold dbEventJsonLen
  omega

/-- `slot->seq = seq; snprintf(slot->json, sizeof(slot->json), "%s", text)`. -/
def RawEvent.write (slot : RawEvent) (seq : Nat) (text : CText) : RawEvent where
  seq := seq
  json := CText.overwrite slot.json (CText.snprintf dbEventJsonLen text)
  size := by
    rw [CText.length_overwrite, slot.size]
    rw [slot.size]
    exact snprintf_slot_length text

theorem RawEvent.json_write (slot : RawEvent) (seq : Nat) (text : CText) :
    (slot.write seq text).json =
      CText.overwrite slot.json (CText.snprintf dbEventJsonLen text) := rfl

/-- The bytes `snapshot_events_locked` copies of a slot. -/
def RawEvent.text (slot : RawEvent) : CText := CText.scan (dbEventJsonLen - 1) slot.json

/-- `events`, `event_head`, `event_count` in memory. -/
abbrev RawRing := RingBuffer RawEvent dbEventCapacity

/-- The section of `emit_event` under the lock. -/
def insertEventLocked (ring : RawRing) (seq : Nat) (text : CText) : RawRing :=
  ring.push ((ring.slots (Fin.ofNat dbEventCapacity ring.head)).write seq text)

/-- `snapshot_events_locked` on the memory. -/
def snapshotRawLocked (ring : RawRing) : List CText := ring.toList.map RawEvent.text

/-- A written slot shows its text. -/
theorem RawEvent.text_write (slot : RawEvent) (seq : Nat) {text : CText}
    (hlen : text.length < dbEventJsonLen) (h0 : '\x00' ∉ text) :
    (slot.write seq text).text = text := by
  unfold RawEvent.text
  rw [RawEvent.json_write, CText.snprintf_of_lt hlen]
  exact CText.scan_overwrite _ (Nat.le_sub_one_of_lt hlen) h0

/-! ## 2. The ring of texts -/

/-- What a slot shows. -/
def RawEvent.view (slot : RawEvent) : DbEvent where
  seq := slot.seq
  json := slot.text
  fits := Nat.lt_of_le_of_lt (CText.length_scan_le _ _) (by decide)

/-- **An insertion in memory is the insertion of the device model**, for a text without NUL. -/
theorem view_insert (cfg : Config) (ring : RawRing) (seq : Nat) (e : Event)
    (h0 : '\x00' ∉ e.text cfg) :
    (insertEventLocked ring seq (e.text cfg)).map RawEvent.view =
      (ring.map RawEvent.view).push (e.slot cfg seq) := by
  have hcut : '\x00' ∉ e.slotText cfg := fun h => h0 (List.take_subset _ _ h)
  have hview : ∀ slot : RawEvent, (slot.write seq (e.text cfg)).view = e.slot cfg seq := by
    intro slot
    have ht : (slot.write seq (e.text cfg)).text = e.slotText cfg :=
      CText.scan_overwrite _ (Nat.le_sub_one_of_lt (e.slotText_fits cfg)) hcut
    unfold RawEvent.view Event.slot
    simp only [ht]
    rfl
  rw [insertEventLocked, RingBuffer.map_push, hview]

/-- **A snapshot of the memory is the snapshot of the device model.** -/
theorem view_snapshot (ring : RawRing) :
    snapshotEventsLocked (ring.map RawEvent.view) = snapshotRawLocked ring := by
  unfold snapshotEventsLocked snapshotRawLocked
  rw [RingBuffer.map_toList, List.map_map]
  refine List.map_congr_left fun slot _ => ?_
  have h0 : '\x00' ∉ slot.text := by
    intro h
    have hne := List.mem_takeWhile_imp (p := fun c => decide (c ≠ '\x00')) h
    exact absurd rfl (of_decide_eq_true hne)
  show CText.snprintf dbEventJsonLen (cstr slot.text) = slot.text
  rw [cstr_of_not_mem h0]
  exact CText.snprintf_of_lt slot.view.fits

/-! ## 3. Insertions and snapshots in any order -/

/-- A section under the lock. -/
inductive RingOp where
  | insert (seq : Nat) (text : CText)
  | snapshot

/-- The text of an insertion is a C string of at most 511 bytes. -/
def RingOp.Fits : RingOp → Prop
  | .insert _ text => text.length ≤ 511 ∧ '\x00' ∉ text
  | .snapshot => True

/-- What the snapshots of a sequence return, on the memory. -/
def ringRun (ring : RawRing) : List RingOp → List (List CText)
  | [] => []
  | .insert seq text :: ops => ringRun (insertEventLocked ring seq text) ops
  | .snapshot :: ops => snapshotRawLocked ring :: ringRun ring ops

/-- What they are to return: of the texts inserted so far, the last 64, oldest first. -/
def ringSpec (inserted : List CText) : List RingOp → List (List CText)
  | [] => []
  | .insert _ text :: ops => ringSpec (inserted ++ [text]) ops
  | .snapshot :: ops => inserted.drop (inserted.length - dbEventCapacity) :: ringSpec inserted ops

/-- A ring that shows the texts inserted so far returns what it is to return. -/
theorem ringRun_eq {ops : List RingOp} (h : ∀ op ∈ ops, op.Fits) {ring : RawRing}
    {inserted : List CText} (hr : (ring.map RawEvent.text).Holds inserted) :
    ringRun ring ops = ringSpec inserted ops := by
  induction ops generalizing ring inserted with
  | nil => rfl
  | cons op ops ih =>
      obtain ⟨hop, hops⟩ := List.forall_mem_cons.mp h
      cases op with
      | insert seq text =>
          refine ih hops ?_
          rw [insertEventLocked, RingBuffer.map_push,
            RawEvent.text_write _ _ (Nat.lt_succ_of_le hop.1) hop.2]
          exact RingBuffer.holds_push hr text
      | snapshot =>
          have hsnap : snapshotRawLocked ring =
              inserted.drop (inserted.length - dbEventCapacity) := by
            rw [snapshotRawLocked, ← RingBuffer.map_toList]
            exact hr.toList
          rw [ringRun, ringSpec, hsnap, ih hops hr]

/-- **Every snapshot is the last 64 inserted texts, oldest first**, over every sequence of
    insertions and snapshots from the start. -/
theorem snapshots_exact {ops : List RingOp} (h : ∀ op ∈ ops, op.Fits) :
    ringRun (.empty .zero) ops = ringSpec [] ops :=
  ringRun_eq h (RingBuffer.holds_empty _)

/-- Two texts, the second one shorter than the first. -/
theorem snapshots_exact_two :
    ringRun (.empty .zero) [.insert 1 "first".toList, .snapshot, .insert 2 "2nd".toList, .snapshot] =
      [["first".toList], ["first".toList, "2nd".toList]] :=
  @snapshots_exact [.insert 1 "first".toList, .snapshot, .insert 2 "2nd".toList, .snapshot]
    (by simp [RingOp.Fits])

end DragonBench
