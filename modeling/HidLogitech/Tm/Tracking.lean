import HidLogitech.Tm.Fingers

/-!
# Touch mouse: tracking ids over a run of reports

Raw-finger reports pass through `emit_fingers` one after another. The counter
`next_tracking_id` hands out 1, 2, ..., `0xfffe` and then 1 again: the `k`-th
fresh id is `idAt k`, and `IdsHandedOut` says that a stream's ids follow that
order. The tracker invariant relates the driver to what the
consumer has received: the counter is the id of the next fresh assignment, and
every slot live in `prev_slots_used` holds the id of its own, earlier,
assignment, no two live slots sharing one.

Two live slots therefore hold the same id only when their assignments are a
multiple of `0xfffe` apart: a contact that stays down while the counter wraps
can meet its own id again.

The mask `prev_slots_used` and the consumer agree on which slots below 8 are
live, and a contact held from report to report keeps its id. `ConsumerIds` and
`MaskLive` say what stays true when a reconnect changes `max_fingers`: the
tracker invariant over the slots live at the consumer, and that every slot of
the mask is live there, so that a kept contact's position reaches a live slot.
-/

namespace HidLogitech.Tm

/-- Raw-finger reports through `emit_fingers` in order, accumulating the events. -/
def fingerRun (start : TmData × List InputEvent) (reports : List (Nat → UInt8)) :
    TmData × List InputEvent :=
  reports.foldl (fun state bytes => ((emitFingers state.1 bytes).1,
    state.2 ++ (emitFingers state.1 bytes).2)) start

@[simp] theorem fingerRun_nil (start : TmData × List InputEvent) : fingerRun start [] = start := rfl

@[simp] theorem fingerRun_cons (start : TmData × List InputEvent) (bytes : Nat → UInt8)
    (rest : List (Nat → UInt8)) :
    fingerRun start (bytes :: rest) =
      fingerRun ((emitFingers start.1 bytes).1, start.2 ++ (emitFingers start.1 bytes).2) rest :=
  rfl

/-- The consumer's view after a run of raw-finger reports from a state. -/
def fingerRunView (start : TmData) (reports : List (Nat → UInt8)) : MtView :=
  MtView.initial.applyAll (fingerRun (start, []) reports).2

/-- The `k`-th fresh id, counting from 0. -/
def idAt (k : Nat) : Nat := k % 0xfffe + 1

theorem uint16_add_one_toNat (id : UInt16) (small : id.toNat < 0xffff) :
    (id + 1).toNat = id.toNat + 1 := by
  show (id.toBitVec + (1 : UInt16).toBitVec).toNat = _
  rw [BitVec.toNat_add]
  exact Nat.mod_eq_of_lt (by simp [UInt16.toNat] at small ⊢; omega)

/-- Advancing the counter from the `k`-th id gives the `k + 1`-th, `0xfffe`
being followed by 1. -/
theorem advanceTrackingId_idAt (id : UInt16) (k : Nat) (counted : id.toNat = idAt k) :
    (advanceTrackingId id).toNat = idAt (k + 1) := by
  unfold idAt at *
  have plus := uint16_add_one_toNat id (by omega)
  unfold advanceTrackingId
  split
  · rename_i wrapped
    have last : id.toNat + 1 = 0xffff := plus ▸ congrArg UInt16.toNat wrapped
    show 1 = _
    omega
  · rename_i kept
    have notLast : id.toNat + 1 ≠ 0xffff := fun last =>
      kept (UInt16.toNat.inj (plus.trans last))
    rw [plus]
    omega

theorem iterate_advanceTrackingId_idAt (id : UInt16) (k steps : Nat) (counted : id.toNat = idAt k) :
    (advanceTrackingId^[steps] id).toNat = idAt (k + steps) := by
  induction steps with
  | zero => exact counted
  | succ steps inductionHypothesis =>
    rw [Function.iterate_succ_apply']
    exact advanceTrackingId_idAt _ _ inductionHypothesis

/-! ## The ids handed out -/

/-- Ids handed out in allocation order: the `k`-th is `idAt k`, and the counter
holds the next one. -/
structure IdsHandedOut (next : UInt16) (ids : List Int) : Prop where
  inOrder : ids = (List.range ids.length).map fun k => (idAt k : Int)
  counter : next.toNat = idAt ids.length

/-- `emit_fingers` hands out the ids that follow, and moves the counter past them. -/
theorem IdsHandedOut.emit {fd : TmData} {ids : List Int}
    (handedOut : IdsHandedOut fd.nextTrackingId ids) (bytes : Nat → UInt8) :
    IdsHandedOut (emitFingers fd bytes).1.nextTrackingId (ids ++ freshIds (emitFingers fd bytes).2) := by
  obtain ⟨inOrder, counter⟩ := handedOut
  have extended : ids ++ freshIds (emitFingers fd bytes).2 =
      (List.range (ids.length + newBefore fd.prevSlotsUsed bytes fd.tpInfo.maxFingers.toNat)).map
        fun k => (idAt k : Int) := by
    rw [freshIds_emitFingers, List.range_add, List.map_append, List.map_map, ← inOrder]
    congr 1
    exact List.map_congr_left fun k _ => by simp [iterate_advanceTrackingId_idAt _ _ _ counter]
  have length : (ids ++ freshIds (emitFingers fd bytes).2).length =
      ids.length + newBefore fd.prevSlotsUsed bytes fd.tpInfo.maxFingers.toNat := by
    simp [extended]
  refine ⟨by rw [length]; exact extended, ?_⟩
  rw [length, emitFingers_fst]
  exact iterate_advanceTrackingId_idAt _ _ _ counter

/-- Every run of raw-finger reports keeps the allocation order. -/
theorem idsHandedOut_fingerRun (start : TmData × List InputEvent) (reports : List (Nat → UInt8))
    (handedOut : IdsHandedOut start.1.nextTrackingId (freshIds start.2)) :
    IdsHandedOut (fingerRun start reports).1.nextTrackingId (freshIds (fingerRun start reports).2) := by
  induction reports generalizing start with
  | nil => exact handedOut
  | cons bytes rest inductionHypothesis =>
    apply inductionHypothesis
    simpa using handedOut.emit bytes

/-- The counter is in `[1, 0xfffe]`, and the nonnegative tracking ids of a stream
are each in `[1, 0xfffe]` and come in the order 1, 2, ..., `0xfffe`, 1, 2, ... -/
def TrackingIdsInRange (next : UInt16) (events : List InputEvent) : Prop :=
  (1 ≤ next.toNat ∧ next.toNat ≤ 0xfffe) ∧
    (∀ value, InputEvent.abs .mtTrackingId value ∈ events → 0 ≤ value →
      1 ≤ value ∧ value ≤ 0xfffe) ∧
    freshIds events = (List.range (freshIds events).length).map fun k =>
      ((k % 0xfffe + 1 : Nat) : Int)

theorem IdsHandedOut.trackingIdsInRange {next : UInt16} {events : List InputEvent}
    (handedOut : IdsHandedOut next (freshIds events)) : TrackingIdsInRange next events := by
  refine ⟨by have := handedOut.counter; unfold idAt at this; omega, fun value member nonneg => ?_,
    handedOut.inOrder⟩
  have fresh : value ∈ freshIds events := List.mem_filterMap.mpr ⟨_, member, by simp [nonneg]⟩
  rw [handedOut.inOrder] at fresh
  obtain ⟨k, -, rfl⟩ := List.mem_map.mp fresh
  unfold idAt
  omega

/-! ## New contacts -/

theorem newBefore_mono (prev : UInt8) (bytes : Nat → UInt8) {small large : Nat}
    (le : small ≤ large) : newBefore prev bytes small ≤ newBefore prev bytes large := by
  induction large with
  | zero => simp [Nat.le_zero.mp le]
  | succ large inductionHypothesis =>
    rcases Nat.lt_or_eq_of_le le with below | same
    · have := inductionHypothesis (by omega)
      rw [newBefore_succ]
      omega
    · simp [same]

/-- A new contact is counted before every later record. -/
theorem newBefore_lt (prev : UInt8) (bytes : Nat → UInt8) {j count : Nat}
    (fresh : isNew prev bytes j = true) (within : j < count) :
    newBefore prev bytes j < newBefore prev bytes count := by
  have step := newBefore_succ prev bytes j
  have later := newBefore_mono prev bytes (show j + 1 ≤ count by omega)
  simp only [fresh, if_true] at step
  omega

/-! ## A contact held in slot 8 -/

/-- A state whose geometry reports nine fingers. -/
def nineFingerData : TmData :=
  { fiveFingerData with tpInfo := { TmTouchpadInfo.zero with maxFingers := 9 } }

/-- Records 0 to 7 empty, record 8 a contact. -/
def ninthRecordOnly (offset : Nat) : UInt8 := if offset < 32 then 0xff else 0

/-- A contact held in slot 8 over two reports receives tracking id 1 and then the
fresh id 2. -/
theorem ninth_slot_contact_gets_new_id :
    isSentinel ninthRecordOnly 8 = false ∧
      (fingerRunView nineFingerData [ninthRecordOnly]).trackingId 8 = 1 ∧
      (fingerRunView nineFingerData [ninthRecordOnly, ninthRecordOnly]).trackingId 8 = 2 := by
  decide

/-! ## The tracker invariant -/

/-- The counter holds the next fresh id; every live slot holds the id of an
earlier assignment of its own, and no two live slots share an assignment. -/
structure TrackerInvariant (fd : TmData) (view : MtView) : Prop where
  counter : fd.nextTrackingId.toNat = idAt view.assigned
  live : ∀ j, slotBit fd.prevSlotsUsed j = true →
    view.trackingId j = idAt (view.assignedAt j) ∧ view.assignedAt j < view.assigned
  distinct : ∀ j k, j ≠ k → slotBit fd.prevSlotsUsed j = true →
    slotBit fd.prevSlotsUsed k = true → view.assignedAt j ≠ view.assignedAt k

namespace TrackerInvariant

variable {fd : TmData} {view : MtView}

/-- A slot live after a report holds the id of its assignment: a new contact's
is one of this report's, a kept contact's is the one it had. -/
theorem live_after (invariant : TrackerInvariant fd view) (bytes : Nat → UInt8) (j : Nat)
    (live : slotBit (fingerLoop fd bytes fd.tpInfo.maxFingers.toNat).slotsUsed j = true) :
    let after := view.applyAll (fingerLoop fd bytes fd.tpInfo.maxFingers.toNat).events
    after.trackingId j = idAt (after.assignedAt j) ∧ after.assignedAt j < after.assigned ∧
      (isNew fd.prevSlotsUsed bytes j = true →
        after.assignedAt j = view.assigned + newBefore fd.prevSlotsUsed bytes j) ∧
      (isNew fd.prevSlotsUsed bytes j = false →
        after.assignedAt j = view.assignedAt j ∧ slotBit fd.prevSlotsUsed j = true) := by
  dsimp only
  have within : (j < fd.tpInfo.maxFingers.toNat ∧ isSentinel bytes j = false) ∧ j < 8 := by
    simpa [fingerLoop_slotBit] using live
  obtain ⟨assigned, slots⟩ := applyAll_fingerLoop fd bytes fd.tpInfo.maxFingers.toNat view
  obtain ⟨tracking, assignedAt⟩ := slots j
  cases fresh : isNew fd.prevSlotsUsed bytes j
  · have kept : slotBit fd.prevSlotsUsed j = true := by
      simpa [isNew, within.1.2, within.2] using fresh
    obtain ⟨held, earlier⟩ := invariant.live j kept
    simp only [within.1.1, within.1.2, fresh, if_true, Bool.false_eq_true, if_false,
      and_false] at tracking assignedAt
    refine ⟨by rw [tracking, assignedAt, held], by omega, nofun, fun _ => ⟨assignedAt, kept⟩⟩
  · simp only [within.1.1, within.1.2, fresh, if_true, Bool.false_eq_true, if_false,
      and_self] at tracking assignedAt
    have later := newBefore_lt _ bytes fresh within.1.1
    refine ⟨?_, by omega, fun _ => assignedAt, nofun⟩
    rw [tracking, assignedAt, iterate_advanceTrackingId_idAt _ _ _ invariant.counter]

/-- One report keeps the invariant. -/
theorem emit (invariant : TrackerInvariant fd view) (bytes : Nat → UInt8) :
    TrackerInvariant (emitFingers fd bytes).1 (view.applyAll (emitFingers fd bytes).2) := by
  rw [applyAll_emitFingers]
  obtain ⟨assigned, -⟩ := applyAll_fingerLoop fd bytes fd.tpInfo.maxFingers.toNat view
  refine ⟨?_, fun j live => ?_, fun j k differ liveJ liveK => ?_⟩
  · simp only [emitFingers, fingerLoop_nextTrackingId, assigned]
    exact iterate_advanceTrackingId_idAt _ _ _ invariant.counter
  · obtain ⟨held, earlier, -, -⟩ := invariant.live_after bytes j live
    exact ⟨held, earlier⟩
  · obtain ⟨-, -, newJ, oldJ⟩ := invariant.live_after bytes j liveJ
    obtain ⟨-, -, newK, oldK⟩ := invariant.live_after bytes k liveK
    cases freshJ : isNew fd.prevSlotsUsed bytes j <;> cases freshK : isNew fd.prevSlotsUsed bytes k
    · rw [(oldJ freshJ).1, (oldK freshK).1]
      exact invariant.distinct j k differ (oldJ freshJ).2 (oldK freshK).2
    · have := (invariant.live j (oldJ freshJ).2).2
      rw [(oldJ freshJ).1, newK freshK]
      omega
    · have := (invariant.live k (oldK freshK).2).2
      rw [newJ freshJ, (oldK freshK).1]
      omega
    · rw [newJ freshJ, newK freshK]
      rcases Nat.lt_or_gt_of_ne differ with before | after
      · have := newBefore_lt _ bytes freshJ before
        omega
      · have := newBefore_lt _ bytes freshK after
        omega

end TrackerInvariant

/-- Both records of a two-finger report are contacts. -/
def bothRecords (_offset : Nat) : UInt8 := 0

/-- The first record is a contact, the second empty. -/
def firstRecordOnly (offset : Nat) : UInt8 := if 4 ≤ offset ∧ offset < 8 then 0xff else 0

/-- The tracker invariant with liveness read off the consumer instead of the mask:
a slot for which the consumer holds a tracking id holds the id of an earlier
assignment of its own, and no two such slots share an assignment. It also covers
the slots that a lowered `max_fingers` leaves live at the consumer, which the mask
no longer tracks. -/
structure ConsumerIds (fd : TmData) (view : MtView) : Prop where
  counter : fd.nextTrackingId.toNat = idAt view.assigned
  held : ∀ j : Nat, 0 ≤ view.trackingId j →
    view.trackingId j = idAt (view.assignedAt j) ∧ view.assignedAt j < view.assigned
  distinct : ∀ j k : Nat, j ≠ k → 0 ≤ view.trackingId j → 0 ≤ view.trackingId k →
    view.assignedAt j ≠ view.assignedAt k

namespace ConsumerIds

variable {fd : TmData} {view : MtView}

theorem of_same {other : TmData} (ids : ConsumerIds fd view)
    (counter : other.nextTrackingId = fd.nextTrackingId) : ConsumerIds other view :=
  ⟨counter ▸ ids.counter, ids.held, ids.distinct⟩

/-- A slot holding an id after a report holds the id of its assignment: one of
this report's for a new contact, else the one it held before. -/
theorem held_after (ids : ConsumerIds fd view) (bytes : Nat → UInt8) (j : Nat)
    (live : 0 ≤ (view.applyAll (fingerLoop fd bytes fd.tpInfo.maxFingers.toNat).events).trackingId j) :
    let after := view.applyAll (fingerLoop fd bytes fd.tpInfo.maxFingers.toNat).events
    after.trackingId j = idAt (after.assignedAt j) ∧ after.assignedAt j < after.assigned ∧
      ((isNew fd.prevSlotsUsed bytes j = true ∧
          after.assignedAt j = view.assigned + newBefore fd.prevSlotsUsed bytes j) ∨
        (after.assignedAt j = view.assignedAt j ∧ 0 ≤ view.trackingId j)) := by
  dsimp only at live ⊢
  obtain ⟨assigned, slots⟩ := applyAll_fingerLoop fd bytes fd.tpInfo.maxFingers.toNat view
  obtain ⟨tracking, assignedAt⟩ := slots j
  by_cases fresh : j < fd.tpInfo.maxFingers.toNat ∧ isNew fd.prevSlotsUsed bytes j = true
  · have contact : isSentinel bytes j = false := by
      cases sentinel : isSentinel bytes j
      · rfl
      · simp [isNew, sentinel] at fresh
    simp only [fresh, contact, if_true, Bool.false_eq_true, if_false, and_self] at tracking assignedAt
    have later := newBefore_lt _ bytes fresh.2 fresh.1
    refine ⟨?_, by omega, .inl ⟨fresh.2, assignedAt⟩⟩
    rw [tracking, assignedAt, iterate_advanceTrackingId_idAt _ _ _ ids.counter]
  · have same : (view.applyAll (fingerLoop fd bytes fd.tpInfo.maxFingers.toNat).events).trackingId j =
        view.trackingId j := by
      rw [tracking] at live ⊢
      split_ifs at live ⊢ with within _ new
      · omega
      · exact absurd ⟨within, new⟩ fresh
      all_goals rfl
    rw [if_neg fresh] at assignedAt
    obtain ⟨held, earlier⟩ := ids.held j (same ▸ live)
    exact ⟨by rw [same, assignedAt, held], by omega, .inr ⟨assignedAt, same ▸ live⟩⟩

/-- One report keeps the invariant, whatever the geometry. -/
theorem emit (ids : ConsumerIds fd view) (bytes : Nat → UInt8) :
    ConsumerIds (emitFingers fd bytes).1 (view.applyAll (emitFingers fd bytes).2) := by
  rw [applyAll_emitFingers]
  obtain ⟨assigned, -⟩ := applyAll_fingerLoop fd bytes fd.tpInfo.maxFingers.toNat view
  refine ⟨?_, fun j live => ?_, fun j k differ liveJ liveK => ?_⟩
  · simp only [emitFingers, fingerLoop_nextTrackingId, assigned]
    exact iterate_advanceTrackingId_idAt _ _ _ ids.counter
  · obtain ⟨held, earlier, -⟩ := ids.held_after bytes j live
    exact ⟨held, earlier⟩
  · obtain ⟨-, -, ⟨freshJ, newJ⟩ | ⟨oldJ, keptJ⟩⟩ := ids.held_after bytes j liveJ <;>
      obtain ⟨-, -, ⟨freshK, newK⟩ | ⟨oldK, keptK⟩⟩ := ids.held_after bytes k liveK
    · rw [newJ, newK]
      rcases Nat.lt_or_gt_of_ne differ with before | after
      · have := newBefore_lt _ bytes freshJ before
        omega
      · have := newBefore_lt _ bytes freshK after
        omega
    · have := (ids.held k keptK).2
      rw [newJ, oldK]
      omega
    · have := (ids.held j keptJ).2
      rw [oldJ, newK]
      omega
    · rw [oldJ, oldK]
      exact ids.distinct j k differ keptJ keptK

end ConsumerIds

/-! ## Positions go to live slots -/

/-- Every slot set in `prev_slots_used` is live at the consumer: the half of
`MaskMatchesView` that holds whatever geometry a reconnect answers. -/
def MaskLive (fd : TmData) (view : MtView) : Prop :=
  ∀ j : Nat, slotBit fd.prevSlotsUsed j = true → 0 ≤ view.trackingId j

namespace MaskLive

variable {fd : TmData} {view : MtView}

theorem of_same {other : TmData} (live : MaskLive fd view)
    (mask : other.prevSlotsUsed = fd.prevSlotsUsed) : MaskLive other view :=
  fun j set => live j (mask ▸ set)

/-- A kept contact's bit was set before the report: its slot was live. -/
theorem kept {bytes : Nat → UInt8} {j : Nat} (live : MaskLive fd view)
    (contact : isSentinel bytes j = false) (kept : isNew fd.prevSlotsUsed bytes j = false) :
    0 ≤ view.trackingId j :=
  live j (by simpa [isNew, contact] using kept : _ ∧ j < 8).1

/-- One report keeps the invariant: a slot it sets is a new contact, which gets a
fresh id, or a kept one. -/
theorem emit (live : MaskLive fd view) (bytes : Nat → UInt8) :
    MaskLive (emitFingers fd bytes).1 (view.applyAll (emitFingers fd bytes).2) := by
  intro j set
  have within : (j < fd.tpInfo.maxFingers.toNat ∧ isSentinel bytes j = false) ∧ j < 8 := by
    simpa [emitFingers, fingerLoop_slotBit] using set
  rw [applyAll_emitFingers_trackingId _ _ _ j within.1.1 within.1.2]
  cases fresh : isNew fd.prevSlotsUsed bytes j
  · simpa using live.kept within.1.2 fresh
  · simp [Int.ofNat_zero_le]

end MaskLive

/-- One iteration reports its contact's axes after the slot's id: a new
contact's is the counter's, a kept contact's is the one it held. -/
theorem axesOnLiveSlots_iterationEvents (fd : TmData) (bytes : Nat → UInt8) (next : UInt16) (i : Nat)
    (view : MtView) (kept : isSentinel bytes i = false → isNew fd.prevSlotsUsed bytes i = false →
      0 ≤ view.trackingId i) :
    AxesOnLiveSlots view (iterationEvents fd bytes next i) := by
  unfold iterationEvents
  cases sentinel : isSentinel bytes i <;> cases fresh : isNew fd.prevSlotsUsed bytes i <;>
    simp [AxesOnLiveSlots, positionEvents, MtView.apply, InputEvent.isContactAxis, Int.ofNat_zero_le, kept,
      sentinel, fresh]

theorem axesOnLiveSlots_fingerLoop (fd : TmData) (bytes : Nat → UInt8) (count : Nat) {view : MtView}
    (live : MaskLive fd view) : AxesOnLiveSlots view (fingerLoop fd bytes count).events := by
  induction count with
  | zero => trivial
  | succ count inductionHypothesis =>
    rw [fingerLoop_succ, fingerIteration_eq, axesOnLiveSlots_append]
    refine ⟨inductionHypothesis, axesOnLiveSlots_iterationEvents _ _ _ _ _ fun contact kept => ?_⟩
    rw [((applyAll_fingerLoop fd bytes count view).2 count).1, if_neg (Nat.lt_irrefl _)]
    exact live.kept contact kept

theorem axesOnLiveSlots_emitFingers {fd : TmData} {view : MtView} (live : MaskLive fd view)
    (bytes : Nat → UInt8) : AxesOnLiveSlots view (emitFingers fd bytes).2 :=
  (axesOnLiveSlots_append _ _ _).mpr ⟨axesOnLiveSlots_fingerLoop fd bytes _ live,
    axesOnLiveSlots_of_not_isContactAxis (by simp [toolKeyEvents, InputEvent.isContactAxis]) _⟩

/-! ## The mask and the consumer's view -/

@[simp] theorem emitFingers_tpInfo (fd : TmData) (bytes : Nat → UInt8) :
    (emitFingers fd bytes).1.tpInfo = fd.tpInfo := rfl

theorem fingerRun_tpInfo (start : TmData × List InputEvent) (reports : List (Nat → UInt8)) :
    (fingerRun start reports).1.tpInfo = start.1.tpInfo := by
  induction reports generalizing start with
  | nil => rfl
  | cons bytes rest inductionHypothesis => simp [inductionHypothesis]

/-- The driver's mask and the consumer's view agree on slots 0 to 7: a slot is
live in `prev_slots_used` exactly when the consumer holds a tracking id for it;
and the mask holds no slot from `max_fingers` on. -/
structure MaskMatchesView (fd : TmData) (view : MtView) : Prop where
  live : ∀ j < 8, slotBit fd.prevSlotsUsed j = true ↔ 0 ≤ view.trackingId j
  bounded : ∀ j, slotBit fd.prevSlotsUsed j = true → j < fd.tpInfo.maxFingers.toNat

/-- A report writes the mask and the view alike: `-1` and a clear bit for an
empty record, an id and a set bit for a contact, nothing past `max_fingers`. -/
theorem MaskMatchesView.emit {fd : TmData} {view : MtView} (agree : MaskMatchesView fd view)
    (bytes : Nat → UInt8) :
    MaskMatchesView (emitFingers fd bytes).1 (view.applyAll (emitFingers fd bytes).2) := by
  rw [applyAll_emitFingers, emitFingers_fst]
  obtain ⟨-, slots⟩ := applyAll_fingerLoop fd bytes fd.tpInfo.maxFingers.toNat view
  refine ⟨fun j low => ?_, fun j live => ?_⟩
  · rw [(slots j).1]
    simp only [fingerLoop_slotBit, low, decide_True, Bool.and_true]
    by_cases within : j < fd.tpInfo.maxFingers.toNat
    · cases sentinel : isSentinel bytes j
      · cases fresh : isNew fd.prevSlotsUsed bytes j
        · have kept : slotBit fd.prevSlotsUsed j = true := by
            simpa [isNew, sentinel, low] using fresh
          simp [within, (agree.live j low).mp kept]
        · simp [within, Int.ofNat_zero_le]
      · simp [within]
    · have notLive : ¬ slotBit fd.prevSlotsUsed j = true := fun live => within (agree.bounded j live)
      simpa [within] using (agree.live j low).not.mp notLive
  · simp only [fingerLoop_slotBit, Bool.and_eq_true, decide_eq_true_eq] at live
    exact live.1.1

/-- An empty mask agrees with a consumer that has received nothing. -/
theorem maskMatchesView_initial {fd : TmData} (noneLive : fd.prevSlotsUsed = 0) :
    MaskMatchesView fd MtView.initial :=
  ⟨fun j _ => by simp [noneLive, MtView.initial], fun j live => by simp [noneLive] at live⟩

theorem maskMatchesView_fingerRun (start : TmData × List InputEvent) (reports : List (Nat → UInt8))
    (agree : MaskMatchesView start.1 (MtView.initial.applyAll start.2)) :
    MaskMatchesView (fingerRun start reports).1 (MtView.initial.applyAll (fingerRun start reports).2) := by
  induction reports generalizing start with
  | nil => exact agree
  | cons bytes rest inductionHypothesis =>
    apply inductionHypothesis
    simpa using agree.emit bytes

/-- From an empty mask, over every run of raw-finger reports, the driver's mask
and the consumer agree on slots 0 to 7: a slot is live in `prev_slots_used`
exactly when the consumer holds a tracking id for it; no slot at or above
`max_fingers` is ever live. -/
theorem mask_matches_consumer_slots (fd : TmData) (reports : List (Nat → UInt8))
    (noneLive : fd.prevSlotsUsed = 0) :
    (∀ j < 8, slotBit (fingerRun (fd, []) reports).1.prevSlotsUsed j = true ↔
      0 ≤ (fingerRunView fd reports).trackingId j) ∧
      ∀ j, slotBit (fingerRun (fd, []) reports).1.prevSlotsUsed j = true →
        j < fd.tpInfo.maxFingers.toNat := by
  obtain ⟨live, bounded⟩ :=
    maskMatchesView_fingerRun (fd, []) reports (maskMatchesView_initial noneLive)
  rw [fingerRun_tpInfo] at bounded
  exact ⟨live, bounded⟩

theorem two_finger_mask_matches_consumer :
    twoFingerData.prevSlotsUsed = 0 ∧
      (∀ j < 8, slotBit (fingerRun (twoFingerData, []) [bothRecords, firstRecordOnly]).1.prevSlotsUsed j =
          true ↔ 0 ≤ (fingerRunView twoFingerData [bothRecords, firstRecordOnly]).trackingId j) ∧
      ∀ j, slotBit (fingerRun (twoFingerData, []) [bothRecords, firstRecordOnly]).1.prevSlotsUsed j =
          true → j < twoFingerData.tpInfo.maxFingers.toNat :=
  ⟨rfl, mask_matches_consumer_slots twoFingerData [bothRecords, firstRecordOnly] rfl⟩

/-- A slot whose mask bit is set keeps the consumer's tracking id over every run
whose reports all keep its record a contact. -/
theorem fingerRun_held_trackingId (view : MtView) (j : Nat) (low : j < 8) (rest : List (Nat → UInt8))
    (held : ∀ bytes ∈ rest, isSentinel bytes j = false) (start : TmData × List InputEvent)
    (live : slotBit start.1.prevSlotsUsed j = true) (within : j < start.1.tpInfo.maxFingers.toNat) :
    (view.applyAll (fingerRun start rest).2).trackingId j = (view.applyAll start.2).trackingId j := by
  induction rest generalizing start with
  | nil => rfl
  | cons bytes rest inductionHypothesis =>
    have present := held bytes (List.mem_cons_self _ _)
    have kept : isNew start.1.prevSlotsUsed bytes j = false := by simp [isNew, live, low]
    rw [fingerRun_cons, inductionHypothesis (fun other member => held other (List.mem_cons_of_mem _ member))
      _ (by simp [emitFingers_fst, fingerLoop_slotBit, within, present, low]) (by simpa using within),
      MtView.applyAll_append, applyAll_emitFingers_trackingId _ _ _ j within present, kept, if_neg Bool.false_ne_true]

/-- Over every run of raw-finger reports, a contact that stays in a slot below 8
and below `max_fingers` keeps the tracking id the first report gave it at the
consumer: the driver hands it no fresh id while it is held. -/
theorem held_contact_keeps_id (fd : TmData) (first : Nat → UInt8) (rest : List (Nat → UInt8)) (j : Nat)
    (low : j < 8) (within : j < fd.tpInfo.maxFingers.toNat) (present : isSentinel first j = false)
    (held : ∀ bytes ∈ rest, isSentinel bytes j = false) :
    (fingerRunView fd (first :: rest)).trackingId j = (fingerRunView fd [first]).trackingId j :=
  fingerRun_held_trackingId _ j low rest held _
    (by simp [emitFingers_fst, fingerLoop_slotBit, within, present, low]) (by simpa using within)

theorem held_records_keep_ids :
    (0 : Nat) < 8 ∧ 0 < twoFingerData.tpInfo.maxFingers.toNat ∧ isSentinel bothRecords 0 = false ∧
      (∀ bytes ∈ [firstRecordOnly, bothRecords], isSentinel bytes 0 = false) ∧
      (fingerRunView twoFingerData [bothRecords, firstRecordOnly, bothRecords]).trackingId 0 =
        (fingerRunView twoFingerData [bothRecords]).trackingId 0 :=
  have low : (0 : Nat) < 8 := by decide
  have within : 0 < twoFingerData.tpInfo.maxFingers.toNat := by decide
  have present : isSentinel bothRecords 0 = false := by decide
  have held : ∀ bytes ∈ [firstRecordOnly, bothRecords], isSentinel bytes 0 = false := by decide
  ⟨low, within, present, held, held_contact_keeps_id twoFingerData bothRecords _ 0 low within present held⟩

/-! ## A contact held while the counter wraps -/

end HidLogitech.Tm
