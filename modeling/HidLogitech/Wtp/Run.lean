import HidLogitech.Wtp.Frame

/-!
# Wireless touchpad: frames over a run of reports

A run is the sequence of reports the HID++ core delivers to
`hidpp_touchpad_raw_xy_event`, each with the value of `initialized` at that
time, starting from `wtp_probe`'s zeroed `wtp_data`.

The frame invariant ties the driver's slots to the run: the seen flags mark
exactly the slots addressed since the last frame close, an addressed slot holds
the status of its last record, and the consumer last received every slot's
touch state. A closing report therefore leaves a slot active exactly when its
last record of the frame reported a contact, with nothing seen; a report that
does not close a frame touches only the slots its records name.

A run stops at the out-of-bounds access exactly when a handled report carries a
record with finger id 0 or above 5. On every other run the consumer holds each
cell of `fd->slots` in its `touch_state` and every other slot index inactive,
receives one sync per report that closes a frame, and holds the tool keys of the
last such report's finger count.
-/

namespace HidLogitech.Wtp

/-- One delivered report, with the HID++ core's `initialized` flag. -/
structure WtpDelivery where
  initialized : Bool
  report : HidppReport

namespace WtpDelivery

def raw (delivery : WtpDelivery) : HidppTouchpadRawXy := rawXy (dualTouchReport delivery.report)

/-- The records the delivery hands to `wtp_touch_event`. -/
def processed (delivery : WtpDelivery) : List HidppTouchpadRawXyFinger :=
  if delivery.initialized then delivery.raw.processedFingers else []

/-- The delivery is handled and closes a frame. -/
def closes (delivery : WtpDelivery) : Bool := delivery.initialized && delivery.raw.closesFrame

/-- On the report's bytes: a delivery closes a frame exactly when it is handled
and the end-of-frame bit (bit 0 of byte 12, the first record's id byte) is set or
the finger count (the low nibble of byte 19, the second record's id byte) is at
most 2. -/
theorem closes_iff (delivery : WtpDelivery) :
    delivery.closes = true ↔ delivery.initialized = true ∧
      ((delivery.report.byte 12).toNat % 2 = 1 ∨ (delivery.report.byte 19).toNat % 16 ≤ 2) := by
  have count : (rawXy (dualTouchReport delivery.report)).fingerCount ≤ 2 ↔
      (delivery.report.byte 19).toNat % 16 ≤ 2 := by
    show (rawXy _).fingerCount.toNat ≤ 2 ↔ _
    rw [rawXy_fingerCount_toNat]
    rfl
  simp only [closes, raw, HidppTouchpadRawXy.closesFrame, rawXy_endOfFrameSet, Bool.and_eq_true,
    Bool.or_eq_true, decide_eq_true_eq, count]
  rfl

/-- On the report's bytes: a handled delivery with a nonzero finger count
processes its first record, and its second when the end-of-frame bit is set and
the count is 4 or the bit is clear and the count at least 2; any other delivery
processes none. -/
theorem processed_eq (delivery : WtpDelivery) :
    delivery.processed =
      if delivery.initialized = true ∧ (delivery.report.byte 19).toNat % 16 ≠ 0 then
        hidppTouchpadTouchEvent ((dualTouchReport delivery.report).touches 0) ::
          if ((delivery.report.byte 12).toNat % 2 = 1 ∧ (delivery.report.byte 19).toNat % 16 = 4) ∨
              ((delivery.report.byte 12).toNat % 2 = 0 ∧ 2 ≤ (delivery.report.byte 19).toNat % 16) then
            [hidppTouchpadTouchEvent ((dualTouchReport delivery.report).touches 1)]
          else []
      else [] := by
  have count : (rawXy (dualTouchReport delivery.report)).fingerCount.toNat =
      (delivery.report.byte 19).toNat % 16 := rawXy_fingerCount_toNat _
  have flag : (rawXy (dualTouchReport delivery.report)).endOfFrameSet =
      decide ((delivery.report.byte 12).toNat % 2 = 1) := rawXy_endOfFrameSet _
  have nonzero : (rawXy (dualTouchReport delivery.report)).fingerCount ≠ 0 ↔
      (delivery.report.byte 19).toNat % 16 ≠ 0 := by
    rw [uint8_ne_zero_iff, count]
  have four : ((rawXy (dualTouchReport delivery.report)).fingerCount == 4) = true ↔
      (delivery.report.byte 19).toNat % 16 = 4 := by
    rw [beq_iff_eq]
    exact ⟨fun same => by rw [← count, same]; rfl, fun same => UInt8.toNat.inj (count.trans same)⟩
  have two : 2 ≤ (rawXy (dualTouchReport delivery.report)).fingerCount ↔
      2 ≤ (delivery.report.byte 19).toNat % 16 := by
    show 2 ≤ (rawXy _).fingerCount.toNat ↔ _
    rw [count]
  have second : (rawXy (dualTouchReport delivery.report)).secondProcessed =
      decide (((delivery.report.byte 12).toNat % 2 = 1 ∧ (delivery.report.byte 19).toNat % 16 = 4) ∨
        ((delivery.report.byte 12).toNat % 2 = 0 ∧ 2 ≤ (delivery.report.byte 19).toNat % 16)) := by
    rw [Bool.eq_iff_iff]
    simp only [HidppTouchpadRawXy.secondProcessed, flag, Bool.or_eq_true, Bool.and_eq_true,
      decide_eq_true_eq, Bool.not_eq_true', decide_eq_false_iff_not, four, two]
    omega
  unfold processed raw HidppTouchpadRawXy.processedFingers
  simp only [second, nonzero, decide_eq_true_eq]
  cases delivery.initialized <;> simp only [if_true, if_false, true_and, false_and, Bool.false_eq_true]
  split_ifs <;> rfl

end WtpDelivery

/-- `wtp_probe`'s data: zeroed by `kzalloc`, then `maxcontacts = 5`. -/
def wtpProbeData : WtpData := ⟨0, 0, 5, fun _ => ⟨false, false⟩⟩

/-- Deliveries in order, accumulating the emitted events; stops at an undefined access. -/
def wtpRunFrom (state : WtpData × List InputEvent) :
    List WtpDelivery → Option (WtpData × List InputEvent)
  | [] => some state
  | delivery :: rest =>
      (hidppTouchpadRawXyEvent delivery.initialized state.1 delivery.report).bind
        fun handled => wtpRunFrom (handled.1, state.2 ++ handled.2) rest

def wtpRun (run : List WtpDelivery) : Option (WtpData × List InputEvent) :=
  wtpRunFrom (wtpProbeData, []) run

theorem wtpRunFrom_append (state : WtpData × List InputEvent) (first second : List WtpDelivery) :
    wtpRunFrom state (first ++ second) =
      (wtpRunFrom state first).bind fun reached => wtpRunFrom reached second := by
  induction first generalizing state with
  | nil => simp [wtpRunFrom]
  | cons delivery rest inductionHypothesis =>
    simp [wtpRunFrom, inductionHypothesis, Option.bind_assoc]

theorem wtpRun_append_singleton (run : List WtpDelivery) (delivery : WtpDelivery) :
    wtpRun (run ++ [delivery]) = (wtpRun run).bind fun reached =>
      (hidppTouchpadRawXyEvent delivery.initialized reached.1 delivery.report).bind
        fun handled => some (handled.1, reached.2 ++ handled.2) := by
  simp [wtpRun, wtpRunFrom_append, wtpRunFrom]

/-- The records processed since the last frame close. -/
def openRecords (run : List WtpDelivery) : List HidppTouchpadRawXyFinger :=
  run.foldl (fun records delivery => if delivery.closes then [] else records ++ delivery.processed) []

theorem openRecords_append_singleton (run : List WtpDelivery) (delivery : WtpDelivery) :
    openRecords (run ++ [delivery]) =
      if delivery.closes then [] else openRecords run ++ delivery.processed := by
  simp [openRecords]

/-- Every processed record of the run names a finger from 1 to 5. -/
def FingerIdsInRange (run : List WtpDelivery) : Prop :=
  ∀ delivery ∈ run, ∀ finger ∈ delivery.processed,
    1 ≤ finger.fingerId.toNat ∧ finger.fingerId.toNat ≤ 5

/-! ## One delivery -/

/-- Handling a delivery is its records, then, if it closes a frame, the close
loop and the frame-end events. An unhandled delivery has no records. -/
theorem hidppTouchpadRawXyEvent_eq (fd : WtpData) (delivery : WtpDelivery) :
    hidppTouchpadRawXyEvent delivery.initialized fd delivery.report =
      (touchFingers fd delivery.processed).map fun touched =>
        if delivery.closes then
          ({ touched.1 with slots := fun cell => (touched.1.slots cell).closed },
            touched.2 ++ ((List.finRange 5).flatMap fun cell =>
              retireEvents cell (touched.1.slots cell)) ++ frameEndEvents delivery.raw.fingerCount)
        else touched := by
  cases initialized : delivery.initialized <;>
    simp [hidppTouchpadRawXyEvent, wtpTouchpadRawXyEvent, WtpDelivery.processed,
      WtpDelivery.closes, WtpDelivery.raw, initialized, touchFingers, retireUnseen_eq]

/-- A handled delivery processed only records whose slot lies in `fd->slots`. -/
theorem handled_processed_inside {fd : WtpData} {delivery : WtpDelivery}
    {handled : WtpData × List InputEvent}
    (defined : hidppTouchpadRawXyEvent delivery.initialized fd delivery.report = some handled) :
    ∀ finger ∈ delivery.processed, (slotCell (slotOf finger)).isSome := by
  intro finger member
  by_contra missing
  rw [hidppTouchpadRawXyEvent_eq, (touchFingers_eq_none_iff fd _).mpr
    ⟨finger, member, Option.not_isSome_iff_eq_none.mp missing⟩] at defined
  simp at defined

theorem lastStatus_eq_none (fingers : List HidppTouchpadRawXyFinger) (cell : Fin 5)
    (unnamed : ∀ finger ∈ fingers, slotOf finger ≠ cell.val) : lastStatus fingers cell = none := by
  induction fingers with
  | nil => rfl
  | cons finger rest inductionHypothesis =>
    have missed : slotCell (slotOf finger) ≠ some cell := fun addressed =>
      unnamed finger (List.mem_cons_self _ _) (slotCell_eq_some.mp addressed)
    simp [lastStatus, missed,
      inductionHypothesis fun other member => unnamed other (List.mem_cons_of_mem _ member)]

theorem frameEndEvents_slotState (view : MtView) (fingerCount : UInt8) :
    (view.applyAll (frameEndEvents fingerCount)).slotState = view.slotState := by
  simp [frameEndEvents, MtView.apply]

/-- A delivery that does not close a frame changes the touch state of no slot
that its records leave unnamed, and selects only slots its records name. -/
theorem open_report_touches_only_named (fd next : WtpData) (delivery : WtpDelivery)
    (emitted : List InputEvent) (stays : delivery.closes = false)
    (handled : hidppTouchpadRawXyEvent delivery.initialized fd delivery.report = some (next, emitted)) :
    (∀ cell : Fin 5, (∀ finger ∈ delivery.processed, slotOf finger ≠ cell.val) →
      (next.slots cell).touchState = (fd.slots cell).touchState) ∧
    ∀ slot, InputEvent.mtSlot slot ∈ emitted → ∃ finger ∈ delivery.processed, slotOf finger = slot := by
  obtain ⟨touched, events, eq, slotsAfter, -, selects⟩ :=
    touchFingers_spec fd _ (handled_processed_inside handled)
  rw [hidppTouchpadRawXyEvent_eq, stays] at handled
  simp only [eq, Option.map_some', Bool.false_eq_true, if_false, Option.some.injEq,
    Prod.mk.injEq] at handled
  obtain ⟨rfl, rfl⟩ := handled
  refine ⟨fun cell unnamed => ?_, selects⟩
  simp [slotsAfter, lastStatus_eq_none _ cell unnamed]

/-! ## The frame invariant -/

/-- The seen flags mark exactly the slots the open records address, each of
those holds its last record's status, and the consumer last received every
slot's touch state. -/
structure FrameInvariant (records : List HidppTouchpadRawXyFinger) (fd : WtpData)
    (events : List InputEvent) : Prop where
  seen : ∀ cell, (fd.slots cell).seenInThisFrame = (lastStatus records cell).isSome
  touched : ∀ cell active, lastStatus records cell = some active →
    (fd.slots cell).touchState = active
  shown : ∀ cell : Fin 5,
    (MtView.initial.applyAll events).slotState cell.val = (fd.slots cell).touchState

theorem frameInvariant_probe : FrameInvariant [] wtpProbeData [] :=
  ⟨fun _ => rfl, fun _ _ absurd => Option.noConfusion absurd, fun _ => rfl⟩

namespace FrameInvariant

variable {records : List HidppTouchpadRawXyFinger} {fd : WtpData} {events : List InputEvent}

/-- Records with ids in range extend the open records. -/
theorem touch (invariant : FrameInvariant records fd events)
    (fingers : List HidppTouchpadRawXyFinger)
    (inside : ∀ finger ∈ fingers, (slotCell (slotOf finger)).isSome) :
    ∃ touched emitted, touchFingers fd fingers = some (touched, emitted) ∧
      FrameInvariant (records ++ fingers) touched (events ++ emitted) := by
  obtain ⟨touched, emitted, eq, slotsAfter, viewAfter, -⟩ := touchFingers_spec fd fingers inside
  refine ⟨touched, emitted, eq, ⟨fun cell => ?_, fun cell active last => ?_, fun cell => ?_⟩⟩
  · rw [lastStatus_append, slotsAfter]
    cases lastStatus fingers cell <;> simp [invariant.seen]
  · rw [lastStatus_append] at last
    rw [slotsAfter]
    cases named : lastStatus fingers cell <;> simp_all [invariant.touched cell active]
  · rw [MtView.applyAll_append, viewAfter, slotsAfter]
    cases lastStatus fingers cell <;> simp [invariant.shown cell]

/-- Closing the frame leaves a slot active exactly when its last open record
reported a contact, with no open records left. -/
theorem close (invariant : FrameInvariant records fd events) (fingerCount : UInt8) :
    FrameInvariant [] { fd with slots := fun cell => (fd.slots cell).closed }
        (events ++ ((List.finRange 5).flatMap fun cell => retireEvents cell (fd.slots cell)) ++
          frameEndEvents fingerCount) ∧
      ∀ cell, (fd.slots cell).closed.touchState = (lastStatus records cell == some true) := by
  refine ⟨⟨fun _ => rfl, fun _ _ absurd => Option.noConfusion absurd, fun cell => ?_⟩,
    fun cell => ?_⟩
  · rw [MtView.applyAll_append, MtView.applyAll_append, frameEndEvents_slotState,
      applyAll_flatMap_retireEvents, invariant.shown]
    simp [List.mem_finRange, WtpMtSlot.closed]
  · have seen := invariant.seen cell
    unfold WtpMtSlot.closed WtpMtSlot.retires
    cases last : lastStatus records cell with
    | none =>
      simp only [last, Option.isSome_none] at seen
      cases (fd.slots cell).touchState <;> simp [seen]
    | some active => simp [last] at seen; simp [seen, invariant.touched cell active last]

/-- One delivery with processed ids in range keeps the invariant, over the open
records as the delivery leaves them. -/
theorem deliver (invariant : FrameInvariant records fd events) (delivery : WtpDelivery)
    (inRange : ∀ finger ∈ delivery.processed,
      1 ≤ finger.fingerId.toNat ∧ finger.fingerId.toNat ≤ 5) :
    ∃ next emitted,
      hidppTouchpadRawXyEvent delivery.initialized fd delivery.report = some (next, emitted) ∧
      FrameInvariant (if delivery.closes then [] else records ++ delivery.processed)
        next (events ++ emitted) ∧
      (delivery.closes = true → ∀ cell, (next.slots cell).touchState =
        (lastStatus (records ++ delivery.processed) cell == some true)) := by
  obtain ⟨touched, emitted, eq, touchedInvariant⟩ := invariant.touch delivery.processed
    fun finger member => (slotCell_isSome_iff finger).mpr (inRange finger member)
  rw [hidppTouchpadRawXyEvent_eq, eq]
  cases closing : delivery.closes
  · exact ⟨touched, emitted, by simp, by simpa using touchedInvariant, by simp⟩
  · obtain ⟨closedInvariant, states⟩ := touchedInvariant.close delivery.raw.fingerCount
    refine ⟨{ touched with slots := fun cell => (touched.slots cell).closed },
      emitted ++ (((List.finRange 5).flatMap fun cell => retireEvents cell (touched.slots cell)) ++
        frameEndEvents delivery.raw.fingerCount), by simp, ?_, fun _ => states⟩
    simpa [List.append_assoc] using closedInvariant

end FrameInvariant

/-- Every run whose processed ids are in range is defined and keeps the invariant. -/
theorem frameInvariant_run (run : List WtpDelivery) (inRange : FingerIdsInRange run) :
    ∃ fd events, wtpRun run = some (fd, events) ∧ FrameInvariant (openRecords run) fd events := by
  induction run using List.reverseRecOn with
  | nil => exact ⟨wtpProbeData, [], rfl, frameInvariant_probe⟩
  | append_singleton run delivery inductionHypothesis =>
    obtain ⟨fd, events, reached, invariant⟩ :=
      inductionHypothesis fun other member => inRange other (List.mem_append_left _ member)
    obtain ⟨next, emitted, handled, preserved, -⟩ :=
      invariant.deliver delivery (inRange delivery (by simp))
    refine ⟨next, events ++ emitted, ?_, ?_⟩
    · simp [wtpRun_append_singleton, reached, handled]
    · simpa [openRecords_append_singleton] using preserved

/-- Over every run with processed finger ids in range: an unhandled report
changes nothing; a report that does not close a frame changes touch states, and
selects slots, only where its records name them; after a report that closes a
frame, a slot is active, in `touch_state` and in the last state the consumer
received, exactly when the last record naming it since the previous close
reported a contact, and no slot is marked seen. -/
theorem frame_slots_after_each_report (pre : List WtpDelivery) (delivery : WtpDelivery)
    (inRange : FingerIdsInRange (pre ++ [delivery])) :
    ∃ before after emitted, wtpRun pre = some before ∧
      hidppTouchpadRawXyEvent delivery.initialized before.1 delivery.report = some (after, emitted) ∧
      wtpRun (pre ++ [delivery]) = some (after, before.2 ++ emitted) ∧
      (delivery.initialized = false → after = before.1 ∧ emitted = []) ∧
      (delivery.closes = false →
        (∀ cell : Fin 5, (∀ finger ∈ delivery.processed, slotOf finger ≠ cell.val) →
          (after.slots cell).touchState = (before.1.slots cell).touchState) ∧
        ∀ slot, InputEvent.mtSlot slot ∈ emitted →
          ∃ finger ∈ delivery.processed, slotOf finger = slot) ∧
      (delivery.closes = true → ∀ cell : Fin 5,
        ((after.slots cell).touchState = true ↔
          lastStatus (openRecords pre ++ delivery.processed) cell = some true) ∧
        (MtView.initial.applyAll (before.2 ++ emitted)).slotState cell.val =
          (after.slots cell).touchState ∧
        (after.slots cell).seenInThisFrame = false) := by
  obtain ⟨fd, events, reached, invariant⟩ :=
    frameInvariant_run pre fun other member => inRange other (List.mem_append_left _ member)
  obtain ⟨after, emitted, handled, preserved, states⟩ :=
    invariant.deliver delivery (inRange delivery (by simp))
  refine ⟨(fd, events), after, emitted, reached, handled, ?_, fun unhandled => ?_,
    fun stays => open_report_touches_only_named fd after delivery emitted stays handled,
    fun closing cell => ?_⟩
  · simp [wtpRun_append_singleton, reached, handled]
  · rw [hidppTouchpadRawXyEvent_eq] at handled
    simp [WtpDelivery.processed, WtpDelivery.closes, unhandled, touchFingers] at handled
    exact ⟨handled.1.symm, handled.2⟩
  · simp only [closing, if_true] at preserved
    refine ⟨by simp [states closing cell], preserved.shown cell, preserved.seen cell⟩

/-- A handled report with one contact, finger 1, that closes its frame. -/
def oneFingerDelivery : WtpDelivery :=
  ⟨true, HidppReport.ofList [0x11, 0x01, 0x0f, 0x00, 0x00, 0x00,
    0x00, 0x10, 0x40, 0x20, 0x00, 0x05, 0x11,
    0x00, 0x00, 0x00, 0x00, 0x00, 0x00, 0x01]⟩

/-- A handled report that does not close its frame: contacts of fingers 2 and 3,
end-of-frame clear and finger count 3. -/
def openDelivery : WtpDelivery :=
  ⟨true, HidppReport.ofList [0x11, 0x01, 0x0f, 0x00, 0x00, 0x00,
    0x00, 0x10, 0x40, 0x20, 0x00, 0x05, 0x20,
    0x00, 0x30, 0x40, 0x30, 0x00, 0x05, 0x33]⟩

/-- A handled report that closes its frame with a contact of finger 2 only. -/
def closingDelivery : WtpDelivery :=
  ⟨true, HidppReport.ofList [0x11, 0x01, 0x0f, 0x00, 0x00, 0x00,
    0x00, 0x12, 0x40, 0x22, 0x00, 0x05, 0x21,
    0x00, 0x00, 0x00, 0x00, 0x00, 0x00, 0x01]⟩

/-- Finger 1 closes a frame; an open report then names fingers 2 and 3, and a
closing report finger 2 alone, which retires slot 0, unseen in that frame. -/
theorem open_then_closing_frame_slots :
    FingerIdsInRange ([oneFingerDelivery] ++ [openDelivery]) ∧
      (∃ before after emitted, wtpRun [oneFingerDelivery] = some before ∧
        hidppTouchpadRawXyEvent openDelivery.initialized before.1 openDelivery.report = some (after, emitted) ∧
        wtpRun ([oneFingerDelivery] ++ [openDelivery]) = some (after, before.2 ++ emitted) ∧
        (openDelivery.initialized = false → after = before.1 ∧ emitted = []) ∧
        (openDelivery.closes = false →
          (∀ cell : Fin 5, (∀ finger ∈ openDelivery.processed, slotOf finger ≠ cell.val) →
            (after.slots cell).touchState = (before.1.slots cell).touchState) ∧
          ∀ slot, InputEvent.mtSlot slot ∈ emitted →
            ∃ finger ∈ openDelivery.processed, slotOf finger = slot) ∧
        (openDelivery.closes = true → ∀ cell : Fin 5,
          ((after.slots cell).touchState = true ↔
            lastStatus (openRecords [oneFingerDelivery] ++ openDelivery.processed) cell = some true) ∧
          (MtView.initial.applyAll (before.2 ++ emitted)).slotState cell.val =
            (after.slots cell).touchState ∧
          (after.slots cell).seenInThisFrame = false)) ∧
      FingerIdsInRange ([oneFingerDelivery, openDelivery] ++ [closingDelivery]) ∧
      ∃ before after emitted, wtpRun [oneFingerDelivery, openDelivery] = some before ∧
        hidppTouchpadRawXyEvent closingDelivery.initialized before.1 closingDelivery.report = some (after, emitted) ∧
        wtpRun ([oneFingerDelivery, openDelivery] ++ [closingDelivery]) = some (after, before.2 ++ emitted) ∧
        (closingDelivery.initialized = false → after = before.1 ∧ emitted = []) ∧
        (closingDelivery.closes = false →
          (∀ cell : Fin 5, (∀ finger ∈ closingDelivery.processed, slotOf finger ≠ cell.val) →
            (after.slots cell).touchState = (before.1.slots cell).touchState) ∧
          ∀ slot, InputEvent.mtSlot slot ∈ emitted →
            ∃ finger ∈ closingDelivery.processed, slotOf finger = slot) ∧
        (closingDelivery.closes = true → ∀ cell : Fin 5,
          ((after.slots cell).touchState = true ↔
            lastStatus (openRecords [oneFingerDelivery, openDelivery] ++ closingDelivery.processed) cell = some true) ∧
          (MtView.initial.applyAll (before.2 ++ emitted)).slotState cell.val =
            (after.slots cell).touchState ∧
          (after.slots cell).seenInThisFrame = false) :=
  have openInRange : FingerIdsInRange ([oneFingerDelivery] ++ [openDelivery]) := by
    unfold FingerIdsInRange; decide
  have closingInRange : FingerIdsInRange ([oneFingerDelivery, openDelivery] ++ [closingDelivery]) := by
    unfold FingerIdsInRange; decide
  ⟨openInRange, frame_slots_after_each_report [oneFingerDelivery] openDelivery openInRange,
    closingInRange, frame_slots_after_each_report [oneFingerDelivery, openDelivery] closingDelivery
      closingInRange⟩

/-! ## Where a run is defined, and what the consumer sees -/

/-- A run stops at the out-of-bounds access exactly when one of its deliveries
hands `wtp_touch_event` a record whose slot lies outside `fd->slots`. -/
theorem wtpRunFrom_eq_none_iff (state : WtpData × List InputEvent) (run : List WtpDelivery) :
    wtpRunFrom state run = none ↔
      ∃ delivery ∈ run, ∃ finger ∈ delivery.processed, slotCell (slotOf finger) = none := by
  induction run generalizing state with
  | nil => simp [wtpRunFrom]
  | cons delivery rest inductionHypothesis =>
    rw [wtpRunFrom, hidppTouchpadRawXyEvent_eq]
    cases touched : touchFingers state.1 delivery.processed with
    | none => simp [exists_eq_or_imp, (touchFingers_eq_none_iff _ _).mp touched]
    | some handled =>
      have inside : ¬ ∃ finger ∈ delivery.processed, slotCell (slotOf finger) = none :=
        fun outside => by simp [(touchFingers_eq_none_iff _ _).mpr outside] at touched
      simp only [Option.map_some', Option.some_bind, inductionHypothesis, List.mem_cons,
        exists_eq_or_imp, inside, false_or]

/-- A run from `wtp_probe` reaches the out-of-bounds slot access exactly when one
of its handled reports carries a processed record with finger id 0 or above 5;
every other run is defined. -/
theorem wtpRun_undefined_iff (run : List WtpDelivery) :
    wtpRun run = none ↔ ∃ delivery ∈ run, ∃ finger ∈ delivery.processed,
      finger.fingerId.toNat = 0 ∨ 5 < finger.fingerId.toNat := by
  have outside (finger : HidppTouchpadRawXyFinger) : slotCell (slotOf finger) = none ↔
      finger.fingerId.toNat = 0 ∨ 5 < finger.fingerId.toNat := by
    rw [← Option.not_isSome_iff_eq_none, slotCell_isSome_iff]
    omega
  simp only [wtpRun, wtpRunFrom_eq_none_iff, outside]

/-- The records a delivery processes are decodings of its two touch records. -/
theorem mem_processed {delivery : WtpDelivery} {finger : HidppTouchpadRawXyFinger}
    (processed : finger ∈ delivery.processed) :
    ∃ index, finger = hidppTouchpadTouchEvent ((dualTouchReport delivery.report).touches index) := by
  unfold WtpDelivery.processed HidppTouchpadRawXy.processedFingers at processed
  split_ifs at processed <;> simp at processed
  all_goals rcases processed with rfl | rfl
  exacts [⟨0, rfl⟩, ⟨1, rfl⟩, ⟨0, rfl⟩]

/-- Every axis a handled delivery reports is one of a processed record's. -/
theorem abs_mem_handled {fd : WtpData} {delivery : WtpDelivery} {handled : WtpData × List InputEvent}
    (defined : hidppTouchpadRawXyEvent delivery.initialized fd delivery.report = some handled)
    {code : AbsCode} {value : Int} (reported : InputEvent.abs code value ∈ handled.2) :
    ∃ finger ∈ delivery.processed, InputEvent.abs code value ∈ touchEvents finger := by
  obtain ⟨touched, events, eq, -, -, -⟩ := touchFingers_spec fd _ (handled_processed_inside defined)
  rw [hidppTouchpadRawXyEvent_eq, eq, Option.map_some', Option.some.injEq] at defined
  subst defined
  refine mem_touchFingers eq ?_
  split_ifs at reported
  · simp only [List.mem_append] at reported
    rcases reported with (records | retired) | ending
    · exact records
    · obtain ⟨cell, -, inside⟩ := List.mem_flatMap.mp retired
      unfold retireEvents at inside
      split at inside <;> simp at inside
    · simp [frameEndEvents] at ending
  · exact reported

/-- Over a run, every axis reported is an earlier one or a processed record's. -/
theorem wtpRunFrom_abs (state final : WtpData × List InputEvent) (run : List WtpDelivery)
    (reached : wtpRunFrom state run = some final) {code : AbsCode} {value : Int}
    (reported : InputEvent.abs code value ∈ final.2) :
    InputEvent.abs code value ∈ state.2 ∨
      ∃ delivery ∈ run, ∃ finger ∈ delivery.processed, InputEvent.abs code value ∈ touchEvents finger := by
  induction run generalizing state with
  | nil =>
    cases reached
    exact .inl reported
  | cons delivery rest inductionHypothesis =>
    obtain ⟨handled, step, later⟩ := Option.bind_eq_some.mp reached
    rcases inductionHypothesis _ later with earlier | ⟨other, member, finger, processed, inside⟩
    · rcases List.mem_append.mp earlier with before | now
      · exact .inl before
      · obtain ⟨finger, processed, inside⟩ := abs_mem_handled step now
        exact .inr ⟨delivery, .head _, finger, processed, inside⟩
    · exact .inr ⟨other, .tail _ member, finger, processed, inside⟩

/-- Every slot a handled delivery selects is a cell of `fd->slots`. -/
theorem handled_selects_cells {fd : WtpData} {delivery : WtpDelivery}
    {handled : WtpData × List InputEvent}
    (defined : hidppTouchpadRawXyEvent delivery.initialized fd delivery.report = some handled)
    (slot : Int) (selected : InputEvent.mtSlot slot ∈ handled.2) : (slotCell slot).isSome := by
  obtain ⟨touched, events, eq, -, -, selects⟩ :=
    touchFingers_spec fd _ (handled_processed_inside defined)
  have fromRecords (member : InputEvent.mtSlot slot ∈ events) : (slotCell slot).isSome := by
    obtain ⟨finger, processed, rfl⟩ := selects slot member
    exact handled_processed_inside defined finger processed
  rw [hidppTouchpadRawXyEvent_eq, eq, Option.map_some', Option.some.injEq] at defined
  subst defined
  split_ifs at selected
  · simp only [List.mem_append, List.mem_flatMap, List.mem_finRange, true_and] at selected
    rcases selected with (records | ⟨cell, retired⟩) | ending
    · exact fromRecords records
    · unfold retireEvents at retired
      split_ifs at retired <;> simp only [List.mem_cons, InputEvent.mtSlot.injEq, reduceCtorEq,
        or_false, List.not_mem_nil] at retired
      exact Option.isSome_iff_exists.mpr ⟨cell, slotCell_eq_some.mpr retired⟩
    · simp [frameEndEvents] at ending
  · exact fromRecords selected

/-- Every slot a defined run selects is a cell of `fd->slots`. -/
theorem wtpRunFrom_selects_cells (state final : WtpData × List InputEvent) (run : List WtpDelivery)
    (reached : wtpRunFrom state run = some final)
    (before : ∀ slot, InputEvent.mtSlot slot ∈ state.2 → (slotCell slot).isSome) :
    ∀ slot, InputEvent.mtSlot slot ∈ final.2 → (slotCell slot).isSome := by
  induction run generalizing state with
  | nil =>
    rw [wtpRunFrom, Option.some.injEq] at reached
    exact reached ▸ before
  | cons delivery rest inductionHypothesis =>
    obtain ⟨handled, step, later⟩ := Option.bind_eq_some.mp reached
    refine inductionHypothesis _ later fun slot member => ?_
    rcases List.mem_append.mp member with earlier | now
    · exact before slot earlier
    · exact handled_selects_cells step slot now

/-- The consumer has a cell of `fd->slots` selected and holds every other slot
index inactive. -/
structure SelectsCells (view : MtView) : Prop where
  selected : (slotCell view.slot).isSome
  outside : ∀ slot, slotCell slot = none → view.slotState slot = false

theorem selectsCells_initial : SelectsCells MtView.initial :=
  ⟨rfl, fun _ _ => rfl⟩

/-- Events that select only cells keep every other index inactive. -/
theorem SelectsCells.applyAll {view : MtView} (inCells : SelectsCells view)
    (events : List InputEvent)
    (selects : ∀ slot, InputEvent.mtSlot slot ∈ events → (slotCell slot).isSome) :
    SelectsCells (view.applyAll events) := by
  induction events generalizing view with
  | nil => exact inCells
  | cons event rest inductionHypothesis =>
    refine inductionHypothesis ?_ fun slot member => selects slot (List.mem_cons_of_mem _ member)
    have notSelected (slot : Int) (outside : slotCell slot = none) : slot ≠ view.slot :=
      fun same => by simpa [← same, outside] using inCells.selected
    rcases event with slot | active | ⟨code, value⟩ | _ | _ | _ | _
    · exact ⟨selects slot (List.mem_cons_self _ _), inCells.outside⟩
    · exact ⟨inCells.selected, fun slot outside => by
        simp [MtView.apply, Function.update_noteq (notSelected slot outside),
          inCells.outside slot outside]⟩
    · cases code <;> first
        | exact inCells
        | simp only [MtView.apply]; split_ifs <;> exact ⟨inCells.selected, inCells.outside⟩
    all_goals exact inCells

/-- After every defined run from `wtp_probe`, the consumer holds each cell of
`fd->slots` in the driver's `touch_state` and every other slot index inactive:
the emitted events refine the driver's slot array. -/
theorem wtpRun_slotState (run : List WtpDelivery)
    (final : WtpData × List InputEvent) (defined : wtpRun run = some final) (slot : Int) :
    (MtView.initial.applyAll final.2).slotState slot =
      match slotCell slot with
      | some cell => (final.1.slots cell).touchState
      | none => false := by
  have inRange : FingerIdsInRange run := fun delivery member finger processed => by
    rw [← slotCell_isSome_iff, Option.isSome_iff_ne_none]
    intro outside
    have undefined := (wtpRunFrom_eq_none_iff (wtpProbeData, []) run).mpr
      ⟨delivery, member, finger, processed, outside⟩
    exact Option.noConfusion (undefined.symm.trans defined)
  obtain ⟨fd, events, reached, invariant⟩ := frameInvariant_run run inRange
  rw [defined, Option.some.injEq] at reached
  subst reached
  cases addressed : slotCell slot with
  | none =>
    exact (selectsCells_initial.applyAll events
      (wtpRunFrom_selects_cells _ _ run defined (by simp))).outside slot addressed
  | some cell =>
    rw [slotCell_eq_some.mp addressed]
    exact invariant.shown cell

/-! ## Frames at the consumer -/

/-- A handled delivery reports slot selections, slot states and axes, for its
records and the close loop, then the frame-end events when it closes a frame. -/
theorem handled_events {fd : WtpData} {delivery : WtpDelivery} {handled : WtpData × List InputEvent}
    (defined : hidppTouchpadRawXyEvent delivery.initialized fd delivery.report = some handled) :
    ∃ body, (∀ event ∈ body, event.isMtEvent) ∧
      handled.2 = body ++ if delivery.closes then frameEndEvents delivery.raw.fingerCount else [] := by
  obtain ⟨touched, events, eq, -, -, -⟩ := touchFingers_spec fd _ (handled_processed_inside defined)
  have records : ∀ event ∈ events, event.isMtEvent := fun event member => by
    obtain ⟨finger, -, inside⟩ := mem_touchFingers eq member
    unfold touchEvents at inside
    split at inside <;> simp at inside <;> rcases inside with rfl | rfl | rfl | rfl | rfl <;> rfl
  have retired : ∀ event ∈ (List.finRange 5).flatMap (fun cell => retireEvents cell (touched.slots cell)),
      event.isMtEvent := fun event member => by
    obtain ⟨cell, -, inside⟩ := List.mem_flatMap.mp member
    unfold retireEvents at inside
    split at inside <;> simp at inside
    rcases inside with rfl | rfl <;> rfl
  rw [hidppTouchpadRawXyEvent_eq, eq, Option.map_some', Option.some.injEq] at defined
  subst defined
  split_ifs
  · refine ⟨_, fun event member => ?_, rfl⟩
    exact (List.mem_append.mp member).elim (records event) (retired event)
  · exact ⟨events, records, (List.append_nil _).symm⟩

/-- A handled delivery emits exactly one frame sync when it closes a frame, and
none otherwise. -/
theorem count_sync_handled {fd : WtpData} {delivery : WtpDelivery}
    {handled : WtpData × List InputEvent}
    (defined : hidppTouchpadRawXyEvent delivery.initialized fd delivery.report = some handled) :
    handled.2.count .sync = if delivery.closes then 1 else 0 := by
  obtain ⟨body, multiTouch, eq⟩ := handled_events defined
  have noSync : body.count .sync = 0 :=
    List.count_eq_zero.mpr fun member => Bool.false_ne_true (multiTouch _ member)
  rw [eq, List.count_append, noSync]
  split <;> rfl

/-- Over a run, the syncs already emitted and one per handled report that closes
a frame. -/
theorem wtpRunFrom_count_sync (state final : WtpData × List InputEvent) (run : List WtpDelivery)
    (reached : wtpRunFrom state run = some final) :
    final.2.count .sync = state.2.count .sync + (run.filter WtpDelivery.closes).length := by
  induction run generalizing state with
  | nil =>
    rw [wtpRunFrom, Option.some.injEq] at reached
    simp [← reached]
  | cons delivery rest inductionHypothesis =>
    obtain ⟨handled, step, later⟩ := Option.bind_eq_some.mp reached
    rw [inductionHypothesis _ later, List.count_append, count_sync_handled step, List.filter_cons]
    cases delivery.closes
    · simp
    · simp only [if_true, List.length_cons]
      omega

/-- Over every defined run from `wtp_probe`, the consumer receives exactly one
frame sync per handled report that closes a frame: the records of a report that
does not close one reach the consumer only with the next close. -/
theorem syncs_count_closing_reports (run : List WtpDelivery) (final : WtpData × List InputEvent)
    (defined : wtpRun run = some final) :
    final.2.count .sync = (run.filter WtpDelivery.closes).length := by
  simpa using wtpRunFrom_count_sync (wtpProbeData, []) final run defined

/-- What `wtp_probe` and `oneFingerDelivery` leave. -/
def oneFingerRun : WtpData × List InputEvent := (wtpRun [oneFingerDelivery]).get (by decide)

theorem one_finger_run_one_sync :
    wtpRun [oneFingerDelivery] = some oneFingerRun ∧
      oneFingerRun.2.count .sync = ([oneFingerDelivery].filter WtpDelivery.closes).length :=
  have defined : wtpRun [oneFingerDelivery] = some oneFingerRun := (Option.some_get _).symm
  ⟨defined, syncs_count_closing_reports _ _ defined⟩

/-! ## Keys at the consumer -/

/-- The `finger_count` of the run's last handled report that closed a frame; 0
when none did. -/
def lastFrameFingerCount (run : List WtpDelivery) : UInt8 :=
  ((run.filter WtpDelivery.closes).getLast?.map fun delivery => delivery.raw.fingerCount).getD 0

theorem lastFrameFingerCount_append_singleton (run : List WtpDelivery) (delivery : WtpDelivery) :
    lastFrameFingerCount (run ++ [delivery]) =
      if delivery.closes then delivery.raw.fingerCount else lastFrameFingerCount run := by
  cases closes : delivery.closes <;> simp [lastFrameFingerCount, List.filter_append, closes]

/-- A handled delivery moves the consumer's keys only when it closes a frame,
and then as the frame-end events report them. -/
theorem foldl_keyStep_handled {fd : WtpData} {delivery : WtpDelivery}
    {handled : WtpData × List InputEvent}
    (defined : hidppTouchpadRawXyEvent delivery.initialized fd delivery.report = some handled)
    (code : KeyCode) (state : Bool) :
    handled.2.foldl (keyStep code) state =
      if delivery.closes then (frameEndEvents delivery.raw.fingerCount).foldl (keyStep code) state
      else state := by
  obtain ⟨body, multiTouch, eq⟩ := handled_events defined
  rw [eq, List.foldl_append, foldl_keyStep_of_isMtEvent multiTouch]
  split <;> rfl

/-- A frame end reports every key it names whatever an earlier frame end reported. -/
theorem foldl_keyStep_frameEndEvents (count earlier : UInt8) (code : KeyCode) (state : Bool) :
    (frameEndEvents count).foldl (keyStep code) ((frameEndEvents earlier).foldl (keyStep code) state) =
      (frameEndEvents count).foldl (keyStep code) state := by
  cases code <;> rfl

/-- After every defined run from `wtp_probe`, the consumer holds every key as the
frame end of the last report that closed a frame reported it. -/
theorem wtpRun_keyState (run : List WtpDelivery) (final : WtpData × List InputEvent)
    (defined : wtpRun run = some final) (code : KeyCode) :
    keyState code final.2 = (frameEndEvents (lastFrameFingerCount run)).foldl (keyStep code) false := by
  induction run using List.reverseRecOn generalizing final with
  | nil =>
    cases defined
    cases code <;> rfl
  | append_singleton run delivery inductionHypothesis =>
    rw [wtpRun_append_singleton] at defined
    obtain ⟨reached, reachedRun, stepped⟩ := Option.bind_eq_some.mp defined
    obtain ⟨handled, handledStep, ⟨⟩⟩ := Option.bind_eq_some.mp stepped
    rw [keyState_append, inductionHypothesis reached reachedRun, foldl_keyStep_handled handledStep,
      lastFrameFingerCount_append_singleton]
    split
    · exact foldl_keyStep_frameEndEvents _ _ _ _
    · rfl

/-- Over every defined run from `wtp_probe`, the consumer holds `BTN_TOOL_FINGER`
to `BTN_TOOL_QUADTAP` pressed exactly when the `finger_count` of the last report
that closed a frame is 1 to 4: a report that does not close one leaves the tool
keys as they were, and a count of 0 or above 4 releases them all. -/
theorem consumer_tool_keys_follow_last_frame (run : List WtpDelivery) (final : WtpData × List InputEvent)
    (defined : wtpRun run = some final) :
    keyState .btnToolFinger final.2 = (lastFrameFingerCount run == 1) ∧
      keyState .btnToolDoubletap final.2 = (lastFrameFingerCount run == 2) ∧
      keyState .btnToolTripletap final.2 = (lastFrameFingerCount run == 3) ∧
      keyState .btnToolQuadtap final.2 = (lastFrameFingerCount run == 4) := by
  simp only [wtpRun_keyState run final defined]
  exact ⟨rfl, rfl, rfl, rfl⟩

theorem one_finger_run_tool_keys :
    wtpRun [oneFingerDelivery] = some oneFingerRun ∧
      keyState .btnToolFinger oneFingerRun.2 = (lastFrameFingerCount [oneFingerDelivery] == 1) ∧
      keyState .btnToolDoubletap oneFingerRun.2 = (lastFrameFingerCount [oneFingerDelivery] == 2) ∧
      keyState .btnToolTripletap oneFingerRun.2 = (lastFrameFingerCount [oneFingerDelivery] == 3) ∧
      keyState .btnToolQuadtap oneFingerRun.2 = (lastFrameFingerCount [oneFingerDelivery] == 4) :=
  have defined : wtpRun [oneFingerDelivery] = some oneFingerRun := (Option.some_get _).symm
  ⟨defined, consumer_tool_keys_follow_last_frame _ _ defined⟩

end HidLogitech.Wtp
