import HidLogitech.Wtp.Report
import Mathlib.Data.List.FinRange

/-!
# Wireless touchpad: slot tracking across frames

`wtp_touch_event` marks the addressed slot as seen in this frame and records
the contact status as its touch state, emitting the slot's events.
`wtp_touchpad_raw_xy_event` runs it on each processed record and, when the
report closes a frame, retires every slot that is active but was not seen, then
clears every seen flag. Reports delivered while the HID++ core has not set
`initialized` are dropped.

The slot index comes from the device unchecked. An index outside `slots[5]` is
an out-of-bounds access in C; the model stops there (`none`).
-/

namespace HidLogitech.Wtp

/-- `struct wtp_mt_slot`. -/
structure WtpMtSlot where
  touchState : Bool
  seenInThisFrame : Bool
deriving DecidableEq, Repr

/-- The fields of `struct wtp_data` that the modelled functions read or write. -/
structure WtpData where
  xSize : UInt16
  ySize : UInt16
  maxcontacts : UInt8
  slots : Fin 5 → WtpMtSlot

/-- The events `wtp_touch_event` emits for one record. -/
def touchEvents (finger : HidppTouchpadRawXyFinger) : List InputEvent :=
  [.mtSlot (slotOf finger), .mtReportSlotState (finger.contactStatus != 0)] ++
    if finger.contactStatus != 0 then
      [.abs .mtPositionX finger.x.toNat, .abs .mtPositionY finger.y.toNat,
        .abs .mtPressure finger.area.toNat]
    else []

/-- `wtp_touch_event`: write `seen_in_this_frame` and `touch_state` of
`fd->slots[finger_id - 1]`; undefined when that index is outside the array. -/
def wtpTouchEvent (fd : WtpData) (finger : HidppTouchpadRawXyFinger) :
    Option (WtpData × List InputEvent) :=
  (slotCell (slotOf finger)).map fun cell =>
    ({ fd with slots := Function.update fd.slots cell ⟨finger.contactStatus != 0, true⟩ },
      touchEvents finger)

/-- The processed records in order, stopping at an undefined access. -/
def touchFingers (fd : WtpData) :
    List HidppTouchpadRawXyFinger → Option (WtpData × List InputEvent)
  | [] => some (fd, [])
  | finger :: rest =>
      (wtpTouchEvent fd finger).bind fun (touched, first) =>
        (touchFingers touched rest).map fun (final, later) => (final, first ++ later)

namespace WtpMtSlot

/-- `!fd->slots[i].seen_in_this_frame && fd->slots[i].touch_state`. -/
def retires (slot : WtpMtSlot) : Bool := !slot.seenInThisFrame && slot.touchState

/-- The slot after its loop iteration: cleared if it retires, never seen. -/
def closed (slot : WtpMtSlot) : WtpMtSlot :=
  ⟨if slot.retires then false else slot.touchState, false⟩

end WtpMtSlot

/-- The events of one loop iteration: an empty state for a retiring slot. -/
def retireEvents (i : Fin 5) (slot : WtpMtSlot) : List InputEvent :=
  if slot.retires then [.mtSlot i.val, .mtReportSlotState false] else []

/-- One iteration of the frame-close loop over slot `i`. -/
def retireSlot (step : WtpData × List InputEvent) (i : Fin 5) : WtpData × List InputEvent :=
  ({ step.1 with slots := Function.update step.1.slots i (step.1.slots i).closed },
    step.2 ++ retireEvents i (step.1.slots i))

/-- `for (i = 0; i < ARRAY_SIZE(fd->slots); i++)` over `retireSlot`. -/
def retireUnseen (fd : WtpData) : WtpData × List InputEvent :=
  (List.finRange 5).foldl retireSlot (fd, [])

/-- Pointer emulation, the tool keys for `finger_count` and the frame sync. -/
def frameEndEvents (fingerCount : UInt8) : List InputEvent :=
  [.pointerEmulation, .key .btnToolFinger (fingerCount == 1),
    .key .btnToolDoubletap (fingerCount == 2), .key .btnToolTripletap (fingerCount == 3),
    .key .btnToolQuadtap (fingerCount == 4), .sync]

/-- `wtp_touchpad_raw_xy_event`, with `hidpp_dev->initialized` as a flag. -/
def wtpTouchpadRawXyEvent (initialized : Bool) (fd : WtpData) (raw : HidppTouchpadRawXy) :
    Option (WtpData × List InputEvent) :=
  if initialized then
    (touchFingers fd raw.processedFingers).map fun (touched, events) =>
      if raw.closesFrame then
        let (final, retired) := retireUnseen touched
        (final, events ++ retired ++ frameEndEvents raw.fingerCount)
      else (touched, events)
  else some (fd, [])

/-- `hidpp_touchpad_raw_xy_event`: decode the received report and handle it. -/
def hidppTouchpadRawXyEvent (initialized : Bool) (fd : WtpData) (report : HidppReport) :
    Option (WtpData × List InputEvent) :=
  wtpTouchpadRawXyEvent initialized fd (rawXy (dualTouchReport report))

/-! ## One record -/

theorem wtpTouchEvent_of_cell (fd : WtpData) (finger : HidppTouchpadRawXyFinger) (cell : Fin 5)
    (addressed : slotCell (slotOf finger) = some cell) :
    wtpTouchEvent fd finger = some
      ({ fd with slots := Function.update fd.slots cell ⟨finger.contactStatus != 0, true⟩ },
        touchEvents finger) := by
  simp [wtpTouchEvent, addressed]

/-- A record's events select its slot and then report its state there. -/
theorem applyAll_touchEvents (view : MtView) (finger : HidppTouchpadRawXyFinger) :
    (view.applyAll (touchEvents finger)).slotState =
      Function.update view.slotState (slotOf finger) (finger.contactStatus != 0) := by
  unfold touchEvents
  split <;> simp [MtView.apply]

/-- The undefined access is exactly a processed record with an id outside 1..5. -/
theorem touchFingers_eq_none_iff (fd : WtpData) (fingers : List HidppTouchpadRawXyFinger) :
    touchFingers fd fingers = none ↔ ∃ finger ∈ fingers, slotCell (slotOf finger) = none := by
  induction fingers generalizing fd with
  | nil => simp [touchFingers]
  | cons finger rest inductionHypothesis =>
    cases addressed : slotCell (slotOf finger) with
    | none => simp [touchFingers, wtpTouchEvent, addressed]
    | some cell =>
      simp [touchFingers, wtpTouchEvent_of_cell fd finger cell addressed, inductionHypothesis,
        addressed]

/-- Every event of the records is one of a processed record's events. -/
theorem mem_touchFingers {fd touched : WtpData} {fingers : List HidppTouchpadRawXyFinger}
    {events : List InputEvent} (run : touchFingers fd fingers = some (touched, events))
    {event : InputEvent} (member : event ∈ events) : ∃ finger ∈ fingers, event ∈ touchEvents finger := by
  induction fingers generalizing fd events with
  | nil =>
    cases run
    cases member
  | cons finger rest inductionHypothesis =>
    rw [touchFingers] at run
    obtain ⟨⟨stepped, first⟩, touchRun, tailRun⟩ := Option.bind_eq_some.mp run
    obtain ⟨⟨final, later⟩, restRun, same⟩ := Option.map_eq_some'.mp tailRun
    obtain ⟨cell, -, written⟩ := Option.map_eq_some'.mp touchRun
    cases written
    cases same
    rcases List.mem_append.mp member with mine | theirs
    · exact ⟨finger, List.mem_cons_self _ _, mine⟩
    · obtain ⟨other, processed, inside⟩ := inductionHypothesis restRun theirs
      exact ⟨other, List.mem_cons_of_mem _ processed, inside⟩

/-! ## A list of records -/

/-- The status that the last record of a list addressing `cell` reports for it. -/
def lastStatus : List HidppTouchpadRawXyFinger → Fin 5 → Option Bool
  | [], _ => none
  | finger :: rest, cell =>
      (lastStatus rest cell).or
        (if slotCell (slotOf finger) = some cell then some (finger.contactStatus != 0) else none)

theorem lastStatus_append (first second : List HidppTouchpadRawXyFinger) (cell : Fin 5) :
    lastStatus (first ++ second) cell = (lastStatus second cell).or (lastStatus first cell) := by
  induction first with
  | nil => simp [lastStatus]
  | cons finger rest inductionHypothesis =>
    rw [List.cons_append]
    simp only [lastStatus, inductionHypothesis, Option.or_assoc]

/-- Records with ids in range write each addressed slot as seen with the status
of its last record, leave the other slots alone, and the consumer's slot states
follow the same rule; every slot they select is one of theirs. -/
theorem touchFingers_spec (fd : WtpData) (fingers : List HidppTouchpadRawXyFinger)
    (inside : ∀ finger ∈ fingers, (slotCell (slotOf finger)).isSome) :
    ∃ touched events, touchFingers fd fingers = some (touched, events) ∧
      (∀ cell, touched.slots cell = match lastStatus fingers cell with
        | some active => ⟨active, true⟩
        | none => fd.slots cell) ∧
      (∀ (view : MtView) (cell : Fin 5), (view.applyAll events).slotState cell =
        match lastStatus fingers cell with
        | some active => active
        | none => view.slotState cell) ∧
      ∀ slot, InputEvent.mtSlot slot ∈ events → ∃ finger ∈ fingers, slotOf finger = slot := by
  induction fingers generalizing fd with
  | nil => exact ⟨fd, [], rfl, fun _ => rfl, fun _ _ => rfl, by simp⟩
  | cons finger rest inductionHypothesis =>
    obtain ⟨cell, addressed⟩ :=
      Option.isSome_iff_exists.mp (inside finger (List.mem_cons_self _ _))
    obtain ⟨touched, later, run, slotsAfter, viewAfter, selects⟩ := inductionHypothesis
      { fd with slots := Function.update fd.slots cell ⟨finger.contactStatus != 0, true⟩ }
      (fun other member => inside other (List.mem_cons_of_mem _ member))
    have status (other : Fin 5) : lastStatus (finger :: rest) other =
        (lastStatus rest other).or
          (if cell = other then some (finger.contactStatus != 0) else none) := by
      simp [lastStatus, addressed]
    have position : slotOf finger = cell.val := slotCell_eq_some.mp addressed
    refine ⟨touched, touchEvents finger ++ later, ?_, fun other => ?_, fun view other => ?_, ?_⟩
    · simp [touchFingers, wtpTouchEvent_of_cell fd finger cell addressed, run]
    · rw [slotsAfter, status]
      cases lastStatus rest other <;> by_cases same : cell = other <;>
        simp [same, Function.update_apply, eq_comm]
    · rw [MtView.applyAll_append, viewAfter, status, applyAll_touchEvents, position]
      cases lastStatus rest other <;> by_cases same : cell = other <;>
        simp [same, Function.update_apply, eq_comm, Fin.val_inj, Int.ofNat_inj]
    · intro slot member
      rcases List.mem_append.mp member with mine | theirs
      · refine ⟨finger, List.mem_cons_self _ _, ?_⟩
        unfold touchEvents at mine
        split at mine <;> simp at mine <;> exact mine.symm
      · obtain ⟨other, member, same⟩ := selects slot theirs
        exact ⟨other, List.mem_cons_of_mem _ member, same⟩

/-! ## Closing a frame -/

/-- The loop over distinct cells closes exactly those cells and appends their
events in order. -/
theorem foldl_retireSlot (fd : WtpData) (emitted : List InputEvent) (cells : List (Fin 5))
    (distinct : cells.Nodup) :
    cells.foldl retireSlot (fd, emitted) =
      ({ fd with slots := fun cell => if cell ∈ cells then (fd.slots cell).closed else fd.slots cell },
        emitted ++ cells.flatMap fun cell => retireEvents cell (fd.slots cell)) := by
  induction cells generalizing fd emitted with
  | nil => simp
  | cons first rest inductionHypothesis =>
    obtain ⟨fresh, distinctRest⟩ := List.nodup_cons.mp distinct
    simp only [List.foldl_cons, retireSlot, inductionHypothesis _ _ distinctRest, List.flatMap_cons,
      List.append_assoc, Prod.mk.injEq, and_true]
    have untouched : ∀ cell ∈ rest, Function.update fd.slots first (fd.slots first).closed cell =
        fd.slots cell := fun cell member =>
      Function.update_noteq (fun same => by subst same; exact fresh member) _ _
    constructor
    · congr 1
      funext cell
      by_cases here : cell = first <;> by_cases later : cell ∈ rest <;>
        simp [here, later, fresh, Function.update_apply]
    · congr 2
      exact List.flatMap_congr fun cell member => by rw [untouched cell member]

theorem retireUnseen_eq (fd : WtpData) :
    retireUnseen fd = ({ fd with slots := fun cell => (fd.slots cell).closed },
      (List.finRange 5).flatMap fun cell => retireEvents cell (fd.slots cell)) := by
  simp [retireUnseen, foldl_retireSlot _ _ _ (List.nodup_finRange 5), List.mem_finRange]

theorem applyAll_retireEvents (view : MtView) (i : Fin 5) (slot : WtpMtSlot) :
    (view.applyAll (retireEvents i slot)).slotState =
      if slot.retires then Function.update view.slotState i.val false else view.slotState := by
  unfold retireEvents
  split <;> simp [MtView.apply]

/-- The frame-close events report empty exactly the retiring slots. -/
theorem applyAll_flatMap_retireEvents (view : MtView) (slots : Fin 5 → WtpMtSlot)
    (cells : List (Fin 5)) (cell : Fin 5) :
    (view.applyAll (cells.flatMap fun other => retireEvents other (slots other))).slotState cell =
      if cell ∈ cells ∧ (slots cell).retires then false else view.slotState cell := by
  induction cells generalizing view with
  | nil => simp
  | cons first rest inductionHypothesis =>
    rw [List.flatMap_cons, MtView.applyAll_append, inductionHypothesis, applyAll_retireEvents]
    by_cases same : cell = first <;> cases retiring : (slots first).retires <;>
      simp [same, retiring, Function.update_apply, Fin.val_inj, Int.ofNat_inj]

/-! ## A report naming slot `-1` -/

/-- A dual-touch report whose first record has id byte `0x00` and whose second
record's id byte `0x01` gives a finger count of one. -/
def zeroIdReport : HidppReport :=
  HidppReport.ofList [0x11, 0x01, 0x0f, 0x00, 0x00, 0x00,
    0, 0, 0, 0, 0, 0, 0x00,
    0, 0, 0, 0, 0, 0, 0x01]

/-- On that report the only processed record names slot index `-1`, and handling
it from any state reaches the undefined access before `fd->slots`. -/
theorem zero_id_report_slot_outside (fd : WtpData) :
    (rawXy (dualTouchReport zeroIdReport)).processedFingers.map slotOf = [-1] ∧
      hidppTouchpadRawXyEvent true fd zeroIdReport = none := by
  constructor
  · decide
  · simp only [hidppTouchpadRawXyEvent, wtpTouchpadRawXyEvent, if_true, Option.map_eq_none']
    exact (touchFingers_eq_none_iff fd _).mpr ⟨_, List.mem_singleton_self _, by decide⟩

end HidLogitech.Wtp
