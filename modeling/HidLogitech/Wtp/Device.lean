import HidLogitech.Wtp.Run

/-!
# Wireless touchpad: device set-up and the registered sink

`wtp_probe` fixes five contacts and starts the hardware, which registers the
input device through `wtp_input_mapping`: as many slots as `maxcontacts`, the
tool keys, and the fixed ranges `X_SIZE` by `Y_SIZE`. The HID++ core then calls
`wtp_device_init`, which switches the touchpad to raw reports and reads its raw
information, storing the reported sizes only when both commands succeed; sizes
other than the fixed ones are logged and kept.

A session is the driver data with the sink's registration and the events
reported to it. Over every run the slot count stays the length of
`fd->slots`, and every key and slot the report path reports is a registered
one. Device initialisation and `wtp_connect_change` write no slot, so a
session's slots and events are those of the run of its reports alone, and the
consumer's view of each slot is the driver's `touch_state`. Every axis reported
is a position or a pressure with a 14-bit value, the pressure within its
registered range.
-/

namespace HidLogitech.Wtp

/-- `X_SIZE` and `Y_SIZE`. -/
def wtpXSize : Nat := 3700
def wtpYSize : Nat := 2480

/-- `WTP_RAW_XY_FEAT_INDEX`, `CMD_TOUCHPAD_GET_RAW_INFO` and
`CMD_TOUCHPAD_SET_RAW_REPORT_STATE`. -/
def wtpRawXyFeatIndex : UInt8 := 0x0F
def cmdTouchpadGetRawInfo : UInt8 := 0x01
def cmdTouchpadSetRawReportState : UInt8 := 0x21

/-- `struct hidpp_touchpad_raw_info`. -/
structure HidppTouchpadRawInfo where
  xSize : UInt16
  ySize : UInt16
  zRange : UInt8
  areaRange : UInt8
  timestampUnit : UInt8
  origin : UInt8
  penSupported : UInt8
deriving DecidableEq, Repr

/-- `struct hidpp_touchpad_raw_info raw_info = {}`. -/
def HidppTouchpadRawInfo.zero : HidppTouchpadRawInfo := ⟨0, 0, 0, 0, 0, 0, 0⟩

/-- `hidpp_touchpad_get_raw_info`: on success the structure copied from the
response's parameters, its sizes then read big-endian; on failure the negated
code, `raw_info` untouched. -/
def hidppTouchpadGetRawInfo (transport : HidppTransport) (rawInfo : HidppTouchpadRawInfo) :
    Int × HidppTouchpadRawInfo :=
  let response := transport.sendSync (.fap wtpRawXyFeatIndex cmdTouchpadGetRawInfo [])
  if response.1 ≠ 0 then (-response.1, rawInfo) else
  let params := response.2.params
  (response.1,
    { xSize := (params 0).toUInt16 <<< 8 ||| (params 1).toUInt16
      ySize := (params 2).toUInt16 <<< 8 ||| (params 3).toUInt16
      zRange := params 4
      areaRange := params 5
      timestampUnit := params 6
      origin := params 7
      penSupported := params 8 })

/-- `hidpp_touchpad_set_raw_report_state`: the three flags in the low bits of the
one parameter byte. -/
def hidppTouchpadSetRawReportState (transport : HidppTransport)
    (sendRawReports forceVsArea sensorEnhancedSettings : Bool) : Int :=
  let params := UInt8.ofNat
    (sendRawReports.toNat ||| forceVsArea.toNat <<< 1 ||| sensorEnhancedSettings.toNat <<< 2)
  let ret := (transport.sendSync (.fap wtpRawXyFeatIndex cmdTouchpadSetRawReportState [params])).1
  if ret ≠ 0 then -ret else ret

/-- `wtp_device_init`: raw mode with all three flags, then the raw information,
whose sizes are stored when it was read. -/
def wtpDeviceInit (transport : HidppTransport) (fd : WtpData) : WtpData × Int :=
  let ret := hidppTouchpadSetRawReportState transport true true true
  if ret ≠ 0 then (fd, ret) else
  let rawInfo := hidppTouchpadGetRawInfo transport .zero
  if rawInfo.1 = 0 then ({ fd with xSize := rawInfo.2.xSize, ySize := rawInfo.2.ySize }, rawInfo.1)
  else (fd, rawInfo.1)

/-- `wtp_input_mapping` for a button usage. -/
def wtpInputMapping (fd : WtpData) : InputRegistration where
  keys := [.btnTouch, .btnToolFinger, .btnToolDoubletap, .btnToolTripletap, .btnToolQuadtap,
    .btnTouch]
  mtSlots := fd.maxcontacts.toNat
  touchMajorMax := 255
  touchMinorMax := 255
  pressureMax := 255
  positionXMax := wtpXSize
  positionYMax := wtpYSize
  absXMax := wtpXSize
  absYMax := wtpYSize

/-- `wtp_device_init` fails exactly when a command fails, and writes only the
sizes, to the device's answer, when both succeed. -/
theorem wtpDeviceInit_spec (transport : HidppTransport) (fd : WtpData) :
    ((wtpDeviceInit transport fd).2 = 0 ↔
        hidppTouchpadSetRawReportState transport true true true = 0 ∧
          (hidppTouchpadGetRawInfo transport .zero).1 = 0) ∧
      (wtpDeviceInit transport fd).1 =
        if (wtpDeviceInit transport fd).2 = 0 then
          { fd with
            xSize := (hidppTouchpadGetRawInfo transport .zero).2.xSize
            ySize := (hidppTouchpadGetRawInfo transport .zero).2.ySize }
        else fd := by
  unfold wtpDeviceInit
  by_cases raw : hidppTouchpadSetRawReportState transport true true true = 0 <;>
    by_cases read : (hidppTouchpadGetRawInfo transport .zero).1 = 0 <;> simp [raw, read]

/-! ## What the report path writes -/

/-- The tool keys `wtp_touchpad_raw_xy_event` reports at a frame's end. -/
def wtpToolKeys : List KeyCode :=
  [.btnToolFinger, .btnToolDoubletap, .btnToolTripletap, .btnToolQuadtap]

theorem touchFingers_frame (fd : WtpData) (fingers : List HidppTouchpadRawXyFinger)
    {touched : WtpData} {events : List InputEvent}
    (run : touchFingers fd fingers = some (touched, events)) :
    touched.maxcontacts = fd.maxcontacts ∧ ∀ code pressed, InputEvent.key code pressed ∉ events := by
  induction fingers generalizing fd events with
  | nil =>
    cases run
    exact ⟨rfl, nofun⟩
  | cons finger rest inductionHypothesis =>
    rw [touchFingers] at run
    obtain ⟨⟨stepped, first⟩, touchRun, tailRun⟩ := Option.bind_eq_some.mp run
    obtain ⟨⟨final, later⟩, restRun, same⟩ := Option.map_eq_some'.mp tailRun
    obtain ⟨cell, -, written⟩ := Option.map_eq_some'.mp touchRun
    cases written
    cases same
    obtain ⟨contacts, noKeys⟩ := inductionHypothesis _ restRun
    refine ⟨contacts, fun code pressed member => ?_⟩
    rcases List.mem_append.mp member with mine | theirs
    · unfold touchEvents at mine
      split at mine <;> simp at mine
    · exact noKeys code pressed theirs

/-- A handled report keeps the contact count and reports no key but the tool
keys. -/
theorem hidppTouchpadRawXyEvent_frame (initialized : Bool) (fd : WtpData) (report : HidppReport)
    {next : WtpData} {emitted : List InputEvent}
    (handled : hidppTouchpadRawXyEvent initialized fd report = some (next, emitted)) :
    next.maxcontacts = fd.maxcontacts ∧
      ∀ code pressed, InputEvent.key code pressed ∈ emitted → code ∈ wtpToolKeys := by
  rw [hidppTouchpadRawXyEvent_eq fd ⟨initialized, report⟩, Option.map_eq_some'] at handled
  obtain ⟨⟨touched, events⟩, run, closing⟩ := handled
  obtain ⟨contacts, noKeys⟩ := touchFingers_frame fd _ run
  split at closing <;> cases closing
  · refine ⟨contacts, fun code pressed member => ?_⟩
    simp only [List.mem_append, List.mem_flatMap] at member
    rcases member with (mine | ⟨cell, -, retired⟩) | ending
    · exact absurd mine (noKeys code pressed)
    · unfold retireEvents at retired
      split at retired <;> simp at retired
    · simp [frameEndEvents] at ending
      rcases ending with ⟨rfl, -⟩ | ⟨rfl, -⟩ | ⟨rfl, -⟩ | ⟨rfl, -⟩ <;> decide
  · exact ⟨contacts, fun code pressed member => absurd member (noKeys code pressed)⟩

/-! ## The session -/

/-- The driver data, what the sink was registered with, and the events reported
to it. -/
structure WtpSession where
  fd : WtpData
  registration : InputRegistration
  emitted : List InputEvent

/-- What the HID++ core calls after the probe: the device initialisation, a
dual-touch report with its `initialized` flag, and a change of connection. -/
inductive WtpEvent where
  | deviceInit (transport : HidppTransport)
  | rawXy (initialized : Bool) (report : HidppReport)
  | connectChange (connected initialized : Bool)

/-- One event; `none` at an undefined slot access. `wtp_connect_change` sends the
raw-mode command again to a connected, initialised device, drops its result and
writes no driver data. -/
def wtpStep (s : WtpSession) : WtpEvent → Option WtpSession
  | .deviceInit transport => some { s with fd := (wtpDeviceInit transport s.fd).1 }
  | .connectChange _ _ => some s
  | .rawXy initialized report =>
      (hidppTouchpadRawXyEvent initialized s.fd report).map fun handled =>
        { s with fd := handled.1, emitted := s.emitted ++ handled.2 }

/-- `wtp_probe` from the return values of `hid_parse`, `hid_hw_start` and
`hidpp_init`; the registration happens inside `hid_hw_start`. -/
def wtpProbe (parse hwStart init : Int) : Option WtpSession :=
  if parse ≠ 0 ∨ hwStart ≠ 0 ∨ init ≠ 0 then none
  else some ⟨wtpProbeData, wtpInputMapping wtpProbeData, []⟩

/-- The states the touchpad driver reaches: a successful probe, then events. A
report that reaches the out-of-bounds slot access has no next state, so these are
the states of runs without it. -/
inductive WtpReachable : WtpSession → Prop
  | probe {parse hwStart init : Int} {s : WtpSession} (probed : wtpProbe parse hwStart init = some s) :
      WtpReachable s
  | step {s next : WtpSession} (event : WtpEvent) :
      WtpReachable s → wtpStep s event = some next → WtpReachable next

/-- What the probe sets up and every event keeps: five contacts, the probe's
registration, only tool keys reported, and only cells of `fd->slots` selected. -/
structure WtpSessionInvariant (s : WtpSession) : Prop where
  contacts : s.fd.maxcontacts = 5
  registered : s.registration = wtpInputMapping wtpProbeData
  toolKeys : ∀ code pressed, InputEvent.key code pressed ∈ s.emitted → code ∈ wtpToolKeys
  slots : ∀ slot, InputEvent.mtSlot slot ∈ s.emitted → (slotCell slot).isSome

theorem WtpSessionInvariant.step {s next : WtpSession} (invariant : WtpSessionInvariant s)
    (event : WtpEvent) (stepped : wtpStep s event = some next) : WtpSessionInvariant next := by
  cases event with
  | deviceInit transport =>
    cases stepped
    refine ⟨?_, invariant.registered, invariant.toolKeys, invariant.slots⟩
    rw [← invariant.contacts, (wtpDeviceInit_spec transport _).2]
    split <;> rfl
  | rawXy initialized report =>
    simp only [wtpStep, Option.map_eq_some'] at stepped
    obtain ⟨⟨next, emitted⟩, handled, rfl⟩ := stepped
    obtain ⟨sameContacts, toolKeys⟩ := hidppTouchpadRawXyEvent_frame initialized _ report handled
    refine ⟨sameContacts.trans invariant.contacts, invariant.registered,
      fun code pressed member => ?_, fun slot member => ?_⟩
    · rcases List.mem_append.mp member with before | now
      · exact invariant.toolKeys code pressed before
      · exact toolKeys code pressed now
    · rcases List.mem_append.mp member with before | now
      · exact invariant.slots slot before
      · exact @handled_selects_cells _ ⟨initialized, report⟩ _ handled slot now
  | connectChange =>
    cases stepped
    exact invariant

theorem WtpReachable.invariant {s : WtpSession} (reachable : WtpReachable s) :
    WtpSessionInvariant s := by
  induction reachable with
  | probe probed =>
    simp only [wtpProbe] at probed
    split_ifs at probed
    cases probed
    exact ⟨rfl, rfl, nofun, nofun⟩
  | step event _ stepped inductionHypothesis => exact inductionHypothesis.step event stepped

/-- The session `wtp_probe` starts. -/
def wtpProbeSession : WtpSession := ⟨wtpProbeData, wtpInputMapping wtpProbeData, []⟩

/-- After the probe, a report with one contact that closes its frame. -/
def oneFingerSession : WtpSession :=
  (wtpStep wtpProbeSession (.rawXy oneFingerDelivery.initialized oneFingerDelivery.report)).get
    (by decide)

theorem oneFingerSession_reachable : WtpReachable oneFingerSession :=
  .step (.rawXy _ _) (.probe (show wtpProbe 0 0 0 = some wtpProbeSession from rfl))
    (Option.some_get _).symm

/-- In every reachable state the sink has as many slots as `fd->slots` holds,
its ranges are the fixed sizes whatever sizes the device reported, every key
reported so far is a registered one, and every slot selected so far is one of
the registered slots. -/
theorem wtpReachable_registration {s : WtpSession} (reachable : WtpReachable s) :
    s.fd.maxcontacts = 5 ∧ s.registration = wtpInputMapping wtpProbeData ∧
      s.registration.mtSlots = 5 ∧ s.registration.positionXMax = wtpXSize ∧
      s.registration.positionYMax = wtpYSize ∧
      (∀ code pressed, InputEvent.key code pressed ∈ s.emitted → code ∈ s.registration.keys) ∧
      ∀ slot, InputEvent.mtSlot slot ∈ s.emitted → 0 ≤ slot ∧ slot < s.registration.mtSlots := by
  obtain ⟨contacts, registered, toolKeys, slots⟩ := reachable.invariant
  have registeredTools : ∀ code ∈ wtpToolKeys, code ∈ (wtpInputMapping wtpProbeData).keys := by
    decide
  rw [registered]
  refine ⟨contacts, rfl, rfl, rfl, rfl, fun code pressed member =>
    registeredTools code (toolKeys code pressed member), fun slot member => ?_⟩
  obtain ⟨cell, addressed⟩ := Option.isSome_iff_exists.mp (slots slot member)
  rw [slotCell_eq_some.mp addressed]
  exact ⟨Int.ofNat_zero_le _, Int.ofNat_lt.mpr cell.isLt⟩

theorem one_finger_session_registration : WtpReachable oneFingerSession ∧
    oneFingerSession.fd.maxcontacts = 5 ∧
      oneFingerSession.registration = wtpInputMapping wtpProbeData ∧
      oneFingerSession.registration.mtSlots = 5 ∧
      oneFingerSession.registration.positionXMax = wtpXSize ∧
      oneFingerSession.registration.positionYMax = wtpYSize ∧
      (∀ code pressed, InputEvent.key code pressed ∈ oneFingerSession.emitted →
        code ∈ oneFingerSession.registration.keys) ∧
      ∀ slot, InputEvent.mtSlot slot ∈ oneFingerSession.emitted →
        0 ≤ slot ∧ slot < oneFingerSession.registration.mtSlots :=
  ⟨oneFingerSession_reachable, wtpReachable_registration oneFingerSession_reachable⟩

/-! ## The session refines a run of reports -/

/-- The records write only the slots, and what they write and emit depends on
the driver data only through its slots. -/
theorem touchFingers_slots_congr {fd other : WtpData} (same : fd.slots = other.slots)
    (fingers : List HidppTouchpadRawXyFinger) :
    touchFingers other fingers =
      (touchFingers fd fingers).map fun touched => ({ other with slots := touched.1.slots }, touched.2) := by
  induction fingers generalizing fd other with
  | nil => rw [touchFingers, touchFingers, Option.map_some', same]
  | cons finger rest inductionHypothesis =>
    cases addressed : slotCell (slotOf finger) with
    | none => simp [touchFingers, wtpTouchEvent, addressed]
    | some cell =>
      have written := @inductionHypothesis
        { fd with slots := Function.update fd.slots cell ⟨finger.contactStatus != 0, true⟩ }
        { other with slots := Function.update other.slots cell ⟨finger.contactStatus != 0, true⟩ }
        (by rw [same])
      simp only [touchFingers, wtpTouchEvent_of_cell _ finger cell addressed, Option.some_bind,
        written, Option.map_map]
      rfl

/-- Handling a report depends on the driver data only through its slots, which
is all it writes. -/
theorem hidppTouchpadRawXyEvent_slots_congr {fd other : WtpData} (same : fd.slots = other.slots)
    (initialized : Bool) (report : HidppReport) :
    hidppTouchpadRawXyEvent initialized other report =
      (hidppTouchpadRawXyEvent initialized fd report).map fun handled =>
        ({ other with slots := handled.1.slots }, handled.2) := by
  rw [hidppTouchpadRawXyEvent_eq other ⟨initialized, report⟩, hidppTouchpadRawXyEvent_eq fd ⟨initialized, report⟩,
    touchFingers_slots_congr same, Option.map_map, Option.map_map]
  congr 1
  funext touched
  split <;> rfl

/-- Every reachable session is, in its slots and in the events reported, the run
of its reports alone from `wtp_probe`: device initialisations and connection
changes do not show. -/
theorem WtpReachable.refines_run {s : WtpSession} (reachable : WtpReachable s) :
    ∃ run final, wtpRun run = some final ∧ final.1.slots = s.fd.slots ∧ final.2 = s.emitted := by
  induction reachable with
  | probe probed =>
    simp only [wtpProbe] at probed
    split_ifs at probed
    cases probed
    exact ⟨[], (wtpProbeData, []), rfl, rfl, rfl⟩
  | step event _ stepped inductionHypothesis =>
    obtain ⟨run, final, reached, sameSlots, sameEvents⟩ := inductionHypothesis
    cases event with
    | deviceInit transport =>
      cases stepped
      refine ⟨run, final, reached, ?_, sameEvents⟩
      rw [sameSlots, (wtpDeviceInit_spec transport _).2]
      split <;> rfl
    | rawXy initialized report =>
      simp only [wtpStep, Option.map_eq_some'] at stepped
      obtain ⟨⟨next, emitted⟩, handled, rfl⟩ := stepped
      refine ⟨run ++ [⟨initialized, report⟩], ({ final.1 with slots := next.slots }, final.2 ++ emitted),
        ?_, rfl, by rw [sameEvents]⟩
      simp [wtpRun_append_singleton, reached, hidppTouchpadRawXyEvent_slots_congr sameSlots.symm,
        handled]
    | connectChange =>
      cases stepped
      exact ⟨run, final, reached, sameSlots, sameEvents⟩

/-- In every reachable state the consumer holds each cell of `fd->slots` in the
driver's `touch_state`, and every other slot index inactive. -/
theorem consumer_slots_follow_touch_state {s : WtpSession} (reachable : WtpReachable s)
    (slot : Int) :
    (MtView.initial.applyAll s.emitted).slotState slot =
      match slotCell slot with
      | some cell => (s.fd.slots cell).touchState
      | none => false := by
  obtain ⟨run, final, reached, sameSlots, sameEvents⟩ := reachable.refines_run
  rw [← sameSlots, ← sameEvents]
  exact wtpRun_slotState run final reached slot

/-- In every reachable state every axis the touchpad has reported is a position
or a pressure, never a tracking id, which the input core hands out; every value
is a 14-bit number, and every pressure lies in the registered range. -/
theorem reported_axes_in_range {s : WtpSession} (reachable : WtpReachable s) {code : AbsCode}
    {value : Int} (reported : InputEvent.abs code value ∈ s.emitted) :
    code ≠ .mtTrackingId ∧ 0 ≤ value ∧ value < 16384 ∧
      (code = .mtPressure → value ≤ s.registration.pressureMax) := by
  obtain ⟨run, final, reached, -, sameEvents⟩ := reachable.refines_run
  rw [← sameEvents] at reported
  rcases wtpRunFrom_abs _ final run reached reported with none | ⟨delivery, -, finger, processed, inside⟩
  · cases none
  obtain ⟨index, rfl⟩ := mem_processed processed
  have coordinates := hidppTouchpadTouchEvent_coordinates_lt ((dualTouchReport delivery.report).touches index)
  have area : (hidppTouchpadTouchEvent ((dualTouchReport delivery.report).touches index)).area.toNat < 256 :=
    UInt8.toNat_lt_size _
  rw [reachable.invariant.registered]
  unfold touchEvents at inside
  split at inside <;> simp at inside
  rcases inside with ⟨rfl, rfl⟩ | ⟨rfl, rfl⟩ | ⟨rfl, rfl⟩ <;> simp [wtpInputMapping] <;> omega

theorem one_finger_session_pressure_in_range :
    WtpReachable oneFingerSession ∧ InputEvent.abs .mtPressure 5 ∈ oneFingerSession.emitted ∧
      (AbsCode.mtPressure ≠ .mtTrackingId ∧ (0 : Int) ≤ 5 ∧ (5 : Int) < 16384 ∧
        (AbsCode.mtPressure = .mtPressure → (5 : Int) ≤ oneFingerSession.registration.pressureMax)) :=
  have reported : InputEvent.abs .mtPressure 5 ∈ oneFingerSession.emitted := by decide
  ⟨oneFingerSession_reachable, reported, reported_axes_in_range oneFingerSession_reachable reported⟩

theorem one_finger_session_slots : WtpReachable oneFingerSession ∧
    ∀ slot, (MtView.initial.applyAll oneFingerSession.emitted).slotState slot =
      match slotCell slot with
      | some cell => (oneFingerSession.fd.slots cell).touchState
      | none => false :=
  ⟨oneFingerSession_reachable, consumer_slots_follow_touch_state oneFingerSession_reachable⟩

end HidLogitech.Wtp
