import HidLogitech.Tm.Buttons
import HidLogitech.Tm.Negotiation

/-!
# Touch mouse: the driver's entry points

The HID core and the HID++ core call into the driver: `tm_probe` once, then, in
any order, the deferred work `delayedwork_callback`, `tm_connect_change` when
the device comes into or goes out of range, and `tm_raw_event` for each report.
A session holds `tm_data` and what the input sink was told: the registration
`tm_input_mapping` made when `hid_hw_start` connected it, and the events
reported since.

The session also records, for the statements about negotiation, the return
value of every `tm_set_raw_report_state` attempt and how many attempts had been
made when the sink was started. No function of the driver reads them.

A mouse report's two 12-bit two's-complement fields decode to the motion they
pack, and the driver reports no other motion. The keys
`tm_input_mapping` registers cover every key a report asserts only for some
finger counts.
-/

namespace HidLogitech.Tm

/-! ## Reports -/

/-- `(value << shift) >> shift` with `shift = 32 - 12` on a 32-bit `int`: the
low 12 bits of `value` as a two's-complement number. -/
def signExtend12 (value : Nat) : Int :=
  ((BitVec.ofNat 32 value <<< 20).sshiftRight 20).toInt

/-- The relative motion of a mouse report: 12-bit `x` from the address byte and
the low nibble of `params[0]`, 12-bit `y` from `params[1]` and its high nibble. -/
def relEvents (report : HidppReport) : List InputEvent :=
  [.rel .relX (signExtend12
      (report.regAddress.toNat ||| ((report.params 0).toNat &&& 0xf) <<< 8)),
    .rel .relY (signExtend12 ((report.params 1).toNat <<< 4 ||| (report.params 0).toNat >>> 4))]

/-- The shifts keep the low 12 bits and read bit 11 as the sign. -/
theorem signExtend12_eq (value : Nat) :
    signExtend12 value =
      if value % 4096 < 2048 then ((value % 4096 : Nat) : Int) else (value % 4096 : Nat) - 4096 := by
  unfold signExtend12 BitVec.sshiftRight
  rw [BitVec.toInt_ofInt, BitVec.toInt_eq_toNat_bmod, BitVec.toNat_shiftLeft, BitVec.toNat_ofNat,
    Int.shiftRight_eq_div_pow, Nat.shiftLeft_eq]
  simp only [Int.bmod_def, Nat.reducePow]
  split_ifs <;> omega

theorem signExtend12_range (value : Nat) : -2048 ≤ signExtend12 value ∧ signExtend12 value < 2048 := by
  rw [signExtend12_eq]
  split <;> omega

/-- The motion fields as numbers: `x` is the address byte plus 256 times the low
nibble of `params[0]`, `y` is 16 times `params[1]` plus its high nibble. -/
theorem relEvents_eq (report : HidppReport) :
    relEvents report =
      [.rel .relX (signExtend12 (report.regAddress.toNat + (report.params 0).toNat % 16 * 256)),
        .rel .relY (signExtend12 ((report.params 1).toNat * 16 + (report.params 0).toNat / 16))] := by
  have byte (value : UInt8) : value.toNat < 2 ^ 8 := value.toNat_lt_size
  rw [relEvents, show (0xf : Nat) = 2 ^ 4 - 1 from rfl, Nat.and_pow_two_sub_one_eq_mod,
    or_shiftLeft_eq_add (byte _), Nat.or_comm, or_shiftLeft_eq_add (by
      rw [Nat.shiftRight_eq_div_pow]; have := byte (report.params 0); omega),
    Nat.shiftRight_eq_div_pow]
  simp only [Nat.reducePow, Nat.add_comm]

/-- A mouse report carrying a motion of `dx` and `dy`, each in `[-2048, 2048)`:
the 12-bit two's-complement fields packed the way `tm_raw_event` unpacks them. -/
def motionReport (dx dy : Int) : HidppReport :=
  .ofList [0x02, 0, 0, UInt8.ofNat ((dx % 4096).toNat % 256),
    UInt8.ofNat ((dx % 4096).toNat / 256 + (dy % 4096).toNat % 16 * 16),
    UInt8.ofNat ((dy % 4096).toNat / 16)]

/-- The packing and the decoding are inverse on motions in range. -/
theorem relEvents_motionReport {dx dy : Int} (xRange : -2048 ≤ dx ∧ dx < 2048)
    (yRange : -2048 ≤ dy ∧ dy < 2048) :
    relEvents (motionReport dx dy) = [.rel .relX dx, .rel .relY dy] := by
  have field (n : Nat) (small : n < 256) : (UInt8.ofNat n).toNat = n := UInt8.toNat_ofNat_of_lt small
  rw [relEvents_eq]
  show [InputEvent.rel .relX (signExtend12 ((UInt8.ofNat ((dx % 4096).toNat % 256)).toNat +
      (UInt8.ofNat ((dx % 4096).toNat / 256 + (dy % 4096).toNat % 16 * 16)).toNat % 16 * 256)),
    .rel .relY (signExtend12 ((UInt8.ofNat ((dy % 4096).toNat / 16)).toNat * 16 +
      (UInt8.ofNat ((dx % 4096).toNat / 256 + (dy % 4096).toNat % 16 * 16)).toNat / 16))] = _
  rw [field _ (by omega), field _ (by omega), field _ (by omega), signExtend12_eq, signExtend12_eq]
  simp only [List.cons.injEq, InputEvent.rel.injEq, true_and, and_true]
  constructor <;> split <;> omega

/-- `tm_raw_event`: nothing before the hardware is started; otherwise the motion
of a mouse report or the fingers of a raw touch-points report, then the buttons
and a frame sync. -/
def tmRawEvent (fd : TmData) (report : HidppReport) : TmData × List InputEvent :=
  if fd.hidHwStarted = false then (fd, []) else
  let decoded : TmData × List InputEvent :=
    if report.reportId = 0x02 then (fd, relEvents report)
    else if report.reportId = 0x11 ∧ report.subId = fd.mtFeatureIndex ∧
        report.regAddress >>> 4 = 0 then emitFingers fd report.params
    else (fd, [])
  let buttons := emitButtons decoded.1 report
  (buttons.1, decoded.2 ++ buttons.2 ++ [.sync])

theorem tmRawEvent_of_not_started (fd : TmData) (report : HidppReport)
    (stopped : fd.hidHwStarted = false) : tmRawEvent fd report = (fd, []) := by
  simp [tmRawEvent, stopped]

/-- `tm_raw_event` writes only the tracker's counter and mask and the depressors. -/
theorem tmRawEvent_frame (fd : TmData) (report : HidppReport) :
    (tmRawEvent fd report).1.tpInfo = fd.tpInfo ∧
      (tmRawEvent fd report).1.ignoreMouseReportButtons = fd.ignoreMouseReportButtons ∧
      (tmRawEvent fd report).1.hidHwStarted = fd.hidHwStarted ∧
      (tmRawEvent fd report).1.inRawMode = fd.inRawMode := by
  unfold tmRawEvent
  split_ifs <;> simp [emitButtons, emitFingers]

/-- Once started, every report moves each button's depressor by the arbiter step
of the source that observes it. -/
theorem tmRawEvent_buttonDepressor (fd : TmData) (report : HidppReport) (b : Fin 3) :
    (tmRawEvent fd report).1.buttonDepressor b =
      if fd.hidHwStarted then arbiterStep (fd.buttonDepressor b) (buttonObservation fd report b)
      else fd.buttonDepressor b := by
  unfold tmRawEvent
  cases fd.hidHwStarted
  · rfl
  · simp only [Bool.true_eq_false, if_false, if_true, emitButtons_buttonDepressor]
    split_ifs
    · rfl
    · rw [emitFingers_fst]
      rfl
    · rfl

theorem DepressorsObserved.rawEvent {fd : TmData} (observed : DepressorsObserved fd)
    (report : HidppReport) : DepressorsObserved (tmRawEvent fd report).1 := by
  unfold tmRawEvent
  split_ifs
  · exact observed
  all_goals apply DepressorsObserved.emitButtons
  · exact observed
  · rw [emitFingers_fst]
    exact observed
  · exact observed

/-- `tm_raw_event` hands out tracking ids only through `emit_fingers`: it keeps
the counter and reports no fresh id, or does to both what `emit_fingers` does. -/
theorem tmRawEvent_tracking (fd : TmData) (report : HidppReport) :
    ((tmRawEvent fd report).1.nextTrackingId = fd.nextTrackingId ∧
        freshIds (tmRawEvent fd report).2 = []) ∨
      ((tmRawEvent fd report).1.nextTrackingId = (emitFingers fd report.params).1.nextTrackingId ∧
        freshIds (tmRawEvent fd report).2 = freshIds (emitFingers fd report.params).2) := by
  have buttons (fd : TmData) : freshIds ((emitButtons fd report).2 ++ [.sync]) = [] := by
    simp [emitButtons, freshIds]
  unfold tmRawEvent
  split_ifs
  · exact .inl ⟨rfl, rfl⟩
  · exact .inl ⟨rfl, by simp only [List.append_assoc, freshIds_append, buttons]; rfl⟩
  · exact .inr ⟨rfl, by simp only [List.append_assoc, freshIds_append, buttons, List.append_nil]⟩
  · exact .inl ⟨rfl, by simp only [List.append_assoc, freshIds_append, buttons]; rfl⟩

/-- The keys `tm_raw_event` asserts: a button, or the tool key that the finger
loop's mask selects. -/
theorem key_mem_tmRawEvent {fd : TmData} {report : HidppReport} {code : KeyCode}
    (asserted : InputEvent.key code true ∈ (tmRawEvent fd report).2) :
    (code = .btnLeft ∨ code = .btnRight ∨ code = .btnMiddle) ∨
      InputEvent.key code true ∈
        toolKeyEvents (fingerLoop fd report.params fd.tpInfo.maxFingers.toNat).slotsUsed := by
  unfold tmRawEvent at asserted
  split_ifs at asserted
  · simp at asserted
  all_goals
    simp only [List.mem_append, List.mem_singleton, reduceCtorEq, or_false] at asserted
    refine asserted.elim (fun decoded => ?_) fun buttons => .inl (key_mem_emitButtons buttons)
  · simp [relEvents] at decoded
  · exact .inr ((key_mem_emitFingers fd report.params code).mp decoded)
  · simp at decoded

/-- The key of a button that `tm_raw_event` reports is the button's state after
the report. -/
theorem buttonKey_mem_tmRawEvent {fd : TmData} {report : HidppReport} {b : Fin 3} {pressed : Bool}
    (reported : InputEvent.key (buttonKey b) pressed ∈ (tmRawEvent fd report).2) :
    pressed = ((tmRawEvent fd report).1.buttonDepressor b != .none) := by
  have notTool (mask : UInt8) : InputEvent.key (buttonKey b) pressed ∉ toolKeyEvents mask := by
    fin_cases b <;> simp [toolKeyEvents, buttonKey]
  unfold tmRawEvent at reported ⊢
  split_ifs at reported ⊢
  · simp at reported
  all_goals
    simp only [List.mem_append, List.mem_singleton, reduceCtorEq, or_false] at reported
    refine reported.elim (fun decoded => ?_) fun buttons =>
      (buttonKey_mem_emitButtons _ _ _ _).mp buttons
  · simp [relEvents] at decoded
  · simp [emitFingers, key_not_mem_fingerLoop, notTool] at decoded
  · simp at decoded

/-- `tm_raw_event` keeps what decides which source observes which button: the
mouse-report flag and the two feature indices. -/
theorem buttonObservation_tmRawEvent (fd : TmData) (report : HidppReport) :
    buttonObservation (tmRawEvent fd report).1 = buttonObservation fd := by
  have same : (tmRawEvent fd report).1.ignoreMouseReportButtons = fd.ignoreMouseReportButtons ∧
      (tmRawEvent fd report).1.feature1b03 = fd.feature1b03 ∧
      (tmRawEvent fd report).1.mtFeatureIndex = fd.mtFeatureIndex := by
    unfold tmRawEvent
    split_ifs <;> simp [emitButtons, emitFingers]
  funext bytes b
  simp only [buttonObservation, same.1, same.2.1, same.2.2]

/-- Once started, a report leaves the consumer's state of each button key at
whether the button is held after it. -/
theorem foldl_keyStep_tmRawEvent (fd : TmData) (report : HidppReport) (started : fd.hidHwStarted = true)
    (b : Fin 3) (state : Bool) :
    (tmRawEvent fd report).2.foldl (keyStep (buttonKey b)) state =
      ((tmRawEvent fd report).1.buttonDepressor b != .none) := by
  have sync (state : Bool) : [InputEvent.sync].foldl (keyStep (buttonKey b)) state = state := rfl
  unfold tmRawEvent
  simp only [started, Bool.true_eq_false, if_false]
  split_ifs <;> rw [List.foldl_append, List.foldl_append, sync, foldl_keyStep_emitButtons]

/-- The consumer holds each tool key as the mask `mask` selects it. -/
def ToolKeysShow (mask : UInt8) (events : List InputEvent) : Prop :=
  ∀ code pressed, InputEvent.key code pressed ∈ toolKeyEvents mask → keyState code events = pressed

/-- A report keeps the consumer's tool keys on the driver's mask: only
`emit_fingers` reports them, with the mask it stores. -/
theorem ToolKeysShow.rawEvent {fd : TmData} {events : List InputEvent}
    (shows : ToolKeysShow fd.prevSlotsUsed events) (report : HidppReport) :
    ToolKeysShow (tmRawEvent fd report).1.prevSlotsUsed (events ++ (tmRawEvent fd report).2) := by
  intro code pressed tool
  have notButton (other : TmData) (state : Bool) :
      ((emitButtons other report).2 ++ [InputEvent.sync]).foldl (keyStep code) state = state := by
    refine foldl_keyStep_of_not_mem (fun reported member => ?_) state
    rcases List.mem_append.mp member with button | sync
    · rcases key_mem_emitButtons button with rfl | rfl | rfl <;> simp [toolKeyEvents] at tool
    · simp at sync
  rw [keyState_append]
  unfold tmRawEvent at tool ⊢
  split_ifs at tool ⊢
  · exact shows code pressed tool
  all_goals dsimp only at tool ⊢; rw [List.append_assoc, List.foldl_append, notButton]
  · rw [foldl_keyStep_of_not_mem (by simp [relEvents])]
    exact shows code pressed tool
  · exact foldl_keyStep_emitFingers fd report.params tool _
  · exact shows code pressed tool

/-- When the device's mouse report buttons are ignored, a mouse report leaves
`tm_data` as it is: it only reports motion. -/
theorem tmRawEvent_mouse_of_ignored (fd : TmData) (report : HidppReport)
    (ignored : fd.ignoreMouseReportButtons = true) (mouse : report.reportId = 0x02) :
    (tmRawEvent fd report).1 = fd := by
  have notLong : report.byte 0 ≠ 0x11 := by
    rw [← HidppReport.reportId, mouse]
    decide
  have quiet : mouseReportButtons fd report = fd.buttonDepressor :=
    if_neg fun sent => by simp [ignored] at sent
  unfold tmRawEvent
  split_ifs
  · rfl
  · simp [emitButtons, quiet, hidpp1b03Button, rawptsButton, notLong]

/-- Once started, every report is one frame: its events end with their only sync. -/
theorem tmRawEvent_frame_sync (fd : TmData) (report : HidppReport) (started : fd.hidHwStarted = true) :
    ∃ body, (tmRawEvent fd report).2 = body ++ [.sync] ∧ InputEvent.sync ∉ body := by
  have buttons (other : TmData) : InputEvent.sync ∉ (emitButtons other report).2 := by
    simp [emitButtons]
  have fingers : InputEvent.sync ∉ (emitFingers fd report.params).2 := by
    simp only [emitFingers, toolKeyEvents, List.mem_append, List.mem_cons, reduceCtorEq,
      List.not_mem_nil, or_false]
    intro member
    rcases mem_fingerLoop_events member with ⟨_, ⟨⟩⟩ | ⟨_, _, ⟨⟩⟩
  unfold tmRawEvent
  simp only [started, Bool.true_eq_false, if_false]
  split_ifs
  · exact ⟨_, rfl, by simp [relEvents, buttons]⟩
  · exact ⟨_, rfl, by simp [fingers, buttons]⟩
  · exact ⟨_, rfl, by simp [buttons]⟩

/-- Once started, a raw touch-points report for the raw-points feature passes
every event of `emit_fingers` on. -/
theorem emitFingers_subset_tmRawEvent (fd : TmData) (report : HidppReport)
    (started : fd.hidHwStarted = true) (raw : report.reportId = 0x11)
    (feature : report.subId = fd.mtFeatureIndex) (function : report.regAddress >>> 4 = 0) :
    (emitFingers fd report.params).2 ⊆ (tmRawEvent fd report).2 := by
  intro event member
  simp [tmRawEvent, started, raw, feature, function, member]

/-- `tm_raw_event` writes the consumer's tracking id only for the first
`max_fingers` slots. -/
theorem applyAll_tmRawEvent_trackingId (fd : TmData) (report : HidppReport) (view : MtView) (j : Nat)
    (beyond : fd.tpInfo.maxFingers.toNat ≤ j) :
    (view.applyAll (tmRawEvent fd report).2).trackingId j = view.trackingId j := by
  have sync (other : MtView) : other.applyAll [.sync] = other := rfl
  unfold tmRawEvent
  split_ifs
  · rfl
  · rfl
  · rw [MtView.applyAll_append, MtView.applyAll_append, applyAll_emitButtons, sync,
      applyAll_emitFingers, ((applyAll_fingerLoop _ _ _ view).2 j).1, if_neg (by omega)]
  · rfl

/-- On a started device, a raw touch-points report reaches the consumer's
multi-touch view through `emit_fingers` alone. -/
theorem applyAll_tmRawEvent_rawPoints (fd : TmData) (report : HidppReport) (view : MtView)
    (started : fd.hidHwStarted = true)
    (rawPoints : report.reportId = 0x11 ∧ report.subId = fd.mtFeatureIndex ∧
      report.regAddress >>> 4 = 0) :
    view.applyAll (tmRawEvent fd report).2 = view.applyAll (emitFingers fd report.params).2 := by
  have notMouse : report.reportId ≠ 0x02 := by rw [rawPoints.1]; decide
  have sync (other : MtView) : other.applyAll [.sync] = other := rfl
  unfold tmRawEvent
  rw [if_neg (by simp [started]), if_neg notMouse, if_pos rawPoints, MtView.applyAll_append,
    MtView.applyAll_append, applyAll_emitButtons, sync]

/-- What `tm_raw_event` does to the tracker and the consumer's multi-touch view:
nothing, or what `emit_fingers` does; motion, buttons and the sync touch neither. -/
theorem tmRawEvent_tracker (fd : TmData) (report : HidppReport) (view : MtView) :
    ((tmRawEvent fd report).1.nextTrackingId = fd.nextTrackingId ∧
        (tmRawEvent fd report).1.prevSlotsUsed = fd.prevSlotsUsed ∧
        view.applyAll (tmRawEvent fd report).2 = view) ∨
      ((tmRawEvent fd report).1.nextTrackingId = (emitFingers fd report.params).1.nextTrackingId ∧
        (tmRawEvent fd report).1.prevSlotsUsed = (emitFingers fd report.params).1.prevSlotsUsed ∧
        view.applyAll (tmRawEvent fd report).2 = view.applyAll (emitFingers fd report.params).2) := by
  have sync (other : MtView) : other.applyAll [.sync] = other := rfl
  unfold tmRawEvent
  split_ifs
  · exact .inl ⟨rfl, rfl, rfl⟩
  · exact .inl ⟨rfl, rfl, rfl⟩
  · exact .inr ⟨rfl, rfl, by rw [MtView.applyAll_append, MtView.applyAll_append, applyAll_emitButtons, sync]⟩
  · exact .inl ⟨rfl, rfl, rfl⟩

/-! ## Registration -/

/-- The `switch (max_fingers)` whose cases fall through: the tool keys up to
the finger count, with `BTN_TOUCH`, for counts 1 to 4; none otherwise. -/
def toolKeys (maxFingers : UInt8) : List KeyCode :=
  match maxFingers.toNat with
  | 4 => [.btnToolQuadtap, .btnToolTripletap, .btnToolDoubletap, .btnToolFinger, .btnTouch]
  | 3 => [.btnToolTripletap, .btnToolDoubletap, .btnToolFinger, .btnTouch]
  | 2 => [.btnToolDoubletap, .btnToolFinger, .btnTouch]
  | 1 => [.btnToolFinger, .btnTouch]
  | _ => []

/-- `tm_input_mapping` for a button usage, from `fd->tp_info`. -/
def tmInputMapping (info : TmTouchpadInfo) : InputRegistration where
  keys := toolKeys info.maxFingers ++ [.btnTouch, .btnLeft, .btnRight, .btnMiddle]
  mtSlots := max 2 info.maxFingers.toNat
  touchMajorMax := info.maxWidth.toNat
  touchMinorMax := info.maxWidth.toNat
  pressureMax := max 255 (info.maxWidth.toNat * info.maxWidth.toNat)
  positionXMax := info.xSize.toNat
  positionYMax := info.ySize.toNat
  absXMax := info.xSize.toNat
  absYMax := info.ySize.toNat

theorem toolKeys_eq_nil (maxFingers : UInt8) (many : 5 ≤ maxFingers.toNat) :
    toolKeys maxFingers = [] := by
  unfold toolKeys
  split <;> first | rfl | omega

/-- A mask below `2 ^ max_fingers` asserts only registered tool keys when the
finger count is 0, 1 or 4. -/
theorem toolKeyEvents_registered (mask maxFingers : UInt8) (bound : mask.toNat < 2 ^ maxFingers.toNat)
    (fingers : maxFingers.toNat = 0 ∨ maxFingers.toNat = 1 ∨ maxFingers.toNat = 4) (code : KeyCode)
    (asserted : InputEvent.key code true ∈ toolKeyEvents mask) : code ∈ toolKeys maxFingers := by
  rw [key_mem_toolKeyEvents] at asserted
  rcases fingers with fingers | fingers | fingers <;> simp only [toolKeys, fingers] <;>
    rw [fingers] at bound <;>
    rcases asserted with ⟨rfl, rfl⟩ | ⟨rfl, rfl⟩ | ⟨rfl, rfl⟩ | ⟨rfl, rfl⟩ <;> revert bound <;> decide

/-- A raw touch-points report for feature index 0, function 0, whose parameters
are `params`. -/
def rawPointsReport (params : Nat → UInt8) : HidppReport :=
  ⟨fun index => if index < 4 then (HidppReport.ofList [0x11, 0, 0, 0]).byte index
    else params (index - 4)⟩

theorem rawPointsReport_params (params : Nat → UInt8) : (rawPointsReport params).params = params := by
  funext index
  simp [HidppReport.params, rawPointsReport]

theorem rawPointsReport_regAddress (params : Nat → UInt8) : (rawPointsReport params).regAddress = 0 :=
  rfl

/-- The probe's data, started, decoding with the geometry `info`. -/
def startedProbeData (info : TmTouchpadInfo) : TmData :=
  { tmProbeData false with tpInfo := info, hidHwStarted := true }

/-- The registration covers every key `tm_raw_event` asserts, for every state and
report decoded with its geometry, exactly when `max_fingers` is 0, 1 or 4. With 2
or 3 a pattern of occupied slots equals the number of a tool key past the
registered ones; from 5 on the switch registers no tool key at all. -/
theorem registration_covers_asserted_keys_iff (info : TmTouchpadInfo) :
    (∀ (fd : TmData) (report : HidppReport) (code : KeyCode), fd.tpInfo = info →
      InputEvent.key code true ∈ (tmRawEvent fd report).2 → code ∈ (tmInputMapping info).keys) ↔
      info.maxFingers.toNat = 0 ∨ info.maxFingers.toNat = 1 ∨ info.maxFingers.toNat = 4 := by
  constructor
  · intro covers
    have asserts (bytes : Nat → UInt8) (mask : UInt8)
        (loop : (fingerLoop (startedProbeData info) bytes info.maxFingers.toNat).slotsUsed = mask)
        (code : KeyCode) (selects : InputEvent.key code true ∈ toolKeyEvents mask) :
        code ∈ (tmInputMapping info).keys :=
      covers (startedProbeData info) (rawPointsReport bytes) code rfl <|
        emitFingers_subset_tmRawEvent (startedProbeData info) (rawPointsReport bytes) rfl rfl rfl
          (by rw [rawPointsReport_regAddress]; decide) <| by
          rw [rawPointsReport_params, key_mem_emitFingers]
          exact loop ▸ selects
    by_contra covered
    rcases (by omega : info.maxFingers.toNat = 2 ∨ info.maxFingers.toNat = 3 ∨
      5 ≤ info.maxFingers.toNat) with two | three | many
    · have both : (fingerLoop (startedProbeData info) (fun _ => 0) info.maxFingers.toNat).slotsUsed = 3 :=
        (fingerLoop_slotsUsed_eq_iff _ _ _ _).mpr (by rw [two]; decide)
      simpa [tmInputMapping, toolKeys, two] using asserts _ _ both .btnToolTripletap (by decide)
    · have third := fingerLoop_onlyRecord_slotsUsed (startedProbeData info) 2 info.maxFingers.toNat
        (by omega) (by decide)
      simpa [tmInputMapping, toolKeys, three] using asserts _ _ third .btnToolQuadtap (by decide)
    · have first := fingerLoop_onlyRecord_slotsUsed (startedProbeData info) 0 info.maxFingers.toNat
        (by omega) (by decide)
      simpa [tmInputMapping, toolKeys_eq_nil _ many] using
        asserts _ _ first .btnToolFinger (by decide)
  · rintro fingers fd report code rfl asserted
    rcases key_mem_tmRawEvent asserted with button | tool
    · rcases button with rfl | rfl | rfl <;> simp [tmInputMapping]
    · exact List.mem_append_left _ (toolKeyEvents_registered _ _
        (fingerLoop_slotsUsed_lt fd report.params _) fingers code tool)

/-- A started report of the raw-points feature selects every slot below
`max_fingers` once, in increasing order; every other report selects none. -/
theorem slots_selected_by_report (fd : TmData) (report : HidppReport) :
    selectedSlots (tmRawEvent fd report).2 =
      if fd.hidHwStarted = true ∧ report.reportId = 0x11 ∧ report.subId = fd.mtFeatureIndex ∧
          report.regAddress >>> 4 = 0 then (List.range fd.tpInfo.maxFingers.toNat).map Int.ofNat
      else [] := by
  have buttons (other : TmData) : selectedSlots ((emitButtons other report).2 ++ [.sync]) = [] := by
    simp [emitButtons, selectedSlots]
  have loop (other : TmData) : selectedSlots (emitFingers other report.params).2 =
      (List.range other.tpInfo.maxFingers.toNat).map Int.ofNat := by
    have keys (mask : UInt8) : selectedSlots (toolKeyEvents mask) = [] := rfl
    simp only [emitFingers, selectedSlots_append, selectedSlots_fingerLoop, keys, List.append_nil]
  have motion : selectedSlots (relEvents report) = [] := rfl
  unfold tmRawEvent
  cases started : fd.hidHwStarted
  · rfl
  · by_cases mouse : report.reportId = 0x02
    · have notLong : report.reportId ≠ 0x11 := by rw [mouse]; decide
      simp [mouse, notLong, List.append_assoc, motion, buttons]
    · by_cases guard : report.reportId = 0x11 ∧ report.subId = fd.mtFeatureIndex ∧
          report.regAddress >>> 4 = 0
      · simp [mouse, guard, List.append_assoc, buttons, loop]
      · simp [mouse, guard, buttons]

/-! ## Motion -/

/-- Every relative motion `tm_raw_event` reports comes from a mouse report of a
started device and lies in `[-2048, 2048)`. -/
theorem reported_motion_in_range {fd : TmData} {report : HidppReport} {code : RelCode} {value : Int}
    (reported : InputEvent.rel code value ∈ (tmRawEvent fd report).2) :
    fd.hidHwStarted = true ∧ report.reportId = 0x02 ∧ -2048 ≤ value ∧ value < 2048 := by
  unfold tmRawEvent at reported
  split_ifs at reported with stopped mouse <;>
    simp only [List.mem_append, List.mem_singleton, reduceCtorEq, or_false, List.not_mem_nil,
      rel_not_mem_emitButtons] at reported
  · refine ⟨by simpa using stopped, mouse, ?_⟩
    simp only [relEvents, List.mem_cons, InputEvent.rel.injEq, List.not_mem_nil, or_false] at reported
    rcases reported with ⟨-, same⟩ | ⟨-, same⟩ <;> rw [same] <;> exact signExtend12_range _
  · exact absurd reported (rel_not_mem_emitFingers _ _ _ _)

theorem packed_motion_in_range :
    InputEvent.rel .relY 2047 ∈
        (tmRawEvent (startedProbeData (tmProbeData false).tpInfo) (motionReport (-2048) 2047)).2 ∧
      (startedProbeData (tmProbeData false).tpInfo).hidHwStarted = true ∧
      (motionReport (-2048) 2047).reportId = 0x02 ∧ (-2048 : Int) ≤ 2047 ∧ (2047 : Int) < 2048 :=
  have reported : InputEvent.rel .relY 2047 ∈
      (tmRawEvent (startedProbeData (tmProbeData false).tpInfo) (motionReport (-2048) 2047)).2 := by
    have started : (startedProbeData (tmProbeData false).tpInfo).hidHwStarted = true := rfl
    have mouse : (motionReport (-2048) 2047).reportId = 0x02 := rfl
    simp [tmRawEvent, started, mouse, relEvents_motionReport (by decide : (-2048 : Int) ≤ -2048 ∧ (-2048 : Int) < 2048)
      (by decide : (-2048 : Int) ≤ 2047 ∧ (2047 : Int) < 2048)]
  ⟨reported, reported_motion_in_range reported⟩

/-! ## The session -/

/-- The driver's state and the sink's, with the record of negotiation attempts.
`registered` is the geometry `tm_input_mapping` read when the sink was started. -/
structure TmSession where
  fd : TmData
  registered : Option TmTouchpadInfo
  emitted : List InputEvent
  attempts : List Int
  attemptsAtStart : Option Nat

/-- What the sink was registered with. -/
def TmSession.registration (s : TmSession) : Option InputRegistration :=
  s.registered.map tmInputMapping

/-- A `tm_set_raw_report_state` attempt, recorded. -/
def TmSession.setRawReportState (s : TmSession) (transport : HidppTransport) : TmSession × Int :=
  ({ s with
      fd := (tmSetRawReportState transport s.fd).1
      attempts := s.attempts ++ [(tmSetRawReportState transport s.fd).2] },
    (tmSetRawReportState transport s.fd).2)

/-- A successful `hid_hw_start`: the input device is registered through
`tm_input_mapping` with the current geometry, and `hid_hw_started` is set. -/
def TmSession.hidHwStart (s : TmSession) : TmSession :=
  { s with
    fd := { s.fd with hidHwStarted := true }
    registered := some s.fd.tpInfo
    attemptsAtStart := some s.attempts.length }

/-- `delayedwork_callback`, `hwStart` being what `hid_hw_start` would return:
nothing in raw mode; otherwise an attempt, the sink started after a successful
one if it was not, and raw mode set when both succeeded. -/
def delayedworkCallback (transport : HidppTransport) (hwStart : Int) (s : TmSession) :
    TmSession :=
  if s.fd.inRawMode then s else
  let (s, ret) := s.setRawReportState transport
  let (s, ret) :=
    if ret ≠ 0 ∨ s.fd.hidHwStarted then (s, ret)
    else if hwStart ≠ 0 then (s, hwStart)
    else (s.hidHwStart, 0)
  { s with
    fd := { s.fd with
      inRawMode := if ret = 0 then true else s.fd.inRawMode
      rawSwitchRequested := false } }

/-- `tm_connect_change`: a new attempt when the device comes back while the
hardware is started; its result is not looked at. -/
def tmConnectChange (transport : HidppTransport) (connected : Bool) (s : TmSession) :
    TmSession :=
  if connected ∧ s.fd.hidHwStarted then (s.setRawReportState transport).1 else s

/-- A report through `tm_raw_event`, its events passed to the sink. -/
def TmSession.rawEvent (s : TmSession) (report : HidppReport) : TmSession :=
  { s with
    fd := (tmRawEvent s.fd report).1
    emitted := s.emitted ++ (tmRawEvent s.fd report).2 }

/-- `tm_probe` with raw mode in use, from the return values of `hid_parse`,
`hidpp_init` and `hid_hw_start`: a failure of any of them unbinds the driver.
The attempt's result is logged and ignored: raw mode is set either way. -/
def tmProbe (ignoreMouseReportButtons : Bool) (parse init : Int) (transport : HidppTransport)
    (hwStart : Int) : Option TmSession :=
  if parse ≠ 0 ∨ init ≠ 0 then none else
  let (s, _) := TmSession.setRawReportState
    ⟨tmProbeData ignoreMouseReportButtons, none, [], [], none⟩ transport
  let s := { s with fd := { s.fd with inRawMode := true } }
  if hwStart ≠ 0 then none else some s.hidHwStart

/-- What the cores can call after the probe. -/
inductive TmEvent where
  | work (transport : HidppTransport) (hwStart : Int)
  | connectChange (transport : HidppTransport) (connected : Bool)
  | rawEvent (report : HidppReport)

/-- The event is a report through `tm_raw_event`. -/
def TmEvent.isReport : TmEvent → Bool
  | .rawEvent _ => true
  | _ => false

/-- The event is a mouse report, report id `0x02`, through `tm_raw_event`. -/
def TmEvent.isMouseReport : TmEvent → Bool
  | .rawEvent report => report.reportId == 0x02
  | _ => false

def tmStep (s : TmSession) : TmEvent → TmSession
  | .work transport hwStart => delayedworkCallback transport hwStart s
  | .connectChange transport connected => tmConnectChange transport connected s
  | .rawEvent report => s.rawEvent report

/-- The events in order. -/
def tmRun (s : TmSession) (events : List TmEvent) : TmSession := events.foldl tmStep s

/-- The states the driver reaches: a successful probe, then any events. -/
inductive Reachable : TmSession → Prop
  | probe {ignoreMouseReportButtons : Bool} {parse init hwStart : Int}
      {transport : HidppTransport} {s : TmSession}
      (probed : tmProbe ignoreMouseReportButtons parse init transport hwStart = some s) :
      Reachable s
  | step {s : TmSession} (event : TmEvent) : Reachable s → Reachable (tmStep s event)

end HidLogitech.Tm
