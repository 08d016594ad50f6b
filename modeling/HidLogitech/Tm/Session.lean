import HidLogitech.Tm.Driver
import HidLogitech.Tm.Tracking

/-!
# Touch mouse: what every run of the driver keeps

After a successful probe the hardware is started and raw mode is set, whatever
the probe's handshake returned, and no event clears either flag: the deferred
work finds raw mode set and returns, so only reports and reconnections act, and
a reconnect runs a new handshake without looking at its result. The sink is registered once, from the geometry
at the probe; a reconnect whose handshake reaches the get-parameters command
rewrites the geometry later reports are decoded with.

Only `emit_fingers` moves the tracking-id counter, so every run hands out ids in
the allocation order of the tracker. The registration's tool keys follow the
finger count, the asserted ones the slot mask: a two-finger device asserts the
three-finger key it never registered.

What the consumer receives follows the driver: one frame per report, each closed
by its sync; each button key pressed exactly while its depressor holds it; the
tool key that `prev_slots_used`, read as a number, selects; and, while
reconnects keep the geometry, a live tracking id exactly for the slots of
`prev_slots_used`. A slot at or above `max_fingers`, which a reconnect lowering
the finger count can leave live, is never released. Whatever the reconnects, a
raw touch-points report leaves live exactly the slots below `max_fingers` whose
records are contacts, every position reaches a live slot, and two live slots
hold different ids unless the counter has wrapped between their assignments. On
a device whose mouse report buttons are ignored, mouse reports change no driver
state at all.
-/

namespace HidLogitech.Tm

/-- What holds after the probe and after every event. -/
structure SessionInvariant (s : TmSession) : Prop where
  started : s.fd.hidHwStarted = true
  rawMode : s.fd.inRawMode = true
  registered : s.registered.isSome = true
  startedAfterProbe : s.attemptsAtStart = some 1
  depressors : DepressorsObserved s.fd

theorem sessionInvariant_probe {ignoreMouseReportButtons : Bool} {parse init hwStart : Int}
    {transport : HidppTransport} {s : TmSession}
    (probed : tmProbe ignoreMouseReportButtons parse init transport hwStart = some s) :
    SessionInvariant s := by
  simp only [tmProbe, TmSession.setRawReportState] at probed
  split_ifs at probed
  cases probed
  exact ⟨rfl, rfl, rfl, rfl,
    depressorsObserved_free _ fun _ => by simp [TmSession.hidHwStart, tmProbeData, handshakeWrites]⟩

/-- What the probe leaves for the tracker and the consumer: nothing reported
yet, the first id next and an empty mask. -/
theorem tmProbe_tracker {ignoreMouseReportButtons : Bool} {parse init hwStart : Int}
    {transport : HidppTransport} {s : TmSession}
    (probed : tmProbe ignoreMouseReportButtons parse init transport hwStart = some s) :
    s.emitted = [] ∧ s.fd.nextTrackingId = 1 ∧ s.fd.prevSlotsUsed = 0 := by
  simp only [tmProbe, TmSession.setRawReportState] at probed
  split_ifs at probed
  cases probed
  simp [TmSession.hidHwStart, handshakeWrites, tmProbeData]

namespace SessionInvariant

variable {s : TmSession}

/-- The deferred work finds raw mode set and does nothing. -/
theorem work (invariant : SessionInvariant s) (transport : HidppTransport) (hwStart : Int) :
    delayedworkCallback transport hwStart s = s :=
  if_pos invariant.rawMode

theorem step (invariant : SessionInvariant s) (event : TmEvent) :
    SessionInvariant (tmStep s event) := by
  cases event with
  | work transport hwStart => rw [tmStep, invariant.work]; exact invariant
  | connectChange transport connected =>
    rw [tmStep, tmConnectChange]
    split_ifs
    · have writes : (s.setRawReportState transport).1.fd = handshakeWrites transport s.fd :=
        tmSetRawReportState_fst transport s.fd
      exact ⟨writes ▸ invariant.started, writes ▸ invariant.rawMode, invariant.registered,
        invariant.startedAfterProbe, writes ▸ invariant.depressors⟩
    · exact invariant
  | rawEvent report =>
    obtain ⟨-, -, started, rawMode⟩ := tmRawEvent_frame s.fd report
    exact ⟨started.trans invariant.started, rawMode.trans invariant.rawMode, invariant.registered,
      invariant.startedAfterProbe, invariant.depressors.rawEvent report⟩

/-- An event keeps the registration, and keeps the geometry unless it is a
reconnect whose handshake reached the get-parameters command; the geometry is
then that command's answer. -/
theorem step_geometry (invariant : SessionInvariant s) (event : TmEvent) :
    (tmStep s event).registered = s.registered ∧
      ((tmStep s event).fd.tpInfo = s.fd.tpInfo ∨
        ∃ transport, event = .connectChange transport true ∧ 4 ≤ handshakeCompleted transport ∧
          (tmStep s event).fd.tpInfo =
            TmTouchpadInfo.ofResponse
              (getParams transport ((getRawPointsIndex transport).2.params 0)).2) := by
  cases event with
  | work transport hwStart => rw [tmStep, invariant.work]; exact ⟨rfl, .inl rfl⟩
  | connectChange transport connected =>
    rw [tmStep, tmConnectChange]
    split_ifs with reconnect
    · refine ⟨rfl, ?_⟩
      by_cases reached : 4 ≤ handshakeCompleted transport
      · exact .inr ⟨transport, by rw [reconnect.1], reached, by
          simp [TmSession.setRawReportState, handshakeWrites, reached]⟩
      · exact .inl (by simp [TmSession.setRawReportState, handshakeWrites, reached])
    · exact ⟨rfl, .inl rfl⟩
  | rawEvent report => exact ⟨rfl, .inl (tmRawEvent_frame s.fd report).1⟩

end SessionInvariant

theorem Reachable.invariant {s : TmSession} (reachable : Reachable s) : SessionInvariant s := by
  induction reachable with
  | probe probed => exact sessionInvariant_probe probed
  | step event _ inductionHypothesis => exact inductionHypothesis.step event

/-- A reconnect handshake over `transport` stores `info` whenever it stores a
geometry. -/
def KeepsGeometry (info : TmTouchpadInfo) (transport : HidppTransport) : Prop :=
  4 ≤ handshakeCompleted transport →
    TmTouchpadInfo.ofResponse (getParams transport ((getRawPointsIndex transport).2.params 0)).2 =
      info

/-- A run whose reconnects all answer with the current geometry keeps the
registration and the geometry. -/
theorem Reachable.run_geometry {s : TmSession} (reachable : Reachable s) (events : List TmEvent)
    {info : TmTouchpadInfo} (registered : s.registered = some info) (current : s.fd.tpInfo = info)
    (keeps : ∀ transport connected, TmEvent.connectChange transport connected ∈ events →
      KeepsGeometry info transport) :
    (tmRun s events).registered = some info ∧ (tmRun s events).fd.tpInfo = info := by
  induction events generalizing s with
  | nil => exact ⟨registered, current⟩
  | cons event rest inductionHypothesis =>
    obtain ⟨sameRegistration, geometry⟩ := reachable.invariant.step_geometry event
    refine inductionHypothesis (.step event reachable) (sameRegistration.trans registered) ?_
      fun transport connected member => keeps transport connected (.tail _ member)
    rcases geometry with same | ⟨transport, rfl, reached, answered⟩
    · exact same.trans current
    · exact answered.trans (keeps transport true (.head _) reached)

/-- Only a report through `emit_fingers` hands out ids or moves the counter, so
every event keeps the allocation order. -/
theorem IdsHandedOut.step {s : TmSession}
    (handedOut : IdsHandedOut s.fd.nextTrackingId (freshIds s.emitted)) (event : TmEvent) :
    IdsHandedOut (tmStep s event).fd.nextTrackingId (freshIds (tmStep s event).emitted) := by
  have kept (next : TmSession) (counter : next.fd.nextTrackingId = s.fd.nextTrackingId)
      (emitted : next.emitted = s.emitted) : IdsHandedOut next.fd.nextTrackingId (freshIds next.emitted) :=
    counter ▸ emitted ▸ handedOut
  cases event
  case rawEvent report =>
    simp only [tmStep, TmSession.rawEvent, freshIds_append]
    rcases tmRawEvent_tracking s.fd report with ⟨counter, none⟩ | ⟨counter, emitted⟩
    · rw [counter, none, List.append_nil]
      exact handedOut
    · rw [counter, emitted]
      exact handedOut.emit report.params
  all_goals
    apply kept <;> simp only [tmStep, delayedworkCallback, tmConnectChange] <;> split_ifs <;>
      simp [TmSession.setRawReportState, TmSession.hidHwStart, handshakeWrites]

/-- From `tm_probe`'s first id, every run hands out ids in allocation order. -/
theorem Reachable.idsHandedOut {s : TmSession} (reachable : Reachable s) :
    IdsHandedOut s.fd.nextTrackingId (freshIds s.emitted) := by
  induction reachable with
  | probe probed =>
    simp only [tmProbe, TmSession.setRawReportState] at probed
    split_ifs at probed
    cases probed
    exact ⟨rfl, by simp [TmSession.hidHwStart, handshakeWrites, tmProbeData, idAt, freshIds]⟩
  | step event _ inductionHypothesis => exact inductionHypothesis.step event

/-! ## Devices and runs -/

/-- A device in range whose get-parameters answer reports five fingers. -/
def fiveFingerTransport : HidppTransport :=
  ⟨fun _ => (0, HidppReport.ofList [0x11, 0, 0, 0, 0, 0, 0, 0, 0, 0, 0, 5])⟩

/-- A device in range whose get-parameters answer reports two fingers. -/
def twoFingerTransport : HidppTransport :=
  ⟨fun _ => (0, HidppReport.ofList [0x11, 0, 0, 0, 0, 0, 0, 0, 0, 0, 0, 2])⟩

/-- The probe of that device. -/
def twoFingerSession : TmSession := (tmProbe false 0 0 twoFingerTransport 0).get rfl

/-- The probe of a device in range whose mouse report buttons are not ignored. -/
def inRangeSession : TmSession := (tmProbe false 0 0 respondingTransport 0).get rfl

theorem inRangeSession_reachable : Reachable inRangeSession := .probe (Option.some_get _).symm

/-- A mouse report with the left button down. -/
def leftDownReport : HidppReport := .ofList [0x02, 0x01]

/-! ## Buttons -/

/-- During the probe's handshake the hardware is not started: a mouse report
seeing the left button down leaves it free. -/
theorem report_before_start_changes_no_depressor :
    buttonObservation (tmProbeData false) leftDownReport 0 = some (.mouse, true) ∧
      (tmProbeData false).buttonDepressor 0 = .none ∧
      (tmRawEvent (tmProbeData false) leftDownReport).1.buttonDepressor 0 = .none := by
  decide

/-- Every report `tm_raw_event` processes once the hardware is started moves each
button by the arbiter law; reports before that change nothing; and in every
reachable state each button is free or held by a source observing it, never by
the mouse report when its buttons are ignored. -/
theorem depressor_follows_observing_source :
    (∀ fd report b, fd.hidHwStarted = true →
      ArbiterLaw (fd.buttonDepressor b) ((tmRawEvent fd report).1.buttonDepressor b)
        (buttonObservation fd report b)) ∧
      (∀ fd report, fd.hidHwStarted = false → tmRawEvent fd report = (fd, [])) ∧
      (∀ s, Reachable s → DepressorsObserved s.fd) := by
  refine ⟨fun fd report b started => ?_, tmRawEvent_of_not_started,
    fun s reachable => reachable.invariant.depressors⟩
  rw [tmRawEvent_buttonDepressor, if_pos started]
  exact arbiterStep_law _ _ fun _ _ observed => (buttonObservation_source fd report b observed).1

theorem in_range_press_and_early_report :
    ArbiterLaw (inRangeSession.fd.buttonDepressor 0)
        ((tmRawEvent inRangeSession.fd leftDownReport).1.buttonDepressor 0)
        (buttonObservation inRangeSession.fd leftDownReport 0) ∧
      tmRawEvent (tmProbeData false) leftDownReport = (tmProbeData false, []) ∧
      DepressorsObserved inRangeSession.fd :=
  ⟨depressor_follows_observing_source.1 _ _ _ rfl, depressor_follows_observing_source.2.1 _ _ rfl,
    depressor_follows_observing_source.2.2 _ inRangeSession_reachable⟩

/-! ## Raw mode and the started sink -/

/-- The probe of a device out of range: every HID++ command times out. -/
def failedProbeSession : TmSession := (tmProbe false 0 0 timedOutTransport 0).get rfl

/-- `tm_probe` sets raw mode and starts the sink whatever its handshake returned:
with every command timing out, the only attempt returns 110 and the probe still
succeeds with `in_raw_mode = 1` and `hid_hw_started = 1`, where
`delayedwork_callback` sets raw mode only after a successful attempt. A reconnect
that fails likewise leaves raw mode set. -/
theorem failed_probe_starts_sink_in_raw_mode :
    Reachable failedProbeSession ∧ failedProbeSession.attempts = [110] ∧
      failedProbeSession.fd.inRawMode = true ∧ failedProbeSession.fd.hidHwStarted = true ∧
      Reachable (tmStep inRangeSession (.connectChange timedOutTransport true)) ∧
      (tmStep inRangeSession (.connectChange timedOutTransport true)).attempts = [0, 110] ∧
      (tmStep inRangeSession (.connectChange timedOutTransport true)).fd.inRawMode = true :=
  ⟨.probe (Option.some_get _).symm, by decide, rfl, rfl, .step _ inRangeSession_reachable, by decide, rfl⟩

/-! ## The geometry -/

/-- The sink registered two slots from the probe's geometry; a reconnect to a
five-finger device rewrites the geometry reports are decoded with. -/
theorem reconnect_rewrites_started_geometry :
    Reachable (tmStep inRangeSession (.connectChange fiveFingerTransport true)) ∧
      inRangeSession.fd.hidHwStarted = true ∧
      inRangeSession.registration = some (tmInputMapping .zero) ∧
      (tmInputMapping .zero).mtSlots = 2 ∧
      (tmStep inRangeSession (.connectChange fiveFingerTransport true)).fd.tpInfo.maxFingers = 5 :=
  ⟨.step _ inRangeSession_reachable, rfl, by decide, rfl, by decide⟩

/-- Once the hardware is started the registration never changes, and the
geometry changes only through a reconnect whose handshake reached the
get-parameters command, to that command's answer. While reconnects answer with
the registered geometry, the geometry stays the registered one, and every slot
`emit_fingers` selects is below the registered slot count. -/
theorem geometry_changes_only_on_reconnect :
    (∀ s event, Reachable s →
      s.fd.hidHwStarted = true ∧ (tmStep s event).registered = s.registered ∧
        ((tmStep s event).fd.tpInfo = s.fd.tpInfo ∨
          ∃ transport, event = .connectChange transport true ∧
            4 ≤ handshakeCompleted transport ∧
            (tmStep s event).fd.tpInfo =
              TmTouchpadInfo.ofResponse
                (getParams transport ((getRawPointsIndex transport).2.params 0)).2)) ∧
      (∀ s events info, Reachable s → s.registered = some info → s.fd.tpInfo = info →
        (∀ transport connected, TmEvent.connectChange transport connected ∈ events →
          KeepsGeometry info transport) →
        (tmRun s events).registered = some info ∧ (tmRun s events).fd.tpInfo = info ∧
          ∀ i < (tmRun s events).fd.tpInfo.maxFingers.toNat, i < (tmInputMapping info).mtSlots) := by
  refine ⟨fun s event reachable =>
    ⟨reachable.invariant.started, reachable.invariant.step_geometry event⟩, ?_⟩
  intro s events info reachable registered current keeps
  obtain ⟨sameRegistration, kept⟩ := reachable.run_geometry events registered current keeps
  refine ⟨sameRegistration, kept, fun i selected => ?_⟩
  rw [kept] at selected
  simp only [tmInputMapping]
  omega

/-- On a two-finger device: a reconnect to a five-finger device takes the
get-parameters answer, and a run of a reconnect with the same geometry and a
report keeps the registration and the geometry, its slots below the two
registered ones. -/
theorem two_finger_geometry_kept :
    (twoFingerSession.fd.hidHwStarted = true ∧
      (tmStep twoFingerSession (.connectChange fiveFingerTransport true)).registered =
        twoFingerSession.registered ∧
      ((tmStep twoFingerSession (.connectChange fiveFingerTransport true)).fd.tpInfo =
          twoFingerSession.fd.tpInfo ∨
        ∃ transport, TmEvent.connectChange fiveFingerTransport true = .connectChange transport true ∧
          4 ≤ handshakeCompleted transport ∧
          (tmStep twoFingerSession (.connectChange fiveFingerTransport true)).fd.tpInfo =
            TmTouchpadInfo.ofResponse
              (getParams transport ((getRawPointsIndex transport).2.params 0)).2)) ∧
      (tmRun twoFingerSession [.connectChange twoFingerTransport true,
        .rawEvent (rawPointsReport fun _ => 0)]).registered = some twoFingerSession.fd.tpInfo ∧
      (tmRun twoFingerSession [.connectChange twoFingerTransport true,
        .rawEvent (rawPointsReport fun _ => 0)]).fd.tpInfo = twoFingerSession.fd.tpInfo ∧
      ∀ i < (tmRun twoFingerSession [.connectChange twoFingerTransport true,
          .rawEvent (rawPointsReport fun _ => 0)]).fd.tpInfo.maxFingers.toNat,
        i < (tmInputMapping twoFingerSession.fd.tpInfo).mtSlots :=
  have reachable : Reachable twoFingerSession := .probe (Option.some_get _).symm
  ⟨geometry_changes_only_on_reconnect.1 _ _ reachable,
    geometry_changes_only_on_reconnect.2 _ _ _ reachable rfl rfl
      fun transport connected member => by
        obtain ⟨⟩ | ⟨_, ⟨⟩ | ⟨_, ⟨⟩⟩⟩ := member
        exact fun _ => by decide⟩

/-! ## Buttons over a run of reports -/

/-- Across any interleaving of reports, a held button stays with its holder, and
every report says it is pressed, until a report of the holder itself sees it up:
what the other report kinds see of it is ignored. -/
theorem held_button_ignores_other_reports (s : TmSession) (reports : List HidppReport) (b : Fin 3)
    (held : s.fd.buttonDepressor b ≠ .none)
    (holderKeepsIt : ∀ report ∈ reports,
      buttonObservation s.fd report b ≠ some (s.fd.buttonDepressor b, false)) :
    (tmRun s (reports.map .rawEvent)).fd.buttonDepressor b = s.fd.buttonDepressor b ∧
      ∃ later, (tmRun s (reports.map .rawEvent)).emitted = s.emitted ++ later ∧
        ∀ pressed, InputEvent.key (buttonKey b) pressed ∈ later → pressed = true := by
  induction reports generalizing s with
  | nil => exact ⟨rfl, [], by simp [tmRun], nofun⟩
  | cons report rest inductionHypothesis =>
    have stays : (s.rawEvent report).fd.buttonDepressor b = s.fd.buttonDepressor b := by
      rw [TmSession.rawEvent, tmRawEvent_buttonDepressor]
      split
      · exact arbiterStep_held _ _ held (holderKeepsIt report (List.mem_cons_self _ _))
      · rfl
    obtain ⟨kept, later, emitted, pressed⟩ := inductionHypothesis (s.rawEvent report)
      (stays ▸ held) fun other member => by
        rw [stays, TmSession.rawEvent, buttonObservation_tmRawEvent]
        exact holderKeepsIt other (List.mem_cons_of_mem _ member)
    refine ⟨kept.trans stays, (tmRawEvent s.fd report).2 ++ later, ?_, fun down member => ?_⟩
    · rw [List.map_cons, tmRun, List.foldl_cons, ← tmRun, tmStep, emitted, TmSession.rawEvent,
        List.append_assoc]
    · rcases List.mem_append.mp member with now | afterwards
      · rw [buttonKey_mem_tmRawEvent now]
        exact bne_iff_ne.mpr (stays ▸ held)
      · exact pressed down afterwards

/-- A raw touch-points report for feature index 0, function 1, whose button byte
has the left button up. -/
def rawptsLeftUpReport : HidppReport := .ofList [0x11, 0, 0, 0x10, 0x00]

/-- The left button pressed through the mouse report of a device in range. -/
def leftHeldSession : TmSession := inRangeSession.rawEvent leftDownReport

theorem left_press_survives_raw_points_release :
    leftHeldSession.fd.buttonDepressor 0 ≠ .none ∧
      (∀ report ∈ [rawptsLeftUpReport, rawptsLeftUpReport],
        buttonObservation leftHeldSession.fd report 0 ≠
          some (leftHeldSession.fd.buttonDepressor 0, false)) ∧
      (tmRun leftHeldSession ([rawptsLeftUpReport, rawptsLeftUpReport].map .rawEvent)).fd.buttonDepressor 0 =
        leftHeldSession.fd.buttonDepressor 0 ∧
      ∃ later, (tmRun leftHeldSession
          ([rawptsLeftUpReport, rawptsLeftUpReport].map .rawEvent)).emitted =
            leftHeldSession.emitted ++ later ∧
        ∀ pressed, InputEvent.key (buttonKey 0) pressed ∈ later → pressed = true :=
  have held : leftHeldSession.fd.buttonDepressor 0 ≠ .none := by decide
  have others : ∀ report ∈ [rawptsLeftUpReport, rawptsLeftUpReport],
      buttonObservation leftHeldSession.fd report 0 ≠
        some (leftHeldSession.fd.buttonDepressor 0, false) := by decide
  ⟨held, others, held_button_ignores_other_reports _ _ 0 held others⟩

/-- In every reachable state the consumer holds each button key pressed exactly
when the driver holds the button: the reports keep the two in step. -/
theorem consumer_buttons_follow_depressors {s : TmSession} (reachable : Reachable s) (b : Fin 3) :
    keyState (buttonKey b) s.emitted = (s.fd.buttonDepressor b != .none) := by
  induction reachable with
  | probe probed =>
    simp only [tmProbe, TmSession.setRawReportState] at probed
    split_ifs at probed
    cases probed
    simp [keyState, TmSession.hidHwStart, handshakeWrites, tmProbeData]
  | step event previous inductionHypothesis =>
    cases event with
    | work transport hwStart => rw [tmStep, previous.invariant.work]; exact inductionHypothesis
    | connectChange transport connected =>
      rw [tmStep, tmConnectChange]
      split_ifs
      · simpa only [TmSession.setRawReportState, tmSetRawReportState_fst] using inductionHypothesis
      · exact inductionHypothesis
    | rawEvent report =>
      show keyState _ (_ ++ _) = _
      rw [keyState_append, foldl_keyStep_tmRawEvent _ _ previous.invariant.started]
      rfl

theorem left_press_shown_to_consumer :
    Reachable leftHeldSession ∧
      keyState (buttonKey 0) leftHeldSession.emitted = (leftHeldSession.fd.buttonDepressor 0 != .none) :=
  have reachable : Reachable leftHeldSession := .step (.rawEvent leftDownReport) inRangeSession_reachable
  ⟨reachable, consumer_buttons_follow_depressors reachable 0⟩

/-- In every reachable state the consumer holds each tool key as `emit_fingers`
last asserted it from the stored mask: `BTN_TOOL_FINGER` to `BTN_TOOL_QUADTAP`
pressed exactly when `prev_slots_used` is 1 to 4. -/
theorem consumer_tool_keys_follow_mask {s : TmSession} (reachable : Reachable s) :
    keyState .btnToolFinger s.emitted = (s.fd.prevSlotsUsed == 1) ∧
      keyState .btnToolDoubletap s.emitted = (s.fd.prevSlotsUsed == 2) ∧
      keyState .btnToolTripletap s.emitted = (s.fd.prevSlotsUsed == 3) ∧
      keyState .btnToolQuadtap s.emitted = (s.fd.prevSlotsUsed == 4) := by
  have shows : ToolKeysShow s.fd.prevSlotsUsed s.emitted := by
    induction reachable with
    | probe probed =>
      obtain ⟨emitted, -, empty⟩ := tmProbe_tracker probed
      intro code pressed tool
      rw [empty] at tool
      rw [emitted]
      simp [toolKeyEvents] at tool
      rcases tool with ⟨-, rfl⟩ | ⟨-, rfl⟩ | ⟨-, rfl⟩ | ⟨-, rfl⟩ <;> rfl
    | step event previous inductionHypothesis =>
      cases event with
      | work transport hwStart => rw [tmStep, previous.invariant.work]; exact inductionHypothesis
      | connectChange transport connected =>
        rw [tmStep, tmConnectChange]
        split_ifs
        · simpa only [TmSession.setRawReportState, tmSetRawReportState_fst] using inductionHypothesis
        · exact inductionHypothesis
      | rawEvent report => exact inductionHypothesis.rawEvent report
  exact ⟨shows _ _ (by simp [toolKeyEvents]), shows _ _ (by simp [toolKeyEvents]),
    shows _ _ (by simp [toolKeyEvents]), shows _ _ (by simp [toolKeyEvents])⟩

/-- Two reports through the raw-points feature of a device in range whose
parameters answer reports two fingers: both records, then the second alone. -/
def twoThenOneSession : TmSession :=
  tmRun twoFingerSession [.rawEvent (rawPointsReport bothRecords),
    .rawEvent (rawPointsReport secondRecordOnly)]

theorem one_contact_in_slot_one_shown_as_doubletap :
    Reachable twoThenOneSession ∧
      keyState .btnToolFinger twoThenOneSession.emitted = (twoThenOneSession.fd.prevSlotsUsed == 1) ∧
      keyState .btnToolDoubletap twoThenOneSession.emitted = (twoThenOneSession.fd.prevSlotsUsed == 2) ∧
      keyState .btnToolTripletap twoThenOneSession.emitted = (twoThenOneSession.fd.prevSlotsUsed == 3) ∧
      keyState .btnToolQuadtap twoThenOneSession.emitted = (twoThenOneSession.fd.prevSlotsUsed == 4) :=
  have reachable : Reachable twoThenOneSession :=
    show Reachable (tmStep (tmStep ((tmProbe false 0 0 twoFingerTransport 0).get rfl)
        (.rawEvent (rawPointsReport bothRecords))) (.rawEvent (rawPointsReport secondRecordOnly))) from
      .step _ (.step _ (.probe (Option.some_get _).symm))
  ⟨reachable, consumer_tool_keys_follow_mask reachable⟩

/-! ## Events that change nothing -/

/-- The event can act after the probe: a report, or a connection change that
reports the device connected. -/
def TmEvent.actsAfterProbe : TmEvent → Bool
  | .work _ _ => false
  | .connectChange _ connected => connected
  | .rawEvent _ => true

/-- After a successful probe only reports and reconnections act: a run ends in
the same session as the run without its deferred work, which always finds raw
mode set, and without its disconnections. -/
theorem only_reports_and_reconnects_act {s : TmSession} (reachable : Reachable s) (events : List TmEvent) :
    tmRun s events = tmRun s (events.filter TmEvent.actsAfterProbe) := by
  induction events generalizing s with
  | nil => rfl
  | cons event rest inductionHypothesis =>
    rw [List.filter_cons]
    cases acts : event.actsAfterProbe
    · have idle : tmStep s event = s := by
        cases event with
        | work transport hwStart => exact reachable.invariant.work transport hwStart
        | connectChange transport connected =>
          cases acts
          simp [tmStep, tmConnectChange]
        | rawEvent report => cases acts
      show tmRun (tmStep s event) rest = _
      rw [idle]
      exact inductionHypothesis reachable
    · exact inductionHypothesis (.step event reachable)

theorem in_range_idle_events_change_nothing :
    Reachable inRangeSession ∧
      tmRun inRangeSession [.work respondingTransport 0, .rawEvent leftDownReport,
          .connectChange respondingTransport false] =
        tmRun inRangeSession ([.work respondingTransport 0, .rawEvent leftDownReport,
          .connectChange respondingTransport false].filter TmEvent.actsAfterProbe) :=
  ⟨inRangeSession_reachable, only_reports_and_reconnects_act inRangeSession_reachable _⟩

/-! ## Mouse reports of a device whose mouse report buttons are ignored -/

/-- An event's effect on `tm_data` depends on `tm_data` alone. -/
theorem tmStep_fd_congr {s t : TmSession} (same : s.fd = t.fd) (event : TmEvent) :
    (tmStep s event).fd = (tmStep t event).fd := by
  cases event with
  | work transport hwStart =>
    simp only [tmStep, delayedworkCallback, TmSession.setRawReportState, TmSession.hidHwStart, same]
    split_ifs <;> first | exact same | rfl
  | connectChange transport connected =>
    simp only [tmStep, tmConnectChange, TmSession.setRawReportState, same]
    split_ifs <;> first | exact same | rfl
  | rawEvent report => simp only [tmStep, TmSession.rawEvent, same]

/-- No event writes the mouse-report flag `tm_probe` sets from the product id. -/
theorem tmStep_ignoreMouseReportButtons (s : TmSession) (event : TmEvent) :
    (tmStep s event).fd.ignoreMouseReportButtons = s.fd.ignoreMouseReportButtons := by
  cases event with
  | work transport hwStart =>
    simp only [tmStep, delayedworkCallback]
    split_ifs <;> simp [TmSession.setRawReportState, TmSession.hidHwStart, handshakeWrites]
  | connectChange transport connected =>
    simp only [tmStep, tmConnectChange]
    split_ifs <;> simp [TmSession.setRawReportState, handshakeWrites]
  | rawEvent report => exact (tmRawEvent_frame s.fd report).2.1

/-- On a device whose mouse report buttons are ignored (the T620), the driver
state after any run of events is the state after the same run with its mouse
reports left out: they report motion and the buttons' states, and change
nothing the driver keeps. -/
theorem mouse_reports_inert_when_ignored (s : TmSession) (ignored : s.fd.ignoreMouseReportButtons = true)
    (events : List TmEvent) :
    (tmRun s events).fd = (tmRun s (events.filter fun event => !event.isMouseReport)).fd := by
  suffices along : ∀ t : TmSession, s.fd = t.fd →
      (tmRun s events).fd = (tmRun t (events.filter fun event => !event.isMouseReport)).fd from
    along s rfl
  induction events generalizing s with
  | nil => exact fun _ same => same
  | cons event rest inductionHypothesis =>
    intro t same
    have flag : (tmStep s event).fd.ignoreMouseReportButtons = true :=
      (tmStep_ignoreMouseReportButtons s event).trans ignored
    rw [List.filter_cons]
    cases mouse : event.isMouseReport
    · exact inductionHypothesis (tmStep s event) flag (tmStep t event) (tmStep_fd_congr same event)
    · have inert : (tmStep s event).fd = s.fd := by
        cases event with
        | rawEvent report => exact tmRawEvent_mouse_of_ignored s.fd report ignored (beq_iff_eq.mp mouse)
        | _ => cases mouse
      exact inductionHypothesis (tmStep s event) flag t (inert.trans same)

/-- A T620 in range, as `tm_probe` leaves it. -/
def t620Session : TmSession := (tmProbe true 0 0 respondingTransport 0).get rfl

theorem t620_left_press_inert :
    t620Session.fd.ignoreMouseReportButtons = true ∧
      (tmRun t620Session [.rawEvent leftDownReport, .rawEvent rawptsLeftUpReport]).fd =
        (tmRun t620Session ([.rawEvent leftDownReport, .rawEvent rawptsLeftUpReport].filter
          fun event => !event.isMouseReport)).fd :=
  ⟨rfl, mouse_reports_inert_when_ignored t620Session rfl _⟩

/-! ## Frames -/

/-- From a reachable state an event appends nothing, or, for a report, one frame
closed by its only sync. -/
theorem Reachable.step_frame {s : TmSession} (reachable : Reachable s) (event : TmEvent) :
    ∃ body, InputEvent.sync ∉ body ∧
      (tmStep s event).emitted = s.emitted ++ if event.isReport then body ++ [.sync] else [] := by
  cases event with
  | work transport hwStart =>
    exact ⟨[], nofun, by rw [tmStep, reachable.invariant.work]; simp [TmEvent.isReport]⟩
  | connectChange transport connected =>
    refine ⟨[], nofun, ?_⟩
    simp only [tmStep, tmConnectChange, TmEvent.isReport, Bool.false_eq_true, if_false,
      List.append_nil]
    split_ifs <;> rfl
  | rawEvent report =>
    obtain ⟨body, eq, noSync⟩ := tmRawEvent_frame_sync s.fd report reachable.invariant.started
    exact ⟨body, noSync, by simp [tmStep, TmSession.rawEvent, TmEvent.isReport, eq]⟩

/-- Over every run of driver events from a reachable state, what the consumer
receives is one frame per report, each closed by its only sync; deferred work
and connection changes emit nothing. -/
theorem one_frame_per_report {s : TmSession} (reachable : Reachable s) (events : List TmEvent) :
    ∃ frames : List (List InputEvent),
      (tmRun s events).emitted = s.emitted ++ frames.flatMap (fun body => body ++ [.sync]) ∧
        frames.length = (events.filter TmEvent.isReport).length ∧
        ∀ body ∈ frames, InputEvent.sync ∉ body := by
  induction events generalizing s with
  | nil => exact ⟨[], by simp [tmRun], rfl, nofun⟩
  | cons event rest inductionHypothesis =>
    obtain ⟨body, noSync, stepped⟩ := reachable.step_frame event
    obtain ⟨frames, emitted, counted, closed⟩ := inductionHypothesis (.step event reachable)
    have run : (tmRun s (event :: rest)).emitted =
        (tmStep s event).emitted ++ frames.flatMap (fun body => body ++ [.sync]) := emitted
    cases isReport : event.isReport
    · refine ⟨frames, ?_, by simpa [isReport] using counted, closed⟩
      simp [run, stepped, isReport]
    · refine ⟨body :: frames, ?_, by simpa [isReport] using counted, ?_⟩
      · simp [run, stepped, isReport]
      · rintro other (_ | ⟨_, member⟩)
        · exact noSync
        · exact closed other member

theorem in_range_reports_one_frame_each :
    Reachable inRangeSession ∧
      ∃ frames : List (List InputEvent),
        (tmRun inRangeSession [.rawEvent leftDownReport, .rawEvent rawptsLeftUpReport]).emitted =
          inRangeSession.emitted ++ frames.flatMap (fun body => body ++ [.sync]) ∧
        frames.length =
          ([TmEvent.rawEvent leftDownReport, .rawEvent rawptsLeftUpReport].filter TmEvent.isReport).length ∧
        ∀ body ∈ frames, InputEvent.sync ∉ body :=
  ⟨inRangeSession_reachable, one_frame_per_report inRangeSession_reachable _⟩

/-! ## Slots past `max_fingers` -/

/-- Over every run of reports, the consumer's tracking id of every slot at or
above `max_fingers` stays as it is: a contact left live there, once a
reconnection has lowered `max_fingers`, is never released. -/
theorem slots_beyond_max_fingers_never_released (s : TmSession) (reports : List HidppReport) (j : Nat)
    (beyond : s.fd.tpInfo.maxFingers.toNat ≤ j) :
    (MtView.initial.applyAll (tmRun s (reports.map .rawEvent)).emitted).trackingId j =
      (MtView.initial.applyAll s.emitted).trackingId j := by
  induction reports generalizing s with
  | nil => rfl
  | cons report rest inductionHypothesis =>
    rw [List.map_cons, tmRun, List.foldl_cons, ← tmRun, tmStep, inductionHypothesis _
      (by simpa [TmSession.rawEvent, (tmRawEvent_frame s.fd report).1] using beyond)]
    simp only [TmSession.rawEvent, MtView.applyAll_append, applyAll_tmRawEvent_trackingId _ _ _ j beyond]

/-- A five-finger device with a contact on every record, then reconnected as a
two-finger device. -/
def shrunkSession : TmSession :=
  tmRun ((tmProbe false 0 0 fiveFingerTransport 0).get rfl)
    [.rawEvent (rawPointsReport fun _ => 0), .connectChange twoFingerTransport true]

theorem shrunkSession_reachable : Reachable shrunkSession :=
  show Reachable (tmStep (tmStep ((tmProbe false 0 0 fiveFingerTransport 0).get rfl)
      (.rawEvent (rawPointsReport fun _ => 0))) (.connectChange twoFingerTransport true)) from
    .step _ (.step _ (.probe (Option.some_get _).symm))

theorem fifth_slot_never_released :
    Reachable shrunkSession ∧ 0 ≤ (MtView.initial.applyAll shrunkSession.emitted).trackingId 4 ∧
      shrunkSession.fd.tpInfo.maxFingers.toNat ≤ 4 ∧
      ∀ reports : List HidppReport,
        (MtView.initial.applyAll (tmRun shrunkSession (reports.map .rawEvent)).emitted).trackingId 4 =
          (MtView.initial.applyAll shrunkSession.emitted).trackingId 4 :=
  have beyond : shrunkSession.fd.tpInfo.maxFingers.toNat ≤ 4 := by decide
  ⟨shrunkSession_reachable, by decide, beyond,
    fun reports => slots_beyond_max_fingers_never_released shrunkSession reports 4 beyond⟩

/-! ## The mask and the consumer over a session -/

/-- The agreement reads only the mask and `max_fingers`. -/
theorem MaskMatchesView.of_same {fd other : TmData} {view : MtView} (agree : MaskMatchesView fd view)
    (mask : other.prevSlotsUsed = fd.prevSlotsUsed) (geometry : other.tpInfo = fd.tpInfo) :
    MaskMatchesView other view :=
  ⟨fun j low => mask ▸ agree.live j low, fun j live => geometry ▸ agree.bounded j (mask ▸ live)⟩

/-- A report keeps the agreement: motion and buttons touch neither the mask nor
the tracking ids. -/
theorem MaskMatchesView.rawEvent {fd : TmData} {view : MtView} (agree : MaskMatchesView fd view)
    (report : HidppReport) :
    MaskMatchesView (tmRawEvent fd report).1 (view.applyAll (tmRawEvent fd report).2) := by
  unfold tmRawEvent
  split_ifs
  · exact agree
  · exact agree.of_same rfl rfl
  · have sync (other : MtView) : other.applyAll [.sync] = other := rfl
    rw [MtView.applyAll_append, MtView.applyAll_append, applyAll_emitButtons, sync]
    exact (agree.emit report.params).of_same rfl rfl
  · exact agree.of_same rfl rfl

/-- Every event that keeps the geometry keeps the agreement. -/
theorem MaskMatchesView.step {s : TmSession} (invariant : SessionInvariant s)
    (agree : MaskMatchesView s.fd (MtView.initial.applyAll s.emitted)) (event : TmEvent)
    (geometry : (tmStep s event).fd.tpInfo = s.fd.tpInfo) :
    MaskMatchesView (tmStep s event).fd (MtView.initial.applyAll (tmStep s event).emitted) := by
  cases event with
  | work transport hwStart => rw [tmStep, invariant.work]; exact agree
  | connectChange transport connected =>
    rw [tmStep, tmConnectChange] at geometry ⊢
    split_ifs at geometry ⊢
    · exact agree.of_same (by simp only [TmSession.setRawReportState, tmSetRawReportState_fst]; rfl)
        geometry
    · exact agree
  | rawEvent report =>
    show MaskMatchesView (tmRawEvent s.fd report).1
      (MtView.initial.applyAll (s.emitted ++ (tmRawEvent s.fd report).2))
    rw [MtView.applyAll_append]
    exact agree.rawEvent report

/-- Over a run whose reconnects all answer with the current geometry, every
step keeps the agreement. -/
theorem MaskMatchesView.run {s : TmSession} (reachable : Reachable s) (events : List TmEvent)
    (agree : MaskMatchesView s.fd (MtView.initial.applyAll s.emitted))
    (keeps : ∀ transport connected, TmEvent.connectChange transport connected ∈ events →
      KeepsGeometry s.fd.tpInfo transport) :
    MaskMatchesView (tmRun s events).fd (MtView.initial.applyAll (tmRun s events).emitted) := by
  induction events generalizing s with
  | nil => exact agree
  | cons event rest inductionHypothesis =>
    have geometry : (tmStep s event).fd.tpInfo = s.fd.tpInfo := by
      rcases (reachable.invariant.step_geometry event).2 with same | ⟨transport, rfl, reached, answered⟩
      · exact same
      · exact answered.trans (keeps transport true (.head _) reached)
    exact inductionHypothesis (.step event reachable) (agree.step reachable.invariant event geometry)
      fun transport connected member => geometry ▸ keeps transport connected (.tail _ member)

/-- A device reporting two fingers is registered with the one- and two-finger
tool keys; a report with both records down then makes `slots_used` 3 and asserts
the three-finger key, which that registration left out. -/
theorem both_contacts_assert_unregistered_tripletap :
    Reachable twoFingerSession ∧
      twoFingerSession.registered = some twoFingerSession.fd.tpInfo ∧
      twoFingerSession.fd.tpInfo.maxFingers = 2 ∧
      InputEvent.key .btnToolTripletap true ∈
        (tmStep twoFingerSession (.rawEvent (rawPointsReport fun _ => 0))).emitted ∧
      KeyCode.btnToolTripletap ∉ (tmInputMapping twoFingerSession.fd.tpInfo).keys :=
  ⟨.probe (Option.some_get _).symm, by decide, by decide, by decide, by decide⟩

/-! ## Tracking ids -/

/-- From `tm_probe`'s `next_tracking_id = 1`, over every run of raw-finger reports
through `emit_fingers` and in every state the driver reaches, the counter stays
in `[1, 0xfffe]` and the ids reported are 1, 2, ..., `0xfffe`, 1, 2, ..., each
in `[1, 0xfffe]`. -/
theorem tracking_ids_stay_in_range :
    (∀ (fd : TmData) (reports : List (Nat → UInt8)), fd.nextTrackingId = 1 →
      TrackingIdsInRange (fingerRun (fd, []) reports).1.nextTrackingId
        (fingerRun (fd, []) reports).2) ∧
      ∀ s, Reachable s → TrackingIdsInRange s.fd.nextTrackingId s.emitted :=
  ⟨fun fd reports firstId => (idsHandedOut_fingerRun (fd, []) reports
      ⟨rfl, by simp [firstId, idAt, freshIds]⟩).trackingIdsInRange,
    fun _ reachable => reachable.idsHandedOut.trackingIdsInRange⟩

theorem two_finger_reports_ids_in_range :
    twoFingerData.nextTrackingId = 1 ∧
      TrackingIdsInRange (fingerRun (twoFingerData, []) [bothRecords, bothRecords]).1.nextTrackingId
        (fingerRun (twoFingerData, []) [bothRecords, bothRecords]).2 ∧
      Reachable (tmStep twoFingerSession (.rawEvent (rawPointsReport fun _ => 0))) ∧
      TrackingIdsInRange
        (tmStep twoFingerSession (.rawEvent (rawPointsReport fun _ => 0))).fd.nextTrackingId
        (tmStep twoFingerSession (.rawEvent (rawPointsReport fun _ => 0))).emitted :=
  have reachable : Reachable (tmStep twoFingerSession (.rawEvent (rawPointsReport fun _ => 0))) :=
    .step _ (.probe (Option.some_get _).symm)
  ⟨rfl, tracking_ids_stay_in_range.1 _ _ rfl, reachable,
    tracking_ids_stay_in_range.2 _ reachable⟩

/-- A report keeps the consumer's ids: motion and buttons hand out none. -/
theorem ConsumerIds.rawEvent {fd : TmData} {view : MtView} (ids : ConsumerIds fd view)
    (report : HidppReport) :
    ConsumerIds (tmRawEvent fd report).1 (view.applyAll (tmRawEvent fd report).2) := by
  rcases tmRawEvent_tracker fd report view with ⟨counter, -, same⟩ | ⟨counter, -, same⟩
  · rw [same]
    exact ids.of_same counter
  · rw [same]
    exact (ids.emit report.params).of_same counter

/-- What a step does to the tracker: a report goes through `tm_raw_event`; deferred
work and connection changes keep the counter and the mask and report nothing. -/
theorem tmStep_cases (s : TmSession) (event : TmEvent) :
    (∃ report, tmStep s event = s.rawEvent report) ∨
      ((tmStep s event).fd.nextTrackingId = s.fd.nextTrackingId ∧
        (tmStep s event).fd.prevSlotsUsed = s.fd.prevSlotsUsed ∧ (tmStep s event).emitted = s.emitted) := by
  cases event with
  | rawEvent report => exact .inl ⟨report, rfl⟩
  | _ =>
    right
    simp only [tmStep, delayedworkCallback, tmConnectChange]
    split_ifs <;> simp [TmSession.setRawReportState, TmSession.hidHwStart, handshakeWrites]

/-- Only a report moves the counter or reaches the consumer, so every event keeps
the consumer's ids, whatever geometry a reconnect answers. -/
theorem ConsumerIds.step {s : TmSession} (ids : ConsumerIds s.fd (MtView.initial.applyAll s.emitted))
    (event : TmEvent) :
    ConsumerIds (tmStep s event).fd (MtView.initial.applyAll (tmStep s event).emitted) := by
  rcases tmStep_cases s event with ⟨report, stepped⟩ | ⟨counter, -, emitted⟩
  · rw [stepped, TmSession.rawEvent, MtView.applyAll_append]
    exact ids.rawEvent report
  · rw [emitted]
    exact ids.of_same counter

/-- The shrunk session after one more report: slots 0 and 1 keep their contacts,
and slots 2 to 4 stay live at the consumer, outside the mask. -/
def staleSlotSession : TmSession := tmStep shrunkSession (.rawEvent (rawPointsReport fun _ => 0))

theorem MaskLive.rawEvent {fd : TmData} {view : MtView} (live : MaskLive fd view)
    (report : HidppReport) :
    MaskLive (tmRawEvent fd report).1 (view.applyAll (tmRawEvent fd report).2) := by
  rcases tmRawEvent_tracker fd report view with ⟨-, mask, same⟩ | ⟨-, mask, same⟩
  · rw [same]
    exact live.of_same mask
  · rw [same]
    exact (live.emit report.params).of_same mask

theorem Reachable.maskLive {s : TmSession} (reachable : Reachable s) :
    MaskLive s.fd (MtView.initial.applyAll s.emitted) := by
  induction reachable with
  | probe probed =>
    intro j set
    simp [(tmProbe_tracker probed).2.2] at set
  | step event _ inductionHypothesis =>
    rcases tmStep_cases _ event with ⟨report, stepped⟩ | ⟨-, mask, emitted⟩
    · rw [stepped, TmSession.rawEvent, MtView.applyAll_append]
      exact inductionHypothesis.rawEvent report
    · rw [emitted]
      exact inductionHypothesis.of_same mask

/-- `tm_raw_event` reports axes only through `emit_fingers`; its motion, buttons
and sync carry none. -/
theorem axesOnLiveSlots_tmRawEvent {fd : TmData} {view : MtView} (live : MaskLive fd view)
    (report : HidppReport) : AxesOnLiveSlots view (tmRawEvent fd report).2 := by
  have buttons (decoded : TmData) (before : MtView) :
      AxesOnLiveSlots before ((emitButtons decoded report).2 ++ [.sync]) :=
    axesOnLiveSlots_of_not_isContactAxis (fun event member => by
      simp only [emitButtons, List.mem_append, List.mem_map, List.mem_singleton] at member
      rcases member with ⟨_, -, rfl⟩ | rfl <;> rfl) before
  unfold tmRawEvent
  split_ifs <;> dsimp only
  · trivial
  · rw [List.append_assoc, axesOnLiveSlots_append]
    exact ⟨axesOnLiveSlots_of_not_isContactAxis (by simp [relEvents, InputEvent.isContactAxis]) _,
      buttons _ _⟩
  · rw [List.append_assoc, axesOnLiveSlots_append]
    exact ⟨axesOnLiveSlots_emitFingers live _, buttons _ _⟩
  · exact buttons _ _

/-- In every state the driver reaches, over any reconnects, every position and
pressure the consumer has received reached a slot for which it held a tracking
id at that moment: a contact kept from the last report is reported without a
new id, and its slot is still live, whatever `max_fingers` a reconnect set. -/
theorem axes_reported_on_live_slots {s : TmSession} (reachable : Reachable s) :
    AxesOnLiveSlots MtView.initial s.emitted := by
  induction reachable with
  | probe probed =>
    rw [(tmProbe_tracker probed).1]
    trivial
  | @step s event reached inductionHypothesis =>
    rcases tmStep_cases s event with ⟨report, stepped⟩ | ⟨-, -, emitted⟩
    · rw [stepped, TmSession.rawEvent, axesOnLiveSlots_append]
      exact ⟨inductionHypothesis, axesOnLiveSlots_tmRawEvent reached.maskLive report⟩
    · rw [emitted]
      exact inductionHypothesis

theorem stale_slot_session_axes_on_live_slots :
    Reachable staleSlotSession ∧ AxesOnLiveSlots MtView.initial staleSlotSession.emitted :=
  have reachable : Reachable staleSlotSession := .step _ shrunkSession_reachable
  ⟨reachable, axes_reported_on_live_slots reachable⟩

/-- In every state the driver reaches, over any reconnects, a raw touch-points
report leaves the consumer holding a contact in each slot below `max_fingers`
exactly when the report's record for that slot is one: a lifted contact is
released, a new one gets an id and a kept one is still live. -/
theorem consumer_holds_reported_contacts {s : TmSession} (reachable : Reachable s) (report : HidppReport)
    (rawPoints : report.reportId = 0x11 ∧ report.subId = s.fd.mtFeatureIndex ∧
      report.regAddress >>> 4 = 0)
    (j : Nat) (within : j < s.fd.tpInfo.maxFingers.toNat) :
    0 ≤ (MtView.initial.applyAll (tmStep s (.rawEvent report)).emitted).trackingId j ↔
      isSentinel report.params j = false := by
  rw [tmStep, TmSession.rawEvent, MtView.applyAll_append,
    applyAll_tmRawEvent_rawPoints _ _ _ reachable.invariant.started rawPoints, applyAll_emitFingers,
    ((applyAll_fingerLoop _ _ _ _).2 j).1, if_pos within]
  cases sentinel : isSentinel report.params j
  · cases fresh : isNew s.fd.prevSlotsUsed report.params j
    · simp [reachable.maskLive.kept sentinel fresh]
    · simp [Int.ofNat_zero_le]
  · simp

theorem stale_slot_session_report_shown :
    Reachable shrunkSession ∧
      ((rawPointsReport fun _ => 0).reportId = 0x11 ∧
        (rawPointsReport fun _ => 0).subId = shrunkSession.fd.mtFeatureIndex ∧
        (rawPointsReport fun _ => 0).regAddress >>> 4 = 0) ∧
      1 < shrunkSession.fd.tpInfo.maxFingers.toNat ∧
      (0 ≤ (MtView.initial.applyAll
          (tmStep shrunkSession (.rawEvent (rawPointsReport fun _ => 0))).emitted).trackingId 1 ↔
        isSentinel (rawPointsReport fun _ => 0).params 1 = false) :=
  have rawPoints : (rawPointsReport fun _ => 0).reportId = 0x11 ∧
      (rawPointsReport fun _ => 0).subId = shrunkSession.fd.mtFeatureIndex ∧
      (rawPointsReport fun _ => 0).regAddress >>> 4 = 0 := by decide
  have within : 1 < shrunkSession.fd.tpInfo.maxFingers.toNat := by decide
  ⟨shrunkSession_reachable, rawPoints, within,
    consumer_holds_reported_contacts shrunkSession_reachable _ rawPoints 1 within⟩

end HidLogitech.Tm
