import HidLogitech.Tm.Fingers
import Mathlib.Data.Fin.VecNotation
import Mathlib.Tactic.FinCases

/-!
# Touch mouse: the button arbiter

A button can be reported by three report kinds: the mouse report `0x02`, the
feature `0x1b03` report, and the raw touch-points report. `emit_buttons` keeps,
per button, the source that pressed it: a source presses a free button it sees
down and releases a button it holds when it sees it up; what other sources see
of that button is ignored. The three blocks of `emit_buttons` are one arbiter
step over different report bytes.

`buttonObservation` says, from the report's bytes alone, which source observes a
button and whether it sees it down. `emitButtons_buttonDepressor` shows that
the blocks, run in the source's order, are that arbiter step for every button,
whatever the two feature indices are, equal ones included.
-/

namespace HidLogitech.Tm

/-- The arbiter step of one block: `source` takes a free button it sees down and
gives back one it holds when it sees it up. -/
def arbitrate (source : Depressor) (down : Bool) (current : Depressor) : Depressor :=
  if current = .none ∧ down then source
  else if current = source ∧ down = false then .none
  else current

/-- `u8 mask = 1 << i` of the mouse-report loop, the shift of the slot mask. -/
def buttonMask (i : Fin 3) : UInt8 := slotMask i

/-- The mouse-report block: on report `0x02`, unless the device's mouse report
buttons are ignored, each button is arbitrated by bit `i` of byte 1. -/
def mouseReportButtons (fd : TmData) (bytes : HidppReport) : Fin 3 → Depressor :=
  if bytes.byte 0 = 0x2 ∧ fd.ignoreMouseReportButtons = false then
    fun i => arbitrate .mouse (bytes.byte 1 &&& buttonMask i != 0) (fd.buttonDepressor i)
  else fd.buttonDepressor

/-- The `0x1b03` block: on a long report for `feature_1b03`, the middle button is
arbitrated by byte 5. -/
def hidpp1b03Button (fd : TmData) (bytes : HidppReport) (depressor : Fin 3 → Depressor) :
    Fin 3 → Depressor :=
  if bytes.byte 0 = 0x11 ∧ bytes.byte 2 = fd.feature1b03 then
    Function.update depressor 2 (arbitrate .hidpp1b03 (bytes.byte 5 != 0) (depressor 2))
  else depressor

/-- The raw touch-points block: on a long report for `mt_feature_index` with
function 1, the left button is arbitrated by bit 1 of byte 4. -/
def rawptsButton (fd : TmData) (bytes : HidppReport) (depressor : Fin 3 → Depressor) :
    Fin 3 → Depressor :=
  if bytes.byte 0 = 0x11 ∧ bytes.byte 2 = fd.mtFeatureIndex ∧ bytes.byte 3 >>> 4 = 1 then
    Function.update depressor 0 (arbitrate .rawpts (bytes.byte 4 &&& 2 != 0) (depressor 0))
  else depressor

/-- `BTN_LEFT`, `BTN_RIGHT` and `BTN_MIDDLE` by index. -/
def buttonKey : Fin 3 → KeyCode := ![.btnLeft, .btnRight, .btnMiddle]

/-- `emit_buttons(fd, bytes)`: the three blocks in order, then each button
reported as pressed when some source holds it. -/
def emitButtons (fd : TmData) (bytes : HidppReport) : TmData × List InputEvent :=
  let depressor := rawptsButton fd bytes (hidpp1b03Button fd bytes (mouseReportButtons fd bytes))
  ({ fd with buttonDepressor := depressor },
    (List.finRange 3).map fun i => .key (buttonKey i) (depressor i != .none))

/-- `emit_buttons` reports the three buttons and no other key. -/
theorem key_mem_emitButtons {fd : TmData} {bytes : HidppReport} {code : KeyCode} {pressed : Bool}
    (reported : InputEvent.key code pressed ∈ (emitButtons fd bytes).2) :
    code = .btnLeft ∨ code = .btnRight ∨ code = .btnMiddle := by
  simp only [emitButtons, List.mem_map, List.mem_finRange, true_and, InputEvent.key.injEq] at reported
  obtain ⟨i, named, -⟩ := reported
  fin_cases i <;> simp [← named, buttonKey]

/-- `emit_buttons` reports no relative motion. -/
theorem rel_not_mem_emitButtons (fd : TmData) (bytes : HidppReport) (code : RelCode) (value : Int) :
    InputEvent.rel code value ∉ (emitButtons fd bytes).2 := by
  simp only [emitButtons, List.mem_map, reduceCtorEq, and_false, exists_false, not_false_eq_true]

/-- The button events leave the consumer's multi-touch view as it is. -/
theorem applyAll_emitButtons (fd : TmData) (bytes : HidppReport) (view : MtView) :
    view.applyAll (emitButtons fd bytes).2 = view :=
  rfl

/-- The button events leave the consumer's state of each button key at whether
the button is held after the report. -/
theorem foldl_keyStep_emitButtons (fd : TmData) (bytes : HidppReport) (b : Fin 3) (state : Bool) :
    (emitButtons fd bytes).2.foldl (keyStep (buttonKey b)) state =
      ((emitButtons fd bytes).1.buttonDepressor b != .none) := by
  fin_cases b <;> rfl

theorem buttonKey_inj {i j : Fin 3} : buttonKey i = buttonKey j ↔ i = j := by
  fin_cases i <;> fin_cases j <;> decide

/-- `emit_buttons` reports each button once, with its state after the report. -/
theorem buttonKey_mem_emitButtons (fd : TmData) (bytes : HidppReport) (b : Fin 3) (pressed : Bool) :
    InputEvent.key (buttonKey b) pressed ∈ (emitButtons fd bytes).2 ↔
      pressed = ((emitButtons fd bytes).1.buttonDepressor b != .none) := by
  simp only [emitButtons, List.mem_map, List.mem_finRange, true_and, InputEvent.key.injEq,
    buttonKey_inj]
  constructor
  · rintro ⟨i, rfl, rfl⟩
    rfl
  · rintro rfl
    exact ⟨b, rfl, rfl⟩

/-! ## The arbiter law -/

/-- Which source observes button `b` in a report, and whether it sees it down:
the mouse report all three buttons unless they are ignored, the `0x1b03` report
the middle one, and the raw touch-points report the left one. -/
def buttonObservation (fd : TmData) (bytes : HidppReport) (b : Fin 3) :
    Option (Depressor × Bool) :=
  if bytes.byte 0 = 0x2 ∧ fd.ignoreMouseReportButtons = false then
    some (.mouse, (bytes.byte 1).toNat.testBit b)
  else if b = 2 ∧ bytes.byte 0 = 0x11 ∧ bytes.byte 2 = fd.feature1b03 then
    some (.hidpp1b03, bytes.byte 5 != 0)
  else if b = 0 ∧ bytes.byte 0 = 0x11 ∧ bytes.byte 2 = fd.mtFeatureIndex ∧
      bytes.byte 3 >>> 4 = 1 then
    some (.rawpts, (bytes.byte 4).toNat.testBit 1)
  else none

/-- The buttons a source can observe: the mouse report all three, the `0x1b03`
report the middle one, the raw touch-points report the left one. -/
def Depressor.observes : Depressor → Fin 3 → Bool
  | .none, _ => false
  | .mouse, _ => true
  | .hidpp1b03, b => b = 2
  | .rawpts, b => b = 0

/-- A button's depressor after a report: unchanged unless a source observes it. -/
def arbiterStep (current : Depressor) : Option (Depressor × Bool) → Depressor
  | none => current
  | some (source, down) => arbitrate source down current

/-- The mouse loop's test `bytes[1] & mask` reads bit `i` of byte 1. -/
theorem and_buttonMask_ne_zero (byte : UInt8) (i : Fin 3) :
    (byte &&& buttonMask i != 0) = byte.toNat.testBit i := by
  rw [buttonMask, bne, and_slotMask_eq_zero, Bool.not_not, decide_eq_true (by omega : i.val < 8),
    Bool.and_true, slotBit]

/-- The raw touch-points test `bytes[4] & 2` reads bit 1 of byte 4. -/
theorem and_two_ne_zero (byte : UInt8) : (byte &&& 2 != 0) = byte.toNat.testBit 1 :=
  and_buttonMask_ne_zero byte 1

/-- The blocks of `emit_buttons` are, for every button, the arbiter step of the
one source that observes it. -/
theorem emitButtons_buttonDepressor (fd : TmData) (bytes : HidppReport) (b : Fin 3) :
    (emitButtons fd bytes).1.buttonDepressor b =
      arbiterStep (fd.buttonDepressor b) (buttonObservation fd bytes b) := by
  by_cases mouse : bytes.byte 0 = 0x2
  · have notLong : bytes.byte 0 ≠ 0x11 := by rw [mouse]; decide
    cases ignore : fd.ignoreMouseReportButtons <;>
      simp [emitButtons, buttonObservation, rawptsButton, hidpp1b03Button, mouseReportButtons,
        mouse, notLong, ignore, arbiterStep, and_buttonMask_ne_zero]
  · have quiet : mouseReportButtons fd bytes = fd.buttonDepressor := if_neg fun sent => mouse sent.1
    simp only [emitButtons, buttonObservation, rawptsButton, hidpp1b03Button, quiet, mouse,
      false_and, if_false]
    fin_cases b <;> simp [arbiterStep, and_two_ne_zero] <;> split_ifs <;> rfl

/-- The law for one button over one report: the depressor changes exactly when
it is free and a source observing the button sees it down, and then becomes that
source, or when the source holding it sees it up, and then becomes free. -/
def ArbiterLaw (before after : Depressor) (observed : Option (Depressor × Bool)) : Prop :=
  (after ≠ before ↔ (before = .none ∧ ∃ source, observed = some (source, true)) ∨
      (before ≠ .none ∧ observed = some (before, false))) ∧
    (∀ source, before = .none → observed = some (source, true) → after = source) ∧
    (before ≠ .none → observed = some (before, false) → after = .none)

/-- A held button stays with its holder unless the holder itself sees it up. -/
theorem arbiterStep_held (current : Depressor) (observed : Option (Depressor × Bool))
    (held : current ≠ .none) (notReleased : observed ≠ some (current, false)) :
    arbiterStep current observed = current := by
  rcases observed with _ | ⟨source, down⟩
  · rfl
  · simp only [arbiterStep, arbitrate, held, false_and, if_false]
    split_ifs with released
    · exact absurd (by rw [released.1, released.2]) notReleased
    · rfl

theorem arbiterStep_law (current : Depressor) (observed : Option (Depressor × Bool))
    (sourced : ∀ source down, observed = some (source, down) → source ≠ .none) :
    ArbiterLaw current (arbiterStep current observed) observed := by
  rcases observed with _ | ⟨source, down⟩
  · simp [ArbiterLaw, arbiterStep]
  · have real := sourced source down rfl
    cases down <;> by_cases free : current = .none <;> by_cases own : current = source <;>
      simp_all [ArbiterLaw, arbiterStep, arbitrate, eq_comm]

/-- Every observer is a real source, one that observes the button, and never the
mouse report when its buttons are ignored. -/
theorem buttonObservation_source (fd : TmData) (bytes : HidppReport) (b : Fin 3)
    {source : Depressor} {down : Bool} (observed : buttonObservation fd bytes b = some (source, down)) :
    source ≠ .none ∧ source.observes b ∧
      (source = .mouse → fd.ignoreMouseReportButtons = false) := by
  unfold buttonObservation at observed
  split_ifs at observed with mouse middle left <;> cases observed
  · exact ⟨nofun, rfl, fun _ => mouse.2⟩
  · exact ⟨nofun, by simp [Depressor.observes, middle.1], nofun⟩
  · exact ⟨nofun, by simp [Depressor.observes, left.1], nofun⟩

/-! ## Who can hold a button -/

/-- Every button is free or held by a source observing it, never by the mouse
report when the device's mouse report buttons are ignored. -/
def DepressorsObserved (fd : TmData) : Prop :=
  ∀ b, fd.buttonDepressor b = .none ∨
    (fd.buttonDepressor b).observes b ∧
      (fd.buttonDepressor b = .mouse → fd.ignoreMouseReportButtons = false)

theorem depressorsObserved_free (fd : TmData) (free : ∀ b, fd.buttonDepressor b = .none) :
    DepressorsObserved fd := fun b => .inl (free b)

/-- An arbiter step keeps the button, frees it, or gives it to its observer. -/
theorem arbiterStep_cases (current : Depressor) (observed : Option (Depressor × Bool)) :
    arbiterStep current observed = current ∨ arbiterStep current observed = .none ∨
      ∃ source, observed = some (source, true) ∧ arbiterStep current observed = source := by
  rcases observed with _ | ⟨source, down⟩
  · exact .inl rfl
  · simp only [arbiterStep, arbitrate]
    split_ifs with taken freed
    · exact .inr (.inr ⟨source, by rw [taken.2], rfl⟩)
    · exact .inr (.inl rfl)
    · exact .inl rfl

theorem DepressorsObserved.emitButtons {fd : TmData} (observed : DepressorsObserved fd)
    (bytes : HidppReport) : DepressorsObserved (emitButtons fd bytes).1 := by
  intro b
  show _ ∨ _ ∧ (_ → fd.ignoreMouseReportButtons = false)
  rw [emitButtons_buttonDepressor]
  rcases arbiterStep_cases (fd.buttonDepressor b) (buttonObservation fd bytes b) with
    kept | freed | ⟨source, seen, taken⟩
  · rw [kept]
    exact observed b
  · exact .inl freed
  · obtain ⟨-, observes, notIgnored⟩ := buttonObservation_source fd bytes b seen
    exact .inr (taken ▸ ⟨observes, notIgnored⟩)

end HidLogitech.Tm
