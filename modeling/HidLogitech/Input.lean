import Mathlib.Logic.Function.Basic

/-!
# Input events emitted by the drivers

Both drivers turn reports into calls on the kernel input core: selecting a
multi-touch slot, reporting a slot's state, absolute and relative axes, keys,
pointer emulation and a frame sync. An event list records those calls in order.

`MtView` reads back, from such a list, what the consumer last received for each
slot: the slot state and the tracking id, and how many fresh tracking ids it has
received; `freshIds` lists those ids in order, `selectedSlots` the slots
selected, and `keyState` is the state the consumer last received for a key;
`AxesOnLiveSlots` says that every position and pressure reaches a slot holding a
tracking id. All are observations of the emitted stream: "the consumer" in the
statements is this stream as the driver emits it. The input core's own
bookkeeping (its slot and tracking-id state, the events pointer emulation adds,
its filtering of repeated values) is an external collaborator and is not
modelled.
-/

namespace HidLogitech

/-- The absolute axes the report paths write. -/
inductive AbsCode where
  | mtTrackingId
  | mtPositionX
  | mtPositionY
  | mtPressure
deriving DecidableEq, Repr

/-- The keys the report paths write. -/
inductive KeyCode where
  | btnLeft
  | btnRight
  | btnMiddle
  | btnTouch
  | btnToolFinger
  | btnToolDoubletap
  | btnToolTripletap
  | btnToolQuadtap
deriving DecidableEq, Repr

inductive RelCode where
  | relX
  | relY
deriving DecidableEq, Repr

/-- One call on the input core. `mtReportSlotState` is
`input_mt_report_slot_state(input, MT_TOOL_FINGER, active)`; `key` covers both
`input_report_key` and `input_event(input, EV_KEY, ...)`, whose value is a flag. -/
inductive InputEvent where
  | mtSlot (slot : Int)
  | mtReportSlotState (active : Bool)
  | abs (code : AbsCode) (value : Int)
  | key (code : KeyCode) (pressed : Bool)
  | rel (code : RelCode) (value : Int)
  | pointerEmulation
  | sync
deriving DecidableEq, Repr

/-- What an `input_mapping` callback registers with the input core for a button
usage: the keys, the number of multi-touch slots and the maxima of the absolute
axes (all minima are 0). -/
structure InputRegistration where
  keys : List KeyCode
  mtSlots : Nat
  touchMajorMax : Nat
  touchMinorMax : Nat
  pressureMax : Nat
  positionXMax : Nat
  positionYMax : Nat
  absXMax : Nat
  absYMax : Nat
deriving DecidableEq, Repr

/-- What the consumer has last received per slot. A slot never reported is
inactive with tracking id `-1`; `assigned` counts the nonnegative tracking ids
received, and `assignedAt` the position among them of a slot's current id. -/
structure MtView where
  slot : Int
  slotState : Int → Bool
  trackingId : Int → Int
  assigned : Nat
  assignedAt : Int → Nat

namespace MtView

/-- The view before any event: slot 0 selected, every slot empty. -/
def initial : MtView where
  slot := 0
  slotState := fun _ => false
  trackingId := fun _ => -1
  assigned := 0
  assignedAt := fun _ => 0

/-- One event. Slot state and tracking id go to the currently selected slot. -/
def apply (view : MtView) : InputEvent → MtView
  | .mtSlot slot => { view with slot := slot }
  | .mtReportSlotState active =>
      { view with slotState := Function.update view.slotState view.slot active }
  | .abs .mtTrackingId value =>
      if 0 ≤ value then
        { view with
          trackingId := Function.update view.trackingId view.slot value
          assigned := view.assigned + 1
          assignedAt := Function.update view.assignedAt view.slot view.assigned }
      else { view with trackingId := Function.update view.trackingId view.slot value }
  | _ => view

/-- A whole event list, in order. -/
def applyAll (view : MtView) (events : List InputEvent) : MtView :=
  events.foldl apply view

@[simp] theorem applyAll_nil (view : MtView) : view.applyAll [] = view := rfl

@[simp] theorem applyAll_cons (view : MtView) (event : InputEvent) (events : List InputEvent) :
    view.applyAll (event :: events) = (view.apply event).applyAll events := rfl

@[simp] theorem applyAll_append (view : MtView) (first second : List InputEvent) :
    view.applyAll (first ++ second) = (view.applyAll first).applyAll second :=
  List.foldl_append _ _ _ _

end MtView

/-- The nonnegative `ABS_MT_TRACKING_ID` values of an event list, in order: the
fresh tracking ids the consumer receives. -/
def freshIds (events : List InputEvent) : List Int :=
  events.filterMap fun
    | .abs .mtTrackingId value => if 0 ≤ value then some value else none
    | _ => none

@[simp] theorem freshIds_append (first second : List InputEvent) :
    freshIds (first ++ second) = freshIds first ++ freshIds second :=
  List.filterMap_append _ _ _

/-- The slots the events select, in order. -/
def selectedSlots (events : List InputEvent) : List Int :=
  events.filterMap fun
    | .mtSlot slot => some slot
    | _ => none

@[simp] theorem selectedSlots_append (first second : List InputEvent) :
    selectedSlots (first ++ second) = selectedSlots first ++ selectedSlots second :=
  List.filterMap_append _ _ _

/-- The event is a contact's position or pressure. -/
def InputEvent.isContactAxis : InputEvent → Bool
  | .abs .mtPositionX _ | .abs .mtPositionY _ | .abs .mtPressure _ => true
  | _ => false

/-- Every position and pressure among the events reaches a slot for which the
consumer holds a tracking id when it arrives: no contact is reported on a slot
the consumer holds empty. -/
def AxesOnLiveSlots : MtView → List InputEvent → Prop
  | _, [] => True
  | view, event :: rest =>
      (event.isContactAxis = true → 0 ≤ view.trackingId view.slot) ∧
        AxesOnLiveSlots (view.apply event) rest

instance decidableAxesOnLiveSlots : (view : MtView) → (events : List InputEvent) →
    Decidable (AxesOnLiveSlots view events)
  | _, [] => isTrue trivial
  | view, event :: rest =>
    have := decidableAxesOnLiveSlots (view.apply event) rest
    inferInstanceAs (Decidable (_ ∧ _))

@[simp] theorem axesOnLiveSlots_append (view : MtView) (first second : List InputEvent) :
    AxesOnLiveSlots view (first ++ second) ↔
      AxesOnLiveSlots view first ∧ AxesOnLiveSlots (view.applyAll first) second := by
  induction first generalizing view with
  | nil => simp [AxesOnLiveSlots]
  | cons event rest inductionHypothesis => simp [AxesOnLiveSlots, inductionHypothesis, and_assoc]

theorem axesOnLiveSlots_of_not_isContactAxis {events : List InputEvent}
    (noAxis : ∀ event ∈ events, event.isContactAxis = false) (view : MtView) :
    AxesOnLiveSlots view events := by
  induction events generalizing view with
  | nil => trivial
  | cons event rest inductionHypothesis =>
    exact ⟨fun axis => absurd axis (by simp [noAxis event (.head _)]),
      inductionHypothesis (fun other member => noAxis other (.tail _ member)) _⟩

/-- The event is a slot selection, a slot state or an axis: it reaches only the
consumer's multi-touch state. -/
def InputEvent.isMtEvent : InputEvent → Bool
  | .mtSlot _ | .mtReportSlotState _ | .abs _ _ => true
  | _ => false

/-- One event on the state the consumer holds for key `code`. -/
def keyStep (code : KeyCode) (state : Bool) : InputEvent → Bool
  | .key reported pressed => if reported = code then pressed else state
  | _ => state

/-- The state the consumer last received for key `code`; released before any. -/
def keyState (code : KeyCode) (events : List InputEvent) : Bool :=
  events.foldl (keyStep code) false

theorem keyState_append (code : KeyCode) (first second : List InputEvent) :
    keyState code (first ++ second) = second.foldl (keyStep code) (keyState code first) :=
  List.foldl_append _ _ _ _

/-- Events that report no state of key `code` leave the consumer's state of it. -/
theorem foldl_keyStep_of_not_mem {code : KeyCode} {events : List InputEvent}
    (absent : ∀ pressed, InputEvent.key code pressed ∉ events) (state : Bool) :
    events.foldl (keyStep code) state = state := by
  induction events with
  | nil => rfl
  | cons event rest inductionHypothesis =>
    have kept : keyStep code state event = state := by
      cases event with
      | key reported pressed =>
        have other : reported ≠ code := by
          rintro rfl
          exact absent pressed (.head _)
        simp [keyStep, other]
      | _ => rfl
    rw [List.foldl_cons, kept]
    exact inductionHypothesis fun pressed member => absent pressed (.tail _ member)

theorem foldl_keyStep_of_isMtEvent {events : List InputEvent}
    (multiTouch : ∀ event ∈ events, event.isMtEvent) (code : KeyCode) (state : Bool) :
    events.foldl (keyStep code) state = state :=
  foldl_keyStep_of_not_mem (fun _ member => Bool.false_ne_true (multiTouch _ member)) state

end HidLogitech
