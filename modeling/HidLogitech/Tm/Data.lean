import HidLogitech.Hidpp

/-!
# Touch mouse: driver data

`struct tm_data` holds the touchpad geometry reported by the device, the two
resolved feature indices, the tracking-id counter and previous slot mask of the
contact tracker, the button arbiter's depressors, and the flags of the mode
negotiation. The byte and word fields keep their C widths.

A depressor is one of the four `DEPRESSOR_*` constants, the only values ever
stored in `button_depressor`; its index is the button, 0 for `BTN_LEFT`, 1 for
`BTN_RIGHT`, 2 for `BTN_MIDDLE`.
-/

namespace HidLogitech.Tm

/-- `SOFTWARE_ID`. -/
def softwareId : UInt8 := 0xB

/-- `FEATURE_TOUCH_MOUSE_RAW_POINTS`. -/
def featureTouchMouseRawPoints : UInt16 := 0x6110

/-- `FEATURE_TOUCH_MOUSE_1B03`. -/
def featureTouchMouse1b03 : UInt16 := 0x1b03

/-- `ORIGIN_LOWER_LEFT`, `ORIGIN_LOWER_RIGHT` and `ORIGIN_UPPER_RIGHT`, the
corners `emit_fingers` compares the origin with. -/
def originLowerLeft : UInt8 := 1
def originLowerRight : UInt8 := 2
def originUpperRight : UInt8 := 4

/-- `struct tm_touchpad_info`. -/
structure TmTouchpadInfo where
  xSize : UInt16
  ySize : UInt16
  resolution : UInt16
  originPosition : UInt8
  maxFingers : UInt8
  maxWidth : UInt8
deriving DecidableEq, Repr

/-- `DEPRESSOR_NONE`, `DEPRESSOR_MOUSE` (mouse report), `DEPRESSOR_RAWPTS`
(feature 0x6110 raw touch points) and `DEPRESSOR_1B03` (feature 0x1b03). -/
inductive Depressor where
  | none
  | mouse
  | rawpts
  | hidpp1b03
deriving DecidableEq, Repr

/-- The fields of `struct tm_data` that the modelled functions read or write. -/
structure TmData where
  tpInfo : TmTouchpadInfo
  mtFeatureIndex : UInt8
  feature1b03 : UInt8
  nextTrackingId : UInt16
  prevSlotsUsed : UInt8
  buttonDepressor : Fin 3 → Depressor
  ignoreMouseReportButtons : Bool
  hidHwStarted : Bool
  inRawMode : Bool
  rawSwitchRequested : Bool

/-- The zeroed `tp_info` of a freshly allocated `tm_data`. -/
def TmTouchpadInfo.zero : TmTouchpadInfo := ⟨0, 0, 0, 0, 0, 0⟩

/-- `tm_probe`'s `tm_data`: zeroed by `kzalloc`, then `prev_slots_used = 0`,
`next_tracking_id = 1` and the product's mouse-report flag. -/
def tmProbeData (ignoreMouseReportButtons : Bool) : TmData where
  tpInfo := .zero
  mtFeatureIndex := 0
  feature1b03 := 0
  nextTrackingId := 1
  prevSlotsUsed := 0
  buttonDepressor := fun _ => .none
  ignoreMouseReportButtons := ignoreMouseReportButtons
  hidHwStarted := false
  inRawMode := false
  rawSwitchRequested := false

end HidLogitech.Tm
