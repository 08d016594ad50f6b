import HidLogitech.Tm.Data
import Mathlib.Order.Basic

/-!
# Touch mouse: the raw-mode handshake

`tm_set_raw_report_state` sends five register accesses in order: the HID++
version, the feature indices of `0x6110` and `0x1b03`, the touchpad parameters
and the raw-mode request. The first failing command ends the attempt with its
negated return code. Each command's result is stored in `tm_data` as soon as
the command returns, so a failure leaves the fields of the commands before it
written.

`tmSetRawReportState_eq` gives an attempt's effect in closed form, from the
number of commands that succeeded before the first failure. The geometry read
from the get-parameters answer keeps every one of the nine bytes it reads.
-/

namespace HidLogitech.Tm

/-- `tm_hidpp_send_sync`: a register access whose address byte packs the
sub-index over the software id. -/
def tmHidppSendSync (transport : HidppTransport) (kind : HidppReportKind)
    (featureIndex subIndex softwareId : UInt8) (params : List UInt8) : Int × HidppReport :=
  transport.sendSync (.rap kind featureIndex ((subIndex <<< 4) ||| softwareId) params)

/-- Get the HID++ version number. -/
def getVersion (transport : HidppTransport) : Int × HidppReport :=
  tmHidppSendSync transport .short 0 1 softwareId []

/-- Get the feature index of `0x6110`. -/
def getRawPointsIndex (transport : HidppTransport) : Int × HidppReport :=
  tmHidppSendSync transport .short 0 0 softwareId
    [(featureTouchMouseRawPoints >>> 8).toUInt8, (featureTouchMouseRawPoints &&& 0xff).toUInt8]

/-- Get the feature index of `0x1b03`. -/
def get1b03Index (transport : HidppTransport) : Int × HidppReport :=
  tmHidppSendSync transport .short 0 0 softwareId
    [(featureTouchMouse1b03 >>> 8).toUInt8, (featureTouchMouse1b03 &&& 0xff).toUInt8]

/-- Get the touchpad parameters from feature `fIdx`. -/
def getParams (transport : HidppTransport) (fIdx : UInt8) : Int × HidppReport :=
  tmHidppSendSync transport .short fIdx 0 softwareId []

/-- Request raw mode from feature `fIdx`. -/
def requestRawMode (transport : HidppTransport) (fIdx : UInt8) : Int × HidppReport :=
  tmHidppSendSync transport .short fIdx 2 softwareId [3]

/-- The geometry in a get-parameters response: three big-endian words, then
the origin, the finger count and the maximal width. -/
def TmTouchpadInfo.ofResponse (response : HidppReport) : TmTouchpadInfo where
  xSize := (response.params 0).toUInt16 <<< 8 ||| (response.params 1).toUInt16
  ySize := (response.params 2).toUInt16 <<< 8 ||| (response.params 3).toUInt16
  resolution := (response.params 4).toUInt16 <<< 8 ||| (response.params 5).toUInt16
  originPosition := response.params 6
  maxFingers := response.params 7
  maxWidth := response.params 8

/-- Two get-parameters responses give the same geometry exactly when their first
nine parameter bytes agree: the decoding keeps every byte it reads. -/
theorem ofResponse_eq_iff (response other : HidppReport) :
    TmTouchpadInfo.ofResponse response = TmTouchpadInfo.ofResponse other ↔
      ∀ i < 9, response.params i = other.params i := by
  constructor
  · intro same i below
    have field (f : TmTouchpadInfo → Nat) := congrArg f same
    have x := field fun info => info.xSize.toNat
    have y := field fun info => info.ySize.toNat
    have resolution := field fun info => info.resolution.toNat
    have origin := field fun info => info.originPosition.toNat
    have fingers := field fun info => info.maxFingers.toNat
    have width := field fun info => info.maxWidth.toNat
    simp only [TmTouchpadInfo.ofResponse, bigEndian_toNat] at x y resolution origin fingers width
    have low (report : HidppReport) : (report.params 1).toNat < 256 ∧
        (report.params 3).toNat < 256 ∧ (report.params 5).toNat < 256 :=
      ⟨(report.params 1).toNat_lt_size, (report.params 3).toNat_lt_size,
        (report.params 5).toNat_lt_size⟩
    have lowBytes := And.intro (low response) (low other)
    apply UInt8.toNat.inj
    rcases (by omega : i = 0 ∨ i = 1 ∨ i = 2 ∨ i = 3 ∨ i = 4 ∨ i = 5 ∨ i = 6 ∨ i = 7 ∨ i = 8) with
      rfl | rfl | rfl | rfl | rfl | rfl | rfl | rfl | rfl <;> omega
  · intro agree
    simp only [TmTouchpadInfo.ofResponse, agree 0 (by decide), agree 1 (by decide), agree 2 (by decide),
      agree 3 (by decide), agree 4 (by decide), agree 5 (by decide), agree 6 (by decide),
      agree 7 (by decide), agree 8 (by decide)]

/-- `tm_set_raw_report_state`: the new state and the return value, zero on
success and the failing command's negated return code otherwise. -/
def tmSetRawReportState (transport : HidppTransport) (fd : TmData) : TmData × Int :=
  let version := getVersion transport
  if version.1 ≠ 0 then (fd, -version.1) else
  let rawPoints := getRawPointsIndex transport
  if rawPoints.1 ≠ 0 then (fd, -rawPoints.1) else
  let fIdx := rawPoints.2.params 0
  let fd := { fd with mtFeatureIndex := fIdx }
  let index1b03 := get1b03Index transport
  if index1b03.1 ≠ 0 then (fd, -index1b03.1) else
  let fd := { fd with feature1b03 := index1b03.2.params 0 }
  let params := getParams transport fIdx
  if params.1 ≠ 0 then (fd, -params.1) else
  let fd := { fd with tpInfo := TmTouchpadInfo.ofResponse params.2 }
  let rawMode := requestRawMode transport fIdx
  if rawMode.1 ≠ 0 then (fd, -rawMode.1) else (fd, rawMode.1)

/-! ## An attempt in closed form -/

/-- The return codes of the five commands, as the transport answers them. -/
def handshakeReturns (transport : HidppTransport) : List Int :=
  let fIdx := (getRawPointsIndex transport).2.params 0
  [(getVersion transport).1, (getRawPointsIndex transport).1, (get1b03Index transport).1,
    (getParams transport fIdx).1, (requestRawMode transport fIdx).1]

/-- How many commands succeed before the first failure. -/
def handshakeCompleted (transport : HidppTransport) : Nat :=
  ((handshakeReturns transport).takeWhile (· == 0)).length

/-- What an attempt stores: the value of each command that ran and succeeded. -/
def handshakeWrites (transport : HidppTransport) (fd : TmData) : TmData :=
  let fIdx := (getRawPointsIndex transport).2.params 0
  { fd with
    mtFeatureIndex := if 2 ≤ handshakeCompleted transport then fIdx else fd.mtFeatureIndex
    feature1b03 :=
      if 3 ≤ handshakeCompleted transport then (get1b03Index transport).2.params 0
      else fd.feature1b03
    tpInfo :=
      if 4 ≤ handshakeCompleted transport then TmTouchpadInfo.ofResponse (getParams transport fIdx).2
      else fd.tpInfo }

/-- An attempt stores the results of the commands that succeeded before the first
failure, and returns zero exactly when all five succeed. -/
theorem tmSetRawReportState_eq (transport : HidppTransport) (fd : TmData) :
    (tmSetRawReportState transport fd).1 = handshakeWrites transport fd ∧
      ((tmSetRawReportState transport fd).2 = 0 ↔ handshakeCompleted transport = 5) := by
  simp only [tmSetRawReportState, handshakeWrites, handshakeCompleted, handshakeReturns]
  by_cases version : (getVersion transport).1 = 0
  case neg => simp [version]
  by_cases rawPoints : (getRawPointsIndex transport).1 = 0
  case neg => simp [version, rawPoints]
  by_cases index1b03 : (get1b03Index transport).1 = 0
  case neg => simp [version, rawPoints, index1b03]
  by_cases params : (getParams transport ((getRawPointsIndex transport).2.params 0)).1 = 0
  case neg => simp [version, rawPoints, index1b03, params]
  by_cases rawMode : (requestRawMode transport ((getRawPointsIndex transport).2.params 0)).1 = 0 <;>
    simp [version, rawPoints, index1b03, params, rawMode]

@[simp] theorem tmSetRawReportState_fst (transport : HidppTransport) (fd : TmData) :
    (tmSetRawReportState transport fd).1 = handshakeWrites transport fd :=
  (tmSetRawReportState_eq transport fd).1

/-- A device in range: every command succeeds, every answer zero bytes. -/
def respondingTransport : HidppTransport := ⟨fun _ => (0, HidppReport.ofList [])⟩

/-- A device out of range: every command times out with `-ETIMEDOUT`. -/
def timedOutTransport : HidppTransport := ⟨fun _ => (-110, HidppReport.ofList [])⟩

end HidLogitech.Tm
