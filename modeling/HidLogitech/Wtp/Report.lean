import HidLogitech.Hidpp
import Mathlib.Data.Fin.VecNotation
import Mathlib.Tactic.FinCases

/-!
# Wireless touchpad: dual-touch report decoding

A dual-touch report carries two 7-byte touch records after a six-byte header.
`hidpp_touchpad_raw_xy_event` unpacks the frame flags and the finger count from
the records' id bytes and each processed record into a
`struct hidpp_touchpad_raw_xy_finger`; `wtp_touchpad_raw_xy_event` then hands
the processed records to `wtp_touch_event`, which addresses the slot
`finger_id - 1`.

Which records are processed, and whether the report closes a frame, depend only
on the two id bytes. The finger id is the high nibble of the first id byte, so a
processed record may name any slot index from `-1` to `14`. Decoding a record
keeps every byte of it but the low nibble of the id byte, and a report packed by
a device, with fields within their widths, decodes to what was packed.
-/

namespace HidLogitech.Wtp

/-- `struct touch_hidpp_report`: one touch record. -/
structure TouchHidppReport where
  xM : UInt8
  xL : UInt8
  yM : UInt8
  yL : UInt8
  z : UInt8
  area : UInt8
  id : UInt8
deriving DecidableEq, Repr

/-- `struct dual_touch_hidpp_report`, through the cast of the received report:
record `index` starts at byte `6 + 7 * index`. The header bytes are not read. -/
structure DualTouchHidppReport where
  touches : Fin 2 → TouchHidppReport

/-- The cast `(struct dual_touch_hidpp_report *)hidpp_report`. -/
def dualTouchReport (report : HidppReport) : DualTouchHidppReport where
  touches index :=
    let base := 6 + 7 * index.val
    { xM := report.byte base, xL := report.byte (base + 1), yM := report.byte (base + 2),
      yL := report.byte (base + 3), z := report.byte (base + 4), area := report.byte (base + 5),
      id := report.byte (base + 6) }

/-- `struct hidpp_touchpad_raw_xy_finger`. -/
structure HidppTouchpadRawXyFinger where
  contactType : UInt8
  contactStatus : UInt8
  x : UInt16
  y : UInt16
  z : UInt8
  area : UInt8
  fingerId : UInt8
deriving DecidableEq, Repr

/-- `hidpp_touchpad_touch_event`: the coordinate's high bits are the low six bits
of `x_m` (`u8 x_m = touch_report->x_m << 2`, then `<< 6`), the contact type and
status the top two bits of `x_m` and `y_m`, the finger id the id's high nibble. -/
def hidppTouchpadTouchEvent (touch : TouchHidppReport) : HidppTouchpadRawXyFinger where
  contactType := touch.xM >>> 6
  x := UInt16.ofNat (((touch.xM <<< 2).toNat <<< 6) ||| touch.xL.toNat)
  contactStatus := touch.yM >>> 6
  y := UInt16.ofNat (((touch.yM <<< 2).toNat <<< 6) ||| touch.yL.toNat)
  fingerId := touch.id >>> 4
  z := touch.z
  area := touch.area

/-- `struct hidpp_touchpad_raw_xy` as filled by `hidpp_touchpad_raw_xy_event`.
The source decodes a finger only under the guard that later reads it; decoding
is pure, so the model decodes a finger where it is read. -/
structure HidppTouchpadRawXy where
  fingers : Fin 2 → HidppTouchpadRawXyFinger
  spuriousFlag : UInt8
  endOfFrame : UInt8
  fingerCount : UInt8

/-- The frame flags and finger count come from the two records' id bytes. -/
def rawXy (report : DualTouchHidppReport) : HidppTouchpadRawXy where
  fingers index := hidppTouchpadTouchEvent (report.touches index)
  endOfFrame := (report.touches 0).id &&& 0x01
  spuriousFlag := ((report.touches 0).id >>> 1) &&& 0x01
  fingerCount := (report.touches 1).id &&& 0x0f

namespace HidppTouchpadRawXy

/-- `bool end_of_frame = raw->end_of_frame`. -/
def endOfFrameSet (raw : HidppTouchpadRawXy) : Bool := raw.endOfFrame ≠ 0

/-- The guard on the second record:
`(end_of_frame && finger_count == 4) || (!end_of_frame && finger_count >= 2)`. -/
def secondProcessed (raw : HidppTouchpadRawXy) : Bool :=
  (raw.endOfFrameSet && raw.fingerCount == 4) || (!raw.endOfFrameSet && 2 ≤ raw.fingerCount)

/-- The records handed to `wtp_touch_event`, in order: the first whenever
`finger_count` is nonzero, the second also under `secondProcessed`. -/
def processedFingers (raw : HidppTouchpadRawXy) : List HidppTouchpadRawXyFinger :=
  if raw.fingerCount ≠ 0 then
    raw.fingers 0 :: if raw.secondProcessed then [raw.fingers 1] else []
  else []

/-- `end_of_frame || finger_count <= 2`: the report closes a frame. -/
def closesFrame (raw : HidppTouchpadRawXy) : Bool :=
  raw.endOfFrameSet || raw.fingerCount ≤ 2

end HidppTouchpadRawXy

theorem uint8_ne_zero_iff (value : UInt8) : value ≠ 0 ↔ value.toNat ≠ 0 :=
  ⟨fun nonzero zero => nonzero (UInt8.toNat.inj zero), fun nonzero zero => nonzero (by rw [zero]; rfl)⟩

/-- `end_of_frame` is bit 0 of the first record's id byte. -/
theorem rawXy_endOfFrameSet (report : DualTouchHidppReport) :
    (rawXy report).endOfFrameSet = decide ((report.touches 0).id.toNat % 2 = 1) := by
  have low : ((report.touches 0).id &&& 0x01).toNat = (report.touches 0).id.toNat % 2 := by
    rw [UInt8.and_toNat]
    show _ &&& 1 = _
    rw [Nat.and_one_is_mod]
  simp only [HidppTouchpadRawXy.endOfFrameSet, rawXy, decide_eq_decide, uint8_ne_zero_iff, low]
  omega

/-- `finger_count` is the low nibble of the second record's id byte. -/
theorem rawXy_fingerCount_toNat (report : DualTouchHidppReport) :
    (rawXy report).fingerCount.toNat = (report.touches 1).id.toNat % 16 := by
  show ((report.touches 1).id &&& 0x0f).toNat = _
  rw [UInt8.and_toNat]
  show _ &&& (2 ^ 4 - 1) = _
  rw [Nat.and_pow_two_sub_one_eq_mod]

/-- `int slot = touch_report->finger_id - 1`. -/
def slotOf (finger : HidppTouchpadRawXyFinger) : Int := finger.fingerId.toNat - 1

/-- The cell of `fd->slots[5]` that an index addresses; none outside the array,
where the C access is undefined. -/
def slotCell (slot : Int) : Option (Fin 5) :=
  if inside : 0 ≤ slot ∧ slot < 5 then some ⟨slot.toNat, by omega⟩ else none

theorem slotCell_eq_some {slot : Int} {cell : Fin 5} :
    slotCell slot = some cell ↔ slot = cell.val := by
  unfold slotCell
  split
  · constructor
    · rintro ⟨⟩; simp only [Int.toNat_of_nonneg ‹0 ≤ slot ∧ slot < 5›.1]
    · intro same; simp only [Option.some.injEq, Fin.ext_iff]; omega
  · simp only [reduceCtorEq, false_iff]
    intro same
    have := cell.isLt
    omega

/-- A record's slot index lies in the array exactly when its finger id is 1 to 5. -/
theorem slotCell_isSome_iff (finger : HidppTouchpadRawXyFinger) :
    (slotCell (slotOf finger)).isSome ↔ 1 ≤ finger.fingerId.toNat ∧ finger.fingerId.toNat ≤ 5 := by
  unfold slotCell slotOf
  split <;> simp only [Option.isSome_some, Option.isSome_none, Bool.false_eq_true, true_iff,
    false_iff] <;> omega

/-! ## What a record's decoding keeps -/

/-- A coordinate is the low six bits of its high byte above its low byte:
`x_m << 2` on a `u8`, then `<< 6` and `| x_l` on an `int`. -/
theorem coordinate_toNat (high low : UInt8) :
    (UInt16.ofNat (((high <<< 2).toNat <<< 6) ||| low.toNat)).toNat =
      high.toNat % 64 * 256 + low.toNat := by
  have highBits : (high <<< 2).toNat <<< 6 = (high.toNat % 64) <<< 8 := by
    rw [uint8_toNat_shiftLeft, Nat.shiftLeft_eq, Nat.shiftLeft_eq]
    show high.toNat * 4 % 256 * 64 = high.toNat % 64 * 256
    omega
  have byte : low.toNat < 2 ^ 8 := low.toNat_lt_size
  have small : high.toNat % 64 * 256 + low.toNat < UInt16.size := by
    simp only [UInt16.size]
    omega
  rw [highBits, Nat.or_comm, or_shiftLeft_eq_add byte, UInt16.toNat_ofNat_of_lt (by omega)]
  omega

/-- A decoded coordinate has 14 bits. -/
theorem hidppTouchpadTouchEvent_coordinates_lt (touch : TouchHidppReport) :
    (hidppTouchpadTouchEvent touch).x.toNat < 16384 ∧ (hidppTouchpadTouchEvent touch).y.toNat < 16384 := by
  have bytes := And.intro touch.xL.toNat_lt_size touch.yL.toNat_lt_size
  simp only [hidppTouchpadTouchEvent, coordinate_toNat, UInt8.size] at bytes ⊢
  omega

/-- Two touch records decode to the same finger exactly when they agree in every
byte but the low nibble of the id byte, which carries the frame flags and the
finger count instead. -/
theorem hidppTouchpadTouchEvent_eq_iff (touch other : TouchHidppReport) :
    hidppTouchpadTouchEvent touch = hidppTouchpadTouchEvent other ↔
      { touch with id := touch.id >>> 4 } = { other with id := other.id >>> 4 } := by
  have top (b : UInt8) : (b >>> 6).toNat = b.toNat / 64 := uint8_toNat_shiftRight b 6
  rcases touch with ⟨xM, xL, yM, yL, z, area, id⟩
  rcases other with ⟨xM', xL', yM', yL', z', area', id'⟩
  have bytes : xL.toNat < 256 ∧ xL'.toNat < 256 ∧ yL.toNat < 256 ∧ yL'.toNat < 256 :=
    ⟨xL.toNat_lt_size, xL'.toNat_lt_size, yL.toNat_lt_size, yL'.toNat_lt_size⟩
  simp only [hidppTouchpadTouchEvent, HidppTouchpadRawXyFinger.mk.injEq, TouchHidppReport.mk.injEq]
  constructor
  · rintro ⟨contactType, contactStatus, x, y, z, area, fingerId⟩
    have x := congrArg UInt16.toNat x
    have y := congrArg UInt16.toNat y
    have contactType := congrArg UInt8.toNat contactType
    have contactStatus := congrArg UInt8.toNat contactStatus
    simp only [coordinate_toNat, top] at x y contactType contactStatus
    refine ⟨UInt8.toNat.inj ?_, UInt8.toNat.inj ?_, UInt8.toNat.inj ?_, UInt8.toNat.inj ?_, z, area,
      fingerId⟩ <;> omega
  · rintro ⟨rfl, rfl, rfl, rfl, rfl, rfl, fingerId⟩
    exact ⟨rfl, rfl, rfl, rfl, rfl, rfl, fingerId⟩

/-! ## Reports a device sends -/

/-- The finger's fields fit the widths a touch record gives them: two bits each
for the contact type and status, 14 bits for each coordinate, four for the id. -/
def HidppTouchpadRawXyFinger.Fits (finger : HidppTouchpadRawXyFinger) : Prop :=
  finger.contactType.toNat < 4 ∧ finger.contactStatus.toNat < 4 ∧ finger.x.toNat < 16384 ∧
    finger.y.toNat < 16384 ∧ finger.fingerId.toNat < 16

instance : DecidablePred HidppTouchpadRawXyFinger.Fits :=
  fun _ => inferInstanceAs (Decidable (_ ∧ _))

/-- The touch record a device sends for `finger`, `flags` in the low nibble of
the id byte: the contact type and status above the coordinates' high six bits. -/
def touchRecord (finger : HidppTouchpadRawXyFinger) (flags : UInt8) : TouchHidppReport where
  xM := UInt8.ofNat (finger.contactType.toNat * 64 + finger.x.toNat / 256)
  xL := UInt8.ofNat (finger.x.toNat % 256)
  yM := UInt8.ofNat (finger.contactStatus.toNat * 64 + finger.y.toNat / 256)
  yL := UInt8.ofNat (finger.y.toNat % 256)
  z := finger.z
  area := finger.area
  id := UInt8.ofNat (finger.fingerId.toNat * 16 + flags.toNat)

/-- Two bits above a 14-bit coordinate, packed into a high and a low byte,
decode back: the bits from the high byte's top, the coordinate from its low six
bits and the low byte. -/
theorem packedCoordinate_decode {high low top : UInt8} {coordinate : UInt16}
    (highByte : high.toNat = top.toNat * 64 + coordinate.toNat / 256)
    (lowByte : low.toNat = coordinate.toNat % 256) (fits : coordinate.toNat < 16384) :
    high >>> 6 = top ∧ UInt16.ofNat (((high <<< 2).toNat <<< 6) ||| low.toNat) = coordinate := by
  constructor
  · apply UInt8.toNat.inj
    rw [uint8_toNat_shiftRight, highByte]
    show _ / 64 = _
    omega
  · apply UInt16.toNat.inj
    rw [coordinate_toNat, highByte, lowByte]
    omega

theorem touchRecord_id_toNat {finger : HidppTouchpadRawXyFinger} (fits : finger.Fits) (flags : UInt8)
    (low : flags.toNat < 16) :
    (touchRecord finger flags).id.toNat = finger.fingerId.toNat * 16 + flags.toNat :=
  UInt8.toNat_ofNat_of_lt (show _ < 256 by have := fits.2.2.2.2; omega)

/-- Decoding a record undoes the packing of every field that fits. -/
theorem hidppTouchpadTouchEvent_touchRecord (finger : HidppTouchpadRawXyFinger) (flags : UInt8)
    (fits : finger.Fits) (low : flags.toNat < 16) :
    hidppTouchpadTouchEvent (touchRecord finger flags) = finger := by
  have byte (n : Nat) (small : n < 256) : (UInt8.ofNat n).toNat = n := UInt8.toNat_ofNat_of_lt small
  have id := touchRecord_id_toNat fits flags low
  obtain ⟨contactType, contactStatus, x, y, fingerId⟩ := fits
  obtain ⟨typeBack, xBack⟩ := @packedCoordinate_decode (touchRecord finger flags).xM
    (touchRecord finger flags).xL _ _ (byte _ (by omega)) (byte _ (by omega)) x
  obtain ⟨statusBack, yBack⟩ := @packedCoordinate_decode (touchRecord finger flags).yM
    (touchRecord finger flags).yL _ _ (byte _ (by omega)) (byte _ (by omega)) y
  have idBack : (touchRecord finger flags).id >>> 4 = finger.fingerId := by
    apply UInt8.toNat.inj
    rw [uint8_toNat_shiftRight, id]
    show _ / 16 = _
    omega
  simp only [hidppTouchpadTouchEvent, typeBack, xBack, statusBack, yBack, idBack]
  rfl

/-- The dual-touch report a device sends for two fingers: a header the decoder
does not read (zero here), then the two records, the end-of-frame and spurious
flags in the low bits of the first id byte and the finger count in the low
nibble of the second. -/
def dualTouchBytes (first second : HidppTouchpadRawXyFinger) (endOfFrame spurious : Bool)
    (fingerCount : UInt8) : HidppReport :=
  let bytes (touch : TouchHidppReport) :=
    [touch.xM, touch.xL, touch.yM, touch.yL, touch.z, touch.area, touch.id]
  .ofList ([0, 0, 0, 0, 0, 0] ++
    bytes (touchRecord first (UInt8.ofNat (endOfFrame.toNat + 2 * spurious.toNat))) ++
      bytes (touchRecord second fingerCount))

/-- The cast reads each record back from its offset. -/
theorem dualTouchReport_dualTouchBytes (first second : HidppTouchpadRawXyFinger)
    (endOfFrame spurious : Bool) (fingerCount : UInt8) :
    (dualTouchReport (dualTouchBytes first second endOfFrame spurious fingerCount)).touches =
      ![touchRecord first (UInt8.ofNat (endOfFrame.toNat + 2 * spurious.toNat)),
        touchRecord second fingerCount] := by
  funext index
  fin_cases index <;> rfl

/-- `hidpp_touchpad_raw_xy_event` reads back what a device packs: two fingers
whose fields fit, the frame flags and a finger count below 16 decode to
themselves. -/
theorem dual_touch_report_round_trip (first second : HidppTouchpadRawXyFinger)
    (endOfFrame spurious : Bool) (fingerCount : UInt8) (fit : first.Fits ∧ second.Fits)
    (small : fingerCount.toNat < 16) :
    rawXy (dualTouchReport (dualTouchBytes first second endOfFrame spurious fingerCount)) =
      { fingers := ![first, second]
        spuriousFlag := UInt8.ofNat spurious.toNat
        endOfFrame := UInt8.ofNat endOfFrame.toNat
        fingerCount := fingerCount } := by
  have bits := And.intro (Bool.toNat_le endOfFrame) (Bool.toNat_le spurious)
  have bit (b : Bool) : (UInt8.ofNat b.toNat).toNat = b.toNat := by cases b <;> rfl
  have flags : (UInt8.ofNat (endOfFrame.toNat + 2 * spurious.toNat)).toNat =
      endOfFrame.toNat + 2 * spurious.toNat := UInt8.toNat_ofNat_of_lt (show _ < 256 by omega)
  have firstId :=
    touchRecord_id_toNat fit.1 (UInt8.ofNat (endOfFrame.toNat + 2 * spurious.toNat)) (by omega)
  have secondId := touchRecord_id_toNat fit.2 _ small
  rw [flags] at firstId
  simp only [rawXy, dualTouchReport_dualTouchBytes, HidppTouchpadRawXy.mk.injEq, Matrix.cons_val_zero,
    Matrix.cons_val_one, Matrix.head_cons]
  refine ⟨funext fun index => ?_, UInt8.toNat.inj ?_, UInt8.toNat.inj ?_, UInt8.toNat.inj ?_⟩
  · fin_cases index
    · exact hidppTouchpadTouchEvent_touchRecord first _ fit.1 (by omega)
    · exact hidppTouchpadTouchEvent_touchRecord second _ fit.2 small
  · rw [UInt8.and_toNat, uint8_toNat_shiftRight, firstId, bit]
    show (_ / 2) &&& 1 = _
    rw [Nat.and_one_is_mod]
    omega
  · rw [UInt8.and_toNat, firstId, bit]
    show _ &&& 1 = _
    rw [Nat.and_one_is_mod]
    omega
  · rw [UInt8.and_toNat, secondId]
    show _ &&& (2 ^ 4 - 1) = _
    rw [Nat.and_pow_two_sub_one_eq_mod]
    omega

/-- Two contacts, in slots 0 and 1. -/
def firstContact : HidppTouchpadRawXyFinger := ⟨0, 1, 1200, 800, 40, 30, 1⟩
def secondContact : HidppTouchpadRawXyFinger := ⟨0, 1, 3000, 2000, 35, 25, 2⟩

theorem two_contacts_round_trip :
    (firstContact.Fits ∧ secondContact.Fits) ∧ (2 : UInt8).toNat < 16 ∧
      rawXy (dualTouchReport (dualTouchBytes firstContact secondContact true false 2)) =
        { fingers := ![firstContact, secondContact]
          spuriousFlag := UInt8.ofNat false.toNat
          endOfFrame := UInt8.ofNat true.toNat
          fingerCount := 2 } :=
  ⟨by decide, by decide, dual_touch_report_round_trip _ _ _ _ _ (by decide) (by decide)⟩

end HidLogitech.Wtp
