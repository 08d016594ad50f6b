import HidLogitech.Tm.Data
import HidLogitech.Input
import Mathlib.Logic.Function.Iterate
import Mathlib.Algebra.Group.Nat.Basic

/-!
# Touch mouse: raw finger records

`emit_fingers` walks the first `max_fingers` four-byte records of a raw
touch-points report. A record of four `0xff` bytes is the empty-slot sentinel;
any other record is a contact: its slot bit goes into `slots_used`, and it gets
a fresh tracking id when that bit was clear in the previous report's mask. The
coordinates are mirrored for origins on the right or at the bottom, and the tool
keys compare the whole mask with 1 to 4.

The loop bound comes from the device and is never compared with the four
records that the report's sixteen parameter bytes hold, and the slot bit is a
`u8`, zero from slot 8 on. `fingerLoop_slotBit` and `applyAll_fingerLoop` give
the loop's effect in closed form; the tracker's run properties are derived from
them. The loop selects each slot below its bound once, in order, and reports
only slot selections and absolute axes. A record reads back the contact a
device packs into it, but for the one contact whose packing is the sentinel.
-/

namespace HidLogitech.Tm

/-- `rec[k]` of record `i`: `rec = bytes + 4 * i`. -/
def record (bytes : Nat → UInt8) (i k : Nat) : UInt8 := bytes (4 * i + k)

/-- The sentinel `rec[0..3] == 0xff`. -/
def isSentinel (bytes : Nat → UInt8) (i : Nat) : Bool :=
  record bytes i 0 == 0xff && record bytes i 1 == 0xff && record bytes i 2 == 0xff &&
    record bytes i 3 == 0xff

/-- `u8 slot_mask = 1 << i`. From slot 32 on the C shift is undefined; the model
takes the exact shift, which leaves the `u8` mask zero as for slots 8 to 31. -/
def slotMask (i : Nat) : UInt8 := UInt8.ofNat (1 <<< i)

/-- Bit `j` of a slot mask. -/
def slotBit (mask : UInt8) (j : Nat) : Bool := mask.toNat.testBit j

/-- `fd->next_tracking_id++`, set back to 1 when it reaches `0xffff`. -/
def advanceTrackingId (id : UInt16) : UInt16 := if id + 1 = 0xffff then 1 else id + 1

namespace TmTouchpadInfo

/-- `swap_x`: the origin is on the right. -/
def swapX (info : TmTouchpadInfo) : Bool :=
  info.originPosition == originLowerRight || info.originPosition == originUpperRight

/-- `swap_y`: the origin is at the bottom. -/
def swapY (info : TmTouchpadInfo) : Bool :=
  info.originPosition == originLowerLeft || info.originPosition == originLowerRight

end TmTouchpadInfo

/-- `x_pos = rec[0] << 4 | (rec[2] & 0xf)`, then `x_size - x_pos` under `swap_x`. -/
def xPosition (info : TmTouchpadInfo) (bytes : Nat → UInt8) (i : Nat) : Int :=
  let x : Int := ((record bytes i 0).toNat <<< 4 ||| ((record bytes i 2).toNat &&& 0xf) : Nat)
  if info.swapX then info.xSize.toNat - x else x

/-- `y_pos = rec[1] << 4 | (rec[2] >> 4)`, then `y_size - y_pos` under `swap_y`. -/
def yPosition (info : TmTouchpadInfo) (bytes : Nat → UInt8) (i : Nat) : Int :=
  let y : Int := ((record bytes i 1).toNat <<< 4 ||| ((record bytes i 2).toNat >>> 4) : Nat)
  if info.swapY then info.ySize.toNat - y else y

/-- `MIN(MAX(30, width_x * width_y * 3), 255)`, the widths being the nibbles of
`rec[3]` plus one. -/
def pressure (bytes : Nat → UInt8) (i : Nat) : Int :=
  let widthX : Int := ((record bytes i 3).toNat >>> 4 : Nat) + 1
  let widthY : Int := ((record bytes i 3).toNat &&& 0xf : Nat) + 1
  min (max 30 (widthX * widthY * 3)) 255

/-- The record's 12-bit x field, `rec[0] << 4 | (rec[2] & 0xf)`, as a number. -/
theorem xField_eq (bytes : Nat → UInt8) (i : Nat) :
    (record bytes i 0).toNat <<< 4 ||| ((record bytes i 2).toNat &&& 0xf) =
      (record bytes i 0).toNat * 16 + (record bytes i 2).toNat % 16 := by
  rw [Nat.or_comm, show (0xf : Nat) = 2 ^ 4 - 1 from rfl, Nat.and_pow_two_sub_one_eq_mod,
    or_shiftLeft_eq_add (Nat.mod_lt _ (by decide))]
  omega

/-- The record's 12-bit y field, `rec[1] << 4 | (rec[2] >> 4)`, as a number. -/
theorem yField_eq (bytes : Nat → UInt8) (i : Nat) :
    (record bytes i 1).toNat <<< 4 ||| (record bytes i 2).toNat >>> 4 =
      (record bytes i 1).toNat * 16 + (record bytes i 2).toNat / 16 := by
  have byte := (record bytes i 2).toNat_lt_size
  rw [Nat.or_comm, Nat.shiftRight_eq_div_pow,
    or_shiftLeft_eq_add (show (record bytes i 2).toNat / 2 ^ 4 < 2 ^ 4 by
      simp only [UInt8.size] at byte; omega)]
  omega

/-- The four bytes a device sends for a contact at `(x, y)` with widths
`widthX` and `widthY`: the high eight bits of each coordinate, their low nibbles
(x below y), and the widths less one (x above y). -/
def contactRecord (x y widthX widthY : Nat) : Nat → UInt8
  | 0 => UInt8.ofNat (x / 16)
  | 1 => UInt8.ofNat (y / 16)
  | 2 => UInt8.ofNat (x % 16 + y % 16 * 16)
  | _ => UInt8.ofNat ((widthX - 1) * 16 + (widthY - 1))

/-- `emit_fingers` reads back every contact a device packs, mirrored for the
origin, except one: a contact at `(4095, 4095)` with both widths 16 packs to
four `0xff` bytes and reads as an empty slot. -/
theorem contact_record_round_trip (info : TmTouchpadInfo) (bytes : Nat → UInt8) (i x y widthX widthY : Nat)
    (packed : ∀ k < 4, record bytes i k = contactRecord x y widthX widthY k) (fits : x < 4096 ∧ y < 4096)
    (widths : 1 ≤ widthX ∧ widthX ≤ 16 ∧ 1 ≤ widthY ∧ widthY ≤ 16) :
    (isSentinel bytes i = true ↔ x = 4095 ∧ y = 4095 ∧ widthX = 16 ∧ widthY = 16) ∧
      xPosition info bytes i = (if info.swapX then (info.xSize.toNat : Int) - x else x) ∧
      yPosition info bytes i = (if info.swapY then (info.ySize.toNat : Int) - y else y) ∧
      pressure bytes i = min (max 30 ((widthX : Int) * widthY * 3)) 255 := by
  have byte (k : Nat) (small : k < 4) (value : Nat) (eq : contactRecord x y widthX widthY k = UInt8.ofNat value)
      (fits : value < 256) : (record bytes i k).toNat = value := by
    rw [packed k small, eq]
    exact UInt8.toNat_ofNat_of_lt fits
  have high := byte 0 (by decide) _ rfl (by omega)
  have middle := byte 1 (by decide) _ rfl (by omega)
  have low := byte 2 (by decide) _ rfl (by omega)
  have widthByte := byte 3 (by decide) _ rfl (by omega)
  have full (b : UInt8) : b = 0xff ↔ b.toNat = 255 :=
    ⟨fun same => by rw [same]; rfl, fun fullByte => UInt8.toNat.inj (by rw [fullByte]; rfl)⟩
  have widthXField : (((record bytes i 3).toNat >>> 4 : Nat) : Int) + 1 = widthX := by
    rw [Nat.shiftRight_eq_div_pow, widthByte]
    omega
  have widthYField : (((record bytes i 3).toNat &&& 0xf : Nat) : Int) + 1 = widthY := by
    rw [show (0xf : Nat) = 2 ^ 4 - 1 from rfl, Nat.and_pow_two_sub_one_eq_mod, widthByte]
    omega
  refine ⟨?_, ?_, ?_, ?_⟩
  · simp only [isSentinel, Bool.and_eq_true, beq_iff_eq, full, high, middle, low, widthByte]
    omega
  · have field : (record bytes i 0).toNat <<< 4 ||| ((record bytes i 2).toNat &&& 0xf) = x := by
      rw [xField_eq, high, low]
      omega
    simp only [xPosition, field]
  · have field : (record bytes i 1).toNat <<< 4 ||| (record bytes i 2).toNat >>> 4 = y := by
      rw [yField_eq, middle, low]
      omega
    simp only [yPosition, field]
  · simp only [pressure, widthXField, widthYField]

/-- A contact at `(100, 200)`, three by two, as record 0. -/
def flatContactBytes : Nat → UInt8 := contactRecord 100 200 3 2

theorem flat_contact_read_back :
    (∀ k < 4, record flatContactBytes 0 k = contactRecord 100 200 3 2 k) ∧ (100 < 4096 ∧ 200 < 4096) ∧
      (1 ≤ 3 ∧ 3 ≤ 16 ∧ 1 ≤ 2 ∧ 2 ≤ 16) ∧
      (isSentinel flatContactBytes 0 = true ↔ 100 = 4095 ∧ 200 = 4095 ∧ 3 = 16 ∧ 2 = 16) ∧
      xPosition .zero flatContactBytes 0 =
        (if TmTouchpadInfo.zero.swapX then (TmTouchpadInfo.zero.xSize.toNat : Int) - 100 else 100) ∧
      yPosition .zero flatContactBytes 0 =
        (if TmTouchpadInfo.zero.swapY then (TmTouchpadInfo.zero.ySize.toNat : Int) - 200 else 200) ∧
      pressure flatContactBytes 0 = min (max 30 ((3 : Nat) * (2 : Nat) * 3 : Int)) 255 :=
  have packed : ∀ k < 4, record flatContactBytes 0 k = contactRecord 100 200 3 2 k := fun k _ => by
    rw [record, Nat.mul_zero, Nat.zero_add, flatContactBytes]
  ⟨packed, by decide, by decide,
    contact_record_round_trip .zero flatContactBytes 0 100 200 3 2 packed (by decide) (by decide)⟩

def positionEvents (info : TmTouchpadInfo) (bytes : Nat → UInt8) (i : Nat) : List InputEvent :=
  [.abs .mtPositionX (xPosition info bytes i), .abs .mtPositionY (yPosition info bytes i),
    .abs .mtPressure (pressure bytes i)]

/-- The values the record loop of `emit_fingers` carries. -/
structure FingerLoop where
  nextTrackingId : UInt16
  slotsUsed : UInt8
  events : List InputEvent

/-- One iteration of the record loop over slot `i`. -/
def fingerIteration (fd : TmData) (bytes : Nat → UInt8) (loop : FingerLoop) (i : Nat) :
    FingerLoop :=
  let selected := loop.events ++ [.mtSlot i]
  if isSentinel bytes i then { loop with events := selected ++ [.abs .mtTrackingId (-1)] }
  else
    let fresh := fd.prevSlotsUsed &&& slotMask i == 0
    { nextTrackingId :=
        if fresh then advanceTrackingId loop.nextTrackingId else loop.nextTrackingId
      slotsUsed := loop.slotsUsed ||| slotMask i
      events := selected ++
        (if fresh then [.abs .mtTrackingId loop.nextTrackingId.toNat] else []) ++
          positionEvents fd.tpInfo bytes i }

/-- `BTN_TOOL_FINGER` to `BTN_TOOL_QUADTAP` as `slots_used == 1` to `== 4`. -/
def toolKeyEvents (slotsUsed : UInt8) : List InputEvent :=
  [.key .btnToolFinger (slotsUsed == 1), .key .btnToolDoubletap (slotsUsed == 2),
    .key .btnToolTripletap (slotsUsed == 3), .key .btnToolQuadtap (slotsUsed == 4)]

/-- `for (i = 0; i < count; i++)` over `fingerIteration`, from the counter, an
empty mask and no events. -/
def fingerLoop (fd : TmData) (bytes : Nat → UInt8) (count : Nat) : FingerLoop :=
  (List.range count).foldl (fingerIteration fd bytes) ⟨fd.nextTrackingId, 0, []⟩

/-- `emit_fingers(fd, bytes)`, `bytes` being the memory from the report's
parameters on. -/
def emitFingers (fd : TmData) (bytes : Nat → UInt8) : TmData × List InputEvent :=
  let loop := fingerLoop fd bytes fd.tpInfo.maxFingers.toNat
  ({ fd with nextTrackingId := loop.nextTrackingId, prevSlotsUsed := loop.slotsUsed },
    loop.events ++ toolKeyEvents loop.slotsUsed)

/-! ## The slot mask -/

theorem slotMask_toNat (i : Nat) : (slotMask i).toNat = if i < 8 then 2 ^ i else 0 := by
  show (BitVec.ofNat 8 (1 <<< i)).toNat = _
  rw [BitVec.toNat_ofNat, Nat.one_shiftLeft]
  split
  · exact Nat.mod_eq_of_lt (Nat.pow_lt_pow_of_lt (by decide) ‹i < 8›)
  · exact Nat.mod_eq_zero_of_dvd (Nat.pow_dvd_pow 2 (by omega))

@[simp] theorem slotBit_or (first second : UInt8) (j : Nat) :
    slotBit (first ||| second) j = (slotBit first j || slotBit second j) := by
  show (first.toBitVec ||| second.toBitVec).toNat.testBit j = _
  rw [BitVec.toNat_or, Nat.testBit_or]
  rfl

@[simp] theorem slotBit_zero (j : Nat) : slotBit 0 j = false := by
  simp [slotBit]

@[simp] theorem slotBit_slotMask (i j : Nat) :
    slotBit (slotMask i) j = (decide (i = j) && decide (i < 8)) := by
  rw [slotBit, slotMask_toNat]
  split <;> simp [Nat.testBit_two_pow, *]

/-- The freshness test reads the previous mask's bit; from slot 8 on it never
sees one. -/
theorem and_slotMask_eq_zero (prev : UInt8) (i : Nat) :
    (prev &&& slotMask i == 0) = !(slotBit prev i && decide (i < 8)) := by
  have zeroIff : prev &&& slotMask i = 0 ↔ prev.toNat &&& (slotMask i).toNat = 0 := by
    rw [← UInt8.and_toNat]
    exact ⟨fun zero => by rw [zero]; rfl, fun zero => UInt8.toNat.inj (by rw [zero]; rfl)⟩
  rw [Bool.eq_iff_iff, beq_iff_eq, zeroIff, slotMask_toNat]
  split
  · constructor
    · intro zero
      simpa [slotBit, ‹i < 8›] using congrArg (Nat.testBit · i) zero
    · intro clear
      apply Nat.eq_of_testBit_eq
      intro j
      by_cases same : i = j <;> simp_all [slotBit, Nat.testBit_two_pow]
  · simp [‹¬i < 8›]

/-! ## The record loop -/

/-- Record `i` is a contact whose slot bit the previous mask does not hold. -/
def isNew (prev : UInt8) (bytes : Nat → UInt8) (i : Nat) : Bool :=
  !isSentinel bytes i && !(slotBit prev i && decide (i < 8))

/-- The number of new contacts among the first `count` records. -/
def newBefore (prev : UInt8) (bytes : Nat → UInt8) (count : Nat) : Nat :=
  ((List.range count).filter (isNew prev bytes)).length

theorem newBefore_succ (prev : UInt8) (bytes : Nat → UInt8) (count : Nat) :
    newBefore prev bytes (count + 1) =
      newBefore prev bytes count + if isNew prev bytes count then 1 else 0 := by
  simp only [newBefore, List.range_succ, List.filter_append, List.length_append]
  split <;> simp [*]

/-- The events iteration `i` appends, `next` being the counter it starts with. -/
def iterationEvents (fd : TmData) (bytes : Nat → UInt8) (next : UInt16) (i : Nat) :
    List InputEvent :=
  .mtSlot i :: if isSentinel bytes i then [.abs .mtTrackingId (-1)]
    else (if isNew fd.prevSlotsUsed bytes i then [.abs .mtTrackingId next.toNat] else []) ++
      positionEvents fd.tpInfo bytes i

theorem fingerIteration_eq (fd : TmData) (bytes : Nat → UInt8) (loop : FingerLoop) (i : Nat) :
    fingerIteration fd bytes loop i =
      ⟨if isNew fd.prevSlotsUsed bytes i then advanceTrackingId loop.nextTrackingId else loop.nextTrackingId,
        if isSentinel bytes i then loop.slotsUsed else loop.slotsUsed ||| slotMask i,
        loop.events ++ iterationEvents fd bytes loop.nextTrackingId i⟩ := by
  unfold fingerIteration iterationEvents isNew
  rw [and_slotMask_eq_zero]
  cases isSentinel bytes i <;> simp

/-- One iteration's events write slot `i` only: `-1` for the sentinel, the
counter for a new contact, nothing for a kept one. -/
theorem applyAll_iterationEvents (fd : TmData) (bytes : Nat → UInt8) (next : UInt16) (i : Nat)
    (view : MtView) :
    let after := view.applyAll (iterationEvents fd bytes next i)
    after.assigned = view.assigned + (if isNew fd.prevSlotsUsed bytes i then 1 else 0) ∧
    after.trackingId = (if isSentinel bytes i then Function.update view.trackingId i (-1)
      else if isNew fd.prevSlotsUsed bytes i then Function.update view.trackingId i next.toNat
      else view.trackingId) ∧
    after.assignedAt = (if isNew fd.prevSlotsUsed bytes i then Function.update view.assignedAt i view.assigned
      else view.assignedAt) := by
  unfold iterationEvents isNew
  cases isSentinel bytes i <;> cases slotBit fd.prevSlotsUsed i && decide (i < 8) <;>
    simp [MtView.apply, positionEvents, Int.ofNat_zero_le]

theorem fingerLoop_succ (fd : TmData) (bytes : Nat → UInt8) (count : Nat) :
    fingerLoop fd bytes (count + 1) = fingerIteration fd bytes (fingerLoop fd bytes count) count := by
  simp [fingerLoop, List.range_succ]

/-- The counter advances once per new contact. -/
theorem fingerLoop_nextTrackingId (fd : TmData) (bytes : Nat → UInt8) (count : Nat) :
    (fingerLoop fd bytes count).nextTrackingId =
      advanceTrackingId^[newBefore fd.prevSlotsUsed bytes count] fd.nextTrackingId := by
  induction count with
  | zero => rfl
  | succ count inductionHypothesis =>
    rw [fingerLoop_succ, fingerIteration_eq, newBefore_succ]
    split <;> simp [inductionHypothesis, Function.iterate_succ_apply']

/-- The mask holds exactly the contacts among the first `count` records that sit
below slot 8. -/
theorem fingerLoop_slotBit (fd : TmData) (bytes : Nat → UInt8) (count j : Nat) :
    slotBit (fingerLoop fd bytes count).slotsUsed j =
      (decide (j < count) && !isSentinel bytes j && decide (j < 8)) := by
  induction count with
  | zero => simp [fingerLoop]
  | succ count inductionHypothesis =>
    rw [fingerLoop_succ, fingerIteration_eq]
    by_cases same : j = count
    · subst same
      cases sentinel : isSentinel bytes j <;> simp_all
    · have below : j < count + 1 ↔ j < count := by omega
      cases isSentinel bytes count <;> simp [inductionHypothesis, same, below, Ne.symm same]

/-- For the consumer, the loop writes each of the first `count` slots per its
record: `-1` for the sentinel, and for the `k`-th new contact the counter
advanced `k` times, as the `assigned + k`-th fresh id; other slots keep theirs. -/
theorem applyAll_fingerLoop (fd : TmData) (bytes : Nat → UInt8) (count : Nat) (view : MtView) :
    (view.applyAll (fingerLoop fd bytes count).events).assigned =
        view.assigned + newBefore fd.prevSlotsUsed bytes count ∧
      ∀ j : Nat,
        (view.applyAll (fingerLoop fd bytes count).events).trackingId j =
          (if j < count then
            if isSentinel bytes j then -1
            else if isNew fd.prevSlotsUsed bytes j then
              ((advanceTrackingId^[newBefore fd.prevSlotsUsed bytes j] fd.nextTrackingId).toNat : Int)
            else view.trackingId j
          else view.trackingId j) ∧
        (view.applyAll (fingerLoop fd bytes count).events).assignedAt j =
          (if j < count ∧ isNew fd.prevSlotsUsed bytes j = true then view.assigned + newBefore fd.prevSlotsUsed bytes j
          else view.assignedAt j) := by
  induction count with
  | zero => simp [fingerLoop, newBefore]
  | succ count inductionHypothesis =>
    obtain ⟨assigned, slots⟩ := inductionHypothesis
    obtain ⟨stepAssigned, stepTracking, stepAssignedAt⟩ := applyAll_iterationEvents fd bytes
      (fingerLoop fd bytes count).nextTrackingId count
      (view.applyAll (fingerLoop fd bytes count).events)
    rw [fingerLoop_succ, fingerIteration_eq, MtView.applyAll_append, stepAssigned, stepTracking,
      stepAssignedAt, assigned, newBefore_succ, fingerLoop_nextTrackingId]
    refine ⟨by omega, fun j => ?_⟩
    obtain ⟨tracking, assignedAt⟩ := slots j
    by_cases same : j = count
    · subst same
      simp only [Nat.lt_irrefl, if_false, false_and] at tracking assignedAt
      cases isSentinel bytes j <;> cases isNew fd.prevSlotsUsed bytes j <;> simp [tracking, assignedAt]
    · have below : j < count + 1 ↔ j < count := by omega
      have apart : (j : Int) ≠ count := by omega
      cases isSentinel bytes count <;> cases isNew fd.prevSlotsUsed bytes count <;>
        simp [tracking, assignedAt, below, Function.update_noteq apart]

/-- `emit_fingers`'s new state: the counter advanced once per new contact and the
loop's mask. -/
theorem emitFingers_fst (fd : TmData) (bytes : Nat → UInt8) :
    (emitFingers fd bytes).1 =
      { fd with
        nextTrackingId :=
          advanceTrackingId^[newBefore fd.prevSlotsUsed bytes fd.tpInfo.maxFingers.toNat]
            fd.nextTrackingId
        prevSlotsUsed := (fingerLoop fd bytes fd.tpInfo.maxFingers.toNat).slotsUsed } := by
  rw [emitFingers, fingerLoop_nextTrackingId]

theorem applyAll_emitFingers (fd : TmData) (bytes : Nat → UInt8) (view : MtView) :
    view.applyAll (emitFingers fd bytes).2 =
      view.applyAll (fingerLoop fd bytes fd.tpInfo.maxFingers.toNat).events := by
  simp [emitFingers, toolKeyEvents, MtView.apply]

/-- A contact among the first `max_fingers` records keeps its slot's id unless
it is new, when it gets the counter advanced once per earlier new contact. -/
theorem applyAll_emitFingers_trackingId (fd : TmData) (bytes : Nat → UInt8) (view : MtView)
    (j : Nat) (within : j < fd.tpInfo.maxFingers.toNat) (contact : isSentinel bytes j = false) :
    (view.applyAll (emitFingers fd bytes).2).trackingId j =
      if isNew fd.prevSlotsUsed bytes j then
        ((advanceTrackingId^[newBefore fd.prevSlotsUsed bytes j] fd.nextTrackingId).toNat : Int)
      else view.trackingId j := by
  rw [applyAll_emitFingers, ((applyAll_fingerLoop fd bytes _ view).2 j).1]
  simp [within, contact]

/-- One iteration hands out the counter exactly when its record is new. -/
theorem freshIds_iterationEvents (fd : TmData) (bytes : Nat → UInt8) (next : UInt16) (i : Nat) :
    freshIds (iterationEvents fd bytes next i) =
      if isNew fd.prevSlotsUsed bytes i then [(next.toNat : Int)] else [] := by
  unfold iterationEvents isNew
  cases isSentinel bytes i <;> cases slotBit fd.prevSlotsUsed i && decide (i < 8) <;>
    simp [freshIds, positionEvents, Int.ofNat_zero_le]

/-- The loop hands out, in order, the counter advanced `k` times for its `k`-th
new contact. -/
theorem freshIds_fingerLoop (fd : TmData) (bytes : Nat → UInt8) (count : Nat) :
    freshIds (fingerLoop fd bytes count).events =
      (List.range (newBefore fd.prevSlotsUsed bytes count)).map fun k =>
        ((advanceTrackingId^[k] fd.nextTrackingId).toNat : Int) := by
  induction count with
  | zero => rfl
  | succ count inductionHypothesis =>
    rw [fingerLoop_succ, fingerIteration_eq, freshIds_append, inductionHypothesis,
      freshIds_iterationEvents, fingerLoop_nextTrackingId, newBefore_succ]
    split <;> simp [List.range_succ]

theorem freshIds_emitFingers (fd : TmData) (bytes : Nat → UInt8) :
    freshIds (emitFingers fd bytes).2 =
      (List.range (newBefore fd.prevSlotsUsed bytes fd.tpInfo.maxFingers.toNat)).map fun k =>
        ((advanceTrackingId^[k] fd.nextTrackingId).toNat : Int) := by
  simp only [emitFingers, freshIds_append, freshIds_fingerLoop]
  simp [toolKeyEvents, freshIds]

/-! ## What the loop reads -/

/-- The parameters of a long report that carries four empty records, followed
in memory by zero bytes. -/
def fourSentinelsThenZero (offset : Nat) : UInt8 := if offset < 16 then 0xff else 0

/-- The same sixteen parameter bytes, followed in memory by `0xff` bytes. -/
def fourSentinelsThenFF (_offset : Nat) : UInt8 := 0xff

/-- A state whose geometry reports five fingers, as stored from a get-parameters
response with `params[7] = 5`. -/
def fiveFingerData : TmData where
  tpInfo := { TmTouchpadInfo.zero with maxFingers := 5 }
  mtFeatureIndex := 0
  feature1b03 := 0
  nextTrackingId := 1
  prevSlotsUsed := 0
  buttonDepressor := fun _ => .none
  ignoreMouseReportButtons := false
  hidHwStarted := true
  inRawMode := true
  rawSwitchRequested := false

/-- With five fingers the loop reads record 4, bytes 16 to 19 past the
parameters: two reports with the same sixteen parameter bytes give different
events. -/
theorem five_fingers_read_past_params :
    (∀ offset < 16, fourSentinelsThenZero offset = fourSentinelsThenFF offset) ∧
      (emitFingers fiveFingerData fourSentinelsThenZero).2 ≠
        (emitFingers fiveFingerData fourSentinelsThenFF).2 := by
  refine ⟨fun offset small => by simp [fourSentinelsThenZero, fourSentinelsThenFF, small], ?_⟩
  decide

/-! ## The tool keys -/

theorem slotBit_of_le (mask : UInt8) (j : Nat) (high : 8 ≤ j) : slotBit mask j = false :=
  Nat.testBit_lt_two_pow (Nat.lt_of_lt_of_le mask.toBitVec.isLt (Nat.pow_le_pow_right (by decide) high))

/-- The loop's mask equals a value exactly when the value's bits below 8 are the
contacts among the first `count` records: `slots_used == k` tests a pattern of
occupied slots, not a number of contacts. -/
theorem fingerLoop_slotsUsed_eq_iff (fd : TmData) (bytes : Nat → UInt8) (count : Nat)
    (mask : UInt8) :
    (fingerLoop fd bytes count).slotsUsed = mask ↔
      ∀ j < 8, slotBit mask j = (decide (j < count) && !isSentinel bytes j) := by
  constructor
  · rintro rfl j small
    simp [fingerLoop_slotBit, small]
  · intro pattern
    apply UInt8.toNat.inj
    apply Nat.eq_of_testBit_eq
    intro j
    show slotBit _ j = slotBit mask j
    by_cases small : j < 8
    · simp [fingerLoop_slotBit, pattern j small, small]
    · rw [slotBit_of_le _ j (by omega), slotBit_of_le _ j (by omega)]

/-- The record loop only selects slots and reports absolute axes. -/
theorem mem_fingerLoop_events {fd : TmData} {bytes : Nat → UInt8} {count : Nat}
    {event : InputEvent} (member : event ∈ (fingerLoop fd bytes count).events) :
    (∃ slot, event = .mtSlot slot) ∨ ∃ code value, event = .abs code value := by
  induction count with
  | zero => simp [fingerLoop] at member
  | succ count inductionHypothesis =>
    rw [fingerLoop_succ, fingerIteration_eq, List.mem_append] at member
    refine member.elim inductionHypothesis fun now => ?_
    simp only [iterationEvents] at now
    split_ifs at now <;> simp [positionEvents] at now <;>
      rcases now with rfl | rfl | rfl | rfl | rfl <;> simp

/-- The record loop selects each slot below its bound once, in order. -/
theorem selectedSlots_fingerLoop (fd : TmData) (bytes : Nat → UInt8) (count : Nat) :
    selectedSlots (fingerLoop fd bytes count).events = (List.range count).map Int.ofNat := by
  induction count with
  | zero => rfl
  | succ count inductionHypothesis =>
    rw [fingerLoop_succ, fingerIteration_eq, selectedSlots_append, inductionHypothesis,
      List.range_succ, List.map_append]
    unfold iterationEvents
    split_ifs <;> simp [selectedSlots, positionEvents]

/-- The record loop reports no key. -/
theorem key_not_mem_fingerLoop (fd : TmData) (bytes : Nat → UInt8) (count : Nat) (code : KeyCode)
    (pressed : Bool) : InputEvent.key code pressed ∉ (fingerLoop fd bytes count).events :=
  fun member => by rcases mem_fingerLoop_events member with ⟨_, ⟨⟩⟩ | ⟨_, _, ⟨⟩⟩

/-- `emit_fingers` reports no relative motion. -/
theorem rel_not_mem_emitFingers (fd : TmData) (bytes : Nat → UInt8) (code : RelCode)
    (value : Int) : InputEvent.rel code value ∉ (emitFingers fd bytes).2 := by
  simp only [emitFingers, List.mem_append, toolKeyEvents]
  rintro (member | member)
  · rcases mem_fingerLoop_events member with ⟨_, ⟨⟩⟩ | ⟨_, _, ⟨⟩⟩
  · simp at member

/-- `slots_used == k` asserts the `k`-th tool key. -/
theorem key_mem_toolKeyEvents (mask : UInt8) (code : KeyCode) :
    InputEvent.key code true ∈ toolKeyEvents mask ↔
      code = .btnToolFinger ∧ mask = 1 ∨ code = .btnToolDoubletap ∧ mask = 2 ∨
        code = .btnToolTripletap ∧ mask = 3 ∨ code = .btnToolQuadtap ∧ mask = 4 := by
  simp [toolKeyEvents]

/-- `emit_fingers` asserts only the tool key that its mask selects. -/
theorem key_mem_emitFingers (fd : TmData) (bytes : Nat → UInt8) (code : KeyCode) :
    InputEvent.key code true ∈ (emitFingers fd bytes).2 ↔
      InputEvent.key code true ∈
        toolKeyEvents (fingerLoop fd bytes fd.tpInfo.maxFingers.toNat).slotsUsed := by
  simp [emitFingers, key_not_mem_fingerLoop]

/-- Each tool key is reported once, so the consumer's state of it is what the
tool-key events report. -/
theorem foldl_keyStep_toolKeyEvents {mask : UInt8} {code : KeyCode} {pressed : Bool}
    (reported : InputEvent.key code pressed ∈ toolKeyEvents mask) (state : Bool) :
    (toolKeyEvents mask).foldl (keyStep code) state = pressed := by
  simp only [toolKeyEvents, List.mem_cons, InputEvent.key.injEq, List.mem_singleton,
    List.not_mem_nil, or_false] at reported
  rcases reported with ⟨rfl, rfl⟩ | ⟨rfl, rfl⟩ | ⟨rfl, rfl⟩ | ⟨rfl, rfl⟩ <;> rfl

/-- After `emit_fingers` the consumer holds each tool key as the new
`prev_slots_used` selects it. -/
theorem foldl_keyStep_emitFingers (fd : TmData) (bytes : Nat → UInt8) {code : KeyCode} {pressed : Bool}
    (reported : InputEvent.key code pressed ∈ toolKeyEvents (emitFingers fd bytes).1.prevSlotsUsed)
    (state : Bool) : (emitFingers fd bytes).2.foldl (keyStep code) state = pressed := by
  rw [emitFingers, List.foldl_append, foldl_keyStep_of_not_mem (key_not_mem_fingerLoop fd bytes _ code)]
  exact foldl_keyStep_toolKeyEvents reported _

/-- The mask holds no bit from the loop bound on. -/
theorem fingerLoop_slotsUsed_lt (fd : TmData) (bytes : Nat → UInt8) (count : Nat) :
    (fingerLoop fd bytes count).slotsUsed.toNat < 2 ^ count :=
  Nat.lt_pow_two_of_testBit _ fun j above => by
    simpa [slotBit, Nat.not_lt.mpr above] using fingerLoop_slotBit fd bytes count j

/-- Parameters whose record `r` is a contact and every other record empty. -/
def onlyRecord (r offset : Nat) : UInt8 := if offset / 4 = r then 0 else 0xff

theorem isSentinel_onlyRecord (r i : Nat) : isSentinel (onlyRecord r) i = !decide (i = r) := by
  by_cases same : i = r <;> simp [isSentinel, record, onlyRecord, Nat.mul_add_div, same]

/-- With record `r` the only contact, below the loop bound and below slot 8, the
mask is `r`'s bit. -/
theorem fingerLoop_onlyRecord_slotsUsed (fd : TmData) (r count : Nat) (within : r < count)
    (low : r < 8) : (fingerLoop fd (onlyRecord r) count).slotsUsed = slotMask r := by
  rw [fingerLoop_slotsUsed_eq_iff]
  intro j _
  by_cases same : j = r
  · subst same
    simp [isSentinel_onlyRecord, within, low]
  · simp [isSentinel_onlyRecord, same, Ne.symm same]

/-- A long report whose first record is empty and whose second is a contact. -/
def secondRecordOnly (offset : Nat) : UInt8 := if offset < 4 then 0xff else 0

/-- A state whose geometry reports two fingers. -/
def twoFingerData : TmData :=
  { fiveFingerData with tpInfo := { TmTouchpadInfo.zero with maxFingers := 2 } }

/-- One contact, in slot 1, makes `slots_used` equal 2 and reports the
two-finger key. -/
theorem one_contact_in_slot_one_reports_doubletap :
    ((List.range 2).filter fun i => !isSentinel secondRecordOnly i).length = 1 ∧
      ∃ earlier, (emitFingers twoFingerData secondRecordOnly).2 = earlier ++
        [.key .btnToolFinger false, .key .btnToolDoubletap true, .key .btnToolTripletap false,
          .key .btnToolQuadtap false] :=
  ⟨by decide, ⟨(fingerLoop twoFingerData secondRecordOnly 2).events, by decide⟩⟩

end HidLogitech.Tm
