import HidLogitech.Input
import Mathlib.Algebra.Group.Nat.Basic

/-!
# HID++ reports and the synchronous command transport

A report reaches a driver as a `struct hidpp_report *` cast from the transport's
buffer: report id, device index, then a register-access (`rap`) or
feature-access (`fap`) body. Both bodies keep their register or feature index
at byte 2, the address or function byte at byte 3, and parameters from byte 4.
The model reads a report through that pointer, as a total byte view: a read
past the report's own length is still a read, of whatever follows it.

Commands go through `hidpp_send_rap_command_sync` and
`hidpp_send_fap_command_sync` of the HID++ core, which wait for the device's
answer. That core is not part of these sources; a call is the transport's reply
to one request, a return code (zero on success) and the response report.
-/

namespace HidLogitech

/-- The bytes seen through a `struct hidpp_report *`, from the report id on. -/
structure HidppReport where
  byte : Nat → UInt8

namespace HidppReport

/-- `report_id`: `0x02` for a mouse report, `0x11` for a long HID++ report. -/
def reportId (report : HidppReport) : UInt8 := report.byte 0

/-- `rap.sub_id`, the same byte as `fap.feature_index`. -/
def subId (report : HidppReport) : UInt8 := report.byte 2

/-- `rap.reg_address`, the same byte as `fap.funcindex_clientid`. -/
def regAddress (report : HidppReport) : UInt8 := report.byte 3

/-- `rap.params`: the memory from byte 4 on. -/
def params (report : HidppReport) (index : Nat) : UInt8 := report.byte (4 + index)

/-- A report whose leading bytes are listed, followed by zero bytes. -/
def ofList (bytes : List UInt8) : HidppReport := ⟨fun index => bytes.getD index 0⟩

end HidppReport

/-- The shifts of a `u8`, as numbers; the amount is taken modulo the width. -/
theorem uint8_toNat_shiftLeft (b k : UInt8) : (b <<< k).toNat = b.toNat * 2 ^ (k.toNat % 8) % 256 := by
  show (b.toBitVec <<< (UInt8.mod k 8).toBitVec).toNat = _
  rw [BitVec.shiftLeft_eq', BitVec.toNat_shiftLeft, Nat.shiftLeft_eq]
  rfl

theorem uint8_toNat_shiftRight (b k : UInt8) : (b >>> k).toNat = b.toNat / 2 ^ (k.toNat % 8) := by
  show (b.toBitVec >>> (UInt8.mod k 8).toBitVec).toNat = _
  rw [BitVec.ushiftRight_eq', BitVec.toNat_ushiftRight, Nat.shiftRight_eq_div_pow]
  rfl

/-- Bits below `2 ^ n` and bits shifted to `n` and above do not overlap: the
fields the drivers assemble with `|` are sums. -/
theorem or_shiftLeft_eq_add {low n : Nat} (small : low < 2 ^ n) (high : Nat) :
    low ||| high <<< n = low + high * 2 ^ n := by
  rw [Nat.or_comm, Nat.shiftLeft_eq, Nat.mul_comm, ← Nat.mul_add_lt_is_or small, Nat.add_comm,
    Nat.mul_comm]

/-- A big-endian word `high << 8 | low` of two bytes, as a number. -/
theorem bigEndian_toNat (high low : UInt8) :
    (high.toUInt16 <<< 8 ||| low.toUInt16).toNat = high.toNat * 256 + low.toNat := by
  have highByte : high.toNat < 256 := high.toNat_lt_size
  have lowByte : low.toNat < 2 ^ 8 := low.toNat_lt_size
  show (high.toUInt16.toBitVec <<< (UInt16.mod 8 16).toBitVec ||| low.toUInt16.toBitVec).toNat = _
  rw [BitVec.toNat_or, BitVec.shiftLeft_eq', BitVec.toNat_shiftLeft]
  show high.toNat <<< 8 % 2 ^ 16 ||| low.toNat = _
  rw [Nat.shiftLeft_eq, Nat.mod_eq_of_lt (by omega), Nat.or_comm, ← Nat.shiftLeft_eq,
    or_shiftLeft_eq_add lowByte]
  omega

/-- `REPORT_ID_HIDPP_SHORT` and `REPORT_ID_HIDPP_LONG`; their numeric values live
in the HID++ core's header and are never compared by these drivers. -/
inductive HidppReportKind where
  | short
  | long
deriving DecidableEq, Repr

/-- A command as handed to the HID++ core: a register access with its report
kind, sub id, address byte and parameters, or a feature access by feature index,
function and parameters (the core packs the function with its software id). -/
inductive HidppRequest where
  | rap (kind : HidppReportKind) (subId regAddress : UInt8) (params : List UInt8)
  | fap (featureIndex function : UInt8) (params : List UInt8)
deriving DecidableEq, Repr

/-- The device behind the synchronous command path: for each request, the return
code of the send call and the response it filled in. No reply is excluded. -/
structure HidppTransport where
  sendSync : HidppRequest → Int × HidppReport

end HidLogitech
