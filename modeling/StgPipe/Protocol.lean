import StgPipe.Memory

/-!
# The transact protocol's data model

This module gives the records the test client exchanges with a storage unit:
the unit parameters discovered at open time, the transact request and
response, and the unmap descriptor, together with the Windows error codes and
SCSI status the client returns and checks.  The protocol structures are
declared in the WinSpd headers, which are not part of the modelled source; each
record keeps exactly the fields that a modelled function reads or writes.

The geometry invariant that {lit}`StgOpenPipe` checks before it accepts a
handshake is the predicate {lit}`StorageUnitParams.Valid`, and a geometry that
satisfies it is packaged as {lit}`Geometry`, so that the workload and the test
loop are stated once over well-formed units.

Main results:

- Theorem {lit}`Geometry.maxBlockCount_pos`: every valid geometry allows at
  least one block per transfer, so run's divisions are by nonzero values.
- Theorem {lit}`Geometry.mul_blockLength_le`: any block count up to the
  per-transfer maximum fits the maximum transfer length.
-/

namespace WinSpd
namespace StgPipe

/-! ## Error codes and status -/

/-- {lit}`ERROR_SUCCESS`. -/
def errorSuccess : Nat := 0

/-- {lit}`ERROR_INVALID_PARAMETER`. -/
def errorInvalidParameter : Nat := 87

/-- {lit}`ERROR_PIPE_BUSY`. -/
def errorPipeBusy : Nat := 231

/-- {lit}`ERROR_MORE_DATA`: a message-mode read into a buffer shorter than the message. -/
def errorMoreData : Nat := 234

/-- {lit}`ERROR_IO_PENDING`: an overlapped operation was started and has not completed. -/
def errorIoPending : Nat := 997

/-- {lit}`ERROR_IO_DEVICE`: the client's code for every protocol and device violation. -/
def errorIoDevice : Nat := 1117

/-- {lit}`ERROR_NO_SYSTEM_RESOURCES`. -/
def errorNoSystemResources : Nat := 1450

/-- The outcome of a step whose behaviour C leaves undefined: a division by zero,
or an access past the end of an allocation.  It is {lit}`2 ^ 32`, not a
{lit}`DWORD`, so it is no error the code returns. -/
def undefinedBehavior : Nat := 2 ^ 32

@[simp]
theorem undefinedBehavior_ne : undefinedBehavior ≠ errorSuccess := by decide

@[simp]
theorem errorInvalidParameter_ne : errorInvalidParameter ≠ errorSuccess := by decide

@[simp]
theorem errorMoreData_ne : errorMoreData ≠ errorSuccess := by decide

@[simp]
theorem errorIoDevice_ne : errorIoDevice ≠ errorSuccess := by decide

@[simp]
theorem errorNoSystemResources_ne : errorNoSystemResources ≠ errorSuccess := by decide

/-- {lit}`SCSISTAT_GOOD`. -/
def scsistatGood : BitVec 8 := 0

/-! ## Transact kinds -/

/-- Modelled from the spec: the transact kind codes of the WinSpd headers.  The
stamp call {lit}`FillOrTest (..., 0)` in run relies on the reserved kind being 0.
The codes are unfolded by {lit}`simp`, which then decides their comparisons. -/
@[simp]
def spdIoctlTransactReservedKind : BitVec 8 := 0

/-- The read kind code. -/
@[simp]
def spdIoctlTransactReadKind : BitVec 8 := 1

/-- The write kind code. -/
@[simp]
def spdIoctlTransactWriteKind : BitVec 8 := 2

/-- The flush kind code. -/
@[simp]
def spdIoctlTransactFlushKind : BitVec 8 := 3

/-- The unmap kind code. -/
@[simp]
def spdIoctlTransactUnmapKind : BitVec 8 := 4

/-- Modelled from the spec: {lit}`sizeof (SPD_IOCTL_UNMAP_DESCRIPTOR)`, a 64-bit
block address followed by a 32-bit count and a 32-bit reserved field. -/
def unmapDescriptorSize : Nat := 16

/-! ## Records -/

/-- The fields of {lit}`SPD_IOCTL_STORAGE_UNIT_PARAMS` that the client uses. -/
structure StorageUnitParams where
  blockCount : BitVec 64
  blockLength : BitVec 32
  maxTransferLength : BitVec 32
deriving DecidableEq, Repr

/-- {lit}`SPD_IOCTL_TRANSACT_REQ`.  The operation union is one record: its Read,
Write and Flush views share the block address and count, and the Unmap view
has its own descriptor count. -/
structure TransactReq where
  hint : BitVec 64
  kind : BitVec 8
  blockAddress : BitVec 64
  blockCount : BitVec 32
  forceUnitAccess : Bool
  unmapCount : BitVec 32
deriving DecidableEq, Repr

/-- {lit}`SPD_IOCTL_TRANSACT_RSP`, with the status reduced to the SCSI status byte
that the client reads. -/
structure TransactRsp where
  hint : BitVec 64
  kind : BitVec 8
  scsiStatus : BitVec 8
deriving DecidableEq, Repr

/-- A request after {lit}`memset (&Req, 0, sizeof Req)`. -/
def TransactReq.zero : TransactReq :=
  ⟨0, 0, 0, 0, false, 0⟩

/-- A response after {lit}`memset (&Rsp, 0, sizeof Rsp)`. -/
def TransactRsp.zero : TransactRsp :=
  ⟨0, 0, 0⟩

/-! ## The geometry invariant -/

/-- The four conditions {lit}`StgOpenPipe` checks on a handshake: a nonempty unit,
blocks that hold an unmap descriptor, and a positive maximum transfer length
that is a whole number of blocks. -/
def StorageUnitParams.Valid (p : StorageUnitParams) : Prop :=
  0 < p.blockCount.toNat ∧ unmapDescriptorSize ≤ p.blockLength.toNat ∧
    0 < p.maxTransferLength.toNat ∧ p.maxTransferLength.toNat % p.blockLength.toNat = 0

instance (p : StorageUnitParams) : Decidable p.Valid :=
  inferInstanceAs (Decidable (_ ∧ _))

/-- A storage unit geometry that satisfies the handshake invariant. -/
structure Geometry where
  params : StorageUnitParams
  valid : params.Valid

namespace Geometry

variable (g : Geometry)

/-- The unit's block count {lit}`N`. -/
def blockCount : Nat := g.params.blockCount.toNat

/-- The unit's block length in bytes. -/
def blockLength : Nat := g.params.blockLength.toNat

/-- The unit's maximum transfer length in bytes. -/
def maxTransferLength : Nat := g.params.maxTransferLength.toNat

/-- {lit}`MaxBlockCount = MaxTransferLength / BlockLength`, the blocks per transfer. -/
def maxBlockCount : Nat := g.maxTransferLength / g.blockLength

theorem blockCount_pos : 0 < g.blockCount := g.valid.1

theorem blockLength_ge : 16 ≤ g.blockLength := g.valid.2.1

theorem maxTransferLength_pos : 0 < g.maxTransferLength := g.valid.2.2.1

theorem blockCount_lt : g.blockCount < 2 ^ 64 := g.params.blockCount.isLt

theorem maxTransferLength_lt : g.maxTransferLength < 2 ^ 32 := g.params.maxTransferLength.isLt

/-- The maximum transfer length is exactly {lit}`MaxBlockCount` blocks. -/
theorem maxBlockCount_mul : g.maxBlockCount * g.blockLength = g.maxTransferLength :=
  Nat.div_mul_cancel (Nat.dvd_of_mod_eq_zero g.valid.2.2.2)

theorem maxBlockCount_pos : 0 < g.maxBlockCount := by
  have h := g.maxBlockCount_mul
  have := g.maxTransferLength_pos
  rcases Nat.eq_zero_or_pos g.maxBlockCount with h0 | h0
  · rw [h0, Nat.zero_mul] at h
    omega
  · exact h0

theorem maxBlockCount_lt : g.maxBlockCount < 2 ^ 32 :=
  Nat.lt_of_le_of_lt (Nat.div_le_self _ _) g.maxTransferLength_lt

/-- A transfer of at most {lit}`MaxBlockCount` blocks fits the maximum transfer length. -/
theorem mul_blockLength_le {c : Nat} (hc : c ≤ g.maxBlockCount) :
    c * g.blockLength ≤ g.maxTransferLength :=
  g.maxBlockCount_mul ▸ Nat.mul_le_mul_right _ hc

end Geometry

end StgPipe
end WinSpd
