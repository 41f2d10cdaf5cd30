import StgPipe.Protocol

/-!
# Opening a storage unit

{lit}`StgOpen` opens either a storage unit pipe, whose server sends the unit
parameters as a one-shot handshake message, or a raw volume, whose geometry the
client reconstructs from a READ CAPACITY (16) response and a Block Limits VPD
page.  The pipe path checks the four conditions of
{lit}`StorageUnitParams.Valid`; the raw path checks only that the block count
and block length are nonzero.  A pipe handle is returned with bit 0 set, so that
{lit}`StgTransact` and {lit}`StgClose` can tell the transports apart later.

The system calls are inputs: each records the value the call returned and the
value {lit}`GetLastError` reports after it.

Main results:

- Theorem {lit}`stgOpenPipe_valid`: a successful pipe open returns a valid
  geometry and the tagged pipe handle.
- Theorem {lit}`stgOpenPipe_handle_of_error` and {lit}`stgOpenRaw_handle_of_error`:
  every failed open leaves {lit}`*PHandle = INVALID_HANDLE_VALUE`.
- Theorem {lit}`stgOpenRaw_sound`: a successful raw open returns a nonzero block
  count, block length and maximum transfer length, with the block length read
  from the capacity buffer whatever length the device reported.
- Theorem {lit}`stgOpenRaw_precedence_slips`: the unparenthesized decoding of the
  block count and the maximum transfer length departs from {lit}`BE64 + 1` and
  {lit}`BlockLength * BE32` on honest responses.
-/

namespace WinSpd
namespace StgPipe

/-! ## Handles -/

/-- {lit}`INVALID_HANDLE_VALUE`, the all-ones pointer. -/
def invalidHandleValue : BitVec 64 := BitVec.allOnes 64

/-- {lit}`IsPipeHandle`: bit 0 of the handle. -/
def isPipeHandle (handle : BitVec 64) : Bool := handle &&& 1 != 0

/-- {lit}`GetPipeHandle`: the handle with bit 0 cleared. -/
def getPipeHandle (handle : BitVec 64) : BitVec 64 := handle &&& ~~~1

/-- {lit}`SetPipeHandle`: the handle with bit 0 set. -/
def setPipeHandle (handle : BitVec 64) : BitVec 64 := handle ||| 1

/-- {lit}`GetRawHandle`: the handle itself. -/
def getRawHandle (handle : BitVec 64) : BitVec 64 := handle

/-! ## System calls -/

/-- A call that returns a {lit}`HANDLE`, with {lit}`GetLastError` after it. -/
structure HandleResult where
  handle : BitVec 64
  lastError : Nat

/-- A call that returns a {lit}`BOOL`, with {lit}`GetLastError` after it. -/
structure BoolResult where
  ok : Bool
  lastError : Nat

/-- What the system returns to the calls of {lit}`StgOpenPipe`: the first
{lit}`CreateFileW`, the one after {lit}`WaitNamedPipeW`, the pipe mode change, and
the handshake read with its byte count and the parameters it delivered. -/
structure PipeOpenIo where
  createFile : HandleResult
  createFileRetry : HandleResult
  setNamedPipeHandleState : BoolResult
  readFile : BoolResult
  bytesTransferred : Nat
  handshake : StorageUnitParams

/-- One {lit}`SpdIoctlScsiExecute`: its error, the SCSI status, the data length it
reports and the bytes it stores at the start of the data buffer. -/
structure ScsiResult where
  error : Nat
  scsiStatus : BitVec 8
  dataLength : Nat
  data : Buffer

/-- What the system returns to the calls of {lit}`StgOpenRaw`. -/
structure RawOpenIo where
  createFile : HandleResult
  readCapacity : ScsiResult
  blockLimits : ScsiResult

/-- The data buffer after a SCSI command: the reported bytes over what it held. -/
def ScsiResult.store (r : ScsiResult) (dataBuffer : Buffer) : Buffer :=
  memcpy dataBuffer r.data r.dataLength

/-! ## The pipe path -/

section Pipe

/- The size of {lit}`SPD_IOCTL_STORAGE_UNIT_PARAMS`, declared in the WinSpd headers. -/
variable (paramsSize : Nat)

/-- The handshake check of {lit}`StgOpenPipe`, in the source's order. -/
def handshakeRejected (bytesTransferred : Nat) (p : StorageUnitParams) : Bool :=
  paramsSize > bytesTransferred || p.blockCount = 0 ||
    decide (unmapDescriptorSize > p.blockLength.toNat) || p.maxTransferLength = 0 ||
    p.maxTransferLength % p.blockLength != 0

/-- The connection {lit}`StgOpenPipe` keeps: the first {lit}`CreateFileW`, or the
second one when the first failed with {lit}`ERROR_PIPE_BUSY`. -/
def pipeConnection (io : PipeOpenIo) : HandleResult :=
  if io.createFile.handle = invalidHandleValue ∧ io.createFile.lastError = errorPipeBusy
  then io.createFileRetry else io.createFile

/-- {lit}`StgOpenPipe`: the error, {lit}`*PHandle` and {lit}`*StorageUnitParams`. -/
def stgOpenPipe (io : PipeOpenIo) (storageUnitParams : StorageUnitParams) :
    Nat × BitVec 64 × StorageUnitParams :=
  let handle := pipeConnection io
  if handle.handle = invalidHandleValue then
    (handle.lastError, invalidHandleValue, storageUnitParams)
  else if !io.setNamedPipeHandleState.ok then
    (io.setNamedPipeHandleState.lastError, invalidHandleValue, storageUnitParams)
  else if !io.readFile.ok then
    (io.readFile.lastError, invalidHandleValue, io.handshake)
  else if handshakeRejected paramsSize io.bytesTransferred io.handshake then
    (errorIoDevice, invalidHandleValue, io.handshake)
  else
    (errorSuccess, setPipeHandle handle.handle, io.handshake)

/-- An accepted handshake satisfies the geometry invariant. -/
theorem valid_of_not_handshakeRejected {n : Nat} {p : StorageUnitParams}
    (h : handshakeRejected paramsSize n p = false) : p.Valid := by
  simp only [handshakeRejected, Bool.or_eq_false_iff, decide_eq_false_iff_not, bne_eq_false_iff_eq,
    gt_iff_lt, Nat.not_lt] at h
  obtain ⟨⟨⟨⟨-, hcount⟩, hlength⟩, hmax⟩, hmod⟩ := h
  exact ⟨by bv_omega, hlength, by bv_omega, by bv_omega⟩

/-- A handshake of at least {lit}`paramsSize` bytes that announces a valid geometry
is accepted. -/
theorem handshakeRejected_of_valid {n : Nat} {p : StorageUnitParams} (hn : paramsSize ≤ n)
    (hp : p.Valid) : handshakeRejected paramsSize n p = false := by
  obtain ⟨hcount, hlength, hmax, hmod⟩ := hp
  simp only [handshakeRejected, Bool.or_eq_false_iff, decide_eq_false_iff_not, bne_eq_false_iff_eq,
    gt_iff_lt, Nat.not_lt]
  exact ⟨⟨⟨⟨hn, by bv_omega⟩, hlength⟩, by bv_omega⟩, by bv_omega⟩

/-- The system's contract for the calls of {lit}`StgOpenPipe`: a failed call
leaves a nonzero {lit}`GetLastError`. -/
def PipeOpenIo.ReportsErrors (io : PipeOpenIo) : Prop :=
  (io.createFile.handle = invalidHandleValue → io.createFile.lastError ≠ errorSuccess) ∧
    (io.createFileRetry.handle = invalidHandleValue →
      io.createFileRetry.lastError ≠ errorSuccess) ∧
    (io.setNamedPipeHandleState.ok = false →
      io.setNamedPipeHandleState.lastError ≠ errorSuccess) ∧
    (io.readFile.ok = false → io.readFile.lastError ≠ errorSuccess)

theorem PipeOpenIo.ReportsErrors.connection {io : PipeOpenIo} (hio : io.ReportsErrors)
    (h : (pipeConnection io).handle = invalidHandleValue) :
    (pipeConnection io).lastError ≠ errorSuccess := by
  by_cases hb : io.createFile.handle = invalidHandleValue ∧ io.createFile.lastError = errorPipeBusy
  · simp only [pipeConnection, if_pos hb] at h ⊢
    exact hio.2.1 h
  · simp only [pipeConnection, if_neg hb] at h ⊢
    exact hio.1 h

/-- Every failed pipe open leaves {lit}`*PHandle = INVALID_HANDLE_VALUE`. -/
theorem stgOpenPipe_handle_of_error {io : PipeOpenIo} {p : StorageUnitParams}
    (h : (stgOpenPipe paramsSize io p).1 ≠ errorSuccess) :
    (stgOpenPipe paramsSize io p).2.1 = invalidHandleValue := by
  revert h
  simp only [stgOpenPipe]
  split_ifs <;> simp

/-- A successful pipe open kept a live connection and accepted the handshake;
it returns the tagged handle and the handshake's parameters. -/
theorem stgOpenPipe_success {io : PipeOpenIo} {p : StorageUnitParams} (hio : io.ReportsErrors)
    (h : (stgOpenPipe paramsSize io p).1 = errorSuccess) :
    (pipeConnection io).handle ≠ invalidHandleValue ∧
      handshakeRejected paramsSize io.bytesTransferred io.handshake = false ∧
      stgOpenPipe paramsSize io p =
        (errorSuccess, setPipeHandle (pipeConnection io).handle, io.handshake) := by
  by_cases hc : (pipeConnection io).handle = invalidHandleValue
  · simp only [stgOpenPipe, hc, if_true] at h
    exact absurd h (hio.connection hc)
  cases hs : io.setNamedPipeHandleState.ok
  · simp only [stgOpenPipe, hc, hs, if_false, Bool.not_false, if_true] at h
    exact absurd h (hio.2.2.1 hs)
  cases hr : io.readFile.ok
  · simp only [stgOpenPipe, hc, hs, hr, if_false, Bool.not_true, Bool.not_false, if_true] at h
    exact absurd h (hio.2.2.2 hr)
  cases hj : handshakeRejected paramsSize io.bytesTransferred io.handshake
  · simp [stgOpenPipe, hc, hs, hr, hj]
  · simp only [stgOpenPipe, hc, hs, hr, hj, if_false, Bool.not_true, Bool.false_eq_true,
      if_true] at h
    exact absurd h (by decide)

/-- A successful pipe open returns a valid geometry, the handshake's parameters
and the tagged handle of a live connection. -/
theorem stgOpenPipe_valid {io : PipeOpenIo} {p : StorageUnitParams} (hio : io.ReportsErrors)
    (h : (stgOpenPipe paramsSize io p).1 = errorSuccess) :
    io.handshake.Valid ∧ (stgOpenPipe paramsSize io p).2.2 = io.handshake ∧
      ∃ handle, handle ≠ invalidHandleValue ∧
        (stgOpenPipe paramsSize io p).2.1 = setPipeHandle handle := by
  obtain ⟨hc, hj, heq⟩ := stgOpenPipe_success paramsSize hio h
  rw [heq]
  exact ⟨valid_of_not_handshakeRejected paramsSize hj, rfl, _, hc, rfl⟩

end Pipe

/-! ## The raw path -/

/-- Modelled from the spec: the byte offsets of the decoded fields in the READ
CAPACITY (16) parameter data (the last logical block address, then the bytes
per block) and in the Block Limits VPD page (the maximum transfer length), whose
declarations are not part of the modelled source. -/
def bytesPerBlockOffset : Nat := 8

/-- The offset of the maximum transfer length in the Block Limits page. -/
def maximumTransferLengthOffset : Nat := 8

/-- Byte {lit}`i` of a buffer widened to {lit}`w` bits. -/
def byteAt (w : Nat) (b : Buffer) (i : Nat) : BitVec w := (b i).setWidth w

/-- {lit}`BlockCount = 1 + (b0 << 56) | (b1 << 48) | ... | b7`, grouped as C groups
it: the addition binds tighter than the disjunction of the shifted bytes. -/
def rawBlockCount (b : Buffer) : BitVec 64 :=
  (1 + (byteAt 64 b 0 <<< 56)) ||| (byteAt 64 b 1 <<< 48) ||| (byteAt 64 b 2 <<< 40) |||
    (byteAt 64 b 3 <<< 32) ||| (byteAt 64 b 4 <<< 24) ||| (byteAt 64 b 5 <<< 16) |||
    (byteAt 64 b 6 <<< 8) ||| byteAt 64 b 7

/-- {lit}`BlockLength = (b8 << 24) | (b9 << 16) | (b10 << 8) | b11`. -/
def rawBlockLength (b : Buffer) : BitVec 32 :=
  let o := bytesPerBlockOffset
  (byteAt 32 b o <<< 24) ||| (byteAt 32 b (o + 1) <<< 16) ||| (byteAt 32 b (o + 2) <<< 8) |||
    byteAt 32 b (o + 3)

/-- {lit}`MaxTransferLength = BlockLength * (m0 << 24) | (m1 << 16) | (m2 << 8) | m3`,
grouped as C groups it: the product binds tighter than the disjunction. -/
def rawMaxTransferLength (blockLength : BitVec 32) (b : Buffer) : BitVec 32 :=
  let o := maximumTransferLengthOffset
  (blockLength * (byteAt 32 b o <<< 24)) ||| (byteAt 32 b (o + 1) <<< 16) |||
    (byteAt 32 b (o + 2) <<< 8) ||| byteAt 32 b (o + 3)

/-! ## Decoding big-endian fields -/

/-- The big-endian value of the {lit}`n` bytes at {lit}`off`. -/
def beValue (b : Buffer) (off : Nat) : Nat → Nat
  | 0 => 0
  | n + 1 => (b off).toNat * 256 ^ n + beValue b (off + 1) n

theorem two_pow_mul_or {q r k : Nat} (hr : r < 2 ^ k) : 2 ^ k * q ||| r = 2 ^ k * q + r := by
  apply Nat.eq_of_testBit_eq
  intro j
  rw [Nat.testBit_or, Nat.testBit_mul_pow_two, Nat.testBit_mul_pow_two_add q hr]
  by_cases hj : j < k
  · simp [hj, Nat.not_le.mpr hj]
  · have hrj : r.testBit j = false :=
      Nat.testBit_lt_two_pow (Nat.lt_of_lt_of_le hr (Nat.pow_le_pow_right (by decide) (by omega)))
    simp [hj, hrj, Nat.le_of_not_lt hj]

/-- A disjunction whose left operand has no bits below {lit}`k` and whose right
operand has none above is a sum. -/
theorem toNat_or_of_dvd {w k : Nat} {x y : BitVec w} (hx : 2 ^ k ∣ x.toNat)
    (hy : y.toNat < 2 ^ k) : (x ||| y).toNat = x.toNat + y.toNat := by
  obtain ⟨q, hq⟩ := hx
  rw [BitVec.toNat_or, hq, two_pow_mul_or hy]

theorem toNat_byteAt_shiftLeft {w n : Nat} (b : Buffer) (i : Nat) (h : 8 + n ≤ w) :
    (byteAt w b i <<< n).toNat = (b i).toNat * 2 ^ n := by
  have hb := (b i).isLt
  have h8 : 2 ^ 8 ≤ 2 ^ w := Nat.pow_le_pow_right (by decide) (by omega)
  have hlt : (b i).toNat * 2 ^ n < 2 ^ w := by
    calc (b i).toNat * 2 ^ n < 2 ^ 8 * 2 ^ n := Nat.mul_lt_mul_of_pos_right hb (Nat.two_pow_pos n)
      _ = 2 ^ (8 + n) := (Nat.pow_add 2 8 n).symm
      _ ≤ 2 ^ w := Nat.pow_le_pow_right (by decide) h
  simp only [byteAt, BitVec.toNat_shiftLeft, BitVec.toNat_setWidth, Nat.shiftLeft_eq,
    Nat.mod_eq_of_lt (Nat.lt_of_lt_of_le hb h8), Nat.mod_eq_of_lt hlt]

theorem toNat_byteAt {w : Nat} (b : Buffer) (i : Nat) (h : 8 ≤ w) :
    (byteAt w b i).toNat = (b i).toNat := by
  simpa using toNat_byteAt_shiftLeft (n := 0) b i (by omega)

/-- Four bytes combined as {lit}`(b0 << 24) | (b1 << 16) | (b2 << 8) | b3` give their
big-endian value. -/
theorem toNat_be32 (b : Buffer) (o : Nat) :
    ((byteAt 32 b o <<< 24) ||| (byteAt 32 b (o + 1) <<< 16) ||| (byteAt 32 b (o + 2) <<< 8) |||
      byteAt 32 b (o + 3)).toNat = beValue b o 4 := by
  have h1 := (b (o + 1)).isLt
  have h2 := (b (o + 2)).isLt
  have h3 := (b (o + 3)).isLt
  have hA := toNat_byteAt_shiftLeft (w := 32) (n := 24) b o (by omega)
  have hB := toNat_byteAt_shiftLeft (w := 32) (n := 16) b (o + 1) (by omega)
  have hC := toNat_byteAt_shiftLeft (w := 32) (n := 8) b (o + 2) (by omega)
  have hD := toNat_byteAt (w := 32) b (o + 3) (by omega)
  have hAB : ((byteAt 32 b o <<< 24) ||| (byteAt 32 b (o + 1) <<< 16)).toNat =
      (b o).toNat * 2 ^ 24 + (b (o + 1)).toNat * 2 ^ 16 := by
    rw [toNat_or_of_dvd (k := 24) (by rw [hA]; exact Nat.dvd_mul_left _ _) (by rw [hB]; omega),
      hA, hB]
  have hABC : ((byteAt 32 b o <<< 24) ||| (byteAt 32 b (o + 1) <<< 16) |||
      (byteAt 32 b (o + 2) <<< 8)).toNat =
      (b o).toNat * 2 ^ 24 + (b (o + 1)).toNat * 2 ^ 16 + (b (o + 2)).toNat * 2 ^ 8 := by
    rw [toNat_or_of_dvd (k := 16)
      (by rw [hAB]; exact ⟨(b o).toNat * 2 ^ 8 + (b (o + 1)).toNat, by omega⟩)
      (by rw [hC]; omega), hAB, hC]
  rw [toNat_or_of_dvd (k := 8)
      (by rw [hABC]; exact ⟨(b o).toNat * 2 ^ 16 + (b (o + 1)).toNat * 2 ^ 8 + (b (o + 2)).toNat,
        by omega⟩)
      (by rw [hD]; omega), hABC, hD]
  simp only [beValue, Nat.add_assoc, Nat.reduceAdd]
  omega

/-- The block length is the big-endian value of the bytes-per-block field. -/
theorem rawBlockLength_toNat (b : Buffer) :
    (rawBlockLength b).toNat = beValue b bytesPerBlockOffset 4 :=
  toNat_be32 b bytesPerBlockOffset

/-! ## Raw geometry -/

/-- The unit parameters {lit}`StgOpenRaw` decodes from the capacity buffer and the
Block Limits buffer, with the 64 KiB default for a zero maximum transfer length. -/
def rawParams (capacity limits : Buffer) : StorageUnitParams :=
  let blockLength := rawBlockLength capacity
  let maxTransferLength := rawMaxTransferLength blockLength limits
  ⟨rawBlockCount capacity, blockLength,
    if maxTransferLength = 0 then 64 * 1024 else maxTransferLength⟩

/-- {lit}`StgOpenRaw`: the error, {lit}`*PHandle` and {lit}`*StorageUnitParams`, from
the uninitialized 255-byte data buffer it starts with. -/
def stgOpenRaw (io : RawOpenIo) (dataBuffer : Buffer) : Nat × BitVec 64 × StorageUnitParams :=
  let capacity := io.readCapacity.store dataBuffer
  let p := rawParams capacity (io.blockLimits.store capacity)
  if io.createFile.handle = invalidHandleValue then
    (io.createFile.lastError, invalidHandleValue, ⟨0, 0, 0⟩)
  else if io.readCapacity.error ≠ errorSuccess then
    (io.readCapacity.error, invalidHandleValue, ⟨0, 0, 0⟩)
  else if io.readCapacity.scsiStatus ≠ scsistatGood then
    (errorIoDevice, invalidHandleValue, ⟨0, 0, 0⟩)
  else if io.blockLimits.error ≠ errorSuccess then
    (io.blockLimits.error, invalidHandleValue, ⟨p.blockCount, p.blockLength, 0⟩)
  else if io.blockLimits.scsiStatus ≠ scsistatGood then
    (errorIoDevice, invalidHandleValue, ⟨p.blockCount, p.blockLength, 0⟩)
  else if p.blockCount = 0 ∨ p.blockLength = 0 then
    (errorIoDevice, invalidHandleValue, p)
  else
    (errorSuccess, io.createFile.handle, p)

/-- A raw open fails at {lit}`CreateFileW` with its {lit}`GetLastError`, or fails
later with a nonzero error, or has passed every check and returns the device
handle with the decoded parameters.  Every failure leaves {lit}`*PHandle` invalid. -/
theorem stgOpenRaw_cases (io : RawOpenIo) (b : Buffer) :
    (io.createFile.handle = invalidHandleValue ∧
      stgOpenRaw io b = (io.createFile.lastError, invalidHandleValue, ⟨0, 0, 0⟩)) ∨
    ((stgOpenRaw io b).1 ≠ errorSuccess ∧ (stgOpenRaw io b).2.1 = invalidHandleValue) ∨
    (io.readCapacity.scsiStatus = scsistatGood ∧ io.blockLimits.scsiStatus = scsistatGood ∧
      ¬((rawParams (io.readCapacity.store b)
          (io.blockLimits.store (io.readCapacity.store b))).blockCount = 0 ∨
        (rawParams (io.readCapacity.store b)
          (io.blockLimits.store (io.readCapacity.store b))).blockLength = 0) ∧
      stgOpenRaw io b = (errorSuccess, io.createFile.handle,
        rawParams (io.readCapacity.store b) (io.blockLimits.store (io.readCapacity.store b)))) := by
  have hio : errorIoDevice ≠ errorSuccess := by decide
  unfold stgOpenRaw
  by_cases h1 : io.createFile.handle = invalidHandleValue
  · exact .inl ⟨h1, by rw [if_pos h1]⟩
  rw [if_neg h1]
  by_cases h2 : io.readCapacity.error ≠ errorSuccess
  · exact .inr (.inl (by rw [if_pos h2]; exact ⟨h2, rfl⟩))
  rw [if_neg h2]
  by_cases h3 : io.readCapacity.scsiStatus ≠ scsistatGood
  · exact .inr (.inl (by rw [if_pos h3]; exact ⟨hio, rfl⟩))
  rw [if_neg h3]
  by_cases h4 : io.blockLimits.error ≠ errorSuccess
  · exact .inr (.inl (by rw [if_pos h4]; exact ⟨h4, rfl⟩))
  rw [if_neg h4]
  by_cases h5 : io.blockLimits.scsiStatus ≠ scsistatGood
  · exact .inr (.inl (by rw [if_pos h5]; exact ⟨hio, rfl⟩))
  rw [if_neg h5]
  split
  · exact .inr (.inl ⟨hio, rfl⟩)
  · exact .inr (.inr ⟨not_not.mp h3, not_not.mp h5, ‹_›, rfl⟩)

/-- Every failed raw open leaves {lit}`*PHandle = INVALID_HANDLE_VALUE`. -/
theorem stgOpenRaw_handle_of_error {io : RawOpenIo} {b : Buffer}
    (h : (stgOpenRaw io b).1 ≠ errorSuccess) : (stgOpenRaw io b).2.1 = invalidHandleValue := by
  rcases stgOpenRaw_cases io b with ⟨-, heq⟩ | ⟨-, hinv⟩ | ⟨-, -, -, heq⟩
  · rw [heq]
  · exact hinv
  · rw [heq] at h
    exact absurd rfl h

/-- A Block Limits field of zero makes the computed maximum transfer length zero,
whatever the block length. -/
theorem rawMaxTransferLength_of_beValue_zero {blockLength : BitVec 32} {b : Buffer}
    (h : beValue b maximumTransferLengthOffset 4 = 0) : rawMaxTransferLength blockLength b = 0 := by
  simp only [beValue, maximumTransferLengthOffset, Nat.reduceAdd] at h
  have h8 : b 8 = 0 := BitVec.eq_of_toNat_eq (by simp; omega)
  have h9 : b 9 = 0 := BitVec.eq_of_toNat_eq (by simp; omega)
  have h10 : b 10 = 0 := BitVec.eq_of_toNat_eq (by simp; omega)
  have h11 : b 11 = 0 := BitVec.eq_of_toNat_eq (by simp; omega)
  simp [rawMaxTransferLength, maximumTransferLengthOffset, byteAt, h8, h9, h10, h11]

/-- A successful raw open saw two good-status responses and returns a nonzero
block count, the big-endian bytes-per-block field of the capacity buffer as it
stands after the command, whatever data length the device reported, and a
nonzero maximum transfer length, which is 64 KiB when the Block Limits field is
zero. -/
theorem stgOpenRaw_sound {io : RawOpenIo} {b : Buffer}
    (hio : io.createFile.handle = invalidHandleValue → io.createFile.lastError ≠ errorSuccess)
    (h : (stgOpenRaw io b).1 = errorSuccess) :
    io.readCapacity.scsiStatus = scsistatGood ∧ io.blockLimits.scsiStatus = scsistatGood ∧
      (stgOpenRaw io b).2.2.blockCount ≠ 0 ∧
      (stgOpenRaw io b).2.2.blockLength.toNat =
        beValue (io.readCapacity.store b) bytesPerBlockOffset 4 ∧
      (stgOpenRaw io b).2.2.maxTransferLength ≠ 0 ∧
      (beValue (io.blockLimits.store (io.readCapacity.store b)) maximumTransferLengthOffset 4 = 0 →
        (stgOpenRaw io b).2.2.maxTransferLength = 64 * 1024) := by
  rcases stgOpenRaw_cases io b with ⟨hc, heq⟩ | ⟨hne, -⟩ | ⟨h3, h5, hne, heq⟩
  · rw [heq] at h
    exact absurd h (hio hc)
  · exact absurd h hne
  rw [heq]
  refine ⟨h3, h5, fun h0 => hne (.inl h0), rawBlockLength_toNat _, ?_, fun hzero => ?_⟩
  · simp only [rawParams]
    split
    · decide
    · assumption
  · simp only [rawParams, rawMaxTransferLength_of_beValue_zero hzero, if_true]

/- The data length is never consulted: a READ CAPACITY (16) response without data
opens the unit with the fields the buffer held before the command. -/
example :
    let stale : Buffer := fun i => if i = 7 then 1 else if i = 10 then 2 else 0
    let io : RawOpenIo := ⟨⟨0x100, 0⟩, ⟨0, 0, 0, fun _ => 0⟩, ⟨0, 0, 64, fun _ => 0⟩⟩
    (stgOpenRaw io stale).1 = errorSuccess ∧ io.readCapacity.dataLength < 12 ∧
      (stgOpenRaw io stale).2.2.blockLength = 512 := by
  decide

/-- The precedence slips of {lit}`StgOpenRaw`, at honest full-length responses.  A
unit of two 512-byte blocks answers READ CAPACITY (16) with all 32 bytes (last
logical block address 1, 512 bytes per block) and the Block Limits page with all
64 bytes (a maximum transfer length of 0x80 blocks).  The open succeeds with a
block count of 1, where {lit}`BE64 + 1 = 2`, because C adds the 1 to the top
byte's shift before the disjunction; and with a maximum transfer length of 128
bytes, where {lit}`BlockLength * BE32 = 65536`, because C multiplies only the top
byte's shift by the block length. -/
theorem stgOpenRaw_precedence_slips :
    let capacity : Buffer := fun i => if i = 7 then 1 else if i = 10 then 2 else 0
    let limits : Buffer := fun i => if i = 11 then 0x80 else 0
    let io : RawOpenIo := ⟨⟨0x100, 0⟩, ⟨0, 0, 32, capacity⟩, ⟨0, 0, 64, limits⟩⟩
    (stgOpenRaw io fun _ => 0).1 = errorSuccess ∧
      12 ≤ io.readCapacity.dataLength ∧ 12 ≤ io.blockLimits.dataLength ∧
      (stgOpenRaw io fun _ => 0).2.2 = ⟨1, 512, 128⟩ ∧
      beValue capacity 0 8 + 1 = 2 ∧
      beValue capacity bytesPerBlockOffset 4 * beValue limits maximumTransferLengthOffset 4 =
        65536 := by
  decide

/-! ## StgOpen -/

/-- The name prefix {lit}`\\.\pipe\` that selects the pipe transport. -/
def pipePrefix : List Char := ['\\', '\\', '.', '\\', 'p', 'i', 'p', 'e', '\\']

/-- {lit}`StgOpen`: a name under the pipe prefix opens a pipe, any other name a raw
device; the C comparison of the first nine characters stops at the terminating
null of a shorter name, so it is a prefix test. -/
def stgOpen (paramsSize : Nat) (pipeIo : PipeOpenIo) (rawIo : RawOpenIo) (stack : Buffer)
    (name : List Char) (storageUnitParams : StorageUnitParams) :
    Nat × BitVec 64 × StorageUnitParams :=
  if pipePrefix.isPrefixOf name then stgOpenPipe paramsSize pipeIo storageUnitParams
  else stgOpenRaw rawIo stack

/-- A raw volume that reports last block 99, 520-byte blocks and no transfer limit
is opened with the 64 KiB default transfer length, which is not a whole number
of 520-byte blocks. -/
theorem stgOpen_raw_accepts_520_byte_blocks :
    let capacity : Buffer := fun i => if i = 7 then 99 else if i = 10 then 2 else
      if i = 11 then 8 else 0
    let pipeIo : PipeOpenIo := ⟨⟨0, 0⟩, ⟨0, 0⟩, ⟨true, 0⟩, ⟨true, 0⟩, 0, ⟨0, 0, 0⟩⟩
    let rawIo : RawOpenIo := ⟨⟨0x100, 0⟩, ⟨0, 0, 32, capacity⟩, ⟨0, 0, 64, fun _ => 0⟩⟩
    stgOpen 64 pipeIo rawIo (fun _ => 0) ['\\', '\\', '.', '\\', 'X', ':'] ⟨0, 0, 0⟩ =
        (errorSuccess, 0x100, ⟨99, 520, 65536⟩) ∧
      ¬(⟨99, 520, 65536⟩ : StorageUnitParams).Valid := by
  decide

end StgPipe
end WinSpd
