import StgPipe.Run

/-!
# Ideal storage units

An ideal storage unit keeps its blocks and answers every request correctly: a
Write stores its payload, an Unmap zeroes the blocks its descriptors name, a
Read returns the current contents of its blocks and a Flush changes nothing;
every response echoes the request's {lit}`Hint` and {lit}`Kind` with a good SCSI
status.  Behind a pipe the unit replies with one message per request, the
response header followed by a Read's data, and the pipe is in message mode: a
read into a buffer shorter than the message fails with {lit}`ERROR_MORE_DATA`.
As a raw volume the unit stores and returns bytes at the byte offsets it is
given.  The last section leaves the ideal unit for a raw volume whose reads
report success after transferring fewer bytes than asked for.

The unit's contents are one byte buffer addressed from block 0, so byte
{lit}`i` of block {lit}`A` is at {lit}`A * BlockLength + i`.

Main results:

- Theorem {lit}`run_ideal_pipe_more_data`: with a maximum transfer length 16
  bytes short of 4 GiB, a run of one Read against an ideal unit fails, because
  the reply buffer size passed to {lit}`ReadFile` wraps in 32 bits.
- Theorem {lit}`stgTransact_raw_short_read_keeps_stamp`: a raw read that
  transfers fewer bytes than asked still succeeds, and leaves the rest of the
  data buffer as it was, so the stamp of the preceding Write passes the test.
-/

namespace WinSpd
namespace StgPipe

/-! ## The unit's operations -/

/-- The unit's contents after a Write of {lit}`length` bytes at byte {lit}`offset`. -/
def storeBytes (contents data : Buffer) (offset length : Nat) : Buffer :=
  fun k => if offset ≤ k ∧ k < offset + length then data (k - offset) else contents k

/-- The unit's contents after an Unmap of the {lit}`count` descriptors at the start of
a payload: descriptor {lit}`i` holds a 64-bit block address at byte {lit}`16 * i`
and a 32-bit block count at byte {lit}`16 * i + 8`. -/
def unmapDescriptors (blockLength : Nat) (data contents : Buffer) (count : Nat) : Buffer :=
  (List.range count).foldl (fun contents i =>
    memset contents ((loadU64 data (16 * i)).toNat * blockLength) 0
      (leValue data (16 * i + 8) 4 * blockLength)) contents

/-- An ideal unit serving one request: its contents after it, and its reply
message's length, header and payload. -/
def idealServe (msgSize blockLength : Nat) (f : Frame) (contents : Buffer) :
    Buffer × Nat × TransactRsp × Buffer :=
  let req := f.req
  let rsp : TransactRsp := ⟨req.hint, req.kind, scsistatGood⟩
  let offset := req.blockAddress.toNat * blockLength
  let length := req.blockCount.toNat * blockLength
  if req.kind = spdIoctlTransactWriteKind then
    (storeBytes contents f.data offset length, msgSize, rsp, fun _ => 0)
  else if req.kind = spdIoctlTransactReadKind then
    (contents, msgSize + length, rsp, fun k => contents (offset + k))
  else if req.kind = spdIoctlTransactUnmapKind then
    (unmapDescriptors blockLength f.data contents req.unmapCount.toNat, msgSize, rsp, fun _ => 0)
  else (contents, msgSize, rsp, fun _ => 0)

/-! ## Behind a pipe -/

/-- An ideal unit behind a pipe: its contents, and the reply message it has not
yet delivered. -/
structure IdealUnit where
  contents : Buffer
  pending : Option (Nat × TransactRsp × Buffer)

/-- An ideal unit behind a message-mode pipe, in a process whose allocations
succeed.  A read delivers the pending reply when it fits the read's buffer and
fails with {lit}`ERROR_MORE_DATA` when it does not. -/
def idealPipe (msgSize blockLength : Nat) : PipeChannel IdealUnit where
  createEvent _ := ⟨true, errorSuccess⟩
  memAlloc _ _ := true
  writeFile u f :=
    let r := idealServe msgSize blockLength f u.contents
    (⟨r.1, some r.2⟩, IoCompletion.done f.length)
  readFile u n :=
    match u.pending with
    | none =>
      (u, ⟨⟨false, errorIoDevice⟩, ⟨false, errorIoDevice⟩, 0⟩, ⟨TransactRsp.zero, fun _ => 0⟩)
    | some (length, rsp, payload) =>
      if length ≤ n then (⟨u.contents, none⟩, IoCompletion.done length, ⟨rsp, payload⟩)
      else (u, ⟨⟨false, errorMoreData⟩, ⟨false, errorMoreData⟩, n⟩, ⟨rsp, payload⟩)

/-- A Read whose reply is longer than the reply buffer fails with
{lit}`ERROR_MORE_DATA`. -/
theorem stgTransactPipe_idealPipe_more_data {msgSize blockLength : Nat} {u : IdealUnit}
    {req : TransactReq} {rsp : TransactRsp} {dataBuffer : Buffer} {p : StorageUnitParams}
    (hk : req.kind = spdIoctlTransactReadKind)
    (hlong : replyBufferLength msgSize p.maxTransferLength <
      msgSize + req.blockCount.toNat * blockLength) :
    (stgTransactPipe msgSize (idealPipe msgSize blockLength) u req rsp dataBuffer p).2.1 =
      errorMoreData := by
  have hw : spdIoctlTransactReadKind ≠ spdIoctlTransactWriteKind := by decide
  have hn : ¬msgSize + req.blockCount.toNat * blockLength ≤
      replyBufferLength msgSize p.maxTransferLength := Nat.not_le.mpr hlong
  simp only [stgTransactPipe, pipeRead, pipeWrite, idealPipe, idealServe, transactFrame, hk, hw,
    if_false, if_true, hn, Bool.not_true, Bool.false_eq_true, waitOverlappedResult_done, ne_eq,
    not_true_eq_false]
  rfl

/-- What the open calls of an ideal unit's pipe return: a connection with handle
0x100 and a handshake of {lit}`paramsSize` bytes announcing {lit}`p`. -/
def idealPipeOpen (paramsSize : Nat) (p : StorageUnitParams) : PipeOpenIo :=
  ⟨⟨0x100, errorSuccess⟩, ⟨0x100, errorSuccess⟩, ⟨true, errorSuccess⟩, ⟨true, errorSuccess⟩,
    paramsSize, p⟩

/-- What the open calls return for a name no volume answers to. -/
def noVolumeOpen : RawOpenIo :=
  ⟨⟨invalidHandleValue, errorIoDevice⟩, ⟨errorIoDevice, 0, 0, fun _ => 0⟩,
    ⟨errorIoDevice, 0, 0, fun _ => 0⟩⟩

/-- A raw volume that cannot be used. -/
def noVolume : RawDevice IdealUnit :=
  ⟨fun _ => ⟨false, errorIoDevice⟩, fun u _ _ _ => (u, IoCompletion.done 0),
    fun u _ _ => (u, IoCompletion.done 0, fun _ => 0)⟩

/-- An ideal unit as a raw volume: a write stores its bytes at its byte offset, a
read transfers every byte it asks for, and both complete at once. -/
def idealVolume : RawDevice IdealUnit :=
  ⟨fun _ => ⟨true, errorSuccess⟩,
    fun u offset data length => (⟨storeBytes u.contents data offset length, u.pending⟩,
      IoCompletion.done length),
    fun u offset length => (u, IoCompletion.done length, fun k => u.contents (offset + k))⟩

/-- What the open calls return for a name no pipe answers to. -/
def noPipeOpen : PipeOpenIo :=
  ⟨⟨invalidHandleValue, errorIoDevice⟩, ⟨invalidHandleValue, errorIoDevice⟩,
    ⟨false, errorIoDevice⟩, ⟨false, errorIoDevice⟩, 0, ⟨0, 0, 0⟩⟩

/-- The run environment of an ideal unit as a raw volume whose open calls return
{lit}`io`, in a process whose allocations succeed; no pipe answers. -/
def idealVolumeEnv (io : RawOpenIo) (contents dataBuffer : Buffer) (threadId : BitVec 32) :
    RunEnv IdealUnit where
  paramsSize := 0
  msgSize := 0
  pipeOpen := noPipeOpen
  rawOpen := io
  stack := fun _ => 0
  allocated := true
  dataBuffer := dataBuffer
  threadId := threadId
  transports := ⟨fun _ => idealPipe 0 0, fun _ => idealVolume, fun _ => ⟨true, errorSuccess⟩⟩
  world := ⟨contents, none⟩

/-- The run environment of an ideal unit behind a pipe, whose handshake announces
{lit}`p`, in a process whose allocations succeed. -/
def idealPipeEnv (paramsSize msgSize : Nat) (p : StorageUnitParams) (contents dataBuffer : Buffer)
    (threadId : BitVec 32) : RunEnv IdealUnit where
  paramsSize := paramsSize
  msgSize := msgSize
  pipeOpen := idealPipeOpen paramsSize p
  rawOpen := noVolumeOpen
  stack := fun _ => 0
  allocated := true
  dataBuffer := dataBuffer
  threadId := threadId
  transports := ⟨fun _ => idealPipe msgSize p.blockLength.toNat, fun _ => noVolume,
    fun _ => ⟨true, errorSuccess⟩⟩
  world := ⟨contents, none⟩

section
variable (paramsSize msgSize : Nat) (p : StorageUnitParams) (contents dataBuffer : Buffer)
  (threadId : BitVec 32)

@[simp]
theorem idealPipeEnv_msgSize :
    (idealPipeEnv paramsSize msgSize p contents dataBuffer threadId).msgSize = msgSize :=
  rfl

@[simp]
theorem idealPipeEnv_threadId :
    (idealPipeEnv paramsSize msgSize p contents dataBuffer threadId).threadId = threadId :=
  rfl

@[simp]
theorem idealPipeEnv_world :
    (idealPipeEnv paramsSize msgSize p contents dataBuffer threadId).world = ⟨contents, none⟩ :=
  rfl

@[simp]
theorem idealPipeEnv_transports :
    (idealPipeEnv paramsSize msgSize p contents dataBuffer threadId).transports =
      ⟨fun _ => idealPipe msgSize p.blockLength.toNat, fun _ => noVolume,
        fun _ => ⟨true, errorSuccess⟩⟩ :=
  rfl

@[simp]
theorem idealPipeEnv_dataBuffer :
    (idealPipeEnv paramsSize msgSize p contents dataBuffer threadId).dataBuffer = dataBuffer :=
  rfl

end

/-- The name {lit}`\\.\pipe\unit`. -/
def unitPipeName : List Char := pipePrefix ++ ['u', 'n', 'i', 't']

/-- A unit of one 16-byte block with a maximum transfer length of {lit}`2 ^ 32 - 16`
bytes, which the handshake check accepts: a run of one Read of that block fails
with {lit}`ERROR_MORE_DATA`, because the reply buffer of {lit}`sizeof (TRANSACT_MSG)
+ MaxTransferLength` bytes is passed to {lit}`ReadFile` as {lit}`sizeof
(TRANSACT_MSG) - 16` bytes, shorter than the ideal unit's reply. -/
theorem run_ideal_pipe_more_data (msgSize : Nat) (h16 : 16 ≤ msgSize) (hlt : msgSize < 2 ^ 32) :
    (⟨1, 16, 0xFFFFFFF0⟩ : StorageUnitParams).Valid ∧
      run (idealPipeEnv 24 msgSize ⟨1, 16, 0xFFFFFFF0⟩ (fun _ => 0) (fun _ => 0) 1) unitPipeName
        1 (['R'].map wch) 0 1 1 = errorMoreData := by
  refine ⟨by decide, ?_⟩
  have hopen : stgOpen 24 (idealPipeOpen 24 ⟨1, 16, 0xFFFFFFF0⟩) noVolumeOpen (fun _ => 0)
      unitPipeName ⟨0, 0, 0⟩ = (errorSuccess, 0x101, ⟨1, 16, 0xFFFFFFF0⟩) := by
    decide
  have hreq : opRequest (runConfig 1 ⟨1, 16, 0xFFFFFFF0⟩ (['R'].map wch) 0 1) 0
      (opWork (runConfig 1 ⟨1, 16, 0xFFFFFFF0⟩ (['R'].map wch) 0 1) 0
        (⟨⟨fun _ => 0, none⟩, fun _ => 0, ⟨0, 1, 1, 0, 0⟩, 0⟩ : LoopState IdealUnit)) =
      ⟨opHint 1 0, spdIoctlTransactReadKind, 0, 1, false, 0⟩ := by
    decide
  refine run_of_first_error (g := ⟨_, by decide⟩)
    (idealPipeEnv 24 msgSize ⟨1, 16, 0xFFFFFFF0⟩ (fun _ => 0) (fun _ => 0) 1) hopen rfl ?_
    errorMoreData_ne
  rw [stgTransact_of_isPipeHandle _ (by decide)]
  simp only [idealPipeEnv_msgSize, idealPipeEnv_threadId, idealPipeEnv_world,
    idealPipeEnv_dataBuffer, idealPipeEnv_transports, hreq]
  refine stgTransactPipe_idealPipe_more_data rfl ?_
  simp only [replyBufferLength, BitVec.reduceToNat]
  omega

/-- With a 48-byte {lit}`TRANSACT_MSG` the run fails. -/
theorem run_ideal_pipe_more_data_msg48 :
    16 ≤ 48 ∧ 48 < 2 ^ 32 ∧ (⟨1, 16, 0xFFFFFFF0⟩ : StorageUnitParams).Valid ∧
      run (idealPipeEnv 24 48 ⟨1, 16, 0xFFFFFFF0⟩ (fun _ => 0) (fun _ => 0) 1) unitPipeName
        1 (['R'].map wch) 0 1 1 = errorMoreData :=
  ⟨by decide, by decide, run_ideal_pipe_more_data 48 (by decide) (by decide)⟩

/-! ## Short raw reads -/

/-- A raw read that completes successfully with fewer bytes than it asked for is
accepted, with a good Read response, and the bytes it did not transfer keep
what the data buffer held: after a Write has stamped one 512-byte block into
the buffer, a Read of that block that transfers nothing returns
{lit}`ERROR_SUCCESS` with the stamp still in place, and the stamp passes the
Write test. -/
theorem stgTransact_raw_short_read_keeps_stamp {σ : Type} (msgSize : Nat) (t : Transports σ)
    (s : σ) (hev : ((t.raw 0x100).createEvent s).ok = true)
    (hread : ∀ offset length, ((t.raw 0x100).readFile s offset length).2.1 = IoCompletion.done 0) :
    (stgTransact msgSize t s 0x100 ⟨7, spdIoctlTransactReadKind, 0, 1, false, 0⟩ TransactRsp.zero
        (fillOrTest (fun _ => 0) 512 0 1 spdIoctlTransactReservedKind).1 ⟨1, 512, 512⟩).2 =
      (errorSuccess, ⟨7, spdIoctlTransactReadKind, scsistatGood⟩,
        (fillOrTest (fun _ => 0) 512 0 1 spdIoctlTransactReservedKind).1) ∧
      (fillOrTest (fun _ => 0) 512 0 1 spdIoctlTransactReservedKind).1 0 ≠ 0 ∧
      (fillOrTest (fillOrTest (fun _ => 0) 512 0 1 spdIoctlTransactReservedKind).1 512 0 1
        spdIoctlTransactWriteKind).2 = true := by
  refine ⟨?_, by decide, fillOrTest_stamp_then_write (by decide)⟩
  have hw : spdIoctlTransactReadKind ≠ spdIoctlTransactWriteKind := by decide
  have hlen : ¬(512 : BitVec 32).toNat < ((1 : BitVec 32) * 512).toNat := by decide
  rw [stgTransact_of_not_isPipeHandle msgSize (by decide)]
  generalize (fillOrTest (fun _ => 0) 512 0 1 spdIoctlTransactReservedKind).1 = b
  simp only [stgTransactRaw, getRawHandle, hev, hread, hw, hlen, waitOverlappedResult_done,
    IoCompletion.done_bytesTransferred, memcpy_zero, ne_eq, not_true_eq_false, false_and, and_false,
    if_false, Bool.not_true, Bool.false_eq_true]

/-- A raw volume whose reads complete successfully without transferring a byte. -/
def emptyReadVolume : RawDevice IdealUnit :=
  ⟨fun _ => ⟨true, errorSuccess⟩, fun u _ _ n => (u, IoCompletion.done n),
    fun u _ _ => (u, IoCompletion.done 0, fun _ => 0)⟩

/-- Behind the empty-read volume, the stamp of the Write survives the Read. -/
theorem stgTransact_raw_short_read_keeps_stamp_emptyRead :
    (stgTransact 48 ⟨fun _ => idealPipe 48 512, fun _ => emptyReadVolume,
        fun _ => ⟨true, errorSuccess⟩⟩ ⟨fun _ => 0, none⟩ 0x100
        ⟨7, spdIoctlTransactReadKind, 0, 1, false, 0⟩ TransactRsp.zero
        (fillOrTest (fun _ => 0) 512 0 1 spdIoctlTransactReservedKind).1 ⟨1, 512, 512⟩).2 =
      (errorSuccess, ⟨7, spdIoctlTransactReadKind, scsistatGood⟩,
        (fillOrTest (fun _ => 0) 512 0 1 spdIoctlTransactReservedKind).1) ∧
      (fillOrTest (fun _ => 0) 512 0 1 spdIoctlTransactReservedKind).1 0 ≠ 0 ∧
      (fillOrTest (fillOrTest (fun _ => 0) 512 0 1 spdIoctlTransactReservedKind).1 512 0 1
        spdIoctlTransactWriteKind).2 = true :=
  stgTransact_raw_short_read_keeps_stamp 48 ⟨fun _ => idealPipe 48 512, fun _ => emptyReadVolume,
    fun _ => ⟨true, errorSuccess⟩⟩ ⟨fun _ => 0, none⟩ rfl fun _ _ => rfl

end StgPipe
end WinSpd
