import StgPipe.Open

/-!
# Transacting with a storage unit

{lit}`StgTransact` sends one request over the transport that opened the unit
and returns the response.  Over a pipe, {lit}`StgTransactPipe` writes the
request header and its payload as one message, and reads one reply message into
a buffer of {lit}`sizeof (TRANSACT_MSG) + MaxTransferLength` bytes; it checks the
reply's length and {lit}`Hint`, and copies a read payload into the caller's
buffer, truncated or zero-padded to the length the request asked for.  Over a
raw volume, {lit}`StgTransactRaw` turns a read or a write into one overlapped
{lit}`ReadFile` or {lit}`WriteFile` at the block's byte offset and synthesizes a
good response.

The far side of each transport is a record of functions of its state
{lit}`σ`: what each system call returns, and how the state changes.  Nothing
is assumed of it, so the results hold for every server and every device; a
result that needs the system's contract that a failed call reports a nonzero
error says so.

Main results:

- Theorem {lit}`waitOverlappedResult_eq_zero_iff`: {lit}`WaitOverlappedResult`
  reports success exactly when the operation succeeded.
- Theorem {lit}`stgTransactPipe_spec`: when the frame and the read payload fit
  the maximum transfer length, {lit}`StgTransactPipe` succeeds exactly when both
  I/Os complete, the reply holds a whole header and echoes the request's
  {lit}`Hint`; it then returns the reply header and the payload truncated or
  zero-padded to the requested length, and on every error it leaves
  {lit}`*Rsp` and the data buffer unchanged.
- Theorem {lit}`transactFrame_exact`: below 4 GiB the frame is the header
  followed by the whole payload.
- Theorem {lit}`stgTransactPipe_frame_wraps`: at 4 GiB the frame length passed
  to {lit}`WriteFile` wraps, and the frame is shorter than its header.
- Theorem {lit}`stgTransactRaw_success`: a successful raw read overwrites only
  the bytes the device reported transferred.
- Theorem {lit}`stgOpen_refines_stgHandle`: the tagged handle that
  {lit}`StgOpen` returns reaches the transport and the system handle it was
  opened through.
-/

namespace WinSpd
namespace StgPipe

/-! ## Overlapped I/O -/

/-- An overlapped {lit}`ReadFile` or {lit}`WriteFile` and the wait for it: the
call's {lit}`BOOL` and {lit}`GetLastError`, then those of
{lit}`GetOverlappedResult`, with the byte count it reports. -/
structure IoCompletion where
  started : BoolResult
  completed : BoolResult
  bytesTransferred : Nat

/-- {lit}`WaitOverlappedResult`: the call's error unless the call is pending,
then the wait's error. -/
def waitOverlappedResult (c : IoCompletion) : Nat :=
  if !c.started.ok && c.started.lastError != errorIoPending then c.started.lastError
  else if !c.completed.ok then c.completed.lastError
  else errorSuccess

/-- The operation succeeded: it completed at once or went pending, and the wait
for it succeeded. -/
def IoCompletion.Succeeds (c : IoCompletion) : Prop :=
  (c.started.ok = true ∨ c.started.lastError = errorIoPending) ∧ c.completed.ok = true

/-- The system's contract for one operation: a failed call reports a nonzero
{lit}`GetLastError`. -/
def IoCompletion.ReportsErrors (c : IoCompletion) : Prop :=
  (c.started.ok = false → c.started.lastError ≠ errorSuccess) ∧
    (c.completed.ok = false → c.completed.lastError ≠ errorSuccess)

/-- An operation that completed at once and whose wait succeeded. -/
def IoCompletion.done (bytesTransferred : Nat) : IoCompletion :=
  ⟨⟨true, errorSuccess⟩, ⟨true, errorSuccess⟩, bytesTransferred⟩

theorem waitOverlappedResult_eq_zero_iff {c : IoCompletion} (hc : c.ReportsErrors) :
    waitOverlappedResult c = errorSuccess ↔ c.Succeeds := by
  obtain ⟨⟨ok, e⟩, ⟨ok', e'⟩, n⟩ := c
  obtain ⟨h1, h2⟩ := hc
  simp only [IoCompletion.Succeeds, waitOverlappedResult] at h1 h2 ⊢
  cases ok <;> cases ok' <;> by_cases hp : e = errorIoPending <;>
    simp_all [errorIoPending, errorSuccess]

@[simp]
theorem waitOverlappedResult_done (n : Nat) :
    waitOverlappedResult (IoCompletion.done n) = errorSuccess :=
  rfl

@[simp]
theorem IoCompletion.done_bytesTransferred (n : Nat) : (IoCompletion.done n).bytesTransferred = n :=
  rfl

/-! ## The pipe transport -/

/-- The message {lit}`StgTransactPipe` writes: the request header, then
{lit}`dataLength` bytes copied from the data buffer, {lit}`length` bytes in all
as passed to {lit}`WriteFile`. -/
structure Frame where
  req : TransactReq
  data : Buffer
  dataLength : Nat
  length : Nat

/-- The reply as it stands in the message buffer after the read: the response
header, and the bytes from offset {lit}`sizeof (TRANSACT_MSG)` on. -/
structure PipeReply where
  rsp : TransactRsp
  payload : Buffer

/-- The pipe and the allocator as {lit}`StgTransactPipe` sees them, with the state
{lit}`σ` of the server behind the pipe: {lit}`CreateEventW`, {lit}`MemAlloc` of a
size, the overlapped {lit}`WriteFile` of a frame, and the overlapped
{lit}`ReadFile` of at most a number of bytes with the reply it leaves. -/
structure PipeChannel (σ : Type) where
  createEvent : σ → BoolResult
  memAlloc : σ → Nat → Bool
  writeFile : σ → Frame → σ × IoCompletion
  readFile : σ → Nat → σ × IoCompletion × PipeReply

section Pipe

variable {σ : Type}

/- The size of {lit}`TRANSACT_MSG`, the union of the request and response
headers, declared in the WinSpd headers. -/
variable (msgSize : Nat)

/-- The payload length of a request, in 32 bits: {lit}`Write.BlockCount *
BlockLength` for a write, {lit}`Unmap.Count * sizeof (SPD_IOCTL_UNMAP_DESCRIPTOR)`
for an unmap. -/
def requestDataLength (req : TransactReq) (blockLength : BitVec 32) : BitVec 32 :=
  if req.kind = spdIoctlTransactWriteKind then req.blockCount * blockLength
  else if req.kind = spdIoctlTransactUnmapKind then
    req.unmapCount * BitVec.ofNat 32 unmapDescriptorSize
  else 0

/-- The frame of a request: its length {lit}`sizeof (TRANSACT_MSG) + DataLength`
is passed to {lit}`WriteFile` as a {lit}`DWORD`. -/
def transactFrame (req : TransactReq) (dataBuffer : Buffer) (blockLength : BitVec 32) : Frame :=
  let dataLength := (requestDataLength req blockLength).toNat
  ⟨req, dataBuffer, dataLength, (msgSize + dataLength) % 2 ^ 32⟩

@[simp]
theorem transactFrame_req (req : TransactReq) (dataBuffer : Buffer) (blockLength : BitVec 32) :
    (transactFrame msgSize req dataBuffer blockLength).req = req :=
  rfl

@[simp]
theorem transactFrame_data (req : TransactReq) (dataBuffer : Buffer) (blockLength : BitVec 32) :
    (transactFrame msgSize req dataBuffer blockLength).data = dataBuffer :=
  rfl

/-- The {lit}`DWORD` size of the reply buffer passed to {lit}`ReadFile`. -/
def replyBufferLength (maxTransferLength : BitVec 32) : Nat :=
  (msgSize + maxTransferLength.toNat) % 2 ^ 32

/-- The data buffer after {lit}`n` payload bytes are copied to it and the rest of
{lit}`dataLength` bytes is zeroed. -/
def copyReadPayload (dataBuffer payload : Buffer) (n dataLength : Nat) : Buffer :=
  memset (memcpy dataBuffer payload n) n 0 (dataLength - n)

/-- The checks {lit}`StgTransactPipe` makes after a completed read of
{lit}`bytesTransferred` bytes: the error, {lit}`*Rsp` and the data buffer. -/
def decodeReply (req : TransactReq) (rsp : TransactRsp) (dataBuffer : Buffer)
    (p : StorageUnitParams) (bytesTransferred : Nat) (reply : PipeReply) :
    Nat × TransactRsp × Buffer :=
  if msgSize > bytesTransferred ∨ req.hint ≠ reply.rsp.hint then (errorIoDevice, rsp, dataBuffer)
  else if reply.rsp.kind = spdIoctlTransactReadKind ∧ reply.rsp.scsiStatus = scsistatGood then
    let dataLength := (req.blockCount * p.blockLength).toNat
    if dataLength > p.maxTransferLength.toNat then (errorIoDevice, rsp, dataBuffer)
    else
      let payloadLength := bytesTransferred - msgSize
      let n := if payloadLength > dataLength then dataLength else payloadLength
      (errorSuccess, reply.rsp, copyReadPayload dataBuffer reply.payload n dataLength)
  else (errorSuccess, reply.rsp, dataBuffer)

/-- The write of a request's frame, and what it returns. -/
def pipeWrite (ch : PipeChannel σ) (s : σ) (req : TransactReq) (dataBuffer : Buffer)
    (p : StorageUnitParams) : σ × IoCompletion :=
  ch.writeFile s (transactFrame msgSize req dataBuffer p.blockLength)

/-- The read of the reply after the write, and what it returns. -/
def pipeRead (ch : PipeChannel σ) (s : σ) (req : TransactReq) (dataBuffer : Buffer)
    (p : StorageUnitParams) : σ × IoCompletion × PipeReply :=
  ch.readFile (pipeWrite msgSize ch s req dataBuffer p).1
    (replyBufferLength msgSize p.maxTransferLength)

/-- {lit}`StgTransactPipe`: the server's state, the error, {lit}`*Rsp` and the data
buffer.  The bindings name what each call returns; each is consulted only once
the checks before it passed, as in the source, so a call the source does not
make has no effect on the result. -/
def stgTransactPipe (ch : PipeChannel σ) (s : σ) (req : TransactReq) (rsp : TransactRsp)
    (dataBuffer : Buffer) (p : StorageUnitParams) : σ × Nat × TransactRsp × Buffer :=
  let event := ch.createEvent s
  let written := pipeWrite msgSize ch s req dataBuffer p
  let read := pipeRead msgSize ch s req dataBuffer p
  if !event.ok then (s, event.lastError, rsp, dataBuffer)
  else if !ch.memAlloc s (msgSize + p.maxTransferLength.toNat) then
    (s, errorNoSystemResources, rsp, dataBuffer)
  else if waitOverlappedResult written.2 ≠ errorSuccess then
    (written.1, waitOverlappedResult written.2, rsp, dataBuffer)
  else if waitOverlappedResult read.2.1 ≠ errorSuccess then
    (read.1, waitOverlappedResult read.2.1, rsp, dataBuffer)
  else (read.1, decodeReply msgSize req rsp dataBuffer p read.2.1.bytesTransferred read.2.2)

/-- The four calls of {lit}`StgTransactPipe` succeeded: the event and the message
buffer were allocated, and the write and the read completed. -/
def PipeChannel.Completes (ch : PipeChannel σ) (s : σ) (req : TransactReq) (dataBuffer : Buffer)
    (p : StorageUnitParams) : Prop :=
  (ch.createEvent s).ok = true ∧ ch.memAlloc s (msgSize + p.maxTransferLength.toNat) = true ∧
    waitOverlappedResult (pipeWrite msgSize ch s req dataBuffer p).2 = errorSuccess ∧
    waitOverlappedResult (pipeRead msgSize ch s req dataBuffer p).2.1 = errorSuccess

/-- The system's contract for the pipe: a failed event creation and every failed
write and read report a nonzero error. -/
def PipeChannel.ReportsErrors (ch : PipeChannel σ) : Prop :=
  (∀ s, (ch.createEvent s).ok = false → (ch.createEvent s).lastError ≠ errorSuccess) ∧
    (∀ s f, (ch.writeFile s f).2.ReportsErrors) ∧ ∀ s n, (ch.readFile s n).2.1.ReportsErrors

variable {msgSize} {ch : PipeChannel σ} {s : σ} {req : TransactReq} {rsp : TransactRsp}
  {dataBuffer : Buffer} {p : StorageUnitParams}

theorem stgTransactPipe_of_completes (h : ch.Completes msgSize s req dataBuffer p) :
    stgTransactPipe msgSize ch s req rsp dataBuffer p =
      ((pipeRead msgSize ch s req dataBuffer p).1,
        decodeReply msgSize req rsp dataBuffer p
          (pipeRead msgSize ch s req dataBuffer p).2.1.bytesTransferred
          (pipeRead msgSize ch s req dataBuffer p).2.2) := by
  obtain ⟨he, ha, hw, hr⟩ := h
  simp only [stgTransactPipe, he, ha, hw, hr, Bool.not_true, Bool.false_eq_true, if_false,
    ne_eq, not_true_eq_false]

/-- A transaction whose calls did not all succeed fails, given that a failed event
creation reports its error, and leaves {lit}`*Rsp` and the data buffer as they were. -/
theorem stgTransactPipe_of_not_completes
    (hev : (ch.createEvent s).ok = false → (ch.createEvent s).lastError ≠ errorSuccess)
    (h : ¬ch.Completes msgSize s req dataBuffer p) :
    (stgTransactPipe msgSize ch s req rsp dataBuffer p).2.1 ≠ errorSuccess ∧
      (stgTransactPipe msgSize ch s req rsp dataBuffer p).2.2 = (rsp, dataBuffer) := by
  simp only [stgTransactPipe]
  cases he : (ch.createEvent s).ok
  · simp only [Bool.not_false, if_true]
    exact ⟨hev he, trivial⟩
  simp only [Bool.not_true, Bool.false_eq_true, if_false]
  cases ha : ch.memAlloc s (msgSize + p.maxTransferLength.toNat)
  · simp only [Bool.not_false, if_true]
    exact ⟨errorNoSystemResources_ne, trivial⟩
  simp only [Bool.not_true, Bool.false_eq_true, if_false]
  by_cases hw : waitOverlappedResult (pipeWrite msgSize ch s req dataBuffer p).2 = errorSuccess
  · rw [if_neg (not_not.mpr hw)]
    by_cases hr : waitOverlappedResult (pipeRead msgSize ch s req dataBuffer p).2.1 = errorSuccess
    · exact absurd ⟨he, ha, hw, hr⟩ h
    · rw [if_pos hr]
      exact ⟨hr, rfl⟩
  · rw [if_pos hw]
    exact ⟨hw, rfl⟩

/-! ### The reply checks -/

theorem copyReadPayload_apply (payload : Buffer) {n dataLength : Nat} (hn : n ≤ dataLength)
    (k : Nat) :
    copyReadPayload dataBuffer payload n dataLength k =
      if k < n then payload k else if k < dataLength then 0 else dataBuffer k := by
  simp only [copyReadPayload, memset_apply, memcpy_apply]
  split_ifs <;> first | rfl | omega

/-- The clamp {lit}`if (BytesTransferred > DataLength) BytesTransferred = DataLength`. -/
theorem clamp_eq_min (a b : Nat) : (if a > b then b else a) = min a b := by
  split <;> omega

/-- The two outcomes of the reply checks: a reply too short for a header, with
another {lit}`Hint`, or announcing a good read longer than the maximum transfer
length is rejected and changes nothing; any other reply is accepted, returned
as {lit}`*Rsp`, and a good read reply's payload, truncated or zero-padded to the
requested length, is copied over the data buffer. -/
theorem decodeReply_cases (n : Nat) (reply : PipeReply) :
    ((msgSize > n ∨ req.hint ≠ reply.rsp.hint ∨
        (reply.rsp.kind = spdIoctlTransactReadKind ∧ reply.rsp.scsiStatus = scsistatGood) ∧
          (req.blockCount * p.blockLength).toNat > p.maxTransferLength.toNat) ∧
      decodeReply msgSize req rsp dataBuffer p n reply = (errorIoDevice, rsp, dataBuffer)) ∨
    (msgSize ≤ n ∧ req.hint = reply.rsp.hint ∧
      decodeReply msgSize req rsp dataBuffer p n reply =
        (errorSuccess, reply.rsp,
          if reply.rsp.kind = spdIoctlTransactReadKind ∧ reply.rsp.scsiStatus = scsistatGood then
            copyReadPayload dataBuffer reply.payload
              (min (n - msgSize) (req.blockCount * p.blockLength).toNat)
              (req.blockCount * p.blockLength).toNat
          else dataBuffer)) := by
  simp only [decodeReply, clamp_eq_min]
  by_cases h1 : msgSize > n ∨ req.hint ≠ reply.rsp.hint
  · exact .inl ⟨h1.elim .inl (.inr ∘ .inl), if_pos h1⟩
  rw [if_neg h1]
  simp only [gt_iff_lt, not_or, Nat.not_lt, ne_eq, Decidable.not_not] at h1
  by_cases h2 : reply.rsp.kind = spdIoctlTransactReadKind ∧ reply.rsp.scsiStatus = scsistatGood
  · rw [if_pos h2, if_pos h2]
    by_cases h3 : (req.blockCount * p.blockLength).toNat > p.maxTransferLength.toNat
    · exact .inl ⟨.inr (.inr ⟨h2, h3⟩), if_pos h3⟩
    · exact .inr ⟨h1.1, h1.2, if_neg h3⟩
  · rw [if_neg h2, if_neg h2]
    exact .inr ⟨h1.1, h1.2, rfl⟩

variable {n : Nat} {reply : PipeReply}

/-- A rejected reply leaves {lit}`*Rsp` and the data buffer as they were. -/
theorem decodeReply_of_error
    (h : (decodeReply msgSize req rsp dataBuffer p n reply).1 ≠ errorSuccess) :
    (decodeReply msgSize req rsp dataBuffer p n reply).2 = (rsp, dataBuffer) := by
  rcases decodeReply_cases n reply with ⟨-, heq⟩ | ⟨-, -, heq⟩
  · rw [heq]
  · rw [heq] at h
    exact absurd rfl h

/-- An accepted reply holds a whole header and echoes the request's {lit}`Hint`. -/
theorem decodeReply_accepts
    (h : (decodeReply msgSize req rsp dataBuffer p n reply).1 = errorSuccess) :
    msgSize ≤ n ∧ req.hint = reply.rsp.hint := by
  rcases decodeReply_cases n reply with ⟨-, heq⟩ | ⟨h1, h2, -⟩
  · rw [heq] at h
    exact absurd h errorIoDevice_ne
  · exact ⟨h1, h2⟩

/-- A reply that holds a whole header, echoes the request's {lit}`Hint` and, when it
is a good read reply, is for a read that fits the maximum transfer length, is
accepted. -/
theorem decodeReply_of_accepts (hn : msgSize ≤ n) (hh : req.hint = reply.rsp.hint)
    (hD : reply.rsp.kind = spdIoctlTransactReadKind ∧ reply.rsp.scsiStatus = scsistatGood →
      (req.blockCount * p.blockLength).toNat ≤ p.maxTransferLength.toNat) :
    decodeReply msgSize req rsp dataBuffer p n reply =
      (errorSuccess, reply.rsp,
        if reply.rsp.kind = spdIoctlTransactReadKind ∧ reply.rsp.scsiStatus = scsistatGood then
          copyReadPayload dataBuffer reply.payload
            (min (n - msgSize) (req.blockCount * p.blockLength).toNat)
            (req.blockCount * p.blockLength).toNat
        else dataBuffer) := by
  rcases decodeReply_cases n reply with ⟨hc, -⟩ | ⟨-, -, heq⟩
  · rcases hc with hc | hc | ⟨hg, hc⟩
    · exact absurd hn (Nat.not_le.mpr hc)
    · exact absurd hh hc
    · exact absurd (hD hg) (Nat.not_le.mpr hc)
  · exact heq

/-- When a read payload fits, a reply is accepted exactly when it holds a whole
header and echoes the request's {lit}`Hint`. -/
theorem decodeReply_eq_zero_iff
    (hD : (req.blockCount * p.blockLength).toNat ≤ p.maxTransferLength.toNat) :
    (decodeReply msgSize req rsp dataBuffer p n reply).1 = errorSuccess ↔
      msgSize ≤ n ∧ req.hint = reply.rsp.hint :=
  ⟨decodeReply_accepts, fun ⟨h1, h2⟩ => by rw [decodeReply_of_accepts h1 h2 fun _ => hD]⟩

/-- An accepted reply is returned as {lit}`*Rsp`; a good read reply's payload,
truncated or zero-padded to the requested length, is copied over the data
buffer. -/
theorem decodeReply_of_success
    (h : (decodeReply msgSize req rsp dataBuffer p n reply).1 = errorSuccess) :
    (decodeReply msgSize req rsp dataBuffer p n reply).2 =
      (reply.rsp,
        if reply.rsp.kind = spdIoctlTransactReadKind ∧ reply.rsp.scsiStatus = scsistatGood then
          copyReadPayload dataBuffer reply.payload
            (min (n - msgSize) (req.blockCount * p.blockLength).toNat)
            (req.blockCount * p.blockLength).toNat
        else dataBuffer) := by
  rcases decodeReply_cases n reply with ⟨-, heq⟩ | ⟨-, -, heq⟩
  · rw [heq] at h
    exact absurd h errorIoDevice_ne
  · rw [heq]

/-! ### The transaction -/

/-- A successful transaction completed its four calls and accepted a reply that
holds a whole header and echoes the request's {lit}`Hint`; the server is left in
its state after the read. -/
theorem stgTransactPipe_success
    (hev : (ch.createEvent s).ok = false → (ch.createEvent s).lastError ≠ errorSuccess)
    (h : (stgTransactPipe msgSize ch s req rsp dataBuffer p).2.1 = errorSuccess) :
    ch.Completes msgSize s req dataBuffer p ∧
      (msgSize ≤ (pipeRead msgSize ch s req dataBuffer p).2.1.bytesTransferred ∧
        req.hint = (pipeRead msgSize ch s req dataBuffer p).2.2.rsp.hint) ∧
      (stgTransactPipe msgSize ch s req rsp dataBuffer p).1 =
        (pipeRead msgSize ch s req dataBuffer p).1 := by
  by_cases hc : ch.Completes msgSize s req dataBuffer p
  · rw [stgTransactPipe_of_completes hc] at h ⊢
    exact ⟨hc, decodeReply_accepts h, rfl⟩
  · exact absurd h (stgTransactPipe_of_not_completes hev hc).1

/-- A successful transaction answered with a good Read response leaves below the
request's length the reply's payload, up to the bytes the pipe delivered after the
header, and zero past them, whatever the data buffer held before. -/
theorem stgTransactPipe_read_delivers
    (hev : (ch.createEvent s).ok = false → (ch.createEvent s).lastError ≠ errorSuccess)
    (h : (stgTransactPipe msgSize ch s req rsp dataBuffer p).2.1 = errorSuccess)
    (hk : (stgTransactPipe msgSize ch s req rsp dataBuffer p).2.2.1.kind = spdIoctlTransactReadKind)
    (hs : (stgTransactPipe msgSize ch s req rsp dataBuffer p).2.2.1.scsiStatus = scsistatGood)
    {off : Nat} (hoff : off < (req.blockCount * p.blockLength).toNat) :
    (stgTransactPipe msgSize ch s req rsp dataBuffer p).2.2.2 off =
      if off < (pipeRead msgSize ch s req dataBuffer p).2.1.bytesTransferred - msgSize then
        (pipeRead msgSize ch s req dataBuffer p).2.2.payload off
      else 0 := by
  obtain ⟨hc, -, -⟩ := stgTransactPipe_success hev h
  rw [stgTransactPipe_of_completes hc] at h hk hs ⊢
  rw [decodeReply_of_success h] at hk hs ⊢
  dsimp only at hk hs ⊢
  rw [if_pos ⟨hk, hs⟩, copyReadPayload_apply _ (Nat.min_le_right _ _)]
  simp only [Nat.lt_min, hoff, and_true, if_true]

/-- Below 4 GiB the frame is the header, then the whole payload: {lit}`WriteFile`
is passed {lit}`sizeof (TRANSACT_MSG) + P` bytes, of which the {lit}`P` after the
header are the first {lit}`P` bytes of the data buffer. -/
theorem transactFrame_exact (blockLength : BitVec 32)
    (h : msgSize + (requestDataLength req blockLength).toNat < 2 ^ 32) :
    transactFrame msgSize req dataBuffer blockLength =
      ⟨req, dataBuffer, (requestDataLength req blockLength).toNat,
        msgSize + (requestDataLength req blockLength).toNat⟩ := by
  simp only [transactFrame, Nat.mod_eq_of_lt h]

/-- {lit}`StgTransactPipe`'s contract.  When the read payload fits the maximum
transfer length, the transaction succeeds exactly when its calls succeed, the
reply holds a whole header and echoes the request's {lit}`Hint`.  On success
{lit}`*Rsp` is the reply's header and a good read reply's payload, truncated or
zero-padded to the requested length, is over the data buffer; on every error
{lit}`*Rsp` and the data buffer are unchanged. -/
theorem stgTransactPipe_spec (hch : ch.ReportsErrors)
    (hD : (req.blockCount * p.blockLength).toNat ≤ p.maxTransferLength.toNat) :
    let out := stgTransactPipe msgSize ch s req rsp dataBuffer p
    let read := pipeRead msgSize ch s req dataBuffer p
    (out.2.1 = errorSuccess ↔ ch.Completes msgSize s req dataBuffer p ∧
      msgSize ≤ read.2.1.bytesTransferred ∧ req.hint = read.2.2.rsp.hint) ∧
    (out.2.1 ≠ errorSuccess → out.2.2 = (rsp, dataBuffer)) ∧
    (out.2.1 = errorSuccess → out.2.2 =
      (read.2.2.rsp,
        if read.2.2.rsp.kind = spdIoctlTransactReadKind ∧
            read.2.2.rsp.scsiStatus = scsistatGood then
          copyReadPayload dataBuffer read.2.2.payload
            (min (read.2.1.bytesTransferred - msgSize) (req.blockCount * p.blockLength).toNat)
            (req.blockCount * p.blockLength).toNat
        else dataBuffer)) := by
  intro out read
  by_cases hc : ch.Completes msgSize s req dataBuffer p
  · have hout : out = _ := stgTransactPipe_of_completes hc
    rw [hout]
    exact ⟨(decodeReply_eq_zero_iff hD).trans (and_iff_right hc).symm, decodeReply_of_error,
      decodeReply_of_success⟩
  · obtain ⟨hne, hunchanged⟩ : out.2.1 ≠ errorSuccess ∧ out.2.2 = (rsp, dataBuffer) :=
      stgTransactPipe_of_not_completes (hch.1 s) hc
    exact ⟨iff_of_false hne fun h => hc h.1, fun _ => hunchanged, fun h => absurd h hne⟩

/-- The reply checks copy a read's payload only after checking that the read fits
the maximum transfer length, so they leave the data buffer alone from there on. -/
theorem decodeReply_dataBuffer_of_le {i : Nat} (hi : p.maxTransferLength.toNat ≤ i) :
    (decodeReply msgSize req rsp dataBuffer p n reply).2.2 i = dataBuffer i := by
  rw [decodeReply]
  by_cases h1 : msgSize > n ∨ req.hint ≠ reply.rsp.hint
  · rw [if_pos h1]
  rw [if_neg h1]
  by_cases h2 : reply.rsp.kind = spdIoctlTransactReadKind ∧ reply.rsp.scsiStatus = scsistatGood
  · rw [if_pos h2]
    by_cases h3 : (req.blockCount * p.blockLength).toNat > p.maxTransferLength.toNat
    · rw [if_pos h3]
    rw [if_neg h3]
    dsimp only
    rw [copyReadPayload_apply _ (by split <;> omega), if_neg (by split <;> omega),
      if_neg (by omega)]
  · rw [if_neg h2]

/-- Whatever the server sends, {lit}`StgTransactPipe` leaves the data buffer alone
from {lit}`MaxTransferLength` on. -/
theorem stgTransactPipe_dataBuffer_of_le {i : Nat} (hi : p.maxTransferLength.toNat ≤ i) :
    (stgTransactPipe msgSize ch s req rsp dataBuffer p).2.2.2 i = dataBuffer i := by
  simp only [stgTransactPipe, apply_ite (fun x : σ × Nat × TransactRsp × Buffer => x.2.2.2 i),
    decodeReply_dataBuffer_of_le hi, ite_self]

/-- A pipe whose server keeps every frame it is sent and answers every read with
the same completion and reply. -/
def PipeChannel.recorder (answer : IoCompletion × PipeReply) : PipeChannel (List Frame) where
  createEvent _ := ⟨true, errorSuccess⟩
  memAlloc _ _ := true
  writeFile frames f := (frames ++ [f], IoCompletion.done f.length)
  readFile frames _ := (frames, answer)

/-- {lit}`StgTransactPipe` sends exactly one frame, the request's. -/
theorem stgTransactPipe_recorder (answer : IoCompletion × PipeReply) (frames : List Frame) :
    (stgTransactPipe msgSize (PipeChannel.recorder answer) frames req rsp dataBuffer p).1 =
      frames ++ [transactFrame msgSize req dataBuffer p.blockLength] := by
  simp only [stgTransactPipe, pipeRead, pipeWrite, PipeChannel.recorder, Bool.not_true,
    Bool.false_eq_true, if_false, waitOverlappedResult_done, ne_eq, not_true_eq_false]
  split_ifs <;> rfl

/-- A write of {lit}`2^28 - 1` sixteen-byte blocks on a unit whose maximum transfer
length is {lit}`2^32 - 16` bytes: the payload fits, but the frame's length wraps in
32 bits, and {lit}`WriteFile` is passed {lit}`sizeof (TRANSACT_MSG) - 16` bytes. -/
theorem stgTransactPipe_frame_wraps (h16 : 16 ≤ msgSize) (hlt : msgSize < 2 ^ 32)
    (answer : IoCompletion × PipeReply) :
    let req : TransactReq := ⟨1, spdIoctlTransactWriteKind, 0, 0xFFFFFFF, false, 0⟩
    let p : StorageUnitParams := ⟨1, 16, 0xFFFFFFF0⟩
    p.Valid ∧ (requestDataLength req p.blockLength).toNat = p.maxTransferLength.toNat ∧
      (stgTransactPipe msgSize (PipeChannel.recorder answer) [] req rsp dataBuffer p).1 =
        [⟨req, dataBuffer, 0xFFFFFFF0, msgSize - 16⟩] := by
  intro req p
  have hlen : (requestDataLength req p.blockLength).toNat = 0xFFFFFFF0 := by decide
  refine ⟨by decide, hlen, ?_⟩
  have hwrap : (msgSize + 0xFFFFFFF0) % 2 ^ 32 = msgSize - 16 := by omega
  simp only [stgTransactPipe_recorder, List.nil_append, transactFrame, hlen, hwrap]

/-- The wrap for a 48-byte message header. -/
theorem stgTransactPipe_frame_wraps_msg48 :
    16 ≤ 48 ∧ 48 < 2 ^ 32 ∧
      (stgTransactPipe 48
        (PipeChannel.recorder (IoCompletion.done 0, ⟨TransactRsp.zero, fun _ => 0⟩))
        [] ⟨1, spdIoctlTransactWriteKind, 0, 0xFFFFFFF, false, 0⟩ TransactRsp.zero (fun _ => 0)
        ⟨1, 16, 0xFFFFFFF0⟩).1 =
        [⟨⟨1, spdIoctlTransactWriteKind, 0, 0xFFFFFFF, false, 0⟩, fun _ => 0, 0xFFFFFFF0, 32⟩] :=
  ⟨by decide, by decide, (stgTransactPipe_frame_wraps (by decide) (by decide) _).2.2⟩

end Pipe

/-! ## The raw transport -/

/-- A raw volume as {lit}`StgTransactRaw` sees it, with the device's state
{lit}`σ`: {lit}`CreateEventW`, the overlapped {lit}`WriteFile` of a number of bytes
of a buffer at a byte offset, and the overlapped {lit}`ReadFile` of a number of
bytes at a byte offset, with the bytes it delivers. -/
structure RawDevice (σ : Type) where
  createEvent : σ → BoolResult
  writeFile : σ → Nat → Buffer → Nat → σ × IoCompletion
  readFile : σ → Nat → Nat → σ × IoCompletion × Buffer

section Raw

variable {σ : Type}

/-- {lit}`StgTransactRaw`: only reads and writes are accepted; the byte offset is
the 64-bit product {lit}`BlockAddress * BlockLength` and the length the 32-bit
product {lit}`BlockCount * BlockLength`.  A read leaves the bytes the device
transferred at the start of the data buffer; the response is synthesized.  The
data buffer is run's, of {lit}`MaxTransferLength` bytes, so a longer transfer
reads or writes past its end. -/
def stgTransactRaw (dev : RawDevice σ) (s : σ) (req : TransactReq) (rsp : TransactRsp)
    (dataBuffer : Buffer) (p : StorageUnitParams) : σ × Nat × TransactRsp × Buffer :=
  let event := dev.createEvent s
  let offset := (req.blockAddress * p.blockLength.setWidth 64).toNat
  let dataLength := (req.blockCount * p.blockLength).toNat
  let written := dev.writeFile s offset dataBuffer dataLength
  let read := dev.readFile s offset dataLength
  let transferred := memcpy dataBuffer read.2.2 read.2.1.bytesTransferred
  let good : TransactRsp := ⟨req.hint, req.kind, scsistatGood⟩
  if req.kind ≠ spdIoctlTransactReadKind ∧ req.kind ≠ spdIoctlTransactWriteKind then
    (s, errorInvalidParameter, rsp, dataBuffer)
  else if !event.ok then (s, event.lastError, rsp, dataBuffer)
  else if p.maxTransferLength.toNat < dataLength then (s, undefinedBehavior, rsp, dataBuffer)
  else if req.kind = spdIoctlTransactWriteKind then
    if waitOverlappedResult written.2 ≠ errorSuccess then
      (written.1, waitOverlappedResult written.2, rsp, dataBuffer)
    else (written.1, errorSuccess, good, dataBuffer)
  else if waitOverlappedResult read.2.1 ≠ errorSuccess then
    (read.1, waitOverlappedResult read.2.1, rsp, transferred)
  else (read.1, errorSuccess, good, transferred)

/-- The system's contract for a raw volume's reads: a read transfers at most the
bytes it asks for. -/
def RawDevice.ReadsWithin (dev : RawDevice σ) : Prop :=
  ∀ s offset length, (dev.readFile s offset length).2.1.bytesTransferred ≤ length

variable {dev : RawDevice σ} {s : σ} {req : TransactReq} {rsp : TransactRsp}
  {dataBuffer : Buffer} {p : StorageUnitParams}

/-- A successful raw transaction was a read, answered with a good response and
the bytes the device reported transferred copied over the data buffer, whatever
length the request asked for; or a write, answered with a good response and the
data buffer unchanged. -/
theorem stgTransactRaw_success
    (hev : (dev.createEvent s).ok = false → (dev.createEvent s).lastError ≠ errorSuccess)
    (h : (stgTransactRaw dev s req rsp dataBuffer p).2.1 = errorSuccess) :
    (req.kind = spdIoctlTransactReadKind ∧ (stgTransactRaw dev s req rsp dataBuffer p).2.2 =
      (⟨req.hint, req.kind, scsistatGood⟩,
        memcpy dataBuffer
          (dev.readFile s (req.blockAddress * p.blockLength.setWidth 64).toNat
            (req.blockCount * p.blockLength).toNat).2.2
          (dev.readFile s (req.blockAddress * p.blockLength.setWidth 64).toNat
            (req.blockCount * p.blockLength).toNat).2.1.bytesTransferred)) ∨
    (req.kind = spdIoctlTransactWriteKind ∧ (stgTransactRaw dev s req rsp dataBuffer p).2.2 =
      (⟨req.hint, req.kind, scsistatGood⟩, dataBuffer)) := by
  simp only [stgTransactRaw] at h ⊢
  by_cases h1 : req.kind ≠ spdIoctlTransactReadKind ∧ req.kind ≠ spdIoctlTransactWriteKind
  · rw [if_pos h1] at h
    exact absurd h errorInvalidParameter_ne
  rw [if_neg h1] at h ⊢
  by_cases h2 : (!(dev.createEvent s).ok) = true
  · rw [if_pos h2] at h
    exact absurd h (hev (by simpa using h2))
  rw [if_neg h2] at h ⊢
  by_cases hub : p.maxTransferLength.toNat < (req.blockCount * p.blockLength).toNat
  · rw [if_pos hub] at h
    exact absurd h undefinedBehavior_ne
  rw [if_neg hub] at h ⊢
  by_cases h3 : req.kind = spdIoctlTransactWriteKind
  · rw [if_pos h3] at h ⊢
    split at h
    next h4 => exact absurd h h4
    next h4 =>
      rw [if_neg h4]
      exact .inr ⟨h3, rfl⟩
  · rw [if_neg h3] at h ⊢
    split at h
    next h4 => exact absurd h h4
    next h4 =>
      rw [if_neg h4]
      exact .inl ⟨Decidable.of_not_not fun hr => h1 ⟨hr, h3⟩, rfl⟩

/-- A request other than a read or a write is refused before the device is used. -/
theorem stgTransactRaw_of_not_readWrite (hr : req.kind ≠ spdIoctlTransactReadKind)
    (hw : req.kind ≠ spdIoctlTransactWriteKind) :
    stgTransactRaw dev s req rsp dataBuffer p = (s, errorInvalidParameter, rsp, dataBuffer) := by
  simp only [stgTransactRaw, if_pos (And.intro hr hw)]

/-- A raw transaction changes the data buffer only below the request's length,
where a read transfers its bytes. -/
theorem stgTransactRaw_dataBuffer_of_le (hdev : dev.ReadsWithin) {i : Nat}
    (hi : (req.blockCount * p.blockLength).toNat ≤ i) :
    (stgTransactRaw dev s req rsp dataBuffer p).2.2.2 i = dataBuffer i := by
  have hread := hdev s (req.blockAddress * p.blockLength.setWidth 64).toNat
    (req.blockCount * p.blockLength).toNat
  have hcopy : ∀ src, memcpy dataBuffer src
      (dev.readFile s (req.blockAddress * p.blockLength.setWidth 64).toNat
        (req.blockCount * p.blockLength).toNat).2.1.bytesTransferred i = dataBuffer i :=
    fun _ => if_neg (Nat.not_lt.mpr (Nat.le_trans hread hi))
  simp only [stgTransactRaw, apply_ite (fun x : σ × Nat × TransactRsp × Buffer => x.2.2.2 i),
    hcopy, ite_self]

end Raw

/-! ## Dispatch on the handle's tag -/

/-- The system calls behind the process's handles: the pipe or raw volume that a
system handle names, and {lit}`CloseHandle`. -/
structure Transports (σ : Type) where
  pipe : BitVec 64 → PipeChannel σ
  raw : BitVec 64 → RawDevice σ
  closeHandle : BitVec 64 → BoolResult

section Dispatch

variable {σ : Type} (msgSize : Nat)

/-- {lit}`StgTransact`: a handle with bit 0 set is a pipe. -/
def stgTransact (t : Transports σ) (s : σ) (handle : BitVec 64) (req : TransactReq)
    (rsp : TransactRsp) (dataBuffer : Buffer) (p : StorageUnitParams) :
    σ × Nat × TransactRsp × Buffer :=
  if isPipeHandle handle then
    stgTransactPipe msgSize (t.pipe (getPipeHandle handle)) s req rsp dataBuffer p
  else stgTransactRaw (t.raw (getRawHandle handle)) s req rsp dataBuffer p

/-- {lit}`CloseHandle (h) ? 0 : GetLastError ()`. -/
def closeResult (r : BoolResult) : Nat := if r.ok then 0 else r.lastError

/-- {lit}`StgClose`. -/
def stgClose (t : Transports σ) (handle : BitVec 64) : Nat :=
  if isPipeHandle handle then closeResult (t.closeHandle (getPipeHandle handle))
  else closeResult (t.closeHandle (getRawHandle handle))

/-- What a handle returned by {lit}`StgOpen` stands for: a pipe or a raw volume,
with the system handle that opened it. -/
inductive StgHandle where
  | pipe (handle : BitVec 64)
  | raw (handle : BitVec 64)
deriving DecidableEq, Repr

namespace StgHandle

/-- The system handle. -/
def osHandle : StgHandle → BitVec 64
  | pipe handle => handle
  | raw handle => handle

/-- The value {lit}`StgOpen` returns for it: a pipe handle is tagged. -/
def toHandle : StgHandle → BitVec 64
  | pipe handle => setPipeHandle handle
  | raw handle => handle

/-- A transaction on the transport and system handle. -/
def transact (t : Transports σ) (s : σ) (v : StgHandle) (req : TransactReq)
    (rsp : TransactRsp) (dataBuffer : Buffer) (p : StorageUnitParams) :
    σ × Nat × TransactRsp × Buffer :=
  match v with
  | pipe handle => stgTransactPipe msgSize (t.pipe handle) s req rsp dataBuffer p
  | raw handle => stgTransactRaw (t.raw handle) s req rsp dataBuffer p

/-- Closing the system handle. -/
def close (t : Transports σ) (v : StgHandle) : Nat :=
  closeResult (t.closeHandle v.osHandle)

/-- The transport and system handle that {lit}`StgTransact` and {lit}`StgClose`
read off a handle. -/
def ofHandle (handle : BitVec 64) : StgHandle :=
  if isPipeHandle handle then pipe (getPipeHandle handle) else raw (getRawHandle handle)

end StgHandle

theorem isPipeHandle_setPipeHandle (handle : BitVec 64) : isPipeHandle (setPipeHandle handle) := by
  simp only [isPipeHandle, setPipeHandle, bne_iff_ne, ne_eq]
  intro h
  have := congrArg (fun x : BitVec 64 => x.getLsbD 0) h
  simp at this

theorem getPipeHandle_setPipeHandle {handle : BitVec 64} (h : handle &&& 1 = 0) :
    getPipeHandle (setPipeHandle handle) = handle := by
  apply BitVec.eq_of_getLsbD_eq
  intro i
  have hi := congrArg (fun x : BitVec 64 => x.getLsbD 0) h
  simp only [BitVec.getLsbD_and, BitVec.getLsbD_zero] at hi
  simp only [getPipeHandle, setPipeHandle, BitVec.getLsbD_and, BitVec.getLsbD_or,
    BitVec.getLsbD_not]
  by_cases hi0 : (i : Nat) = 0
  · simp_all [BitVec.getLsbD_one]
  · simp [BitVec.getLsbD_one, hi0, i.isLt]

theorem isPipeHandle_of_and_one {handle : BitVec 64} (h : handle &&& 1 = 0) :
    isPipeHandle handle = false := by
  rw [isPipeHandle, h]
  rfl

/-- {lit}`StgTransact` is the transaction on the transport and system handle it
reads off the handle. -/
theorem stgTransact_eq (t : Transports σ) (s : σ) (handle : BitVec 64) (req : TransactReq)
    (rsp : TransactRsp) (dataBuffer : Buffer) (p : StorageUnitParams) :
    stgTransact msgSize t s handle req rsp dataBuffer p =
      (StgHandle.ofHandle handle).transact msgSize t s req rsp dataBuffer p := by
  unfold stgTransact StgHandle.ofHandle
  split <;> rfl

theorem stgTransact_of_isPipeHandle {handle : BitVec 64} (h : isPipeHandle handle = true)
    (t : Transports σ) (s : σ) (req : TransactReq) (rsp : TransactRsp) (dataBuffer : Buffer)
    (p : StorageUnitParams) :
    stgTransact msgSize t s handle req rsp dataBuffer p =
      stgTransactPipe msgSize (t.pipe (getPipeHandle handle)) s req rsp dataBuffer p := by
  simp only [stgTransact, h, if_true]

theorem stgTransact_of_not_isPipeHandle {handle : BitVec 64} (h : isPipeHandle handle = false)
    (t : Transports σ) (s : σ) (req : TransactReq) (rsp : TransactRsp) (dataBuffer : Buffer)
    (p : StorageUnitParams) :
    stgTransact msgSize t s handle req rsp dataBuffer p =
      stgTransactRaw (t.raw (getRawHandle handle)) s req rsp dataBuffer p := by
  simp only [stgTransact, h, Bool.false_eq_true, if_false]

/-- Over either transport, a transaction for a request that fits the maximum
transfer length leaves the data buffer alone from {lit}`MaxTransferLength` on,
given that the raw volumes' reads transfer at most what they ask for. -/
theorem stgTransact_dataBuffer_of_le {t : Transports σ} (hraw : ∀ h, (t.raw h).ReadsWithin)
    {s : σ} {handle : BitVec 64} {req : TransactReq} {rsp : TransactRsp} {dataBuffer : Buffer}
    {p : StorageUnitParams}
    (hD : (req.blockCount * p.blockLength).toNat ≤ p.maxTransferLength.toNat)
    {i : Nat} (hi : p.maxTransferLength.toNat ≤ i) :
    (stgTransact msgSize t s handle req rsp dataBuffer p).2.2.2 i = dataBuffer i := by
  unfold stgTransact
  split
  · exact stgTransactPipe_dataBuffer_of_le hi
  · exact stgTransactRaw_dataBuffer_of_le (hraw _) (Nat.le_trans hD hi)

theorem stgClose_eq (t : Transports σ) (handle : BitVec 64) :
    stgClose t handle = (StgHandle.ofHandle handle).close t := by
  unfold stgClose StgHandle.ofHandle
  split <;> rfl

/-- A system handle with bit 0 clear is read back as the transport it was opened
through. -/
theorem StgHandle.ofHandle_toHandle {v : StgHandle} (hv : v.osHandle &&& 1 = 0) :
    ofHandle v.toHandle = v := by
  cases v with
  | pipe handle =>
    simp only [osHandle] at hv
    simp only [ofHandle, toHandle, isPipeHandle_setPipeHandle, if_true,
      getPipeHandle_setPipeHandle hv]
  | raw handle =>
    simp only [osHandle] at hv
    simp only [ofHandle, toHandle, isPipeHandle_of_and_one hv, Bool.false_eq_true, if_false,
      getRawHandle]

/-- The transport {lit}`StgOpen` opened a name with, and the system handle it got:
the pipe connection for a name under the pipe prefix, the volume otherwise. -/
def openedHandle (pipeIo : PipeOpenIo) (rawIo : RawOpenIo) (name : List Char) : StgHandle :=
  if pipePrefix.isPrefixOf name then .pipe (pipeConnection pipeIo).handle
  else .raw rawIo.createFile.handle

/-- A successful {lit}`StgOpen` returns the encoding of the transport it used with
its system handle. -/
theorem stgOpen_handle {paramsSize : Nat} {pipeIo : PipeOpenIo} {rawIo : RawOpenIo}
    {stack : Buffer} {name : List Char} {p : StorageUnitParams} (hpipe : pipeIo.ReportsErrors)
    (hraw : rawIo.createFile.handle = invalidHandleValue →
      rawIo.createFile.lastError ≠ errorSuccess)
    (h : (stgOpen paramsSize pipeIo rawIo stack name p).1 = errorSuccess) :
    (stgOpen paramsSize pipeIo rawIo stack name p).2.1 =
      (openedHandle pipeIo rawIo name).toHandle := by
  by_cases hp : pipePrefix.isPrefixOf name = true
  · simp only [stgOpen, openedHandle, hp, if_true] at h ⊢
    rw [(stgOpenPipe_success paramsSize hpipe h).2.2]
    rfl
  · simp only [stgOpen, openedHandle, hp, Bool.false_eq_true, if_false] at h ⊢
    rcases stgOpenRaw_cases rawIo stack with ⟨hc, heq⟩ | ⟨hne, -⟩ | ⟨-, -, -, heq⟩
    · rw [heq] at h
      exact absurd h (hraw hc)
    · exact absurd h hne
    · rw [heq]
      rfl

/-- The tagged handle refines the variant of transports: a successful
{lit}`StgOpen` whose system handle has bit 0 clear returns the pipe handle tagged
when it opened a pipe and the volume handle as it is otherwise, and
{lit}`StgTransact` and {lit}`StgClose` on the returned value act on that transport
with that system handle. -/
theorem stgOpen_refines_stgHandle {paramsSize : Nat} {pipeIo : PipeOpenIo} {rawIo : RawOpenIo}
    {stack : Buffer} {name : List Char} {p : StorageUnitParams} (hpipe : pipeIo.ReportsErrors)
    (hraw : rawIo.createFile.handle = invalidHandleValue →
      rawIo.createFile.lastError ≠ errorSuccess)
    (h : (stgOpen paramsSize pipeIo rawIo stack name p).1 = errorSuccess)
    (hv : (openedHandle pipeIo rawIo name).osHandle &&& 1 = 0) :
    let handle := (stgOpen paramsSize pipeIo rawIo stack name p).2.1
    handle = (openedHandle pipeIo rawIo name).toHandle ∧
      StgHandle.ofHandle handle = openedHandle pipeIo rawIo name ∧
      (∀ (t : Transports σ) s req rsp dataBuffer q,
        stgTransact msgSize t s handle req rsp dataBuffer q =
          (openedHandle pipeIo rawIo name).transact msgSize t s req rsp dataBuffer q) ∧
      ∀ t : Transports σ, stgClose t handle = (openedHandle pipeIo rawIo name).close t := by
  intro handle
  have hhandle : handle = _ := stgOpen_handle hpipe hraw h
  have hof : StgHandle.ofHandle handle = openedHandle pipeIo rawIo name := by
    rw [hhandle, StgHandle.ofHandle_toHandle hv]
  exact ⟨hhandle, hof, fun t s req rsp dataBuffer q => by rw [stgTransact_eq, hof],
    fun t => by rw [stgClose_eq, hof]⟩

/-- A pipe connected with system handle 0x100 is returned as 0x101 and read back as
that pipe. -/
theorem stgOpen_refines_stgHandle_pipe0x100 :
    let pipeIo : PipeOpenIo := ⟨⟨0x100, 0⟩, ⟨0x100, 0⟩, ⟨true, 0⟩, ⟨true, 0⟩, 64, ⟨1, 512, 65536⟩⟩
    let rawIo : RawOpenIo := ⟨⟨0x200, 0⟩, ⟨0, 0, 0, fun _ => 0⟩, ⟨0, 0, 0, fun _ => 0⟩⟩
    (stgOpen 64 pipeIo rawIo (fun _ => 0) (pipePrefix ++ ['u']) ⟨0, 0, 0⟩).1 = errorSuccess ∧
      (stgOpen 64 pipeIo rawIo (fun _ => 0) (pipePrefix ++ ['u']) ⟨0, 0, 0⟩).2.1 = 0x101 ∧
      StgHandle.ofHandle
          (stgOpen 64 pipeIo rawIo (fun _ => 0) (pipePrefix ++ ['u']) ⟨0, 0, 0⟩).2.1 =
        .pipe 0x100 :=
  ⟨by decide,
    (stgOpen_refines_stgHandle (σ := Unit) 48 ⟨by decide, by decide, by decide, by decide⟩
      (by decide) (by decide) (by decide)).1.trans (by decide),
    (stgOpen_refines_stgHandle (σ := Unit) 48 ⟨by decide, by decide, by decide, by decide⟩
      (by decide) (by decide) (by decide)).2.1⟩

end Dispatch

end StgPipe
end WinSpd
