import StgPipe.Run

/-!
# The frames of a run

Over a pipe every operation of run is one message each way.
{lit}`StgTransactPipe` writes the request header followed by the request's
payload, {lit}`sizeof (TRANSACT_MSG) + DataLength` bytes, and reads the reply
into a buffer it allocates with {lit}`sizeof (TRANSACT_MSG) + MaxTransferLength`
bytes.  Both lengths reach {lit}`WriteFile` and {lit}`ReadFile` as a 32-bit
{lit}`DWORD`, while the allocation's size is not truncated.

Every request a run issues carries at most {lit}`MaxTransferLength` payload
bytes, so while {lit}`sizeof (TRANSACT_MSG) + MaxTransferLength` is below
{lit}`2 ^ 32` both lengths are exact and the read asks for exactly the bytes
allocated.  The handshake admits maximum transfer lengths up to
{lit}`2 ^ 32 - 16`, and there both sums wrap.  A pipe that logs every frame it
is sent and every read length it is asked for makes this visible at the first
transaction of a run.

Main results:

- Theorem {lit}`runLoop_frame_exact`: below 4 GiB every operation of a run
  frames its header and whole payload, and reads into exactly the buffer
  allocated.
- Theorem {lit}`runLoop_frame_wraps`: on a unit with a maximum transfer length of
  {lit}`2 ^ 32 - 16` bytes, the first Write of a run passes {lit}`WriteFile` a
  frame of {lit}`sizeof (TRANSACT_MSG) - 16` bytes and {lit}`ReadFile` as many,
  whatever the pipe answers.
-/

namespace WinSpd
namespace StgPipe

/-! ## Below 4 GiB -/

/-- Below 4 GiB every operation a run reaches frames its header and whole payload,
at most {lit}`MaxTransferLength` bytes, and reads its reply into exactly the
{lit}`sizeof (TRANSACT_MSG) + MaxTransferLength` bytes allocated for it. -/
theorem runLoop_frame_exact {σ : Type}
    {transact : σ → TransactReq → TransactRsp → Buffer → σ × Nat × TransactRsp × Buffer}
    {c : RunConfig} {g : Geometry} {st0 : LoopState σ} {msgSize : Nat}
    (hc : c.params = g.params) (hmsg : msgSize + g.maxTransferLength < 2 ^ 32) (h0 : st0.j = 0)
    {k : Nat}
    {st : LoopState σ} (h : runLoop transact c k st0 = .ok st) (b : Buffer) :
    (transactFrame msgSize (opRequest c k (opWork c k st)) b c.params.blockLength).length =
        msgSize + (transactFrame msgSize (opRequest c k (opWork c k st)) b
          c.params.blockLength).dataLength ∧
      (transactFrame msgSize (opRequest c k (opWork c k st)) b c.params.blockLength).dataLength ≤
        g.maxTransferLength ∧
      replyBufferLength msgSize c.params.maxTransferLength =
        msgSize + c.params.maxTransferLength.toNat := by
  have hle := requestDataLength_opRequest_le (I := k) hc (runLoop_opBlockCount_le hc h0 h)
  have hmtl : c.params.maxTransferLength.toNat = g.maxTransferLength := by rw [hc]; rfl
  exact ⟨Nat.mod_eq_of_lt (by omega), hle, Nat.mod_eq_of_lt (by omega)⟩

/-- On a unit of 100 blocks of 16 bytes with four blocks per transfer and a
48-byte {lit}`TRANSACT_MSG`, the first Write of a run frames exactly. -/
theorem runLoop_frame_exact_msg48 :
    let c := runConfig 0 ⟨100, 16, 64⟩ (['W'].map wch) 0 4
    let g : Geometry := ⟨⟨100, 16, 64⟩, by decide⟩
    let st0 : LoopState (List TransactReq) := ⟨[], fun _ => 0, ⟨0, 4, 1, 0, 0⟩, 0⟩
    let req := opRequest c 0 (opWork c 0 st0)
    c.params = g.params ∧ 48 + g.maxTransferLength < 2 ^ 32 ∧ st0.j = 0 ∧
      runLoop recordingTransact c 0 st0 = .ok st0 ∧
      (transactFrame 48 req (fun _ => 0) c.params.blockLength).length =
        48 + (transactFrame 48 req (fun _ => 0) c.params.blockLength).dataLength ∧
      (transactFrame 48 req (fun _ => 0) c.params.blockLength).dataLength ≤ g.maxTransferLength ∧
      replyBufferLength 48 c.params.maxTransferLength = 48 + c.params.maxTransferLength.toNat := by
  intro c g st0 req
  exact ⟨rfl, by decide, rfl, rfl,
    @runLoop_frame_exact _ recordingTransact c g st0 48 rfl (by decide) rfl 0 st0 rfl _⟩

/-! ## A logging pipe -/

/-- A pipe whose server logs every frame it is sent and the length of every read
it is asked for, and answers every read with the same completion and reply. -/
def PipeChannel.logger (answer : IoCompletion × PipeReply) :
    PipeChannel (List Frame × List Nat) where
  createEvent _ := ⟨true, errorSuccess⟩
  memAlloc _ _ := true
  writeFile log f := ((log.1 ++ [f], log.2), IoCompletion.done f.length)
  readFile log n := ((log.1, log.2 ++ [n]), answer)

section Logger

variable {msgSize : Nat} {req : TransactReq} {rsp : TransactRsp} {b : Buffer}
  {p : StorageUnitParams}

/-- {lit}`StgTransactPipe` sends the request's frame and reads once, into a buffer
of {lit}`replyBufferLength` bytes. -/
theorem stgTransactPipe_logger (answer : IoCompletion × PipeReply) (log : List Frame × List Nat) :
    stgTransactPipe msgSize (PipeChannel.logger answer) log req rsp b p =
      ((log.1 ++ [transactFrame msgSize req b p.blockLength],
          log.2 ++ [replyBufferLength msgSize p.maxTransferLength]),
        if waitOverlappedResult answer.1 ≠ errorSuccess then (waitOverlappedResult answer.1, rsp, b)
        else decodeReply msgSize req rsp b p answer.1.bytesTransferred answer.2) := by
  simp only [stgTransactPipe, pipeRead, pipeWrite, PipeChannel.logger, Bool.not_true,
    Bool.false_eq_true, if_false, waitOverlappedResult_done, ne_eq, not_true_eq_false]
  split_ifs <;> rfl

end Logger

/-! ## At 4 GiB -/

/-- On a unit of {lit}`2 ^ 28` blocks of 16 bytes with a maximum transfer length of
{lit}`2 ^ 32 - 16` bytes, which the handshake check accepts, the first operation
of a run of Writes from block 0 with count {lit}`2 ^ 28 - 1` is a Write of
{lit}`2 ^ 28 - 1` blocks, whose payload is exactly {lit}`MaxTransferLength`, and
it reaches its transaction.  Whatever the pipe answers, the call passes its
frame to {lit}`WriteFile` with {lit}`sizeof (TRANSACT_MSG) - 16` bytes and the
reply buffer to {lit}`ReadFile` with as many, both {lit}`2 ^ 32` less than their
exact sizes, and less than the bytes allocated for the reply. -/
theorem runLoop_frame_wraps (msgSize : Nat) (h16 : 16 ≤ msgSize) (hlt : msgSize < 2 ^ 32)
    (answer : IoCompletion × PipeReply) :
    let p : StorageUnitParams := ⟨0x10000000, 16, 0xFFFFFFF0⟩
    let c := runConfig 0 p (['W'].map wch) 0 0xFFFFFFF
    let st0 : LoopState (List Frame × List Nat) :=
      ⟨([], []), fun _ => 0, ⟨0, 0xFFFFFFF, 1, 0, 0⟩, 0⟩
    let req := opRequest c 0 (opWork c 0 st0)
    let log := (stgTransactPipe msgSize (PipeChannel.logger answer) st0.world req TransactRsp.zero
      (opBuffer c req.kind (opWork c 0 st0) st0.dataBuffer) p).1
    p.Valid ∧ opUndefined c 0 st0 = false ∧
      req = ⟨0, spdIoctlTransactWriteKind, 0, 0xFFFFFFF, false, 0⟩ ∧
      (log.1.map fun f => (f.req, f.dataLength, f.length), log.2) =
        ([(req, 0xFFFFFFF0, msgSize - 16)], [msgSize - 16]) ∧
      msgSize - 16 + 2 ^ 32 = msgSize + p.maxTransferLength.toNat := by
  intro p c st0 req log
  have hreq : req = ⟨0, spdIoctlTransactWriteKind, 0, 0xFFFFFFF, false, 0⟩ := by decide
  have hlen : (requestDataLength req p.blockLength).toNat = 0xFFFFFFF0 := by rw [hreq]; decide
  have hwrap : (msgSize + 0xFFFFFFF0) % 2 ^ 32 = msgSize - 16 := by omega
  refine ⟨by decide, by decide, hreq, ?_, by simp only [p, BitVec.reduceToNat]; omega⟩
  simp only [log, stgTransactPipe_logger, List.nil_append, List.map_cons, List.map_nil,
    transactFrame, replyBufferLength, hlen, p, BitVec.reduceToNat, hwrap]

/-- The wrap with a 48-byte {lit}`TRANSACT_MSG`, whose pipe completes the read with
the 32 bytes asked for: both lengths are 32 bytes. -/
theorem runLoop_frame_wraps_msg48 :
    16 ≤ 48 ∧ 48 < 2 ^ 32 ∧
      let p : StorageUnitParams := ⟨0x10000000, 16, 0xFFFFFFF0⟩
      let c := runConfig 0 p (['W'].map wch) 0 0xFFFFFFF
      let st0 : LoopState (List Frame × List Nat) :=
        ⟨([], []), fun _ => 0, ⟨0, 0xFFFFFFF, 1, 0, 0⟩, 0⟩
      let req := opRequest c 0 (opWork c 0 st0)
      let log := (stgTransactPipe 48
        (PipeChannel.logger (IoCompletion.done 32, ⟨⟨0, spdIoctlTransactWriteKind, scsistatGood⟩,
          fun _ => 0⟩)) st0.world req TransactRsp.zero
        (opBuffer c req.kind (opWork c 0 st0) st0.dataBuffer) p).1
      p.Valid ∧ opUndefined c 0 st0 = false ∧
        req = ⟨0, spdIoctlTransactWriteKind, 0, 0xFFFFFFF, false, 0⟩ ∧
        (log.1.map fun f => (f.req, f.dataLength, f.length), log.2) =
          ([(req, 0xFFFFFFF0, 48 - 16)], [48 - 16]) ∧
        48 - 16 + 2 ^ 32 = 48 + p.maxTransferLength.toNat :=
  ⟨by decide, by decide, runLoop_frame_wraps 48 (by decide) (by decide) _⟩

end StgPipe
end WinSpd
