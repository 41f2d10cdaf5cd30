import StgPipe.IdealStore

/-!
# What a passing run certifies

run returns {lit}`ERROR_SUCCESS` only when the unit opens, the data buffer is
allocated and every one of its operations passes the checks ({lit}`run_eq_success`).
Those checks make run's verdict sound on what they read, the data buffer: after
every Read that follows a Write in its batch, the buffer holds, at every offset
{lit}`FillOrTest` visits, the byte the Write stamped there, and after every Read
that follows an Unmap it holds zero.  Over a raw volume the buffer is not all the
device returned: a read that transfers fewer bytes leaves the rest as it was, so
the Write's own stamp may pass for the device's data.  Over a pipe it is:
{lit}`StgTransactPipe` copies the reply's payload and zeroes the rest of the
request's length, so the bytes the pipe delivered are the stamp.  Together with
{lit}`run_idealPipe_success`, which says that an ideal unit passes, a run's
verdict over a pipe neither raises a false alarm nor misses one on the offsets
it tests.

Main results:

- Theorem {lit}`runStep_read_stamped`: a Read that passes run's checks left the
  batch's stamp in the data buffer after a Write, and zero after an Unmap.
- Theorem {lit}`run_success_reads_stamped`: a run that returns
  {lit}`ERROR_SUCCESS` carried out all its operations, and after each Read the
  data buffer held what the batch's last Write or Unmap left.
- Theorem {lit}`run_success_pipe_delivers_stamp`: over a pipe, the reply of each
  such Read delivered exactly those bytes.
-/

namespace WinSpd
namespace StgPipe

section Verdict

variable {σ : Type}
  {transact : σ → TransactReq → TransactRsp → Buffer → σ × Nat × TransactRsp × Buffer}
  {c : RunConfig} {g : Geometry}

/-- A Read that passes run's checks returned, at every offset {lit}`FillOrTest`
visits, the batch's stamp after a Write and zero after an Unmap. -/
theorem runStep_read_stamped (hc : c.params = g.params) {I : Nat} {st st' : LoopState σ}
    (hbound : (opWork c I st).opBlockCount.toNat ≤ g.maxBlockCount)
    (hstep : runStep transact c I st = .ok st') (hread : opKind c I = spdIoctlTransactReadKind) :
    ((opWork c I st).testOpKind = spdIoctlTransactWriteKind →
      ∀ off, Stamped g.blockLength (opWork c I st).opBlockCount.toNat off →
        st'.dataBuffer off = stampByte g.blockLength (opWork c I st).blockAddress off) ∧
    ((opWork c I st).testOpKind = spdIoctlTransactUnmapKind →
      ∀ off, Stamped g.blockLength (opWork c I st).opBlockCount.toNat off →
        st'.dataBuffer off = 0) := by
  obtain ⟨-, hcheck, rfl⟩ := runStep_ok hstep
  obtain ⟨hh, hk, hs⟩ := checkResponse_eq_success hcheck
  have hwrap : (opWork c I st).opBlockCount.toNat * c.params.blockLength.toNat ≤ 2 ^ 32 :=
    hc ▸ Nat.le_trans (g.mul_blockLength_le hbound) (Nat.le_of_lt g.params.maxTransferLength.isLt)
  rw [checkResponse_read (by rw [opRequest_kind, hread]) hh hk hs] at hcheck
  simp only [opRequest_kind, hread, opTestKind_of_read] at hcheck ⊢
  rwa [fillOrTest_write_iff hwrap, fillOrTest_unmap_iff hwrap, hc] at hcheck

end Verdict

/-- A run that returns {lit}`ERROR_SUCCESS` on a valid geometry reaches each of its
operations and completes it, and the operation's {lit}`TestOpKind` is the kind of
its batch's last Write or Unmap before it. -/
theorem run_success_step {σ : Type} {env : RunEnv σ} {g : Geometry} {handle : BitVec 64}
    {name : List Char} {opSet : List (BitVec 16)} {opCount blockCount seed : BitVec 32}
    {blockAddress : BitVec 64}
    (hopen : (stgOpen env.paramsSize env.pipeOpen env.rawOpen env.stack name ⟨0, 0, 0⟩).2 =
      (handle, g.params))
    (hrun : run env name opCount opSet blockAddress blockCount seed = errorSuccess)
    {k : Nat} (hk : k < (if opCount = 0 then 1 else opCount).toNat) :
    let c := runConfig env.threadId g.params opSet blockAddress blockCount
    let transact := fun s req rsp b =>
      stgTransact env.msgSize env.transports s handle req rsp b g.params
    ∃ st st', runLoop transact c k
        ⟨env.world, env.dataBuffer, ⟨blockAddress, blockCount, seed, 0, 0⟩, 0⟩ = .ok st ∧
      runStep transact c k st = .ok st' ∧
      (opWork c k st).testOpKind = latestWriteOrUnmap (c.opKinds.take (k % c.opKinds.length)) := by
  intro c transact
  obtain ⟨-, -, stK, hK⟩ := run_eq_success hrun
  rw [hopen] at hK
  obtain ⟨st', hk'⟩ := runLoop_ok_of_le hK hk
  obtain ⟨st, hreach, hstep⟩ := runLoop_succ_ok hk'
  exact ⟨st, st', hreach, hstep, (runLoop_cursor (parseOpSet_ne_nil opSet) rfl hreach).2⟩

/-- No missed alarm in the data buffer.  Take any environment, any unit behind any
transport, and a valid geometry that the open returns.  If run returns
{lit}`ERROR_SUCCESS`, then it reached every one of its operations, each
completed, and after each Read that follows a Write of its batch
({lit}`OpKinds` before it in the batch ending in a Write) the data buffer held
the Write's stamp at every offset {lit}`FillOrTest` visits, and after each Read
that follows an Unmap it held zero there. -/
theorem run_success_reads_stamped {σ : Type} (env : RunEnv σ) {g : Geometry} {handle : BitVec 64}
    {name : List Char} {opSet : List (BitVec 16)} {opCount blockCount seed : BitVec 32}
    {blockAddress : BitVec 64}
    (hopen : (stgOpen env.paramsSize env.pipeOpen env.rawOpen env.stack name ⟨0, 0, 0⟩).2 =
      (handle, g.params))
    (hrun : run env name opCount opSet blockAddress blockCount seed = errorSuccess)
    {k : Nat} (hk : k < (if opCount = 0 then 1 else opCount).toNat) :
    let c := runConfig env.threadId g.params opSet blockAddress blockCount
    let transact := fun s req rsp b =>
      stgTransact env.msgSize env.transports s handle req rsp b g.params
    ∃ st st', runLoop transact c k
        ⟨env.world, env.dataBuffer, ⟨blockAddress, blockCount, seed, 0, 0⟩, 0⟩ = .ok st ∧
      runStep transact c k st = .ok st' ∧
      (opKind c k = spdIoctlTransactReadKind →
        (latestWriteOrUnmap (c.opKinds.take (k % c.opKinds.length)) = spdIoctlTransactWriteKind →
          ∀ off, Stamped g.blockLength (opWork c k st).opBlockCount.toNat off →
            st'.dataBuffer off = stampByte g.blockLength (opWork c k st).blockAddress off) ∧
        (latestWriteOrUnmap (c.opKinds.take (k % c.opKinds.length)) = spdIoctlTransactUnmapKind →
          ∀ off, Stamped g.blockLength (opWork c k st).opBlockCount.toNat off →
            st'.dataBuffer off = 0)) := by
  obtain ⟨st, st', hreach, hstep, htest⟩ := run_success_step hopen hrun hk
  refine ⟨st, st', hreach, hstep, fun hread => ?_⟩
  rw [← htest]
  exact runStep_read_stamped rfl (runLoop_opBlockCount_le rfl rfl hreach) hstep hread

/-- A run of kinds {lit}`WR` against an ideal unit of 4 blocks of 16 bytes returns
{lit}`ERROR_SUCCESS`; its Read, operation 1, brought back the stamp of block 0. -/
theorem run_success_reads_stamped_writeRead :
    let env := idealPipeEnv 24 48 ⟨4, 16, 32⟩ (fun _ => 0) (fun _ => 0) 1
    let g : Geometry := ⟨⟨4, 16, 32⟩, of_decide_eq_true rfl⟩
    let c := runConfig env.threadId g.params (['W', 'R'].map wch) 0 2
    let transact := fun s req rsp b =>
      stgTransact env.msgSize env.transports s 0x101 req rsp b g.params
    (stgOpen env.paramsSize env.pipeOpen env.rawOpen env.stack unitPipeName ⟨0, 0, 0⟩).2 =
        (0x101, g.params) ∧
      run env unitPipeName 2 (['W', 'R'].map wch) 0 2 1 = errorSuccess ∧
      1 < (if (2 : BitVec 32) = 0 then (1 : BitVec 32) else 2).toNat ∧
      ∃ st st', runLoop transact c 1 ⟨env.world, env.dataBuffer, ⟨0, 2, 1, 0, 0⟩, 0⟩ = .ok st ∧
        runStep transact c 1 st = .ok st' ∧
        (opKind c 1 = spdIoctlTransactReadKind →
          (latestWriteOrUnmap (c.opKinds.take (1 % c.opKinds.length)) =
              spdIoctlTransactWriteKind →
            ∀ off, Stamped g.blockLength (opWork c 1 st).opBlockCount.toNat off →
              st'.dataBuffer off = stampByte g.blockLength (opWork c 1 st).blockAddress off) ∧
          (latestWriteOrUnmap (c.opKinds.take (1 % c.opKinds.length)) =
              spdIoctlTransactUnmapKind →
            ∀ off, Stamped g.blockLength (opWork c 1 st).opBlockCount.toNat off →
              st'.dataBuffer off = 0)) := by
  intro env g c transact
  have hopen : (stgOpen env.paramsSize env.pipeOpen env.rawOpen env.stack unitPipeName
      ⟨0, 0, 0⟩).2 = (0x101, g.params) := by decide
  have hrun : run env unitPipeName 2 (['W', 'R'].map wch) 0 2 1 = errorSuccess := by decide
  exact ⟨hopen, hrun, by decide, run_success_reads_stamped env hopen hrun (k := 1) (by decide)⟩

/-- No missed alarm over a pipe.  Take any environment, any server behind the pipe
whose event creation reports its errors, and a valid geometry that the open
returns with a pipe handle.  If run returns {lit}`ERROR_SUCCESS`, then at each
Read it reaches, the bytes the pipe's reply delivered after the header (zero
past the end of the reply) are, at every offset {lit}`FillOrTest` visits, the
stamp of the batch's Write before it, or zero after an Unmap: the data buffer's
earlier contents play no part. -/
theorem run_success_pipe_delivers_stamp {σ : Type} (env : RunEnv σ) {g : Geometry}
    {handle : BitVec 64} {name : List Char} {opSet : List (BitVec 16)}
    {opCount blockCount seed : BitVec 32} {blockAddress : BitVec 64}
    (hopen : (stgOpen env.paramsSize env.pipeOpen env.rawOpen env.stack name ⟨0, 0, 0⟩).2 =
      (handle, g.params))
    (hpipe : isPipeHandle handle = true)
    (hev : ∀ s, ((env.transports.pipe (getPipeHandle handle)).createEvent s).ok = false →
      ((env.transports.pipe (getPipeHandle handle)).createEvent s).lastError ≠ errorSuccess)
    (hrun : run env name opCount opSet blockAddress blockCount seed = errorSuccess)
    {k : Nat} (hk : k < (if opCount = 0 then 1 else opCount).toNat) :
    let c := runConfig env.threadId g.params opSet blockAddress blockCount
    let transact := fun s req rsp b =>
      stgTransact env.msgSize env.transports s handle req rsp b g.params
    ∃ st, runLoop transact c k
        ⟨env.world, env.dataBuffer, ⟨blockAddress, blockCount, seed, 0, 0⟩, 0⟩ = .ok st ∧
      (opKind c k = spdIoctlTransactReadKind →
        let w := opWork c k st
        let read := pipeRead env.msgSize (env.transports.pipe (getPipeHandle handle)) st.world
          (opRequest c k w) st.dataBuffer g.params
        let delivered := fun off =>
          if off < read.2.1.bytesTransferred - env.msgSize then read.2.2.payload off else 0
        (latestWriteOrUnmap (c.opKinds.take (k % c.opKinds.length)) = spdIoctlTransactWriteKind →
          ∀ off, Stamped g.blockLength w.opBlockCount.toNat off →
            delivered off = stampByte g.blockLength w.blockAddress off) ∧
        (latestWriteOrUnmap (c.opKinds.take (k % c.opKinds.length)) = spdIoctlTransactUnmapKind →
          ∀ off, Stamped g.blockLength w.opBlockCount.toNat off → delivered off = 0)) := by
  intro c transact
  obtain ⟨st, st', hreach, hstep, htest⟩ := run_success_step hopen hrun hk
  refine ⟨st, hreach, fun hread => ?_⟩
  intro w read delivered
  have hbound := runLoop_opBlockCount_le (c := c) rfl rfl hreach
  obtain ⟨hW, hU⟩ := runStep_read_stamped rfl hbound hstep hread
  obtain ⟨hr, hcheck, rfl⟩ := runStep_ok hstep
  have hbuf : opBuffer c (opRequest c k w).kind w st.dataBuffer = st.dataBuffer := by
    rw [opRequest_kind, hread]
    exact opBuffer_of_ne (by decide) (by decide) _ _
  have hDL : ((opRequest c k w).blockCount * g.params.blockLength).toNat =
      w.opBlockCount.toNat * g.blockLength := by
    rw [(opRequest_of_readWrite (.inl hread)).2, BitVec.toNat_mul]
    exact Nat.mod_eq_of_lt (Nat.lt_of_le_of_lt (g.mul_blockLength_le hbound)
      g.maxTransferLength_lt)
  simp only [transact, stgTransact_of_isPipeHandle _ hpipe, hbuf] at hr hcheck hW hU
  obtain ⟨-, hkind, hs⟩ := checkResponse_eq_success hcheck
  have hdel : ∀ off, Stamped g.blockLength w.opBlockCount.toNat off →
      delivered off = (stgTransactPipe env.msgSize (env.transports.pipe (getPipeHandle handle))
        st.world (opRequest c k w) TransactRsp.zero st.dataBuffer g.params).2.2.2 off :=
    fun off hoff => (stgTransactPipe_read_delivers (hev _) hr
      (by rw [← hkind, opRequest_kind, hread]) hs (hDL ▸ hoff.lt_mul)).symm
  rw [← htest]
  exact ⟨fun hw off hoff => (hdel off hoff).trans (hW hw off hoff),
    fun hu off hoff => (hdel off hoff).trans (hU hu off hoff)⟩

/-- The run of kinds {lit}`WR` above: the reply to its Read delivered the stamp of
block 0. -/
theorem run_success_pipe_delivers_stamp_writeRead :
    let env := idealPipeEnv 24 48 ⟨4, 16, 32⟩ (fun _ => 0) (fun _ => 0) 1
    let g : Geometry := ⟨⟨4, 16, 32⟩, of_decide_eq_true rfl⟩
    let c := runConfig env.threadId g.params (['W', 'R'].map wch) 0 2
    let transact := fun s req rsp b =>
      stgTransact env.msgSize env.transports s 0x101 req rsp b g.params
    (stgOpen env.paramsSize env.pipeOpen env.rawOpen env.stack unitPipeName ⟨0, 0, 0⟩).2 =
        (0x101, g.params) ∧
      isPipeHandle 0x101 = true ∧
      (∀ s, ((env.transports.pipe (getPipeHandle 0x101)).createEvent s).ok = false →
        ((env.transports.pipe (getPipeHandle 0x101)).createEvent s).lastError ≠ errorSuccess) ∧
      run env unitPipeName 2 (['W', 'R'].map wch) 0 2 1 = errorSuccess ∧
      1 < (if (2 : BitVec 32) = 0 then (1 : BitVec 32) else 2).toNat ∧
      ∃ st, runLoop transact c 1 ⟨env.world, env.dataBuffer, ⟨0, 2, 1, 0, 0⟩, 0⟩ = .ok st ∧
        (opKind c 1 = spdIoctlTransactReadKind →
          let w := opWork c 1 st
          let read := pipeRead env.msgSize (env.transports.pipe (getPipeHandle 0x101)) st.world
            (opRequest c 1 w) st.dataBuffer g.params
          let delivered := fun off =>
            if off < read.2.1.bytesTransferred - env.msgSize then read.2.2.payload off else 0
          (latestWriteOrUnmap (c.opKinds.take (1 % c.opKinds.length)) =
              spdIoctlTransactWriteKind →
            ∀ off, Stamped g.blockLength w.opBlockCount.toNat off →
              delivered off = stampByte g.blockLength w.blockAddress off) ∧
          (latestWriteOrUnmap (c.opKinds.take (1 % c.opKinds.length)) =
              spdIoctlTransactUnmapKind →
            ∀ off, Stamped g.blockLength w.opBlockCount.toNat off → delivered off = 0)) := by
  intro env g c transact
  have hopen : (stgOpen env.paramsSize env.pipeOpen env.rawOpen env.stack unitPipeName
      ⟨0, 0, 0⟩).2 = (0x101, g.params) := by decide
  have hrun : run env unitPipeName 2 (['W', 'R'].map wch) 0 2 1 = errorSuccess := by decide
  have hev : ∀ s, ((env.transports.pipe (getPipeHandle 0x101)).createEvent s).ok = false →
      ((env.transports.pipe (getPipeHandle 0x101)).createEvent s).lastError ≠ errorSuccess :=
    fun _ h => Bool.noConfusion h
  exact ⟨hopen, by decide, hev, hrun, by decide,
    run_success_pipe_delivers_stamp env hopen (by decide) hev hrun (k := 1) (by decide)⟩

end StgPipe
end WinSpd
