import StgPipe.IdealStore

/-!
# No false alarm against an ideal unit

Against an ideal storage unit behind a pipe, run returns {lit}`ERROR_SUCCESS` for
every workload, provided the 32-bit sums that the code computes do not wrap:
{lit}`sizeof (TRANSACT_MSG) + MaxTransferLength` in {lit}`StgTransactPipe`, and
{lit}`BlockCount + MaxBlockCount` in the batch clamp.  Without the first, a run
of one Read fails ({lit}`run_ideal_pipe_more_data`); the second keeps every
operation within the unit's blocks ({lit}`runLoop_bounded`), which the clamp
alone does not ({lit}`runLoop_writes_past_last_block`).

The proof is a simulation.  At the top of every iteration the unit holds, over
the offsets {lit}`FillOrTest` visits in the current batch, what the batch's
{lit}`TestOpKind` promises: the batch's stamp after a Write, zero after an Unmap.
A Write sends the stamped buffer and the unit stores it; an Unmap sends the
descriptor of the batch's blocks and the unit zeroes them; a Read brings the
blocks back into the data buffer, where the test finds what the agreement says.

The same agreement, at the byte offsets {lit}`StgTransactRaw` computes (the
64-bit product {lit}`BlockAddress * BlockLength`), carries over to an ideal raw
volume.  The raw path rejects Flush and Unmap, so there the result is for runs
whose {lit}`OpSet` selects only Reads and Writes.

Main results:

- Theorem {lit}`stgTransactPipe_idealPipe_ok`: a transaction with an ideal unit
  whose reply fits the reply buffer succeeds and echoes the request.
- Theorem {lit}`unmapDescriptors_opBuffer`: the descriptor run writes names the
  blocks the ideal unit zeroes.
- Theorem {lit}`runStep_idealPipe`: one iteration succeeds and keeps the
  agreement between the unit and the batch.
- Theorem {lit}`run_idealPipe_success`: every run against an ideal unit returns
  {lit}`ERROR_SUCCESS` when neither sum wraps.
- Theorem {lit}`run_idealVolume_success`: every run of Reads and Writes against an
  ideal raw volume of a valid geometry returns {lit}`ERROR_SUCCESS` when the
  clamp's sum does not wrap.
-/

namespace WinSpd
namespace StgPipe

/-! ## The ideal unit's transactions -/

section Serve

variable {msgSize blockLength : Nat} {f : Frame} {contents : Buffer}

theorem idealServe_read (hk : f.req.kind = spdIoctlTransactReadKind) :
    idealServe msgSize blockLength f contents =
      (contents, msgSize + f.req.blockCount.toNat * blockLength,
        ⟨f.req.hint, f.req.kind, scsistatGood⟩,
        fun k => contents (f.req.blockAddress.toNat * blockLength + k)) := by
  have hw : spdIoctlTransactReadKind ≠ spdIoctlTransactWriteKind := by decide
  simp only [idealServe, hk, hw, if_false, if_true]

theorem idealServe_write (hk : f.req.kind = spdIoctlTransactWriteKind) :
    idealServe msgSize blockLength f contents =
      (storeBytes contents f.data (f.req.blockAddress.toNat * blockLength)
        (f.req.blockCount.toNat * blockLength), msgSize,
        ⟨f.req.hint, f.req.kind, scsistatGood⟩, fun _ => 0) := by
  simp only [idealServe, hk, if_true]

theorem idealServe_unmap (hk : f.req.kind = spdIoctlTransactUnmapKind) :
    idealServe msgSize blockLength f contents =
      (unmapDescriptors blockLength f.data contents f.req.unmapCount.toNat, msgSize,
        ⟨f.req.hint, f.req.kind, scsistatGood⟩, fun _ => 0) := by
  have hw : spdIoctlTransactUnmapKind ≠ spdIoctlTransactWriteKind := by decide
  have hr : spdIoctlTransactUnmapKind ≠ spdIoctlTransactReadKind := by decide
  simp only [idealServe, hk, hw, hr, if_false, if_true]

theorem idealServe_other (hr : f.req.kind ≠ spdIoctlTransactReadKind)
    (hw : f.req.kind ≠ spdIoctlTransactWriteKind) (hu : f.req.kind ≠ spdIoctlTransactUnmapKind) :
    idealServe msgSize blockLength f contents =
      (contents, msgSize, ⟨f.req.hint, f.req.kind, scsistatGood⟩, fun _ => 0) := by
  simp only [idealServe, hr, hw, hu, if_false]

end Serve

section Transaction

variable {msgSize blockLength : Nat} {u : IdealUnit} {req : TransactReq} {rsp : TransactRsp}
  {b : Buffer} {p : StorageUnitParams}

/-- When the unit's reply fits the reply buffer, the write and the read complete:
the unit is left served with no reply pending, and the reply checks see its
reply. -/
theorem stgTransactPipe_idealPipe {r : Buffer × Nat × TransactRsp × Buffer}
    (hr : idealServe msgSize blockLength (transactFrame msgSize req b p.blockLength) u.contents = r)
    (hfit : r.2.1 ≤ replyBufferLength msgSize p.maxTransferLength) :
    stgTransactPipe msgSize (idealPipe msgSize blockLength) u req rsp b p =
      (⟨r.1, none⟩, decodeReply msgSize req rsp b p r.2.1 ⟨r.2.2.1, r.2.2.2⟩) := by
  have hread : pipeRead msgSize (idealPipe msgSize blockLength) u req b p =
      (⟨r.1, none⟩, IoCompletion.done r.2.1, ⟨r.2.2.1, r.2.2.2⟩) := by
    simp only [pipeRead, pipeWrite, idealPipe, hr, if_pos hfit]
  have hwrite :
      waitOverlappedResult (pipeWrite msgSize (idealPipe msgSize blockLength) u req b p).2 =
        errorSuccess :=
    waitOverlappedResult_done _
  rw [stgTransactPipe_of_completes ⟨rfl, rfl, hwrite, by rw [hread]; rfl⟩, hread]
  rfl

/-- A transaction with an ideal unit, when the reply buffer's size does not wrap
and a Read fits the maximum transfer length, succeeds: it returns the unit's
echo of the request, and a Read brings the requested blocks into the data
buffer. -/
theorem stgTransactPipe_idealPipe_ok (hmsg : msgSize + p.maxTransferLength.toNat < 2 ^ 32)
    (hread : req.kind = spdIoctlTransactReadKind →
      req.blockCount.toNat * p.blockLength.toNat ≤ p.maxTransferLength.toNat) :
    stgTransactPipe msgSize (idealPipe msgSize p.blockLength.toNat) u req rsp b p =
      (⟨(idealServe msgSize p.blockLength.toNat (transactFrame msgSize req b p.blockLength)
          u.contents).1, none⟩, errorSuccess, ⟨req.hint, req.kind, scsistatGood⟩,
        if req.kind = spdIoctlTransactReadKind then
          copyReadPayload b
            (fun k => u.contents (req.blockAddress.toNat * p.blockLength.toNat + k))
            (req.blockCount.toNat * p.blockLength.toNat)
            (req.blockCount.toNat * p.blockLength.toNat)
        else b) := by
  have hbuf : replyBufferLength msgSize p.maxTransferLength = msgSize + p.maxTransferLength.toNat :=
    Nat.mod_eq_of_lt hmsg
  have hprod : req.kind = spdIoctlTransactReadKind →
      (req.blockCount * p.blockLength).toNat = req.blockCount.toNat * p.blockLength.toNat :=
    fun hk => by
      rw [BitVec.toNat_mul]
      exact Nat.mod_eq_of_lt (by have := hread hk; have := p.maxTransferLength.isLt; omega)
  by_cases hk : req.kind = spdIoctlTransactReadKind
  · have hr := @idealServe_read msgSize p.blockLength.toNat
      (transactFrame msgSize req b p.blockLength) u.contents hk
    simp only [transactFrame_req] at hr
    rw [stgTransactPipe_idealPipe hr (by rw [hbuf]; have := hread hk; dsimp only; omega),
      decodeReply_of_accepts (Nat.le_add_right _ _) rfl fun _ => by rw [hprod hk]; exact hread hk,
      hprod hk, Nat.add_sub_cancel_left, Nat.min_self, hr]
    simp only [hk, and_self, if_true]
  · have hr : idealServe msgSize p.blockLength.toNat (transactFrame msgSize req b p.blockLength)
        u.contents =
        ((idealServe msgSize p.blockLength.toNat (transactFrame msgSize req b p.blockLength)
          u.contents).1, msgSize, ⟨req.hint, req.kind, scsistatGood⟩, fun _ => 0) := by
      simp only [idealServe, transactFrame_req, hk, if_false]
      split_ifs <;> rfl
    rw [stgTransactPipe_idealPipe hr (by rw [hbuf]; dsimp only; omega),
      decodeReply_of_accepts (Nat.le_refl _) rfl fun hg => absurd hg.1 hk]
    simp only [hk, false_and, if_false]

end Transaction

/-! ## The descriptor of an Unmap -/

/-- The descriptor run writes at the start of the data buffer names the batch's
blocks to the ideal unit: its one descriptor zeroes exactly the batch's bytes. -/
theorem unmapDescriptors_opBuffer (blockLength : Nat) (contents b : Buffer)
    (blockAddress : BitVec 64) (blockCount : BitVec 32) :
    unmapDescriptors blockLength (storeU32 (storeU32 (storeU64 b 0 blockAddress) 8 blockCount) 12 0)
        contents 1 =
      memset contents (blockAddress.toNat * blockLength) 0 (blockCount.toNat * blockLength) := by
  obtain ⟨hA, hC⟩ := unmapDescriptor_fields b blockAddress blockCount
  simp only [unmapDescriptors, List.range_succ, List.range_zero, List.nil_append, List.foldl_cons,
    List.foldl_nil, Nat.mul_zero, Nat.zero_add, hA, hC]

/-! ## The agreement between the unit and the batch -/

/-- The unit holds, over the offsets {lit}`FillOrTest` visits in the batch, what the
batch's {lit}`TestOpKind` promises: the batch's stamp after a Write, zero after
an Unmap.  Block address {lit}`A` starts at byte {lit}`offset A` of the unit. -/
structure StoreAgrees (blockLength : Nat) (offset : BitVec 64 → Nat) (contents : Buffer)
    (w : Workload) : Prop where
  written : w.testOpKind = spdIoctlTransactWriteKind → ∀ k,
    Stamped blockLength w.opBlockCount.toNat k →
      contents (offset w.blockAddress + k) = stampByte blockLength w.blockAddress k
  unmapped : w.testOpKind = spdIoctlTransactUnmapKind → ∀ k,
    Stamped blockLength w.opBlockCount.toNat k → contents (offset w.blockAddress + k) = 0

section Agreement

variable {blockLength : Nat} {offset : BitVec 64 → Nat} {contents : Buffer} {w : Workload}

/-- Before a batch's first Write or Unmap nothing is promised. -/
theorem StoreAgrees.of_reserved (h : w.testOpKind = spdIoctlTransactReservedKind) :
    StoreAgrees blockLength offset contents w :=
  ⟨fun hw => absurd (h.symm.trans hw) (by decide), fun hu => absurd (h.symm.trans hu) (by decide)⟩

/-- The agreement with the loop's workload holds for the operation's: a new batch
promises nothing. -/
theorem StoreAgrees.toOpWork {σ : Type} {c : RunConfig} {I : Nat} {st : LoopState σ}
    (h : StoreAgrees blockLength offset contents st.work) :
    StoreAgrees blockLength offset contents (opWork c I st) := by
  unfold opWork
  split
  · exact StoreAgrees.of_reserved rfl
  · exact h

/-- A Write of the batch stores its stamp over the batch's blocks. -/
theorem StoreAgrees.write {b : Buffer} {blockLength : BitVec 32}
    (hwrap : w.opBlockCount.toNat * blockLength.toNat ≤ 2 ^ 32) :
    StoreAgrees blockLength.toNat offset
      (storeBytes contents
        (fillOrTest b blockLength w.blockAddress w.opBlockCount spdIoctlTransactReservedKind).1
        (offset w.blockAddress) (w.opBlockCount.toNat * blockLength.toNat))
      { w with testOpKind := spdIoctlTransactWriteKind } := by
  refine ⟨fun _ k hk => ?_,
    fun h => absurd h (by decide : spdIoctlTransactWriteKind ≠ spdIoctlTransactUnmapKind)⟩
  dsimp only at hk ⊢
  have hlt := hk.lt_mul
  simp only [storeBytes, fillOrTest_stamp hwrap, Nat.add_sub_cancel_left, if_pos hk,
    if_pos (show offset w.blockAddress ≤ offset w.blockAddress + k ∧
      offset w.blockAddress + k < offset w.blockAddress + w.opBlockCount.toNat * blockLength.toNat
      by omega)]

/-- An Unmap of the batch zeroes the batch's blocks. -/
theorem StoreAgrees.unmap :
    StoreAgrees blockLength offset
      (memset contents (offset w.blockAddress) 0 (w.opBlockCount.toNat * blockLength))
      { w with testOpKind := spdIoctlTransactUnmapKind } := by
  refine ⟨fun h => absurd h (by decide : spdIoctlTransactUnmapKind ≠ spdIoctlTransactWriteKind),
    fun _ k hk => ?_⟩
  dsimp only at hk ⊢
  have hlt := hk.lt_mul
  simp only [memset_apply]
  rw [if_pos (by omega)]

/-- A Read tested against an agreeing unit passes its test when the data buffer
holds the batch's bytes of the unit. -/
theorem StoreAgrees.test {b : Buffer} {blockLength : BitVec 32}
    (ha : StoreAgrees blockLength.toNat offset contents w)
    (hwrap : w.opBlockCount.toNat * blockLength.toNat ≤ 2 ^ 32)
    (hb : ∀ k < w.opBlockCount.toNat * blockLength.toNat,
      b k = contents (offset w.blockAddress + k)) :
    (w.testOpKind = spdIoctlTransactWriteKind →
      (fillOrTest b blockLength w.blockAddress w.opBlockCount spdIoctlTransactWriteKind).2 = true) ∧
    (w.testOpKind = spdIoctlTransactUnmapKind →
      (fillOrTest b blockLength w.blockAddress w.opBlockCount
        spdIoctlTransactUnmapKind).2 = true) :=
  ⟨fun hW => (fillOrTest_write_iff hwrap).mpr fun k hs =>
      (hb k hs.lt_mul).trans (ha.written hW k hs),
    fun hU => (fillOrTest_unmap_iff hwrap).mpr fun k hs =>
      (hb k hs.lt_mul).trans (ha.unmapped hU k hs)⟩

end Agreement

/-! ## One iteration -/

section Step

variable {g : Geometry} {msgSize : Nat} {t : Transports IdealUnit} {handle : BitVec 64}
  {c : RunConfig}

variable (hpipe : isPipeHandle handle = true)
  (hch : t.pipe (getPipeHandle handle) = idealPipe msgSize g.blockLength)
  (hmsg : msgSize + g.maxTransferLength < 2 ^ 32)
include hpipe hch hmsg

/-- The transaction of an operation of a bounded batch with an ideal unit behind
the pipe succeeds and echoes the request; a Read brings the batch's blocks into
the data buffer. -/
theorem stgTransact_idealPipe_op {I : Nat} {st : LoopState IdealUnit}
    (hb : (opWork c I st).Bounded g) (b : Buffer) :
    stgTransact msgSize t st.world handle (opRequest c I (opWork c I st)) TransactRsp.zero b
        g.params =
      (⟨(idealServe msgSize g.blockLength
          (transactFrame msgSize (opRequest c I (opWork c I st)) b g.params.blockLength)
          st.world.contents).1, none⟩, errorSuccess,
        ⟨opHint c.threadId I, opKind c I, scsistatGood⟩,
        if opKind c I = spdIoctlTransactReadKind then
          copyReadPayload b
            (fun k => st.world.contents ((opWork c I st).blockAddress.toNat * g.blockLength + k))
            ((opWork c I st).opBlockCount.toNat * g.blockLength)
            ((opWork c I st).opBlockCount.toNat * g.blockLength)
        else b) := by
  have hread : (opRequest c I (opWork c I st)).kind = spdIoctlTransactReadKind →
      (opRequest c I (opWork c I st)).blockCount.toNat * g.params.blockLength.toNat ≤
        g.params.maxTransferLength.toNat := fun hk => by
    rw [(opRequest_of_readWrite (.inl (opRequest_kind I _ ▸ hk))).2]
    exact hb.fits.1
  rw [stgTransact_of_isPipeHandle msgSize hpipe, hch]
  refine (stgTransactPipe_idealPipe_ok hmsg hread).trans ?_
  simp only [opRequest_hint, opRequest_kind]
  split
  · rename_i hk
    obtain ⟨hA, hC⟩ := opRequest_of_readWrite (c := c) (w := opWork c I st) (.inl hk)
    rw [hA, hC]
    rfl
  · rfl

variable (hc : c.params = g.params)
include hc

/-- One iteration against an ideal unit behind the pipe succeeds when the reply
buffer's size does not wrap, and keeps the agreement between the unit and the
batch. -/
theorem runStep_idealPipe {I : Nat} {st : LoopState IdealUnit} (hb : (opWork c I st).Bounded g)
    (ha : StoreAgrees g.blockLength (fun A => A.toNat * g.blockLength) st.world.contents
      (opWork c I st)) :
    ∃ st', runStep (fun s req rsp b => stgTransact msgSize t s handle req rsp b g.params) c I st =
        .ok st' ∧
      StoreAgrees g.blockLength (fun A => A.toNat * g.blockLength) st'.world.contents st'.work := by
  have htr := stgTransact_idealPipe_op hpipe hch hmsg hb
  have hwrap : (opWork c I st).opBlockCount.toNat * c.params.blockLength.toNat ≤ 2 ^ 32 := by
    rw [hc]
    exact hb.payload_le
  have hl : g.blockLength = c.params.blockLength.toNat := by rw [hc]; rfl
  have hecho : ∀ hk : opKind c I ≠ spdIoctlTransactReadKind, ∀ w b,
      checkResponse c (opRequest c I (opWork c I st))
        ⟨opHint c.threadId I, opKind c I, scsistatGood⟩ w b = errorSuccess := fun hk _ _ =>
    checkResponse_echo (by rwa [opRequest_kind]) (opRequest_hint I _) (opRequest_kind I _) rfl
  rw [hl] at ha
  refine ⟨_, runStep_eq_ok (opUndefined_eq_false hc hb.count_le) (by simp only [htr]) ?_, ?_⟩ <;>
    simp only [htr, opRequest_kind, hl]
  · by_cases hk : opKind c I = spdIoctlTransactReadKind
    · rw [if_pos hk, checkResponse_read (by rwa [opRequest_kind]) (opRequest_hint I _)
        (opRequest_kind I _) rfl, hk, opTestKind_of_read]
      exact ha.test hwrap fun k hk => by rw [copyReadPayload_apply _ (Nat.le_refl _), if_pos hk]
    · rw [if_neg hk]
      exact hecho hk _ _
  · by_cases hr : opKind c I = spdIoctlTransactReadKind
    · rw [idealServe_read, hr, opTestKind_of_read]
      · exact ha
      · rwa [transactFrame_req, opRequest_kind]
    by_cases hw : opKind c I = spdIoctlTransactWriteKind
    · obtain ⟨hA, hC⟩ := opRequest_of_readWrite (c := c) (w := opWork c I st) (.inr hw)
      rw [idealServe_write, hw, opTestKind_write]
      · simp only [transactFrame_req, transactFrame_data, hA, hC, opBuffer_write]
        exact StoreAgrees.write hwrap
      · rwa [transactFrame_req, opRequest_kind]
    by_cases hu : opKind c I = spdIoctlTransactUnmapKind
    · have hone : (1 : BitVec 32).toNat = 1 := rfl
      rw [idealServe_unmap, hu, opTestKind_unmap]
      · simp only [transactFrame_req, transactFrame_data, opRequest_unmapCount hu, opBuffer_unmap,
          hone, unmapDescriptors_opBuffer]
        exact StoreAgrees.unmap
      · rwa [transactFrame_req, opRequest_kind]
    · rw [idealServe_other, opTestKind_of_ne hw hu]
      · exact ha
      all_goals rwa [transactFrame_req, opRequest_kind]

end Step

/-! ## Whole runs -/

section Loop

variable {g : Geometry} {msgSize : Nat} {t : Transports IdealUnit} {handle : BitVec 64}
  {c : RunConfig}
  (hpipe : isPipeHandle handle = true)
  (hch : t.pipe (getPipeHandle handle) = idealPipe msgSize g.blockLength)
  (hmsg : msgSize + g.maxTransferLength < 2 ^ 32) (hc : c.params = g.params)
  (hwrap : g.blockCount + g.maxBlockCount ≤ 2 ^ 64)
include hpipe hch hmsg hc hwrap

/-- Every iteration of a run against an ideal unit succeeds, and the unit keeps
agreeing with the batch. -/
theorem runLoop_idealPipe {st0 : LoopState IdealUnit} (h0 : st0.j = 0)
    (ha : StoreAgrees g.blockLength (fun A => A.toNat * g.blockLength) st0.world.contents st0.work)
    (k : Nat) :
    ∃ st, runLoop (fun s req rsp b => stgTransact msgSize t s handle req rsp b g.params) c k st0 =
        .ok st ∧
      StoreAgrees g.blockLength (fun A => A.toNat * g.blockLength) st.world.contents st.work := by
  induction k with
  | zero => exact ⟨st0, rfl, ha⟩
  | succ k ih =>
    obtain ⟨st, hrun, hst⟩ := ih
    obtain ⟨st', hstep, hst'⟩ :=
      runStep_idealPipe hpipe hch hmsg hc (runLoop_bounded hc hwrap h0 hrun) hst.toOpWork
    exact ⟨st', by simp only [runLoop, hrun]; exact hstep, hst'⟩

end Loop

/-- No false alarm: against an ideal unit behind a pipe whose handshake announces
a valid geometry, every run returns {lit}`ERROR_SUCCESS`, whatever the unit holds
at first, the data buffer's first bytes, the thread, the operation count, the
kinds, the start address and count, fixed or random, and the seed, provided
{lit}`sizeof (TRANSACT_MSG) + MaxTransferLength` is below {lit}`2 ^ 32` and
{lit}`BlockCount + MaxBlockCount` is at most {lit}`2 ^ 64`. -/
theorem run_idealPipe_success (g : Geometry) (paramsSize msgSize : Nat)
    (contents dataBuffer : Buffer) (threadId : BitVec 32) {name : List Char}
    (hname : pipePrefix.isPrefixOf name = true) (hmsg : msgSize + g.maxTransferLength < 2 ^ 32)
    (hwrap : g.blockCount + g.maxBlockCount ≤ 2 ^ 64) (opCount : BitVec 32)
    (opSet : List (BitVec 16))
    (blockAddress : BitVec 64) (blockCount seed : BitVec 32) :
    run (idealPipeEnv paramsSize msgSize g.params contents dataBuffer threadId) name opCount opSet
      blockAddress blockCount seed = errorSuccess := by
  have hconn : pipeConnection (idealPipeOpen paramsSize g.params) = ⟨0x100, errorSuccess⟩ := rfl
  have hinv : (0x100 : BitVec 64) ≠ invalidHandleValue := by decide
  have hset : setPipeHandle 0x100 = 0x101 := by decide
  have hopen : stgOpen paramsSize (idealPipeOpen paramsSize g.params) noVolumeOpen (fun _ => 0) name
      ⟨0, 0, 0⟩ = (errorSuccess, 0x101, g.params) := by
    simp only [stgOpen, hname, if_true, stgOpenPipe, hconn, hinv, if_false]
    simp only [idealPipeOpen, Bool.not_true, Bool.false_eq_true, if_false, hset,
      handshakeRejected_of_valid paramsSize (Nat.le_refl paramsSize) g.valid]
  obtain ⟨st, hrun, -⟩ := @runLoop_idealPipe g msgSize
    (idealPipeEnv paramsSize msgSize g.params contents dataBuffer threadId).transports 0x101
    (runConfig threadId g.params opSet blockAddress blockCount) (by decide) rfl hmsg rfl hwrap
    ⟨⟨contents, none⟩, dataBuffer, ⟨blockAddress, blockCount, seed, 0, 0⟩, 0⟩ rfl
    (StoreAgrees.of_reserved rfl) (if opCount = 0 then 1 else opCount).toNat
  exact run_of_runLoop_ok _ hopen rfl hrun

/-- The example of the spec: four operations Write, Read, Write, Read of two
blocks from block 0 on a unit of 100 blocks of 512 bytes. -/
theorem run_idealPipe_success_writeRead :
    pipePrefix.isPrefixOf unitPipeName = true ∧
      48 + (⟨⟨100, 512, 65536⟩, by decide⟩ : Geometry).maxTransferLength < 2 ^ 32 ∧
      (⟨⟨100, 512, 65536⟩, by decide⟩ : Geometry).blockCount +
        (⟨⟨100, 512, 65536⟩, by decide⟩ : Geometry).maxBlockCount ≤ 2 ^ 64 ∧
      run (idealPipeEnv 24 48 ⟨100, 512, 65536⟩ (fun _ => 0) (fun _ => 0) 1) unitPipeName 4
        (['W', 'R'].map wch) 0 2 1 = errorSuccess :=
  ⟨by decide, by decide, by decide,
    run_idealPipe_success ⟨⟨100, 512, 65536⟩, by decide⟩ 24 48 (fun _ => 0) (fun _ => 0) 1
      (by decide) (by decide) (by decide) 4 (['W', 'R'].map wch) 0 2 1⟩

/-! ## Behind a raw volume -/

section RawServe

variable {u : IdealUnit} {req : TransactReq} {rsp : TransactRsp} {b : Buffer}
  {p : StorageUnitParams}

theorem stgTransactRaw_idealVolume_read (hk : req.kind = spdIoctlTransactReadKind)
    (hlen : (req.blockCount * p.blockLength).toNat ≤ p.maxTransferLength.toNat) :
    stgTransactRaw idealVolume u req rsp b p =
      (u, errorSuccess, ⟨req.hint, req.kind, scsistatGood⟩,
        memcpy b (fun k => u.contents ((req.blockAddress * p.blockLength.setWidth 64).toNat + k))
          (req.blockCount * p.blockLength).toNat) := by
  have hw : spdIoctlTransactReadKind ≠ spdIoctlTransactWriteKind := by decide
  simp only [stgTransactRaw, idealVolume, hk, hw, waitOverlappedResult_done,
    IoCompletion.done_bytesTransferred, ne_eq, not_true_eq_false, false_and, if_false,
    Bool.not_true, Bool.false_eq_true, Nat.not_lt.mpr hlen]

theorem stgTransactRaw_idealVolume_write (hk : req.kind = spdIoctlTransactWriteKind)
    (hlen : (req.blockCount * p.blockLength).toNat ≤ p.maxTransferLength.toNat) :
    stgTransactRaw idealVolume u req rsp b p =
      (⟨storeBytes u.contents b (req.blockAddress * p.blockLength.setWidth 64).toNat
          (req.blockCount * p.blockLength).toNat, u.pending⟩,
        errorSuccess, ⟨req.hint, req.kind, scsistatGood⟩, b) := by
  simp only [stgTransactRaw, idealVolume, hk, waitOverlappedResult_done, ne_eq, not_true_eq_false,
    and_false, if_false, if_true, Bool.not_true, Bool.false_eq_true, Nat.not_lt.mpr hlen]

end RawServe

section RawStep

variable {g : Geometry} {msgSize : Nat} {t : Transports IdealUnit} {handle : BitVec 64}
  {c : RunConfig}

variable (hraw : isPipeHandle handle = false)
  (hdev : t.raw (getRawHandle handle) = idealVolume)
include hraw hdev

/-- The transaction of a Read or a Write of a bounded batch with an ideal raw
volume succeeds; a Write stores the data buffer over the batch's blocks and a
Read brings them into the data buffer. -/
theorem stgTransact_idealVolume_op {I : Nat} {st : LoopState IdealUnit}
    (hb : (opWork c I st).Bounded g)
    (hk : opKind c I = spdIoctlTransactReadKind ∨ opKind c I = spdIoctlTransactWriteKind)
    (b : Buffer) :
    stgTransact msgSize t st.world handle (opRequest c I (opWork c I st)) TransactRsp.zero b
        g.params =
      (if opKind c I = spdIoctlTransactReadKind then st.world
        else ⟨storeBytes st.world.contents b
          ((opWork c I st).blockAddress * g.params.blockLength.setWidth 64).toNat
          ((opWork c I st).opBlockCount.toNat * g.blockLength), st.world.pending⟩,
        errorSuccess, ⟨opHint c.threadId I, opKind c I, scsistatGood⟩,
        if opKind c I = spdIoctlTransactReadKind then
          memcpy b (fun k => st.world.contents
            (((opWork c I st).blockAddress * g.params.blockLength.setWidth 64).toNat + k))
            ((opWork c I st).opBlockCount.toNat * g.blockLength)
        else b) := by
  obtain ⟨hA, hC⟩ := opRequest_of_readWrite (c := c) (w := opWork c I st) hk
  have hlen : ((opRequest c I (opWork c I st)).blockCount * g.params.blockLength).toNat ≤
      g.params.maxTransferLength.toNat := by
    rw [hC, hb.fits.2]
    exact hb.fits.1
  rw [stgTransact_of_not_isPipeHandle msgSize hraw, hdev]
  rcases hk with hr | hw
  · rw [stgTransactRaw_idealVolume_read (by rwa [opRequest_kind]) hlen, if_pos hr, if_pos hr, hA,
      hC,
      hb.fits.2, opRequest_hint, opRequest_kind]
  · have hr : opKind c I ≠ spdIoctlTransactReadKind := hw ▸ by decide
    rw [stgTransactRaw_idealVolume_write (by rwa [opRequest_kind]) hlen, if_neg hr, if_neg hr, hA,
      hC,
      hb.fits.2, opRequest_hint, opRequest_kind]

variable (hc : c.params = g.params)
include hc

/-- One Read or Write against an ideal raw volume succeeds and keeps the agreement
between the volume and the batch, at the byte offsets {lit}`StgTransactRaw`
computes. -/
theorem runStep_idealVolume {I : Nat} {st : LoopState IdealUnit} (hb : (opWork c I st).Bounded g)
    (hk : opKind c I = spdIoctlTransactReadKind ∨ opKind c I = spdIoctlTransactWriteKind)
    (ha : StoreAgrees g.blockLength (fun A => (A * g.params.blockLength.setWidth 64).toNat)
      st.world.contents (opWork c I st)) :
    ∃ st', runStep (fun s req rsp b => stgTransact msgSize t s handle req rsp b g.params) c I st =
        .ok st' ∧
      StoreAgrees g.blockLength (fun A => (A * g.params.blockLength.setWidth 64).toNat)
        st'.world.contents st'.work := by
  have htr := @stgTransact_idealVolume_op g msgSize t handle c hraw hdev _ _ hb hk
  have hwrap : (opWork c I st).opBlockCount.toNat * c.params.blockLength.toNat ≤ 2 ^ 32 := by
    rw [hc]
    exact hb.payload_le
  have hl : g.blockLength = c.params.blockLength.toNat := by rw [hc]; rfl
  rw [hl] at ha
  refine ⟨_, runStep_eq_ok (opUndefined_eq_false hc hb.count_le) (by simp only [htr]) ?_, ?_⟩ <;>
    simp only [htr, opRequest_kind, hl]
  · rcases hk with hr | hw
    · rw [if_pos hr, checkResponse_read (by rwa [opRequest_kind]) (opRequest_hint I _)
        (opRequest_kind I _) rfl, hr, opTestKind_of_read]
      exact ha.test hwrap fun k hk => by rw [memcpy_apply, if_pos hk]
    · exact checkResponse_echo (by rw [opRequest_kind, hw]; decide) (opRequest_hint I _)
        (opRequest_kind I _) rfl
  · rcases hk with hr | hw
    · rw [if_pos hr, hr, opTestKind_of_read]
      exact ha
    · rw [if_neg (hw ▸ by decide), hw, opTestKind_write, opBuffer_write]
      exact StoreAgrees.write hwrap

end RawStep

section RawLoop

variable {g : Geometry} {msgSize : Nat} {t : Transports IdealUnit} {handle : BitVec 64}
  {c : RunConfig}
  (hraw : isPipeHandle handle = false)
  (hdev : t.raw (getRawHandle handle) = idealVolume) (hc : c.params = g.params)
  (hwrap : g.blockCount + g.maxBlockCount ≤ 2 ^ 64)
  (hk : ∀ I, opKind c I = spdIoctlTransactReadKind ∨ opKind c I = spdIoctlTransactWriteKind)
include hraw hdev hc hwrap hk

/-- Every iteration of a run of Reads and Writes against an ideal raw volume
succeeds, and the volume keeps agreeing with the batch. -/
theorem runLoop_idealVolume {st0 : LoopState IdealUnit} (h0 : st0.j = 0)
    (ha : StoreAgrees g.blockLength (fun A => (A * g.params.blockLength.setWidth 64).toNat)
      st0.world.contents st0.work)
    (k : Nat) :
    ∃ st, runLoop (fun s req rsp b => stgTransact msgSize t s handle req rsp b g.params) c k st0 =
        .ok st ∧
      StoreAgrees g.blockLength (fun A => (A * g.params.blockLength.setWidth 64).toNat)
        st.world.contents st.work := by
  induction k with
  | zero => exact ⟨st0, rfl, ha⟩
  | succ k ih =>
    obtain ⟨st, hrun, hst⟩ := ih
    obtain ⟨st', hstep, hst'⟩ :=
      runStep_idealVolume hraw hdev hc (runLoop_bounded hc hwrap h0 hrun) (hk k) hst.toOpWork
    exact ⟨st', by simp only [runLoop, hrun]; exact hstep, hst'⟩

end RawLoop

/-- No false alarm on the raw transport: a run whose open yields a raw handle to
an ideal volume with a valid geometry, and whose {lit}`OpSet` selects only Reads
and Writes, returns {lit}`ERROR_SUCCESS`, whatever the volume holds at first, the
data buffer's first bytes, the operation count, the start address and count,
fixed or random, and the seed, provided {lit}`BlockCount + MaxBlockCount` is at
most {lit}`2 ^ 64`. -/
theorem run_idealVolume_success (env : RunEnv IdealUnit) (g : Geometry) {name : List Char}
    {opSet : List (BitVec 16)}
    {handle : BitVec 64}
    (hopen : stgOpen env.paramsSize env.pipeOpen env.rawOpen env.stack name ⟨0, 0, 0⟩ =
      (errorSuccess, handle, g.params))
    (hraw : isPipeHandle handle = false)
    (hdev : env.transports.raw (getRawHandle handle) = idealVolume) (halloc : env.allocated = true)
    (hkinds : ∀ k ∈ parseOpSet opSet, k = spdIoctlTransactReadKind ∨ k = spdIoctlTransactWriteKind)
    (hwrap : g.blockCount + g.maxBlockCount ≤ 2 ^ 64)
    (opCount : BitVec 32) (blockAddress : BitVec 64) (blockCount seed : BitVec 32) :
    run env name opCount opSet blockAddress blockCount seed = errorSuccess := by
  have hk : ∀ I, opKind (runConfig env.threadId g.params opSet blockAddress blockCount) I =
      spdIoctlTransactReadKind ∨
        opKind (runConfig env.threadId g.params opSet blockAddress blockCount) I =
          spdIoctlTransactWriteKind :=
    fun I => hkinds _ (opKind_mem (parseOpSet_ne_nil opSet) I)
  obtain ⟨st, hrun, -⟩ := @runLoop_idealVolume g env.msgSize env.transports handle _ hraw hdev rfl
    hwrap hk ⟨env.world, env.dataBuffer, ⟨blockAddress, blockCount, seed, 0, 0⟩, 0⟩ rfl
    (StoreAgrees.of_reserved rfl) (if opCount = 0 then 1 else opCount).toNat
  exact run_of_runLoop_ok env hopen halloc hrun

/-- A volume reporting one block of 512 bytes and no transfer limit, with
four operations Write, Read, Write, Read of its one block. -/
theorem run_idealVolume_success_writeRead :
    let io : RawOpenIo := ⟨⟨0x100, 0⟩,
      ⟨0, 0, 32, fun i => if i = 7 then 1 else if i = 10 then 2 else 0⟩, ⟨0, 0, 64, fun _ => 0⟩⟩
    let name := ['\\', '\\', '.', '\\', 'X', ':']
    stgOpen 0 noPipeOpen io (fun _ => 0) name ⟨0, 0, 0⟩ = (errorSuccess, 0x100, ⟨1, 512, 65536⟩) ∧
      (∀ k ∈ parseOpSet (['W', 'R'].map wch),
        k = spdIoctlTransactReadKind ∨ k = spdIoctlTransactWriteKind) ∧
      run (idealVolumeEnv io (fun _ => 0) (fun _ => 0) 1) name 4 (['W', 'R'].map wch) 0 1 1 =
        errorSuccess := by
  intro io name
  have hopen : stgOpen 0 noPipeOpen io (fun _ => 0) name ⟨0, 0, 0⟩ =
      (errorSuccess, 0x100, ⟨1, 512, 65536⟩) := by
    decide
  have hkinds : ∀ k ∈ parseOpSet (['W', 'R'].map wch),
      k = spdIoctlTransactReadKind ∨ k = spdIoctlTransactWriteKind := by
    simp [parseOpSet, opKindOfChar, wch]
  exact ⟨hopen, hkinds,
    @run_idealVolume_success (idealVolumeEnv io (fun _ => 0) (fun _ => 0) 1)
      ⟨⟨1, 512, 65536⟩, by decide⟩ name (['W', 'R'].map wch) 0x100 hopen (by decide) rfl rfl hkinds
      (by decide) 4 0 1 1⟩

end StgPipe
end WinSpd
