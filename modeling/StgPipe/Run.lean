import StgPipe.Transact
import StgPipe.Workload

/-!
# The test loop

run opens the storage unit, allocates one data buffer of
{lit}`MaxTransferLength` bytes, and issues {lit}`OpCount` operations.  Operation
{lit}`I` has the kind {lit}`OpKinds [I % OpKindCount]`; the cursor {lit}`J`
counts the operations of the current batch, and a new batch address and count
are chosen whenever it is zero.  A Write stamps the data buffer before it is
sent and an Unmap writes its one descriptor at the buffer's start; both record
their kind in {lit}`TestOpKind`, and a later Read of the same batch checks the
data it returns against the stamp, or against zero.  Every response must echo
the request's {lit}`Hint` and {lit}`Kind` with a good SCSI status.

The loop is modelled for any transaction function, so the results on the
loop's own variables hold on both transports and for every storage unit.

Where the C code's behaviour is undefined, the loop stops with
{lit}`undefinedBehavior`, a value no error code of the source equals: a modulo
by a zero {lit}`MaxBlockCount` when a batch starts, and a Write or an Unmap whose
bytes reach past the {lit}`MaxTransferLength` bytes of the data buffer.  A raw
volume may report such a geometry; on every geometry the handshake check
accepts, no operation a run reaches does either.

Main results:

- Theorem {lit}`runLoop_batches`: at the top of iteration {lit}`I` the cursor is
  {lit}`I % OpKindCount`, the operation's kind is {lit}`OpKinds [I %
  OpKindCount]`, {lit}`TestOpKind` is the kind of the batch's last Write or Unmap
  before it, a Write stamps and an Unmap names the operation's address and
  count, a Read is checked against exactly that kind over them, and all
  operations of a batch share the batch's address and count.
- Theorem {lit}`runLoop_opUndefined_eq_false`: on a valid geometry no operation a
  run reaches has undefined behaviour.
- Theorem {lit}`runLoop_bounded`: on a unit whose block count leaves room for
  one more transfer below {lit}`2 ^ 64`, every operation stays within the unit.
-/

namespace WinSpd
namespace StgPipe

/-! ## One iteration -/

/-- The constants of run's loop: the workload's, the kinds {lit}`OpKinds [0,
OpKindCount)` and the thread id in every {lit}`Hint`. -/
structure RunConfig extends WorkloadConfig where
  opKinds : List (BitVec 8)
  threadId : BitVec 32

/-- run's loop variables: the state of the far side of the transport, the data
buffer, the workload's variables and the cursor {lit}`J`. -/
structure LoopState (σ : Type) where
  world : σ
  dataBuffer : Buffer
  work : Workload
  j : Nat

/-- {lit}`Req.Hint = ((UINT64) ThreadId << 32) | I`. -/
def opHint (threadId : BitVec 32) (I : Nat) : BitVec 64 :=
  (threadId.setWidth 64 <<< 32) ||| (BitVec.ofNat 32 I).setWidth 64

/-- {lit}`OpKinds [I % OpKindCount]`. -/
def opKind (c : RunConfig) (I : Nat) : BitVec 8 :=
  c.opKinds.getD (I % c.opKinds.length) 0

/-- The workload of operation {lit}`I`: a batch starts when {lit}`J` is zero. -/
def opWork {σ : Type} (c : RunConfig) (I : Nat) (st : LoopState σ) : Workload :=
  if st.j = 0 then nextBatch c.toWorkloadConfig I st.work else st.work

/-- The request of operation {lit}`I`: {lit}`Req` is zeroed, given its
{lit}`Hint` and {lit}`Kind`, and filled by the switch on the kind. -/
def opRequest (c : RunConfig) (I : Nat) (w : Workload) : TransactReq :=
  let req : TransactReq := { TransactReq.zero with hint := opHint c.threadId I, kind := opKind c I }
  if req.kind = spdIoctlTransactReadKind then
    { req with
      blockAddress := w.blockAddress, blockCount := w.opBlockCount, forceUnitAccess := false }
  else if req.kind = spdIoctlTransactWriteKind then
    { req with
      blockAddress := w.blockAddress, blockCount := w.opBlockCount, forceUnitAccess := false }
  else if req.kind = spdIoctlTransactFlushKind then
    { req with blockAddress := w.blockAddress, blockCount := w.opBlockCount }
  else if req.kind = spdIoctlTransactUnmapKind then { req with unmapCount := 1 }
  else req

/-- The data buffer a request is sent with: a Write stamps it, an Unmap writes one
descriptor at its start. -/
def opBuffer (c : RunConfig) (kind : BitVec 8) (w : Workload) (b : Buffer) : Buffer :=
  if kind = spdIoctlTransactWriteKind then
    (fillOrTest b c.params.blockLength w.blockAddress w.opBlockCount
      spdIoctlTransactReservedKind).1
  else if kind = spdIoctlTransactUnmapKind then
    storeU32 (storeU32 (storeU64 b 0 w.blockAddress) 8 w.opBlockCount) 12 0
  else b

/-- {lit}`TestOpKind` after the switch: a Write or an Unmap records its kind. -/
def opTestKind (kind testOpKind : BitVec 8) : BitVec 8 :=
  if kind = spdIoctlTransactWriteKind then spdIoctlTransactWriteKind
  else if kind = spdIoctlTransactUnmapKind then spdIoctlTransactUnmapKind
  else testOpKind

/-- The checks run makes on a successful transaction: the three conditions on the
response, then the content test of a Read after a Write or an Unmap. -/
def checkResponse (c : RunConfig) (req : TransactReq) (rsp : TransactRsp) (w : Workload)
    (b : Buffer) : Nat :=
  if req.hint ≠ rsp.hint then errorIoDevice
  else if req.kind ≠ rsp.kind then errorIoDevice
  else if scsistatGood ≠ rsp.scsiStatus then errorIoDevice
  else if rsp.kind = spdIoctlTransactReadKind then
    if w.testOpKind = spdIoctlTransactWriteKind then
      if (fillOrTest b c.params.blockLength w.blockAddress w.opBlockCount
        spdIoctlTransactWriteKind).2 then errorSuccess else errorIoDevice
    else if w.testOpKind = spdIoctlTransactUnmapKind then
      if (fillOrTest b c.params.blockLength w.blockAddress w.opBlockCount
        spdIoctlTransactUnmapKind).2 then errorSuccess else errorIoDevice
    else errorSuccess
  else errorSuccess

/-- A division by zero in the {lit}`0 == J` block: {lit}`BlockAddress %=
StorageUnitParams.BlockCount`, and with random counts {lit}`BlockCount %=
MaxBlockCount`.  A successful open never returns a zero block count, but a raw
volume whose maximum transfer length is below its block length has a zero
{lit}`MaxBlockCount`. -/
def dividesByZero (c : RunConfig) (j : Nat) : Bool :=
  j = 0 && (c.params.blockCount = 0 || c.randomCount && c.maxBlockCount = 0)

/-- The request's {lit}`DataLength` bytes at the start of the data buffer reach past
its {lit}`MaxTransferLength` bytes: the blocks a Write's {lit}`FillOrTest` stamps
and either transport sends, or the descriptor an Unmap writes. -/
def overrunsDataBuffer (req : TransactReq) (p : StorageUnitParams) : Bool :=
  decide (p.maxTransferLength.toNat < (requestDataLength req p.blockLength).toNat)

/-- Operation {lit}`I` reaches undefined behaviour before its transaction: a
division by zero when it starts a batch, or a switch that writes or sends bytes
past the data buffer {lit}`MemAlloc (MaxTransferLength)` returned. -/
def opUndefined {σ : Type} (c : RunConfig) (I : Nat) (st : LoopState σ) : Bool :=
  dividesByZero c st.j || overrunsDataBuffer (opRequest c I (opWork c I st)) c.params

section Loop

variable {σ : Type}

/- {lit}`StgTransact` on the open handle and the unit's parameters: the far side's
state, the request, {lit}`*Rsp` and the data buffer in; the new state, the error,
{lit}`*Rsp` and the data buffer out. -/
variable (transact : σ → TransactReq → TransactRsp → Buffer → σ × Nat × TransactRsp × Buffer)

/-- Iteration {lit}`I` of run's loop: undefined behaviour, a failed transaction or
a failed check ends the loop with its error. -/
def runStep (c : RunConfig) (I : Nat) (st : LoopState σ) : Except Nat (LoopState σ) :=
  let w := opWork c I st
  let req := opRequest c I w
  let b := opBuffer c req.kind w st.dataBuffer
  let w := { w with testOpKind := opTestKind req.kind w.testOpKind }
  let r := transact st.world req TransactRsp.zero b
  if opUndefined c I st then .error undefinedBehavior
  else if r.2.1 ≠ errorSuccess then .error r.2.1
  else if checkResponse c req r.2.2.1 w r.2.2.2 ≠ errorSuccess then
    .error (checkResponse c req r.2.2.1 w r.2.2.2)
  else .ok ⟨r.1, r.2.2.2, w, (st.j + 1) % c.opKinds.length⟩

/-- Iterations {lit}`0` to {lit}`k - 1` of run's loop. -/
def runLoop (c : RunConfig) : Nat → LoopState σ → Except Nat (LoopState σ)
  | 0, st => .ok st
  | k + 1, st => (runLoop c k st).bind (runStep transact c k)

end Loop

/-! ## What one iteration does -/

section Step

variable {σ : Type}
  {transact : σ → TransactReq → TransactRsp → Buffer → σ × Nat × TransactRsp × Buffer}
  {c : RunConfig}

/-- Every operation's kind is one of {lit}`OpKinds`. -/
theorem opKind_mem (h : c.opKinds ≠ []) (I : Nat) : opKind c I ∈ c.opKinds := by
  have hlen : I % c.opKinds.length < c.opKinds.length := Nat.mod_lt _ (List.length_pos.mpr h)
  rw [opKind, List.getD_eq_getElem?_getD, List.getElem?_eq_getElem hlen, Option.getD_some]
  exact List.getElem_mem hlen

@[simp]
theorem opRequest_hint (I : Nat) (w : Workload) : (opRequest c I w).hint = opHint c.threadId I := by
  simp only [opRequest, apply_ite TransactReq.hint, ite_self]

@[simp]
theorem opRequest_kind (I : Nat) (w : Workload) : (opRequest c I w).kind = opKind c I := by
  simp only [opRequest, apply_ite TransactReq.kind, ite_self]

/-- A Read or a Write carries the batch's address and operation count. -/
theorem opRequest_of_readWrite {I : Nat} {w : Workload}
    (hk : opKind c I = spdIoctlTransactReadKind ∨ opKind c I = spdIoctlTransactWriteKind) :
    (opRequest c I w).blockAddress = w.blockAddress ∧
      (opRequest c I w).blockCount = w.opBlockCount := by
  have hw : spdIoctlTransactWriteKind ≠ spdIoctlTransactReadKind := by decide
  rcases hk with hk | hk <;> simp [opRequest, hk, hw]

/-- An Unmap carries one descriptor. -/
theorem opRequest_unmapCount {I : Nat} {w : Workload}
    (hk : opKind c I = spdIoctlTransactUnmapKind) :
    (opRequest c I w).unmapCount = 1 := by
  have hr : spdIoctlTransactUnmapKind ≠ spdIoctlTransactReadKind := by decide
  have hw : spdIoctlTransactUnmapKind ≠ spdIoctlTransactWriteKind := by decide
  have hf : spdIoctlTransactUnmapKind ≠ spdIoctlTransactFlushKind := by decide
  simp [opRequest, hk, hr, hw, hf]

/-- A Flush carries the batch's address and operation count, as a Read and a
Write do. -/
theorem opRequest_of_flush {I : Nat} {w : Workload} (hk : opKind c I = spdIoctlTransactFlushKind) :
    (opRequest c I w).blockAddress = w.blockAddress ∧
      (opRequest c I w).blockCount = w.opBlockCount := by
  have hr : spdIoctlTransactFlushKind ≠ spdIoctlTransactReadKind := by decide
  have hw : spdIoctlTransactFlushKind ≠ spdIoctlTransactWriteKind := by decide
  simp [opRequest, hk, hr, hw]

theorem opTestKind_of_read {testOpKind : BitVec 8} :
    opTestKind spdIoctlTransactReadKind testOpKind = testOpKind := by
  simp [opTestKind]

theorem opTestKind_write (testOpKind : BitVec 8) :
    opTestKind spdIoctlTransactWriteKind testOpKind = spdIoctlTransactWriteKind :=
  if_pos rfl

theorem opTestKind_unmap (testOpKind : BitVec 8) :
    opTestKind spdIoctlTransactUnmapKind testOpKind = spdIoctlTransactUnmapKind := by
  simp [opTestKind]

theorem opTestKind_of_ne {kind testOpKind : BitVec 8} (hw : kind ≠ spdIoctlTransactWriteKind)
    (hu : kind ≠ spdIoctlTransactUnmapKind) : opTestKind kind testOpKind = testOpKind := by
  simp only [opTestKind, hw, hu, if_false]

theorem opBuffer_write (w : Workload) (b : Buffer) :
    opBuffer c spdIoctlTransactWriteKind w b =
      (fillOrTest b c.params.blockLength w.blockAddress w.opBlockCount
        spdIoctlTransactReservedKind).1 :=
  if_pos rfl

theorem opBuffer_unmap (w : Workload) (b : Buffer) :
    opBuffer c spdIoctlTransactUnmapKind w b =
      storeU32 (storeU32 (storeU64 b 0 w.blockAddress) 8 w.opBlockCount) 12 0 := by
  simp [opBuffer]

/-- The descriptor an Unmap writes at the start of the data buffer reads back as
the address and the count it was given. -/
theorem unmapDescriptor_fields (b : Buffer) (blockAddress : BitVec 64) (blockCount : BitVec 32) :
    loadU64 (storeU32 (storeU32 (storeU64 b 0 blockAddress) 8 blockCount) 12 0) 0 =
        blockAddress ∧
      leValue (storeU32 (storeU32 (storeU64 b 0 blockAddress) 8 blockCount) 12 0) 8 4 =
        blockCount.toNat := by
  constructor
  · have hframe : leValue (storeU32 (storeU32 (storeU64 b 0 blockAddress) 8 blockCount) 12 0) 0 8 =
        leValue (storeU64 b 0 blockAddress) 0 8 :=
      leValue_congr fun i hi => by
        rw [storeU32, storeLE_apply_of_lt (by omega), storeU32, storeLE_apply_of_lt (by omega)]
    rw [loadU64, hframe]
    exact loadU64_storeU64 b 0 blockAddress
  · have hframe : leValue (storeU32 (storeU32 (storeU64 b 0 blockAddress) 8 blockCount) 12 0) 8 4 =
        leValue (storeU32 (storeU64 b 0 blockAddress) 8 blockCount) 8 4 :=
      leValue_congr fun i hi => by rw [storeU32, storeLE_apply_of_lt (by omega)]
    rw [hframe, storeU32, leValue_storeLE]
    exact Nat.mod_eq_of_lt blockCount.isLt

/-- An operation of at most {lit}`MaxBlockCount` blocks carries at most
{lit}`MaxTransferLength` payload bytes: a Write its blocks, an Unmap its one
descriptor, the others none. -/
theorem requestDataLength_opRequest_le {g : Geometry} (hc : c.params = g.params) {I : Nat}
    {w : Workload} (hw : w.opBlockCount.toNat ≤ g.maxBlockCount) :
    (requestDataLength (opRequest c I w) c.params.blockLength).toNat ≤ g.maxTransferLength := by
  by_cases hwk : opKind c I = spdIoctlTransactWriteKind
  · rw [requestDataLength, opRequest_kind, if_pos hwk, (opRequest_of_readWrite (.inr hwk)).2, hc,
      BitVec.toNat_mul]
    exact Nat.le_trans (Nat.mod_le _ _) (g.mul_blockLength_le hw)
  · by_cases hu : opKind c I = spdIoctlTransactUnmapKind
    · have hone := g.mul_blockLength_le g.maxBlockCount_pos
      have h16 := g.blockLength_ge
      have hdesc : (1 * BitVec.ofNat 32 unmapDescriptorSize).toNat = 16 := by decide
      rw [requestDataLength, opRequest_kind, if_neg hwk, if_pos hu, opRequest_unmapCount hu, hdesc]
      omega
    · rw [requestDataLength, opRequest_kind, if_neg hwk, if_neg hu]
      exact Nat.zero_le _

/-- On a valid geometry an operation of at most {lit}`MaxBlockCount` blocks divides
by no zero and stays within the data buffer. -/
theorem opUndefined_eq_false {g : Geometry} (hc : c.params = g.params) {I : Nat}
    {st : LoopState σ} (hw : (opWork c I st).opBlockCount.toNat ≤ g.maxBlockCount) :
    opUndefined c I st = false := by
  have hN : c.params.blockCount ≠ 0 := fun h0 => by
    have := g.blockCount_pos
    rw [Geometry.blockCount, ← hc, h0] at this
    exact Nat.lt_irrefl 0 this
  have hM : c.maxBlockCount ≠ 0 := fun h0 => by
    have := maxBlockCount_toNat (c := c.toWorkloadConfig) hc
    rw [h0] at this
    exact Nat.ne_of_gt g.maxBlockCount_pos this.symm
  have hmtl : c.params.maxTransferLength.toNat = g.maxTransferLength := by rw [hc]; rfl
  have hle := requestDataLength_opRequest_le (I := I) hc hw
  simp only [opUndefined, dividesByZero, overrunsDataBuffer, hN, hM, hmtl, decide_False,
    Bool.and_false, Bool.or_false, Bool.false_or, decide_eq_false_iff_not, not_lt]
  exact hle

theorem opBuffer_of_ne {kind : BitVec 8} (hw : kind ≠ spdIoctlTransactWriteKind)
    (hu : kind ≠ spdIoctlTransactUnmapKind) (w : Workload) (b : Buffer) :
    opBuffer c kind w b = b := by
  simp only [opBuffer, hw, hu, if_false]

/-- What a successful iteration did: the transaction succeeded, the response passed
run's checks, the cursor moved on, and the workload is the operation's with its
{lit}`TestOpKind` updated. -/
theorem runStep_ok {I : Nat} {st st' : LoopState σ} (h : runStep transact c I st = .ok st') :
    let w := opWork c I st
    let req := opRequest c I w
    let w' := { w with testOpKind := opTestKind req.kind w.testOpKind }
    let r := transact st.world req TransactRsp.zero (opBuffer c req.kind w st.dataBuffer)
    r.2.1 = errorSuccess ∧ checkResponse c req r.2.2.1 w' r.2.2.2 = errorSuccess ∧
      st' = ⟨r.1, r.2.2.2, w', (st.j + 1) % c.opKinds.length⟩ := by
  simp only [runStep] at h
  split_ifs at h with h0 h1 h2
  · exact ⟨Decidable.of_not_not h1, Decidable.of_not_not h2, (Except.ok.inj h).symm⟩

/-- An iteration with defined behaviour whose transaction succeeds and whose
response passes run's checks moves on to the next operation. -/
theorem runStep_eq_ok {I : Nat} {st : LoopState σ} (hdef : opUndefined c I st = false) :
    let w := opWork c I st
    let req := opRequest c I w
    let w' := { w with testOpKind := opTestKind req.kind w.testOpKind }
    let r := transact st.world req TransactRsp.zero (opBuffer c req.kind w st.dataBuffer)
    r.2.1 = errorSuccess → checkResponse c req r.2.2.1 w' r.2.2.2 = errorSuccess →
      runStep transact c I st = .ok ⟨r.1, r.2.2.2, w', (st.j + 1) % c.opKinds.length⟩ := by
  intro w req w' r h1 h2
  simp only [runStep, hdef, Bool.false_eq_true, if_false]
  rw [if_neg (not_not.mpr h1), if_neg (not_not.mpr h2)]

/-- An iteration with defined behaviour whose transaction fails ends the loop with
the transaction's error. -/
theorem runStep_of_error {I : Nat} {st : LoopState σ} {e : Nat} (hdef : opUndefined c I st = false)
    (h : (transact st.world (opRequest c I (opWork c I st)) TransactRsp.zero
      (opBuffer c (opRequest c I (opWork c I st)).kind (opWork c I st) st.dataBuffer)).2.1 = e)
    (he : e ≠ errorSuccess) : runStep transact c I st = .error e := by
  simp only [runStep, hdef, h, ne_eq, he, not_false_eq_true, Bool.false_eq_true, if_true,
    if_false]

@[simp]
theorem runLoop_zero (st : LoopState σ) : runLoop transact c 0 st = .ok st :=
  rfl

theorem runLoop_one (st : LoopState σ) : runLoop transact c 1 st = runStep transact c 0 st :=
  rfl

/-- A first iteration that fails ends every run of the loop with its error. -/
theorem runLoop_of_first_error {st : LoopState σ} {e : Nat}
    (h : runStep transact c 0 st = .error e) :
    ∀ n, runLoop transact c (n + 1) st = .error e
  | 0 => h
  | n + 1 => by rw [runLoop, runLoop_of_first_error h n]; rfl

theorem runLoop_succ_ok {k : Nat} {st0 st' : LoopState σ}
    (h : runLoop transact c (k + 1) st0 = .ok st') :
    ∃ st, runLoop transact c k st0 = .ok st ∧ runStep transact c k st = .ok st' := by
  simp only [runLoop] at h
  cases hk : runLoop transact c k st0 with
  | error e => rw [hk] at h; cases h
  | ok st => exact ⟨st, rfl, by rw [hk] at h; exact h⟩

/-- A run that reaches iteration {lit}`K` reaches every earlier one. -/
theorem runLoop_ok_of_le {k K : Nat} {st0 stK : LoopState σ}
    (h : runLoop transact c K st0 = .ok stK) (hk : k ≤ K) :
    ∃ st, runLoop transact c k st0 = .ok st := by
  obtain ⟨d, rfl⟩ := Nat.exists_eq_add_of_le hk
  induction d generalizing stK with
  | zero => exact ⟨stK, h⟩
  | succ d ih =>
    obtain ⟨st, h', -⟩ := runLoop_succ_ok h
    exact ih h' (Nat.le_add_right k d)

/-- An iteration never fails with {lit}`ERROR_SUCCESS`. -/
theorem runStep_error_ne {I : Nat} {st : LoopState σ} {e : Nat}
    (h : runStep transact c I st = .error e) : e ≠ errorSuccess := by
  simp only [runStep] at h
  split_ifs at h with h0 h1 h2
  · exact Except.error.inj h ▸ undefinedBehavior_ne
  · exact Except.error.inj h ▸ h1
  · exact Except.error.inj h ▸ h2

/-- Nor does the loop. -/
theorem runLoop_error_ne {k : Nat} {st0 : LoopState σ} {e : Nat}
    (h : runLoop transact c k st0 = .error e) : e ≠ errorSuccess := by
  induction k generalizing e with
  | zero => cases h
  | succ k ih =>
    simp only [runLoop] at h
    cases hk : runLoop transact c k st0 with
    | error e' => rw [hk] at h; cases h; exact ih hk
    | ok st => rw [hk] at h; exact runStep_error_ne h

/-- An iteration keeps the batch's address and operation count. -/
theorem runStep_work {I : Nat} {st st' : LoopState σ} (h : runStep transact c I st = .ok st') :
    st'.work.blockAddress = (opWork c I st).blockAddress ∧
      st'.work.opBlockCount = (opWork c I st).opBlockCount ∧
      st'.work.testOpKind = opTestKind (opKind c I) (opWork c I st).testOpKind ∧
      st'.j = (st.j + 1) % c.opKinds.length := by
  obtain ⟨-, -, rfl⟩ := runStep_ok h
  simp

/-- The content test of a Read whose response passed the three conditions: it is
made in the mode {lit}`TestOpKind` names, over the operation's address and
count, and only after a Write or an Unmap. -/
theorem checkResponse_read {req : TransactReq} {rsp : TransactRsp} {w : Workload} {b : Buffer}
    (hk : req.kind = spdIoctlTransactReadKind) (hh : req.hint = rsp.hint)
    (hkind : req.kind = rsp.kind) (hs : rsp.scsiStatus = scsistatGood) :
    checkResponse c req rsp w b = errorSuccess ↔
      (w.testOpKind = spdIoctlTransactWriteKind →
        (fillOrTest b c.params.blockLength w.blockAddress w.opBlockCount
          spdIoctlTransactWriteKind).2 = true) ∧
      (w.testOpKind = spdIoctlTransactUnmapKind →
        (fillOrTest b c.params.blockLength w.blockAddress w.opBlockCount
          spdIoctlTransactUnmapKind).2 = true) := by
  have hr : rsp.kind = spdIoctlTransactReadKind := hkind ▸ hk
  simp only [checkResponse, hh, hkind, hs, hr, ne_eq, not_true_eq_false, if_false, if_true]
  split_ifs <;> simp_all [errorIoDevice_ne]

/-- A good response that echoes a request other than a Read passes run's checks. -/
theorem checkResponse_echo {req : TransactReq} {rsp : TransactRsp} {w : Workload} {b : Buffer}
    (hk : req.kind ≠ spdIoctlTransactReadKind) (hh : req.hint = rsp.hint)
    (hkind : req.kind = rsp.kind) (hs : rsp.scsiStatus = scsistatGood) :
    checkResponse c req rsp w b = errorSuccess := by
  have hr : rsp.kind ≠ spdIoctlTransactReadKind := hkind ▸ hk
  simp only [checkResponse, hh, hkind, hs, hr, ne_eq, not_true_eq_false, if_false]

/-- A response passes run's checks only if it echoes the request's hint and kind
with a good status. -/
theorem checkResponse_eq_success {req : TransactReq} {rsp : TransactRsp} {w : Workload}
    {b : Buffer} (h : checkResponse c req rsp w b = errorSuccess) :
    req.hint = rsp.hint ∧ req.kind = rsp.kind ∧ rsp.scsiStatus = scsistatGood := by
  rw [checkResponse] at h
  by_cases h1 : req.hint ≠ rsp.hint
  · rw [if_pos h1] at h
    exact absurd h errorIoDevice_ne
  rw [if_neg h1] at h
  by_cases h2 : req.kind ≠ rsp.kind
  · rw [if_pos h2] at h
    exact absurd h errorIoDevice_ne
  rw [if_neg h2] at h
  by_cases h3 : scsistatGood ≠ rsp.scsiStatus
  · rw [if_pos h3] at h
    exact absurd h errorIoDevice_ne
  exact ⟨not_not.mp h1, not_not.mp h2, (not_not.mp h3).symm⟩

end Step

/-! ## The batches of a run -/

/-- The kind of the last Write or Unmap among the operations of a batch so far,
Reserved if there is none. -/
def latestWriteOrUnmap (kinds : List (BitVec 8)) : BitVec 8 :=
  ((kinds.filter fun k =>
    k = spdIoctlTransactWriteKind ∨ k = spdIoctlTransactUnmapKind).getLast?).getD
      spdIoctlTransactReservedKind

theorem latestWriteOrUnmap_append (kinds : List (BitVec 8)) (k : BitVec 8) :
    latestWriteOrUnmap (kinds ++ [k]) = opTestKind k (latestWriteOrUnmap kinds) := by
  unfold latestWriteOrUnmap opTestKind
  by_cases hw : k = spdIoctlTransactWriteKind
  · subst hw
    simp
  · by_cases hu : k = spdIoctlTransactUnmapKind
    · subst hu
      simp
    · simp_all

/-- The workload of operation {lit}`k` of a run, when the run reaches it. -/
def workAt {σ : Type}
    (transact : σ → TransactReq → TransactRsp → Buffer → σ × Nat × TransactRsp × Buffer)
    (c : RunConfig) (st0 : LoopState σ) (k : Nat) : Option Workload :=
  (runLoop transact c k st0).toOption.map (opWork c k)

/-- The transaction of operation {lit}`k` from the loop state {lit}`st`, as
{lit}`runStep` makes it: the operation's request, a zeroed {lit}`Rsp` and the
data buffer its switch prepared. -/
def opTransact {σ : Type}
    (transact : σ → TransactReq → TransactRsp → Buffer → σ × Nat × TransactRsp × Buffer)
    (c : RunConfig) (k : Nat) (st : LoopState σ) : σ × Nat × TransactRsp × Buffer :=
  transact st.world (opRequest c k (opWork c k st)) TransactRsp.zero
    (opBuffer c (opRequest c k (opWork c k st)).kind (opWork c k st) st.dataBuffer)

/-- A transaction that records each request and answers it with a good response. -/
def recordingTransact (sent : List TransactReq) (req : TransactReq) (_ : TransactRsp)
    (dataBuffer : Buffer) : List TransactReq × Nat × TransactRsp × Buffer :=
  (sent ++ [req], errorSuccess, ⟨req.hint, req.kind, scsistatGood⟩, dataBuffer)

section Batches

variable {σ : Type}
  {transact : σ → TransactReq → TransactRsp → Buffer → σ × Nat × TransactRsp × Buffer}
  {c : RunConfig} {st0 : LoopState σ}

/-- The cursor and {lit}`TestOpKind` at the top of every iteration a run reaches. -/
theorem runLoop_cursor (hK : c.opKinds ≠ []) (h0 : st0.j = 0) {k : Nat} {st : LoopState σ}
    (h : runLoop transact c k st0 = .ok st) :
    st.j = k % c.opKinds.length ∧
      (opWork c k st).testOpKind = latestWriteOrUnmap (c.opKinds.take (k % c.opKinds.length)) := by
  have hpos : 0 < c.opKinds.length := List.length_pos.mpr hK
  induction k generalizing st with
  | zero =>
    cases h
    simp [opWork, h0, nextBatch, batchOf, latestWriteOrUnmap]
  | succ k ih =>
    obtain ⟨st', hreach, hstep⟩ := runLoop_succ_ok h
    obtain ⟨hj', ht'⟩ := ih hreach
    obtain ⟨-, -, htest, hj⟩ := runStep_work hstep
    have hsucc' : (k + 1) % c.opKinds.length = (k % c.opKinds.length + 1) % c.opKinds.length :=
      (Nat.mod_add_mod k _ 1).symm
    have hjk : st.j = (k + 1) % c.opKinds.length := by rw [hj, hj', hsucc']
    refine ⟨hjk, ?_⟩
    unfold opWork
    split
    · rename_i hz
      rw [← hjk, hz]
      simp [nextBatch, batchOf, latestWriteOrUnmap]
    · rename_i hz
      have hlt : k % c.opKinds.length + 1 < c.opKinds.length :=
        Nat.lt_of_le_of_ne (Nat.mod_lt k hpos) fun heq =>
          hz (by rw [hjk, hsucc', heq, Nat.mod_self])
      have hsucc : (k + 1) % c.opKinds.length = k % c.opKinds.length + 1 := by
        rw [hsucc', Nat.mod_eq_of_lt hlt]
      rw [htest, ht', hsucc, List.take_succ, List.getElem?_eq_getElem (by omega),
        Option.toList_some, latestWriteOrUnmap_append]
      congr 1
      simp [opKind, List.getD_eq_getElem?_getD, List.getElem?_eq_getElem (Nat.mod_lt k hpos)]

theorem workAt_eq_some {k : Nat} {w : Workload} :
    workAt transact c st0 k = some w ↔
      ∃ st, runLoop transact c k st0 = .ok st ∧ opWork c k st = w := by
  unfold workAt
  cases runLoop transact c k st0 <;> simp [Except.toOption]

/-- On a unit whose block count leaves room for one more transfer below
{lit}`2 ^ 64`, every operation a run reaches is bounded. -/
theorem runLoop_bounded {g : Geometry} (hc : c.params = g.params)
    (hwrap : g.blockCount + g.maxBlockCount ≤ 2 ^ 64) (h0 : st0.j = 0) {k : Nat}
    {st : LoopState σ} (h : runLoop transact c k st0 = .ok st) : (opWork c k st).Bounded g := by
  induction k generalizing st with
  | zero =>
    cases h
    simp only [opWork, h0, if_true]
    exact nextBatch_bounds hc hwrap 0 _
  | succ k ih =>
    obtain ⟨st', hreach, hstep⟩ := runLoop_succ_ok h
    obtain ⟨hA, hC, -, -⟩ := runStep_work hstep
    have hb := ih hreach
    unfold opWork
    split
    · exact nextBatch_bounds hc hwrap _ _
    · exact ⟨hA ▸ hb.address_lt, hC ▸ hb.count_pos, hC ▸ hb.count_le, hA ▸ hC ▸ hb.within⟩

/-- A property that every new batch has, and that an operation's update of
{lit}`TestOpKind` keeps, holds of every operation a run reaches. -/
theorem runLoop_opWork_of_batch (P : Workload → Prop)
    (hnext : ∀ I w, P (nextBatch c.toWorkloadConfig I w))
    (htest : ∀ w t, P w → P { w with testOpKind := t }) (h0 : st0.j = 0) {k : Nat}
    {st : LoopState σ} (h : runLoop transact c k st0 = .ok st) : P (opWork c k st) := by
  induction k generalizing st with
  | zero =>
    cases h
    simp only [opWork, h0, if_true]
    exact hnext 0 _
  | succ k ih =>
    obtain ⟨st', hreach, hstep⟩ := runLoop_succ_ok h
    obtain ⟨-, -, hst⟩ := runStep_ok hstep
    rw [opWork]
    split
    · exact hnext _ _
    · rw [hst]
      exact htest _ _ (ih hreach)

/-- On every geometry, every operation a run reaches covers at most
{lit}`MaxBlockCount` blocks. -/
theorem runLoop_opBlockCount_le {g : Geometry} (hc : c.params = g.params) (h0 : st0.j = 0)
    {k : Nat} {st : LoopState σ} (h : runLoop transact c k st0 = .ok st) :
    (opWork c k st).opBlockCount.toNat ≤ g.maxBlockCount :=
  runLoop_opWork_of_batch (fun w => w.opBlockCount.toNat ≤ g.maxBlockCount)
    (fun I w => Nat.le_trans (nextBatch_opBlockCount_le hc I w).2 (nextBatch_blockCount_le hc I w))
    (fun _ _ hw => hw) h0 h

/-- On a valid geometry no operation a run reaches has undefined behaviour. -/
theorem runLoop_opUndefined_eq_false {g : Geometry} (hc : c.params = g.params) (h0 : st0.j = 0)
    {k : Nat} {st : LoopState σ} (h : runLoop transact c k st0 = .ok st) :
    opUndefined c k st = false :=
  opUndefined_eq_false hc (runLoop_opBlockCount_le hc h0 h)

end Batches

/-! ## Operations past the last block -/

/-- On a unit of {lit}`2 ^ 64 - 1` blocks of 16 bytes with four blocks per transfer,
a run with the fixed start address {lit}`2 ^ 64 - 3` and count 4 issues as its
first operation a Write of 4 blocks at {lit}`2 ^ 64 - 3`: the 64-bit sum in the
clamp wraps to 1, and the operation ends two blocks past the unit's last block. -/
theorem runLoop_writes_past_last_block :
    let c : RunConfig :=
      ⟨⟨⟨0xFFFFFFFFFFFFFFFF, 16, 64⟩, false, false⟩, [spdIoctlTransactWriteKind], 0⟩
    let st0 : LoopState (List TransactReq) := ⟨[], fun _ => 0, ⟨0xFFFFFFFFFFFFFFFD, 4, 1, 0, 0⟩, 0⟩
    c.params.Valid ∧
      (runLoop recordingTransact c 1 st0).toOption.map LoopState.world =
        some [⟨opHint 0 0, spdIoctlTransactWriteKind, 0xFFFFFFFFFFFFFFFD, 4, false, 0⟩] ∧
      (0xFFFFFFFFFFFFFFFD : BitVec 64).toNat + (4 : BitVec 32).toNat =
        c.params.blockCount.toNat + 2 := by
  decide

/-! ## run -/

/-- What one run depends on besides its arguments: the size of the handshake, the
size of {lit}`TRANSACT_MSG`, what the open calls return, the data buffer's
allocation and initial bytes, the thread id, and the transports with the
initial state of their far side. -/
structure RunEnv (σ : Type) where
  paramsSize : Nat
  msgSize : Nat
  pipeOpen : PipeOpenIo
  rawOpen : RawOpenIo
  stack : Buffer
  allocated : Bool
  dataBuffer : Buffer
  threadId : BitVec 32
  transports : Transports σ
  world : σ

/-- The loop's constants: {lit}`'*'` arguments, passed as {lit}`-1`, select random
addresses and counts. -/
def runConfig (threadId : BitVec 32) (p : StorageUnitParams) (opSet : List (BitVec 16))
    (blockAddress : BitVec 64) (blockCount : BitVec 32) : RunConfig :=
  ⟨⟨p, blockAddress = BitVec.allOnes 64, blockCount = BitVec.allOnes 32⟩, parseOpSet opSet,
    threadId⟩

/-- {lit}`run`: open the unit, allocate the data buffer, run {lit}`OpCount`
operations, at least one, and return the first error.  {lit}`OpBlockCount` and
{lit}`TestOpKind` start uninitialized and are set before they are read. -/
def run {σ : Type} (env : RunEnv σ) (pipeName : List Char) (opCount : BitVec 32)
    (opSet : List (BitVec 16)) (blockAddress : BitVec 64) (blockCount : BitVec 32)
    (randomSeed : BitVec 32) : Nat :=
  let opened := stgOpen env.paramsSize env.pipeOpen env.rawOpen env.stack pipeName ⟨0, 0, 0⟩
  let c := runConfig env.threadId opened.2.2 opSet blockAddress blockCount
  let opCount := if opCount = 0 then 1 else opCount
  let transact := fun s req rsp b =>
    stgTransact env.msgSize env.transports s opened.2.1 req rsp b opened.2.2
  if opened.1 ≠ errorSuccess then opened.1
  else if !env.allocated then errorNoSystemResources
  else
    match runLoop transact c opCount.toNat
      ⟨env.world, env.dataBuffer, ⟨blockAddress, blockCount, randomSeed, 0, 0⟩, 0⟩ with
    | .ok _ => errorSuccess
    | .error e => e

/-- A run whose open succeeds and whose loop fails returns the loop's error. -/
theorem run_of_runLoop_error {σ : Type} (env : RunEnv σ) {name : List Char}
    {opSet : List (BitVec 16)}
    {opCount blockCount seed : BitVec 32} {blockAddress handle : BitVec 64} {p : StorageUnitParams}
    {e : Nat}
    (hopen : stgOpen env.paramsSize env.pipeOpen env.rawOpen env.stack name ⟨0, 0, 0⟩ =
      (errorSuccess, handle, p))
    (halloc : env.allocated = true)
    (hloop : runLoop
      (fun s req rsp b => stgTransact env.msgSize env.transports s handle req rsp b p)
      (runConfig env.threadId p opSet blockAddress blockCount)
      (if opCount = 0 then 1 else opCount).toNat
      ⟨env.world, env.dataBuffer, ⟨blockAddress, blockCount, seed, 0, 0⟩, 0⟩ = .error e) :
    run env name opCount opSet blockAddress blockCount seed = e := by
  simp only [run, hopen, halloc, hloop, ne_eq, not_true_eq_false, if_false, Bool.not_true,
    Bool.false_eq_true]

/-- A run whose open succeeds and whose loop completes returns {lit}`ERROR_SUCCESS`. -/
theorem run_of_runLoop_ok {σ : Type} (env : RunEnv σ) {name : List Char} {opSet : List (BitVec 16)}
    {opCount blockCount seed : BitVec 32} {blockAddress handle : BitVec 64} {p : StorageUnitParams}
    {st : LoopState σ}
    (hopen : stgOpen env.paramsSize env.pipeOpen env.rawOpen env.stack name ⟨0, 0, 0⟩ =
      (errorSuccess, handle, p))
    (halloc : env.allocated = true)
    (hloop : runLoop
      (fun s req rsp b => stgTransact env.msgSize env.transports s handle req rsp b p)
      (runConfig env.threadId p opSet blockAddress blockCount)
      (if opCount = 0 then 1 else opCount).toNat
      ⟨env.world, env.dataBuffer, ⟨blockAddress, blockCount, seed, 0, 0⟩, 0⟩ = .ok st) :
    run env name opCount opSet blockAddress blockCount seed = errorSuccess := by
  simp only [run, hopen, halloc, hloop, ne_eq, not_true_eq_false, if_false, Bool.not_true,
    Bool.false_eq_true]

/-- A run returns {lit}`ERROR_SUCCESS` only if the unit opens, the data buffer is
allocated and the loop completes all its operations. -/
theorem run_eq_success {σ : Type} {env : RunEnv σ} {name : List Char} {opSet : List (BitVec 16)}
    {opCount blockCount seed : BitVec 32} {blockAddress : BitVec 64}
    (h : run env name opCount opSet blockAddress blockCount seed = errorSuccess) :
    let opened := stgOpen env.paramsSize env.pipeOpen env.rawOpen env.stack name ⟨0, 0, 0⟩
    opened.1 = errorSuccess ∧ env.allocated = true ∧
      ∃ st, runLoop
        (fun s req rsp b =>
          stgTransact env.msgSize env.transports s opened.2.1 req rsp b opened.2.2)
        (runConfig env.threadId opened.2.2 opSet blockAddress blockCount)
        (if opCount = 0 then 1 else opCount).toNat
        ⟨env.world, env.dataBuffer, ⟨blockAddress, blockCount, seed, 0, 0⟩, 0⟩ = .ok st := by
  intro opened
  simp only [run] at h
  split at h
  next h1 => exact absurd h h1
  next h1 =>
    split at h
    next => exact absurd h errorNoSystemResources_ne
    next h2 =>
      split at h
      next hloop => exact ⟨not_not.mp h1, by simpa using h2, _, hloop⟩
      next hloop => exact absurd h (runLoop_error_ne hloop)

/-- A run whose open succeeds with a valid geometry and whose first transaction
fails returns that transaction's error. -/
theorem run_of_first_error {σ : Type} (env : RunEnv σ) {name : List Char} {opSet : List (BitVec 16)}
    {opCount blockCount seed : BitVec 32} {blockAddress handle : BitVec 64} {g : Geometry}
    {e : Nat}
    (hopen : stgOpen env.paramsSize env.pipeOpen env.rawOpen env.stack name ⟨0, 0, 0⟩ =
      (errorSuccess, handle, g.params))
    (halloc : env.allocated = true)
    (h : (stgTransact env.msgSize env.transports env.world handle
      (opRequest (runConfig env.threadId g.params opSet blockAddress blockCount) 0
        (opWork (runConfig env.threadId g.params opSet blockAddress blockCount) 0
          ⟨env.world, env.dataBuffer, ⟨blockAddress, blockCount, seed, 0, 0⟩, 0⟩))
      TransactRsp.zero
      (opBuffer (runConfig env.threadId g.params opSet blockAddress blockCount)
        (opRequest (runConfig env.threadId g.params opSet blockAddress blockCount) 0
          (opWork (runConfig env.threadId g.params opSet blockAddress blockCount) 0
            ⟨env.world, env.dataBuffer, ⟨blockAddress, blockCount, seed, 0, 0⟩, 0⟩)).kind
        (opWork (runConfig env.threadId g.params opSet blockAddress blockCount) 0
          ⟨env.world, env.dataBuffer, ⟨blockAddress, blockCount, seed, 0, 0⟩, 0⟩)
        env.dataBuffer) g.params).2.1 = e)
    (he : e ≠ errorSuccess) :
    run env name opCount opSet blockAddress blockCount seed = e := by
  refine run_of_runLoop_error env hopen halloc ?_
  have hpos : 0 < (if opCount = 0 then 1 else opCount).toNat := by
    split
    · decide
    · exact Nat.pos_of_ne_zero fun hz => ‹¬opCount = 0› (BitVec.eq_of_toNat_eq hz)
  rw [← Nat.succ_pred_eq_of_pos hpos]
  let transact := fun s req rsp b =>
    stgTransact env.msgSize env.transports s handle req rsp b g.params
  exact runLoop_of_first_error (@runStep_of_error _ transact _ 0
    ⟨env.world, env.dataBuffer, ⟨blockAddress, blockCount, seed, 0, 0⟩, 0⟩ e
    (@runLoop_opUndefined_eq_false _ transact _ _ g rfl rfl 0 _ rfl) h he) _

end StgPipe
end WinSpd
