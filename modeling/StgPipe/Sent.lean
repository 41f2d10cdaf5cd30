import StgPipe.IdealStore

/-!
# What a run sends

run computes each operation's request and payload from its own variables: the
batch's address and counts, the seed, {lit}`TestOpKind` and the cursor
{lit}`J`.  None of them is ever set from a reply; a transaction's result only
decides whether the loop goes on, and what it leaves in the data buffer is
overwritten before a payload is sent.  A Write stamps its blocks with
{lit}`FillOrTest` and an Unmap writes its 16-byte descriptor, so every payload
byte that {lit}`FillOrTest` visits or the descriptor covers is fixed by run's
arguments.  The bytes {lit}`FillOrTest` skips, the last {lit}`BlockLength % 8`
of each block, go out as the data buffer holds them: after a Read over a pipe,
the bytes the unit delivered.

When the unit's block count leaves room for one more transfer below
{lit}`2 ^ 64`, every request a run sends names a range of one to
{lit}`MaxBlockCount` blocks of the unit: in the request for a Read, a Write or a
Flush, in the descriptor at the start of the payload for an Unmap.

A raw volume accepts only reads and writes: {lit}`StgTransactRaw` refuses every
other request before it touches the device, so a run over a volume stops at its
first Flush or Unmap.

Main results:

- Theorem {lit}`runLoop_sends_agree`: two runs of one configuration, over any two
  transports and from any two data buffers, send the same request at every
  iteration both reach, and the same payload bytes wherever {lit}`FillOrTest`
  stamps or the descriptor lies; the other bytes of a Write's payload are the
  data buffer's.
- Theorem {lit}`runLoop_requests_within`: no request a run sends leaves the unit
  when {lit}`BlockCount + MaxBlockCount ≤ 2 ^ 64`.
- Theorem {lit}`runLoop_raw_readWrite`: a run over a raw volume with a valid
  geometry gets past an operation only if it is a Read or a Write, and stops at
  any other with {lit}`ERROR_INVALID_PARAMETER`.
-/

namespace WinSpd
namespace StgPipe

/-! ## The payload of one operation -/

section Payload

variable {c : RunConfig} {g : Geometry} {w : Workload}

/-- A Write's payload: {lit}`FillOrTest`'s stamp at the offsets it visits, the
buffer's bytes at the others. -/
theorem opBuffer_write_apply (hwrap : w.opBlockCount.toNat * c.params.blockLength.toNat ≤ 2 ^ 32)
    (b : Buffer) (i : Nat) :
    opBuffer c spdIoctlTransactWriteKind w b i =
      if Stamped c.params.blockLength.toNat w.opBlockCount.toNat i
      then stampByte c.params.blockLength.toNat w.blockAddress i else b i := by
  rw [opBuffer_write, fillOrTest_stamp hwrap]

/-- The 16 bytes of an Unmap's descriptor do not depend on the buffer. -/
theorem opBuffer_unmap_congr (b b' : Buffer) {i : Nat} (hi : i < unmapDescriptorSize) :
    opBuffer c spdIoctlTransactUnmapKind w b i = opBuffer c spdIoctlTransactUnmapKind w b' i := by
  simp only [opBuffer_unmap, storeU32, storeU64, storeLE]
  split_ifs <;> first | rfl | (unfold unmapDescriptorSize at hi; omega)

/-- The payload of a bounded operation, at an offset {lit}`FillOrTest` visits or
within the descriptor, does not depend on the buffer. -/
theorem opBuffer_payload_congr (hc : c.params = g.params) {I : Nat} (hb : w.Bounded g)
    (b b' : Buffer) {i : Nat}
    (hi : i < (requestDataLength (opRequest c I w) c.params.blockLength).toNat)
    (hs : i % g.blockLength < 8 * (g.blockLength / 8)) :
    opBuffer c (opKind c I) w b i = opBuffer c (opKind c I) w b' i := by
  by_cases hw : opKind c I = spdIoctlTransactWriteKind
  · rw [requestDataLength, opRequest_kind, if_pos hw, (opRequest_of_readWrite (.inr hw)).2, hc,
      hb.fits.2] at hi
    have hpos : 0 < g.blockLength := Nat.lt_of_lt_of_le (by decide) g.blockLength_ge
    have hst : Stamped c.params.blockLength.toNat w.opBlockCount.toNat i := by
      rw [hc]
      exact ⟨(Nat.div_lt_iff_lt_mul hpos).mpr hi, hs⟩
    have hwrap := hb.payload_le
    rw [← hc] at hwrap
    rw [hw, opBuffer_write_apply hwrap, opBuffer_write_apply hwrap, if_pos hst, if_pos hst]
  · by_cases hu : opKind c I = spdIoctlTransactUnmapKind
    · rw [requestDataLength, opRequest_kind, if_neg hw, if_pos hu, opRequest_unmapCount hu] at hi
      rw [hu]
      exact opBuffer_unmap_congr b b' hi
    · rw [requestDataLength, opRequest_kind, if_neg hw, if_neg hu] at hi
      exact absurd hi (Nat.not_lt_zero i)

end Payload

/-! ## Every request stays within the unit -/

section Within

variable {σ : Type}
  {transact : σ → TransactReq → TransactRsp → Buffer → σ × Nat × TransactRsp × Buffer}
  {c : RunConfig} {st0 : LoopState σ}

/-- No request leaves the unit.  On every unit whose block count leaves room for
one more transfer below {lit}`2 ^ 64`, at every iteration a run reaches, with
fixed or random addresses and counts and over any transport, a Read, a Write or
a Flush names between one and {lit}`MaxBlockCount` blocks, all of them blocks of
the unit; an Unmap carries one descriptor, at the start of the buffer it is sent
with, that names such blocks. -/
theorem runLoop_requests_within {g : Geometry} (hc : c.params = g.params)
    (hwrap : g.blockCount + g.maxBlockCount ≤ 2 ^ 64) (h0 : st0.j = 0) {k : Nat}
    {st : LoopState σ} (h : runLoop transact c k st0 = .ok st) :
    (opKind c k = spdIoctlTransactReadKind ∨ opKind c k = spdIoctlTransactWriteKind ∨
        opKind c k = spdIoctlTransactFlushKind →
      0 < (opRequest c k (opWork c k st)).blockCount.toNat ∧
        (opRequest c k (opWork c k st)).blockCount.toNat ≤ g.maxBlockCount ∧
        (opRequest c k (opWork c k st)).blockAddress.toNat +
          (opRequest c k (opWork c k st)).blockCount.toNat ≤ g.blockCount) ∧
      (opKind c k = spdIoctlTransactUnmapKind →
        (opRequest c k (opWork c k st)).unmapCount = 1 ∧
          0 < leValue (opBuffer c (opKind c k) (opWork c k st) st.dataBuffer) 8 4 ∧
          leValue (opBuffer c (opKind c k) (opWork c k st) st.dataBuffer) 8 4 ≤
            g.maxBlockCount ∧
          (loadU64 (opBuffer c (opKind c k) (opWork c k st) st.dataBuffer) 0).toNat +
            leValue (opBuffer c (opKind c k) (opWork c k st) st.dataBuffer) 8 4 ≤
              g.blockCount) := by
  have hb := runLoop_bounded hc hwrap h0 h
  refine ⟨fun hk => ?_, fun hk => ?_⟩
  · obtain ⟨hA, hC⟩ : (opRequest c k (opWork c k st)).blockAddress = (opWork c k st).blockAddress ∧
        (opRequest c k (opWork c k st)).blockCount = (opWork c k st).opBlockCount := by
      rcases hk with hk | hk | hk
      · exact opRequest_of_readWrite (.inl hk)
      · exact opRequest_of_readWrite (.inr hk)
      · exact opRequest_of_flush hk
    rw [hA, hC]
    exact ⟨hb.count_pos, hb.count_le, hb.within⟩
  · obtain ⟨hA, hC⟩ := unmapDescriptor_fields st.dataBuffer (opWork c k st).blockAddress
      (opWork c k st).opBlockCount
    rw [hk, opBuffer_unmap, hA, hC]
    exact ⟨opRequest_unmapCount hk, hb.count_pos, hb.count_le, hb.within⟩

/-- A run of Unmaps of four blocks from block 0 on a unit of 100 blocks: its first
descriptor names blocks 0 to 3. -/
theorem runLoop_requests_within_unmap4 :
    let c := runConfig 0 ⟨100, 16, 64⟩ (['U'].map wch) 0 4
    let g : Geometry := ⟨⟨100, 16, 64⟩, of_decide_eq_true rfl⟩
    let st0 : LoopState (List TransactReq) := ⟨[], fun _ => 0, ⟨0, 4, 1, 0, 0⟩, 0⟩
    c.params = g.params ∧ g.blockCount + g.maxBlockCount ≤ 2 ^ 64 ∧ st0.j = 0 ∧
      runLoop recordingTransact c 0 st0 = .ok st0 ∧
      ((opKind c 0 = spdIoctlTransactReadKind ∨ opKind c 0 = spdIoctlTransactWriteKind ∨
          opKind c 0 = spdIoctlTransactFlushKind →
        0 < (opRequest c 0 (opWork c 0 st0)).blockCount.toNat ∧
          (opRequest c 0 (opWork c 0 st0)).blockCount.toNat ≤ g.maxBlockCount ∧
          (opRequest c 0 (opWork c 0 st0)).blockAddress.toNat +
            (opRequest c 0 (opWork c 0 st0)).blockCount.toNat ≤ g.blockCount) ∧
        (opKind c 0 = spdIoctlTransactUnmapKind →
          (opRequest c 0 (opWork c 0 st0)).unmapCount = 1 ∧
            0 < leValue (opBuffer c (opKind c 0) (opWork c 0 st0) st0.dataBuffer) 8 4 ∧
            leValue (opBuffer c (opKind c 0) (opWork c 0 st0) st0.dataBuffer) 8 4 ≤
              g.maxBlockCount ∧
            (loadU64 (opBuffer c (opKind c 0) (opWork c 0 st0) st0.dataBuffer) 0).toNat +
              leValue (opBuffer c (opKind c 0) (opWork c 0 st0) st0.dataBuffer) 8 4 ≤
                g.blockCount)) := by
  intro c g st0
  exact ⟨rfl, by decide, rfl, rfl,
    @runLoop_requests_within _ recordingTransact c st0 g rfl (by decide) rfl 0 st0 rfl⟩

end Within

/-! ## Two runs of one configuration -/

section Agree

variable {σ τ : Type}
  {t1 : σ → TransactReq → TransactRsp → Buffer → σ × Nat × TransactRsp × Buffer}
  {t2 : τ → TransactReq → TransactRsp → Buffer → τ × Nat × TransactRsp × Buffer}
  {c : RunConfig}

/-- An operation's workload depends on the loop's workload and cursor only. -/
theorem opWork_congr {I : Nat} {st1 : LoopState σ} {st2 : LoopState τ}
    (hw : st1.work = st2.work) (hj : st1.j = st2.j) : opWork c I st1 = opWork c I st2 := by
  simp only [opWork, hw, hj]

/-- An iteration of each of two runs whose workloads and cursors agree leaves
them agreeing, whatever either transport answered. -/
theorem runStep_agree {I : Nat} {st1 s1 : LoopState σ} {st2 s2 : LoopState τ}
    (hw : st1.work = st2.work) (hj : st1.j = st2.j)
    (h1 : runStep t1 c I st1 = .ok s1) (h2 : runStep t2 c I st2 = .ok s2) :
    s1.work = s2.work ∧ s1.j = s2.j := by
  obtain ⟨-, -, rfl⟩ := runStep_ok h1
  obtain ⟨-, -, rfl⟩ := runStep_ok h2
  exact ⟨by simp only [opWork_congr hw hj], by simp only [hj]⟩

/-- Two runs of one configuration from agreeing workloads and cursors agree at
every iteration both reach. -/
theorem runLoop_agree {st1 s1 : LoopState σ} {st2 s2 : LoopState τ} (hw : st1.work = st2.work)
    (hj : st1.j = st2.j) {k : Nat} (h1 : runLoop t1 c k st1 = .ok s1)
    (h2 : runLoop t2 c k st2 = .ok s2) : s1.work = s2.work ∧ s1.j = s2.j := by
  induction k generalizing s1 s2 with
  | zero =>
    cases h1
    cases h2
    exact ⟨hw, hj⟩
  | succ k ih =>
    obtain ⟨s1', hr1, hs1⟩ := runLoop_succ_ok h1
    obtain ⟨s2', hr2, hs2⟩ := runLoop_succ_ok h2
    obtain ⟨hw', hj'⟩ := ih hr1 hr2
    exact runStep_agree hw' hj' hs1 hs2

/-- What a run sends does not depend on the unit.  Two runs of one configuration
from the same workload, over any two transports and from any two data buffers,
send the same request at every iteration {lit}`k` both reach, and the same
payload bytes at every offset that {lit}`FillOrTest` stamps or the Unmap
descriptor covers.  At the offsets {lit}`FillOrTest` skips, a Write's payload
is the data buffer as the run left it. -/
theorem runLoop_sends_agree {g : Geometry} (hc : c.params = g.params)
    (hwrap : g.blockCount + g.maxBlockCount ≤ 2 ^ 64) {st1 s1 : LoopState σ}
    {st2 s2 : LoopState τ} (hw : st1.work = st2.work) (h1 : st1.j = 0) (h2 : st2.j = 0)
    {k : Nat} (hr1 : runLoop t1 c k st1 = .ok s1) (hr2 : runLoop t2 c k st2 = .ok s2) :
    opRequest c k (opWork c k s1) = opRequest c k (opWork c k s2) ∧
      (∀ i < (requestDataLength (opRequest c k (opWork c k s1)) c.params.blockLength).toNat,
        i % g.blockLength < 8 * (g.blockLength / 8) →
        opBuffer c (opKind c k) (opWork c k s1) s1.dataBuffer i =
          opBuffer c (opKind c k) (opWork c k s2) s2.dataBuffer i) ∧
      (opKind c k = spdIoctlTransactWriteKind → ∀ i, ¬i % g.blockLength < 8 * (g.blockLength / 8) →
        opBuffer c (opKind c k) (opWork c k s1) s1.dataBuffer i = s1.dataBuffer i) := by
  obtain ⟨hw', hj'⟩ := runLoop_agree hw (h1.trans h2.symm) hr1 hr2
  have hwork : opWork c k s1 = opWork c k s2 := opWork_congr hw' hj'
  have hb := runLoop_bounded hc hwrap h1 hr1
  have hpay := hb.payload_le
  rw [← hc] at hpay
  refine ⟨by rw [hwork], fun i hi hs => ?_, fun hk i hs => ?_⟩
  · rw [← hwork]
    exact opBuffer_payload_congr hc hb _ _ hi hs
  · have hns : ¬Stamped c.params.blockLength.toNat (opWork c k s1).opBlockCount.toNat i := by
      rw [hc]
      exact fun h => hs h.2
    rw [hk, opBuffer_write_apply hpay, if_neg hns]

/-- Two runs of a Write of four 16-byte blocks, from buffers of zeros and of
{lit}`0xFF`, send the same first request and payload. -/
theorem runLoop_sends_agree_ones :
    let c := runConfig 0 ⟨100, 16, 64⟩ (['W'].map wch) 0 4
    let g : Geometry := ⟨⟨100, 16, 64⟩, of_decide_eq_true rfl⟩
    let st1 : LoopState (List TransactReq) := ⟨[], fun _ => 0, ⟨0, 4, 1, 0, 0⟩, 0⟩
    let st2 : LoopState (List TransactReq) := ⟨[], fun _ => 0xFF, ⟨0, 4, 1, 0, 0⟩, 0⟩
    c.params = g.params ∧ g.blockCount + g.maxBlockCount ≤ 2 ^ 64 ∧ st1.work = st2.work ∧
      st1.j = 0 ∧ st2.j = 0 ∧ runLoop recordingTransact c 0 st1 = .ok st1 ∧
      runLoop recordingTransact c 0 st2 = .ok st2 ∧
      (opRequest c 0 (opWork c 0 st1) = opRequest c 0 (opWork c 0 st2) ∧
        (∀ i < (requestDataLength (opRequest c 0 (opWork c 0 st1)) c.params.blockLength).toNat,
          i % g.blockLength < 8 * (g.blockLength / 8) →
          opBuffer c (opKind c 0) (opWork c 0 st1) st1.dataBuffer i =
            opBuffer c (opKind c 0) (opWork c 0 st2) st2.dataBuffer i) ∧
        (opKind c 0 = spdIoctlTransactWriteKind → ∀ i,
          ¬i % g.blockLength < 8 * (g.blockLength / 8) →
          opBuffer c (opKind c 0) (opWork c 0 st1) st1.dataBuffer i = st1.dataBuffer i)) := by
  intro c g st1 st2
  exact ⟨rfl, by decide, rfl, rfl, rfl, rfl, rfl,
    @runLoop_sends_agree _ _ recordingTransact recordingTransact c g rfl (by decide) st1 st1 st2 st2
      rfl rfl rfl 0 rfl rfl⟩

end Agree

/-! ## Over a raw volume -/

section Raw

variable {σ : Type} {msgSize : Nat} {t : Transports σ} {handle : BitVec 64}
  {p : StorageUnitParams} {c : RunConfig} {st0 : LoopState σ}

/-- Over a raw volume an iteration with defined behaviour whose kind is neither
Read nor Write fails with {lit}`ERROR_INVALID_PARAMETER`. -/
theorem runStep_raw_of_not_readWrite (hraw : isPipeHandle handle = false) {I : Nat}
    {st : LoopState σ} (hdef : opUndefined c I st = false)
    (hr : opKind c I ≠ spdIoctlTransactReadKind)
    (hw : opKind c I ≠ spdIoctlTransactWriteKind) :
    runStep (fun s req rsp b => stgTransact msgSize t s handle req rsp b p) c I st =
      .error errorInvalidParameter := by
  refine runStep_of_error hdef ?_ errorInvalidParameter_ne
  rw [stgTransact_of_not_isPipeHandle msgSize hraw,
    stgTransactRaw_of_not_readWrite (by rwa [opRequest_kind]) (by rwa [opRequest_kind])]

/-- A raw volume sees only Reads and Writes.  A run over a raw volume with a valid
geometry gets past operation {lit}`i` only if its kind is Read or Write, and from
an iteration it reaches whose kind is neither it stops with
{lit}`ERROR_INVALID_PARAMETER`. -/
theorem runLoop_raw_readWrite {g : Geometry} (hraw : isPipeHandle handle = false)
    (hc : c.params = g.params) (h0 : st0.j = 0) {k : Nat} {st : LoopState σ}
    (h : runLoop (fun s req rsp b => stgTransact msgSize t s handle req rsp b g.params) c k st0 =
      .ok st) :
    (∀ i < k, opKind c i = spdIoctlTransactReadKind ∨ opKind c i = spdIoctlTransactWriteKind) ∧
      (opKind c k ≠ spdIoctlTransactReadKind → opKind c k ≠ spdIoctlTransactWriteKind →
        runLoop (fun s req rsp b => stgTransact msgSize t s handle req rsp b g.params) c (k + 1)
          st0 = .error errorInvalidParameter) := by
  refine ⟨fun i hi => ?_, fun hr hw => ?_⟩
  · induction k generalizing st with
    | zero => exact absurd hi (Nat.not_lt_zero i)
    | succ k ih =>
      obtain ⟨st', hreach, hstep⟩ := runLoop_succ_ok h
      rcases Nat.lt_succ_iff_lt_or_eq.mp hi with hi | rfl
      · exact ih hreach hi
      · by_contra hk
        rw [not_or] at hk
        rw [runStep_raw_of_not_readWrite hraw (runLoop_opUndefined_eq_false hc h0 hreach) hk.1
          hk.2] at hstep
        cases hstep
  · rw [runLoop, h]
    exact runStep_raw_of_not_readWrite hraw (runLoop_opUndefined_eq_false hc h0 h) hr hw

/-- A run of Flushes over an ideal unit as a raw volume stops at its first
operation. -/
theorem runLoop_raw_readWrite_flush :
    let t : Transports IdealUnit :=
      ⟨fun _ => idealPipe 0 0, fun _ => idealVolume, fun _ => ⟨true, errorSuccess⟩⟩
    let g : Geometry := ⟨⟨100, 16, 64⟩, by decide⟩
    let c := runConfig 0 g.params (['F'].map wch) 0 4
    let st0 : LoopState IdealUnit := ⟨⟨fun _ => 0, none⟩, fun _ => 0, ⟨0, 4, 1, 0, 0⟩, 0⟩
    isPipeHandle 0 = false ∧ c.params = g.params ∧ st0.j = 0 ∧
      runLoop (fun s req rsp b => stgTransact 0 t s 0 req rsp b g.params) c 0 st0 = .ok st0 ∧
      ((∀ i < 0, opKind c i = spdIoctlTransactReadKind ∨ opKind c i = spdIoctlTransactWriteKind) ∧
        (opKind c 0 ≠ spdIoctlTransactReadKind → opKind c 0 ≠ spdIoctlTransactWriteKind →
          runLoop (fun s req rsp b => stgTransact 0 t s 0 req rsp b g.params) c (0 + 1) st0 =
            .error errorInvalidParameter)) := by
  intro t g c st0
  exact ⟨rfl, rfl, rfl, rfl, @runLoop_raw_readWrite _ 0 t 0 c st0 g rfl rfl rfl 0 st0 rfl⟩

end Raw

end StgPipe
end WinSpd
