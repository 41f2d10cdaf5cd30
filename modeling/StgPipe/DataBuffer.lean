import StgPipe.IdealStore

/-!
# The data buffer stays within its allocation

run allocates its data buffer with {lit}`MemAlloc (MaxTransferLength)` and
hands it to every transaction.  Three things write it: {lit}`FillOrTest` stamps
a Write's blocks, an Unmap stores its descriptor at the start, and a transaction
copies a Read's bytes over it.  Each stays below {lit}`MaxTransferLength`.
Every batch covers at most {lit}`MaxBlockCount` blocks, on every geometry and
whether or not the 64-bit sum in the clamp wraps; the descriptor is 16 bytes,
and a block is at least that long; {lit}`StgTransactPipe` copies a reply only
after checking that the read fits, whatever the server sends; and over a raw
volume the system's read transfers at most the bytes it was asked for.

Main results:

- Theorem {lit}`runLoop_dataBuffer_within`: at every iteration a run reaches,
  the buffer it passes to {lit}`StgTransact` and the buffer the call leaves,
  whether it fails or not, agree with the allocated buffer at every byte from
  {lit}`MaxTransferLength` on.
-/

namespace WinSpd
namespace StgPipe

/-! ## One operation -/

section Operation

variable {c : RunConfig} {g : Geometry}

/-- A request asks for at most its batch's blocks: a Read, a Write or a Flush for
exactly them, an Unmap for none. -/
theorem opRequest_blockCount_le (I : Nat) (w : Workload) :
    (opRequest c I w).blockCount.toNat ≤ w.opBlockCount.toNat := by
  simp only [opRequest, apply_ite TransactReq.blockCount]
  split_ifs <;> first | exact Nat.le_refl _ | exact Nat.zero_le _

/-- The read length of a request of at most {lit}`MaxBlockCount` blocks is at most
{lit}`MaxTransferLength`. -/
theorem opRequest_readLength_le (hc : c.params = g.params) {I : Nat} {w : Workload}
    (hw : w.opBlockCount.toNat ≤ g.maxBlockCount) :
    ((opRequest c I w).blockCount * c.params.blockLength).toNat ≤
      c.params.maxTransferLength.toNat := by
  rw [BitVec.toNat_mul, hc]
  calc _ ≤ (opRequest c I w).blockCount.toNat * g.blockLength := Nat.mod_le _ _
    _ ≤ w.opBlockCount.toNat * g.blockLength :=
      Nat.mul_le_mul_right _ (opRequest_blockCount_le I w)
    _ ≤ g.maxTransferLength := g.mul_blockLength_le hw

/-- The stores before a transaction stay below {lit}`MaxTransferLength`: a Write's
stamp covers at most {lit}`MaxBlockCount` blocks, and an Unmap's descriptor is
no longer than a block. -/
theorem opBuffer_of_le (hc : c.params = g.params) {kind : BitVec 8} {w : Workload}
    (hw : w.opBlockCount.toNat ≤ g.maxBlockCount) (b : Buffer) {i : Nat}
    (hi : g.maxTransferLength ≤ i) : opBuffer c kind w b i = b i := by
  have hle : w.opBlockCount.toNat * c.params.blockLength.toNat ≤
      c.params.maxTransferLength.toNat := hc ▸ g.mul_blockLength_le hw
  have h16 : unmapDescriptorSize ≤ c.params.maxTransferLength.toNat :=
    hc ▸ Nat.le_trans g.blockLength_ge (by simpa using g.mul_blockLength_le g.maxBlockCount_pos)
  have hi' : c.params.maxTransferLength.toNat ≤ i := hc ▸ hi
  have hlt := c.params.maxTransferLength.isLt
  unfold opBuffer unmapDescriptorSize at *
  split_ifs
  · rw [fillOrTest_stamp (by omega)]
    exact if_neg fun hs => by have := hs.lt_mul; omega
  · rw [storeU32, storeLE_apply_of_lt (by omega), storeU32, storeLE_apply_of_lt (by omega),
      storeU64, storeLE_apply_of_lt (by omega)]
  · rfl

end Operation

/-! ## A whole run -/

section Run

variable {σ : Type} {msgSize : Nat} {t : Transports σ} {handle : BitVec 64} {c : RunConfig}
  {g : Geometry} {st0 : LoopState σ}

/-- No run writes past its data buffer.  On every geometry, over a pipe whatever
the server sends and over raw volumes whose reads transfer at most what they ask
for, at every iteration {lit}`k` a run reaches, the data buffer, the buffer
passed to {lit}`StgTransact` and the buffer the call leaves, whether it fails or
not, agree with the allocated buffer at every byte from {lit}`MaxTransferLength`
on. -/
theorem runLoop_dataBuffer_within (hc : c.params = g.params)
    (hraw : ∀ h, (t.raw h).ReadsWithin) (h0 : st0.j = 0) {k : Nat} {st : LoopState σ}
    (h : runLoop (fun s req rsp b => stgTransact msgSize t s handle req rsp b c.params) c k st0 =
      .ok st) {i : Nat} (hi : g.maxTransferLength ≤ i) :
    st.dataBuffer i = st0.dataBuffer i ∧
      opBuffer c (opKind c k) (opWork c k st) st.dataBuffer i = st0.dataBuffer i ∧
      (stgTransact msgSize t st.world handle (opRequest c k (opWork c k st)) TransactRsp.zero
        (opBuffer c (opKind c k) (opWork c k st) st.dataBuffer) c.params).2.2.2 i =
        st0.dataBuffer i := by
  have hi' : c.params.maxTransferLength.toNat ≤ i := hc ▸ hi
  have hcall : ∀ {k : Nat} {st : LoopState σ}, runLoop (fun s req rsp b =>
      stgTransact msgSize t s handle req rsp b c.params) c k st0 = .ok st →
      (stgTransact msgSize t st.world handle (opRequest c k (opWork c k st)) TransactRsp.zero
        (opBuffer c (opRequest c k (opWork c k st)).kind (opWork c k st) st.dataBuffer)
        c.params).2.2.2 i = st.dataBuffer i := fun h => by
    have hw := runLoop_opBlockCount_le hc h0 h
    rw [stgTransact_dataBuffer_of_le msgSize hraw (opRequest_readLength_le hc hw) hi']
    exact opBuffer_of_le hc hw _ hi
  have hbuf : st.dataBuffer i = st0.dataBuffer i := by
    induction k generalizing st with
    | zero =>
      cases h
      rfl
    | succ k ih =>
      obtain ⟨st', hreach, hstep⟩ := runLoop_succ_ok h
      obtain ⟨-, -, rfl⟩ := runStep_ok hstep
      exact (hcall hreach).trans (ih hreach)
  have hw := runLoop_opBlockCount_le hc h0 h
  have hcall' := hcall h
  rw [opRequest_kind] at hcall'
  exact ⟨hbuf, (opBuffer_of_le hc hw _ hi).trans hbuf, hcall'.trans hbuf⟩

/-- A Write of four 16-byte blocks over an ideal unit as a raw volume leaves the
data buffer alone from byte 64 on. -/
theorem runLoop_dataBuffer_within_write16 :
    let t : Transports IdealUnit :=
      ⟨fun _ => idealPipe 0 0, fun _ => idealVolume, fun _ => ⟨true, errorSuccess⟩⟩
    let c := runConfig 0 ⟨100, 16, 64⟩ (['W'].map wch) 0 4
    let g : Geometry := ⟨⟨100, 16, 64⟩, of_decide_eq_true rfl⟩
    let st0 : LoopState IdealUnit := ⟨⟨fun _ => 0, none⟩, fun _ => 0, ⟨0, 4, 1, 0, 0⟩, 0⟩
    c.params = g.params ∧ (∀ h, (t.raw h).ReadsWithin) ∧ st0.j = 0 ∧
      runLoop (fun s req rsp b => stgTransact 0 t s 0 req rsp b c.params) c 0 st0 = .ok st0 ∧
      g.maxTransferLength ≤ 64 ∧
      (st0.dataBuffer 64 = st0.dataBuffer 64 ∧
        opBuffer c (opKind c 0) (opWork c 0 st0) st0.dataBuffer 64 = st0.dataBuffer 64 ∧
        (stgTransact 0 t st0.world 0 (opRequest c 0 (opWork c 0 st0)) TransactRsp.zero
          (opBuffer c (opKind c 0) (opWork c 0 st0) st0.dataBuffer) c.params).2.2.2 64 =
          st0.dataBuffer 64) := by
  intro t c g st0
  have hraw : ∀ h, (t.raw h).ReadsWithin := fun _ _ _ _ => Nat.le_refl _
  exact ⟨rfl, hraw, rfl, rfl, Nat.le_refl _,
    @runLoop_dataBuffer_within _ 0 t 0 c g st0 rfl hraw rfl 0 st0 rfl 64 (Nat.le_refl _)⟩

end Run

end StgPipe
end WinSpd
