import StgPipe.Run

/-!
# The sequential workload

When neither the start address nor the start count is {lit}`'*'`, the batches of
run follow a closed form.  Operation {lit}`I` belongs to batch
{lit}`I / OpKindCount`.  Every batch has the count {lit}`C'`, the start count
limited to {lit}`MaxBlockCount` and at least one, and batch {lit}`q` starts
{lit}`q` counts after the start address, modulo the unit's block count; its
operations are cut at the unit's last block.  Definition {lit}`sequentialOp`
states this form.

run reaches it by steps: each batch adds the previous count to the previous
address in 64 bits and reduces the sum modulo the block count, and the clamp
compares the 64-bit sum {lit}`BlockAddress + BlockCount`.  Neither sum wraps
when {lit}`BlockCount + MaxBlockCount ≤ 2 ^ 64`.

Main results:

- Theorem {lit}`runLoop_sequential`: on every unit with
  {lit}`BlockCount + MaxBlockCount ≤ 2 ^ 64`, every operation a run reaches has
  the kind {lit}`OpKinds [I % OpKindCount]` and the address and count of
  {lit}`sequentialOp`.
- Theorem {lit}`runLoop_sequential_covers`: the batches of the first pass are
  disjoint and cover the unit from the start address to its last block.
- Theorem {lit}`runLoop_sequential_wraps`: on a unit of {lit}`2 ^ 64 - 1` blocks,
  the first two operations of a run differ from {lit}`sequentialOp`.
-/

namespace WinSpd
namespace StgPipe

/-! ## The closed form -/

/-- The count of every batch of the sequential workload: the start count limited
to {lit}`MaxBlockCount`, and one if it is zero. -/
def sequentialCount (maxBlockCount blockCount : Nat) : Nat :=
  max 1 (min blockCount maxBlockCount)

/-- The address and operation count of operation {lit}`I` of the sequential
workload on a unit of {lit}`N` blocks with {lit}`M` blocks per transfer, {lit}`K`
kinds, start address {lit}`A` and start count {lit}`C`: batch {lit}`I / K` starts
{lit}`I / K` batch counts after {lit}`A`, modulo {lit}`N`, and is cut at the
unit's end. -/
def sequentialOp (N M K A C I : Nat) : Nat × Nat :=
  let a := (A + I / K * sequentialCount M C) % N
  (a, min (sequentialCount M C) (N - a))

theorem sequentialCount_le {M : Nat} (hM : 0 < M) (C : Nat) : sequentialCount M C ≤ M := by
  unfold sequentialCount
  omega

theorem sequentialCount_sequentialCount {M : Nat} (hM : 0 < M) (C : Nat) :
    sequentialCount M (sequentialCount M C) = sequentialCount M C := by
  unfold sequentialCount
  omega

theorem sequentialCount_pos (M C : Nat) : 0 < sequentialCount M C := by
  unfold sequentialCount
  omega

/-- Batch {lit}`q` of count {lit}`C'` from {lit}`A`, cut at block {lit}`N`, holds
block {lit}`b < N` exactly when {lit}`b` is at or past {lit}`A` and
{lit}`(b - A) / C' = q`. -/
theorem block_mem_batch_iff {N A C' q b : Nat} (hC' : 0 < C') (hb : b < N) :
    (A + q * C' ≤ b ∧ b < A + q * C' + min C' (N - (A + q * C'))) ↔
      A ≤ b ∧ (b - A) / C' = q := by
  constructor
  · rintro ⟨hlo, hhi⟩
    refine ⟨by omega, Nat.div_eq_of_lt_le (by omega) ?_⟩
    rw [Nat.succ_mul]
    omega
  · rintro ⟨hA, rfl⟩
    have hlo := Nat.div_mul_le_self (b - A) C'
    have hhi := Nat.lt_div_mul_add (a := b - A) hC'
    omega

/-! ## The run -/

section Sequential

variable {σ : Type}
  {transact : σ → TransactReq → TransactRsp → Buffer → σ × Nat × TransactRsp × Buffer}
  {c : RunConfig} {g : Geometry} {st0 : LoopState σ}

/-- An iteration keeps the batch's count. -/
theorem runStep_blockCount {I : Nat} {st st' : LoopState σ}
    (h : runStep transact c I st = .ok st') :
    st'.work.blockCount = (opWork c I st).blockCount := by
  obtain ⟨-, -, rfl⟩ := runStep_ok h
  rfl

/-- The next batch of the sequential workload starts one count after the last:
without a wrap of the 64-bit sum, {lit}`((A + q C') % N + C') % N` is
{lit}`(A + (q + 1) C') % N`. -/
theorem next_sequential_address {N M A q C' : Nat} (hN : 0 < N) (hC' : C' ≤ M)
    (hwrap : N + M ≤ 2 ^ 64) :
    ((A + q * C') % N + C') % 2 ^ 64 % N = (A + (q + 1) * C') % N := by
  have hlt : (A + q * C') % N + C' < 2 ^ 64 := by
    have := Nat.mod_lt (A + q * C') hN
    omega
  rw [Nat.mod_eq_of_lt hlt, Nat.mod_add_mod, Nat.succ_mul, Nat.add_assoc]

/-- The sequential invariant: at the top of every iteration {lit}`k` a run reaches,
the batch is batch {lit}`k / OpKindCount` of the closed form. -/
theorem runLoop_sequential_work (hc : c.params = g.params) (hra : c.randomAddress = false)
    (hrc : c.randomCount = false) (hK : c.opKinds ≠ [])
    (hwrap : g.blockCount + g.maxBlockCount ≤ 2 ^ 64) (h0 : st0.j = 0) {k : Nat}
    {st : LoopState σ} (h : runLoop transact c k st0 = .ok st) :
    (opWork c k st).blockAddress.toNat =
        (st0.work.blockAddress.toNat + k / c.opKinds.length *
          sequentialCount g.maxBlockCount st0.work.blockCount.toNat) % g.blockCount ∧
      (opWork c k st).blockCount.toNat =
        sequentialCount g.maxBlockCount st0.work.blockCount.toNat ∧
      (opWork c k st).opBlockCount.toNat =
        min (opWork c k st).blockCount.toNat
          (g.blockCount - (opWork c k st).blockAddress.toNat) := by
  have hM := g.maxBlockCount_pos
  induction k generalizing st with
  | zero =>
    cases h
    simp only [opWork, h0, if_true]
    refine ⟨?_, nextBatch_blockCount hc hrc 0 _, nextBatch_opBlockCount hc hwrap 0 _⟩
    rw [nextBatch_blockAddress hc hra]
    simp
  | succ k ih =>
    obtain ⟨st', hreach, hstep⟩ := runLoop_succ_ok h
    obtain ⟨hA, hC, -, -⟩ := runStep_work hstep
    have hB := runStep_blockCount hstep
    obtain ⟨ihA, ihB, ihC⟩ := ih hreach
    obtain ⟨hj, -⟩ := runLoop_cursor hK h0 h
    by_cases hz : (k + 1) % c.opKinds.length = 0
    · have hw : opWork c (k + 1) st = nextBatch c.toWorkloadConfig (k + 1) st.work := by
        simp only [opWork, hj, hz, if_true]
      have hq : (k + 1) / c.opKinds.length = k / c.opKinds.length + 1 :=
        Nat.succ_div_of_dvd (Nat.dvd_of_mod_eq_zero hz)
      rw [hw]
      refine ⟨?_, ?_, nextBatch_opBlockCount hc hwrap _ _⟩
      · rw [nextBatch_blockAddress hc hra, if_pos (Nat.succ_ne_zero k), hA, hB, ihA, ihB, hq]
        exact next_sequential_address g.blockCount_pos (sequentialCount_le hM _) hwrap
      · rw [nextBatch_blockCount hc hrc, hB, ihB]
        exact sequentialCount_sequentialCount hM _
    · have hw : opWork c (k + 1) st = st.work := by
        simp only [opWork, hj, hz, if_false]
      have hq : (k + 1) / c.opKinds.length = k / c.opKinds.length :=
        Nat.succ_div_of_not_dvd fun hd => hz (Nat.mod_eq_zero_of_dvd hd)
      rw [hw, hq, hA, hB, hC]
      exact ⟨ihA, ihB, ihC⟩

/-- The sequential closed form.  When neither the start address nor the start
count is {lit}`'*'`, on every unit whose block count leaves room for one more
transfer below {lit}`2 ^ 64`, operation {lit}`I` of a run has the kind
{lit}`OpKinds [I % OpKindCount]`, and its batch has the address and operation
count of {lit}`sequentialOp`. -/
theorem runLoop_sequential {threadId : BitVec 32} {opSet : List (BitVec 16)} {A : BitVec 64}
    {C seed : BitVec 32} {world : σ} {dataBuffer : Buffer}
    (hA : A ≠ BitVec.allOnes 64) (hC : C ≠ BitVec.allOnes 32)
    (hwrap : g.blockCount + g.maxBlockCount ≤ 2 ^ 64) {I : Nat} {w : Workload}
    (h : workAt transact (runConfig threadId g.params opSet A C)
      ⟨world, dataBuffer, ⟨A, C, seed, 0, 0⟩, 0⟩ I = some w) :
    (opRequest (runConfig threadId g.params opSet A C) I w).kind =
        (parseOpSet opSet).getD (I % (parseOpSet opSet).length) 0 ∧
      (w.blockAddress.toNat, w.opBlockCount.toNat) =
        sequentialOp g.blockCount g.maxBlockCount (parseOpSet opSet).length A.toNat C.toNat I := by
  obtain ⟨st, hrun, rfl⟩ := workAt_eq_some.mp h
  obtain ⟨hwA, hwB, hwC⟩ := runLoop_sequential_work rfl (decide_eq_false hA)
    (decide_eq_false hC) (parseOpSet_ne_nil opSet) hwrap rfl hrun
  dsimp only at hwA hwB
  refine ⟨opRequest_kind _ _, ?_⟩
  rw [sequentialOp, hwC, hwB, hwA]
  rfl

/-- A run of kinds {lit}`WR` from address 0 with count 2 on a unit of 100 blocks
of 16 bytes: its fourth operation, a Read, covers blocks 2 and 3. -/
theorem runLoop_sequential_writeRead :
    (0 : BitVec 64) ≠ BitVec.allOnes 64 ∧ (2 : BitVec 32) ≠ BitVec.allOnes 32 ∧
      (⟨⟨100, 16, 64⟩, by decide⟩ : Geometry).blockCount +
        (⟨⟨100, 16, 64⟩, by decide⟩ : Geometry).maxBlockCount ≤ 2 ^ 64 ∧
      workAt recordingTransact (runConfig 0 ⟨100, 16, 64⟩ (['W', 'R'].map wch) 0 2)
        ⟨[], fun _ => 0, ⟨0, 2, 1, 0, 0⟩, 0⟩ 3 = some ⟨2, 2, 1, 2, spdIoctlTransactWriteKind⟩ ∧
      (opRequest (runConfig 0 ⟨100, 16, 64⟩ (['W', 'R'].map wch) 0 2) 3
          ⟨2, 2, 1, 2, spdIoctlTransactWriteKind⟩).kind =
        (parseOpSet (['W', 'R'].map wch)).getD (3 % (parseOpSet (['W', 'R'].map wch)).length) 0 ∧
      ((2 : BitVec 64).toNat, (2 : BitVec 32).toNat) =
        sequentialOp 100 4 (parseOpSet (['W', 'R'].map wch)).length 0 2 3 := by
  have hrun : workAt recordingTransact (runConfig 0 ⟨100, 16, 64⟩ (['W', 'R'].map wch) 0 2)
      ⟨[], fun _ => 0, ⟨0, 2, 1, 0, 0⟩, 0⟩ 3 = some ⟨2, 2, 1, 2, spdIoctlTransactWriteKind⟩ := by
    decide
  exact ⟨by decide, by decide, by decide, hrun,
    runLoop_sequential (g := ⟨⟨100, 16, 64⟩, of_decide_eq_true rfl⟩) (A := 0) (C := 2) (I := 3)
      (w := ⟨2, 2, 1, 2, spdIoctlTransactWriteKind⟩) (by decide) (by decide) (by decide) hrun⟩

/-- The first pass of the sequential workload covers the unit from the start
address on, each block by one batch.  While batch {lit}`k / OpKindCount` starts
before the unit's end, operation {lit}`k` covers block {lit}`b` exactly when
{lit}`b` is at or past the start address {lit}`A` and
{lit}`(b - A) / C' = k / OpKindCount`: the batches of the first pass are
disjoint, and together they cover the blocks from {lit}`A` to the last. -/
theorem runLoop_sequential_covers (hc : c.params = g.params) (hra : c.randomAddress = false)
    (hrc : c.randomCount = false) (hK : c.opKinds ≠ [])
    (hwrap : g.blockCount + g.maxBlockCount ≤ 2 ^ 64) (h0 : st0.j = 0) {k : Nat}
    {st : LoopState σ} (h : runLoop transact c k st0 = .ok st)
    (hpass : st0.work.blockAddress.toNat + k / c.opKinds.length *
      sequentialCount g.maxBlockCount st0.work.blockCount.toNat < g.blockCount)
    {b : Nat} (hb : b < g.blockCount) :
    ((opWork c k st).blockAddress.toNat ≤ b ∧
        b < (opWork c k st).blockAddress.toNat + (opWork c k st).opBlockCount.toNat) ↔
      st0.work.blockAddress.toNat ≤ b ∧
        (b - st0.work.blockAddress.toNat) /
          sequentialCount g.maxBlockCount st0.work.blockCount.toNat = k / c.opKinds.length := by
  obtain ⟨hA, hB, hC⟩ := runLoop_sequential_work hc hra hrc hK hwrap h0 h
  rw [hC, hB, hA, Nat.mod_eq_of_lt hpass]
  exact block_mem_batch_iff (sequentialCount_pos _ _) hb

/-- A run of kinds {lit}`WR` from address 0 with count 2 on a unit of 100 blocks:
its first operation covers block 1. -/
theorem runLoop_sequential_covers_writeRead :
    let c := runConfig 0 ⟨100, 16, 64⟩ (['W', 'R'].map wch) 0 2
    let g : Geometry := ⟨⟨100, 16, 64⟩, of_decide_eq_true rfl⟩
    let st0 : LoopState (List TransactReq) := ⟨[], fun _ => 0, ⟨0, 2, 1, 0, 0⟩, 0⟩
    c.params = g.params ∧ c.randomAddress = false ∧ c.randomCount = false ∧ c.opKinds ≠ [] ∧
      g.blockCount + g.maxBlockCount ≤ 2 ^ 64 ∧ st0.j = 0 ∧
      runLoop recordingTransact c 0 st0 = .ok st0 ∧
      st0.work.blockAddress.toNat + 0 / c.opKinds.length *
        sequentialCount g.maxBlockCount st0.work.blockCount.toNat < g.blockCount ∧
      1 < g.blockCount ∧
      (((opWork c 0 st0).blockAddress.toNat ≤ 1 ∧
          1 < (opWork c 0 st0).blockAddress.toNat + (opWork c 0 st0).opBlockCount.toNat) ↔
        st0.work.blockAddress.toNat ≤ 1 ∧
          (1 - st0.work.blockAddress.toNat) /
            sequentialCount g.maxBlockCount st0.work.blockCount.toNat = 0 / c.opKinds.length) := by
  intro c g st0
  exact ⟨rfl, rfl, rfl, by decide, by decide, rfl, rfl, by decide, by decide,
    @runLoop_sequential_covers _ recordingTransact c g st0 rfl rfl rfl (by decide) (by decide) rfl
      0 st0 rfl (by decide) 1 (by decide)⟩

end Sequential

/-! ## Past the end of the address space -/

/-- On a unit of {lit}`2 ^ 64 - 1` blocks of 16 bytes with four blocks per
transfer, a run of Writes from the fixed address {lit}`2 ^ 64 - 3` with count 4
leaves the closed form at once.  Its first Write covers 4 blocks where
{lit}`sequentialOp` has 2, because the clamp's 64-bit sum wraps to 1; its second
starts at block 1 where {lit}`sequentialOp` has block 2, because the 64-bit sum
{lit}`BlockAddress + BlockCount` wraps before the reduction modulo the block
count. -/
theorem runLoop_sequential_wraps :
    let c : RunConfig :=
      runConfig 0 ⟨0xFFFFFFFFFFFFFFFF, 16, 64⟩ (['W'].map wch) 0xFFFFFFFFFFFFFFFD 4
    let st0 : LoopState (List TransactReq) :=
      ⟨[], fun _ => 0, ⟨0xFFFFFFFFFFFFFFFD, 4, 1, 0, 0⟩, 0⟩
    c.params.Valid ∧
      (runLoop recordingTransact c 2 st0).toOption.map
          (fun st => st.world.map fun req => (req.blockAddress.toNat, req.blockCount.toNat)) =
        some [(2 ^ 64 - 3, 4), (1, 4)] ∧
      [0, 1].map (sequentialOp (2 ^ 64 - 1) 4 1 (2 ^ 64 - 3) 4) = [(2 ^ 64 - 3, 2), (2, 4)] := by
  decide

end StgPipe
end WinSpd
