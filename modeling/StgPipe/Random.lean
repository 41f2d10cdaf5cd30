import StgPipe.Run

/-!
# The random workload

With {lit}`'*'` for the address or the count, run draws them with
{lit}`GenRandomBytes`, the C runtime's generator, from the seed it was given.
{lit}`GenRandomBytes` replaces a zero seed by one before its first step, and
nothing else in run reads the seed, so the run from seed 0 is the run from seed
1.  The loop's workload keeps the seed it was given until the first draw, so the
two runs' states differ only in seeds that {lit}`GenRandomBytes` would treat
alike; {lit}`startSeeded` replaces every seed by the one it starts from.

A random count is reduced modulo {lit}`MaxBlockCount`, and a zero result
becomes one, so a random batch is never {lit}`MaxBlockCount` blocks long unless
that is one; the clamp at the unit's end never lengthens a batch.

Main results:

- Theorem {lit}`runLoop_seed_zero`: from seed 0 and from seed 1, run's loop
  makes the same transactions, ends with the same error or completes, and ends
  in the same state up to the seed {lit}`GenRandomBytes` starts from.
- Theorem {lit}`runLoop_random_count`: with random counts, every operation of a
  run covers at least one block and at most {lit}`max 1 (MaxBlockCount - 1)`.
-/

namespace WinSpd
namespace StgPipe

/-! ## The seed a draw starts from -/

/-- The seed {lit}`GenRandomBytes` starts from: {lit}`0 != *PSeed ? *PSeed : 1`. -/
def startSeed (seed : BitVec 32) : BitVec 32 := if seed ≠ 0 then seed else 1

/-- A workload with its seed replaced by the seed a draw would start from. -/
def Workload.startSeeded (w : Workload) : Workload := { w with seed := startSeed w.seed }

/-- A loop state with its workload's seed replaced by the seed a draw would
start from. -/
def LoopState.startSeeded {σ : Type} (st : LoopState σ) : LoopState σ :=
  { st with work := st.work.startSeeded }

theorem genRandomBytes_eq (seed : BitVec 32) (size : Nat) :
    genRandomBytes seed size = randomBytesFrom (startSeed seed) size :=
  rfl

/-- Two seeds that start alike draw the same bytes and leave the same seed. -/
theorem genRandomBytes_congr {s s' : BitVec 32} (h : startSeed s = startSeed s') (size : Nat) :
    genRandomBytes s size = genRandomBytes s' size := by
  rw [genRandomBytes_eq, genRandomBytes_eq, h]

theorem Workload.startSeeded_eq_iff {w w' : Workload} :
    w.startSeeded = w'.startSeeded ↔
      w' = { w with seed := w'.seed } ∧ startSeed w.seed = startSeed w'.seed := by
  obtain ⟨a, n, s, o, t⟩ := w
  obtain ⟨a', n', s', o', t'⟩ := w'
  simp only [Workload.startSeeded, Workload.mk.injEq, true_and]
  constructor
  · rintro ⟨rfl, rfl, hs, rfl, rfl⟩
    exact ⟨⟨rfl, rfl, rfl, rfl⟩, hs⟩
  · rintro ⟨⟨rfl, rfl, rfl, rfl⟩, hs⟩
    exact ⟨rfl, rfl, hs, rfl, rfl⟩

/-! ## A batch reads its seed only to draw -/

section Batch

variable {c : WorkloadConfig}

theorem nextAddress_startSeeded {w w' : Workload} (h : w.startSeeded = w'.startSeeded)
    (I : Nat) :
    (nextAddress c I w).1 = (nextAddress c I w').1 ∧
      startSeed (nextAddress c I w).2 = startSeed (nextAddress c I w').2 := by
  have ha : w.blockAddress = w'.blockAddress := (congrArg Workload.blockAddress h :)
  have hn : w.blockCount = w'.blockCount := (congrArg Workload.blockCount h :)
  have hs : startSeed w.seed = startSeed w'.seed := (congrArg Workload.seed h :)
  unfold nextAddress
  split
  · rw [genRandomBytes_congr hs]
    exact ⟨rfl, rfl⟩
  · split <;> simp only [ha, hn, hs, and_self]

theorem nextCount_startSeeded {s s' : BitVec 32} (h : startSeed s = startSeed s')
    (blockCount : BitVec 32) :
    (nextCount c s blockCount).1 = (nextCount c s' blockCount).1 ∧
      startSeed (nextCount c s blockCount).2 = startSeed (nextCount c s' blockCount).2 := by
  unfold nextCount
  split
  · rw [genRandomBytes_congr h]
    exact ⟨rfl, rfl⟩
  · split <;> exact ⟨rfl, h⟩

theorem batchOf_startSeeded (A : BitVec 64) (C seed : BitVec 32) :
    (batchOf c A C seed).startSeeded = batchOf c A C (startSeed seed) :=
  rfl

/-- Workloads whose seeds start alike start batches that agree up to such seeds. -/
theorem nextBatch_startSeeded {w w' : Workload} (h : w.startSeeded = w'.startSeeded) (I : Nat) :
    (nextBatch c I w).startSeeded = (nextBatch c I w').startSeeded := by
  obtain ⟨ha, has⟩ := nextAddress_startSeeded (c := c) h I
  have hn : w.blockCount = w'.blockCount := (congrArg Workload.blockCount h :)
  obtain ⟨hc, hcs⟩ := nextCount_startSeeded (c := c) has w.blockCount
  simp only [nextBatch, batchOf_startSeeded]
  rw [ha, hc, hcs, hn]

end Batch

/-! ## The loop reads its seed only to draw -/

section Loop

variable {σ : Type}
  {transact : σ → TransactReq → TransactRsp → Buffer → σ × Nat × TransactRsp × Buffer}
  {c : RunConfig}

theorem opRequest_seed (I : Nat) (w : Workload) (s : BitVec 32) :
    opRequest c I { w with seed := s } = opRequest c I w :=
  rfl

theorem opBuffer_seed (kind : BitVec 8) (w : Workload) (s : BitVec 32) (b : Buffer) :
    opBuffer c kind { w with seed := s } b = opBuffer c kind w b :=
  rfl

theorem checkResponse_seed (req : TransactReq) (rsp : TransactRsp) (w : Workload)
    (s : BitVec 32) (t : BitVec 8) (b : Buffer) :
    checkResponse c req rsp { w with seed := s, testOpKind := t } b =
      checkResponse c req rsp { w with testOpKind := t } b :=
  rfl

/-- An iteration whose workload differs only in its seed makes the same
transaction and checks, and keeps that seed. -/
theorem runStep_seed {I : Nat} {st st' : LoopState σ} (hworld : st'.world = st.world)
    (hbuf : st'.dataBuffer = st.dataBuffer) (hj : st'.j = st.j) (s : BitVec 32)
    (hw : opWork c I st' = { opWork c I st with seed := s }) :
    runStep transact c I st' =
      (runStep transact c I st).map fun x => { x with work := { x.work with seed := s } } := by
  simp only [runStep, opUndefined, hw, hworld, hbuf, hj, opRequest_seed, opBuffer_seed,
    checkResponse_seed]
  split_ifs <;> rfl

theorem opWork_startSeeded {st st' : LoopState σ} (h : st.startSeeded = st'.startSeeded)
    (I : Nat) : (opWork c I st).startSeeded = (opWork c I st').startSeeded := by
  have hj : st.j = st'.j := (congrArg LoopState.j h :)
  have hw : st.work.startSeeded = st'.work.startSeeded := (congrArg LoopState.work h :)
  unfold opWork
  rw [hj]
  split
  · exact nextBatch_startSeeded hw I
  · exact hw

/-- Two states whose seeds start alike take the same iteration, up to such seeds. -/
theorem runStep_startSeeded {st st' : LoopState σ} (h : st.startSeeded = st'.startSeeded)
    (I : Nat) :
    (runStep transact c I st).map LoopState.startSeeded =
      (runStep transact c I st').map LoopState.startSeeded := by
  obtain ⟨hw, hs⟩ := Workload.startSeeded_eq_iff.mp (opWork_startSeeded h I)
  have hworld : st'.world = st.world := (congrArg LoopState.world h :).symm
  have hbuf : st'.dataBuffer = st.dataBuffer := (congrArg LoopState.dataBuffer h :).symm
  have hj : st'.j = st.j := (congrArg LoopState.j h :).symm
  rw [runStep_seed hworld hbuf hj _ hw]
  cases hr : runStep transact c I st with
  | error e => rfl
  | ok x =>
    obtain ⟨-, -, rfl⟩ := runStep_ok hr
    simp only [Except.map, LoopState.startSeeded, Workload.startSeeded, hs]

/-- Two states whose seeds start alike take the same run, up to such seeds. -/
theorem runLoop_startSeeded {st st' : LoopState σ} (h : st.startSeeded = st'.startSeeded)
    (k : Nat) :
    (runLoop transact c k st).map LoopState.startSeeded =
      (runLoop transact c k st').map LoopState.startSeeded := by
  induction k with
  | zero => exact congrArg Except.ok h
  | succ k ih =>
    simp only [runLoop]
    cases h1 : runLoop transact c k st with
    | error e =>
      cases h2 : runLoop transact c k st' with
      | error e' => rw [h1, h2] at ih; exact ih
      | ok x' => rw [h1, h2] at ih; cases ih
    | ok x =>
      cases h2 : runLoop transact c k st' with
      | error e' => rw [h1, h2] at ih; cases ih
      | ok x' =>
        rw [h1, h2] at ih
        exact runStep_startSeeded (Except.ok.inj ih) k

/-- Seed 0 is seed 1.  From seed 0 and from seed 1, with everything else alike,
run's loop makes the same transactions, fails with the same error or completes,
and ends with the same far side, data buffer, cursor and workload, up to the
seed {lit}`GenRandomBytes` would start from. -/
theorem runLoop_seed_zero
    (transact : σ → TransactReq → TransactRsp → Buffer → σ × Nat × TransactRsp × Buffer)
    (c : RunConfig) (k : Nat) (world : σ) (dataBuffer : Buffer) (A : BitVec 64)
    (C opBlockCount : BitVec 32) (testOpKind : BitVec 8) (j : Nat) :
    (runLoop transact c k
        ⟨world, dataBuffer, ⟨A, C, 0, opBlockCount, testOpKind⟩, j⟩).map LoopState.startSeeded =
      (runLoop transact c k
        ⟨world, dataBuffer, ⟨A, C, 1, opBlockCount, testOpKind⟩, j⟩).map LoopState.startSeeded :=
  runLoop_startSeeded (congrArg
    (fun s => (⟨world, dataBuffer, ⟨A, C, s, opBlockCount, testOpKind⟩, j⟩ : LoopState σ))
    (by decide : startSeed 0 = startSeed 1)) k

end Loop

/-! ## Random counts -/

section Count

variable {g : Geometry}

/-- A random count is below {lit}`MaxBlockCount`. -/
theorem nextCount_random_lt {c : WorkloadConfig} (hc : c.params = g.params)
    (hrc : c.randomCount = true) (seed blockCount : BitVec 32) :
    (nextCount c seed blockCount).1.toNat < g.maxBlockCount := by
  have hpos := g.maxBlockCount_pos
  rw [← maxBlockCount_toNat hc] at hpos ⊢
  unfold nextCount
  rw [if_pos hrc]
  exact BitVec.toNat_umod ▸ Nat.mod_lt _ hpos

/-- With random counts, a batch's count is at least one and at most
{lit}`max 1 (MaxBlockCount - 1)`. -/
theorem nextBatch_blockCount_random {c : WorkloadConfig} (hc : c.params = g.params)
    (hrc : c.randomCount = true) (I : Nat) (w : Workload) :
    (nextBatch c I w).blockCount.toNat ≤ max 1 (g.maxBlockCount - 1) := by
  have hlt := nextCount_random_lt hc hrc (nextAddress c I w).2 w.blockCount
  rw [nextBatch, toNat_batchOf_blockCount]
  omega

variable {σ : Type}
  {transact : σ → TransactReq → TransactRsp → Buffer → σ × Nat × TransactRsp × Buffer}
  {c : RunConfig} {st0 : LoopState σ}

/-- A random-count run never issues a full transfer.  With random counts, on
every geometry, every operation a run reaches covers at least one block and at
most its batch's count, which is at most {lit}`max 1 (MaxBlockCount - 1)`. -/
theorem runLoop_random_count (hc : c.params = g.params) (hrc : c.randomCount = true)
    (h0 : st0.j = 0) {k : Nat} {st : LoopState σ} (h : runLoop transact c k st0 = .ok st) :
    0 < (opWork c k st).opBlockCount.toNat ∧
      (opWork c k st).opBlockCount.toNat ≤ (opWork c k st).blockCount.toNat ∧
      (opWork c k st).blockCount.toNat ≤ max 1 (g.maxBlockCount - 1) :=
  runLoop_opWork_of_batch
    (fun w => 0 < w.opBlockCount.toNat ∧ w.opBlockCount.toNat ≤ w.blockCount.toNat ∧
      w.blockCount.toNat ≤ max 1 (g.maxBlockCount - 1))
    (fun I w => ⟨(nextBatch_opBlockCount_le hc I w).1, (nextBatch_opBlockCount_le hc I w).2,
      nextBatch_blockCount_random hc hrc I w⟩)
    (fun _ _ hw => hw) h0 h

/-- A run of Writes with count {lit}`'*'` on a unit of 100 blocks of 16 bytes with
four blocks per transfer: its first operation covers at most three blocks. -/
theorem runLoop_random_count_write16 :
    let c := runConfig 0 ⟨100, 16, 64⟩ (['W'].map wch) 0 (BitVec.allOnes 32)
    let g : Geometry := ⟨⟨100, 16, 64⟩, of_decide_eq_true rfl⟩
    let st0 : LoopState (List TransactReq) :=
      ⟨[], fun _ => 0, ⟨0, BitVec.allOnes 32, 1, 0, 0⟩, 0⟩
    c.params = g.params ∧ c.randomCount = true ∧ st0.j = 0 ∧
      runLoop recordingTransact c 0 st0 = .ok st0 ∧
      (0 < (opWork c 0 st0).opBlockCount.toNat ∧
        (opWork c 0 st0).opBlockCount.toNat ≤ (opWork c 0 st0).blockCount.toNat ∧
        (opWork c 0 st0).blockCount.toNat ≤ max 1 (g.maxBlockCount - 1)) := by
  intro c g st0
  exact ⟨rfl, rfl, rfl, rfl,
    @runLoop_random_count g _ recordingTransact c st0 rfl rfl rfl 0 st0 rfl⟩

end Count

end StgPipe
end WinSpd
