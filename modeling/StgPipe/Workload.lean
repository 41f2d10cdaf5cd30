import StgPipe.Oracle

/-!
# The workload of run

run issues {lit}`OpCount` operations in batches of {lit}`OpKindCount`, one
operation of each kind that {lit}`OpSet` selects.  At the start of every batch it
chooses the batch's block address and block count: either the next address
after the previous batch and the fixed count, or values drawn from the C
runtime's linear congruential generator; it reduces the address modulo the
unit's block count, limits the count to {lit}`MaxBlockCount` blocks and at
least one, and clamps the count of the batch's operations so that they stay
below the last block.  This module models that choice and proves the bounds it
gives on every geometry that {lit}`StgOpenPipe` accepts.

Main results:

- Theorem {lit}`nextBatch_bounds`: the batch's address is a block of the unit,
  its count is between one and {lit}`MaxBlockCount`, and address plus count
  stay within the unit whenever the 64-bit sum in the clamp cannot wrap.
- Theorem {lit}`nextBatch_fits`: the batch's payload fits the maximum transfer
  length, so the 32-bit products in {lit}`FillOrTest` and
  {lit}`StgTransactPipe` are exact.
-/

namespace WinSpd
namespace StgPipe

/-! ## The random generator -/

/-- One step of the generator of the C runtime's {lit}`rand`. -/
def lcgNext (seed : BitVec 32) : BitVec 32 := seed * 214013 + 2531011

/-- The bytes {lit}`GenRandomBytes` stores from a nonzero seed, in memory order,
with the final seed. -/
def randomBytesFrom : BitVec 32 → Nat → List (BitVec 8) × BitVec 32
  | seed, 0 => ([], seed)
  | seed, n + 1 =>
    let rest := randomBytesFrom (lcgNext seed) n
    ((lcgNext seed >>> 16).setWidth 8 :: rest.1, rest.2)

/-- {lit}`GenRandomBytes (PSeed, Buffer, Size)`: a zero seed starts as 1. -/
def genRandomBytes (seed : BitVec 32) (size : Nat) : List (BitVec 8) × BitVec 32 :=
  randomBytesFrom (if seed ≠ 0 then seed else 1) size

/-- The value of bytes in memory order, least significant first. -/
def bytesValue : List (BitVec 8) → Nat
  | [] => 0
  | b :: bs => b.toNat + 256 * bytesValue bs

/-! ## The kinds of a batch -/

/-- The 16-bit code unit of a character below {lit}`0x10000`: how a wide string's
{lit}`WCHAR` holds it, and how the switch on {lit}`OpSet [I]` compares its labels. -/
def wch (c : Char) : BitVec 16 := BitVec.ofNat 16 c.toNat

/-- The kind of an {lit}`OpSet` code unit, or none for a unit the switch ignores. -/
def opKindOfChar (c : BitVec 16) : Option (BitVec 8) :=
  if c = wch 'R' ∨ c = wch 'r' then some spdIoctlTransactReadKind
  else if c = wch 'W' ∨ c = wch 'w' then some spdIoctlTransactWriteKind
  else if c = wch 'F' ∨ c = wch 'f' then some spdIoctlTransactFlushKind
  else if c = wch 'U' ∨ c = wch 'u' then some spdIoctlTransactUnmapKind
  else none

/-- The switch's table: R, W, F and U, in either case, select Read, Write, Flush
and Unmap, and every other code unit selects no kind. -/
theorem opKindOfChar_eq_some {c : BitVec 16} {kind : BitVec 8} :
    opKindOfChar c = some kind ↔
      (c = wch 'R' ∨ c = wch 'r') ∧ kind = spdIoctlTransactReadKind ∨
        (c = wch 'W' ∨ c = wch 'w') ∧ kind = spdIoctlTransactWriteKind ∨
        (c = wch 'F' ∨ c = wch 'f') ∧ kind = spdIoctlTransactFlushKind ∨
        (c = wch 'U' ∨ c = wch 'u') ∧ kind = spdIoctlTransactUnmapKind := by
  unfold opKindOfChar
  split_ifs with hR hW hF hU
  · rcases hR with rfl | rfl <;> simp [eq_comm, wch]
  · clear hR
    rcases hW with rfl | rfl <;> simp [eq_comm, wch]
  · clear hR hW
    rcases hF with rfl | rfl <;> simp [eq_comm, wch]
  · clear hR hW hF
    rcases hU with rfl | rfl <;> simp [eq_comm, wch]
  · simp only [reduceCtorEq, false_iff, not_or, not_and]
    exact ⟨fun h => absurd h hR, fun h => absurd h hW, fun h => absurd h hF, fun h => absurd h hU⟩

/-- {lit}`OpKinds [0, OpKindCount)`: the kinds of the first 32 code units of
{lit}`OpSet` (the units before its terminating NUL), or Write then Read when none
is a kind. -/
def parseOpSet (opSet : List (BitVec 16)) : List (BitVec 8) :=
  let kinds := (opSet.take 32).filterMap opKindOfChar
  if kinds = [] then [spdIoctlTransactWriteKind, spdIoctlTransactReadKind] else kinds

theorem parseOpSet_ne_nil (opSet : List (BitVec 16)) : parseOpSet opSet ≠ [] := by
  simp only [parseOpSet]
  split <;> simp_all

theorem length_parseOpSet_le (opSet : List (BitVec 16)) : (parseOpSet opSet).length ≤ 32 := by
  simp only [parseOpSet]
  split
  · simp
  · exact Nat.le_trans (List.length_filterMap_le _ _) (List.length_take_le _ _)

/-! ## Starting a batch -/

/-- The run constants that choose the workload: the unit's parameters and the two
randomisation flags. -/
structure WorkloadConfig where
  params : StorageUnitParams
  randomAddress : Bool
  randomCount : Bool

/-- {lit}`MaxBlockCount = MaxTransferLength / BlockLength`. -/
def WorkloadConfig.maxBlockCount (c : WorkloadConfig) : BitVec 32 :=
  c.params.maxTransferLength / c.params.blockLength

/-- The variables of run that choose each operation's blocks: the start address
and count, the random seed, the clamped count of the batch's operations, and
{lit}`TestOpKind`, the kind of the batch's last Write or Unmap. -/
structure Workload where
  blockAddress : BitVec 64
  blockCount : BitVec 32
  seed : BitVec 32
  opBlockCount : BitVec 32
  testOpKind : BitVec 8
deriving DecidableEq, Repr

/-- The address a batch starts from, before the reduction modulo the block count,
and the seed after it: a random 64-bit value, or the previous address moved on
by the previous count from the second batch on. -/
def nextAddress (c : WorkloadConfig) (I : Nat) (w : Workload) : BitVec 64 × BitVec 32 :=
  if c.randomAddress then
    let r := genRandomBytes w.seed 8
    (BitVec.ofNat 64 (bytesValue r.1), r.2)
  else if I ≠ 0 then (w.blockAddress + w.blockCount.setWidth 64, w.seed)
  else (w.blockAddress, w.seed)

/-- The batch's count before the zero check, and the seed after it: a random
32-bit value modulo {lit}`MaxBlockCount`, or the count limited to it.  With a
zero {lit}`MaxBlockCount` the C modulo traps; run's step checks for that first
({lit}`dividesByZero`), so the value {lit}`x % 0 = x` is never used. -/
def nextCount (c : WorkloadConfig) (seed blockCount : BitVec 32) : BitVec 32 × BitVec 32 :=
  if c.randomCount then
    let r := genRandomBytes seed 4
    (BitVec.ofNat 32 (bytesValue r.1) % c.maxBlockCount, r.2)
  else if blockCount > c.maxBlockCount then (c.maxBlockCount, seed)
  else (blockCount, seed)

/-- The end of the {lit}`0 == J` block: a zero count becomes one, the operations'
count is clamped to the blocks left after the address, comparing the 64-bit
sum {lit}`BlockAddress + BlockCount`, and {lit}`TestOpKind` is reset. -/
def batchOf (c : WorkloadConfig) (blockAddress : BitVec 64) (blockCount seed : BitVec 32) :
    Workload :=
  let blockCount := if blockCount = 0 then 1 else blockCount
  let opBlockCount := if blockAddress + blockCount.setWidth 64 ≤ c.params.blockCount then blockCount
    else (c.params.blockCount - blockAddress).setWidth 32
  ⟨blockAddress, blockCount, seed, opBlockCount, spdIoctlTransactReservedKind⟩

/-- The {lit}`0 == J` block of run's loop body at iteration {lit}`I`: the batch's
address modulo the block count, its count, the seed, the clamped operation
count and a reset {lit}`TestOpKind`. -/
def nextBatch (c : WorkloadConfig) (I : Nat) (w : Workload) : Workload :=
  let a := nextAddress c I w
  let n := nextCount c a.2 w.blockCount
  batchOf c (a.1 % c.params.blockCount) n.1 n.2

/-! ## Bounds on a valid geometry -/

section Bounds

variable {g : Geometry} {c : WorkloadConfig}

theorem maxBlockCount_toNat (hc : c.params = g.params) :
    c.maxBlockCount.toNat = g.maxBlockCount := by
  simp only [WorkloadConfig.maxBlockCount, BitVec.toNat_udiv, hc]
  rfl

theorem nextCount_le (hc : c.params = g.params) (seed blockCount : BitVec 32) :
    (nextCount c seed blockCount).1.toNat ≤ g.maxBlockCount := by
  have hpos := g.maxBlockCount_pos
  rw [← maxBlockCount_toNat hc] at hpos ⊢
  unfold nextCount
  split
  · exact Nat.le_of_lt (BitVec.toNat_umod ▸ Nat.mod_lt _ hpos)
  · split
    · exact Nat.le_refl _
    · rename_i h
      exact Nat.le_of_not_lt h

/-- The fields of a batch that bound its operations: the address is a block of
the unit, and the clamped operation count is between one and
{lit}`MaxBlockCount` and ends within the unit. -/
structure Workload.Bounded (g : Geometry) (w : Workload) : Prop where
  address_lt : w.blockAddress.toNat < g.blockCount
  count_pos : 0 < w.opBlockCount.toNat
  count_le : w.opBlockCount.toNat ≤ g.maxBlockCount
  within : w.blockAddress.toNat + w.opBlockCount.toNat ≤ g.blockCount

@[simp]
theorem batchOf_blockAddress (A : BitVec 64) (C seed : BitVec 32) :
    (batchOf c A C seed).blockAddress = A := rfl

@[simp]
theorem batchOf_blockCount (A : BitVec 64) (C seed : BitVec 32) :
    (batchOf c A C seed).blockCount = if C = 0 then 1 else C := rfl

/-- The zero check: a batch's count is at least one. -/
theorem toNat_batchOf_blockCount (A : BitVec 64) (C seed : BitVec 32) :
    (batchOf c A C seed).blockCount.toNat = max 1 C.toNat := by
  rw [batchOf_blockCount]
  split
  · rename_i h
    subst h
    rfl
  · rename_i h
    have : C.toNat ≠ 0 := fun h0 => h (BitVec.eq_of_toNat_eq h0)
    omega

/-- A batch's count is between one and {lit}`MaxBlockCount` when the count it is
given is at most {lit}`MaxBlockCount`. -/
theorem batchOf_blockCount_bounds (A : BitVec 64) {C : BitVec 32} (seed : BitVec 32)
    (hC : C.toNat ≤ g.maxBlockCount) :
    0 < (batchOf c A C seed).blockCount.toNat ∧
      (batchOf c A C seed).blockCount.toNat ≤ g.maxBlockCount := by
  have hM := g.maxBlockCount_pos
  rw [toNat_batchOf_blockCount]
  omega

/-- Without a wrap of the 64-bit sum {lit}`BlockAddress + BlockCount`, the clamp
cuts the batch's count to the blocks left after its address. -/
theorem batchOf_opBlockCount (hc : c.params = g.params) {A : BitVec 64} {C : BitVec 32}
    (seed : BitVec 32) (hA : A.toNat < g.blockCount) (hC : C.toNat ≤ g.maxBlockCount)
    (hwrap : g.blockCount + g.maxBlockCount ≤ 2 ^ 64) :
    (batchOf c A C seed).opBlockCount.toNat =
      min (batchOf c A C seed).blockCount.toNat (g.blockCount - A.toNat) := by
  have hC' := (batchOf_blockCount_bounds (c := c) A seed hC).2
  have hNlt := g.blockCount_lt
  rw [batchOf_blockCount] at hC' ⊢
  simp only [batchOf, hc]
  generalize (if C = 0 then 1 else C) = C' at hC' ⊢
  have hsum : (A + C'.setWidth 64).toNat = A.toNat + C'.toNat := by
    rw [BitVec.toNat_add, BitVec.toNat_setWidth, Nat.mod_eq_of_lt (show C'.toNat < 2 ^ 64 by omega)]
    exact Nat.mod_eq_of_lt (by omega)
  unfold Geometry.blockCount at hA hNlt hwrap ⊢
  split
  · rename_i hle
    rw [BitVec.le_def, hsum] at hle
    omega
  · rename_i hgt
    rw [BitVec.le_def, hsum, Nat.not_le] at hgt
    rw [BitVec.toNat_setWidth, BitVec.toNat_sub_of_le (BitVec.le_def.mpr (by omega)),
      Nat.mod_eq_of_lt (by omega)]
    omega

/-- The clamp keeps a batch within the unit, provided the 64-bit sum
{lit}`BlockAddress + BlockCount` does not wrap. -/
theorem batchOf_bounds (hc : c.params = g.params) {A : BitVec 64} {C seed : BitVec 32}
    (hA : A.toNat < g.blockCount) (hC : C.toNat ≤ g.maxBlockCount)
    (hwrap : g.blockCount + g.maxBlockCount ≤ 2 ^ 64) : (batchOf c A C seed).Bounded g := by
  have hop := batchOf_opBlockCount hc seed hA hC hwrap
  have hC' := batchOf_blockCount_bounds (c := c) A seed hC
  refine ⟨hA, ?_, ?_, ?_⟩ <;> simp only [hop, batchOf_blockAddress] <;> omega

/-- The clamp never lengthens a batch and leaves at least one block: the address
is a block of the unit, and when the 64-bit sum {lit}`BlockAddress + BlockCount`
wraps it is small and the count is kept. -/
theorem batchOf_opBlockCount_le {A : BitVec 64} (hA : A.toNat < c.params.blockCount.toNat)
    (C seed : BitVec 32) :
    0 < (batchOf c A C seed).opBlockCount.toNat ∧
      (batchOf c A C seed).opBlockCount.toNat ≤ (batchOf c A C seed).blockCount.toNat := by
  have hC' : 0 < (batchOf c A C seed).blockCount.toNat := by
    rw [toNat_batchOf_blockCount]
    omega
  rw [batchOf_blockCount] at hC' ⊢
  simp only [batchOf]
  generalize (if C = 0 then 1 else C) = C' at hC' ⊢
  have hNlt := c.params.blockCount.isLt
  have hClt := C'.isLt
  have hsum : (A + C'.setWidth 64).toNat = (A.toNat + C'.toNat) % 2 ^ 64 := by
    rw [BitVec.toNat_add, BitVec.toNat_setWidth, Nat.mod_eq_of_lt (show C'.toNat < 2 ^ 64 by omega)]
  split
  · exact ⟨hC', Nat.le_refl _⟩
  · rename_i hgt
    rw [BitVec.le_def, hsum, Nat.not_le] at hgt
    rw [BitVec.toNat_setWidth, BitVec.toNat_sub_of_le (BitVec.le_def.mpr (by omega))]
    omega

theorem nextBatch_blockAddress_lt (hc : c.params = g.params) (I : Nat) (w : Workload) :
    (nextBatch c I w).blockAddress.toNat < g.blockCount := by
  rw [nextBatch, batchOf_blockAddress, BitVec.toNat_umod, hc]
  exact Nat.mod_lt _ g.blockCount_pos

/-- Every batch's count is at most {lit}`MaxBlockCount`. -/
theorem nextBatch_blockCount_le (hc : c.params = g.params) (I : Nat) (w : Workload) :
    (nextBatch c I w).blockCount.toNat ≤ g.maxBlockCount :=
  (batchOf_blockCount_bounds _ _ (nextCount_le hc _ _)).2

/-- Every batch covers at least one block and at most its count. -/
theorem nextBatch_opBlockCount_le (hc : c.params = g.params) (I : Nat) (w : Workload) :
    0 < (nextBatch c I w).opBlockCount.toNat ∧
      (nextBatch c I w).opBlockCount.toNat ≤ (nextBatch c I w).blockCount.toNat :=
  batchOf_opBlockCount_le (by
    rw [BitVec.toNat_umod]
    exact Nat.mod_lt _ (by rw [hc]; exact g.blockCount_pos)) _ _

/-- Without a wrap of the 64-bit sum {lit}`BlockAddress + BlockCount`, which
{lit}`g.blockCount + MaxBlockCount ≤ 2 ^ 64` rules out, every batch is bounded. -/
theorem nextBatch_bounds (hc : c.params = g.params)
    (hwrap : g.blockCount + g.maxBlockCount ≤ 2 ^ 64) (I : Nat) (w : Workload) :
    (nextBatch c I w).Bounded g :=
  batchOf_bounds hc (nextBatch_blockAddress_lt hc I w) (nextCount_le hc _ _) hwrap

/-- Without a wrap, a batch's operation count is its count cut to the blocks left
after its address. -/
theorem nextBatch_opBlockCount (hc : c.params = g.params)
    (hwrap : g.blockCount + g.maxBlockCount ≤ 2 ^ 64) (I : Nat) (w : Workload) :
    (nextBatch c I w).opBlockCount.toNat =
      min (nextBatch c I w).blockCount.toNat
        (g.blockCount - (nextBatch c I w).blockAddress.toNat) :=
  batchOf_opBlockCount hc _ (nextBatch_blockAddress_lt hc I w) (nextCount_le hc _ _) hwrap

/-- With a fixed address, a batch starts at the address modulo the block count,
moved on by the previous count from the second batch on, in 64-bit arithmetic. -/
theorem nextBatch_blockAddress (hc : c.params = g.params) (hra : c.randomAddress = false)
    (I : Nat) (w : Workload) :
    (nextBatch c I w).blockAddress.toNat =
      (if I ≠ 0 then (w.blockAddress.toNat + w.blockCount.toNat) % 2 ^ 64
        else w.blockAddress.toNat) % g.blockCount := by
  rw [nextBatch, batchOf_blockAddress, BitVec.toNat_umod, hc, nextAddress, hra]
  simp only [Bool.false_eq_true, if_false, apply_ite (fun a : BitVec 64 × BitVec 32 => a.1.toNat),
    BitVec.toNat_add, BitVec.toNat_setWidth,
    Nat.mod_eq_of_lt (Nat.lt_trans w.blockCount.isLt (by decide : 2 ^ 32 < 2 ^ 64))]
  rfl

/-- With a fixed count, every batch's count is the previous count limited to
{lit}`MaxBlockCount`, and one if it is zero. -/
theorem nextBatch_blockCount (hc : c.params = g.params) (hrc : c.randomCount = false)
    (I : Nat) (w : Workload) :
    (nextBatch c I w).blockCount.toNat = max 1 (min w.blockCount.toNat g.maxBlockCount) := by
  rw [nextBatch, toNat_batchOf_blockCount, nextCount, hrc, if_neg Bool.false_ne_true,
    ← maxBlockCount_toNat hc]
  split
  · rename_i hgt
    have := BitVec.lt_def.mp hgt
    show max 1 c.maxBlockCount.toNat = _
    omega
  · rename_i hle
    have := mt BitVec.lt_def.mpr hle
    show max 1 w.blockCount.toNat = _
    omega

/-- A bounded batch's payload fits the maximum transfer length, and the 32-bit
product {lit}`OpBlockCount * BlockLength` is exact. -/
theorem Workload.Bounded.fits {w : Workload} (hb : w.Bounded g) :
    w.opBlockCount.toNat * g.blockLength ≤ g.maxTransferLength ∧
      (w.opBlockCount * g.params.blockLength).toNat = w.opBlockCount.toNat * g.blockLength := by
  have hle := g.mul_blockLength_le hb.count_le
  have hlt := g.maxTransferLength_lt
  refine ⟨hle, ?_⟩
  rw [BitVec.toNat_mul]
  exact Nat.mod_eq_of_lt (by unfold Geometry.blockLength at hle; omega)

/-- A bounded batch's payload is at most {lit}`2 ^ 32` bytes. -/
theorem Workload.Bounded.payload_le {w : Workload} (hb : w.Bounded g) :
    w.opBlockCount.toNat * g.params.blockLength.toNat ≤ 2 ^ 32 :=
  Nat.le_of_lt (Nat.lt_of_le_of_lt hb.fits.1 g.maxTransferLength_lt)

end Bounds

end StgPipe
end WinSpd
