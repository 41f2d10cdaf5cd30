import StgPipe.Protocol

/-!
# The content oracle

{lit}`FillOrTest` stamps a buffer with an address-derived pattern before a Write
and checks the pattern, or all-zero contents, after the following Read.  Each
block {lit}`I` of an operation gets the word {lit}`HashMix64 (BlockAddress + I + 1)`
in each of its {lit}`BlockLength / 8` whole words.  The loops visit exactly the
first {lit}`8 * (BlockLength / 8)` bytes of each block, so for a block length
that is not a multiple of eight the last bytes of every block are neither
written nor checked.

Main results:

- Theorem {lit}`fillOrTest_stamp`: stamp mode writes {lit}`stampByte` at every
  stamped offset and leaves every other byte as it was.
- Theorems {lit}`fillOrTest_write_iff` and {lit}`fillOrTest_unmap_iff`: the two
  test modes succeed exactly when the stamped offsets hold the stamp, or zero.
- Theorem {lit}`stamped_iff_of_dvd`: for block lengths that are multiples of
  eight the stamped offsets are the whole region {lit}`[0, C * BlockLength)`.

All three hold whenever {lit}`C * BlockLength` fits the 32-bit offset product
{lit}`I * BlockLength`, which every call from run satisfies.
-/

namespace WinSpd
namespace StgPipe

/-- {lit}`HashMix64`: three xorshift-33 rounds separated by two odd multipliers. -/
def hashMix64 (k : BitVec 64) : BitVec 64 :=
  let k := k ^^^ (k >>> 33)
  let k := k * 0xff51afd7ed558ccd
  let k := k ^^^ (k >>> 33)
  let k := k * 0xc4ceb9fe1a85ec53
  k ^^^ (k >>> 33)

/-- The inner loop of {lit}`FillOrTest` over the words {lit}`J` of one block at
byte offset {lit}`base`; a {lit}`false` flag is an early {lit}`return 0`. -/
def fillOrTestWords (kind : BitVec 8) (hashAddress : BitVec 64) (base : Nat) :
    List Nat → Buffer → Buffer × Bool
  | [], b => (b, true)
  | j :: js, b =>
    if kind = spdIoctlTransactReservedKind then
      fillOrTestWords kind hashAddress base js (storeU64 b (base + 8 * j) hashAddress)
    else if kind = spdIoctlTransactWriteKind then
      if loadU64 b (base + 8 * j) ≠ hashAddress then (b, false)
      else fillOrTestWords kind hashAddress base js b
    else if kind = spdIoctlTransactUnmapKind then
      if loadU64 b (base + 8 * j) ≠ 0 then (b, false)
      else fillOrTestWords kind hashAddress base js b
    else fillOrTestWords kind hashAddress base js b

/-- The outer loop of {lit}`FillOrTest` over the blocks {lit}`I`; the block offset
is the 32-bit product {lit}`I * BlockLength`. -/
def fillOrTestBlocks (blockLength : BitVec 32) (blockAddress : BitVec 64) (kind : BitVec 8) :
    List Nat → Buffer → Buffer × Bool
  | [], b => (b, true)
  | i :: is, b =>
    let r := fillOrTestWords kind (hashMix64 (blockAddress + BitVec.ofNat 64 i + 1))
      (BitVec.ofNat 32 i * blockLength).toNat (List.range (blockLength.toNat / 8)) b
    if r.2 then fillOrTestBlocks blockLength blockAddress kind is r.1 else r

/-- {lit}`FillOrTest`: the buffer after the call and the returned flag. -/
def fillOrTest (dataBuffer : Buffer) (blockLength : BitVec 32) (blockAddress : BitVec 64)
    (blockCount : BitVec 32) (fillOrTestOpKind : BitVec 8) : Buffer × Bool :=
  fillOrTestBlocks blockLength blockAddress fillOrTestOpKind (List.range blockCount.toNat)
    dataBuffer

/-! ## The stamped region -/

/-- The offsets {lit}`FillOrTest` visits for {lit}`count` blocks: the first
{lit}`8 * (blockLength / 8)` bytes of each block. -/
def Stamped (blockLength count k : Nat) : Prop :=
  k / blockLength < count ∧ k % blockLength < 8 * (blockLength / 8)

instance (blockLength count k : Nat) : Decidable (Stamped blockLength count k) :=
  inferInstanceAs (Decidable (_ ∧ _))

/-- A stamped offset lies within the {lit}`count` blocks. -/
theorem Stamped.lt_mul {blockLength count k : Nat} (h : Stamped blockLength count k) :
    k < count * blockLength := by
  have hpos : 0 < blockLength := Nat.pos_of_ne_zero fun h0 => by simp [Stamped, h0] at h
  exact (Nat.div_lt_iff_lt_mul hpos).mp h.1

/-- The byte that the stamp of an operation at {lit}`blockAddress` puts at offset {lit}`k`. -/
def stampByte (blockLength : Nat) (blockAddress : BitVec 64) (k : Nat) : BitVec 8 :=
  wordByte (hashMix64 (blockAddress + BitVec.ofNat 64 (k / blockLength) + 1))
    (k % blockLength % 8)

/-- The word a test mode compares against: the hash for Write, zero for Unmap. -/
def testWord (kind : BitVec 8) (hashAddress : BitVec 64) : BitVec 64 :=
  if kind = spdIoctlTransactWriteKind then hashAddress else 0

/-- Offset {lit}`k` lies in block {lit}`i`, before byte {lit}`r` of it, exactly when
its quotient is {lit}`i` and its remainder is below {lit}`r`. -/
theorem block_offset_iff {blockLength i k r : Nat} (hr : r ≤ blockLength) :
    (i * blockLength ≤ k ∧ k - i * blockLength < r) ↔
      (k / blockLength = i ∧ k % blockLength < r) := by
  rcases Nat.eq_zero_or_pos blockLength with h0 | hpos
  · subst h0
    omega
  constructor
  · rintro ⟨hlo, hhi⟩
    have hdiv : k / blockLength = i :=
      Nat.div_eq_of_lt_le hlo (by rw [Nat.succ_mul]; omega)
    refine ⟨hdiv, ?_⟩
    rw [Nat.mod_def, hdiv, Nat.mul_comm]
    exact hhi
  · rintro ⟨hdiv, hmod⟩
    have hlo : i * blockLength ≤ k := hdiv ▸ Nat.div_mul_le_self k blockLength
    refine ⟨hlo, ?_⟩
    rw [Nat.mod_def, hdiv, Nat.mul_comm] at hmod
    exact hmod

/-- For block lengths that are multiples of eight the stamp covers whole blocks. -/
theorem stamped_iff_of_dvd {blockLength count k : Nat} (h8 : 8 ∣ blockLength) :
    Stamped blockLength count k ↔ k < count * blockLength := by
  rcases Nat.eq_zero_or_pos blockLength with h0 | hpos
  · subst h0
    simp [Stamped]
  have hfull : 8 * (blockLength / 8) = blockLength := Nat.mul_div_cancel' h8
  simp only [Stamped, hfull, Nat.mod_lt k hpos, and_true]
  exact Nat.div_lt_iff_lt_mul hpos

/-! ## The word loop -/

section Words

variable {kind : BitVec 8} {hashAddress : BitVec 64} {base : Nat}

/-- Stamp mode writes the hash into each visited word and nothing else. -/
theorem fillOrTestWords_stamp (js : List Nat) (b : Buffer) :
    fillOrTestWords spdIoctlTransactReservedKind hashAddress base js b =
      (fun k => if base ≤ k ∧ (k - base) / 8 ∈ js then wordByte hashAddress ((k - base) % 8)
        else b k, true) := by
  induction js generalizing b with
  | nil => simp [fillOrTestWords]
  | cons j js ih =>
    rw [fillOrTestWords, if_pos rfl, ih]
    congr 1
    funext k
    simp only [storeU64_apply, List.mem_cons]
    by_cases hin : base ≤ k ∧ (k - base) / 8 ∈ js
    · simp only [hin, and_self, or_true, if_true]
    · by_cases hj : base + 8 * j ≤ k ∧ k < base + 8 * j + 8
      · rw [if_neg hin, if_pos hj, if_pos ⟨by omega, Or.inl (by omega)⟩]
        congr 1
        omega
      · refine (if_neg hin).trans ((if_neg hj).trans (if_neg ?_).symm)
        rintro ⟨hb, hjk | hk⟩
        exacts [hj (by omega), hin ⟨hb, hk⟩]

/-- A test mode leaves the buffer alone and succeeds exactly when every visited
word equals its test word. -/
theorem fillOrTestWords_test (hkind : kind = spdIoctlTransactWriteKind ∨
      kind = spdIoctlTransactUnmapKind) (js : List Nat) (b : Buffer) :
    fillOrTestWords kind hashAddress base js b =
      (b, decide (∀ j ∈ js, loadU64 b (base + 8 * j) = testWord kind hashAddress)) := by
  induction js with
  | nil => simp [fillOrTestWords]
  | cons j js ih =>
    rcases hkind with rfl | rfl
    · by_cases hw : loadU64 b (base + 8 * j) = hashAddress <;>
        simp_all [fillOrTestWords, testWord]
    · by_cases hw : loadU64 b (base + 8 * j) = 0 <;>
        simp_all [fillOrTestWords, testWord]

end Words

/-! ## The block loop -/

section Blocks

variable {blockLength : BitVec 32} {blockAddress : BitVec 64} {kind : BitVec 8}

/-- Without a 32-bit wrap the offset of block {lit}`i` is {lit}`i * BlockLength`. -/
theorem blockOffset_toNat {i : Nat} (h : i * blockLength.toNat < 2 ^ 32) :
    (BitVec.ofNat 32 i * blockLength).toNat = i * blockLength.toNat := by
  simp only [BitVec.toNat_mul, BitVec.toNat_ofNat]
  rcases Nat.eq_zero_or_pos blockLength.toNat with h0 | hpos
  · simp [h0]
  · have hi : i < 2 ^ 32 := Nat.lt_of_le_of_lt (Nat.le_mul_of_pos_right i hpos) h
    rw [Nat.mod_eq_of_lt hi, Nat.mod_eq_of_lt h]

/-- Stamp mode over a list of blocks that do not wrap: each stamped offset of a
listed block gets its {lit}`stampByte`. -/
theorem fillOrTestBlocks_stamp (is : List Nat) (b : Buffer)
    (hwrap : ∀ i ∈ is, i * blockLength.toNat < 2 ^ 32) :
    fillOrTestBlocks blockLength blockAddress spdIoctlTransactReservedKind is b =
      (fun k => if k / blockLength.toNat ∈ is ∧
          k % blockLength.toNat < 8 * (blockLength.toNat / 8)
        then stampByte blockLength.toNat blockAddress k else b k, true) := by
  induction is generalizing b with
  | nil => simp [fillOrTestBlocks]
  | cons i is ih =>
    have hbase := blockOffset_toNat (hwrap i (List.mem_cons_self i is))
    simp only [fillOrTestBlocks, fillOrTestWords_stamp, hbase, if_true]
    rw [ih _ fun j hj => hwrap j (List.mem_cons_of_mem i hj)]
    congr 1
    funext k
    have hiff := block_offset_iff (i := i) (k := k) (Nat.mul_div_le blockLength.toNat 8)
    simp only [List.mem_cons, List.mem_range]
    by_cases hin : k / blockLength.toNat ∈ is ∧
        k % blockLength.toNat < 8 * (blockLength.toNat / 8)
    · simp only [hin, or_true, and_self, if_true]
    · by_cases hblk : k / blockLength.toNat = i ∧
          k % blockLength.toNat < 8 * (blockLength.toNat / 8)
      · have hmod : k % blockLength.toNat = k - i * blockLength.toNat := by
          rw [Nat.mod_def, hblk.1, Nat.mul_comm]
        have hlo := (hiff.mpr hblk).1
        rw [if_neg hin, if_pos ⟨hlo, by omega⟩, if_pos ⟨Or.inl hblk.1, hblk.2⟩, stampByte,
          hblk.1, hmod]
      · refine (if_neg hin).trans ((if_neg ?_).trans (if_neg ?_).symm)
        · exact fun h => hblk (hiff.mp ⟨h.1, by omega⟩)
        · rintro ⟨hi | hi, hm⟩
          exacts [hblk ⟨hi, hm⟩, hin ⟨hi, hm⟩]

/-- A test mode over a list of blocks leaves the buffer alone and succeeds
exactly when every visited word of every listed block equals its test word. -/
theorem fillOrTestBlocks_test (hkind : kind = spdIoctlTransactWriteKind ∨
      kind = spdIoctlTransactUnmapKind) (is : List Nat) (b : Buffer) :
    fillOrTestBlocks blockLength blockAddress kind is b =
      (b, decide (∀ i ∈ is, ∀ j < blockLength.toNat / 8,
        loadU64 b ((BitVec.ofNat 32 i * blockLength).toNat + 8 * j) =
          testWord kind (hashMix64 (blockAddress + BitVec.ofNat 64 i + 1)))) := by
  induction is with
  | nil => simp [fillOrTestBlocks]
  | cons i is ih =>
    simp only [fillOrTestBlocks, fillOrTestWords_test hkind, List.mem_range,
      List.forall_mem_cons]
    by_cases hP : ∀ j < blockLength.toNat / 8,
        loadU64 b ((BitVec.ofNat 32 i * blockLength).toNat + 8 * j) =
          testWord kind (hashMix64 (blockAddress + BitVec.ofNat 64 i + 1))
    · rw [if_pos (decide_eq_true hP), ih]
      simp only [and_iff_right hP]
    · rw [if_neg (mt of_decide_eq_true hP), decide_eq_false hP,
        decide_eq_false fun h => hP h.1]

end Blocks

/-- Word-by-word agreement over the visited words of {lit}`count` blocks is
byte-by-byte agreement over the stamped offsets. -/
theorem forall_loadU64_iff_stamped (b : Buffer) {blockLength count : Nat}
    (w : Nat → BitVec 64) :
    (∀ i < count, ∀ j < blockLength / 8, loadU64 b (i * blockLength + 8 * j) = w i) ↔
      ∀ k, Stamped blockLength count k →
        b k = wordByte (w (k / blockLength)) (k % blockLength % 8) := by
  have hr : 8 * (blockLength / 8) ≤ blockLength := Nat.mul_div_le blockLength 8
  simp only [loadU64_eq_iff]
  constructor
  · rintro h k ⟨hi, hm⟩
    have hk :
        k / blockLength * blockLength + 8 * (k % blockLength / 8) + k % blockLength % 8 = k := by
      have := Nat.div_add_mod k blockLength
      rw [Nat.mul_comm] at this
      omega
    have := h (k / blockLength) hi (k % blockLength / 8) (by omega) (k % blockLength % 8) (by omega)
    rwa [hk] at this
  · intro h i hi j hj t ht
    have hblk := (block_offset_iff (i := i) (k := i * blockLength + 8 * j + t) hr).mp
      ⟨by omega, by omega⟩
    have hmod : (i * blockLength + 8 * j + t) % blockLength = 8 * j + t := by
      rw [Nat.mod_def, hblk.1, Nat.mul_comm]
      omega
    rw [h _ ⟨by rw [hblk.1]; exact hi, hblk.2⟩, hblk.1, hmod]
    congr 1
    omega

/-! ## FillOrTest -/

section FillOrTest

variable {b : Buffer} {blockLength : BitVec 32} {blockAddress : BitVec 64} {blockCount : BitVec 32}

theorem mul_lt_of_mem_range (hwrap : blockCount.toNat * blockLength.toNat ≤ 2 ^ 32) :
    ∀ i ∈ List.range blockCount.toNat, i * blockLength.toNat < 2 ^ 32 := by
  intro i hi
  rw [List.mem_range] at hi
  rcases Nat.eq_zero_or_pos blockLength.toNat with h0 | hpos
  · simp [h0]
  · exact Nat.lt_of_lt_of_le (Nat.mul_lt_mul_of_pos_right hi hpos) hwrap

/-- Stamp mode writes {lit}`stampByte` at the stamped offsets and nothing else. -/
theorem fillOrTest_stamp (hwrap : blockCount.toNat * blockLength.toNat ≤ 2 ^ 32) :
    fillOrTest b blockLength blockAddress blockCount spdIoctlTransactReservedKind =
      (fun k => if Stamped blockLength.toNat blockCount.toNat k
        then stampByte blockLength.toNat blockAddress k else b k, true) := by
  rw [fillOrTest, fillOrTestBlocks_stamp _ _ (mul_lt_of_mem_range hwrap)]
  simp only [List.mem_range, Stamped]

/-- The test modes compare the stamped offsets of the buffer with a word family. -/
theorem fillOrTest_test_iff {kind : BitVec 8} (hkind : kind = spdIoctlTransactWriteKind ∨
      kind = spdIoctlTransactUnmapKind) (hwrap : blockCount.toNat * blockLength.toNat ≤ 2 ^ 32) :
    (fillOrTest b blockLength blockAddress blockCount kind).2 = true ↔
      ∀ k, Stamped blockLength.toNat blockCount.toNat k →
        b k = wordByte (testWord kind (hashMix64
          (blockAddress + BitVec.ofNat 64 (k / blockLength.toNat) + 1)))
          (k % blockLength.toNat % 8) := by
  rw [fillOrTest, fillOrTestBlocks_test hkind, decide_eq_true_iff,
    ← forall_loadU64_iff_stamped b fun i =>
      testWord kind (hashMix64 (blockAddress + BitVec.ofNat 64 i + 1))]
  constructor
  · intro h i hi j hj
    rw [← blockOffset_toNat (mul_lt_of_mem_range hwrap i (List.mem_range.mpr hi))]
    exact h i (List.mem_range.mpr hi) j hj
  · intro h i hi j hj
    rw [blockOffset_toNat (mul_lt_of_mem_range hwrap i hi)]
    exact h i (List.mem_range.mp hi) j hj

/-- The Write test succeeds exactly when the stamped offsets hold the stamp. -/
theorem fillOrTest_write_iff (hwrap : blockCount.toNat * blockLength.toNat ≤ 2 ^ 32) :
    (fillOrTest b blockLength blockAddress blockCount spdIoctlTransactWriteKind).2 = true ↔
      ∀ k, Stamped blockLength.toNat blockCount.toNat k →
        b k = stampByte blockLength.toNat blockAddress k := by
  rw [fillOrTest_test_iff (Or.inl rfl) hwrap]
  simp [testWord, stampByte]

/-- The Unmap test succeeds exactly when the stamped offsets hold zero. -/
theorem fillOrTest_unmap_iff (hwrap : blockCount.toNat * blockLength.toNat ≤ 2 ^ 32) :
    (fillOrTest b blockLength blockAddress blockCount spdIoctlTransactUnmapKind).2 = true ↔
      ∀ k, Stamped blockLength.toNat blockCount.toNat k → b k = 0 := by
  rw [fillOrTest_test_iff (Or.inr rfl) hwrap]
  simp [testWord, wordByte]

/-- A buffer stamped for an operation passes the Write test of the same operation. -/
theorem fillOrTest_stamp_then_write (hwrap : blockCount.toNat * blockLength.toNat ≤ 2 ^ 32) :
    (fillOrTest (fillOrTest b blockLength blockAddress blockCount
      spdIoctlTransactReservedKind).1 blockLength blockAddress blockCount
        spdIoctlTransactWriteKind).2 = true := by
  rw [fillOrTest_write_iff hwrap, fillOrTest_stamp hwrap]
  intro k hk
  simp only [if_pos hk]

end FillOrTest

/-- {lit}`FillOrTest` is exact on the offsets it visits: stamp mode writes the stamp
there and keeps every other byte, stamping then testing succeeds, the Write
and Unmap tests succeed exactly when those offsets hold the stamp or zero, and
for block lengths that are multiples of eight those offsets are the whole
region {lit}`[0, C * BlockLength)`. -/
theorem fillOrTest_exact (b : Buffer) (blockLength : BitVec 32) (blockAddress : BitVec 64)
    (blockCount : BitVec 32) (hwrap : blockCount.toNat * blockLength.toNat ≤ 2 ^ 32) :
    fillOrTest b blockLength blockAddress blockCount spdIoctlTransactReservedKind =
        (fun k => if Stamped blockLength.toNat blockCount.toNat k
          then stampByte blockLength.toNat blockAddress k else b k, true) ∧
      (fillOrTest (fillOrTest b blockLength blockAddress blockCount
        spdIoctlTransactReservedKind).1 blockLength blockAddress blockCount
          spdIoctlTransactWriteKind).2 = true ∧
      ((fillOrTest b blockLength blockAddress blockCount spdIoctlTransactWriteKind).2 = true ↔
        ∀ k, Stamped blockLength.toNat blockCount.toNat k →
          b k = stampByte blockLength.toNat blockAddress k) ∧
      ((fillOrTest b blockLength blockAddress blockCount spdIoctlTransactUnmapKind).2 = true ↔
        ∀ k, Stamped blockLength.toNat blockCount.toNat k → b k = 0) ∧
      (8 ∣ blockLength.toNat → ∀ k,
        Stamped blockLength.toNat blockCount.toNat k ↔
          k < blockCount.toNat * blockLength.toNat) :=
  ⟨fillOrTest_stamp hwrap, fillOrTest_stamp_then_write hwrap, fillOrTest_write_iff hwrap,
    fillOrTest_unmap_iff hwrap, fun h8 _ => stamped_iff_of_dvd h8⟩

/-- One 512-byte block: the bound holds and a stamped block passes its Write test. -/
theorem fillOrTest_exact_block512 :
    (1 : BitVec 32).toNat * (512 : BitVec 32).toNat ≤ 2 ^ 32 ∧
      (fillOrTest (fillOrTest (fun _ => 0) 512 7 1 spdIoctlTransactReservedKind).1
        512 7 1 spdIoctlTransactWriteKind).2 = true :=
  ⟨by decide, (fillOrTest_exact (fun _ => 0) 512 7 1 (by decide)).2.1⟩

/-- With 17-byte blocks the stamp leaves byte 16 of the block as it was, so the
stamped payload depends on the buffer's earlier contents. -/
theorem fillOrTest_stamp_keeps_byte16 :
    (fillOrTest (fun _ => 0) 17 0 1 spdIoctlTransactReservedKind).1 16 ≠
      (fillOrTest (fun _ => 1) 17 0 1 spdIoctlTransactReservedKind).1 16 := by
  decide

end StgPipe
end WinSpd
