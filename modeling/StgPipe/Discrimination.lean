import StgPipe.Oracle

/-!
# The oracle tells blocks apart

Each of the five steps of {lit}`HashMix64` can be undone on 64-bit words.  A
xorshift by 33 bits is its own inverse, because shifting a 64-bit word twice by
33 bits clears it, and the two multipliers are odd, so they have inverses
modulo {lit}`2 ^ 64`.  {lit}`HashMix64` is therefore a bijection, and it maps
only 0 to 0.

So the stamp {lit}`FillOrTest` writes for one address fails the Write test of any
other address, and fails the Unmap test unless the address is
{lit}`2 ^ 64 - 1`.  The argument looks at the last block of the operation,
whose words no later block overwrites, even where the 32-bit offset product
{lit}`I * BlockLength` wraps.  When the last block's hash is zero, at the
address {lit}`2 ^ 64 - C`, the block before it carries
{lit}`HashMix64 (2 ^ 64 - 1)`, none of whose bytes is zero, and some of its
visited bytes lie outside the last block.

Main results:

- Theorem {lit}`hashMix64_bijective`: {lit}`HashMix64` is a bijection.
- Theorem {lit}`hashMix64_eq_zero_iff`: it maps exactly 0 to 0.
- Theorems {lit}`fillOrTest_stamp_then_write_ne` and
  {lit}`fillOrTest_stamp_then_unmap`: a stamped buffer fails the Write test of
  another address and the Unmap test.
-/

namespace WinSpd
namespace StgPipe

/-! ## HashMix64 is a bijection -/

/-- {lit}`k ^= k >> 33` undoes itself on 64-bit words. -/
theorem xor_ushiftRight_33_involutive (x : BitVec 64) :
    (x ^^^ x >>> 33) ^^^ (x ^^^ x >>> 33) >>> 33 = x := by
  have h : x >>> 33 >>> 33 = 0#64 := by
    apply BitVec.eq_of_toNat_eq
    rw [BitVec.toNat_ushiftRight, BitVec.toNat_ushiftRight, ← Nat.shiftRight_add,
      Nat.shiftRight_eq_div_pow, BitVec.toNat_ofNat]
    exact Nat.div_eq_of_lt (Nat.lt_trans x.isLt (by decide))
  rw [BitVec.ushiftRight_xor_distrib, h, BitVec.xor_zero, BitVec.xor_assoc, BitVec.xor_self,
    BitVec.xor_zero]

theorem mul_mul_inverse {x c c' : BitVec 64} (h : c * c' = 1) : x * c * c' = x := by
  rw [BitVec.mul_assoc, h]
  exact BitVec.mul_one x

/-- The inverse of {lit}`HashMix64`: its steps undone in reverse order, with the
inverses of the two multipliers modulo {lit}`2 ^ 64`. -/
def hashMix64Inv (k : BitVec 64) : BitVec 64 :=
  let k := k ^^^ (k >>> 33)
  let k := k * 0x9cb4b2f8129337db
  let k := k ^^^ (k >>> 33)
  let k := k * 0x4f74430c22a54005
  k ^^^ (k >>> 33)

theorem hashMix64Inv_hashMix64 (k : BitVec 64) : hashMix64Inv (hashMix64 k) = k := by
  simp only [hashMix64, hashMix64Inv, xor_ushiftRight_33_involutive,
    mul_mul_inverse (show (0xc4ceb9fe1a85ec53 : BitVec 64) * 0x9cb4b2f8129337db = 1 by decide),
    mul_mul_inverse (show (0xff51afd7ed558ccd : BitVec 64) * 0x4f74430c22a54005 = 1 by decide)]

theorem hashMix64_hashMix64Inv (k : BitVec 64) : hashMix64 (hashMix64Inv k) = k := by
  simp only [hashMix64, hashMix64Inv, xor_ushiftRight_33_involutive,
    mul_mul_inverse (show (0x9cb4b2f8129337db : BitVec 64) * 0xc4ceb9fe1a85ec53 = 1 by decide),
    mul_mul_inverse (show (0x4f74430c22a54005 : BitVec 64) * 0xff51afd7ed558ccd = 1 by decide)]

theorem hashMix64_bijective : Function.Bijective hashMix64 :=
  ⟨Function.LeftInverse.injective hashMix64Inv_hashMix64,
    Function.RightInverse.surjective hashMix64_hashMix64Inv⟩

theorem hashMix64_zero : hashMix64 0 = 0 := by decide

theorem hashMix64_eq_zero_iff {k : BitVec 64} : hashMix64 k = 0 ↔ k = 0 :=
  ⟨fun h => hashMix64_bijective.1 (h.trans hashMix64_zero.symm),
    by rintro rfl; exact hashMix64_zero⟩

/-- No byte of {lit}`HashMix64 (2 ^ 64 - 1)` is zero. -/
theorem wordByte_hashMix64_allOnes_ne_zero {t : Nat} (ht : t < 8) :
    wordByte (hashMix64 (BitVec.allOnes 64)) t ≠ 0 := by
  have hbytes : ∀ t < 8, wordByte (hashMix64 (BitVec.allOnes 64)) t ≠ 0 := by decide
  exact hbytes t ht

theorem add_add_one_cancel {w : Nat} {A B x : BitVec w} (h : A + x + 1 = B + x + 1) : A = B := by
  rw [← BitVec.add_sub_cancel A x, ← BitVec.add_sub_cancel (A + x) 1, h, BitVec.add_sub_cancel,
    BitVec.add_sub_cancel]

theorem eq_allOnes_of_add_one_eq_zero {x : BitVec 64} (h : x + 1 = 0) : x = BitVec.allOnes 64 := by
  apply BitVec.eq_of_toNat_eq
  have hx := x.isLt
  have h1 := congrArg BitVec.toNat h
  simp only [BitVec.toNat_add, BitVec.ofNat_eq_ofNat, BitVec.toNat_ofNat,
    BitVec.toNat_allOnes] at h1 ⊢
  omega

/-! ## The stamp of the last blocks -/

section Stamp

variable {blockLength : BitVec 32} {blockAddress : BitVec 64}

/-- Stamp mode never returns early. -/
theorem fillOrTestBlocks_stamp_snd (is : List Nat) (b : Buffer) :
    (fillOrTestBlocks blockLength blockAddress spdIoctlTransactReservedKind is b).2 = true := by
  induction is generalizing b with
  | nil => rfl
  | cons i is ih => simp only [fillOrTestBlocks, fillOrTestWords_stamp, if_true, ih]

/-- Stamp mode over two lists of blocks stamps the first, then the second. -/
theorem fillOrTestBlocks_stamp_append (is js : List Nat) (b : Buffer) :
    fillOrTestBlocks blockLength blockAddress spdIoctlTransactReservedKind (is ++ js) b =
      fillOrTestBlocks blockLength blockAddress spdIoctlTransactReservedKind js
        (fillOrTestBlocks blockLength blockAddress spdIoctlTransactReservedKind is b).1 := by
  induction is generalizing b with
  | nil => rfl
  | cons i is ih =>
    rw [List.cons_append]
    simp only [fillOrTestBlocks, fillOrTestWords_stamp, if_true]
    exact ih _

/-- Stamping blocks {lit}`0` to {lit}`k` writes block {lit}`k`'s hash over its
visited words, after the stamp of the blocks before it. -/
theorem fillOrTestBlocks_stamp_range_succ (k : Nat) (b : Buffer) (p : Nat) :
    (fillOrTestBlocks blockLength blockAddress spdIoctlTransactReservedKind
        (List.range (k + 1)) b).1 p =
      if (BitVec.ofNat 32 k * blockLength).toNat ≤ p ∧
          (p - (BitVec.ofNat 32 k * blockLength).toNat) / 8 < blockLength.toNat / 8 then
        wordByte (hashMix64 (blockAddress + BitVec.ofNat 64 k + 1))
          ((p - (BitVec.ofNat 32 k * blockLength).toNat) % 8)
      else (fillOrTestBlocks blockLength blockAddress spdIoctlTransactReservedKind
        (List.range k) b).1 p := by
  simp only [List.range_succ, fillOrTestBlocks_stamp_append, fillOrTestBlocks,
    fillOrTestWords_stamp, if_true, List.mem_range]

/-- Block {lit}`k + 1` starts {lit}`BlockLength` bytes after block {lit}`k`, modulo
{lit}`2 ^ 32`. -/
theorem blockOffset_succ (k : Nat) :
    (BitVec.ofNat 32 (k + 1) * blockLength).toNat =
      ((BitVec.ofNat 32 k * blockLength).toNat + blockLength.toNat) % 2 ^ 32 := by
  simp only [BitVec.toNat_mul, BitVec.toNat_ofNat, Nat.mod_mul_mod, Nat.succ_mul, Nat.mod_add_mod]

/-- After stamping blocks {lit}`0` to {lit}`k`, the visited words of block {lit}`k`
hold its hash: no block is stamped after it. -/
theorem loadU64_stamp_last (k : Nat) (b : Buffer) {j : Nat} (hj : j < blockLength.toNat / 8) :
    loadU64 (fillOrTestBlocks blockLength blockAddress spdIoctlTransactReservedKind
        (List.range (k + 1)) b).1 ((BitVec.ofNat 32 k * blockLength).toNat + 8 * j) =
      hashMix64 (blockAddress + BitVec.ofNat 64 k + 1) := by
  rw [loadU64_eq_iff]
  intro t ht
  rw [fillOrTestBlocks_stamp_range_succ, if_pos ⟨by omega, by omega⟩]
  congr 1
  omega

/-- A visited byte of block {lit}`k` outside the visited words of block {lit}`k + 1`
keeps block {lit}`k`'s stamp once block {lit}`k + 1` is stamped. -/
theorem fillOrTestBlocks_stamp_prev (k : Nat) (b : Buffer) {j t : Nat}
    (hj : j < blockLength.toNat / 8) (ht : t < 8)
    (hout : ¬((BitVec.ofNat 32 (k + 1) * blockLength).toNat ≤
        (BitVec.ofNat 32 k * blockLength).toNat + 8 * j + t ∧
      ((BitVec.ofNat 32 k * blockLength).toNat + 8 * j + t -
        (BitVec.ofNat 32 (k + 1) * blockLength).toNat) / 8 < blockLength.toNat / 8)) :
    (fillOrTestBlocks blockLength blockAddress spdIoctlTransactReservedKind
        (List.range (k + 2)) b).1 ((BitVec.ofNat 32 k * blockLength).toNat + 8 * j + t) =
      wordByte (hashMix64 (blockAddress + BitVec.ofNat 64 k + 1)) t := by
  rw [fillOrTestBlocks_stamp_range_succ, if_neg hout, fillOrTestBlocks_stamp_range_succ,
    if_pos ⟨by omega, by omega⟩]
  congr 1
  omega

/-- Of two blocks at different offsets, some visited byte of the first lies outside
the visited words of the second. -/
theorem exists_visited_byte_not_mem {o o' m : Nat} (hm : 0 < m) (hne : o ≠ o') :
    ∃ j < m, ∃ t < 8, ¬(o' ≤ o + 8 * j + t ∧ (o + 8 * j + t - o') / 8 < m) := by
  rcases Nat.lt_or_gt_of_ne hne with hlt | hgt
  · exact ⟨0, hm, 0, by decide, by omega⟩
  · exact ⟨m - 1, by omega, 7, by decide, by omega⟩

end Stamp

/-! ## A stamped buffer fails the other tests -/

section Tests

variable {b : Buffer} {blockLength blockCount : BitVec 32} {A : BitVec 64}

/-- A test of {lit}`k + 1` blocks fails when one visited word of one of them is not
its test word. -/
theorem fillOrTestBlocks_test_false {kind : BitVec 8}
    (hkind : kind = spdIoctlTransactWriteKind ∨ kind = spdIoctlTransactUnmapKind) {B : BitVec 64}
    {k i j : Nat} (hi : i ≤ k) (hj : j < blockLength.toNat / 8)
    (hne : loadU64 b ((BitVec.ofNat 32 i * blockLength).toNat + 8 * j) ≠
      testWord kind (hashMix64 (B + BitVec.ofNat 64 i + 1))) :
    (fillOrTestBlocks blockLength B kind (List.range (k + 1)) b).2 = false := by
  rw [fillOrTestBlocks_test hkind, decide_eq_false_iff_not]
  exact fun h => hne (h i (List.mem_range.mpr (Nat.lt_succ_of_le hi)) j hj)

/-- A buffer stamped for one address fails the Write test of any other address:
the last block's first word holds {lit}`HashMix64 (A + C)`, not
{lit}`HashMix64 (B + C)`. -/
theorem fillOrTest_stamp_then_write_ne {B : BitVec 64} (hBL : 8 ≤ blockLength.toNat)
    (hC : 1 ≤ blockCount.toNat) (hAB : A ≠ B) :
    (fillOrTest (fillOrTest b blockLength A blockCount spdIoctlTransactReservedKind).1
      blockLength B blockCount spdIoctlTransactWriteKind).2 = false := by
  obtain ⟨k, hk⟩ : ∃ k, blockCount.toNat = k + 1 := ⟨blockCount.toNat - 1, by omega⟩
  have hm : 0 < blockLength.toNat / 8 := by omega
  simp only [fillOrTest, hk]
  refine fillOrTestBlocks_test_false (Or.inl rfl) (Nat.le_refl k) hm fun hw => ?_
  rw [loadU64_stamp_last k b hm, testWord, if_pos rfl] at hw
  exact hAB (add_add_one_cancel (hashMix64_bijective.1 hw))

/-- A buffer stamped for any address but {lit}`2 ^ 64 - 1` fails the Unmap test:
the last block's first word holds {lit}`HashMix64 (A + C)`, zero only when the
hashed value wraps to zero, and then the block before it holds
{lit}`HashMix64 (2 ^ 64 - 1)`, none of whose bytes is zero. -/
theorem fillOrTest_stamp_then_unmap (B : BitVec 64) (hBL : 8 ≤ blockLength.toNat)
    (hC : 1 ≤ blockCount.toNat) (hA : A ≠ BitVec.allOnes 64) :
    (fillOrTest (fillOrTest b blockLength A blockCount spdIoctlTransactReservedKind).1
      blockLength B blockCount spdIoctlTransactUnmapKind).2 = false := by
  obtain ⟨k, hk⟩ : ∃ k, blockCount.toNat = k + 1 := ⟨blockCount.toNat - 1, by omega⟩
  have hm : 0 < blockLength.toNat / 8 := by omega
  simp only [fillOrTest, hk]
  by_cases hz : A + BitVec.ofNat 64 k + 1 = 0
  · cases k with
    | zero => exact absurd (eq_allOnes_of_add_one_eq_zero (by simpa using hz)) hA
    | succ k =>
      have hprev : A + BitVec.ofNat 64 k + 1 = BitVec.allOnes 64 := by
        refine eq_allOnes_of_add_one_eq_zero ?_
        rw [← hz, BitVec.ofNat_add, BitVec.add_assoc A]
        rfl
      have hne : (BitVec.ofNat 32 k * blockLength).toNat ≠
          (BitVec.ofNat 32 (k + 1) * blockLength).toNat := by
        have ho := (BitVec.ofNat 32 k * blockLength).isLt
        have hl := blockLength.isLt
        rw [blockOffset_succ]
        omega
      obtain ⟨j, hj, t, ht, hout⟩ := exists_visited_byte_not_mem hm hne
      refine fillOrTestBlocks_test_false (Or.inr rfl) (Nat.le_succ k) hj fun hw => ?_
      have hbyte := (loadU64_eq_iff _ _ _).mp hw t ht
      rw [fillOrTestBlocks_stamp_prev k b hj ht hout, hprev] at hbyte
      exact wordByte_hashMix64_allOnes_ne_zero ht (hbyte.trans (by simp [wordByte, testWord]))
  · refine fillOrTestBlocks_test_false (Or.inr rfl) (Nat.le_refl k) hm fun hw => ?_
    rw [loadU64_stamp_last k b hm, testWord, if_neg (by decide)] at hw
    exact hz (hashMix64_eq_zero_iff.mp hw)

end Tests

/-- The oracle tells the data of any two blocks apart and written data from
unmapped data.  {lit}`HashMix64` is a bijection that maps only 0 to 0.  For
every buffer, every block length of at least 8 bytes and every count of at
least one block, a buffer stamped for an address fails the Write test of any
other address, and fails the Unmap test unless the address is
{lit}`2 ^ 64 - 1`. -/
theorem fillOrTest_discriminates :
    Function.Bijective hashMix64 ∧ (∀ k, hashMix64 k = 0 ↔ k = 0) ∧
      (∀ (b : Buffer) (blockLength blockCount : BitVec 32) (A B : BitVec 64),
        8 ≤ blockLength.toNat → 1 ≤ blockCount.toNat → A ≠ B →
        (fillOrTest (fillOrTest b blockLength A blockCount spdIoctlTransactReservedKind).1
          blockLength B blockCount spdIoctlTransactWriteKind).2 = false) ∧
      (∀ (b : Buffer) (blockLength blockCount : BitVec 32) (A B : BitVec 64),
        8 ≤ blockLength.toNat → 1 ≤ blockCount.toNat → A ≠ BitVec.allOnes 64 →
        (fillOrTest (fillOrTest b blockLength A blockCount spdIoctlTransactReservedKind).1
          blockLength B blockCount spdIoctlTransactUnmapKind).2 = false) :=
  ⟨hashMix64_bijective, fun _ => hashMix64_eq_zero_iff,
    fun _ _ _ _ _ hBL hC hAB => fillOrTest_stamp_then_write_ne hBL hC hAB,
    fun _ _ _ _ B hBL hC hA => fillOrTest_stamp_then_unmap B hBL hC hA⟩

/-- One 512-byte block stamped for address 7 fails the Write test for address 8
and the Unmap test. -/
theorem fillOrTest_discriminates_block512 :
    8 ≤ (512 : BitVec 32).toNat ∧ 1 ≤ (1 : BitVec 32).toNat ∧ (7 : BitVec 64) ≠ 8 ∧
      (7 : BitVec 64) ≠ BitVec.allOnes 64 ∧
      (fillOrTest (fillOrTest (fun _ => 0) 512 7 1 spdIoctlTransactReservedKind).1 512 8 1
        spdIoctlTransactWriteKind).2 = false ∧
      (fillOrTest (fillOrTest (fun _ => 0) 512 7 1 spdIoctlTransactReservedKind).1 512 7 1
        spdIoctlTransactUnmapKind).2 = false :=
  ⟨by decide, by decide, by decide, by decide,
    fillOrTest_discriminates.2.2.1 (fun _ => 0) 512 1 7 8 (by decide) (by decide) (by decide),
    fillOrTest_discriminates.2.2.2 (fun _ => 0) 512 1 7 7 (by decide) (by decide) (by decide)⟩

end StgPipe
end WinSpd
