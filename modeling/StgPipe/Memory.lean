import Mathlib.Data.Nat.Defs
import Mathlib.Algebra.Group.Nat.Basic

/-!
# Byte buffers and little-endian words

The test client reaches its buffers through byte pointers and through
{lit}`PUINT64` views of the same bytes: {lit}`FillOrTest` stores and compares
whole 64-bit words at byte offsets that need not be multiples of eight, and the
unmap descriptor is written field by field into the data buffer.  This module
fixes the memory model shared by every later module: a buffer is the function
from byte offsets to bytes, and a word is read and written least significant
byte first, as on the x86 and x64 targets the program is built for.

Main results:

- Theorem {lit}`leValue_storeLE`: reading back a stored value gives the value
  reduced to the stored width.
- Theorem {lit}`leValue_eq_iff`: two little-endian reads agree exactly when the
  bytes they read agree.
- Theorems {lit}`loadU64_storeU64` and {lit}`loadU64_eq_iff`: a loaded word
  equals a given word exactly when its eight bytes are that word's bytes.
-/

namespace WinSpd
namespace StgPipe

/-- The contents of memory from a buffer's base address on, one byte per offset.
The allocation's size is not part of the contents: an access past it is
undefined in C, and the model's steps check for one before they make it (run's
data buffer against its {lit}`MaxTransferLength` bytes, in {lit}`runStep` and
{lit}`stgTransactRaw`). -/
abbrev Buffer := Nat → BitVec 8

/-- {lit}`memcpy (Dst, Src, N)`: the first {lit}`N` bytes of the source over the
destination. -/
def memcpy (Dst Src : Buffer) (N : Nat) : Buffer :=
  fun k => if k < N then Src k else Dst k

/-- {lit}`memset (Dst + Off, Value, N)`. -/
def memset (Dst : Buffer) (Off : Nat) (Value : BitVec 8) (N : Nat) : Buffer :=
  fun k => if Off ≤ k ∧ k < Off + N then Value else Dst k

/-- The buffer seen from a pointer {lit}`Off` bytes past its base. -/
def Buffer.drop (b : Buffer) (Off : Nat) : Buffer :=
  fun k => b (Off + k)

@[simp]
theorem memcpy_apply (Dst Src : Buffer) (N k : Nat) :
    memcpy Dst Src N k = if k < N then Src k else Dst k :=
  rfl

@[simp]
theorem memcpy_zero (Dst Src : Buffer) : memcpy Dst Src 0 = Dst :=
  funext fun k => if_neg (Nat.not_lt_zero k)

@[simp]
theorem memset_apply (Dst : Buffer) (Off : Nat) (Value : BitVec 8) (N k : Nat) :
    memset Dst Off Value N k = if Off ≤ k ∧ k < Off + N then Value else Dst k :=
  rfl

@[simp]
theorem Buffer.drop_apply (b : Buffer) (Off k : Nat) : b.drop Off k = b (Off + k) :=
  rfl

/-! ## Little-endian values -/

/-- The value of the {lit}`n` bytes at {lit}`Off`, least significant first. -/
def leValue (b : Buffer) (Off : Nat) : Nat → Nat
  | 0 => 0
  | n + 1 => (b Off).toNat + 256 * leValue b (Off + 1) n

/-- Store the low {lit}`n` bytes of {lit}`v` at {lit}`Off`, least significant first. -/
def storeLE (b : Buffer) (Off n v : Nat) : Buffer :=
  fun k => if Off ≤ k ∧ k < Off + n then BitVec.ofNat 8 (v / 256 ^ (k - Off)) else b k

theorem storeLE_apply_of_lt {b : Buffer} {Off n v k : Nat} (h : k < Off ∨ Off + n ≤ k) :
    storeLE b Off n v k = b k := by
  simp only [storeLE, if_neg (show ¬(Off ≤ k ∧ k < Off + n) by omega)]

theorem leValue_lt (b : Buffer) (Off n : Nat) : leValue b Off n < 256 ^ n := by
  induction n generalizing Off with
  | zero => simp [leValue]
  | succ n ih =>
    have hb := (b Off).isLt
    have := ih (Off + 1)
    simp only [leValue, Nat.pow_succ]
    omega

/-- A little-endian read depends only on the bytes it reads. -/
theorem leValue_congr {b b' : Buffer} {Off Off' n : Nat}
    (h : ∀ i < n, b (Off + i) = b' (Off' + i)) : leValue b Off n = leValue b' Off' n := by
  induction n generalizing Off Off' with
  | zero => rfl
  | succ n ih =>
    have h0 := h 0 (by omega)
    have hrest : leValue b (Off + 1) n = leValue b' (Off' + 1) n := ih fun i hi => by
      simpa [Nat.add_assoc, Nat.add_comm 1] using h (i + 1) (by omega)
    simp only [Nat.add_zero] at h0
    simp only [leValue, h0, hrest]

theorem leValue_eq_iff {b b' : Buffer} {Off Off' n : Nat} :
    leValue b Off n = leValue b' Off' n ↔ ∀ i < n, b (Off + i) = b' (Off' + i) := by
  refine ⟨fun h => ?_, leValue_congr⟩
  induction n generalizing Off Off' with
  | zero => intro i hi; omega
  | succ n ih =>
    have hb := (b Off).isLt
    have hb' := (b' Off').isLt
    simp only [leValue] at h
    have hhead : (b Off).toNat = (b' Off').toNat := by omega
    have hrest : ∀ i < n, b (Off + 1 + i) = b' (Off' + 1 + i) := ih (by omega)
    intro i hi
    cases i with
    | zero => exact BitVec.eq_of_toNat_eq hhead
    | succ i => simpa [Nat.add_assoc, Nat.add_comm 1] using hrest i (by omega)

theorem leValue_storeLE (b : Buffer) (Off n v : Nat) :
    leValue (storeLE b Off n v) Off n = v % 256 ^ n := by
  induction n generalizing Off v b with
  | zero => simp [leValue, Nat.mod_one]
  | succ n ih =>
    have hshift : leValue (storeLE b Off (n + 1) v) (Off + 1) n =
        leValue (storeLE b (Off + 1) n (v / 256)) (Off + 1) n := by
      apply leValue_congr
      intro i hi
      simp only [storeLE, Nat.div_div_eq_div_mul, ← Nat.pow_succ']
      rw [if_pos (by omega), if_pos (by omega)]
      congr 3
      omega
    simp only [leValue, hshift, ih, storeLE, if_pos (show Off ≤ Off ∧ Off < Off + (n + 1) by omega),
      Nat.sub_self, Nat.pow_zero, Nat.div_one, BitVec.toNat_ofNat]
    rw [show 256 ^ (n + 1) = 256 * 256 ^ n from Nat.pow_succ', Nat.mod_mul]

/-! ## 64-bit words -/

/-- Byte {lit}`i` of a 64-bit word in memory order. -/
def wordByte (w : BitVec 64) (i : Nat) : BitVec 8 :=
  BitVec.ofNat 8 (w.toNat / 256 ^ i)

/-- {lit}`*(PUINT64)(b + Off) = w`. -/
def storeU64 (b : Buffer) (Off : Nat) (w : BitVec 64) : Buffer :=
  storeLE b Off 8 w.toNat

/-- {lit}`*(PUINT32)(b + Off) = w`. -/
def storeU32 (b : Buffer) (Off : Nat) (w : BitVec 32) : Buffer :=
  storeLE b Off 4 w.toNat

/-- {lit}`*(PUINT64)(b + Off)`. -/
def loadU64 (b : Buffer) (Off : Nat) : BitVec 64 :=
  BitVec.ofNat 64 (leValue b Off 8)

theorem pow_256_eight : (256 : Nat) ^ 8 = 2 ^ 64 := rfl

theorem storeU64_apply (b : Buffer) (Off : Nat) (w : BitVec 64) (k : Nat) :
    storeU64 b Off w k = if Off ≤ k ∧ k < Off + 8 then wordByte w (k - Off) else b k :=
  rfl

theorem loadU64_storeU64 (b : Buffer) (Off : Nat) (w : BitVec 64) :
    loadU64 (storeU64 b Off w) Off = w := by
  apply BitVec.eq_of_toNat_eq
  simp only [loadU64, storeU64, leValue_storeLE, BitVec.toNat_ofNat, pow_256_eight]
  simp [Nat.mod_eq_of_lt w.isLt]

/-- A loaded word is {lit}`w` exactly when its eight bytes are the bytes of {lit}`w`. -/
theorem loadU64_eq_iff (b : Buffer) (Off : Nat) (w : BitVec 64) :
    loadU64 b Off = w ↔ ∀ i < 8, b (Off + i) = wordByte w i := by
  have hlt := leValue_lt b Off 8
  have hw : leValue (storeU64 b Off w) Off 8 = w.toNat := by
    simp only [storeU64, leValue_storeLE, pow_256_eight, Nat.mod_eq_of_lt w.isLt]
  have hbytes : ∀ i < 8, storeU64 b Off w (Off + i) = wordByte w i := fun i hi => by
    simp only [storeU64_apply, if_pos (show Off ≤ Off + i ∧ Off + i < Off + 8 by omega),
      Nat.add_sub_cancel_left]
  constructor
  · rintro rfl i hi
    rw [← hbytes i hi]
    refine (leValue_eq_iff.mp ?_) i hi
    rw [hw, loadU64, BitVec.toNat_ofNat, Nat.mod_eq_of_lt (pow_256_eight ▸ hlt)]
  · intro h
    apply BitVec.eq_of_toNat_eq
    rw [loadU64, BitVec.toNat_ofNat, Nat.mod_eq_of_lt (pow_256_eight ▸ hlt), ← hw]
    exact leValue_congr fun i hi => (h i hi).trans (hbytes i hi).symm

end StgPipe
end WinSpd
