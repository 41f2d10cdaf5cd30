import StgPipe.Workload

/-!
# The OpSet loop

Before its main loop, run fills its array {lit}`UINT8 OpKinds [32]` from the
16-bit code units of the wide string {lit}`OpSet`.  It visits at most 32 units
and stops at the terminating NUL; the kind of each R, W, F or U, in either case,
is stored at {lit}`OpKinds [OpKindCount++]`, and every other unit is skipped.
When no unit was a kind, Write and Read are stored.  The array is modelled with
a slot for every index, so that a store past {lit}`OpKinds [31]` would be
visible, and its initial contents are arbitrary, as in the uninitialized local
array.

The loop is a sequence of stores: {lit}`pushAll` stores a list of kinds one after
the other, and the loop stores the kinds of the first 32 units before the NUL
(theorem {lit}`parseOpKinds_eq`).

Main results:

- Theorem {lit}`runOpKinds_eq`: the loop and the default stores leave
  {lit}`OpKinds` holding {lit}`parseOpSet` of the units before the NUL.
- Theorem {lit}`runOpKinds_correct`: between one and 32 kinds are stored, no
  store goes past {lit}`OpKinds [31]`, and every index {lit}`I % OpKindCount`
  is a stored slot.
-/

namespace WinSpd
namespace StgPipe

/-! ## The array and its count -/

/-- The variables the OpSet loop writes: the slots of {lit}`OpKinds`, indexed
without bound, and {lit}`OpKindCount`. -/
structure OpKindsState where
  opKinds : Nat → BitVec 8
  opKindCount : Nat

/-- {lit}`OpKinds [OpKindCount++] = kind`. -/
def OpKindsState.push (s : OpKindsState) (kind : BitVec 8) : OpKindsState :=
  ⟨fun i => if i = s.opKindCount then kind else s.opKinds i, s.opKindCount + 1⟩

/-- The stores of a list of kinds, one after the other. -/
def OpKindsState.pushAll (s : OpKindsState) (kinds : List (BitVec 8)) : OpKindsState :=
  kinds.foldl OpKindsState.push s

/-- The terminating NUL of {lit}`OpSet`. -/
def nul : BitVec 16 := 0

/-- The loop over {lit}`OpSet` from unit {lit}`I`, whose units from {lit}`I` on are
{lit}`cs` followed by the NUL: it runs while {lit}`32 > I` and the unit is not the
NUL, and stores the kind of each unit that names one. -/
def parseOpKinds : List (BitVec 16) → Nat → OpKindsState → OpKindsState
  | [], _, s => s
  | c :: cs, I, s =>
    if 32 > I ∧ c ≠ nul then
      parseOpKinds cs (I + 1)
        (match opKindOfChar c with
          | some kind => s.push kind
          | none => s)
    else s

/-- The OpSet loop from {lit}`OpKindCount = 0`, then the stores of Write and Read
when it stored nothing. -/
def runOpKinds (opSet : List (BitVec 16)) (opKinds : Nat → BitVec 8) : OpKindsState :=
  let s := parseOpKinds opSet 0 ⟨opKinds, 0⟩
  if s.opKindCount = 0 then (s.push spdIoctlTransactWriteKind).push spdIoctlTransactReadKind
  else s

/-! ## The stores -/

section Stores

variable (s : OpKindsState)

@[simp]
theorem OpKindsState.pushAll_nil : s.pushAll [] = s := rfl

@[simp]
theorem OpKindsState.pushAll_cons (kind : BitVec 8) (kinds : List (BitVec 8)) :
    s.pushAll (kind :: kinds) = (s.push kind).pushAll kinds := rfl

theorem OpKindsState.pushAll_opKindCount (kinds : List (BitVec 8)) :
    (s.pushAll kinds).opKindCount = s.opKindCount + kinds.length := by
  induction kinds generalizing s with
  | nil => rfl
  | cons kind kinds ih =>
    rw [pushAll_cons, ih]
    simp only [push, List.length_cons]
    omega

/-- The stores of a list of kinds put its {lit}`n`-th kind at
{lit}`OpKindCount + n` and leave every other slot as it was. -/
theorem OpKindsState.pushAll_opKinds (kinds : List (BitVec 8)) (i : Nat) :
    (s.pushAll kinds).opKinds i =
      if s.opKindCount ≤ i ∧ i < s.opKindCount + kinds.length then
        kinds.getD (i - s.opKindCount) 0
      else s.opKinds i := by
  induction kinds generalizing s with
  | nil =>
    rw [pushAll_nil, if_neg]
    simp only [List.length_nil, Nat.add_zero]
    omega
  | cons kind kinds ih =>
    rw [pushAll_cons, ih]
    simp only [push, List.length_cons]
    by_cases hi : i = s.opKindCount
    · subst hi
      rw [if_neg (by omega), if_pos rfl, if_pos ⟨Nat.le_refl _, by omega⟩, Nat.sub_self,
        List.getD_cons_zero]
    · by_cases hin : s.opKindCount + 1 ≤ i ∧ i < s.opKindCount + 1 + kinds.length
      · obtain ⟨n, rfl⟩ : ∃ n, i = s.opKindCount + 1 + n := ⟨i - (s.opKindCount + 1), by omega⟩
        rw [if_pos hin, if_pos ⟨by omega, by omega⟩, show s.opKindCount + 1 + n - s.opKindCount =
          n + 1 by omega, List.getD_cons_succ, Nat.add_sub_cancel_left]
      · rw [if_neg hin, if_neg hi, if_neg (by omega)]

/-- Stored from a zero count, the slots below the count list the kinds stored. -/
theorem OpKindsState.map_range_pushAll (opKinds : Nat → BitVec 8) (kinds : List (BitVec 8)) :
    (List.range (OpKindsState.pushAll ⟨opKinds, 0⟩ kinds).opKindCount).map
        (OpKindsState.pushAll ⟨opKinds, 0⟩ kinds).opKinds = kinds := by
  rw [pushAll_opKindCount, Nat.zero_add]
  refine List.ext_getElem (by simp) fun n h1 h2 => ?_
  rw [List.getElem_map, List.getElem_range, pushAll_opKinds,
    if_pos ⟨Nat.zero_le n, by simpa using h2⟩, Nat.sub_zero, List.getD_eq_getElem?_getD,
    List.getElem?_eq_getElem h2, Option.getD_some]

end Stores

/-! ## The loop -/

/-- The loop from unit {lit}`I` stores the kinds of the units before the NUL, at
most {lit}`32 - I` of them. -/
theorem parseOpKinds_eq (cs : List (BitVec 16)) (I : Nat) (s : OpKindsState) :
    parseOpKinds cs I s =
      s.pushAll (((cs.takeWhile fun c => c != nul).take (32 - I)).filterMap opKindOfChar) := by
  induction cs generalizing I s with
  | nil => rw [List.takeWhile_nil, List.take_nil, List.filterMap_nil]; rfl
  | cons c cs ih =>
    rw [parseOpKinds]
    by_cases h : 32 > I ∧ c ≠ nul
    · have hc : (c != nul) = true := bne_iff_ne.mpr h.2
      rw [if_pos h, ih, List.takeWhile_cons_of_pos (p := fun c => c != nul) hc,
        show 32 - I = 32 - (I + 1) + 1 by omega, List.take_succ_cons]
      cases hk : opKindOfChar c with
      | none => rw [List.filterMap_cons_none hk]
      | some kind => rw [List.filterMap_cons_some hk, OpKindsState.pushAll_cons]
    · rw [if_neg h]
      by_cases hc : c = nul
      · rw [List.takeWhile_cons_of_neg (p := fun c => c != nul) (by simp [hc]), List.take_nil]
        rfl
      · rw [Nat.sub_eq_zero_of_le (not_lt.mp fun hI => h ⟨hI, hc⟩), List.take_zero]
        rfl

/-- The loop and the default stores leave {lit}`OpKinds` holding {lit}`parseOpSet`
of the units of {lit}`OpSet` before its NUL. -/
theorem runOpKinds_eq (opSet : List (BitVec 16)) (opKinds : Nat → BitVec 8) :
    runOpKinds opSet opKinds =
      OpKindsState.pushAll ⟨opKinds, 0⟩ (parseOpSet (opSet.takeWhile fun c => c != nul)) := by
  rw [runOpKinds, parseOpKinds_eq, parseOpSet]
  by_cases hk : ((opSet.takeWhile fun c => c != nul).take (32 - 0)).filterMap opKindOfChar = []
  · rw [hk]
    rfl
  · rw [if_neg hk, if_neg (by rw [OpKindsState.pushAll_opKindCount]; simpa using hk)]

/-- The loop leaves {lit}`OpKinds [0, OpKindCount)` holding the parsed kinds, between
one and 32 of them, stores nothing past {lit}`OpKinds [31]`, and every index
{lit}`I % OpKindCount` that the main loop reads is a slot it stored. -/
theorem runOpKinds_correct (opSet : List (BitVec 16)) (init : Nat → BitVec 8) :
    match runOpKinds opSet init with
    | ⟨opKinds, opKindCount⟩ =>
      (List.range opKindCount).map opKinds = parseOpSet (opSet.takeWhile fun c => c != nul) ∧
        1 ≤ opKindCount ∧ opKindCount ≤ 32 ∧ (∀ i, 32 ≤ i → opKinds i = init i) ∧
        ∀ I, I % opKindCount < opKindCount ∧
          opKinds (I % opKindCount) =
            (parseOpSet (opSet.takeWhile fun c => c != nul)).getD (I % opKindCount) 0 := by
  have hpos := List.length_pos.mpr (parseOpSet_ne_nil (opSet.takeWhile fun c => c != nul))
  have hle := length_parseOpSet_le (opSet.takeWhile fun c => c != nul)
  have hs := runOpKinds_eq opSet init
  generalize parseOpSet (opSet.takeWhile fun c => c != nul) = kinds at *
  have hmap := OpKindsState.map_range_pushAll init kinds
  have hslot := OpKindsState.pushAll_opKinds ⟨init, 0⟩ kinds
  have hcount := OpKindsState.pushAll_opKindCount ⟨init, 0⟩ kinds
  rw [← hs] at hmap hslot hcount
  generalize runOpKinds opSet init = s at *
  obtain ⟨opKinds, opKindCount⟩ := s
  simp only [Nat.zero_le, true_and, Nat.zero_add, Nat.sub_zero] at hmap hslot hcount ⊢
  subst hcount
  refine ⟨hmap, hpos, hle, fun i hi => by rw [hslot, if_neg (by omega)], fun I => ?_⟩
  have hI : I % kinds.length < kinds.length := Nat.mod_lt _ hpos
  exact ⟨hI, by rw [hslot, if_pos hI]⟩

end StgPipe
end WinSpd
