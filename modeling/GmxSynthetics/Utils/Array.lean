import GmxSynthetics.Data.DataStore
import GmxSynthetics.Evm.Median
import Mathlib.Data.Nat.Bitwise

/-!
# Array, Bits and Uint256Mask

`Array.sol`, `Bits.sol` and `Uint256Mask.sol`, as far as the oracle uses them: values packed
into words, the median of sorted values, and a mask that takes each index once.

* `Array.getMedian_mem_Icc` — the median lies where a strict majority lies;
* `Uint256Mask.validateUniqueAndSetIndex_eq_ok` — a mask takes an index once.
-/

namespace GmxSynthetics

open Evm

-- ---------------------------------------------------------------------------
-- Bits.sol
-- ---------------------------------------------------------------------------

namespace Bits

def BITMASK_8 : Nat := (2 ^ 256 - 1) >>> (256 - 8)

def BITMASK_16 : Nat := (2 ^ 256 - 1) >>> (256 - 16)

def BITMASK_32 : Nat := (2 ^ 256 - 1) >>> (256 - 32)

def BITMASK_64 : Nat := (2 ^ 256 - 1) >>> (256 - 64)

end Bits

-- ---------------------------------------------------------------------------
-- Array.sol
-- ---------------------------------------------------------------------------

namespace Array

/-- `arr[index]`. -/
def read {α : Type} (arr : List α) (index : Nat) : Result α :=
  match arr[index]? with
  | some value => .ok value
  | none => .error (.panic .indexOutOfBounds)

theorem read_eq_ok {α : Type} {arr : List α} {index : Nat} {value : α} :
    read arr index = .ok value ↔ arr[index]? = some value := by
  unfold read
  cases arr[index]? <;> simp

theorem read_ofFn {α : Type} {n : Nat} {values : Fin n → α} {index : Nat} {value : α}
    (h : read (List.ofFn values) index = .ok value) :
    ∃ hlt : index < n, values ⟨index, hlt⟩ = value := by
  obtain ⟨hlt, hget⟩ := List.getElem?_eq_some_iff.mp (read_eq_ok.mp h)
  rw [List.length_ofFn] at hlt
  rw [List.getElem_ofFn] at hget
  exact ⟨hlt, hget⟩

def getMedian (arr : List Nat) : Result Nat := do
  if arr.length % 2 = 1 then
    read arr (arr.length / 2)
  else do
    -- the right operand of the sum is evaluated first
    let below ← read arr (← sub (arr.length / 2) 1)
    div (← add (← read arr (arr.length / 2)) below) 2

def getUncompactedValue (compactedValues : List Nat)
    (index compactedValueBitLength bitmask : Nat) (label : String) : Result Nat := do
  let compactedValuesPerSlot ← div 256 compactedValueBitLength
  let slotIndex ← div index compactedValuesPerSlot
  revertIf (slotIndex ≥ compactedValues.length)
    (.CompactedArrayOutOfBounds compactedValues index slotIndex label)
  let slotBits ← read compactedValues slotIndex
  let offset ← mul (← sub index (← mul slotIndex compactedValuesPerSlot)) compactedValueBitLength
  pure ((slotBits >>> offset) &&& bitmask)

/-- The median of sorted values lies in every interval that holds a strict majority of them. -/
theorem getMedian_mem_Icc {n : Nat} {values : Fin n → Nat} {median a b : Nat}
    (h : getMedian (List.ofFn values) = .ok median) (hsorted : Monotone values)
    (hmajority : n < 2 * (Finset.univ.filter fun k => values k ∈ Set.Icc a b).card) :
    median ∈ Set.Icc a b := by
  unfold getMedian at h
  rw [List.length_ofFn] at h
  split at h
  · rename_i hodd
    obtain ⟨hlt, rfl⟩ := read_ofFn h
    refine Median.mem_Icc_of_majority hsorted ?_ ?_ hmajority
    · show 2 * (n / 2) ≤ n
      omega
    · show n ≤ 2 * (n / 2 + 1)
      omega
  · rename_i heven
    simp only [Result.bind_eq_ok, add_eq_ok, sub_eq_ok, div_eq_ok] at h
    obtain ⟨_, ⟨-, rfl⟩, _, hy, _, hx, _, ⟨-, rfl⟩, -, rfl⟩ := h
    obtain ⟨hxlt, rfl⟩ := read_ofFn hx
    obtain ⟨hylt, rfl⟩ := read_ofFn hy
    apply Median.average_mem_Icc
    · refine Median.mem_Icc_of_majority hsorted ?_ ?_ hmajority
      · show 2 * (n / 2) ≤ n
        omega
      · show n ≤ 2 * (n / 2 + 1)
        omega
    · refine Median.mem_Icc_of_majority hsorted ?_ ?_ hmajority
      · show 2 * (n / 2 - 1) ≤ n
        omega
      · show n ≤ 2 * (n / 2 - 1 + 1)
        omega

end Array

-- ---------------------------------------------------------------------------
-- Uint256Mask.sol
-- ---------------------------------------------------------------------------

namespace Uint256Mask

structure Mask where
  bits : Nat
  deriving DecidableEq, Repr

/-- A mask in fresh memory. -/
def Mask.empty : Mask := ⟨0⟩

def validateUniqueAndSetIndex (mask : Mask) (index : Nat) (label : String) : Result Mask := do
  revertIf (index ≥ 256) (.MaskIndexOutOfBounds index label)
  let bit := 1 <<< index
  revertIf (mask.bits &&& bit ≠ 0) (.DuplicatedIndex index label)
  pure ⟨mask.bits ||| bit⟩

/-- The indices that a mask has taken. -/
def Mask.Taken (mask : Mask) (index : Nat) : Prop := mask.bits.testBit index = true

theorem and_shiftLeft_eq_zero {bits index : Nat} :
    bits &&& 1 <<< index = 0 ↔ bits.testBit index = false := by
  rw [Nat.shiftLeft_eq, Nat.one_mul, Nat.and_two_pow]
  cases bits.testBit index <;> simp

/-- A mask takes an index that it has not taken, and no other with it. -/
theorem validateUniqueAndSetIndex_eq_ok {mask mask' : Mask} {index : Nat} {label : String}
    (h : validateUniqueAndSetIndex mask index label = .ok mask') :
    ¬ mask.Taken index ∧ ∀ other, mask'.Taken other ↔ mask.Taken other ∨ other = index := by
  simp only [validateUniqueAndSetIndex, Result.bind_eq_ok, revertIf, Result.revertIf_eq_ok,
    Result.pure_eq_ok, not_not] at h
  obtain ⟨-, -, -, hbit, rfl⟩ := h
  rw [and_shiftLeft_eq_zero] at hbit
  constructor
  · simp [Mask.Taken, hbit]
  · intro other
    simp only [Mask.Taken, Nat.testBit_or, Nat.shiftLeft_eq, Nat.one_mul, Nat.testBit_two_pow,
      Bool.or_eq_true, decide_eq_true_eq]
    rw [eq_comm (a := index)]

/-- Indices that a mask can still take one after the other. -/
def Mask.Free (mask : Mask) (indices : List Nat) : Prop :=
  indices.Nodup ∧ ∀ index ∈ indices, ¬ mask.Taken index

theorem Mask.free_nil (mask : Mask) : mask.Free [] :=
  ⟨List.nodup_nil, fun _ hmem => absurd hmem List.not_mem_nil⟩

/-- What is free after an index has been taken was free before, and is another index. -/
theorem Mask.Free.cons {mask mask' : Mask} {index : Nat} {label : String} {indices : List Nat}
    (h : mask'.Free indices) (hset : validateUniqueAndSetIndex mask index label = .ok mask') :
    mask.Free (index :: indices) := by
  obtain ⟨hfree, htaken⟩ := validateUniqueAndSetIndex_eq_ok hset
  obtain ⟨hnodup, hnot⟩ := h
  constructor
  · refine List.nodup_cons.mpr ⟨fun hmem => ?_, hnodup⟩
    exact hnot index hmem ((htaken index).mpr (Or.inr rfl))
  · intro other hmem
    rcases List.mem_cons.mp hmem with rfl | hmem
    · exact hfree
    · exact fun ht => hnot other hmem ((htaken other).mpr (Or.inl ht))

end Uint256Mask

end GmxSynthetics
