import GmxSynthetics.Evm.Lanes
import GmxSynthetics.Oracle.OracleUtils

/-!
# Compacted oracle values

`getCompactedValues` of `utils/oracle.ts`, by which a keeper packs values into words, and the
readers of `Array.sol` and `OracleUtils.sol` that unpack them on chain. A decimal string of the
script is the number that it denotes.

* `getCompactedValues_spec` — the values lie in the lanes of the words, in order;
* `getUncompactedValue_eq` — a read is a lane, or reverts past the last word;
* `compactedValues_roundTrip` — what was packed is read back.
-/

namespace GmxSynthetics

open Evm

-- ---------------------------------------------------------------------------
-- utils/oracle.ts
-- ---------------------------------------------------------------------------

namespace CompactedValues

/-- The loop over `j` with `count` rounds to go: the bits of slot `i`, and `shouldExit`. -/
def packSlot (values : List Nat) (compactedValueBitLength maxValue compactedValuesPerSlot i : Nat) :
    Nat → Nat → Nat → Except String (Nat × Bool)
  | 0, _, valueBits => .ok (valueBits, false)
  | count + 1, j, valueBits =>
    match values[i * compactedValuesPerSlot + j]? with
    | none => .ok (valueBits, true)
    | some value =>
      if maxValue < value then .error s!"Max value exceeded: {value}"
      else packSlot values compactedValueBitLength maxValue compactedValuesPerSlot i count (j + 1)
        (valueBits ||| value <<< (j * compactedValueBitLength))

/-- The loop over `i` with `count` rounds to go. -/
def packSlots (values : List Nat) (compactedValueBitLength maxValue compactedValuesPerSlot : Nat) :
    Nat → Nat → List Nat → Except String (List Nat)
  | 0, _, compactedValues => .ok compactedValues
  | count + 1, i, compactedValues => do
    let (valueBits, shouldExit) ← packSlot values compactedValueBitLength maxValue
      compactedValuesPerSlot i compactedValuesPerSlot 0 0
    let compactedValues := compactedValues ++ [valueBits]
    if shouldExit then pure compactedValues
    else do
      packSlots values compactedValueBitLength maxValue compactedValuesPerSlot count (i + 1)
        compactedValues

def getCompactedValues (values : List Nat) (compactedValueBitLength maxValue : Nat) :
    Except String (List Nat) :=
  let compactedValuesPerSlot := 256 / compactedValueBitLength
  -- `Math.floor` rounds down, below zero too
  let slots := Int.fdiv (values.length - 1) compactedValuesPerSlot + 1
  packSlots values compactedValueBitLength maxValue compactedValuesPerSlot slots.toNat 0 []

def MAX_UINT8 : Nat := 2 ^ 8 - 1

def MAX_UINT32 : Nat := 2 ^ 32 - 1

def MAX_UINT64 : Nat := 2 ^ 64 - 1

-- ---------------------------------------------------------------------------
-- Packing
-- ---------------------------------------------------------------------------

/-- The lanes of slot `i` below lane `stop` hold the values from `i * perSlot` on, and zeros past
the last of them. -/
def Holds (width perSlot : Nat) (values : List Nat) (i stop word : Nat) : Prop :=
  ∀ l < stop, Lanes.lane width word l = values.getD (i * perSlot + l) 0

theorem Holds.step {width perSlot i j word value : Nat} {values : List Nat}
    (h : Holds width perSlot values i j word) (hfree : word < 2 ^ (j * width))
    (hvalue : value < 2 ^ width) (hget : values[i * perSlot + j]? = some value) :
    Holds width perSlot values i (j + 1) (word ||| value <<< (j * width)) := by
  intro l hl
  rcases Nat.lt_succ_iff_lt_or_eq.mp hl with hlt | rfl
  · rw [Lanes.lane_or_shiftLeft_of_lt hlt]
    exact h l hlt
  · rw [Lanes.lane_or_shiftLeft hfree hvalue, List.getD_eq_getElem?_getD, hget]
    rfl

/-- Past the end of the values, the lanes that are left are free. -/
theorem Holds.of_end {width perSlot i j word stop : Nat} {values : List Nat}
    (h : Holds width perSlot values i j word) (hfree : word < 2 ^ (j * width))
    (hend : values.length ≤ i * perSlot + j) : Holds width perSlot values i stop word := by
  intro l _
  rcases Nat.lt_or_ge l j with hlt | hge
  · exact h l hlt
  · rw [Lanes.lane_of_free hfree hge, List.getD_eq_default]
    omega

/-- What packing one slot leaves: its lanes hold the values, and the exit is taken when they
have come to an end within the slot. -/
theorem packSlot_spec {values : List Nat} {width maxValue perSlot i : Nat}
    (hmax : ∀ value ∈ values, value ≤ maxValue) (hwidth : ∀ value ∈ values, value < 2 ^ width) :
    ∀ (count j valueBits : Nat), count + j = perSlot → valueBits < 2 ^ (j * width) →
      Holds width perSlot values i j valueBits →
      ∃ word, packSlot values width maxValue perSlot i count j valueBits =
          .ok (word, decide (0 < count ∧ values.length < (i + 1) * perSlot)) ∧
        word < 2 ^ (perSlot * width) ∧ Holds width perSlot values i perSlot word := by
  intro count
  induction count with
  | zero =>
    intro j valueBits hj hfree hholds
    obtain rfl : j = perSlot := by omega
    refine ⟨valueBits, ?_, hfree, hholds⟩
    simp [packSlot]
  | succ count ih =>
    intro j valueBits hj hfree hholds
    have hslot : (i + 1) * perSlot = i * perSlot + perSlot := Nat.succ_mul i perSlot
    rw [packSlot]
    cases hget : values[i * perSlot + j]? with
    | none =>
      have hend : values.length ≤ i * perSlot + j := List.getElem?_eq_none_iff.mp hget
      refine ⟨valueBits, ?_, ?_, hholds.of_end hfree hend⟩
      · rw [decide_eq_true]
        omega
      · exact Nat.lt_of_lt_of_le hfree
          (Nat.pow_le_pow_right (by decide) (Nat.mul_le_mul_right _ (by omega)))
    | some value =>
      have hmem : value ∈ values := List.mem_of_getElem? hget
      have hlt : i * perSlot + j < values.length := (List.getElem?_eq_some_iff.mp hget).1
      obtain ⟨word, hrun, hword⟩ := ih (j + 1) (valueBits ||| value <<< (j * width)) (by omega)
        (Lanes.or_shiftLeft_lt hfree (hwidth value hmem))
        (hholds.step hfree (hwidth value hmem) hget)
      refine ⟨word, ?_, hword⟩
      show (if maxValue < value then _ else _) = _
      rw [if_neg (Nat.not_lt_of_le (hmax value hmem)), hrun]
      have hexit : (0 < count ∧ values.length < (i + 1) * perSlot) ↔
          (0 < count + 1 ∧ values.length < (i + 1) * perSlot) := by
        omega
      rw [decide_eq_decide.mpr hexit]

/-- The words hold the values, slot after slot. -/
structure Packed (width perSlot : Nat) (values : List Nat) (slots : Nat) (packed : List Nat) :
    Prop where
  length_eq : packed.length = slots
  holds : ∀ i word, packed[i]? = some word →
    word < 2 ^ (perSlot * width) ∧ Holds width perSlot values i perSlot word

theorem Packed.nil {width perSlot : Nat} {values : List Nat} :
    Packed width perSlot values 0 [] where
  length_eq := rfl
  holds i word h := by simp at h

theorem Packed.append {width perSlot slots word : Nat} {values packed : List Nat}
    (h : Packed width perSlot values slots packed) (hword : word < 2 ^ (perSlot * width))
    (hholds : Holds width perSlot values slots perSlot word) :
    Packed width perSlot values (slots + 1) (packed ++ [word]) where
  length_eq := by rw [List.length_append, h.length_eq, List.length_singleton]
  holds i word' hget := by
    rcases Nat.lt_or_ge i packed.length with hlt | hge
    · rw [List.getElem?_append_left hlt] at hget
      exact h.holds i word' hget
    · rw [List.getElem?_append_right hge] at hget
      obtain ⟨hlast, rfl⟩ := List.getElem?_eq_some_iff.mp hget
      rw [List.length_singleton] at hlast
      obtain rfl : i = slots := by
        have := h.length_eq
        omega
      rw [List.getElem_singleton]
      exact ⟨hword, hholds⟩

theorem packSlots_spec {values : List Nat} {width maxValue perSlot : Nat} (hslot : 0 < perSlot)
    (hmax : ∀ value ∈ values, value ≤ maxValue) (hwidth : ∀ value ∈ values, value < 2 ^ width) :
    ∀ (count i : Nat) (compactedValues : List Nat),
      count + i = (values.length + perSlot - 1) / perSlot →
      Packed width perSlot values i compactedValues →
      ∃ packed, packSlots values width maxValue perSlot count i compactedValues = .ok packed ∧
        Packed width perSlot values ((values.length + perSlot - 1) / perSlot) packed := by
  intro count
  induction count with
  | zero =>
    intro i compactedValues hi hpacked
    rw [Nat.zero_add] at hi
    exact ⟨compactedValues, rfl, hi ▸ hpacked⟩
  | succ count ih =>
    intro i compactedValues hi hpacked
    obtain ⟨word, hrun, hword, hholds⟩ := packSlot_spec (i := i) hmax hwidth perSlot 0 0
      (Nat.add_zero _) (by rw [Nat.zero_mul]; decide) (fun l hl => absurd hl (Nat.not_lt_zero l))
    have happend := hpacked.append hword hholds
    rw [packSlots, hrun]
    by_cases hexit : 0 < perSlot ∧ values.length < (i + 1) * perSlot
    · rw [decide_eq_true hexit]
      -- the values end within this slot: the loop had one round to go
      have hlast : (values.length + perSlot - 1) / perSlot = i + 1 := by
        have hend := hexit.2
        have hle : (values.length + perSlot - 1) / perSlot < i + 2 := by
          rw [Nat.div_lt_iff_lt_mul hslot, Nat.succ_mul]
          omega
        omega
      exact ⟨_, rfl, hlast ▸ happend⟩
    · rw [decide_eq_false hexit]
      exact ih (i + 1) _ (by omega) happend

/-- The rounds of the outer loop. -/
theorem slots_eq {length perSlot : Nat} (hslot : 0 < perSlot) :
    (Int.fdiv (length - 1) perSlot + 1).toNat = (length + perSlot - 1) / perSlot := by
  rw [Int.fdiv_eq_ediv_of_nonneg _ (Int.natCast_nonneg _)]
  have hlength : ((length : Int) - 1) / perSlot + 1 =
      ((length + perSlot - 1 : Nat) : Int) / perSlot := by
    have hne : (perSlot : Int) ≠ 0 := by omega
    rw [← Int.add_mul_ediv_right _ 1 hne, Int.one_mul]
    congr 1
    omega
  rw [hlength, ← Int.natCast_ediv, Int.toNat_natCast]

/-- **Encoding.** Values that fit their width are packed into as few words as they need. -/
theorem getCompactedValues_spec {values : List Nat} {width maxValue : Nat} (hpos : 0 < width)
    (hle : width ≤ 256) (hmax : ∀ value ∈ values, value ≤ maxValue)
    (hwidth : ∀ value ∈ values, value < 2 ^ width) :
    ∃ packed, getCompactedValues values width maxValue = .ok packed ∧
      Packed width (256 / width) values ((values.length + 256 / width - 1) / (256 / width))
        packed := by
  have hslot : 0 < 256 / width := Nat.div_pos hle hpos
  simp only [getCompactedValues, slots_eq hslot]
  exact packSlots_spec hslot hmax hwidth _ 0 [] (Nat.add_zero _) Packed.nil

-- ---------------------------------------------------------------------------
-- Reading
-- ---------------------------------------------------------------------------

/-- A read is the lane at its index, or reverts past the last word. -/
theorem getUncompactedValue_eq {compactedValues : List Nat} {width index : Nat} {label : String}
    (hpos : 0 < width) (hle : width ≤ 256) (hindex : index < uintBound) :
    Array.getUncompactedValue compactedValues index width (2 ^ width - 1) label =
      match compactedValues[index / (256 / width)]? with
      | some word => .ok (Lanes.lane width word (index % (256 / width)))
      | none => .error (.custom
          (.CompactedArrayOutOfBounds compactedValues index (index / (256 / width)) label)) := by
  have hslot : 0 < 256 / width := Nat.div_pos hle hpos
  have hdiv : (div 256 width : Result Nat) = .ok (256 / width) :=
    div_eq_ok.mpr ⟨Nat.pos_iff_ne_zero.mp hpos, rfl⟩
  have hslotIndex : (div index (256 / width) : Result Nat) = .ok (index / (256 / width)) :=
    div_eq_ok.mpr ⟨Nat.pos_iff_ne_zero.mp hslot, rfl⟩
  have hstart : index / (256 / width) * (256 / width) ≤ index := Nat.div_mul_le_self _ _
  have hmul : (mul (index / (256 / width)) (256 / width) : Result Nat) =
      .ok (index / (256 / width) * (256 / width)) :=
    mul_eq_ok.mpr ⟨Nat.lt_of_le_of_lt hstart hindex, rfl⟩
  have hlane : index - index / (256 / width) * (256 / width) = index % (256 / width) := by
    rw [Nat.mul_comm, ← Nat.mod_eq_sub_mul_div]
  have hoffset : (mul (index % (256 / width)) width : Result Nat) =
      .ok (index % (256 / width) * width) := by
    have hlt := Nat.mul_lt_mul_of_pos_right (Nat.mod_lt index hslot) hpos
    have hword : 256 / width * width ≤ 256 := Nat.div_mul_le_self _ _
    exact mul_eq_ok.mpr ⟨Nat.lt_of_lt_of_le hlt (Nat.le_trans hword (by decide)), rfl⟩
  unfold Array.getUncompactedValue
  rw [hdiv, Result.ok_bind, hslotIndex, Result.ok_bind]
  cases hget : compactedValues[index / (256 / width)]? with
  | none =>
    have hend : compactedValues.length ≤ index / (256 / width) := List.getElem?_eq_none_iff.mp hget
    rw [revertIf, Result.revertIf, if_pos hend]
    rfl
  | some word =>
    have hin : index / (256 / width) < compactedValues.length :=
      (List.getElem?_eq_some_iff.mp hget).1
    rw [revertIf, Result.revertIf_bind_of_not (Nat.not_le_of_lt hin), Array.read_eq_ok.mpr hget,
      Result.ok_bind, hmul, Result.ok_bind, sub_bind_of_le hstart, hlane, hoffset]
    rfl

/-- A read reverts exactly past the last word. -/
theorem getUncompactedValue_reverts_iff {compactedValues : List Nat} {width index : Nat}
    {label : String} (hpos : 0 < width) (hle : width ≤ 256) (hindex : index < uintBound) :
    (∃ reason, Array.getUncompactedValue compactedValues index width (2 ^ width - 1) label =
        .error reason) ↔ compactedValues.length ≤ index / (256 / width) := by
  rw [getUncompactedValue_eq hpos hle hindex, ← List.getElem?_eq_none_iff]
  cases compactedValues[index / (256 / width)]? <;> simp

/-- What was packed is read back. -/
theorem Packed.read {values packed : List Nat} {width slots i : Nat} {label : String}
    (h : Packed width (256 / width) values slots packed)
    (hslots : slots = (values.length + 256 / width - 1) / (256 / width)) (hpos : 0 < width)
    (hle : width ≤ 256) (hi : i < values.length) (hindex : i < uintBound) :
    Array.getUncompactedValue packed i width (2 ^ width - 1) label = .ok (values.get ⟨i, hi⟩) := by
  have hslot : 0 < 256 / width := Nat.div_pos hle hpos
  have hin : i / (256 / width) < packed.length := by
    rw [h.length_eq, hslots, Nat.div_lt_iff_lt_mul hslot]
    have hceil := Nat.lt_div_mul_add (a := values.length + 256 / width - 1) hslot
    omega
  have hget : packed[i / (256 / width)]? = some (packed[i / (256 / width)]) :=
    List.getElem?_eq_getElem hin
  have hlane := (h.holds _ _ hget).2 (i % (256 / width)) (Nat.mod_lt i hslot)
  rw [getUncompactedValue_eq hpos hle hindex, hget]
  show (.ok (Lanes.lane width _ _) : Result Nat) = _
  rw [hlane, Nat.div_add_mod', List.getD_eq_getElem _ _ hi]
  rfl

/-- The bit lengths of the protocol. -/
inductive BitLength where
  | uint8
  | uint32
  | uint64
  deriving DecidableEq, Repr

def BitLength.bits : BitLength → Nat
  | .uint8 => 8
  | .uint32 => 32
  | .uint64 => 64

def BitLength.maxValue : BitLength → Nat
  | .uint8 => MAX_UINT8
  | .uint32 => MAX_UINT32
  | .uint64 => MAX_UINT64

def BitLength.bitmask : BitLength → Nat
  | .uint8 => Bits.BITMASK_8
  | .uint32 => Bits.BITMASK_32
  | .uint64 => Bits.BITMASK_64

theorem BitLength.bits_pos (b : BitLength) : 0 < b.bits := by
  cases b <;> decide

theorem BitLength.bits_le (b : BitLength) : b.bits ≤ 256 := by
  cases b <;> decide

theorem BitLength.maxValue_eq (b : BitLength) : b.maxValue = 2 ^ b.bits - 1 := by
  cases b <;> rfl

theorem BitLength.bitmask_eq (b : BitLength) : b.bitmask = 2 ^ b.bits - 1 := by
  cases b <;> decide

theorem BitLength.slot_le (b : BitLength) : 2 ^ (256 / b.bits * b.bits) ≤ uintBound := by
  cases b <;> decide

/-- A read that reverts with `reason` in place of a zero. -/
def rejectZero (reason : Errors) : Result Nat → Result Nat
  | .ok 0 => .error (.custom reason)
  | read => read

theorem revertIf_zero_eq {read : Result Nat} {reason : Errors} :
    (do let value ← read; revertIf (value = 0) reason; pure value) = rejectZero reason read := by
  rcases read with error | value
  · rfl
  · rcases value with _ | value <;> rfl

/-- **Round trip.** Values below `2 ^ b` are packed into words, and the value at an index below
the length is read back from them. A read of words reverts exactly when its slot is past the
last word; the readers of prices, block numbers and timestamps revert on a zero besides, and
read everything else as it is. -/
theorem compactedValues_roundTrip (b : BitLength) {values : List Nat}
    (hvalues : ∀ value ∈ values, value < 2 ^ b.bits) :
    (∃ packed, getCompactedValues values b.bits b.maxValue = .ok packed ∧
      (∀ word ∈ packed, word < uintBound) ∧
      ∀ (i : Nat) (hi : i < values.length) (label : String), i < uintBound →
        Array.getUncompactedValue packed i b.bits b.bitmask label = .ok (values.get ⟨i, hi⟩)) ∧
    (∀ (compactedValues : List Nat) (index : Nat) (label : String), index < uintBound →
      ((∃ reason, Array.getUncompactedValue compactedValues index b.bits b.bitmask label =
          .error reason) ↔ compactedValues.length ≤ index / (256 / b.bits))) ∧
    ∀ (compactedValues : List Nat) (index : Nat),
      OracleUtils.getUncompactedPrice compactedValues index =
        rejectZero (.EmptyCompactedPrice index)
          (Array.getUncompactedValue compactedValues index BitLength.uint32.bits
            BitLength.uint32.bitmask "getUncompactedPrice") ∧
      OracleUtils.getUncompactedOracleBlockNumber compactedValues index =
        rejectZero (.EmptyCompactedBlockNumber index)
          (Array.getUncompactedValue compactedValues index BitLength.uint64.bits
            BitLength.uint64.bitmask "getUncompactedOracleBlockNumber") ∧
      OracleUtils.getUncompactedOracleTimestamp compactedValues index =
        rejectZero (.EmptyCompactedTimestamp index)
          (Array.getUncompactedValue compactedValues index BitLength.uint64.bits
            BitLength.uint64.bitmask "getUncompactedOracleTimestamp") := by
  refine ⟨?_, ?_, ?_⟩
  · have hmax : ∀ value ∈ values, value ≤ b.maxValue := by
      intro value hmem
      rw [b.maxValue_eq]
      exact Nat.le_sub_one_of_lt (hvalues value hmem)
    obtain ⟨packed, hrun, hpacked⟩ := getCompactedValues_spec b.bits_pos b.bits_le hmax hvalues
    refine ⟨packed, hrun, ?_, ?_⟩
    · intro word hmem
      obtain ⟨i, hget⟩ := List.getElem?_of_mem hmem
      exact Nat.lt_of_lt_of_le (hpacked.holds i word hget).1 b.slot_le
    · intro i hi label hindex
      rw [b.bitmask_eq]
      exact hpacked.read rfl b.bits_pos b.bits_le hi hindex
  · intro compactedValues index label hindex
    rw [b.bitmask_eq]
    exact getUncompactedValue_reverts_iff b.bits_pos b.bits_le hindex
  · intro compactedValues index
    exact ⟨revertIf_zero_eq, revertIf_zero_eq, revertIf_zero_eq⟩

/-- Five values do not fill their second word. -/
theorem compactedValues_roundTrip_five :
    ∃ packed, getCompactedValues [7, 0, 9, 11, 5] 64 MAX_UINT64 = .ok packed ∧
      Array.getUncompactedValue packed 4 64 Bits.BITMASK_64 "timestamp" = .ok 5 := by
  obtain ⟨⟨packed, hrun, -, hread⟩, -⟩ :=
    compactedValues_roundTrip .uint64 (show ∀ value ∈ [7, 0, 9, 11, 5], value < 2 ^ 64 by decide)
  exact ⟨packed, hrun, hread 4 (by decide) "timestamp" (by decide)⟩

end CompactedValues

end GmxSynthetics
