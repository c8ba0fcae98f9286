import Mathlib.Data.Nat.Bitwise

/-!
# Lanes of a word

Numbers of a fixed width side by side in the bits of a word, the first in the lowest bits.

* `lane_or_shiftLeft` — a number that is put into the first free lane is read back;
* `lane_or_shiftLeft_of_lt` — the lanes below it keep theirs;
* `or_shiftLeft_lt` — the next lane is free then.
-/

namespace Evm.Lanes

/-- The number in lane `j` of a word. -/
def lane (width word j : Nat) : Nat := word >>> (j * width) &&& (2 ^ width - 1)

variable {width word value j : Nat}

theorem testBit_lane (k : Nat) :
    (lane width word j).testBit k = (word.testBit (j * width + k) && decide (k < width)) := by
  rw [lane, Nat.testBit_and, Nat.testBit_shiftRight, Nat.testBit_two_pow_sub_one]

/-- Bits from a free lane on are zero. -/
theorem testBit_of_free (hfree : word < 2 ^ (j * width)) {k : Nat} (hk : j * width ≤ k) :
    word.testBit k = false :=
  Nat.testBit_lt_two_pow (Nat.lt_of_lt_of_le hfree (Nat.pow_le_pow_right (by decide) hk))

theorem lane_or_shiftLeft (hfree : word < 2 ^ (j * width)) (hvalue : value < 2 ^ width) :
    lane width (word ||| value <<< (j * width)) j = value := by
  apply Nat.eq_of_testBit_eq
  intro k
  rw [testBit_lane, Nat.testBit_or, testBit_of_free hfree (Nat.le_add_right _ _),
    Bool.false_or, Nat.testBit_shiftLeft, Nat.add_sub_cancel_left]
  rcases Nat.lt_or_ge k width with hlt | hge
  · rw [decide_eq_true (Nat.le_add_right _ _), decide_eq_true hlt, Bool.true_and, Bool.and_true]
  · have hzero : value.testBit k = false :=
      Nat.testBit_lt_two_pow (Nat.lt_of_lt_of_le hvalue (Nat.pow_le_pow_right (by decide) hge))
    rw [hzero, Bool.and_false, Bool.false_and]

theorem lane_or_shiftLeft_of_lt {i : Nat} (hlt : i < j) :
    lane width (word ||| value <<< (j * width)) i = lane width word i := by
  apply Nat.eq_of_testBit_eq
  intro k
  rw [testBit_lane, testBit_lane, Nat.testBit_or, Nat.testBit_shiftLeft]
  rcases Nat.lt_or_ge k width with hk | hk
  · have hbelow : ¬ j * width ≤ i * width + k := by
      have hle := Nat.mul_le_mul_right width (Nat.succ_le_of_lt hlt)
      rw [Nat.succ_mul] at hle
      omega
    rw [decide_eq_false hbelow, Bool.false_and, Bool.or_false]
  · rw [decide_eq_false (Nat.not_lt_of_le hk), Bool.and_false, Bool.and_false]

/-- A free lane reads as zero. -/
theorem lane_of_free {i : Nat} (hfree : word < 2 ^ (j * width)) (hle : j ≤ i) :
    lane width word i = 0 := by
  apply Nat.eq_of_testBit_eq
  intro k
  have hstart : j * width ≤ i * width + k :=
    Nat.le_trans (Nat.mul_le_mul_right _ hle) (Nat.le_add_right _ _)
  rw [testBit_lane, testBit_of_free hfree hstart, Bool.false_and, Nat.zero_testBit]

theorem or_shiftLeft_lt (hfree : word < 2 ^ (j * width)) (hvalue : value < 2 ^ width) :
    word ||| value <<< (j * width) < 2 ^ ((j + 1) * width) := by
  have hsucc : (j + 1) * width = width + j * width := by
    rw [Nat.succ_mul, Nat.add_comm]
  apply Nat.or_lt_two_pow
  · refine Nat.lt_of_lt_of_le hfree (Nat.pow_le_pow_right (by decide) ?_)
    rw [hsucc]
    exact Nat.le_add_left _ _
  · rw [hsucc, Nat.shiftLeft_eq, Nat.pow_add]
    exact Nat.mul_lt_mul_of_pos_right hvalue (Nat.two_pow_pos _)

end Evm.Lanes
