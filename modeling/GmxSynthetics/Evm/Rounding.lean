import Mathlib.Tactic.Common
import Mathlib.Algebra.Order.Ring.Int
import Mathlib.Tactic.Linarith
import Mathlib.Algebra.BigOperators.Group.List.Basic
import Mathlib.Algebra.Order.Group.Nat

/-!
# Rounding

Floors and ceilings of fixed-point products, as contracts compute them: how a floor
moves with its argument, and what is lost when a sum is floored part by part.
-/

namespace Evm.Rounding

/-- A share `f / d ≤ 1` of an amount moves by at most what the amount moves. -/
theorem mul_div_le_add_sub {a b f d : Nat} (hba : b ≤ a) (hf : f ≤ d) :
    a * f / d ≤ b * f / d + (a - b) := by
  rcases Nat.eq_zero_or_pos d with rfl | hd
  · simp
  have hstep : a * f ≤ b * f + (a - b) * d := by
    calc a * f = b * f + (a - b) * f := by rw [← Nat.add_mul, Nat.add_sub_cancel' hba]
      _ ≤ b * f + (a - b) * d := Nat.add_le_add_left (Nat.mul_le_mul_left _ hf) _
  calc a * f / d ≤ (b * f + (a - b) * d) / d := Nat.div_le_div_right hstep
    _ = b * f / d + (a - b) := Nat.add_mul_div_right _ _ hd

/-- A ceiling is the negation of a floor. -/
theorem ceil_ediv_eq {p : Int} (hp : 0 < p) (a : Int) : (a + p - 1) / p = -(-a / p) := by
  have hdiv := Int.mul_ediv_add_emod (-a) p
  have hlow := Int.emod_nonneg (-a) (ne_of_gt hp)
  have hhigh := Int.emod_lt_of_pos (-a) hp
  have hsum : a + p - 1 = (p - 1 - -a % p) + p * -(-a / p) := by linarith
  rw [hsum, Int.add_mul_ediv_left _ _ (ne_of_gt hp), Int.ediv_eq_zero_of_lt (by omega) (by omega),
    zero_add]

/-- A ceiling taken as often as the divisor says makes up the value. -/
theorem le_mul_ceil {d : Nat} (hd : 0 < d) (n : Nat) : n ≤ d * ((n + (d - 1)) / d) := by
  have hceil := Nat.lt_mul_div_succ (n + (d - 1)) hd
  rw [Nat.mul_add_one] at hceil
  omega

/-- A quantity bought at a unit price that is rounded down, itself rounded up, is worth at least
what it should cost. -/
theorem le_ceil_div_floor_mul {price size cost : Nat} (hsize : 0 < size)
    (hpos : 0 < price * size / cost) :
    cost ≤ (size + price * size / cost - 1) / (price * size / cost) * price := by
  have hceil := le_mul_ceil hpos size
  rw [← Nat.add_sub_assoc hpos, Nat.mul_comm] at hceil
  have hfloor := Nat.div_mul_le_self (price * size) cost
  generalize (size + price * size / cost - 1) / (price * size / cost) = quantity at hceil ⊢
  have hscaled : size * cost ≤ size * (quantity * price) := by
    calc size * cost ≤ quantity * (price * size / cost) * cost := Nat.mul_le_mul_right _ hceil
      _ = quantity * (price * size / cost * cost) := Nat.mul_assoc _ _ _
      _ ≤ quantity * (price * size) := Nat.mul_le_mul_left _ hfloor
      _ = size * (quantity * price) := by
        rw [Nat.mul_comm size, Nat.mul_assoc]
  exact Nat.le_of_mul_le_mul_left hscaled hsize

/-- Rounded down, such a quantity is worth at most what it should cost if and only if a whole unit
price separates what it should be bought at from what one more would be bought at. -/
theorem floor_div_floor_mul_le_iff {price size cost : Nat} (hcost : 0 < cost)
    (hpos : 0 < price * size / cost) :
    size / (price * size / cost) * price ≤ cost ↔
      ∃ unitPrice, unitPrice * cost ≤ price * size ∧ size < (cost / price + 1) * unitPrice := by
  have hprice : 0 < price := by
    rcases Nat.eq_zero_or_pos price with rfl | hprice
    · simp at hpos
    · exact hprice
  rw [← Nat.le_div_iff_mul_le hprice, ← Nat.lt_add_one_iff, Nat.div_lt_iff_lt_mul hpos]
  constructor
  · intro hsize
    exact ⟨_, Nat.div_mul_le_self _ _, hsize⟩
  · rintro ⟨unitPrice, hunit, hsize⟩
    have hle : unitPrice ≤ price * size / cost := (Nat.le_div_iff_mul_le hcost).mpr hunit
    exact lt_of_lt_of_le hsize (Nat.mul_le_mul_left _ hle)

/-- A whole number of units is covered by one part rounded up and the other rounded down. -/
theorem le_ceil_add_floor {p a x y : Int} (hp : 0 < p) (h : a * p ≤ x + y) :
    a ≤ -(-x / p) + y / p := by
  have hceil : x ≤ -(-x / p) * p := by
    have := Int.ediv_mul_le (-x) (ne_of_gt hp)
    linarith
  have hrest : (a + -x / p) * p ≤ y := by
    rw [add_mul]
    linarith
  have hfloor := (Int.le_ediv_iff_mul_le hp).mpr hrest
  omega

/-- The units that a value loses when a part is taken off are worth that part, up to one unit. -/
theorem div_sub_div_bounds (unit value part : Nat) (hunit : 0 < unit) (hpart : part ≤ value) :
    part ≤ (value / unit - (value - part) / unit) * unit + unit ∧
      (value / unit - (value - part) / unit) * unit ≤ part + unit := by
  have hvalue := Nat.div_add_mod' value unit
  have hrest := Nat.div_add_mod' (value - part) unit
  have hvalueMod := Nat.mod_lt value hunit
  have hrestMod := Nat.mod_lt (value - part) hunit
  rw [Nat.sub_mul]
  omega

/-- Rounding towards zero does not pass a whole bound from above. -/
theorem tdiv_le_of_le_mul {x q d : Int} (hd : 0 < d) (h : x ≤ q * d) : x.tdiv d ≤ q := by
  have hsplit := Int.tdiv_mul_add_tmod x d
  have hrest := Int.lt_tmod_of_pos x hd
  have hlt : x.tdiv d * d < (q + 1) * d := by
    rw [Int.add_mul, Int.one_mul]
    omega
  exact Int.lt_add_one_iff.mp (Int.lt_of_mul_lt_mul_right hlt hd.le)

/-- A whole number less a fraction, truncated towards zero: the number less the whole part of the
fraction, less one more where something is left and the fraction does not exceed the number. -/
theorem tdiv_mul_sub (x : Int) (a d : Nat) (hd : 0 < d) :
    (x * d - a).tdiv d =
      x - (a / d : Nat) - (if a % d ≠ 0 ∧ ((a / d : Nat) : Int) < x then 1 else 0) := by
  have hsplit := Nat.div_add_mod' a d
  have hmod := Nat.mod_lt a hd
  have hdInt : (d : Int) ≠ 0 := by omega
  generalize a / d = whole at hsplit ⊢
  generalize a % d = part at hsplit hmod ⊢
  subst hsplit
  -- the quotient of a multiple and a rest below the divisor
  have hquotient : ∀ (k : Int) (rest : Nat), 0 ≤ k → rest < d →
      (rest + k * d : Int).tdiv d = k := by
    intro k rest hk hrest
    have hproduct : 0 ≤ k * d := Int.mul_nonneg hk (by omega)
    rw [Int.tdiv_eq_ediv_of_nonneg (by omega), Int.add_mul_ediv_right _ _ hdInt,
      Int.ediv_eq_zero_of_lt (by omega) (by omega), zero_add]
  rcases lt_or_ge (whole : Int) x with hlt | hge
  · by_cases hpart : part = 0
    · have hvalue : x * d - ((whole * d + part : Nat) : Int) = (0 : Nat) + (x - whole) * d := by
        rw [hpart, Int.sub_mul]
        omega
      rw [if_neg (fun hboth => hboth.1 hpart), hvalue, hquotient _ _ (by omega) hd]
      omega
    · have hvalue : x * d - ((whole * d + part : Nat) : Int) =
          (d - part : Nat) + (x - whole - 1) * d := by
        rw [Int.sub_mul, Int.sub_mul]
        omega
      rw [if_pos ⟨hpart, hlt⟩, hvalue, hquotient _ _ (by omega) (by omega)]
  · have hvalue : x * d - ((whole * d + part : Nat) : Int) = -(part + (whole - x) * d) := by
      rw [Int.sub_mul]
      omega
    rw [if_neg (fun hboth => absurd hboth.2 (by omega)), hvalue, Int.neg_tdiv,
      hquotient _ _ (by omega) hmod]
    omega

-- ---------------------------------------------------------------------------
-- Sums of floors
-- ---------------------------------------------------------------------------

/-- Flooring two parts instead of their sum loses at most one. -/
theorem add_ediv_bounds {p : Int} (hp : 0 < p) (a b : Int) :
    a / p + b / p ≤ (a + b) / p ∧ (a + b) / p ≤ a / p + b / p + 1 := by
  have ha := Int.mul_ediv_add_emod a p
  have hb := Int.mul_ediv_add_emod b p
  have ha₀ := Int.emod_nonneg a (ne_of_gt hp)
  have hb₀ := Int.emod_nonneg b (ne_of_gt hp)
  have ha₁ := Int.emod_lt_of_pos a hp
  have hb₁ := Int.emod_lt_of_pos b hp
  have hsum : a + b = (a % p + b % p) + p * (a / p + b / p) := by linarith
  rw [hsum, Int.add_mul_ediv_left _ _ (ne_of_gt hp)]
  have hlow : 0 ≤ (a % p + b % p) / p := Int.ediv_nonneg (by omega) (le_of_lt hp)
  have hhigh : (a % p + b % p) / p < 2 := Int.ediv_lt_of_lt_mul hp (by omega)
  omega

/-- Flooring the multiples of the parts of a sum instead of the sum loses at most one for each
part. -/
theorem sum_mul_ediv_bounds {p : Int} (hp : 0 < p) (factor : Int) (ys : List Int) :
    (ys.map fun y => factor * y / p).sum ≤ factor * ys.sum / p ∧
      factor * ys.sum / p ≤ (ys.map fun y => factor * y / p).sum + ys.length := by
  induction ys with
  | nil => simp
  | cons y ys ih =>
    have hstep := add_ediv_bounds hp (factor * y) (factor * ys.sum)
    simp only [List.map_cons, List.sum_cons, List.length_cons, Nat.cast_add, Nat.cast_one, mul_add]
    omega

/-- Flooring the parts of a sum, each at a factor of its own, stays below flooring the sum at a
factor that none of them exceeds. -/
theorem sum_mul_div_le {ι : Type} (xs : List ι) (amount factor : ι → Nat) (cap d : Nat)
    (h : ∀ x ∈ xs, amount x * factor x ≤ amount x * cap) :
    (xs.map fun x => amount x * factor x / d).sum ≤ (xs.map amount).sum * cap / d := by
  induction xs with
  | nil => simp
  | cons x xs ih =>
    have hrest := ih fun y hy => h y (List.mem_cons_of_mem x hy)
    have hfirst := Nat.div_le_div_right (c := d) (h x List.mem_cons_self)
    have hsum : amount x * cap / d + (xs.map amount).sum * cap / d ≤
        (amount x * cap + (xs.map amount).sum * cap) / d := Nat.div_add_div_le_add_div
    simp only [List.map_cons, List.sum_cons, Nat.add_mul]
    omega

/-- Flooring at the smaller factor what is larger, and at the larger factor what is smaller,
gains at most one over the other way round. -/
theorem add_mul_div_le_swap {a b p q d : Nat} (hab : a ≤ b) (hpq : p ≤ q) :
    b * p / d + a * q / d ≤ a * p / d + b * q / d + 1 := by
  rcases Nat.eq_zero_or_pos d with rfl | hd
  · simp
  have hswap : b * p + a * q ≤ a * p + b * q := by
    have h := mul_add_mul_le_mul_add_mul hab hpq
    rwa [Nat.add_comm (b * p)]
  have hsplit : (a * p + b * q) / d ≤ a * p / d + b * q / d + 1 := by
    have ha := Nat.div_add_mod (a * p) d
    have hb := Nat.div_add_mod (b * q) d
    have hsum : a * p + b * q = d * (a * p / d + b * q / d) + (a * p % d + b * q % d) := by
      rw [Nat.mul_add]
      omega
    have hsmall : (a * p % d + b * q % d) / d < 2 := by
      rw [Nat.div_lt_iff_lt_mul hd]
      have := Nat.mod_lt (a * p) hd
      have := Nat.mod_lt (b * q) hd
      omega
    rw [hsum, Nat.mul_add_div hd]
    omega
  calc b * p / d + a * q / d ≤ (b * p + a * q) / d := Nat.div_add_div_le_add_div
    _ ≤ (a * p + b * q) / d := Nat.div_le_div_right hswap
    _ ≤ a * p / d + b * q / d + 1 := hsplit

end Evm.Rounding
