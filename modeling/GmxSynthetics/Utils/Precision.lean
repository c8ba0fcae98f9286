import GmxSynthetics.Data.DataStore

/-!
# Calc and Precision

`Calc.sol` and `Precision.sol`: rounding divisions, mixed signed and unsigned sums,
and the fixed-point operations with 30 decimals. `Price.sol` picks the side of a price
spread.

Overloads of a Solidity function on signed and unsigned arguments are told apart by
the suffix `Int`.
-/

namespace GmxSynthetics

open Evm

-- ---------------------------------------------------------------------------
-- Calc.sol
-- ---------------------------------------------------------------------------

namespace Calc

def roundUpDivision (a b : Nat) : Result Nat := do
  div (← sub (← add a b) 1) b

theorem roundUpDivision_eq_ok {a b c : Nat} (h : roundUpDivision a b = .ok c) :
    0 < b ∧ c = (a + b - 1) / b := by
  simp only [roundUpDivision, Result.bind_eq_ok, add_eq_ok, sub_eq_ok, div_eq_ok] at h
  obtain ⟨_, ⟨-, rfl⟩, _, ⟨-, rfl⟩, hb, rfl⟩ := h
  exact ⟨Nat.pos_of_ne_zero hb, rfl⟩

/-- Rounds the magnitude of `a / b` up. -/
def roundUpMagnitudeDivision (a : Int) (b : Nat) : Result Int :=
  if a < 0 then do
    divInt (← addInt (← subInt a (← toInt256 b)) 1) (← toInt256 b)
  else do
    divInt (← subInt (← addInt a (← toInt256 b)) 1) (← toInt256 b)

def sumReturnUint256 (a : Nat) (b : Int) : Result Nat :=
  if b > 0 then add a b.natAbs else sub a b.natAbs

def diff (a b : Nat) : Nat :=
  if a > b then a - b else b - a

def boundedAdd (a b : Int) : Result Int :=
  if a = 0 ∨ b = 0 ∨ (a < 0 ∧ b > 0) ∨ (a > 0 ∧ b < 0) then addInt a b
  else if a < 0 then do
    -- adding `b` to `a` would result in a value less than the min int256 value
    if b ≤ (← subInt (-(intBound : Int)) a) then pure (-(intBound : Int)) else addInt a b
  else do
    -- adding `b` to `a` would result in a value more than the max int256 value
    if b ≥ (← subInt (intBound - 1) a) then pure (intBound - 1 : Int) else addInt a b

def boundedSub (a b : Int) : Result Int :=
  if a = 0 ∨ b = 0 ∨ (a > 0 ∧ b > 0) ∨ (a < 0 ∧ b < 0) then subInt a b
  else if a > 0 then do
    -- the negation is only evaluated once `a > 0` is known
    if (← negInt b) ≥ (← subInt (intBound - 1) a) then pure (intBound - 1 : Int) else subInt a b
  else do
    if (← negInt b) ≤ (← subInt (-(intBound : Int)) a) then pure (-(intBound : Int))
    else subInt a b

/-- Bounded addition never reverts. -/
theorem boundedAdd_eq_clamp {a b : Int} (ha : IsInt256 a) (hb : IsInt256 b) :
    boundedAdd a b = .ok (clampInt256 (a + b)) := by
  have hexact : IsInt256 (a + b) → addInt a b = (.ok (clampInt256 (a + b)) : Result Int) := by
    intro hsum
    rw [clampInt256_of_isInt256 hsum]
    exact addInt_eq_ok.mpr ⟨hsum, rfl⟩
  unfold IsInt256 at ha hb hexact
  unfold boundedAdd
  split
  · exact hexact (by omega)
  · split
    · rename_i hsigns hneg
      have hbound : subInt (-(intBound : Int)) a = (.ok (-(intBound : Int) - a) : Result Int) :=
        subInt_eq_ok.mpr ⟨by unfold IsInt256; omega, rfl⟩
      rw [hbound]
      show (if b ≤ -(intBound : Int) - a then _ else _) = _
      split
      · rw [clampInt256_of_le (by omega)]
        rfl
      · exact hexact (by omega)
    · rename_i hsigns hneg
      have hbound : subInt (intBound - 1 : Int) a = (.ok (intBound - 1 - a) : Result Int) :=
        subInt_eq_ok.mpr ⟨by unfold IsInt256; omega, rfl⟩
      rw [hbound]
      show (if b ≥ (intBound - 1 : Int) - a then _ else _) = _
      split
      · rw [clampInt256_of_ge (by omega)]
        rfl
      · exact hexact (by omega)

/-- Bounded subtraction reverts when the smallest value is taken from what is not negative, and
nowhere else. -/
theorem boundedSub_eq_clamp_iff {a b : Int} (ha : IsInt256 a) (hb : IsInt256 b) :
    boundedSub a b = .ok (clampInt256 (a - b)) ↔ ¬ (0 ≤ a ∧ b = -(intBound : Int)) := by
  have hexact : IsInt256 (a - b) → subInt a b = (.ok (clampInt256 (a - b)) : Result Int) := by
    intro hdifference
    rw [clampInt256_of_isInt256 hdifference]
    exact subInt_eq_ok.mpr ⟨hdifference, rfl⟩
  have hpos := intBound_pos
  unfold IsInt256 at ha hb hexact
  unfold boundedSub
  split
  · rename_i hsigns
    by_cases hmin : 0 ≤ a ∧ b = -(intBound : Int)
    -- zero less the smallest value is out of range
    · have hfails : subInt a b = (.error (.panic .arithmetic) : Result Int) :=
        if_neg (by unfold IsInt256; omega)
      rw [hfails]
      exact iff_of_false (fun h => nomatch h) fun h => h hmin
    · exact iff_of_true (hexact (by omega)) hmin
  · split
    · rename_i hsigns hpositive
      by_cases hmin : b = -(intBound : Int)
      -- the negation of the smallest value is out of range
      · have hnegate : negInt b = (.error (.panic .arithmetic) : Result Int) :=
          if_neg (by unfold IsInt256; omega)
        rw [hnegate]
        exact iff_of_false (fun h => nomatch h) fun h => h ⟨le_of_lt hpositive, hmin⟩
      · have hnegate : negInt b = (.ok (-b) : Result Int) :=
          negInt_eq_ok.mpr ⟨by unfold IsInt256; omega, rfl⟩
        have hbound : subInt (intBound - 1 : Int) a = (.ok (intBound - 1 - a) : Result Int) :=
          subInt_eq_ok.mpr ⟨by unfold IsInt256; omega, rfl⟩
        rw [hnegate, hbound]
        refine iff_of_true ?_ fun h => hmin h.2
        show (if -b ≥ (intBound - 1 : Int) - a then _ else _) = _
        split
        · rw [clampInt256_of_ge (by omega)]
          rfl
        · exact hexact (by omega)
    · rename_i hsigns hnegative
      have hnegate : negInt b = (.ok (-b) : Result Int) :=
        negInt_eq_ok.mpr ⟨by unfold IsInt256; omega, rfl⟩
      have hbound : subInt (-(intBound : Int)) a = (.ok (-(intBound : Int) - a) : Result Int) :=
        subInt_eq_ok.mpr ⟨by unfold IsInt256; omega, rfl⟩
      rw [hnegate, hbound]
      refine iff_of_true ?_ fun h => by omega
      show (if -b ≤ -(intBound : Int) - a then _ else _) = _
      split
      · rw [clampInt256_of_le (by omega)]
        rfl
      · exact hexact (by omega)

/-- Both operations return the exact result, clamped to the range. -/
structure Saturates (a b : Int) : Prop where
  add : boundedAdd a b = .ok (clampInt256 (a + b))
  sub : boundedSub a b = .ok (clampInt256 (a - b))

theorem saturates_iff {a b : Int} (ha : IsInt256 a) (hb : IsInt256 b) :
    Saturates a b ↔ ¬ (0 ≤ a ∧ b = -(intBound : Int)) := by
  constructor
  · intro h
    exact (boundedSub_eq_clamp_iff ha hb).mp h.sub
  · intro h
    exact ⟨boundedAdd_eq_clamp ha hb, (boundedSub_eq_clamp_iff ha hb).mpr h⟩

def toSigned (a : Nat) (isPositive : Bool) : Result Int :=
  if isPositive then toInt256 a else do negInt (← toInt256 a)

end Calc

-- ---------------------------------------------------------------------------
-- Precision.sol
-- ---------------------------------------------------------------------------

namespace Precision

def FLOAT_PRECISION : Nat := 10 ^ 30

def FLOAT_PRECISION_SQRT : Nat := 10 ^ 15

def BASIS_POINTS_DIVISOR : Nat := 10000

def FLOAT_TO_WEI_DIVISOR : Nat := 10 ^ 12

def applyFraction (value numerator denominator : Nat) : Result Nat :=
  mulDiv value numerator denominator

def applyFractionInt (value : Nat) (numerator : Int) (denominator : Nat) : Result Int := do
  let result ← applyFraction value numerator.natAbs denominator
  if numerator > 0 then toInt256 result else negInt (← toInt256 result)

def applyFactor (value factor : Nat) : Result Nat :=
  applyFraction value factor FLOAT_PRECISION

theorem applyFactor_eq_ok {value factor amount : Nat} (h : applyFactor value factor = .ok amount) :
    amount = value * factor / FLOAT_PRECISION := by
  unfold applyFactor applyFraction at h
  exact (mulDiv_eq_ok.mp h).2.2

/-- A factor of at most one takes no more than the value. -/
theorem applyFactor_le {value factor amount : Nat} (hfactor : factor ≤ FLOAT_PRECISION)
    (h : applyFactor value factor = .ok amount) : amount ≤ value := by
  rw [applyFactor_eq_ok h]
  exact Nat.div_le_of_le_mul (by rw [Nat.mul_comm]; exact Nat.mul_le_mul_right _ hfactor)

def floatToWei (value : Nat) : Nat := value / FLOAT_TO_WEI_DIVISOR

def weiToFloat (value : Nat) : Result Nat := mul value FLOAT_TO_WEI_DIVISOR

def applyExponentFactor (env : Env) (floatValue exponentFactor : Nat) : Result Nat :=
  -- `pow` has no input below one
  if floatValue < FLOAT_PRECISION then pure 0
  else if exponentFactor = FLOAT_PRECISION then pure floatValue
  else do
    let weiValue ← env.pow (floatToWei floatValue) (floatToWei exponentFactor)
    weiToFloat weiValue

def toFactor (value divisor : Nat) (roundUp : Bool) : Result Nat :=
  if value = 0 then pure 0
  else if roundUp then mulDivUp value FLOAT_PRECISION divisor
  else mulDiv value FLOAT_PRECISION divisor

def toFactorInt (value : Int) (divisor : Nat) : Result Int := do
  let result ← toFactor value.natAbs divisor false
  if value > 0 then toInt256 result else negInt (← toInt256 result)

def basisPointsToFloat (basisPoints : Nat) : Result Nat := do
  div (← mul basisPoints FLOAT_PRECISION) BASIS_POINTS_DIVISOR

end Precision

-- ---------------------------------------------------------------------------
-- DataStore.sol: read-modify-write
-- ---------------------------------------------------------------------------

namespace DataStore

def incrementUint (key : Key) (value : Nat) : Tx Nat := do
  let nextUint ← add (← readStore (·.getUint key)) value
  writeStore (·.setUint key nextUint)
  pure nextUint

def decrementUint (key : Key) (value : Nat) : Tx Nat := do
  let nextUint ← sub (← readStore (·.getUint key)) value
  writeStore (·.setUint key nextUint)
  pure nextUint

def applyDeltaToUint (key : Key) (value : Int) (errorMessage : String) : Tx Nat := do
  let currValue ← readStore (·.getUint key)
  let isNegative ← negationExceeds value currValue
  Evm.Result.revertIf (isNegative = true) (.message errorMessage : Revert Errors)
  let nextUint ← Calc.sumReturnUint256 currValue value
  writeStore (·.setUint key nextUint)
  pure nextUint

/-- Clamps at zero where `applyDeltaToUint` reverts. -/
def applyBoundedDeltaToUint (key : Key) (value : Int) : Tx Nat := do
  let uintValue ← readStore (·.getUint key)
  let isNegative ← negationExceeds value uintValue
  let nextUint ← (if isNegative then pure 0 else Calc.sumReturnUint256 uintValue value : Result Nat)
  writeStore (·.setUint key nextUint)
  pure nextUint

def applyDeltaToInt (key : Key) (value : Int) : Tx Int := do
  let nextInt ← addInt (← readStore (·.getInt key)) value
  writeStore (·.setInt key nextInt)
  pure nextInt

end DataStore

-- ---------------------------------------------------------------------------
-- Price.sol
-- ---------------------------------------------------------------------------

namespace Price

def isEmpty (price : Price) : Bool := price.min == 0 || price.max == 0

def midPrice (price : Price) : Result Nat := do
  div (← add price.max price.min) 2

def pickPrice (price : Price) (maximize : Bool) : Nat :=
  if maximize then price.max else price.min

def pickPriceForPnl (price : Price) (isLong maximize : Bool) : Nat :=
  if isLong then (if maximize then price.max else price.min)
  else (if maximize then price.min else price.max)

end Price

/-- `Oracle.getPrimaryPrice`: the zero address has the price zero, any other token a
price that has been set. -/
def Oracle.getPrimaryPrice (env : Env) (token : Address) : Result Price :=
  if token = 0 then pure ⟨0, 0⟩
  else do
    let price := env.primaryPrices token
    revertIf (price.isEmpty = true) (.EmptyPrimaryPrice token)
    pure price

end GmxSynthetics
