import GmxSynthetics.Evm.Underflow
import GmxSynthetics.Position.CappedImpact
import GmxSynthetics.Position.DecreaseSums
import GmxSynthetics.Position.PositionAccounting
import GmxSynthetics.Pricing.FeeDecomposition

/-!
# Where a decrease may underflow

Every unsigned subtraction of a decrease has enough to subtract from, given what the callers of
`decreasePosition` see to, except two: that of the withdrawal from the collateral, and that of the
funding fee in a force close.
-/

namespace GmxSynthetics

open Evm Evm.Result

variable {env : Env} {dataStore : DataStore} {w : World}

-- ---------------------------------------------------------------------------
-- Words and ledgers
-- ---------------------------------------------------------------------------

/-- Reading the store always returns. -/
@[simp] theorem noUnderflow_readStore {α : Type} (f : DataStore → α) (w : World) :
    NoUnderflow (readStore f w) := noUnderflow_tx_read _ _

/-- A view panics where its function does on the store. -/
@[simp] theorem noUnderflow_viewStore {α : Type} {f : DataStore → Result α} {w : World} :
    NoUnderflow (viewStore f w) ↔ NoUnderflow (f w.dataStore) := noUnderflow_tx_view

/-- So does writing it. -/
@[simp] theorem noUnderflow_writeStore (f : DataStore → DataStore) (w : World) :
    NoUnderflow (writeStore f w) := noUnderflow_tx_write _ _

/-- A view comes first, and what follows starts from the same world. -/
theorem noUnderflow_viewStore_bind {α β : Type} {g : DataStore → Result α} {f : α → Tx β}
    {w : World} :
    NoUnderflow ((viewStore g >>= f) w) ↔
      NoUnderflow (g w.dataStore) ∧ ∀ a, g w.dataStore = .ok a → NoUnderflow (f a w) :=
  noUnderflow_view_bind

/-- Reading is no step of its own. -/
theorem noUnderflow_readStore_bind {α β : Type} {g : DataStore → α} {f : α → Tx β} {w : World} :
    NoUnderflow ((readStore g >>= f) w) ↔ NoUnderflow (f (g w.dataStore) w) := Iff.rfl

/-- An error of the protocol is no panic. -/
@[simp] theorem noUnderflow_revert {α : Type} (e : Errors) : NoUnderflow (revert e : Result α) := by
  simp [revert, Evm.Result.revert]

namespace Calc

/-- The sum less one: only two zeros underflow. -/
@[simp] theorem noUnderflow_roundUpDivision {a b : Nat} :
    NoUnderflow (roundUpDivision a b) ↔ (a + b < uintBound → 1 ≤ a + b) := by
  simp [roundUpDivision, add_eq_ok]

/-- Signed sums and differences overflow, but do not underflow. -/
@[simp] theorem noUnderflow_roundUpMagnitudeDivision (a : Int) (b : Nat) :
    NoUnderflow (roundUpMagnitudeDivision a b) := by
  simp [roundUpMagnitudeDivision]

/-- A delta that does not exceed the value it is added to. -/
theorem noUnderflow_sumReturnUint256 {a : Nat} {b : Int} (h : 0 ≤ a + b) :
    NoUnderflow (sumReturnUint256 a b) := by
  simp only [sumReturnUint256, noUnderflow_ite, noUnderflow_add, noUnderflow_sub, implies_true,
    true_and]
  omega

/-- The check before the sum has ruled the underflow out. -/
theorem noUnderflow_sumReturnUint256_of_negationExceeds {a : Nat} {b : Int}
    (h : negationExceeds b a = .ok false) : NoUnderflow (sumReturnUint256 a b) := by
  have hcovered := negationExceeds_eq_ok h
  rw [eq_comm, decide_eq_false_iff_not] at hcovered
  exact noUnderflow_sumReturnUint256 (by omega)

/-- A delta that was checked not to exceed the value it is added to. -/
theorem noUnderflow_sumReturnUint256_of_checked {a : Nat} {b : Int} {exceeds : Bool}
    {e : Evm.Revert Errors} {u : Unit} (h : negationExceeds b a = .ok exceeds)
    (hchecked : Evm.Result.revertIf (exceeds = true) e = .ok u) :
    NoUnderflow (sumReturnUint256 a b) := by
  rw [Bool.eq_false_iff.mpr (Result.revertIf_eq_ok.mp hchecked)] at h
  exact noUnderflow_sumReturnUint256_of_negationExceeds h

/-- A bounded sum stays at the bound instead. -/
@[simp] theorem noUnderflow_boundedAdd (a b : Int) : NoUnderflow (boundedAdd a b) := by
  simp [boundedAdd]

/-- So does a bounded difference, which may overflow but not underflow. -/
@[simp] theorem noUnderflow_boundedSub (a b : Int) : NoUnderflow (boundedSub a b) := by
  simp [boundedSub]

/-- A sign is put on, nothing is subtracted. -/
@[simp] theorem noUnderflow_toSigned (a : Nat) (isPositive : Bool) :
    NoUnderflow (toSigned a isPositive) := by
  simp [toSigned]

end Calc

namespace Precision

/-- Multiplied and divided. -/
@[simp] theorem noUnderflow_applyFraction (value numerator denominator : Nat) :
    NoUnderflow (applyFraction value numerator denominator) := noUnderflow_mulDiv _ _ _

/-- The same with a sign. -/
@[simp] theorem noUnderflow_applyFractionInt (value : Nat) (numerator : Int) (denominator : Nat) :
    NoUnderflow (applyFractionInt value numerator denominator) := by
  simp [applyFractionInt]

/-- A factor is a fraction of the unit. -/
@[simp] theorem noUnderflow_applyFactor (value factor : Nat) :
    NoUnderflow (applyFactor value factor) := noUnderflow_applyFraction _ _ _

/-- Multiplied and divided, rounded up or down. -/
@[simp] theorem noUnderflow_toFactor (value divisor : Nat) (roundUp : Bool) :
    NoUnderflow (toFactor value divisor roundUp) := by
  simp [toFactor]

/-- Multiplied and divided. -/
@[simp] theorem noUnderflow_basisPointsToFloat (basisPoints : Nat) :
    NoUnderflow (basisPointsToFloat basisPoints) := by
  simp [basisPointsToFloat]

/-- An exponent factor underflows only where the power does. -/
theorem noUnderflow_applyExponentFactor (hpow : ∀ x y, NoUnderflow (env.pow x y))
    (floatValue exponentFactor : Nat) :
    NoUnderflow (applyExponentFactor env floatValue exponentFactor) := by
  simp [applyExponentFactor, weiToFloat, hpow]

end Precision

namespace DataStore

/-- What is counted up is not subtracted from. -/
@[simp] theorem noUnderflow_incrementUint (key : Key) (value : Nat) (w : World) :
    NoUnderflow (incrementUint key value w) := by
  simp [incrementUint]

/-- An amount that would fall below zero is an error of its own, raised before the subtraction. -/
@[simp] theorem noUnderflow_applyDeltaToUint (key : Key) (value : Int) (errorMessage : String)
    (w : World) : NoUnderflow (applyDeltaToUint key value errorMessage w) := by
  simp only [applyDeltaToUint, noUnderflow_tx_bind, noUnderflow_readStore, noUnderflow_tx_lift,
    noUnderflow_negationExceeds, noUnderflow_revertIf, ne_eq, reduceCtorEq, not_false_eq_true,
    implies_true, noUnderflow_writeStore, noUnderflow_tx_pure, true_and, and_true]
  intro currValue w₁ _ exceeds w₂ hexceeds _ w₃ hchecked
  obtain ⟨hexceeds, -⟩ := Tx.lift_eq_ok.mp hexceeds
  obtain ⟨hchecked, -⟩ := Tx.lift_eq_ok.mp hchecked
  exact Calc.noUnderflow_sumReturnUint256_of_checked hexceeds hchecked

/-- A bounded amount stops at zero. -/
@[simp] theorem noUnderflow_applyBoundedDeltaToUint (key : Key) (value : Int) (w : World) :
    NoUnderflow (applyBoundedDeltaToUint key value w) := by
  simp only [applyBoundedDeltaToUint, noUnderflow_tx_bind, noUnderflow_readStore,
    noUnderflow_tx_lift, noUnderflow_negationExceeds, noUnderflow_writeStore, noUnderflow_tx_pure,
    noUnderflow_ite, noUnderflow_pure, implies_true, true_and, and_true]
  intro currValue w₁ _ exceeds w₂ hexceeds hcovered
  obtain ⟨hexceeds, -⟩ := Tx.lift_eq_ok.mp hexceeds
  rw [Bool.eq_false_iff.mpr hcovered] at hexceeds
  exact Calc.noUnderflow_sumReturnUint256_of_negationExceeds hexceeds

/-- Signed amounts may be negative. -/
@[simp] theorem noUnderflow_applyDeltaToInt (key : Key) (value : Int) (w : World) :
    NoUnderflow (applyDeltaToInt key value w) := by
  simp [applyDeltaToInt]

end DataStore

-- ---------------------------------------------------------------------------
-- Prices and markets
-- ---------------------------------------------------------------------------

/-- A price is read and checked. -/
@[simp] theorem Oracle.noUnderflow_getPrimaryPrice (token : Address) :
    NoUnderflow (getPrimaryPrice env token) := by
  simp [getPrimaryPrice]

namespace MarketUtils

variable {market : Market} {prices : MarketPrices} {isLong : Bool}

/-- So are the three of a market. -/
@[simp] theorem noUnderflow_getMarketPrices (market : Market) :
    NoUnderflow (getMarketPrices env market) := by
  simp [getMarketPrices]

/-- So is the one of a token of the market. -/
@[simp] theorem noUnderflow_getCachedTokenPrice (token : Address) (market : Market)
    (prices : MarketPrices) : NoUnderflow (getCachedTokenPrice token market prices) := by
  simp [getCachedTokenPrice]

/-- A check. -/
@[simp] theorem noUnderflow_validateEnabledMarket (dataStore : DataStore) (market : Market) :
    NoUnderflow (validateEnabledMarket dataStore market) := by
  simp [validateEnabledMarket]

/-- A check. -/
@[simp] theorem noUnderflow_validateMarketCollateralToken (market : Market) (token : Address) :
    NoUnderflow (validateMarketCollateralToken market token) := by
  simp [validateMarketCollateralToken]

/-- Two amounts are added. -/
@[simp] theorem noUnderflow_getOpenInterest (dataStore : DataStore) (market : Market)
    (isLong : Bool) : NoUnderflow (getOpenInterest dataStore market isLong) := by
  simp [getOpenInterest]

/-- Two amounts are added. -/
@[simp] theorem noUnderflow_getOpenInterestInTokens (dataStore : DataStore) (market : Market)
    (isLong : Bool) : NoUnderflow (getOpenInterestInTokens dataStore market isLong) := by
  simp [getOpenInterestInTokens]

/-- Multiplied. -/
@[simp] theorem noUnderflow_getPoolUsdWithoutPnl (dataStore : DataStore) (market : Market)
    (prices : MarketPrices) (isLong : Bool) :
    NoUnderflow (getPoolUsdWithoutPnl dataStore market prices isLong) := by
  simp [getPoolUsdWithoutPnl]

/-- The pnl is signed. -/
@[simp] theorem noUnderflow_getPnl (dataStore : DataStore) (market : Market)
    (indexTokenPrice : Price) (isLong maximize : Bool) :
    NoUnderflow (getPnl dataStore market indexTokenPrice isLong maximize) := by
  simp [getPnl]

/-- The cap is compared with, not subtracted. -/
@[simp] theorem noUnderflow_getCappedPnl (dataStore : DataStore) (market : Address)
    (isLong : Bool) (pnl : Int) (poolUsd : Nat) (pnlFactorType : Base) :
    NoUnderflow (getCappedPnl dataStore market isLong pnl poolUsd pnlFactorType) := by
  simp [getCappedPnl]

/-- Multiplied. -/
@[simp] theorem noUnderflow_getReservedUsd (dataStore : DataStore) (market : Market)
    (prices : MarketPrices) (isLong : Bool) :
    NoUnderflow (getReservedUsd dataStore market prices isLong) := by
  simp [getReservedUsd]

/-- A check of a sum. -/
@[simp] theorem noUnderflow_validateOpenInterest (dataStore : DataStore) (market : Market)
    (isLong : Bool) : NoUnderflow (validateOpenInterest dataStore market isLong) := by
  simp [validateOpenInterest]

/-- The impact is capped, not reduced. -/
@[simp] theorem noUnderflow_getCappedPositionImpactUsd (dataStore : DataStore) (market : Address)
    (tokenPrice : Price) (priceImpactUsd : Int) (sizeDeltaUsd : Nat) :
    NoUnderflow (getCappedPositionImpactUsd dataStore market tokenPrice priceImpactUsd
      sizeDeltaUsd) := by
  simp [getCappedPositionImpactUsd]

/-- The open interest that is left must be one. -/
theorem noUnderflow_getMinCollateralFactorForOpenInterest {openInterestDelta : Int}
    (hcovered : ∀ openInterest, getOpenInterest dataStore market isLong = .ok openInterest →
      0 ≤ openInterest + openInterestDelta) :
    NoUnderflow (getMinCollateralFactorForOpenInterest dataStore market openInterestDelta
      isLong) := by
  simp only [getMinCollateralFactorForOpenInterest, noUnderflow_bind, noUnderflow_getOpenInterest,
    Precision.noUnderflow_applyFactor, implies_true, true_and, and_true]
  intro openInterest hopenInterest
  exact Calc.noUnderflow_sumReturnUint256 (hcovered openInterest hopenInterest)

-- ---------------------------------------------------------------------------
-- Ledgers
-- ---------------------------------------------------------------------------

/-- Two amounts are counted up. -/
@[simp] theorem noUnderflow_incrementClaimableCollateralAmount (market token account : Address)
    (delta : Nat) (w : World) :
    NoUnderflow (incrementClaimableCollateralAmount env market token account delta w) := by
  simp [incrementClaimableCollateralAmount]

/-- Two amounts are counted up. -/
@[simp] theorem noUnderflow_incrementClaimableFundingAmount (market token account : Address)
    (delta : Nat) (w : World) :
    NoUnderflow (incrementClaimableFundingAmount market token account delta w) := by
  simp [incrementClaimableFundingAmount]

/-- An amount of the pool has an error for too large a deduction. -/
@[simp] theorem noUnderflow_applyDeltaToPoolAmount (market token : Address) (delta : Int)
    (w : World) : NoUnderflow (applyDeltaToPoolAmount market token delta w) := by
  simp [applyDeltaToPoolAmount, applyDeltaToVirtualInventoryForSwaps]

/-- The impact pool stops at zero. -/
@[simp] theorem noUnderflow_applyDeltaToPositionImpactPool (market : Address) (delta : Int)
    (w : World) : NoUnderflow (applyDeltaToPositionImpactPool market delta w) :=
  DataStore.noUnderflow_applyBoundedDeltaToUint _ _ _

/-- The open interest has an error for too large a deduction. -/
@[simp] theorem noUnderflow_applyDeltaToOpenInterest (market : Market) (collateralToken : Address)
    (isLong : Bool) (delta : Int) (w : World) :
    NoUnderflow (applyDeltaToOpenInterest market collateralToken isLong delta w) := by
  simp [applyDeltaToOpenInterest, applyDeltaToVirtualInventoryForPositions]

/-- So it has in tokens. -/
@[simp] theorem noUnderflow_applyDeltaToOpenInterestInTokens (market collateralToken : Address)
    (isLong : Bool) (delta : Int) (w : World) :
    NoUnderflow (applyDeltaToOpenInterestInTokens market collateralToken isLong delta w) :=
  DataStore.noUnderflow_applyDeltaToUint _ _ _ _

/-- So has the sum of the collateral. -/
@[simp] theorem noUnderflow_applyDeltaToCollateralSum (market collateralToken : Address)
    (isLong : Bool) (delta : Int) (w : World) :
    NoUnderflow (applyDeltaToCollateralSum market collateralToken isLong delta w) :=
  DataStore.noUnderflow_applyDeltaToUint _ _ _ _

end MarketUtils

/-- An amount is counted up. -/
@[simp] theorem FeeUtils.noUnderflow_incrementClaimableFeeAmount (market token : Address)
    (delta : Nat) (w : World) :
    NoUnderflow (incrementClaimableFeeAmount market token delta w) := by
  simp [incrementClaimableFeeAmount]

/-- An amount is counted up. -/
@[simp] theorem FeeUtils.noUnderflow_incrementClaimableUiFeeAmount
    (uiFeeReceiver market token : Address) (delta : Nat) (w : World) :
    NoUnderflow (incrementClaimableUiFeeAmount uiFeeReceiver market token delta w) := by
  simp [incrementClaimableUiFeeAmount]

/-- An amount is counted up. -/
@[simp] theorem ReferralUtils.noUnderflow_incrementAffiliateReward
    (market token affiliate : Address) (delta : Nat) (w : World) :
    NoUnderflow (incrementAffiliateReward market token affiliate delta w) := by
  simp [incrementAffiliateReward]

-- ---------------------------------------------------------------------------
-- Funding and borrowing
-- ---------------------------------------------------------------------------

/-- The shares of a position fee are at most one, as `Config` and `ReferralStorage` require. -/
structure FeeSharesInRange (env : Env) (dataStore : DataStore) : Prop where
  referral : ReferralSharesInRange env
  positionFeeReceiver :
    dataStore.getUint (.base .POSITION_FEE_RECEIVER_FACTOR) ≤ Precision.FLOAT_PRECISION
  borrowingFeeReceiver :
    dataStore.getUint (.base .BORROWING_FEE_RECEIVER_FACTOR) ≤ Precision.FLOAT_PRECISION

/-- The shares are settings, which other writes leave alone. -/
theorem FeeSharesInRange.of_sameOff {slots : List Slot} {w' : World}
    (h : FeeSharesInRange env w.dataStore) (hsame : World.SameOff slots w w')
    (hslots : Slot.constant .POSITION_FEE_RECEIVER_FACTOR ∉ slots ∧
      Slot.constant .BORROWING_FEE_RECEIVER_FACTOR ∉ slots) :
    FeeSharesInRange env w'.dataStore where
  referral := h.referral
  positionFeeReceiver := by
    rw [hsame.uint _ hslots.1 (.base .POSITION_FEE_RECEIVER_FACTOR) rfl]
    exact h.positionFeeReceiver
  borrowingFeeReceiver := by
    rw [hsame.uint _ hslots.2 (.base .BORROWING_FEE_RECEIVER_FACTOR) rfl]
    exact h.borrowingFeeReceiver

/-- What a position update relies on: the clock does not go back, the exponentiation of the math
library does not underflow, and shares are shares. -/
structure UpdateConditions (env : Env) (market : Address) (isLong : Bool) (dataStore : DataStore) :
    Prop where
  fundingUpdatedAt : dataStore.getUint (Keys.fundingUpdatedAtKey market) ≤ env.timestamp
  borrowingUpdatedAt : MarketUtils.getCumulativeBorrowingFactorUpdatedAt dataStore market isLong ≤
    env.timestamp
  pow : ∀ x y, NoUnderflow (env.pow x y)
  shares : FeeSharesInRange env dataStore

namespace MarketUtils

variable {market : Market} {prices : MarketPrices} {isLong : Bool}

/-- Divided, and given a sign. -/
@[simp] theorem noUnderflow_signedFundingAmountPerSizeDelta (fundingAmount openInterest : Nat)
    (roundUp : Bool) :
    NoUnderflow (signedFundingAmountPerSizeDelta fundingAmount openInterest roundUp) := by
  simp only [signedFundingAmountPerSizeDelta, getFundingAmountPerSizeDelta, noUnderflow_bind,
    noUnderflow_ite, noUnderflow_pure, implies_true, not_or, Calc.noUnderflow_roundUpDivision,
    Precision.noUnderflow_toFactor, and_true, and_imp, true_and, noUnderflow_toInt256]
  omega

/-- The difference of two signed values. -/
@[simp] theorem noUnderflow_getFundingFeeAmount (latest stored : Int) (positionSizeInUsd : Nat) :
    NoUnderflow (getFundingFeeAmount latest stored positionSizeInUsd) := by
  simp [getFundingFeeAmount]

/-- Funding underflows only where the clock has run backwards. -/
theorem noUnderflow_getNextFundingAmountPerSize (hpow : ∀ x y, NoUnderflow (env.pow x y))
    (hclock : dataStore.getUint (Keys.fundingUpdatedAtKey market.marketToken) ≤ env.timestamp)
    (prices : MarketPrices) :
    NoUnderflow (getNextFundingAmountPerSize env dataStore market prices) := by
  have hexponent := Precision.noUnderflow_applyExponentFactor hpow
  simp [getNextFundingAmountPerSize, getSecondsSinceFundingUpdated, getFundingFactorPerSecond,
    hclock, hexponent]

/-- So does borrowing. -/
theorem noUnderflow_getNextCumulativeBorrowingFactor (hpow : ∀ x y, NoUnderflow (env.pow x y))
    (hclock : getCumulativeBorrowingFactorUpdatedAt dataStore market.marketToken isLong ≤
      env.timestamp) (prices : MarketPrices) :
    NoUnderflow (getNextCumulativeBorrowingFactor env dataStore market prices isLong) := by
  have hexponent := Precision.noUnderflow_applyExponentFactor hpow
  simp [getNextCumulativeBorrowingFactor, getSecondsSinceCumulativeBorrowingFactorUpdated,
    getBorrowingFactorPerSecond, hclock, hexponent]

/-- A factor that is behind is reported by name. -/
@[simp] theorem noUnderflow_getBorrowingFees (dataStore : DataStore) (position : Position) :
    NoUnderflow (getBorrowingFees dataStore position) := by
  simp [getBorrowingFees, Result.revertIf_eq_ok]

/-- The position must be part of the total. -/
theorem noUnderflow_updateTotalBorrowing {market : Address}
    {prevPositionSizeInUsd prevPositionBorrowingFactor : Nat}
    (hborrowed : borrowed prevPositionSizeInUsd prevPositionBorrowingFactor ≤
      getTotalBorrowing w.dataStore market isLong)
    (nextPositionSizeInUsd nextPositionBorrowingFactor : Nat) :
    NoUnderflow (updateTotalBorrowing market isLong prevPositionSizeInUsd
      prevPositionBorrowingFactor nextPositionSizeInUsd nextPositionBorrowingFactor w) := by
  simp only [updateTotalBorrowing, getNextTotalBorrowing, noUnderflow_tx_bind,
    noUnderflow_viewStore, noUnderflow_bind, noUnderflow_sub, noUnderflow_add,
    Precision.noUnderflow_applyFactor, noUnderflow_writeStore, implies_true, true_and, and_true]
  intro amount hamount
  rw [Precision.applyFactor_eq_ok hamount]
  exact hborrowed

end MarketUtils

-- ---------------------------------------------------------------------------
-- Price impact and fees
-- ---------------------------------------------------------------------------

/-- The impact is checked against the size before it is applied. -/
@[simp] theorem BaseOrderUtils.noUnderflow_getExecutionPrice (primaryPrice : Price)
    (sizeDeltaUsd : Nat) (priceImpactUsd : Int) (acceptablePrice : Nat)
    (isLong isIncrease : Bool) :
    NoUnderflow (getExecutionPrice primaryPrice sizeDeltaUsd priceImpactUsd acceptablePrice isLong
      isIncrease) := by
  simp only [getExecutionPrice, Bool.ite_eq_true_distrib, Bool.not_eq_eq_eq_not, Bool.not_true,
    gt_iff_lt, Bool.ite_eq_false_distrib, Bool.not_false, ge_iff_le, noUnderflow_bind,
    noUnderflow_ite, noUnderflow_negInt, implies_true, Bool.not_ite_eq_false_eq_true,
    noUnderflow_pure, and_self, noUnderflow_negationExceeds, noUnderflow_revertIf, ne_eq,
    reduceCtorEq, not_false_eq_true, noUnderflow_mul, noUnderflow_div, and_true, true_and, not_lt,
    nonpos_iff_eq_zero, not_or, not_and, not_le, noUnderflow_revert]
  intro adjustment hadjustment exceeds hexceeds u hchecked _ _ _
  exact Calc.noUnderflow_sumReturnUint256_of_checked hexceeds hchecked

namespace PositionPricingUtils

open MarketUtils PositionUtils

/-- A signed amount is divided. -/
@[simp] theorem noUnderflow_getPriceImpactAmount (priceImpactUsd : Int) (indexTokenPrice : Price)
    (isLong isIncrease : Bool) :
    NoUnderflow (getPriceImpactAmount priceImpactUsd indexTokenPrice isLong isIncrease) := by
  simp [getPriceImpactAmount]

/-- The open interest after the trade has an error for less than nothing. -/
@[simp] theorem noUnderflow_getNextOpenInterestParams (params : GetPriceImpactUsdParams)
    (longOpenInterest shortOpenInterest : Nat) :
    NoUnderflow (getNextOpenInterestParams params longOpenInterest shortOpenInterest) := by
  simp only [getNextOpenInterestParams, bind_pure_comp, noUnderflow_ite, noUnderflow_bind,
    noUnderflow_negationExceeds, noUnderflow_revertIf, ne_eq, reduceCtorEq, not_false_eq_true,
    implies_true, noUnderflow_map, true_and, Bool.not_eq_true]
  constructor
  · intro _ exceeds hexceeds u hchecked
    exact Calc.noUnderflow_sumReturnUint256_of_checked hexceeds hchecked
  · intro _ exceeds hexceeds u hchecked
    exact Calc.noUnderflow_sumReturnUint256_of_checked hexceeds hchecked

/-- The same from the open interest of the market. -/
@[simp] theorem noUnderflow_getNextOpenInterest (dataStore : DataStore)
    (params : GetPriceImpactUsdParams) : NoUnderflow (getNextOpenInterest dataStore params) := by
  simp [getNextOpenInterest]

/-- The same from the virtual inventory. -/
@[simp] theorem noUnderflow_getNextOpenInterestForVirtualInventory
    (params : GetPriceImpactUsdParams) (virtualInventory : Int) :
    NoUnderflow (getNextOpenInterestForVirtualInventory params virtualInventory) := by
  simp [getNextOpenInterestForVirtualInventory]

/-- Factors of the difference, by the power. -/
theorem noUnderflow_applyImpactFactor (hpow : ∀ x y, NoUnderflow (env.pow x y))
    (diffUsd impactFactor impactExponentFactor : Nat) :
    NoUnderflow (PricingUtils.applyImpactFactor env diffUsd impactFactor
      impactExponentFactor) := by
  simp [PricingUtils.applyImpactFactor, Precision.noUnderflow_applyExponentFactor hpow]

/-- Both impacts are differences of signed values. -/
theorem noUnderflow_getPriceImpactUsd (hpow : ∀ x y, NoUnderflow (env.pow x y))
    (dataStore : DataStore) (params : GetPriceImpactUsdParams) :
    NoUnderflow (getPriceImpactUsd env dataStore params) := by
  have hfactor := noUnderflow_applyImpactFactor hpow
  have himpact : ∀ market openInterestParams,
      NoUnderflow (_getPriceImpactUsd env dataStore market openInterestParams) := by
    intro market openInterestParams
    simp [_getPriceImpactUsd, PricingUtils.getPriceImpactUsdForSameSideRebalance,
      PricingUtils.getPriceImpactUsdForCrossoverRebalance, hfactor]
  simp only [getPriceImpactUsd, ge_iff_le, bind_pure_comp, noUnderflow_bind,
    noUnderflow_getNextOpenInterest, himpact, noUnderflow_ite, noUnderflow_pure, implies_true,
    not_le, true_and]
  intro openInterestParams _ priceImpactUsd _ _
  split
  · exact noUnderflow_pure _
  · simp [himpact]

/-- Settings are read. -/
@[simp] theorem noUnderflow_getReferralInfo (trader : Address) :
    NoUnderflow (ReferralUtils.getReferralInfo env trader) := by
  simp [ReferralUtils.getReferralInfo]

/-- Fees and claims are differences of signed values. -/
@[simp] theorem noUnderflow_getFundingFees (position : Position) (longToken shortToken : Address)
    (latestLong latestShort : Int) :
    NoUnderflow (getFundingFees position longToken shortToken latestLong latestShort) := by
  simp [getFundingFees]

/-- Factors of the size. -/
@[simp] theorem noUnderflow_getUiFees (dataStore : DataStore) (collateralTokenPrice : Price)
    (sizeDeltaUsd : Nat) (uiFeeReceiver : Address) :
    NoUnderflow (getUiFees dataStore collateralTokenPrice sizeDeltaUsd uiFeeReceiver) := by
  simp [getUiFees]

/-- A factor of the fee. -/
@[simp] theorem noUnderflow_getBorrowingFees (dataStore : DataStore) (collateralTokenPrice : Price)
    (borrowingFeeUsd : Nat) :
    NoUnderflow (getBorrowingFees dataStore collateralTokenPrice borrowingFeeUsd) := by
  simp [getBorrowingFees]

/-- With shares of at most one, no cut of the position fee takes more than there is. -/
theorem noUnderflow_getPositionFeesAfterReferral (hshares : FeeSharesInRange env dataStore)
    (collateralTokenPrice : Price) (account market : Address) (sizeDeltaUsd : Nat) :
    NoUnderflow (getPositionFeesAfterReferral env dataStore collateralTokenPrice account market
      sizeDeltaUsd) := by
  obtain ⟨referralCode, affiliate, totalRebateFactor, traderDiscountFactor, hreferral, hrebateLe,
    hdiscountLe⟩ := ReferralUtils.getReferralInfo_returns hshares.referral account
  simp only [getPositionFeesAfterReferral, hreferral, bind_pure_comp, noUnderflow_bind,
    noUnderflow_ok, Except.ok.injEq, Precision.noUnderflow_applyFactor, noUnderflow_div,
    noUnderflow_sub, noUnderflow_map, true_and, forall_eq']
  intro _ _ positionFeeAmount _ totalRebateAmount hrebate traderDiscountAmount hdiscount
  refine ⟨Precision.applyFactor_le hdiscountLe hdiscount, ?_⟩
  intro _ _
  refine ⟨Precision.applyFactor_le hrebateLe hrebate, ?_⟩
  intro protocolFeeAmount _ feeReceiverAmount hfee
  exact Precision.applyFactor_le hshares.positionFeeReceiver hfee

/-- The discount is a part of the position fee. -/
theorem getPositionFeesAfterReferral_discount (hshares : ReferralSharesInRange env)
    {collateralTokenPrice : Price} {account market : Address} {sizeDeltaUsd : Nat}
    {fees : PositionFees}
    (h : getPositionFeesAfterReferral env dataStore collateralTokenPrice account market
      sizeDeltaUsd = .ok fees) :
    fees.referral.traderDiscountAmount ≤ fees.positionFeeAmount := by
  obtain ⟨referralCode, affiliate, totalRebateFactor, traderDiscountFactor, hreferral, hrebateLe,
    hdiscountLe⟩ := ReferralUtils.getReferralInfo_returns hshares account
  simp only [getPositionFeesAfterReferral, hreferral, Result.ok_bind, Result.bind_eq_ok,
    sub_eq_ok, Result.pure_eq_ok] at h
  obtain ⟨_, -, positionFeeAmount, -, totalRebateAmount, hrebate, traderDiscountAmount, hdiscount,
    _, -, _, -, _, -, _, -, rfl⟩ := h
  exact (Precision.applyFactor_le hdiscountLe hdiscount).trans
    (Precision.applyFactor_le hrebateLe hrebate)

/-- The part of the borrowing fee that its receiver takes is a part of it. -/
theorem getBorrowingFees_receiver {collateralTokenPrice : Price} {borrowingFeeUsd : Nat}
    {borrowing : PositionBorrowingFees}
    (hborrowingFee : dataStore.getUint (.base .BORROWING_FEE_RECEIVER_FACTOR) ≤
      Precision.FLOAT_PRECISION)
    (h : getBorrowingFees dataStore collateralTokenPrice borrowingFeeUsd = .ok borrowing) :
    borrowing.borrowingFeeAmountForFeeReceiver ≤ borrowing.borrowingFeeAmount := by
  simp only [getBorrowingFees, Result.bind_eq_ok, Result.pure_eq_ok] at h
  obtain ⟨_, -, _, hreceiver, rfl⟩ := h
  exact Precision.applyFactor_le hborrowingFee hreceiver

/-- The fee receivers have no more than the whole fee, so something is left for the pool. -/
theorem noUnderflow_getPositionFees (hshares : FeeSharesInRange env dataStore)
    (params : GetPositionFeesParams) : NoUnderflow (getPositionFees env dataStore params) := by
  have hbase := noUnderflow_getPositionFeesAfterReferral hshares
  simp only [getPositionFees, bind_pure_comp, noUnderflow_bind, hbase,
    MarketUtils.noUnderflow_getBorrowingFees, noUnderflow_getBorrowingFees, noUnderflow_add,
    noUnderflow_sub, noUnderflow_getFundingFees, noUnderflow_getUiFees, noUnderflow_map, true_and]
  intro fees hfees borrowingFeeUsd _ borrowing hborrowing total htotal
  have hreceiver := getBorrowingFees_receiver hshares.borrowingFeeReceiver hborrowing
  have hdiscount := getPositionFeesAfterReferral_discount hshares.referral hfees
  obtain ⟨-, rfl⟩ := add_eq_ok.mp htotal
  refine ⟨by omega, ?_⟩
  intro _ _ _ _ funding _ ui _ cost hcost cost' hcost' cost'' hcost''
  obtain ⟨-, rfl⟩ := add_eq_ok.mp hcost
  obtain ⟨-, rfl⟩ := add_eq_ok.mp hcost'
  obtain ⟨-, rfl⟩ := add_eq_ok.mp hcost''
  omega

end PositionPricingUtils

-- ---------------------------------------------------------------------------
-- Position updates
-- ---------------------------------------------------------------------------

namespace PositionUtils

open MarketUtils PositionPricingUtils

/-- The size of a position that is not closed in full is not zero. -/
theorem noUnderflow_getSizeDeltaInTokens {position : Position} {sizeDeltaUsd : Nat}
    (hle : sizeDeltaUsd ≤ position.sizeInUsd) :
    NoUnderflow (getSizeDeltaInTokens position sizeDeltaUsd) := by
  simp only [getSizeDeltaInTokens, noUnderflow_ite, noUnderflow_pure, implies_true,
    noUnderflow_bind, noUnderflow_mul, Calc.noUnderflow_roundUpDivision, true_and, Bool.not_eq_true,
    noUnderflow_div, and_self, and_true]
  omega

/-- A capped pnl is compared with the full one. -/
@[simp] theorem noUnderflow_getCappedTotalPositionPnl (dataStore : DataStore) (market : Market)
    (prices : MarketPrices) (position : Position) (totalPositionPnl : Int) :
    NoUnderflow (getCappedTotalPositionPnl dataStore market prices position totalPositionPnl) := by
  simp [getCappedTotalPositionPnl]

/-- The share of the size is not above the size. -/
theorem noUnderflow_getPositionPnlUsd {position : Position} {sizeDeltaUsd : Nat}
    (hle : sizeDeltaUsd ≤ position.sizeInUsd) (dataStore : DataStore) (market : Market)
    (prices : MarketPrices) (executionPrice : Nat) :
    NoUnderflow (getPositionPnlUsd dataStore market prices position executionPrice
      sizeDeltaUsd) := by
  simp [getPositionPnlUsd, noUnderflow_getSizeDeltaInTokens hle]

/-- Liquidation is decided with signed values. -/
theorem noUnderflow_isPositionLiquidatable (hpow : ∀ x y, NoUnderflow (env.pow x y))
    (hshares : FeeSharesInRange env dataStore) (position : Position) (market : Market)
    (prices : MarketPrices) (shouldValidateMinCollateralUsd : Bool) :
    NoUnderflow (isPositionLiquidatable env dataStore position market prices
      shouldValidateMinCollateralUsd) := by
  have hpnl := noUnderflow_getPositionPnlUsd (Nat.le_refl position.sizeInUsd)
  have himpact := noUnderflow_getPriceImpactUsd hpow
  have hfees := noUnderflow_getPositionFees hshares
  simp [isPositionLiquidatable, getLiquidationPriceImpactUsd, hpnl, himpact, hfees]

/-- So is the check of a position. -/
theorem noUnderflow_validatePosition (hpow : ∀ x y, NoUnderflow (env.pow x y))
    (hshares : FeeSharesInRange env dataStore) (position : Position) (market : Market)
    (prices : MarketPrices) (shouldValidateMinPositionSize shouldValidateMinCollateralUsd : Bool) :
    NoUnderflow (validatePosition env dataStore position market prices
      shouldValidateMinPositionSize shouldValidateMinCollateralUsd) := by
  simp [validatePosition, noUnderflow_isPositionLiquidatable hpow hshares]

/-- What is left of the open interest is not negative. -/
theorem noUnderflow_willPositionCollateralBeSufficient {market : Market} {isLong : Bool}
    {values : WillPositionCollateralBeSufficientValues}
    (hcovered : ∀ openInterest, getOpenInterest dataStore market isLong = .ok openInterest →
      0 ≤ openInterest + values.openInterestDelta)
    (prices : MarketPrices) (collateralToken : Address) :
    NoUnderflow (willPositionCollateralBeSufficient dataStore market prices collateralToken isLong
      values) := by
  simp [willPositionCollateralBeSufficient,
    noUnderflow_getMinCollateralFactorForOpenInterest hcovered]

variable {params : UpdatePositionParams}

/-- The clock has not run backwards, for funding and for borrowing. -/
theorem noUnderflow_updateFundingAndBorrowingState
    (h : UpdateConditions env params.market.marketToken params.order.isLong w.dataStore)
    (prices : MarketPrices) :
    NoUnderflow (updateFundingAndBorrowingState env params prices w) := by
  have hfunding := noUnderflow_getNextFundingAmountPerSize h.pow h.fundingUpdatedAt prices
  simp only [updateFundingAndBorrowingState, noUnderflow_tx_bind]
  constructor
  · simp [updateFundingAmountPerSize, setFundingAmountPerSize, hfunding]
  · intro _ w₁ hupdated
    have hsame : World.SameOff [.constant .FUNDING_AMOUNT_PER_SIZE, .constant .FUNDING_UPDATED_AT]
        w w₁ := updateFundingAmountPerSize_writes (by decide) (by decide) _ _ _ hupdated
    have hclock : getCumulativeBorrowingFactorUpdatedAt w₁.dataStore params.market.marketToken
        params.order.isLong ≤ env.timestamp := by
      unfold getCumulativeBorrowingFactorUpdatedAt
      rw [hsame.uint (.constant .CUMULATIVE_BORROWING_FACTOR_UPDATED_AT) (by decide) _ rfl]
      exact h.borrowingUpdatedAt
    have hborrowing := noUnderflow_getNextCumulativeBorrowingFactor h.pow hclock prices
    simp [updateCumulativeBorrowingFactor, incrementCumulativeBorrowingFactor, hborrowing]

/-- Amounts are counted up. -/
@[simp] theorem noUnderflow_incrementClaimableFundingAmount (params : UpdatePositionParams)
    (fees : PositionFees) (w : World) :
    NoUnderflow (incrementClaimableFundingAmount params fees w) := by
  simp [incrementClaimableFundingAmount]

/-- Open interest has an error for too large a deduction. -/
@[simp] theorem noUnderflow_updateOpenInterest (params : UpdatePositionParams)
    (sizeDeltaUsd sizeDeltaInTokens : Int) (w : World) :
    NoUnderflow (updateOpenInterest params sizeDeltaUsd sizeDeltaInTokens w) := by
  simp [updateOpenInterest]

/-- An amount is counted up. -/
@[simp] theorem noUnderflow_handleReferral (params : UpdatePositionParams) (fees : PositionFees)
    (w : World) : NoUnderflow (handleReferral params fees w) := by
  simp [handleReferral]

end PositionUtils

-- ---------------------------------------------------------------------------
-- Collateral of a decrease
-- ---------------------------------------------------------------------------

/-- The swap is caught, whatever it panics with. -/
@[simp] theorem DecreasePositionSwapUtils.noUnderflow_swapProfitToCollateralToken
    (params : PositionUtils.UpdatePositionParams) (pnlToken : Address) (profitAmount : Nat)
    (w : World) :
    NoUnderflow (swapProfitToCollateralToken env params pnlToken profitAmount w) := by
  simp only [swapProfitToCollateralToken, noUnderflow_tx_ite, noUnderflow_tx_bind,
    noUnderflow_tx_attempt, true_and, noUnderflow_tx_pure, implies_true, and_true]
  intro _ swapped _ _
  cases swapped with
  | ok result => exact noUnderflow_tx_pure _ _
  | error e => exact noUnderflow_tx_pure _ _

/-- The swap is caught, whatever it panics with. -/
@[simp] theorem DecreasePositionSwapUtils.noUnderflow_swapWithdrawnCollateralToPnlToken
    (params : PositionUtils.UpdatePositionParams)
    (values : PositionUtils.DecreasePositionCollateralValues) (w : World) :
    NoUnderflow (swapWithdrawnCollateralToPnlToken env params values w) := by
  simp only [swapWithdrawnCollateralToPnlToken, ne_eq, bind_pure_comp, noUnderflow_tx_ite,
    noUnderflow_tx_bind, noUnderflow_tx_attempt, true_and, noUnderflow_tx_pure, implies_true,
    and_true]
  intro _ swapped _ _
  cases swapped with
  | ok result => simp
  | error e => exact noUnderflow_tx_pure _ _

namespace DecreasePositionCollateralUtils

open MarketUtils PositionUtils PositionPricingUtils

variable {params : UpdatePositionParams} {cache : DecreasePositionCache}

/-- The cut off part of an impact is a difference of signed values. -/
theorem noUnderflow_getExecutionPrice (hpow : ∀ x y, NoUnderflow (env.pow x y))
    (dataStore : DataStore) (params : UpdatePositionParams) (prices : MarketPrices)
    (sizeDeltaUsd : Nat) :
    NoUnderflow (getExecutionPrice env dataStore params prices sizeDeltaUsd) := by
  simp [getExecutionPrice, noUnderflow_getPriceImpactUsd hpow]

/-- Either amount is subtracted from the larger one. -/
@[simp] theorem noUnderflow_adjustPositionPnl (positionPnlUsd : Int) (priceImpactDiffUsd : Nat)
    (collateralTokenPrice : Price) :
    NoUnderflow (adjustPositionPnl positionPnlUsd priceImpactDiffUsd collateralTokenPrice) := by
  simp only [adjustPositionPnl, gt_iff_lt, bind_pure_comp, noUnderflow_bind, noUnderflow_ite,
    noUnderflow_toInt256, noUnderflow_map, noUnderflow_subInt, implies_true, not_lt,
    noUnderflow_toUint256, noUnderflow_sub, true_and, and_imp, not_and, nonpos_iff_eq_zero,
    noUnderflow_pure, and_true, noUnderflow_div]
  intro _ _ diffUsd hdiff hle pnl hpnl
  obtain ⟨-, rfl⟩ := toInt256_eq_ok.mp hdiff
  have hcast := toUint256_eq_ok.mp hpnl
  omega

/-- The adjustment of a profit only takes from it. -/
theorem adjustPositionPnl_le {positionPnlUsd : Int} {priceImpactDiffUsd : Nat}
    {collateralTokenPrice : Price} {collateralCache : ProcessCollateralCache}
    (h : adjustPositionPnl positionPnlUsd priceImpactDiffUsd collateralTokenPrice =
      .ok collateralCache) : collateralCache.adjustedPositionPnlUsd ≤ positionPnlUsd := by
  obtain ⟨-, -, hcases⟩ := adjustPositionPnl_eq_ok h
  omega

/-- The pool is charged with the full pnl, of which the user has no more. -/
theorem noUnderflow_realizeProfit {positionPnlUsd adjustedPositionPnlUsd : Int}
    (hle : adjustedPositionPnlUsd ≤ positionPnlUsd) (w : World) :
    NoUnderflow (realizeProfit env params cache positionPnlUsd adjustedPositionPnlUsd w) := by
  simp only [realizeProfit, noUnderflow_tx_ite, ↓noUnderflow_lift_bind, noUnderflow_toUint256,
    noUnderflow_div, noUnderflow_sub, true_and, noUnderflow_tx_pure, implies_true, and_true]
  intro hpositive pnl hpnl deduction hdeduction adjusted hadjusted kept hkept
  obtain ⟨-, rfl⟩ := div_eq_ok.mp hdeduction
  obtain ⟨-, rfl⟩ := div_eq_ok.mp hkept
  have hpnl' := toUint256_eq_ok.mp hpnl
  have hadjusted' := toUint256_eq_ok.mp hadjusted
  refine ⟨Nat.div_le_div_right (by omega), ?_⟩
  intro diff _
  simp only [gt_iff_lt, noUnderflow_tx_bind, noUnderflow_tx_ite,
    noUnderflow_incrementClaimableCollateralAmount, implies_true, not_lt, nonpos_iff_eq_zero,
    noUnderflow_tx_pure, and_self, noUnderflow_tx_lift, noUnderflow_toInt256, noUnderflow_negInt,
    noUnderflow_applyDeltaToPoolAmount,
    DecreasePositionSwapUtils.noUnderflow_swapProfitToCollateralToken, true_and]
  intro _ _ _ _ _ _ _ _ _ _ _ _ swapped _ _
  cases swapped with
  | some swapOutputAmount => exact noUnderflow_tx_pure _ _
  | none => simp

/-- What has been realised pays for itself. -/
theorem noUnderflow_realizePnl (hpow : ∀ x y, NoUnderflow (env.pow x y))
    (hshares : FeeSharesInRange env w.dataStore)
    (hle : params.order.sizeDeltaUsd ≤ params.position.sizeInUsd) :
    NoUnderflow (realizePnl env params cache w) := by
  simp only [realizePnl, ↓noUnderflow_lift_bind, ↓noUnderflow_viewStore_bind, true_and,
    noUnderflow_getCachedTokenPrice, noUnderflow_getExecutionPrice hpow,
    noUnderflow_getPositionPnlUsd hle, noUnderflow_adjustPositionPnl,
    noUnderflow_getPositionFees hshares]
  intro collateralTokenPrice _ price _ pnl _ collateralCache hadjusted fees _
  simp [noUnderflow_realizeProfit (adjustPositionPnl_le hadjusted)]

/-- An output that does not cover the fees is less than what is due. -/
theorem noUnderflow_payFromProfit {realized : RealizedPnl}
    (hfees : realized.fees.collateralCostAmount = realized.fees.totalNetCostAmount) :
    NoUnderflow (payFromProfit params cache realized) := by
  simp only [payFromProfit, payFeesFromOutput, gt_iff_lt, bind_pure_comp, noUnderflow_bind,
    noUnderflow_ite, noUnderflow_map, noUnderflow_sub, not_lt, nonpos_iff_eq_zero, noUnderflow_pure,
    implies_true, and_true, noUnderflow_negInt, noUnderflow_toUint256, noUnderflow_div,
    noUnderflow_add, and_self]
  omega

/-- A collateral that covers what is pending covers its parts. -/
theorem noUnderflow_payFromCollateral {pending : PendingCollateral}
    (hdeduction : pending.values.pendingCollateralDeduction =
      pending.fees.collateralCostAmount + lossAmount pending)
    (hcovered : pending.values.pendingCollateralDeduction ≤
      pending.values.remainingCollateralAmount) (w : World) :
    NoUnderflow (payFromCollateral env params pending w) := by
  unfold payFromCollateral
  refine noUnderflow_tx_bind.mpr ⟨?_, fun remaining w₁ hloss => ?_⟩
  · split
    · rename_i hnegative
      unfold lossAmount at hdeduction
      rw [if_pos hnegative] at hdeduction
      simp only [↓noUnderflow_lift_bind, noUnderflow_negInt, noUnderflow_toUint256,
        noUnderflow_div, noUnderflow_sub, true_and]
      intro negated hnegated loss hloss amountForPool hamount
      obtain ⟨-, rfl⟩ := negInt_eq_ok.mp hnegated
      obtain ⟨-, rfl⟩ := div_eq_ok.mp hamount
      have hcast := toUint256_eq_ok.mp hloss
      have htoNat : (-pending.values.positionPnlUsd).toNat = loss := by omega
      rw [htoNat] at hdeduction
      exact ⟨by omega, fun _ _ => by simp⟩
    · exact noUnderflow_tx_pure _ _
  · obtain ⟨hleft, -⟩ := payLoss_eq_ok env hloss
    simp only [gt_iff_lt, bind_pure_comp, noUnderflow_tx_bind, noUnderflow_tx_lift,
      noUnderflow_sub, noUnderflow_negInt, noUnderflow_applyDeltaToPositionImpactPool,
      noUnderflow_tx_ite, noUnderflow_tx_map, noUnderflow_incrementClaimableCollateralAmount,
      implies_true, and_true, not_lt, nonpos_iff_eq_zero, noUnderflow_tx_pure, noUnderflow_add,
      FeeUtils.noUnderflow_incrementClaimableFeeAmount,
      FeeUtils.noUnderflow_incrementClaimableUiFeeAmount, and_self, true_and]
    refine ⟨by omega, ?_⟩
    intro left _ _ _ _ _ _ _ _
    refine ⟨fun _ => by split <;> omega, ?_⟩
    intro left' _ _
    split <;> omega

/-- A force close separates the funding fee from what is pending. -/
theorem noUnderflow_processForceClose {values : DecreasePositionCollateralValues}
    {fees : PositionFees}
    (hle : fees.funding.fundingFeeAmount ≤ values.pendingCollateralDeduction)
    (prices : MarketPrices) (collateralTokenPrice : Price) (w : World) :
    NoUnderflow (processForceClose env params values fees prices collateralTokenPrice w) := by
  simp only [processForceClose, payForceCloseFromCollateral, gt_iff_lt, bind_pure_comp,
    payForceCloseFunding, ge_iff_le, payForceCloseCosts, noUnderflow_tx_bind, noUnderflow_tx_lift,
    noUnderflow_sub, hle, noUnderflow_tx_ite, noUnderflow_tx_map, not_lt, noUnderflow_ite,
    noUnderflow_pure, implies_true, and_true, noUnderflow_toInt256,
    noUnderflow_applyDeltaToPoolAmount, and_self, noUnderflow_getCachedTokenPrice,
    noUnderflow_readStore, noUnderflow_revertIf, ne_eq, reduceCtorEq, not_false_eq_true,
    noUnderflow_mul, noUnderflow_div, noUnderflow_incrementClaimableCollateralAmount, not_and,
    nonpos_iff_eq_zero, noUnderflow_tx_pure, true_and]
  intro remainingCost _ _
  refine ⟨fun hexceeds => by omega, fun hcovered => ⟨hcovered, ?_⟩⟩
  intro amountForPool _ _ hlt
  omega

/-- What is processed does not underflow where a force close does not. -/
theorem noUnderflow_processCollateral (hpow : ∀ x y, NoUnderflow (env.pow x y))
    (hshares : FeeSharesInRange env w.dataStore)
    (hle : params.order.sizeDeltaUsd ≤ params.position.sizeInUsd)
    (hclose : ∀ pending w₁, pendingCollateral env params cache w = .ok (pending, w₁) →
      pending.values.remainingCollateralAmount < pending.values.pendingCollateralDeduction →
      isForceClosable params = true →
      pending.fees.funding.fundingFeeAmount ≤ pending.values.pendingCollateralDeduction) :
    NoUnderflow (processCollateral env params cache w) := by
  rw [processCollateral_eq]
  refine noUnderflow_tx_bind.mpr ⟨?_, fun pending w₁ hpending => ?_⟩
  · refine noUnderflow_tx_bind.mpr ⟨noUnderflow_realizePnl hpow hshares hle, ?_⟩
    intro realized w₁ hrealize
    exact noUnderflow_tx_lift.mpr (noUnderflow_payFromProfit (realizePnl_fees hrealize).1)
  · split
    · rename_i hexceeds
      split
      · rename_i hclosable
        exact noUnderflow_processForceClose (hclose pending w₁ hpending hexceeds hclosable) _ _ _
      · simp
    · rename_i hcovered
      refine noUnderflow_payFromCollateral ?_ (not_lt.mp hcovered) _
      obtain ⟨realized, w₂, hrealize, hpay⟩ := Tx.bind_eq_ok.mp hpending
      have hrealizes := realizePnl_eq_ok hrealize
      exact (pendingCollateral_eq_ok hrealizes.price hrealizes.pnl hpending).2.1

end DecreasePositionCollateralUtils

-- ---------------------------------------------------------------------------
-- Decreases
-- ---------------------------------------------------------------------------

/-- The slots that a decrease writes hold no shares. -/
theorem FeeSharesInRange.of_writes {α : Type} {x : Tx α} {a : α} {w' : World}
    (h : FeeSharesInRange env w.dataStore) (hwrites : Writes (positionUpdateSlots ++ swapSlots) x)
    (hx : x w = .ok (a, w')) : FeeSharesInRange env w'.dataStore :=
  h.of_sameOff (hwrites hx) (by decide)

namespace DecreasePositionUtils

open MarketUtils PositionUtils PositionPricingUtils DecreasePositionCollateralUtils

variable {params : UpdatePositionParams} {prices : MarketPrices}

/-- What is closed is taken off the position and off the total of what is borrowed. -/
theorem noUnderflow_closeDecreased (params : UpdatePositionParams)
    {values : DecreasePositionCollateralValues}
    (hsize : params.order.sizeDeltaUsd ≤ params.position.sizeInUsd)
    (htokens : values.sizeDeltaInTokens ≤ params.position.sizeInTokens)
    (hcollateral : values.remainingCollateralAmount ≤ params.position.collateralAmount)
    (hborrowed : borrowed params.position.sizeInUsd params.position.borrowingFactor ≤
      getTotalBorrowing w.dataStore params.market.marketToken params.position.isLong)
    (fees : PositionFees) : NoUnderflow (closeDecreased env params values fees w) := by
  have hborrowing := noUnderflow_updateTotalBorrowing hborrowed
  simp only [closeDecreased, ↓noUnderflow_lift_bind, ↓noUnderflow_readStore_bind, noUnderflow_sub,
    hsize, true_and]
  intro nextSizeInUsd _
  refine noUnderflow_tx_bind.mpr ⟨hborrowing _ _, fun _ w₁ _ => ?_⟩
  simp only [↓noUnderflow_lift_bind, noUnderflow_sub, htokens, true_and]
  intro nextSizeInTokens _
  refine noUnderflow_tx_bind.mpr ⟨noUnderflow_incrementClaimableFundingAmount _ _ _, ?_⟩
  intro _ w₂ _
  refine noUnderflow_tx_bind.mpr ⟨?_, ?_⟩
  · simp [closeOrStore, PositionStoreUtils.remove]
  · rintro ⟨nextPosition, values'⟩ w₃ hclosed
    -- the position that is left has the remaining collateral, or none
    have hnext : nextPosition.collateralAmount ≤ params.position.collateralAmount := by
      unfold closeOrStore at hclosed
      split at hclosed
      · obtain ⟨_, _, -, hclosed⟩ := Tx.bind_eq_ok.mp hclosed
        obtain ⟨_, _, -, hclosed⟩ := Tx.bind_eq_ok.mp hclosed
        obtain ⟨_, _, -, hclosed⟩ := Tx.bind_eq_ok.mp hclosed
        obtain ⟨heq, -⟩ := Tx.pure_eq_ok.mp hclosed
        rw [← (Prod.mk.inj heq).1]
        exact Nat.zero_le _
      · obtain ⟨_, _, -, hclosed⟩ := Tx.bind_eq_ok.mp hclosed
        obtain ⟨heq, -⟩ := Tx.pure_eq_ok.mp hclosed
        rw [← (Prod.mk.inj heq).1]
        exact hcollateral
    simp [hnext]

/-- A closed or smaller position is stored, with its share of the borrowing. -/
theorem closeDecreased_writes {slots : List Slot} (hslots : positionUpdateSlots ⊆ slots)
    (params : UpdatePositionParams)
    (hkey : params.positionKey.slot = .position) (values : DecreasePositionCollateralValues)
    (fees : PositionFees) : Writes slots (closeDecreased env params values fees) := by
  have hlists : positionListSlots ⊆ slots := positionListSlots_subset hslots
  have hposition : params.positionKey.slot ∈ slots := hkey ▸ hslots (by decide)
  unfold closeDecreased
  refine (Writes.lift _).bind fun nextSizeInUsd => (Writes.readStore _).bind fun factor => ?_
  refine (updateTotalBorrowing_writes (hslots (by decide)) _ _ _ _ _ _).bind fun _ => ?_
  refine (Writes.lift _).bind fun nextSizeInTokens => ?_
  refine (PositionUtils.incrementClaimableFundingAmount_writes (hslots (by decide)) _ _).bind ?_
  intro _
  refine (closeOrStore_writes params hlists hposition _ _ _ _).bind ?_
  rintro ⟨nextPosition, values'⟩
  exact (Writes.lift _).bind fun _ => .pure _

/-- The sums of the market have errors for too large a deduction, and the position is checked. -/
theorem noUnderflow_moveSums (hpow : ∀ x y, NoUnderflow (env.pow x y))
    (hshares : FeeSharesInRange env w.dataStore) (params : UpdatePositionParams)
    (prices : MarketPrices) (fees : PositionFees) (nextPosition : Position)
    (values : DecreasePositionCollateralValues) (collateralTaken : Nat) :
    NoUnderflow (moveSums env params prices fees nextPosition values collateralTaken w) := by
  simp only [moveSums, ↓noUnderflow_lift_bind, noUnderflow_toInt256, noUnderflow_negInt, true_and]
  intro _ _ collateralDelta _
  refine noUnderflow_tx_bind.mpr ⟨noUnderflow_applyDeltaToCollateralSum _ _ _ _ _, ?_⟩
  intro _ w₁ hsum
  have hshares₁ := FeeSharesInRange.of_writes hshares
    (applyDeltaToCollateralSum_writes (by decide) _ _ _ _) hsum
  simp only [↓noUnderflow_lift_bind, noUnderflow_toInt256, noUnderflow_negInt, true_and]
  intro _ _ sizeDelta _ _ _ tokensDelta _
  refine noUnderflow_tx_bind.mpr ⟨noUnderflow_updateOpenInterest _ _ _ _, ?_⟩
  intro _ w₂ hinterest
  have hshares₂ := FeeSharesInRange.of_writes hshares₁
    (updateOpenInterest_writes (by decide) _ _ _) hinterest
  simp only [↓noUnderflow_lift_bind, noUnderflow_toInt256, true_and]
  intro poolDelta _
  refine noUnderflow_tx_bind.mpr ⟨noUnderflow_applyDeltaToPoolAmount _ _ _ _, ?_⟩
  intro _ w₃ hpool
  have hshares₃ := FeeSharesInRange.of_writes hshares₂
    (applyDeltaToPoolAmount_writes (by decide) (by decide) _ _ _) hpool
  refine noUnderflow_tx_bind.mpr ⟨noUnderflow_handleReferral _ _ _, ?_⟩
  intro _ w₄ hreferral
  have hshares₄ := FeeSharesInRange.of_writes hshares₃
    (ReferralUtils.incrementAffiliateReward_writes (by decide) _ _ _ _) hreferral
  refine noUnderflow_tx_bind.mpr ⟨?_, ?_⟩
  · simp [noUnderflow_validatePosition hpow hshares₄]
  · simp

end DecreasePositionUtils

end GmxSynthetics
