import GmxSynthetics.Market.Market

/-!
# Price impact and swap fees

`PricingUtils.sol` and `SwapPricingUtils.sol`. Price impact compares the imbalance of
two amounts before and after an action: `diff ^ exponent * factor / 2` on either side,
with one factor while the balance stays on its side and two when it crosses over.
-/

namespace GmxSynthetics

namespace PricingUtils

variable (env : Env)

def applyImpactFactor (diffUsd impactFactor impactExponentFactor : Nat) : Result Nat := do
  let exponentValue ← Precision.applyExponentFactor env diffUsd impactExponentFactor
  div (← Precision.applyFactor exponentValue impactFactor) 2

def getPriceImpactUsdForSameSideRebalance (initialDiffUsd nextDiffUsd impactFactor
    impactExponentFactor : Nat) : Result Int := do
  let hasPositiveImpact := decide (nextDiffUsd < initialDiffUsd)
  let deltaDiffUsd := Calc.diff
    (← applyImpactFactor env initialDiffUsd impactFactor impactExponentFactor)
    (← applyImpactFactor env nextDiffUsd impactFactor impactExponentFactor)
  Calc.toSigned deltaDiffUsd hasPositiveImpact

def getPriceImpactUsdForCrossoverRebalance (initialDiffUsd nextDiffUsd positiveImpactFactor
    negativeImpactFactor impactExponentFactor : Nat) : Result Int := do
  let positiveImpactUsd ←
    applyImpactFactor env initialDiffUsd positiveImpactFactor impactExponentFactor
  let negativeImpactUsd ←
    applyImpactFactor env nextDiffUsd negativeImpactFactor impactExponentFactor
  let deltaDiffUsd := Calc.diff positiveImpactUsd negativeImpactUsd
  Calc.toSigned deltaDiffUsd (decide (positiveImpactUsd > negativeImpactUsd))

end PricingUtils

namespace SwapPricingUtils

structure GetPriceImpactUsdParams where
  market : Market
  tokenA : Address
  tokenB : Address
  priceForTokenA : Nat
  priceForTokenB : Nat
  usdDeltaForTokenA : Int
  usdDeltaForTokenB : Int

structure PoolParams where
  poolUsdForTokenA : Nat
  poolUsdForTokenB : Nat
  nextPoolUsdForTokenA : Nat
  nextPoolUsdForTokenB : Nat

structure SwapFees where
  feeReceiverAmount : Nat
  feeAmountForPool : Nat
  amountAfterFees : Nat
  uiFeeReceiver : Address
  uiFeeReceiverFactor : Nat
  uiFeeAmount : Nat
  deriving DecidableEq, Repr

variable (env : Env) (dataStore : DataStore)

def _getPriceImpactUsd (market : Market) (poolParams : PoolParams) : Result Int :=
  let initialDiffUsd := Calc.diff poolParams.poolUsdForTokenA poolParams.poolUsdForTokenB
  let nextDiffUsd := Calc.diff poolParams.nextPoolUsdForTokenA poolParams.nextPoolUsdForTokenB
  let isSameSideRebalance :=
    decide (poolParams.poolUsdForTokenA ≤ poolParams.poolUsdForTokenB) ==
      decide (poolParams.nextPoolUsdForTokenA ≤ poolParams.nextPoolUsdForTokenB)
  let impactExponentFactor :=
    dataStore.getUint (Keys.swapImpactExponentFactorKey market.marketToken)
  if isSameSideRebalance then
    let hasPositiveImpact := decide (nextDiffUsd < initialDiffUsd)
    let impactFactor :=
      MarketUtils.getAdjustedSwapImpactFactor dataStore market.marketToken hasPositiveImpact
    PricingUtils.getPriceImpactUsdForSameSideRebalance env initialDiffUsd nextDiffUsd
      impactFactor impactExponentFactor
  else
    let factors := MarketUtils.getAdjustedSwapImpactFactors dataStore market.marketToken
    PricingUtils.getPriceImpactUsdForCrossoverRebalance env initialDiffUsd nextDiffUsd
      factors.1 factors.2 impactExponentFactor

def getNextPoolAmountsParams (params : GetPriceImpactUsdParams)
    (poolAmountForTokenA poolAmountForTokenB : Nat) : Result PoolParams := do
  let poolUsdForTokenA ← mul poolAmountForTokenA params.priceForTokenA
  let poolUsdForTokenB ← mul poolAmountForTokenB params.priceForTokenB
  let exceedsA ← negationExceeds params.usdDeltaForTokenA poolUsdForTokenA
  revertIf (exceedsA = true) (.UsdDeltaExceedsPoolValue params.usdDeltaForTokenA poolUsdForTokenA)
  let exceedsB ← negationExceeds params.usdDeltaForTokenB poolUsdForTokenB
  revertIf (exceedsB = true) (.UsdDeltaExceedsPoolValue params.usdDeltaForTokenB poolUsdForTokenB)
  let nextPoolUsdForTokenA ← Calc.sumReturnUint256 poolUsdForTokenA params.usdDeltaForTokenA
  let nextPoolUsdForTokenB ← Calc.sumReturnUint256 poolUsdForTokenB params.usdDeltaForTokenB
  pure { poolUsdForTokenA, poolUsdForTokenB, nextPoolUsdForTokenA, nextPoolUsdForTokenB }

def getNextPoolAmountsUsd (params : GetPriceImpactUsdParams) : Result PoolParams :=
  getNextPoolAmountsParams params
    (MarketUtils.getPoolAmount dataStore params.market params.tokenA)
    (MarketUtils.getPoolAmount dataStore params.market params.tokenB)

/-- The worse of the impact on the market's pools and, when that is negative, on the
virtual pools. -/
def getPriceImpactUsd (params : GetPriceImpactUsdParams) : Result Int := do
  let poolParams ← getNextPoolAmountsUsd dataStore params
  let priceImpactUsd ← _getPriceImpactUsd env dataStore params.market poolParams
  if priceImpactUsd ≥ 0 then pure priceImpactUsd
  else
    match
      MarketUtils.getVirtualInventoryForSwaps dataStore params.market.marketToken params.tokenA,
      MarketUtils.getVirtualInventoryForSwaps dataStore params.market.marketToken params.tokenB
    with
    | some virtualPoolAmountForTokenA, some virtualPoolAmountForTokenB =>
      let poolParamsForVirtualInventory ← getNextPoolAmountsParams params
        virtualPoolAmountForTokenA virtualPoolAmountForTokenB
      let priceImpactUsdForVirtualInventory ←
        _getPriceImpactUsd env dataStore params.market poolParamsForVirtualInventory
      pure (if priceImpactUsdForVirtualInventory < priceImpactUsd then
        priceImpactUsdForVirtualInventory else priceImpactUsd)
    | _, _ => pure priceImpactUsd

def getSwapFees (marketToken : Address) (amount : Nat) (uiFeeReceiver : Address) :
    Result SwapFees := do
  let feeFactor := dataStore.getUint (Keys.swapFeeFactorKey marketToken)
  let swapFeeReceiverFactor := dataStore.getUint (.base .SWAP_FEE_RECEIVER_FACTOR)
  let feeAmount ← Precision.applyFactor amount feeFactor
  let feeReceiverAmount ← Precision.applyFactor feeAmount swapFeeReceiverFactor
  let feeAmountForPool ← sub feeAmount feeReceiverAmount
  let uiFeeReceiverFactor := MarketUtils.getUiFeeFactor dataStore uiFeeReceiver
  let uiFeeAmount ← Precision.applyFactor amount uiFeeReceiverFactor
  let amountAfterFees ← sub (← sub amount feeAmount) uiFeeAmount
  pure { feeReceiverAmount, feeAmountForPool, amountAfterFees, uiFeeReceiver,
         uiFeeReceiverFactor, uiFeeAmount }

end SwapPricingUtils

end GmxSynthetics
