import GmxSynthetics.Position.PositionUtils

/-!
# Increasing a position

`IncreasePositionUtils.sol`. The collateral increment pays the fees, the order size is
converted to index tokens at the execution price, and the position, the open interest
and the other aggregates grow by the result.

The fees are not returned by the Solidity function: they are what it emits with
`PositionFeesCollected`.
-/

namespace GmxSynthetics.IncreasePositionUtils

open PositionUtils PositionPricingUtils

variable (env : Env)

/-- The execution price and the price impact amount. -/
def getExecutionPrice (dataStore : DataStore) (params : UpdatePositionParams)
    (prices : MarketPrices) : Result (Nat × Int) := do
  let priceImpactUsd ← PositionPricingUtils.getPriceImpactUsd env dataStore
    { market := params.market
      usdDelta := ← toInt256 params.order.sizeDeltaUsd
      isLong := params.order.isLong }
  -- cap price impact usd based on the amount available in the position impact pool
  let priceImpactUsd ← MarketUtils.getCappedPositionImpactUsd dataStore
    params.market.marketToken prices.indexTokenPrice priceImpactUsd params.order.sizeDeltaUsd
  let executionPrice ← BaseOrderUtils.getExecutionPrice
    (← Oracle.getPrimaryPrice env params.market.indexToken) params.order.sizeDeltaUsd
    priceImpactUsd params.order.acceptablePrice params.order.isLong true
  let priceImpactAmount ← getPriceImpactAmount priceImpactUsd prices.indexTokenPrice
    params.order.isLong true
  pure (executionPrice, priceImpactAmount)

/-- Charges the fees; returns the collateral delta that is left of the increment. -/
def processCollateral (params : UpdatePositionParams) (prices : MarketPrices)
    (collateralDeltaAmount : Int) : Tx (Int × PositionFees) := do
  let collateralTokenPrice ←
    MarketUtils.getCachedTokenPrice params.position.collateralToken params.market prices
  let fees ← viewStore fun dataStore => getPositionFees env dataStore
    { position := params.position, collateralTokenPrice
      longToken := params.market.longToken, shortToken := params.market.shortToken
      sizeDeltaUsd := params.order.sizeDeltaUsd, uiFeeReceiver := params.order.uiFeeReceiver }
  FeeUtils.incrementClaimableFeeAmount params.market.marketToken params.position.collateralToken
    fees.feeReceiverAmount
  FeeUtils.incrementClaimableUiFeeAmount params.order.uiFeeReceiver params.market.marketToken
    params.position.collateralToken fees.ui.uiFeeAmount
  let collateralDeltaAmount ←
    subInt collateralDeltaAmount (← toInt256 fees.collateralCostAmount)
  let _ ← MarketUtils.applyDeltaToCollateralSum params.order.market
    params.position.collateralToken params.order.isLong collateralDeltaAmount
  let _ ← MarketUtils.applyDeltaToPoolAmount params.market.marketToken
    params.position.collateralToken (← toInt256 fees.feeAmountForPool)
  pure (collateralDeltaAmount, fees)

/-- A fresh position starts at the current funding amounts. -/
def initFundingAmountPerSize (dataStore : DataStore) (params : UpdatePositionParams) :
    Position :=
  let position := params.position
  if position.sizeInUsd = 0 then
    { position with
      longTokenFundingAmountPerSize := MarketUtils.getFundingAmountPerSize dataStore
        params.market.marketToken params.market.longToken position.isLong
      shortTokenFundingAmountPerSize := MarketUtils.getFundingAmountPerSize dataStore
        params.market.marketToken params.market.shortToken position.isLong }
  else position

/-- The tokens an order adds: rounded down for longs and up for shorts. -/
def getSizeDeltaInTokens (isLong : Bool) (sizeDeltaUsd executionPrice : Nat) : Result Nat :=
  if isLong then div sizeDeltaUsd executionPrice
  else Calc.roundUpDivision sizeDeltaUsd executionPrice

/-- The collateral must cover the size of a position that grows. -/
def validateCollateral (dataStore : DataStore) (params : UpdatePositionParams)
    (prices : MarketPrices) : Result Unit :=
  if params.order.sizeDeltaUsd > 0 then do
    let (willBeSufficient, remainingCollateralUsd) ← willPositionCollateralBeSufficient dataStore
      params.market prices params.position.collateralToken params.position.isLong
      { positionSizeInUsd := params.position.sizeInUsd
        positionCollateralAmount := params.position.collateralAmount
        realizedPnlUsd := 0
        openInterestDelta := 0 }
    revertIf (¬ willBeSufficient) (.InsufficientCollateralUsd remainingCollateralUsd)
  else pure ()

def increasePosition (params : UpdatePositionParams) (collateralIncrementAmount : Nat) :
    Tx PositionFees := do
  let prices ← MarketUtils.getMarketPrices env params.market
  updateFundingAndBorrowingState env params prices
  let position ← readStore fun dataStore => initFundingAmountPerSize dataStore params
  let params := { params with position }
  let (collateralDeltaAmount, fees) ←
    processCollateral env params prices (← toInt256 collateralIncrementAmount)
  -- check if there is sufficient collateral for the position
  let isInsufficient ← negationExceeds collateralDeltaAmount position.collateralAmount
  revertIf (isInsufficient = true)
    (.InsufficientCollateralAmount position.collateralAmount collateralDeltaAmount)
  let collateralAmount ← Calc.sumReturnUint256 position.collateralAmount collateralDeltaAmount
  let (executionPrice, priceImpactAmount) ← viewStore fun dataStore =>
    getExecutionPrice env dataStore params prices
  let _ ← MarketUtils.applyDeltaToPositionImpactPool params.market.marketToken
    (← negInt priceImpactAmount)
  let sizeDeltaInTokens ←
    getSizeDeltaInTokens position.isLong params.order.sizeDeltaUsd executionPrice
  let nextPositionSizeInUsd ← add position.sizeInUsd params.order.sizeDeltaUsd
  let nextPositionBorrowingFactor ← readStore fun dataStore =>
    MarketUtils.getCumulativeBorrowingFactor dataStore params.market.marketToken position.isLong
  updateTotalBorrowing params nextPositionSizeInUsd nextPositionBorrowingFactor
  let nextPositionSizeInTokens ← add position.sizeInTokens sizeDeltaInTokens
  incrementClaimableFundingAmount params fees
  let nextPosition : Position :=
    { position with
      collateralAmount
      sizeInUsd := nextPositionSizeInUsd
      sizeInTokens := nextPositionSizeInTokens
      longTokenFundingAmountPerSize := fees.funding.latestLongTokenFundingAmountPerSize
      shortTokenFundingAmountPerSize := fees.funding.latestShortTokenFundingAmountPerSize
      borrowingFactor := nextPositionBorrowingFactor
      increasedAtBlock := env.blockNumber }
  let params := { params with position := nextPosition }
  writeStore (PositionStoreUtils.set · params.positionKey nextPosition)
  updateOpenInterest params (← toInt256 params.order.sizeDeltaUsd) (← toInt256 sizeDeltaInTokens)
  viewStore fun dataStore =>
    MarketUtils.validateReserve dataStore params.market prices params.order.isLong
  viewStore fun dataStore => validateCollateral dataStore params prices
  handleReferral params fees
  viewStore fun dataStore =>
    validatePosition env dataStore nextPosition params.market prices true true
  pure fees

end GmxSynthetics.IncreasePositionUtils
