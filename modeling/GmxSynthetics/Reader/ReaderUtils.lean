import GmxSynthetics.Order.Order
import GmxSynthetics.Pricing.PositionPricing
import GmxSynthetics.Swap.SwapUtils

/-!
# Reader

`ReaderUtils.sol`: what a front end is told about a position, a swap and an execution price. The
functions repeat the computations of an execution on the stored state, with the prices handed in.
-/

namespace GmxSynthetics

/-- `PositionInfo`. -/
structure PositionInfo where
  position : Position
  fees : PositionPricingUtils.PositionFees
  deriving DecidableEq, Repr

namespace ReaderUtils

structure ExecutionPriceResult where
  priceImpactUsdBeforeCap : Int
  priceImpactUsdAfterCap : Int
  priceImpactUsd : Int
  priceImpactDiffUsd : Nat
  executionPrice : Nat
  deriving DecidableEq, Repr

variable (env : Env) (dataStore : DataStore)

/-- The fees of a position, with its borrowing and funding fees brought up to the current block. -/
def getPositionInfo (positionKey : StoreKey) (prices : MarketPrices) (sizeDeltaUsd : Nat)
    (uiFeeReceiver : Address) (usePositionSizeAsSizeDeltaUsd : Bool) : Result PositionInfo := do
  let position := PositionStoreUtils.get dataStore positionKey
  let market := MarketStoreUtils.get dataStore position.market
  let collateralTokenPrice ←
    MarketUtils.getCachedTokenPrice position.collateralToken market prices
  let sizeDeltaUsd := if usePositionSizeAsSizeDeltaUsd then position.sizeInUsd else sizeDeltaUsd
  let fees ← PositionPricingUtils.getPositionFees env dataStore
    { position, collateralTokenPrice, longToken := market.longToken
      shortToken := market.shortToken, sizeDeltaUsd, uiFeeReceiver }
  -- borrowing and funding fees need to be overwritten with pending values otherwise they
  -- would be using storage values that have not yet been updated
  let pendingBorrowingFeeUsd ←
    MarketUtils.getNextBorrowingFees env dataStore position market prices
  let borrowing ←
    PositionPricingUtils.getBorrowingFees dataStore collateralTokenPrice pendingBorrowingFeeUsd
  let nextFundingAmountResult ←
    MarketUtils.getNextFundingAmountPerSize env dataStore market prices
  let (latestLongTokenFundingAmountPerSize, latestShortTokenFundingAmountPerSize) :=
    if position.isLong then
      (nextFundingAmountResult.fundingAmountPerSize_LongCollateral_LongPosition,
        nextFundingAmountResult.fundingAmountPerSize_ShortCollateral_LongPosition)
    else
      (nextFundingAmountResult.fundingAmountPerSize_LongCollateral_ShortPosition,
        nextFundingAmountResult.fundingAmountPerSize_ShortCollateral_ShortPosition)
  let funding ← PositionPricingUtils.getFundingFees position market.longToken market.shortToken
    latestLongTokenFundingAmountPerSize latestShortTokenFundingAmountPerSize
  pure { position, fees := { fees with borrowing, funding } }

/-- The output amount, the impact amount and the fees of a swap. -/
def getSwapAmountOut (market : Market) (prices : MarketPrices) (tokenIn : Address)
    (amountIn : Nat) (uiFeeReceiver : Address) :
    Result (Nat × Int × SwapPricingUtils.SwapFees) := do
  revertIf (tokenIn ≠ market.longToken ∧ tokenIn ≠ market.shortToken)
    (.InvalidTokenIn tokenIn market.marketToken)
  MarketUtils.validateSwapMarket market
  let tokenOut ← MarketUtils.getOppositeToken tokenIn market
  let tokenInPrice ← MarketUtils.getCachedTokenPrice tokenIn market prices
  let tokenOutPrice ← MarketUtils.getCachedTokenPrice tokenOut market prices
  let fees ←
    SwapPricingUtils.getSwapFees dataStore market.marketToken amountIn uiFeeReceiver
  let usdDelta ← toInt256 (← mul fees.amountAfterFees (← tokenInPrice.midPrice))
  let priceImpactUsd ← SwapPricingUtils.getPriceImpactUsd env dataStore
    { market, tokenA := tokenIn, tokenB := tokenOut
      priceForTokenA := ← tokenInPrice.midPrice
      priceForTokenB := ← tokenOutPrice.midPrice
      usdDeltaForTokenA := usdDelta
      usdDeltaForTokenB := ← negInt usdDelta }
  if priceImpactUsd > 0 then
    -- round amountOut down
    let amountOut ← div (← mul fees.amountAfterFees tokenInPrice.min) tokenOutPrice.max
    let impactAmount ← MarketUtils.getSwapImpactAmountWithCap dataStore market.marketToken
      tokenOut tokenOutPrice priceImpactUsd
    pure (← add amountOut (← toUint256 impactAmount), impactAmount, fees)
  else
    let impactAmount ← MarketUtils.getSwapImpactAmountWithCap dataStore market.marketToken
      tokenIn tokenInPrice priceImpactUsd
    let amountIn ← sub fees.amountAfterFees (← toUint256 (← negInt impactAmount))
    pure (← div (← mul amountIn tokenInPrice.min) tokenOutPrice.max, impactAmount, fees)

/-- The execution price of an increase (a positive size delta) or of a decrease. -/
def getExecutionPrice (market : Market) (indexTokenPrice : Price) (sizeDeltaUsd : Int)
    (isLong : Bool) : Result ExecutionPriceResult := do
  let priceImpactUsdBeforeCap ← PositionPricingUtils.getPriceImpactUsd env dataStore
    { market, usdDelta := sizeDeltaUsd, isLong }
  let size ← (if sizeDeltaUsd < 0 then do toUint256 (← negInt sizeDeltaUsd)
    else toUint256 sizeDeltaUsd : Result Nat)
  let priceImpactUsdAfterCap ← MarketUtils.getCappedPositionImpactUsd dataStore
    market.marketToken indexTokenPrice priceImpactUsdBeforeCap size
  let (priceImpactUsd, priceImpactDiffUsd) ← (if priceImpactUsdAfterCap < 0 then do
      let maxPriceImpactFactor :=
        MarketUtils.getMaxPositionImpactFactor dataStore market.marketToken false
      -- convert the max price impact to the min negative value
      let minPriceImpactUsd ←
        negInt (← toInt256 (← Precision.applyFactor size maxPriceImpactFactor))
      if priceImpactUsdAfterCap < minPriceImpactUsd then do
        let priceImpactDiffUsd ← toUint256 (← subInt minPriceImpactUsd priceImpactUsdAfterCap)
        pure (minPriceImpactUsd, priceImpactDiffUsd)
      else pure (priceImpactUsdAfterCap, 0)
    else pure (priceImpactUsdAfterCap, 0) : Result (Int × Nat))
  let isIncrease := decide (sizeDeltaUsd > 0)
  let shouldPriceBeSmaller := if isIncrease then isLong else !isLong
  let executionPrice ← BaseOrderUtils.getExecutionPrice indexTokenPrice size priceImpactUsd
    (if shouldPriceBeSmaller then Evm.uintBound - 1 else 0) isLong isIncrease
  pure { priceImpactUsdBeforeCap, priceImpactUsdAfterCap, priceImpactUsd, priceImpactDiffUsd,
         executionPrice }

end ReaderUtils

end GmxSynthetics
