import GmxSynthetics.Market.Ledger
import GmxSynthetics.Order.Order
import GmxSynthetics.Pricing.PositionPricing

/-!
# Position updates

`PositionUtils.sol`: the pnl a decrease realises, the liquidation check, and the market
aggregates that every update of a position moves along with it.
-/

namespace GmxSynthetics.PositionUtils

open Evm

structure UpdatePositionParams where
  market : Market
  order : Order
  orderKey : StoreKey
  position : Position
  positionKey : StoreKey
  secondaryOrderType : SecondaryOrderType

structure WillPositionCollateralBeSufficientValues where
  positionSizeInUsd : Nat
  positionCollateralAmount : Nat
  realizedPnlUsd : Int
  openInterestDelta : Int

structure DecreasePositionCollateralValuesOutput where
  outputToken : Address
  outputAmount : Nat
  secondaryOutputToken : Address
  secondaryOutputAmount : Nat
  deriving DecidableEq, Repr

structure DecreasePositionCollateralValues where
  executionPrice : Nat
  remainingCollateralAmount : Nat
  positionPnlUsd : Int
  sizeDeltaInTokens : Nat
  priceImpactAmount : Int
  priceImpactDiffUsd : Nat
  pendingCollateralDeduction : Nat
  output : DecreasePositionCollateralValuesOutput
  deriving DecidableEq, Repr

/-- The fields of `DecreasePositionCache` that are handed to `processCollateral`. -/
structure DecreasePositionCache where
  prices : MarketPrices
  pnlToken : Address
  pnlTokenPrice : Price

-- ---------------------------------------------------------------------------
-- Pnl
-- ---------------------------------------------------------------------------

/-- The part of a position's tokens that a decrease closes: all of them on a full close,
otherwise pro rata, rounded up for longs and down for shorts. -/
def getSizeDeltaInTokens (position : Position) (sizeDeltaUsd : Nat) : Result Nat :=
  if position.sizeInUsd = sizeDeltaUsd then pure position.sizeInTokens
  else if position.isLong then do
    Calc.roundUpDivision (← mul position.sizeInTokens sizeDeltaUsd) position.sizeInUsd
  else do
    div (← mul position.sizeInTokens sizeDeltaUsd) position.sizeInUsd

/-- The gain of a position is scaled down when the pending pnl of its side is capped. -/
def getCappedTotalPositionPnl (dataStore : DataStore) (market : Market) (prices : MarketPrices)
    (position : Position) (totalPositionPnl : Int) : Result Int :=
  if totalPositionPnl > 0 then do
    let pnlToken := if position.isLong then market.longToken else market.shortToken
    let poolTokenAmount := MarketUtils.getPoolAmount dataStore market pnlToken
    let poolTokenPrice :=
      if position.isLong then prices.longTokenPrice.min else prices.shortTokenPrice.min
    let poolTokenUsd ← mul poolTokenAmount poolTokenPrice
    let poolPnl ←
      MarketUtils.getPnl dataStore market prices.indexTokenPrice position.isLong true
    let cappedPoolPnl ← MarketUtils.getCappedPnl dataStore market.marketToken position.isLong
      poolPnl poolTokenUsd .MAX_PNL_FACTOR_FOR_TRADERS
    if cappedPoolPnl ≠ poolPnl ∧ cappedPoolPnl > 0 ∧ poolPnl > 0 then
      Precision.applyFractionInt totalPositionPnl.toNat cappedPoolPnl poolPnl.toNat
    else pure totalPositionPnl
  else pure totalPositionPnl

/-- The pnl realised by closing `sizeDeltaUsd` of a position, and the tokens it closes. -/
def getPositionPnlUsd (dataStore : DataStore) (market : Market) (prices : MarketPrices)
    (position : Position) (executionPrice sizeDeltaUsd : Nat) : Result (Int × Nat) := do
  let positionValue ← toInt256 (← mul position.sizeInTokens executionPrice)
  let sizeInUsd ← toInt256 position.sizeInUsd
  let totalPositionPnl ← (if position.isLong then subInt positionValue sizeInUsd
    else subInt sizeInUsd positionValue : Result Int)
  let totalPositionPnl ←
    getCappedTotalPositionPnl dataStore market prices position totalPositionPnl
  let sizeDeltaInTokens ← getSizeDeltaInTokens position sizeDeltaUsd
  let positionPnlUsd ← divInt (← mulInt totalPositionPnl (← toInt256 sizeDeltaInTokens))
    (← toInt256 position.sizeInTokens)
  pure (positionPnlUsd, sizeDeltaInTokens)

-- ---------------------------------------------------------------------------
-- Validation
-- ---------------------------------------------------------------------------

def validateNonEmptyPosition (position : Position) : Result Unit :=
  revertIf (position.sizeInUsd = 0 ∧ position.sizeInTokens = 0 ∧ position.collateralAmount = 0)
    .EmptyPosition

/-- The price impact of fully closing a position, without a gain and with the loss capped. -/
def getLiquidationPriceImpactUsd (env : Env) (dataStore : DataStore) (market : Market)
    (position : Position) : Result Int := do
  let usdDelta ← negInt (← toInt256 position.sizeInUsd)
  let priceImpactUsd ← PositionPricingUtils.getPriceImpactUsd env dataStore
    { market, usdDelta, isLong := position.isLong }
  if priceImpactUsd ≥ 0 then pure 0
  else
    let maxPriceImpactFactor :=
      MarketUtils.getMaxPositionImpactFactorForLiquidations dataStore market.marketToken
    let maxNegativePriceImpactUsd ←
      negInt (← toInt256 (← Precision.applyFactor position.sizeInUsd maxPriceImpactFactor))
    pure (if priceImpactUsd < maxNegativePriceImpactUsd then maxNegativePriceImpactUsd
      else priceImpactUsd)

/-- Whether the position may be liquidated, and why. -/
def isPositionLiquidatable (env : Env) (dataStore : DataStore) (position : Position)
    (market : Market) (prices : MarketPrices) (shouldValidateMinCollateralUsd : Bool) :
    Result (Bool × String) := do
  let (positionPnlUsd, _) ← getPositionPnlUsd dataStore market prices position
    (prices.indexTokenPrice.pickPriceForPnl position.isLong false) position.sizeInUsd
  let collateralTokenPrice ←
    MarketUtils.getCachedTokenPrice position.collateralToken market prices
  let collateralUsd ← mul position.collateralAmount collateralTokenPrice.min
  let priceImpactUsd ← getLiquidationPriceImpactUsd env dataStore market position
  let fees ← PositionPricingUtils.getPositionFees env dataStore
    { position, collateralTokenPrice, longToken := market.longToken
      shortToken := market.shortToken, sizeDeltaUsd := position.sizeInUsd, uiFeeReceiver := 0 }
  let collateralCostUsd ← mul fees.collateralCostAmount collateralTokenPrice.min
  let remainingCollateralUsd ← addInt (← toInt256 collateralUsd) positionPnlUsd
  let remainingCollateralUsd ← addInt remainingCollateralUsd priceImpactUsd
  let remainingCollateralUsd ← subInt remainingCollateralUsd (← toInt256 collateralCostUsd)
  let minCollateralUsd ← (if shouldValidateMinCollateralUsd then
      toInt256 (dataStore.getUint (.base .MIN_COLLATERAL_USD))
    else pure 0 : Result Int)
  if shouldValidateMinCollateralUsd = true ∧ remainingCollateralUsd < minCollateralUsd then
    pure (true, "min collateral")
  else if remainingCollateralUsd ≤ 0 then pure (true, "< 0")
  else
    let minCollateralFactor := MarketUtils.getMinCollateralFactor dataStore market.marketToken
    let minCollateralUsdForLeverage ←
      toInt256 (← Precision.applyFactor position.sizeInUsd minCollateralFactor)
    pure (if remainingCollateralUsd < minCollateralUsdForLeverage then
      (true, "min collateral for leverage") else (false, ""))

def validatePosition (env : Env) (dataStore : DataStore) (position : Position) (market : Market)
    (prices : MarketPrices) (shouldValidateMinPositionSize shouldValidateMinCollateralUsd : Bool) :
    Result Unit := do
  revertIf (position.sizeInUsd = 0 ∨ position.sizeInTokens = 0)
    (.InvalidPositionSizeValues position.sizeInUsd position.sizeInTokens)
  MarketUtils.validateEnabledMarket dataStore (MarketStoreUtils.get dataStore market.marketToken)
  MarketUtils.validateMarketCollateralToken market position.collateralToken
  let minPositionSizeUsd := dataStore.getUint (.base .MIN_POSITION_SIZE_USD)
  revertIf (shouldValidateMinPositionSize = true ∧ position.sizeInUsd < minPositionSizeUsd)
    (.MinPositionSize position.sizeInUsd minPositionSizeUsd)
  let (isLiquidatable, reason) ← isPositionLiquidatable env dataStore position market prices
    shouldValidateMinCollateralUsd
  revertIf (isLiquidatable = true) (.LiquidatablePosition reason)

/-- Whether the collateral, less realised losses, covers the required leverage; and what
remains of it. -/
def willPositionCollateralBeSufficient (dataStore : DataStore) (market : Market)
    (prices : MarketPrices) (collateralToken : Address) (isLong : Bool)
    (values : WillPositionCollateralBeSufficientValues) : Result (Bool × Int) := do
  let collateralTokenPrice ← MarketUtils.getCachedTokenPrice collateralToken market prices
  let remainingCollateralUsd ←
    mulInt (← toInt256 values.positionCollateralAmount) (← toInt256 collateralTokenPrice.min)
  let remainingCollateralUsd ← (if values.realizedPnlUsd < 0 then
      addInt remainingCollateralUsd values.realizedPnlUsd
    else pure remainingCollateralUsd : Result Int)
  if remainingCollateralUsd < 0 then pure (false, remainingCollateralUsd)
  else
    let minCollateralFactor ← MarketUtils.getMinCollateralFactorForOpenInterest dataStore market
      values.openInterestDelta isLong
    let minCollateralFactorForMarket :=
      MarketUtils.getMinCollateralFactor dataStore market.marketToken
    let minCollateralFactor :=
      if minCollateralFactorForMarket > minCollateralFactor then minCollateralFactorForMarket
      else minCollateralFactor
    let minCollateralUsdForLeverage ←
      toInt256 (← Precision.applyFactor values.positionSizeInUsd minCollateralFactor)
    pure (decide (remainingCollateralUsd ≥ minCollateralUsdForLeverage), remainingCollateralUsd)

-- ---------------------------------------------------------------------------
-- Market aggregates
-- ---------------------------------------------------------------------------

def updateFundingAndBorrowingState (env : Env) (params : UpdatePositionParams)
    (prices : MarketPrices) : Tx Unit := do
  MarketUtils.updateFundingAmountPerSize env params.market prices
  MarketUtils.updateCumulativeBorrowingFactor env params.market prices params.order.isLong

def updateTotalBorrowing (params : UpdatePositionParams)
    (nextPositionSizeInUsd nextPositionBorrowingFactor : Nat) : Tx Unit :=
  MarketUtils.updateTotalBorrowing params.market.marketToken params.position.isLong
    params.position.sizeInUsd params.position.borrowingFactor
    nextPositionSizeInUsd nextPositionBorrowingFactor

/-- Funding is credited to the owner of the position. -/
def incrementClaimableFundingAmount (params : UpdatePositionParams)
    (fees : PositionPricingUtils.PositionFees) : Tx Unit := do
  (if fees.funding.claimableLongTokenAmount > 0 then
    MarketUtils.incrementClaimableFundingAmount params.market.marketToken params.market.longToken
      params.order.account fees.funding.claimableLongTokenAmount
  else pure ())
  (if fees.funding.claimableShortTokenAmount > 0 then
    MarketUtils.incrementClaimableFundingAmount params.market.marketToken
      params.market.shortToken params.order.account fees.funding.claimableShortTokenAmount
  else pure ())

def updateOpenInterest (params : UpdatePositionParams) (sizeDeltaUsd sizeDeltaInTokens : Int) :
    Tx Unit :=
  if sizeDeltaUsd ≠ 0 then do
    let _ ← MarketUtils.applyDeltaToOpenInterest params.market params.position.collateralToken
      params.position.isLong sizeDeltaUsd
    let _ ← MarketUtils.applyDeltaToOpenInterestInTokens params.position.market
      params.position.collateralToken params.position.isLong sizeDeltaInTokens
  else pure ()

def handleReferral (params : UpdatePositionParams) (fees : PositionPricingUtils.PositionFees) :
    Tx Unit :=
  ReferralUtils.incrementAffiliateReward params.position.market params.position.collateralToken
    fees.referral.affiliate fees.referral.affiliateRewardAmount

end GmxSynthetics.PositionUtils
