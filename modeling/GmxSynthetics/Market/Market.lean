import GmxSynthetics.Utils.Precision

/-!
# Markets

`Market.sol`, `MarketStoreUtils.sol`, and the part of `MarketUtils.sol` that reads a
market's pools, open interest, pnl, impact pools and reserves. Open interest is kept
per collateral token; when the long and the short token are the same, both
collateral keys are one key, and every total halves it and counts it twice
(`getPoolDivisor`).
-/

namespace GmxSynthetics

open Evm

/-- `Market.Props`. -/
structure Market where
  marketToken : Address
  indexToken : Address
  longToken : Address
  shortToken : Address
  deriving DecidableEq, Repr

structure MarketPrices where
  indexTokenPrice : Price
  longTokenPrice : Price
  shortTokenPrice : Price
  deriving DecidableEq, Repr

namespace MarketStoreUtils

/-- An address that is not a market reads as the empty market. -/
def get (dataStore : DataStore) (key : Address) : Market :=
  if dataStore.containsAddress (.base .MARKET_LIST) key then
    { marketToken := dataStore.getAddress (.marketField key .MARKET_TOKEN)
      indexToken := dataStore.getAddress (.marketField key .INDEX_TOKEN)
      longToken := dataStore.getAddress (.marketField key .LONG_TOKEN)
      shortToken := dataStore.getAddress (.marketField key .SHORT_TOKEN) }
  else ⟨0, 0, 0, 0⟩

end MarketStoreUtils

namespace MarketUtils

-- ---------------------------------------------------------------------------
-- Market checks
-- ---------------------------------------------------------------------------

def validateEnabledMarket (dataStore : DataStore) (market : Market) : Result Unit := do
  revertIf (market.marketToken = 0) .EmptyMarket
  revertIf (dataStore.getBool (Keys.isMarketDisabledKey market.marketToken) = true)
    (.DisabledMarket market.marketToken)

def getEnabledMarket (dataStore : DataStore) (marketAddress : Address) : Result Market := do
  let market := MarketStoreUtils.get dataStore marketAddress
  validateEnabledMarket dataStore market
  pure market

def getEnabledMarkets (dataStore : DataStore) (swapPath : List Address) :
    Result (List Market) :=
  swapPath.mapM (getEnabledMarket dataStore)

def validateSwapPath (dataStore : DataStore) (swapPath : List Address) : Result Unit := do
  let maxSwapPathLength := dataStore.getUint (.base .MAX_SWAP_PATH_LENGTH)
  revertIf (swapPath.length > maxSwapPathLength)
    (.MaxSwapPathLengthExceeded swapPath.length maxSwapPathLength)
  swapPath.forM fun marketAddress =>
    validateEnabledMarket dataStore (MarketStoreUtils.get dataStore marketAddress)

def isSwapOnlyMarket (market : Market) : Bool := market.indexToken == 0

def validatePositionMarket (dataStore : DataStore) (market : Market) : Result Unit := do
  validateEnabledMarket dataStore market
  revertIf (isSwapOnlyMarket market = true)
    (.InvalidPositionMarket market.marketToken)

def validateSwapMarket (market : Market) : Result Unit :=
  revertIf (market.longToken = market.shortToken)
    (.InvalidSwapMarket market.marketToken)

def isMarketCollateralToken (market : Market) (token : Address) : Bool :=
  token == market.longToken || token == market.shortToken

def validateMarketCollateralToken (market : Market) (token : Address) : Result Unit :=
  revertIf (¬ isMarketCollateralToken market token)
    (.InvalidCollateralTokenForMarket market.marketToken token)

def getOppositeToken (inputToken : Address) (market : Market) : Result Address :=
  if inputToken = market.longToken then pure market.shortToken
  else if inputToken = market.shortToken then pure market.longToken
  else revert (.UnableToGetOppositeToken inputToken market.marketToken)

def getCachedTokenPrice (token : Address) (market : Market) (prices : MarketPrices) :
    Result Price :=
  if token = market.longToken then pure prices.longTokenPrice
  else if token = market.shortToken then pure prices.shortTokenPrice
  else if token = market.indexToken then pure prices.indexTokenPrice
  else revert (.UnableToGetCachedTokenPrice token market.marketToken)

def getMarketPrices (env : Env) (market : Market) : Result MarketPrices := do
  let indexTokenPrice ← Oracle.getPrimaryPrice env market.indexToken
  let longTokenPrice ← Oracle.getPrimaryPrice env market.longToken
  let shortTokenPrice ← Oracle.getPrimaryPrice env market.shortToken
  pure { indexTokenPrice, longTokenPrice, shortTokenPrice }

-- ---------------------------------------------------------------------------
-- Pools and open interest
-- ---------------------------------------------------------------------------

/-- Two when the long and the short token are the same, since totals then count one
stored value twice. -/
def getPoolDivisor (longToken shortToken : Address) : Nat :=
  if longToken = shortToken then 2 else 1

def getPoolAmount (dataStore : DataStore) (market : Market) (token : Address) : Nat :=
  dataStore.getUint (Keys.poolAmountKey market.marketToken token) /
    getPoolDivisor market.longToken market.shortToken

def getMaxPoolAmount (dataStore : DataStore) (market token : Address) : Nat :=
  dataStore.getUint (Keys.maxPoolAmountKey market token)

def getMaxOpenInterest (dataStore : DataStore) (market : Address) (isLong : Bool) : Nat :=
  dataStore.getUint (Keys.maxOpenInterestKey market isLong)

/-- Open interest of one side with one collateral token. -/
def getOpenInterestForCollateral (dataStore : DataStore) (market collateralToken : Address)
    (isLong : Bool) (divisor : Nat) : Nat :=
  dataStore.getUint (Keys.openInterestKey market collateralToken isLong) / divisor

/-- Open interest of one side. -/
def getOpenInterest (dataStore : DataStore) (market : Market) (isLong : Bool) : Result Nat :=
  let divisor := getPoolDivisor market.longToken market.shortToken
  add (getOpenInterestForCollateral dataStore market.marketToken market.longToken isLong divisor)
    (getOpenInterestForCollateral dataStore market.marketToken market.shortToken isLong divisor)

def getOpenInterestInTokensForCollateral (dataStore : DataStore)
    (market collateralToken : Address) (isLong : Bool) (divisor : Nat) : Nat :=
  dataStore.getUint (Keys.openInterestInTokensKey market collateralToken isLong) / divisor

def getOpenInterestInTokens (dataStore : DataStore) (market : Market) (isLong : Bool) :
    Result Nat :=
  let divisor := getPoolDivisor market.longToken market.shortToken
  add
    (getOpenInterestInTokensForCollateral dataStore market.marketToken market.longToken isLong
      divisor)
    (getOpenInterestInTokensForCollateral dataStore market.marketToken market.shortToken isLong
      divisor)

def getCollateralSum (dataStore : DataStore) (market collateralToken : Address) (isLong : Bool)
    (divisor : Nat) : Nat :=
  dataStore.getUint (Keys.collateralSumKey market collateralToken isLong) / divisor

def getPoolUsdWithoutPnl (dataStore : DataStore) (market : Market) (prices : MarketPrices)
    (isLong : Bool) : Result Nat :=
  let token := if isLong then market.longToken else market.shortToken
  let poolAmount := getPoolAmount dataStore market token
  let tokenPrice := if isLong then prices.longTokenPrice.min else prices.shortTokenPrice.min
  mul poolAmount tokenPrice

/-- Pnl of one side at one index token price. -/
def getPnl (dataStore : DataStore) (market : Market) (indexTokenPrice : Price)
    (isLong maximize : Bool) : Result Int := do
  let openInterest ← toInt256 (← getOpenInterest dataStore market isLong)
  let openInterestInTokens ← getOpenInterestInTokens dataStore market isLong
  if openInterest = 0 ∨ openInterestInTokens = 0 then pure 0
  else
    let price := indexTokenPrice.pickPriceForPnl isLong maximize
    let openInterestValue ← toInt256 (← mul openInterestInTokens price)
    if isLong then subInt openInterestValue openInterest
    else subInt openInterest openInterestValue

def getMaxPnlFactor (dataStore : DataStore) (pnlFactorType : Base) (market : Address)
    (isLong : Bool) : Nat :=
  dataStore.getUint (Keys.maxPnlFactorKey pnlFactorType market isLong)

def getMinPnlFactorAfterAdl (dataStore : DataStore) (market : Address) (isLong : Bool) : Nat :=
  dataStore.getUint (Keys.minPnlFactorAfterAdlKey market isLong)

def getCappedPnl (dataStore : DataStore) (market : Address) (isLong : Bool) (pnl : Int)
    (poolUsd : Nat) (pnlFactorType : Base) : Result Int :=
  if pnl < 0 then pure pnl
  else do
    let maxPnlFactor := getMaxPnlFactor dataStore pnlFactorType market isLong
    let maxPnl ← toInt256 (← Precision.applyFactor poolUsd maxPnlFactor)
    pure (if pnl > maxPnl then maxPnl else pnl)

def getPnlToPoolFactor (dataStore : DataStore) (market : Market) (prices : MarketPrices)
    (isLong maximize : Bool) : Result Int := do
  let poolUsd ← getPoolUsdWithoutPnl dataStore market prices isLong
  if poolUsd = 0 then pure 0
  else
    let pnl ← getPnl dataStore market prices.indexTokenPrice isLong maximize
    Precision.toFactorInt pnl poolUsd

/-- Whether pending pnl is above the configured share of the pool, that share and the
pnl factor. -/
def isPnlFactorExceeded (dataStore : DataStore) (market : Market) (prices : MarketPrices)
    (isLong : Bool) (pnlFactorType : Base) : Result (Bool × Int × Nat) := do
  let pnlToPoolFactor ← getPnlToPoolFactor dataStore market prices isLong true
  let maxPnlFactor := getMaxPnlFactor dataStore pnlFactorType market.marketToken isLong
  let isExceeded := decide (pnlToPoolFactor > 0 ∧ pnlToPoolFactor.toNat > maxPnlFactor)
  pure (isExceeded, pnlToPoolFactor, maxPnlFactor)

def validateMaxPnl (dataStore : DataStore) (market : Market) (prices : MarketPrices)
    (pnlFactorTypeForLongs pnlFactorTypeForShorts : Base) : Result Unit := do
  let (isExceededForLongs, pnlToPoolFactorForLongs, maxPnlFactorForLongs) ←
    isPnlFactorExceeded dataStore market prices true pnlFactorTypeForLongs
  revertIf (isExceededForLongs = true)
    (.PnlFactorExceededForLongs pnlToPoolFactorForLongs maxPnlFactorForLongs)
  let (isExceededForShorts, pnlToPoolFactorForShorts, maxPnlFactorForShorts) ←
    isPnlFactorExceeded dataStore market prices false pnlFactorTypeForShorts
  revertIf (isExceededForShorts = true)
    (.PnlFactorExceededForShorts pnlToPoolFactorForShorts maxPnlFactorForShorts)

-- ---------------------------------------------------------------------------
-- Limits and reserves
-- ---------------------------------------------------------------------------

def validateOpenInterest (dataStore : DataStore) (market : Market) (isLong : Bool) :
    Result Unit := do
  let openInterest ← getOpenInterest dataStore market isLong
  let maxOpenInterest := getMaxOpenInterest dataStore market.marketToken isLong
  revertIf (openInterest > maxOpenInterest)
    (.MaxOpenInterestExceeded openInterest maxOpenInterest)

def validatePoolAmount (dataStore : DataStore) (market : Market) (token : Address) :
    Result Unit := do
  let poolAmount := getPoolAmount dataStore market token
  let maxPoolAmount := getMaxPoolAmount dataStore market.marketToken token
  revertIf (poolAmount > maxPoolAmount)
    (.MaxPoolAmountExceeded poolAmount maxPoolAmount)

/-- USD value to hold back for open positions: the value of the tokens for longs, the
open interest for shorts. -/
def getReservedUsd (dataStore : DataStore) (market : Market) (prices : MarketPrices)
    (isLong : Bool) : Result Nat :=
  if isLong then do
    let openInterestInTokens ← getOpenInterestInTokens dataStore market isLong
    mul openInterestInTokens prices.indexTokenPrice.max
  else getOpenInterest dataStore market isLong

def getReserveFactor (dataStore : DataStore) (market : Address) (isLong : Bool) : Nat :=
  dataStore.getUint (Keys.reserveFactorKey market isLong)

def validateReserve (dataStore : DataStore) (market : Market) (prices : MarketPrices)
    (isLong : Bool) : Result Unit := do
  let poolUsd ← getPoolUsdWithoutPnl dataStore market prices isLong
  let reserveFactor := getReserveFactor dataStore market.marketToken isLong
  let maxReservedUsd ← Precision.applyFactor poolUsd reserveFactor
  let reservedUsd ← getReservedUsd dataStore market prices isLong
  revertIf (reservedUsd > maxReservedUsd)
    (.InsufficientReserve reservedUsd maxReservedUsd)

def getMinCollateralFactor (dataStore : DataStore) (market : Address) : Nat :=
  dataStore.getUint (Keys.minCollateralFactorKey market)

def getMinCollateralFactorForOpenInterestMultiplier (dataStore : DataStore) (market : Address)
    (isLong : Bool) : Nat :=
  dataStore.getUint (Keys.minCollateralFactorForOpenInterestMultiplierKey market isLong)

def getMinCollateralFactorForOpenInterest (dataStore : DataStore) (market : Market)
    (openInterestDelta : Int) (isLong : Bool) : Result Nat := do
  let openInterest ← getOpenInterest dataStore market isLong
  let openInterest ← Calc.sumReturnUint256 openInterest openInterestDelta
  let multiplierFactor :=
    getMinCollateralFactorForOpenInterestMultiplier dataStore market.marketToken isLong
  Precision.applyFactor openInterest multiplierFactor

def getUiFeeFactor (dataStore : DataStore) (account : Address) : Nat :=
  let maxUiFeeFactor := dataStore.getUint (.base .MAX_UI_FEE_FACTOR)
  let uiFeeFactor := dataStore.getUint (Keys.uiFeeFactorKey account)
  if uiFeeFactor < maxUiFeeFactor then uiFeeFactor else maxUiFeeFactor

-- ---------------------------------------------------------------------------
-- Price impact: factors and pools
-- ---------------------------------------------------------------------------

/-- A pair of factors for positive and negative impact; the positive one never exceeds
the negative one. -/
def adjustedImpactFactors (positiveImpactFactor negativeImpactFactor : Nat) : Nat × Nat :=
  if positiveImpactFactor > negativeImpactFactor then (negativeImpactFactor, negativeImpactFactor)
  else (positiveImpactFactor, negativeImpactFactor)

def getAdjustedSwapImpactFactors (dataStore : DataStore) (market : Address) : Nat × Nat :=
  adjustedImpactFactors (dataStore.getUint (Keys.swapImpactFactorKey market true))
    (dataStore.getUint (Keys.swapImpactFactorKey market false))

def getAdjustedSwapImpactFactor (dataStore : DataStore) (market : Address)
    (isPositive : Bool) : Nat :=
  let factors := getAdjustedSwapImpactFactors dataStore market
  if isPositive then factors.1 else factors.2

def getAdjustedPositionImpactFactors (dataStore : DataStore) (market : Address) : Nat × Nat :=
  adjustedImpactFactors (dataStore.getUint (Keys.positionImpactFactorKey market true))
    (dataStore.getUint (Keys.positionImpactFactorKey market false))

def getAdjustedPositionImpactFactor (dataStore : DataStore) (market : Address)
    (isPositive : Bool) : Nat :=
  let factors := getAdjustedPositionImpactFactors dataStore market
  if isPositive then factors.1 else factors.2

def getMaxPositionImpactFactors (dataStore : DataStore) (market : Address) : Nat × Nat :=
  adjustedImpactFactors (dataStore.getUint (Keys.maxPositionImpactFactorKey market true))
    (dataStore.getUint (Keys.maxPositionImpactFactorKey market false))

def getMaxPositionImpactFactor (dataStore : DataStore) (market : Address)
    (isPositive : Bool) : Nat :=
  let factors := getMaxPositionImpactFactors dataStore market
  if isPositive then factors.1 else factors.2

def getMaxPositionImpactFactorForLiquidations (dataStore : DataStore) (market : Address) : Nat :=
  dataStore.getUint (Keys.maxPositionImpactFactorForLiquidationsKey market)

def getPositionImpactPoolAmount (dataStore : DataStore) (market : Address) : Nat :=
  dataStore.getUint (Keys.positionImpactPoolAmountKey market)

def getSwapImpactPoolAmount (dataStore : DataStore) (market token : Address) : Nat :=
  dataStore.getUint (Keys.swapImpactPoolAmountKey market token)

/-- Positive impact is paid from the impact pool, and capped by it and by the
configured share of the order size. -/
def getCappedPositionImpactUsd (dataStore : DataStore) (market : Address) (tokenPrice : Price)
    (priceImpactUsd : Int) (sizeDeltaUsd : Nat) : Result Int :=
  if priceImpactUsd < 0 then pure priceImpactUsd
  else do
    let impactPoolAmount := getPositionImpactPoolAmount dataStore market
    let maxPriceImpactUsdBasedOnImpactPool ← toInt256 (← mul impactPoolAmount tokenPrice.min)
    let priceImpactUsd :=
      if priceImpactUsd > maxPriceImpactUsdBasedOnImpactPool then
        maxPriceImpactUsdBasedOnImpactPool
      else priceImpactUsd
    let maxPriceImpactFactor := getMaxPositionImpactFactor dataStore market true
    let maxPriceImpactUsdBasedOnMaxPriceImpactFactor ←
      toInt256 (← Precision.applyFactor sizeDeltaUsd maxPriceImpactFactor)
    pure (if priceImpactUsd > maxPriceImpactUsdBasedOnMaxPriceImpactFactor then
      maxPriceImpactUsdBasedOnMaxPriceImpactFactor
    else priceImpactUsd)

def getSwapImpactAmountWithCap (dataStore : DataStore) (market token : Address)
    (tokenPrice : Price) (priceImpactUsd : Int) : Result Int :=
  let price := if priceImpactUsd > 0 then tokenPrice.max else tokenPrice.min
  if priceImpactUsd > 0 then do
    -- round positive impactAmount down, this will be deducted from the swap impact pool
    let impactAmount ← divInt priceImpactUsd (← toInt256 price)
    let maxImpactAmount ← toInt256 (getSwapImpactPoolAmount dataStore market token)
    pure (if impactAmount > maxImpactAmount then maxImpactAmount else impactAmount)
  else
    -- round negative impactAmount up, this will be deducted from the user
    Calc.roundUpMagnitudeDivision priceImpactUsd price

-- ---------------------------------------------------------------------------
-- Virtual inventory
-- ---------------------------------------------------------------------------

/-- The virtual inventory of a pool token, if the market has one. -/
def getVirtualInventoryForSwaps (dataStore : DataStore) (market token : Address) : Option Nat :=
  let marketId := dataStore.getBytes32 (Keys.virtualMarketIdKey market)
  if marketId = 0 then none
  else some (dataStore.getUint (Keys.virtualInventoryForSwapsKey marketId token))

/-- The virtual inventory of an index token, if it has one. -/
def getVirtualInventoryForPositions (dataStore : DataStore) (token : Address) : Option Int :=
  let tokenId := dataStore.getBytes32 (Keys.virtualTokenIdKey token)
  if tokenId = 0 then none
  else some (dataStore.getInt (Keys.virtualInventoryForPositionsKey tokenId))

end MarketUtils

end GmxSynthetics
