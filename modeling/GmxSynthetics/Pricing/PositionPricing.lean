import GmxSynthetics.Position.Position
import GmxSynthetics.Market.Borrowing
import GmxSynthetics.Market.Funding
import GmxSynthetics.Pricing.SwapPricing

/-!
# Position price impact and position fees

`PositionPricingUtils.sol` and `ReferralUtils.getReferralInfo`. The net cost of a
position update is the position fee, the funding fee, the borrowing fee and the ui fee
less the trader's referral discount; the position and borrowing fees are split between
the fee receiver, the pool and the affiliate.
-/

namespace GmxSynthetics

/-- Code, affiliate, total rebate factor and discount factor of a trader. -/
def ReferralUtils.getReferralInfo (env : Env) (trader : Address) :
    Result (Nat × Address × Nat × Nat) := do
  let code := env.traderReferralCodes trader
  if code = 0 then pure (0, 0, 0, 0)
  else
    let affiliate := env.codeOwners code
    let (totalRebate, tierDiscountShare) := env.tiers (env.referrerTiers affiliate)
    let customDiscountShare := env.referrerDiscountShares affiliate
    let discountShare :=
      if customDiscountShare ≠ 0 then customDiscountShare else tierDiscountShare
    pure (code, affiliate, ← Precision.basisPointsToFloat totalRebate,
      ← Precision.basisPointsToFloat discountShare)

/-- Fees for a position since its last update, at the stored cumulative factor. -/
def MarketUtils.getBorrowingFees (dataStore : DataStore) (position : Position) :
    Result Nat := do
  let cumulativeBorrowingFactor :=
    getCumulativeBorrowingFactor dataStore position.market position.isLong
  revertIf (position.borrowingFactor > cumulativeBorrowingFactor)
    (.UnexpectedBorrowingFactor position.borrowingFactor cumulativeBorrowingFactor)
  let diffFactor ← sub cumulativeBorrowingFactor position.borrowingFactor
  Precision.applyFactor position.sizeInUsd diffFactor

/-- Fees for a position, at the cumulative factor of the current block. -/
def MarketUtils.getNextBorrowingFees (env : Env) (dataStore : DataStore) (position : Position)
    (market : Market) (prices : MarketPrices) : Result Nat := do
  let (nextCumulativeBorrowingFactor, _) ←
    getNextCumulativeBorrowingFactor env dataStore market prices position.isLong
  revertIf (position.borrowingFactor > nextCumulativeBorrowingFactor)
    (.UnexpectedBorrowingFactor position.borrowingFactor nextCumulativeBorrowingFactor)
  let diffFactor ← sub nextCumulativeBorrowingFactor position.borrowingFactor
  Precision.applyFactor position.sizeInUsd diffFactor

namespace PositionPricingUtils

-- ---------------------------------------------------------------------------
-- Price impact
-- ---------------------------------------------------------------------------

structure GetPriceImpactUsdParams where
  market : Market
  usdDelta : Int
  isLong : Bool

structure OpenInterestParams where
  longOpenInterest : Nat
  shortOpenInterest : Nat
  nextLongOpenInterest : Nat
  nextShortOpenInterest : Nat

/-- The impact in index tokens, rounded in favour of the impact pool when negative and
against it when positive. -/
def getPriceImpactAmount (priceImpactUsd : Int) (indexTokenPrice : Price)
    (isLong isIncrease : Bool) : Result Int :=
  let price := indexTokenPrice.pickPriceForPnl isLong isIncrease
  if priceImpactUsd > 0 then
    -- round positive price impact up, this will be deducted from the position impact pool
    Calc.roundUpMagnitudeDivision priceImpactUsd price
  else do
    -- round negative price impact down, this will be stored in the position impact pool
    divInt priceImpactUsd (← toInt256 price)

def getNextOpenInterestParams (params : GetPriceImpactUsdParams)
    (longOpenInterest shortOpenInterest : Nat) : Result OpenInterestParams :=
  if params.isLong then do
    let exceeds ← negationExceeds params.usdDelta longOpenInterest
    revertIf (exceeds = true) (.UsdDeltaExceedsLongOpenInterest params.usdDelta longOpenInterest)
    let nextLongOpenInterest ← Calc.sumReturnUint256 longOpenInterest params.usdDelta
    pure { longOpenInterest, shortOpenInterest, nextLongOpenInterest,
           nextShortOpenInterest := shortOpenInterest }
  else do
    let exceeds ← negationExceeds params.usdDelta shortOpenInterest
    revertIf (exceeds = true) (.UsdDeltaExceedsShortOpenInterest params.usdDelta shortOpenInterest)
    let nextShortOpenInterest ← Calc.sumReturnUint256 shortOpenInterest params.usdDelta
    pure { longOpenInterest, shortOpenInterest, nextLongOpenInterest := longOpenInterest,
           nextShortOpenInterest }

def getNextOpenInterest (dataStore : DataStore) (params : GetPriceImpactUsdParams) :
    Result OpenInterestParams := do
  let longOpenInterest ← MarketUtils.getOpenInterest dataStore params.market true
  let shortOpenInterest ← MarketUtils.getOpenInterest dataStore params.market false
  getNextOpenInterestParams params longOpenInterest shortOpenInterest

/-- A positive inventory counts as short open interest, a negative one as long; both are
shifted by the decrease so that the next amounts do not underflow. -/
def getNextOpenInterestForVirtualInventory (params : GetPriceImpactUsdParams)
    (virtualInventory : Int) : Result OpenInterestParams := do
  let (longOpenInterest, shortOpenInterest) ←
    (if virtualInventory > 0 then do pure (0, ← toUint256 virtualInventory)
    else do pure (← toUint256 (← negInt virtualInventory), 0) : Result (Nat × Nat))
  if params.usdDelta < 0 then
    let offset ← toUint256 (← negInt params.usdDelta)
    getNextOpenInterestParams params (← add longOpenInterest offset)
      (← add shortOpenInterest offset)
  else getNextOpenInterestParams params longOpenInterest shortOpenInterest

def _getPriceImpactUsd (env : Env) (dataStore : DataStore) (market : Address)
    (openInterestParams : OpenInterestParams) : Result Int :=
  let initialDiffUsd :=
    Calc.diff openInterestParams.longOpenInterest openInterestParams.shortOpenInterest
  let nextDiffUsd :=
    Calc.diff openInterestParams.nextLongOpenInterest openInterestParams.nextShortOpenInterest
  let isSameSideRebalance :=
    decide (openInterestParams.longOpenInterest ≤ openInterestParams.shortOpenInterest) ==
      decide (openInterestParams.nextLongOpenInterest ≤ openInterestParams.nextShortOpenInterest)
  let impactExponentFactor := dataStore.getUint (Keys.positionImpactExponentFactorKey market)
  if isSameSideRebalance then
    let hasPositiveImpact := decide (nextDiffUsd < initialDiffUsd)
    let impactFactor :=
      MarketUtils.getAdjustedPositionImpactFactor dataStore market hasPositiveImpact
    PricingUtils.getPriceImpactUsdForSameSideRebalance env initialDiffUsd nextDiffUsd
      impactFactor impactExponentFactor
  else
    let factors := MarketUtils.getAdjustedPositionImpactFactors dataStore market
    PricingUtils.getPriceImpactUsdForCrossoverRebalance env initialDiffUsd nextDiffUsd
      factors.1 factors.2 impactExponentFactor

/-- The worse of the impact on the market's open interest and, when that is negative, on
the virtual inventory. -/
def getPriceImpactUsd (env : Env) (dataStore : DataStore) (params : GetPriceImpactUsdParams) :
    Result Int := do
  let openInterestParams ← getNextOpenInterest dataStore params
  let priceImpactUsd ←
    _getPriceImpactUsd env dataStore params.market.marketToken openInterestParams
  if priceImpactUsd ≥ 0 then pure priceImpactUsd
  else
    match MarketUtils.getVirtualInventoryForPositions dataStore params.market.indexToken with
    | none => pure priceImpactUsd
    | some virtualInventory =>
      let openInterestParamsForVirtualInventory ←
        getNextOpenInterestForVirtualInventory params virtualInventory
      let priceImpactUsdForVirtualInventory ← _getPriceImpactUsd env dataStore
        params.market.marketToken openInterestParamsForVirtualInventory
      pure (if priceImpactUsdForVirtualInventory < priceImpactUsd then
        priceImpactUsdForVirtualInventory else priceImpactUsd)

-- ---------------------------------------------------------------------------
-- Fees
-- ---------------------------------------------------------------------------

structure PositionReferralFees where
  referralCode : Nat
  affiliate : Address
  trader : Address
  totalRebateFactor : Nat
  traderDiscountFactor : Nat
  totalRebateAmount : Nat
  traderDiscountAmount : Nat
  affiliateRewardAmount : Nat
  deriving DecidableEq, Repr

structure PositionBorrowingFees where
  borrowingFeeUsd : Nat
  borrowingFeeAmount : Nat
  borrowingFeeReceiverFactor : Nat
  borrowingFeeAmountForFeeReceiver : Nat
  deriving DecidableEq, Repr

structure PositionFundingFees where
  fundingFeeAmount : Nat
  claimableLongTokenAmount : Nat
  claimableShortTokenAmount : Nat
  latestLongTokenFundingAmountPerSize : Int
  latestShortTokenFundingAmountPerSize : Int
  deriving DecidableEq, Repr

structure PositionUiFees where
  uiFeeReceiver : Address
  uiFeeReceiverFactor : Nat
  uiFeeAmount : Nat
  deriving DecidableEq, Repr

structure PositionFees where
  referral : PositionReferralFees
  funding : PositionFundingFees
  borrowing : PositionBorrowingFees
  ui : PositionUiFees
  collateralTokenPrice : Price
  positionFeeFactor : Nat
  protocolFeeAmount : Nat
  positionFeeReceiverFactor : Nat
  feeReceiverAmount : Nat
  feeAmountForPool : Nat
  positionFeeAmountForPool : Nat
  positionFeeAmount : Nat
  totalNetCostAmount : Nat
  collateralCostAmount : Nat
  deriving DecidableEq, Repr

/-- A `PositionFees memory` that nothing has been written to. -/
def PositionFees.empty : PositionFees where
  referral := ⟨0, 0, 0, 0, 0, 0, 0, 0⟩
  funding := ⟨0, 0, 0, 0, 0⟩
  borrowing := ⟨0, 0, 0, 0⟩
  ui := ⟨0, 0, 0⟩
  collateralTokenPrice := ⟨0, 0⟩
  positionFeeFactor := 0
  protocolFeeAmount := 0
  positionFeeReceiverFactor := 0
  feeReceiverAmount := 0
  feeAmountForPool := 0
  positionFeeAmountForPool := 0
  positionFeeAmount := 0
  totalNetCostAmount := 0
  collateralCostAmount := 0

structure GetPositionFeesParams where
  position : Position
  collateralTokenPrice : Price
  longToken : Address
  shortToken : Address
  sizeDeltaUsd : Nat
  uiFeeReceiver : Address

def getBorrowingFees (dataStore : DataStore) (collateralTokenPrice : Price)
    (borrowingFeeUsd : Nat) : Result PositionBorrowingFees := do
  let borrowingFeeAmount ← div borrowingFeeUsd collateralTokenPrice.min
  let borrowingFeeReceiverFactor := dataStore.getUint (.base .BORROWING_FEE_RECEIVER_FACTOR)
  let borrowingFeeAmountForFeeReceiver ←
    Precision.applyFactor borrowingFeeAmount borrowingFeeReceiverFactor
  pure { borrowingFeeUsd, borrowingFeeAmount, borrowingFeeReceiverFactor,
         borrowingFeeAmountForFeeReceiver }

def getFundingFees (position : Position) (longToken shortToken : Address)
    (latestLongTokenFundingAmountPerSize latestShortTokenFundingAmountPerSize : Int) :
    Result PositionFundingFees := do
  let longTokenFundingFeeAmount ← MarketUtils.getFundingFeeAmount
    latestLongTokenFundingAmountPerSize position.longTokenFundingAmountPerSize position.sizeInUsd
  let shortTokenFundingFeeAmount ← MarketUtils.getFundingFeeAmount
    latestShortTokenFundingAmountPerSize position.shortTokenFundingAmountPerSize
    position.sizeInUsd
  -- a negative funding fee is distributed, whatever the token
  let claimableLongTokenAmount ← (if longTokenFundingFeeAmount < 0 then do
    toUint256 (← negInt longTokenFundingFeeAmount) else pure 0 : Result Nat)
  let claimableShortTokenAmount ← (if shortTokenFundingFeeAmount < 0 then do
    toUint256 (← negInt shortTokenFundingFeeAmount) else pure 0 : Result Nat)
  -- a positive one is charged in the collateral token only
  let fundingFeeAmount :=
    if position.collateralToken = longToken ∧ longTokenFundingFeeAmount > 0 then
      longTokenFundingFeeAmount.toNat else 0
  let fundingFeeAmount :=
    if position.collateralToken = shortToken ∧ shortTokenFundingFeeAmount > 0 then
      shortTokenFundingFeeAmount.toNat else fundingFeeAmount
  pure { fundingFeeAmount, claimableLongTokenAmount, claimableShortTokenAmount,
         latestLongTokenFundingAmountPerSize, latestShortTokenFundingAmountPerSize }

def getUiFees (dataStore : DataStore) (collateralTokenPrice : Price) (sizeDeltaUsd : Nat)
    (uiFeeReceiver : Address) : Result PositionUiFees :=
  if uiFeeReceiver = 0 then pure ⟨0, 0, 0⟩
  else do
    let uiFeeReceiverFactor := MarketUtils.getUiFeeFactor dataStore uiFeeReceiver
    let uiFeeAmount ←
      div (← Precision.applyFactor sizeDeltaUsd uiFeeReceiverFactor) collateralTokenPrice.min
    pure { uiFeeReceiver, uiFeeReceiverFactor, uiFeeAmount }

/-- The fees that do not depend on the position: the position fee, split between the fee
receiver, the pool, the trader's discount and the affiliate. -/
def getPositionFeesAfterReferral (env : Env) (dataStore : DataStore)
    (collateralTokenPrice : Price) (account market : Address) (sizeDeltaUsd : Nat) :
    Result PositionFees := do
  let (referralCode, affiliate, totalRebateFactor, traderDiscountFactor) ←
    ReferralUtils.getReferralInfo env account
  let positionFeeFactor := dataStore.getUint (Keys.positionFeeFactorKey market)
  let positionFeeAmount ←
    div (← Precision.applyFactor sizeDeltaUsd positionFeeFactor) collateralTokenPrice.min
  let totalRebateAmount ← Precision.applyFactor positionFeeAmount totalRebateFactor
  let traderDiscountAmount ← Precision.applyFactor totalRebateAmount traderDiscountFactor
  let affiliateRewardAmount ← sub totalRebateAmount traderDiscountAmount
  let protocolFeeAmount ← sub positionFeeAmount totalRebateAmount
  let positionFeeReceiverFactor := dataStore.getUint (.base .POSITION_FEE_RECEIVER_FACTOR)
  let feeReceiverAmount ← Precision.applyFactor protocolFeeAmount positionFeeReceiverFactor
  let positionFeeAmountForPool ← sub protocolFeeAmount feeReceiverAmount
  pure
    { PositionFees.empty with
      referral :=
        { referralCode, affiliate, trader := account, totalRebateFactor, traderDiscountFactor,
          totalRebateAmount, traderDiscountAmount, affiliateRewardAmount }
      collateralTokenPrice, positionFeeFactor, positionFeeAmount, protocolFeeAmount,
      positionFeeReceiverFactor, feeReceiverAmount, positionFeeAmountForPool }

def getPositionFees (env : Env) (dataStore : DataStore) (params : GetPositionFeesParams) :
    Result PositionFees := do
  let position := params.position
  let fees ← getPositionFeesAfterReferral env dataStore params.collateralTokenPrice
    position.account position.market params.sizeDeltaUsd
  let borrowingFeeUsd ← MarketUtils.getBorrowingFees dataStore position
  let borrowing ← getBorrowingFees dataStore params.collateralTokenPrice borrowingFeeUsd
  let feeAmountForPool ← sub (← add fees.positionFeeAmountForPool borrowing.borrowingFeeAmount)
    borrowing.borrowingFeeAmountForFeeReceiver
  let feeReceiverAmount ← add fees.feeReceiverAmount borrowing.borrowingFeeAmountForFeeReceiver
  let funding ← getFundingFees position params.longToken params.shortToken
    (MarketUtils.getFundingAmountPerSize dataStore position.market params.longToken
      position.isLong)
    (MarketUtils.getFundingAmountPerSize dataStore position.market params.shortToken
      position.isLong)
  let ui ← getUiFees dataStore params.collateralTokenPrice params.sizeDeltaUsd
    params.uiFeeReceiver
  let totalCostAmount ← add (← add (← add fees.positionFeeAmount funding.fundingFeeAmount)
    borrowing.borrowingFeeAmount) ui.uiFeeAmount
  let totalNetCostAmount ← sub totalCostAmount fees.referral.traderDiscountAmount
  pure
    { fees with
      borrowing, feeAmountForPool, feeReceiverAmount, funding, ui, totalNetCostAmount
      collateralCostAmount := totalNetCostAmount }

end PositionPricingUtils

end GmxSynthetics
