import GmxSynthetics.Position.DecreaseCollateral

/-!
# Decreasing a position

`DecreasePositionUtils.sol`. The size of the order is first capped and, by three
auto-close rules, raised to the whole position (`adjustOrder`); then the collateral is
processed and the position is stored or removed (`closeOrStore`), and the aggregates
shrink by what the position lost.

Besides the result, `decreasePosition` returns the fees that the Solidity function emits
with `PositionFeesCollected`.
-/

namespace GmxSynthetics.DecreasePositionUtils

open PositionUtils PositionPricingUtils DecreasePositionCollateralUtils

structure DecreasePositionResult where
  outputToken : Address
  outputAmount : Nat
  secondaryOutputToken : Address
  secondaryOutputAmount : Nat
  deriving DecidableEq, Repr

variable (env : Env)

/-- The order size is capped by the position size; only a triggered order may exceed it. -/
def capSizeDelta (params : UpdatePositionParams) : Result Order :=
  let order := params.order
  let sizeInUsd := params.position.sizeInUsd
  if order.sizeDeltaUsd > sizeInUsd then
    if order.orderType = .LimitDecrease ∨ order.orderType = .StopLossDecrease then
      pure { order with sizeDeltaUsd := sizeInUsd }
    else revert (.InvalidDecreaseOrderSize order.sizeDeltaUsd sizeInUsd)
  else pure order

/-- Whether a partial decrease leaves sufficient collateral, what it is estimated to leave, and
the pnl estimated to remain. -/
def estimateRemainingCollateral (dataStore : DataStore) (params : UpdatePositionParams)
    (prices : MarketPrices) (order : Order) : Result (Bool × Int × Int) := do
  let position := params.position
  let (estimatedPositionPnlUsd, _) ← getPositionPnlUsd dataStore params.market prices position
    (prices.indexTokenPrice.pickPriceForPnl position.isLong false) position.sizeInUsd
  let estimatedRealizedPnlUsd ←
    divInt (← mulInt estimatedPositionPnlUsd (← toInt256 order.sizeDeltaUsd))
      (← toInt256 position.sizeInUsd)
  let estimatedRemainingPnlUsd ← subInt estimatedPositionPnlUsd estimatedRealizedPnlUsd
  let (willBeSufficient, estimatedRemainingCollateralUsd) ←
    willPositionCollateralBeSufficient dataStore params.market prices position.collateralToken
      position.isLong
      { positionSizeInUsd := ← sub position.sizeInUsd order.sizeDeltaUsd
        positionCollateralAmount :=
          ← sub position.collateralAmount order.initialCollateralDeltaAmount
        realizedPnlUsd := estimatedRealizedPnlUsd
        openInterestDelta := ← negInt (← toInt256 order.sizeDeltaUsd) }
  pure (willBeSufficient, estimatedRemainingCollateralUsd, estimatedRemainingPnlUsd)

/-- A partial decrease does not withdraw collateral that the remaining position needs, and
becomes a full close when the remaining collateral or the remaining size would be too
small. -/
def adjustPartialDecrease (dataStore : DataStore) (params : UpdatePositionParams)
    (prices : MarketPrices) (order : Order) : Result Order := do
  let position := params.position
  let (willBeSufficient, estimatedRemainingCollateralUsd, estimatedRemainingPnlUsd) ←
    estimateRemainingCollateral dataStore params prices order
  let (order, estimatedRemainingCollateralUsd) ←
    (if willBeSufficient then pure (order, estimatedRemainingCollateralUsd)
    else do
      revertIf (order.sizeDeltaUsd = 0)
        (.UnableToWithdrawCollateral estimatedRemainingCollateralUsd)
      -- the estimate subtracted the withdrawal that is now left out
      let collateralTokenPrice ←
        MarketUtils.getCachedTokenPrice position.collateralToken params.market prices
      let withdrawalUsd ←
        toInt256 (← mul order.initialCollateralDeltaAmount collateralTokenPrice.min)
      pure ({ order with initialCollateralDeltaAmount := 0 },
        ← addInt estimatedRemainingCollateralUsd withdrawalUsd) : Result (Order × Int))
  let remainingUsd ← addInt estimatedRemainingCollateralUsd estimatedRemainingPnlUsd
  let minCollateralUsd ← toInt256 (dataStore.getUint (.base .MIN_COLLATERAL_USD))
  let order :=
    if remainingUsd < minCollateralUsd then { order with sizeDeltaUsd := position.sizeInUsd }
    else order
  let minPositionSizeUsd := dataStore.getUint (.base .MIN_POSITION_SIZE_USD)
  pure (if position.sizeInUsd > order.sizeDeltaUsd ∧
      position.sizeInUsd - order.sizeDeltaUsd < minPositionSizeUsd then
    { order with sizeDeltaUsd := position.sizeInUsd }
  else order)

/-- The order as it will be executed. -/
def adjustOrder (dataStore : DataStore) (params : UpdatePositionParams) (prices : MarketPrices) :
    Result Order := do
  let position := params.position
  let order ← capSizeDelta params
  let order ← (if order.sizeDeltaUsd < position.sizeInUsd then
      adjustPartialDecrease dataStore params prices order
    else pure order : Result Order)
  -- if the position will be closed, set the initial collateral delta amount to zero
  let order :=
    if order.sizeDeltaUsd = position.sizeInUsd ∧ order.initialCollateralDeltaAmount > 0 then
      { order with initialCollateralDeltaAmount := 0 }
    else order
  let pnlToken := if position.isLong then params.market.longToken else params.market.shortToken
  pure (if order.decreasePositionSwapType ≠ .NoSwap ∧ pnlToken = position.collateralToken then
    { order with decreasePositionSwapType := .NoSwap }
  else order)

/-- What `processCollateral` reads from the cache. -/
def makeCache (params : UpdatePositionParams) (prices : MarketPrices) : DecreasePositionCache where
  prices := prices
  pnlToken := if params.position.isLong then params.market.longToken else params.market.shortToken
  pnlTokenPrice :=
    if params.position.isLong then prices.longTokenPrice else prices.shortTokenPrice

/-- `decreasePosition` up to the call of `processCollateral`: the adjusted order and the
prices. -/
def prepareDecrease (params : UpdatePositionParams) :
    Tx (UpdatePositionParams × MarketPrices) := do
  let prices ← MarketUtils.getMarketPrices env params.market
  let order ← viewStore fun dataStore => adjustOrder dataStore params prices
  let params := { params with order }
  updateFundingAndBorrowingState env params prices
  let (isLiquidatable, _) ← viewStore fun dataStore =>
    isPositionLiquidatable env dataStore params.position params.market prices true
  revertIf (BaseOrderUtils.isLiquidationOrder order.orderType = true ∧ isLiquidatable = false)
    .PositionShouldNotBeLiquidated
  pure (params, prices)

/-- The position after a decrease, and the output: a position without size or without tokens is
removed and pays out all of its collateral. -/
def closeOrStore (params : UpdatePositionParams) (position : Position)
    (values : DecreasePositionCollateralValues) (fees : PositionFees)
    (nextPositionBorrowingFactor : Nat) :
    Tx (Position × DecreasePositionCollateralValues) :=
  if position.sizeInUsd = 0 ∨ position.sizeInTokens = 0 then do
    -- withdraw all collateral if the position will be closed
    let outputAmount ← add values.output.outputAmount position.collateralAmount
    let dataStore ← viewStore fun dataStore =>
      PositionStoreUtils.remove dataStore params.positionKey params.order.account
    writeStore fun _ => dataStore
    pure ({ position with sizeInUsd := 0, sizeInTokens := 0, collateralAmount := 0 },
      { values with output := { values.output with outputAmount } })
  else do
    let position :=
      { position with
        longTokenFundingAmountPerSize := fees.funding.latestLongTokenFundingAmountPerSize
        shortTokenFundingAmountPerSize := fees.funding.latestShortTokenFundingAmountPerSize
        borrowingFactor := nextPositionBorrowingFactor }
    writeStore (PositionStoreUtils.set · params.positionKey position)
    pure (position, values)

/-- `decreasePosition` from the return of `processCollateral` on. -/
def finishDecrease (params : UpdatePositionParams) (prices : MarketPrices)
    (values : DecreasePositionCollateralValues) (fees : PositionFees) :
    Tx (DecreasePositionResult × PositionFees) := do
  let initialCollateralAmount := params.position.collateralAmount
  let nextPositionSizeInUsd ← sub params.position.sizeInUsd params.order.sizeDeltaUsd
  let nextPositionBorrowingFactor ← readStore fun dataStore =>
    MarketUtils.getCumulativeBorrowingFactor dataStore params.market.marketToken
      params.position.isLong
  updateTotalBorrowing params nextPositionSizeInUsd nextPositionBorrowingFactor
  let nextPosition : Position :=
    { params.position with
      sizeInUsd := nextPositionSizeInUsd
      sizeInTokens := ← sub params.position.sizeInTokens values.sizeDeltaInTokens
      collateralAmount := values.remainingCollateralAmount
      decreasedAtBlock := env.blockNumber }
  incrementClaimableFundingAmount params fees
  let (nextPosition, values) ←
    closeOrStore params nextPosition values fees nextPositionBorrowingFactor
  let params := { params with position := nextPosition }
  let _ ← MarketUtils.applyDeltaToCollateralSum nextPosition.market nextPosition.collateralToken
    nextPosition.isLong
    (← negInt (← toInt256 (← sub initialCollateralAmount nextPosition.collateralAmount)))
  updateOpenInterest params (← negInt (← toInt256 params.order.sizeDeltaUsd))
    (← negInt (← toInt256 values.sizeDeltaInTokens))
  let _ ← MarketUtils.applyDeltaToPoolAmount params.market.marketToken
    nextPosition.collateralToken (← toInt256 fees.feeAmountForPool)
  handleReferral params fees
  (if nextPosition.sizeInUsd ≠ 0 ∨ nextPosition.sizeInTokens ≠ 0 then
    viewStore fun dataStore =>
      validatePosition env dataStore nextPosition params.market prices false false
  else pure ())
  let values ←
    DecreasePositionSwapUtils.swapWithdrawnCollateralToPnlToken env params values
  pure
    ({ outputToken := values.output.outputToken
       outputAmount := values.output.outputAmount
       secondaryOutputToken := values.output.secondaryOutputToken
       secondaryOutputAmount := values.output.secondaryOutputAmount }, fees)

def decreasePosition (params : UpdatePositionParams) :
    Tx (DecreasePositionResult × PositionFees) := do
  let (params, prices) ← prepareDecrease env params
  let (values, fees) ← processCollateral env params (makeCache params prices)
  finishDecrease env params prices values fees

end GmxSynthetics.DecreasePositionUtils
