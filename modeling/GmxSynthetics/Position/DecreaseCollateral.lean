import GmxSynthetics.Position.PositionUtils
import GmxSynthetics.Swap.SwapUtils

/-!
# Collateral of a decrease

`DecreasePositionCollateralUtils.sol` and `DecreasePositionSwapUtils.sol`. A decrease
realises pnl at the execution price. A profit leaves the pool, is swapped into the
collateral token if asked for, and pays the fees first; the rest of the fees and a loss
come out of the collateral (`payFromProfit`, `payFromCollateral`). When the collateral
does not suffice, a liquidation or a full auto-deleveraging writes the difference off
instead of reverting (`processForceClose`).
-/

namespace GmxSynthetics

open Evm PositionUtils PositionPricingUtils

-- ---------------------------------------------------------------------------
-- DecreasePositionSwapUtils.sol
-- ---------------------------------------------------------------------------

namespace DecreasePositionSwapUtils

variable (env : Env)

/-- A swap inside the position's own market: no token leaves it. -/
def swapInMarket (params : UpdatePositionParams) (tokenIn : Address) (amountIn : Nat) :
    Tx (Address × Nat) :=
  SwapUtils.swap env
    { bank := { address := params.market.marketToken, isStrict := false }
      tokenIn, amountIn
      swapPathMarkets := [params.market]
      minOutputAmount := 0
      receiver := params.market.marketToken
      uiFeeReceiver := params.order.uiFeeReceiver
      shouldUnwrapNativeToken := false }

/-- Swaps the withdrawn collateral to the pnl token if the order asks for it. -/
def swapWithdrawnCollateralToPnlToken (params : UpdatePositionParams)
    (values : DecreasePositionCollateralValues) : Tx DecreasePositionCollateralValues :=
  if params.order.decreasePositionSwapType = .SwapCollateralTokenToPnlToken then do
    let swapped ← Tx.attempt
      (swapInMarket env params params.position.collateralToken values.output.outputAmount)
    match swapped with
    | .ok (tokenOut, swapOutputAmount) =>
      revertIf (tokenOut ≠ values.output.secondaryOutputToken)
        (.InvalidOutputToken tokenOut values.output.secondaryOutputToken)
      -- combine the values into outputToken and outputAmount
      let outputAmount ← add values.output.secondaryOutputAmount swapOutputAmount
      pure { values with
        output := { values.output with
          outputToken := tokenOut
          outputAmount
          secondaryOutputAmount := 0 } }
    | .error _ => pure values
  else pure values

/-- Swaps the realised profit to the collateral token if the order asks for it; `none` when
nothing was swapped. -/
def swapProfitToCollateralToken (params : UpdatePositionParams) (pnlToken : Address)
    (profitAmount : Nat) : Tx (Option Nat) :=
  if params.order.decreasePositionSwapType = .SwapPnlTokenToCollateralToken then do
    let swapped ← Tx.attempt (swapInMarket env params pnlToken profitAmount)
    match swapped with
    | .ok (_, swapOutputAmount) => pure (some swapOutputAmount)
    | .error _ => pure none
  else pure none

end DecreasePositionSwapUtils

-- ---------------------------------------------------------------------------
-- DecreasePositionCollateralUtils.sol
-- ---------------------------------------------------------------------------

namespace DecreasePositionCollateralUtils

structure ProcessCollateralCache where
  adjustedPositionPnlUsd : Int
  adjustedPriceImpactDiffUsd : Nat
  adjustedPriceImpactDiffAmount : Nat
  deriving DecidableEq, Repr

variable (env : Env)

/-- The execution price, the price impact amount, and the part of a negative impact that is
cut off by its cap. -/
def getExecutionPrice (dataStore : DataStore) (params : UpdatePositionParams)
    (prices : MarketPrices) (sizeDeltaUsd : Nat) : Result (Nat × Int × Nat) := do
  let priceImpactUsd ← PositionPricingUtils.getPriceImpactUsd env dataStore
    { market := params.market
      usdDelta := ← negInt (← toInt256 sizeDeltaUsd)
      isLong := params.order.isLong }
  let priceImpactUsd ← MarketUtils.getCappedPositionImpactUsd dataStore
    params.market.marketToken prices.indexTokenPrice priceImpactUsd sizeDeltaUsd
  let (priceImpactUsd, priceImpactDiffUsd) ← (if priceImpactUsd < 0 then do
      let maxPriceImpactFactor :=
        MarketUtils.getMaxPositionImpactFactor dataStore params.market.marketToken false
      -- convert the max price impact to the min negative value
      let minPriceImpactUsd ←
        negInt (← toInt256 (← Precision.applyFactor sizeDeltaUsd maxPriceImpactFactor))
      if priceImpactUsd < minPriceImpactUsd then do
        let priceImpactDiffUsd ← toUint256 (← subInt minPriceImpactUsd priceImpactUsd)
        pure (minPriceImpactUsd, priceImpactDiffUsd)
      else pure (priceImpactUsd, 0)
    else pure (priceImpactUsd, 0) : Result (Int × Nat))
  let executionPrice ← BaseOrderUtils.getExecutionPrice
    (← Oracle.getPrimaryPrice env params.market.indexToken) sizeDeltaUsd priceImpactUsd
    params.order.acceptablePrice params.position.isLong false
  let priceImpactAmount ← getPriceImpactAmount priceImpactUsd prices.indexTokenPrice
    params.position.isLong false
  pure (executionPrice, priceImpactAmount, priceImpactDiffUsd)

/-- A positive pnl pays for the impact that was cut off; what it does not cover is left to be
deducted from the collateral. -/
def adjustPositionPnl (positionPnlUsd : Int) (priceImpactDiffUsd : Nat)
    (collateralTokenPrice : Price) : Result ProcessCollateralCache := do
  let (adjustedPositionPnlUsd, adjustedPriceImpactDiffUsd) ←
    (if positionPnlUsd > 0 ∧ priceImpactDiffUsd > 0 then do
      let diffUsd ← toInt256 priceImpactDiffUsd
      if positionPnlUsd > diffUsd then do
        pure (← subInt positionPnlUsd diffUsd, 0)
      else do
        pure (0, ← sub priceImpactDiffUsd (← toUint256 positionPnlUsd))
    else pure (positionPnlUsd, priceImpactDiffUsd) : Result (Int × Nat))
  let adjustedPriceImpactDiffAmount ← div adjustedPriceImpactDiffUsd collateralTokenPrice.max
  pure { adjustedPositionPnlUsd, adjustedPriceImpactDiffUsd, adjustedPriceImpactDiffAmount }

/-- The withdrawal of an order shrinks by the amount deducted for price impact. -/
def adjustInitialCollateralDeltaAmount (initialCollateralDeltaAmount
    adjustedPriceImpactDiffAmount : Nat) : Nat :=
  if adjustedPriceImpactDiffAmount > 0 ∧ initialCollateralDeltaAmount > 0 then
    if adjustedPriceImpactDiffAmount > initialCollateralDeltaAmount then 0
    else initialCollateralDeltaAmount - adjustedPriceImpactDiffAmount
  else initialCollateralDeltaAmount

/-- Takes a profit out of the pool: the part paid for cut off impact is made claimable, the
rest is swapped or kept. Returns the output amount in the collateral token and the
secondary output amount in the pnl token. -/
def realizeProfit (params : UpdatePositionParams) (cache : DecreasePositionCache)
    (positionPnlUsd adjustedPositionPnlUsd : Int) : Tx (Nat × Nat) :=
  if adjustedPositionPnlUsd > 0 then do
    let deductionAmountForPool ← div (← toUint256 positionPnlUsd) cache.pnlTokenPrice.max
    let pnlAmountForUser ← div (← toUint256 adjustedPositionPnlUsd) cache.pnlTokenPrice.max
    let pnlDiffAmount ← sub deductionAmountForPool pnlAmountForUser
    (if pnlDiffAmount > 0 then
      MarketUtils.incrementClaimableCollateralAmount env params.market.marketToken cache.pnlToken
        params.order.account pnlDiffAmount
    else pure ())
    let _ ← MarketUtils.applyDeltaToPoolAmount params.market.marketToken cache.pnlToken
      (← negInt (← toInt256 deductionAmountForPool))
    let swapped ← DecreasePositionSwapUtils.swapProfitToCollateralToken env params
      cache.pnlToken pnlAmountForUser
    match swapped with
    | some swapOutputAmount => pure (swapOutputAmount, 0)
    | none =>
      if params.position.collateralToken = cache.pnlToken then pure (pnlAmountForUser, 0)
      else pure (0, pnlAmountForUser)
  else pure (0, 0)

/-- Uses an output in the collateral token to pay for the fees. -/
def payFeesFromOutput (outputAmount : Nat) (fees : PositionFees) :
    Result (Nat × PositionFees) :=
  if outputAmount > 0 then
    if outputAmount > fees.totalNetCostAmount then do
      pure (← sub outputAmount fees.totalNetCostAmount, { fees with collateralCostAmount := 0 })
    else do
      pure (0, { fees with
        collateralCostAmount := ← sub fees.collateralCostAmount outputAmount })
  else pure (outputAmount, fees)

/-- The state of `processCollateral` when it compares the pending deduction with the
collateral. -/
structure PendingCollateral where
  values : DecreasePositionCollateralValues
  fees : PositionFees
  collateralCache : ProcessCollateralCache
  collateralTokenPrice : Price
  initialCollateralDeltaAmount : Nat
  deriving DecidableEq, Repr

/-- The state of `processCollateral` when the profit has been taken out of the pool: what is
paid out of it in the collateral token and in the pnl token, and what the position owes. -/
structure RealizedPnl where
  collateralTokenPrice : Price
  executionPrice : Nat
  priceImpactAmount : Int
  priceImpactDiffUsd : Nat
  positionPnlUsd : Int
  sizeDeltaInTokens : Nat
  collateralCache : ProcessCollateralCache
  initialCollateralDeltaAmount : Nat
  fees : PositionFees
  profitAmount : Nat
  secondaryOutputAmount : Nat
  deriving DecidableEq, Repr

/-- `processCollateral` up to the payment of the fees. -/
def realizePnl (params : UpdatePositionParams) (cache : DecreasePositionCache) :
    Tx RealizedPnl := do
  let collateralTokenPrice ← MarketUtils.getCachedTokenPrice params.order.initialCollateralToken
    params.market cache.prices
  let (executionPrice, priceImpactAmount, priceImpactDiffUsd) ← viewStore fun dataStore =>
    getExecutionPrice env dataStore params cache.prices params.order.sizeDeltaUsd
  let (positionPnlUsd, sizeDeltaInTokens) ← viewStore fun dataStore =>
    getPositionPnlUsd dataStore params.market cache.prices params.position executionPrice
      params.order.sizeDeltaUsd
  let collateralCache ← adjustPositionPnl positionPnlUsd priceImpactDiffUsd collateralTokenPrice
  let initialCollateralDeltaAmount := adjustInitialCollateralDeltaAmount
    params.order.initialCollateralDeltaAmount collateralCache.adjustedPriceImpactDiffAmount
  let fees ← viewStore fun dataStore => getPositionFees env dataStore
    { position := params.position, collateralTokenPrice
      longToken := params.market.longToken, shortToken := params.market.shortToken
      sizeDeltaUsd := params.order.sizeDeltaUsd, uiFeeReceiver := params.order.uiFeeReceiver }
  let (profitAmount, secondaryOutputAmount) ← realizeProfit env params cache positionPnlUsd
    collateralCache.adjustedPositionPnlUsd
  pure { collateralTokenPrice, executionPrice, priceImpactAmount, priceImpactDiffUsd,
         positionPnlUsd, sizeDeltaInTokens, collateralCache, initialCollateralDeltaAmount, fees,
         profitAmount, secondaryOutputAmount }

/-- The realised profit pays for the fees; a loss is added to what the collateral must pay. -/
def payFromProfit (params : UpdatePositionParams) (cache : DecreasePositionCache)
    (realized : RealizedPnl) : Result PendingCollateral := do
  let collateralCache := realized.collateralCache
  let (outputAmount, fees) ← payFeesFromOutput realized.profitAmount realized.fees
  -- increase the pending deduction by the realized pnl if the pnl is negative
  let pendingCollateralDeduction ← (if collateralCache.adjustedPositionPnlUsd < 0 then do
      let loss ← toUint256 (← negInt collateralCache.adjustedPositionPnlUsd)
      add fees.collateralCostAmount (← div loss realized.collateralTokenPrice.min)
    else pure fees.collateralCostAmount : Result Nat)
  pure
    { values :=
        { executionPrice := realized.executionPrice
          remainingCollateralAmount := params.position.collateralAmount
          positionPnlUsd := realized.positionPnlUsd
          sizeDeltaInTokens := realized.sizeDeltaInTokens
          priceImpactAmount := realized.priceImpactAmount
          priceImpactDiffUsd := realized.priceImpactDiffUsd
          pendingCollateralDeduction
          output :=
            { outputToken := params.position.collateralToken, outputAmount
              secondaryOutputToken := cache.pnlToken
              secondaryOutputAmount := realized.secondaryOutputAmount } }
      fees, collateralCache
      collateralTokenPrice := realized.collateralTokenPrice
      initialCollateralDeltaAmount := realized.initialCollateralDeltaAmount }

/-- `processCollateral` from the check of the pending deduction on, when the collateral covers
it: losses, fees, cut off impact and the withdrawal leave the collateral in this order. -/
def payFromCollateral (params : UpdatePositionParams) (pending : PendingCollateral) :
    Tx (DecreasePositionCollateralValues × PositionFees) := do
  let values := pending.values
  let fees := pending.fees
  let collateralToken := params.position.collateralToken
  -- position realizes a loss, deduct collateral from user, transfer it to the pool
  let remainingCollateralAmount ←
    (if pending.collateralCache.adjustedPositionPnlUsd < 0 then do
      let loss ← toUint256 (← negInt values.positionPnlUsd)
      let amountForPool ← div loss pending.collateralTokenPrice.min
      let remainingCollateralAmount ← sub values.remainingCollateralAmount amountForPool
      let _ ← MarketUtils.applyDeltaToPoolAmount params.market.marketToken collateralToken
        (← toInt256 amountForPool)
      pure remainingCollateralAmount
    else pure values.remainingCollateralAmount : Tx Nat)
  -- deduct remaining fees from the position's collateral
  let remainingCollateralAmount ← sub remainingCollateralAmount fees.collateralCostAmount
  let _ ← MarketUtils.applyDeltaToPositionImpactPool params.market.marketToken
    (← negInt values.priceImpactAmount)
  let remainingCollateralAmount ←
    (if pending.collateralCache.adjustedPriceImpactDiffAmount > 0 then do
      -- cap the amount to what remains of the collateral
      let adjustedPriceImpactDiffAmount :=
        if remainingCollateralAmount < pending.collateralCache.adjustedPriceImpactDiffAmount then
          remainingCollateralAmount
        else pending.collateralCache.adjustedPriceImpactDiffAmount
      let remainingAfterDiff ← sub remainingCollateralAmount adjustedPriceImpactDiffAmount
      MarketUtils.incrementClaimableCollateralAmount env params.market.marketToken
        collateralToken params.order.account adjustedPriceImpactDiffAmount
      pure remainingAfterDiff
    else pure remainingCollateralAmount : Tx Nat)
  let initialCollateralDeltaAmount :=
    if pending.initialCollateralDeltaAmount > remainingCollateralAmount then
      remainingCollateralAmount
    else pending.initialCollateralDeltaAmount
  let remainingCollateralAmount ← sub remainingCollateralAmount initialCollateralDeltaAmount
  let outputAmount ← add values.output.outputAmount initialCollateralDeltaAmount
  FeeUtils.incrementClaimableFeeAmount params.market.marketToken collateralToken
    fees.feeReceiverAmount
  FeeUtils.incrementClaimableUiFeeAmount params.order.uiFeeReceiver params.market.marketToken
    collateralToken fees.ui.uiFeeAmount
  pure ({ values with
    remainingCollateralAmount
    output := { values.output with outputAmount } }, fees)

/-- The part of the costs that the collateral of a force closed position pays: the collateral
left after the funding fee goes to the pool. Returns the unpaid funding fee and the unpaid
other costs. -/
def payForceCloseFromCollateral (params : UpdatePositionParams)
    (values : DecreasePositionCollateralValues) (fundingFeeAmount remainingCostAmount : Nat) :
    Tx (Nat × Nat) :=
  if fundingFeeAmount > values.remainingCollateralAmount then do
    let remainingFundingFeeAmount ← sub fundingFeeAmount values.remainingCollateralAmount
    pure (remainingFundingFeeAmount, remainingCostAmount)
  else do
    let amountForPool ← sub values.remainingCollateralAmount fundingFeeAmount
    let remainingCostAmount ← (if remainingCostAmount > amountForPool then
      sub remainingCostAmount amountForPool else pure 0 : Result Nat)
    let _ ← MarketUtils.applyDeltaToPoolAmount params.market.marketToken
      params.position.collateralToken (← toInt256 amountForPool)
    pure (0, remainingCostAmount)

/-- The unpaid funding fee of a force closed position is taken from the secondary output and
made claimable by the holding address. Returns what is left of the secondary output. -/
def payForceCloseFunding (params : UpdatePositionParams) (secondaryOutputToken : Address)
    (secondaryOutputAmount remainingFundingFeeAmount : Nat)
    (collateralTokenPrice secondaryTokenPrice : Price) : Tx Nat :=
  if secondaryOutputAmount > 0 ∧ remainingFundingFeeAmount > 0 then do
    let holdingAddress ← readStore (·.getAddress (.base .HOLDING_ADDRESS))
    revertIf (holdingAddress = 0) .EmptyHoldingAddress
    let secondaryFundingFeeAmount ←
      div (← mul remainingFundingFeeAmount collateralTokenPrice.max) secondaryTokenPrice.min
    let (nextSecondaryOutputAmount, secondaryFundingFeeAmount) :=
      if secondaryOutputAmount ≥ secondaryFundingFeeAmount then
        (secondaryOutputAmount - secondaryFundingFeeAmount, secondaryFundingFeeAmount)
      else (0, secondaryOutputAmount)
    MarketUtils.incrementClaimableCollateralAmount env params.market.marketToken
      secondaryOutputToken holdingAddress secondaryFundingFeeAmount
    pure nextSecondaryOutputAmount
  else pure secondaryOutputAmount

/-- The unpaid other costs of a force closed position are taken from the secondary output into
the pool. Returns what is left of the secondary output. -/
def payForceCloseCosts (params : UpdatePositionParams) (secondaryOutputToken : Address)
    (secondaryOutputAmount remainingCostAmount : Nat)
    (collateralTokenPrice secondaryTokenPrice : Price) : Tx Nat :=
  if secondaryOutputAmount > 0 ∧ remainingCostAmount > 0 then do
    let secondaryAmountForPool ←
      div (← mul remainingCostAmount collateralTokenPrice.max) secondaryTokenPrice.min
    let (nextSecondaryOutputAmount, secondaryAmountForPool) :=
      if secondaryOutputAmount > secondaryAmountForPool then
        (secondaryOutputAmount - secondaryAmountForPool, secondaryAmountForPool)
      else (0, secondaryOutputAmount)
    let _ ← MarketUtils.applyDeltaToPoolAmount params.market.marketToken secondaryOutputToken
      (← toInt256 secondaryAmountForPool)
    pure nextSecondaryOutputAmount
  else pure secondaryOutputAmount

/-- Closes a position whose collateral does not cover its costs: funding fees are paid first,
the rest of the collateral is sent to the pool. -/
def processForceClose (params : UpdatePositionParams)
    (values : DecreasePositionCollateralValues) (fees : PositionFees) (prices : MarketPrices)
    (collateralTokenPrice : Price) : Tx (DecreasePositionCollateralValues × PositionFees) := do
  -- separate the funding fee amount and remaining cost
  -- since the funding fee should be attempted to be paid first
  let remainingCostAmount ←
    sub values.pendingCollateralDeduction fees.funding.fundingFeeAmount
  let (remainingFundingFeeAmount, remainingCostAmount) ← payForceCloseFromCollateral params values
    fees.funding.fundingFeeAmount remainingCostAmount
  let secondaryOutputToken := values.output.secondaryOutputToken
  let secondaryTokenPrice ←
    MarketUtils.getCachedTokenPrice secondaryOutputToken params.market prices
  let secondaryOutputAmount ← payForceCloseFunding env params secondaryOutputToken
    values.output.secondaryOutputAmount remainingFundingFeeAmount collateralTokenPrice
    secondaryTokenPrice
  let secondaryOutputAmount ← payForceCloseCosts params secondaryOutputToken
    secondaryOutputAmount remainingCostAmount collateralTokenPrice secondaryTokenPrice
  pure
    ({ values with
        remainingCollateralAmount := 0
        priceImpactDiffUsd := 0
        pendingCollateralDeduction := 0
        output :=
          { outputToken := 0, outputAmount := 0, secondaryOutputToken, secondaryOutputAmount } },
      -- allow the accumulated funding fees to still be claimable
      { PositionFees.empty with
        funding :=
          { PositionFees.empty.funding with
            claimableLongTokenAmount := fees.funding.claimableLongTokenAmount
            claimableShortTokenAmount := fees.funding.claimableShortTokenAmount } })

/-- Liquidations and auto-deleveragings that close the whole position may be force closed. -/
def isForceClosable (params : UpdatePositionParams) : Bool :=
  decide (params.order.sizeDeltaUsd = params.position.sizeInUsd) &&
    (BaseOrderUtils.isLiquidationOrder params.order.orderType ||
      decide (params.secondaryOrderType = .Adl))

def processCollateral (params : UpdatePositionParams) (cache : DecreasePositionCache) :
    Tx (DecreasePositionCollateralValues × PositionFees) := do
  let realized ← realizePnl env params cache
  let pending ← payFromProfit params cache realized
  let values := pending.values
  if values.pendingCollateralDeduction > values.remainingCollateralAmount then
    if isForceClosable params then
      processForceClose env params values pending.fees cache.prices pending.collateralTokenPrice
    else
      revert (.InsufficientCollateral params.position.collateralAmount
        values.pendingCollateralDeduction)
  else payFromCollateral env params pending

end DecreasePositionCollateralUtils

end GmxSynthetics
