import GmxSynthetics.Bank.Bank
import GmxSynthetics.Market.Ledger
import GmxSynthetics.Pricing.SwapPricing

/-!
# Swaps

`SwapUtils.sol`. A swap walks a path of markets, each hop sending its output to the next
market; a flag per market stops a path from visiting one twice. Within a hop the input,
less fees and negative impact, goes to the pool, the output leaves it, and positive
impact is paid on top from the swap impact pool.
-/

namespace GmxSynthetics.SwapUtils

open Evm

structure SwapParams where
  bank : BankRef
  tokenIn : Address
  amountIn : Nat
  swapPathMarkets : List Market
  minOutputAmount : Nat
  receiver : Address
  uiFeeReceiver : Address
  shouldUnwrapNativeToken : Bool

/-- The parameters of one hop. -/
structure _SwapParams where
  market : Market
  tokenIn : Address
  amountIn : Nat
  receiver : Address
  shouldUnwrapNativeToken : Bool

/-- The amounts of one hop: into the pool, to the receiver, and out of the pool. -/
structure SwapCache where
  amountIn : Nat
  amountOut : Nat
  poolAmountOut : Nat

variable (env : Env)

/-- The branch of `_swap` on the sign of the price impact. -/
def applyPriceImpact (market tokenIn tokenOut : Address) (tokenInPrice tokenOutPrice : Price)
    (amountAfterFees : Nat) (priceImpactUsd : Int) : Tx SwapCache :=
  if priceImpactUsd > 0 then do
    let amountIn := amountAfterFees
    -- round amountOut down
    let poolAmountOut ← div (← mul amountIn tokenInPrice.min) tokenOutPrice.max
    let positiveImpactAmount ←
      MarketUtils.applySwapImpactWithCap market tokenOut tokenOutPrice priceImpactUsd
    let amountOut ← add poolAmountOut (← toUint256 positiveImpactAmount)
    pure { amountIn, amountOut, poolAmountOut }
  else do
    let negativeImpactAmount ←
      MarketUtils.applySwapImpactWithCap market tokenIn tokenInPrice priceImpactUsd
    let impactAmount ← toUint256 (← negInt negativeImpactAmount)
    revertIf (amountAfterFees ≤ impactAmount)
      (.SwapPriceImpactExceedsAmountIn amountAfterFees negativeImpactAmount)
    let amountIn ← sub amountAfterFees impactAmount
    let amountOut ← div (← mul amountIn tokenInPrice.min) tokenOutPrice.max
    pure { amountIn, amountOut, poolAmountOut := amountOut }

/-- The limits a market must respect after a hop. -/
def validateAfterSwap (dataStore : DataStore) (market : Market) (tokenIn tokenOut : Address)
    (tokenInPrice tokenOutPrice : Price) : Result Unit := do
  let prices : MarketPrices :=
    { indexTokenPrice := ← Oracle.getPrimaryPrice env market.indexToken
      longTokenPrice := if tokenIn = market.longToken then tokenInPrice else tokenOutPrice
      shortTokenPrice := if tokenIn = market.shortToken then tokenInPrice else tokenOutPrice }
  MarketUtils.validatePoolAmount dataStore market tokenIn
  MarketUtils.validateReserve dataStore market prices (decide (tokenOut = market.longToken))
  MarketUtils.validateMaxPnl dataStore market prices
    (if tokenIn = market.longToken then .MAX_PNL_FACTOR_FOR_DEPOSITS
      else .MAX_PNL_FACTOR_FOR_WITHDRAWALS)
    (if tokenOut = market.shortToken then .MAX_PNL_FACTOR_FOR_WITHDRAWALS
      else .MAX_PNL_FACTOR_FOR_DEPOSITS)

/-- A swap on a single market. -/
def _swap (params : SwapParams) (_params : _SwapParams) : Tx (Address × Nat) := do
  let market := _params.market
  let tokenIn := _params.tokenIn
  revertIf (tokenIn ≠ market.longToken ∧ tokenIn ≠ market.shortToken)
    (.InvalidTokenIn tokenIn market.marketToken)
  MarketUtils.validateSwapMarket market
  let tokenOut ← MarketUtils.getOppositeToken tokenIn market
  let tokenInPrice ← Oracle.getPrimaryPrice env tokenIn
  let tokenOutPrice ← Oracle.getPrimaryPrice env tokenOut
  let fees ← viewStore fun dataStore => SwapPricingUtils.getSwapFees dataStore
    market.marketToken _params.amountIn params.uiFeeReceiver
  FeeUtils.incrementClaimableFeeAmount market.marketToken tokenIn fees.feeReceiverAmount
  FeeUtils.incrementClaimableUiFeeAmount params.uiFeeReceiver market.marketToken tokenIn
    fees.uiFeeAmount
  let usdDelta ← toInt256 (← mul fees.amountAfterFees (← tokenInPrice.midPrice))
  let impactParams : SwapPricingUtils.GetPriceImpactUsdParams :=
    { market, tokenA := tokenIn, tokenB := tokenOut
      priceForTokenA := ← tokenInPrice.midPrice
      priceForTokenB := ← tokenOutPrice.midPrice
      usdDeltaForTokenA := usdDelta
      usdDeltaForTokenB := ← negInt usdDelta }
  let priceImpactUsd ← viewStore fun dataStore =>
    SwapPricingUtils.getPriceImpactUsd env dataStore impactParams
  let cache ← applyPriceImpact market.marketToken tokenIn tokenOut tokenInPrice tokenOutPrice
    fees.amountAfterFees priceImpactUsd
  -- the amountOut value includes the positive price impact amount
  (if _params.receiver ≠ market.marketToken then
    Bank.transferOutUnwrapping env market.marketToken tokenOut _params.receiver cache.amountOut
      _params.shouldUnwrapNativeToken
  else pure ())
  let _ ← MarketUtils.applyDeltaToPoolAmount market.marketToken tokenIn
    (← toInt256 (← add cache.amountIn fees.feeAmountForPool))
  -- the poolAmountOut excludes it, as that is deducted from the swap impact pool instead
  let _ ← MarketUtils.applyDeltaToPoolAmount market.marketToken tokenOut
    (← negInt (← toInt256 cache.poolAmountOut))
  viewStore fun dataStore =>
    validateAfterSwap env dataStore market tokenIn tokenOut tokenInPrice tokenOutPrice
  pure (tokenOut, cache.amountOut)

/-- The loop over the path, from the given token and amount on. -/
def swapAlongPath (params : SwapParams) : List Market → Address → Nat → Tx (Address × Nat)
  | [], tokenOut, outputAmount => pure (tokenOut, outputAmount)
  | market :: nextMarkets, tokenOut, outputAmount => do
    let flagExists ← readStore (·.getBool (Keys.swapPathMarketFlagKey market.marketToken))
    revertIf (flagExists = true) (.DuplicatedMarketInSwapPath market.marketToken)
    writeStore (·.setBool (Keys.swapPathMarketFlagKey market.marketToken) true)
    let receiver := match nextMarkets with
      | [] => params.receiver
      | nextMarket :: _ => nextMarket.marketToken
    let (tokenOut, outputAmount) ← _swap env params
      { market, tokenIn := tokenOut, amountIn := outputAmount, receiver
        -- only convert the native token on the last swap if needed
        shouldUnwrapNativeToken := nextMarkets.isEmpty && params.shouldUnwrapNativeToken }
    swapAlongPath params nextMarkets tokenOut outputAmount

/-- The output token and amount. -/
def swap (params : SwapParams) : Tx (Address × Nat) :=
  if params.amountIn = 0 then pure (params.tokenIn, params.amountIn)
  else
    match params.swapPathMarkets with
    | [] => do
      revertIf (params.amountIn < params.minOutputAmount)
        (.InsufficientOutputAmount params.amountIn params.minOutputAmount)
      (if params.bank.address ≠ params.receiver then
        params.bank.transferOut env params.tokenIn params.receiver params.amountIn
          params.shouldUnwrapNativeToken
      else pure ())
      pure (params.tokenIn, params.amountIn)
    | firstMarket :: _ => do
      (if params.bank.address ≠ firstMarket.marketToken then
        params.bank.transferOut env params.tokenIn firstMarket.marketToken params.amountIn false
      else pure ())
      let (tokenOut, outputAmount) ←
        swapAlongPath env params params.swapPathMarkets params.tokenIn params.amountIn
      params.swapPathMarkets.forM fun market =>
        writeStore (·.setBool (Keys.swapPathMarketFlagKey market.marketToken) false)
      revertIf (outputAmount < params.minOutputAmount)
        (.InsufficientSwapOutputAmount outputAmount params.minOutputAmount)
      pure (tokenOut, outputAmount)

end GmxSynthetics.SwapUtils
