import GmxSynthetics.Deposit.DepositStore
import GmxSynthetics.Exchange.RequestUtils
import GmxSynthetics.Gas.GasUtils
import GmxSynthetics.Market.PoolValue
import GmxSynthetics.Swap.SwapUtils

/-!
# Deposits from creation to execution

`DepositUtils.sol` and `ExecuteDepositUtils.sol`. A deposit takes two tokens and an
execution fee out of what was sent to the deposit vault. Executing it swaps the tokens
into the tokens of the market and mints market tokens for each of the two amounts.
-/

namespace GmxSynthetics

open Evm

/-- `DepositUtils.CreateDepositParams`. -/
structure DepositUtils.CreateDepositParams where
  receiver : Address
  callbackContract : Address
  uiFeeReceiver : Address
  market : Address
  initialLongToken : Address
  initialShortToken : Address
  longTokenSwapPath : List Address
  shortTokenSwapPath : List Address
  minMarketTokens : Nat
  shouldUnwrapNativeToken : Bool
  executionFee : Nat
  callbackGasLimit : Nat
  deriving DecidableEq, Repr

variable (env : Env)

-- ---------------------------------------------------------------------------
-- DepositUtils.sol
-- ---------------------------------------------------------------------------

namespace DepositUtils

/-- The long amount, the short amount and the execution fee of a new deposit. When both tokens
are the same, everything that arrived is the long amount. -/
def recordDepositAmounts (depositVault : Address) (params : CreateDepositParams) :
    Tx (Nat × Nat × Nat) := do
  let initialLongTokenAmount ← StrictBank.recordTransferIn depositVault params.initialLongToken
  let initialShortTokenAmount ← StrictBank.recordTransferIn depositVault params.initialShortToken
  let wnt ← readStore TokenUtils.wnt
  if params.initialLongToken = wnt then
    pure (← sub initialLongTokenAmount params.executionFee, initialShortTokenAmount,
      params.executionFee)
  else if params.initialShortToken = wnt then
    pure (initialLongTokenAmount, ← sub initialShortTokenAmount params.executionFee,
      params.executionFee)
  else
    let wntAmount ← StrictBank.recordTransferIn depositVault wnt
    revertIf (wntAmount < params.executionFee)
      (.InsufficientWntAmountForExecutionFee wntAmount params.executionFee)
    pure (initialLongTokenAmount, initialShortTokenAmount, wntAmount)

/-- The deposit that is stored for a request. -/
def makeDeposit (account marketToken : Address) (params : CreateDepositParams)
    (initialLongTokenAmount initialShortTokenAmount executionFee : Nat) : Deposit where
  account := account
  receiver := params.receiver
  callbackContract := params.callbackContract
  uiFeeReceiver := params.uiFeeReceiver
  market := marketToken
  initialLongToken := params.initialLongToken
  initialShortToken := params.initialShortToken
  longTokenSwapPath := params.longTokenSwapPath
  shortTokenSwapPath := params.shortTokenSwapPath
  initialLongTokenAmount := initialLongTokenAmount
  initialShortTokenAmount := initialShortTokenAmount
  minMarketTokens := params.minMarketTokens
  updatedAtBlock := env.blockNumber
  executionFee := executionFee
  callbackGasLimit := params.callbackGasLimit
  shouldUnwrapNativeToken := params.shouldUnwrapNativeToken

def createDeposit (depositVault account : Address) (params : CreateDepositParams) :
    Tx StoreKey := do
  AccountUtils.validateAccount account
  let market ← viewStore fun dataStore => MarketUtils.getEnabledMarket dataStore params.market
  viewStore fun dataStore => MarketUtils.validateSwapPath dataStore params.longTokenSwapPath
  viewStore fun dataStore => MarketUtils.validateSwapPath dataStore params.shortTokenSwapPath
  let (initialLongTokenAmount, initialShortTokenAmount, executionFee) ←
    recordDepositAmounts depositVault params
  revertIf (initialLongTokenAmount = 0 ∧ initialShortTokenAmount = 0) .EmptyDepositAmounts
  AccountUtils.validateReceiver params.receiver
  let deposit := makeDeposit env account market.marketToken params initialLongTokenAmount
    initialShortTokenAmount executionFee
  viewStore fun dataStore =>
    CallbackUtils.validateCallbackGasLimit dataStore deposit.callbackGasLimit
  viewStore fun dataStore => do
    let estimatedGasLimit ← GasUtils.estimateExecuteDepositGasLimit dataStore deposit
    GasUtils.validateExecutionFee env dataStore estimatedGasLimit executionFee
  let key ← NonceUtils.getNextKey
  writeStore (DepositStoreUtils.set · key deposit)
  pure key

/-- Take a deposit out of the store. -/
def removeDeposit (key : StoreKey) (account : Address) : Tx Unit := do
  let dataStore ← viewStore fun dataStore => DepositStoreUtils.remove dataStore key account
  writeStore fun _ => dataStore

def cancelDeposit (depositVault : Address) (key : StoreKey) (keeper : Address) : Tx Unit := do
  let deposit ← readStore (DepositStoreUtils.get · key)
  revertIf (deposit.account = 0) .EmptyDeposit
  revertIf (deposit.initialLongTokenAmount = 0 ∧ deposit.initialShortTokenAmount = 0)
    .EmptyDepositAmounts
  removeDeposit key deposit.account
  (if deposit.initialLongTokenAmount > 0 then
    StrictBank.transferOutUnwrapping env depositVault deposit.initialLongToken deposit.account
      deposit.initialLongTokenAmount deposit.shouldUnwrapNativeToken
  else pure ())
  (if deposit.initialShortTokenAmount > 0 then
    StrictBank.transferOutUnwrapping env depositVault deposit.initialShortToken deposit.account
      deposit.initialShortTokenAmount deposit.shouldUnwrapNativeToken
  else pure ())
  GasUtils.payExecutionFee env depositVault deposit.executionFee keeper deposit.account

end DepositUtils

-- ---------------------------------------------------------------------------
-- ExecuteDepositUtils.sol
-- ---------------------------------------------------------------------------

namespace ExecuteDepositUtils

structure ExecuteDepositParams where
  depositVault : Address
  key : StoreKey
  minOracleBlockNumbers : List Nat
  maxOracleBlockNumbers : List Nat
  keeper : Address

/-- The parameters of the deposit of one of the two tokens. -/
structure _ExecuteDepositParams where
  market : Market
  receiver : Address
  uiFeeReceiver : Address
  tokenIn : Address
  tokenOut : Address
  tokenInPrice : Price
  tokenOutPrice : Price
  amount : Nat
  priceImpactUsd : Int

/-- Swaps a deposited token into a token of the market. -/
def swap (params : ExecuteDepositParams) (swapPath : List Address) (initialToken : Address)
    (inputAmount : Nat) (market expectedOutputToken uiFeeReceiver : Address) : Tx Nat := do
  let swapPathMarkets ← viewStore fun dataStore =>
    MarketUtils.getEnabledMarkets dataStore swapPath
  let (outputToken, outputAmount) ← SwapUtils.swap env
    { bank := { address := params.depositVault, isStrict := true }
      tokenIn := initialToken
      amountIn := inputAmount
      swapPathMarkets
      minOutputAmount := 0
      receiver := market
      uiFeeReceiver
      shouldUnwrapNativeToken := false }
  revertIf (outputToken ≠ expectedOutputToken)
    (.InvalidSwapOutputToken outputToken expectedOutputToken)
  Tx.view fun w => MarketUtils.validateMarketTokenBalances w swapPathMarkets
  pure outputAmount

/-- The branch of `_executeDeposit` on the sign of the price impact: what is left of the deposited
amount, and the market tokens minted for a positive impact. -/
def applyPriceImpact (_params : _ExecuteDepositParams) (amountAfterFees poolValue
    marketTokensSupply : Nat) : Tx (Nat × Nat) := do
  let market := _params.market
  if _params.priceImpactUsd > 0 then
    let positiveImpactAmount ← MarketUtils.applySwapImpactWithCap market.marketToken
      _params.tokenOut _params.tokenOutPrice _params.priceImpactUsd
    let usdValue ← mul (← toUint256 positiveImpactAmount) _params.tokenOutPrice.max
    let mintAmount ← MarketUtils.usdToMarketTokenAmount usdValue poolValue marketTokensSupply
    -- deposit the token out, that was withdrawn from the impact pool, to mint market tokens
    let _ ← MarketUtils.applyDeltaToPoolAmount market.marketToken _params.tokenOut
      positiveImpactAmount
    viewStore fun dataStore => MarketUtils.validatePoolAmount dataStore market _params.tokenOut
    pure (amountAfterFees, mintAmount)
  else
    let negativeImpactAmount ← MarketUtils.applySwapImpactWithCap market.marketToken
      _params.tokenIn _params.tokenInPrice _params.priceImpactUsd
    pure (← sub amountAfterFees (← toUint256 (← negInt negativeImpactAmount)), 0)

/-- Deposits one of the two tokens; returns the amount of market tokens minted for it. -/
def _executeDeposit (_params : _ExecuteDepositParams) : Tx Nat := do
  let market := _params.market
  let tokenIn := _params.tokenIn
  let fees ← viewStore fun dataStore => SwapPricingUtils.getSwapFees dataStore
    market.marketToken _params.amount _params.uiFeeReceiver
  FeeUtils.incrementClaimableFeeAmount market.marketToken tokenIn fees.feeReceiverAmount
  FeeUtils.incrementClaimableUiFeeAmount _params.uiFeeReceiver market.marketToken tokenIn
    fees.uiFeeAmount
  let poolValueInfo ← viewStore fun dataStore => do
    MarketUtils.getPoolValueInfo env dataStore market
      (← Oracle.getPrimaryPrice env market.indexToken)
      (if tokenIn = market.longToken then _params.tokenInPrice else _params.tokenOutPrice)
      (if tokenIn = market.shortToken then _params.tokenInPrice else _params.tokenOutPrice)
      .MAX_PNL_FACTOR_FOR_DEPOSITS true
  revertIf (poolValueInfo.poolValue < 0) (.InvalidPoolValueForDeposit poolValueInfo.poolValue)
  let poolValue ← toUint256 poolValueInfo.poolValue
  let marketTokensSupply ← Tx.read fun w => w.totalSupply market.marketToken
  let (amountAfterFees, mintAmountForImpact) ←
    applyPriceImpact _params fees.amountAfterFees poolValue marketTokensSupply
  let mintAmount ← add mintAmountForImpact (← MarketUtils.usdToMarketTokenAmount
    (← mul amountAfterFees _params.tokenInPrice.min) poolValue marketTokensSupply)
  let _ ← MarketUtils.applyDeltaToPoolAmount market.marketToken tokenIn
    (← toInt256 (← add amountAfterFees fees.feeAmountForPool))
  viewStore fun dataStore => MarketUtils.validatePoolAmount dataStore market tokenIn
  MarketToken.mint market.marketToken _params.receiver mintAmount
  pure mintAmount

/-- Deposits the two swapped amounts, each with its share of the price impact. -/
def depositAmounts (deposit : Deposit) (market : Market) (prices : MarketPrices)
    (longTokenAmount shortTokenAmount : Nat) : Tx Nat := do
  let longTokenUsd ← mul longTokenAmount (← prices.longTokenPrice.midPrice)
  let shortTokenUsd ← mul shortTokenAmount (← prices.shortTokenPrice.midPrice)
  let impactParams : SwapPricingUtils.GetPriceImpactUsdParams :=
    { market, tokenA := market.longToken, tokenB := market.shortToken
      priceForTokenA := ← prices.longTokenPrice.midPrice
      priceForTokenB := ← prices.shortTokenPrice.midPrice
      usdDeltaForTokenA := ← toInt256 longTokenUsd
      usdDeltaForTokenB := ← toInt256 shortTokenUsd }
  let priceImpactUsd ← viewStore fun dataStore =>
    SwapPricingUtils.getPriceImpactUsd env dataStore impactParams
  let mintAmountForLong ← (if longTokenAmount > 0 then do
      let totalUsd ← toInt256 (← add longTokenUsd shortTokenUsd)
      let longPriceImpactUsd ←
        divInt (← mulInt priceImpactUsd (← toInt256 longTokenUsd)) totalUsd
      _executeDeposit env
        { market, receiver := deposit.receiver, uiFeeReceiver := deposit.uiFeeReceiver
          tokenIn := market.longToken, tokenOut := market.shortToken
          tokenInPrice := prices.longTokenPrice, tokenOutPrice := prices.shortTokenPrice
          amount := longTokenAmount, priceImpactUsd := longPriceImpactUsd }
    else pure 0 : Tx Nat)
  let mintAmountForShort ← (if shortTokenAmount > 0 then do
      let totalUsd ← toInt256 (← add longTokenUsd shortTokenUsd)
      let shortPriceImpactUsd ←
        divInt (← mulInt priceImpactUsd (← toInt256 shortTokenUsd)) totalUsd
      _executeDeposit env
        { market, receiver := deposit.receiver, uiFeeReceiver := deposit.uiFeeReceiver
          tokenIn := market.shortToken, tokenOut := market.longToken
          tokenInPrice := prices.shortTokenPrice, tokenOutPrice := prices.longTokenPrice
          amount := shortTokenAmount, priceImpactUsd := shortPriceImpactUsd }
    else pure 0 : Tx Nat)
  add mintAmountForLong mintAmountForShort

def executeDeposit (params : ExecuteDepositParams) : Tx Unit := do
  let deposit ← readStore (DepositStoreUtils.get · params.key)
  DepositUtils.removeDeposit params.key deposit.account
  revertIf (deposit.account = 0) .EmptyDeposit
  OracleUtils.validateBlockNumberWithinRange params.minOracleBlockNumbers
    params.maxOracleBlockNumbers deposit.updatedAtBlock
  let market ← viewStore fun dataStore => MarketUtils.getEnabledMarket dataStore deposit.market
  let prices ← MarketUtils.getMarketPrices env market
  viewStore fun dataStore => MarketUtils.validateMaxPnl dataStore market prices
    .MAX_PNL_FACTOR_FOR_DEPOSITS .MAX_PNL_FACTOR_FOR_DEPOSITS
  let longTokenAmount ← swap env params deposit.longTokenSwapPath deposit.initialLongToken
    deposit.initialLongTokenAmount market.marketToken market.longToken deposit.uiFeeReceiver
  let shortTokenAmount ← swap env params deposit.shortTokenSwapPath deposit.initialShortToken
    deposit.initialShortTokenAmount market.marketToken market.shortToken deposit.uiFeeReceiver
  revertIf (longTokenAmount = 0 ∧ shortTokenAmount = 0) .EmptyDepositAmountsAfterSwap
  let receivedMarketTokens ←
    depositAmounts env deposit market prices longTokenAmount shortTokenAmount
  revertIf (receivedMarketTokens < deposit.minMarketTokens)
    (.MinMarketTokens receivedMarketTokens deposit.minMarketTokens)
  Tx.view fun w => MarketUtils.validateMarketTokenBalance w market
  GasUtils.payExecutionFee env params.depositVault deposit.executionFee params.keeper
    deposit.account

end ExecuteDepositUtils

end GmxSynthetics
