import GmxSynthetics.Exchange.RequestUtils
import GmxSynthetics.Gas.GasUtils
import GmxSynthetics.Market.PoolValue
import GmxSynthetics.Swap.SwapUtils
import GmxSynthetics.Withdrawal.WithdrawalStore

/-!
# Withdrawals from creation to execution

`WithdrawalUtils.sol`. A withdrawal takes market tokens and an execution fee out of what
was sent to the withdrawal vault. Executing it burns the market tokens and sends their
share of the two pools, swapped if asked for, to the receiver.
-/

namespace GmxSynthetics

open Evm

/-- `WithdrawalUtils.CreateWithdrawalParams`. -/
structure WithdrawalUtils.CreateWithdrawalParams where
  receiver : Address
  callbackContract : Address
  uiFeeReceiver : Address
  market : Address
  longTokenSwapPath : List Address
  shortTokenSwapPath : List Address
  minLongTokenAmount : Nat
  minShortTokenAmount : Nat
  shouldUnwrapNativeToken : Bool
  executionFee : Nat
  callbackGasLimit : Nat
  deriving DecidableEq, Repr

namespace WithdrawalUtils

structure ExecuteWithdrawalParams where
  withdrawalVault : Address
  key : StoreKey
  minOracleBlockNumbers : List Nat
  maxOracleBlockNumbers : List Nat
  keeper : Address

variable (env : Env)

-- ---------------------------------------------------------------------------
-- Creation and cancellation
-- ---------------------------------------------------------------------------

/-- The withdrawal that is stored for a request. -/
def makeWithdrawal (account : Address) (params : CreateWithdrawalParams)
    (marketTokenAmount executionFee : Nat) : Withdrawal where
  account := account
  receiver := params.receiver
  callbackContract := params.callbackContract
  uiFeeReceiver := params.uiFeeReceiver
  market := params.market
  longTokenSwapPath := params.longTokenSwapPath
  shortTokenSwapPath := params.shortTokenSwapPath
  marketTokenAmount := marketTokenAmount
  minLongTokenAmount := params.minLongTokenAmount
  minShortTokenAmount := params.minShortTokenAmount
  updatedAtBlock := env.blockNumber
  executionFee := executionFee
  callbackGasLimit := params.callbackGasLimit
  shouldUnwrapNativeToken := params.shouldUnwrapNativeToken

def createWithdrawal (withdrawalVault account : Address) (params : CreateWithdrawalParams) :
    Tx StoreKey := do
  AccountUtils.validateAccount account
  let wnt ← readStore TokenUtils.wnt
  let wntAmount ← StrictBank.recordTransferIn withdrawalVault wnt
  revertIf (wntAmount < params.executionFee) (.InsufficientWntAmount wntAmount params.executionFee)
  AccountUtils.validateReceiver params.receiver
  let marketTokenAmount ← StrictBank.recordTransferIn withdrawalVault params.market
  revertIf (marketTokenAmount = 0) .EmptyWithdrawalAmount
  viewStore fun dataStore =>
    MarketUtils.validateEnabledMarket dataStore (MarketStoreUtils.get dataStore params.market)
  viewStore fun dataStore => MarketUtils.validateSwapPath dataStore params.longTokenSwapPath
  viewStore fun dataStore => MarketUtils.validateSwapPath dataStore params.shortTokenSwapPath
  let withdrawal := makeWithdrawal env account params marketTokenAmount wntAmount
  viewStore fun dataStore =>
    CallbackUtils.validateCallbackGasLimit dataStore withdrawal.callbackGasLimit
  viewStore fun dataStore => do
    let estimatedGasLimit ← GasUtils.estimateExecuteWithdrawalGasLimit dataStore withdrawal
    GasUtils.validateExecutionFee env dataStore estimatedGasLimit withdrawal.executionFee
  let key ← NonceUtils.getNextKey
  writeStore (WithdrawalStoreUtils.set · key withdrawal)
  pure key

/-- Take a withdrawal out of the store. -/
def removeWithdrawal (key : StoreKey) (account : Address) : Tx Unit := do
  let dataStore ← viewStore fun dataStore => WithdrawalStoreUtils.remove dataStore key account
  writeStore fun _ => dataStore

def cancelWithdrawal (withdrawalVault : Address) (key : StoreKey) (keeper : Address) :
    Tx Unit := do
  let withdrawal ← readStore (WithdrawalStoreUtils.get · key)
  revertIf (withdrawal.account = 0) .EmptyWithdrawal
  revertIf (withdrawal.marketTokenAmount = 0) .EmptyWithdrawalAmount
  removeWithdrawal key withdrawal.account
  StrictBank.transferOutUnwrapping env withdrawalVault withdrawal.market withdrawal.account
    withdrawal.marketTokenAmount false
  GasUtils.payExecutionFee env withdrawalVault withdrawal.executionFee keeper withdrawal.account

-- ---------------------------------------------------------------------------
-- Execution
-- ---------------------------------------------------------------------------

/-- The long and the short tokens that an amount of market tokens is worth. -/
def _getOutputAmounts (w : World) (market : Market) (prices : MarketPrices)
    (marketTokenAmount : Nat) : Result (Nat × Nat) := do
  let poolValueInfo ← MarketUtils.getPoolValueInfo env w.dataStore market
    (← Oracle.getPrimaryPrice env market.indexToken) prices.longTokenPrice
    prices.shortTokenPrice .MAX_PNL_FACTOR_FOR_WITHDRAWALS false
  revertIf (poolValueInfo.poolValue ≤ 0)
    (.InvalidPoolValueForWithdrawal poolValueInfo.poolValue)
  let poolValue ← toUint256 poolValueInfo.poolValue
  let marketTokensSupply := w.totalSupply market.marketToken
  let marketTokensUsd ←
    MarketUtils.marketTokenAmountToUsd marketTokenAmount poolValue marketTokensSupply
  let longTokenPoolAmount := MarketUtils.getPoolAmount w.dataStore market market.longToken
  let shortTokenPoolAmount := MarketUtils.getPoolAmount w.dataStore market market.shortToken
  let longTokenPoolUsd ← mul longTokenPoolAmount prices.longTokenPrice.max
  let shortTokenPoolUsd ← mul shortTokenPoolAmount prices.shortTokenPrice.max
  let totalPoolUsd ← add longTokenPoolUsd shortTokenPoolUsd
  let longTokenOutputUsd ← Precision.applyFraction marketTokensUsd longTokenPoolUsd totalPoolUsd
  let shortTokenOutputUsd ←
    Precision.applyFraction marketTokensUsd shortTokenPoolUsd totalPoolUsd
  pure (← div longTokenOutputUsd prices.longTokenPrice.max,
    ← div shortTokenOutputUsd prices.shortTokenPrice.max)

/-- Charges the fees on one of the two output amounts; returns what leaves the pool and what is
paid out. -/
def chargeFees (withdrawal : Withdrawal) (market token : Address) (outputAmount : Nat) :
    Tx (Nat × Nat) := do
  let fees ← viewStore fun dataStore =>
    SwapPricingUtils.getSwapFees dataStore market outputAmount withdrawal.uiFeeReceiver
  FeeUtils.incrementClaimableFeeAmount market token fees.feeReceiverAmount
  FeeUtils.incrementClaimableUiFeeAmount withdrawal.uiFeeReceiver market token fees.uiFeeAmount
  pure (← sub outputAmount fees.feeAmountForPool, fees.amountAfterFees)

/-- Swaps one of the two outputs and sends it to the receiver. -/
def swap (market tokenIn : Address) (amountIn : Nat) (swapPath : List Address)
    (minOutputAmount : Nat) (withdrawal : Withdrawal) : Tx Unit := do
  let swapPathMarkets ← viewStore fun dataStore =>
    MarketUtils.getEnabledMarkets dataStore swapPath
  let _ ← SwapUtils.swap env
    { bank := { address := market, isStrict := false }
      tokenIn, amountIn, swapPathMarkets, minOutputAmount
      receiver := withdrawal.receiver
      uiFeeReceiver := withdrawal.uiFeeReceiver
      shouldUnwrapNativeToken := withdrawal.shouldUnwrapNativeToken }
  Tx.view fun w => MarketUtils.validateMarketTokenBalances w swapPathMarkets

def _executeWithdrawal (params : ExecuteWithdrawalParams) (withdrawal : Withdrawal) :
    Tx Unit := do
  let market ← viewStore fun dataStore =>
    MarketUtils.getEnabledMarket dataStore withdrawal.market
  let prices ← MarketUtils.getMarketPrices env market
  let (longTokenOutputAmount, shortTokenOutputAmount) ← Tx.view fun w =>
    _getOutputAmounts env w market prices withdrawal.marketTokenAmount
  let (longTokenPoolAmountDelta, longTokenOutputAmount) ←
    chargeFees withdrawal market.marketToken market.longToken longTokenOutputAmount
  let (shortTokenPoolAmountDelta, shortTokenOutputAmount) ←
    chargeFees withdrawal market.marketToken market.shortToken shortTokenOutputAmount
  let _ ← MarketUtils.applyDeltaToPoolAmount market.marketToken market.longToken
    (← negInt (← toInt256 longTokenPoolAmountDelta))
  let _ ← MarketUtils.applyDeltaToPoolAmount market.marketToken market.shortToken
    (← negInt (← toInt256 shortTokenPoolAmountDelta))
  viewStore fun dataStore => MarketUtils.validateReserve dataStore market prices true
  viewStore fun dataStore => MarketUtils.validateReserve dataStore market prices false
  viewStore fun dataStore => MarketUtils.validateMaxPnl dataStore market prices
    .MAX_PNL_FACTOR_FOR_WITHDRAWALS .MAX_PNL_FACTOR_FOR_WITHDRAWALS
  MarketToken.burn market.marketToken params.withdrawalVault withdrawal.marketTokenAmount
  let _ ← StrictBank.syncTokenBalance params.withdrawalVault market.marketToken
  swap env market.marketToken market.longToken longTokenOutputAmount
    withdrawal.longTokenSwapPath withdrawal.minLongTokenAmount withdrawal
  swap env market.marketToken market.shortToken shortTokenOutputAmount
    withdrawal.shortTokenSwapPath withdrawal.minShortTokenAmount withdrawal
  Tx.view fun w => MarketUtils.validateMarketTokenBalance w market

def executeWithdrawal (params : ExecuteWithdrawalParams) : Tx Unit := do
  let withdrawal ← readStore (WithdrawalStoreUtils.get · params.key)
  removeWithdrawal params.key withdrawal.account
  revertIf (withdrawal.account = 0) .EmptyWithdrawal
  revertIf (withdrawal.marketTokenAmount = 0) .EmptyWithdrawalAmount
  OracleUtils.validateBlockNumberWithinRange params.minOracleBlockNumbers
    params.maxOracleBlockNumbers withdrawal.updatedAtBlock
  let marketTokensBalance ← Tx.read fun w =>
    w.balances withdrawal.market params.withdrawalVault
  revertIf (marketTokensBalance < withdrawal.marketTokenAmount)
    (.InsufficientMarketTokens marketTokensBalance withdrawal.marketTokenAmount)
  _executeWithdrawal env params withdrawal
  GasUtils.payExecutionFee env params.withdrawalVault withdrawal.executionFee params.keeper
    withdrawal.account

end WithdrawalUtils

end GmxSynthetics
