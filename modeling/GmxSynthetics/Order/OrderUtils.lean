import GmxSynthetics.Gas.GasUtils
import GmxSynthetics.Order.OrderStore
import GmxSynthetics.Order.ProcessOrder

/-!
# Orders from creation to execution

`OrderUtils.sol`. A swap or increase order takes its collateral out of what was sent to
the order vault; a decrease order names an amount. Every order takes its execution fee
from the vault's wrapped native tokens. Callbacks to the account are left out: their
reverts are caught, and the reentrancy guard keeps them out of the protocol.
-/

namespace GmxSynthetics

open Evm BaseOrderUtils

/-- `BaseOrderUtils.CreateOrderParams`, without the referral code. -/
structure BaseOrderUtils.CreateOrderParams where
  receiver : Address
  callbackContract : Address
  uiFeeReceiver : Address
  market : Address
  initialCollateralToken : Address
  swapPath : List Address
  sizeDeltaUsd : Nat
  initialCollateralDeltaAmount : Nat
  triggerPrice : Nat
  acceptablePrice : Nat
  executionFee : Nat
  callbackGasLimit : Nat
  minOutputAmount : Nat
  orderType : OrderType
  decreasePositionSwapType : DecreasePositionSwapType
  isLong : Bool
  shouldUnwrapNativeToken : Bool
  deriving DecidableEq, Repr

namespace OrderUtils

variable (env : Env)

/-- The execution fee of a request that sends it on its own: all wrapped native tokens that
have arrived. -/
def recordExecutionFee (vault executionFee : Nat) : Tx Nat := do
  let wnt ← readStore TokenUtils.wnt
  let wntAmount ← StrictBank.recordTransferIn vault wnt
  revertIf (wntAmount < executionFee) (.InsufficientWntAmountForExecutionFee wntAmount executionFee)
  pure wntAmount

/-- The collateral amount and the execution fee of a new order. -/
def recordOrderAmounts (orderVault : Address) (params : CreateOrderParams) : Tx (Nat × Nat) := do
  let wnt ← readStore TokenUtils.wnt
  match params.orderType with
  | .MarketSwap | .LimitSwap | .MarketIncrease | .LimitIncrease =>
    let initialCollateralDeltaAmount ←
      StrictBank.recordTransferIn orderVault params.initialCollateralToken
    if params.initialCollateralToken = wnt then
      revertIf (initialCollateralDeltaAmount < params.executionFee)
        (.InsufficientWntAmountForExecutionFee initialCollateralDeltaAmount params.executionFee)
      pure (← sub initialCollateralDeltaAmount params.executionFee, params.executionFee)
    else
      let executionFee ← recordExecutionFee orderVault params.executionFee
      pure (initialCollateralDeltaAmount, executionFee)
  | .MarketDecrease | .LimitDecrease | .StopLossDecrease =>
    let executionFee ← recordExecutionFee orderVault params.executionFee
    pure (params.initialCollateralDeltaAmount, executionFee)
  | .Liquidation => revert (.OrderTypeCannotBeCreated params.orderType.toUint)

/-- The order that is stored for a request. -/
def makeOrder (account : Address) (params : CreateOrderParams)
    (initialCollateralDeltaAmount executionFee : Nat) : Order where
  account := account
  receiver := params.receiver
  callbackContract := params.callbackContract
  uiFeeReceiver := params.uiFeeReceiver
  market := params.market
  initialCollateralToken := params.initialCollateralToken
  swapPath := params.swapPath
  orderType := params.orderType
  decreasePositionSwapType := params.decreasePositionSwapType
  sizeDeltaUsd := params.sizeDeltaUsd
  initialCollateralDeltaAmount := initialCollateralDeltaAmount
  triggerPrice := params.triggerPrice
  acceptablePrice := params.acceptablePrice
  executionFee := executionFee
  callbackGasLimit := params.callbackGasLimit
  minOutputAmount := params.minOutputAmount
  updatedAtBlock := env.blockNumber
  isLong := params.isLong
  shouldUnwrapNativeToken := params.shouldUnwrapNativeToken
  isFrozen := false

def createOrder (orderVault account : Address) (params : CreateOrderParams) : Tx StoreKey := do
  AccountUtils.validateAccount account
  let (initialCollateralDeltaAmount, executionFee) ← recordOrderAmounts orderVault params
  (if isPositionOrder params.orderType then viewStore fun dataStore =>
      MarketUtils.validatePositionMarket dataStore
        (MarketStoreUtils.get dataStore params.market)
    else pure ())
  viewStore fun dataStore => MarketUtils.validateSwapPath dataStore params.swapPath
  let order := makeOrder env account params initialCollateralDeltaAmount executionFee
  AccountUtils.validateReceiver order.receiver
  viewStore fun dataStore =>
    CallbackUtils.validateCallbackGasLimit dataStore order.callbackGasLimit
  viewStore fun dataStore => do
    let estimatedGasLimit ← GasUtils.estimateExecuteOrderGasLimit dataStore order
    GasUtils.validateExecutionFee env dataStore estimatedGasLimit order.executionFee
  let key ← NonceUtils.getNextKey
  validateNonEmptyOrder order
  writeStore (OrderStoreUtils.set · key order)
  pure key

def processOrder (params : ExecuteOrderParams) : Tx Unit :=
  if isIncreaseOrder params.order.orderType then IncreaseOrderUtils.processOrder env params
  else if isDecreaseOrder params.order.orderType then DecreaseOrderUtils.processOrder env params
  else if isSwapOrder params.order.orderType then SwapOrderUtils.processOrder env params
  else Tx.revert .UnsupportedOrderType

/-- Take an order out of the store. -/
def removeOrder (key : StoreKey) (account : Address) : Tx Unit := do
  let dataStore ← viewStore fun dataStore => OrderStoreUtils.remove dataStore key account
  writeStore fun _ => dataStore

def executeOrder (params : ExecuteOrderParams) : Tx Unit := do
  removeOrder params.key params.order.account
  validateNonEmptyOrder params.order
  validateOrderTriggerPrice env params.market.indexToken params.order.orderType
    params.order.triggerPrice params.order.isLong
  processOrder env params
  (if params.market.marketToken ≠ 0 then
    Tx.view fun w => MarketUtils.validateMarketTokenBalance w params.market
  else pure ())
  Tx.view fun w => MarketUtils.validateMarketTokenBalances w params.swapPathMarkets
  -- the execution fee of liquidation and ADL orders is zero
  GasUtils.payExecutionFee env params.orderVault params.order.executionFee params.keeper
    params.order.account

def cancelOrder (orderVault : Address) (key : StoreKey) (keeper : Address) : Tx Unit := do
  let order ← readStore (OrderStoreUtils.get · key)
  validateNonEmptyOrder order
  (if (isIncreaseOrder order.orderType = true ∨ isSwapOrder order.orderType = true) ∧
      order.initialCollateralDeltaAmount > 0 then
    StrictBank.transferOutUnwrapping env orderVault order.initialCollateralToken order.account
      order.initialCollateralDeltaAmount order.shouldUnwrapNativeToken
  else pure ())
  removeOrder key order.account
  GasUtils.payExecutionFee env orderVault order.executionFee keeper order.account

/-- A frozen order stays in the store without an execution fee. -/
def freezeOrder (orderVault : Address) (key : StoreKey) (keeper : Address) : Tx Unit := do
  let order ← readStore (OrderStoreUtils.get · key)
  validateNonEmptyOrder order
  revertIf (order.isFrozen = true) .OrderAlreadyFrozen
  let executionFee := order.executionFee
  writeStore (OrderStoreUtils.set · key { order with executionFee := 0, isFrozen := true })
  GasUtils.payExecutionFee env orderVault executionFee keeper order.account

end OrderUtils

end GmxSynthetics
