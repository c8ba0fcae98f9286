import GmxSynthetics.Exchange.RequestUtils
import GmxSynthetics.Position.DecreasePosition
import GmxSynthetics.Position.IncreasePosition

/-!
# Processing an order

`IncreaseOrderUtils.sol`, `DecreaseOrderUtils.sol` and `SwapOrderUtils.sol`: the prices an
order may be executed with, the swap along its path, and the position it opens or
reduces.
-/

namespace GmxSynthetics

open Evm BaseOrderUtils PositionUtils

variable (env : Env)

-- ---------------------------------------------------------------------------
-- IncreaseOrderUtils.sol
-- ---------------------------------------------------------------------------

namespace IncreaseOrderUtils

def validateOracleBlockNumbers (minOracleBlockNumbers maxOracleBlockNumbers : List Nat)
    (orderType : OrderType) (orderUpdatedAtBlock : Nat) : Result Unit :=
  match orderType with
  | .MarketIncrease => OracleUtils.validateBlockNumberWithinRange minOracleBlockNumbers
      maxOracleBlockNumbers orderUpdatedAtBlock
  | .LimitIncrease =>
    OracleUtils.validateBlockNumbersNotBefore minOracleBlockNumbers orderUpdatedAtBlock
  | _ => revert .UnsupportedOrderType

/-- The stored position, or a fresh one for the order. -/
def initPosition (dataStore : DataStore) (order : Order) (collateralToken : Address) :
    Result Position :=
  let positionKey :=
    getPositionKey order.account order.market collateralToken order.isLong
  let position := PositionStoreUtils.get dataStore positionKey
  if position.account = 0 then do
    revertIf (position.market ≠ 0 ∨ position.collateralToken ≠ 0) .UnexpectedPositionState
    pure { position with
      account := order.account
      market := order.market
      collateralToken
      isLong := order.isLong }
  else pure position

def processOrder (params : ExecuteOrderParams) : Tx Unit := do
  let order := params.order
  viewStore fun dataStore => MarketUtils.validatePositionMarket dataStore params.market
  let (collateralToken, collateralIncrementAmount) ← SwapUtils.swap env
    { bank := { address := params.orderVault, isStrict := true }
      tokenIn := order.initialCollateralToken
      amountIn := order.initialCollateralDeltaAmount
      swapPathMarkets := params.swapPathMarkets
      minOutputAmount := order.minOutputAmount
      receiver := order.market
      uiFeeReceiver := order.uiFeeReceiver
      shouldUnwrapNativeToken := false }
  MarketUtils.validateMarketCollateralToken params.market collateralToken
  let position ← viewStore fun dataStore => initPosition dataStore order collateralToken
  validateOracleBlockNumbers params.minOracleBlockNumbers params.maxOracleBlockNumbers
    order.orderType order.updatedAtBlock
  let _ ← IncreasePositionUtils.increasePosition env
    { market := params.market, order, orderKey := params.key, position
      positionKey := getPositionKey order.account order.market collateralToken order.isLong
      secondaryOrderType := params.secondaryOrderType }
    collateralIncrementAmount

end IncreaseOrderUtils

-- ---------------------------------------------------------------------------
-- DecreaseOrderUtils.sol
-- ---------------------------------------------------------------------------

namespace DecreaseOrderUtils

def validateOracleBlockNumbers (minOracleBlockNumbers maxOracleBlockNumbers : List Nat)
    (orderType : OrderType) (orderUpdatedAtBlock positionIncreasedAtBlock
      positionDecreasedAtBlock : Nat) : Result Unit :=
  match orderType with
  | .MarketDecrease => OracleUtils.validateBlockNumberWithinRange minOracleBlockNumbers
      maxOracleBlockNumbers orderUpdatedAtBlock
  | .LimitDecrease | .StopLossDecrease =>
    OracleUtils.validateBlockNumbersNotBefore minOracleBlockNumbers
      (if orderUpdatedAtBlock > positionIncreasedAtBlock then orderUpdatedAtBlock
        else positionIncreasedAtBlock)
  | .Liquidation =>
    OracleUtils.validateBlockNumbersNotBefore minOracleBlockNumbers
      (if positionIncreasedAtBlock > positionDecreasedAtBlock then positionIncreasedAtBlock
        else positionDecreasedAtBlock)
  | _ => revert .UnsupportedOrderType

def _validateOutputAmount (outputToken : Address) (outputAmount minOutputAmount : Nat) :
    Result Unit := do
  let outputTokenPrice ← Oracle.getPrimaryPrice env outputToken
  let outputUsd ← mul outputAmount outputTokenPrice.min
  revertIf (outputUsd < minOutputAmount) (.InsufficientOutputAmount outputUsd minOutputAmount)

/-- The overload for two outputs. -/
def _validateOutputAmounts (outputToken : Address) (outputAmount : Nat)
    (secondaryOutputToken : Address) (secondaryOutputAmount minOutputAmount : Nat) :
    Result Unit := do
  let outputTokenPrice ← Oracle.getPrimaryPrice env outputToken
  let outputUsd ← mul outputAmount outputTokenPrice.min
  let secondaryOutputTokenPrice ← Oracle.getPrimaryPrice env secondaryOutputToken
  let secondaryOutputUsd ← mul secondaryOutputAmount secondaryOutputTokenPrice.min
  let totalOutputUsd ← add outputUsd secondaryOutputUsd
  revertIf (totalOutputUsd < minOutputAmount)
    (.InsufficientOutputAmount totalOutputUsd minOutputAmount)

/-- Pays out the result of a decrease: two tokens go to the receiver as they are, one token is
swapped along the order's path, and is paid out unswapped when that swap fails. -/
def payOutput (params : ExecuteOrderParams)
    (result : DecreasePositionUtils.DecreasePositionResult) : Tx Unit :=
  let order := params.order
  if result.secondaryOutputAmount > 0 then do
    _validateOutputAmounts env result.outputToken result.outputAmount
      result.secondaryOutputToken result.secondaryOutputAmount order.minOutputAmount
    Bank.transferOutUnwrapping env order.market result.outputToken order.receiver
      result.outputAmount order.shouldUnwrapNativeToken
    Bank.transferOutUnwrapping env order.market result.secondaryOutputToken order.receiver
      result.secondaryOutputAmount order.shouldUnwrapNativeToken
  else do
    let swapped ← Tx.attempt (SwapUtils.swap env
      { bank := { address := order.market, isStrict := false }
        tokenIn := result.outputToken
        amountIn := result.outputAmount
        swapPathMarkets := params.swapPathMarkets
        minOutputAmount := 0
        receiver := order.receiver
        uiFeeReceiver := order.uiFeeReceiver
        shouldUnwrapNativeToken := order.shouldUnwrapNativeToken })
    match swapped with
    | .ok (tokenOut, swapOutputAmount) =>
      _validateOutputAmount env tokenOut swapOutputAmount order.minOutputAmount
    | .error _ =>
      _validateOutputAmount env result.outputToken result.outputAmount order.minOutputAmount
      Bank.transferOutUnwrapping env order.market result.outputToken order.receiver
        result.outputAmount order.shouldUnwrapNativeToken

def processOrder (params : ExecuteOrderParams) : Tx Unit := do
  let order := params.order
  viewStore fun dataStore => MarketUtils.validatePositionMarket dataStore params.market
  let positionKey :=
    getPositionKey order.account order.market order.initialCollateralToken order.isLong
  let position ← readStore fun dataStore => PositionStoreUtils.get dataStore positionKey
  validateNonEmptyPosition position
  validateOracleBlockNumbers params.minOracleBlockNumbers params.maxOracleBlockNumbers
    order.orderType order.updatedAtBlock position.increasedAtBlock position.decreasedAtBlock
  let (result, _) ← DecreasePositionUtils.decreasePosition env
    { market := params.market, order, orderKey := params.key, position, positionKey
      secondaryOrderType := params.secondaryOrderType }
  payOutput env params result

end DecreaseOrderUtils

-- ---------------------------------------------------------------------------
-- SwapOrderUtils.sol
-- ---------------------------------------------------------------------------

namespace SwapOrderUtils

def validateOracleBlockNumbers (minOracleBlockNumbers maxOracleBlockNumbers : List Nat)
    (orderType : OrderType) (orderUpdatedAtBlock : Nat) : Result Unit :=
  match orderType with
  | .MarketSwap => OracleUtils.validateBlockNumberWithinRange minOracleBlockNumbers
      maxOracleBlockNumbers orderUpdatedAtBlock
  | .LimitSwap =>
    OracleUtils.validateBlockNumbersNotBefore minOracleBlockNumbers orderUpdatedAtBlock
  | _ => revert .UnsupportedOrderType

def processOrder (params : ExecuteOrderParams) : Tx Unit := do
  let order := params.order
  revertIf (order.market ≠ 0) .UnexpectedMarket
  validateOracleBlockNumbers params.minOracleBlockNumbers params.maxOracleBlockNumbers
    order.orderType order.updatedAtBlock
  let _ ← SwapUtils.swap env
    { bank := { address := params.orderVault, isStrict := true }
      tokenIn := order.initialCollateralToken
      amountIn := order.initialCollateralDeltaAmount
      swapPathMarkets := params.swapPathMarkets
      minOutputAmount := order.minOutputAmount
      receiver := order.receiver
      uiFeeReceiver := order.uiFeeReceiver
      shouldUnwrapNativeToken := order.shouldUnwrapNativeToken }

end SwapOrderUtils

end GmxSynthetics
