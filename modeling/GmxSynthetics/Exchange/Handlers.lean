import GmxSynthetics.Deposit.DepositUtils
import GmxSynthetics.Order.OrderUtils
import GmxSynthetics.Withdrawal.WithdrawalUtils

/-!
# The handlers and the router

`OrderHandler.sol`, `DepositHandler.sol`, `WithdrawalHandler.sol`, `LiquidationHandler.sol`,
`AdlHandler.sol` with the order constructors they use, and the owner checks of
`ExchangeRouter.sol`. A keeper's execution runs in an inner call; when that reverts, the
handler undoes it and cancels or freezes the request, or reverts as a whole when the
error is one that a later execution may not meet.

Roles other than the frozen order keeper's are left out: any account may be a keeper.
-/

namespace GmxSynthetics

open Evm BaseOrderUtils

/-- The contracts' addresses. -/
structure Deployment where
  orderVault : Address
  depositVault : Address
  withdrawalVault : Address
  orderHandler : Address
  depositHandler : Address
  withdrawalHandler : Address
  liquidationHandler : Address
  adlHandler : Address
  deriving DecidableEq, Repr

variable (env : Env) (deployment : Deployment)

/-- `ErrorUtils.revertWithCustomError`. -/
def ErrorUtils.revertWithCustomError {α : Type} (reason : Revert Errors) : Tx α :=
  fun _ => .error reason

/-- The inner call of a handler: it may also run out of gas. -/
def innerCall (x : Tx Unit) : Tx (Except (Revert Errors) Unit) :=
  Tx.attempt (if env.executionGasSuffices then x else fun _ => .error (.message ""))

-- ---------------------------------------------------------------------------
-- BaseOrderHandler.sol
-- ---------------------------------------------------------------------------

namespace BaseOrderHandler

def _getExecuteOrderParams (dataStore : DataStore) (key : StoreKey)
    (oracleParams : OracleBlockNumbers) (keeper : Address)
    (secondaryOrderType : SecondaryOrderType) : Result ExecuteOrderParams := do
  let order := OrderStoreUtils.get dataStore key
  let swapPathMarkets ← MarketUtils.getEnabledMarkets dataStore order.swapPath
  let market ← (if order.market ≠ 0 then MarketUtils.getEnabledMarket dataStore order.market
    else pure ⟨0, 0, 0, 0⟩ : Result Market)
  pure
    { orderVault := deployment.orderVault
      key, order, swapPathMarkets
      minOracleBlockNumbers := oracleParams.minOracleBlockNumbers
      maxOracleBlockNumbers := oracleParams.maxOracleBlockNumbers
      market, keeper, secondaryOrderType }

end BaseOrderHandler

-- ---------------------------------------------------------------------------
-- OrderHandler.sol
-- ---------------------------------------------------------------------------

namespace OrderHandler

def createOrder (account : Address) (params : CreateOrderParams) : Tx StoreKey := do
  viewStore fun dataStore => FeatureUtils.validateFeature dataStore
    (Keys.createOrderFeatureDisabledKey deployment.orderHandler params.orderType.toUint)
  OrderUtils.createOrder env deployment.orderVault account params

/-- The order is the stored one, which the router has read. -/
def updateOrder (key : StoreKey) (sizeDeltaUsd acceptablePrice triggerPrice minOutputAmount : Nat)
    (order : Order) : Tx Unit := do
  viewStore fun dataStore => FeatureUtils.validateFeature dataStore
    (Keys.updateOrderFeatureDisabledKey deployment.orderHandler order.orderType.toUint)
  revertIf (isMarketOrder order.orderType = true) (.OrderNotUpdatable order.orderType.toUint)
  -- frozen orders have lost their execution fee, so it can be topped up
  let wnt ← readStore TokenUtils.wnt
  let receivedWnt ← StrictBank.recordTransferIn deployment.orderVault wnt
  let order :=
    { order with
      sizeDeltaUsd, triggerPrice, acceptablePrice, minOutputAmount
      isFrozen := false
      executionFee := ← add order.executionFee receivedWnt }
  viewStore fun dataStore => do
    let estimatedGasLimit ← GasUtils.estimateExecuteOrderGasLimit dataStore order
    GasUtils.validateExecutionFee env dataStore estimatedGasLimit order.executionFee
  let order := { order with updatedAtBlock := env.blockNumber }
  validateNonEmptyOrder order
  writeStore (OrderStoreUtils.set · key order)

def cancelOrder (key : StoreKey) : Tx Unit := do
  let order ← readStore (OrderStoreUtils.get · key)
  viewStore fun dataStore => FeatureUtils.validateFeature dataStore
    (Keys.cancelOrderFeatureDisabledKey deployment.orderHandler order.orderType.toUint)
  (if isMarketOrder order.orderType then viewStore fun dataStore =>
      ExchangeUtils.validateRequestCancellation env dataStore order.updatedAtBlock "Order"
    else pure ())
  OrderUtils.cancelOrder env deployment.orderVault key order.account

def _validateFrozenOrderKeeper (keeper : Address) : Result Unit :=
  revertIf (¬ env.isFrozenOrderKeeper keeper) (.InvalidKeeperForFrozenOrder keeper)

def _executeOrder (key : StoreKey) (oracleParams : OracleBlockNumbers) (keeper : Address) :
    Tx Unit := do
  let params ← viewStore fun dataStore => BaseOrderHandler._getExecuteOrderParams deployment
    dataStore key oracleParams keeper .None
  (if params.order.isFrozen = true ∨ params.order.orderType = .LimitSwap then
    _validateFrozenOrderKeeper env keeper
  else pure () : Result Unit)
  viewStore fun dataStore => FeatureUtils.validateFeature dataStore
    (Keys.executeOrderFeatureDisabledKey deployment.orderHandler params.order.orderType.toUint)
  OrderUtils.executeOrder env params

/-- The errors for which the whole execution reverts and the order stays as it is. -/
def isRetryableError (order : Order) (error : Revert Errors) : Bool :=
  OracleUtils.isOracleError error || order.isFrozen ||
    (match error with
    | .custom .EmptyPosition => !isMarketOrder order.orderType
    | .custom .EmptyOrder => true
    | .custom (.DisabledFeature _) => true
    | .custom (.InvalidKeeperForFrozenOrder _) => true
    | .custom .UnsupportedOrderType => true
    | .custom (.InvalidOrderPrices _ _ _ _) => true
    | _ => false)

/-- The errors for which an order is cancelled; for the others it is frozen. -/
def isCancellingError (order : Order) (error : Revert Errors) : Bool :=
  isMarketOrder order.orderType ||
    (match error with
    | .custom (.InvalidPositionMarket _) => true
    | .custom (.InvalidCollateralTokenForMarket _ _) => true
    | .custom (.InvalidPositionSizeValues _ _) => true
    | _ => false)

def _handleOrderError (key : StoreKey) (keeper : Address) (error : Revert Errors) :
    Tx Unit := do
  let order ← readStore (OrderStoreUtils.get · key)
  if isRetryableError order error then ErrorUtils.revertWithCustomError error
  else if isCancellingError order error then
    OrderUtils.cancelOrder env deployment.orderVault key keeper
  else OrderUtils.freezeOrder env deployment.orderVault key keeper

def executeOrder (key : StoreKey) (oracleParams : OracleBlockNumbers) (keeper : Address) :
    Tx Unit := do
  let _ ← viewStore fun dataStore => GasUtils.getExecutionGas dataStore env.startingGas
  let executed ← innerCall env (_executeOrder env deployment key oracleParams keeper)
  match executed with
  | .ok _ => pure ()
  | .error error => _handleOrderError env deployment key keeper error

end OrderHandler

-- ---------------------------------------------------------------------------
-- DepositHandler.sol
-- ---------------------------------------------------------------------------

/-- The errors of a deposit or a withdrawal for which its execution reverts as a whole. -/
def isRetryableRequestError (error : Revert Errors) : Bool :=
  OracleUtils.isOracleError error || FeatureUtils.isDisabledFeatureError error

namespace DepositHandler

def createDeposit (account : Address) (params : DepositUtils.CreateDepositParams) :
    Tx StoreKey := do
  viewStore fun dataStore => FeatureUtils.validateFeature dataStore
    (Keys.createDepositFeatureDisabledKey deployment.depositHandler)
  DepositUtils.createDeposit env deployment.depositVault account params

def cancelDeposit (key : StoreKey) : Tx Unit := do
  let deposit ← readStore (DepositStoreUtils.get · key)
  viewStore fun dataStore => FeatureUtils.validateFeature dataStore
    (Keys.cancelDepositFeatureDisabledKey deployment.depositHandler)
  viewStore fun dataStore => ExchangeUtils.validateRequestCancellation env dataStore
    deposit.updatedAtBlock "Deposit"
  DepositUtils.cancelDeposit env deployment.depositVault key deposit.account

def _executeDeposit (key : StoreKey) (oracleParams : OracleBlockNumbers) (keeper : Address) :
    Tx Unit := do
  viewStore fun dataStore => FeatureUtils.validateFeature dataStore
    (Keys.executeDepositFeatureDisabledKey deployment.depositHandler)
  ExecuteDepositUtils.executeDeposit env
    { depositVault := deployment.depositVault
      key
      minOracleBlockNumbers := oracleParams.minOracleBlockNumbers
      maxOracleBlockNumbers := oracleParams.maxOracleBlockNumbers
      keeper }

def executeDeposit (key : StoreKey) (oracleParams : OracleBlockNumbers) (keeper : Address) :
    Tx Unit := do
  let _ ← viewStore fun dataStore => GasUtils.getExecutionGas dataStore env.startingGas
  let executed ← innerCall env (_executeDeposit env deployment key oracleParams keeper)
  match executed with
  | .ok _ => pure ()
  | .error error =>
    if isRetryableRequestError error then ErrorUtils.revertWithCustomError error
    else DepositUtils.cancelDeposit env deployment.depositVault key keeper

end DepositHandler

-- ---------------------------------------------------------------------------
-- WithdrawalHandler.sol
-- ---------------------------------------------------------------------------

namespace WithdrawalHandler

def createWithdrawal (account : Address) (params : WithdrawalUtils.CreateWithdrawalParams) :
    Tx StoreKey := do
  viewStore fun dataStore => FeatureUtils.validateFeature dataStore
    (Keys.createWithdrawalFeatureDisabledKey deployment.withdrawalHandler)
  WithdrawalUtils.createWithdrawal env deployment.withdrawalVault account params

def cancelWithdrawal (key : StoreKey) : Tx Unit := do
  let withdrawal ← readStore (WithdrawalStoreUtils.get · key)
  viewStore fun dataStore => FeatureUtils.validateFeature dataStore
    (Keys.cancelWithdrawalFeatureDisabledKey deployment.withdrawalHandler)
  viewStore fun dataStore => ExchangeUtils.validateRequestCancellation env dataStore
    withdrawal.updatedAtBlock "Withdrawal"
  WithdrawalUtils.cancelWithdrawal env deployment.withdrawalVault key withdrawal.account

def _executeWithdrawal (key : StoreKey) (oracleParams : OracleBlockNumbers) (keeper : Address) :
    Tx Unit := do
  viewStore fun dataStore => FeatureUtils.validateFeature dataStore
    (Keys.executeWithdrawalFeatureDisabledKey deployment.withdrawalHandler)
  WithdrawalUtils.executeWithdrawal env
    { withdrawalVault := deployment.withdrawalVault
      key
      minOracleBlockNumbers := oracleParams.minOracleBlockNumbers
      maxOracleBlockNumbers := oracleParams.maxOracleBlockNumbers
      keeper }

def executeWithdrawal (key : StoreKey) (oracleParams : OracleBlockNumbers) (keeper : Address) :
    Tx Unit := do
  let _ ← viewStore fun dataStore => GasUtils.getExecutionGas dataStore env.startingGas
  let executed ← innerCall env (_executeWithdrawal env deployment key oracleParams keeper)
  match executed with
  | .ok _ => pure ()
  | .error error =>
    if isRetryableRequestError error then ErrorUtils.revertWithCustomError error
    else WithdrawalUtils.cancelWithdrawal env deployment.withdrawalVault key keeper

end WithdrawalHandler

-- ---------------------------------------------------------------------------
-- Liquidations
-- ---------------------------------------------------------------------------

/-- The order with which a keeper closes part of a position, without slippage and with the profit
swapped to the collateral token, so that it can pay for the fees. -/
def makeKeeperOrder (account market : Address) (position : Position) (orderType : OrderType)
    (sizeDeltaUsd updatedAtBlock : Nat) : Order where
  account := account
  receiver := account
  callbackContract := 0
  uiFeeReceiver := 0
  market := market
  initialCollateralToken := position.collateralToken
  swapPath := []
  orderType := orderType
  decreasePositionSwapType := .SwapPnlTokenToCollateralToken
  sizeDeltaUsd := sizeDeltaUsd
  initialCollateralDeltaAmount := 0
  triggerPrice := 0
  acceptablePrice := if position.isLong then 0 else uintBound - 1
  executionFee := 0
  callbackGasLimit := 0
  minOutputAmount := 0
  updatedAtBlock := updatedAtBlock
  isLong := position.isLong
  shouldUnwrapNativeToken := true
  isFrozen := false

def LiquidationUtils.createLiquidationOrder (account market collateralToken : Address)
    (isLong : Bool) : Tx StoreKey := do
  let position ← readStore fun dataStore => PositionStoreUtils.get dataStore
    (PositionUtils.getPositionKey account market collateralToken isLong)
  let order :=
    makeKeeperOrder account market position .Liquidation position.sizeInUsd env.blockNumber
  let key ← NonceUtils.getNextKey
  writeStore (OrderStoreUtils.set · key order)
  pure key

def LiquidationHandler.executeLiquidation (account market collateralToken : Address)
    (isLong : Bool) (oracleParams : OracleBlockNumbers) (keeper : Address) : Tx Unit := do
  let key ←
    LiquidationUtils.createLiquidationOrder env account market collateralToken isLong
  let params ← viewStore fun dataStore => BaseOrderHandler._getExecuteOrderParams deployment
    dataStore key oracleParams keeper .None
  viewStore fun dataStore => FeatureUtils.validateFeature dataStore
    (Keys.executeOrderFeatureDisabledKey deployment.liquidationHandler
      params.order.orderType.toUint)
  OrderUtils.executeOrder env params

-- ---------------------------------------------------------------------------
-- Auto-deleveraging
-- ---------------------------------------------------------------------------

namespace AdlUtils

def getLatestAdlBlock (dataStore : DataStore) (market : Address) (isLong : Bool) : Nat :=
  dataStore.getUint (Keys.latestAdlBlockKey market isLong)

def getIsAdlEnabled (dataStore : DataStore) (market : Address) (isLong : Bool) : Bool :=
  dataStore.getBool (Keys.isAdlEnabledKey market isLong)

def validateAdl (dataStore : DataStore) (market : Address) (isLong : Bool)
    (maxOracleBlockNumbers : List Nat) : Result Unit := do
  revertIf (¬ getIsAdlEnabled dataStore market isLong) .AdlNotEnabled
  OracleUtils.validateBlockNumbersNotBefore maxOracleBlockNumbers
    (getLatestAdlBlock dataStore market isLong)

/-- The overload of `MarketUtils.isPnlFactorExceeded` on a market's address. -/
def isPnlFactorExceeded (dataStore : DataStore) (market : Address) (isLong : Bool)
    (pnlFactorType : Base) : Result (Bool × Int × Nat) := do
  let _market ← MarketUtils.getEnabledMarket dataStore market
  let prices ← MarketUtils.getMarketPrices env _market
  MarketUtils.isPnlFactorExceeded dataStore _market prices isLong pnlFactorType

/-- The overload of `MarketUtils.getPnlToPoolFactor` on a market's address. -/
def getPnlToPoolFactor (dataStore : DataStore) (market : Address) (isLong maximize : Bool) :
    Result Int := do
  let _market ← MarketUtils.getEnabledMarket dataStore market
  let prices ← MarketUtils.getMarketPrices env _market
  MarketUtils.getPnlToPoolFactor dataStore _market prices isLong maximize

def updateAdlState (market : Address) (isLong : Bool) (maxOracleBlockNumbers : List Nat) :
    Tx Unit := do
  viewStore fun dataStore => OracleUtils.validateBlockNumbersNotBefore maxOracleBlockNumbers
    (getLatestAdlBlock dataStore market isLong)
  let (shouldEnableAdl, _, _) ← viewStore fun dataStore =>
    isPnlFactorExceeded env dataStore market isLong .MAX_PNL_FACTOR_FOR_ADL
  writeStore (·.setBool (Keys.isAdlEnabledKey market isLong) shouldEnableAdl)
  writeStore (·.setUint (Keys.latestAdlBlockKey market isLong) env.blockNumber)

def createAdlOrder (account market collateralToken : Address) (isLong : Bool)
    (sizeDeltaUsd updatedAtBlock : Nat) : Tx StoreKey := do
  let position ← readStore fun dataStore => PositionStoreUtils.get dataStore
    (PositionUtils.getPositionKey account market collateralToken isLong)
  revertIf (sizeDeltaUsd > position.sizeInUsd)
    (.InvalidSizeDeltaForAdl sizeDeltaUsd position.sizeInUsd)
  let order :=
    makeKeeperOrder account market position .MarketDecrease sizeDeltaUsd updatedAtBlock
  let key ← NonceUtils.getNextKey
  writeStore (OrderStoreUtils.set · key order)
  pure key

end AdlUtils

namespace AdlHandler

/-- `minOracleBlockNumbers[0]`. -/
def firstBlockNumber (minOracleBlockNumbers : List Nat) : Result Nat :=
  match minOracleBlockNumbers with
  | [] => .error (.panic .indexOutOfBounds)
  | blockNumber :: _ => pure blockNumber

def executeAdl (account market collateralToken : Address) (isLong : Bool) (sizeDeltaUsd : Nat)
    (oracleParams : OracleBlockNumbers) (keeper : Address) : Tx Unit := do
  viewStore fun dataStore =>
    AdlUtils.validateAdl dataStore market isLong oracleParams.maxOracleBlockNumbers
  let (shouldAllowAdl, pnlToPoolFactor, maxPnlFactorForAdl) ← viewStore fun dataStore =>
    AdlUtils.isPnlFactorExceeded env dataStore market isLong .MAX_PNL_FACTOR_FOR_ADL
  revertIf (¬ shouldAllowAdl) (.AdlNotRequired pnlToPoolFactor maxPnlFactorForAdl)
  let updatedAtBlock ← firstBlockNumber oracleParams.minOracleBlockNumbers
  let key ← AdlUtils.createAdlOrder account market collateralToken isLong sizeDeltaUsd
    updatedAtBlock
  let params ← viewStore fun dataStore => BaseOrderHandler._getExecuteOrderParams deployment
    dataStore key oracleParams keeper .Adl
  viewStore fun dataStore => FeatureUtils.validateFeature dataStore
    (Keys.executeAdlFeatureDisabledKey deployment.adlHandler params.order.orderType.toUint)
  OrderUtils.executeOrder env params
  -- validate that the ratio of pending pnl to pool value was decreased
  let nextPnlToPoolFactor ← viewStore fun dataStore =>
    AdlUtils.getPnlToPoolFactor env dataStore market isLong true
  revertIf (nextPnlToPoolFactor ≥ pnlToPoolFactor)
    (.InvalidAdl nextPnlToPoolFactor pnlToPoolFactor)
  let minPnlFactorForAdl ← readStore fun dataStore =>
    MarketUtils.getMinPnlFactorAfterAdl dataStore market isLong
  revertIf (nextPnlToPoolFactor < (← toInt256 minPnlFactorForAdl))
    (.PnlOvercorrected nextPnlToPoolFactor minPnlFactorForAdl)

end AdlHandler

-- ---------------------------------------------------------------------------
-- ExchangeRouter.sol
-- ---------------------------------------------------------------------------

namespace ExchangeRouter

def updateOrder (msgSender : Address) (key : StoreKey)
    (sizeDeltaUsd acceptablePrice triggerPrice minOutputAmount : Nat) : Tx Unit := do
  let order ← readStore (OrderStoreUtils.get · key)
  revertIf (order.account ≠ msgSender) (.Unauthorized msgSender "account for updateOrder")
  OrderHandler.updateOrder env deployment key sizeDeltaUsd acceptablePrice triggerPrice
    minOutputAmount order

def cancelOrder (msgSender : Address) (key : StoreKey) : Tx Unit := do
  let order ← readStore (OrderStoreUtils.get · key)
  revertIf (order.account = 0) .EmptyOrder
  revertIf (order.account ≠ msgSender) (.Unauthorized msgSender "account for cancelOrder")
  OrderHandler.cancelOrder env deployment key

def cancelDeposit (msgSender : Address) (key : StoreKey) : Tx Unit := do
  let deposit ← readStore (DepositStoreUtils.get · key)
  revertIf (deposit.account = 0) .EmptyDeposit
  revertIf (deposit.account ≠ msgSender) (.Unauthorized msgSender "account for cancelDeposit")
  DepositHandler.cancelDeposit env deployment key

def cancelWithdrawal (msgSender : Address) (key : StoreKey) : Tx Unit := do
  let withdrawal ← readStore (WithdrawalStoreUtils.get · key)
  revertIf (withdrawal.account ≠ msgSender)
    (.Unauthorized msgSender "account for cancelWithdrawal")
  WithdrawalHandler.cancelWithdrawal env deployment key

end ExchangeRouter

end GmxSynthetics
