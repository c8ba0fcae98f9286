import GmxSynthetics.Market.Market

/-!
# Orders

`Order.sol` and the pure part of `BaseOrderUtils.sol`: order types, trigger prices and
the execution price. Price impact moves the execution price so that the pnl of the
executed size changes by exactly the impact.
-/

namespace GmxSynthetics

open Evm

inductive OrderType where
  | MarketSwap
  | LimitSwap
  | MarketIncrease
  | LimitIncrease
  | MarketDecrease
  | LimitDecrease
  | StopLossDecrease
  | Liquidation
  deriving DecidableEq, Repr

/-- `uint256(orderType)`. -/
def OrderType.toUint : OrderType → Nat
  | MarketSwap => 0
  | LimitSwap => 1
  | MarketIncrease => 2
  | LimitIncrease => 3
  | MarketDecrease => 4
  | LimitDecrease => 5
  | StopLossDecrease => 6
  | Liquidation => 7

/-- `OrderType(value)`; only values of `toUint` are ever stored. -/
def OrderType.ofUint : Nat → OrderType
  | 1 => LimitSwap
  | 2 => MarketIncrease
  | 3 => LimitIncrease
  | 4 => MarketDecrease
  | 5 => LimitDecrease
  | 6 => StopLossDecrease
  | 7 => Liquidation
  | _ => MarketSwap

@[simp] theorem OrderType.ofUint_toUint (orderType : OrderType) :
    OrderType.ofUint orderType.toUint = orderType := by
  cases orderType <;> rfl

inductive SecondaryOrderType where
  | None
  | Adl
  deriving DecidableEq, Repr

inductive DecreasePositionSwapType where
  | NoSwap
  | SwapPnlTokenToCollateralToken
  | SwapCollateralTokenToPnlToken
  deriving DecidableEq, Repr

def DecreasePositionSwapType.toUint : DecreasePositionSwapType → Nat
  | NoSwap => 0
  | SwapPnlTokenToCollateralToken => 1
  | SwapCollateralTokenToPnlToken => 2

/-- Only values of `toUint` are ever stored. -/
def DecreasePositionSwapType.ofUint : Nat → DecreasePositionSwapType
  | 1 => SwapPnlTokenToCollateralToken
  | 2 => SwapCollateralTokenToPnlToken
  | _ => NoSwap

@[simp] theorem DecreasePositionSwapType.ofUint_toUint (swapType : DecreasePositionSwapType) :
    DecreasePositionSwapType.ofUint swapType.toUint = swapType := by
  cases swapType <;> rfl

/-- `Order.Props`. -/
structure Order where
  account : Address
  receiver : Address
  callbackContract : Address
  uiFeeReceiver : Address
  market : Address
  initialCollateralToken : Address
  swapPath : List Address
  orderType : OrderType
  decreasePositionSwapType : DecreasePositionSwapType
  sizeDeltaUsd : Nat
  initialCollateralDeltaAmount : Nat
  triggerPrice : Nat
  acceptablePrice : Nat
  executionFee : Nat
  callbackGasLimit : Nat
  minOutputAmount : Nat
  updatedAtBlock : Nat
  isLong : Bool
  shouldUnwrapNativeToken : Bool
  isFrozen : Bool
  deriving DecidableEq, Repr

/-- What an absent key reads as. -/
def Order.empty : Order where
  account := 0
  receiver := 0
  callbackContract := 0
  uiFeeReceiver := 0
  market := 0
  initialCollateralToken := 0
  swapPath := []
  orderType := .MarketSwap
  decreasePositionSwapType := .NoSwap
  sizeDeltaUsd := 0
  initialCollateralDeltaAmount := 0
  triggerPrice := 0
  acceptablePrice := 0
  executionFee := 0
  callbackGasLimit := 0
  minOutputAmount := 0
  updatedAtBlock := 0
  isLong := false
  shouldUnwrapNativeToken := false
  isFrozen := false

namespace BaseOrderUtils

structure ExecuteOrderParams where
  orderVault : Address
  key : StoreKey
  order : Order
  swapPathMarkets : List Market
  minOracleBlockNumbers : List Nat
  maxOracleBlockNumbers : List Nat
  market : Market
  keeper : Address
  secondaryOrderType : SecondaryOrderType

def isMarketOrder : OrderType → Bool
  | .MarketSwap | .MarketIncrease | .MarketDecrease => true
  | _ => false

def isSwapOrder : OrderType → Bool
  | .MarketSwap | .LimitSwap => true
  | _ => false

def isIncreaseOrder : OrderType → Bool
  | .MarketIncrease | .LimitIncrease => true
  | _ => false

def isDecreaseOrder : OrderType → Bool
  | .MarketDecrease | .LimitDecrease | .StopLossDecrease | .Liquidation => true
  | _ => false

def isPositionOrder (orderType : OrderType) : Bool :=
  isIncreaseOrder orderType || isDecreaseOrder orderType

def isLiquidationOrder (orderType : OrderType) : Bool := decide (orderType = .Liquidation)

def validateOrderTriggerPrice (env : Env) (indexToken : Address) (orderType : OrderType)
    (triggerPrice : Nat) (isLong : Bool) : Result Unit :=
  if isSwapOrder orderType || isMarketOrder orderType || isLiquidationOrder orderType then pure ()
  else do
    let primaryPrice ← Oracle.getPrimaryPrice env indexToken
    let invalidOrderPrices : Errors :=
      .InvalidOrderPrices primaryPrice.min primaryPrice.max triggerPrice orderType.toUint
    match orderType with
    | .LimitIncrease =>
      let ok := if isLong then decide (primaryPrice.max ≤ triggerPrice)
        else decide (primaryPrice.min ≥ triggerPrice)
      revertIf (¬ ok) invalidOrderPrices
    | .LimitDecrease =>
      let ok := if isLong then decide (primaryPrice.min ≥ triggerPrice)
        else decide (primaryPrice.max ≤ triggerPrice)
      revertIf (¬ ok) invalidOrderPrices
    | .StopLossDecrease =>
      let ok := if isLong then decide (primaryPrice.min ≤ triggerPrice)
        else decide (primaryPrice.max ≥ triggerPrice)
      revertIf (¬ ok) invalidOrderPrices
    | _ => revert .UnsupportedOrderType

/-- The price at which an order executes; reverts when it is worse than the acceptable
price. -/
def getExecutionPrice (primaryPrice : Price) (sizeDeltaUsd : Nat) (priceImpactUsd : Int)
    (acceptablePrice : Nat) (isLong isIncrease : Bool) : Result Nat := do
  let shouldUseMaxPrice := if isIncrease then isLong else !isLong
  let price := primaryPrice.pickPrice shouldUseMaxPrice
  let shouldPriceBeSmaller := if isIncrease then isLong else !isLong
  let shouldFlipPriceImpactUsd := if isIncrease then !isLong else isLong
  let priceImpactUsdForPriceAdjustment ←
    (if shouldFlipPriceImpactUsd then negInt priceImpactUsd else pure priceImpactUsd : Result Int)
  let exceeds ← negationExceeds priceImpactUsdForPriceAdjustment sizeDeltaUsd
  revertIf (exceeds = true)
    (.PriceImpactLargerThanOrderSize priceImpactUsdForPriceAdjustment sizeDeltaUsd)
  -- adjust price by price impact
  let price ← (if sizeDeltaUsd > 0 then do
      div (← mul price sizeDeltaUsd)
        (← Calc.sumReturnUint256 sizeDeltaUsd priceImpactUsdForPriceAdjustment)
    else pure price : Result Nat)
  if (shouldPriceBeSmaller = true ∧ price ≤ acceptablePrice) ∨
      (shouldPriceBeSmaller = false ∧ price ≥ acceptablePrice) then pure price
  else revert (.OrderNotFulfillableDueToPriceImpact price acceptablePrice)

def validateNonEmptyOrder (order : Order) : Result Unit := do
  revertIf (order.account = 0) .EmptyOrder
  revertIf (order.sizeDeltaUsd = 0 ∧ order.initialCollateralDeltaAmount = 0) .EmptyOrder

end BaseOrderUtils

end GmxSynthetics
