import GmxSynthetics.Order.Order

/-!
# The order store

`OrderStoreUtils.sol`. A stored order is spread over one slot per field, and its key is
in the list of all orders and in that of its account.
-/

namespace GmxSynthetics.OrderStoreUtils

def get (dataStore : DataStore) (key : StoreKey) : Order :=
  if dataStore.containsBytes32 (.base .ORDER_LIST) key then
    { account := dataStore.getAddress (.field key .ACCOUNT)
      receiver := dataStore.getAddress (.field key .RECEIVER)
      callbackContract := dataStore.getAddress (.field key .CALLBACK_CONTRACT)
      uiFeeReceiver := dataStore.getAddress (.field key .UI_FEE_RECEIVER)
      market := dataStore.getAddress (.field key .MARKET)
      initialCollateralToken := dataStore.getAddress (.field key .INITIAL_COLLATERAL_TOKEN)
      swapPath := dataStore.getAddressArray (.field key .SWAP_PATH)
      orderType := .ofUint (dataStore.getUint (.field key .ORDER_TYPE))
      decreasePositionSwapType :=
        .ofUint (dataStore.getUint (.field key .DECREASE_POSITION_SWAP_TYPE))
      sizeDeltaUsd := dataStore.getUint (.field key .SIZE_DELTA_USD)
      initialCollateralDeltaAmount :=
        dataStore.getUint (.field key .INITIAL_COLLATERAL_DELTA_AMOUNT)
      triggerPrice := dataStore.getUint (.field key .TRIGGER_PRICE)
      acceptablePrice := dataStore.getUint (.field key .ACCEPTABLE_PRICE)
      executionFee := dataStore.getUint (.field key .EXECUTION_FEE)
      callbackGasLimit := dataStore.getUint (.field key .CALLBACK_GAS_LIMIT)
      minOutputAmount := dataStore.getUint (.field key .MIN_OUTPUT_AMOUNT)
      updatedAtBlock := dataStore.getUint (.field key .UPDATED_AT_BLOCK)
      isLong := dataStore.getBool (.field key .IS_LONG)
      shouldUnwrapNativeToken := dataStore.getBool (.field key .SHOULD_UNWRAP_NATIVE_TOKEN)
      isFrozen := dataStore.getBool (.field key .IS_FROZEN) }
  else Order.empty

/-- The field slots of an order. -/
def writeFields (dataStore : DataStore) (key : StoreKey) (order : Order) : DataStore :=
  let dataStore := dataStore.setAddress (.field key .ACCOUNT) order.account
  let dataStore := dataStore.setAddress (.field key .RECEIVER) order.receiver
  let dataStore := dataStore.setAddress (.field key .CALLBACK_CONTRACT) order.callbackContract
  let dataStore := dataStore.setAddress (.field key .UI_FEE_RECEIVER) order.uiFeeReceiver
  let dataStore := dataStore.setAddress (.field key .MARKET) order.market
  let dataStore :=
    dataStore.setAddress (.field key .INITIAL_COLLATERAL_TOKEN) order.initialCollateralToken
  let dataStore := dataStore.setAddressArray (.field key .SWAP_PATH) order.swapPath
  let dataStore := dataStore.setUint (.field key .ORDER_TYPE) order.orderType.toUint
  let dataStore := dataStore.setUint (.field key .DECREASE_POSITION_SWAP_TYPE)
    order.decreasePositionSwapType.toUint
  let dataStore := dataStore.setUint (.field key .SIZE_DELTA_USD) order.sizeDeltaUsd
  let dataStore := dataStore.setUint (.field key .INITIAL_COLLATERAL_DELTA_AMOUNT)
    order.initialCollateralDeltaAmount
  let dataStore := dataStore.setUint (.field key .TRIGGER_PRICE) order.triggerPrice
  let dataStore := dataStore.setUint (.field key .ACCEPTABLE_PRICE) order.acceptablePrice
  let dataStore := dataStore.setUint (.field key .EXECUTION_FEE) order.executionFee
  let dataStore := dataStore.setUint (.field key .CALLBACK_GAS_LIMIT) order.callbackGasLimit
  let dataStore := dataStore.setUint (.field key .MIN_OUTPUT_AMOUNT) order.minOutputAmount
  let dataStore := dataStore.setUint (.field key .UPDATED_AT_BLOCK) order.updatedAtBlock
  let dataStore := dataStore.setBool (.field key .IS_LONG) order.isLong
  let dataStore :=
    dataStore.setBool (.field key .SHOULD_UNWRAP_NATIVE_TOKEN) order.shouldUnwrapNativeToken
  dataStore.setBool (.field key .IS_FROZEN) order.isFrozen

def set (dataStore : DataStore) (key : StoreKey) (order : Order) : DataStore :=
  let dataStore := dataStore.addBytes32 (.base .ORDER_LIST) key
  let dataStore := dataStore.addBytes32 (Keys.accountOrderListKey order.account) key
  writeFields dataStore key order

/-- Deleting the field slots writes the empty order into them. -/
def remove (dataStore : DataStore) (key : StoreKey) (account : Address) : Result DataStore := do
  revertIf (¬ dataStore.containsBytes32 (.base .ORDER_LIST) key) (.OrderNotFound key)
  let dataStore := dataStore.removeBytes32 (.base .ORDER_LIST) key
  let dataStore := dataStore.removeBytes32 (Keys.accountOrderListKey account) key
  pure (writeFields dataStore key Order.empty)

end GmxSynthetics.OrderStoreUtils
