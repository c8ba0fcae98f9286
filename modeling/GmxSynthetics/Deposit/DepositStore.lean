import GmxSynthetics.Data.DataStore

/-!
# Deposits

`Deposit.sol` and `DepositStoreUtils.sol`.
-/

namespace GmxSynthetics

/-- `Deposit.Props`. -/
structure Deposit where
  account : Address
  receiver : Address
  callbackContract : Address
  uiFeeReceiver : Address
  market : Address
  initialLongToken : Address
  initialShortToken : Address
  longTokenSwapPath : List Address
  shortTokenSwapPath : List Address
  initialLongTokenAmount : Nat
  initialShortTokenAmount : Nat
  minMarketTokens : Nat
  updatedAtBlock : Nat
  executionFee : Nat
  callbackGasLimit : Nat
  shouldUnwrapNativeToken : Bool
  deriving DecidableEq, Repr

/-- What an absent key reads as. -/
def Deposit.empty : Deposit where
  account := 0
  receiver := 0
  callbackContract := 0
  uiFeeReceiver := 0
  market := 0
  initialLongToken := 0
  initialShortToken := 0
  longTokenSwapPath := []
  shortTokenSwapPath := []
  initialLongTokenAmount := 0
  initialShortTokenAmount := 0
  minMarketTokens := 0
  updatedAtBlock := 0
  executionFee := 0
  callbackGasLimit := 0
  shouldUnwrapNativeToken := false

namespace DepositStoreUtils

def get (dataStore : DataStore) (key : StoreKey) : Deposit :=
  if dataStore.containsBytes32 (.base .DEPOSIT_LIST) key then
    { account := dataStore.getAddress (.field key .ACCOUNT)
      receiver := dataStore.getAddress (.field key .RECEIVER)
      callbackContract := dataStore.getAddress (.field key .CALLBACK_CONTRACT)
      uiFeeReceiver := dataStore.getAddress (.field key .UI_FEE_RECEIVER)
      market := dataStore.getAddress (.field key .MARKET)
      initialLongToken := dataStore.getAddress (.field key .INITIAL_LONG_TOKEN)
      initialShortToken := dataStore.getAddress (.field key .INITIAL_SHORT_TOKEN)
      longTokenSwapPath := dataStore.getAddressArray (.field key .LONG_TOKEN_SWAP_PATH)
      shortTokenSwapPath := dataStore.getAddressArray (.field key .SHORT_TOKEN_SWAP_PATH)
      initialLongTokenAmount := dataStore.getUint (.field key .INITIAL_LONG_TOKEN_AMOUNT)
      initialShortTokenAmount := dataStore.getUint (.field key .INITIAL_SHORT_TOKEN_AMOUNT)
      minMarketTokens := dataStore.getUint (.field key .MIN_MARKET_TOKENS)
      updatedAtBlock := dataStore.getUint (.field key .UPDATED_AT_BLOCK)
      executionFee := dataStore.getUint (.field key .EXECUTION_FEE)
      callbackGasLimit := dataStore.getUint (.field key .CALLBACK_GAS_LIMIT)
      shouldUnwrapNativeToken := dataStore.getBool (.field key .SHOULD_UNWRAP_NATIVE_TOKEN) }
  else Deposit.empty

/-- The field slots of a deposit. -/
def writeFields (dataStore : DataStore) (key : StoreKey) (deposit : Deposit) : DataStore :=
  let dataStore := dataStore.setAddress (.field key .ACCOUNT) deposit.account
  let dataStore := dataStore.setAddress (.field key .RECEIVER) deposit.receiver
  let dataStore := dataStore.setAddress (.field key .CALLBACK_CONTRACT) deposit.callbackContract
  let dataStore := dataStore.setAddress (.field key .UI_FEE_RECEIVER) deposit.uiFeeReceiver
  let dataStore := dataStore.setAddress (.field key .MARKET) deposit.market
  let dataStore := dataStore.setAddress (.field key .INITIAL_LONG_TOKEN) deposit.initialLongToken
  let dataStore :=
    dataStore.setAddress (.field key .INITIAL_SHORT_TOKEN) deposit.initialShortToken
  let dataStore :=
    dataStore.setAddressArray (.field key .LONG_TOKEN_SWAP_PATH) deposit.longTokenSwapPath
  let dataStore :=
    dataStore.setAddressArray (.field key .SHORT_TOKEN_SWAP_PATH) deposit.shortTokenSwapPath
  let dataStore :=
    dataStore.setUint (.field key .INITIAL_LONG_TOKEN_AMOUNT) deposit.initialLongTokenAmount
  let dataStore :=
    dataStore.setUint (.field key .INITIAL_SHORT_TOKEN_AMOUNT) deposit.initialShortTokenAmount
  let dataStore := dataStore.setUint (.field key .MIN_MARKET_TOKENS) deposit.minMarketTokens
  let dataStore := dataStore.setUint (.field key .UPDATED_AT_BLOCK) deposit.updatedAtBlock
  let dataStore := dataStore.setUint (.field key .EXECUTION_FEE) deposit.executionFee
  let dataStore := dataStore.setUint (.field key .CALLBACK_GAS_LIMIT) deposit.callbackGasLimit
  dataStore.setBool (.field key .SHOULD_UNWRAP_NATIVE_TOKEN) deposit.shouldUnwrapNativeToken

def set (dataStore : DataStore) (key : StoreKey) (deposit : Deposit) : DataStore :=
  let dataStore := dataStore.addBytes32 (.base .DEPOSIT_LIST) key
  let dataStore := dataStore.addBytes32 (Keys.accountDepositListKey deposit.account) key
  writeFields dataStore key deposit

/-- Deleting the field slots writes the empty deposit into them. -/
def remove (dataStore : DataStore) (key : StoreKey) (account : Address) : Result DataStore := do
  revertIf (¬ dataStore.containsBytes32 (.base .DEPOSIT_LIST) key) (.DepositNotFound key)
  let dataStore := dataStore.removeBytes32 (.base .DEPOSIT_LIST) key
  let dataStore := dataStore.removeBytes32 (Keys.accountDepositListKey account) key
  pure (writeFields dataStore key Deposit.empty)

end DepositStoreUtils

end GmxSynthetics
