import GmxSynthetics.Data.DataStore

/-!
# Withdrawals

`Withdrawal.sol` and `WithdrawalStoreUtils.sol`.
-/

namespace GmxSynthetics

/-- `Withdrawal.Props`. -/
structure Withdrawal where
  account : Address
  receiver : Address
  callbackContract : Address
  uiFeeReceiver : Address
  market : Address
  longTokenSwapPath : List Address
  shortTokenSwapPath : List Address
  marketTokenAmount : Nat
  minLongTokenAmount : Nat
  minShortTokenAmount : Nat
  updatedAtBlock : Nat
  executionFee : Nat
  callbackGasLimit : Nat
  shouldUnwrapNativeToken : Bool
  deriving DecidableEq, Repr

/-- What an absent key reads as. -/
def Withdrawal.empty : Withdrawal where
  account := 0
  receiver := 0
  callbackContract := 0
  uiFeeReceiver := 0
  market := 0
  longTokenSwapPath := []
  shortTokenSwapPath := []
  marketTokenAmount := 0
  minLongTokenAmount := 0
  minShortTokenAmount := 0
  updatedAtBlock := 0
  executionFee := 0
  callbackGasLimit := 0
  shouldUnwrapNativeToken := false

namespace WithdrawalStoreUtils

def get (dataStore : DataStore) (key : StoreKey) : Withdrawal :=
  if dataStore.containsBytes32 (.base .WITHDRAWAL_LIST) key then
    { account := dataStore.getAddress (.field key .ACCOUNT)
      receiver := dataStore.getAddress (.field key .RECEIVER)
      callbackContract := dataStore.getAddress (.field key .CALLBACK_CONTRACT)
      uiFeeReceiver := dataStore.getAddress (.field key .UI_FEE_RECEIVER)
      market := dataStore.getAddress (.field key .MARKET)
      longTokenSwapPath := dataStore.getAddressArray (.field key .LONG_TOKEN_SWAP_PATH)
      shortTokenSwapPath := dataStore.getAddressArray (.field key .SHORT_TOKEN_SWAP_PATH)
      marketTokenAmount := dataStore.getUint (.field key .MARKET_TOKEN_AMOUNT)
      minLongTokenAmount := dataStore.getUint (.field key .MIN_LONG_TOKEN_AMOUNT)
      minShortTokenAmount := dataStore.getUint (.field key .MIN_SHORT_TOKEN_AMOUNT)
      updatedAtBlock := dataStore.getUint (.field key .UPDATED_AT_BLOCK)
      executionFee := dataStore.getUint (.field key .EXECUTION_FEE)
      callbackGasLimit := dataStore.getUint (.field key .CALLBACK_GAS_LIMIT)
      shouldUnwrapNativeToken := dataStore.getBool (.field key .SHOULD_UNWRAP_NATIVE_TOKEN) }
  else Withdrawal.empty

/-- The field slots of a withdrawal. -/
def writeFields (dataStore : DataStore) (key : StoreKey) (withdrawal : Withdrawal) : DataStore :=
  let dataStore := dataStore.setAddress (.field key .ACCOUNT) withdrawal.account
  let dataStore := dataStore.setAddress (.field key .RECEIVER) withdrawal.receiver
  let dataStore :=
    dataStore.setAddress (.field key .CALLBACK_CONTRACT) withdrawal.callbackContract
  let dataStore := dataStore.setAddress (.field key .UI_FEE_RECEIVER) withdrawal.uiFeeReceiver
  let dataStore := dataStore.setAddress (.field key .MARKET) withdrawal.market
  let dataStore :=
    dataStore.setAddressArray (.field key .LONG_TOKEN_SWAP_PATH) withdrawal.longTokenSwapPath
  let dataStore :=
    dataStore.setAddressArray (.field key .SHORT_TOKEN_SWAP_PATH) withdrawal.shortTokenSwapPath
  let dataStore := dataStore.setUint (.field key .MARKET_TOKEN_AMOUNT) withdrawal.marketTokenAmount
  let dataStore :=
    dataStore.setUint (.field key .MIN_LONG_TOKEN_AMOUNT) withdrawal.minLongTokenAmount
  let dataStore :=
    dataStore.setUint (.field key .MIN_SHORT_TOKEN_AMOUNT) withdrawal.minShortTokenAmount
  let dataStore := dataStore.setUint (.field key .UPDATED_AT_BLOCK) withdrawal.updatedAtBlock
  let dataStore := dataStore.setUint (.field key .EXECUTION_FEE) withdrawal.executionFee
  let dataStore := dataStore.setUint (.field key .CALLBACK_GAS_LIMIT) withdrawal.callbackGasLimit
  dataStore.setBool (.field key .SHOULD_UNWRAP_NATIVE_TOKEN) withdrawal.shouldUnwrapNativeToken

def set (dataStore : DataStore) (key : StoreKey) (withdrawal : Withdrawal) : DataStore :=
  let dataStore := dataStore.addBytes32 (.base .WITHDRAWAL_LIST) key
  let dataStore := dataStore.addBytes32 (Keys.accountWithdrawalListKey withdrawal.account) key
  writeFields dataStore key withdrawal

/-- Deleting the field slots writes the empty withdrawal into them. -/
def remove (dataStore : DataStore) (key : StoreKey) (account : Address) : Result DataStore := do
  revertIf (¬ dataStore.containsBytes32 (.base .WITHDRAWAL_LIST) key) (.WithdrawalNotFound key)
  let dataStore := dataStore.removeBytes32 (.base .WITHDRAWAL_LIST) key
  let dataStore := dataStore.removeBytes32 (Keys.accountWithdrawalListKey account) key
  pure (writeFields dataStore key Withdrawal.empty)

end WithdrawalStoreUtils

end GmxSynthetics
