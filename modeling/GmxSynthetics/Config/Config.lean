import GmxSynthetics.Utils.Precision

/-!
# Config

`Config.sol`: the setters of a config keeper. A setter hashes a base key with additional data;
the data is the encoding of a list of words.
-/

namespace GmxSynthetics

open Evm

namespace Config

/-- `_initAllowedBaseKeys`. -/
def allowedBaseKeys : List Base :=
  [.HOLDING_ADDRESS, .MIN_HANDLE_EXECUTION_ERROR_GAS, .IS_MARKET_DISABLED,
    .MAX_SWAP_PATH_LENGTH, .MAX_CALLBACK_GAS_LIMIT,
    .MIN_POSITION_SIZE_USD, .MAX_POSITION_IMPACT_FACTOR_FOR_LIQUIDATIONS,
    .MAX_POOL_AMOUNT, .MAX_OPEN_INTEREST,
    .CREATE_DEPOSIT_FEATURE_DISABLED, .CANCEL_DEPOSIT_FEATURE_DISABLED,
    .EXECUTE_DEPOSIT_FEATURE_DISABLED,
    .CREATE_WITHDRAWAL_FEATURE_DISABLED, .CANCEL_WITHDRAWAL_FEATURE_DISABLED,
    .EXECUTE_WITHDRAWAL_FEATURE_DISABLED,
    .CREATE_ORDER_FEATURE_DISABLED, .EXECUTE_ORDER_FEATURE_DISABLED,
    .EXECUTE_ADL_FEATURE_DISABLED, .UPDATE_ORDER_FEATURE_DISABLED,
    .CANCEL_ORDER_FEATURE_DISABLED,
    .CLAIM_FUNDING_FEES_FEATURE_DISABLED, .CLAIM_COLLATERAL_FEATURE_DISABLED,
    .CLAIM_AFFILIATE_REWARDS_FEATURE_DISABLED, .CLAIM_UI_FEES_FEATURE_DISABLED,
    .MIN_ORACLE_BLOCK_CONFIRMATIONS, .MAX_ORACLE_PRICE_AGE,
    .MAX_ORACLE_REF_PRICE_DEVIATION_FACTOR,
    .POSITION_FEE_RECEIVER_FACTOR, .SWAP_FEE_RECEIVER_FACTOR, .BORROWING_FEE_RECEIVER_FACTOR,
    .ESTIMATED_GAS_FEE_BASE_AMOUNT, .ESTIMATED_GAS_FEE_MULTIPLIER_FACTOR,
    .EXECUTION_GAS_FEE_BASE_AMOUNT, .EXECUTION_GAS_FEE_MULTIPLIER_FACTOR,
    .DEPOSIT_GAS_LIMIT, .WITHDRAWAL_GAS_LIMIT, .SINGLE_SWAP_GAS_LIMIT,
    .INCREASE_ORDER_GAS_LIMIT, .DECREASE_ORDER_GAS_LIMIT, .SWAP_ORDER_GAS_LIMIT,
    .TOKEN_TRANSFER_GAS_LIMIT, .NATIVE_TOKEN_TRANSFER_GAS_LIMIT,
    .REQUEST_EXPIRATION_BLOCK_AGE, .MIN_COLLATERAL_FACTOR,
    .MIN_COLLATERAL_FACTOR_FOR_OPEN_INTEREST_MULTIPLIER, .MIN_COLLATERAL_USD,
    .VIRTUAL_TOKEN_ID, .VIRTUAL_MARKET_ID, .VIRTUAL_INVENTORY_FOR_SWAPS,
    .VIRTUAL_INVENTORY_FOR_POSITIONS,
    .POSITION_IMPACT_FACTOR, .POSITION_IMPACT_EXPONENT_FACTOR, .MAX_POSITION_IMPACT_FACTOR,
    .POSITION_FEE_FACTOR,
    .SWAP_IMPACT_FACTOR, .SWAP_IMPACT_EXPONENT_FACTOR, .SWAP_FEE_FACTOR,
    .MAX_UI_FEE_FACTOR, .ORACLE_TYPE, .RESERVE_FACTOR,
    .MAX_PNL_FACTOR, .MAX_PNL_FACTOR_FOR_TRADERS, .MAX_PNL_FACTOR_FOR_ADL,
    .MIN_PNL_FACTOR_AFTER_ADL, .MAX_PNL_FACTOR_FOR_DEPOSITS, .MAX_PNL_FACTOR_FOR_WITHDRAWALS,
    .FUNDING_FACTOR, .FUNDING_EXPONENT_FACTOR, .BORROWING_FACTOR, .BORROWING_EXPONENT_FACTOR,
    .CLAIMABLE_COLLATERAL_FACTOR, .PRICE_FEED_HEARTBEAT_DURATION]

def _validateKey (baseKey : Base) : Result Unit :=
  revertIf (baseKey ∉ allowedBaseKeys) (.InvalidBaseKey baseKey)

def _validateRange (baseKey : Base) (value : Nat) : Result Unit := do
  revertIf ((baseKey = .FUNDING_FACTOR ∨ baseKey = .BORROWING_FACTOR) ∧
      value > 1 * Precision.FLOAT_PRECISION / 100) (.InvalidFeeFactor baseKey value)
  revertIf ((baseKey = .SWAP_FEE_FACTOR ∨ baseKey = .POSITION_FEE_FACTOR ∨
        baseKey = .MAX_UI_FEE_FACTOR) ∧
      value > 5 * Precision.FLOAT_PRECISION / 100) (.InvalidFeeFactor baseKey value)
  revertIf ((baseKey = .POSITION_FEE_RECEIVER_FACTOR ∨ baseKey = .SWAP_FEE_RECEIVER_FACTOR ∨
        baseKey = .BORROWING_FEE_RECEIVER_FACTOR ∨ baseKey = .MIN_COLLATERAL_FACTOR ∨
        baseKey = .MAX_PNL_FACTOR ∨ baseKey = .MAX_PNL_FACTOR_FOR_WITHDRAWALS ∨
        baseKey = .CLAIMABLE_COLLATERAL_FACTOR) ∧
      value > Precision.FLOAT_PRECISION) (.InvalidFeeFactor baseKey value)

/-- `keccak256(bytes.concat(baseKey, data))`. -/
def fullKey (baseKey : Base) (data : List Word) : Key := .derived baseKey data

def setBool (dataStore : DataStore) (baseKey : Base) (data : List Word) (value : Bool) :
    Result DataStore := do
  _validateKey baseKey
  pure (dataStore.setBool (fullKey baseKey data) value)

def setAddress (dataStore : DataStore) (baseKey : Base) (data : List Word) (value : Address) :
    Result DataStore := do
  _validateKey baseKey
  pure (dataStore.setAddress (fullKey baseKey data) value)

def setBytes32 (dataStore : DataStore) (baseKey : Base) (data : List Word) (value : Nat) :
    Result DataStore := do
  _validateKey baseKey
  pure (dataStore.setBytes32 (fullKey baseKey data) value)

def setUint (dataStore : DataStore) (baseKey : Base) (data : List Word) (value : Nat) :
    Result DataStore := do
  _validateKey baseKey
  _validateRange baseKey value
  pure (dataStore.setUint (fullKey baseKey data) value)

def setInt (dataStore : DataStore) (baseKey : Base) (data : List Word) (value : Int) :
    Result DataStore := do
  _validateKey baseKey
  pure (dataStore.setInt (fullKey baseKey data) value)

end Config

end GmxSynthetics
