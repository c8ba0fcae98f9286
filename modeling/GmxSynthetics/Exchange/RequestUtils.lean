import GmxSynthetics.Utils.Precision

/-!
# Request utilities

What creating, executing and cancelling a request share: `NonceUtils.sol`,
`FeatureUtils.sol`, `ExchangeUtils.sol`, the gas limit check of `CallbackUtils.sol`, the
block number checks of `OracleUtils.sol`, and the comparisons of `Array.sol`.
-/

namespace GmxSynthetics

namespace Array

def areGreaterThanOrEqualTo (arr : List Nat) (value : Nat) : Bool :=
  arr.all fun element => decide (value ≤ element)

def areLessThanOrEqualTo (arr : List Nat) (value : Nat) : Bool :=
  arr.all fun element => decide (element ≤ value)

end Array

/-- The block numbers of `OracleUtils.SetPricesParams`, uncompacted. -/
structure OracleBlockNumbers where
  minOracleBlockNumbers : List Nat
  maxOracleBlockNumbers : List Nat
  deriving DecidableEq, Repr

namespace OracleUtils

def isBlockNumberWithinRange (minOracleBlockNumbers maxOracleBlockNumbers : List Nat)
    (blockNumber : Nat) : Bool :=
  Array.areLessThanOrEqualTo minOracleBlockNumbers blockNumber &&
    Array.areGreaterThanOrEqualTo maxOracleBlockNumbers blockNumber

def validateBlockNumberWithinRange (minOracleBlockNumbers maxOracleBlockNumbers : List Nat)
    (blockNumber : Nat) : Result Unit :=
  revertIf (¬ isBlockNumberWithinRange minOracleBlockNumbers maxOracleBlockNumbers blockNumber)
    (.OracleBlockNumberNotWithinRange minOracleBlockNumbers maxOracleBlockNumbers blockNumber)

/-- The check that the prices are not older than a block. -/
def validateBlockNumbersNotBefore (oracleBlockNumbers : List Nat) (expectedBlockNumber : Nat) :
    Result Unit :=
  revertIf (¬ Array.areGreaterThanOrEqualTo oracleBlockNumbers expectedBlockNumber)
    (.OracleBlockNumbersAreSmallerThanRequired oracleBlockNumbers expectedBlockNumber)

def isOracleError : Evm.Revert Errors → Bool
  | .custom (.OracleBlockNumbersAreSmallerThanRequired _ _) => true
  | .custom (.OracleBlockNumberNotWithinRange _ _ _) => true
  | .custom (.EmptyPrimaryPrice _) => true
  | _ => false

end OracleUtils

namespace NonceUtils

def getCurrentNonce (dataStore : DataStore) : Nat := dataStore.getUint (.base .NONCE)

def incrementNonce : Tx Nat := DataStore.incrementUint (.base .NONCE) 1

def getNextKey : Tx StoreKey := do
  let nonce ← incrementNonce
  pure (.request nonce)

end NonceUtils

namespace FeatureUtils

def isFeatureDisabled (dataStore : DataStore) (key : Key) : Bool := dataStore.getBool key

def validateFeature (dataStore : DataStore) (key : Key) : Result Unit :=
  revertIf (isFeatureDisabled dataStore key = true) (.DisabledFeature key)

/-- The error that lets a handler revert when a feature is disabled. -/
def isDisabledFeatureError : Evm.Revert Errors → Bool
  | .custom (.DisabledFeature _) => true
  | _ => false

end FeatureUtils

namespace ExchangeUtils

/-- A request can be cancelled by its owner once it has reached an age. -/
def validateRequestCancellation (env : Env) (dataStore : DataStore) (createdAtBlock : Nat)
    (requestType : String) : Result Unit := do
  let requestExpirationAge := dataStore.getUint (.base .REQUEST_EXPIRATION_BLOCK_AGE)
  let requestAge ← sub env.blockNumber createdAtBlock
  revertIf (requestAge < requestExpirationAge)
    (.RequestNotYetCancellable requestAge requestExpirationAge requestType)

end ExchangeUtils

namespace CallbackUtils

def validateCallbackGasLimit (dataStore : DataStore) (callbackGasLimit : Nat) : Result Unit :=
  let maxCallbackGasLimit := dataStore.getUint (.base .MAX_CALLBACK_GAS_LIMIT)
  revertIf (callbackGasLimit > maxCallbackGasLimit)
    (.MaxCallbackGasLimitExceeded callbackGasLimit maxCallbackGasLimit)

end CallbackUtils

end GmxSynthetics
