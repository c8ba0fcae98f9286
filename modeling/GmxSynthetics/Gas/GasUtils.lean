import GmxSynthetics.Bank.Bank
import GmxSynthetics.Deposit.DepositStore
import GmxSynthetics.Order.Order
import GmxSynthetics.Utils.Precision
import GmxSynthetics.Withdrawal.WithdrawalStore

/-!
# Execution fees

`GasUtils.sol`. A request deposits an execution fee that must cover the estimated gas;
when the request is executed, cancelled or frozen, the keeper is paid for the gas used
and the user is refunded the rest.
-/

namespace GmxSynthetics.GasUtils

variable (env : Env)

def getMinHandleExecutionErrorGas (dataStore : DataStore) : Nat :=
  dataStore.getUint (.base .MIN_HANDLE_EXECUTION_ERROR_GAS)

/-- The gas handed to the inner call; the rest is kept for handling its error. -/
def getExecutionGas (dataStore : DataStore) (startingGas : Nat) : Result Nat := do
  let minHandleErrorGas := getMinHandleExecutionErrorGas dataStore
  revertIf (startingGas < minHandleErrorGas)
    (.InsufficientExecutionGas startingGas minHandleErrorGas)
  sub startingGas minHandleErrorGas

def adjustGasUsage (dataStore : DataStore) (gasUsed : Nat) : Result Nat := do
  let baseGasLimit := dataStore.getUint (.base .EXECUTION_GAS_FEE_BASE_AMOUNT)
  let multiplierFactor := dataStore.getUint (.base .EXECUTION_GAS_FEE_MULTIPLIER_FACTOR)
  add baseGasLimit (← Precision.applyFactor gasUsed multiplierFactor)

def adjustGasLimitForEstimate (dataStore : DataStore) (estimatedGasLimit : Nat) :
    Result Nat := do
  let baseGasLimit := dataStore.getUint (.base .ESTIMATED_GAS_FEE_BASE_AMOUNT)
  let multiplierFactor := dataStore.getUint (.base .ESTIMATED_GAS_FEE_MULTIPLIER_FACTOR)
  add baseGasLimit (← Precision.applyFactor estimatedGasLimit multiplierFactor)

/-- What the keeper gets of an execution fee. -/
def getExecutionFeeForKeeper (dataStore : DataStore) (executionFee : Nat) : Result Nat := do
  let executionFeeForKeeper ← mul (← adjustGasUsage dataStore env.gasUsed) env.gasPrice
  pure (if executionFeeForKeeper > executionFee then executionFee else executionFeeForKeeper)

def payExecutionFee (bank : Address) (executionFee : Nat) (keeper user : Address) :
    Tx Unit := do
  let executionFeeForKeeper ← viewStore fun dataStore =>
    getExecutionFeeForKeeper env dataStore executionFee
  StrictBank.transferOutNativeToken env bank keeper executionFeeForKeeper
  let refundFeeAmount ← sub executionFee executionFeeForKeeper
  if refundFeeAmount = 0 then pure ()
  else StrictBank.transferOutNativeToken env bank user refundFeeAmount

def validateExecutionFee (dataStore : DataStore) (estimatedGasLimit executionFee : Nat) :
    Result Unit := do
  let gasLimit ← adjustGasLimitForEstimate dataStore estimatedGasLimit
  let minExecutionFee ← mul gasLimit env.gasPrice
  revertIf (executionFee < minExecutionFee)
    (.InsufficientExecutionFee minExecutionFee executionFee)

-- ---------------------------------------------------------------------------
-- Estimates
-- ---------------------------------------------------------------------------

def estimateExecuteDepositGasLimit (dataStore : DataStore) (deposit : Deposit) :
    Result Nat := do
  let gasPerSwap := dataStore.getUint Keys.singleSwapGasLimitKey
  let swapCount := deposit.longTokenSwapPath.length + deposit.shortTokenSwapPath.length
  let gasForSwaps ← mul swapCount gasPerSwap
  let singleToken :=
    decide (deposit.initialLongTokenAmount = 0 ∨ deposit.initialShortTokenAmount = 0)
  add (← add (dataStore.getUint (Keys.depositGasLimitKey singleToken)) deposit.callbackGasLimit)
    gasForSwaps

def estimateExecuteWithdrawalGasLimit (dataStore : DataStore) (withdrawal : Withdrawal) :
    Result Nat := do
  let gasPerSwap := dataStore.getUint Keys.singleSwapGasLimitKey
  let swapCount := withdrawal.longTokenSwapPath.length + withdrawal.shortTokenSwapPath.length
  let gasForSwaps ← mul swapCount gasPerSwap
  add (← add (dataStore.getUint (Keys.withdrawalGasLimitKey false)) withdrawal.callbackGasLimit)
    gasForSwaps

/-- `estimateExecuteIncreaseOrderGasLimit` and its two siblings, which differ in the key of
the base amount. -/
def estimateExecuteOrderGasLimitWithKey (gasLimitKey : Key) (dataStore : DataStore)
    (order : Order) : Result Nat := do
  let gasPerSwap := dataStore.getUint Keys.singleSwapGasLimitKey
  add (← add (dataStore.getUint gasLimitKey) (← mul gasPerSwap order.swapPath.length))
    order.callbackGasLimit

def estimateExecuteIncreaseOrderGasLimit : DataStore → Order → Result Nat :=
  estimateExecuteOrderGasLimitWithKey Keys.increaseOrderGasLimitKey

def estimateExecuteDecreaseOrderGasLimit : DataStore → Order → Result Nat :=
  estimateExecuteOrderGasLimitWithKey Keys.decreaseOrderGasLimitKey

def estimateExecuteSwapOrderGasLimit : DataStore → Order → Result Nat :=
  estimateExecuteOrderGasLimitWithKey Keys.swapOrderGasLimitKey

def estimateExecuteOrderGasLimit (dataStore : DataStore) (order : Order) : Result Nat :=
  if BaseOrderUtils.isIncreaseOrder order.orderType then
    estimateExecuteIncreaseOrderGasLimit dataStore order
  else if BaseOrderUtils.isDecreaseOrder order.orderType then
    estimateExecuteDecreaseOrderGasLimit dataStore order
  else if BaseOrderUtils.isSwapOrder order.orderType then
    estimateExecuteSwapOrderGasLimit dataStore order
  else revert .UnsupportedOrderType

end GmxSynthetics.GasUtils
