import GmxSynthetics.Data.DataStore

/-!
# Token transfers

`TokenUtils.sol`, `Bank.sol`, `StrictBank.sol` and the balance of a `MarketToken`. A
token contract is standard: a covered transfer that it accepts moves exactly the amount.
A transfer that a receiver refuses goes to the holding address instead, so that no
receiver can block an execution.

A `StrictBank` keeps the balance it has accounted for in `tokenBalances`;
`recordTransferIn` attributes the difference to the call that records it.
-/

namespace GmxSynthetics

open Evm

namespace AccountUtils

def validateAccount (account : Address) : Result Unit := revertIf (account = 0) .EmptyAccount

def validateReceiver (receiver : Address) : Result Unit :=
  revertIf (receiver = 0) .EmptyReceiver

end AccountUtils

-- ---------------------------------------------------------------------------
-- ERC20 balances
-- ---------------------------------------------------------------------------

namespace World

variable (w : World)

def setTotalSupply (marketToken : Address) (amount : Nat) : World :=
  { w with totalSupply := Function.update w.totalSupply marketToken amount }

def setBalance (token holder : Address) (amount : Nat) : World :=
  { w with
    balances := Function.update w.balances token
      (Function.update (w.balances token) holder amount) }

/-- Move tokens between two holders. -/
def moveTokens (token sender receiver : Address) (amount : Nat) : World :=
  let w := w.setBalance token sender (w.balances token sender - amount)
  w.setBalance token receiver (w.balances token receiver + amount)

/-- `tokenBalances[token] = balanceOf(address(this))`. -/
def recordBalance (bank token : Address) : World :=
  { w with
    tokenBalances := Function.update w.tokenBalances bank
      (Function.update (w.tokenBalances bank) token (w.balances token bank)) }

end World

-- ---------------------------------------------------------------------------
-- TokenUtils.sol
-- ---------------------------------------------------------------------------

namespace TokenUtils

variable (env : Env)

def wnt (dataStore : DataStore) : Address := dataStore.getAddress (.base .WNT)

/-- Whether the transfer went through; a failed one changes nothing. -/
def nonRevertingTransferWithGasLimit (token sender receiver : Address) (amount : Nat) :
    Tx Bool := do
  let balance ← Tx.read fun w => w.balances token sender
  if env.transferAccepted token receiver = true ∧ amount ≤ balance then
    Tx.write (·.moveTokens token sender receiver amount)
    pure true
  else pure false

def transfer (sender token receiver : Address) (amount : Nat) : Tx Unit :=
  if amount = 0 then pure ()
  else do
    AccountUtils.validateReceiver receiver
    let gasLimit ← readStore (·.getUint (Keys.tokenTransferGasLimit token))
    revertIf (gasLimit = 0) (.EmptyTokenTranferGasLimit token)
    let success0 ← nonRevertingTransferWithGasLimit env token sender receiver amount
    if success0 then pure ()
    else
      let holdingAddress ← readStore (·.getAddress (.base .HOLDING_ADDRESS))
      revertIf (holdingAddress = 0) .EmptyHoldingAddress
      let success1 ← nonRevertingTransferWithGasLimit env token sender holdingAddress amount
      revertIf (¬ success1) (.TokenTransferError token receiver amount)

/-- The sender deposits native tokens it holds and sends the wrapped ones. -/
def depositAndSendWrappedNativeToken (sender receiver : Address) (amount : Nat) : Tx Unit :=
  if amount = 0 then pure ()
  else do
    AccountUtils.validateReceiver receiver
    let wnt ← readStore wnt
    Tx.write fun w => w.setBalance wnt sender (w.balances wnt sender + amount)
    transfer env sender wnt receiver amount

/-- Unwraps and sends native tokens; a receiver that refuses them is sent the wrapped
ones. -/
def withdrawAndSendNativeToken (sender wnt receiver : Address) (amount : Nat) : Tx Unit :=
  if amount = 0 then pure ()
  else do
    AccountUtils.validateReceiver receiver
    let balance ← Tx.read fun w => w.balances wnt sender
    (Evm.Result.revertIf (balance < amount) (.message "") : Result Unit)
    Tx.write (·.setBalance wnt sender (balance - amount))
    if env.nativeTransferAccepted receiver then pure ()
    else depositAndSendWrappedNativeToken env sender receiver amount

end TokenUtils

-- ---------------------------------------------------------------------------
-- Bank.sol
-- ---------------------------------------------------------------------------

namespace Bank

variable (env : Env)

/-- `_transferOut`, which `transferOut` calls. -/
def transferOut (bank token receiver : Address) (amount : Nat) : Tx Unit := do
  revertIf (receiver = bank) (.SelfTransferNotSupported receiver)
  TokenUtils.transfer env bank token receiver amount

/-- `_transferOutNativeToken`, on the bank's own token or on the wrapped native token. -/
def transferOutNativeToken (bank token receiver : Address) (amount : Nat) : Tx Unit := do
  revertIf (receiver = bank) (.SelfTransferNotSupported receiver)
  TokenUtils.withdrawAndSendNativeToken env bank token receiver amount

/-- The overload of `transferOut` with `shouldUnwrapNativeToken`. -/
def transferOutUnwrapping (bank token receiver : Address) (amount : Nat)
    (shouldUnwrapNativeToken : Bool) : Tx Unit := do
  let wnt ← readStore TokenUtils.wnt
  if token = wnt ∧ shouldUnwrapNativeToken = true then
    transferOutNativeToken env bank token receiver amount
  else transferOut env bank token receiver amount

end Bank

-- ---------------------------------------------------------------------------
-- StrictBank.sol
-- ---------------------------------------------------------------------------

namespace StrictBank

variable (env : Env)

def _afterTransferOut (bank token : Address) : Tx Unit := Tx.write (·.recordBalance bank token)

def transferOutUnwrapping (bank token receiver : Address) (amount : Nat)
    (shouldUnwrapNativeToken : Bool) : Tx Unit := do
  Bank.transferOutUnwrapping env bank token receiver amount shouldUnwrapNativeToken
  _afterTransferOut bank token

def transferOutNativeToken (bank receiver : Address) (amount : Nat) : Tx Unit := do
  let wnt ← readStore TokenUtils.wnt
  Bank.transferOutNativeToken env bank wnt receiver amount
  _afterTransferOut bank wnt

def recordTransferIn (bank token : Address) : Tx Nat := do
  let prevBalance ← Tx.read fun w => w.tokenBalances bank token
  let nextBalance ← Tx.read fun w => w.balances token bank
  Tx.write (·.recordBalance bank token)
  sub nextBalance prevBalance

def syncTokenBalance (bank token : Address) : Tx Nat := do
  Tx.write (·.recordBalance bank token)
  Tx.read fun w => w.balances token bank

end StrictBank

/-- A `Bank` that a function is handed: a market token, or one of the vaults, which are
`StrictBank`s. -/
structure BankRef where
  address : Address
  isStrict : Bool

def BankRef.transferOut (env : Env) (bank : BankRef) (token receiver : Address) (amount : Nat)
    (shouldUnwrapNativeToken : Bool) : Tx Unit :=
  if bank.isStrict then
    StrictBank.transferOutUnwrapping env bank.address token receiver amount shouldUnwrapNativeToken
  else
    Bank.transferOutUnwrapping env bank.address token receiver amount shouldUnwrapNativeToken

-- ---------------------------------------------------------------------------
-- MarketToken.sol
-- ---------------------------------------------------------------------------

namespace MarketToken

def mint (marketToken account : Address) (amount : Nat) : Tx Unit := do
  (Evm.Result.revertIf (account = 0) (.message "ERC20: mint to the zero address") : Result Unit)
  let totalSupply ← add (← Tx.read fun w => w.totalSupply marketToken) amount
  Tx.write fun w => (w.setBalance marketToken account
    (w.balances marketToken account + amount)).setTotalSupply marketToken totalSupply

def burn (marketToken account : Address) (amount : Nat) : Tx Unit := do
  (Evm.Result.revertIf (account = 0) (.message "ERC20: burn from the zero address") : Result Unit)
  let balance ← Tx.read fun w => w.balances marketToken account
  (Evm.Result.revertIf (balance < amount) (.message "ERC20: burn amount exceeds balance")
    : Result Unit)
  Tx.write fun w => (w.setBalance marketToken account
    (balance - amount)).setTotalSupply marketToken (w.totalSupply marketToken - amount)

end MarketToken

end GmxSynthetics
