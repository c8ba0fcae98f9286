import GmxSynthetics.Exchange.MarketSolvency

/-!
# The router

`Router.sol`, `ExchangeRouter.sol` and `PayableMulticall.sol`. Users approve the router to take
their tokens, and call the exchange in batches: what a request needs is sent to a vault and the
request is made in one transaction, which goes through as a whole or not at all.

A simulated execution always reverts, and a batch with one never goes through; it is left out.
-/

namespace GmxSynthetics

open Evm BaseOrderUtils

/-- The chain as the router sees it. -/
structure RouterState where
  world : World
  /-- The native tokens of the router, which come with the calls. -/
  nativeBalance : Nat
  /-- What an account lets the router take: token, then account. -/
  allowances : Address → Address → Nat

/-- A state-changing call of the router. -/
abbrev RouterTx (α : Type) := Evm.Tx RouterState Errors α

/-- A call that leaves native tokens and allowances alone. -/
def onWorld {α : Type} (x : Tx α) : RouterTx α :=
  Tx.focus RouterState.world (fun world s => { s with world }) x

theorem onWorld_eq_ok {α : Type} {x : Tx α} {s s' : RouterState} {a : α} :
    onWorld x s = .ok (a, s') ↔ ∃ w, x s.world = .ok (a, w) ∧ { s with world := w } = s' :=
  Tx.focus_eq_ok

-- ---------------------------------------------------------------------------
-- Router.sol
-- ---------------------------------------------------------------------------

/-- `approve` of a token, for the router. -/
def RouterState.approve (s : RouterState) (token account : Address) (amount : Nat) : RouterState :=
  { s with
    allowances := Function.update s.allowances token
      (Function.update (s.allowances token) account amount) }

/-- What is left of an allowance. The largest one does not run down. -/
def RouterState.spendAllowance (s : RouterState) (token account : Address) (amount : Nat) :
    RouterState :=
  if s.allowances token account = uintBound - 1 then s
  else s.approve token account (s.allowances token account - amount)

/-- `pluginTransfer`, which is `safeTransferFrom` of a standard token. -/
def Router.pluginTransfer (env : Env) (token account receiver : Address) (amount : Nat) :
    RouterTx Unit := do
  let allowance ← Tx.read fun s => s.allowances token account
  (Evm.Result.revertIf (allowance < amount) (.message "ERC20: insufficient allowance") :
    Result Unit)
  Tx.write (·.spendAllowance token account amount)
  let balance ← Tx.read fun s => s.world.balances token account
  (Evm.Result.revertIf (balance < amount) (.message "ERC20: transfer amount exceeds balance") :
    Result Unit)
  (Evm.Result.revertIf (env.transferAccepted token receiver = false)
    (.message "SafeERC20: low-level call failed") : Result Unit)
  onWorld (Tx.write (·.moveTokens token account receiver amount))

-- ---------------------------------------------------------------------------
-- ExchangeRouter.sol
-- ---------------------------------------------------------------------------

/-- `MarketUtils.setUiFeeFactor`. -/
def MarketUtils.setUiFeeFactor (account : Address) (uiFeeFactor : Nat) : Tx Unit := do
  let maxUiFeeFactor ← readStore (·.getUint (.base .MAX_UI_FEE_FACTOR))
  revertIf (uiFeeFactor > maxUiFeeFactor) (.InvalidUiFeeFactor uiFeeFactor maxUiFeeFactor)
  writeStore (·.setUint (Keys.uiFeeFactorKey account) uiFeeFactor)

/-- The functions of the router, other than the simulations. -/
inductive RouterCall where
  | sendWnt (receiver : Address) (amount : Nat)
  | sendTokens (token receiver : Address) (amount : Nat)
  | createDeposit (params : DepositUtils.CreateDepositParams)
  | cancelDeposit (key : StoreKey)
  | createWithdrawal (params : WithdrawalUtils.CreateWithdrawalParams)
  | cancelWithdrawal (key : StoreKey)
  | createOrder (params : CreateOrderParams)
  | updateOrder (key : StoreKey) (sizeDeltaUsd acceptablePrice triggerPrice minOutputAmount : Nat)
  | cancelOrder (key : StoreKey)
  | claimFundingFees (markets tokens : List Address) (receiver : Address)
  | claimCollateral (markets tokens : List Address) (timeKeys : List Nat) (receiver : Address)
  | claimAffiliateRewards (markets tokens : List Address) (receiver : Address)
  | setUiFeeFactor (uiFeeFactor : Nat)
  | claimUiFees (markets tokens : List Address) (receiver : Address)

namespace ExchangeRouter

variable (env : Env) (deployment : Deployment) (router msgSender : Address)

/-- Wraps native tokens that the router has, and sends them. -/
def sendWnt (receiver : Address) (amount : Nat) : RouterTx Unit := do
  (AccountUtils.validateReceiver receiver : Result Unit)
  let nativeBalance ← Tx.read RouterState.nativeBalance
  (Evm.Result.revertIf (nativeBalance < amount) (.message "") : Result Unit)
  Tx.write fun s => { s with nativeBalance := nativeBalance - amount }
  onWorld (TokenUtils.depositAndSendWrappedNativeToken env router receiver amount)

/-- Sends tokens of the caller. -/
def sendTokens (token receiver : Address) (amount : Nat) : RouterTx Unit := do
  (AccountUtils.validateReceiver receiver : Result Unit)
  Router.pluginTransfer env token msgSender receiver amount

def run : RouterCall → RouterTx Unit
  | .sendWnt receiver amount => sendWnt env router receiver amount
  | .sendTokens token receiver amount => sendTokens env msgSender token receiver amount
  | .createDeposit params => onWorld ((Call.createDeposit msgSender params).run env deployment)
  | .cancelDeposit key => onWorld ((Call.cancelDeposit msgSender key).run env deployment)
  | .createWithdrawal params =>
    onWorld ((Call.createWithdrawal msgSender params).run env deployment)
  | .cancelWithdrawal key => onWorld ((Call.cancelWithdrawal msgSender key).run env deployment)
  | .createOrder params => onWorld ((Call.createOrder msgSender params).run env deployment)
  | .updateOrder key sizeDeltaUsd acceptablePrice triggerPrice minOutputAmount =>
    onWorld ((Call.updateOrder msgSender key sizeDeltaUsd acceptablePrice triggerPrice
      minOutputAmount).run env deployment)
  | .cancelOrder key => onWorld ((Call.cancelOrder msgSender key).run env deployment)
  | .claimFundingFees markets tokens receiver =>
    onWorld (discard (claimFundingFees env router msgSender markets tokens receiver))
  | .claimCollateral markets tokens timeKeys receiver =>
    onWorld (discard (claimCollateral env router msgSender markets tokens timeKeys receiver))
  | .claimAffiliateRewards markets tokens receiver =>
    onWorld (discard (claimAffiliateRewards env router msgSender markets tokens receiver))
  | .setUiFeeFactor uiFeeFactor => onWorld (MarketUtils.setUiFeeFactor msgSender uiFeeFactor)
  | .claimUiFees markets tokens receiver =>
    onWorld (discard (claimUiFees env router msgSender markets tokens receiver))

/-- The calls of a batch, one after the other. -/
def runEach : List RouterCall → RouterTx Unit
  | [] => pure ()
  | call :: calls => do
    run env deployment router msgSender call
    runEach calls

/-- `multicall`. The native tokens come with the transaction, once. -/
def multicall (msgValue : Nat) (calls : List RouterCall) : RouterTx Unit := do
  Tx.write fun s => { s with nativeBalance := s.nativeBalance + msgValue }
  runEach env deployment router msgSender calls

end ExchangeRouter

end GmxSynthetics
