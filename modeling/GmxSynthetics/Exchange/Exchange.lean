import GmxSynthetics.Evm.Machine
import GmxSynthetics.Exchange.RequestSettlement
import GmxSynthetics.Order.OrderAccounting

/-!
# The exchange

The runs of the whole protocol: users create, update and cancel requests, keepers execute, liquidate
and auto-deleverage, markets are added, and the rest of the chain goes on in between.

* `Call.run` — one call of a user or a keeper, which succeeds or leaves nothing behind;
* `Outside` — what everybody else may do: anything but touch what only the handlers write, and take
  tokens out of a vault;
* `exchange` — the machine of all of it.
-/

namespace GmxSynthetics

open Evm BaseOrderUtils

-- ---------------------------------------------------------------------------
-- Calls
-- ---------------------------------------------------------------------------

/-- The calls of users and keepers. -/
inductive Call where
  | createOrder (account : Address) (params : CreateOrderParams)
  | updateOrder (msgSender : Address) (key : StoreKey)
      (sizeDeltaUsd acceptablePrice triggerPrice minOutputAmount : Nat)
  | cancelOrder (msgSender : Address) (key : StoreKey)
  | executeOrder (key : StoreKey) (oracleParams : OracleBlockNumbers) (keeper : Address)
  | createDeposit (account : Address) (params : DepositUtils.CreateDepositParams)
  | cancelDeposit (msgSender : Address) (key : StoreKey)
  | executeDeposit (key : StoreKey) (oracleParams : OracleBlockNumbers) (keeper : Address)
  | createWithdrawal (account : Address) (params : WithdrawalUtils.CreateWithdrawalParams)
  | cancelWithdrawal (msgSender : Address) (key : StoreKey)
  | executeWithdrawal (key : StoreKey) (oracleParams : OracleBlockNumbers) (keeper : Address)
  | executeLiquidation (account market collateralToken : Address) (isLong : Bool)
      (oracleParams : OracleBlockNumbers) (keeper : Address)
  | updateAdlState (market : Address) (isLong : Bool) (maxOracleBlockNumbers : List Nat)
  | executeAdl (account market collateralToken : Address) (isLong : Bool) (sizeDeltaUsd : Nat)
      (oracleParams : OracleBlockNumbers) (keeper : Address)

/-- Dropping the key of a new request. -/
def discard {α : Type} (x : Tx α) : Tx Unit := do
  let _ ← x
  pure ()

theorem discard_eq_ok {α : Type} {x : Tx α} {w w' : World} {u : Unit} :
    discard x w = .ok (u, w') ↔ ∃ a, x w = .ok (a, w') := by
  unfold discard
  rw [Tx.bind_eq_ok]
  constructor
  · rintro ⟨a, w₁, hx, h⟩
    obtain ⟨-, rfl⟩ := Tx.pure_eq_ok.mp h
    exact ⟨a, hx⟩
  · rintro ⟨a, hx⟩
    exact ⟨a, w', hx, rfl⟩

def Call.run (env : Env) (deployment : Deployment) : Call → Tx Unit
  | createOrder account params => discard (OrderHandler.createOrder env deployment account params)
  | updateOrder msgSender key sizeDeltaUsd acceptablePrice triggerPrice minOutputAmount =>
    ExchangeRouter.updateOrder env deployment msgSender key sizeDeltaUsd acceptablePrice
      triggerPrice minOutputAmount
  | cancelOrder msgSender key => ExchangeRouter.cancelOrder env deployment msgSender key
  | executeOrder key oracleParams keeper =>
    OrderHandler.executeOrder env deployment key oracleParams keeper
  | createDeposit account params =>
    discard (DepositHandler.createDeposit env deployment account params)
  | cancelDeposit msgSender key => ExchangeRouter.cancelDeposit env deployment msgSender key
  | executeDeposit key oracleParams keeper =>
    DepositHandler.executeDeposit env deployment key oracleParams keeper
  | createWithdrawal account params =>
    discard (WithdrawalHandler.createWithdrawal env deployment account params)
  | cancelWithdrawal msgSender key => ExchangeRouter.cancelWithdrawal env deployment msgSender key
  | executeWithdrawal key oracleParams keeper =>
    WithdrawalHandler.executeWithdrawal env deployment key oracleParams keeper
  | executeLiquidation account market collateralToken isLong oracleParams keeper =>
    LiquidationHandler.executeLiquidation env deployment account market collateralToken isLong
      oracleParams keeper
  | updateAdlState market isLong maxOracleBlockNumbers =>
    AdlUtils.updateAdlState env market isLong maxOracleBlockNumbers
  | executeAdl account market collateralToken isLong sizeDeltaUsd oracleParams keeper =>
    AdlHandler.executeAdl env deployment account market collateralToken isLong sizeDeltaUsd
      oracleParams keeper

-- ---------------------------------------------------------------------------
-- The machine
-- ---------------------------------------------------------------------------

/-- What only the handlers and the market factory write. -/
def exchangeSlots : List Slot := accountingSlots ++ requestStateSlots

/-- What happens next to the exchange: settings, transfers, claims, prices. It may write any slot
but those of the exchange, and send tokens to a vault. -/
structure Outside (deployment : Deployment) (w w' : World) : Prop where
  writes : ∃ slots, World.SameOff slots w w' ∧ ∀ slot ∈ exchangeSlots, slot ∉ slots
  held : ∀ (kind : RequestKind) (token : Address),
    w.balances token (kind.vault deployment) ≤ w'.balances token (kind.vault deployment)
  recorded : ∀ kind : RequestKind,
    w'.tokenBalances (kind.vault deployment) = w.tokenBalances (kind.vault deployment)

inductive Action where
  | call (env : Env) (call : Call)
  | createMarket (marketToken indexToken longToken shortToken : Address) (marketType : Nat)
  | outside

/-- No market, no position, no request, and nothing recorded that the vaults do not hold. -/
structure Fresh (deployment : Deployment) (w : World) : Prop where
  markets : w.dataStore.addressSets (.base .MARKET_LIST) = []
  positions : w.dataStore.bytes32Sets (.base .POSITION_LIST) = []
  requests : ∀ kind : RequestKind, kind.store.keys w.dataStore = []
  aggregates : ∀ x : Aggregate, w.dataStore.getUint x.key = 0
  covered : ∀ kind : RequestKind, (w.vaultBalance (kind.vault deployment)).Covered

/-- Every run of the exchange. Each call sees its own block and prices; a market token is deployed
under an address of its own. -/
def exchange (deployment : Deployment) : Machine World Action where
  init := Fresh deployment
  next action w w' :=
    match action with
    | .call env call => call.run env deployment w = .ok ((), w')
    | .createMarket marketToken indexToken longToken shortToken marketType =>
      (marketToken ≠ 0 ∧ marketToken ∉ w.dataStore.addressSets (.base .MARKET_LIST) ∧
        ∀ kind : RequestKind, marketToken ≠ kind.vault deployment) ∧
      ∃ market, MarketFactory.createMarket marketToken indexToken longToken shortToken marketType
        w = .ok (market, w')
    | .outside => Outside deployment w w'

end GmxSynthetics
