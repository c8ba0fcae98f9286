import GmxSynthetics.Order.OrderFootprint

/-!
# Requests from creation to removal

What the functions that create, change or remove a request do to its store, and with what calls
they take its amounts from the vault or pay them out of it.

* `createOrder_eq_ok`, `createDeposit_eq_ok`, `createWithdrawal_eq_ok` — a new request is stored
  under the next nonce with the amounts that have arrived;
* `updateOrder_eq_ok`, `freezeOrder_eq_ok` — a stored order is stored again;
* `cancelOrder_eq_ok`, `executeOrder_eq_ok` and those of deposits and withdrawals — a stored
  request is removed, and paid out;
* `OrderHandler.executeOrder_eq_ok` and those of the other handlers and of the router — which of
  these calls a handler makes.
-/

namespace GmxSynthetics

open Evm BaseOrderUtils

variable {env : Env} {w w' : World} {key : StoreKey} {u : Unit}

/-- A new key is that of the next nonce. -/
theorem NonceUtils.getNextKey_eq_ok (h : getNextKey w = .ok (key, w')) :
    key = .request (getCurrentNonce w.dataStore + 1) ∧
      w' = { w with
        dataStore := w.dataStore.setUint (.base .NONCE) (getCurrentNonce w.dataStore + 1) } := by
  simp only [getNextKey, incrementNonce, DataStore.incrementUint, Tx.bind_eq_ok, readStore_eq_ok,
    Tx.lift_eq_ok, add_eq_ok, writeStore_eq_ok, Tx.pure_eq_ok] at h
  obtain ⟨_, _, ⟨_, _, ⟨rfl, rfl⟩, _, _, ⟨⟨-, rfl⟩, rfl⟩, _, _, rfl, rfl, rfl⟩, rfl, rfl⟩ := h
  exact ⟨rfl, rfl⟩

/-- The store with a request added under the next nonce. -/
def World.withRequest {α : Type} (w : World) (store : RecordStore α) (record : α) : World :=
  let nonce := NonceUtils.getCurrentNonce w.dataStore + 1
  { w with
    dataStore := store.set (w.dataStore.setUint (.base .NONCE) nonce) (.request nonce) record }

-- ---------------------------------------------------------------------------
-- Orders
-- ---------------------------------------------------------------------------

namespace BaseOrderUtils

/-- An order that passes the check has an account. -/
theorem validateNonEmptyOrder_eq_ok {order : Order} (h : validateNonEmptyOrder order = .ok u) :
    order.account ≠ 0 := by
  simp only [validateNonEmptyOrder, Result.bind_eq_ok, Result.revertIf_eq_ok] at h
  obtain ⟨_, haccount, -⟩ := h
  exact haccount

/-- And a size or an amount. -/
theorem validateNonEmptyOrder_iff {order : Order} :
    validateNonEmptyOrder order = .ok () ↔
      order.account ≠ 0 ∧ ¬ (order.sizeDeltaUsd = 0 ∧ order.initialCollateralDeltaAmount = 0) := by
  simp only [validateNonEmptyOrder, Result.bind_eq_ok, Result.revertIf_eq_ok, exists_const]

end BaseOrderUtils

/-- What is checked of an order when it is created. -/
structure Order.Valid (order : Order) : Prop where
  account : order.account ≠ 0
  receiver : order.receiver ≠ 0
  nonempty : ¬ (order.sizeDeltaUsd = 0 ∧ order.initialCollateralDeltaAmount = 0)

namespace OrderUtils

/-- What a created order went through. -/
theorem createOrder_eq_ok {orderVault account : Address} {params : CreateOrderParams}
    (h : createOrder env orderVault account params w = .ok (key, w')) :
    ∃ (amount fee : Nat) (w₁ : World),
      (makeOrder env account params amount fee).Valid ∧
      recordOrderAmounts orderVault params w = .ok ((amount, fee), w₁) ∧
      w' = w₁.withRequest orderStore (makeOrder env account params amount fee) := by
  unfold createOrder at h
  simp only [↓Tx.lift_bind_eq_ok] at h
  obtain ⟨_, -, h⟩ := h
  obtain ⟨⟨amount, fee⟩, w₁, hrecord, h⟩ := Tx.bind_eq_ok.mp h
  obtain ⟨_, w₂, hcheck, h⟩ := Tx.bind_eq_ok.mp h
  have hsame : w₁ = w₂ := by
    split at hcheck
    · exact (viewStore_eq_ok.mp hcheck).2
    · exact (Tx.pure_eq_ok.mp hcheck).2
  subst hsame
  simp only [↓viewStore_bind_eq_ok, ↓Tx.lift_bind_eq_ok] at h
  obtain ⟨_, -, _, hreceiver, _, -, _, -, h⟩ := h
  obtain ⟨_, w₃, hkey, h⟩ := Tx.bind_eq_ok.mp h
  obtain ⟨rfl, rfl⟩ := NonceUtils.getNextKey_eq_ok hkey
  simp only [↓Tx.lift_bind_eq_ok, ↓writeStore_bind_eq_ok, Tx.pure_eq_ok] at h
  obtain ⟨_, hnonempty, -, rfl⟩ := h
  obtain ⟨haccount, hnonempty⟩ := validateNonEmptyOrder_iff.mp hnonempty
  exact ⟨amount, fee, w₁, ⟨haccount, Result.revertIf_eq_ok.mp hreceiver, hnonempty⟩, hrecord, rfl⟩

/-- Removing an order takes it off its lists. -/
theorem removeOrder_eq_ok {account : Address} (h : removeOrder key account w = .ok (u, w')) :
    ∃ dataStore, orderStore.remove w.dataStore key account = .ok dataStore ∧
      w' = { w with dataStore } := by
  simp only [removeOrder, ↓viewStore_bind_eq_ok, writeStore_eq_ok] at h
  obtain ⟨dataStore, hremove, rfl⟩ := h
  exact ⟨dataStore, hremove, rfl⟩

/-- A swap or increase order is paid back what it holds before it is removed. -/
theorem cancelOrder_eq_ok {orderVault keeper : Address}
    (h : cancelOrder env orderVault key keeper w = .ok (u, w')) :
    let order := OrderStoreUtils.get w.dataStore key
    order.account ≠ 0 ∧ ∃ w₁ w₂,
      (if (isIncreaseOrder order.orderType = true ∨ isSwapOrder order.orderType = true) ∧
          order.initialCollateralDeltaAmount > 0 then
        StrictBank.transferOutUnwrapping env orderVault order.initialCollateralToken order.account
          order.initialCollateralDeltaAmount order.shouldUnwrapNativeToken
      else pure ()) w = .ok ((), w₁) ∧
      removeOrder key order.account w₁ = .ok ((), w₂) ∧
      GasUtils.payExecutionFee env orderVault order.executionFee keeper order.account w₂ =
        .ok ((), w') := by
  intro order
  unfold cancelOrder at h
  simp only [↓readStore_bind_eq_ok, ↓Tx.lift_bind_eq_ok] at h
  obtain ⟨_, hnonempty, h⟩ := h
  obtain ⟨_, w₁, htransfer, h⟩ := Tx.bind_eq_ok.mp h
  obtain ⟨_, w₂, hremove, h⟩ := Tx.bind_eq_ok.mp h
  exact ⟨validateNonEmptyOrder_eq_ok hnonempty, w₁, w₂, htransfer, hremove, h⟩

/-- What freezing an order went through. -/
theorem freezeOrder_eq_ok {orderVault keeper : Address}
    (h : freezeOrder env orderVault key keeper w = .ok (u, w')) :
    let order := OrderStoreUtils.get w.dataStore key
    let frozen : Order := { order with executionFee := 0, isFrozen := true }
    order.account ≠ 0 ∧
      GasUtils.payExecutionFee env orderVault order.executionFee keeper order.account
        { w with dataStore := orderStore.set w.dataStore key frozen } = .ok ((), w') := by
  intro order frozen
  unfold freezeOrder at h
  simp only [↓readStore_bind_eq_ok, ↓Tx.lift_bind_eq_ok, ↓writeStore_bind_eq_ok] at h
  obtain ⟨_, hnonempty, _, -, h⟩ := h
  exact ⟨validateNonEmptyOrder_eq_ok hnonempty, h⟩

/-- What executing an order went through. -/
theorem executeOrder_eq_ok {params : ExecuteOrderParams}
    (h : executeOrder env params w = .ok (u, w')) :
    params.order.account ≠ 0 ∧ ∃ w₁ w₂,
      removeOrder params.key params.order.account w = .ok ((), w₁) ∧
      processOrder env params w₁ = .ok ((), w₂) ∧
      GasUtils.payExecutionFee env params.orderVault params.order.executionFee params.keeper
        params.order.account w₂ = .ok ((), w') := by
  unfold executeOrder at h
  obtain ⟨_, w₁, hremove, h⟩ := Tx.bind_eq_ok.mp h
  simp only [↓Tx.lift_bind_eq_ok] at h
  obtain ⟨_, hnonempty, _, -, h⟩ := h
  obtain ⟨_, w₂, hprocess, h⟩ := Tx.bind_eq_ok.mp h
  obtain ⟨_, w₃, hvalidate, h⟩ := Tx.bind_eq_ok.mp h
  simp only [↓Tx.view_bind_eq_ok] at h
  obtain ⟨_, -, h⟩ := h
  have hsame : w₂ = w₃ := by
    split at hvalidate
    · exact (Tx.view_eq_ok.mp hvalidate).2
    · exact (Tx.pure_eq_ok.mp hvalidate).2
  subst hsame
  exact ⟨validateNonEmptyOrder_eq_ok hnonempty, w₁, w₂, hremove, hprocess, h⟩

end OrderUtils

namespace OrderHandler

variable {deployment : Deployment}

/-- Only an order that waits for a price is updated. Its fee is topped up with what has arrived. -/
theorem updateOrder_eq_ok {sizeDeltaUsd acceptablePrice triggerPrice minOutputAmount : Nat}
    {order : Order}
    (h : updateOrder env deployment key sizeDeltaUsd acceptablePrice triggerPrice
      minOutputAmount order w = .ok (u, w')) :
    isMarketOrder order.orderType = false ∧ order.account ≠ 0 ∧
      ¬ (sizeDeltaUsd = 0 ∧ order.initialCollateralDeltaAmount = 0) ∧
      ∃ (receivedWnt : Nat) (w₁ : World),
      let updated : Order :=
        { order with
          sizeDeltaUsd, triggerPrice, acceptablePrice, minOutputAmount
          isFrozen := false
          executionFee := order.executionFee + receivedWnt
          updatedAtBlock := env.blockNumber }
      StrictBank.recordTransferIn deployment.orderVault (TokenUtils.wnt w.dataStore) w =
        .ok (receivedWnt, w₁) ∧
      w' = { w₁ with dataStore := orderStore.set w₁.dataStore key updated } := by
  unfold updateOrder at h
  simp only [↓viewStore_bind_eq_ok, ↓Tx.lift_bind_eq_ok, ↓readStore_bind_eq_ok,
    Result.revertIf_eq_ok, Bool.not_eq_true] at h
  obtain ⟨_, -, _, hmarket, h⟩ := h
  obtain ⟨receivedWnt, w₁, hrecord, h⟩ := Tx.bind_eq_ok.mp h
  simp only [↓Tx.lift_bind_eq_ok, ↓viewStore_bind_eq_ok, writeStore_eq_ok, add_eq_ok] at h
  obtain ⟨_, ⟨-, rfl⟩, _, -, _, hnonempty, rfl⟩ := h
  obtain ⟨haccount, hnonempty⟩ := validateNonEmptyOrder_iff.mp hnonempty
  exact ⟨hmarket, haccount, hnonempty, receivedWnt, w₁, hrecord, rfl⟩

end OrderHandler

-- ---------------------------------------------------------------------------
-- Deposits
-- ---------------------------------------------------------------------------

/-- What is checked of a deposit when it is created. -/
structure Deposit.Valid (deposit : Deposit) : Prop where
  account : deposit.account ≠ 0
  receiver : deposit.receiver ≠ 0
  nonempty : ¬ (deposit.initialLongTokenAmount = 0 ∧ deposit.initialShortTokenAmount = 0)

namespace DepositUtils

/-- What a created deposit went through. -/
theorem createDeposit_eq_ok {depositVault account : Address} {params : CreateDepositParams}
    (h : createDeposit env depositVault account params w = .ok (key, w')) :
    ∃ (longAmount shortAmount fee : Nat) (marketToken : Address) (w₁ : World),
      (makeDeposit env account marketToken params longAmount shortAmount fee).Valid ∧
      recordDepositAmounts depositVault params w = .ok ((longAmount, shortAmount, fee), w₁) ∧
      w' = w₁.withRequest depositStore
        (makeDeposit env account marketToken params longAmount shortAmount fee) := by
  unfold createDeposit at h
  simp only [↓Tx.lift_bind_eq_ok, ↓viewStore_bind_eq_ok] at h
  obtain ⟨_, haccount, market, -, _, -, _, -, h⟩ := h
  obtain ⟨⟨longAmount, shortAmount, fee⟩, w₁, hrecord, h⟩ := Tx.bind_eq_ok.mp h
  simp only [↓Tx.lift_bind_eq_ok, ↓viewStore_bind_eq_ok] at h
  obtain ⟨_, hnonempty, _, hreceiver, _, -, _, -, h⟩ := h
  obtain ⟨_, w₂, hkey, h⟩ := Tx.bind_eq_ok.mp h
  obtain ⟨rfl, rfl⟩ := NonceUtils.getNextKey_eq_ok hkey
  simp only [↓writeStore_bind_eq_ok, Tx.pure_eq_ok] at h
  obtain ⟨-, rfl⟩ := h
  have hvalid : (makeDeposit env account market.marketToken params longAmount shortAmount
      fee).Valid :=
    ⟨Result.revertIf_eq_ok.mp haccount, Result.revertIf_eq_ok.mp hreceiver,
      Result.revertIf_eq_ok.mp hnonempty⟩
  exact ⟨longAmount, shortAmount, fee, market.marketToken, w₁, hvalid, hrecord, rfl⟩

/-- Removing a deposit takes it off its lists. -/
theorem removeDeposit_eq_ok {account : Address} (h : removeDeposit key account w = .ok (u, w')) :
    ∃ dataStore, depositStore.remove w.dataStore key account = .ok dataStore ∧
      w' = { w with dataStore } := by
  simp only [removeDeposit, ↓viewStore_bind_eq_ok, writeStore_eq_ok] at h
  obtain ⟨dataStore, hremove, rfl⟩ := h
  exact ⟨dataStore, hremove, rfl⟩

/-- What cancelling a deposit went through. -/
theorem cancelDeposit_eq_ok {depositVault keeper : Address}
    (h : cancelDeposit env depositVault key keeper w = .ok (u, w')) :
    let deposit := DepositStoreUtils.get w.dataStore key
    ∃ w₁ w₂ w₃,
      removeDeposit key deposit.account w = .ok ((), w₁) ∧
      (if deposit.initialLongTokenAmount > 0 then
        StrictBank.transferOutUnwrapping env depositVault deposit.initialLongToken deposit.account
          deposit.initialLongTokenAmount deposit.shouldUnwrapNativeToken
      else pure ()) w₁ = .ok ((), w₂) ∧
      (if deposit.initialShortTokenAmount > 0 then
        StrictBank.transferOutUnwrapping env depositVault deposit.initialShortToken deposit.account
          deposit.initialShortTokenAmount deposit.shouldUnwrapNativeToken
      else pure ()) w₂ = .ok ((), w₃) ∧
      GasUtils.payExecutionFee env depositVault deposit.executionFee keeper deposit.account w₃ =
        .ok ((), w') := by
  intro deposit
  unfold cancelDeposit at h
  simp only [↓readStore_bind_eq_ok, ↓Tx.lift_bind_eq_ok] at h
  obtain ⟨_, -, _, -, h⟩ := h
  obtain ⟨_, w₁, hremove, h⟩ := Tx.bind_eq_ok.mp h
  obtain ⟨_, w₂, hlong, h⟩ := Tx.bind_eq_ok.mp h
  obtain ⟨_, w₃, hshort, h⟩ := Tx.bind_eq_ok.mp h
  exact ⟨w₁, w₂, w₃, hremove, hlong, hshort, h⟩

end DepositUtils

namespace ExecuteDepositUtils

/-- The two swaps are paid by the vault, the rest is between the market and the depositor. -/
theorem executeDeposit_eq_ok {params : ExecuteDepositParams}
    (h : executeDeposit env params w = .ok (u, w')) :
    let deposit := DepositStoreUtils.get w.dataStore params.key
    ∃ (market : Market) (prices : MarketPrices) (longAmount shortAmount mintAmount : Nat)
      (w₁ w₂ w₃ w₄ : World),
      DepositUtils.removeDeposit params.key deposit.account w = .ok ((), w₁) ∧
      MarketUtils.getEnabledMarket w₁.dataStore deposit.market = .ok market ∧
      MarketUtils.getMarketPrices env market = .ok prices ∧
      swap env params deposit.longTokenSwapPath deposit.initialLongToken
        deposit.initialLongTokenAmount market.marketToken market.longToken
        deposit.uiFeeReceiver w₁ = .ok (longAmount, w₂) ∧
      swap env params deposit.shortTokenSwapPath deposit.initialShortToken
        deposit.initialShortTokenAmount market.marketToken market.shortToken
        deposit.uiFeeReceiver w₂ = .ok (shortAmount, w₃) ∧
      ¬ (longAmount = 0 ∧ shortAmount = 0) ∧
      depositAmounts env deposit market prices longAmount shortAmount w₃ =
        .ok (mintAmount, w₄) ∧
      GasUtils.payExecutionFee env params.depositVault deposit.executionFee params.keeper
        deposit.account w₄ = .ok ((), w') := by
  intro deposit
  unfold executeDeposit at h
  simp only [↓readStore_bind_eq_ok] at h
  obtain ⟨_, w₁, hremove, h⟩ := Tx.bind_eq_ok.mp h
  simp only [↓Tx.lift_bind_eq_ok, ↓viewStore_bind_eq_ok] at h
  obtain ⟨_, -, _, -, market, hmarket, prices, hprices, _, -, h⟩ := h
  obtain ⟨longAmount, w₂, hlong, h⟩ := Tx.bind_eq_ok.mp h
  obtain ⟨shortAmount, w₃, hshort, h⟩ := Tx.bind_eq_ok.mp h
  simp only [↓Tx.lift_bind_eq_ok, Result.revertIf_eq_ok] at h
  obtain ⟨_, hnonempty, h⟩ := h
  obtain ⟨mintAmount, w₄, hamounts, h⟩ := Tx.bind_eq_ok.mp h
  simp only [↓Tx.lift_bind_eq_ok, ↓Tx.view_bind_eq_ok] at h
  obtain ⟨_, -, _, -, hfee⟩ := h
  exact ⟨market, prices, longAmount, shortAmount, mintAmount, w₁, w₂, w₃, w₄, hremove, hmarket,
    hprices, hlong, hshort, hnonempty, hamounts, hfee⟩

end ExecuteDepositUtils

-- ---------------------------------------------------------------------------
-- Withdrawals
-- ---------------------------------------------------------------------------

/-- What is checked of a withdrawal when it is created. -/
structure Withdrawal.Valid (withdrawal : Withdrawal) : Prop where
  account : withdrawal.account ≠ 0
  receiver : withdrawal.receiver ≠ 0
  nonempty : withdrawal.marketTokenAmount ≠ 0

namespace WithdrawalUtils

/-- What a created withdrawal went through. -/
theorem createWithdrawal_eq_ok {withdrawalVault account : Address}
    {params : CreateWithdrawalParams}
    (h : createWithdrawal env withdrawalVault account params w = .ok (key, w')) :
    ∃ (wntAmount marketTokenAmount : Nat) (w₁ w₂ : World),
      (makeWithdrawal env account params marketTokenAmount wntAmount).Valid ∧
      StrictBank.recordTransferIn withdrawalVault (TokenUtils.wnt w.dataStore) w =
        .ok (wntAmount, w₁) ∧
      StrictBank.recordTransferIn withdrawalVault params.market w₁ =
        .ok (marketTokenAmount, w₂) ∧
      w' = w₂.withRequest withdrawalStore
        (makeWithdrawal env account params marketTokenAmount wntAmount) := by
  unfold createWithdrawal at h
  simp only [↓Tx.lift_bind_eq_ok, ↓readStore_bind_eq_ok] at h
  obtain ⟨_, haccount, h⟩ := h
  obtain ⟨wntAmount, w₁, hwnt, h⟩ := Tx.bind_eq_ok.mp h
  simp only [↓Tx.lift_bind_eq_ok] at h
  obtain ⟨_, -, _, hreceiver, h⟩ := h
  obtain ⟨marketTokenAmount, w₂, hmarket, h⟩ := Tx.bind_eq_ok.mp h
  simp only [↓Tx.lift_bind_eq_ok, ↓viewStore_bind_eq_ok] at h
  obtain ⟨_, hnonempty, _, -, _, -, _, -, _, -, _, -, h⟩ := h
  obtain ⟨_, w₃, hkey, h⟩ := Tx.bind_eq_ok.mp h
  obtain ⟨rfl, rfl⟩ := NonceUtils.getNextKey_eq_ok hkey
  simp only [↓writeStore_bind_eq_ok, Tx.pure_eq_ok] at h
  obtain ⟨-, rfl⟩ := h
  have hvalid : (makeWithdrawal env account params marketTokenAmount wntAmount).Valid :=
    ⟨Result.revertIf_eq_ok.mp haccount, Result.revertIf_eq_ok.mp hreceiver,
      Result.revertIf_eq_ok.mp hnonempty⟩
  exact ⟨wntAmount, marketTokenAmount, w₁, w₂, hvalid, hwnt, hmarket, rfl⟩

/-- Removing a withdrawal takes it off its lists. -/
theorem removeWithdrawal_eq_ok {account : Address}
    (h : removeWithdrawal key account w = .ok (u, w')) :
    ∃ dataStore, withdrawalStore.remove w.dataStore key account = .ok dataStore ∧
      w' = { w with dataStore } := by
  simp only [removeWithdrawal, ↓viewStore_bind_eq_ok, writeStore_eq_ok] at h
  obtain ⟨dataStore, hremove, rfl⟩ := h
  exact ⟨dataStore, hremove, rfl⟩

/-- What cancelling a withdrawal went through. -/
theorem cancelWithdrawal_eq_ok {withdrawalVault keeper : Address}
    (h : cancelWithdrawal env withdrawalVault key keeper w = .ok (u, w')) :
    let withdrawal := WithdrawalStoreUtils.get w.dataStore key
    ∃ w₁ w₂,
      removeWithdrawal key withdrawal.account w = .ok ((), w₁) ∧
      StrictBank.transferOutUnwrapping env withdrawalVault withdrawal.market withdrawal.account
        withdrawal.marketTokenAmount false w₁ = .ok ((), w₂) ∧
      GasUtils.payExecutionFee env withdrawalVault withdrawal.executionFee keeper
        withdrawal.account w₂ = .ok ((), w') := by
  intro withdrawal
  unfold cancelWithdrawal at h
  simp only [↓readStore_bind_eq_ok, ↓Tx.lift_bind_eq_ok] at h
  obtain ⟨_, -, _, -, h⟩ := h
  obtain ⟨_, w₁, hremove, h⟩ := Tx.bind_eq_ok.mp h
  obtain ⟨_, w₂, htransfer, h⟩ := Tx.bind_eq_ok.mp h
  exact ⟨w₁, w₂, hremove, htransfer, h⟩

/-- What executing a withdrawal went through. -/
theorem executeWithdrawal_eq_ok {params : ExecuteWithdrawalParams}
    (h : executeWithdrawal env params w = .ok (u, w')) :
    let withdrawal := WithdrawalStoreUtils.get w.dataStore params.key
    ∃ w₁ w₂,
      removeWithdrawal params.key withdrawal.account w = .ok ((), w₁) ∧
      _executeWithdrawal env params withdrawal w₁ = .ok ((), w₂) ∧
      GasUtils.payExecutionFee env params.withdrawalVault withdrawal.executionFee params.keeper
        withdrawal.account w₂ = .ok ((), w') := by
  intro withdrawal
  unfold executeWithdrawal at h
  simp only [↓readStore_bind_eq_ok] at h
  obtain ⟨_, w₁, hremove, h⟩ := Tx.bind_eq_ok.mp h
  simp only [↓Tx.lift_bind_eq_ok, ↓Tx.read_bind_eq_ok] at h
  obtain ⟨_, -, _, -, _, -, _, -, h⟩ := h
  obtain ⟨_, w₂, hexecute, hfee⟩ := Tx.bind_eq_ok.mp h
  exact ⟨w₁, w₂, hremove, hexecute, hfee⟩

end WithdrawalUtils

-- ---------------------------------------------------------------------------
-- Handlers
-- ---------------------------------------------------------------------------

section Handlers

variable {deployment : Deployment} {oracleParams : OracleBlockNumbers} {keeper msgSender : Address}

/-- An inner call runs, or leaves the state as it was. -/
theorem innerCall_eq_ok {x : Tx Unit} {result : Except (Revert Errors) Unit}
    (h : innerCall env x w = .ok (result, w')) :
    (result = .ok () ∧ x w = .ok ((), w')) ∨ ∃ error, result = .error error ∧ w' = w := by
  unfold innerCall at h
  rcases Tx.attempt_eq_ok.mp h with ⟨a, rfl, hrun⟩ | ⟨e, rfl, -, rfl⟩
  · split at hrun
    · exact .inl ⟨rfl, hrun⟩
    · cases hrun
  · exact .inr ⟨e, rfl, rfl⟩

namespace OrderHandler

/-- A cancelled order pays its fee to its own account. -/
theorem cancelOrder_eq_ok (h : cancelOrder env deployment key w = .ok (u, w')) :
    OrderUtils.cancelOrder env deployment.orderVault key
      (OrderStoreUtils.get w.dataStore key).account w = .ok (u, w') := by
  unfold cancelOrder at h
  simp only [↓readStore_bind_eq_ok, ↓viewStore_bind_eq_ok] at h
  obtain ⟨_, -, h⟩ := h
  obtain ⟨_, w₁, hcheck, h⟩ := Tx.bind_eq_ok.mp h
  have hsame : w₁ = w := by
    split at hcheck
    · exact (viewStore_eq_ok.mp hcheck).2.symm
    · exact (Tx.pure_eq_ok.mp hcheck).2.symm
  rw [hsame] at h
  exact h

/-- An order that cannot be executed is cancelled or frozen. -/
theorem _handleOrderError_eq_ok {error : Revert Errors}
    (h : _handleOrderError env deployment key keeper error w = .ok (u, w')) :
    OrderUtils.cancelOrder env deployment.orderVault key keeper w = .ok (u, w') ∨
      OrderUtils.freezeOrder env deployment.orderVault key keeper w = .ok (u, w') := by
  unfold _handleOrderError at h
  simp only [↓readStore_bind_eq_ok] at h
  split_ifs at h with hretry hcancel
  · cases h
  · exact .inl h
  · exact .inr h

/-- An execution goes through, or its error is handled. -/
theorem executeOrder_eq_ok
    (h : executeOrder env deployment key oracleParams keeper w = .ok (u, w')) :
    (∃ params, BaseOrderHandler._getExecuteOrderParams deployment w.dataStore key oracleParams
        keeper .None = .ok params ∧ OrderUtils.executeOrder env params w = .ok (u, w')) ∨
      ∃ error, _handleOrderError env deployment key keeper error w = .ok (u, w') := by
  unfold executeOrder at h
  simp only [↓viewStore_bind_eq_ok] at h
  obtain ⟨_, -, h⟩ := h
  obtain ⟨result, w₁, hinner, hrest⟩ := Tx.bind_eq_ok.mp h
  rcases innerCall_eq_ok hinner with ⟨rfl, hexecute⟩ | ⟨error, rfl, rfl⟩
  · obtain ⟨-, rfl⟩ := Tx.pure_eq_ok.mp hrest
    unfold _executeOrder at hexecute
    simp only [↓viewStore_bind_eq_ok, ↓Tx.lift_bind_eq_ok] at hexecute
    obtain ⟨params, hload, _, -, _, -, hexecute⟩ := hexecute
    exact .inl ⟨params, hload, hexecute⟩
  · exact .inr ⟨error, hrest⟩

end OrderHandler

/-- So with a deposit, which is cancelled where it fails. -/
theorem DepositHandler.executeDeposit_eq_ok
    (h : executeDeposit env deployment key oracleParams keeper w = .ok (u, w')) :
    ExecuteDepositUtils.executeDeposit env
        { depositVault := deployment.depositVault
          key
          minOracleBlockNumbers := oracleParams.minOracleBlockNumbers
          maxOracleBlockNumbers := oracleParams.maxOracleBlockNumbers
          keeper } w = .ok (u, w') ∨
      DepositUtils.cancelDeposit env deployment.depositVault key keeper w = .ok (u, w') := by
  unfold executeDeposit at h
  simp only [↓viewStore_bind_eq_ok] at h
  obtain ⟨_, -, h⟩ := h
  obtain ⟨result, w₁, hinner, hrest⟩ := Tx.bind_eq_ok.mp h
  rcases innerCall_eq_ok hinner with ⟨rfl, hexecute⟩ | ⟨error, rfl, rfl⟩
  · obtain ⟨-, rfl⟩ := Tx.pure_eq_ok.mp hrest
    unfold _executeDeposit at hexecute
    simp only [↓viewStore_bind_eq_ok] at hexecute
    obtain ⟨_, -, hexecute⟩ := hexecute
    exact .inl hexecute
  · dsimp only at hrest
    split_ifs at hrest with hretry
    · cases hrest
    · exact .inr hrest

/-- So with a withdrawal. -/
theorem WithdrawalHandler.executeWithdrawal_eq_ok
    (h : executeWithdrawal env deployment key oracleParams keeper w = .ok (u, w')) :
    WithdrawalUtils.executeWithdrawal env
        { withdrawalVault := deployment.withdrawalVault
          key
          minOracleBlockNumbers := oracleParams.minOracleBlockNumbers
          maxOracleBlockNumbers := oracleParams.maxOracleBlockNumbers
          keeper } w = .ok (u, w') ∨
      WithdrawalUtils.cancelWithdrawal env deployment.withdrawalVault key keeper w =
        .ok (u, w') := by
  unfold executeWithdrawal at h
  simp only [↓viewStore_bind_eq_ok] at h
  obtain ⟨_, -, h⟩ := h
  obtain ⟨result, w₁, hinner, hrest⟩ := Tx.bind_eq_ok.mp h
  rcases innerCall_eq_ok hinner with ⟨rfl, hexecute⟩ | ⟨error, rfl, rfl⟩
  · obtain ⟨-, rfl⟩ := Tx.pure_eq_ok.mp hrest
    unfold _executeWithdrawal at hexecute
    simp only [↓viewStore_bind_eq_ok] at hexecute
    obtain ⟨_, -, hexecute⟩ := hexecute
    exact .inl hexecute
  · dsimp only at hrest
    split_ifs at hrest with hretry
    · cases hrest
    · exact .inr hrest

namespace ExchangeRouter

/-- The router lets only the account update its order. -/
theorem updateOrder_eq_ok {sizeDeltaUsd acceptablePrice triggerPrice minOutputAmount : Nat}
    (h : updateOrder env deployment msgSender key sizeDeltaUsd acceptablePrice triggerPrice
      minOutputAmount w = .ok (u, w')) :
    OrderHandler.updateOrder env deployment key sizeDeltaUsd acceptablePrice triggerPrice
      minOutputAmount (OrderStoreUtils.get w.dataStore key) w = .ok (u, w') := by
  unfold updateOrder at h
  simp only [↓readStore_bind_eq_ok, ↓Tx.lift_bind_eq_ok] at h
  obtain ⟨_, -, h⟩ := h
  exact h

/-- It lets only an account cancel. -/
theorem cancelOrder_eq_ok (h : cancelOrder env deployment msgSender key w = .ok (u, w')) :
    (OrderStoreUtils.get w.dataStore key).account ≠ 0 ∧
      OrderHandler.cancelOrder env deployment key w = .ok (u, w') := by
  unfold cancelOrder at h
  simp only [↓readStore_bind_eq_ok, ↓Tx.lift_bind_eq_ok, Result.revertIf_eq_ok] at h
  obtain ⟨_, haccount, _, -, h⟩ := h
  exact ⟨haccount, h⟩

/-- The fee of a cancelled deposit is paid to its account. -/
theorem cancelDeposit_eq_ok (h : cancelDeposit env deployment msgSender key w = .ok (u, w')) :
    ∃ receiver, DepositUtils.cancelDeposit env deployment.depositVault key receiver w =
      .ok (u, w') := by
  unfold cancelDeposit DepositHandler.cancelDeposit at h
  simp only [↓readStore_bind_eq_ok, ↓Tx.lift_bind_eq_ok, ↓viewStore_bind_eq_ok] at h
  obtain ⟨_, -, _, -, _, -, _, -, h⟩ := h
  exact ⟨_, h⟩

/-- So is that of a cancelled withdrawal. -/
theorem cancelWithdrawal_eq_ok
    (h : cancelWithdrawal env deployment msgSender key w = .ok (u, w')) :
    ∃ receiver, WithdrawalUtils.cancelWithdrawal env deployment.withdrawalVault key receiver w =
      .ok (u, w') := by
  unfold cancelWithdrawal WithdrawalHandler.cancelWithdrawal at h
  simp only [↓readStore_bind_eq_ok, ↓Tx.lift_bind_eq_ok, ↓viewStore_bind_eq_ok] at h
  obtain ⟨_, -, _, -, _, -, h⟩ := h
  exact ⟨_, h⟩

end ExchangeRouter

end Handlers

end GmxSynthetics
