import GmxSynthetics.Bank.Delivery
import GmxSynthetics.Exchange.RequestAuthority

/-!
# Requests can be taken back

An account can cancel its pending request once the request has reached its age, and is paid back
all that the vault holds for it. No price, no keeper and no other request stands in the way: what
was checked when the request was made is all that cancelling checks again, and the vault is
solvent.

* `exchange_valid` — every pending request is one that could be made;
* `Cancellable` — what the settings, the block and the token contracts must allow;
* `requests_cancellable` — then the request is cancelled and paid back, in every state reached.
-/

namespace GmxSynthetics

open Evm BaseOrderUtils

variable {env : Env} {deployment : Deployment} {w w' : World} {call : Call} {kind : RequestKind}
  {key : StoreKey} {u : Unit}

-- ---------------------------------------------------------------------------
-- Valid requests
-- ---------------------------------------------------------------------------

/-- What is checked of a request when it is created. -/
def RequestKind.Valid : (kind : RequestKind) → kind.Record → Prop
  | .order, (record : Order) => record.Valid
  | .deposit, (record : Deposit) => record.Valid
  | .withdrawal, (record : Withdrawal) => record.Valid

theorem RequestKind.Valid.account_ne {record : kind.Record} (h : kind.Valid record) :
    kind.store.account record ≠ 0 := by
  cases kind with
  | order => exact Order.Valid.account h
  | deposit => exact Deposit.Valid.account h
  | withdrawal => exact Withdrawal.Valid.account h

/-- No call makes a request that is not valid of one that is, or of nothing. -/
theorem RequestChange.valid {request : Option kind.Record} {record : kind.Record}
    (h : RequestChange env key call kind request (some record))
    (hvalid : ∀ record, request = some record → kind.Valid record) : kind.Valid record := by
  cases h with
  | stays => exact hvalid _ rfl
  | orderMade _ _ _ _ hmade => exact hmade
  | orderUpdated order _ _ _ _ _ _ _ _ hnonempty =>
    have hold : order.Valid := hvalid order rfl
    show Order.Valid _
    exact ⟨hold.account, hold.receiver, hnonempty⟩
  | orderFrozen order =>
    have hold : order.Valid := hvalid order rfl
    show Order.Valid _
    exact ⟨hold.account, hold.receiver, hold.nonempty⟩
  | depositMade _ _ _ _ _ _ hmade => exact hmade
  | withdrawalMade _ _ _ _ hmade => exact hmade

/-- Every pending request is valid, in every state that is reached. -/
theorem exchange_valid (hsane : deployment.Sane) (hreach : (exchange deployment).Reachable w)
    {record : kind.Record} (hpending : kind.pending w.dataStore key = some record) :
    kind.Valid record := by
  have hall : ∀ (kind : RequestKind) (key : StoreKey) (record : kind.Record),
      kind.pending w.dataStore key = some record → kind.Valid record := by
    refine Machine.Reachable.invariant (P := fun w => ∀ (kind : RequestKind) (key : StoreKey)
      (record : kind.Record), kind.pending w.dataStore key = some record → kind.Valid record)
      ?_ ?_ hreach
    · intro w hinit kind key record hpending
      have hmem := (RequestKind.pending_eq_some hpending).1
      rw [hinit.requests kind] at hmem
      exact absurd hmem List.not_mem_nil
    · intro action w₁ w₂ hreach₁ hnext ih kind key record hpending
      have hw₁ := (exchange_escrowed hsane hreach₁).toSettleable
      by_cases hcall : ∃ env call, action = .call env call
      · obtain ⟨env, call, rfl⟩ := hcall
        have hchange := Call.changes hw₁ hnext kind key
        rw [hpending] at hchange
        exact hchange.valid (ih kind key)
      · simp only [not_exists] at hcall
        rw [((exchange_sameRequests hw₁ hcall hnext).same kind).pending] at hpending
        exact ih kind key record hpending
  exact hall kind key record hpending

-- ---------------------------------------------------------------------------
-- Removing
-- ---------------------------------------------------------------------------

/-- A stored record can be removed, which leaves the settings of payments. -/
theorem RecordStore.remove_of_mem {α : Type} (store : RecordStore α) (account : Address)
    (hkey : key.slot = .request) (hlists : ∀ slot ∈ SamePayments.slots, slot ∉ store.listSlots)
    (hmem : key ∈ store.keys w.dataStore) :
    ∃ dataStore, store.remove w.dataStore key account = .ok dataStore ∧
      SamePayments w.dataStore dataStore := by
  have hremove : ∃ dataStore, store.remove w.dataStore key account = .ok dataStore := by
    rw [store.remove_eq]
    refine ⟨_, Evm.Result.revertIf_bind_of_not ?_⟩
    rw [not_not]
    exact decide_eq_true hmem
  obtain ⟨dataStore, hremove⟩ := hremove
  have hsame : World.SameOff (.request :: store.listSlots) w { w with dataStore } :=
    store.remove_sameOff (by rw [hkey]; exact List.mem_cons_self) (List.subset_cons_self _ _)
      hremove
  refine ⟨dataStore, hremove, SamePayments.of_sameOff hsame fun slot hslot hmem => ?_⟩
  rcases List.mem_cons.mp hmem with rfl | hmem
  · exact absurd hslot (by decide)
  · exact hlists slot hslot hmem

-- ---------------------------------------------------------------------------
-- Cancelling
-- ---------------------------------------------------------------------------

/-- What an order holds is sent back. -/
theorem Payable.collateral {orderVault : Address} {order : Order} {rest : Address → Nat}
    (h : Payable env orderVault order.account (collateralEscrow order + rest) order.executionFee
      w) :
    ∃ w', (if (isIncreaseOrder order.orderType = true ∨ isSwapOrder order.orderType = true) ∧
          order.initialCollateralDeltaAmount > 0 then
        StrictBank.transferOutUnwrapping env orderVault order.initialCollateralToken order.account
          order.initialCollateralDeltaAmount order.shouldUnwrapNativeToken
      else pure ()) w = .ok ((), w') ∧
      PaidOut env orderVault order.account (collateralEscrow order) w w' ∧
      Payable env orderVault order.account rest order.executionFee w' := by
  unfold collateralEscrow at h ⊢
  by_cases hholds : isIncreaseOrder order.orderType = true ∨ isSwapOrder order.orderType = true
  · simp only [if_pos hholds] at h ⊢
    exact h.transferOut (fun hnone => Nat.eq_zero_of_not_pos fun hpos => hnone ⟨hholds, hpos⟩) _
  · simp only [if_neg hholds] at h ⊢
    have hnone : PaidOut env orderVault order.account 0 w w := .refl w
    exact ⟨w, by rw [if_neg fun h => hholds h.1]; rfl, hnone, h.paid hnone⟩

/-- The order's collateral is sent back before it is removed. -/
theorem OrderUtils.cancelOrder_paid {orderVault : Address} (hkey : key.slot = .request)
    (hmem : key ∈ orderStore.keys w.dataStore)
    (hvalid : (OrderStoreUtils.get w.dataStore key).Valid)
    (h : Payable env orderVault (OrderStoreUtils.get w.dataStore key).account
      (orderEscrow (TokenUtils.wnt w.dataStore) (OrderStoreUtils.get w.dataStore key))
      (OrderStoreUtils.get w.dataStore key).executionFee w) :
    ∃ w', cancelOrder env orderVault key (OrderStoreUtils.get w.dataStore key).account w =
        .ok ((), w') ∧
      PaidOut env orderVault (OrderStoreUtils.get w.dataStore key).account
        (orderEscrow (TokenUtils.wnt w.dataStore) (OrderStoreUtils.get w.dataStore key)) w w' := by
  obtain ⟨w₁, htransfer, hpaid, hleft⟩ := Payable.collateral h
  have hstore : w₁.dataStore = w.dataStore := World.SameOff.dataStore_eq (Writes.ite
    (StrictBank.transferOutUnwrapping_writes env (List.mem_singleton_self _) _ _ _ _ _) (.pure _)
    htransfer)
  obtain ⟨dataStore, hremove, hsettings⟩ := orderStore.remove_of_mem
    (OrderStoreUtils.get w.dataStore key).account hkey (by decide) (hstore ▸ hmem)
  have hremoved : PaidOut env orderVault (OrderStoreUtils.get w.dataStore key).account 0 w₁
      { w₁ with dataStore } := .of_balances_eq hsettings rfl
  have hsofar := hpaid.trans hremoved
  rw [← zero_add (tokenAmount _ _)] at hleft
  have hleft := hleft.paid hremoved
  rw [← hsofar.settings.wnt] at hleft
  obtain ⟨w', hfee, hpaidFee⟩ := hleft.payExecutionFee
  refine ⟨w', ?_, ?_⟩
  · unfold cancelOrder
    simp only [↓readStore_bind_eq_ok, ↓Tx.lift_bind_eq_ok,
      validateNonEmptyOrder_iff.mpr ⟨hvalid.account, hvalid.nonempty⟩, exists_const, true_and]
    rw [Tx.bind_of_ok htransfer]
    have hrun : removeOrder key (OrderStoreUtils.get w.dataStore key).account w₁ =
        .ok ((), { w₁ with dataStore }) := by
      simp only [removeOrder, ↓viewStore_bind_eq_ok, writeStore_eq_ok]
      exact ⟨dataStore, hremove, rfl⟩
    rw [Tx.bind_of_ok hrun]
    exact hfee
  · have hall := hsofar.trans hpaidFee
    rw [add_zero, hsofar.settings.wnt] at hall
    exact hall

/-- The deposit is removed, and both of its tokens are sent back. -/
theorem DepositUtils.cancelDeposit_paid {depositVault : Address} (hkey : key.slot = .request)
    (hmem : key ∈ depositStore.keys w.dataStore)
    (hvalid : (DepositStoreUtils.get w.dataStore key).Valid)
    (h : Payable env depositVault (DepositStoreUtils.get w.dataStore key).account
      (depositEscrow (TokenUtils.wnt w.dataStore) (DepositStoreUtils.get w.dataStore key))
      (DepositStoreUtils.get w.dataStore key).executionFee w) :
    ∃ w', cancelDeposit env depositVault key (DepositStoreUtils.get w.dataStore key).account w =
        .ok ((), w') ∧
      PaidOut env depositVault (DepositStoreUtils.get w.dataStore key).account
        (depositEscrow (TokenUtils.wnt w.dataStore) (DepositStoreUtils.get w.dataStore key))
        w w' := by
  obtain ⟨dataStore, hremove, hsettings⟩ := depositStore.remove_of_mem
    (DepositStoreUtils.get w.dataStore key).account hkey (by decide) hmem
  have hremoved : PaidOut env depositVault (DepositStoreUtils.get w.dataStore key).account 0 w
      { w with dataStore } := .of_balances_eq hsettings rfl
  unfold depositEscrow at h ⊢
  rw [← zero_add (_ + _ + _)] at h
  have h := h.paid hremoved
  rw [add_assoc] at h
  obtain ⟨w₂, hlong, hpaidLong, h⟩ := h.transferOut
    (c := (DepositStoreUtils.get w.dataStore key).initialLongTokenAmount > 0)
    (fun hnone => Nat.eq_zero_of_not_pos hnone)
    (DepositStoreUtils.get w.dataStore key).shouldUnwrapNativeToken
  obtain ⟨w₃, hshort, hpaidShort, h⟩ := h.transferOut
    (c := (DepositStoreUtils.get w.dataStore key).initialShortTokenAmount > 0)
    (fun hnone => Nat.eq_zero_of_not_pos hnone)
    (DepositStoreUtils.get w.dataStore key).shouldUnwrapNativeToken
  have hpaid := (hremoved.trans hpaidLong).trans hpaidShort
  rw [← hpaid.settings.wnt] at h
  obtain ⟨w', hfee, hpaidFee⟩ := h.payExecutionFee
  refine ⟨w', ?_, ?_⟩
  · unfold cancelDeposit
    simp only [↓readStore_bind_eq_ok, ↓Tx.lift_bind_eq_ok, Result.revertIf_eq_ok, hvalid.account,
      hvalid.nonempty, not_false_eq_true, exists_const, true_and]
    have hrun : removeDeposit key (DepositStoreUtils.get w.dataStore key).account w =
        .ok ((), { w with dataStore }) := by
      simp only [removeDeposit, ↓viewStore_bind_eq_ok, writeStore_eq_ok]
      exact ⟨dataStore, hremove, rfl⟩
    rw [Tx.bind_of_ok hrun, Tx.bind_of_ok hlong, Tx.bind_of_ok hshort]
    exact hfee
  · have hall := hpaid.trans hpaidFee
    rw [zero_add, hpaid.settings.wnt] at hall
    exact hall

/-- The withdrawal is removed, and its market tokens are sent back. -/
theorem WithdrawalUtils.cancelWithdrawal_paid {withdrawalVault : Address}
    (hkey : key.slot = .request) (hmem : key ∈ withdrawalStore.keys w.dataStore)
    (hvalid : (WithdrawalStoreUtils.get w.dataStore key).Valid)
    (h : Payable env withdrawalVault (WithdrawalStoreUtils.get w.dataStore key).account
      (withdrawalEscrow (TokenUtils.wnt w.dataStore) (WithdrawalStoreUtils.get w.dataStore key))
      (WithdrawalStoreUtils.get w.dataStore key).executionFee w) :
    ∃ w', cancelWithdrawal env withdrawalVault key
        (WithdrawalStoreUtils.get w.dataStore key).account w = .ok ((), w') ∧
      PaidOut env withdrawalVault (WithdrawalStoreUtils.get w.dataStore key).account
        (withdrawalEscrow (TokenUtils.wnt w.dataStore) (WithdrawalStoreUtils.get w.dataStore key))
        w w' := by
  obtain ⟨dataStore, hremove, hsettings⟩ := withdrawalStore.remove_of_mem
    (WithdrawalStoreUtils.get w.dataStore key).account hkey (by decide) hmem
  have hremoved : PaidOut env withdrawalVault (WithdrawalStoreUtils.get w.dataStore key).account 0 w
      { w with dataStore } := .of_balances_eq hsettings rfl
  unfold withdrawalEscrow at h ⊢
  rw [← zero_add (_ + _)] at h
  obtain ⟨w₂, htransfer, hpaidTokens, h⟩ := (h.paid hremoved).transferOut (c := True)
    (fun hnone => absurd trivial hnone) false
  rw [if_pos trivial] at htransfer
  have hpaid := hremoved.trans hpaidTokens
  rw [← hpaid.settings.wnt] at h
  obtain ⟨w', hfee, hpaidFee⟩ := h.payExecutionFee
  refine ⟨w', ?_, ?_⟩
  · unfold cancelWithdrawal
    simp only [↓readStore_bind_eq_ok, ↓Tx.lift_bind_eq_ok, Result.revertIf_eq_ok, hvalid.account,
      hvalid.nonempty, not_false_eq_true, exists_const, true_and]
    have hrun : removeWithdrawal key (WithdrawalStoreUtils.get w.dataStore key).account w =
        .ok ((), { w with dataStore }) := by
      simp only [removeWithdrawal, ↓viewStore_bind_eq_ok, writeStore_eq_ok]
      exact ⟨dataStore, hremove, rfl⟩
    rw [Tx.bind_of_ok hrun, Tx.bind_of_ok htransfer]
    exact hfee
  · have hall := hpaid.trans hpaidFee
    rw [zero_add, hpaid.settings.wnt] at hall
    exact hall

-- ---------------------------------------------------------------------------
-- The account's call
-- ---------------------------------------------------------------------------

namespace RequestKind

/-- The call with which an account takes a request back. -/
def cancel (msgSender : Address) (key : StoreKey) : RequestKind → Call
  | .order => .cancelOrder msgSender key
  | .deposit => .cancelDeposit msgSender key
  | .withdrawal => .cancelWithdrawal msgSender key

/-- The setting that disables the call. -/
def cancelFeature (deployment : Deployment) : (kind : RequestKind) → kind.Record → Key
  | .order, (record : Order) =>
    Keys.cancelOrderFeatureDisabledKey deployment.orderHandler record.orderType.toUint
  | .deposit, _ => Keys.cancelDepositFeatureDisabledKey deployment.depositHandler
  | .withdrawal, _ => Keys.cancelWithdrawalFeatureDisabledKey deployment.withdrawalHandler

/-- The first block of the call. An order that waits for a price need not reach an age. -/
def cancellableFrom (dataStore : DataStore) : (kind : RequestKind) → kind.Record → Nat
  | .order, (record : Order) =>
    if isMarketOrder record.orderType then
      record.updatedAtBlock + dataStore.getUint (.base .REQUEST_EXPIRATION_BLOCK_AGE)
    else 0
  | .deposit, (record : Deposit) =>
    record.updatedAtBlock + dataStore.getUint (.base .REQUEST_EXPIRATION_BLOCK_AGE)
  | .withdrawal, (record : Withdrawal) =>
    record.updatedAtBlock + dataStore.getUint (.base .REQUEST_EXPIRATION_BLOCK_AGE)

def executionFee : (kind : RequestKind) → kind.Record → Nat
  | .order, (record : Order) => record.executionFee
  | .deposit, (record : Deposit) => record.executionFee
  | .withdrawal, (record : Withdrawal) => record.executionFee

end RequestKind

/-- The account may call now, and can be sent its tokens. -/
structure Cancellable (env : Env) (deployment : Deployment) (kind : RequestKind)
    (record : kind.Record) (w : World) : Prop where
  enabled : FeatureUtils.isFeatureDisabled w.dataStore (kind.cancelFeature deployment record) =
    false
  aged : kind.cancellableFrom w.dataStore record ≤ env.blockNumber
  away : kind.store.account record ≠ kind.vault deployment
  deliverable : ∀ token, kind.owed (TokenUtils.wnt w.dataStore) record token ≠ 0 →
    Deliverable env w.dataStore token (kind.store.account record)
  fee : ∃ fee, GasUtils.getExecutionFeeForKeeper env w.dataStore (kind.executionFee record) =
    .ok fee

namespace Cancellable

variable {record : kind.Record}

/-- A solvent vault can pay what it holds for the request. -/
theorem payable (h : Cancellable env deployment kind record w) (hw : Escrowed deployment w)
    (hvalid : kind.Valid record) (hpending : kind.pending w.dataStore key = some record) :
    Payable env (kind.vault deployment) (kind.store.account record)
      (kind.owed (TokenUtils.wnt w.dataStore) record) (kind.executionFee record) w where
  account_ne := hvalid.account_ne
  away := h.away
  held token := by
    obtain ⟨hmem, rfl⟩ := RequestKind.pending_eq_some hpending
    have hle : (kind.escrow deployment w).owed key token ≤ (kind.escrow deployment w).total token :=
      List.single_le_sum (fun _ _ => Nat.zero_le _) _ (List.mem_map.mpr ⟨key, hmem, rfl⟩)
    exact hle.trans ((hw.solvent kind).total_le_held token)
  deliverable := h.deliverable
  fee := h.fee

end Cancellable

theorem FeatureUtils.validateFeature_eq_ok {dataStore : DataStore} {feature : Key}
    (h : isFeatureDisabled dataStore feature = false) :
    validateFeature dataStore feature = .ok () :=
  Result.revertIf_eq_ok.mpr (by simp [h])

/-- A request that has reached its age passes the check. -/
theorem ExchangeUtils.validateRequestCancellation_eq_ok {createdAtBlock : Nat}
    {requestType : String}
    (h : createdAtBlock + w.dataStore.getUint (.base .REQUEST_EXPIRATION_BLOCK_AGE) ≤
      env.blockNumber) :
    validateRequestCancellation env w.dataStore createdAtBlock requestType = .ok () := by
  simp only [validateRequestCancellation, Result.bind_eq_ok, sub_eq_ok, Result.revertIf_eq_ok]
  exact ⟨_, ⟨by omega, rfl⟩, by omega⟩

theorem ExchangeRouter.cancelOrder_paid (hkey : key.slot = .request)
    (hmem : key ∈ orderStore.keys w.dataStore)
    (hvalid : (OrderStoreUtils.get w.dataStore key).Valid)
    (hcancellable : Cancellable env deployment .order (OrderStoreUtils.get w.dataStore key) w)
    (h : Payable env deployment.orderVault (OrderStoreUtils.get w.dataStore key).account
      (orderEscrow (TokenUtils.wnt w.dataStore) (OrderStoreUtils.get w.dataStore key))
      (OrderStoreUtils.get w.dataStore key).executionFee w) :
    ∃ w', cancelOrder env deployment (OrderStoreUtils.get w.dataStore key).account key w =
        .ok ((), w') ∧
      PaidOut env deployment.orderVault (OrderStoreUtils.get w.dataStore key).account
        (orderEscrow (TokenUtils.wnt w.dataStore) (OrderStoreUtils.get w.dataStore key)) w w' := by
  obtain ⟨w', hcancel, hpaid⟩ := OrderUtils.cancelOrder_paid hkey hmem hvalid h
  refine ⟨w', ?_, hpaid⟩
  have hage : (if isMarketOrder (OrderStoreUtils.get w.dataStore key).orderType then
      viewStore fun dataStore => ExchangeUtils.validateRequestCancellation env dataStore
        (OrderStoreUtils.get w.dataStore key).updatedAtBlock "Order"
      else pure () : Tx Unit) w = .ok ((), w) := by
    have haged : (if isMarketOrder (OrderStoreUtils.get w.dataStore key).orderType then
        (OrderStoreUtils.get w.dataStore key).updatedAtBlock +
          w.dataStore.getUint (.base .REQUEST_EXPIRATION_BLOCK_AGE)
      else 0) ≤ env.blockNumber := hcancellable.aged
    split_ifs with hmarket
    · rw [if_pos hmarket] at haged
      exact viewStore_eq_ok.mpr ⟨ExchangeUtils.validateRequestCancellation_eq_ok haged, rfl⟩
    · rfl
  unfold cancelOrder OrderHandler.cancelOrder
  simp only [↓readStore_bind_eq_ok, ↓Tx.lift_bind_eq_ok, ↓viewStore_bind_eq_ok,
    Result.revertIf_eq_ok, hvalid.account, ne_eq, not_true_eq_false, not_false_eq_true,
    exists_const, true_and]
  refine ⟨(), FeatureUtils.validateFeature_eq_ok hcancellable.enabled, ?_⟩
  rw [Tx.bind_of_ok hage]
  exact hcancel

theorem ExchangeRouter.cancelDeposit_paid (hkey : key.slot = .request)
    (hmem : key ∈ depositStore.keys w.dataStore)
    (hvalid : (DepositStoreUtils.get w.dataStore key).Valid)
    (hcancellable : Cancellable env deployment .deposit (DepositStoreUtils.get w.dataStore key) w)
    (h : Payable env deployment.depositVault (DepositStoreUtils.get w.dataStore key).account
      (depositEscrow (TokenUtils.wnt w.dataStore) (DepositStoreUtils.get w.dataStore key))
      (DepositStoreUtils.get w.dataStore key).executionFee w) :
    ∃ w', cancelDeposit env deployment (DepositStoreUtils.get w.dataStore key).account key w =
        .ok ((), w') ∧
      PaidOut env deployment.depositVault (DepositStoreUtils.get w.dataStore key).account
        (depositEscrow (TokenUtils.wnt w.dataStore) (DepositStoreUtils.get w.dataStore key))
        w w' := by
  obtain ⟨w', hcancel, hpaid⟩ := DepositUtils.cancelDeposit_paid hkey hmem hvalid h
  refine ⟨w', ?_, hpaid⟩
  unfold cancelDeposit DepositHandler.cancelDeposit
  simp only [↓readStore_bind_eq_ok, ↓Tx.lift_bind_eq_ok, ↓viewStore_bind_eq_ok,
    Result.revertIf_eq_ok, hvalid.account, ne_eq, not_true_eq_false, not_false_eq_true,
    exists_const, true_and]
  exact ⟨(), FeatureUtils.validateFeature_eq_ok hcancellable.enabled, (),
    ExchangeUtils.validateRequestCancellation_eq_ok hcancellable.aged, hcancel⟩

theorem ExchangeRouter.cancelWithdrawal_paid (hkey : key.slot = .request)
    (hmem : key ∈ withdrawalStore.keys w.dataStore)
    (hvalid : (WithdrawalStoreUtils.get w.dataStore key).Valid)
    (hcancellable :
      Cancellable env deployment .withdrawal (WithdrawalStoreUtils.get w.dataStore key) w)
    (h : Payable env deployment.withdrawalVault (WithdrawalStoreUtils.get w.dataStore key).account
      (withdrawalEscrow (TokenUtils.wnt w.dataStore) (WithdrawalStoreUtils.get w.dataStore key))
      (WithdrawalStoreUtils.get w.dataStore key).executionFee w) :
    ∃ w', cancelWithdrawal env deployment (WithdrawalStoreUtils.get w.dataStore key).account key
        w = .ok ((), w') ∧
      PaidOut env deployment.withdrawalVault (WithdrawalStoreUtils.get w.dataStore key).account
        (withdrawalEscrow (TokenUtils.wnt w.dataStore) (WithdrawalStoreUtils.get w.dataStore key))
        w w' := by
  obtain ⟨w', hcancel, hpaid⟩ := WithdrawalUtils.cancelWithdrawal_paid hkey hmem hvalid h
  refine ⟨w', ?_, hpaid⟩
  unfold cancelWithdrawal WithdrawalHandler.cancelWithdrawal
  simp only [↓readStore_bind_eq_ok, ↓Tx.lift_bind_eq_ok, ↓viewStore_bind_eq_ok,
    Result.revertIf_eq_ok, ne_eq, not_true_eq_false, not_false_eq_true, exists_const, true_and]
  exact ⟨(), FeatureUtils.validateFeature_eq_ok hcancellable.enabled, (),
    ExchangeUtils.validateRequestCancellation_eq_ok hcancellable.aged, hcancel⟩

/-- **Requests can be taken back.** In every state that is reached, the account of a pending request
can cancel it, as soon as it has its age and unless cancelling is switched off. The account then has
all that the vault held for the request, of every token that it takes. -/
theorem requests_cancellable (hsane : deployment.Sane)
    (hreach : (exchange deployment).Reachable w) {record : kind.Record}
    (hpending : kind.pending w.dataStore key = some record)
    (hcancellable : Cancellable env deployment kind record w) :
    ∃ w', (exchange deployment).next
        (.call env (kind.cancel (kind.store.account record) key)) w w' ∧
      kind.pending w'.dataStore key = none ∧
      ∀ token ≠ TokenUtils.wnt w.dataStore,
        env.transferAccepted token (kind.store.account record) = true →
        w.balances token (kind.store.account record) +
            kind.owed (TokenUtils.wnt w.dataStore) record token ≤
          w'.balances token (kind.store.account record) := by
  have hw := exchange_escrowed hsane hreach
  have hkeys := hw.requestKeys
  have hvalid := exchange_valid hsane hreach hpending
  have hpayable := hcancellable.payable hw hvalid hpending
  obtain ⟨hmem, rfl⟩ := RequestKind.pending_eq_some hpending
  have hkey := hkeys.slot hmem
  cases kind with
  | order =>
    obtain ⟨w', hrun, hpaid⟩ :=
      ExchangeRouter.cancelOrder_paid hkey hmem hvalid hcancellable hpayable
    have hdrops := OrderUtils.cancelOrder_drops hkeys
      (OrderHandler.cancelOrder_eq_ok (ExchangeRouter.cancelOrder_eq_ok hrun).2)
    exact ⟨w', hrun, hdrops.pending_self hkeys, hpaid.received⟩
  | deposit =>
    obtain ⟨w', hrun, hpaid⟩ :=
      ExchangeRouter.cancelDeposit_paid hkey hmem hvalid hcancellable hpayable
    obtain ⟨_, hcancel⟩ := ExchangeRouter.cancelDeposit_eq_ok hrun
    have hdrops := DepositUtils.cancelDeposit_drops hkeys hcancel
    exact ⟨w', hrun, hdrops.pending_self hkeys, hpaid.received⟩
  | withdrawal =>
    obtain ⟨w', hrun, hpaid⟩ :=
      ExchangeRouter.cancelWithdrawal_paid hkey hmem hvalid hcancellable hpayable
    obtain ⟨_, hcancel⟩ := ExchangeRouter.cancelWithdrawal_eq_ok hrun
    have hdrops := WithdrawalUtils.cancelWithdrawal_drops hkeys hcancel
    exact ⟨w', hrun, hdrops.pending_self hkeys, hpaid.received⟩

/-- A swap order is created and taken back with its 100 tokens, once the gas limits of the
transfers are set. -/
theorem requests_cancellable_createOrder :
    ∃ w w', (exchange escrowDeployment).Reachable w ∧
      (exchange escrowDeployment).next
        (.call (Env.plain 1 fun _ => ⟨1, 1⟩) (.cancelOrder 9 (.request 1))) w w' ∧
      RequestKind.order.pending w'.dataStore (.request 1) = none ∧
      w.balances 4 9 + 100 ≤ w'.balances 4 9 := by
  let env := Env.plain 1 fun _ => ⟨1, 1⟩
  let order := OrderUtils.makeOrder env 9 escrowSwap 100 5
  let configure (dataStore : DataStore) : DataStore :=
    (dataStore.setUint (Keys.tokenTransferGasLimit 4) 1).setUint (Keys.tokenTransferGasLimit 3) 1
  obtain ⟨⟨u, w₁⟩, hrun, hmem, horder, henabled, haged, hfee, hwnt, hlimits⟩ :=
    (by decide +kernel :
      Evm.Result.Satisfies ((Call.createOrder 9 escrowSwap).run env escrowDeployment escrowWorld)
        fun result =>
          let dataStore := configure result.2.dataStore
          .request 1 ∈ orderStore.keys dataStore ∧
          OrderStoreUtils.get dataStore (.request 1) = order ∧
          FeatureUtils.isFeatureDisabled dataStore
            (RequestKind.cancelFeature escrowDeployment .order order) = false ∧
          RequestKind.cancellableFrom dataStore .order order ≤ env.blockNumber ∧
          GasUtils.getExecutionFeeForKeeper env dataStore 5 = .ok 0 ∧
          TokenUtils.wnt dataStore = 3 ∧
          ∀ token ∈ [3, 4], dataStore.getUint (Keys.tokenTransferGasLimit token) ≠ 0).exists
  let w : World := { w₁ with dataStore := configure w₁.dataStore }
  have hlimit (token : Address) :
      DataStore.ChangesWithin [.constant .TOKEN_TRANSFER_GAS_LIMIT]
        (·.setUint (Keys.tokenTransferGasLimit token) 1) :=
    .setUint (show Slot.constant .TOKEN_TRANSFER_GAS_LIMIT ∈ _ by decide) 1
  have houtside : Outside escrowDeployment w₁ w :=
    { writes :=
        ⟨[.constant .TOKEN_TRANSFER_GAS_LIMIT], (hlimit 4).comp (hlimit 3) w₁, by decide⟩
      held := fun _ _ => Nat.le_refl _
      recorded := fun _ => rfl }
  have hfresh : (exchange escrowDeployment).Reachable escrowWorld := .init escrowWorld_fresh
  have hcreated : (exchange escrowDeployment).Reachable w₁ :=
    hfresh.next (i := Action.call env (.createOrder 9 escrowSwap)) hrun
  have hreach : (exchange escrowDeployment).Reachable w :=
    hcreated.next (i := Action.outside) houtside
  have hpending : RequestKind.order.pending w.dataStore (.request 1) = some order :=
    (RequestKind.pending_of_mem .order hmem).trans (congrArg some horder)
  have howed : RequestKind.order.owed (TokenUtils.wnt w.dataStore) order =
      tokenAmount 4 100 + tokenAmount 3 5 := congrArg (orderEscrow · order) hwnt
  have hcancellable : Cancellable env escrowDeployment .order order w :=
    { enabled := henabled
      aged := haged
      away := by decide
      deliverable := fun token hne => by
        rw [howed] at hne
        have hmem : token ∈ [3, 4] := by
          by_contra hmem
          simp only [List.mem_cons, List.not_mem_nil, or_false, not_or] at hmem
          exact hne (by simp [tokenAmount, hmem])
        exact ⟨hlimits token hmem, Or.inl rfl⟩
      fee := ⟨0, hfee⟩ }
  obtain ⟨w', hcancel, hgone, hreceived⟩ :=
    requests_cancellable escrowDeployment_sane hreach hpending hcancellable
  refine ⟨w, w', hreach, hcancel, hgone, ?_⟩
  have h := hreceived 4 (by rw [hwnt]; decide) rfl
  rw [howed] at h
  exact h

end GmxSynthetics
