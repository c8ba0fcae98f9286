import GmxSynthetics.Exchange.VaultSafety

/-!
# Who may change a request

A pending request belongs to the account that made it. Its account may update or cancel it, and a
keeper may execute it, which removes it or freezes it. Nobody else and nothing else touches it.

* `RequestKind.pending` — the request under a key, if one is pending;
* `RequestChange` — what a call may do to the request under a key;
* `Call.changes` — every call does that, to the requests of every kind under every key;
* `request_authority` — over whole runs the terms of a request never change, and a request that its
  account leaves alone and no keeper executes stays as it is.
-/

namespace GmxSynthetics

open Evm BaseOrderUtils

variable {env : Env} {deployment : Deployment} {w w' w'' : World} {call : Call}
  {kind kind' : RequestKind} {key key' : StoreKey} {u : Unit}

-- ---------------------------------------------------------------------------
-- Pending requests
-- ---------------------------------------------------------------------------

/-- The request of a kind under a key. -/
def RequestKind.pending (kind : RequestKind) (dataStore : DataStore) (key : StoreKey) :
    Option kind.Record :=
  if key ∈ kind.store.keys dataStore then some (kind.store.get dataStore key) else none

namespace RequestKind

/-- A listed key has the stored request. -/
theorem pending_of_mem (kind : RequestKind) (h : key ∈ kind.store.keys w.dataStore) :
    kind.pending w.dataStore key = some (kind.store.get w.dataStore key) :=
  if_pos h

/-- One that is not listed has none. -/
theorem pending_of_not_mem (kind : RequestKind) (h : key ∉ kind.store.keys w.dataStore) :
    kind.pending w.dataStore key = none :=
  if_neg h

/-- A pending request is listed and stored. -/
theorem pending_eq_some {record : kind.Record} (h : kind.pending w.dataStore key = some record) :
    key ∈ kind.store.keys w.dataStore ∧ kind.store.get w.dataStore key = record := by
  unfold pending at h
  split at h
  case isTrue hmem => exact ⟨hmem, Option.some.inj h⟩
  case isFalse => cases h

/-- What is pending under a key depends on its list and its fields. -/
theorem pending_congr
    (hkeys : key ∈ kind.store.keys w'.dataStore ↔ key ∈ kind.store.keys w.dataStore)
    (hget : kind.store.get w'.dataStore key = kind.store.get w.dataStore key) :
    kind.pending w'.dataStore key = kind.pending w.dataStore key := by
  unfold pending
  rw [hget]
  exact if_congr hkeys rfl rfl

/-- Where nothing changes for a kind, the same is pending. -/
theorem Same.pending (h : kind.Same w w') :
    kind.pending w'.dataStore = kind.pending w.dataStore := by
  funext key
  exact pending_congr (by rw [h.keys]) (by rw [h.get])

end RequestKind

namespace Sets

variable {record : kind.Record} (h : Sets kind key record w w')

include h

/-- A request that is set is pending. -/
theorem pending_self : kind.pending w'.dataStore key = some record := by
  rw [RequestKind.pending_of_mem kind, h.get_self]
  rw [h.keys, EnumerableSet.mem_add]
  exact Or.inr rfl

/-- The others are what they were. -/
theorem pending_of_ne (hne : key' ≠ key) :
    kind.pending w'.dataStore key' = kind.pending w.dataStore key' := by
  refine RequestKind.pending_congr ?_ (h.get_of_ne key' hne)
  rw [h.keys, EnumerableSet.mem_add]
  exact or_iff_left hne

end Sets

namespace Drops

variable (hkeys : RequestKeys w.dataStore) (h : Drops kind key w w')

include hkeys h

/-- A request that is dropped is pending no more. -/
theorem pending_self : kind.pending w'.dataStore key = none := by
  apply RequestKind.pending_of_not_mem
  rw [h.keys, EnumerableSet.mem_remove (hkeys.nodup kind)]
  exact fun hmem => hmem.2 rfl

/-- The others are what they were. -/
theorem pending_of_ne (hne : key' ≠ key) :
    kind.pending w'.dataStore key' = kind.pending w.dataStore key' := by
  refine RequestKind.pending_congr ?_ (h.get_of_ne key' hne)
  rw [h.keys, EnumerableSet.mem_remove (hkeys.nodup kind)]
  exact and_iff_left hne

end Drops

-- ---------------------------------------------------------------------------
-- RequestChanges
-- ---------------------------------------------------------------------------

/-- What a call may do to the request under a key. -/
inductive RequestChange (env : Env) (key : StoreKey) :
    Call → (kind : RequestKind) → Option kind.Record → Option kind.Record → Prop where
  | stays (call : Call) (kind : RequestKind) (request : Option kind.Record) :
      RequestChange env key call kind request request
  | orderMade (account : Address) (params : CreateOrderParams) (amount fee : Nat)
      (hvalid : (OrderUtils.makeOrder env account params amount fee).Valid) :
      RequestChange env key (.createOrder account params) .order none
        (some (OrderUtils.makeOrder env account params amount fee))
  | orderUpdated (order : Order) (msgSender : Address)
      (sizeDeltaUsd acceptablePrice triggerPrice minOutputAmount receivedWnt : Nat)
      (hsender : order.account = msgSender) (hwaits : isMarketOrder order.orderType = false)
      (hnonempty : ¬ (sizeDeltaUsd = 0 ∧ order.initialCollateralDeltaAmount = 0)) :
      RequestChange env key
        (.updateOrder msgSender key sizeDeltaUsd acceptablePrice triggerPrice minOutputAmount)
        .order (some order)
        (some { order with
          sizeDeltaUsd, triggerPrice, acceptablePrice, minOutputAmount
          isFrozen := false
          executionFee := order.executionFee + receivedWnt
          updatedAtBlock := env.blockNumber })
  | orderFrozen (order : Order) (oracleParams : OracleBlockNumbers) (keeper : Address)
      (hwaits : isMarketOrder order.orderType = false) (hactive : order.isFrozen = false) :
      RequestChange env key (.executeOrder key oracleParams keeper) .order (some order)
        (some { order with executionFee := 0, isFrozen := true })
  | orderCancelled (order : Order) (msgSender : Address) (hsender : order.account = msgSender) :
      RequestChange env key (.cancelOrder msgSender key) .order (some order) none
  | orderExecuted (order : Order) (oracleParams : OracleBlockNumbers) (keeper : Address)
      (hkeeper : order.isFrozen = true → env.isFrozenOrderKeeper keeper = true) :
      RequestChange env key (.executeOrder key oracleParams keeper) .order (some order) none
  | depositMade (account marketToken : Address) (params : DepositUtils.CreateDepositParams)
      (longAmount shortAmount fee : Nat)
      (hvalid : (DepositUtils.makeDeposit env account marketToken params longAmount shortAmount
        fee).Valid) :
      RequestChange env key (.createDeposit account params) .deposit none
        (some (DepositUtils.makeDeposit env account marketToken params longAmount shortAmount fee))
  | depositCancelled (deposit : Deposit) (msgSender : Address)
      (hsender : deposit.account = msgSender) :
      RequestChange env key (.cancelDeposit msgSender key) .deposit (some deposit) none
  | depositExecuted (deposit : Deposit) (oracleParams : OracleBlockNumbers) (keeper : Address) :
      RequestChange env key (.executeDeposit key oracleParams keeper) .deposit (some deposit) none
  | withdrawalMade (account : Address) (params : WithdrawalUtils.CreateWithdrawalParams)
      (marketTokenAmount fee : Nat)
      (hvalid : (WithdrawalUtils.makeWithdrawal env account params marketTokenAmount fee).Valid) :
      RequestChange env key (.createWithdrawal account params) .withdrawal none
        (some (WithdrawalUtils.makeWithdrawal env account params marketTokenAmount fee))
  | withdrawalCancelled (withdrawal : Withdrawal) (msgSender : Address)
      (hsender : withdrawal.account = msgSender) :
      RequestChange env key (.cancelWithdrawal msgSender key) .withdrawal (some withdrawal) none
  | withdrawalExecuted (withdrawal : Withdrawal) (oracleParams : OracleBlockNumbers)
      (keeper : Address) :
      RequestChange env key (.executeWithdrawal key oracleParams keeper) .withdrawal
        (some withdrawal) none

/-- A call changes requests only as it may. -/
def RequestChanges (env : Env) (call : Call) (w w' : World) : Prop :=
  ∀ (kind : RequestKind) (key : StoreKey),
    RequestChange env key call kind (kind.pending w.dataStore key) (kind.pending w'.dataStore key)

namespace RequestChanges

/-- Where all requests stay, nothing has to be accounted for. -/
theorem of_same (h : SameRequests w w') : RequestChanges env call w w' := by
  intro kind key
  rw [(h.same kind).pending]
  exact .stays _ _ _

/-- The request under one key is changed, and no other. -/
theorem of_one (kind : RequestKind) (key : StoreKey)
    (hself : RequestChange env key call kind (kind.pending w.dataStore key)
      (kind.pending w'.dataStore key))
    (hne : ∀ key' ≠ key, kind.pending w'.dataStore key' = kind.pending w.dataStore key')
    (hothers : ∀ kind' ≠ kind, kind'.Same w w') : RequestChanges env call w w' := by
  intro kind' key'
  by_cases hkind : kind' = kind
  · subst hkind
    by_cases hkey : key' = key
    · rw [hkey]
      exact hself
    · rw [hne key' hkey]
      exact .stays _ _ _
  · rw [(hothers kind' hkind).pending]
    exact .stays _ _ _

/-- Setting one request changes that one. -/
theorem of_sets {record : kind.Record} (h : Sets kind key record w w')
    (hchange : RequestChange env key call kind (kind.pending w.dataStore key) (some record)) :
    RequestChanges env call w w' :=
  of_one kind key (h.pending_self.symm ▸ hchange) (fun _ hne => h.pending_of_ne hne) h.others

/-- So does dropping one. -/
theorem of_drops (hkeys : RequestKeys w.dataStore) (h : Drops kind key w w')
    (hchange : RequestChange env key call kind (some (kind.store.get w.dataStore key)) none) :
    RequestChanges env call w w' := by
  refine of_one kind key ?_ (fun _ hne => h.pending_of_ne hkeys hne) h.others
  rw [RequestKind.pending_of_mem kind h.mem, h.pending_self hkeys]
  exact hchange

/-- A request is made under the next key, after its amounts have been recorded. -/
theorem of_request (kind : RequestKind) {w₁ : World} {record : kind.Record}
    (hkeys : RequestKeys w.dataStore) (hstore : w₁.dataStore = w.dataStore)
    (hchange : RequestChange env (.request (NonceUtils.getCurrentNonce w.dataStore + 1)) call kind
      none (some record)) : RequestChanges env call w (w₁.withRequest kind.store record) := by
  obtain ⟨hsets, -⟩ : Sets kind _ record w (w₁.withRequest kind.store record) ∧ _ :=
    World.withRequest_sets hkeys hstore
  refine of_sets hsets ?_
  rw [RequestKind.pending_of_not_mem kind (hkeys.next_not_mem kind)]
  exact hchange

end RequestChanges

-- ---------------------------------------------------------------------------
-- Orders
-- ---------------------------------------------------------------------------

section Calls

variable (hkeys : RequestKeys w.dataStore)

include hkeys

/-- A stored order is stored again. -/
theorem Sets.of_order {w₁ : World} (order : Order) (hstore : w₁.dataStore = w.dataStore)
    (hmem : key ∈ orderStore.keys w.dataStore) :
    Sets .order key order w { w₁ with dataStore := orderStore.set w₁.dataStore key order } := by
  have hsame := SameRequests.of_dataStore_eq hstore
  refine Sets.after_same hsame.same (Sets.of_set .order fun kind' hne hmem' => hne ?_)
  refine (hsame.requestKeys hkeys).disjoint kind' .order key hmem' ?_
  rw [(hsame.same .order).keys]
  exact hmem

namespace OrderUtils

/-- A new order is that of the account that creates it. -/
theorem createOrder_changes {orderVault account : Address} {params : CreateOrderParams}
    (h : createOrder env orderVault account params w = .ok (key, w')) :
    RequestChanges env (.createOrder account params) w w' := by
  obtain ⟨amount, fee, w₁, hvalid, hrecord, rfl⟩ := createOrder_eq_ok h
  obtain ⟨hstore, -⟩ := recordOrderAmounts_flow hrecord env account
  exact RequestChanges.of_request .order hkeys hstore
    (.orderMade account params amount fee hvalid)

/-- Cancelling takes the order off. -/
theorem cancelOrder_drops {orderVault keeper : Address}
    (h : cancelOrder env orderVault key keeper w = .ok (u, w')) : Drops .order key w w' := by
  obtain ⟨-, w₁, w₂, htransfer, hremove, hfee⟩ := cancelOrder_eq_ok h
  have hstore₁ : w₁.dataStore = w.dataStore := World.SameOff.dataStore_eq (Writes.ite
    (StrictBank.transferOutUnwrapping_writes env (List.mem_singleton_self _) _ _ _ _ _) (.pure _)
    htransfer)
  have hsame₁ := SameRequests.of_dataStore_eq hstore₁
  obtain ⟨hdrops, -⟩ := removeOrder_drops (hsame₁.requestKeys hkeys) hremove
  have hstore₃ : w'.dataStore = w₂.dataStore := World.SameOff.dataStore_eq
    (GasUtils.payExecutionFee_writes env (List.mem_singleton_self _) _ _ _ _ hfee)
  exact (hdrops.trans_same (.of_dataStore_eq hstore₃)).after_same hsame₁

/-- Freezing leaves the order without its fee. -/
theorem freezeOrder_sets {orderVault keeper : Address}
    (h : freezeOrder env orderVault key keeper w = .ok (u, w')) :
    Sets .order key
      { OrderStoreUtils.get w.dataStore key with executionFee := 0, isFrozen := true } w w' := by
  obtain ⟨haccount, hfee⟩ := freezeOrder_eq_ok h
  have hsets := Sets.of_order hkeys
    { OrderStoreUtils.get w.dataStore key with executionFee := 0, isFrozen := true } rfl
    (mem_of_order_account_ne haccount)
  have hstore := World.SameOff.dataStore_eq
    (GasUtils.payExecutionFee_writes env (List.mem_singleton_self _) _ _ _ _ hfee)
  exact hsets.trans_same (SameRequests.of_dataStore_eq hstore).same

/-- Executing takes the order off. -/
theorem executeOrder_drops {params : ExecuteOrderParams}
    (h : executeOrder env params w = .ok (u, w')) : Drops .order params.key w w' := by
  obtain ⟨-, w₁, w₂, hremove, hprocess, hfee⟩ := executeOrder_eq_ok h
  obtain ⟨hdrops, -⟩ := removeOrder_drops hkeys hremove
  have hprocessed : SameRequests w₁ w₂ := .of_sameOff (hdrops.requestKeys hkeys)
    (processOrder_writes env (List.Subset.refl processSlots) params hprocess) (by decide)
  have hstore : w'.dataStore = w₂.dataStore := World.SameOff.dataStore_eq
    (GasUtils.payExecutionFee_writes env (List.mem_singleton_self _) _ _ _ _ hfee)
  exact (hdrops.trans_same hprocessed).trans_same (.of_dataStore_eq hstore)

end OrderUtils

namespace OrderHandler

/-- An order whose execution has failed is cancelled, or frozen where it waits for a price. Frozen
orders are left as they are. -/
theorem _handleOrderError_changes {oracleParams : OracleBlockNumbers} {keeper : Address}
    {error : Revert Errors}
    (h : _handleOrderError env deployment key keeper error w = .ok (u, w')) :
    RequestChanges env (.executeOrder key oracleParams keeper) w w' := by
  unfold _handleOrderError at h
  simp only [↓readStore_bind_eq_ok] at h
  split_ifs at h with hretry hcancel
  · cases h
  all_goals
    have hactive : (OrderStoreUtils.get w.dataStore key).isFrozen = false := by
      unfold isRetryableError at hretry
      simp only [Bool.or_eq_true, not_or, Bool.not_eq_true] at hretry
      exact hretry.1.2
  · refine .of_drops hkeys (OrderUtils.cancelOrder_drops hkeys h) (.orderExecuted _ _ _ ?_)
    intro hfrozen
    exact absurd (hactive.symm.trans hfrozen) (by decide)
  · have hwaits : isMarketOrder (OrderStoreUtils.get w.dataStore key).orderType = false := by
      unfold isCancellingError at hcancel
      simp only [Bool.or_eq_true, not_or, Bool.not_eq_true] at hcancel
      exact hcancel.1
    have hmem := mem_of_order_account_ne (OrderUtils.freezeOrder_eq_ok h).1
    refine .of_sets (OrderUtils.freezeOrder_sets hkeys h) ?_
    rw [RequestKind.pending_of_mem .order hmem]
    exact .orderFrozen _ _ _ hwaits hactive

/-- An execution ends the order, or cancels or freezes it where it fails. -/
theorem executeOrder_changes {oracleParams : OracleBlockNumbers} {keeper : Address}
    (h : executeOrder env deployment key oracleParams keeper w = .ok (u, w')) :
    RequestChanges env (.executeOrder key oracleParams keeper) w w' := by
  unfold executeOrder at h
  simp only [↓viewStore_bind_eq_ok] at h
  obtain ⟨_, -, h⟩ := h
  obtain ⟨result, w₁, hinner, hrest⟩ := Tx.bind_eq_ok.mp h
  rcases innerCall_eq_ok hinner with ⟨rfl, hexecute⟩ | ⟨error, rfl, rfl⟩
  · obtain ⟨-, rfl⟩ := Tx.pure_eq_ok.mp hrest
    unfold _executeOrder at hexecute
    simp only [↓viewStore_bind_eq_ok, ↓Tx.lift_bind_eq_ok] at hexecute
    obtain ⟨params, hload, _, hkeeper, _, -, hexecute⟩ := hexecute
    obtain ⟨rfl, horder, -, -⟩ := BaseOrderHandler._getExecuteOrderParams_eq_ok hload
    refine .of_drops hkeys (OrderUtils.executeOrder_drops hkeys hexecute)
      (.orderExecuted _ _ _ fun hfrozen => ?_)
    rw [if_pos (Or.inl (horder ▸ hfrozen))] at hkeeper
    exact not_not.mp (Result.revertIf_eq_ok.mp hkeeper)
  · exact _handleOrderError_changes hkeys hrest

end OrderHandler

namespace ExchangeRouter

/-- Only its account updates an order. -/
theorem updateOrder_changes {msgSender : Address}
    {sizeDeltaUsd acceptablePrice triggerPrice minOutputAmount : Nat}
    (h : updateOrder env deployment msgSender key sizeDeltaUsd acceptablePrice triggerPrice
      minOutputAmount w = .ok (u, w')) :
    RequestChanges env
      (.updateOrder msgSender key sizeDeltaUsd acceptablePrice triggerPrice minOutputAmount)
      w w' := by
  have hsender : (OrderStoreUtils.get w.dataStore key).account = msgSender := by
    unfold updateOrder at h
    simp only [↓readStore_bind_eq_ok, ↓Tx.lift_bind_eq_ok, Result.revertIf_eq_ok, not_not] at h
    obtain ⟨_, hsender, -⟩ := h
    exact hsender
  obtain ⟨hwaits, haccount, hnonempty, receivedWnt, w₁, hrecord, rfl⟩ :=
    OrderHandler.updateOrder_eq_ok (updateOrder_eq_ok h)
  have hmem := mem_of_order_account_ne haccount
  refine .of_sets
    (Sets.of_order hkeys _ (StrictBank.recordTransferIn_dataStore hrecord) hmem) ?_
  rw [RequestKind.pending_of_mem .order hmem]
  exact .orderUpdated _ _ _ _ _ _ _ hsender hwaits hnonempty

/-- Only its account cancels an order. -/
theorem cancelOrder_changes {msgSender : Address}
    (h : cancelOrder env deployment msgSender key w = .ok (u, w')) :
    RequestChanges env (.cancelOrder msgSender key) w w' := by
  have hsender : (OrderStoreUtils.get w.dataStore key).account = msgSender := by
    unfold cancelOrder at h
    simp only [↓readStore_bind_eq_ok, ↓Tx.lift_bind_eq_ok, Result.revertIf_eq_ok, not_not] at h
    obtain ⟨_, -, _, hsender, -⟩ := h
    exact hsender
  exact .of_drops hkeys
    (OrderUtils.cancelOrder_drops hkeys (OrderHandler.cancelOrder_eq_ok (cancelOrder_eq_ok h).2))
    (.orderCancelled _ _ hsender)

end ExchangeRouter

-- ---------------------------------------------------------------------------
-- Deposits and withdrawals
-- ---------------------------------------------------------------------------

namespace DepositUtils

/-- A new deposit is that of the account that creates it. -/
theorem createDeposit_changes {depositVault account : Address} {params : CreateDepositParams}
    (h : createDeposit env depositVault account params w = .ok (key, w')) :
    RequestChanges env (.createDeposit account params) w w' := by
  obtain ⟨long, short, fee, marketToken, w₁, hvalid, hrecord, rfl⟩ := createDeposit_eq_ok h
  obtain ⟨hstore, -⟩ := recordDepositAmounts_flow hrecord env account marketToken
  exact RequestChanges.of_request .deposit hkeys hstore (.depositMade _ _ _ _ _ _ hvalid)

/-- Cancelling takes the deposit off. -/
theorem cancelDeposit_drops {depositVault keeper : Address}
    (h : cancelDeposit env depositVault key keeper w = .ok (u, w')) :
    Drops .deposit key w w' := by
  obtain ⟨w₁, w₂, w₃, hremove, hlong, hshort, hfee⟩ := cancelDeposit_eq_ok h
  obtain ⟨hdrops, -⟩ := removeDeposit_drops hkeys hremove
  obtain ⟨hstore₂, -⟩ := StrictBank.transferPositive_flow hlong
  obtain ⟨hstore₃, -⟩ := StrictBank.transferPositive_flow hshort
  have hstore₄ : w'.dataStore = w₃.dataStore := World.SameOff.dataStore_eq
    (GasUtils.payExecutionFee_writes env (List.mem_singleton_self _) _ _ _ _ hfee)
  exact hdrops.trans_same (.of_dataStore_eq (hstore₄.trans (hstore₃.trans hstore₂)))

end DepositUtils

/-- So does executing. -/
theorem ExecuteDepositUtils.executeDeposit_drops {params : ExecuteDepositParams}
    (h : executeDeposit env params w = .ok (u, w')) : Drops .deposit params.key w w' := by
  obtain ⟨market, prices, longAmount, shortAmount, mintAmount, w₁, w₂, w₃, w₄, hremove, -, -,
    hlong, hshort, -, hamounts, hfee⟩ := executeDeposit_eq_ok h
  obtain ⟨hdrops, -⟩ := DepositUtils.removeDeposit_drops hkeys hremove
  have hall : swapSlots ⊆ swapSlots := List.Subset.refl _
  have hsame := ((swap_writes env hall _ _ _ _ _ _ _ hlong).trans
    (swap_writes env hall _ _ _ _ _ _ _ hshort)).trans
      (depositAmounts_writes env hall _ _ _ _ _ hamounts)
  have hstore : w'.dataStore = w₄.dataStore := World.SameOff.dataStore_eq
    (GasUtils.payExecutionFee_writes env (List.mem_singleton_self _) _ _ _ _ hfee)
  exact (hdrops.trans_same (.of_sameOff (hdrops.requestKeys hkeys) hsame (by decide))).trans_same
    (.of_dataStore_eq hstore)

/-- An execution ends the deposit, or cancels it where it fails. -/
theorem DepositHandler.executeDeposit_changes {oracleParams : OracleBlockNumbers}
    {keeper : Address}
    (h : executeDeposit env deployment key oracleParams keeper w = .ok (u, w')) :
    RequestChanges env (.executeDeposit key oracleParams keeper) w w' := by
  have hdrops : Drops .deposit key w w' := by
    rcases executeDeposit_eq_ok h with hexecute | hcancel
    · exact ExecuteDepositUtils.executeDeposit_drops hkeys hexecute
    · exact DepositUtils.cancelDeposit_drops hkeys hcancel
  exact .of_drops hkeys hdrops (.depositExecuted _ _ _)

/-- Only its account cancels a deposit. -/
theorem ExchangeRouter.cancelDeposit_changes {msgSender : Address}
    (h : cancelDeposit env deployment msgSender key w = .ok (u, w')) :
    RequestChanges env (.cancelDeposit msgSender key) w w' := by
  have hsender : (DepositStoreUtils.get w.dataStore key).account = msgSender := by
    unfold cancelDeposit at h
    simp only [↓readStore_bind_eq_ok, ↓Tx.lift_bind_eq_ok, Result.revertIf_eq_ok, not_not] at h
    obtain ⟨_, -, _, hsender, -⟩ := h
    exact hsender
  obtain ⟨_, h⟩ := cancelDeposit_eq_ok h
  exact .of_drops hkeys (DepositUtils.cancelDeposit_drops hkeys h) (.depositCancelled _ _ hsender)

namespace WithdrawalUtils

/-- A new withdrawal is that of the account that creates it. -/
theorem createWithdrawal_changes {withdrawalVault account : Address}
    {params : CreateWithdrawalParams}
    (h : createWithdrawal env withdrawalVault account params w = .ok (key, w')) :
    RequestChanges env (.createWithdrawal account params) w w' := by
  obtain ⟨wntAmount, marketTokenAmount, w₁, w₂, hvalid, hwnt, hmarket, rfl⟩ :=
    createWithdrawal_eq_ok h
  have hstore : w₂.dataStore = w.dataStore :=
    (StrictBank.recordTransferIn_dataStore hmarket).trans
      (StrictBank.recordTransferIn_dataStore hwnt)
  exact RequestChanges.of_request .withdrawal hkeys hstore (.withdrawalMade _ _ _ _ hvalid)

/-- Cancelling takes the withdrawal off. -/
theorem cancelWithdrawal_drops {withdrawalVault keeper : Address}
    (h : cancelWithdrawal env withdrawalVault key keeper w = .ok (u, w')) :
    Drops .withdrawal key w w' := by
  obtain ⟨w₁, w₂, hremove, htransfer, hfee⟩ := cancelWithdrawal_eq_ok h
  obtain ⟨hdrops, -⟩ := removeWithdrawal_drops hkeys hremove
  have hstore₂ : w₂.dataStore = w₁.dataStore := World.SameOff.dataStore_eq
    (StrictBank.transferOutUnwrapping_writes env (List.mem_singleton_self _) _ _ _ _ _ htransfer)
  have hstore₃ : w'.dataStore = w₂.dataStore := World.SameOff.dataStore_eq
    (GasUtils.payExecutionFee_writes env (List.mem_singleton_self _) _ _ _ _ hfee)
  exact hdrops.trans_same (.of_dataStore_eq (hstore₃.trans hstore₂))

/-- So does executing. -/
theorem executeWithdrawal_drops {params : ExecuteWithdrawalParams}
    (h : executeWithdrawal env params w = .ok (u, w')) : Drops .withdrawal params.key w w' := by
  obtain ⟨w₁, w₂, hremove, hexecute, hfee⟩ := executeWithdrawal_eq_ok h
  obtain ⟨hdrops, -⟩ := removeWithdrawal_drops hkeys hremove
  have hsame := _executeWithdrawal_writes env (List.Subset.refl swapSlots) _ _ hexecute
  have hstore : w'.dataStore = w₂.dataStore := World.SameOff.dataStore_eq
    (GasUtils.payExecutionFee_writes env (List.mem_singleton_self _) _ _ _ _ hfee)
  exact (hdrops.trans_same (.of_sameOff (hdrops.requestKeys hkeys) hsame (by decide))).trans_same
    (.of_dataStore_eq hstore)

end WithdrawalUtils

/-- An execution ends the withdrawal, or cancels it where it fails. -/
theorem WithdrawalHandler.executeWithdrawal_changes {oracleParams : OracleBlockNumbers}
    {keeper : Address}
    (h : executeWithdrawal env deployment key oracleParams keeper w = .ok (u, w')) :
    RequestChanges env (.executeWithdrawal key oracleParams keeper) w w' := by
  have hdrops : Drops .withdrawal key w w' := by
    rcases executeWithdrawal_eq_ok h with hexecute | hcancel
    · exact WithdrawalUtils.executeWithdrawal_drops hkeys hexecute
    · exact WithdrawalUtils.cancelWithdrawal_drops hkeys hcancel
  exact .of_drops hkeys hdrops (.withdrawalExecuted _ _ _)

/-- Only its account cancels a withdrawal. -/
theorem ExchangeRouter.cancelWithdrawal_changes {msgSender : Address}
    (h : cancelWithdrawal env deployment msgSender key w = .ok (u, w')) :
    RequestChanges env (.cancelWithdrawal msgSender key) w w' := by
  have hsender : (WithdrawalStoreUtils.get w.dataStore key).account = msgSender := by
    unfold cancelWithdrawal at h
    simp only [↓readStore_bind_eq_ok, ↓Tx.lift_bind_eq_ok, Result.revertIf_eq_ok, not_not] at h
    obtain ⟨_, hsender, -⟩ := h
    exact hsender
  obtain ⟨_, h⟩ := cancelWithdrawal_eq_ok h
  exact .of_drops hkeys (WithdrawalUtils.cancelWithdrawal_drops hkeys h)
    (.withdrawalCancelled _ _ hsender)

end Calls

-- ---------------------------------------------------------------------------
-- Keepers' orders
-- ---------------------------------------------------------------------------

/-- A keeper's order is made and executed in one call, which leaves the requests as they are. -/
theorem executeKeeperOrder_changes (hw : Settleable deployment w) {order : Order}
    {params : ExecuteOrderParams}
    (howed : orderEscrow (TokenUtils.wnt w.dataStore) order = 0)
    (hkey : params.key = .request (NonceUtils.getCurrentNonce w.dataStore + 1))
    (h : OrderUtils.executeOrder env params (w.withRequest orderStore order) = .ok (u, w')) :
    RequestChanges env call w w' := by
  have hkeys := hw.requestKeys
  have hkeys₁ := (hw.withRequest howed).requestKeys
  obtain ⟨hsets, -⟩ : Sets .order _ order w (w.withRequest orderStore order) ∧ _ :=
    World.withRequest_sets hkeys rfl
  have hdrops := OrderUtils.executeOrder_drops hkeys₁ h
  rw [hkey] at hdrops
  refine .of_one .order (.request (NonceUtils.getCurrentNonce w.dataStore + 1)) ?_ ?_ ?_
  · rw [hdrops.pending_self hkeys₁,
      RequestKind.pending_of_not_mem .order (hkeys.next_not_mem .order)]
    exact .stays _ _ _
  · intro key' hne
    exact (hdrops.pending_of_ne hkeys₁ hne).trans (hsets.pending_of_ne hne)
  · exact fun kind' hne => (hsets.others kind' hne).trans (hdrops.others kind' hne)

/-- A liquidation makes its own order and executes it, and leaves no request. -/
theorem LiquidationHandler.executeLiquidation_changes (hw : Settleable deployment w)
    {account market collateralToken : Address} {isLong : Bool} {oracleParams : OracleBlockNumbers}
    {keeper : Address}
    (h : executeLiquidation env deployment account market collateralToken isLong oracleParams
      keeper w = .ok (u, w')) : RequestChanges env call w w' := by
  unfold executeLiquidation at h
  obtain ⟨key, w₁, hcreate, h⟩ := Tx.bind_eq_ok.mp h
  obtain ⟨rfl, rfl⟩ := LiquidationUtils.createLiquidationOrder_eq_ok hcreate
  simp only [↓viewStore_bind_eq_ok] at h
  obtain ⟨params, hload, _, -, h⟩ := h
  exact executeKeeperOrder_changes hw (orderEscrow_makeKeeperOrder _ _ _ _ _ rfl rfl _ _)
    (BaseOrderHandler._getExecuteOrderParams_eq_ok hload).1 h

/-- So does an auto-deleveraging. -/
theorem AdlHandler.executeAdl_changes (hw : Settleable deployment w)
    {account market collateralToken : Address} {isLong : Bool} {sizeDeltaUsd : Nat}
    {oracleParams : OracleBlockNumbers} {keeper : Address}
    (h : executeAdl env deployment account market collateralToken isLong sizeDeltaUsd oracleParams
      keeper w = .ok (u, w')) : RequestChanges env call w w' := by
  unfold executeAdl at h
  simp only [↓viewStore_bind_eq_ok, ↓Tx.lift_bind_eq_ok] at h
  obtain ⟨_, -, _, -, _, -, updatedAtBlock, -, h⟩ := h
  obtain ⟨key, w₁, hcreate, h⟩ := Tx.bind_eq_ok.mp h
  obtain ⟨rfl, rfl⟩ := AdlUtils.createAdlOrder_eq_ok hcreate
  simp only [↓viewStore_bind_eq_ok] at h
  obtain ⟨params, hload, _, -, h⟩ := h
  obtain ⟨_, w₂, hexecute, h⟩ := Tx.bind_eq_ok.mp h
  simp only [↓viewStore_bind_eq_ok, ↓Tx.lift_bind_eq_ok, ↓readStore_bind_eq_ok,
    Tx.lift_eq_ok] at h
  obtain ⟨_, -, _, -, _, -, -, rfl⟩ := h
  exact executeKeeperOrder_changes hw (orderEscrow_makeKeeperOrder _ _ _ _ _ rfl rfl _ _)
    (BaseOrderHandler._getExecuteOrderParams_eq_ok hload).1 hexecute

-- ---------------------------------------------------------------------------
-- Calls
-- ---------------------------------------------------------------------------

/-- Every call changes requests only as it may. -/
theorem Call.changes (hw : Settleable deployment w) (h : call.run env deployment w = .ok (u, w')) :
    RequestChanges env call w w' := by
  have hkeys := hw.requestKeys
  cases call with
  | createOrder account params =>
    obtain ⟨_, h⟩ := discard_eq_ok.mp h
    unfold OrderHandler.createOrder at h
    simp only [↓viewStore_bind_eq_ok] at h
    obtain ⟨_, -, h⟩ := h
    exact OrderUtils.createOrder_changes hkeys h
  | updateOrder msgSender key sizeDeltaUsd acceptablePrice triggerPrice minOutputAmount =>
    exact ExchangeRouter.updateOrder_changes hkeys h
  | cancelOrder msgSender key => exact ExchangeRouter.cancelOrder_changes hkeys h
  | executeOrder key oracleParams keeper => exact OrderHandler.executeOrder_changes hkeys h
  | createDeposit account params =>
    obtain ⟨_, h⟩ := discard_eq_ok.mp h
    unfold DepositHandler.createDeposit at h
    simp only [↓viewStore_bind_eq_ok] at h
    obtain ⟨_, -, h⟩ := h
    exact DepositUtils.createDeposit_changes hkeys h
  | cancelDeposit msgSender key => exact ExchangeRouter.cancelDeposit_changes hkeys h
  | executeDeposit key oracleParams keeper => exact DepositHandler.executeDeposit_changes hkeys h
  | createWithdrawal account params =>
    obtain ⟨_, h⟩ := discard_eq_ok.mp h
    unfold WithdrawalHandler.createWithdrawal at h
    simp only [↓viewStore_bind_eq_ok] at h
    obtain ⟨_, -, h⟩ := h
    exact WithdrawalUtils.createWithdrawal_changes hkeys h
  | cancelWithdrawal msgSender key => exact ExchangeRouter.cancelWithdrawal_changes hkeys h
  | executeWithdrawal key oracleParams keeper =>
    exact WithdrawalHandler.executeWithdrawal_changes hkeys h
  | executeLiquidation account market collateralToken isLong oracleParams keeper =>
    exact LiquidationHandler.executeLiquidation_changes hw h
  | updateAdlState market isLong maxOracleBlockNumbers =>
    have hwrites : World.SameOff [.constant .IS_ADL_ENABLED, .constant .LATEST_ADL_BLOCK] w w' :=
      AdlUtils.updateAdlState_writes env (by decide) (by decide) market isLong
        maxOracleBlockNumbers h
    exact .of_same (.of_sameOff hkeys hwrites (by decide))
  | executeAdl account market collateralToken isLong sizeDeltaUsd oracleParams keeper =>
    exact AdlHandler.executeAdl_changes hw h

-- ---------------------------------------------------------------------------
-- Runs
-- ---------------------------------------------------------------------------

/-- What nobody can change about a request: all of a deposit and of a withdrawal, and of an order
all but its size, its prices, its fee and whether it is frozen. -/
def RequestKind.terms : (kind : RequestKind) → kind.Record → kind.Record
  | .order, (record : Order) =>
    ({ record with
      sizeDeltaUsd := 0
      triggerPrice := 0
      acceptablePrice := 0
      minOutputAmount := 0
      executionFee := 0
      updatedAtBlock := 0
      isFrozen := false } : Order)
  | .deposit, record => record
  | .withdrawal, record => record

/-- The calls that may change or end a request: those of its account, and a keeper's execution. -/
def Action.Addresses (account : Address) (key : StoreKey) : Action → Prop
  | .call _ (.updateOrder msgSender key' _ _ _ _) => msgSender = account ∧ key' = key
  | .call _ (.cancelOrder msgSender key') => msgSender = account ∧ key' = key
  | .call _ (.cancelDeposit msgSender key') => msgSender = account ∧ key' = key
  | .call _ (.cancelWithdrawal msgSender key') => msgSender = account ∧ key' = key
  | .call _ (.executeOrder key' _ _) => key' = key
  | .call _ (.executeDeposit key' _ _) => key' = key
  | .call _ (.executeWithdrawal key' _ _) => key' = key
  | _ => False

/-- No change leaves a request with other terms. -/
theorem RequestChange.terms_eq {record record' : kind.Record}
    (h : RequestChange env key call kind (some record) (some record')) :
    kind.terms record' = kind.terms record := by
  cases h <;> rfl

/-- A call that does not address a pending request leaves it as it is. -/
theorem RequestChange.eq_of_not_addresses {record : kind.Record} {request : Option kind.Record}
    (h : RequestChange env key call kind (some record) request)
    (hnot : ¬ (Action.call env call).Addresses (kind.store.account record) key) :
    request = some record := by
  cases h with
  | stays => rfl
  | orderUpdated _ _ _ _ _ _ _ hsender => exact absurd ⟨hsender.symm, rfl⟩ hnot
  | orderFrozen => exact absurd rfl hnot
  | orderCancelled _ _ hsender => exact absurd ⟨hsender.symm, rfl⟩ hnot
  | orderExecuted => exact absurd rfl hnot
  | depositCancelled _ _ hsender => exact absurd ⟨hsender.symm, rfl⟩ hnot
  | depositExecuted => exact absurd rfl hnot
  | withdrawalCancelled _ _ hsender => exact absurd ⟨hsender.symm, rfl⟩ hnot
  | withdrawalExecuted => exact absurd rfl hnot

/-- What is no call leaves the requests as they are. -/
theorem exchange_sameRequests {action : Action} (hw : Settleable deployment w)
    (hnot : ∀ env call, action ≠ .call env call) (h : (exchange deployment).next action w w') :
    SameRequests w w' := by
  cases action with
  | call env call => exact absurd rfl (hnot env call)
  | createMarket marketToken indexToken longToken shortToken marketType =>
    obtain ⟨-, market, hcreate⟩ := h
    exact .of_sameOff hw.requestKeys (MarketFactory.createMarket_sameOff hcreate) (by decide)
  | outside => exact Outside.sameRequests hw.requestKeys h

/-- **Request authority.** Each call changes pending requests only as it may: it makes one for its
account, changes or gives up one of the account that calls, or executes one, frozen orders by
keepers of frozen orders only. So over whole runs the terms of a request never change; and as long
as its own account does not call for it and nobody executes it, it stays as it is. -/
theorem request_authority (hsane : deployment.Sane) (hreach : (exchange deployment).Reachable w) :
    (∀ env call w', call.run env deployment w = .ok ((), w') → RequestChanges env call w w') ∧
    ∀ (kind : RequestKind) (key : StoreKey) (record : kind.Record),
      kind.pending w.dataStore key = some record →
      (∀ w', (exchange deployment).Run w w' → ∀ record',
        kind.pending w'.dataStore key = some record' → kind.terms record' = kind.terms record) ∧
      ∀ w', (exchange deployment).RunIf
          (fun action _ => ¬ action.Addresses (kind.store.account record) key) w w' →
        kind.pending w'.dataStore key = some record := by
  refine ⟨fun env call w' h => Call.changes (exchange_escrowed hsane hreach).toSettleable h, ?_⟩
  intro kind key record hpending
  refine ⟨fun w' hrun => ?_, fun w' hrun => ?_⟩
  · -- the key has been given out, so it is not made again
    obtain ⟨nonce, hle, rfl⟩ := (exchange_escrowed hsane hreach).requestKeys.given kind key
      (RequestKind.pending_eq_some hpending).1
    have hstable : nonce ≤ NonceUtils.getCurrentNonce w'.dataStore ∧ ∀ record',
        kind.pending w'.dataStore (.request nonce) = some record' →
          kind.terms record' = kind.terms record := by
      refine Machine.Run.stable (P := fun w => nonce ≤ NonceUtils.getCurrentNonce w.dataStore ∧
        ∀ record', kind.pending w.dataStore (.request nonce) = some record' →
          kind.terms record' = kind.terms record) ?_ hreach ⟨hle, ?_⟩ hrun
      · rintro action w₁ w₂ hreach₁ hnext ⟨hle₁, hterms⟩
        have hw₁ := (exchange_escrowed hsane hreach₁).toSettleable
        obtain ⟨-, hstep⟩ := exchange_next hsane hw₁ hnext
        refine ⟨hle₁.trans hstep.nonce_le, fun record₂ hpending₂ => ?_⟩
        have hmem := hstep.given kind nonce hle₁ (RequestKind.pending_eq_some hpending₂).1
        have hpending₁ := RequestKind.pending_of_mem kind hmem
        rw [← hterms _ hpending₁]
        by_cases hcall : ∃ env call, action = .call env call
        · obtain ⟨env, call, rfl⟩ := hcall
          have hchange := Call.changes hw₁ hnext kind (.request nonce)
          rw [hpending₁, hpending₂] at hchange
          exact hchange.terms_eq
        · simp only [not_exists] at hcall
          rw [((exchange_sameRequests hw₁ hcall hnext).same kind).pending, hpending₁] at hpending₂
          rw [Option.some.inj hpending₂]
      · intro record' hpending'
        rw [hpending] at hpending'
        rw [Option.some.inj hpending']
    exact hstable.2
  · refine Machine.RunIf.stable (P := fun w => kind.pending w.dataStore key = some record) ?_
      hreach hpending hrun
    intro action w₁ w₂ hreach₁ hnot hnext hpending₁
    have hw₁ := (exchange_escrowed hsane hreach₁).toSettleable
    by_cases hcall : ∃ env call, action = .call env call
    · obtain ⟨env, call, rfl⟩ := hcall
      have hchange := Call.changes hw₁ hnext kind key
      rw [hpending₁] at hchange
      exact hchange.eq_of_not_addresses hnot
    · simp only [not_exists] at hcall
      rw [((exchange_sameRequests hw₁ hcall hnext).same kind).pending]
      exact hpending₁

/-- An order is made, and stays for as long as its account and the keepers leave it alone. -/
theorem request_authority_createOrder :
    ∃ w record, (exchange escrowDeployment).Reachable w ∧
      RequestKind.order.pending w.dataStore (.request 1) = some record ∧
      ∀ w', (exchange escrowDeployment).RunIf
          (fun action _ => ¬ action.Addresses (orderStore.account record) (.request 1)) w w' →
        RequestKind.order.pending w'.dataStore (.request 1) = some record := by
  let env := Env.plain 1 fun _ => ⟨1, 1⟩
  obtain ⟨⟨u, w⟩, hrun, hmem⟩ := (by decide +kernel :
    Evm.Result.Satisfies ((Call.createOrder 9 escrowSwap).run env escrowDeployment escrowWorld)
      fun result => .request 1 ∈ orderStore.keys result.2.dataStore).exists
  have hfresh : (exchange escrowDeployment).Reachable escrowWorld := .init escrowWorld_fresh
  have hreach : (exchange escrowDeployment).Reachable w :=
    hfresh.next (i := Action.call env (.createOrder 9 escrowSwap)) hrun
  have hpending := RequestKind.pending_of_mem .order hmem
  obtain ⟨-, hstays⟩ :=
    (request_authority escrowDeployment_sane hreach).2 .order (.request 1) _ hpending
  exact ⟨w, _, hreach, hpending, hstays⟩

end GmxSynthetics
