import GmxSynthetics.Exchange.Exchange

/-!
# Footprint of the exchange

No call of a user or a keeper writes a market or the list of markets.

* `callSlots` — all that a call writes;
* `Call.run_writes` — every call keeps to it.
-/

namespace GmxSynthetics

open Evm BaseOrderUtils

/-- What the calls write. -/
def callSlots : List Slot :=
  [.position, .request, .constant .IS_ADL_ENABLED, .constant .LATEST_ADL_BLOCK] ++ orderSlots ++
    processSlots ++ requestSlots

variable {slots : List Slot} (env : Env) (deployment : Deployment)

theorem orderSlots_subset_callSlots : orderSlots ⊆ callSlots := by
  intro slot hslot
  revert slot
  decide

theorem processSlots_subset_callSlots : processSlots ⊆ callSlots := by
  intro slot hslot
  revert slot
  decide

theorem requestSlots_subset_callSlots : requestSlots ⊆ callSlots := by
  intro slot hslot
  revert slot
  decide

/-- A key of either kind is in the footprint. -/
theorem StoreKey.slot_mem_callSlots (key : StoreKey) : key.slot ∈ callSlots := by
  cases key with
  | position => exact List.mem_cons_self
  | request => exact List.mem_cons_of_mem _ List.mem_cons_self

/-- A result that is not read is nothing written. -/
theorem Writes.discard {α : Type} {x : Tx α} (hx : Writes slots x) :
    Writes slots (discard x) := hx.bind fun _ => .pure _

/-- A call that fails and is caught writes nothing. -/
theorem Writes.innerCall {x : Tx Unit} (hx : Writes slots x) : Writes slots (innerCall env x) := by
  refine .attempt ?_
  split
  · exact hx
  · intro w u w' h
    cases h

/-- Nor does one that fails again. -/
theorem Writes.revertWithCustomError {α : Type} (reason : Revert Errors) :
    Writes slots (ErrorUtils.revertWithCustomError reason : Tx α) := by
  intro w u w' h
  cases h

namespace OrderUtils

/-- An executed order is removed, processed, and its fee is paid. -/
theorem executeOrder_writes {params : ExecuteOrderParams} (hkey : params.key.slot ∈ slots)
    (horder : orderSlots ⊆ slots) (hprocess : processSlots ⊆ slots) :
    Writes slots (executeOrder env params) := by
  unfold executeOrder
  refine (removeOrder_writes hkey horder _).bind fun _ => ?_
  refine (Writes.lift _).bind fun _ => (Writes.lift _).bind fun _ => ?_
  refine (processOrder_writes env hprocess params).bind fun _ => ?_
  refine (Writes.ite (.view _) (.pure _)).bind fun _ => (Writes.view _).bind fun _ => ?_
  exact GasUtils.payExecutionFee_writes env (horder (by decide)) _ _ _ _

end OrderUtils

/-- Executing an order that is loaded from the store. -/
theorem executeLoaded_writes (params : ExecuteOrderParams) :
    Writes callSlots (OrderUtils.executeOrder env params) :=
  OrderUtils.executeOrder_writes env params.key.slot_mem_callSlots orderSlots_subset_callSlots
    processSlots_subset_callSlots

/-- An order of a keeper's call is executed, cancelled or frozen. -/
theorem OrderHandler.executeOrder_writes (key : StoreKey) (oracleParams : OracleBlockNumbers)
    (keeper : Address) :
    Writes callSlots (executeOrder env deployment key oracleParams keeper) := by
  have hexecute : Writes callSlots (_executeOrder env deployment key oracleParams keeper) := by
    unfold _executeOrder
    refine (Writes.viewStore _).bind fun params => (Writes.lift _).bind fun _ => ?_
    exact (Writes.viewStore _).bind fun _ => executeLoaded_writes env params
  refine (Writes.viewStore _).bind fun _ => (hexecute.innerCall env).bind fun executed => ?_
  cases executed with
  | ok _ => exact .pure _
  | error error =>
    exact _handleOrderError_writes env deployment key.slot_mem_callSlots
      orderSlots_subset_callSlots keeper error

/-- A deposit is executed or cancelled. -/
theorem DepositHandler.executeDeposit_writes (key : StoreKey) (oracleParams : OracleBlockNumbers)
    (keeper : Address) :
    Writes callSlots (executeDeposit env deployment key oracleParams keeper) := by
  have hexecute : Writes callSlots (_executeDeposit env deployment key oracleParams keeper) := by
    unfold _executeDeposit
    refine (Writes.viewStore _).bind fun _ => ?_
    exact ExecuteDepositUtils.executeDeposit_writes env key.slot_mem_callSlots
      requestSlots_subset_callSlots
  refine (Writes.viewStore _).bind fun _ => (hexecute.innerCall env).bind fun executed => ?_
  cases executed with
  | ok _ => exact .pure _
  | error error =>
    refine .ite (.revertWithCustomError _) ?_
    exact DepositUtils.cancelDeposit_writes env key.slot_mem_callSlots
      requestSlots_subset_callSlots _ _

/-- So is a withdrawal. -/
theorem WithdrawalHandler.executeWithdrawal_writes (key : StoreKey)
    (oracleParams : OracleBlockNumbers) (keeper : Address) :
    Writes callSlots (executeWithdrawal env deployment key oracleParams keeper) := by
  have hexecute :
      Writes callSlots (_executeWithdrawal env deployment key oracleParams keeper) := by
    unfold _executeWithdrawal
    refine (Writes.viewStore _).bind fun _ => ?_
    exact WithdrawalUtils.executeWithdrawal_writes env key.slot_mem_callSlots
      requestSlots_subset_callSlots
  refine (Writes.viewStore _).bind fun _ => (hexecute.innerCall env).bind fun executed => ?_
  cases executed with
  | ok _ => exact .pure _
  | error error =>
    refine .ite (.revertWithCustomError _) ?_
    exact WithdrawalUtils.cancelWithdrawal_writes env key.slot_mem_callSlots
      requestSlots_subset_callSlots _ _

/-- A keeper's order, written under a new key. -/
theorem keeperOrder_writes (order : Order) : Writes callSlots (do
      let key ← NonceUtils.getNextKey
      writeStore (OrderStoreUtils.set · key order)
      pure key : Tx StoreKey) := by
  refine NonceUtils.getNextKey_bind_writes (orderSlots_subset_callSlots (by decide)) ?_
  intro nonce
  have hkey : (StoreKey.request nonce).slot ∈ callSlots := StoreKey.slot_mem_callSlots _
  exact (setOrder_writes hkey orderSlots_subset_callSlots order).bind fun _ => .pure _

/-- A liquidation stores its order and executes it at once. -/
theorem LiquidationHandler.executeLiquidation_writes (account market collateralToken : Address)
    (isLong : Bool) (oracleParams : OracleBlockNumbers) (keeper : Address) :
    Writes callSlots (executeLiquidation env deployment account market collateralToken isLong
      oracleParams keeper) := by
  have hcreate : Writes callSlots
      (LiquidationUtils.createLiquidationOrder env account market collateralToken isLong) := by
    unfold LiquidationUtils.createLiquidationOrder
    exact (Writes.readStore _).bind fun position => keeperOrder_writes _
  unfold executeLiquidation
  refine hcreate.bind fun key => (Writes.viewStore _).bind fun params => ?_
  exact (Writes.viewStore _).bind fun _ => executeLoaded_writes env params

/-- An auto-deleveraging too, between checks of the pnl. -/
theorem AdlHandler.executeAdl_writes (account market collateralToken : Address) (isLong : Bool)
    (sizeDeltaUsd : Nat) (oracleParams : OracleBlockNumbers) (keeper : Address) :
    Writes callSlots (executeAdl env deployment account market collateralToken isLong
      sizeDeltaUsd oracleParams keeper) := by
  have hcreate (updatedAtBlock : Nat) : Writes callSlots (AdlUtils.createAdlOrder account market
      collateralToken isLong sizeDeltaUsd updatedAtBlock) := by
    unfold AdlUtils.createAdlOrder
    refine (Writes.readStore _).bind fun position => (Writes.lift _).bind fun _ => ?_
    exact keeperOrder_writes _
  unfold executeAdl
  refine (Writes.viewStore _).bind fun _ => (Writes.viewStore _).bind ?_
  rintro ⟨shouldAllowAdl, pnlToPoolFactor, maxPnlFactorForAdl⟩
  refine (Writes.lift _).bind fun _ => (Writes.lift _).bind fun updatedAtBlock => ?_
  refine (hcreate updatedAtBlock).bind fun key => (Writes.viewStore _).bind fun params => ?_
  refine (Writes.viewStore _).bind fun _ => (executeLoaded_writes env params).bind fun _ => ?_
  refine (Writes.viewStore _).bind fun _ => (Writes.lift _).bind fun _ => ?_
  refine (Writes.readStore _).bind fun minPnlFactorForAdl => (Writes.lift _).bind fun _ => ?_
  exact .lift _

/-- **The footprint of a call.** -/
theorem Call.run_writes (call : Call) : Writes callSlots (call.run env deployment) := by
  have horder : orderSlots ⊆ callSlots := orderSlots_subset_callSlots
  have hrequest : requestSlots ⊆ callSlots := requestSlots_subset_callSlots
  cases call with
  | createOrder account params =>
    exact .discard (OrderHandler.createOrder_writes env deployment horder account params)
  | updateOrder msgSender key sizeDeltaUsd acceptablePrice triggerPrice minOutputAmount =>
    refine (Writes.readStore _).bind fun order => (Writes.lift _).bind fun _ => ?_
    exact OrderHandler.updateOrder_writes env deployment key.slot_mem_callSlots horder _ _ _ _ order
  | cancelOrder msgSender key =>
    refine (Writes.readStore _).bind fun order => (Writes.lift _).bind fun _ => ?_
    refine (Writes.lift _).bind fun _ => ?_
    exact OrderHandler.cancelOrder_writes env deployment key.slot_mem_callSlots horder
  | executeOrder key oracleParams keeper =>
    exact OrderHandler.executeOrder_writes env deployment key oracleParams keeper
  | createDeposit account params =>
    refine .discard ((Writes.viewStore _).bind fun _ => ?_)
    exact DepositUtils.createDeposit_writes env hrequest _ account params
  | cancelDeposit msgSender key =>
    refine (Writes.readStore _).bind fun deposit => (Writes.lift _).bind fun _ => ?_
    refine (Writes.lift _).bind fun _ => (Writes.readStore _).bind fun _ => ?_
    refine (Writes.viewStore _).bind fun _ => (Writes.viewStore _).bind fun _ => ?_
    exact DepositUtils.cancelDeposit_writes env key.slot_mem_callSlots hrequest _ _
  | executeDeposit key oracleParams keeper =>
    exact DepositHandler.executeDeposit_writes env deployment key oracleParams keeper
  | createWithdrawal account params =>
    refine .discard ((Writes.viewStore _).bind fun _ => ?_)
    exact WithdrawalUtils.createWithdrawal_writes env hrequest _ account params
  | cancelWithdrawal msgSender key =>
    refine (Writes.readStore _).bind fun withdrawal => (Writes.lift _).bind fun _ => ?_
    refine (Writes.readStore _).bind fun _ => (Writes.viewStore _).bind fun _ => ?_
    refine (Writes.viewStore _).bind fun _ => ?_
    exact WithdrawalUtils.cancelWithdrawal_writes env key.slot_mem_callSlots hrequest _ _
  | executeWithdrawal key oracleParams keeper =>
    exact WithdrawalHandler.executeWithdrawal_writes env deployment key oracleParams keeper
  | executeLiquidation account market collateralToken isLong oracleParams keeper =>
    exact LiquidationHandler.executeLiquidation_writes env deployment account market
      collateralToken isLong oracleParams keeper
  | updateAdlState market isLong maxOracleBlockNumbers =>
    exact AdlUtils.updateAdlState_writes env (by decide) (by decide) market isLong
      maxOracleBlockNumbers
  | executeAdl account market collateralToken isLong sizeDeltaUsd oracleParams keeper =>
    exact AdlHandler.executeAdl_writes env deployment account market collateralToken isLong
      sizeDeltaUsd oracleParams keeper

/-- Markets are only ever added by the factory. -/
theorem Call.run_market {env : Env} {deployment : Deployment} {call : Call} {w w' : World}
    {u : Unit} (h : call.run env deployment w = .ok (u, w')) :
    MarketStoreUtils.get w'.dataStore = MarketStoreUtils.get w.dataStore :=
  funext fun _ => MarketStoreUtils.get_sameOff (call.run_writes env deployment h) (by decide)
    (by decide) _

end GmxSynthetics
