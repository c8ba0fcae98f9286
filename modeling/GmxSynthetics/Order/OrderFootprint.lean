import GmxSynthetics.Exchange.Handlers
import GmxSynthetics.Exchange.RequestFootprint
import GmxSynthetics.Position.PositionFootprint

/-!
# Footprints of orders

What orders write outside the position that they trade: the order and the lists it is on, and
balances; a swap order, and the output of a decrease, also the ledgers that a swap writes.
-/

namespace GmxSynthetics

open Evm

/-- What creating, updating, cancelling or freezing an order writes. -/
def orderSlots : List Slot :=
  [.request, .constant .NONCE, .constant .ORDER_LIST, .constant .ACCOUNT_ORDER_LIST, .tokens]

variable {slots : List Slot} (env : Env)

/-- The lists of orders are among what orders write. -/
theorem orderStore_listSlots_subset (hslots : orderSlots ⊆ slots) :
    orderStore.listSlots ⊆ slots := by
  intro slot hslot
  apply hslots
  revert slot
  decide

/-- Storing an order writes its fields and its lists. -/
theorem setOrder_writes {key : StoreKey} (hkey : key.slot ∈ slots) (hslots : orderSlots ⊆ slots)
    (order : Order) : Writes slots (writeStore (OrderStoreUtils.set · key order)) :=
  Writes.writeStore (orderStore.set_changesWithin hkey (orderStore_listSlots_subset hslots) order)

-- ---------------------------------------------------------------------------
-- Orders from creation to execution
-- ---------------------------------------------------------------------------

namespace OrderUtils

/-- What comes in for the execution fee is recorded as a balance. -/
theorem recordExecutionFee_writes (htokens : Slot.tokens ∈ slots) (vault executionFee : Nat) :
    Writes slots (recordExecutionFee vault executionFee) := by
  have hrecord := fun wnt => StrictBank.recordTransferIn_writes htokens vault wnt
  unfold recordExecutionFee
  refine (Writes.readStore _).bind fun wnt => (hrecord wnt).bind fun wntAmount => ?_
  exact (Writes.lift _).bind fun _ => .pure _

/-- So is the collateral, by the orders that bring one. -/
theorem recordOrderAmounts_writes (htokens : Slot.tokens ∈ slots) (orderVault : Address)
    (params : BaseOrderUtils.CreateOrderParams) :
    Writes slots (recordOrderAmounts orderVault params) := by
  have hrecord := StrictBank.recordTransferIn_writes htokens orderVault
    params.initialCollateralToken
  have hrecordFee := recordExecutionFee_writes htokens orderVault params.executionFee
  have hcollateral : ∀ wnt : Address, Writes slots (do
      let initialCollateralDeltaAmount ←
        StrictBank.recordTransferIn orderVault params.initialCollateralToken
      if params.initialCollateralToken = wnt then
        revertIf (initialCollateralDeltaAmount < params.executionFee)
          (.InsufficientWntAmountForExecutionFee initialCollateralDeltaAmount params.executionFee)
        pure (← sub initialCollateralDeltaAmount params.executionFee, params.executionFee)
      else
        let executionFee ← recordExecutionFee orderVault params.executionFee
        pure (initialCollateralDeltaAmount, executionFee)) := by
    intro wnt
    refine hrecord.bind fun initialCollateralDeltaAmount => .ite ?_ ?_
    · exact (Writes.lift _).bind fun _ => (Writes.lift _).bind fun _ => .pure _
    · exact hrecordFee.bind fun _ => .pure _
  have hfee : Writes slots (do
      let executionFee ← recordExecutionFee orderVault params.executionFee
      pure (params.initialCollateralDeltaAmount, executionFee)) :=
    hrecordFee.bind fun _ => .pure _
  refine (Writes.readStore _).bind fun wnt => ?_
  cases params.orderType with
  | MarketSwap => exact hcollateral wnt
  | LimitSwap => exact hcollateral wnt
  | MarketIncrease => exact hcollateral wnt
  | LimitIncrease => exact hcollateral wnt
  | MarketDecrease => exact hfee
  | LimitDecrease => exact hfee
  | StopLossDecrease => exact hfee
  | Liquidation => exact .lift _

/-- An order is stored under a new key. -/
theorem createOrder_writes (hslots : orderSlots ⊆ slots) (orderVault account : Address)
    (params : BaseOrderUtils.CreateOrderParams) :
    Writes slots (createOrder env orderVault account params) := by
  have hamounts := recordOrderAmounts_writes (hslots (by decide)) orderVault params
  unfold createOrder
  refine (Writes.lift _).bind fun _ => hamounts.bind ?_
  rintro ⟨initialCollateralDeltaAmount, executionFee⟩
  -- what is checked writes nothing
  refine (Writes.ite (.viewStore _) (.pure _)).bind fun _ => (Writes.viewStore _).bind fun _ => ?_
  refine (Writes.lift _).bind fun _ => (Writes.viewStore _).bind fun _ => ?_
  refine (Writes.viewStore _).bind fun _ => ?_
  refine NonceUtils.getNextKey_bind_writes (hslots (by decide)) fun nonce => ?_
  have hkey : (StoreKey.request nonce).slot ∈ slots := hslots List.mem_cons_self
  refine (Writes.lift _).bind fun _ => ?_
  exact (setOrder_writes hkey hslots _).bind fun _ => .pure _

/-- Removing an order takes its record and its entries in the two lists of keys away. -/
theorem removeOrder_writes {key : StoreKey} (hkey : key.slot ∈ slots)
    (hslots : orderSlots ⊆ slots) (account : Address) : Writes slots (removeOrder key account) :=
  orderStore.remove_writes_tx hkey (orderStore_listSlots_subset hslots)

/-- A cancelled order is removed, and what it holds is sent back. -/
theorem cancelOrder_writes {key : StoreKey} (hkey : key.slot ∈ slots)
    (hslots : orderSlots ⊆ slots) (orderVault keeper : Address) :
    Writes slots (cancelOrder env orderVault key keeper) := by
  have htokens : Slot.tokens ∈ slots := hslots (by decide)
  unfold cancelOrder
  refine (Writes.readStore _).bind fun order => (Writes.lift _).bind fun _ => ?_
  have hcollateral := StrictBank.transferOutUnwrapping_writes env htokens orderVault
    order.initialCollateralToken order.account order.initialCollateralDeltaAmount
    order.shouldUnwrapNativeToken
  refine (Writes.ite hcollateral (.pure _)).bind fun _ => ?_
  refine (removeOrder_writes hkey hslots _).bind fun _ => ?_
  exact GasUtils.payExecutionFee_writes env htokens _ _ _ _

/-- A frozen order is stored again, without its execution fee. -/
theorem freezeOrder_writes {key : StoreKey} (hkey : key.slot ∈ slots)
    (hslots : orderSlots ⊆ slots) (orderVault keeper : Address) :
    Writes slots (freezeOrder env orderVault key keeper) := by
  have htokens : Slot.tokens ∈ slots := hslots (by decide)
  unfold freezeOrder
  refine (Writes.readStore _).bind fun order => (Writes.lift _).bind fun _ => ?_
  refine (Writes.lift _).bind fun _ => (setOrder_writes hkey hslots _).bind fun _ => ?_
  exact GasUtils.payExecutionFee_writes env htokens _ _ _ _

end OrderUtils

-- ---------------------------------------------------------------------------
-- Processing
-- ---------------------------------------------------------------------------

/-- A swap order writes what its swap writes. -/
theorem SwapOrderUtils.processOrder_writes (hslots : swapSlots ⊆ slots)
    (params : BaseOrderUtils.ExecuteOrderParams) : Writes slots (processOrder env params) := by
  unfold processOrder
  refine (Writes.lift _).bind fun _ => (Writes.lift _).bind fun _ => ?_
  exact (SwapUtils.swap_writes env hslots _).bind fun _ => .pure _

/-- The output of a decrease is sent out, or swapped first. -/
theorem DecreaseOrderUtils.payOutput_writes (hslots : swapSlots ⊆ slots)
    (params : BaseOrderUtils.ExecuteOrderParams)
    (result : DecreasePositionUtils.DecreasePositionResult) :
    Writes slots (payOutput env params result) := by
  have hpay := Bank.transferOutUnwrapping_writes env (hslots (by decide) : Slot.tokens ∈ slots)
  refine .ite ?_ ?_
  · refine (Writes.lift _).bind fun _ => ?_
    exact (hpay _ _ _ _ _).bind fun _ => hpay _ _ _ _ _
  · refine (Writes.attempt (SwapUtils.swap_writes env hslots _)).bind fun swapped => ?_
    cases swapped with
    | ok output => exact .lift _
    | error error => exact (Writes.lift _).bind fun _ => hpay _ _ _ _ _

/-- What processing an order writes. -/
def processSlots : List Slot := positionUpdateSlots ++ swapSlots

/-- An increase order writes what its swap and the increase write. -/
theorem IncreaseOrderUtils.processOrder_writes (hslots : processSlots ⊆ slots)
    (params : BaseOrderUtils.ExecuteOrderParams) : Writes slots (processOrder env params) := by
  have hupdate : positionUpdateSlots ⊆ slots := fun _ h => hslots (List.mem_append_left _ h)
  have hswap : swapSlots ⊆ slots := fun _ h => hslots (List.mem_append_right _ h)
  unfold processOrder
  refine (Writes.viewStore _).bind fun _ => (SwapUtils.swap_writes env hswap _).bind ?_
  rintro ⟨collateralToken, collateralIncrementAmount⟩
  refine (Writes.lift _).bind fun _ => (Writes.viewStore _).bind fun _ => ?_
  refine (Writes.lift _).bind fun _ => ?_
  exact (IncreasePositionUtils.increasePosition_writes env hupdate _ rfl _).bind fun _ => .pure _

/-- A decrease order writes what the decrease and its output write. -/
theorem DecreaseOrderUtils.processOrder_writes (hslots : processSlots ⊆ slots)
    (params : BaseOrderUtils.ExecuteOrderParams) : Writes slots (processOrder env params) := by
  have hupdate : positionUpdateSlots ⊆ slots := fun _ h => hslots (List.mem_append_left _ h)
  have hswap : swapSlots ⊆ slots := fun _ h => hslots (List.mem_append_right _ h)
  unfold processOrder
  refine (Writes.viewStore _).bind fun _ => (Writes.readStore _).bind fun position => ?_
  refine (Writes.lift _).bind fun _ => (Writes.lift _).bind fun _ => ?_
  refine (DecreasePositionUtils.decreasePosition_writes env _ hupdate hswap rfl).bind ?_
  rintro ⟨result, fees⟩
  exact payOutput_writes env hswap _ _

/-- By cases on the kind of the order. -/
theorem OrderUtils.processOrder_writes (hslots : processSlots ⊆ slots)
    (params : BaseOrderUtils.ExecuteOrderParams) : Writes slots (processOrder env params) := by
  have hswap : swapSlots ⊆ slots := fun _ h => hslots (List.mem_append_right _ h)
  unfold processOrder
  split_ifs
  · exact IncreaseOrderUtils.processOrder_writes env hslots params
  · exact DecreaseOrderUtils.processOrder_writes env hslots params
  · exact SwapOrderUtils.processOrder_writes env hswap params
  · exact .revert _

-- ---------------------------------------------------------------------------
-- Handlers
-- ---------------------------------------------------------------------------

namespace OrderHandler

variable (deployment : Deployment)

/-- Creating an order writes the order's slots, and the vault's ledger through the transfers in. -/
theorem createOrder_writes (hslots : orderSlots ⊆ slots) (account : Address)
    (params : BaseOrderUtils.CreateOrderParams) :
    Writes slots (createOrder env deployment account params) := by
  unfold createOrder
  refine (Writes.viewStore _).bind fun _ => ?_
  exact OrderUtils.createOrder_writes env hslots _ _ _

/-- An updated order is stored under its key. -/
theorem updateOrder_writes {key : StoreKey} (hkey : key.slot ∈ slots)
    (hslots : orderSlots ⊆ slots)
    (sizeDeltaUsd acceptablePrice triggerPrice minOutputAmount : Nat) (order : Order) :
    Writes slots (updateOrder env deployment key sizeDeltaUsd acceptablePrice triggerPrice
      minOutputAmount order) := by
  have htokens : Slot.tokens ∈ slots := hslots (by decide)
  unfold updateOrder
  refine (Writes.viewStore _).bind fun _ => (Writes.lift _).bind fun _ => ?_
  refine (Writes.readStore _).bind fun wnt => ?_
  refine (StrictBank.recordTransferIn_writes htokens _ _).bind fun receivedWnt => ?_
  refine (Writes.lift _).bind fun executionFee => (Writes.viewStore _).bind fun _ => ?_
  exact (Writes.lift _).bind fun _ => setOrder_writes hkey hslots _

/-- Cancelling an order removes it and pays its collateral back. -/
theorem cancelOrder_writes {key : StoreKey} (hkey : key.slot ∈ slots)
    (hslots : orderSlots ⊆ slots) : Writes slots (cancelOrder env deployment key) := by
  unfold cancelOrder
  refine (Writes.readStore _).bind fun order => (Writes.viewStore _).bind fun _ => ?_
  refine (Writes.ite (.viewStore _) (.pure _)).bind fun _ => ?_
  exact OrderUtils.cancelOrder_writes env hkey hslots _ _

/-- An error cancels the order or freezes it, or is handed on. -/
theorem _handleOrderError_writes {key : StoreKey} (hkey : key.slot ∈ slots)
    (hslots : orderSlots ⊆ slots) (keeper : Address) (error : Revert Errors) :
    Writes slots (_handleOrderError env deployment key keeper error) := by
  refine (Writes.readStore _).bind fun order => .ite ?_ (.ite ?_ ?_)
  · intro w u w' h
    exact absurd h (by simp [ErrorUtils.revertWithCustomError])
  · exact OrderUtils.cancelOrder_writes env hkey hslots _ _
  · exact OrderUtils.freezeOrder_writes env hkey hslots _ _

end OrderHandler

/-- The state of auto-deleveraging is a flag and a block. -/
theorem AdlUtils.updateAdlState_writes (henabled : Slot.constant .IS_ADL_ENABLED ∈ slots)
    (hblock : Slot.constant .LATEST_ADL_BLOCK ∈ slots) (market : Address) (isLong : Bool)
    (maxOracleBlockNumbers : List Nat) :
    Writes slots (updateAdlState env market isLong maxOracleBlockNumbers) := by
  have hset : (Keys.isAdlEnabledKey market isLong).slot ∈ slots := henabled
  have hset' : (Keys.latestAdlBlockKey market isLong).slot ∈ slots := hblock
  unfold updateAdlState
  refine (Writes.viewStore _).bind fun _ => (Writes.viewStore _).bind fun _ => ?_
  exact (Writes.writeStore (.setBool hset _)).bind fun _ => .writeStore (.setUint hset' _)

end GmxSynthetics
