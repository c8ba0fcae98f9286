import GmxSynthetics.Exchange.ExchangeFootprint
import GmxSynthetics.Exchange.ExchangeSettlement

/-!
# What the calls do to the accounting

A call updates one position, or none. Only executing an order updates one: creating, updating,
freezing and cancelling requests, deposits and withdrawals leave the positions and what accounts
for them as they are.

* `Call.LeavesSize` — the calls that close a part of a long position and leave a size behind that
  is worth less than one of its tokens;
* `Call.stepsTo` — every call is a step of the accounting.
-/

namespace GmxSynthetics

open Evm BaseOrderUtils

variable {env : Env} {deployment : Deployment} {w w' : World} {key : StoreKey} {u : Unit}
  {residues : List Residue}

-- ---------------------------------------------------------------------------
-- Calls that update no position
-- ---------------------------------------------------------------------------

/-- What a call writes that updates no position. -/
def quietSlots : List Slot :=
  [.constant .IS_ADL_ENABLED, .constant .LATEST_ADL_BLOCK] ++ orderSlots ++ requestSlots

theorem orderSlots_subset_quietSlots : orderSlots ⊆ quietSlots := by
  intro slot hslot
  revert slot
  decide

theorem requestSlots_subset_quietSlots : requestSlots ⊆ quietSlots := by
  intro slot hslot
  revert slot
  decide

/-- A pending request is stored where positions are not. -/
theorem RequestKeys.slot_quiet {kind : RequestKind} {dataStore : DataStore}
    (hkeys : RequestKeys dataStore) (hmem : key ∈ kind.store.keys dataStore) :
    key.slot ∈ quietSlots := by
  rw [hkeys.slot hmem]
  decide

section Quiet

variable (hkeys : RequestKeys w.dataStore)

include hkeys

/-- So is the order of an account. -/
theorem RequestKeys.order_quiet (haccount : (OrderStoreUtils.get w.dataStore key).account ≠ 0) :
    key.slot ∈ quietSlots :=
  hkeys.slot_quiet (show key ∈ RequestKind.order.store.keys w.dataStore from
    mem_of_order_account_ne haccount)

namespace OrderHandler

/-- A failed order is put away without touching a position. -/
theorem _handleOrderError_quiet {keeper : Address} {error : Revert Errors}
    (h : _handleOrderError env deployment key keeper error w = .ok (u, w')) :
    World.SameOff quietSlots w w' := by
  have haccount : (OrderStoreUtils.get w.dataStore key).account ≠ 0 := by
    rcases _handleOrderError_eq_ok h with hcancel | hfreeze
    · exact (OrderUtils.cancelOrder_eq_ok hcancel).1
    · exact (OrderUtils.freezeOrder_eq_ok hfreeze).1
  exact _handleOrderError_writes env deployment (hkeys.order_quiet haccount)
    orderSlots_subset_quietSlots keeper error h

end OrderHandler

namespace ExchangeRouter

/-- An update touches no position. -/
theorem updateOrder_quiet {msgSender : Address}
    {sizeDeltaUsd acceptablePrice triggerPrice minOutputAmount : Nat}
    (h : updateOrder env deployment msgSender key sizeDeltaUsd acceptablePrice triggerPrice
      minOutputAmount w = .ok (u, w')) : World.SameOff quietSlots w w' := by
  have h := updateOrder_eq_ok h
  have haccount := (OrderHandler.updateOrder_eq_ok h).2.1
  exact OrderHandler.updateOrder_writes env deployment (hkeys.order_quiet haccount)
    orderSlots_subset_quietSlots _ _ _ _ _ h

/-- A cancellation touches none. -/
theorem cancelOrder_quiet {msgSender : Address}
    (h : cancelOrder env deployment msgSender key w = .ok (u, w')) :
    World.SameOff quietSlots w w' := by
  obtain ⟨haccount, h⟩ := cancelOrder_eq_ok h
  exact OrderHandler.cancelOrder_writes env deployment (hkeys.order_quiet haccount)
    orderSlots_subset_quietSlots h

end ExchangeRouter

/-- Nor does that of a deposit. -/
theorem DepositUtils.cancelDeposit_quiet {depositVault keeper : Address}
    (h : cancelDeposit env depositVault key keeper w = .ok (u, w')) :
    World.SameOff quietSlots w w' := by
  obtain ⟨_, _, _, hremove, -⟩ := cancelDeposit_eq_ok h
  obtain ⟨_, hremove, -⟩ := removeDeposit_eq_ok hremove
  have hmem : key ∈ RequestKind.deposit.store.keys w.dataStore :=
    depositStore.mem_of_remove hremove
  exact cancelDeposit_writes env (hkeys.slot_quiet hmem) requestSlots_subset_quietSlots _ _ h

/-- Nor does that of a withdrawal. -/
theorem WithdrawalUtils.cancelWithdrawal_quiet {withdrawalVault keeper : Address}
    (h : cancelWithdrawal env withdrawalVault key keeper w = .ok (u, w')) :
    World.SameOff quietSlots w w' := by
  obtain ⟨_, _, hremove, -⟩ := cancelWithdrawal_eq_ok h
  obtain ⟨_, hremove, -⟩ := removeWithdrawal_eq_ok hremove
  have hmem : key ∈ RequestKind.withdrawal.store.keys w.dataStore :=
    withdrawalStore.mem_of_remove hremove
  exact cancelWithdrawal_writes env (hkeys.slot_quiet hmem) requestSlots_subset_quietSlots _ _ h

/-- Executing a deposit touches no position. -/
theorem DepositHandler.executeDeposit_quiet {oracleParams : OracleBlockNumbers} {keeper : Address}
    (h : executeDeposit env deployment key oracleParams keeper w = .ok (u, w')) :
    World.SameOff quietSlots w w' := by
  rcases executeDeposit_eq_ok h with hexecute | hcancel
  · obtain ⟨_, _, _, _, _, _, _, _, _, hremove, -⟩ :=
      ExecuteDepositUtils.executeDeposit_eq_ok hexecute
    obtain ⟨_, hremove, -⟩ := DepositUtils.removeDeposit_eq_ok hremove
    have hmem : key ∈ RequestKind.deposit.store.keys w.dataStore :=
      depositStore.mem_of_remove hremove
    exact ExecuteDepositUtils.executeDeposit_writes env (hkeys.slot_quiet hmem)
      requestSlots_subset_quietSlots hexecute
  · exact DepositUtils.cancelDeposit_quiet hkeys hcancel

/-- Nor does executing a withdrawal. -/
theorem WithdrawalHandler.executeWithdrawal_quiet {oracleParams : OracleBlockNumbers}
    {keeper : Address}
    (h : executeWithdrawal env deployment key oracleParams keeper w = .ok (u, w')) :
    World.SameOff quietSlots w w' := by
  rcases executeWithdrawal_eq_ok h with hexecute | hcancel
  · obtain ⟨_, _, hremove, -⟩ := WithdrawalUtils.executeWithdrawal_eq_ok hexecute
    obtain ⟨_, hremove, -⟩ := WithdrawalUtils.removeWithdrawal_eq_ok hremove
    have hmem : key ∈ RequestKind.withdrawal.store.keys w.dataStore :=
      withdrawalStore.mem_of_remove hremove
    exact WithdrawalUtils.executeWithdrawal_writes env (hkeys.slot_quiet hmem)
      requestSlots_subset_quietSlots hexecute
  · exact WithdrawalUtils.cancelWithdrawal_quiet hkeys hcancel

/-- Nor does a deposit that is taken back. -/
theorem ExchangeRouter.cancelDeposit_quiet {msgSender : Address}
    (h : cancelDeposit env deployment msgSender key w = .ok (u, w')) :
    World.SameOff quietSlots w w' := by
  obtain ⟨_, h⟩ := cancelDeposit_eq_ok h
  exact DepositUtils.cancelDeposit_quiet hkeys h

/-- Nor does a withdrawal that is taken back. -/
theorem ExchangeRouter.cancelWithdrawal_quiet {msgSender : Address}
    (h : cancelWithdrawal env deployment msgSender key w = .ok (u, w')) :
    World.SameOff quietSlots w w' := by
  obtain ⟨_, h⟩ := cancelWithdrawal_eq_ok h
  exact WithdrawalUtils.cancelWithdrawal_quiet hkeys h

end Quiet

-- ---------------------------------------------------------------------------
-- Sizes that are left behind
-- ---------------------------------------------------------------------------

/-- The call closes a part of a long position and leaves a size behind that is worth less than one
of its tokens. -/
def Call.LeavesSize (env : Env) (dataStore : DataStore) : Call → Prop
  | executeOrder key _ _ =>
    isDecreaseOrder (OrderStoreUtils.get dataStore key).orderType = true ∧
      DecreaseOrderUtils.LeavesSize env dataStore (OrderStoreUtils.get dataStore key)
  | executeAdl account market collateralToken isLong sizeDeltaUsd oracleParams _ =>
    DecreaseOrderUtils.LeavesSize env dataStore (makeKeeperOrder account market
      (PositionStoreUtils.get dataStore
        (PositionUtils.getPositionKey account market collateralToken isLong))
      .MarketDecrease sizeDeltaUsd (oracleParams.minOracleBlockNumbers.headD 0))
  | _ => False

section Steps

variable (hsound : (Accounting.of w.dataStore).Sound residues)

include hsound

/-- A liquidation closes all of its position, so it leaves no size behind. -/
theorem DecreaseOrderUtils.not_leavesSize_liquidation {account market collateralToken : Address}
    {isLong : Bool} {updatedAtBlock : Nat} :
    let position := PositionStoreUtils.get w.dataStore
      (PositionUtils.getPositionKey account market collateralToken isLong)
    ¬ LeavesSize env w.dataStore (makeKeeperOrder account market position .Liquidation
      position.sizeInUsd updatedAtBlock) := by
  intro position
  let order := makeKeeperOrder account market position .Liquidation position.sizeInUsd
    updatedAtBlock
  rintro ⟨prices, adjusted, -, hadjust, hlt, hlong, -⟩
  let group : PositionGroup := ⟨market, collateralToken, isLong⟩
  by_cases hmem : group.key account ∈ (Accounting.of w.dataStore).keys
  · obtain ⟨hgroup, -⟩ := PositionGroup.key_inj.mp (hsound.keyed _ hmem)
    change group = position.group at hgroup
    have hkey : positionKey order = group.key account := by
      have hcollateral : position.collateralToken = collateralToken :=
        congrArg (·.collateralToken) hgroup.symm
      have hside : position.isLong = isLong := congrArg (·.isLong) hgroup.symm
      show PositionUtils.getPositionKey account market position.collateralToken position.isLong = _
      rw [hcollateral, hside]
      rfl
    have hfull : order.sizeDeltaUsd =
        (PositionStoreUtils.get w.dataStore (positionKey order)).sizeInUsd := by
      rw [hkey]
      rfl
    have hsize := DecreasePositionUtils.adjustOrder_of_full hfull hadjust
    exact hlt.ne hsize
  · -- nothing is stored there, so the order is one for shorts
    have hempty : position = Position.empty := PositionStoreUtils.get_of_not_mem hmem
    have hshort : order.isLong = false := congrArg (·.isLong) hempty
    by_cases hother : positionKey order ∈ (Accounting.of w.dataStore).keys
    · have hkeyed := hsound.keyed _ hother
      have hside : order.isLong = (PositionStoreUtils.get w.dataStore (positionKey order)).isLong :=
        (StoreKey.position.inj hkeyed).2.2.2
      rw [hshort] at hside
      exact absurd (hside.trans hlong) (by decide)
    · have hnone : (PositionStoreUtils.get w.dataStore (positionKey order)).isLong = false :=
        congrArg (·.isLong) (PositionStoreUtils.get_of_not_mem hother)
      exact absurd (hnone.symm.trans hlong) (by decide)

/-- With a keeper's order added an order leaves no other size behind than without it. -/
theorem DecreaseOrderUtils.LeavesSize.of_withRequest {order order' : Order}
    (h : LeavesSize env (w.withRequest orderStore order).dataStore order') :
    LeavesSize env w.dataStore order' := by
  have hsame := w.withRequest_sameOff order
  have hview := Accounting.of_sameOff hsound hsame (by decide)
  refine h.congr (updateParams_of_eq hview order') ?_
  have hoff : ∀ slot ∈ adjustSlots, slot ∉ orderSlots := by decide
  intro slot hslot key hkey
  exact hsame.uint slot (hoff slot hslot) key hkey

end Steps

-- ---------------------------------------------------------------------------
-- Steps
-- ---------------------------------------------------------------------------

/-- A step that touches no position keeps the sums. -/
theorem Accounting.StepsTo.of_quiet (hsound : (Accounting.of w.dataStore).Sound residues)
    (h : World.SameOff quietSlots w w') {leaves : Prop} :
    (Accounting.of w.dataStore).StepsTo (Accounting.of w'.dataStore) leaves :=
  .stays (Accounting.of_sameOff hsound h (by decide))

section Handlers

variable (hkeys : RequestKeys w.dataStore) (hmarkets : MarketsKeyed w.dataStore)
  (hsound : (Accounting.of w.dataStore).Sound residues)

include hkeys hmarkets hsound

namespace OrderHandler

/-- Executing an order that has been loaded from the store. -/
theorem executeLoaded_stepsTo {params : ExecuteOrderParams} {oracleParams : OracleBlockNumbers}
    {keeper : Address} {secondaryOrderType : SecondaryOrderType}
    (hload : BaseOrderHandler._getExecuteOrderParams deployment w.dataStore key oracleParams keeper
      secondaryOrderType = .ok params)
    (h : OrderUtils.executeOrder env params w = .ok (u, w')) :
    let order := OrderStoreUtils.get w.dataStore key
    (Accounting.of w.dataStore).StepsTo (Accounting.of w'.dataStore)
      (isDecreaseOrder order.orderType = true ∧
        DecreaseOrderUtils.LeavesSize env w.dataStore order) := by
  intro order
  obtain ⟨hkey, horder, -, hloaded⟩ := BaseOrderHandler._getExecuteOrderParams_eq_ok hload
  have haccount := (OrderUtils.executeOrder_eq_ok h).1
  rw [horder] at haccount
  have hslot : params.key.slot = .request := by
    rw [hkey]
    exact hkeys.slot (show key ∈ RequestKind.order.store.keys w.dataStore from
      mem_of_order_account_ne haccount)
  have hstep := OrderUtils.executeOrder_stepsTo hslot hsound hmarkets hloaded h
  rw [horder] at hstep
  exact hstep

/-- An executed order is a step of the accounting. -/
theorem executeOrder_stepsTo {oracleParams : OracleBlockNumbers} {keeper : Address}
    (h : executeOrder env deployment key oracleParams keeper w = .ok (u, w')) :
    (Accounting.of w.dataStore).StepsTo (Accounting.of w'.dataStore)
      ((Call.executeOrder key oracleParams keeper).LeavesSize env w.dataStore) := by
  rcases executeOrder_eq_ok h with ⟨params, hload, hexecute⟩ | ⟨error, herror⟩
  · exact executeLoaded_stepsTo hkeys hmarkets hsound hload hexecute
  · exact .of_quiet hsound (_handleOrderError_quiet hkeys herror)

end OrderHandler

/-- Executing a keeper's order is a step from the state without it. -/
theorem executeKeeperOrder_stepsTo {order : Order} {params : ExecuteOrderParams}
    {oracleParams : OracleBlockNumbers} {keeper : Address}
    {secondaryOrderType : SecondaryOrderType} {w₁ : World}
    (hw₁ : w₁ = w.withRequest orderStore order)
    (hload : BaseOrderHandler._getExecuteOrderParams deployment w₁.dataStore
      (.request (NonceUtils.getCurrentNonce w.dataStore + 1)) oracleParams keeper
      secondaryOrderType = .ok params)
    (h : OrderUtils.executeOrder env params w₁ = .ok (u, w')) :
    (Accounting.of w.dataStore).StepsTo (Accounting.of w'.dataStore)
      (DecreaseOrderUtils.LeavesSize env w.dataStore order) := by
  obtain ⟨hsets, hnonce⟩ : Sets .order (.request (NonceUtils.getCurrentNonce w.dataStore + 1))
      order w (w.withRequest orderStore order) ∧ _ := World.withRequest_sets hkeys rfl
  have hstored : OrderStoreUtils.get w₁.dataStore
      (.request (NonceUtils.getCurrentNonce w.dataStore + 1)) = order := by
    rw [hw₁]
    exact hsets.get_self
  have hsame : World.SameOff orderSlots w w₁ := by
    rw [hw₁]
    exact w.withRequest_sameOff order
  have hview : Accounting.of w₁.dataStore = Accounting.of w.dataStore :=
    Accounting.of_sameOff hsound hsame (by decide)
  have hmarkets₁ : MarketsKeyed w₁.dataStore :=
    hmarkets.of_market_eq (congrArg Accounting.market hview)
  have hsound₁ : (Accounting.of w₁.dataStore).Sound residues := by
    rw [hview]
    exact hsound
  obtain ⟨hkey, horder, -, hloaded⟩ := BaseOrderHandler._getExecuteOrderParams_eq_ok hload
  have hstep := OrderUtils.executeOrder_stepsTo (by rw [hkey]; rfl) hsound₁ hmarkets₁ hloaded h
  rw [horder, hstored, hview] at hstep
  refine hstep.mono ?_
  rintro ⟨-, hleaves⟩
  rw [hw₁] at hleaves
  exact hleaves.of_withRequest hsound

/-- So is a liquidation. -/
theorem LiquidationHandler.executeLiquidation_stepsTo {account market collateralToken : Address}
    {isLong : Bool} {oracleParams : OracleBlockNumbers} {keeper : Address}
    (h : executeLiquidation env deployment account market collateralToken isLong oracleParams
      keeper w = .ok (u, w')) :
    (Accounting.of w.dataStore).StepsTo (Accounting.of w'.dataStore) False := by
  unfold executeLiquidation at h
  obtain ⟨key, w₁, hcreate, h⟩ := Tx.bind_eq_ok.mp h
  obtain ⟨rfl, hw₁⟩ := LiquidationUtils.createLiquidationOrder_eq_ok hcreate
  simp only [↓viewStore_bind_eq_ok] at h
  obtain ⟨params, hload, _, -, h⟩ := h
  refine (executeKeeperOrder_stepsTo hkeys hmarkets hsound hw₁ hload h).mono ?_
  exact DecreaseOrderUtils.not_leavesSize_liquidation hsound

/-- So is an auto-deleveraging. -/
theorem AdlHandler.executeAdl_stepsTo {account market collateralToken : Address} {isLong : Bool}
    {sizeDeltaUsd : Nat} {oracleParams : OracleBlockNumbers} {keeper : Address}
    (h : executeAdl env deployment account market collateralToken isLong sizeDeltaUsd oracleParams
      keeper w = .ok (u, w')) :
    (Accounting.of w.dataStore).StepsTo (Accounting.of w'.dataStore)
      ((Call.executeAdl account market collateralToken isLong sizeDeltaUsd oracleParams
        keeper).LeavesSize env w.dataStore) := by
  unfold executeAdl at h
  simp only [↓viewStore_bind_eq_ok, ↓Tx.lift_bind_eq_ok] at h
  obtain ⟨_, -, _, -, _, -, updatedAtBlock, hblock, h⟩ := h
  obtain ⟨key, w₁, hcreate, h⟩ := Tx.bind_eq_ok.mp h
  obtain ⟨rfl, hw₁⟩ := AdlUtils.createAdlOrder_eq_ok hcreate
  simp only [↓viewStore_bind_eq_ok] at h
  obtain ⟨params, hload, _, -, h⟩ := h
  obtain ⟨_, w₂, hexecute, h⟩ := Tx.bind_eq_ok.mp h
  simp only [↓viewStore_bind_eq_ok, ↓Tx.lift_bind_eq_ok, ↓readStore_bind_eq_ok,
    Tx.lift_eq_ok] at h
  obtain ⟨_, -, _, -, _, -, -, rfl⟩ := h
  have hfirst : oracleParams.minOracleBlockNumbers.headD 0 = updatedAtBlock := by
    unfold firstBlockNumber at hblock
    split at hblock
    · cases hblock
    · rename_i hcons
      rw [hcons]
      exact Result.pure_eq_ok.mp hblock
  have hstep := executeKeeperOrder_stepsTo hkeys hmarkets hsound hw₁ hload hexecute
  rw [← hfirst] at hstep
  exact hstep

/-- **Every call is a step of the accounting.** It leaves a size behind only when it closes a part
of a long position to less than one of its tokens. -/
theorem Call.stepsTo {call : Call} (h : call.run env deployment w = .ok (u, w')) :
    (Accounting.of w.dataStore).StepsTo (Accounting.of w'.dataStore)
      (call.LeavesSize env w.dataStore) := by
  cases call with
  | createOrder account params =>
    obtain ⟨_, h⟩ := discard_eq_ok.mp h
    exact .of_quiet hsound (OrderHandler.createOrder_writes env deployment
      orderSlots_subset_quietSlots account params h)
  | updateOrder msgSender key sizeDeltaUsd acceptablePrice triggerPrice minOutputAmount =>
    exact .of_quiet hsound (ExchangeRouter.updateOrder_quiet hkeys h)
  | cancelOrder msgSender key => exact .of_quiet hsound (ExchangeRouter.cancelOrder_quiet hkeys h)
  | executeOrder key oracleParams keeper =>
    exact OrderHandler.executeOrder_stepsTo hkeys hmarkets hsound h
  | createDeposit account params =>
    obtain ⟨_, h⟩ := discard_eq_ok.mp h
    have hwrites : Writes quietSlots (DepositHandler.createDeposit env deployment account params) :=
      (Writes.viewStore _).bind fun _ => DepositUtils.createDeposit_writes env
        requestSlots_subset_quietSlots _ account params
    exact .of_quiet hsound (hwrites h)
  | cancelDeposit msgSender key =>
    exact .of_quiet hsound (ExchangeRouter.cancelDeposit_quiet hkeys h)
  | executeDeposit key oracleParams keeper =>
    exact .of_quiet hsound (DepositHandler.executeDeposit_quiet hkeys h)
  | createWithdrawal account params =>
    obtain ⟨_, h⟩ := discard_eq_ok.mp h
    have hwrites : Writes quietSlots
        (WithdrawalHandler.createWithdrawal env deployment account params) :=
      (Writes.viewStore _).bind fun _ => WithdrawalUtils.createWithdrawal_writes env
        requestSlots_subset_quietSlots _ account params
    exact .of_quiet hsound (hwrites h)
  | cancelWithdrawal msgSender key =>
    exact .of_quiet hsound (ExchangeRouter.cancelWithdrawal_quiet hkeys h)
  | executeWithdrawal key oracleParams keeper =>
    exact .of_quiet hsound (WithdrawalHandler.executeWithdrawal_quiet hkeys h)
  | executeLiquidation account market collateralToken isLong oracleParams keeper =>
    exact LiquidationHandler.executeLiquidation_stepsTo hkeys hmarkets hsound h
  | updateAdlState market isLong maxOracleBlockNumbers =>
    exact .of_quiet hsound (AdlUtils.updateAdlState_writes env (by decide) (by decide) market isLong
      maxOracleBlockNumbers h)
  | executeAdl account market collateralToken isLong sizeDeltaUsd oracleParams keeper =>
    exact AdlHandler.executeAdl_stepsTo hkeys hmarkets hsound h

end Handlers

end GmxSynthetics
