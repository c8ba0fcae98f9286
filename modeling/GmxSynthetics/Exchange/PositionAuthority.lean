import GmxSynthetics.Exchange.OpenPositions
import GmxSynthetics.Order.OrderRuns

/-!
# Who may change a position

An order updates the position of its own account, in its own market and on its own side, and a
keeper liquidates or deleverages the position that it names. No other position changes with it.

* `Call.Updates` — the positions that a call is for;
* `Call.positionStep` — a call updates one of them, or none;
* `position_authority` — over whole runs a position stays as it is until an order of its account is
  executed, or it is liquidated or deleveraged.
-/

namespace GmxSynthetics

open Evm BaseOrderUtils

variable {env : Env} {deployment : Deployment} {w w' : World} {key : StoreKey} {u : Unit}
  {residues : List Residue}

-- ---------------------------------------------------------------------------
-- Steps
-- ---------------------------------------------------------------------------

/-- No position changes, or one is updated that may be. -/
inductive PositionStep (mayUpdate : PositionGroup → Address → Prop) (a a' : Accounting) : Prop where
  | stays (h : a' = a)
  | updates {group : PositionGroup} {account : Address} {nextSizeInUsd : Nat}
      (h : a.Update a' group account nextSizeInUsd) (hmay : mayUpdate group account)

namespace PositionStep

variable {a a' : Accounting} {mayUpdate mayUpdate' : PositionGroup → Address → Prop}

theorem mono (h : PositionStep mayUpdate a a')
    (himp : ∀ group account, mayUpdate group account → mayUpdate' group account) :
    PositionStep mayUpdate' a a' := by
  cases h with
  | stays h => exact .stays h
  | updates h hmay => exact .updates h (himp _ _ hmay)

/-- A position that may not be updated stays as it is, and stays stored or not. -/
theorem position_eq (hsound : a.Sound residues) (h : PositionStep mayUpdate a a')
    {group : PositionGroup} {account : Address} (hnot : ¬ mayUpdate group account) :
    (group.key account ∈ a'.keys ↔ group.key account ∈ a.keys) ∧
      a'.position (group.key account) = a.position (group.key account) := by
  cases h with
  | stays h =>
    rw [h]
    exact ⟨Iff.rfl, rfl⟩
  | @updates group' account' nextSizeInUsd h hmay =>
    have hne : group.key account ≠ group'.key account' := by
      intro heq
      obtain ⟨rfl, rfl⟩ := PositionGroup.key_inj.mp heq
      exact hnot hmay
    refine ⟨h.mem_keys _ hne, ?_⟩
    by_cases hmem : group.key account ∈ a.keys
    · exact h.position _ hmem hne
    · rw [hsound.absent _ hmem]
      exact h.absent _ fun hmem' => hmem ((h.mem_keys _ hne).mp hmem')

theorem sound (hsound : a.Sound residues) (h : PositionStep mayUpdate a a') :
    ∃ residues', a'.Sound residues' := by
  cases h with
  | stays h => exact ⟨residues, h ▸ hsound⟩
  | updates h _ => exact ⟨_, hsound.update h⟩

end PositionStep

-- ---------------------------------------------------------------------------
-- Orders
-- ---------------------------------------------------------------------------

/-- The position is one of the order's account, market and side, and for a decrease of the order's
collateral token. -/
def Order.IsFor (order : Order) (group : PositionGroup) (account : Address) : Prop :=
  order.account = account ∧ order.market = group.market ∧ order.isLong = group.isLong ∧
    (isDecreaseOrder order.orderType = true → order.initialCollateralToken = group.collateralToken)

section Orders

variable {params : ExecuteOrderParams}

theorem IncreaseOrderRun.positionStep (run : IncreaseOrderRun env params w w')
    (hsound : (Accounting.of w.dataStore).Sound residues) (hloaded : params.Loaded w.dataStore)
    (haccount : params.order.account ≠ 0)
    (hincrease : isIncreaseOrder params.order.orderType = true) :
    PositionStep params.order.IsFor (Accounting.of w.dataStore) (Accounting.of w'.dataStore) := by
  have hsame := run.accounting_swapped hsound
  obtain ⟨hupdate, -⟩ := IncreasePositionUtils.increasePosition_update run.consistent
    (run.stored hsound hloaded haccount) (hsame ▸ hsound) run.increasing
  rw [hsame] at hupdate
  refine .updates hupdate ⟨run.positionAccount.symm, run.positionMarket.symm,
    (congrArg (·.isLong) run.positionGroup).symm, fun hdecrease => absurd hdecrease ?_⟩
  revert hincrease
  cases params.order.orderType <;> decide

theorem DecreaseOrderRun.positionStep (run : DecreaseOrderRun env params w w')
    (hsound : (Accounting.of w.dataStore).Sound residues) (hloaded : params.Loaded w.dataStore) :
    PositionStep params.order.IsFor (Accounting.of w.dataStore) (Accounting.of w'.dataStore) := by
  obtain ⟨_, _, -, -, hupdate, -⟩ := DecreasePositionUtils.decreasePosition_update
    (run.consistent hsound hloaded) (run.stored hsound) hsound run.decreasing
  have hpaid : Accounting.of w'.dataStore = Accounting.of run.decreased.dataStore :=
    Accounting.of_sameOff (hsound.update hupdate)
      (DecreaseOrderUtils.payOutput_writes env (List.Subset.refl swapSlots) _ _ run.paying)
      (by decide)
  rw [run.position_group hsound, run.position_account hsound, ← hpaid] at hupdate
  exact .updates hupdate ⟨rfl, rfl, rfl, fun _ => rfl⟩

theorem OrderUtils.processOrder_positionStep
    (hsound : (Accounting.of w.dataStore).Sound residues) (hkeyed : MarketsKeyed w.dataStore)
    (hloaded : params.Loaded w.dataStore) (haccount : params.order.account ≠ 0)
    (h : processOrder env params w = .ok (u, w')) :
    PositionStep params.order.IsFor (Accounting.of w.dataStore) (Accounting.of w'.dataStore) := by
  unfold processOrder at h
  split_ifs at h with hincrease hdecrease hswap
  · obtain ⟨run⟩ := IncreaseOrderUtils.processOrder_run hsound hkeyed hloaded h
    exact run.positionStep hsound hloaded haccount hincrease
  · obtain ⟨run⟩ := DecreaseOrderUtils.processOrder_run hkeyed hloaded h
    exact run.positionStep hsound hloaded
  · exact .stays (Accounting.of_sameOff hsound
      (SwapOrderUtils.processOrder_writes env (List.Subset.refl swapSlots) _ h) (by decide))
  · exact absurd h (by simp)

theorem OrderUtils.executeOrder_positionStep (hkey : params.key.slot = .request)
    (hsound : (Accounting.of w.dataStore).Sound residues) (hkeyed : MarketsKeyed w.dataStore)
    (hloaded : params.Loaded w.dataStore) (h : executeOrder env params w = .ok (u, w')) :
    PositionStep params.order.IsFor (Accounting.of w.dataStore) (Accounting.of w'.dataStore) := by
  obtain ⟨run⟩ := executeOrder_run hkey hkeyed hloaded h
  have hstep := processOrder_positionStep (run.sound_removed hsound) run.marketsKeyed run.loaded
    run.account_ne run.processing
  obtain ⟨_, hsound'⟩ := hstep.sound (run.sound_removed hsound)
  have hpaid : World.SameOff [.tokens] run.processed w' :=
    GasUtils.payExecutionFee_writes env (List.mem_singleton_self _) _ _ _ _ run.paying
  rw [Accounting.of_sameOff hsound' hpaid (by decide)]
  rwa [run.accounting_removed hsound] at hstep

end Orders

-- ---------------------------------------------------------------------------
-- Calls
-- ---------------------------------------------------------------------------

/-- The position that a keeper names: one that is stored has the collateral token and the side that
it is named by. -/
def NamesPosition (dataStore : DataStore) (user market collateralToken : Address) (isLong : Bool)
    (group : PositionGroup) (account : Address) : Prop :=
  let position := PositionStoreUtils.get dataStore
    (PositionUtils.getPositionKey user market collateralToken isLong)
  user = account ∧ ⟨market, position.collateralToken, position.isLong⟩ = group

/-- The position is one that the call is for: that of the order it executes, or the one it names. -/
def Call.Updates (dataStore : DataStore) (group : PositionGroup) (account : Address) :
    Call → Prop
  | executeOrder key _ _ => (OrderStoreUtils.get dataStore key).IsFor group account
  | executeLiquidation user market collateralToken isLong _ _ =>
    NamesPosition dataStore user market collateralToken isLong group account
  | executeAdl user market collateralToken isLong _ _ _ =>
    NamesPosition dataStore user market collateralToken isLong group account
  | _ => False

section Handlers

variable (hw : Settleable deployment w) (hsound : (Accounting.of w.dataStore).Sound residues)

include hw hsound

theorem OrderHandler.executeOrder_positionStep {oracleParams : OracleBlockNumbers}
    {keeper : Address}
    (h : executeOrder env deployment key oracleParams keeper w = .ok (u, w')) :
    PositionStep (OrderStoreUtils.get w.dataStore key).IsFor (Accounting.of w.dataStore)
      (Accounting.of w'.dataStore) := by
  rcases executeOrder_eq_ok h with ⟨params, hload, hexecute⟩ | ⟨error, herror⟩
  · obtain ⟨rfl, horder, -, hloaded⟩ := BaseOrderHandler._getExecuteOrderParams_eq_ok hload
    have haccount := (OrderUtils.executeOrder_eq_ok hexecute).1
    rw [horder] at haccount
    have hmem : params.key ∈ RequestKind.order.store.keys w.dataStore :=
      mem_of_order_account_ne haccount
    rw [← horder]
    exact OrderUtils.executeOrder_positionStep (hw.requestKeys.slot hmem) hsound hw.marketsKeyed
      hloaded hexecute
  · exact .stays (Accounting.of_sameOff hsound (_handleOrderError_quiet hw.requestKeys herror)
      (by decide))

/-- A keeper's order is for the position that it is made from. -/
theorem executeKeeperOrder_positionStep {user market collateralToken : Address} {isLong : Bool}
    {orderType : OrderType} {sizeDeltaUsd updatedAtBlock : Nat} {params : ExecuteOrderParams}
    {oracleParams : OracleBlockNumbers} {keeper : Address}
    {secondaryOrderType : SecondaryOrderType} {w₁ : World}
    (hdecrease : isDecreaseOrder orderType = true)
    (hw₁ : w₁ = w.withRequest orderStore (makeKeeperOrder user market
      (PositionStoreUtils.get w.dataStore
        (PositionUtils.getPositionKey user market collateralToken isLong))
      orderType sizeDeltaUsd updatedAtBlock))
    (hload : BaseOrderHandler._getExecuteOrderParams deployment w₁.dataStore
      (.request (NonceUtils.getCurrentNonce w.dataStore + 1)) oracleParams keeper
      secondaryOrderType = .ok params)
    (h : OrderUtils.executeOrder env params w₁ = .ok (u, w')) :
    PositionStep (NamesPosition w.dataStore user market collateralToken isLong)
      (Accounting.of w.dataStore) (Accounting.of w'.dataStore) := by
  subst hw₁
  let order := makeKeeperOrder user market
    (PositionStoreUtils.get w.dataStore
      (PositionUtils.getPositionKey user market collateralToken isLong))
    orderType sizeDeltaUsd updatedAtBlock
  obtain ⟨hsets, -⟩ : Sets .order (.request (NonceUtils.getCurrentNonce w.dataStore + 1))
      order w (w.withRequest orderStore order) ∧ _ :=
    World.withRequest_sets hw.requestKeys rfl
  have hview : Accounting.of (w.withRequest orderStore order).dataStore =
      Accounting.of w.dataStore :=
    Accounting.of_sameOff hsound (w.withRequest_sameOff order) (by decide)
  obtain ⟨hkey, horder, -, hloaded⟩ := BaseOrderHandler._getExecuteOrderParams_eq_ok hload
  have horder : params.order = order := horder.trans hsets.get_self
  have hkeyed := hw.marketsKeyed.of_market_eq (congrArg Accounting.market hview)
  have hsound₁ : (Accounting.of (w.withRequest orderStore order).dataStore).Sound residues :=
    hview ▸ hsound
  have hstep := OrderUtils.executeOrder_positionStep (by rw [hkey]; rfl) hsound₁ hkeyed hloaded h
  rw [hview, horder] at hstep
  refine hstep.mono fun group account hfor => ?_
  obtain ⟨haccount, hmarket, hside, hcollateral⟩ := hfor
  refine ⟨haccount, ?_⟩
  cases group
  exact (PositionGroup.mk.injEq ..).mpr ⟨hmarket, hcollateral hdecrease, hside⟩

theorem LiquidationHandler.executeLiquidation_positionStep
    {user market collateralToken : Address} {isLong : Bool} {oracleParams : OracleBlockNumbers}
    {keeper : Address}
    (h : executeLiquidation env deployment user market collateralToken isLong oracleParams
      keeper w = .ok (u, w')) :
    PositionStep (NamesPosition w.dataStore user market collateralToken isLong)
      (Accounting.of w.dataStore) (Accounting.of w'.dataStore) := by
  unfold executeLiquidation at h
  obtain ⟨key, w₁, hcreate, h⟩ := Tx.bind_eq_ok.mp h
  obtain ⟨rfl, hw₁⟩ := LiquidationUtils.createLiquidationOrder_eq_ok hcreate
  simp only [↓viewStore_bind_eq_ok] at h
  obtain ⟨params, hload, _, -, h⟩ := h
  exact executeKeeperOrder_positionStep hw hsound rfl hw₁ hload h

theorem AdlHandler.executeAdl_positionStep {user market collateralToken : Address} {isLong : Bool}
    {sizeDeltaUsd : Nat} {oracleParams : OracleBlockNumbers} {keeper : Address}
    (h : executeAdl env deployment user market collateralToken isLong sizeDeltaUsd oracleParams
      keeper w = .ok (u, w')) :
    PositionStep (NamesPosition w.dataStore user market collateralToken isLong)
      (Accounting.of w.dataStore) (Accounting.of w'.dataStore) := by
  unfold executeAdl at h
  simp only [↓viewStore_bind_eq_ok, ↓Tx.lift_bind_eq_ok] at h
  obtain ⟨_, -, _, -, _, -, updatedAtBlock, -, h⟩ := h
  obtain ⟨key, w₁, hcreate, h⟩ := Tx.bind_eq_ok.mp h
  obtain ⟨rfl, hw₁⟩ := AdlUtils.createAdlOrder_eq_ok hcreate
  simp only [↓viewStore_bind_eq_ok] at h
  obtain ⟨params, hload, _, -, h⟩ := h
  obtain ⟨_, w₂, hexecute, h⟩ := Tx.bind_eq_ok.mp h
  simp only [↓viewStore_bind_eq_ok, ↓Tx.lift_bind_eq_ok, ↓readStore_bind_eq_ok,
    Tx.lift_eq_ok] at h
  obtain ⟨_, -, _, -, _, -, -, rfl⟩ := h
  exact executeKeeperOrder_positionStep hw hsound rfl hw₁ hload hexecute

/-- A call updates one position that it is for, or none. -/
theorem Call.positionStep {call : Call} (h : call.run env deployment w = .ok (u, w')) :
    PositionStep (fun group account => call.Updates w.dataStore group account)
      (Accounting.of w.dataStore) (Accounting.of w'.dataStore) := by
  have hquiet : World.SameOff quietSlots w w' →
      PositionStep (fun group account => call.Updates w.dataStore group account)
        (Accounting.of w.dataStore) (Accounting.of w'.dataStore) := fun hsame =>
    .stays (Accounting.of_sameOff hsound hsame (by decide))
  have hkeys := hw.requestKeys
  cases call with
  | createOrder account params =>
    obtain ⟨_, h⟩ := discard_eq_ok.mp h
    exact hquiet (OrderHandler.createOrder_writes env deployment orderSlots_subset_quietSlots
      account params h)
  | updateOrder msgSender key sizeDeltaUsd acceptablePrice triggerPrice minOutputAmount =>
    exact hquiet (ExchangeRouter.updateOrder_quiet hkeys h)
  | cancelOrder msgSender key => exact hquiet (ExchangeRouter.cancelOrder_quiet hkeys h)
  | executeOrder key oracleParams keeper =>
    exact OrderHandler.executeOrder_positionStep hw hsound h
  | createDeposit account params =>
    obtain ⟨_, h⟩ := discard_eq_ok.mp h
    have hwrites : Writes quietSlots (DepositHandler.createDeposit env deployment account params) :=
      (Writes.viewStore _).bind fun _ => DepositUtils.createDeposit_writes env
        requestSlots_subset_quietSlots _ account params
    exact hquiet (hwrites h)
  | cancelDeposit msgSender key => exact hquiet (ExchangeRouter.cancelDeposit_quiet hkeys h)
  | executeDeposit key oracleParams keeper =>
    exact hquiet (DepositHandler.executeDeposit_quiet hkeys h)
  | createWithdrawal account params =>
    obtain ⟨_, h⟩ := discard_eq_ok.mp h
    have hwrites : Writes quietSlots
        (WithdrawalHandler.createWithdrawal env deployment account params) :=
      (Writes.viewStore _).bind fun _ => WithdrawalUtils.createWithdrawal_writes env
        requestSlots_subset_quietSlots _ account params
    exact hquiet (hwrites h)
  | cancelWithdrawal msgSender key => exact hquiet (ExchangeRouter.cancelWithdrawal_quiet hkeys h)
  | executeWithdrawal key oracleParams keeper =>
    exact hquiet (WithdrawalHandler.executeWithdrawal_quiet hkeys h)
  | executeLiquidation user market collateralToken isLong oracleParams keeper =>
    exact LiquidationHandler.executeLiquidation_positionStep hw hsound h
  | updateAdlState market isLong maxOracleBlockNumbers =>
    exact hquiet (AdlUtils.updateAdlState_writes env (by decide) (by decide) market isLong
      maxOracleBlockNumbers h)
  | executeAdl user market collateralToken isLong sizeDeltaUsd oracleParams keeper =>
    exact AdlHandler.executeAdl_positionStep hw hsound h

end Handlers

-- ---------------------------------------------------------------------------
-- Runs
-- ---------------------------------------------------------------------------

def Action.Updates (dataStore : DataStore) (group : PositionGroup) (account : Address) :
    Action → Prop
  | .call _ c => c.Updates dataStore group account
  | _ => False

/-- The position of an account in a group is stored as it was, or is still not stored. -/
def SamePosition (group : PositionGroup) (account : Address) (w w' : World) : Prop :=
  (group.key account ∈ positionStore.keys w'.dataStore ↔
    group.key account ∈ positionStore.keys w.dataStore) ∧
  PositionStoreUtils.get w'.dataStore (group.key account) =
    PositionStoreUtils.get w.dataStore (group.key account)

theorem SamePosition.of_sameOff {slots : List Slot} {group : PositionGroup} {account : Address}
    (h : World.SameOff slots w w') (hlist : Slot.constant .POSITION_LIST ∉ slots)
    (hposition : Slot.position ∉ slots) : SamePosition group account w w' := by
  refine ⟨?_, positionStore.get_sameOff h hlist hposition⟩
  rw [positionStore.keys_sameOff h hlist]

/-- A step that is not for a position leaves it as it is. -/
theorem exchange_samePosition (hw : Settleable deployment w)
    (hsound : (Accounting.of w.dataStore).Sound residues) {action : Action}
    {group : PositionGroup} {account : Address}
    (hnot : ¬ action.Updates w.dataStore group account)
    (h : (exchange deployment).next action w w') : SamePosition group account w w' := by
  cases action with
  | call env call => exact (Call.positionStep hw hsound h).position_eq hsound hnot
  | createMarket marketToken indexToken longToken shortToken marketType =>
    obtain ⟨-, market, hcreate⟩ := h
    exact .of_sameOff (MarketFactory.createMarket_sameOff hcreate) (by decide) (by decide)
  | outside =>
    obtain ⟨slots, hsame, hslots⟩ := h.writes
    exact .of_sameOff hsame (hslots _ (by decide)) (hslots _ (by decide))

/-- **Position authority.** In every state that is reached, each stored position is that of the
account, market, collateral token and side in its key, and has a size. Over every run in which no
order for it is executed and it is neither liquidated nor deleveraged, it stays as it is. -/
theorem position_authority (hsane : deployment.Sane) (hreach : (exchange deployment).Reachable w) :
    (∀ key ∈ positionStore.keys w.dataStore,
      let position := PositionStoreUtils.get w.dataStore key
      key = position.group.key position.account ∧ position.account ≠ 0 ∧
        0 < position.sizeInUsd ∧ 0 < position.sizeInTokens) ∧
    ∀ (group : PositionGroup) (account : Address) (w' : World),
      (exchange deployment).RunIf
          (fun action w => ¬ action.Updates w.dataStore group account) w w' →
        SamePosition group account w w' := by
  constructor
  · obtain ⟨residues, hsound⟩ := exchange_sound hsane hreach
    exact fun key hmem => ⟨hsound.keyed key hmem, hsound.account_ne key hmem,
      hsound.sizeInUsd_pos key hmem, hsound.sizeInTokens_pos key hmem⟩
  · intro group account w' hrun
    refine Machine.RunIf.stable (P := SamePosition group account w) ?_ hreach ⟨Iff.rfl, rfl⟩ hrun
    rintro action w₁ w₂ hreach₁ hnot hnext ⟨hkeys₁, hget₁⟩
    obtain ⟨residues, hsound₁⟩ := exchange_sound hsane hreach₁
    obtain ⟨hkeys₂, hget₂⟩ := exchange_samePosition
      (exchange_escrowed hsane hreach₁).toSettleable hsound₁ hnot hnext
    exact ⟨hkeys₂.trans hkeys₁, hget₂.trans hget₁⟩

/-- A position is opened, and stays for as long as its account and the keepers leave it alone. -/
theorem position_authority_openLong :
    ∃ w, (exchange escrowDeployment).Reachable w ∧
      (PositionStoreUtils.get w.dataStore (PositionGroup.key ⟨1, 3, true⟩ 9)).sizeInUsd =
        100 * 10 ^ 30 ∧
      ∀ w', (exchange escrowDeployment).RunIf
          (fun action w => ¬ action.Updates w.dataStore ⟨1, 3, true⟩ 9) w w' →
        (PositionStoreUtils.get w'.dataStore (PositionGroup.key ⟨1, 3, true⟩ 9)).sizeInUsd =
          100 * 10 ^ 30 := by
  obtain ⟨⟨w₁, w₂⟩, hok, hincrease, hsize⟩ := (by decide +kernel :
    openLong.Satisfies fun run =>
      isDecreaseOrder (OrderStoreUtils.get run.1.dataStore (.request 2)).orderType = false ∧
      (PositionStoreUtils.get run.2.dataStore (PositionGroup.key ⟨1, 3, true⟩ 9)).sizeInUsd =
        100 * 10 ^ 30).exists
  have hreach := (openLong_reachable hok hincrease).reachable
  refine ⟨w₂, hreach, hsize, fun w' hrun => ?_⟩
  obtain ⟨-, hget⟩ := (position_authority escrowDeployment_sane hreach).2 _ _ w' hrun
  rw [hget, hsize]

end GmxSynthetics
