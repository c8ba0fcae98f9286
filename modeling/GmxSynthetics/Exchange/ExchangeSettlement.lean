import GmxSynthetics.Exchange.Exchange

/-!
# Every call of the exchange settles one request

What a handler does around a request: it checks the feature, reads the request, and when an inner
execution reverts it cancels or freezes the request instead. Either way the vaults settle one
request.

* `Call.settled` — every call, of users and of keepers.
-/

namespace GmxSynthetics

open Evm BaseOrderUtils

variable {env : Env} {deployment : Deployment} {w w' w₁ : World} {key : StoreKey} {u : Unit}

-- ---------------------------------------------------------------------------
-- Requests that are pending
-- ---------------------------------------------------------------------------

/-- An order that has an account is listed. -/
theorem mem_of_order_account_ne {dataStore : DataStore}
    (h : (OrderStoreUtils.get dataStore key).account ≠ 0) : key ∈ orderStore.keys dataStore := by
  by_contra hmem
  exact h (congrArg Order.account (orderStore.get_of_not_mem hmem))

-- ---------------------------------------------------------------------------
-- Calls that touch no request
-- ---------------------------------------------------------------------------

/-- Nothing is settled where no request changes and no vault pays. -/
theorem Settled.of_same (hsame : SameRequests w w')
    (hguarded : ∀ kind : RequestKind, Guarded (kind.vault deployment) w w') :
    Settled deployment .order key w w' where
  settles := ⟨0, 0, (hsame.same .order).settles (hguarded .order) key⟩
  others kind' _ := ⟨hsame.same kind', hguarded kind'⟩
  nonce_le := hsame.nonce.ge
  given key' hmem := by
    rw [(hsame.same .order).keys] at hmem
    exact Or.inl hmem

/-- A request that is new and owed nothing, and then settled. -/
theorem Settled.after_request (kind : RequestKind) {record : kind.Record}
    (hkeys : RequestKeys w.dataStore)
    (howed : kind.owed (TokenUtils.wnt w.dataStore) record = 0)
    (h : Settled deployment kind (.request (NonceUtils.getCurrentNonce w.dataStore + 1))
      (w.withRequest kind.store record) w') :
    Settled deployment kind (.request (NonceUtils.getCurrentNonce w.dataStore + 1)) w w' := by
  obtain ⟨hsets, hnonce⟩ : Sets kind _ record w (w.withRequest kind.store record) ∧ _ :=
    World.withRequest_sets hkeys rfl
  have hmem : ∀ key', key' ∈ kind.store.keys (w.withRequest kind.store record).dataStore ↔
      key' ∈ kind.store.keys w.dataStore ∨
        key' = .request (NonceUtils.getCurrentNonce w.dataStore + 1) := by
    intro key'
    rw [hsets.keys, EnumerableSet.mem_add]
  have howed' : (kind.escrow deployment (w.withRequest kind.store record)).owed =
      (kind.escrow deployment w).owed := by
    funext key'
    show kind.owed _ (kind.store.get (w.withRequest kind.store record).dataStore key') = _
    by_cases hkey : key' = .request (NonceUtils.getCurrentNonce w.dataStore + 1)
    · rw [hkey, hsets.get_self, hsets.wnt, howed]
      exact (RequestKind.owed_of_not_mem (hkeys.next_not_mem kind)).symm
    · rw [hsets.get_of_ne key' hkey, hsets.wnt]
      rfl
  constructor
  case settles =>
    obtain ⟨received, spent, hsettles⟩ := h.settles
    refine ⟨received, spent, hsettles.after_listed rfl ?_ ?_ howed'⟩
    · intro hnodup
      show (kind.store.keys (w.withRequest kind.store record).dataStore).Nodup
      rw [hsets.keys]
      exact EnumerableSet.nodup_add hnodup _
    · exact fun key' hne => (hmem key').trans (or_iff_left hne)
  case others =>
    intro kind' hne
    obtain ⟨hsame, hguarded⟩ := h.others kind' hne
    exact ⟨(hsets.others kind' hne).trans hsame, hguarded⟩
  case nonce_le =>
    have hle := h.nonce_le
    omega
  case given =>
    intro key' hkey'
    have hle := h.nonce_le
    rcases h.given key' hkey' with hold | ⟨rfl, -⟩
    · rcases (hmem key').mp hold with hold | rfl
      · exact Or.inl hold
      · exact Or.inr ⟨rfl, _, rfl, Nat.lt_succ_self _, by omega⟩
    · exact Or.inr ⟨rfl, _, rfl, Nat.lt_succ_self _, by omega⟩

-- ---------------------------------------------------------------------------
-- Handlers
-- ---------------------------------------------------------------------------

/-- What a state must meet for its vaults to be settled: the requests have keys of their own, and no
vault is a market. -/
structure Settleable (deployment : Deployment) (w : World) : Prop where
  requestKeys : RequestKeys w.dataStore
  marketsKeyed : MarketsKeyed w.dataStore
  noMarkets : deployment.NoMarkets w.dataStore

/-- The vaults are accounts of their own. -/
structure Deployment.Sane (deployment : Deployment) : Prop where
  distinct : deployment.Distinct
  vault_ne : ∀ kind : RequestKind, kind.vault deployment ≠ 0

section Handlers

variable (hsane : deployment.Sane) (hw : Settleable deployment w)

include hsane hw

namespace OrderHandler

/-- A new order is settled with what came in for it. -/
theorem createOrder_settled {account : Address} {params : CreateOrderParams}
    (h : createOrder env deployment account params w = .ok (key, w')) :
    ∃ key, Settled deployment .order key w w' := by
  unfold createOrder at h
  simp only [↓viewStore_bind_eq_ok] at h
  obtain ⟨_, -, h⟩ := h
  exact ⟨_, OrderUtils.createOrder_settled hsane.distinct hw.requestKeys h⟩

/-- A cancelled one with what it held. -/
theorem cancelOrder_settled (h : cancelOrder env deployment key w = .ok (u, w')) :
    Settled deployment .order key w w' :=
  OrderUtils.cancelOrder_settled hsane.distinct hw.requestKeys (cancelOrder_eq_ok h)

/-- An order that cannot be executed is cancelled or frozen. -/
theorem _handleOrderError_settled {keeper : Address} {error : Revert Errors}
    (h : _handleOrderError env deployment key keeper error w = .ok (u, w')) :
    Settled deployment .order key w w' := by
  rcases _handleOrderError_eq_ok h with hcancel | hfreeze
  · exact OrderUtils.cancelOrder_settled hsane.distinct hw.requestKeys hcancel
  · exact OrderUtils.freezeOrder_settled hsane.distinct hw.requestKeys hfreeze

/-- Executing an order that has been loaded from the store. -/
theorem executeLoaded_settled {params : ExecuteOrderParams} {oracleParams : OracleBlockNumbers}
    {keeper : Address} {secondaryOrderType : SecondaryOrderType}
    (hload : BaseOrderHandler._getExecuteOrderParams deployment w.dataStore key oracleParams keeper
      secondaryOrderType = .ok params)
    (h : OrderUtils.executeOrder env params w = .ok (u, w')) :
    Settled deployment .order key w w' := by
  obtain ⟨hkey, horder, hvault, -⟩ := BaseOrderHandler._getExecuteOrderParams_eq_ok hload
  have haway : ∀ kind : RequestKind, params.Away (kind.vault deployment) := fun kind =>
    BaseOrderHandler._getExecuteOrderParams_away (hsane.vault_ne kind) (hw.noMarkets kind)
      hw.marketsKeyed hload
  rw [← hkey] at horder ⊢
  exact OrderUtils.executeOrder_settled hsane.distinct hw.requestKeys horder hvault haway h

/-- An executed one too, whether it goes through or not. -/
theorem executeOrder_settled {oracleParams : OracleBlockNumbers} {keeper : Address}
    (h : executeOrder env deployment key oracleParams keeper w = .ok (u, w')) :
    Settled deployment .order key w w' := by
  rcases executeOrder_eq_ok h with ⟨params, hload, hexecute⟩ | ⟨error, herror⟩
  · exact executeLoaded_settled hsane hw hload hexecute
  · exact _handleOrderError_settled hsane hw herror

end OrderHandler

/-- An updated one with what came in for its fee. -/
theorem ExchangeRouter.updateOrder_settled {msgSender : Address}
    {sizeDeltaUsd acceptablePrice triggerPrice minOutputAmount : Nat}
    (h : updateOrder env deployment msgSender key sizeDeltaUsd acceptablePrice triggerPrice
      minOutputAmount w = .ok (u, w')) : Settled deployment .order key w w' :=
  OrderHandler.updateOrder_settled hsane.distinct hw.requestKeys (updateOrder_eq_ok h)

/-- One that its account takes back with what it held. -/
theorem ExchangeRouter.cancelOrder_settled {msgSender : Address}
    (h : cancelOrder env deployment msgSender key w = .ok (u, w')) :
    Settled deployment .order key w w' :=
  OrderHandler.cancelOrder_settled hsane hw (cancelOrder_eq_ok h).2

namespace DepositHandler

/-- A new deposit is settled with what came in for it. -/
theorem createDeposit_settled {account : Address} {params : DepositUtils.CreateDepositParams}
    (h : createDeposit env deployment account params w = .ok (key, w')) :
    ∃ key, Settled deployment .deposit key w w' := by
  unfold createDeposit at h
  simp only [↓viewStore_bind_eq_ok] at h
  obtain ⟨_, -, h⟩ := h
  exact ⟨_, DepositUtils.createDeposit_settled hsane.distinct hw.requestKeys h⟩

/-- An executed one with what it held. -/
theorem executeDeposit_settled {oracleParams : OracleBlockNumbers} {keeper : Address}
    (h : executeDeposit env deployment key oracleParams keeper w = .ok (u, w')) :
    Settled deployment .deposit key w w' := by
  rcases executeDeposit_eq_ok h with hexecute | hcancel
  · exact ExecuteDepositUtils.executeDeposit_settled hsane.distinct hw.requestKeys hw.noMarkets
      rfl hexecute
  · exact DepositUtils.cancelDeposit_settled hsane.distinct hw.requestKeys hcancel

end DepositHandler

/-- One that its account takes back too. -/
theorem ExchangeRouter.cancelDeposit_settled {msgSender : Address}
    (h : cancelDeposit env deployment msgSender key w = .ok (u, w')) :
    Settled deployment .deposit key w w' := by
  obtain ⟨_, h⟩ := cancelDeposit_eq_ok h
  exact DepositUtils.cancelDeposit_settled hsane.distinct hw.requestKeys h

namespace WithdrawalHandler

/-- A new withdrawal is settled with what came in for it. -/
theorem createWithdrawal_settled {account : Address}
    {params : WithdrawalUtils.CreateWithdrawalParams}
    (h : createWithdrawal env deployment account params w = .ok (key, w')) :
    ∃ key, Settled deployment .withdrawal key w w' := by
  unfold createWithdrawal at h
  simp only [↓viewStore_bind_eq_ok] at h
  obtain ⟨_, -, h⟩ := h
  exact ⟨_, WithdrawalUtils.createWithdrawal_settled hsane.distinct hw.requestKeys h⟩

/-- An executed one with what it held. -/
theorem executeWithdrawal_settled {oracleParams : OracleBlockNumbers} {keeper : Address}
    (h : executeWithdrawal env deployment key oracleParams keeper w = .ok (u, w')) :
    Settled deployment .withdrawal key w w' := by
  rcases executeWithdrawal_eq_ok h with hexecute | hcancel
  · exact WithdrawalUtils.executeWithdrawal_settled hsane.distinct hw.requestKeys hw.marketsKeyed
      hw.noMarkets rfl hexecute
  · exact WithdrawalUtils.cancelWithdrawal_settled hsane.distinct hw.requestKeys hcancel

end WithdrawalHandler

/-- One that its account takes back too. -/
theorem ExchangeRouter.cancelWithdrawal_settled {msgSender : Address}
    (h : cancelWithdrawal env deployment msgSender key w = .ok (u, w')) :
    Settled deployment .withdrawal key w w' := by
  obtain ⟨_, h⟩ := cancelWithdrawal_eq_ok h
  exact WithdrawalUtils.cancelWithdrawal_settled hsane.distinct hw.requestKeys h

end Handlers

-- ---------------------------------------------------------------------------
-- Keepers' orders
-- ---------------------------------------------------------------------------

/-- The order of a liquidation holds nothing. -/
theorem LiquidationUtils.createLiquidationOrder_eq_ok {account market collateralToken : Address}
    {isLong : Bool}
    (h : createLiquidationOrder env account market collateralToken isLong w = .ok (key, w')) :
    let position := PositionStoreUtils.get w.dataStore
      (PositionUtils.getPositionKey account market collateralToken isLong)
    key = .request (NonceUtils.getCurrentNonce w.dataStore + 1) ∧
      w' = w.withRequest orderStore
        (makeKeeperOrder account market position .Liquidation position.sizeInUsd
          env.blockNumber) := by
  unfold createLiquidationOrder at h
  simp only [↓readStore_bind_eq_ok] at h
  obtain ⟨_, w₁, hkey, h⟩ := Tx.bind_eq_ok.mp h
  obtain ⟨rfl, rfl⟩ := NonceUtils.getNextKey_eq_ok hkey
  simp only [↓writeStore_bind_eq_ok, Tx.pure_eq_ok] at h
  obtain ⟨rfl, rfl⟩ := h
  exact ⟨rfl, rfl⟩

/-- Nor does that of an auto-deleveraging. -/
theorem AdlUtils.createAdlOrder_eq_ok {account market collateralToken : Address} {isLong : Bool}
    {sizeDeltaUsd updatedAtBlock : Nat}
    (h : createAdlOrder account market collateralToken isLong sizeDeltaUsd updatedAtBlock w =
      .ok (key, w')) :
    let position := PositionStoreUtils.get w.dataStore
      (PositionUtils.getPositionKey account market collateralToken isLong)
    key = .request (NonceUtils.getCurrentNonce w.dataStore + 1) ∧
      w' = w.withRequest orderStore
        (makeKeeperOrder account market position .MarketDecrease sizeDeltaUsd updatedAtBlock) := by
  unfold createAdlOrder at h
  simp only [↓readStore_bind_eq_ok, ↓Tx.lift_bind_eq_ok] at h
  obtain ⟨_, -, h⟩ := h
  obtain ⟨_, w₁, hkey, h⟩ := Tx.bind_eq_ok.mp h
  obtain ⟨rfl, rfl⟩ := NonceUtils.getNextKey_eq_ok hkey
  simp only [↓writeStore_bind_eq_ok, Tx.pure_eq_ok] at h
  obtain ⟨rfl, rfl⟩ := h
  exact ⟨rfl, rfl⟩

/-- Storing a request writes its record, the lists and the nonce. -/
theorem World.withRequest_sameOff (w : World) (order : Order) :
    World.SameOff orderSlots w (w.withRequest orderStore order) := by
  let nonce := NonceUtils.getCurrentNonce w.dataStore + 1
  have hcounted : World.SameOff orderSlots w
      { w with dataStore := w.dataStore.setUint (.base .NONCE) nonce } :=
    DataStore.ChangesWithin.setUint (show Slot.constant .NONCE ∈ orderSlots by decide) nonce w
  refine hcounted.trans ?_
  exact orderStore.set_changesWithin (show Slot.request ∈ orderSlots by decide)
    (orderStore_listSlots_subset (List.Subset.refl _)) order _

/-- A keeper's order holds nothing in the vault. -/
theorem orderEscrow_makeKeeperOrder (wnt account market : Address) (position : Position)
    (orderType : OrderType) (hdecrease : isIncreaseOrder orderType = false)
    (hswap : isSwapOrder orderType = false) (sizeDeltaUsd updatedAtBlock : Nat) :
    orderEscrow wnt (makeKeeperOrder account market position orderType sizeDeltaUsd
      updatedAtBlock) = 0 := by
  have hnone : collateralEscrow (makeKeeperOrder account market position orderType sizeDeltaUsd
      updatedAtBlock) = 0 := by
    unfold collateralEscrow
    rw [if_neg]
    rintro (h | h)
    · exact absurd (hdecrease.symm.trans h) (by decide)
    · exact absurd (hswap.symm.trans h) (by decide)
  show collateralEscrow _ + tokenAmount wnt 0 = 0
  rw [hnone, tokenAmount_zero, add_zero]

section Keepers

variable (hsane : deployment.Sane) (hw : Settleable deployment w)

include hw

/-- The state with a keeper's order is one whose vaults can be settled. -/
theorem Settleable.withRequest {order : Order}
    (howed : orderEscrow (TokenUtils.wnt w.dataStore) order = 0) :
    Settleable deployment (w.withRequest orderStore order) := by
  have hsame := w.withRequest_sameOff order
  have hmarket : MarketStoreUtils.get (w.withRequest orderStore order).dataStore =
      MarketStoreUtils.get w.dataStore :=
    funext fun _ => MarketStoreUtils.get_sameOff hsame (by decide) (by decide) _
  have hsettled : Settled deployment .order
      (.request (NonceUtils.getCurrentNonce w.dataStore + 1)) w (w.withRequest orderStore order) :=
    World.withRequest_settled .order hw.requestKeys rfl (Flow.refl _)
      (fun t => by
        change orderEscrow _ order t ≤ 0
        rw [howed]
        exact Nat.le_refl _)
      fun _ _ => Flow.refl _
  exact ⟨hsettled.requestKeys hw.requestKeys, hw.marketsKeyed.of_market_eq hmarket,
    fun kind => (hw.noMarkets kind).of_market_eq hmarket⟩

include hsane

/-- A liquidation settles its own order. -/
theorem LiquidationHandler.executeLiquidation_settled {account market collateralToken : Address}
    {isLong : Bool} {oracleParams : OracleBlockNumbers} {keeper : Address}
    (h : executeLiquidation env deployment account market collateralToken isLong oracleParams
      keeper w = .ok (u, w')) : ∃ key, Settled deployment .order key w w' := by
  unfold executeLiquidation at h
  obtain ⟨key, w₁, hcreate, h⟩ := Tx.bind_eq_ok.mp h
  obtain ⟨rfl, rfl⟩ := LiquidationUtils.createLiquidationOrder_eq_ok hcreate
  simp only [↓viewStore_bind_eq_ok] at h
  obtain ⟨params, hload, _, -, h⟩ := h
  have howed := orderEscrow_makeKeeperOrder (TokenUtils.wnt w.dataStore) account market
    (PositionStoreUtils.get w.dataStore
      (PositionUtils.getPositionKey account market collateralToken isLong)) .Liquidation rfl rfl
  exact ⟨_, Settled.after_request .order hw.requestKeys (howed _ _)
    (OrderHandler.executeLoaded_settled hsane (hw.withRequest (howed _ _)) hload h)⟩

/-- So does an auto-deleveraging. -/
theorem AdlHandler.executeAdl_settled {account market collateralToken : Address}
    {isLong : Bool} {sizeDeltaUsd : Nat} {oracleParams : OracleBlockNumbers} {keeper : Address}
    (h : executeAdl env deployment account market collateralToken isLong sizeDeltaUsd oracleParams
      keeper w = .ok (u, w')) : ∃ key, Settled deployment .order key w w' := by
  unfold executeAdl at h
  simp only [↓viewStore_bind_eq_ok, ↓Tx.lift_bind_eq_ok] at h
  obtain ⟨_, -, _, -, _, -, updatedAtBlock, -, h⟩ := h
  obtain ⟨key, w₁, hcreate, h⟩ := Tx.bind_eq_ok.mp h
  obtain ⟨rfl, rfl⟩ := AdlUtils.createAdlOrder_eq_ok hcreate
  simp only [↓viewStore_bind_eq_ok] at h
  obtain ⟨params, hload, _, -, h⟩ := h
  obtain ⟨_, w₂, hexecute, h⟩ := Tx.bind_eq_ok.mp h
  simp only [↓viewStore_bind_eq_ok, ↓Tx.lift_bind_eq_ok, ↓readStore_bind_eq_ok,
    Tx.lift_eq_ok] at h
  obtain ⟨_, -, _, -, _, -, -, rfl⟩ := h
  have howed := orderEscrow_makeKeeperOrder (TokenUtils.wnt w.dataStore) account market
    (PositionStoreUtils.get w.dataStore
      (PositionUtils.getPositionKey account market collateralToken isLong)) .MarketDecrease rfl rfl
  exact ⟨_, Settled.after_request .order hw.requestKeys (howed _ _)
    (OrderHandler.executeLoaded_settled hsane (hw.withRequest (howed _ _)) hload hexecute)⟩

omit hsane in
/-- A flag and a block number settle nothing. -/
theorem AdlUtils.updateAdlState_settled {market : Address} {isLong : Bool}
    {maxOracleBlockNumbers : List Nat}
    (h : updateAdlState env market isLong maxOracleBlockNumbers w = .ok (u, w')) (key : StoreKey) :
    Settled deployment .order key w w' := by
  have hwrites : World.SameOff [.constant .IS_ADL_ENABLED, .constant .LATEST_ADL_BLOCK] w w' :=
    updateAdlState_writes env (by decide) (by decide) market isLong maxOracleBlockNumbers h
  exact .of_same (.of_sameOff hw.requestKeys hwrites (by decide))
    fun _ => .of_sameOff hwrites (by decide)

-- ---------------------------------------------------------------------------
-- Calls
-- ---------------------------------------------------------------------------

/-- The kind of the requests that a call is about. -/
def Call.kind : Call → RequestKind
  | createDeposit .. | cancelDeposit .. | executeDeposit .. => .deposit
  | createWithdrawal .. | cancelWithdrawal .. | executeWithdrawal .. => .withdrawal
  | _ => .order

/-- **Every call settles one request**, in the vault of its kind. -/
theorem Call.settled {call : Call} (h : call.run env deployment w = .ok (u, w')) :
    ∃ key, Settled deployment call.kind key w w' := by
  cases call with
  | createOrder account params =>
    obtain ⟨key, h⟩ := discard_eq_ok.mp h
    exact OrderHandler.createOrder_settled hsane hw h
  | updateOrder msgSender key sizeDeltaUsd acceptablePrice triggerPrice minOutputAmount =>
    exact ⟨_, ExchangeRouter.updateOrder_settled hsane hw h⟩
  | cancelOrder msgSender key => exact ⟨_, ExchangeRouter.cancelOrder_settled hsane hw h⟩
  | executeOrder key oracleParams keeper =>
    exact ⟨_, OrderHandler.executeOrder_settled hsane hw h⟩
  | createDeposit account params =>
    obtain ⟨key, h⟩ := discard_eq_ok.mp h
    exact DepositHandler.createDeposit_settled hsane hw h
  | cancelDeposit msgSender key => exact ⟨_, ExchangeRouter.cancelDeposit_settled hsane hw h⟩
  | executeDeposit key oracleParams keeper =>
    exact ⟨_, DepositHandler.executeDeposit_settled hsane hw h⟩
  | createWithdrawal account params =>
    obtain ⟨key, h⟩ := discard_eq_ok.mp h
    exact WithdrawalHandler.createWithdrawal_settled hsane hw h
  | cancelWithdrawal msgSender key =>
    exact ⟨_, ExchangeRouter.cancelWithdrawal_settled hsane hw h⟩
  | executeWithdrawal key oracleParams keeper =>
    exact ⟨_, WithdrawalHandler.executeWithdrawal_settled hsane hw h⟩
  | executeLiquidation account market collateralToken isLong oracleParams keeper =>
    exact LiquidationHandler.executeLiquidation_settled hsane hw h
  | updateAdlState market isLong maxOracleBlockNumbers =>
    exact ⟨_, AdlUtils.updateAdlState_settled hw h (.request 0)⟩
  | executeAdl account market collateralToken isLong sizeDeltaUsd oracleParams keeper =>
    exact AdlHandler.executeAdl_settled hsane hw h

end Keepers

end GmxSynthetics
