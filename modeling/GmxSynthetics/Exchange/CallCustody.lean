import GmxSynthetics.Exchange.ExchangeAccounting
import GmxSynthetics.Exchange.RequestCustody
import GmxSynthetics.Order.OrderCustody

/-!
# Calls and the custody of the markets

Only executing a request changes what the markets owe. Everything else that users and keepers call
is paid for by the vaults.

* `Call.guarded` — an account that is neither a vault nor a market pays for no call;
* `Call.keepsCustody` — no call lowers the surplus of an account that is no vault, and none enters
  anything in the book of an account that is no market.
-/

namespace GmxSynthetics

open Evm MarketUtils BaseOrderUtils

variable {env : Env} {deployment : Deployment} {w w' w'' : World} {key : StoreKey} {u : Unit}
  {account : Address} {residues : List Residue}

-- ---------------------------------------------------------------------------
-- Custody
-- ---------------------------------------------------------------------------

/-- The surplus of an account that can be paid does not fall, and the book of one that is no market
stays. -/
structure KeepsCustody (env : Env) (account : Address) (w w' : World) : Prop where
  gains : env.Accepts account → Gains account 0 w w'
  untouched : NoMarket account w.dataStore → Untouched account w w'

namespace KeepsCustody

/-- Two calls after each other, with the same markets. -/
theorem trans (hmarket : MarketStoreUtils.get w'.dataStore = MarketStoreUtils.get w.dataStore)
    (h : KeepsCustody env account w w') (h' : KeepsCustody env account w' w'') :
    KeepsCustody env account w w'' where
  gains haccepts := by
    have hgains := (h.gains haccepts).trans (h'.gains haccepts)
    rwa [add_zero] at hgains
  untouched hnone :=
    trans_of (Untouched account) (h.untouched hnone) (h'.untouched (hnone.of_market_eq hmarket))

/-- The books stay, and the account pays nothing. -/
theorem of_guarded {slots : List Slot} (hsame : World.SameOff slots w w')
    (hslots : ∀ slot ∈ bookSlots, slot ∉ slots) (hguarded : Guarded account w w') :
    KeepsCustody env account w w' where
  gains _ := by
    have hgains : Gains account _ w w' := .of_moves (.of_guarded hguarded)
      (Moves.of_sameOff hsame hslots)
    rwa [Pi.zero_apply, sub_zero] at hgains
  untouched _ := .of_moves (.of_sameOff hsame hslots) rfl

end KeepsCustody

-- ---------------------------------------------------------------------------
-- Calls that only concern pending requests
-- ---------------------------------------------------------------------------

/-- What is written when a request is made, changed or given up. -/
def pendingSlots : List Slot :=
  [.constant .IS_ADL_ENABLED, .constant .LATEST_ADL_BLOCK, .constant .DEPOSIT_LIST,
    .constant .ACCOUNT_DEPOSIT_LIST, .constant .WITHDRAWAL_LIST,
    .constant .ACCOUNT_WITHDRAWAL_LIST] ++ orderSlots

theorem orderSlots_subset_pendingSlots : orderSlots ⊆ pendingSlots :=
  List.subset_append_right _ _

/-- A pending request is stored where requests are. -/
theorem RequestKeys.slot_pending {kind : RequestKind} {dataStore : DataStore}
    (hkeys : RequestKeys dataStore) (hmem : key ∈ kind.store.keys dataStore) :
    key.slot ∈ pendingSlots := by
  rw [hkeys.slot hmem]
  decide

/-- So are its lists. -/
theorem RequestKind.listSlots_pending (kind : RequestKind) :
    kind.store.listSlots ⊆ pendingSlots := by
  intro slot hslot
  revert slot
  cases kind <;> decide

/-- A request that is stored changes nothing else. -/
theorem RequestKind.withRequest_pending (kind : RequestKind) (record : kind.Record) (w : World) :
    World.SameOff pendingSlots w (w.withRequest kind.store record) := by
  let nonce := NonceUtils.getCurrentNonce w.dataStore + 1
  have hcounted : World.SameOff pendingSlots w
      { w with dataStore := w.dataStore.setUint (.base .NONCE) nonce } :=
    DataStore.ChangesWithin.setUint (show Slot.constant .NONCE ∈ pendingSlots by decide) nonce w
  exact hcounted.trans (kind.store.set_changesWithin (show Slot.request ∈ pendingSlots by decide)
    kind.listSlots_pending record _)

/-- The books stay, and an account that pays nothing keeps its surplus. -/
theorem KeepsCustody.of_pending (hsame : World.SameOff pendingSlots w w')
    (hguarded : Guarded account w w') : KeepsCustody env account w w' :=
  .of_guarded hsame (by decide) hguarded

/-- A new deposit is a request and what came in for it. -/
theorem DepositUtils.createDeposit_pending {depositVault user : Address}
    {params : CreateDepositParams}
    (h : createDeposit env depositVault user params w = .ok (key, w')) :
    World.SameOff pendingSlots w w' := by
  obtain ⟨_, _, _, _, w₁, -, hrecord, rfl⟩ := createDeposit_eq_ok h
  have hrecorded : World.SameOff pendingSlots w w₁ :=
    recordDepositAmounts_writes (by decide) _ _ hrecord
  exact hrecorded.trans (RequestKind.deposit.withRequest_pending _ _)

/-- So is a new withdrawal. -/
theorem WithdrawalUtils.createWithdrawal_pending {withdrawalVault user : Address}
    {params : CreateWithdrawalParams}
    (h : createWithdrawal env withdrawalVault user params w = .ok (key, w')) :
    World.SameOff pendingSlots w w' := by
  obtain ⟨_, _, w₁, w₂, -, hwnt, hmarket, rfl⟩ := createWithdrawal_eq_ok h
  have h₁ : World.SameOff pendingSlots w w₁ :=
    StrictBank.recordTransferIn_writes (by decide) _ _ hwnt
  have h₂ : World.SameOff pendingSlots w₁ w₂ :=
    StrictBank.recordTransferIn_writes (by decide) _ _ hmarket
  exact (h₁.trans h₂).trans (RequestKind.withdrawal.withRequest_pending _ _)

section Pending

variable (hkeys : RequestKeys w.dataStore)

include hkeys

/-- An order of an account is stored where requests are. -/
theorem RequestKeys.order_pending (haccount : (OrderStoreUtils.get w.dataStore key).account ≠ 0) :
    key.slot ∈ pendingSlots :=
  hkeys.slot_pending (show key ∈ RequestKind.order.store.keys w.dataStore from
    mem_of_order_account_ne haccount)

/-- A failed order is put away as a request. -/
theorem OrderHandler._handleOrderError_pending {keeper : Address} {error : Revert Errors}
    (h : _handleOrderError env deployment key keeper error w = .ok (u, w')) :
    World.SameOff pendingSlots w w' := by
  have haccount : (OrderStoreUtils.get w.dataStore key).account ≠ 0 := by
    rcases _handleOrderError_eq_ok h with hcancel | hfreeze
    · exact (OrderUtils.cancelOrder_eq_ok hcancel).1
    · exact (OrderUtils.freezeOrder_eq_ok hfreeze).1
  exact _handleOrderError_writes env deployment (hkeys.order_pending haccount)
    orderSlots_subset_pendingSlots keeper error h

/-- An update changes the order, and what came in for it. -/
theorem ExchangeRouter.updateOrder_pending {msgSender : Address}
    {sizeDeltaUsd acceptablePrice triggerPrice minOutputAmount : Nat}
    (h : updateOrder env deployment msgSender key sizeDeltaUsd acceptablePrice triggerPrice
      minOutputAmount w = .ok (u, w')) : World.SameOff pendingSlots w w' := by
  have h := updateOrder_eq_ok h
  have haccount := (OrderHandler.updateOrder_eq_ok h).2.1
  exact OrderHandler.updateOrder_writes env deployment (hkeys.order_pending haccount)
    orderSlots_subset_pendingSlots _ _ _ _ _ h

/-- A cancellation takes the order away and sends tokens. -/
theorem ExchangeRouter.cancelOrder_pending {msgSender : Address}
    (h : cancelOrder env deployment msgSender key w = .ok (u, w')) :
    World.SameOff pendingSlots w w' := by
  obtain ⟨haccount, h⟩ := cancelOrder_eq_ok h
  exact OrderHandler.cancelOrder_writes env deployment (hkeys.order_pending haccount)
    orderSlots_subset_pendingSlots h

/-- So for a deposit. -/
theorem DepositUtils.cancelDeposit_pending {depositVault keeper : Address}
    (h : cancelDeposit env depositVault key keeper w = .ok (u, w')) :
    World.SameOff pendingSlots w w' := by
  obtain ⟨w₁, w₂, w₃, hremove, hlong, hshort, hfee⟩ := cancelDeposit_eq_ok h
  have hmem : key ∈ RequestKind.deposit.store.keys w.dataStore := by
    obtain ⟨_, hremove, -⟩ := removeDeposit_eq_ok hremove
    exact depositStore.mem_of_remove hremove
  have htokens : Slot.tokens ∈ pendingSlots := by decide
  have h₁ : World.SameOff pendingSlots w w₁ := depositStore.remove_writes_tx
    (hkeys.slot_pending hmem) RequestKind.deposit.listSlots_pending hremove
  have h₂ : World.SameOff pendingSlots w₁ w₂ := Writes.ite
    (StrictBank.transferOutUnwrapping_writes env htokens _ _ _ _ _) (.pure _) hlong
  have h₃ : World.SameOff pendingSlots w₂ w₃ := Writes.ite
    (StrictBank.transferOutUnwrapping_writes env htokens _ _ _ _ _) (.pure _) hshort
  exact ((h₁.trans h₂).trans h₃).trans (GasUtils.payExecutionFee_writes env htokens _ _ _ _ hfee)

/-- So for a withdrawal. -/
theorem WithdrawalUtils.cancelWithdrawal_pending {withdrawalVault keeper : Address}
    (h : cancelWithdrawal env withdrawalVault key keeper w = .ok (u, w')) :
    World.SameOff pendingSlots w w' := by
  obtain ⟨w₁, w₂, hremove, htransfer, hfee⟩ := cancelWithdrawal_eq_ok h
  have hmem : key ∈ RequestKind.withdrawal.store.keys w.dataStore := by
    obtain ⟨_, hremove, -⟩ := removeWithdrawal_eq_ok hremove
    exact withdrawalStore.mem_of_remove hremove
  have htokens : Slot.tokens ∈ pendingSlots := by decide
  have h₁ : World.SameOff pendingSlots w w₁ := withdrawalStore.remove_writes_tx
    (hkeys.slot_pending hmem) RequestKind.withdrawal.listSlots_pending hremove
  have h₂ : World.SameOff pendingSlots w₁ w₂ :=
    StrictBank.transferOutUnwrapping_writes env htokens _ _ _ _ _ htransfer
  exact (h₁.trans h₂).trans (GasUtils.payExecutionFee_writes env htokens _ _ _ _ hfee)

end Pending

-- ---------------------------------------------------------------------------
-- Stand-ins
-- ---------------------------------------------------------------------------

/-- What is said of the vaults of a deployment holds of every other account as well: put it in the
place of a vault that takes no part. -/
def Deployment.standIn (deployment : Deployment) (account : Address) : RequestKind → Deployment
  | .order => { deployment with orderVault := account }
  | .deposit => { deployment with depositVault := account }
  | .withdrawal => { deployment with withdrawalVault := account }

/-- One vault is the account, the others are those of the deployment. -/
theorem Deployment.vault_standIn (deployment : Deployment) (account : Address)
    (kind kind' : RequestKind) : kind'.vault (deployment.standIn account kind) =
      if kind' = kind then account else kind'.vault deployment := by
  cases kind <;> cases kind' <;> rfl

/-- The vaults are still three. -/
theorem Deployment.Distinct.standIn (hdistinct : deployment.Distinct)
    (hvaults : ∀ kind : RequestKind, kind.vault deployment ≠ account) (kind : RequestKind) :
    (deployment.standIn account kind).Distinct := by
  intro kind₁ kind₂ hne
  rw [deployment.vault_standIn, deployment.vault_standIn]
  split_ifs with h₁ h₂ h₂
  · exact absurd (h₁.trans h₂.symm) hne
  · exact (hvaults kind₂).symm
  · exact hvaults kind₁
  · exact hdistinct kind₁ kind₂ hne

/-- The kind of another vault, which takes no part in a call. -/
def RequestKind.other : RequestKind → RequestKind
  | .order => .deposit
  | .deposit => .order
  | .withdrawal => .order

/-- The call does not look at the vault that the account stands in for. -/
theorem Call.run_standIn (env : Env) (deployment : Deployment) (account : Address) (call : Call) :
    call.run env (deployment.standIn account call.kind.other) = call.run env deployment := by
  cases call <;> rfl

/-- **An account that is neither a vault nor a market pays for no call.** -/
theorem Call.guarded {call : Call} (hsane : deployment.Sane) (hw : Settleable deployment w)
    (hvaults : ∀ kind : RequestKind, kind.vault deployment ≠ account) (haccount : account ≠ 0)
    (hnone : NoMarket account w.dataStore) (h : call.run env deployment w = .ok (u, w')) :
    Guarded account w w' := by
  have hsane' : (deployment.standIn account call.kind.other).Sane := by
    refine ⟨hsane.distinct.standIn hvaults _, fun kind => ?_⟩
    rw [deployment.vault_standIn]
    split_ifs
    · exact haccount
    · exact hsane.vault_ne kind
  have hw' : Settleable (deployment.standIn account call.kind.other) w := by
    refine ⟨hw.requestKeys, hw.marketsKeyed, fun kind => ?_⟩
    rw [deployment.vault_standIn]
    split_ifs
    · exact hnone
    · exact hw.noMarkets kind
  rw [← call.run_standIn env deployment account] at h
  obtain ⟨key, hsettled⟩ := Call.settled hsane' hw' h
  have hne : call.kind.other ≠ call.kind := by cases call.kind <;> decide
  have hguarded := (hsettled.others call.kind.other hne).2
  rwa [deployment.vault_standIn, if_pos rfl] at hguarded

section Calls

variable (hsane : deployment.Sane) (hw : Settleable deployment w)
  (hvaults : ∀ kind : RequestKind, kind.vault deployment ≠ account)

-- ---------------------------------------------------------------------------
-- Calls that execute nothing
-- ---------------------------------------------------------------------------

include hsane hw hvaults

namespace OrderHandler

/-- An order is made without the markets. -/
theorem createOrder_custody {user : Address} {params : CreateOrderParams}
    (h : createOrder env deployment user params w = .ok (key, w')) :
    KeepsCustody env account w w' := by
  have hsame := createOrder_writes env deployment orderSlots_subset_pendingSlots user params h
  unfold createOrder at h
  simp only [↓viewStore_bind_eq_ok] at h
  obtain ⟨_, -, h⟩ := h
  have hsettled : Settled (deployment.standIn account .deposit) .order _ w w' :=
    OrderUtils.createOrder_settled (hsane.distinct.standIn hvaults _) hw.requestKeys h
  exact .of_pending hsame (hsettled.others .deposit (by decide)).2

/-- One that fails is put away without them. -/
theorem _handleOrderError_custody {keeper : Address} {error : Revert Errors}
    (h : _handleOrderError env deployment key keeper error w = .ok (u, w')) :
    KeepsCustody env account w w' := by
  have hdistinct := hsane.distinct.standIn hvaults .deposit
  have hsettled : Settled (deployment.standIn account .deposit) .order key w w' := by
    rcases _handleOrderError_eq_ok h with hcancel | hfreeze
    · exact OrderUtils.cancelOrder_settled hdistinct hw.requestKeys hcancel
    · exact OrderUtils.freezeOrder_settled hdistinct hw.requestKeys hfreeze
  exact .of_pending (_handleOrderError_pending hw.requestKeys h)
    (hsettled.others .deposit (by decide)).2

end OrderHandler

namespace ExchangeRouter

/-- An update concerns the vault of the orders only. -/
theorem updateOrder_custody {msgSender : Address}
    {sizeDeltaUsd acceptablePrice triggerPrice minOutputAmount : Nat}
    (h : updateOrder env deployment msgSender key sizeDeltaUsd acceptablePrice triggerPrice
      minOutputAmount w = .ok (u, w')) : KeepsCustody env account w w' := by
  have hsettled : Settled (deployment.standIn account .deposit) .order key w w' :=
    OrderHandler.updateOrder_settled (hsane.distinct.standIn hvaults _) hw.requestKeys
      (updateOrder_eq_ok h)
  exact .of_pending (updateOrder_pending hw.requestKeys h) (hsettled.others .deposit (by decide)).2

/-- So does a cancellation. -/
theorem cancelOrder_custody {msgSender : Address}
    (h : cancelOrder env deployment msgSender key w = .ok (u, w')) :
    KeepsCustody env account w w' := by
  have hsettled : Settled (deployment.standIn account .deposit) .order key w w' :=
    OrderUtils.cancelOrder_settled (hsane.distinct.standIn hvaults _) hw.requestKeys
      (OrderHandler.cancelOrder_eq_ok (cancelOrder_eq_ok h).2)
  exact .of_pending (cancelOrder_pending hw.requestKeys h) (hsettled.others .deposit (by decide)).2

end ExchangeRouter

/-- A deposit is made without the markets. -/
theorem DepositHandler.createDeposit_custody {user : Address}
    {params : DepositUtils.CreateDepositParams}
    (h : createDeposit env deployment user params w = .ok (key, w')) :
    KeepsCustody env account w w' := by
  unfold createDeposit at h
  simp only [↓viewStore_bind_eq_ok] at h
  obtain ⟨_, -, h⟩ := h
  have hsettled : Settled (deployment.standIn account .order) .deposit _ w w' :=
    DepositUtils.createDeposit_settled (hsane.distinct.standIn hvaults _) hw.requestKeys h
  exact .of_pending (DepositUtils.createDeposit_pending h)
    (hsettled.others .order (by decide)).2

/-- And given up without them. -/
theorem DepositUtils.cancelDeposit_custody {keeper : Address}
    (h : cancelDeposit env deployment.depositVault key keeper w = .ok (u, w')) :
    KeepsCustody env account w w' := by
  have hsettled : Settled (deployment.standIn account .order) .deposit key w w' :=
    cancelDeposit_settled (hsane.distinct.standIn hvaults _) hw.requestKeys h
  exact .of_pending (cancelDeposit_pending hw.requestKeys h) (hsettled.others .order (by decide)).2

/-- A withdrawal is made without the markets. -/
theorem WithdrawalHandler.createWithdrawal_custody {user : Address}
    {params : WithdrawalUtils.CreateWithdrawalParams}
    (h : createWithdrawal env deployment user params w = .ok (key, w')) :
    KeepsCustody env account w w' := by
  unfold createWithdrawal at h
  simp only [↓viewStore_bind_eq_ok] at h
  obtain ⟨_, -, h⟩ := h
  have hsettled : Settled (deployment.standIn account .order) .withdrawal _ w w' :=
    WithdrawalUtils.createWithdrawal_settled (hsane.distinct.standIn hvaults _) hw.requestKeys h
  exact .of_pending (WithdrawalUtils.createWithdrawal_pending h)
    (hsettled.others .order (by decide)).2

/-- And given up without them. -/
theorem WithdrawalUtils.cancelWithdrawal_custody {keeper : Address}
    (h : cancelWithdrawal env deployment.withdrawalVault key keeper w = .ok (u, w')) :
    KeepsCustody env account w w' := by
  have hsettled : Settled (deployment.standIn account .order) .withdrawal key w w' :=
    cancelWithdrawal_settled (hsane.distinct.standIn hvaults _) hw.requestKeys h
  exact .of_pending (cancelWithdrawal_pending hw.requestKeys h)
    (hsettled.others .order (by decide)).2

-- ---------------------------------------------------------------------------
-- Executions
-- ---------------------------------------------------------------------------

/-- A deposit adds to its market what it brings, or is cancelled. -/
theorem DepositHandler.executeDeposit_custody {oracleParams : OracleBlockNumbers}
    {keeper : Address}
    (h : executeDeposit env deployment key oracleParams keeper w = .ok (u, w')) :
    KeepsCustody env account w w' := by
  rcases executeDeposit_eq_ok h with hexecute | hcancel
  · exact ⟨fun haccepts => ExecuteDepositUtils.executeDeposit_gains haccepts (hvaults .deposit)
      hexecute, fun hnone => ExecuteDepositUtils.executeDeposit_untouched hnone hexecute⟩
  · exact DepositUtils.cancelDeposit_custody hsane hw hvaults hcancel

/-- A withdrawal takes from its market what it books, or is cancelled. -/
theorem WithdrawalHandler.executeWithdrawal_custody {oracleParams : OracleBlockNumbers}
    {keeper : Address}
    (h : executeWithdrawal env deployment key oracleParams keeper w = .ok (u, w')) :
    KeepsCustody env account w w' := by
  rcases executeWithdrawal_eq_ok h with hexecute | hcancel
  · exact ⟨fun haccepts => WithdrawalUtils.executeWithdrawal_gains haccepts (hvaults .withdrawal)
      hexecute, fun hnone => WithdrawalUtils.executeWithdrawal_untouched hnone hexecute⟩
  · exact WithdrawalUtils.cancelWithdrawal_custody hsane hw hvaults hcancel

omit hsane

variable (haccount : account ≠ 0) (hsound : (Accounting.of w.dataStore).Sound residues)

include haccount hsound

/-- Executing an order that has been loaded from the store. -/
theorem OrderHandler.executeLoaded_custody {params : ExecuteOrderParams}
    {oracleParams : OracleBlockNumbers} {keeper : Address}
    {secondaryOrderType : SecondaryOrderType} (hslot : key.slot = .request)
    (hload : BaseOrderHandler._getExecuteOrderParams deployment w.dataStore key oracleParams keeper
      secondaryOrderType = .ok params)
    (h : OrderUtils.executeOrder env params w = .ok (u, w')) : KeepsCustody env account w w' := by
  obtain ⟨rfl, -, hvault, hloaded⟩ := BaseOrderHandler._getExecuteOrderParams_eq_ok hload
  constructor
  case gains =>
    intro haccepts
    have hne : params.orderVault ≠ account := by
      rw [hvault]
      exact hvaults .order
    exact OrderUtils.executeOrder_gains hslot hsound hw.marketsKeyed hloaded h haccepts hne
  case untouched =>
    intro hnone
    exact OrderUtils.executeOrder_untouched hslot hsound hw.marketsKeyed hloaded h
      (BaseOrderHandler._getExecuteOrderParams_away haccount hnone hw.marketsKeyed hload)

include hsane in
/-- An order moves between the markets what it books, or is put away. -/
theorem OrderHandler.executeOrder_custody {oracleParams : OracleBlockNumbers} {keeper : Address}
    (h : executeOrder env deployment key oracleParams keeper w = .ok (u, w')) :
    KeepsCustody env account w w' := by
  rcases executeOrder_eq_ok h with ⟨params, hload, hexecute⟩ | ⟨error, herror⟩
  · obtain ⟨-, horder, -, -⟩ := BaseOrderHandler._getExecuteOrderParams_eq_ok hload
    have hstored := (OrderUtils.executeOrder_eq_ok hexecute).1
    rw [horder] at hstored
    have hmem : key ∈ RequestKind.order.store.keys w.dataStore := mem_of_order_account_ne hstored
    exact executeLoaded_custody hw hvaults haccount hsound (hw.requestKeys.slot hmem) hload hexecute
  · exact _handleOrderError_custody hsane hw hvaults herror

/-- A keeper's order is stored and executed at once. -/
theorem executeKeeperOrder_custody {order : Order} {params : ExecuteOrderParams}
    {oracleParams : OracleBlockNumbers} {keeper : Address}
    {secondaryOrderType : SecondaryOrderType}
    (howed : orderEscrow (TokenUtils.wnt w.dataStore) order = 0)
    (hload : BaseOrderHandler._getExecuteOrderParams deployment
      (w.withRequest orderStore order).dataStore
      (.request (NonceUtils.getCurrentNonce w.dataStore + 1)) oracleParams keeper
      secondaryOrderType = .ok params)
    (h : OrderUtils.executeOrder env params (w.withRequest orderStore order) = .ok (u, w')) :
    KeepsCustody env account w w' := by
  have hsame := w.withRequest_sameOff order
  have hview : Accounting.of (w.withRequest orderStore order).dataStore =
      Accounting.of w.dataStore := Accounting.of_sameOff hsound hsame (by decide)
  have hstored : KeepsCustody env account w (w.withRequest orderStore order) :=
    .of_guarded hsame (by decide) (.of_le (fun _ => le_refl _) rfl)
  exact hstored.trans (congrArg Accounting.market hview)
    (OrderHandler.executeLoaded_custody (hw.withRequest howed) hvaults haccount (hview ▸ hsound)
      rfl hload h)

/-- So does a liquidation. -/
theorem LiquidationHandler.executeLiquidation_custody {user market collateralToken : Address}
    {isLong : Bool} {oracleParams : OracleBlockNumbers} {keeper : Address}
    (h : executeLiquidation env deployment user market collateralToken isLong oracleParams
      keeper w = .ok (u, w')) : KeepsCustody env account w w' := by
  unfold executeLiquidation at h
  obtain ⟨key, w₁, hcreate, h⟩ := Tx.bind_eq_ok.mp h
  obtain ⟨rfl, rfl⟩ := LiquidationUtils.createLiquidationOrder_eq_ok hcreate
  simp only [↓viewStore_bind_eq_ok] at h
  obtain ⟨params, hload, _, -, h⟩ := h
  exact executeKeeperOrder_custody hw hvaults haccount hsound
    (orderEscrow_makeKeeperOrder _ _ _ _ _ rfl rfl _ _) hload h

/-- So does an auto-deleveraging. -/
theorem AdlHandler.executeAdl_custody {user market collateralToken : Address} {isLong : Bool}
    {sizeDeltaUsd : Nat} {oracleParams : OracleBlockNumbers} {keeper : Address}
    (h : executeAdl env deployment user market collateralToken isLong sizeDeltaUsd oracleParams
      keeper w = .ok (u, w')) : KeepsCustody env account w w' := by
  unfold executeAdl at h
  simp only [↓viewStore_bind_eq_ok, ↓Tx.lift_bind_eq_ok] at h
  obtain ⟨_, -, _, -, _, -, updatedAtBlock, -, h⟩ := h
  obtain ⟨key, w₁, hcreate, h⟩ := Tx.bind_eq_ok.mp h
  obtain ⟨rfl, rfl⟩ := AdlUtils.createAdlOrder_eq_ok hcreate
  simp only [↓viewStore_bind_eq_ok] at h
  obtain ⟨params, hload, _, -, h⟩ := h
  obtain ⟨_, w₂, hexecute, h⟩ := Tx.bind_eq_ok.mp h
  simp only [↓viewStore_bind_eq_ok, ↓Tx.lift_bind_eq_ok, ↓readStore_bind_eq_ok,
    Tx.lift_eq_ok] at h
  obtain ⟨_, -, _, -, _, -, -, rfl⟩ := h
  exact executeKeeperOrder_custody hw hvaults haccount hsound
    (orderEscrow_makeKeeperOrder _ _ _ _ _ rfl rfl _ _) hload hexecute

-- ---------------------------------------------------------------------------
-- Calls
-- ---------------------------------------------------------------------------

include hsane

/-- **Every call keeps the custody of the markets.** -/
theorem Call.keepsCustody {call : Call} (h : call.run env deployment w = .ok (u, w')) :
    KeepsCustody env account w w' := by
  cases call with
  | createOrder user params =>
    obtain ⟨_, h⟩ := discard_eq_ok.mp h
    exact OrderHandler.createOrder_custody hsane hw hvaults h
  | updateOrder msgSender key sizeDeltaUsd acceptablePrice triggerPrice minOutputAmount =>
    exact ExchangeRouter.updateOrder_custody hsane hw hvaults h
  | cancelOrder msgSender key => exact ExchangeRouter.cancelOrder_custody hsane hw hvaults h
  | executeOrder key oracleParams keeper =>
    exact OrderHandler.executeOrder_custody hsane hw hvaults haccount hsound h
  | createDeposit user params =>
    obtain ⟨_, h⟩ := discard_eq_ok.mp h
    exact DepositHandler.createDeposit_custody hsane hw hvaults h
  | cancelDeposit msgSender key =>
    obtain ⟨_, h⟩ := ExchangeRouter.cancelDeposit_eq_ok h
    exact DepositUtils.cancelDeposit_custody hsane hw hvaults h
  | executeDeposit key oracleParams keeper =>
    exact DepositHandler.executeDeposit_custody hsane hw hvaults h
  | createWithdrawal user params =>
    obtain ⟨_, h⟩ := discard_eq_ok.mp h
    exact WithdrawalHandler.createWithdrawal_custody hsane hw hvaults h
  | cancelWithdrawal msgSender key =>
    obtain ⟨_, h⟩ := ExchangeRouter.cancelWithdrawal_eq_ok h
    exact WithdrawalUtils.cancelWithdrawal_custody hsane hw hvaults h
  | executeWithdrawal key oracleParams keeper =>
    exact WithdrawalHandler.executeWithdrawal_custody hsane hw hvaults h
  | executeLiquidation user market collateralToken isLong oracleParams keeper =>
    exact LiquidationHandler.executeLiquidation_custody hw hvaults haccount hsound h
  | updateAdlState market isLong maxOracleBlockNumbers =>
    have hsame : World.SameOff pendingSlots w w' := AdlUtils.updateAdlState_writes env (by decide)
      (by decide) market isLong maxOracleBlockNumbers h
    have hadl : World.SameOff [.constant .IS_ADL_ENABLED, .constant .LATEST_ADL_BLOCK] w w' :=
      AdlUtils.updateAdlState_writes env (by decide) (by decide) market isLong
        maxOracleBlockNumbers h
    exact .of_pending hsame (.of_sameOff hadl (by decide))
  | executeAdl user market collateralToken isLong sizeDeltaUsd oracleParams keeper =>
    exact AdlHandler.executeAdl_custody hw hvaults haccount hsound h

end Calls

end GmxSynthetics
