import GmxSynthetics.Order.OrderAccounting

/-!
# What an order does, step by step

The runs of the three kinds of orders, with the states between their steps and what the update of a
position is handed: the position that is stored for the order's account in the order's market.

* `IncreaseOrderRun`, `DecreaseOrderRun` — the run of an order, and `…processOrder_run` that there
  is one;
* `ExecuteOrderRun` — the run of an execution: the order is removed, processed and paid for.
-/

namespace GmxSynthetics

open Evm BaseOrderUtils MarketUtils PositionUtils

variable {env : Env} {w w' : World} {u : Unit} {residues : List Residue}
  {params : ExecuteOrderParams}

-- ---------------------------------------------------------------------------
-- Increase orders
-- ---------------------------------------------------------------------------

/-- The swap of the collateral into the market of the order. -/
def IncreaseOrderUtils.swapParams (params : ExecuteOrderParams) : SwapUtils.SwapParams where
  bank := { address := params.orderVault, isStrict := true }
  tokenIn := params.order.initialCollateralToken
  amountIn := params.order.initialCollateralDeltaAmount
  swapPathMarkets := params.swapPathMarkets
  minOutputAmount := params.order.minOutputAmount
  receiver := params.order.market
  uiFeeReceiver := params.order.uiFeeReceiver
  shouldUnwrapNativeToken := false

/-- What an increase order hands to the update. -/
def IncreaseOrderUtils.increaseParams (params : ExecuteOrderParams) (position : Position)
    (collateralToken : Address) : UpdatePositionParams where
  market := params.market
  order := params.order
  orderKey := params.key
  position := position
  positionKey :=
    getPositionKey params.order.account params.order.market collateralToken params.order.isLong
  secondaryOrderType := params.secondaryOrderType

/-- The run of an increase order. -/
structure IncreaseOrderRun (env : Env) (params : ExecuteOrderParams) (w w' : World) where
  collateralToken : Address
  amount : Nat
  swapped : World
  position : Position
  fees : PositionPricingUtils.PositionFees
  swapping : SwapUtils.swap env (IncreaseOrderUtils.swapParams params) w =
    .ok ((collateralToken, amount), swapped)
  orderMarket : params.order.market = params.market.marketToken
  market_ne : params.market.marketToken ≠ 0
  positionGroup : position.group = ⟨params.order.market, collateralToken, params.order.isLong⟩
  positionAccount : position.account = params.order.account
  isCollateral : collateralToken = params.market.longToken ∨
    collateralToken = params.market.shortToken
  initializing : IncreaseOrderUtils.initPosition swapped.dataStore params.order collateralToken =
    .ok position
  increasing : IncreasePositionUtils.increasePosition env
    (IncreaseOrderUtils.increaseParams params position collateralToken) amount swapped =
      .ok (fees, w')

namespace IncreaseOrderRun

variable (run : IncreaseOrderRun env params w w')

/-- The update that the order makes. -/
def update : UpdatePositionParams :=
  IncreaseOrderUtils.increaseParams params run.position run.collateralToken

/-- The position that is increased is one of the order's market. -/
theorem positionMarket : run.position.market = params.order.market :=
  congrArg (·.market) run.positionGroup

/-- It holds the token that the order's initial collateral was swapped to. -/
theorem positionCollateralToken : run.position.collateralToken = run.collateralToken :=
  congrArg (·.collateralToken) run.positionGroup

/-- An update that an order makes names the order's own market. -/
theorem consistent : run.update.Consistent where
  orderMarket := run.orderMarket
  positionMarket := run.positionMarket.trans run.orderMarket
  collateralToken := by
    show run.position.collateralToken = _ ∨ run.position.collateralToken = _
    rw [run.positionCollateralToken]
    exact run.isCollateral

/-- The swap leaves the positions as they are. -/
theorem accounting_swapped (hsound : (Accounting.of w.dataStore).Sound residues) :
    Accounting.of run.swapped.dataStore = Accounting.of w.dataStore :=
  Accounting.of_sameOff hsound
    (SwapUtils.swap_writes env (List.Subset.refl swapSlots) _ run.swapping) (by decide)

/-- The update is handed what is stored. -/
theorem stored (hsound : (Accounting.of w.dataStore).Sound residues)
    (hloaded : params.Loaded w.dataStore) (haccount : params.order.account ≠ 0) :
    run.update.Stored run.swapped.dataStore := by
  have hsame := run.accounting_swapped hsound
  obtain ⟨-, -, hsize, htokens, hamount, hfactor⟩ :=
    IncreaseOrderUtils.initPosition_eq_ok (hsame ▸ hsound) run.initializing
  have hmarket : params.market =
      (Accounting.of run.swapped.dataStore).market params.order.market := by
    rw [hsame]
    exact hloaded run.market_ne
  refine ⟨?_, run.positionAccount.symm ▸ haccount, ?_, ?_, hsize, htokens, hamount, hfactor⟩
  · show _ = run.position.group.key run.position.account
    rw [run.positionGroup, run.positionAccount]
    rfl
  · exact (congrArg (·.isLong) run.positionGroup).symm
  · show (Accounting.of run.swapped.dataStore).IsCollateral run.position.group
    rw [run.positionGroup]
    unfold Accounting.IsCollateral
    dsimp only
    rw [← hmarket]
    exact ⟨run.orderMarket.symm, run.orderMarket ▸ run.market_ne, run.isCollateral⟩

end IncreaseOrderRun

/-- A successful increase order, with its states and amounts named. -/
theorem IncreaseOrderUtils.processOrder_run (hsound : (Accounting.of w.dataStore).Sound residues)
    (hkeyed : MarketsKeyed w.dataStore) (hloaded : params.Loaded w.dataStore)
    (h : processOrder env params w = .ok (u, w')) :
    Nonempty (IncreaseOrderRun env params w w') := by
  unfold processOrder at h
  simp only [↓viewStore_bind_eq_ok] at h
  obtain ⟨_, hmarket, h⟩ := h
  obtain ⟨⟨collateralToken, amount⟩, w₁, hswap, h⟩ := Tx.bind_eq_ok.mp h
  simp only [↓Tx.lift_bind_eq_ok, ↓viewStore_bind_eq_ok] at h
  obtain ⟨_, hcollateral, position, hposition, _, -, h⟩ := h
  obtain ⟨fees, w₂, hincrease, h⟩ := Tx.bind_eq_ok.mp h
  obtain ⟨-, rfl⟩ := Tx.pure_eq_ok.mp h
  have hsame : Accounting.of w₁.dataStore = Accounting.of w.dataStore :=
    Accounting.of_sameOff hsound (SwapUtils.swap_writes env (List.Subset.refl swapSlots) _ hswap)
      (by decide)
  have henabled := validatePositionMarket_eq_ok hmarket
  obtain ⟨hgroup, haccount, -⟩ := initPosition_eq_ok (hsame ▸ hsound) hposition
  have hcollateral' : collateralToken = params.market.longToken ∨
      collateralToken = params.market.shortToken := by
    have hchecked := Result.revertIf_eq_ok.mp hcollateral
    rw [not_not] at hchecked
    simpa [isMarketCollateralToken] using hchecked
  exact ⟨{
    collateralToken, amount, position, fees
    swapped := w₁
    swapping := hswap
    orderMarket := hloaded.marketToken hkeyed henabled
    market_ne := henabled
    positionGroup := hgroup
    positionAccount := haccount
    isCollateral := hcollateral'
    initializing := hposition
    increasing := hincrease }⟩

-- ---------------------------------------------------------------------------
-- Decrease orders
-- ---------------------------------------------------------------------------

/-- The group of the position that a decrease order is for. -/
def BaseOrderUtils.ExecuteOrderParams.group (params : ExecuteOrderParams) : PositionGroup :=
  ⟨params.order.market, params.order.initialCollateralToken, params.order.isLong⟩

/-- What a decrease order hands to the update. -/
def DecreaseOrderUtils.decreaseParams (params : ExecuteOrderParams) (dataStore : DataStore) :
    UpdatePositionParams where
  market := params.market
  order := params.order
  orderKey := params.key
  position := PositionStoreUtils.get dataStore (params.group.key params.order.account)
  positionKey := params.group.key params.order.account
  secondaryOrderType := params.secondaryOrderType

/-- The run of a decrease order, on a position that is open. -/
structure DecreaseOrderRun (env : Env) (params : ExecuteOrderParams) (w w' : World) where
  result : DecreasePositionUtils.DecreasePositionResult
  fees : PositionPricingUtils.PositionFees
  decreased : World
  orderMarket : params.order.market = params.market.marketToken
  market_ne : params.market.marketToken ≠ 0
  isOpen : params.group.key params.order.account ∈ (Accounting.of w.dataStore).keys
  decreasing : DecreasePositionUtils.decreasePosition env
    (DecreaseOrderUtils.decreaseParams params w.dataStore) w = .ok ((result, fees), decreased)
  paying : DecreaseOrderUtils.payOutput env params result decreased = .ok ((), w')

namespace DecreaseOrderRun

variable (run : DecreaseOrderRun env params w w')
  (hsound : (Accounting.of w.dataStore).Sound residues)

include run hsound

/-- The position of a decrease belongs to the group that the order names. -/
theorem position_group : (DecreaseOrderUtils.decreaseParams params w.dataStore).position.group =
    params.group :=
  (PositionGroup.key_inj.mp (hsound.keyed _ run.isOpen)).1.symm

/-- It belongs to the order's own account. -/
theorem position_account :
    (DecreaseOrderUtils.decreaseParams params w.dataStore).position.account =
      params.order.account :=
  (PositionGroup.key_inj.mp (hsound.keyed _ run.isOpen)).2.symm

/-- A decrease of a position that is stored names the position's own market. -/
theorem consistent (hloaded : params.Loaded w.dataStore) :
    (DecreaseOrderUtils.decreaseParams params w.dataStore).Consistent := by
  have hgroup := run.position_group hsound
  have hcollateral := hsound.isCollateral _ run.isOpen
  refine ⟨run.orderMarket, (congrArg (·.market) hgroup).trans run.orderMarket, ?_⟩
  have hmarket : params.market = (Accounting.of w.dataStore).market
      ((Accounting.of w.dataStore).position (params.group.key params.order.account)).group.market :=
    (hloaded run.market_ne).trans (congrArg (fun group : PositionGroup =>
      (Accounting.of w.dataStore).market group.market) hgroup.symm)
  show _ = params.market.longToken ∨ _ = params.market.shortToken
  rw [hmarket]
  exact hcollateral.2.2

/-- The update is handed what is stored. -/
theorem stored : (DecreaseOrderUtils.decreaseParams params w.dataStore).Stored w.dataStore where
  positionKey := hsound.keyed _ run.isOpen
  account_ne := hsound.account_ne _ run.isOpen
  isLong := (congrArg (·.isLong) (run.position_group hsound)).symm
  isCollateral := hsound.isCollateral _ run.isOpen
  sizeInUsd := rfl
  sizeInTokens := rfl
  collateralAmount := rfl
  borrowingFactor := rfl

end DecreaseOrderRun

/-- A successful decrease order, with its states and amounts named. -/
theorem DecreaseOrderUtils.processOrder_run (hkeyed : MarketsKeyed w.dataStore)
    (hloaded : params.Loaded w.dataStore) (h : processOrder env params w = .ok (u, w')) :
    Nonempty (DecreaseOrderRun env params w w') := by
  unfold processOrder at h
  simp only [↓viewStore_bind_eq_ok, ↓readStore_bind_eq_ok, ↓Tx.lift_bind_eq_ok] at h
  obtain ⟨_, hmarket, _, hnonempty, _, -, h⟩ := h
  obtain ⟨⟨result, fees⟩, w₁, hdecrease, h⟩ := Tx.bind_eq_ok.mp h
  have henabled := validatePositionMarket_eq_ok hmarket
  have hopen : params.group.key params.order.account ∈ (Accounting.of w.dataStore).keys := by
    by_contra hmem
    have hempty : PositionStoreUtils.get w.dataStore (params.group.key params.order.account) =
        Position.empty := PositionStoreUtils.get_of_not_mem hmem
    refine absurd (Result.revertIf_eq_ok.mp hnonempty) (not_not.mpr ?_)
    show (PositionStoreUtils.get w.dataStore
          (params.group.key params.order.account)).sizeInUsd = 0 ∧
      (PositionStoreUtils.get w.dataStore
          (params.group.key params.order.account)).sizeInTokens = 0 ∧
      (PositionStoreUtils.get w.dataStore
          (params.group.key params.order.account)).collateralAmount = 0
    rw [hempty]
    exact ⟨rfl, rfl, rfl⟩
  exact ⟨⟨result, fees, w₁, hloaded.marketToken hkeyed henabled, henabled, hopen, hdecrease, h⟩⟩

-- ---------------------------------------------------------------------------
-- Executions
-- ---------------------------------------------------------------------------

/-- The run of an execution: the order is taken out of the store, processed in the same markets, and
paid for. -/
structure ExecuteOrderRun (env : Env) (params : ExecuteOrderParams) (w w' : World) where
  removed : World
  processed : World
  account_ne : params.order.account ≠ 0
  removing : OrderUtils.removeOrder params.key params.order.account w = .ok ((), removed)
  sameOff_removed : World.SameOff (.request :: orderStore.listSlots) w removed
  marketsKeyed : MarketsKeyed removed.dataStore
  loaded : params.Loaded removed.dataStore
  processing : OrderUtils.processOrder env params removed = .ok ((), processed)
  paying : GasUtils.payExecutionFee env params.orderVault params.order.executionFee params.keeper
    params.order.account processed = .ok ((), w')

namespace ExecuteOrderRun

variable (run : ExecuteOrderRun env params w w')

/-- Taking the order out of the store leaves the positions as they are. -/
theorem accounting_removed (hsound : (Accounting.of w.dataStore).Sound residues) :
    Accounting.of run.removed.dataStore = Accounting.of w.dataStore :=
  Accounting.of_sameOff hsound run.sameOff_removed (by decide)

/-- Removing the order leaves the books sound: orders are in none of them. -/
theorem sound_removed (hsound : (Accounting.of w.dataStore).Sound residues) :
    (Accounting.of run.removed.dataStore).Sound residues := by
  rw [run.accounting_removed hsound]
  exact hsound

end ExecuteOrderRun

/-- A successful execution: the order is removed, then processed as one of the three kinds. -/
theorem OrderUtils.executeOrder_run (hkey : params.key.slot = .request)
    (hkeyed : MarketsKeyed w.dataStore) (hloaded : params.Loaded w.dataStore)
    (h : executeOrder env params w = .ok (u, w')) : Nonempty (ExecuteOrderRun env params w w') := by
  obtain ⟨haccount, w₁, w₂, hremove, hprocess, hfee⟩ := executeOrder_eq_ok h
  have hremoved : World.SameOff (.request :: orderStore.listSlots) w w₁ :=
    orderStore.remove_writes_tx (hkey ▸ List.mem_cons_self) (List.subset_cons_self _ _) hremove
  have hmarket : MarketStoreUtils.get w₁.dataStore = MarketStoreUtils.get w.dataStore :=
    funext fun _ => MarketStoreUtils.get_sameOff hremoved (by decide) (by decide) _
  refine ⟨⟨w₁, w₂, haccount, hremove, hremoved, hkeyed.of_market_eq hmarket, ?_, hprocess, hfee⟩⟩
  intro henabled
  rw [hmarket]
  exact hloaded henabled

end GmxSynthetics
