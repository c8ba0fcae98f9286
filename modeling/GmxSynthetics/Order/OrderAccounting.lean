import GmxSynthetics.Exchange.RequestLifecycle
import GmxSynthetics.Position.PositionAccounting

/-!
# Orders are accounted for

The handlers load an order and its market from the store, and an order hands the position that is
stored under its key to the update. So what an order does to the aggregates is an update of one
position, and all else that it does leaves them.

* `LeavesSize` — a decrease that removes a position before all of its size is closed;
* `executeOrder_stepsTo` — executing an order is a step of the accounting.
-/

namespace GmxSynthetics

open Evm MarketUtils PositionUtils BaseOrderUtils

variable {env : Env} {w w' : World} {residues : List Residue}

-- ---------------------------------------------------------------------------
-- Calls that leave the accounting alone
-- ---------------------------------------------------------------------------

/-- What neither moves an aggregate nor writes a position leaves the view as it is. -/
theorem Accounting.of_shifts (hsound : (Accounting.of w.dataStore).Sound residues)
    (h : Shifts 0 w w') : Accounting.of w'.dataStore = Accounting.of w.dataStore := by
  have haggregate : ∀ x : Aggregate, w'.dataStore.getUint x.key = w.dataStore.getUint x.key := by
    intro x
    have hx := h.aggregate x
    rw [Pi.zero_apply, add_zero] at hx
    exact_mod_cast hx
  have hposition : PositionStoreUtils.get w'.dataStore = PositionStoreUtils.get w.dataStore := by
    funext key
    by_cases hmem : key ∈ (Accounting.of w.dataStore).keys
    · exact h.position key (hsound.slot_eq key hmem)
    · rw [PositionStoreUtils.get_of_not_mem hmem]
      apply PositionStoreUtils.get_of_not_mem
      rw [h.keys]
      exact hmem
  have hfactor : (fun side : MarketSide => getCumulativeBorrowingFactor w'.dataStore side.market
      side.isLong) = fun side => getCumulativeBorrowingFactor w.dataStore side.market
        side.isLong :=
    funext h.cumulativeBorrowingFactor
  unfold Accounting.of
  rw [h.keys, hposition, h.market, hfactor]
  simp only [haggregate]

theorem Accounting.of_sameOff {slots : List Slot}
    (hsound : (Accounting.of w.dataStore).Sound residues) (h : World.SameOff slots w w')
    (hslots : ∀ slot ∈ accountingSlots, slot ∉ slots) :
    Accounting.of w'.dataStore = Accounting.of w.dataStore :=
  of_shifts hsound (.of_sameOff h hslots)

-- ---------------------------------------------------------------------------
-- What an order is loaded with
-- ---------------------------------------------------------------------------

/-- The market of an order is the stored one. -/
def BaseOrderUtils.ExecuteOrderParams.Loaded (params : ExecuteOrderParams)
    (dataStore : DataStore) : Prop :=
  params.market.marketToken ≠ 0 →
    params.market = MarketStoreUtils.get dataStore params.order.market

theorem BaseOrderHandler._getExecuteOrderParams_eq_ok {deployment : Deployment}
    {dataStore : DataStore} {key : StoreKey} {oracleParams : OracleBlockNumbers}
    {keeper : Address} {secondaryOrderType : SecondaryOrderType} {params : ExecuteOrderParams}
    (h : _getExecuteOrderParams deployment dataStore key oracleParams keeper secondaryOrderType =
      .ok params) :
    params.key = key ∧ params.order = OrderStoreUtils.get dataStore key ∧
      params.orderVault = deployment.orderVault ∧ params.Loaded dataStore := by
  simp only [_getExecuteOrderParams, Result.bind_eq_ok, Result.pure_eq_ok] at h
  obtain ⟨_, -, market, hmarket, rfl⟩ := h
  refine ⟨rfl, rfl, rfl, ?_⟩
  intro henabled
  split at hmarket
  · exact (getEnabledMarket_eq_ok hmarket).1
  · obtain rfl := Result.pure_eq_ok.mp hmarket
    exact absurd rfl henabled

theorem BaseOrderUtils.ExecuteOrderParams.Loaded.marketToken {params : ExecuteOrderParams}
    {dataStore : DataStore} (hloaded : params.Loaded dataStore) (hkeyed : MarketsKeyed dataStore)
    (hmarket : params.market.marketToken ≠ 0) :
    params.order.market = params.market.marketToken := by
  have hstored := hloaded hmarket
  rw [hstored] at hmarket ⊢
  exact (hkeyed _ hmarket).symm

-- ---------------------------------------------------------------------------
-- Increase orders
-- ---------------------------------------------------------------------------

/-- The position that an increase is handed: the stored one, or a fresh one of its key. -/
theorem IncreaseOrderUtils.initPosition_eq_ok {order : Order} {collateralToken : Address}
    {position : Position} (hsound : (Accounting.of w.dataStore).Sound residues)
    (h : initPosition w.dataStore order collateralToken = .ok position) :
    let group : PositionGroup := ⟨order.market, collateralToken, order.isLong⟩
    let stored := PositionStoreUtils.get w.dataStore (group.key order.account)
    position.group = group ∧ position.account = order.account ∧
      stored.sizeInUsd = position.sizeInUsd ∧ stored.sizeInTokens = position.sizeInTokens ∧
      stored.collateralAmount = position.collateralAmount ∧
      stored.borrowingFactor = position.borrowingFactor := by
  intro group stored
  have hkeyed : stored.account ≠ 0 → stored.group = group ∧ stored.account = order.account := by
    intro haccount
    by_cases hmem : group.key order.account ∈ (Accounting.of w.dataStore).keys
    · obtain ⟨hgroup, haccount⟩ := PositionGroup.key_inj.mp (hsound.keyed _ hmem)
      exact ⟨hgroup.symm, haccount.symm⟩
    · exact absurd (congrArg (·.account) (PositionStoreUtils.get_of_not_mem hmem)) haccount
  unfold initPosition at h
  change (if stored.account = 0 then _ else _ : Result Position) = _ at h
  split at h
  · simp only [Result.bind_eq_ok, Result.pure_eq_ok] at h
    obtain ⟨_, -, rfl⟩ := h
    exact ⟨rfl, rfl, rfl, rfl, rfl, rfl⟩
  · rename_i haccount
    obtain rfl := Result.pure_eq_ok.mp h
    exact ⟨(hkeyed haccount).1, (hkeyed haccount).2, rfl, rfl, rfl, rfl⟩

/-- An increase order is an update of its position, which stays open. -/
theorem IncreaseOrderUtils.processOrder_stepsTo {params : ExecuteOrderParams} {u : Unit}
    (hsound : (Accounting.of w.dataStore).Sound residues) (hkeyed : MarketsKeyed w.dataStore)
    (hloaded : params.Loaded w.dataStore) (haccount : params.order.account ≠ 0)
    (h : processOrder env params w = .ok (u, w')) :
    (Accounting.of w.dataStore).StepsTo (Accounting.of w'.dataStore) False := by
  unfold processOrder at h
  simp only [↓viewStore_bind_eq_ok] at h
  obtain ⟨_, hmarket, h⟩ := h
  obtain ⟨⟨collateralToken, amount⟩, w₁, hswap, h⟩ := Tx.bind_eq_ok.mp h
  simp only [↓Tx.lift_bind_eq_ok, ↓viewStore_bind_eq_ok] at h
  obtain ⟨_, hcollateral, position, hposition, _, -, h⟩ := h
  obtain ⟨fees, w₂, hincrease, h⟩ := Tx.bind_eq_ok.mp h
  obtain ⟨-, rfl⟩ := Tx.pure_eq_ok.mp h
  have hsame : Accounting.of w₁.dataStore = Accounting.of w.dataStore :=
    Accounting.of_sameOff hsound (SwapUtils.swap_writes env (List.Subset.refl swapSlots) _ hswap)
      (by decide)
  have hsound₁ : (Accounting.of w₁.dataStore).Sound residues := by
    rw [hsame]
    exact hsound
  have henabled := validatePositionMarket_eq_ok hmarket
  have horder := hloaded.marketToken hkeyed henabled
  obtain ⟨hgroup, haccount', hsize, htokens, hamount, hfactor⟩ :=
    initPosition_eq_ok hsound₁ hposition
  have hcollateral' : collateralToken = params.market.longToken ∨
      collateralToken = params.market.shortToken := by
    have hchecked := Result.revertIf_eq_ok.mp hcollateral
    rw [not_not] at hchecked
    simpa [isMarketCollateralToken] using hchecked
  have hstored : params.market = MarketStoreUtils.get w₁.dataStore params.order.market := by
    have hmarkets : MarketStoreUtils.get w₁.dataStore = MarketStoreUtils.get w.dataStore :=
      congrArg Accounting.market hsame
    rw [hmarkets]
    exact hloaded henabled
  have hgroupMarket : position.market = params.order.market := congrArg (·.market) hgroup
  have hgroupCollateral : position.collateralToken = collateralToken :=
    congrArg (·.collateralToken) hgroup
  obtain ⟨hupdate, hmem⟩ := IncreasePositionUtils.increasePosition_update
    ⟨horder, hgroupMarket.trans horder, by rw [hgroupCollateral]; exact hcollateral'⟩
    { positionKey := by rw [hgroup, haccount']; rfl
      account_ne := by rw [haccount']; exact haccount
      isLong := (congrArg (·.isLong) hgroup).symm
      isCollateral := by
        rw [hgroup]
        refine ⟨?_, ?_, ?_⟩
        · show (MarketStoreUtils.get w₁.dataStore params.order.market).marketToken = _
          rw [← hstored]
          exact horder.symm
        · show params.order.market ≠ 0
          rw [horder]
          exact henabled
        · show collateralToken =
              (MarketStoreUtils.get w₁.dataStore params.order.market).longToken ∨
            collateralToken = (MarketStoreUtils.get w₁.dataStore params.order.market).shortToken
          rw [← hstored]
          exact hcollateral'
      sizeInUsd := hsize
      sizeInTokens := htokens
      collateralAmount := hamount
      borrowingFactor := hfactor } hsound₁ hincrease
  rw [hsame] at hupdate
  exact .updates hupdate fun hnone => absurd hmem hnone

-- ---------------------------------------------------------------------------
-- Decrease orders
-- ---------------------------------------------------------------------------

/-- The amounts and settings that the size of a decrease is adjusted to. -/
def adjustSlots : List Slot :=
  [.constant .POOL_AMOUNT, .constant .OPEN_INTEREST, .constant .OPEN_INTEREST_IN_TOKENS,
    .constant .MAX_PNL_FACTOR, .constant .MIN_COLLATERAL_FACTOR,
    .constant .MIN_COLLATERAL_FACTOR_FOR_OPEN_INTEREST_MULTIPLIER,
    .constant .MIN_COLLATERAL_USD, .constant .MIN_POSITION_SIZE_USD]

theorem DecreasePositionUtils.adjustOrder_congr {dataStore dataStore' : DataStore}
    (h : ∀ slot ∈ adjustSlots, ∀ key : Key, key.slot = slot →
      dataStore'.getUint key = dataStore.getUint key)
    (params : UpdatePositionParams) (prices : MarketPrices) :
    adjustOrder dataStore' params prices = adjustOrder dataStore params prices := by
  have hpool : ∀ market token, getPoolAmount dataStore' market token =
      getPoolAmount dataStore market token := by
    intro market token
    rw [getPoolAmount, h (.constant .POOL_AMOUNT) (by decide)
      (Keys.poolAmountKey market.marketToken token) rfl]
    rfl
  have hinterest : ∀ market isLong, getOpenInterest dataStore' market isLong =
      getOpenInterest dataStore market isLong := by
    intro market isLong
    simp only [getOpenInterest, getOpenInterestForCollateral,
      h (.constant .OPEN_INTEREST) (by decide) (Keys.openInterestKey _ _ _) rfl]
  have htokens : ∀ market isLong, getOpenInterestInTokens dataStore' market isLong =
      getOpenInterestInTokens dataStore market isLong := by
    intro market isLong
    simp only [getOpenInterestInTokens,
      getOpenInterestInTokensForCollateral,
      h (.constant .OPEN_INTEREST_IN_TOKENS) (by decide) (Keys.openInterestInTokensKey _ _ _) rfl]
  have hcapped : ∀ market isLong pnl poolUsd pnlFactorType,
      getCappedPnl dataStore' market isLong pnl poolUsd pnlFactorType =
        getCappedPnl dataStore market isLong pnl poolUsd pnlFactorType := by
    intro market isLong pnl poolUsd pnlFactorType
    simp only [getCappedPnl, getMaxPnlFactor,
      h (.constant .MAX_PNL_FACTOR) (by decide) (Keys.maxPnlFactorKey _ _ _) rfl]
  have hpnl : ∀ market prices position executionPrice sizeDeltaUsd,
      getPositionPnlUsd dataStore' market prices position executionPrice sizeDeltaUsd =
        getPositionPnlUsd dataStore market prices position executionPrice sizeDeltaUsd := by
    intro market prices position executionPrice sizeDeltaUsd
    simp only [getPositionPnlUsd, getCappedTotalPositionPnl, getPnl, hpool, hinterest, htokens,
      hcapped]
  have hsufficient : ∀ market prices collateralToken isLong values,
      willPositionCollateralBeSufficient dataStore' market prices collateralToken isLong values =
        willPositionCollateralBeSufficient dataStore market prices collateralToken isLong
          values := by
    intro market prices collateralToken isLong values
    have hfactor : getMinCollateralFactor dataStore' market.marketToken =
        getMinCollateralFactor dataStore market.marketToken :=
      h (.constant .MIN_COLLATERAL_FACTOR) (by decide) _ rfl
    have hinterestFactor : getMinCollateralFactorForOpenInterest dataStore' market
        values.openInterestDelta isLong = getMinCollateralFactorForOpenInterest
          dataStore market values.openInterestDelta isLong := by
      simp only [getMinCollateralFactorForOpenInterest,
        getMinCollateralFactorForOpenInterestMultiplier, hinterest,
        h (.constant .MIN_COLLATERAL_FACTOR_FOR_OPEN_INTEREST_MULTIPLIER) (by decide)
          (Keys.minCollateralFactorForOpenInterestMultiplierKey _ _) rfl]
    unfold willPositionCollateralBeSufficient
    rw [hfactor, hinterestFactor]
  have hestimate : ∀ order, estimateRemainingCollateral dataStore' params prices order =
      estimateRemainingCollateral dataStore params prices order := by
    intro order
    simp only [estimateRemainingCollateral, hpnl, hsufficient]
  have hpartial : ∀ order, adjustPartialDecrease dataStore' params prices order =
      adjustPartialDecrease dataStore params prices order := by
    intro order
    unfold adjustPartialDecrease
    rw [hestimate, h (.constant .MIN_COLLATERAL_USD) (by decide) _ rfl,
      h (.constant .MIN_POSITION_SIZE_USD) (by decide) _ rfl]
  simp only [adjustOrder, hpartial]

/-- An order for the whole size stays one. -/
theorem DecreasePositionUtils.adjustOrder_of_full {dataStore : DataStore}
    {params : UpdatePositionParams} {prices : MarketPrices} {order : Order}
    (hfull : params.order.sizeDeltaUsd = params.position.sizeInUsd)
    (h : adjustOrder dataStore params prices = .ok order) :
    order.sizeDeltaUsd = params.position.sizeInUsd := by
  simp only [adjustOrder, Result.bind_eq_ok, Result.pure_eq_ok] at h
  obtain ⟨order₁, hcap, order₂, hpartial, rfl⟩ := h
  have h₁ : order₁ = params.order := by
    unfold capSizeDelta at hcap
    dsimp only at hcap
    rw [if_neg (by omega)] at hcap
    exact (Result.pure_eq_ok.mp hcap).symm
  have h₂ : order₂ = params.order := by
    rw [h₁, if_neg (by omega)] at hpartial
    exact (Result.pure_eq_ok.mp hpartial).symm
  rw [h₂, ← hfull]
  split_ifs <;> rfl

namespace DecreaseOrderUtils

/-- The key of the position that the order decreases. -/
def positionKey (order : Order) : StoreKey :=
  getPositionKey order.account order.market order.initialCollateralToken order.isLong

/-- What a decrease order hands to the update, as far as its size depends on it. -/
def updateParams (dataStore : DataStore) (order : Order) : UpdatePositionParams where
  market := MarketStoreUtils.get dataStore order.market
  order := order
  orderKey := .request 0
  position := PositionStoreUtils.get dataStore (positionKey order)
  positionKey := positionKey order
  secondaryOrderType := .None

/-- The order closes a part of a long position, and what that leaves of the size is worth less than
one of the position's tokens. -/
def LeavesSize (env : Env) (dataStore : DataStore) (order : Order) : Prop :=
  let params := updateParams dataStore order
  ∃ prices adjusted, getMarketPrices env params.market = .ok prices ∧
    DecreasePositionUtils.adjustOrder dataStore params prices = .ok adjusted ∧
    adjusted.sizeDeltaUsd < params.position.sizeInUsd ∧ params.position.isLong = true ∧
    params.position.sizeInTokens * (params.position.sizeInUsd - adjusted.sizeDeltaUsd) <
      params.position.sizeInUsd

theorem LeavesSize.congr {order : Order} {dataStore dataStore' : DataStore}
    (hparams : updateParams dataStore' order = updateParams dataStore order)
    (h : ∀ slot ∈ adjustSlots, ∀ key : Key, key.slot = slot →
      dataStore'.getUint key = dataStore.getUint key)
    (hleaves : LeavesSize env dataStore' order) : LeavesSize env dataStore order := by
  obtain ⟨prices, adjusted, hprices, hadjust, hleft⟩ := hleaves
  rw [DecreasePositionUtils.adjustOrder_congr h, hparams] at hadjust
  rw [hparams] at hprices hleft
  exact ⟨prices, adjusted, hprices, hadjust, hleft⟩

/-- A store with the same accounting hands the same to the update. -/
theorem updateParams_of_eq {dataStore dataStore' : DataStore}
    (h : Accounting.of dataStore' = Accounting.of dataStore) (order : Order) :
    updateParams dataStore' order = updateParams dataStore order := by
  have hmarket : MarketStoreUtils.get dataStore' = MarketStoreUtils.get dataStore :=
    congrArg Accounting.market h
  have hposition : PositionStoreUtils.get dataStore' = PositionStoreUtils.get dataStore :=
    congrArg Accounting.position h
  rw [updateParams, hmarket, hposition]
  rfl

/-- A decrease order is an update of its position. -/
theorem processOrder_stepsTo {params : ExecuteOrderParams} {u : Unit}
    (hsound : (Accounting.of w.dataStore).Sound residues) (hkeyed : MarketsKeyed w.dataStore)
    (hloaded : params.Loaded w.dataStore) (h : processOrder env params w = .ok (u, w')) :
    (Accounting.of w.dataStore).StepsTo (Accounting.of w'.dataStore)
      (LeavesSize env w.dataStore params.order) := by
  unfold processOrder at h
  simp only [↓viewStore_bind_eq_ok, ↓readStore_bind_eq_ok, ↓Tx.lift_bind_eq_ok] at h
  obtain ⟨_, hmarket, _, hnonempty, _, -, h⟩ := h
  obtain ⟨⟨result, fees⟩, w₁, hdecrease, h⟩ := Tx.bind_eq_ok.mp h
  let group : PositionGroup :=
    ⟨params.order.market, params.order.initialCollateralToken, params.order.isLong⟩
  let position := PositionStoreUtils.get w.dataStore (group.key params.order.account)
  have hmem : group.key params.order.account ∈ (Accounting.of w.dataStore).keys := by
    by_contra hmem
    have hempty : position = Position.empty := PositionStoreUtils.get_of_not_mem hmem
    refine absurd (Result.revertIf_eq_ok.mp hnonempty) (not_not.mpr ?_)
    change position.sizeInUsd = 0 ∧ position.sizeInTokens = 0 ∧ position.collateralAmount = 0
    rw [hempty]
    exact ⟨rfl, rfl, rfl⟩
  obtain ⟨hgroup, haccount⟩ := PositionGroup.key_inj.mp (hsound.keyed _ hmem)
  change group = position.group at hgroup
  change params.order.account = position.account at haccount
  have henabled := validatePositionMarket_eq_ok hmarket
  have horder := hloaded.marketToken hkeyed henabled
  have hcollateral : (Accounting.of w.dataStore).IsCollateral position.group :=
    hsound.isCollateral _ hmem
  have hpositionMarket : position.market = params.order.market :=
    congrArg (·.market) hgroup.symm
  have hstored : params.market = MarketStoreUtils.get w.dataStore position.market := by
    rw [hpositionMarket]
    exact hloaded henabled
  obtain ⟨prices, order, hprices, hadjust, hupdate, hremoved⟩ :=
    DecreasePositionUtils.decreasePosition_update
      ⟨horder, hpositionMarket.trans horder, by
        rw [hstored]
        exact hcollateral.2.2⟩
      { positionKey := by
          show group.key params.order.account = position.group.key position.account
          rw [← hgroup, ← haccount]
        account_ne := hsound.account_ne _ hmem
        isLong := congrArg (·.isLong) hgroup
        isCollateral := hcollateral
        sizeInUsd := rfl
        sizeInTokens := rfl
        collateralAmount := rfl
        borrowingFactor := rfl } hsound hdecrease
  have hpaid : Accounting.of w'.dataStore = Accounting.of w₁.dataStore :=
    Accounting.of_sameOff (hsound.update hupdate)
      (payOutput_writes env (List.Subset.refl swapSlots) _ _ h) (by decide)
  rw [hpaid]
  refine .updates hupdate fun hnone => ?_
  rcases Nat.lt_or_ge order.sizeDeltaUsd position.sizeInUsd with hlt | hge
  · have hmarkets : MarketStoreUtils.get w.dataStore params.order.market = params.market :=
      (hloaded henabled).symm
    refine Or.inr ⟨prices, order, ?_, ?_, hlt, hremoved hnone hlt⟩
    · show getMarketPrices env (MarketStoreUtils.get w.dataStore params.order.market) = _
      rw [hmarkets]
      exact hprices
    · rw [updateParams, hmarkets]
      exact hadjust
  · exact Or.inl (Nat.sub_eq_zero_of_le hge)

end DecreaseOrderUtils

-- ---------------------------------------------------------------------------
-- Orders
-- ---------------------------------------------------------------------------

namespace OrderUtils

/-- Processing an order is a step of the accounting. -/
theorem processOrder_stepsTo {params : ExecuteOrderParams} {u : Unit}
    (hsound : (Accounting.of w.dataStore).Sound residues) (hkeyed : MarketsKeyed w.dataStore)
    (hloaded : params.Loaded w.dataStore) (haccount : params.order.account ≠ 0)
    (h : processOrder env params w = .ok (u, w')) :
    (Accounting.of w.dataStore).StepsTo (Accounting.of w'.dataStore)
      (isDecreaseOrder params.order.orderType = true ∧
        DecreaseOrderUtils.LeavesSize env w.dataStore params.order) := by
  unfold processOrder at h
  split_ifs at h with hincrease hdecrease hswap
  · refine (IncreaseOrderUtils.processOrder_stepsTo hsound hkeyed hloaded haccount h).mono ?_
    exact False.elim
  · refine (DecreaseOrderUtils.processOrder_stepsTo hsound hkeyed hloaded h).mono ?_
    exact fun hleaves => ⟨hdecrease, hleaves⟩
  · exact .stays (Accounting.of_sameOff hsound
      (SwapOrderUtils.processOrder_writes env (List.Subset.refl swapSlots) _ h) (by decide))
  · exact absurd h (by simp)

/-- Executing an order that is loaded from the store is a step of the accounting. -/
theorem executeOrder_stepsTo {params : ExecuteOrderParams} {u : Unit}
    (hkey : params.key.slot = .request)
    (hsound : (Accounting.of w.dataStore).Sound residues) (hkeyed : MarketsKeyed w.dataStore)
    (hloaded : params.Loaded w.dataStore) (h : executeOrder env params w = .ok (u, w')) :
    (Accounting.of w.dataStore).StepsTo (Accounting.of w'.dataStore)
      (isDecreaseOrder params.order.orderType = true ∧
        DecreaseOrderUtils.LeavesSize env w.dataStore params.order) := by
  obtain ⟨haccount, w₁, w₂, hremove, hprocess, hfee⟩ := executeOrder_eq_ok h
  have hremoved : World.SameOff orderSlots w w₁ := removeOrder_writes
    (by rw [hkey]; decide) (List.Subset.refl _) _ hremove
  have hsame := Accounting.of_sameOff hsound hremoved (by decide)
  have hmarket : MarketStoreUtils.get w₁.dataStore = MarketStoreUtils.get w.dataStore :=
    congrArg Accounting.market hsame
  have hsound₁ : (Accounting.of w₁.dataStore).Sound residues := by
    rw [hsame]
    exact hsound
  have hloaded₁ : params.Loaded w₁.dataStore := by
    intro henabled
    rw [hmarket]
    exact hloaded henabled
  have hstep := processOrder_stepsTo hsound₁ (hkeyed.of_market_eq hmarket) hloaded₁ haccount
    hprocess
  have hfee : World.SameOff [.tokens] w₂ w' :=
    GasUtils.payExecutionFee_writes env (List.mem_singleton_self _) _ _ _ _ hfee
  obtain ⟨left, hsound₂, -⟩ := hsound₁.step hstep
  rw [Accounting.of_sameOff hsound₂ hfee (by decide), ← hsame]
  refine hstep.mono ?_
  rintro ⟨hdecrease, hleaves⟩
  refine ⟨hdecrease, hleaves.congr (DecreaseOrderUtils.updateParams_of_eq hsame _) ?_⟩
  have hoff : ∀ slot ∈ adjustSlots, slot ∉ orderSlots := by decide
  intro slot hslot key hkey
  exact hremoved.uint slot (hoff slot hslot) key hkey

end OrderUtils

end GmxSynthetics
