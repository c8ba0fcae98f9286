import GmxSynthetics.Evm.Machine
import GmxSynthetics.Position.Exposure
import GmxSynthetics.Pricing.ImpactRoundTrip

/-!
# Virtual inventory and open interest

Position updates as trades of the exposure of the store, and what the virtual inventory is
worth to the price impact.

* `increasePosition_trade`, `decreasePosition_trade` — an update moves open interest and the
  inventory of the market's index token together, and nothing else of the exposure;
* `inventoryMachine` — position updates in any order, among calls that leave the exposure
  alone;
* `_getPriceImpactUsd_congr` — the impact depends on the signed imbalance before and after
  an update only;
* `virtualInventory_agrees` — the inventory is the imbalance of the markets that share it,
  and for a single market it prices an update as the open interest does.
-/

namespace GmxSynthetics

open Evm MarketUtils PositionUtils PositionPricingUtils

-- ---------------------------------------------------------------------------
-- The exposure of a store
-- ---------------------------------------------------------------------------

def Exposure.of (dataStore : DataStore) : Exposure where
  markets := dataStore.addressSets (.base .MARKET_LIST)
  market := MarketStoreUtils.get dataStore
  tokenId token := dataStore.getBytes32 (Keys.virtualTokenIdKey token)
  openInterest g := dataStore.getUint (Keys.openInterestKey g.market g.collateralToken g.isLong)
  inventory id := dataStore.getInt (Keys.virtualInventoryForPositionsKey id)

/-- The slots of the exposure. -/
def exposureSlots : List Slot :=
  [.constant .MARKET_LIST, .market, .constant .VIRTUAL_TOKEN_ID, .constant .OPEN_INTEREST,
    .constant .VIRTUAL_INVENTORY_FOR_POSITIONS]

variable {env : Env} {params : UpdatePositionParams} {w w' : World}

theorem Exposure.of_sameOff {slots : List Slot} (h : World.SameOff slots w w')
    (hslots : ∀ slot ∈ exposureSlots, slot ∉ slots) :
    Exposure.of w'.dataStore = Exposure.of w.dataStore := by
  have hlist := hslots (.constant .MARKET_LIST) (by decide)
  have hmarket : MarketStoreUtils.get w'.dataStore = MarketStoreUtils.get w.dataStore :=
    funext fun key => MarketStoreUtils.get_sameOff h hlist (hslots .market (by decide)) key
  have htokenId : ∀ token, w'.dataStore.getBytes32 (Keys.virtualTokenIdKey token) =
      w.dataStore.getBytes32 (Keys.virtualTokenIdKey token) := fun token =>
    h.bytes32Values _ (hslots (.constant .VIRTUAL_TOKEN_ID) (by decide))
  have hopen : ∀ g : PositionGroup,
      w'.dataStore.getUint (Keys.openInterestKey g.market g.collateralToken g.isLong) =
        w.dataStore.getUint (Keys.openInterestKey g.market g.collateralToken g.isLong) := fun _ =>
    h.uint _ (hslots (.constant .OPEN_INTEREST) (by decide)) _ rfl
  have hinventory : ∀ id, w'.dataStore.getInt (Keys.virtualInventoryForPositionsKey id) =
      w.dataStore.getInt (Keys.virtualInventoryForPositionsKey id) := fun _ =>
    h.int _ (hslots (.constant .VIRTUAL_INVENTORY_FOR_POSITIONS) (by decide)) _ rfl
  simp only [Exposure.of, h.addressSet _ hlist (.base .MARKET_LIST) rfl, hmarket, htokenId, hopen,
    hinventory]

theorem Exposure.of_writes {α : Type} {slots : List Slot} {x : Tx α} {a : α}
    (hx : Writes slots x) (hslots : ∀ slot ∈ exposureSlots, slot ∉ slots)
    (h : x w = .ok (a, w')) : Exposure.of w'.dataStore = Exposure.of w.dataStore :=
  of_sameOff (hx h) hslots

-- ---------------------------------------------------------------------------
-- Position updates are trades
-- ---------------------------------------------------------------------------

theorem DataStore.applyDeltaToInt_eq_ok {key : Key} {value next : Int}
    (h : applyDeltaToInt key value w = .ok (next, w')) :
    next = w.dataStore.getInt key + value ∧
      w' = { w with dataStore := w.dataStore.setInt key next } := by
  simp only [applyDeltaToInt, Tx.bind_eq_ok, readStore_eq_ok, Tx.lift_eq_ok, writeStore_eq_ok,
    Tx.pure_eq_ok, addInt_eq_ok] at h
  obtain ⟨_, _, ⟨rfl, rfl⟩, _, _, ⟨⟨-, rfl⟩, rfl⟩, _, _, rfl, rfl, rfl⟩ := h
  exact ⟨rfl, rfl⟩

/-- The inventory of a token's id moves; without an id nothing does. -/
theorem MarketUtils.applyDeltaToVirtualInventoryForPositions_eq_ok {token : Address} {delta : Int}
    {u : Unit} (h : applyDeltaToVirtualInventoryForPositions token delta w = .ok (u, w')) :
    let tokenId := w.dataStore.getBytes32 (Keys.virtualTokenIdKey token)
    w' = if tokenId = 0 then w else
      { w with
        dataStore := w.dataStore.setInt (Keys.virtualInventoryForPositionsKey tokenId)
          (w.dataStore.getInt (Keys.virtualInventoryForPositionsKey tokenId) + delta) } := by
  intro tokenId
  simp only [applyDeltaToVirtualInventoryForPositions, ↓readStore_bind_eq_ok] at h
  split at h
  · rename_i hzero
    rw [if_pos hzero, (Tx.pure_eq_ok.mp h).2]
  · rename_i hzero
    obtain ⟨_, w₁, hdelta, h⟩ := Tx.bind_eq_ok.mp h
    obtain ⟨-, rfl⟩ := Tx.pure_eq_ok.mp h
    obtain ⟨rfl, rfl⟩ := DataStore.applyDeltaToInt_eq_ok hdelta
    rw [if_neg hzero]

/-- A listed market and one of its collateral tokens. -/
structure Exposure.IsTraded (e : Exposure) (market : Market) (collateralToken : Address) :
    Prop where
  listed : market.marketToken ∈ e.markets
  stored : e.market market.marketToken = market
  isCollateral : collateralToken = market.longToken ∨ collateralToken = market.shortToken

theorem Exposure.Trade.refl {e : Exposure} {market : Market} {collateralToken : Address}
    (htraded : e.IsTraded market collateralToken) (isLong : Bool) :
    Trade ⟨market.marketToken, collateralToken, isLong⟩ 0 e e where
  markets := rfl
  market := rfl
  tokenId := rfl
  listed := htraded.listed
  isCollateral := by
    dsimp only
    rw [htraded.stored]
    exact htraded.isCollateral
  openInterest _ := by rw [ite_self, add_zero]
  inventory _ _ := by rw [Exposure.signed, neg_zero, ite_self, ite_self, add_zero]

/-- What `applyDeltaToOpenInterest` writes. -/
theorem MarketUtils.applyDeltaToOpenInterest_eq_ok {market : Market} {collateralToken : Address}
    {isLong : Bool} {delta : Int} {next : Nat}
    (h : applyDeltaToOpenInterest market collateralToken isLong delta w = .ok (next, w')) :
    let openInterestKey := Keys.openInterestKey market.marketToken collateralToken isLong
    let tokenId := w.dataStore.getBytes32 (Keys.virtualTokenIdKey market.indexToken)
    let inventoryKey := Keys.virtualInventoryForPositionsKey tokenId
    (next : Int) = w.dataStore.getUint openInterestKey + delta ∧
      w'.dataStore = if tokenId = 0 then w.dataStore.setUint openInterestKey next else
        (w.dataStore.setUint openInterestKey next).setInt inventoryKey
          (w.dataStore.getInt inventoryKey + Exposure.signed isLong delta) := by
  unfold applyDeltaToOpenInterest at h
  simp only [↓Tx.lift_bind_eq_ok] at h
  obtain ⟨_, -, h⟩ := h
  obtain ⟨_, w₁, hopen, h⟩ := Tx.bind_eq_ok.mp h
  simp only [↓Tx.lift_bind_eq_ok] at h
  obtain ⟨inventoryDelta, hsigned, h⟩ := h
  obtain ⟨_, w₂, hinventory, h⟩ := Tx.bind_eq_ok.mp h
  obtain ⟨_, w₃, hvalidate, h⟩ := Tx.bind_eq_ok.mp h
  obtain ⟨rfl, rfl⟩ := Tx.pure_eq_ok.mp h
  have hsame : w₃ = w₂ := by
    split at hvalidate
    · exact (viewStore_eq_ok.mp hvalidate).2.symm
    · exact (Tx.pure_eq_ok.mp hvalidate).2.symm
  have hdelta : inventoryDelta = Exposure.signed isLong delta := by
    unfold Exposure.signed
    cases isLong with
    | true => exact (negInt_eq_ok.mp hsigned).2
    | false => exact (Result.pure_eq_ok.mp hsigned).symm
  obtain ⟨hnext, rfl⟩ := MarketUtils.applyDeltaToUint_eq_ok hopen
  have hw₂ := applyDeltaToVirtualInventoryForPositions_eq_ok hinventory
  rw [hdelta] at hw₂
  refine ⟨hnext, ?_⟩
  rw [hsame, hw₂]
  exact apply_ite World.dataStore _ _ _

theorem MarketUtils.applyDeltaToOpenInterest_trade {market : Market} {collateralToken : Address}
    {isLong : Bool} {delta : Int} {next : Nat}
    (htraded : (Exposure.of w.dataStore).IsTraded market collateralToken)
    (h : applyDeltaToOpenInterest market collateralToken isLong delta w = .ok (next, w')) :
    Exposure.Trade ⟨market.marketToken, collateralToken, isLong⟩ delta (.of w.dataStore)
      (.of w'.dataStore) := by
  obtain ⟨hnext, hwrite⟩ := applyDeltaToOpenInterest_eq_ok h
  rw [hwrite]
  have hindex : ((Exposure.of w.dataStore).virtualId market.marketToken) =
      w.dataStore.getBytes32 (Keys.virtualTokenIdKey market.indexToken) := by
    unfold Exposure.virtualId
    rw [htraded.stored]
    rfl
  have hopen : ∀ g : PositionGroup,
      Keys.openInterestKey g.market g.collateralToken g.isLong =
        Keys.openInterestKey market.marketToken collateralToken isLong ↔
      g = ⟨market.marketToken, collateralToken, isLong⟩ := by
    intro g
    have hkey := Aggregate.key_inj (x := .openInterest g)
      (y := .openInterest ⟨market.marketToken, collateralToken, isLong⟩)
    rwa [Aggregate.openInterest.injEq] at hkey
  constructor
  case markets => split <;> rfl
  case market => split <;> rfl
  case tokenId => split <;> rfl
  case listed => exact htraded.listed
  case isCollateral =>
    dsimp only
    rw [htraded.stored]
    exact htraded.isCollateral
  case openInterest =>
    intro g
    have hset : ((w.dataStore.setUint (Keys.openInterestKey market.marketToken collateralToken
        isLong) next).getUint (Keys.openInterestKey g.market g.collateralToken g.isLong) : Int) =
        w.dataStore.getUint (Keys.openInterestKey g.market g.collateralToken g.isLong) +
          if g = ⟨market.marketToken, collateralToken, isLong⟩ then delta else 0 := by
      rw [getUint_setUint]
      simp only [hopen]
      by_cases hself : g = ⟨market.marketToken, collateralToken, isLong⟩
      · rw [if_pos hself, if_pos hself, hnext, hself]
      · rw [if_neg hself, if_neg hself, add_zero]
    split
    · exact hset
    · exact hset
  case inventory =>
    intro id hid
    dsimp only
    rw [hindex]
    by_cases hzero : w.dataStore.getBytes32 (Keys.virtualTokenIdKey market.indexToken) = 0
    · rw [if_pos hzero, hzero, if_neg hid, add_zero]
      rfl
    · rw [if_neg hzero]
      show Function.update w.dataStore.intValues _ _ (Keys.virtualInventoryForPositionsKey id) = _
      rw [Function.update_apply]
      have hkey : Keys.virtualInventoryForPositionsKey id =
          Keys.virtualInventoryForPositionsKey
            (w.dataStore.getBytes32 (Keys.virtualTokenIdKey market.indexToken)) ↔
          id = w.dataStore.getBytes32 (Keys.virtualTokenIdKey market.indexToken) := by
        simp [Keys.virtualInventoryForPositionsKey]
      by_cases hself : id = w.dataStore.getBytes32 (Keys.virtualTokenIdKey market.indexToken)
      · rw [if_pos (hkey.mpr hself), if_pos hself, ← hself]
        rfl
      · rw [if_neg fun h => hself (hkey.mp h), if_neg hself, add_zero]
        rfl

theorem PositionUtils.updateOpenInterest_trade {sizeDeltaUsd sizeDeltaInTokens : Int} {u : Unit}
    (htraded : (Exposure.of w.dataStore).IsTraded params.market params.position.collateralToken)
    (h : updateOpenInterest params sizeDeltaUsd sizeDeltaInTokens w = .ok (u, w')) :
    Exposure.Trade ⟨params.market.marketToken, params.position.collateralToken,
      params.position.isLong⟩ sizeDeltaUsd (.of w.dataStore) (.of w'.dataStore) := by
  unfold updateOpenInterest at h
  split at h
  · obtain ⟨_, w₁, hopen, h⟩ := Tx.bind_eq_ok.mp h
    obtain ⟨_, w₂, htokens, h⟩ := Tx.bind_eq_ok.mp h
    obtain ⟨-, rfl⟩ := Tx.pure_eq_ok.mp h
    have hrest := Exposure.of_writes (applyDeltaToOpenInterestInTokens_writes
      (List.mem_singleton_self _) _ _ _ _) (by decide) htokens
    rw [hrest]
    exact applyDeltaToOpenInterest_trade htraded hopen
  · rename_i hnone
    obtain ⟨-, rfl⟩ := Tx.pure_eq_ok.mp h
    obtain rfl : sizeDeltaUsd = 0 := not_not.mp hnone
    exact .refl htraded _

/-- An increase is a trade of its size. -/
theorem IncreasePositionUtils.increasePosition_trade
    (htraded : (Exposure.of w.dataStore).IsTraded params.market params.position.collateralToken)
    (hkey : params.positionKey.slot = .position) {collateralIncrementAmount : Nat}
    {fees : PositionFees}
    (h : increasePosition env params collateralIncrementAmount w = .ok (fees, w')) :
    Exposure.Trade ⟨params.market.marketToken, params.position.collateralToken,
      params.position.isLong⟩ params.order.sizeDeltaUsd (.of w.dataStore) (.of w'.dataStore) := by
  obtain ⟨run⟩ := increasePosition_run h
  have hnext := run.next_eq
  have hcharged : World.SameOff (.constant .COLLATERAL_SUM :: marketStateSlots ++ paymentSlots) w
      run.charged := run.sameOff_charged (by decide) (by decide) (by decide)
  have hstored : World.SameOff (.position :: .constant .TOTAL_BORROWING ::
      .constant .CLAIMABLE_FUNDING_AMOUNT :: positionListSlots) run.impacted run.stored :=
    run.sameOff_stored (by decide) (by decide) (by decide) (hkey ▸ List.mem_cons_self)
  have h₁ := Exposure.of_sameOff hcharged (by decide)
  have h₂ := Exposure.of_writes
    (applyDeltaToPositionImpactPool_writes (List.mem_singleton_self _) _ _) (by decide)
    run.impacting
  have h₃ := Exposure.of_sameOff hstored (by decide)
  have h₄ := Exposure.of_writes
    (ReferralUtils.incrementAffiliateReward_writes (List.mem_singleton_self _) _ _ _ _)
    (by decide) run.referring
  have hbefore : Exposure.of run.stored.dataStore = Exposure.of w.dataStore := by
    rw [h₃, h₂, h₁]
  have htrade := updateOpenInterest_trade (by rw [hbefore, hnext]; exact htraded) run.opening
  rw [hbefore, hnext] at htrade
  rw [h₄]
  exact htrade

namespace DecreasePositionUtils

open DecreasePositionCollateralUtils

theorem finishDecrease_trade
    (htraded : (Exposure.of w.dataStore).IsTraded params.market params.position.collateralToken)
    (hkey : params.positionKey.slot = .position) {prices : MarketPrices}
    {values : DecreasePositionCollateralValues} {fees : PositionFees}
    {result : DecreasePositionResult × PositionFees}
    (h : finishDecrease env params prices values fees w = .ok (result, w')) :
    Exposure.Trade ⟨params.market.marketToken, params.position.collateralToken,
      params.position.isLong⟩ (-params.order.sizeDeltaUsd) (.of w.dataStore)
      (.of w'.dataStore) := by
  obtain ⟨run⟩ := finishDecrease_run h
  obtain ⟨_, -, hgroup, -⟩ := closeOrStore_stores hkey run.closing
  have hgroup : run.position.group = params.position.group := hgroup
  have hclosed : World.SameOff (.position :: .constant .TOTAL_BORROWING ::
      .constant .CLAIMABLE_FUNDING_AMOUNT :: positionListSlots) w run.closed :=
    run.sameOff_closed (by decide) (by decide) (by decide) (hkey ▸ List.mem_cons_self)
  have hreferred : World.SameOff [.constant .POOL_AMOUNT, .constant .VIRTUAL_INVENTORY_FOR_SWAPS,
      .constant .AFFILIATE_REWARD] run.lowered run.referred :=
    run.sameOff_referred (by decide) (by decide) (by decide)
  have h₁ := Exposure.of_sameOff hclosed (by decide)
  have h₂ := Exposure.of_writes
    (applyDeltaToCollateralSum_writes (List.mem_singleton_self _) _ _ _ _) (by decide) run.summing
  have h₃ := Exposure.of_sameOff hreferred (by decide)
  have h₄ := Exposure.of_writes
    (DecreasePositionSwapUtils.swapWithdrawnCollateralToPnlToken_writes env
      (List.Subset.refl swapSlots) _ _) (by decide) run.swapping
  have hbefore : Exposure.of run.summed.dataStore = Exposure.of w.dataStore := by
    rw [h₂, h₁]
  have hafter : Exposure.of w'.dataStore = Exposure.of run.lowered.dataStore := by
    rw [h₄, h₃]
  have hcollateral : run.position.collateralToken = params.position.collateralToken :=
    congrArg (·.collateralToken) hgroup
  have hlong : run.position.isLong = params.position.isLong := congrArg (·.isLong) hgroup
  have htrade := updateOpenInterest_trade (by rw [hbefore, hcollateral]; exact htraded) run.lowering
  rw [hbefore, hcollateral, hlong] at htrade
  rw [hafter]
  exact htrade

/-- A decrease is a trade of the size that is taken off. -/
theorem decreasePosition_trade
    (htraded : (Exposure.of w.dataStore).IsTraded params.market params.position.collateralToken)
    (hkey : params.positionKey.slot = .position) {result : DecreasePositionResult × PositionFees}
    (h : decreasePosition env params w = .ok (result, w')) :
    ∃ sizeDeltaUsd : Nat, Exposure.Trade ⟨params.market.marketToken,
      params.position.collateralToken, params.position.isLong⟩ (-sizeDeltaUsd) (.of w.dataStore)
      (.of w'.dataStore) := by
  obtain ⟨run⟩ := decreasePosition_run h
  have h₁ := Exposure.of_writes (updateFundingAndBorrowingState_writes env (List.Subset.refl _) _ _)
    (by decide) run.updating
  have h₂ := Exposure.of_writes (processCollateral_writes env _ _
    (List.subset_append_left ledgerSlots swapSlots) (List.subset_append_right _ _)) (by decide)
    run.charging
  have hbefore : Exposure.of run.charged.dataStore = Exposure.of w.dataStore := by rw [h₂, h₁]
  have hkey' : ({ params with order := run.order } : UpdatePositionParams).positionKey.slot =
      .position := hkey
  have htrade := finishDecrease_trade (by rw [hbefore]; exact htraded) hkey' run.finishing
  rw [hbefore] at htrade
  exact ⟨run.order.sizeDeltaUsd, htrade⟩

end DecreasePositionUtils

-- ---------------------------------------------------------------------------
-- Runs
-- ---------------------------------------------------------------------------

/-- A step of the exposure: a position update, or a call that leaves open interest, inventory,
ids and markets alone. -/
inductive InventoryStep where
  | increase (env : Env) (params : UpdatePositionParams) (collateralIncrementAmount : Nat)
  | decrease (env : Env) (params : UpdatePositionParams)
  | other

/-- What the handlers hand to an update: a listed market, one of its collateral tokens, and the
key of a position. -/
structure PositionUtils.UpdatePositionParams.IsTraded (params : UpdatePositionParams)
    (dataStore : DataStore) : Prop where
  market : (Exposure.of dataStore).IsTraded params.market params.position.collateralToken
  positionKey : params.positionKey.slot = .position

/-- Position updates in any order, from a store in which the markets that share an id have no
open interest and the id no inventory. -/
def inventoryMachine (id : Nat) : Machine World InventoryStep where
  init w :=
    (∀ m ∈ w.dataStore.addressSets (.base .MARKET_LIST),
      (MarketStoreUtils.get w.dataStore m).marketToken = m) ∧
    (∀ m ∈ (Exposure.of w.dataStore).sharing id, ∀ collateralToken isLong,
      w.dataStore.getUint (Keys.openInterestKey m collateralToken isLong) = 0) ∧
    w.dataStore.getInt (Keys.virtualInventoryForPositionsKey id) = 0
  next step w w' :=
    match step with
    | .increase env params collateralIncrementAmount =>
      params.IsTraded w.dataStore ∧ ∃ fees,
        IncreasePositionUtils.increasePosition env params collateralIncrementAmount w =
          .ok (fees, w')
    | .decrease env params =>
      params.IsTraded w.dataStore ∧ ∃ result,
        DecreasePositionUtils.decreasePosition env params w = .ok (result, w')
    | .other => Exposure.of w'.dataStore = Exposure.of w.dataStore

/-- Every step leaves the exposure alone or trades. -/
theorem inventoryMachine_next {id : Nat} {step : InventoryStep}
    (h : (inventoryMachine id).next step w w') :
    Exposure.of w'.dataStore = Exposure.of w.dataStore ∨ ∃ group delta,
      Exposure.Trade group delta (.of w.dataStore) (.of w'.dataStore) := by
  cases step with
  | increase env params collateralIncrementAmount =>
    obtain ⟨htraded, fees, h⟩ := h
    exact .inr ⟨_, _, IncreasePositionUtils.increasePosition_trade htraded.market
      htraded.positionKey h⟩
  | decrease env params =>
    obtain ⟨htraded, result, h⟩ := h
    obtain ⟨sizeDeltaUsd, htrade⟩ :=
      DecreasePositionUtils.decreasePosition_trade htraded.market htraded.positionKey h
    exact .inr ⟨_, _, htrade⟩
  | other => exact .inl h

/-- The inventory of an id is balanced in every run. -/
theorem inventoryMachine_balanced {id : Nat} (hid : id ≠ 0)
    (hreach : (inventoryMachine id).Reachable w) :
    (∀ m ∈ (Exposure.of w.dataStore).sharing id,
      ((Exposure.of w.dataStore).market m).longToken ≠
        ((Exposure.of w.dataStore).market m).shortToken) →
    (Exposure.of w.dataStore).Balanced id := by
  refine Machine.Reachable.invariant (P := fun w =>
    (∀ m ∈ (Exposure.of w.dataStore).sharing id,
      ((Exposure.of w.dataStore).market m).longToken ≠
        ((Exposure.of w.dataStore).market m).shortToken) →
    (Exposure.of w.dataStore).Balanced id) ?_ ?_ hreach
  · rintro w ⟨-, hopen, hinventory⟩ -
    unfold Exposure.Balanced
    rw [Finset.sum_eq_zero]
    · exact hinventory
    · intro m hm
      have hzero : ∀ isLong, (Exposure.of w.dataStore).sideTotal m isLong = 0 := by
        intro isLong
        unfold Exposure.sideTotal
        exact Nat.add_eq_zero_iff.mpr ⟨hopen m hm _ _, hopen m hm _ _⟩
      rw [Exposure.imbalance, hzero, hzero, sub_self]
  · intro step w w' _ hnext ih hne
    rcases inventoryMachine_next hnext with hsame | ⟨group, delta, htrade⟩
    · rw [hsame] at hne ⊢
      exact ih hne
    · rw [htrade.sharing, htrade.market] at hne
      exact htrade.balanced hid hne (ih hne)

/-- Every listed market keeps its own address as its market token. -/
theorem inventoryMachine_marketToken {id : Nat} (hreach : (inventoryMachine id).Reachable w) :
    ∀ m ∈ w.dataStore.addressSets (.base .MARKET_LIST),
      (MarketStoreUtils.get w.dataStore m).marketToken = m := by
  refine Machine.Reachable.invariant (P := fun w =>
    ∀ m ∈ w.dataStore.addressSets (.base .MARKET_LIST),
      (MarketStoreUtils.get w.dataStore m).marketToken = m) ?_ ?_ hreach
  · rintro w ⟨hmarkets, -⟩
    exact hmarkets
  · intro step w w' _ hnext ih
    have hsame : Exposure.markets (.of w'.dataStore) = Exposure.markets (.of w.dataStore) ∧
        Exposure.market (.of w'.dataStore) = Exposure.market (.of w.dataStore) := by
      rcases inventoryMachine_next hnext with hsame | ⟨group, delta, htrade⟩
      · rw [hsame]
        exact ⟨rfl, rfl⟩
      · exact ⟨htrade.markets, htrade.market⟩
    show ∀ m ∈ Exposure.markets (.of w'.dataStore),
      (Exposure.market (.of w'.dataStore) m).marketToken = m
    rw [hsame.1, hsame.2]
    exact ih

-- ---------------------------------------------------------------------------
-- The impact of the inventory
-- ---------------------------------------------------------------------------

theorem Calc.diff_eq_natAbs (a b : Nat) : diff a b = ((a : Int) - b).natAbs := by
  unfold diff
  split <;> omega

theorem Calc.sumReturnUint256_ok {a : Nat} {b : Int} (hnonneg : 0 ≤ a + b)
    (hbound : a + b < uintBound) : ∃ c, sumReturnUint256 a b = .ok c := by
  unfold sumReturnUint256
  split
  · exact ⟨_, add_eq_ok.mpr ⟨by omega, rfl⟩⟩
  · exact ⟨_, sub_eq_ok.mpr ⟨by omega, rfl⟩⟩

namespace PositionPricingUtils

/-- Long less short open interest before an update. -/
def OpenInterestParams.initialImbalance (p : OpenInterestParams) : Int :=
  p.longOpenInterest - p.shortOpenInterest

/-- Long less short open interest after it. -/
def OpenInterestParams.nextImbalance (p : OpenInterestParams) : Int :=
  p.nextLongOpenInterest - p.nextShortOpenInterest

/-- The impact sees the open interest through its two imbalances only. -/
theorem _getPriceImpactUsd_congr {dataStore : DataStore} {market : Address}
    {p q : OpenInterestParams} (hinitial : p.initialImbalance = q.initialImbalance)
    (hnext : p.nextImbalance = q.nextImbalance) :
    _getPriceImpactUsd env dataStore market p = _getPriceImpactUsd env dataStore market q := by
  unfold OpenInterestParams.initialImbalance at hinitial
  unfold OpenInterestParams.nextImbalance at hnext
  have hside : decide (p.longOpenInterest ≤ p.shortOpenInterest) =
      decide (q.longOpenInterest ≤ q.shortOpenInterest) := by
    rw [decide_eq_decide]
    omega
  have hnextSide : decide (p.nextLongOpenInterest ≤ p.nextShortOpenInterest) =
      decide (q.nextLongOpenInterest ≤ q.nextShortOpenInterest) := by
    rw [decide_eq_decide]
    omega
  unfold _getPriceImpactUsd
  simp only [Calc.diff_eq_natAbs, hinitial, hnext, hside, hnextSide]

/-- The pair of open interests that stands for an inventory has its imbalance, whatever offset
a decrease adds to both. -/
theorem getNextOpenInterestForVirtualInventory_imbalance {params : GetPriceImpactUsdParams}
    {virtualInventory : Int} {q : OpenInterestParams}
    (h : getNextOpenInterestForVirtualInventory params virtualInventory = .ok q) :
    q.initialImbalance = -virtualInventory ∧
      q.nextImbalance =
        -virtualInventory + if params.isLong then params.usdDelta else -params.usdDelta := by
  have hparams : ∀ {long short : Nat}, (long : Int) - short = -virtualInventory →
      getNextOpenInterestParams params long short = .ok q →
      q.initialImbalance = -virtualInventory ∧ q.nextImbalance =
        -virtualInventory + if params.isLong then params.usdDelta else -params.usdDelta := by
    intro long short hdiff hq
    obtain ⟨hlong, hshort, hnextLong, hnextShort⟩ := getNextOpenInterestParams_eq_ok hq
    unfold OpenInterestParams.initialImbalance OpenInterestParams.nextImbalance
    rw [hnextLong, hnextShort, hlong, hshort]
    split <;> omega
  simp only [getNextOpenInterestForVirtualInventory, Result.bind_eq_ok] at h
  obtain ⟨⟨long, short⟩, hpair, h⟩ := h
  have hdiff : (long : Int) - short = -virtualInventory := by
    split at hpair
    · simp only [Result.bind_eq_ok, toUint256_eq_ok, Result.pure_eq_ok, Prod.mk.injEq] at hpair
      obtain ⟨_, hshort, rfl, rfl⟩ := hpair
      omega
    · simp only [Result.bind_eq_ok, toUint256_eq_ok, negInt_eq_ok, Result.pure_eq_ok,
        Prod.mk.injEq] at hpair
      obtain ⟨_, ⟨-, rfl⟩, _, hlong, rfl, rfl⟩ := hpair
      omega
  split at h
  · simp only [Result.bind_eq_ok, add_eq_ok] at h
    obtain ⟨_, -, offset, -, _, ⟨-, rfl⟩, _, ⟨-, rfl⟩, h⟩ := h
    exact hparams (by omega) h
  · exact hparams hdiff h

theorem getNextOpenInterestParams_ok {params : GetPriceImpactUsdParams} {long short : Nat}
    (hrange : params.usdDelta < 0 → IsInt256 (-params.usdDelta))
    (hcover : 0 ≤ (if params.isLong then (long : Int) else short) + params.usdDelta)
    (hbound : (if params.isLong then (long : Int) else short) + params.usdDelta < uintBound) :
    ∃ q, getNextOpenInterestParams params long short = .ok q := by
  have hside : ∀ (openInterest : Nat) (error : Errors) (f : Nat → Result OpenInterestParams),
      0 ≤ openInterest + params.usdDelta → openInterest + params.usdDelta < uintBound →
      (∀ next, ∃ q, f next = .ok q) → ∃ q, (do
        let exceeds ← negationExceeds params.usdDelta openInterest
        revertIf (exceeds = true) error
        let next ← Calc.sumReturnUint256 openInterest params.usdDelta
        f next : Result OpenInterestParams) = .ok q := by
    intro openInterest error f hnonneg hless hf
    obtain ⟨exceeds, hexceeds⟩ : ∃ b,
        (negationExceeds params.usdDelta openInterest : Result Bool) = .ok b :=
      negationExceeds_ok_iff.mpr hrange
    obtain ⟨next, hnext⟩ := Calc.sumReturnUint256_ok hnonneg hless
    obtain ⟨q, hq⟩ := hf next
    have hcovered : ¬ exceeds = true := by
      rw [negationExceeds_eq_ok hexceeds, decide_eq_true_eq]
      omega
    refine ⟨q, Result.bind_eq_ok.mpr ⟨exceeds, hexceeds, Result.bind_eq_ok.mpr ⟨(),
      Result.revertIf_eq_ok.mpr hcovered, Result.bind_eq_ok.mpr ⟨next, hnext, hq⟩⟩⟩⟩
  unfold getNextOpenInterestParams
  cases hlong : params.isLong with
  | true =>
    simp only [hlong, if_true] at hcover hbound ⊢
    exact hside _ _ _ hcover hbound fun _ => ⟨_, rfl⟩
  | false =>
    simp only [hlong, Bool.false_eq_true, if_false] at hcover hbound ⊢
    exact hside _ _ _ hcover hbound fun _ => ⟨_, rfl⟩

/-- The artificial open interest is there for every update that the open interest admits, but for
an inventory whose negation overflows. -/
theorem getNextOpenInterestForVirtualInventory_ok {params : GetPriceImpactUsdParams}
    {long short : Nat} {p : OpenInterestParams} {virtualInventory : Int}
    (hp : getNextOpenInterestParams params long short = .ok p)
    (hdelta : IsInt256 params.usdDelta) (hinventory : IsInt256 (-virtualInventory)) :
    ∃ q, getNextOpenInterestForVirtualInventory params virtualInventory = .ok q := by
  have hrange : params.usdDelta < 0 → IsInt256 (-params.usdDelta) := by
    unfold getNextOpenInterestParams at hp
    split at hp
    · obtain ⟨b, hb, -⟩ := Result.bind_eq_ok.mp hp
      exact negationExceeds_ok_iff.mp ⟨b, hb⟩
    · obtain ⟨b, hb, -⟩ := Result.bind_eq_ok.mp hp
      exact negationExceeds_ok_iff.mp ⟨b, hb⟩
  have hword : (uintBound : Int) = intBound + intBound := by decide
  obtain ⟨hlow, hhigh⟩ := hinventory
  obtain ⟨hdeltaLow, hdeltaHigh⟩ := hdelta
  obtain ⟨a, b, hpair, ha, hb⟩ : ∃ a b : Nat,
      (if virtualInventory > 0 then do pure (0, ← toUint256 virtualInventory)
        else do pure (← toUint256 (← negInt virtualInventory), 0) : Result (Nat × Nat)) =
          .ok (a, b) ∧ a ≤ intBound ∧ b ≤ intBound := by
    split
    · exact ⟨0, virtualInventory.toNat, Result.bind_eq_ok.mpr ⟨_, toUint256_eq_ok.mpr (by omega),
        rfl⟩, by omega, by omega⟩
    · exact ⟨(-virtualInventory).toNat, 0, Result.bind_eq_ok.mpr ⟨_, negInt_eq_ok.mpr
        ⟨⟨hlow, hhigh⟩, rfl⟩, Result.bind_eq_ok.mpr ⟨_, toUint256_eq_ok.mpr (by omega), rfl⟩⟩,
        by omega, by omega⟩
  unfold getNextOpenInterestForVirtualInventory
  rw [hpair]
  show ∃ q, (if params.usdDelta < 0 then _ else _ : Result OpenInterestParams) = .ok q
  split
  · rename_i hneg
    have hoffset := (hrange hneg).2
    obtain ⟨q, hq⟩ : ∃ q, getNextOpenInterestParams params (a + (-params.usdDelta).toNat)
        (b + (-params.usdDelta).toNat) = .ok q :=
      getNextOpenInterestParams_ok hrange (by split <;> omega) (by split <;> omega)
    exact ⟨q, Result.bind_eq_ok.mpr ⟨_, negInt_eq_ok.mpr ⟨hrange hneg, rfl⟩,
      Result.bind_eq_ok.mpr ⟨_, toUint256_eq_ok.mpr (Int.toNat_of_nonneg (by omega)),
        Result.bind_eq_ok.mpr ⟨_, add_eq_ok.mpr ⟨by omega, rfl⟩,
          Result.bind_eq_ok.mpr ⟨_, add_eq_ok.mpr ⟨by omega, rfl⟩, hq⟩⟩⟩⟩⟩
  · exact getNextOpenInterestParams_ok hrange (by split <;> omega) (by split <;> omega)

end PositionPricingUtils

-- ---------------------------------------------------------------------------
-- The inventory and the open interest
-- ---------------------------------------------------------------------------

/-- **Virtual inventory agrees with open interest.** In every run of position updates, the
inventory of an id is what the markets that share it are short less what they are long. When one
market has the id for itself, an update that its open interest admits is priced by the inventory
as by the open interest; the inventory prices every such update unless its negation overflows. -/
theorem virtualInventory_agrees {id : Nat} (hid : id ≠ 0) {w : World}
    (hreach : (inventoryMachine id).Reachable w)
    (hne : ∀ m ∈ (Exposure.of w.dataStore).sharing id,
      (MarketStoreUtils.get w.dataStore m).longToken ≠
        (MarketStoreUtils.get w.dataStore m).shortToken) :
    w.dataStore.getInt (Keys.virtualInventoryForPositionsKey id) =
        ∑ m ∈ (Exposure.of w.dataStore).sharing id,
          ((totalOpenInterest w.dataStore (MarketStoreUtils.get w.dataStore m) false : Int) -
            totalOpenInterest w.dataStore (MarketStoreUtils.get w.dataStore m) true) ∧
      ∀ m, (Exposure.of w.dataStore).sharing id = {m} →
        let market := MarketStoreUtils.get w.dataStore m
        ∃ virtualInventory,
          getVirtualInventoryForPositions w.dataStore market.indexToken = some virtualInventory ∧
          ∀ (isLong : Bool) (usdDelta : Int) (p : OpenInterestParams),
            getNextOpenInterest w.dataStore ⟨market, usdDelta, isLong⟩ = .ok p →
            (∀ q, getNextOpenInterestForVirtualInventory ⟨market, usdDelta, isLong⟩
                virtualInventory = .ok q →
              ∀ (env : Env), _getPriceImpactUsd env w.dataStore market.marketToken q =
                _getPriceImpactUsd env w.dataStore market.marketToken p) ∧
            (IsInt256 usdDelta → IsInt256 (-virtualInventory) →
              ∃ q, getNextOpenInterestForVirtualInventory ⟨market, usdDelta, isLong⟩
                virtualInventory = .ok q) := by
  have hbalanced := inventoryMachine_balanced hid hreach hne
  have htoken := inventoryMachine_marketToken hreach
  have htotal : ∀ m ∈ (Exposure.of w.dataStore).sharing id, ∀ isLong,
      totalOpenInterest w.dataStore (MarketStoreUtils.get w.dataStore m) isLong =
        (Exposure.of w.dataStore).sideTotal m isLong := by
    intro m hm isLong
    have hlisted : m ∈ w.dataStore.addressSets (.base .MARKET_LIST) :=
      List.mem_toFinset.mp (Finset.mem_filter.mp hm).1
    rw [totalOpenInterest_of_ne (hne m hm), htoken m hlisted]
    rfl
  have hsum : w.dataStore.getInt (Keys.virtualInventoryForPositionsKey id) =
      ∑ m ∈ (Exposure.of w.dataStore).sharing id,
        ((totalOpenInterest w.dataStore (MarketStoreUtils.get w.dataStore m) false : Int) -
          totalOpenInterest w.dataStore (MarketStoreUtils.get w.dataStore m) true) := by
    refine hbalanced.trans (Finset.sum_congr rfl fun m hm => ?_)
    rw [htotal m hm, htotal m hm]
    rfl
  refine ⟨hsum, ?_⟩
  intro m hsingle market
  have hm : m ∈ (Exposure.of w.dataStore).sharing id := by
    rw [hsingle]
    exact Finset.mem_singleton_self m
  have htokenId : w.dataStore.getBytes32 (Keys.virtualTokenIdKey market.indexToken) = id :=
    (Finset.mem_filter.mp hm).2
  rw [hsingle, Finset.sum_singleton] at hsum
  refine ⟨w.dataStore.getInt (Keys.virtualInventoryForPositionsKey id), ?_, ?_⟩
  · unfold getVirtualInventoryForPositions
    rw [htokenId, if_neg hid]
  intro isLong usdDelta p hp
  have hparams := getNextOpenInterest_eq_ok hp
  refine ⟨?_, getNextOpenInterestForVirtualInventory_ok hparams⟩
  intro q hq env
  obtain ⟨hlong, hshort, hnextLong, hnextShort⟩ := getNextOpenInterestParams_eq_ok hparams
  obtain ⟨hinitial, hnext⟩ := getNextOpenInterestForVirtualInventory_imbalance hq
  have himbalance : p.initialImbalance =
      -w.dataStore.getInt (Keys.virtualInventoryForPositionsKey id) := by
    rw [OpenInterestParams.initialImbalance, hlong, hshort, hsum, neg_sub]
  refine _getPriceImpactUsd_congr (hinitial.trans himbalance.symm) ?_
  rw [hnext, ← himbalance, OpenInterestParams.initialImbalance, OpenInterestParams.nextImbalance,
    hnextLong, hnextShort, hlong, hshort]
  dsimp only
  split <;> omega

/-- A listed market with index token 2, whose virtual id is 7, and no open interest. -/
def inventoryWorld : World where
  dataStore :=
    let dataStore : DataStore := { DataStore.empty with
      addressSets := Function.update DataStore.empty.addressSets (.base .MARKET_LIST) [1] }
    let dataStore := dataStore.setAddress (.marketField 1 .MARKET_TOKEN) 1
    let dataStore := dataStore.setAddress (.marketField 1 .INDEX_TOKEN) 2
    let dataStore := dataStore.setAddress (.marketField 1 .LONG_TOKEN) 3
    let dataStore := dataStore.setAddress (.marketField 1 .SHORT_TOKEN) 4
    let dataStore := dataStore.setBytes32 (Keys.virtualTokenIdKey 2) 7
    let dataStore := dataStore.setUint (Keys.poolAmountKey 1 3) 1000
    let dataStore := dataStore.setUint (Keys.maxOpenInterestKey 1 true) (10 ^ 20)
    dataStore.setUint (Keys.reserveFactorKey 1 true) (10 ^ 30)
  balances _ _ := 0
  totalSupply _ := 0
  tokenBalances _ _ := 0

/-- A long of 80 tokens on a fresh position. -/
def inventoryParams : UpdatePositionParams where
  market := ⟨1, 2, 3, 4⟩
  order := { Order.empty with
    account := 9
    market := 1
    initialCollateralToken := 3
    sizeDeltaUsd := 80 * 10 ^ 15
    acceptablePrice := 10 ^ 15
    orderType := .MarketIncrease
    isLong := true }
  orderKey := .request 1
  position :=
    { Position.empty with account := 9, market := 1, collateralToken := 3, isLong := true }
  positionKey := .position 9 1 3 true
  secondaryOrderType := .None

theorem inventoryWorld_init : (inventoryMachine 7).init inventoryWorld := by
  have hsharing : (Exposure.of inventoryWorld.dataStore).sharing 7 = {1} := by decide +kernel
  refine ⟨?_, ?_, by decide +kernel⟩
  · intro m hm
    obtain rfl : m = 1 := List.mem_singleton.mp hm
    decide +kernel
  · intro m hm collateralToken isLong
    simp [inventoryWorld, getUint_setUint, Keys.openInterestKey, Keys.poolAmountKey,
      Keys.maxOpenInterestKey, Keys.reserveFactorKey]
    rfl

theorem virtualInventory_agrees_inventoryWorld :
    ∃ fees w, IncreasePositionUtils.increasePosition
        (Env.plain 10 fun _ => ⟨10 ^ 15, 10 ^ 15⟩) inventoryParams 50 inventoryWorld =
          .ok (fees, w) ∧
      w.dataStore.getInt (Keys.virtualInventoryForPositionsKey 7) = -(80 * 10 ^ 15) ∧
      w.dataStore.getInt (Keys.virtualInventoryForPositionsKey 7) =
        ∑ m ∈ (Exposure.of w.dataStore).sharing 7,
          ((totalOpenInterest w.dataStore (MarketStoreUtils.get w.dataStore m) false : Int) -
            totalOpenInterest w.dataStore (MarketStoreUtils.get w.dataStore m) true) := by
  have hrun : Result.Satisfies (IncreasePositionUtils.increasePosition
      (Env.plain 10 fun _ => ⟨10 ^ 15, 10 ^ 15⟩) inventoryParams 50 inventoryWorld) fun result =>
      (∀ m ∈ (Exposure.of result.2.dataStore).sharing 7,
        (MarketStoreUtils.get result.2.dataStore m).longToken ≠
          (MarketStoreUtils.get result.2.dataStore m).shortToken) ∧
      result.2.dataStore.getInt (Keys.virtualInventoryForPositionsKey 7) = -(80 * 10 ^ 15) := by
    decide +kernel
  obtain ⟨⟨fees, w⟩, hrun, hne, hinventory⟩ := hrun.exists
  have htraded : inventoryParams.IsTraded inventoryWorld.dataStore :=
    ⟨⟨by decide +kernel, by decide +kernel, by decide⟩, rfl⟩
  have hstep : (inventoryMachine 7).next
      (.increase (Env.plain 10 fun _ => ⟨10 ^ 15, 10 ^ 15⟩) inventoryParams 50) inventoryWorld w :=
    ⟨htraded, fees, hrun⟩
  have hreach : (inventoryMachine 7).Reachable w :=
    Machine.Reachable.next (.init inventoryWorld_init) hstep
  exact ⟨fees, w, hrun, hinventory, (virtualInventory_agrees (by decide) hreach hne).1⟩

end GmxSynthetics
