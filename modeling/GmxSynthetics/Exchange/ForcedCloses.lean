import GmxSynthetics.Exchange.OrderTerms
import GmxSynthetics.Exchange.PositionAuthority

/-!
# Forced closes are justified

A keeper may close a position that its account would keep, but only for one of two reasons. The
position is worth too little for its size, and then all of it is closed; or the profits of its side
of the market are too large for the pool, and then what is closed brings them down, and not below
what is to be left of them.

* `Liquidatable`, `AdlRequired` — the two reasons;
* `executeLiquidation_justified`, `executeAdl_justified` — a call that succeeds has its reason;
* `forced_closes` — over whole runs a position stays as it is until an order of its account is
  executed, or there is a reason to close it.
-/

namespace GmxSynthetics

open Evm BaseOrderUtils DecreasePositionUtils MarketUtils PositionUtils

variable {env : Env} {deployment : Deployment} {w w' : World} {u : Unit} {residues : List Residue}

-- ---------------------------------------------------------------------------
-- Reasons
-- ---------------------------------------------------------------------------

/-- A stored position is worth too little for its size, once the fees of its market are brought up
to date. The state that this happens in has one more order than this one. -/
def Liquidatable (env : Env) (group : PositionGroup) (account : Address) (w : World) : Prop :=
  ∃ (params : UpdatePositionParams) (prices : MarketPrices) (w₁ w₂ : World) (reason : String),
    World.SameOff orderSlots w w₁ ∧
    params.market = MarketStoreUtils.get w.dataStore group.market ∧
    params.position = PositionStoreUtils.get w.dataStore (group.key account) ∧
    getMarketPrices env params.market = .ok prices ∧
    updateFundingAndBorrowingState env params prices w₁ = .ok ((), w₂) ∧
    isPositionLiquidatable env w₂.dataStore params.position params.market prices true =
      .ok (true, reason)

/-- Profits may be closed on a side of a market, and are too large for its pool. -/
def AdlRequired (env : Env) (dataStore : DataStore) (market : Address) (isLong : Bool)
    (pnlToPoolFactor : Int) : Prop :=
  AdlUtils.getIsAdlEnabled dataStore market isLong = true ∧
    ∃ maxPnlFactorForAdl, AdlUtils.isPnlFactorExceeded env dataStore market isLong
      .MAX_PNL_FACTOR_FOR_ADL = .ok (true, pnlToPoolFactor, maxPnlFactorForAdl)

theorem AdlUtils.validateAdl_eq_ok {dataStore : DataStore} {market : Address} {isLong : Bool}
    {maxOracleBlockNumbers : List Nat}
    (h : validateAdl dataStore market isLong maxOracleBlockNumbers = .ok u) :
    getIsAdlEnabled dataStore market isLong = true ∧
      ∀ block ∈ maxOracleBlockNumbers, getLatestAdlBlock dataStore market isLong ≤ block := by
  simp only [validateAdl, Result.bind_eq_ok, Result.revertIf_eq_ok, not_not] at h
  obtain ⟨_, henabled, hblocks⟩ := h
  exact ⟨henabled, OracleUtils.validateBlockNumbersNotBefore_eq_ok hblocks⟩

/-- A liquidation goes on only with a position that may be liquidated. -/
theorem DecreasePositionUtils.prepareDecrease_liquidatable {params params' : UpdatePositionParams}
    {prices : MarketPrices} (h : prepareDecrease env params w = .ok ((params', prices), w'))
    (hliquidation : params'.order.orderType = .Liquidation) :
    ∃ reason, isPositionLiquidatable env w'.dataStore params'.position params'.market prices true =
      .ok (true, reason) := by
  unfold prepareDecrease at h
  simp only [↓Tx.lift_bind_eq_ok, ↓viewStore_bind_eq_ok] at h
  obtain ⟨_, -, order, -, h⟩ := h
  obtain ⟨_, w₁, -, h⟩ := Tx.bind_eq_ok.mp h
  simp only [↓Tx.lift_bind_eq_ok, ↓viewStore_bind_eq_ok, Tx.pure_eq_ok, Prod.mk.injEq] at h
  obtain ⟨⟨isLiquidatable, reason⟩, hliquidatable, _, hrevert, ⟨rfl, rfl⟩, rfl⟩ := h
  have hchecked := Result.revertIf_eq_ok.mp hrevert
  have htype : isLiquidationOrder order.orderType = true := decide_eq_true hliquidation
  cases isLiquidatable with
  | true => exact ⟨reason, hliquidatable⟩
  | false => exact absurd ⟨htype, rfl⟩ hchecked

-- ---------------------------------------------------------------------------
-- Keepers' orders
-- ---------------------------------------------------------------------------

/-- A keeper's order is executed in the state that has it. -/
structure KeeperOrder (env : Env) (order : Order) (w w' : World) where
  params : ExecuteOrderParams
  order_eq : params.order = order
  stored : World
  sameOff_stored : World.SameOff orderSlots w stored
  run : ExecuteOrderRun env params stored w'
  terms : OrderTerms run

section Handlers

variable (hw : Settleable deployment w) (hsound : (Accounting.of w.dataStore).Sound residues)

include hw hsound

theorem keeperOrder_exists {order : Order} {params : ExecuteOrderParams}
    {oracleParams : OracleBlockNumbers} {keeper : Address}
    {secondaryOrderType : SecondaryOrderType} {w₁ : World}
    (hw₁ : w₁ = w.withRequest orderStore order)
    (hload : BaseOrderHandler._getExecuteOrderParams deployment w₁.dataStore
      (.request (NonceUtils.getCurrentNonce w.dataStore + 1)) oracleParams keeper
      secondaryOrderType = .ok params)
    (h : OrderUtils.executeOrder env params w₁ = .ok (u, w')) :
    Nonempty (KeeperOrder env order w w') := by
  subst hw₁
  obtain ⟨hsets, -⟩ : Sets .order (.request (NonceUtils.getCurrentNonce w.dataStore + 1))
      order w (w.withRequest orderStore order) ∧ _ :=
    World.withRequest_sets hw.requestKeys rfl
  have hsame := w.withRequest_sameOff order
  have hview : Accounting.of (w.withRequest orderStore order).dataStore =
      Accounting.of w.dataStore := Accounting.of_sameOff hsound hsame (by decide)
  obtain ⟨hkey, horder, -, hloaded⟩ := BaseOrderHandler._getExecuteOrderParams_eq_ok hload
  have hkeyed := hw.marketsKeyed.of_market_eq (congrArg Accounting.market hview)
  obtain ⟨run, hterms⟩ := OrderUtils.executeOrder_terms (by rw [hkey]; rfl) (hview ▸ hsound)
    hkeyed hloaded h
  exact ⟨⟨params, horder.trans hsets.get_self, _, hsame, run, hterms⟩⟩

end Handlers

namespace KeeperOrder

variable {user market : Address} {position : Position} {sizeDeltaUsd updatedAtBlock : Nat}
  {orderType : OrderType}

/-- The order updates the position of the user in the market that the position it is made from has
the side and the collateral token of. -/
theorem decreases (keeperOrder : KeeperOrder env
      (makeKeeperOrder user market position orderType sizeDeltaUsd updatedAtBlock) w w')
    (hdecrease : isDecreaseOrder orderType = true) : keeperOrder.run.Decreases ∧
      keeperOrder.params.group = ⟨market, position.collateralToken, position.isLong⟩ ∧
      keeperOrder.params.order.account = user := by
  have horder := keeperOrder.order_eq
  refine ⟨keeperOrder.terms.decreases ?_, ?_, ?_⟩
  · rw [horder]
    exact hdecrease
  · unfold ExecuteOrderParams.group
    rw [horder]
    rfl
  · rw [horder]
    rfl

/-- The position that a liquidation order updates may be liquidated. -/
theorem liquidatable (hsound : (Accounting.of w.dataStore).Sound residues)
    (keeperOrder : KeeperOrder env
      (makeKeeperOrder user market position .Liquidation sizeDeltaUsd updatedAtBlock) w w') :
    Liquidatable env ⟨market, position.collateralToken, position.isLong⟩ user w := by
  obtain ⟨hdecreases, hgroup, haccount⟩ := keeperOrder.decreases rfl
  obtain ⟨decrease, update, -⟩ := hdecreases
  have hsame : World.SameOff orderSlots w keeperOrder.run.removed :=
    keeperOrder.sameOff_stored.trans (keeperOrder.run.sameOff_removed.mono (by decide))
  have hview : Accounting.of keeperOrder.run.removed.dataStore = Accounting.of w.dataStore :=
    Accounting.of_sameOff hsound hsame (by decide)
  have hliquidation : update.order.orderType = .Liquidation := by
    obtain ⟨_, _, _, hadjusted⟩ := (adjustOrder_isAdjusted _ update.adjusting).1
    rw [hadjusted]
    show keeperOrder.params.order.orderType = _
    rw [keeperOrder.order_eq]
    rfl
  obtain ⟨reason, hreason⟩ := prepareDecrease_liquidatable update.preparing hliquidation
  have hmarket : keeperOrder.params.market =
      MarketStoreUtils.get w.dataStore keeperOrder.params.group.market :=
    (keeperOrder.run.loaded decrease.market_ne).trans
      (congrFun (congrArg Accounting.market hview) _)
  have hposition : PositionStoreUtils.get keeperOrder.run.removed.dataStore
      (keeperOrder.params.group.key keeperOrder.params.order.account) =
        PositionStoreUtils.get w.dataStore
          (keeperOrder.params.group.key keeperOrder.params.order.account) :=
    congrFun (congrArg Accounting.position hview) _
  have hliquidatable : Liquidatable env keeperOrder.params.group keeperOrder.params.order.account
      w :=
    ⟨{ DecreaseOrderUtils.decreaseParams keeperOrder.params keeperOrder.run.removed.dataStore with
        order := update.order },
      update.prices, _, update.updated, reason, hsame, hmarket, hposition, update.marketPrices,
      update.updating, hreason⟩
  rwa [hgroup, haccount] at hliquidatable

/-- A liquidation order for a stored position closes all of it. -/
theorem closes {residues' : List Residue} (hsound' : (Accounting.of w'.dataStore).Sound residues')
    {group : PositionGroup}
    (hposition : position = PositionStoreUtils.get w.dataStore (group.key user))
    (hgroup : position.group = group) (hmarket : group.market = market)
    (keeperOrder : KeeperOrder env
      (makeKeeperOrder user market position .Liquidation position.sizeInUsd updatedAtBlock) w w') :
    group.key user ∉ positionStore.keys w'.dataStore := by
  intro hmem
  obtain ⟨hdecreases, hgroup', haccount⟩ := keeperOrder.decreases rfl
  obtain ⟨decrease, update, _, -, -, hsize, hleft, -⟩ := hdecreases
  have hgroup : keeperOrder.params.group = group := by
    rw [hgroup', ← hgroup, ← hmarket, ← hgroup]
    rfl
  rw [hgroup, haccount] at hsize hleft
  have hstored : PositionStoreUtils.get keeperOrder.stored.dataStore (group.key user) =
      PositionStoreUtils.get w.dataStore (group.key user) :=
    positionStore.get_sameOff keeperOrder.sameOff_stored (by decide)
      (show Slot.position ∉ orderSlots by decide)
  have horder : keeperOrder.params.order.sizeDeltaUsd = position.sizeInUsd := by
    rw [keeperOrder.order_eq]
    rfl
  have hrest := hleft hmem
  have hpos : 0 < (PositionStoreUtils.get w'.dataStore (group.key user)).sizeInUsd :=
    hsound'.sizeInUsd_pos _ hmem
  rw [hstored, horder, ← hposition] at hsize
  rw [hstored, ← hposition] at hrest
  rcases hsize with hsize | hsize <;> omega

end KeeperOrder

-- ---------------------------------------------------------------------------
-- Calls
-- ---------------------------------------------------------------------------

section Handlers

variable (hw : Settleable deployment w) (hsound : (Accounting.of w.dataStore).Sound residues)
  {user market collateralToken : Address} {isLong : Bool} {oracleParams : OracleBlockNumbers}
  {keeper : Address}

include hw hsound

theorem LiquidationHandler.executeLiquidation_keeperOrder
    (h : executeLiquidation env deployment user market collateralToken isLong oracleParams keeper
      w = .ok (u, w')) :
    let position := PositionStoreUtils.get w.dataStore
      (getPositionKey user market collateralToken isLong)
    Nonempty (KeeperOrder env (makeKeeperOrder user market position .Liquidation
      position.sizeInUsd env.blockNumber) w w') := by
  unfold executeLiquidation at h
  obtain ⟨key, w₁, hcreate, h⟩ := Tx.bind_eq_ok.mp h
  obtain ⟨rfl, hw₁⟩ := LiquidationUtils.createLiquidationOrder_eq_ok hcreate
  simp only [↓viewStore_bind_eq_ok] at h
  obtain ⟨params, hload, _, -, h⟩ := h
  exact keeperOrder_exists hw hsound hw₁ hload h

/-- **A liquidation has its reason**, whichever position it updates. -/
theorem LiquidationHandler.executeLiquidation_justified
    (h : executeLiquidation env deployment user market collateralToken isLong oracleParams keeper
      w = .ok (u, w')) {group : PositionGroup} {account : Address}
    (hnames : NamesPosition w.dataStore user market collateralToken isLong group account) :
    Liquidatable env group account w := by
  obtain ⟨keeperOrder⟩ := executeLiquidation_keeperOrder hw hsound h
  obtain ⟨rfl, rfl⟩ := hnames
  exact keeperOrder.liquidatable hsound

/-- A stored position that is liquidated is closed. -/
theorem LiquidationHandler.executeLiquidation_closes {residues' : List Residue}
    (hsound' : (Accounting.of w'.dataStore).Sound residues')
    (h : executeLiquidation env deployment user market collateralToken isLong oracleParams keeper
      w = .ok (u, w'))
    (hmem : PositionGroup.key ⟨market, collateralToken, isLong⟩ user ∈
      positionStore.keys w.dataStore) :
    PositionGroup.key ⟨market, collateralToken, isLong⟩ user ∉ positionStore.keys w'.dataStore := by
  obtain ⟨keeperOrder⟩ := executeLiquidation_keeperOrder hw hsound h
  have hgroup := (PositionGroup.key_inj.mp (hsound.keyed _ hmem)).1
  exact KeeperOrder.closes hsound' rfl hgroup.symm rfl keeperOrder

omit hw hsound in
/-- **A deleveraging has its reason**, and serves it: the profits of the side are smaller
afterwards, and not below what is to be left of them. -/
theorem AdlHandler.executeAdl_justified {sizeDeltaUsd : Nat}
    (h : executeAdl env deployment user market collateralToken isLong sizeDeltaUsd oracleParams
      keeper w = .ok (u, w')) :
    ∃ pnlToPoolFactor nextPnlToPoolFactor,
      AdlRequired env w.dataStore market isLong pnlToPoolFactor ∧
      AdlUtils.getPnlToPoolFactor env w'.dataStore market isLong true = .ok nextPnlToPoolFactor ∧
      nextPnlToPoolFactor < pnlToPoolFactor ∧
      getMinPnlFactorAfterAdl w'.dataStore market isLong ≤ nextPnlToPoolFactor := by
  unfold executeAdl at h
  simp only [↓viewStore_bind_eq_ok, ↓Tx.lift_bind_eq_ok] at h
  obtain ⟨_, hvalid, ⟨shouldAllowAdl, pnlToPoolFactor, maxPnlFactorForAdl⟩, hexceeded, _, hallowed,
    updatedAtBlock, -, h⟩ := h
  obtain ⟨key, w₁, -, h⟩ := Tx.bind_eq_ok.mp h
  simp only [↓viewStore_bind_eq_ok] at h
  obtain ⟨params, -, _, -, h⟩ := h
  obtain ⟨_, w₂, -, h⟩ := Tx.bind_eq_ok.mp h
  simp only [↓viewStore_bind_eq_ok, ↓Tx.lift_bind_eq_ok, ↓readStore_bind_eq_ok, Tx.lift_eq_ok,
    toInt256_eq_ok] at h
  obtain ⟨nextPnlToPoolFactor, hnext, _, hlower, _, ⟨-, rfl⟩, hmin, rfl⟩ := h
  have hlower := Result.revertIf_eq_ok.mp hlower
  have hmin := Result.revertIf_eq_ok.mp hmin
  obtain rfl : shouldAllowAdl = true := by simpa using Result.revertIf_eq_ok.mp hallowed
  exact ⟨pnlToPoolFactor, nextPnlToPoolFactor, ⟨(AdlUtils.validateAdl_eq_ok hvalid).1,
    maxPnlFactorForAdl, hexceeded⟩, hnext, by omega, by omega⟩

end Handlers

-- ---------------------------------------------------------------------------
-- Runs
-- ---------------------------------------------------------------------------

/-- The action is for a position: it executes an order of its account, or there is a reason to
close it. -/
def Action.Threatens (w : World) (group : PositionGroup) (account : Address) : Action → Prop
  | .call _ (.executeOrder key _ _) => (OrderStoreUtils.get w.dataStore key).IsFor group account
  | .call env (.executeLiquidation user market collateralToken isLong _ _) =>
    NamesPosition w.dataStore user market collateralToken isLong group account ∧
      Liquidatable env group account w
  | .call env (.executeAdl user market collateralToken isLong _ _ _) =>
    NamesPosition w.dataStore user market collateralToken isLong group account ∧
      ∃ pnlToPoolFactor, AdlRequired env w.dataStore market isLong pnlToPoolFactor
  | _ => False

/-- What is done to a position without its account is done for a reason. -/
theorem Action.threatens (hw : Settleable deployment w)
    (hsound : (Accounting.of w.dataStore).Sound residues) {action : Action}
    (h : (exchange deployment).next action w w') {group : PositionGroup} {account : Address}
    (hupdates : action.Updates w.dataStore group account) :
    action.Threatens w group account := by
  cases action with
  | call env c =>
    cases c with
    | executeOrder key oracleParams keeper => exact hupdates
    | executeLiquidation user market collateralToken isLong oracleParams keeper =>
      exact ⟨hupdates, LiquidationHandler.executeLiquidation_justified hw hsound h hupdates⟩
    | executeAdl user market collateralToken isLong sizeDeltaUsd oracleParams keeper =>
      obtain ⟨pnlToPoolFactor, _, hrequired, -⟩ := AdlHandler.executeAdl_justified h
      exact ⟨hupdates, pnlToPoolFactor, hrequired⟩
    | _ => exact hupdates
  | createMarket => exact hupdates
  | outside => exact hupdates

/-- **Forced closes are justified.** In every state that is reached, a liquidation closes all of a
stored position, which is liquidatable, and a deleveraging brings down profits that are too large.
Over every run a position stays as it is until an order of its account is executed, or it is
liquidatable when it is liquidated, or the profits of the market are too large when it is
deleveraged. -/
theorem forced_closes (hsane : deployment.Sane) (hreach : (exchange deployment).Reachable w) :
    (∀ (env : Env) (user market collateralToken : Address) (isLong : Bool)
        (oracleParams : OracleBlockNumbers) (keeper : Address) (w' : World),
      LiquidationHandler.executeLiquidation env deployment user market collateralToken isLong
        oracleParams keeper w = .ok ((), w') →
      let group : PositionGroup := ⟨market, collateralToken, isLong⟩
      group.key user ∈ positionStore.keys w.dataStore →
        Liquidatable env group user w ∧ group.key user ∉ positionStore.keys w'.dataStore) ∧
    (∀ (env : Env) (user market collateralToken : Address) (isLong : Bool) (sizeDeltaUsd : Nat)
        (oracleParams : OracleBlockNumbers) (keeper : Address) (w' : World),
      AdlHandler.executeAdl env deployment user market collateralToken isLong sizeDeltaUsd
        oracleParams keeper w = .ok ((), w') →
      ∃ pnlToPoolFactor nextPnlToPoolFactor,
        AdlRequired env w.dataStore market isLong pnlToPoolFactor ∧
        AdlUtils.getPnlToPoolFactor env w'.dataStore market isLong true =
          .ok nextPnlToPoolFactor ∧
        nextPnlToPoolFactor < pnlToPoolFactor ∧
        getMinPnlFactorAfterAdl w'.dataStore market isLong ≤ nextPnlToPoolFactor) ∧
    ∀ (group : PositionGroup) (account : Address) (w' : World),
      (exchange deployment).RunIf (fun action w => ¬ action.Threatens w group account) w w' →
        SamePosition group account w w' := by
  obtain ⟨residues, hsound⟩ := exchange_sound hsane hreach
  have hw := (exchange_escrowed hsane hreach).toSettleable
  refine ⟨?_, ?_, ?_⟩
  · intro env user market collateralToken isLong oracleParams keeper w' h group hmem
    have hnext : (exchange deployment).Reachable w' := hreach.step
      (i := Action.call env (.executeLiquidation user market collateralToken isLong oracleParams
        keeper)) trivial h
    obtain ⟨residues', hsound'⟩ := exchange_sound hsane hnext
    refine ⟨LiquidationHandler.executeLiquidation_justified hw hsound h ?_,
      LiquidationHandler.executeLiquidation_closes hw hsound hsound' h hmem⟩
    have hgroup := (PositionGroup.key_inj.mp (hsound.keyed _ hmem)).1
    exact ⟨rfl, (PositionGroup.mk.injEq ..).mpr ⟨rfl, congrArg (·.collateralToken) hgroup.symm,
      congrArg (·.isLong) hgroup.symm⟩⟩
  · intro env user market collateralToken isLong sizeDeltaUsd oracleParams keeper w' h
    exact AdlHandler.executeAdl_justified h
  · intro group account w' hrun
    refine Machine.RunIf.stable (P := SamePosition group account w) ?_ hreach ⟨Iff.rfl, rfl⟩ hrun
    rintro action w₁ w₂ hreach₁ hnot hnext ⟨hkeys₁, hget₁⟩
    obtain ⟨residues₁, hsound₁⟩ := exchange_sound hsane hreach₁
    have hw₁ := (exchange_escrowed hsane hreach₁).toSettleable
    obtain ⟨hkeys₂, hget₂⟩ := exchange_samePosition hw₁ hsound₁
      (fun hupdates => hnot (Action.threatens hw₁ hsound₁ hnext hupdates)) hnext
    exact ⟨hkeys₂.trans hkeys₁, hget₂.trans hget₁⟩

/-- A position that borrows for long enough is liquidated. -/
def openAndLiquidate : Result (World × World) := do
  let (_, w) ← openLong
  let (_, w') ← (Call.executeLiquidation 9 1 3 true ⟨[1], [1]⟩ 7).run
    (openEnv 100 (60 * 10 ^ 30)) escrowDeployment w
  pure (w, w')

theorem forced_closes_openAndLiquidate :
    ∃ w w', (exchange escrowDeployment).Reachable w ∧
      LiquidationHandler.executeLiquidation (openEnv 100 (60 * 10 ^ 30)) escrowDeployment 9 1 3 true
        ⟨[1], [1]⟩ 7 w = .ok ((), w') ∧
      Liquidatable (openEnv 100 (60 * 10 ^ 30)) ⟨1, 3, true⟩ 9 w ∧
      PositionGroup.key ⟨1, 3, true⟩ 9 ∉ positionStore.keys w'.dataStore := by
  obtain ⟨⟨w, w'⟩, hok, hmem⟩ := (by decide +kernel : openAndLiquidate.Satisfies fun run =>
    PositionGroup.key ⟨1, 3, true⟩ 9 ∈ positionStore.keys run.1.dataStore).exists
  simp only [openAndLiquidate, Result.bind_eq_ok, Result.pure_eq_ok, Prod.mk.injEq] at hok
  obtain ⟨⟨w₁, w₂⟩, hopen, ⟨_, w₃⟩, hliquidate, rfl, rfl⟩ := hok
  simp only [openLong, Result.bind_eq_ok] at hopen
  obtain ⟨w₀, hmarket, htrade⟩ := hopen
  have hreach : (exchange escrowDeployment).Reachable w₂ :=
    trade_reachable (openMarket_reachable hmarket).reachable trivial trivial htrade
  obtain ⟨hliquidation, -, -⟩ := forced_closes escrowDeployment_sane hreach
  exact ⟨w₂, w₃, hreach, hliquidate, hliquidation _ _ _ _ _ _ _ _ hliquidate hmem⟩

end GmxSynthetics
