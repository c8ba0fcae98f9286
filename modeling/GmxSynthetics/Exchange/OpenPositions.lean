import GmxSynthetics.Exchange.ExchangeAccounting
import GmxSynthetics.Exchange.VaultSafety
import GmxSynthetics.Position.DecreaseSums

/-!
# The aggregates account for the open positions

In every run of the exchange open interest, open interest in tokens, collateral sums and the
borrowing aggregates are sums over the positions that are open, and over the sizes that removed
positions have left behind.

* `exchange_sound` — the invariant, and the same without sizes left behind for the runs that leave
  none;
* `openInterest_accounted` — in such a run the open interest is that of the open positions;
* `tokensAndCollateral_accounted` — the other two sums are, in every run;
* `borrowing_accounted` — borrowing fees can be computed for every open position;
* `pendingBorrowing_covered` — and for a whole side, where halving its open interest loses nothing.
-/

namespace GmxSynthetics

open Evm MarketUtils BaseOrderUtils PositionUtils

variable {deployment : Deployment} {w w' : World} {residues : List Residue}

-- ---------------------------------------------------------------------------
-- Steps
-- ---------------------------------------------------------------------------

/-- The step closes a part of a long position and leaves a size behind that is worth less than one
of its tokens. -/
def Action.LeavesSize (w : World) : Action → Prop
  | .call env made => made.LeavesSize env w.dataStore
  | _ => False

/-- A new market is accounted for. -/
theorem MarketFactory.createMarket_sound {marketToken indexToken longToken shortToken : Address}
    {marketType : Nat} {market : Market} (hsound : (Accounting.of w.dataStore).Sound residues)
    (hnew : marketToken ∉ w.dataStore.addressSets (.base .MARKET_LIST))
    (h : createMarket marketToken indexToken longToken shortToken marketType w =
      .ok (market, w')) : (Accounting.of w'.dataStore).Sound residues := by
  have hsame := createMarket_sameOff h
  refine hsound.extend ?_ ?_
  · intro key hkey hlisted
    show MarketStoreUtils.get w'.dataStore key = MarketStoreUtils.get w.dataStore key
    rw [createMarket_market h key, if_neg]
    rintro rfl
    change (MarketStoreUtils.get w.dataStore key).marketToken = key at hlisted
    rw [MarketStoreUtils.get_of_not_mem hnew] at hlisted
    exact hkey hlisted.symm
  · have hkeys : w'.dataStore.bytes32Sets (.base .POSITION_LIST) =
        w.dataStore.bytes32Sets (.base .POSITION_LIST) :=
      hsame.bytes32Set (.constant .POSITION_LIST) (by decide) _ rfl
    have hposition : PositionStoreUtils.get w'.dataStore = PositionStoreUtils.get w.dataStore := by
      funext key
      by_cases hmem : key ∈ (Accounting.of w.dataStore).keys
      · have hslot : key.slot ∉ [Slot.constant .MARKET_LIST, .constant .MARKET_SALT, .market] := by
          rw [hsound.slot_eq key hmem]
          decide
        exact positionStore.get_sameOff hsame (by decide) hslot
      · rw [PositionStoreUtils.get_of_not_mem hmem]
        apply PositionStoreUtils.get_of_not_mem
        rw [hkeys]
        exact hmem
    have haggregate : ∀ x : Aggregate, w'.dataStore.getUint x.key = w.dataStore.getUint x.key := by
      intro x
      cases x with
      | openInterest => exact hsame.uint (.constant .OPEN_INTEREST) (by decide) _ rfl
      | openInterestInTokens =>
        exact hsame.uint (.constant .OPEN_INTEREST_IN_TOKENS) (by decide) _ rfl
      | collateralSum => exact hsame.uint (.constant .COLLATERAL_SUM) (by decide) _ rfl
      | totalBorrowing => exact hsame.uint (.constant .TOTAL_BORROWING) (by decide) _ rfl
    have hfactor : (fun side : MarketSide => getCumulativeBorrowingFactor w'.dataStore side.market
        side.isLong) = fun side => getCumulativeBorrowingFactor w.dataStore side.market
          side.isLong :=
      funext fun _ => hsame.uint (.constant .CUMULATIVE_BORROWING_FACTOR) (by decide) _ rfl
    unfold Accounting.of
    rw [hkeys, hposition, hfactor]
    simp only [haggregate]

/-- **Every step is accounted for.** -/
theorem exchange_step_sound (hw : Settleable deployment w)
    (hsound : (Accounting.of w.dataStore).Sound residues) {action : Action}
    (h : (exchange deployment).next action w w') :
    ∃ left, (Accounting.of w'.dataStore).Sound (left ++ residues) ∧
      (¬ action.LeavesSize w → ∀ r ∈ left, r.sizeInUsd = 0) := by
  cases action with
  | call env call =>
    exact hsound.step (Call.stepsTo hw.requestKeys hw.marketsKeyed hsound h)
  | createMarket marketToken indexToken longToken shortToken marketType =>
    obtain ⟨⟨-, hnew, -⟩, market, hcreate⟩ := h
    exact ⟨[], MarketFactory.createMarket_sound hsound hnew hcreate, by simp⟩
  | outside =>
    obtain ⟨slots, hsame, hslots⟩ := h.writes
    have hview := Accounting.of_sameOff hsound hsame fun slot hslot =>
      hslots slot (List.mem_append_left _ hslot)
    rw [hview]
    exact ⟨[], hsound, by simp⟩

/-- Nothing is open in a fresh exchange. -/
theorem Fresh.sound (h : Fresh deployment w) : (Accounting.of w.dataStore).Sound [] := by
  have hkeys : (Accounting.of w.dataStore).keys = [] := h.positions
  have hnone : ∀ key, key ∉ (Accounting.of w.dataStore).keys := by
    rw [hkeys]
    exact fun key => List.not_mem_nil
  have hsum : ∀ (p : Position → Prop) [DecidablePred p] (f : Position → Nat),
      (Accounting.of w.dataStore).sumOver p f = 0 := by
    intro p _ f
    rw [Accounting.sumOver_eq, hkeys]
    rfl
  exact
    { nodup := by
        rw [hkeys]
        exact List.nodup_nil
      absent := fun key hmem => PositionStoreUtils.get_of_not_mem hmem
      keyed := fun key hmem => absurd hmem (hnone key)
      account_ne := fun key hmem => absurd hmem (hnone key)
      isCollateral := fun key hmem => absurd hmem (hnone key)
      sizeInUsd_pos := fun key hmem => absurd hmem (hnone key)
      sizeInTokens_pos := fun key hmem => absurd hmem (hnone key)
      borrowingFactor_le := fun key hmem => absurd hmem (hnone key)
      residue_isCollateral := fun _ hmem => absurd hmem List.not_mem_nil
      residue_le := fun _ hmem => absurd hmem List.not_mem_nil
      openInterest := fun g => (h.aggregates (.openInterest g)).trans (by rw [hsum]; rfl)
      openInterestInTokens := fun g =>
        (h.aggregates (.openInterestInTokens g)).trans (hsum _ _).symm
      collateralSum := fun g => (h.aggregates (.collateralSum g)).trans (hsum _ _).symm
      totalBorrowing := fun side =>
        (h.aggregates (.totalBorrowing side)).trans (by rw [hsum]; rfl) }

-- ---------------------------------------------------------------------------
-- Runs
-- ---------------------------------------------------------------------------

/-- **The invariant.** -/
theorem exchange_sound (hsane : deployment.Sane) (h : (exchange deployment).Reachable w) :
    ∃ residues, (Accounting.of w.dataStore).Sound residues := by
  refine Machine.Reachable.invariant
    (P := fun w => ∃ residues, (Accounting.of w.dataStore).Sound residues)
    (fun _ hinit => ⟨[], Fresh.sound hinit⟩) ?_ h
  rintro action w w' hreach hnext ⟨residues, hsound⟩
  have hw := (exchange_escrowed hsane hreach).toSettleable
  obtain ⟨left, hsound', -⟩ := exchange_step_sound hw hsound hnext
  exact ⟨left ++ residues, hsound'⟩

/-- Where no step leaves a size behind, none is left behind. -/
theorem exchange_sound_noneLeft (hsane : deployment.Sane)
    (h : (exchange deployment).ReachableIf (fun action w => ¬ action.LeavesSize w) w) :
    ∃ residues, (Accounting.of w.dataStore).Sound residues ∧ ∀ r ∈ residues, r.sizeInUsd = 0 := by
  refine Machine.ReachableIf.invariant
    (P := fun w => ∃ residues, (Accounting.of w.dataStore).Sound residues ∧
      ∀ r ∈ residues, r.sizeInUsd = 0)
    (fun _ hinit => ⟨[], Fresh.sound hinit, by simp⟩) ?_ h
  rintro action w w' hreach hguard hnext ⟨residues, hsound, hzero⟩
  have hw := (exchange_escrowed hsane hreach).toSettleable
  obtain ⟨left, hsound', hleft⟩ := exchange_step_sound hw hsound hnext
  refine ⟨left ++ residues, hsound', ?_⟩
  intro r hr
  rcases List.mem_append.mp hr with hr | hr
  · exact hleft hguard r hr
  · exact hzero r hr

-- ---------------------------------------------------------------------------
-- Open interest
-- ---------------------------------------------------------------------------

/-- **Open interest.** In a run that leaves no size behind, the open interest of each group is the
sum of the sizes of its open positions. -/
theorem openInterest_accounted (hsane : deployment.Sane)
    (h : (exchange deployment).ReachableIf (fun action w => ¬ action.LeavesSize w) w)
    (g : PositionGroup) :
    w.dataStore.getUint (Keys.openInterestKey g.market g.collateralToken g.isLong) =
      (Accounting.of w.dataStore).sumOver (·.group = g) (·.sizeInUsd) := by
  obtain ⟨residues, hsound, hzero⟩ := exchange_sound_noneLeft hsane h
  exact hsound.openInterest_eq hzero g

/-- The settings of a market, and the tokens for a deposit into it and for an order. -/
def openWorld : World where
  dataStore :=
    let dataStore := DataStore.empty.setAddress (.base .WNT) 5
    let dataStore := dataStore.setUint (Keys.maxPoolAmountKey 1 3) (10 ^ 20)
    let dataStore := dataStore.setUint (Keys.maxPoolAmountKey 1 4) (10 ^ 20)
    let dataStore := dataStore.setUint (Keys.maxOpenInterestKey 1 true) (10 ^ 40)
    let dataStore := dataStore.setUint (Keys.reserveFactorKey 1 true) (10 ^ 30)
    let dataStore := dataStore.setUint (Keys.borrowingFactorKey 1 true) (5 * 10 ^ 31)
    let dataStore := dataStore.setUint (Keys.borrowingExponentFactorKey 1 true) (10 ^ 30)
    let dataStore := dataStore.setUint (Keys.tokenTransferGasLimit 3) 1
    dataStore.setUint (Keys.tokenTransferGasLimit 4) 1
  balances token account :=
    if token = 3 ∨ token = 4 then
      if account = 12 then 10000 else if account = 11 then 1000 else 0
    else 0
  totalSupply _ := 0
  tokenBalances _ _ := 0

theorem openWorld_fresh : Fresh escrowDeployment openWorld where
  markets := rfl
  positions := rfl
  requests kind := by cases kind <;> rfl
  aggregates x := by cases x <;> rfl
  covered _ _ := Nat.zero_le _

/-- Both tokens of the market cost a dollar. -/
def openEnv (timestamp indexPrice : Nat) : Env := Env.plain timestamp fun token =>
  if token = 2 then ⟨indexPrice, indexPrice⟩ else ⟨10 ^ 30, 10 ^ 30⟩

def openDeposit (shortToken : Address) : DepositUtils.CreateDepositParams where
  receiver := 9
  callbackContract := 0
  uiFeeReceiver := 0
  market := 1
  initialLongToken := 3
  initialShortToken := shortToken
  longTokenSwapPath := []
  shortTokenSwapPath := []
  minMarketTokens := 0
  shouldUnwrapNativeToken := false
  executionFee := 0
  callbackGasLimit := 0

/-- An order on a long position, at any price. -/
def openOrder (orderType : OrderType) (sizeDeltaUsd : Nat) : CreateOrderParams where
  receiver := 9
  callbackContract := 0
  uiFeeReceiver := 0
  market := 1
  initialCollateralToken := 3
  swapPath := []
  sizeDeltaUsd := sizeDeltaUsd
  initialCollateralDeltaAmount := 0
  triggerPrice := 0
  acceptablePrice := if isIncreaseOrder orderType then 10 ^ 33 else 0
  executionFee := 0
  callbackGasLimit := 0
  minOutputAmount := 0
  orderType := orderType
  decreasePositionSwapType := .NoSwap
  isLong := true
  shouldUnwrapNativeToken := false

/-- A market is created and deposited into. -/
def openMarket (shortToken : Address) : Result World := do
  let env := openEnv 1 (10 ^ 30)
  let (_, w) ← MarketFactory.createMarket 1 2 3 shortToken 0 openWorld
  let (_, w) ← (Call.createDeposit 9 (openDeposit shortToken)).run env escrowDeployment w
  let (_, w) ← (Call.executeDeposit (.request 1) ⟨[1], [1]⟩ 7).run env escrowDeployment w
  pure w

theorem openMarket_reachable {shortToken : Address} (h : openMarket shortToken = .ok w) :
    (exchange escrowDeployment).ReachableIf (fun action w => ¬ action.LeavesSize w) w := by
  simp only [openMarket, Result.bind_eq_ok, Result.pure_eq_ok] at h
  obtain ⟨⟨market, w₁⟩, hmarket, ⟨_, w₂⟩, hcreate, ⟨_, w₃⟩, hexecute, rfl⟩ := h
  have h₀ : (exchange escrowDeployment).ReachableIf (fun action w => ¬ action.LeavesSize w)
      openWorld := .init openWorld_fresh
  have hvault : ∀ kind : RequestKind, (1 : Address) ≠ kind.vault escrowDeployment := by
    intro kind
    cases kind <;> decide
  have h₁ := h₀.step (i := Action.createMarket 1 2 3 shortToken 0) not_false
    ⟨⟨by decide, List.not_mem_nil, hvault⟩, market, hmarket⟩
  have h₂ := h₁.step (i := Action.call _ (.createDeposit 9 (openDeposit shortToken))) not_false
    hcreate
  exact h₂.step (i := Action.call _ (.executeDeposit (.request 1) ⟨[1], [1]⟩ 7)) not_false hexecute

/-- An order is created and executed, in one block. -/
def trade (env : Env) (account : Address) (params : CreateOrderParams) (nonce : Nat) (w : World) :
    Result (World × World) := do
  let (_, w₁) ← (Call.createOrder account params).run env escrowDeployment w
  let (_, w₂) ← (Call.executeOrder (.request nonce) ⟨[env.blockNumber], [env.blockNumber]⟩ 7).run
    env escrowDeployment w₁
  pure (w₁, w₂)

theorem trade_reachable {env : Env} {account : Address} {params : CreateOrderParams} {nonce : Nat}
    {w₁ w₂ : World} {guard : Action → World → Prop}
    (hw : (exchange escrowDeployment).ReachableIf guard w)
    (hcreate : guard (.call env (.createOrder account params)) w)
    (hexecute : guard (.call env
      (.executeOrder (.request nonce) ⟨[env.blockNumber], [env.blockNumber]⟩ 7)) w₁)
    (h : trade env account params nonce w = .ok (w₁, w₂)) :
    (exchange escrowDeployment).ReachableIf guard w₂ := by
  simp only [trade, Result.bind_eq_ok, Result.pure_eq_ok, Prod.mk.injEq] at h
  obtain ⟨⟨_, _⟩, hcreated, ⟨_, _⟩, hexecuted, rfl, rfl⟩ := h
  exact (hw.step hcreate hcreated).step hexecute hexecuted

/-- A position of one token is opened for 100 dollars. -/
def openLong : Result (World × World) := do
  let w ← openMarket 4
  trade (openEnv 1 (60 * 10 ^ 30)) 9 (openOrder .MarketIncrease (100 * 10 ^ 30)) 2 w

theorem openLong_reachable {w₁ w₂ : World} (h : openLong = .ok (w₁, w₂))
    (hincrease : isDecreaseOrder (OrderStoreUtils.get w₁.dataStore (.request 2)).orderType =
      false) :
    (exchange escrowDeployment).ReachableIf (fun action w => ¬ action.LeavesSize w) w₂ := by
  simp only [openLong, Result.bind_eq_ok] at h
  obtain ⟨w, hmarket, htrade⟩ := h
  refine trade_reachable (openMarket_reachable hmarket) not_false ?_ htrade
  rintro ⟨hdecrease, -⟩
  exact absurd (hincrease.symm.trans hdecrease) (by decide)

theorem openInterest_accounted_openLong :
    ∃ w, (exchange escrowDeployment).ReachableIf (fun action w => ¬ action.LeavesSize w) w ∧
      (Accounting.of w.dataStore).sumOver (·.group = ⟨1, 3, true⟩) (·.sizeInUsd) =
        100 * 10 ^ 30 := by
  obtain ⟨⟨w₁, w₂⟩, hok, hincrease, hinterest⟩ := (by decide +kernel :
    openLong.Satisfies fun run =>
      isDecreaseOrder (OrderStoreUtils.get run.1.dataStore (.request 2)).orderType = false ∧
      run.2.dataStore.getUint (Keys.openInterestKey 1 3 true) = 100 * 10 ^ 30).exists
  have hreach := openLong_reachable hok hincrease
  have haccounted := openInterest_accounted escrowDeployment_sane hreach ⟨1, 3, true⟩
  exact ⟨w₂, hreach, haccounted.symm.trans hinterest⟩

/-- Half of the size of that position is closed. -/
def openAndHalve : Result World := do
  let env := openEnv 1 (60 * 10 ^ 30)
  let w ← openMarket 4
  let (_, w) ← trade env 9 (openOrder .MarketIncrease (100 * 10 ^ 30)) 2 w
  let (_, w) ← trade env 9 (openOrder .MarketDecrease (50 * 10 ^ 30)) 3 w
  pure w

/-- That takes its one token: the position is removed, and half of its size stays in the open
interest. -/
theorem openInterest_leftBehind :
    ∃ w, (exchange escrowDeployment).Reachable w ∧
      w.dataStore.bytes32Sets (.base .POSITION_LIST) = [] ∧
      (Accounting.of w.dataStore).sumOver (·.group = ⟨1, 3, true⟩) (·.sizeInUsd) = 0 ∧
      w.dataStore.getUint (Keys.openInterestKey 1 3 true) = 50 * 10 ^ 30 := by
  obtain ⟨w, hok, hclosed⟩ := (by decide +kernel : openAndHalve.Satisfies fun w =>
    w.dataStore.bytes32Sets (.base .POSITION_LIST) = [] ∧
    (Accounting.of w.dataStore).sumOver (·.group = ⟨1, 3, true⟩) (·.sizeInUsd) = 0 ∧
    w.dataStore.getUint (Keys.openInterestKey 1 3 true) = 50 * 10 ^ 30).exists
  simp only [openAndHalve, Result.bind_eq_ok, Result.pure_eq_ok] at hok
  obtain ⟨w₁, hmarket, ⟨_, w₂⟩, hincrease, ⟨_, w₃⟩, hdecrease, rfl⟩ := hok
  have hopen : (exchange escrowDeployment).Reachable w₂ :=
    trade_reachable (openMarket_reachable hmarket).reachable trivial trivial hincrease
  exact ⟨w₃, trade_reachable hopen trivial trivial hdecrease, hclosed⟩

-- ---------------------------------------------------------------------------
-- Tokens and collateral
-- ---------------------------------------------------------------------------

/-- What is handed to the decrease of an open position is what is stored. -/
theorem stored_of_open (hsound : (Accounting.of w.dataStore).Sound residues)
    {params : UpdatePositionParams}
    (hmem : params.positionKey ∈ w.dataStore.bytes32Sets (.base .POSITION_LIST))
    (hposition : params.position = PositionStoreUtils.get w.dataStore params.positionKey)
    (hside : params.order.isLong = params.position.isLong) : params.Stored w.dataStore where
  positionKey := by
    rw [hposition]
    exact hsound.keyed _ hmem
  account_ne := by
    rw [hposition]
    exact hsound.account_ne _ hmem
  isLong := hside
  isCollateral := by
    rw [hposition]
    exact hsound.isCollateral _ hmem
  sizeInUsd := by rw [hposition]
  sizeInTokens := by rw [hposition]
  collateralAmount := by rw [hposition]
  borrowingFactor := by rw [hposition]

/-- **Tokens and collateral.** In every run the open interest in tokens and the collateral sum of
each group are the sums over its open positions. So what a decrease of an open position is about to
take off them, when it has stored or removed the position, is there. -/
theorem tokensAndCollateral_accounted (hsane : deployment.Sane)
    (h : (exchange deployment).Reachable w) :
    (∀ g : PositionGroup,
      w.dataStore.getUint (Keys.openInterestInTokensKey g.market g.collateralToken g.isLong) =
        (Accounting.of w.dataStore).sumOver (·.group = g) (·.sizeInTokens) ∧
      w.dataStore.getUint (Keys.collateralSumKey g.market g.collateralToken g.isLong) =
        (Accounting.of w.dataStore).sumOver (·.group = g) (·.collateralAmount)) ∧
    ∀ (env : Env) (params : UpdatePositionParams),
      params.positionKey ∈ w.dataStore.bytes32Sets (.base .POSITION_LIST) →
      params.position = PositionStoreUtils.get w.dataStore params.positionKey →
      params.order.isLong = params.position.isLong →
      ∀ params' prices fees position values collateralTaken w',
        DecreasePositionUtils.untilSums env params w =
          .ok ((params', prices, fees, position, values, collateralTaken), w') →
        collateralTaken ≤ w'.dataStore.getUint
          (Keys.collateralSumKey position.market position.collateralToken position.isLong) ∧
        values.sizeDeltaInTokens ≤ w'.dataStore.getUint
          (Keys.openInterestInTokensKey position.market position.collateralToken
            position.isLong) := by
  obtain ⟨residues, hsound⟩ := exchange_sound hsane h
  refine ⟨fun g => ⟨hsound.openInterestInTokens g, hsound.collateralSum g⟩, ?_⟩
  intro env params hmem hposition hside params' prices fees position values collateralTaken w' hrun
  exact DecreasePositionUtils.untilSums_covered (stored_of_open hsound hmem hposition hside) hsound
    hrun

/-- The position of one token and 1000 tokens of collateral is the only one. -/
theorem tokensAndCollateral_accounted_openLong :
    ∃ w, (exchange escrowDeployment).Reachable w ∧
      (Accounting.of w.dataStore).sumOver (·.group = ⟨1, 3, true⟩) (·.sizeInTokens) = 1 ∧
      (Accounting.of w.dataStore).sumOver (·.group = ⟨1, 3, true⟩) (·.collateralAmount) =
        1000 := by
  obtain ⟨⟨w₁, w₂⟩, hok, hincrease, htokens, hcollateral⟩ := (by decide +kernel :
    openLong.Satisfies fun run =>
      isDecreaseOrder (OrderStoreUtils.get run.1.dataStore (.request 2)).orderType = false ∧
      run.2.dataStore.getUint (Keys.openInterestInTokensKey 1 3 true) = 1 ∧
      run.2.dataStore.getUint (Keys.collateralSumKey 1 3 true) = 1000).exists
  have hreach := (openLong_reachable hok hincrease).reachable
  obtain ⟨hsums, -⟩ := tokensAndCollateral_accounted escrowDeployment_sane hreach
  obtain ⟨htokens', hcollateral'⟩ := hsums ⟨1, 3, true⟩
  exact ⟨w₂, hreach, htokens'.symm.trans htokens, hcollateral'.symm.trans hcollateral⟩

-- ---------------------------------------------------------------------------
-- Borrowing
-- ---------------------------------------------------------------------------

namespace MarketUtils

/-- A size that the aggregate covers can be taken out of it. -/
theorem getNextTotalBorrowing_of_le {dataStore : DataStore} {market : Address} {isLong : Bool}
    {sizeInUsd borrowingFactor : Nat}
    (hle : borrowed sizeInUsd borrowingFactor ≤ getTotalBorrowing dataStore market isLong)
    (nextSizeInUsd nextBorrowingFactor : Nat) :
    getNextTotalBorrowing dataStore market isLong sizeInUsd borrowingFactor nextSizeInUsd
      nextBorrowingFactor = (do
        let previous ← Precision.applyFactor sizeInUsd borrowingFactor
        let next ← Precision.applyFactor nextSizeInUsd nextBorrowingFactor
        add (getTotalBorrowing dataStore market isLong - previous) next) := by
  unfold getNextTotalBorrowing
  refine Result.bind_congr fun previous hprevious => ?_
  rw [← applyFactor_eq_borrowed hprevious] at hle
  exact sub_bind_of_le hle

theorem getBorrowingFees_of_le {dataStore : DataStore} {position : Position}
    (hle : position.borrowingFactor ≤
      getCumulativeBorrowingFactor dataStore position.market position.isLong) :
    getBorrowingFees dataStore position = Precision.applyFactor position.sizeInUsd
      (getCumulativeBorrowingFactor dataStore position.market position.isLong -
        position.borrowingFactor) := by
  exact (Result.revertIf_bind_of_not (Nat.not_lt.mpr hle)).trans (sub_bind_of_le hle)

/-- The factor of a side only grows. -/
theorem le_getNextCumulativeBorrowingFactor {env : Env} {dataStore : DataStore} {market : Market}
    {prices : MarketPrices} {isLong : Bool} {next delta : Nat}
    (h : getNextCumulativeBorrowingFactor env dataStore market prices isLong =
      .ok (next, delta)) :
    getCumulativeBorrowingFactor dataStore market.marketToken isLong ≤ next := by
  simp only [getNextCumulativeBorrowingFactor, Result.bind_eq_ok, add_eq_ok, mul_eq_ok,
    Result.pure_eq_ok, Prod.mk.injEq] at h
  obtain ⟨_, -, _, -, _, -, _, ⟨-, rfl⟩, rfl, -⟩ := h
  exact Nat.le_add_right _ _

theorem getNextBorrowingFees_of_le {dataStore : DataStore} {position : Position} {market : Market}
    (hmarket : market.marketToken = position.market)
    (hle : position.borrowingFactor ≤
      getCumulativeBorrowingFactor dataStore position.market position.isLong)
    (env : Env) (prices : MarketPrices) :
    getNextBorrowingFees env dataStore position market prices = (do
      let (next, _) ←
        getNextCumulativeBorrowingFactor env dataStore market prices position.isLong
      Precision.applyFactor position.sizeInUsd (next - position.borrowingFactor)) := by
  unfold getNextBorrowingFees
  refine Result.bind_congr ?_
  rintro ⟨next, delta⟩ hnext
  have hgrown := le_getNextCumulativeBorrowingFactor hnext
  rw [hmarket] at hgrown
  have hle' : position.borrowingFactor ≤ next := hle.trans hgrown
  exact (Result.revertIf_bind_of_not (Nat.not_lt.mpr hle')).trans (sub_bind_of_le hle')

end MarketUtils

/-- **Borrowing.** In every run no open position is ahead of the borrowing factor of its side, and
the borrowing aggregate of a side covers its open positions. So an open position can always be
taken out of the aggregate, and its fees are what it owes since its last update. -/
theorem borrowing_accounted (hsane : deployment.Sane) (h : (exchange deployment).Reachable w) :
    (∀ side : MarketSide, (Accounting.of w.dataStore).sumOver (·.group.side = side)
        (fun position => borrowed position.sizeInUsd position.borrowingFactor) ≤
      getTotalBorrowing w.dataStore side.market side.isLong) ∧
    ∀ key ∈ w.dataStore.bytes32Sets (.base .POSITION_LIST),
      let position := PositionStoreUtils.get w.dataStore key
      let cumulative :=
        getCumulativeBorrowingFactor w.dataStore position.market position.isLong
      let total := getTotalBorrowing w.dataStore position.market position.isLong
      position.borrowingFactor ≤ cumulative ∧
      (∀ nextSizeInUsd nextBorrowingFactor : Nat,
        getNextTotalBorrowing w.dataStore position.market position.isLong position.sizeInUsd
          position.borrowingFactor nextSizeInUsd nextBorrowingFactor = (do
            let previous ← Precision.applyFactor position.sizeInUsd position.borrowingFactor
            let next ← Precision.applyFactor nextSizeInUsd nextBorrowingFactor
            add (total - previous) next)) ∧
      getBorrowingFees w.dataStore position =
        Precision.applyFactor position.sizeInUsd (cumulative - position.borrowingFactor) ∧
      ∀ (env : Env) (market : Market) (prices : MarketPrices),
        market.marketToken = position.market →
        getNextBorrowingFees env w.dataStore position market prices = (do
          let (next, _) ←
            getNextCumulativeBorrowingFactor env w.dataStore market prices position.isLong
          Precision.applyFactor position.sizeInUsd (next - position.borrowingFactor)) := by
  obtain ⟨residues, hsound⟩ := exchange_sound hsane h
  have htotal : ∀ side : MarketSide, (Accounting.of w.dataStore).sumOver (·.group.side = side)
      (fun position => borrowed position.sizeInUsd position.borrowingFactor) ≤
        getTotalBorrowing w.dataStore side.market side.isLong := by
    intro side
    have hsum := hsound.totalBorrowing side
    change getTotalBorrowing w.dataStore side.market side.isLong = _ at hsum
    omega
  refine ⟨htotal, ?_⟩
  intro key hkey position cumulative total
  have hfactor : position.borrowingFactor ≤ cumulative := hsound.borrowingFactor_le key hkey
  have hmember := Accounting.le_sumOver (a := Accounting.of w.dataStore)
    (p := fun p => p.group.side = position.group.side)
    (fun p => borrowed p.sizeInUsd p.borrowingFactor) hkey rfl
  have hborrowed : borrowed position.sizeInUsd position.borrowingFactor ≤ total :=
    hmember.trans (htotal position.group.side)
  refine ⟨hfactor, ?_, ?_, ?_⟩
  · exact getNextTotalBorrowing_of_le hborrowed
  · exact getBorrowingFees_of_le hfactor
  · exact fun env market prices hmarket => getNextBorrowingFees_of_le hmarket hfactor env prices

/-- The position can be taken out of the aggregate. -/
theorem borrowing_accounted_openLong :
    ∃ w, (exchange escrowDeployment).Reachable w ∧
      .position 9 1 3 true ∈ w.dataStore.bytes32Sets (.base .POSITION_LIST) ∧
      (PositionStoreUtils.get w.dataStore (.position 9 1 3 true)).borrowingFactor ≤
        getCumulativeBorrowingFactor w.dataStore
          (PositionStoreUtils.get w.dataStore (.position 9 1 3 true)).market
          (PositionStoreUtils.get w.dataStore (.position 9 1 3 true)).isLong := by
  obtain ⟨⟨w₁, w₂⟩, hok, hincrease, hmem⟩ := (by decide +kernel :
    openLong.Satisfies fun run =>
      isDecreaseOrder (OrderStoreUtils.get run.1.dataStore (.request 2)).orderType = false ∧
      .position 9 1 3 true ∈ run.2.dataStore.bytes32Sets (.base .POSITION_LIST)).exists
  have hreach := (openLong_reachable hok hincrease).reachable
  exact ⟨w₂, hreach, hmem, ((borrowing_accounted escrowDeployment_sane hreach).2 _ hmem).1⟩

-- ---------------------------------------------------------------------------
-- Pending borrowing fees
-- ---------------------------------------------------------------------------

namespace MarketUtils

/-- The open interest of a side is what its two entries hold, unless an entry is halved that cannot
be. -/
theorem getOpenInterest_eq_charged (hsound : (Accounting.of w.dataStore).Sound residues)
    {key : Address} {isLong : Bool} {openInterest : Nat}
    (hmarket : (MarketStoreUtils.get w.dataStore key).marketToken = key)
    (h : getOpenInterest w.dataStore (MarketStoreUtils.get w.dataStore key) isLong =
      .ok openInterest)
    (heven : (MarketStoreUtils.get w.dataStore key).longToken =
        (MarketStoreUtils.get w.dataStore key).shortToken →
      2 ∣ w.dataStore.getUint (Keys.openInterestKey key
        (MarketStoreUtils.get w.dataStore key).longToken isLong)) :
    openInterest = (Accounting.of w.dataStore).chargedSize residues ⟨key, isLong⟩ := by
  simp only [getOpenInterest, getOpenInterestForCollateral, add_eq_ok, hmarket] at h
  obtain ⟨-, rfl⟩ := h
  by_cases hsame : (MarketStoreUtils.get w.dataStore key).longToken =
      (MarketStoreUtils.get w.dataStore key).shortToken
  · rw [hsound.chargedSize_eq_of_sameToken ⟨key, isLong⟩ hsame]
    obtain ⟨half, hhalf⟩ := heven hsame
    rw [getPoolDivisor, if_pos hsame, ← hsame, hhalf]
    change _ = w.dataStore.getUint (Keys.openInterestKey key
      (MarketStoreUtils.get w.dataStore key).longToken isLong)
    rw [hhalf]
    omega
  · rw [hsound.chargedSize_eq ⟨key, isLong⟩ hsame, getPoolDivisor, if_neg hsame, Nat.div_one,
      Nat.div_one]
    rfl

end MarketUtils

/-- **Pending borrowing fees.** In every run the borrowing aggregate of a side is covered by its
open interest at the factor of any block, where the tokens of the market differ or the entry that
is halved is even. So the fees that are pending can be computed. -/
theorem pendingBorrowing_covered (hsane : deployment.Sane) (h : (exchange deployment).Reachable w)
    {market : Market} {key : Address} (hmarket : MarketStoreUtils.get w.dataStore key = market)
    (hlisted : market.marketToken ≠ 0) {isLong : Bool}
    (heven : market.longToken = market.shortToken → 2 ∣ w.dataStore.getUint
      (Keys.openInterestKey market.marketToken market.longToken isLong))
    (env : Env) (prices : MarketPrices) :
    (∀ openInterest next delta : Nat, getOpenInterest w.dataStore market isLong = .ok openInterest →
      getNextCumulativeBorrowingFactor env w.dataStore market prices isLong = .ok (next, delta) →
      getTotalBorrowing w.dataStore market.marketToken isLong ≤ openInterest * next / 10 ^ 30) ∧
    getTotalPendingBorrowingFees env w.dataStore market prices isLong = (do
      let openInterest ← getOpenInterest w.dataStore market isLong
      let (next, _) ← getNextCumulativeBorrowingFactor env w.dataStore market prices isLong
      let product ← mul openInterest next
      pure (product / 10 ^ 30 - getTotalBorrowing w.dataStore market.marketToken isLong)) := by
  obtain ⟨residues, hsound⟩ := exchange_sound hsane h
  have hkeyed := (exchange_escrowed hsane h).marketsKeyed key (by rw [hmarket]; exact hlisted)
  rw [hmarket] at hkeyed
  have hcovered : ∀ openInterest next delta : Nat,
      getOpenInterest w.dataStore market isLong = .ok openInterest →
      getNextCumulativeBorrowingFactor env w.dataStore market prices isLong = .ok (next, delta) →
      getTotalBorrowing w.dataStore market.marketToken isLong ≤
        openInterest * next / 10 ^ 30 := by
    intro openInterest next delta hinterest hnext
    have hgrown := le_getNextCumulativeBorrowingFactor hnext
    have hcharged : openInterest =
        (Accounting.of w.dataStore).chargedSize residues ⟨key, isLong⟩ := by
      subst hmarket
      rw [hkeyed] at heven
      exact getOpenInterest_eq_charged hsound hkeyed hinterest heven
    rw [hcharged, hkeyed]
    rw [hkeyed] at hgrown
    exact hsound.totalBorrowing_le ⟨key, isLong⟩ hgrown
  refine ⟨hcovered, ?_⟩
  unfold getTotalPendingBorrowingFees
  refine Result.bind_congr fun openInterest hinterest => Result.bind_congr ?_
  rintro ⟨next, delta⟩ hnext
  refine Result.bind_congr fun product hproduct => ?_
  obtain ⟨-, rfl⟩ := mul_eq_ok.mp hproduct
  have hle := hcovered openInterest next delta hinterest hnext
  show sub (openInterest * next / 10 ^ 30) _ = _
  exact sub_eq_ok.mpr ⟨hle, rfl⟩

/-- The fees that the position owes a second later are pending. -/
theorem pendingBorrowing_covered_openLong :
    ∃ w, (exchange escrowDeployment).Reachable w ∧
      getTotalPendingBorrowingFees (openEnv 2 (60 * 10 ^ 30)) w.dataStore ⟨1, 2, 3, 4⟩
        ⟨⟨60 * 10 ^ 30, 60 * 10 ^ 30⟩, ⟨10 ^ 30, 10 ^ 30⟩, ⟨10 ^ 30, 10 ^ 30⟩⟩ true =
          .ok (30 * 10 ^ 30) := by
  obtain ⟨⟨w₁, w₂⟩, hok, hincrease, hmarket, hfees⟩ := (by decide +kernel :
    openLong.Satisfies fun run =>
      isDecreaseOrder (OrderStoreUtils.get run.1.dataStore (.request 2)).orderType = false ∧
      MarketStoreUtils.get run.2.dataStore 1 = ⟨1, 2, 3, 4⟩ ∧
      (do
        let prices : MarketPrices :=
          ⟨⟨60 * 10 ^ 30, 60 * 10 ^ 30⟩, ⟨10 ^ 30, 10 ^ 30⟩, ⟨10 ^ 30, 10 ^ 30⟩⟩
        let openInterest ← getOpenInterest run.2.dataStore ⟨1, 2, 3, 4⟩ true
        let (next, _) ← getNextCumulativeBorrowingFactor (openEnv 2 (60 * 10 ^ 30))
          run.2.dataStore ⟨1, 2, 3, 4⟩ prices true
        let product ← mul openInterest next
        pure (product / 10 ^ 30 - getTotalBorrowing run.2.dataStore 1 true) : Result Nat) =
          .ok (30 * 10 ^ 30)).exists
  have hreach := (openLong_reachable hok hincrease).reachable
  obtain ⟨-, hpending⟩ := pendingBorrowing_covered escrowDeployment_sane hreach hmarket (by decide)
    (fun hsame => absurd hsame (by decide)) (openEnv 2 (60 * 10 ^ 30)) _
  exact ⟨w₂, hreach, hpending.trans hfees⟩

/-- A thousand tokens are sent to the order vault. -/
def sendCollateral (w : World) : World where
  dataStore := w.dataStore
  balances token account :=
    if token = 3 ∧ account = 11 then w.balances token account + 1000 else w.balances token account
  totalSupply := w.totalSupply
  tokenBalances := w.tokenBalances

theorem sendCollateral_outside : Outside escrowDeployment w (sendCollateral w) where
  writes := ⟨[.tokens], .of_dataStore_eq (List.mem_singleton_self _) rfl, by decide⟩
  held kind token := by
    show w.balances token _ ≤ if token = 3 ∧ _ = 11 then w.balances token _ + 1000 else _
    split_ifs
    · exact Nat.le_add_right _ _
    · exact Nat.le_refl _
  recorded _ := rfl

/-- Two positions are opened in a market of one token, one of an odd size, and a second later both
are decreased. -/
def openOdd : Result World := do
  let env := openEnv 1 (10 ^ 30)
  let env' := openEnv 2 (10 ^ 30)
  let w ← openMarket 3
  let (_, w) ← trade env 9 (openOrder .MarketIncrease (100 * 10 ^ 30)) 2 w
  let (_, w) ← trade env 8 (openOrder .MarketIncrease (101 * 10 ^ 30 + 1)) 3 (sendCollateral w)
  let (_, w) ← trade env' 9 (openOrder .MarketDecrease (40 * 10 ^ 30)) 4 w
  let (_, w) ← trade env' 8 (openOrder .MarketDecrease (40 * 10 ^ 30)) 5 w
  pure w

theorem openOdd_reachable (h : openOdd = .ok w) : (exchange escrowDeployment).Reachable w := by
  simp only [openOdd, Result.bind_eq_ok, Result.pure_eq_ok] at h
  obtain ⟨w₁, hmarket, ⟨_, w₂⟩, hfirst, ⟨_, w₃⟩, hsecond, ⟨_, w₄⟩, hthird, ⟨_, w₅⟩, hfourth,
    rfl⟩ := h
  have h₁ : (exchange escrowDeployment).Reachable w₁ := (openMarket_reachable hmarket).reachable
  have h₂ : (exchange escrowDeployment).Reachable w₂ :=
    trade_reachable h₁ trivial trivial hfirst
  have hsent : (exchange escrowDeployment).Reachable (sendCollateral w₂) :=
    h₂.next (i := Action.outside) sendCollateral_outside
  have h₃ : (exchange escrowDeployment).Reachable w₃ :=
    trade_reachable hsent trivial trivial hsecond
  have h₄ : (exchange escrowDeployment).Reachable w₄ :=
    trade_reachable h₃ trivial trivial hthird
  exact trade_reachable h₄ trivial trivial hfourth

/-- Both have been charged for the whole of their size, and halving the open interest loses one
unit of it: in that very block the pending fees of the side cannot be computed. -/
theorem pendingBorrowing_underflows :
    ∃ w, (exchange escrowDeployment).Reachable w ∧
      MarketStoreUtils.get w.dataStore 1 = ⟨1, 2, 3, 3⟩ ∧
      w.dataStore.getUint (Keys.poolAmountKey 1 3) = 10402 ∧
      getOpenInterest w.dataStore ⟨1, 2, 3, 3⟩ true = .ok (121 * 10 ^ 30) ∧
      getNextCumulativeBorrowingFactor (openEnv 2 (10 ^ 30)) w.dataStore ⟨1, 2, 3, 3⟩
        ⟨⟨10 ^ 30, 10 ^ 30⟩, ⟨10 ^ 30, 10 ^ 30⟩, ⟨10 ^ 30, 10 ^ 30⟩⟩ true =
          .ok (2 * 10 ^ 30, 0) ∧
      getTotalBorrowing w.dataStore 1 true = 242 * 10 ^ 30 + 2 ∧
      getTotalPendingBorrowingFees (openEnv 2 (10 ^ 30)) w.dataStore ⟨1, 2, 3, 3⟩
        ⟨⟨10 ^ 30, 10 ^ 30⟩, ⟨10 ^ 30, 10 ^ 30⟩, ⟨10 ^ 30, 10 ^ 30⟩⟩ true =
          .error (.panic .underflow) := by
  obtain ⟨w, hok, hfails⟩ := (by decide +kernel : openOdd.Satisfies fun w =>
    MarketStoreUtils.get w.dataStore 1 = ⟨1, 2, 3, 3⟩ ∧
      w.dataStore.getUint (Keys.poolAmountKey 1 3) = 10402 ∧
      getOpenInterest w.dataStore ⟨1, 2, 3, 3⟩ true = .ok (121 * 10 ^ 30) ∧
      getNextCumulativeBorrowingFactor (openEnv 2 (10 ^ 30)) w.dataStore ⟨1, 2, 3, 3⟩
        ⟨⟨10 ^ 30, 10 ^ 30⟩, ⟨10 ^ 30, 10 ^ 30⟩, ⟨10 ^ 30, 10 ^ 30⟩⟩ true =
          .ok (2 * 10 ^ 30, 0) ∧
      getTotalBorrowing w.dataStore 1 true = 242 * 10 ^ 30 + 2 ∧
      getTotalPendingBorrowingFees (openEnv 2 (10 ^ 30)) w.dataStore ⟨1, 2, 3, 3⟩
        ⟨⟨10 ^ 30, 10 ^ 30⟩, ⟨10 ^ 30, 10 ^ 30⟩, ⟨10 ^ 30, 10 ^ 30⟩⟩ true =
          .error (.panic .underflow)).exists
  exact ⟨w, openOdd_reachable hok, hfails⟩

end GmxSynthetics
