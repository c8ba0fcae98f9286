import GmxSynthetics.Exchange.OpenPositions
import GmxSynthetics.Order.OrderProceeds
import GmxSynthetics.Position.EntryPrice
import GmxSynthetics.Position.ExecutionPriceSafety

/-!
# Orders are executed on their terms

A keeper chooses when an order is executed and at which signed prices, but not on which terms. Its
prices are of blocks that the order allows and trigger it, it is executed at a price that its
account accepts, and its receiver has the proceeds, which are worth the minimum that was asked for.

* `Order.TriggeredBy`, `Order.Dated` — the prices that an order may be executed at;
* `OrderTerms` — what the execution of an order of each kind keeps to;
* `order_terms` — every execution does, in every state that is reached.
-/

namespace GmxSynthetics

open Evm BaseOrderUtils DecreasePositionUtils MarketUtils PositionUtils

variable {env : Env} {deployment : Deployment} {w w' : World} {u : Unit} {residues : List Residue}
  {params : ExecuteOrderParams}

-- ---------------------------------------------------------------------------
-- Prices
-- ---------------------------------------------------------------------------

/-- The index price is on the side of the trigger price that the order waits for. -/
def Order.TriggeredBy (order : Order) (indexPrice : Price) : Prop :=
  match order.orderType, order.isLong with
  | .LimitIncrease, true | .LimitDecrease, false => indexPrice.max ≤ order.triggerPrice
  | .LimitIncrease, false | .LimitDecrease, true => order.triggerPrice ≤ indexPrice.min
  | .StopLossDecrease, true => indexPrice.min ≤ order.triggerPrice
  | .StopLossDecrease, false => order.triggerPrice ≤ indexPrice.max
  | _, _ => True

/-- The signed price of the index token triggers the order, if it waits for one. -/
def Order.Triggered (env : Env) (order : Order) (indexToken : Address) : Prop :=
  order.orderType = .LimitIncrease ∨ order.orderType = .LimitDecrease ∨
      order.orderType = .StopLossDecrease →
    ∃ indexPrice, Oracle.getPrimaryPrice env indexToken = .ok indexPrice ∧
      order.TriggeredBy indexPrice

/-- The prices of a market order are of the block it was last updated in, those of a limit or a
stop order are of no earlier one. -/
def Order.Dated (order : Order) (minOracleBlockNumbers maxOracleBlockNumbers : List Nat) : Prop :=
  match order.orderType with
  | .MarketSwap | .MarketIncrease | .MarketDecrease =>
    (∀ block ∈ minOracleBlockNumbers, block ≤ order.updatedAtBlock) ∧
      ∀ block ∈ maxOracleBlockNumbers, order.updatedAtBlock ≤ block
  | .Liquidation => True
  | _ => ∀ block ∈ minOracleBlockNumbers, order.updatedAtBlock ≤ block

theorem BaseOrderUtils.validateOrderTriggerPrice_eq_ok {order : Order} {indexToken : Address}
    (h : validateOrderTriggerPrice env indexToken order.orderType order.triggerPrice order.isLong =
      .ok u) : order.Triggered env indexToken := by
  intro htype
  unfold validateOrderTriggerPrice at h
  unfold Order.TriggeredBy
  rcases htype with htype | htype | htype <;>
  · rw [htype] at h ⊢
    obtain ⟨indexPrice, hprice, h⟩ := Result.bind_eq_ok.mp h
    refine ⟨indexPrice, hprice, ?_⟩
    cases hside : order.isLong <;>
      simpa [hside, Result.revertIf_eq_ok] using Result.revertIf_eq_ok.mp h

namespace OracleUtils

variable {minOracleBlockNumbers maxOracleBlockNumbers : List Nat} {blockNumber : Nat}

theorem validateBlockNumberWithinRange_eq_ok
    (h : validateBlockNumberWithinRange minOracleBlockNumbers maxOracleBlockNumbers blockNumber =
      .ok u) :
    (∀ block ∈ minOracleBlockNumbers, block ≤ blockNumber) ∧
      ∀ block ∈ maxOracleBlockNumbers, blockNumber ≤ block := by
  have hrange := Result.revertIf_eq_ok.mp h
  simpa [isBlockNumberWithinRange, Array.areLessThanOrEqualTo,
    Array.areGreaterThanOrEqualTo] using hrange

theorem validateBlockNumbersNotBefore_eq_ok
    (h : validateBlockNumbersNotBefore minOracleBlockNumbers blockNumber = .ok u) :
    ∀ block ∈ minOracleBlockNumbers, blockNumber ≤ block := by
  have hbefore := Result.revertIf_eq_ok.mp h
  simpa [Array.areGreaterThanOrEqualTo] using hbefore

end OracleUtils

/-- The checks of the three kinds of orders come down to the same. -/
theorem IncreaseOrderUtils.validateOracleBlockNumbers_eq_ok {order : Order}
    {minOracleBlockNumbers maxOracleBlockNumbers : List Nat}
    (h : validateOracleBlockNumbers minOracleBlockNumbers maxOracleBlockNumbers order.orderType
      order.updatedAtBlock = .ok u) :
    order.Dated minOracleBlockNumbers maxOracleBlockNumbers := by
  unfold validateOracleBlockNumbers at h
  unfold Order.Dated
  split at h
  case h_1 htype =>
    rw [htype]
    exact OracleUtils.validateBlockNumberWithinRange_eq_ok h
  case h_2 htype =>
    rw [htype]
    exact OracleUtils.validateBlockNumbersNotBefore_eq_ok h
  case h_3 => exact absurd h (by simp)

theorem SwapOrderUtils.validateOracleBlockNumbers_eq_ok {order : Order}
    {minOracleBlockNumbers maxOracleBlockNumbers : List Nat}
    (h : validateOracleBlockNumbers minOracleBlockNumbers maxOracleBlockNumbers order.orderType
      order.updatedAtBlock = .ok u) :
    order.Dated minOracleBlockNumbers maxOracleBlockNumbers := by
  unfold validateOracleBlockNumbers at h
  unfold Order.Dated
  split at h
  case h_1 htype =>
    rw [htype]
    exact OracleUtils.validateBlockNumberWithinRange_eq_ok h
  case h_2 htype =>
    rw [htype]
    exact OracleUtils.validateBlockNumbersNotBefore_eq_ok h
  case h_3 => exact absurd h (by simp)

/-- A decrease also waits for prices from after the last increase of its position. -/
theorem DecreaseOrderUtils.validateOracleBlockNumbers_eq_ok {order : Order}
    {minOracleBlockNumbers maxOracleBlockNumbers : List Nat}
    {positionIncreasedAtBlock positionDecreasedAtBlock : Nat}
    (h : validateOracleBlockNumbers minOracleBlockNumbers maxOracleBlockNumbers order.orderType
      order.updatedAtBlock positionIncreasedAtBlock positionDecreasedAtBlock = .ok u) :
    order.Dated minOracleBlockNumbers maxOracleBlockNumbers ∧
      (order.orderType ≠ .MarketDecrease →
        ∀ block ∈ minOracleBlockNumbers, positionIncreasedAtBlock ≤ block) := by
  unfold validateOracleBlockNumbers at h
  unfold Order.Dated
  split at h
  case h_1 htype =>
    rw [htype]
    exact ⟨OracleUtils.validateBlockNumberWithinRange_eq_ok h, fun hne => absurd rfl hne⟩
  case h_2 htype =>
    rw [htype]
    have hdated := OracleUtils.validateBlockNumbersNotBefore_eq_ok h
    refine ⟨fun block hblock => ?_, fun _ block hblock => ?_⟩ <;>
    · have hle := hdated block hblock
      split_ifs at hle <;> omega
  case h_3 htype =>
    rw [htype]
    have hdated := OracleUtils.validateBlockNumbersNotBefore_eq_ok h
    refine ⟨fun block hblock => ?_, fun _ block hblock => ?_⟩ <;>
    · have hle := hdated block hblock
      split_ifs at hle <;> omega
  case h_4 htype =>
    rw [htype]
    have hdated := OracleUtils.validateBlockNumbersNotBefore_eq_ok h
    refine ⟨trivial, fun _ block hblock => ?_⟩
    have hle := hdated block hblock
    split_ifs at hle <;> omega
  case h_5 => exact absurd h (by simp)

-- ---------------------------------------------------------------------------
-- Terms
-- ---------------------------------------------------------------------------

/-- The receiver can be sent every token, and is neither the order vault nor a market. -/
structure Receivable (env : Env) (params : ExecuteOrderParams) (w : World) : Prop where
  accepts : env.Accepts params.order.receiver
  vault_ne : params.orderVault ≠ params.order.receiver
  away : params.Away params.order.receiver

/-- The swap of a swap order. -/
def SwapOrderUtils.swapParams (params : ExecuteOrderParams) : SwapUtils.SwapParams where
  bank := { address := params.orderVault, isStrict := true }
  tokenIn := params.order.initialCollateralToken
  amountIn := params.order.initialCollateralDeltaAmount
  swapPathMarkets := params.swapPathMarkets
  minOutputAmount := params.order.minOutputAmount
  receiver := params.order.receiver
  uiFeeReceiver := params.order.uiFeeReceiver
  shouldUnwrapNativeToken := params.order.shouldUnwrapNativeToken

/-- A swap order brings its receiver at least the minimum of the token at the end of its path. -/
def ExecuteOrderRun.Swaps (run : ExecuteOrderRun env params w w') : Prop :=
  ∃ output,
    SwapUtils.swap env (SwapOrderUtils.swapParams params) run.removed =
      .ok (output, run.processed) ∧
    (params.order.initialCollateralDeltaAmount ≠ 0 →
      SwapUtils.Meets (SwapOrderUtils.swapParams params) output) ∧
    (Receivable env params w → params.order.Delivered [output] w w')

/-- An increase order adds its size to a position of its account, at a price that the account
accepts, and at least the minimum of the token at the end of its path is its collateral. -/
def ExecuteOrderRun.Increases (run : ExecuteOrderRun env params w w') : Prop :=
  ∃ (increase : IncreaseOrderRun env params run.removed run.processed)
    (executionPrice sizeDeltaInTokens : Nat),
    (params.order.initialCollateralDeltaAmount ≠ 0 →
      SwapUtils.Meets (IncreaseOrderUtils.swapParams params)
        (increase.collateralToken, increase.amount)) ∧
    Acceptable executionPrice params.order.acceptablePrice params.order.isLong true ∧
    IncreasePositionUtils.getSizeDeltaInTokens params.order.isLong params.order.sizeDeltaUsd
      executionPrice = .ok sizeDeltaInTokens ∧
    let position := PositionStoreUtils.get w.dataStore increase.update.positionKey
    let next := PositionStoreUtils.get w'.dataStore increase.update.positionKey
    next.sizeInUsd = position.sizeInUsd + params.order.sizeDeltaUsd ∧
      next.sizeInTokens = position.sizeInTokens + sizeDeltaInTokens

/-- A decrease order takes its size, or all that there is, off the position of its account, at a
price that the account accepts. Its receiver has the proceeds, which are worth the minimum. -/
def ExecuteOrderRun.Decreases (run : ExecuteOrderRun env params w w') : Prop :=
  let key := params.group.key params.order.account
  let position := PositionStoreUtils.get w.dataStore key
  ∃ (decrease : DecreaseOrderRun env params run.removed run.processed)
    (update : DecreasePositionUtils.DecreaseRun env
      (DecreaseOrderUtils.decreaseParams params run.removed.dataStore)
      (decrease.result, decrease.fees) run.removed decrease.decreased)
    (proceeds : List (Address × Nat)),
    (params.order.orderType ≠ .MarketDecrease →
      ∀ block ∈ params.minOracleBlockNumbers, position.increasedAtBlock ≤ block) ∧
    Acceptable update.values.executionPrice params.order.acceptablePrice params.order.isLong
      false ∧
    (update.order.sizeDeltaUsd = params.order.sizeDeltaUsd ∨
      update.order.sizeDeltaUsd = position.sizeInUsd) ∧
    (key ∈ positionStore.keys w'.dataStore →
      (PositionStoreUtils.get w'.dataStore key).sizeInUsd + update.order.sizeDeltaUsd =
        position.sizeInUsd) ∧
    params.order.Covers env proceeds ∧
    (Receivable env params w → params.order.Delivered proceeds w w')

/-- The execution of an order keeps to what its account has asked for. -/
structure OrderTerms (run : ExecuteOrderRun env params w w') : Prop where
  triggered : params.order.Triggered env params.market.indexToken
  dated : params.order.Dated params.minOracleBlockNumbers params.maxOracleBlockNumbers
  swaps : isSwapOrder params.order.orderType = true → run.Swaps
  increases : isIncreaseOrder params.order.orderType = true → run.Increases
  decreases : isDecreaseOrder params.order.orderType = true → run.Decreases

/-- A decrease is executed at a price that its order accepts. -/
theorem DecreasePositionCollateralUtils.getExecutionPrice_acceptable {dataStore : DataStore}
    {update : UpdatePositionParams} {prices : MarketPrices} {sizeDeltaUsd executionPrice : Nat}
    {priceImpactAmount : Int} {priceImpactDiffUsd : Nat}
    (h : getExecutionPrice env dataStore update prices sizeDeltaUsd =
      .ok (executionPrice, priceImpactAmount, priceImpactDiffUsd)) :
    Acceptable executionPrice update.order.acceptablePrice update.position.isLong false := by
  simp only [getExecutionPrice, Result.bind_eq_ok, Result.pure_eq_ok, Prod.mk.injEq] at h
  obtain ⟨_, -, _, -, _, -, _, -, ⟨_, _⟩, -, _, -, _, hprice, _, -, rfl, -⟩ := h
  exact (getExecutionPrice_eq_ok hprice).2.2

/-- An order is adjusted to its own size or to that of the position. -/
theorem DecreasePositionUtils.adjustOrder_sizeDeltaUsd {dataStore : DataStore}
    {update : UpdatePositionParams} {prices : MarketPrices} {order : Order}
    (h : adjustOrder dataStore update prices = .ok order) :
    order.sizeDeltaUsd = update.order.sizeDeltaUsd ∨
      order.sizeDeltaUsd = update.position.sizeInUsd := by
  simp only [adjustOrder, Result.bind_eq_ok, Result.pure_eq_ok] at h
  obtain ⟨order₁, hcap, order₂, hpartial, rfl⟩ := h
  have h₁ : order₁.sizeDeltaUsd = update.order.sizeDeltaUsd ∨
      order₁.sizeDeltaUsd = update.position.sizeInUsd := by
    unfold capSizeDelta at hcap
    dsimp only at hcap
    split_ifs at hcap
    · obtain rfl := Result.pure_eq_ok.mp hcap
      exact .inr rfl
    · simp at hcap
    · obtain rfl := Result.pure_eq_ok.mp hcap
      exact .inl rfl
  have h₂ : order₂.sizeDeltaUsd = order₁.sizeDeltaUsd ∨
      order₂.sizeDeltaUsd = update.position.sizeInUsd := by
    split at hpartial
    · simp only [adjustPartialDecrease, Result.bind_eq_ok, Result.pure_eq_ok] at hpartial
      obtain ⟨_, -, ⟨order₃, _⟩, hwithdrawal, _, -, _, -, rfl⟩ := hpartial
      have h₃ : order₃.sizeDeltaUsd = order₁.sizeDeltaUsd := by
        split at hwithdrawal
        · simp only [Result.pure_eq_ok, Prod.mk.injEq] at hwithdrawal
          rw [hwithdrawal.1]
        · simp only [Result.bind_eq_ok, Result.pure_eq_ok, Prod.mk.injEq] at hwithdrawal
          obtain ⟨_, -, _, -, _, -, _, -, _, -, rfl, -⟩ := hwithdrawal
          rfl
      split_ifs
      · exact .inr rfl
      · exact .inr rfl
      · exact .inr rfl
      · exact .inl h₃
    · obtain rfl := Result.pure_eq_ok.mp hpartial
      exact .inl rfl
  split_ifs <;>
  · rcases h₂ with h₂ | h₂
    · rw [← h₂] at h₁
      exact h₁
    · exact .inr h₂

-- ---------------------------------------------------------------------------
-- Executions
-- ---------------------------------------------------------------------------

theorem OrderUtils.executeOrder_triggered (h : executeOrder env params w = .ok (u, w')) :
    params.order.Triggered env params.market.indexToken := by
  unfold executeOrder at h
  obtain ⟨_, w₁, -, h⟩ := Tx.bind_eq_ok.mp h
  simp only [↓Tx.lift_bind_eq_ok] at h
  obtain ⟨_, -, _, htrigger, -⟩ := h
  exact validateOrderTriggerPrice_eq_ok htrigger

theorem IncreaseOrderUtils.processOrder_dated (h : processOrder env params w = .ok (u, w')) :
    params.order.Dated params.minOracleBlockNumbers params.maxOracleBlockNumbers := by
  unfold processOrder at h
  simp only [↓viewStore_bind_eq_ok] at h
  obtain ⟨_, -, h⟩ := h
  obtain ⟨⟨collateralToken, amount⟩, w₁, -, h⟩ := Tx.bind_eq_ok.mp h
  simp only [↓Tx.lift_bind_eq_ok, ↓viewStore_bind_eq_ok] at h
  obtain ⟨_, -, position, -, _, hdated, -⟩ := h
  exact validateOracleBlockNumbers_eq_ok hdated

theorem DecreaseOrderUtils.processOrder_dated (h : processOrder env params w = .ok (u, w')) :
    params.order.Dated params.minOracleBlockNumbers params.maxOracleBlockNumbers ∧
      (params.order.orderType ≠ .MarketDecrease → ∀ block ∈ params.minOracleBlockNumbers,
        (PositionStoreUtils.get w.dataStore
          (params.group.key params.order.account)).increasedAtBlock ≤ block) := by
  unfold processOrder at h
  simp only [↓viewStore_bind_eq_ok, ↓readStore_bind_eq_ok, ↓Tx.lift_bind_eq_ok] at h
  obtain ⟨_, -, _, -, _, hdated, -⟩ := h
  exact validateOracleBlockNumbers_eq_ok hdated

theorem SwapOrderUtils.processOrder_eq_ok (h : processOrder env params w = .ok (u, w')) :
    params.order.Dated params.minOracleBlockNumbers params.maxOracleBlockNumbers ∧
      ∃ output, SwapUtils.swap env (swapParams params) w = .ok (output, w') := by
  unfold processOrder at h
  simp only [↓Tx.lift_bind_eq_ok] at h
  obtain ⟨_, -, _, hdated, h⟩ := h
  obtain ⟨output, w₁, hswap, h⟩ := Tx.bind_eq_ok.mp h
  obtain ⟨-, rfl⟩ := Tx.pure_eq_ok.mp h
  exact ⟨validateOracleBlockNumbers_eq_ok hdated, output, hswap⟩

namespace ExecuteOrderRun

variable (run : ExecuteOrderRun env params w w')

/-- What processing the order brings its receiver is there after the execution. -/
theorem delivered (hreceivable : Receivable env params w) {proceeds : List (Address × Nat)}
    (hgains : Gains params.order.receiver
      (params.order.deliveries (TokenUtils.wnt run.removed.dataStore) proceeds) run.removed
      run.processed)
    (huntouched : Untouched params.order.receiver run.removed run.processed) :
    params.order.Delivered proceeds w w' := by
  have hremoved : Gains params.order.receiver 0 w run.removed :=
    .of_sameOff run.sameOff_removed (by decide) (by decide)
  have hpaid := GasUtils.payExecutionFee_gains hreceivable.vault_ne run.paying
  have hbook : Untouched params.order.receiver w run.removed :=
    .of_moves (.of_sameOff run.sameOff_removed (by decide)) rfl
  refine Delivered.of_gains ?_ (trans_of (Untouched params.order.receiver)
    (trans_of (Untouched params.order.receiver) hbook huntouched)
    (GasUtils.payExecutionFee_untouched run.paying))
  have hall := (hremoved.trans hgains).trans hpaid
  rwa [zero_add, add_zero, TokenUtils.wnt_sameOff run.sameOff_removed (by decide)] at hall

theorem swaps (hswap : isSwapOrder params.order.orderType = true) :
    params.order.Dated params.minOracleBlockNumbers params.maxOracleBlockNumbers ∧
      run.Swaps := by
  have hprocess := run.processing
  unfold OrderUtils.processOrder at hprocess
  have hincrease : ¬ isIncreaseOrder params.order.orderType = true := by
    revert hswap
    cases params.order.orderType <;> decide
  have hdecrease : ¬ isDecreaseOrder params.order.orderType = true := by
    revert hswap
    cases params.order.orderType <;> decide
  rw [if_neg hincrease, if_neg hdecrease, if_pos hswap] at hprocess
  obtain ⟨hdated, output, hrun⟩ := SwapOrderUtils.processOrder_eq_ok hprocess
  refine ⟨hdated, output, hrun, fun hamount => SwapUtils.swap_meets hamount hrun, ?_⟩
  intro hreceivable
  refine run.delivered hreceivable ?_ (SwapUtils.swap_untouched hreceivable.away.path hrun)
  have hgains := SwapUtils.swap_delivers hreceivable.accepts hrun
  show Gains _ (List.sum [_]) _ _
  rw [List.sum_singleton]
  refine hgains.mono fun token => ?_
  show _ ≤ (entry params.orderVault _ _ params.order.receiver + _) token
  rw [entry_apply_of_ne hreceivable.vault_ne.symm, zero_add]
  exact le_refl _

/-- Taking the order out of the store and paying for it leave the positions as they are. -/
theorem get_position (key : StoreKey) (hkey : key.slot = .position) :
    PositionStoreUtils.get run.removed.dataStore key = PositionStoreUtils.get w.dataStore key ∧
      PositionStoreUtils.get w'.dataStore key =
        PositionStoreUtils.get run.processed.dataStore key ∧
      positionStore.keys w'.dataStore = positionStore.keys run.processed.dataStore := by
  have hpaid : World.SameOff [.tokens] run.processed w' :=
    GasUtils.payExecutionFee_writes env (List.mem_singleton_self _) _ _ _ _ run.paying
  exact ⟨positionStore.get_sameOff run.sameOff_removed (by decide) (by rw [hkey]; decide),
    positionStore.get_sameOff hpaid (by decide) (by rw [hkey]; decide),
    positionStore.keys_sameOff hpaid (by decide)⟩

variable (hsound : (Accounting.of w.dataStore).Sound residues)

include hsound

theorem increases (hincrease : isIncreaseOrder params.order.orderType = true) :
    params.order.Dated params.minOracleBlockNumbers params.maxOracleBlockNumbers ∧
      run.Increases := by
  have hprocess := run.processing
  unfold OrderUtils.processOrder at hprocess
  rw [if_pos hincrease] at hprocess
  have hsound₁ := run.sound_removed hsound
  obtain ⟨increase⟩ := IncreaseOrderUtils.processOrder_run hsound₁ run.marketsKeyed run.loaded
    hprocess
  have hstored := increase.stored hsound₁ run.loaded run.account_ne
  have hsame := increase.accounting_swapped hsound₁
  obtain ⟨_, _, executionPrice, sizeDeltaInTokens, -, hprice, htokens, hadds⟩ :=
    IncreasePositionUtils.increasePosition_adds rfl increase.increasing
  obtain ⟨hupdate, hmem⟩ := IncreasePositionUtils.increasePosition_update increase.consistent
    hstored (hsame ▸ hsound₁) increase.increasing
  obtain ⟨hbefore, hafter, -⟩ := run.get_position increase.update.positionKey rfl
  have hswapped : PositionStoreUtils.get increase.swapped.dataStore increase.update.positionKey =
      PositionStoreUtils.get run.removed.dataStore increase.update.positionKey :=
    congrFun (congrArg Accounting.position hsame) _
  have hsize := hstored.sizeInUsd
  have hsizeInTokens := hstored.sizeInTokens
  rw [hswapped, hbefore] at hsize hsizeInTokens
  refine ⟨IncreaseOrderUtils.processOrder_dated hprocess, increase, executionPrice,
    sizeDeltaInTokens, fun hamount => SwapUtils.swap_meets hamount increase.swapping,
    (getExecutionPrice_eq_ok hprice).2.2, ?_, ?_⟩
  · have hside : params.order.isLong = increase.position.isLong := hstored.isLong
    rw [hside]
    exact htokens
  · dsimp only
    rw [hafter, hsize, hsizeInTokens]
    refine ⟨?_, hadds⟩
    rw [hstored.positionKey]
    exact (hupdate.stored hmem).2.2.1

theorem decreases (hdecrease : isDecreaseOrder params.order.orderType = true) :
    params.order.Dated params.minOracleBlockNumbers params.maxOracleBlockNumbers ∧
      run.Decreases := by
  have hprocess := run.processing
  unfold OrderUtils.processOrder at hprocess
  have hincrease : ¬ isIncreaseOrder params.order.orderType = true := by
    revert hdecrease
    cases params.order.orderType <;> decide
  rw [if_neg hincrease, if_pos hdecrease] at hprocess
  have hsound₁ := run.sound_removed hsound
  obtain ⟨decrease⟩ := DecreaseOrderUtils.processOrder_run run.marketsKeyed run.loaded hprocess
  obtain ⟨update⟩ := DecreasePositionUtils.decreasePosition_run decrease.decreasing
  obtain ⟨hdated, hincreased⟩ := DecreaseOrderUtils.processOrder_dated hprocess
  obtain ⟨proceeds, hcovers, hgains⟩ := DecreaseOrderUtils.payOutput_delivers decrease.paying
  obtain ⟨hbefore, hafter, hkeys⟩ := run.get_position (params.group.key params.order.account) rfl
  refine ⟨hdated, decrease, update, proceeds, ?_, ?_, ?_, ?_, hcovers, ?_⟩
  · rw [← hbefore]
    exact hincreased
  · obtain ⟨⟨_, _, hprice⟩, -⟩ :=
      DecreasePositionUtils.processCollateral_pnl update.charging
    have hside : (DecreaseOrderUtils.decreaseParams params run.removed.dataStore).position.isLong =
        params.order.isLong := congrArg (·.isLong) (decrease.position_group hsound₁)
    have haccept := DecreasePositionCollateralUtils.getExecutionPrice_acceptable hprice
    rw [← hside]
    obtain ⟨_, _, _, hadjusted⟩ :=
      (DecreasePositionUtils.adjustOrder_isAdjusted _ update.adjusting).1
    rw [hadjusted] at haccept
    exact haccept
  · rw [← hbefore]
    exact DecreasePositionUtils.adjustOrder_sizeDeltaUsd update.adjusting
  · intro hmem
    obtain ⟨prices, order, hprices, hadjust, hupdate, -⟩ :=
      DecreasePositionUtils.decreasePosition_update (decrease.consistent hsound₁ run.loaded)
        (decrease.stored hsound₁) hsound₁ decrease.decreasing
    obtain rfl : prices = update.prices :=
      Except.ok.inj (hprices.symm.trans update.marketPrices)
    obtain rfl : order = update.order := Except.ok.inj (hadjust.symm.trans update.adjusting)
    have hsize := DecreasePositionUtils.adjustOrder_isAdjusted _ update.adjusting
    have hpaid : Accounting.of run.processed.dataStore =
        Accounting.of decrease.decreased.dataStore :=
      Accounting.of_sameOff (hsound₁.update hupdate)
        (DecreaseOrderUtils.payOutput_writes env (List.Subset.refl swapSlots) _ _ decrease.paying)
        (by decide)
    rw [decrease.position_group hsound₁, decrease.position_account hsound₁, ← hpaid] at hupdate
    rw [hkeys] at hmem
    have hstored := (hupdate.stored hmem).2.2.1
    rw [hafter, ← hbefore]
    show ((Accounting.of run.processed.dataStore).position _).sizeInUsd + _ = _
    rw [hstored]
    exact Nat.sub_add_cancel hsize.2.1
  · intro hreceivable
    refine run.delivered hreceivable ?_ (DecreaseOrderUtils.processOrder_untouched hsound₁
      run.marketsKeyed run.loaded hprocess hreceivable.away)
    have hdecreased : Gains params.order.receiver _ run.removed decrease.decreased :=
      DecreasePositionUtils.decreasePosition_gains (decrease.consistent hsound₁ run.loaded) rfl
        decrease.decreasing
    have hpaid := hgains hreceivable.accepts hreceivable.away.orderMarket
    have hsame : World.SameOff processSlots run.removed decrease.decreased :=
      DecreasePositionUtils.decreasePosition_writes env _ (List.subset_append_left _ _)
        (List.subset_append_right _ _) rfl decrease.decreasing
    have hwnt := TokenUtils.wnt_sameOff hsame (by decide)
    rw [hwnt] at hpaid
    refine (hdecreased.trans hpaid).mono fun token => ?_
    have hpayouts : payouts params.market.marketToken decrease.result params.order.receiver =
        0 := by
      rw [payouts, Pi.add_apply, entry_apply_of_ne hreceivable.away.market.symm,
        entry_apply_of_ne hreceivable.away.market.symm, add_zero]
    show _ ≤ (payouts params.market.marketToken decrease.result params.order.receiver + _) token
    rw [hpayouts, zero_add]

end ExecuteOrderRun

theorem OrderUtils.executeOrder_terms (hkey : params.key.slot = .request)
    (hsound : (Accounting.of w.dataStore).Sound residues) (hkeyed : MarketsKeyed w.dataStore)
    (hloaded : params.Loaded w.dataStore) (h : executeOrder env params w = .ok (u, w')) :
    ∃ run : ExecuteOrderRun env params w w', OrderTerms run := by
  obtain ⟨run⟩ := executeOrder_run hkey hkeyed hloaded h
  have hdated :
      params.order.Dated params.minOracleBlockNumbers params.maxOracleBlockNumbers := by
    have hprocess := run.processing
    unfold processOrder at hprocess
    split_ifs at hprocess with hincrease hdecrease hswap
    · exact (run.increases hsound hincrease).1
    · exact (run.decreases hsound hdecrease).1
    · exact (run.swaps hswap).1
    · exact absurd hprocess (by simp)
  exact ⟨run,
    { triggered := executeOrder_triggered h
      dated := hdated
      swaps := fun hswap => (run.swaps hswap).2
      increases := fun hincrease => (run.increases hsound hincrease).2
      decreases := fun hdecrease => (run.decreases hsound hdecrease).2 }⟩

end GmxSynthetics
