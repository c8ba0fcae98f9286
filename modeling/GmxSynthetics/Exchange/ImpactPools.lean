import GmxSynthetics.Exchange.RoundTrip
import GmxSynthetics.Position.CappedImpact

/-!
# What the impact pools pay

A positive price impact is paid by an impact pool, whose amount is written with a bounded
subtraction: what the pool does not hold would be cut off silently. The impact is capped where it
is computed, at the lowest price, and turned into tokens far from there.

* `getPriceImpactAmount_le` — an impact capped at the lowest price is covered at every price;
* `increasePosition_pays`, `decreasePosition_pays` — the position impact pool;
* `_swap_pays`, `_executeDeposit_pays` — the swap impact pools;
* `impactPools_payExactly` — all four.
-/

namespace GmxSynthetics

open Evm MarketUtils PositionUtils PositionPricingUtils

variable {env : Env} {w w' : World}

-- ---------------------------------------------------------------------------
-- Exact payments
-- ---------------------------------------------------------------------------

/-- A pool pays an amount that it holds, to the unit. A negative amount is received. -/
structure PaysExactly (key : Key) (amount : Int) (w w' : World) : Prop where
  held : amount ≤ w.dataStore.getUint key
  paid : (w'.dataStore.getUint key : Int) = w.dataStore.getUint key - amount

namespace PaysExactly

variable {key : Key} {amount : Int} {w₁ w₂ : World}

/-- A bounded subtraction of what the pool holds cuts nothing off. -/
theorem of_bounded {next : Nat} (hheld : amount ≤ w.dataStore.getUint key)
    (h : DataStore.applyBoundedDeltaToUint key (-amount) w = .ok (next, w')) :
    PaysExactly key amount w w' := by
  refine ⟨hheld, ?_⟩
  simp only [DataStore.applyBoundedDeltaToUint, ↓readStore_bind_eq_ok, ↓Tx.lift_bind_eq_ok,
    ↓writeStore_bind_eq_ok, Tx.pure_eq_ok] at h
  obtain ⟨isNegative, hnegative, next', hsum, -, rfl⟩ := h
  obtain rfl := negationExceeds_eq_ok hnegative
  rw [if_neg (by rw [decide_eq_true_iff]; omega)] at hsum
  have hnext := sumReturnUint256_eq hsum
  rw [getUint_setUint, if_pos rfl]
  omega

/-- What is left of a pool is not negative. -/
theorem of_paid
    (h : (w'.dataStore.getUint key : Int) = w.dataStore.getUint key - amount) :
    PaysExactly key amount w w' := by
  have hleft := Int.natCast_nonneg (w'.dataStore.getUint key)
  exact ⟨by omega, h⟩

/-- What does not touch the pool may happen before and after. -/
theorem around {slots : List Slot} (h : PaysExactly key amount w₁ w₂)
    (hbefore : World.SameOff slots w w₁) (hafter : World.SameOff slots w₂ w')
    (hslot : key.slot ∉ slots) : PaysExactly key amount w w' := by
  obtain ⟨hheld, hpaid⟩ := h
  rw [hbefore.uint _ hslot _ rfl] at hheld hpaid
  refine ⟨hheld, ?_⟩
  rw [hafter.uint _ hslot _ rfl, hpaid]

end PaysExactly

-- ---------------------------------------------------------------------------
-- The cap and the amount
-- ---------------------------------------------------------------------------

variable {dataStore : DataStore}

/-- A capped impact is worth at most the impact pool, at the lowest price. -/
theorem MarketUtils.getCappedPositionImpactUsd_le_pool {marketToken : Address} {tokenPrice : Price}
    {priceImpactUsd capped : Int} {sizeDeltaUsd : Nat}
    (h : getCappedPositionImpactUsd dataStore marketToken tokenPrice priceImpactUsd sizeDeltaUsd =
      .ok capped) :
    capped ≤ (getPositionImpactPoolAmount dataStore marketToken * tokenPrice.min : Nat) := by
  unfold getCappedPositionImpactUsd at h
  split at h
  · rw [Result.pure_eq_ok] at h
    have hpool := Int.natCast_nonneg
      (getPositionImpactPoolAmount dataStore marketToken * tokenPrice.min)
    omega
  · simp only [Result.bind_eq_ok, mul_eq_ok, toInt256_eq_ok, Result.pure_eq_ok] at h
    obtain ⟨_, ⟨-, rfl⟩, _, ⟨-, rfl⟩, _, -, _, -, rfl⟩ := h
    split <;> split <;> omega

/-- Rounding up at a price that is not below the lowest one does not exceed the pool. -/
theorem PositionPricingUtils.getPriceImpactAmount_le {priceImpactUsd amount : Int} {price : Price}
    {pool : Nat} {isLong isIncrease : Bool} (hmin : 0 < price.min) (hmax : price.min ≤ price.max)
    (hcapped : priceImpactUsd ≤ (pool * price.min : Nat))
    (h : getPriceImpactAmount priceImpactUsd price isLong isIncrease = .ok amount) :
    amount ≤ pool := by
  have hpick : price.min ≤ price.pickPriceForPnl isLong isIncrease := by
    unfold Price.pickPriceForPnl
    split <;> split <;> omega
  unfold getPriceImpactAmount at h
  dsimp only at h
  generalize price.pickPriceForPnl isLong isIncrease = picked at h hpick
  have hcovered : priceImpactUsd ≤ (pool : Int) * picked := by
    have hle := Nat.mul_le_mul_left pool hpick
    push_cast at hcapped
    have hle' : (pool : Int) * price.min ≤ pool * picked := by exact_mod_cast hle
    omega
  have hpicked : (0 : Int) < picked := by omega
  split at h
  · rename_i hpos
    unfold Calc.roundUpMagnitudeDivision at h
    rw [if_neg (by omega)] at h
    simp only [Result.bind_eq_ok, toInt256_eq_ok, addInt_eq_ok, subInt_eq_ok, divInt_eq_ok] at h
    obtain ⟨_, ⟨-, rfl⟩, _, ⟨-, rfl⟩, _, ⟨-, rfl⟩, _, ⟨-, rfl⟩, -, -, rfl⟩ := h
    rw [Int.tdiv_eq_ediv_of_nonneg (by omega)]
    apply Int.le_of_lt_add_one
    rw [Int.ediv_lt_iff_lt_mul hpicked, Int.add_mul, Int.one_mul]
    omega
  · simp only [Result.bind_eq_ok, toInt256_eq_ok, divInt_eq_ok] at h
    obtain ⟨_, ⟨-, rfl⟩, -, -, rfl⟩ := h
    have hneg := Int.tdiv_nonneg (a := -priceImpactUsd) (b := picked) (by omega) (by omega)
    rw [Int.neg_tdiv] at hneg
    omega

variable {params : UpdatePositionParams} {prices : MarketPrices}

theorem IncreasePositionUtils.priceImpactAmount_le (hmin : 0 < prices.indexTokenPrice.min)
    (hmax : prices.indexTokenPrice.min ≤ prices.indexTokenPrice.max) {executionPrice : Nat}
    {priceImpactAmount : Int}
    (h : getExecutionPrice env dataStore params prices =
      .ok (executionPrice, priceImpactAmount)) :
    priceImpactAmount ≤ getPositionImpactPoolAmount dataStore params.market.marketToken := by
  simp only [getExecutionPrice, Result.bind_eq_ok, Result.pure_eq_ok, Prod.mk.injEq] at h
  obtain ⟨_, -, _, -, _, hcapped, _, -, _, -, _, hamount, -, rfl⟩ := h
  exact getPriceImpactAmount_le hmin hmax (getCappedPositionImpactUsd_le_pool hcapped) hamount

theorem DecreasePositionCollateralUtils.priceImpactAmount_le
    (hmin : 0 < prices.indexTokenPrice.min)
    (hmax : prices.indexTokenPrice.min ≤ prices.indexTokenPrice.max)
    {sizeDeltaUsd executionPrice priceImpactDiffUsd : Nat} {priceImpactAmount : Int}
    (h : getExecutionPrice env dataStore params prices sizeDeltaUsd =
      .ok (executionPrice, priceImpactAmount, priceImpactDiffUsd)) :
    priceImpactAmount ≤ getPositionImpactPoolAmount dataStore params.market.marketToken := by
  rw [getExecutionPrice_eq] at h
  simp only [Result.bind_eq_ok, Result.pure_eq_ok, Prod.mk.injEq] at h
  obtain ⟨⟨priceImpactUsd, _⟩, himpact, _, -, _, -, _, hamount, -, rfl, -⟩ := h
  refine getPriceImpactAmount_le hmin hmax ?_ hamount
  have hpool := Int.natCast_nonneg
    (getPositionImpactPoolAmount dataStore params.market.marketToken * prices.indexTokenPrice.min)
  simp only [getExecutionPriceImpactUsd, Result.bind_eq_ok, negInt_eq_ok] at himpact
  obtain ⟨_, -, _, -, _, -, capped, hcapped, himpact⟩ := himpact
  have hle := getCappedPositionImpactUsd_le_pool hcapped
  split at himpact
  · simp only [Result.bind_eq_ok, negInt_eq_ok, toInt256_eq_ok] at himpact
    obtain ⟨amount, -, _, ⟨-, rfl⟩, _, ⟨-, rfl⟩, himpact⟩ := himpact
    -- the cap of a negative impact is negative too
    split at himpact
    · simp only [Result.bind_eq_ok, Result.pure_eq_ok, Prod.mk.injEq] at himpact
      obtain ⟨_, -, _, -, rfl, -⟩ := himpact
      omega
    · simp only [Result.pure_eq_ok, Prod.mk.injEq] at himpact
      omega
  · simp only [Result.pure_eq_ok, Prod.mk.injEq] at himpact
    omega

-- ---------------------------------------------------------------------------
-- Position updates
-- ---------------------------------------------------------------------------

/-- What a position update may write besides the position impact pool. -/
def besidesImpactSlots : List Slot :=
  .position :: .request :: marketStateSlots ++ finishSlots ++ swapSlots

theorem positionImpactPool_not_mem_besidesImpactSlots (marketToken : Address) :
    (Keys.positionImpactPoolAmountKey marketToken).slot ∉ besidesImpactSlots := by
  show Slot.constant .POSITION_IMPACT_POOL_AMOUNT ∉ besidesImpactSlots
  decide

theorem slot_mem_besidesImpactSlots (key : StoreKey) : key.slot ∈ besidesImpactSlots := by
  cases key with
  | position _ _ _ _ => exact List.mem_cons_self
  | request _ => exact List.mem_cons_of_mem _ List.mem_cons_self

namespace IncreasePositionUtils

/-- `increasePosition` until the order is priced. -/
def untilPriced (env : Env) (params : UpdatePositionParams) (collateralIncrementAmount : Nat) :
    Tx (MarketPrices × PositionFees) := do
  let prices ← getMarketPrices env params.market
  updateFundingAndBorrowingState env params prices
  let position ← readStore fun dataStore => initFundingAmountPerSize dataStore params
  let (_, fees) ← processCollateral env { params with position } prices
    (← toInt256 collateralIncrementAmount)
  pure (prices, fees)

/-- The impact pool pays exactly the impact amount of an increase. -/
theorem increasePosition_pays {collateralIncrementAmount : Nat} {fees : PositionFees}
    (hprices : getMarketPrices env params.market = .ok prices)
    (hmin : 0 < prices.indexTokenPrice.min)
    (hmax : prices.indexTokenPrice.min ≤ prices.indexTokenPrice.max)
    (h : increasePosition env params collateralIncrementAmount w = .ok (fees, w')) :
    ∃ priced executionPrice priceImpactAmount,
      untilPriced env params collateralIncrementAmount w = .ok ((prices, fees), priced) ∧
      getExecutionPrice env priced.dataStore params prices =
        .ok (executionPrice, priceImpactAmount) ∧
      PaysExactly (Keys.positionImpactPoolAmountKey params.market.marketToken) priceImpactAmount
        w w' := by
  obtain ⟨run⟩ := increasePosition_run h
  have hupdating := run.updating
  have hcharging := run.charging
  have hpricing := run.pricing
  obtain heq : run.prices = prices := Except.ok.inj (run.marketPrices.symm.trans hprices)
  rw [heq] at hupdating hcharging hpricing
  have hbefore : World.SameOff besidesImpactSlots w run.charged :=
    run.sameOff_charged (by decide) (by decide) (by decide)
  have hpays : PaysExactly (Keys.positionImpactPoolAmountKey params.market.marketToken)
      run.priceImpactAmount run.charged run.impacted :=
    .of_bounded (priceImpactAmount_le hmin hmax hpricing) run.impacting
  have h₁ : World.SameOff besidesImpactSlots run.impacted run.stored :=
    run.sameOff_stored (by decide) (by decide) (by decide)
      (slot_mem_besidesImpactSlots params.positionKey)
  have h₂ : World.SameOff besidesImpactSlots run.stored w' :=
    run.sameOff_referred (by decide) (by decide)
  have hafter := h₁.trans h₂
  refine ⟨run.charged, run.executionPrice, run.priceImpactAmount, ?_, hpricing,
    hpays.around hbefore hafter (positionImpactPool_not_mem_besidesImpactSlots _)⟩
  unfold untilPriced
  rw [Tx.bind_of_ok (Tx.lift_of_ok hprices), Tx.bind_of_ok hupdating]
  refine readStore_bind_eq_ok.mpr (Tx.lift_bind_eq_ok.mpr
    ⟨_, toInt256_eq_ok.mpr ⟨run.increment, rfl⟩, ?_⟩)
  rw [run.position_eq] at hcharging
  rw [Tx.bind_of_ok hcharging]
  rfl

end IncreasePositionUtils

namespace DecreasePositionCollateralUtils

variable {cache : DecreasePositionCache} {pending : PendingCollateral}
  {result : DecreasePositionCollateralValues × PositionFees}

/-- What is pending carries the impact amount of the execution price. -/
theorem pendingCollateral_priceImpactAmount {w₁ : World}
    (h : pendingCollateral env params cache w = .ok (pending, w₁)) :
    ∃ executionPrice priceImpactDiffUsd,
      getExecutionPrice env w.dataStore params cache.prices params.order.sizeDeltaUsd =
        .ok (executionPrice, pending.values.priceImpactAmount, priceImpactDiffUsd) := by
  obtain ⟨realized, w₂, hrealize, hpay⟩ := Tx.bind_eq_ok.mp h
  obtain ⟨hpaid, -⟩ := Tx.lift_eq_ok.mp hpay
  rw [(payFromProfit_takesOver hpaid).priceImpactAmount]
  exact ⟨_, _, (realizePnl_eq_ok hrealize).price⟩

/-- A collateral that covers what is pending is processed after the impact pool has paid. -/
theorem payFromCollateral_pays {pool : Nat}
    (hpool :
      w.dataStore.getUint (Keys.positionImpactPoolAmountKey params.market.marketToken) = pool)
    (hheld : pending.values.priceImpactAmount ≤ pool)
    (h : payFromCollateral env params pending w = .ok (result, w')) :
    PaysExactly (Keys.positionImpactPoolAmountKey params.market.marketToken)
      pending.values.priceImpactAmount w w' := by
  unfold payFromCollateral at h
  obtain ⟨_, w₁, hloss, h⟩ := Tx.bind_eq_ok.mp h
  simp only [↓Tx.lift_bind_eq_ok] at h
  obtain ⟨_, -, _, hneg, h⟩ := h
  obtain ⟨-, rfl⟩ := negInt_eq_ok.mp hneg
  obtain ⟨_, w₂, himpact, h⟩ := Tx.bind_eq_ok.mp h
  have hslot := positionImpactPool_not_mem_besidesImpactSlots params.market.marketToken
  have hbefore : World.SameOff besidesImpactSlots w w₁ := by
    refine Writes.ite ?_ (.pure _) hloss
    exact (Writes.lift _).bind fun _ => (Writes.lift _).bind fun _ => (Writes.lift _).bind fun _ =>
      (Writes.lift _).bind fun _ => (Writes.lift _).bind fun _ =>
      (applyDeltaToPoolAmount_writes (by decide) (by decide) _ _ _).bind fun _ => .pure _
  have hafter : World.SameOff besidesImpactSlots w₂ w' := by
    refine Writes.bind (Writes.ite ?_ (.pure _)) (fun _ => ?_) h
    · exact (Writes.lift _).bind fun _ =>
        (incrementClaimableCollateralAmount_writes (by decide) _ _ _ _ _).bind fun _ => .pure _
    · exact (Writes.lift _).bind fun _ => (Writes.lift _).bind fun _ =>
        (FeeUtils.incrementClaimableFeeAmount_writes (by decide) _ _ _).bind fun _ =>
        (FeeUtils.incrementClaimableUiFeeAmount_writes (by decide) _ _ _ _).bind fun _ => .pure _
  have hpays : PaysExactly (Keys.positionImpactPoolAmountKey params.market.marketToken)
      pending.values.priceImpactAmount w₁ w₂ := by
    refine .of_bounded ?_ himpact
    rw [hbefore.uint _ hslot _ rfl, hpool]
    exact hheld
  exact hpays.around hbefore hafter hslot

/-- What the position impact pool pays for a decrease: nothing when it is force closed. -/
def paidImpactAmount (pending : PendingCollateral) : Int :=
  if pending.values.pendingCollateralDeduction ≤ pending.values.remainingCollateralAmount then
    pending.values.priceImpactAmount
  else 0

theorem processCollateral_pays (hmin : 0 < cache.prices.indexTokenPrice.min)
    (hmax : cache.prices.indexTokenPrice.min ≤ cache.prices.indexTokenPrice.max)
    (h : processCollateral env params cache w = .ok (result, w')) :
    ∃ executionPrice priceImpactDiffUsd pending w₁,
      pendingCollateral env params cache w = .ok (pending, w₁) ∧
      getExecutionPrice env w.dataStore params cache.prices params.order.sizeDeltaUsd =
        .ok (executionPrice, pending.values.priceImpactAmount, priceImpactDiffUsd) ∧
      PaysExactly (Keys.positionImpactPoolAmountKey params.market.marketToken)
        (paidImpactAmount pending) w w' := by
  obtain ⟨realized, w₁, hrealize, h⟩ := Tx.bind_eq_ok.mp h
  obtain ⟨pending, hpaid, h⟩ := Tx.lift_bind_eq_ok.mp h
  have hpending : pendingCollateral env params cache w = .ok (pending, w₁) := by
    unfold pendingCollateral
    rw [Tx.bind_of_ok hrealize]
    exact Tx.lift_of_ok hpaid
  obtain ⟨executionPrice, priceImpactDiffUsd, hprice⟩ :=
    pendingCollateral_priceImpactAmount hpending
  refine ⟨executionPrice, priceImpactDiffUsd, pending, w₁, hpending, hprice, ?_⟩
  have hslot := positionImpactPool_not_mem_besidesImpactSlots params.market.marketToken
  have hrealized : World.SameOff besidesImpactSlots w w₁ :=
    realizePnl_writes env _ _ (by decide) (by decide) hrealize
  unfold paidImpactAmount
  split
  · rename_i hcovered
    rw [if_neg (not_lt.mpr hcovered)] at h
    have hheld := priceImpactAmount_le hmin hmax hprice
    exact (payFromCollateral_pays (hrealized.uint _ hslot _ rfl) hheld h).around hrealized
      (World.SameOff.refl _ _) hslot
  · rename_i huncovered
    rw [if_pos (not_le.mp huncovered)] at h
    have hclosed : World.SameOff besidesImpactSlots w₁ w' :=
      Writes.ite (processForceClose_writes env _ (by decide) _ _ _ _) (.lift _) h
    refine ⟨Int.natCast_nonneg _, ?_⟩
    rw [(hrealized.trans hclosed).uint _ hslot _ rfl, sub_zero]

end DecreasePositionCollateralUtils

namespace DecreasePositionUtils

open DecreasePositionCollateralUtils

/-- The impact pool pays exactly the impact amount of a decrease whose collateral covers what it
owes. What is force closed takes nothing out of it. -/
theorem decreasePosition_pays {result : DecreasePositionResult × PositionFees}
    (hprices : getMarketPrices env params.market = .ok prices)
    (hmin : 0 < prices.indexTokenPrice.min)
    (hmax : prices.indexTokenPrice.min ≤ prices.indexTokenPrice.max)
    (h : decreasePosition env params w = .ok (result, w')) :
    ∃ adjusted w₁ executionPrice priceImpactDiffUsd pending w₂,
      prepareDecrease env params w = .ok ((adjusted, prices), w₁) ∧
      pendingCollateral env adjusted (makeCache adjusted prices) w₁ = .ok (pending, w₂) ∧
      getExecutionPrice env w₁.dataStore adjusted prices adjusted.order.sizeDeltaUsd =
        .ok (executionPrice, pending.values.priceImpactAmount, priceImpactDiffUsd) ∧
      PaysExactly (Keys.positionImpactPoolAmountKey params.market.marketToken)
        (paidImpactAmount pending) w w' := by
  obtain ⟨⟨_, order, values, fees, updated, charged, hrun, -, hprepare, -, hcharge, hfinish⟩⟩ :=
    decreasePosition_run h
  obtain rfl := Except.ok.inj (hrun.symm.trans hprices)
  obtain ⟨executionPrice, priceImpactDiffUsd, pending, w₂, hpending, hprice, hpays⟩ :=
    processCollateral_pays hmin hmax hcharge
  refine ⟨_, updated, executionPrice, priceImpactDiffUsd, pending, w₂, hprepare, hpending,
    hprice, ?_⟩
  have hprepared : World.SameOff besidesImpactSlots w updated :=
    prepareDecrease_writes env params (by decide) hprepare
  have hfinished : World.SameOff besidesImpactSlots charged w' :=
    finishDecrease_writes env { params with order } (by decide) (by decide)
      (slot_mem_besidesImpactSlots params.positionKey) _ _ _ hfinish
  exact hpays.around hprepared hfinished (positionImpactPool_not_mem_besidesImpactSlots _)

end DecreasePositionUtils

-- ---------------------------------------------------------------------------
-- Swaps and deposits
-- ---------------------------------------------------------------------------

/-- The swap impact pool of one token pays an impact amount, and those of the other tokens
nothing. -/
def PaysSwapImpact (market token : Address) (impactAmount : Int) (w w' : World) : Prop :=
  ∀ token', PaysExactly (Keys.swapImpactPoolAmountKey market token')
    (if token' = token then impactAmount else 0) w w'

theorem MarketUtils.applySwapImpactWithCap_pays {market token : Address} {tokenPrice : Price}
    {priceImpactUsd impactAmount : Int}
    (h : applySwapImpactWithCap market token tokenPrice priceImpactUsd w =
      .ok (impactAmount, w')) :
    getSwapImpactAmountWithCap w.dataStore market token tokenPrice priceImpactUsd =
        .ok impactAmount ∧
      PaysSwapImpact market token impactAmount w w' := by
  obtain ⟨himpact, hpools⟩ := applySwapImpactWithCap_eq_ok h
  exact ⟨himpact, fun token' => .of_paid (hpools token')⟩

namespace PaysSwapImpact

variable {market token : Address} {impactAmount : Int} {w₁ w₂ : World}

theorem around {slots : List Slot} (h : PaysSwapImpact market token impactAmount w₁ w₂)
    (hbefore : World.SameOff slots w w₁) (hafter : World.SameOff slots w₂ w')
    (hslot : Slot.constant .SWAP_IMPACT_POOL_AMOUNT ∉ slots) :
    PaysSwapImpact market token impactAmount w w' :=
  fun token' => (h token').around hbefore hafter hslot

end PaysSwapImpact

theorem MarketUtils.getMarketPrices_eq_ok {market : Market}
    (h : getMarketPrices env market = .ok prices) :
    Oracle.getPrimaryPrice env market.longToken = .ok prices.longTokenPrice ∧
      Oracle.getPrimaryPrice env market.shortToken = .ok prices.shortTokenPrice := by
  simp only [getMarketPrices, Result.bind_eq_ok, Result.pure_eq_ok] at h
  obtain ⟨_, -, longTokenPrice, hlong, shortTokenPrice, hshort, rfl⟩ := h
  exact ⟨hlong, hshort⟩

/-- The swap impact pools pay exactly what the reader reports as the impact of a hop. -/
theorem SwapUtils._swap_pays {params : SwapParams} {_params : _SwapParams} {tokenOut : Address}
    {amountOut : Nat} (hprices : getMarketPrices env _params.market = .ok prices)
    (h : _swap env params _params w = .ok ((tokenOut, amountOut), w')) :
    ∃ impactAmount fees,
      ReaderUtils.getSwapAmountOut env w.dataStore _params.market prices _params.tokenIn
        _params.amountIn params.uiFeeReceiver = .ok (amountOut, impactAmount, fees) ∧
      PaysSwapImpact _params.market.marketToken
        (if impactAmount > 0 then tokenOut else _params.tokenIn) impactAmount w w' := by
  obtain ⟨hlong, hshort⟩ := getMarketPrices_eq_ok hprices
  obtain ⟨impactAmount, fees, hreport, hpools, -⟩ :=
    ReaderUtils.getSwapAmountOut_eq_swap hlong hshort h
  exact ⟨impactAmount, fees, hreport, fun token' => .of_paid (hpools token')⟩

namespace ExecuteDepositUtils

/-- The token whose swap impact pool pays or receives the impact of a deposit, and its price. -/
def impactToken (_params : _ExecuteDepositParams) : Address × Price :=
  if _params.priceImpactUsd > 0 then (_params.tokenOut, _params.tokenOutPrice)
  else (_params.tokenIn, _params.tokenInPrice)

/-- What a deposit writes besides the swap impact pools. -/
def besidesSwapImpactSlots : List Slot :=
  [.constant .CLAIMABLE_FEE_AMOUNT, .constant .CLAIMABLE_UI_FEE_AMOUNT, .constant .POOL_AMOUNT,
    .constant .VIRTUAL_INVENTORY_FOR_SWAPS, .tokens]

theorem applyPriceImpact_pays {_params : _ExecuteDepositParams}
    {amountAfterFees poolValue marketTokensSupply : Nat} {amounts : Nat × Nat}
    (h : applyPriceImpact _params amountAfterFees poolValue marketTokensSupply w =
      .ok (amounts, w')) :
    ∃ impactAmount,
      getSwapImpactAmountWithCap w.dataStore _params.market.marketToken (impactToken _params).1
        (impactToken _params).2 _params.priceImpactUsd = .ok impactAmount ∧
      PaysSwapImpact _params.market.marketToken (impactToken _params).1 impactAmount w w' := by
  unfold applyPriceImpact at h
  unfold impactToken
  by_cases hpositive : _params.priceImpactUsd > 0
  · rw [if_pos hpositive] at h ⊢
    obtain ⟨impactAmount, w₁, himpact, h⟩ := Tx.bind_eq_ok.mp h
    obtain ⟨hread, hpays⟩ := applySwapImpactWithCap_pays himpact
    have hafter : World.SameOff besidesSwapImpactSlots w₁ w' := by
      refine Writes.bind (.lift _) (fun _ => ?_) h
      exact (Writes.lift _).bind fun _ => (Writes.lift _).bind fun _ =>
        (applyDeltaToPoolAmount_writes (by decide) (by decide) _ _ _).bind fun _ =>
        (Writes.viewStore _).bind fun _ => .pure _
    exact ⟨impactAmount, hread, hpays.around (World.SameOff.refl _ _) hafter (by decide)⟩
  · rw [if_neg hpositive] at h ⊢
    obtain ⟨impactAmount, w₁, himpact, h⟩ := Tx.bind_eq_ok.mp h
    obtain ⟨hread, hpays⟩ := applySwapImpactWithCap_pays himpact
    simp only [↓Tx.lift_bind_eq_ok, Tx.pure_eq_ok] at h
    obtain ⟨_, -, _, -, _, -, -, rfl⟩ := h
    exact ⟨impactAmount, hread, hpays⟩

/-- The swap impact pools pay exactly the impact amount of the deposit of a token. -/
theorem _executeDeposit_pays {_params : _ExecuteDepositParams} {mintAmount : Nat}
    (h : _executeDeposit env _params w = .ok (mintAmount, w')) :
    ∃ impactAmount,
      getSwapImpactAmountWithCap w.dataStore _params.market.marketToken (impactToken _params).1
        (impactToken _params).2 _params.priceImpactUsd = .ok impactAmount ∧
      PaysSwapImpact _params.market.marketToken (impactToken _params).1 impactAmount w w' := by
  obtain ⟨run⟩ := _executeDeposit_run h
  have h₁ : World.SameOff besidesSwapImpactSlots w run.booked :=
    FeeUtils.incrementClaimableFeeAmount_writes (by decide) _ _ _ run.booking
  have h₂ : World.SameOff besidesSwapImpactSlots run.booked run.uiBooked :=
    FeeUtils.incrementClaimableUiFeeAmount_writes (by decide) _ _ _ _ run.uiBooking
  have hbefore := h₁.trans h₂
  have h₃ : World.SameOff besidesSwapImpactSlots run.impacted run.pooled :=
    applyDeltaToPoolAmount_writes (by decide) (by decide) _ _ _ run.pooling
  have h₄ : World.SameOff besidesSwapImpactSlots run.pooled w' :=
    MarketToken.mint_writes (by decide) _ _ _ run.minting
  obtain ⟨impactAmount, hread, hpays⟩ := applyPriceImpact_pays run.impacting
  -- the fees booked before are not read by the cap
  have hpool : getSwapImpactPoolAmount run.uiBooked.dataStore
      _params.market.marketToken (impactToken _params).1 =
        getSwapImpactPoolAmount w.dataStore _params.market.marketToken (impactToken _params).1 :=
    hbefore.uint (.constant .SWAP_IMPACT_POOL_AMOUNT) (by decide) _ rfl
  unfold getSwapImpactAmountWithCap at hread ⊢
  rw [hpool] at hread
  exact ⟨impactAmount, hread, hpays.around hbefore (h₃.trans h₄) (by decide)⟩

end ExecuteDepositUtils

-- ---------------------------------------------------------------------------
-- All four
-- ---------------------------------------------------------------------------

/-- **What an impact pool pays, it holds.** An increase, a decrease, a hop of a swap and the
deposit of a token take exactly the impact amount that they compute out of the impact pool, which
holds at least that much: the bounded subtraction never cuts anything off. -/
theorem impactPools_payExactly {market : Market}
    (hprices : getMarketPrices env market = .ok prices) (hmin : 0 < prices.indexTokenPrice.min)
    (hmax : prices.indexTokenPrice.min ≤ prices.indexTokenPrice.max) :
    (∀ params collateralIncrementAmount fees w w', params.market = market →
      IncreasePositionUtils.increasePosition env params collateralIncrementAmount w =
        .ok (fees, w') →
      ∃ priced executionPrice priceImpactAmount,
        IncreasePositionUtils.untilPriced env params collateralIncrementAmount w =
          .ok ((prices, fees), priced) ∧
        IncreasePositionUtils.getExecutionPrice env priced.dataStore params prices =
          .ok (executionPrice, priceImpactAmount) ∧
        PaysExactly (Keys.positionImpactPoolAmountKey market.marketToken) priceImpactAmount
          w w') ∧
    (∀ params result w w', params.market = market →
      DecreasePositionUtils.decreasePosition env params w = .ok (result, w') →
      ∃ adjusted w₁ executionPrice priceImpactDiffUsd pending w₂,
        DecreasePositionUtils.prepareDecrease env params w = .ok ((adjusted, prices), w₁) ∧
        DecreasePositionCollateralUtils.pendingCollateral env adjusted
          (DecreasePositionUtils.makeCache adjusted prices) w₁ = .ok (pending, w₂) ∧
        DecreasePositionCollateralUtils.getExecutionPrice env w₁.dataStore adjusted prices
          adjusted.order.sizeDeltaUsd =
            .ok (executionPrice, pending.values.priceImpactAmount, priceImpactDiffUsd) ∧
        PaysExactly (Keys.positionImpactPoolAmountKey market.marketToken)
          (DecreasePositionCollateralUtils.paidImpactAmount pending) w w') ∧
    (∀ params (_params : SwapUtils._SwapParams) tokenOut amountOut w w',
      _params.market = market →
      SwapUtils._swap env params _params w = .ok ((tokenOut, amountOut), w') →
      ∃ impactAmount fees,
        ReaderUtils.getSwapAmountOut env w.dataStore market prices _params.tokenIn
          _params.amountIn params.uiFeeReceiver = .ok (amountOut, impactAmount, fees) ∧
        PaysSwapImpact market.marketToken
          (if impactAmount > 0 then tokenOut else _params.tokenIn) impactAmount w w') ∧
    (∀ (_params : ExecuteDepositUtils._ExecuteDepositParams) mintAmount w w',
      _params.market = market →
      ExecuteDepositUtils._executeDeposit env _params w = .ok (mintAmount, w') →
      ∃ impactAmount,
        getSwapImpactAmountWithCap w.dataStore market.marketToken
          (ExecuteDepositUtils.impactToken _params).1 (ExecuteDepositUtils.impactToken _params).2
          _params.priceImpactUsd = .ok impactAmount ∧
        PaysSwapImpact market.marketToken (ExecuteDepositUtils.impactToken _params).1 impactAmount
          w w') := by
  refine ⟨?_, ?_, ?_, ?_⟩
  · rintro params collateralIncrementAmount fees w w' rfl h
    exact IncreasePositionUtils.increasePosition_pays hprices hmin hmax h
  · rintro params result w w' rfl h
    exact DecreasePositionUtils.decreasePosition_pays hprices hmin hmax h
  · rintro params _params tokenOut amountOut w w' rfl h
    exact SwapUtils._swap_pays hprices h
  · rintro _params mintAmount w w' rfl h
    exact ExecuteDepositUtils._executeDeposit_pays h

/-- A market with too little of the long token, whose swap impact pool holds five units of the
short token. -/
def tiltedWorld : World where
  dataStore :=
    ((((DataStore.empty.setUint (Keys.poolAmountKey 1 3) (10 ^ 21)).setUint
      (Keys.poolAmountKey 1 4) (2 * 10 ^ 21)).setUint (Keys.maxPoolAmountKey 1 3)
      (10 ^ 22)).setUint (Keys.swapImpactPoolAmountKey 1 4) 5).setUint
      (Keys.swapImpactFactorKey 1 true) (10 ^ 28)
      |>.setUint (Keys.swapImpactFactorKey 1 false) (2 * 10 ^ 28)
      |>.setUint (Keys.swapImpactExponentFactorKey 1) (10 ^ 30)
  balances token holder := if holder = 1 ∧ (token = 3 ∨ token = 4) then 10 ^ 22 else 0
  totalSupply _ := 1000
  tokenBalances _ _ := 0

/-- A swap that restores the balance is paid what the pool holds, not what its impact is worth. -/
theorem impactPools_payExactly_tiltedWorld :
    let env := Env.plain 1 fun _ => ⟨10 ^ 12, 10 ^ 12⟩
    ∃ amountOut w', SwapUtils._swap env
        { bank := ⟨1, false⟩, tokenIn := 3, amountIn := 10 ^ 20
          swapPathMarkets := [⟨1, 2, 3, 4⟩], minOutputAmount := 0, receiver := 1
          uiFeeReceiver := 0, shouldUnwrapNativeToken := false }
        ⟨⟨1, 2, 3, 4⟩, 3, 10 ^ 20, 1, false⟩ tiltedWorld = .ok ((4, amountOut), w') ∧
      PaysSwapImpact 1 4 5 tiltedWorld w' := by
  intro env
  let prices : MarketPrices := ⟨⟨10 ^ 12, 10 ^ 12⟩, ⟨10 ^ 12, 10 ^ 12⟩, ⟨10 ^ 12, 10 ^ 12⟩⟩
  let params : SwapUtils.SwapParams :=
    { bank := ⟨1, false⟩, tokenIn := 3, amountIn := 10 ^ 20, swapPathMarkets := [⟨1, 2, 3, 4⟩]
      minOutputAmount := 0, receiver := 1, uiFeeReceiver := 0, shouldUnwrapNativeToken := false }
  obtain ⟨⟨⟨tokenOut, amountOut⟩, w'⟩, hrun, hout⟩ := (by decide +kernel : Result.Satisfies
    (SwapUtils._swap env params ⟨⟨1, 2, 3, 4⟩, 3, 10 ^ 20, 1, false⟩ tiltedWorld)
    fun result => result.1.1 = 4).exists
  obtain rfl : tokenOut = 4 := hout
  have hprices : getMarketPrices env ⟨1, 2, 3, 4⟩ = .ok prices := by decide +kernel
  obtain ⟨-, -, hswap, -⟩ := impactPools_payExactly hprices (by decide) (by decide)
  obtain ⟨impactAmount, fees, hreport, hpays⟩ := hswap _ _ _ _ _ _ rfl hrun
  obtain ⟨report, hreported, himpact⟩ := (by decide +kernel : Result.Satisfies
    (ReaderUtils.getSwapAmountOut env tiltedWorld.dataStore ⟨1, 2, 3, 4⟩ prices 3 (10 ^ 20) 0)
    fun report => report.2.1 = 5).exists
  rw [hreported] at hreport
  obtain rfl : impactAmount = 5 := by
    rw [← himpact, Except.ok.inj hreport]
  exact ⟨amountOut, w', hrun, hpays⟩

end GmxSynthetics
