import GmxSynthetics.Position.PositionFootprint
import GmxSynthetics.Swap.SwapBook

/-!
# The book under position updates

What each part of an increase or a decrease does to the book of the market. An increase
books its collateral increment less the funding fee. A decrease that is paid for by the
position books the negative of its outputs and of the funding fee.

* `getPositionFees_split` — what a position is charged is what the ledgers are credited;
* `realizeProfit_moves`, `payFromCollateral_moves`, `finishDecrease_moves` — the parts;
* `positionUpdate_conserves` — the whole.
-/

namespace GmxSynthetics

open Evm MarketUtils

-- ---------------------------------------------------------------------------
-- Fees
-- ---------------------------------------------------------------------------

namespace PositionPricingUtils

/-- The fees of a position split into what the ledgers are credited and the funding fee. -/
theorem getPositionFees_split {env : Env} {dataStore : DataStore} {params : GetPositionFeesParams}
    {fees : PositionFees} (h : getPositionFees env dataStore params = .ok fees) :
    fees.collateralCostAmount = fees.totalNetCostAmount ∧
      fees.totalNetCostAmount = fees.feeReceiverAmount + fees.feeAmountForPool +
        fees.referral.affiliateRewardAmount + fees.funding.fundingFeeAmount +
        fees.ui.uiFeeAmount := by
  simp only [getPositionFees, getPositionFeesAfterReferral, Result.bind_eq_ok, add_eq_ok,
    sub_eq_ok, Result.pure_eq_ok] at h
  obtain ⟨referralFees, ⟨_, -, _, -, positionFeeAmount, -, h₁⟩, borrowingFeeUsd, -, h⟩ := h
  obtain ⟨totalRebateAmount, -, traderDiscountAmount, -, _, ⟨_, rfl⟩, _, ⟨_, rfl⟩, h₁⟩ := h₁
  obtain ⟨feeReceiverAmount, -, _, ⟨_, rfl⟩, rfl⟩ := h₁
  obtain ⟨borrowing, hborrowing, _, ⟨_, rfl⟩, _, ⟨_, rfl⟩, _, ⟨_, rfl⟩, funding, -, h⟩ := h
  obtain ⟨ui, -, _, ⟨_, rfl⟩, _, ⟨_, rfl⟩, _, ⟨_, rfl⟩, _, ⟨_, rfl⟩, rfl⟩ := h
  refine ⟨rfl, ?_⟩
  dsimp only at *
  omega

end PositionPricingUtils

-- ---------------------------------------------------------------------------
-- Tokens of a position
-- ---------------------------------------------------------------------------

open PositionUtils PositionPricingUtils DecreasePositionCollateralUtils DecreasePositionUtils

/-- The token in which a position takes its profit. -/
def pnlTokenOf (params : UpdatePositionParams) : Address :=
  if params.position.isLong then params.market.longToken else params.market.shortToken

/-- What the handlers hand to a position update: the order and the position belong to the
market, and the collateral is one of its two tokens. -/
structure PositionUtils.UpdatePositionParams.Consistent (params : UpdatePositionParams) :
    Prop where
  orderMarket : params.order.market = params.market.marketToken
  positionMarket : params.position.market = params.market.marketToken
  collateralToken : params.position.collateralToken = params.market.longToken ∨
    params.position.collateralToken = params.market.shortToken

/-- The outputs of a decrease, as entries of the book. -/
def outputs (marketToken : Address) (output : DecreasePositionCollateralValuesOutput) :
    Address → Address → Int :=
  entry marketToken output.outputToken output.outputAmount +
    entry marketToken output.secondaryOutputToken output.secondaryOutputAmount

/-- An order that swaps has a pnl token other than the collateral token. -/
def SwapsTokens (params : UpdatePositionParams) : Prop :=
  params.order.decreasePositionSwapType ≠ .NoSwap →
    pnlTokenOf params ≠ params.position.collateralToken

variable {env : Env} {w w' : World} {params : UpdatePositionParams}

/-- Opposite to the token of the pnl is the collateral token. -/
theorem getOppositeToken_pnlTokenOf (hparams : params.Consistent) {tokenOut : Address}
    (hne : pnlTokenOf params ≠ params.position.collateralToken)
    (h : MarketUtils.getOppositeToken (pnlTokenOf params) params.market = .ok tokenOut) :
    tokenOut = params.position.collateralToken := by
  rcases getOppositeToken_eq_ok h with ⟨hpnl, rfl⟩ | ⟨hpnl, rfl⟩
  · rcases hparams.collateralToken with hcollateral | hcollateral
    · exact absurd (hpnl.trans hcollateral.symm) hne
    · exact hcollateral.symm
  · rcases hparams.collateralToken with hcollateral | hcollateral
    · exact hcollateral.symm
    · exact absurd (hpnl.trans hcollateral.symm) hne

-- ---------------------------------------------------------------------------
-- The position store
-- ---------------------------------------------------------------------------

/-- No ledger is among the fields of a position or the lists of positions. -/
theorem bookSlots_disjoint_position (key : StoreKey) :
    ∀ slot ∈ bookSlots, slot ∉ key.slot :: positionListSlots := by
  have hposition : ∀ slot ∈ bookSlots, slot ∉ Slot.position :: positionListSlots := by decide
  have hrequest : ∀ slot ∈ bookSlots, slot ∉ Slot.request :: positionListSlots := by decide
  cases key
  · exact hposition
  · exact hrequest

/-- Storing a position moves no ledger. -/
theorem setPosition_keepsBook {key : StoreKey} {position : Position} {u : Unit}
    (h : writeStore (PositionStoreUtils.set · key position) w = .ok (u, w')) :
    Moves 0 w w' := by
  obtain rfl := writeStore_eq_ok.mp h
  exact Moves.of_sameOff (positionStore.set_changesWithin List.mem_cons_self
    (List.subset_cons_self _ _) position w) (bookSlots_disjoint_position key)

-- ---------------------------------------------------------------------------
-- Swaps inside the market
-- ---------------------------------------------------------------------------

namespace DecreasePositionSwapUtils

/-- A profit swapped into the collateral token is booked in as pnl token and out as collateral
token; a failed or absent swap changes nothing. -/
theorem swapProfitToCollateralToken_moves (hparams : params.Consistent)
    (hswaps : SwapsTokens params) {profitAmount : Nat} {swapped : Option Nat}
    (h : swapProfitToCollateralToken env params (pnlTokenOf params) profitAmount w =
      .ok (swapped, w')) :
    (swapped = none ∧ w = w') ∨
      ∃ swapOutputAmount, swapped = some swapOutputAmount ∧
        Moves (entry params.market.marketToken (pnlTokenOf params) profitAmount +
          entry params.market.marketToken params.position.collateralToken (-swapOutputAmount))
          w w' := by
  unfold swapProfitToCollateralToken at h
  split at h
  · rename_i htype
    obtain ⟨attempted, w₁, hattempt, h⟩ := Tx.bind_eq_ok.mp h
    rcases Tx.attempt_eq_ok.mp hattempt with ⟨⟨tokenOut, amountOut⟩, rfl, hswap⟩ |
      ⟨_, rfl, -, rfl⟩
    · obtain ⟨rfl, rfl⟩ := Tx.pure_eq_ok.mp h
      obtain ⟨hmoves, hempty, hopposite⟩ := SwapUtils.swap_moves_single rfl hswap
      refine Or.inr ⟨amountOut, rfl, hmoves.cast ?_⟩
      by_cases hzero : profitAmount = 0
      · obtain rfl := hempty hzero
        simp only [Nat.cast_zero, neg_zero, entry_zero]
      · have hne := hswaps (by rw [htype]; decide)
        rw [getOppositeToken_pnlTokenOf hparams hne (hopposite hzero)]
    · obtain ⟨rfl, rfl⟩ := Tx.pure_eq_ok.mp h
      exact Or.inl ⟨rfl, rfl⟩
  · obtain ⟨rfl, rfl⟩ := Tx.pure_eq_ok.mp h
    exact Or.inl ⟨rfl, rfl⟩

/-- Swapping the withdrawn collateral keeps the sum of the book and the outputs. -/
theorem swapWithdrawnCollateralToPnlToken_moves
    {values values' : DecreasePositionCollateralValues}
    (htoken : values.output.outputToken = params.position.collateralToken ∨
      values.output.outputAmount = 0)
    (h : swapWithdrawnCollateralToPnlToken env params values w = .ok (values', w')) :
    Moves (outputs params.market.marketToken values.output -
      outputs params.market.marketToken values'.output) w w' := by
  unfold swapWithdrawnCollateralToPnlToken at h
  split at h
  · obtain ⟨attempted, w₁, hattempt, h⟩ := Tx.bind_eq_ok.mp h
    rcases Tx.attempt_eq_ok.mp hattempt with ⟨⟨tokenOut, amountOut⟩, rfl, hswap⟩ |
      ⟨_, rfl, -, rfl⟩
    · simp only [↓Tx.lift_bind_eq_ok, Result.revertIf_eq_ok, not_not, add_eq_ok, Tx.pure_eq_ok] at h
      obtain ⟨_, htokenOut, _, ⟨-, rfl⟩, rfl, rfl⟩ := h
      obtain ⟨hmoves, hempty, -⟩ := SwapUtils.swap_moves_single rfl hswap
      refine hmoves.cast ?_
      funext m t
      rcases htoken with htoken | hzero
      · simp only [outputs, htokenOut, htoken, Pi.add_apply, Pi.sub_apply, entry]
        split_ifs <;> omega
      · simp only [outputs, htokenOut, hzero, hempty hzero, Pi.add_apply, Pi.sub_apply, entry]
        split_ifs <;> omega
    · obtain ⟨rfl, rfl⟩ := Tx.pure_eq_ok.mp h
      exact (Moves.refl w).cast (sub_self _).symm
  · obtain ⟨rfl, rfl⟩ := Tx.pure_eq_ok.mp h
    exact (Moves.refl w).cast (sub_self _).symm

end DecreasePositionSwapUtils

-- ---------------------------------------------------------------------------
-- Increasing a position
-- ---------------------------------------------------------------------------

namespace IncreasePositionUtils

/-- The fees of an increase are booked where they belong. -/
theorem processCollateral_moves (hparams : params.Consistent) {prices : MarketPrices}
    {collateralDeltaAmount nextCollateralDeltaAmount : Int} {fees : PositionFees}
    (h : processCollateral env params prices collateralDeltaAmount w =
      .ok ((nextCollateralDeltaAmount, fees), w')) :
    Moves (entry params.market.marketToken params.position.collateralToken
      (collateralDeltaAmount - fees.referral.affiliateRewardAmount -
        fees.funding.fundingFeeAmount)) w w' ∧
      nextCollateralDeltaAmount = collateralDeltaAmount - fees.collateralCostAmount := by
  unfold processCollateral at h
  simp only [↓Tx.lift_bind_eq_ok, ↓viewStore_bind_eq_ok] at h
  obtain ⟨_, -, _, hfees, h⟩ := h
  obtain ⟨_, w₁, hfee, h⟩ := Tx.bind_eq_ok.mp h
  obtain ⟨_, w₂, hui, h⟩ := Tx.bind_eq_ok.mp h
  simp only [↓Tx.lift_bind_eq_ok, toInt256_eq_ok, subInt_eq_ok] at h
  obtain ⟨_, ⟨-, rfl⟩, _, ⟨-, rfl⟩, h⟩ := h
  obtain ⟨_, w₃, hsum, h⟩ := Tx.bind_eq_ok.mp h
  simp only [↓Tx.lift_bind_eq_ok, toInt256_eq_ok] at h
  obtain ⟨_, ⟨-, rfl⟩, h⟩ := h
  obtain ⟨_, w₄, hpool, h⟩ := Tx.bind_eq_ok.mp h
  simp only [Tx.pure_eq_ok, Prod.mk.injEq] at h
  obtain ⟨⟨rfl, rfl⟩, rfl⟩ := h
  refine ⟨?_, rfl⟩
  rw [hparams.orderMarket] at hsum
  have h₁ := FeeUtils.incrementClaimableFeeAmount_moves hfee
  have h₂ := FeeUtils.incrementClaimableUiFeeAmount_moves hui
  have h₃ := applyDeltaToCollateralSum_moves hsum
  have h₄ := applyDeltaToPoolAmount_moves hpool
  obtain ⟨hcost, hsplit⟩ := getPositionFees_split hfees
  refine (((h₁.trans h₂).trans h₃).trans h₄).cast ?_
  funext m t
  simp only [Pi.add_apply, entry]
  split_ifs <;> omega

/-- An increase moves the book by its collateral increment less the funding fee. -/
theorem increasePosition_moves (hparams : params.Consistent) {collateralIncrementAmount : Nat}
    {fees : PositionFees}
    (h : increasePosition env params collateralIncrementAmount w = .ok (fees, w')) :
    Moves (entry params.market.marketToken params.position.collateralToken
      (collateralIncrementAmount - fees.funding.fundingFeeAmount)) w w' := by
  obtain ⟨run⟩ := increasePosition_run h
  obtain ⟨_, _, hinit⟩ := run.exists_position
  have hmarket : run.position.market = params.market.marketToken := by
    rw [hinit, hparams.positionMarket]
  have hcollateral : run.position.collateralToken = params.position.collateralToken := by
    rw [hinit]
  have hparams' : UpdatePositionParams.Consistent { params with position := run.position } :=
    ⟨hparams.orderMarket, hmarket, hcollateral ▸ hparams.collateralToken⟩
  have h₁ : Moves 0 w run.updated := Moves.of_writes
    (updateFundingAndBorrowingState_writes env (List.Subset.refl _) _ _) (by decide) run.updating
  obtain ⟨h₂, -⟩ := processCollateral_moves hparams' run.charging
  have h₃ : Moves 0 run.charged run.impacted := Moves.of_writes
    (applyDeltaToPositionImpactPool_writes (List.mem_singleton_self _) _ _) (by decide)
    run.impacting
  have h₄ : Moves 0 run.impacted run.borrowed := Moves.of_writes
    (updateTotalBorrowing_writes (List.mem_singleton_self _) _ _ _ _ _ _) (by decide)
    run.borrowing
  have h₅ : Moves 0 run.borrowed run.credited := Moves.of_writes
    (incrementClaimableFundingAmount_writes (List.mem_singleton_self _) _ _) (by decide)
    run.crediting
  have h₆ : Moves 0 run.credited run.stored := setPosition_keepsBook run.storing
  have h₇ : Moves 0 run.stored run.opened := Moves.of_writes
    (updateOpenInterest_writes (List.Subset.refl _) _ _ _) (by decide) run.opening
  have h₈ := ReferralUtils.incrementAffiliateReward_moves run.referring
  dsimp only at h₂ h₈
  rw [hcollateral] at h₂
  rw [run.next_eq] at h₈
  dsimp only at h₈
  rw [hparams.positionMarket] at h₈
  refine (((((((h₁.trans h₂).trans h₃).trans h₄).trans h₅).trans h₆).trans h₇).trans h₈).cast ?_
  funext m t
  simp only [Pi.add_apply, Pi.zero_apply, entry]
  split_ifs <;> omega

end IncreasePositionUtils

-- ---------------------------------------------------------------------------
-- Collateral of a decrease
-- ---------------------------------------------------------------------------

namespace DecreasePositionCollateralUtils

variable {cache : DecreasePositionCache}

/-- A realised profit is booked out as the two outputs. -/
theorem realizeProfit_moves (hparams : params.Consistent) (hswaps : SwapsTokens params)
    (hcache : cache.pnlToken = pnlTokenOf params) {positionPnlUsd adjustedPositionPnlUsd : Int}
    {profitAmount secondaryOutputAmount : Nat}
    (h : realizeProfit env params cache positionPnlUsd adjustedPositionPnlUsd w =
      .ok ((profitAmount, secondaryOutputAmount), w')) :
    Moves (entry params.market.marketToken params.position.collateralToken (-profitAmount) +
      entry params.market.marketToken (pnlTokenOf params) (-secondaryOutputAmount)) w w' := by
  unfold realizeProfit at h
  split at h
  · simp only [hcache, ↓Tx.lift_bind_eq_ok, sub_eq_ok] at h
    obtain ⟨_, -, deduction, -, _, -, pnlAmount, -, _, ⟨hle, rfl⟩, h⟩ := h
    obtain ⟨_, w₁, hclaimable, h⟩ := Tx.bind_eq_ok.mp h
    simp only [↓Tx.lift_bind_eq_ok, toInt256_eq_ok, negInt_eq_ok] at h
    obtain ⟨_, ⟨-, rfl⟩, _, ⟨-, rfl⟩, h⟩ := h
    obtain ⟨_, w₂, hpool, h⟩ := Tx.bind_eq_ok.mp h
    obtain ⟨swapped, w₃, hswap, h⟩ := Tx.bind_eq_ok.mp h
    have h₁ : Moves (entry params.market.marketToken (pnlTokenOf params)
        ((deduction - pnlAmount : Nat) : Int)) w w₁ := by
      split at hclaimable
      · exact incrementClaimableCollateralAmount_moves hclaimable
      · rename_i hdiff
        obtain ⟨-, rfl⟩ := Tx.pure_eq_ok.mp hclaimable
        rw [Nat.eq_zero_of_not_pos hdiff]
        exact (Moves.refl w).cast (entry_zero _ _).symm
    have h₂ := applyDeltaToPoolAmount_moves hpool
    rcases DecreasePositionSwapUtils.swapProfitToCollateralToken_moves hparams hswaps hswap with
      ⟨rfl, rfl⟩ | ⟨swapOutputAmount, rfl, h₃⟩
    · dsimp only at h
      split at h
      · rename_i htoken
        simp only [Tx.pure_eq_ok, Prod.mk.injEq] at h
        obtain ⟨⟨rfl, rfl⟩, rfl⟩ := h
        refine (h₁.trans h₂).cast ?_
        funext m t
        simp only [htoken, Pi.add_apply, entry]
        split_ifs <;> omega
      · simp only [Tx.pure_eq_ok, Prod.mk.injEq] at h
        obtain ⟨⟨rfl, rfl⟩, rfl⟩ := h
        refine (h₁.trans h₂).cast ?_
        funext m t
        simp only [Pi.add_apply, entry]
        split_ifs <;> omega
    · simp only [Tx.pure_eq_ok, Prod.mk.injEq] at h
      obtain ⟨⟨rfl, rfl⟩, rfl⟩ := h
      refine ((h₁.trans h₂).trans h₃).cast ?_
      funext m t
      simp only [Pi.add_apply, entry]
      split_ifs <;> omega
  · simp only [Tx.pure_eq_ok, Prod.mk.injEq] at h
    obtain ⟨⟨rfl, rfl⟩, rfl⟩ := h
    refine (Moves.refl w).cast ?_
    simp only [Nat.cast_zero, neg_zero, entry_zero, add_zero]

/-- What is left of the output and what was paid of the costs add up. -/
theorem payFeesFromOutput_eq_ok {outputAmount nextOutputAmount : Nat} {fees fees' : PositionFees}
    (hfees : fees.collateralCostAmount = fees.totalNetCostAmount)
    (h : payFeesFromOutput outputAmount fees = .ok (nextOutputAmount, fees')) :
    ∃ costAmount, fees' = { fees with collateralCostAmount := costAmount } ∧
      nextOutputAmount + fees.totalNetCostAmount = outputAmount + costAmount ∧
      (nextOutputAmount = 0 ∨ costAmount = 0) := by
  unfold payFeesFromOutput at h
  split at h
  · split at h
    · simp only [Result.bind_eq_ok, sub_eq_ok, Result.pure_eq_ok, Prod.mk.injEq] at h
      obtain ⟨_, ⟨hle, rfl⟩, rfl, rfl⟩ := h
      exact ⟨0, rfl, by omega, Or.inr rfl⟩
    · simp only [Result.bind_eq_ok, sub_eq_ok, Result.pure_eq_ok, Prod.mk.injEq] at h
      obtain ⟨_, ⟨hle, rfl⟩, rfl, rfl⟩ := h
      exact ⟨_, rfl, by omega, Or.inl rfl⟩
  · rename_i hzero
    simp only [Result.pure_eq_ok, Prod.mk.injEq] at h
    obtain ⟨rfl, rfl⟩ := h
    exact ⟨_, rfl, by omega, Or.inl (by omega)⟩

/-- What a realised pnl is made of. -/
structure Realizes (env : Env) (params : UpdatePositionParams) (cache : DecreasePositionCache)
    (realized : RealizedPnl) (w w' : World) : Prop where
  price : getExecutionPrice env w.dataStore params cache.prices params.order.sizeDeltaUsd =
    .ok (realized.executionPrice, realized.priceImpactAmount, realized.priceImpactDiffUsd)
  pnl : getPositionPnlUsd w.dataStore params.market cache.prices params.position
    realized.executionPrice params.order.sizeDeltaUsd =
      .ok (realized.positionPnlUsd, realized.sizeDeltaInTokens)
  adjusted : adjustPositionPnl realized.positionPnlUsd realized.priceImpactDiffUsd
    realized.collateralTokenPrice = .ok realized.collateralCache
  withdrawal : realized.initialCollateralDeltaAmount =
    adjustInitialCollateralDeltaAmount params.order.initialCollateralDeltaAmount
      realized.collateralCache.adjustedPriceImpactDiffAmount
  fees : getPositionFees env w.dataStore
    { position := params.position, collateralTokenPrice := realized.collateralTokenPrice
      longToken := params.market.longToken, shortToken := params.market.shortToken
      sizeDeltaUsd := params.order.sizeDeltaUsd, uiFeeReceiver := params.order.uiFeeReceiver } =
    .ok realized.fees
  profit : realizeProfit env params cache realized.positionPnlUsd
    realized.collateralCache.adjustedPositionPnlUsd w =
      .ok ((realized.profitAmount, realized.secondaryOutputAmount), w')

/-- What realizing a profit went through. -/
theorem realizePnl_eq_ok {realized : RealizedPnl}
    (h : realizePnl env params cache w = .ok (realized, w')) :
    Realizes env params cache realized w w' := by
  unfold realizePnl at h
  simp only [↓Tx.lift_bind_eq_ok, ↓viewStore_bind_eq_ok] at h
  obtain ⟨_, -, _, hprice, _, hpnl, _, hadjusted, _, hfees, h⟩ := h
  obtain ⟨_, _, hprofit, h⟩ := Tx.bind_eq_ok.mp h
  obtain ⟨rfl, rfl⟩ := Tx.pure_eq_ok.mp h
  exact ⟨hprice, hpnl, hadjusted, rfl, hfees, hprofit⟩

/-- A profit leaves the pool. -/
theorem realizePnl_moves (hparams : params.Consistent) (hswaps : SwapsTokens params)
    (hcache : cache.pnlToken = pnlTokenOf params) {realized : RealizedPnl}
    (h : realizePnl env params cache w = .ok (realized, w')) :
    Moves (entry params.market.marketToken params.position.collateralToken
        (-realized.profitAmount) +
      entry params.market.marketToken (pnlTokenOf params) (-realized.secondaryOutputAmount))
      w w' :=
  realizeProfit_moves hparams hswaps hcache (realizePnl_eq_ok h).profit

/-- There is no output without a profit. -/
theorem realizePnl_profit {realized : RealizedPnl}
    (h : realizePnl env params cache w = .ok (realized, w')) :
    0 < realized.collateralCache.adjustedPositionPnlUsd ∨ realized.profitAmount = 0 := by
  have hprofit := (realizePnl_eq_ok h).profit
  unfold realizeProfit at hprofit
  split at hprofit
  · rename_i hpositive
    exact Or.inl hpositive
  · simp only [Tx.pure_eq_ok, Prod.mk.injEq] at hprofit
    exact Or.inr hprofit.1.1.symm

/-- The fees of a realised pnl are those of the position, in full. -/
theorem realizePnl_fees {realized : RealizedPnl}
    (h : realizePnl env params cache w = .ok (realized, w')) :
    realized.fees.collateralCostAmount = realized.fees.totalNetCostAmount ∧
      realized.fees.totalNetCostAmount = realized.fees.feeReceiverAmount +
        realized.fees.feeAmountForPool + realized.fees.referral.affiliateRewardAmount +
        realized.fees.funding.fundingFeeAmount + realized.fees.ui.uiFeeAmount :=
  getPositionFees_split (realizePnl_eq_ok h).fees

/-- What `payFromProfit` takes over from a realised pnl. -/
structure TakesOver (realized : RealizedPnl) (pending : PendingCollateral) : Prop where
  executionPrice : pending.values.executionPrice = realized.executionPrice
  priceImpactAmount : pending.values.priceImpactAmount = realized.priceImpactAmount
  positionPnlUsd : pending.values.positionPnlUsd = realized.positionPnlUsd
  sizeDeltaInTokens : pending.values.sizeDeltaInTokens = realized.sizeDeltaInTokens
  collateralCache : pending.collateralCache = realized.collateralCache
  collateralTokenPrice : pending.collateralTokenPrice = realized.collateralTokenPrice
  withdrawal : pending.initialCollateralDeltaAmount = realized.initialCollateralDeltaAmount

/-- The fees are paid out of the profit first. -/
theorem payFromProfit_takesOver {realized : RealizedPnl} {pending : PendingCollateral}
    (h : payFromProfit params cache realized = .ok pending) : TakesOver realized pending := by
  simp only [payFromProfit, Result.bind_eq_ok, Result.pure_eq_ok] at h
  obtain ⟨_, -, _, -, rfl⟩ := h
  exact ⟨rfl, rfl, rfl, rfl, rfl, rfl, rfl⟩

/-- What `payFromProfit` hands on. -/
theorem payFromProfit_eq_ok {realized : RealizedPnl} {pending : PendingCollateral}
    (hfees : realized.fees.collateralCostAmount = realized.fees.totalNetCostAmount)
    (h : payFromProfit params cache realized = .ok pending) :
    ∃ costAmount outputAmount,
      pending.fees = { realized.fees with collateralCostAmount := costAmount } ∧
      pending.values.output =
        { outputToken := params.position.collateralToken, outputAmount
          secondaryOutputToken := cache.pnlToken
          secondaryOutputAmount := realized.secondaryOutputAmount } ∧
      pending.values.remainingCollateralAmount = params.position.collateralAmount ∧
      outputAmount + realized.fees.totalNetCostAmount = realized.profitAmount + costAmount ∧
      (outputAmount = 0 ∨ costAmount = 0) ∧
      costAmount ≤ pending.values.pendingCollateralDeduction ∧
      (0 ≤ realized.collateralCache.adjustedPositionPnlUsd →
        pending.values.pendingCollateralDeduction = costAmount) := by
  simp only [payFromProfit, Result.bind_eq_ok, Result.pure_eq_ok] at h
  obtain ⟨⟨outputAmount, fees⟩, hpay, deduction, hdeduction, rfl⟩ := h
  obtain ⟨costAmount, rfl, hsum, hzero⟩ := payFeesFromOutput_eq_ok hfees hpay
  refine ⟨costAmount, outputAmount, rfl, rfl, rfl, hsum, hzero, ?_⟩
  dsimp only at hdeduction ⊢
  split at hdeduction
  · simp only [Result.bind_eq_ok, add_eq_ok] at hdeduction
    obtain ⟨_, -, _, -, _, -, -, rfl⟩ := hdeduction
    omega
  · obtain rfl := Result.pure_eq_ok.mp hdeduction
    exact ⟨le_refl _, fun _ => rfl⟩

/-- What the collateral pays beyond the withdrawal and the fees for others is booked. -/
theorem payFromCollateral_moves {pending : PendingCollateral}
    {values : DecreasePositionCollateralValues} {fees : PositionFees}
    (h : payFromCollateral env params pending w = .ok ((values, fees), w')) :
    Moves (entry params.market.marketToken params.position.collateralToken
      (pending.values.remainingCollateralAmount + pending.values.output.outputAmount -
        values.remainingCollateralAmount - values.output.outputAmount -
        pending.fees.collateralCostAmount + pending.fees.feeReceiverAmount +
        pending.fees.ui.uiFeeAmount)) w w' ∧
      fees = pending.fees ∧
      values.output =
        { pending.values.output with outputAmount := values.output.outputAmount } := by
  unfold payFromCollateral at h
  obtain ⟨remaining₁, w₁, hloss, h⟩ := Tx.bind_eq_ok.mp h
  simp only [↓Tx.lift_bind_eq_ok, sub_eq_ok] at h
  obtain ⟨_, ⟨hle₁, rfl⟩, _, -, h⟩ := h
  obtain ⟨_, w₂, himpact, h⟩ := Tx.bind_eq_ok.mp h
  obtain ⟨remaining₂, w₃, hdiff, h⟩ := Tx.bind_eq_ok.mp h
  simp only [↓Tx.lift_bind_eq_ok, sub_eq_ok, add_eq_ok] at h
  obtain ⟨_, ⟨hle₂, rfl⟩, _, ⟨-, rfl⟩, h⟩ := h
  obtain ⟨_, w₄, hfee, h⟩ := Tx.bind_eq_ok.mp h
  obtain ⟨_, w₅, hui, h⟩ := Tx.bind_eq_ok.mp h
  simp only [Tx.pure_eq_ok, Prod.mk.injEq] at h
  obtain ⟨⟨rfl, rfl⟩, rfl⟩ := h
  have h₁ : Moves (entry params.market.marketToken params.position.collateralToken
      (pending.values.remainingCollateralAmount - remaining₁)) w w₁ := by
    split at hloss
    · simp only [↓Tx.lift_bind_eq_ok, sub_eq_ok, toInt256_eq_ok] at hloss
      obtain ⟨_, -, _, -, amountForPool, -, _, ⟨hle, rfl⟩, _, ⟨-, rfl⟩, hloss⟩ := hloss
      obtain ⟨_, _, hpool, hloss⟩ := Tx.bind_eq_ok.mp hloss
      obtain ⟨rfl, rfl⟩ := Tx.pure_eq_ok.mp hloss
      refine (applyDeltaToPoolAmount_moves hpool).cast (congrArg _ ?_)
      omega
    · obtain ⟨rfl, rfl⟩ := Tx.pure_eq_ok.mp hloss
      rw [sub_self, entry_zero]
      exact Moves.refl w
  have h₂ : Moves 0 w₁ w₂ := Moves.of_writes
    (applyDeltaToPositionImpactPool_writes (List.mem_singleton_self _) _ _) (by decide) himpact
  have h₃ : Moves (entry params.market.marketToken params.position.collateralToken
      ((remaining₁ - pending.fees.collateralCostAmount : Nat) - remaining₂)) w₂ w₃ := by
    split at hdiff
    · simp only [↓Tx.lift_bind_eq_ok, sub_eq_ok] at hdiff
      obtain ⟨_, ⟨hle, rfl⟩, hdiff⟩ := hdiff
      obtain ⟨_, _, hclaimable, hdiff⟩ := Tx.bind_eq_ok.mp hdiff
      obtain ⟨rfl, rfl⟩ := Tx.pure_eq_ok.mp hdiff
      refine (incrementClaimableCollateralAmount_moves hclaimable).cast (congrArg _ ?_)
      omega
    · obtain ⟨rfl, rfl⟩ := Tx.pure_eq_ok.mp hdiff
      rw [sub_self, entry_zero]
      exact Moves.refl w₂
  have h₄ := FeeUtils.incrementClaimableFeeAmount_moves hfee
  have h₅ := FeeUtils.incrementClaimableUiFeeAmount_moves hui
  refine ⟨((((h₁.trans h₂).trans h₃).trans h₄).trans h₅).cast ?_, rfl, rfl⟩
  funext m t
  simp only [Pi.add_apply, Pi.zero_apply, entry]
  split_ifs <;> omega

-- Force closes

/-- In a force close the pool takes what the collateral still has. -/
theorem payForceCloseFromCollateral_moves {values : DecreasePositionCollateralValues}
    {fundingFeeAmount remainingCostAmount : Nat} {remaining : Nat × Nat}
    (h : payForceCloseFromCollateral params values fundingFeeAmount remainingCostAmount w =
      .ok (remaining, w')) :
    Moves (entry params.market.marketToken params.position.collateralToken
      (values.remainingCollateralAmount - min values.remainingCollateralAmount
        fundingFeeAmount)) w w' := by
  unfold payForceCloseFromCollateral at h
  split at h
  · simp only [↓Tx.lift_bind_eq_ok, Tx.pure_eq_ok] at h
    obtain ⟨_, -, -, rfl⟩ := h
    rw [min_eq_left (by omega), sub_self, entry_zero]
    exact Moves.refl w
  · simp only [↓Tx.lift_bind_eq_ok, sub_eq_ok, toInt256_eq_ok] at h
    obtain ⟨_, ⟨hle, rfl⟩, _, -, _, ⟨-, rfl⟩, h⟩ := h
    obtain ⟨_, _, hpool, h⟩ := Tx.bind_eq_ok.mp h
    obtain ⟨-, rfl⟩ := Tx.pure_eq_ok.mp h
    refine (applyDeltaToPoolAmount_moves hpool).cast (congrArg _ ?_)
    rw [min_eq_right (by omega)]
    omega

/-- The unpaid funding fee is taken from the output. -/
theorem payForceCloseFunding_moves {secondaryOutputToken : Address}
    {secondaryOutputAmount remainingFundingFeeAmount nextAmount : Nat}
    {collateralTokenPrice secondaryTokenPrice : Price}
    (h : payForceCloseFunding env params secondaryOutputToken secondaryOutputAmount
      remainingFundingFeeAmount collateralTokenPrice secondaryTokenPrice w =
      .ok (nextAmount, w')) :
    Moves (entry params.market.marketToken secondaryOutputToken
      (secondaryOutputAmount - nextAmount)) w w' ∧ nextAmount ≤ secondaryOutputAmount := by
  unfold payForceCloseFunding at h
  split at h
  · simp only [↓Tx.lift_bind_eq_ok, ↓readStore_bind_eq_ok] at h
    obtain ⟨_, -, _, -, fundingFeeAmount, -, h⟩ := h
    obtain ⟨_, _, hclaimable, h⟩ := Tx.bind_eq_ok.mp h
    obtain ⟨rfl, rfl⟩ := Tx.pure_eq_ok.mp h
    split at hclaimable
    · rename_i hle
      rw [if_pos hle]
      refine ⟨(incrementClaimableCollateralAmount_moves hclaimable).cast (congrArg _ ?_), ?_⟩
      · dsimp only
        omega
      · dsimp only
        omega
    · rename_i hlt
      rw [if_neg hlt]
      exact ⟨(incrementClaimableCollateralAmount_moves hclaimable).cast
        (congrArg _ (by dsimp only; omega)), Nat.zero_le _⟩
  · obtain ⟨rfl, rfl⟩ := Tx.pure_eq_ok.mp h
    rw [sub_self, entry_zero]
    exact ⟨Moves.refl w, le_refl _⟩

/-- The other costs go to the pool. -/
theorem payForceCloseCosts_moves {secondaryOutputToken : Address}
    {secondaryOutputAmount remainingCostAmount nextAmount : Nat}
    {collateralTokenPrice secondaryTokenPrice : Price}
    (h : payForceCloseCosts params secondaryOutputToken secondaryOutputAmount
      remainingCostAmount collateralTokenPrice secondaryTokenPrice w =
      .ok (nextAmount, w')) :
    Moves (entry params.market.marketToken secondaryOutputToken
      (secondaryOutputAmount - nextAmount)) w w' ∧ nextAmount ≤ secondaryOutputAmount := by
  unfold payForceCloseCosts at h
  split at h
  · simp only [↓Tx.lift_bind_eq_ok, toInt256_eq_ok] at h
    obtain ⟨_, -, amountForPool, -, _, ⟨-, rfl⟩, h⟩ := h
    obtain ⟨_, _, hpool, h⟩ := Tx.bind_eq_ok.mp h
    obtain ⟨rfl, rfl⟩ := Tx.pure_eq_ok.mp h
    split at hpool
    · rename_i hlt
      rw [if_pos hlt]
      refine ⟨(applyDeltaToPoolAmount_moves hpool).cast (congrArg _ ?_), ?_⟩
      · dsimp only
        omega
      · dsimp only
        omega
    · rename_i hle
      rw [if_neg hle]
      exact ⟨(applyDeltaToPoolAmount_moves hpool).cast (congrArg _ (by dsimp only; omega)),
        Nat.zero_le _⟩
  · obtain ⟨rfl, rfl⟩ := Tx.pure_eq_ok.mp h
    rw [sub_self, entry_zero]
    exact ⟨Moves.refl w, le_refl _⟩

/-- A force close books the collateral that the funding fee leaves, and what it takes of the
secondary output. It hands on no collateral, no output in the collateral token and no fees. -/
theorem processForceClose_moves {values values' : DecreasePositionCollateralValues}
    {fees fees' : PositionFees} {prices : MarketPrices} {collateralTokenPrice : Price}
    (h : processForceClose env params values fees prices collateralTokenPrice w =
      .ok ((values', fees'), w')) :
    ∃ secondaryOutputAmount : Nat,
      Moves (entry params.market.marketToken params.position.collateralToken
          (values.remainingCollateralAmount - min values.remainingCollateralAmount
            fees.funding.fundingFeeAmount) +
        entry params.market.marketToken values.output.secondaryOutputToken
          (values.output.secondaryOutputAmount - secondaryOutputAmount)) w w' ∧
      values'.output =
        { outputToken := 0, outputAmount := 0
          secondaryOutputToken := values.output.secondaryOutputToken, secondaryOutputAmount } ∧
      values'.remainingCollateralAmount = 0 ∧ fees'.feeAmountForPool = 0 ∧
      fees'.referral.affiliateRewardAmount = 0 := by
  unfold processForceClose at h
  simp only [↓Tx.lift_bind_eq_ok] at h
  obtain ⟨_, -, h⟩ := h
  obtain ⟨_, w₁, hcollateral, h⟩ := Tx.bind_eq_ok.mp h
  simp only [↓Tx.lift_bind_eq_ok] at h
  obtain ⟨_, -, h⟩ := h
  obtain ⟨_, w₂, hfunding, h⟩ := Tx.bind_eq_ok.mp h
  obtain ⟨_, w₃, hcosts, h⟩ := Tx.bind_eq_ok.mp h
  simp only [Tx.pure_eq_ok, Prod.mk.injEq] at h
  obtain ⟨⟨rfl, rfl⟩, rfl⟩ := h
  refine ⟨_, ?_, rfl, rfl, rfl, rfl⟩
  have h₁ := payForceCloseFromCollateral_moves hcollateral
  obtain ⟨h₂, -⟩ := payForceCloseFunding_moves hfunding
  obtain ⟨h₃, -⟩ := payForceCloseCosts_moves hcosts
  refine ((h₁.trans h₂).trans h₃).cast ?_
  rw [add_assoc, entry_add, sub_add_sub_cancel]

end DecreasePositionCollateralUtils

-- ---------------------------------------------------------------------------
-- Decreasing a position
-- ---------------------------------------------------------------------------

namespace DecreasePositionUtils

/-- What a decrease pays out, as entries of the book. -/
def payouts (marketToken : Address) (result : DecreasePositionResult) :
    Address → Address → Int :=
  entry marketToken result.outputToken result.outputAmount +
    entry marketToken result.secondaryOutputToken result.secondaryOutputAmount

/-- Closing a position moves no ledger. -/
theorem closeOrStore_keepsBook {position : Position} {values : DecreasePositionCollateralValues}
    {fees : PositionFees} {nextPositionBorrowingFactor : Nat}
    {closed : Position × DecreasePositionCollateralValues}
    (h : closeOrStore params position values fees nextPositionBorrowingFactor w =
      .ok (closed, w')) : Moves 0 w w' :=
  Moves.of_writes (closeOrStore_writes params (List.subset_cons_self _ positionListSlots)
    List.mem_cons_self position values fees nextPositionBorrowingFactor)
    (bookSlots_disjoint_position _) h

/-- What the closing branch returns: the collateral that the position does not keep is paid
out. -/
theorem closeOrStore_eq_ok {position position' : Position}
    {values values' : DecreasePositionCollateralValues} {fees : PositionFees}
    {nextPositionBorrowingFactor : Nat}
    (h : closeOrStore params position values fees nextPositionBorrowingFactor w =
      .ok ((position', values'), w')) :
    position'.market = position.market ∧ position'.collateralToken = position.collateralToken ∧
      position'.isLong = position.isLong ∧
      position'.collateralAmount ≤ position.collateralAmount ∧
      values'.sizeDeltaInTokens = values.sizeDeltaInTokens ∧
      values'.output = { values.output with
        outputAmount := values.output.outputAmount +
          (position.collateralAmount - position'.collateralAmount) } := by
  unfold closeOrStore at h
  split at h
  · simp only [↓Tx.lift_bind_eq_ok, ↓viewStore_bind_eq_ok, ↓writeStore_bind_eq_ok, add_eq_ok,
      Tx.pure_eq_ok, Prod.mk.injEq] at h
    obtain ⟨_, ⟨-, rfl⟩, _, -, ⟨rfl, rfl⟩, -⟩ := h
    exact ⟨rfl, rfl, rfl, Nat.zero_le _, rfl, rfl⟩
  · simp only [↓writeStore_bind_eq_ok, Tx.pure_eq_ok, Prod.mk.injEq] at h
    obtain ⟨⟨rfl, rfl⟩, -⟩ := h
    refine ⟨rfl, rfl, rfl, le_refl _, rfl, ?_⟩
    dsimp only
    rw [Nat.sub_self, Nat.add_zero]

/-- From the return of `processCollateral` on, the book moves by what the position keeps less,
the fees for the pool and the affiliate, and the outputs. -/
theorem finishDecrease_moves (hparams : params.Consistent) {prices : MarketPrices}
    {values : DecreasePositionCollateralValues} {fees fees' : PositionFees}
    {result : DecreasePositionResult}
    (htoken : values.output.outputToken = params.position.collateralToken ∨
      values.output.outputAmount + values.remainingCollateralAmount = 0)
    (h : finishDecrease env params prices values fees w = .ok ((result, fees'), w')) :
    Moves (outputs params.market.marketToken values.output -
      payouts params.market.marketToken result +
      entry params.market.marketToken params.position.collateralToken
        (values.remainingCollateralAmount - params.position.collateralAmount +
          fees.feeAmountForPool + fees.referral.affiliateRewardAmount)) w w' ∧ fees' = fees := by
  obtain ⟨run⟩ := finishDecrease_run h
  obtain ⟨hresult, hfees⟩ := Prod.mk.inj run.result_eq
  refine ⟨?_, hfees⟩
  rw [hresult]
  obtain ⟨hmarket, hcollateral, -, hkept, -, houtput⟩ := closeOrStore_eq_ok run.closing
  dsimp only at hmarket hcollateral hkept houtput
  have hle := run.collateral_le
  have hsum := run.summing
  have hpool := run.pooling
  rw [hmarket, hcollateral, hparams.positionMarket] at hsum
  rw [hcollateral] at hpool
  have h₁ : Moves 0 w run.borrowed := Moves.of_writes
    (updateTotalBorrowing_writes (List.mem_singleton_self _) _ _ _ _ _ _) (by decide)
    run.borrowing
  have h₂ : Moves 0 run.borrowed run.credited := Moves.of_writes
    (incrementClaimableFundingAmount_writes (List.mem_singleton_self _) _ _) (by decide)
    run.crediting
  have h₃ := closeOrStore_keepsBook run.closing
  have h₄ := applyDeltaToCollateralSum_moves hsum
  have h₅ : Moves 0 run.summed run.lowered := Moves.of_writes
    (updateOpenInterest_writes (List.Subset.refl _) _ _ _) (by decide) run.lowering
  have h₆ := applyDeltaToPoolAmount_moves hpool
  have h₇ := ReferralUtils.incrementAffiliateReward_moves run.referring
  have h₈ := DecreasePositionSwapUtils.swapWithdrawnCollateralToPnlToken_moves
    (by
      rw [houtput, hcollateral]
      rcases htoken with htoken | hzero
      · exact Or.inl htoken
      · exact Or.inr (by dsimp only; omega)) run.swapping
  refine (((((((h₁.trans h₂).trans h₃).trans h₄).trans h₅).trans h₆).trans h₇).trans h₈).cast ?_
  funext m t
  rcases htoken with htoken | hzero
  · simp only [outputs, payouts, houtput, htoken, hmarket, hcollateral, hparams.positionMarket,
      Pi.add_apply, Pi.sub_apply, Pi.zero_apply, entry]
    split_ifs <;> omega
  · have hkept' : run.position.collateralAmount = 0 := by omega
    have hkept'' : values.remainingCollateralAmount = 0 := by omega
    have houtput' : values.output.outputAmount = 0 := by omega
    simp only [outputs, payouts, houtput, hkept', hkept'', houtput', hmarket, hcollateral,
      hparams.positionMarket, Pi.add_apply, Pi.sub_apply, Pi.zero_apply, entry]
    split_ifs <;> omega

variable (env) in
/-- A decrease up to the payment of the fees. -/
def untilFees (params : UpdatePositionParams) :
    Tx (UpdatePositionParams × MarketPrices × RealizedPnl) := do
  let (params, prices) ← prepareDecrease env params
  let realized ← realizePnl env params (makeCache params prices)
  pure (params, prices, realized)

variable (env) in
/-- A decrease up to the comparison of the pending deduction with the collateral. -/
def untilComparison (params : UpdatePositionParams) :
    Tx (UpdatePositionParams × MarketPrices × PendingCollateral) := do
  let (params, prices, realized) ← untilFees env params
  let pending ← payFromProfit params (makeCache params prices) realized
  pure (params, prices, pending)

variable (env) in
/-- Whether a decrease that succeeds takes the force close branch. -/
def takesForceClose (params : UpdatePositionParams) (w : World) : Bool :=
  match untilComparison env params w with
  | .ok ((_, _, pending), _) => decide (pending.values.pendingCollateralDeduction >
      pending.values.remainingCollateralAmount)
  | .error _ => false

/-- The comparison is reached with the parameters of an adjusted order. -/
theorem untilComparison_eq_ok {params' : UpdatePositionParams} {prices : MarketPrices}
    {pending : PendingCollateral}
    (h : untilComparison env params w = .ok ((params', prices, pending), w')) :
    ∃ order realized w₁, params' = { params with order } ∧ IsAdjusted params.order order ∧
      SwapsTokens params' ∧
      updateFundingAndBorrowingState env params' prices w = .ok ((), w₁) ∧
      realizePnl env params' (makeCache params' prices) w₁ = .ok (realized, w') ∧
      untilFees env params w = .ok ((params', prices, realized), w') ∧
      payFromProfit params' (makeCache params' prices) realized = .ok pending := by
  unfold untilComparison at h
  obtain ⟨⟨params', prices', realized⟩, w₂, hfees, h⟩ := Tx.bind_eq_ok.mp h
  simp only [↓Tx.lift_bind_eq_ok, Tx.pure_eq_ok, Prod.mk.injEq] at h
  obtain ⟨_, hpending, ⟨rfl, rfl, rfl⟩, rfl⟩ := h
  have hrun := hfees
  unfold untilFees at hfees
  obtain ⟨⟨params', prices'⟩, w₁, hprepare, h⟩ := Tx.bind_eq_ok.mp hfees
  obtain ⟨realized', w₂, hrealize, h⟩ := Tx.bind_eq_ok.mp h
  simp only [Tx.pure_eq_ok, Prod.mk.injEq] at h
  obtain ⟨⟨rfl, rfl, rfl⟩, rfl⟩ := h
  obtain ⟨order, -, hadjust, rfl, hstate⟩ := prepareDecrease_eq_ok hprepare
  obtain ⟨hadjusted, -, hswaps⟩ := adjustOrder_isAdjusted params hadjust
  exact ⟨order, _, w₁, rfl, hadjusted, hswaps, hstate, hrealize, hrun, hpending⟩

/-- A decrease that succeeds, taken apart at the comparison. -/
theorem decreasePosition_eq_ok {result : DecreasePositionResult} {fees : PositionFees}
    (h : decreasePosition env params w = .ok ((result, fees), w')) :
    ∃ params' prices pending w₁ values w₂,
      untilComparison env params w = .ok ((params', prices, pending), w₁) ∧
      (if takesForceClose env params w then
        isForceClosable params' = true ∧
          processForceClose env params' pending.values pending.fees prices
            pending.collateralTokenPrice w₁ = .ok (values, w₂)
      else payFromCollateral env params' pending w₁ = .ok (values, w₂)) ∧
      finishDecrease env params' prices values.1 values.2 w₂ = .ok ((result, fees), w') := by
  obtain ⟨run⟩ := decreasePosition_run h
  have hcharge := run.charging
  unfold processCollateral at hcharge
  obtain ⟨realized, w₁, hrealize, hcharge⟩ := Tx.bind_eq_ok.mp hcharge
  simp only [↓Tx.lift_bind_eq_ok] at hcharge
  obtain ⟨pending, hpending, hcharge⟩ := hcharge
  have hreached : untilComparison env params w =
      .ok (({ params with order := run.order }, run.prices, pending), w₁) := by
    refine Tx.bind_eq_ok.mpr ⟨({ params with order := run.order }, run.prices, realized), w₁, ?_,
      ?_⟩
    · exact Tx.bind_eq_ok.mpr ⟨_, _, run.preparing, Tx.bind_eq_ok.mpr ⟨_, _, hrealize, rfl⟩⟩
    · exact Tx.lift_bind_eq_ok.mpr ⟨_, hpending, rfl⟩
  refine ⟨_, run.prices, pending, w₁, (run.values, run.fees), run.charged, hreached, ?_,
    run.finishing⟩
  unfold takesForceClose
  rw [hreached]
  dsimp only
  split at hcharge
  · rename_i hexceeds
    rw [if_pos (decide_eq_true hexceeds)]
    split at hcharge
    · rename_i hclosable
      exact ⟨hclosable, hcharge⟩
    · obtain ⟨hrevert, -⟩ := Tx.lift_eq_ok.mp hcharge
      simp at hrevert
  · rename_i hexceeds
    rw [if_neg (by simpa using hexceeds)]
    exact hcharge

/-- The adjusted order is about the same position. -/
theorem Consistent.adjusted {order : Order} (hparams : params.Consistent)
    (hadjusted : IsAdjusted params.order order) :
    UpdatePositionParams.Consistent { params with order } := by
  obtain ⟨_, _, _, rfl⟩ := hadjusted
  exact ⟨hparams.orderMarket, hparams.positionMarket, hparams.collateralToken⟩

/-- What the book loses until the comparison is the realised profit. -/
theorem untilComparison_moves (hparams : params.Consistent) {params' : UpdatePositionParams}
    {prices : MarketPrices} {pending : PendingCollateral} {realized : RealizedPnl}
    (h : untilComparison env params w = .ok ((params', prices, pending), w'))
    (hrealized : untilFees env params w = .ok ((params', prices, realized), w')) :
    Moves (entry params.market.marketToken params.position.collateralToken
        (-realized.profitAmount) +
      entry params.market.marketToken (pnlTokenOf params) (-realized.secondaryOutputAmount))
      w w' := by
  obtain ⟨order, realized', w₁, rfl, hadjusted, hswaps, hstate, hrealize, hfees, -⟩ :=
    untilComparison_eq_ok h
  rw [hfees] at hrealized
  cases hrealized
  have h₁ : Moves 0 w w₁ := Moves.of_writes
    (updateFundingAndBorrowingState_writes env (List.Subset.refl _) _ _) (by decide) hstate
  have h₂ := realizePnl_moves (Consistent.adjusted hparams hadjusted) hswaps rfl hrealize
  exact (h₁.trans h₂).cast (zero_add _)

/-- A decrease that is paid for by the position moves the book by its payouts and the funding
fee. -/
theorem decreasePosition_moves (hparams : params.Consistent)
    (hforce : takesForceClose env params w = false) {result : DecreasePositionResult}
    {fees : PositionFees} (h : decreasePosition env params w = .ok ((result, fees), w')) :
    Moves (entry params.market.marketToken params.position.collateralToken
      (-fees.funding.fundingFeeAmount) - payouts params.market.marketToken result) w w' := by
  obtain ⟨params', prices, pending, w₁, ⟨values, fees'⟩, w₂, hreached, hbranch, hfinish⟩ :=
    decreasePosition_eq_ok h
  rw [hforce, if_neg Bool.false_ne_true] at hbranch
  obtain ⟨order, realized, w₀, rfl, hadjusted, hswaps, -, hrealize, hrealized, hpending⟩ :=
    untilComparison_eq_ok hreached
  have h₁ := untilComparison_moves hparams hreached hrealized
  obtain ⟨hcost, hsplit⟩ := realizePnl_fees hrealize
  obtain ⟨costAmount, outputAmount, hfees, houtput, hremaining, hpaid, -⟩ :=
    payFromProfit_eq_ok hcost hpending
  obtain ⟨h₂, rfl, houtput'⟩ := payFromCollateral_moves hbranch
  rw [houtput] at houtput'
  obtain ⟨h₃, rfl⟩ := finishDecrease_moves (Consistent.adjusted hparams hadjusted)
    (Or.inl (by rw [houtput'])) hfinish
  refine ((h₁.trans h₂).trans h₃).cast ?_
  rw [hfees, hremaining, houtput, houtput']
  funext m t
  simp only [outputs, Pi.add_apply, Pi.sub_apply, entry, makeCache, pnlTokenOf]
  split_ifs <;> omega

variable (env) in
/-- What a decrease of the position in this state realises, if it gets that far. -/
def realizedPnl (params : UpdatePositionParams) (w : World) : Option RealizedPnl :=
  match untilFees env params w with
  | .ok ((_, _, realized), _) => some realized
  | .error _ => none

variable (env) in
/-- The profit that a decrease takes out of the pool in the collateral token. -/
def profitInCollateralToken (params : UpdatePositionParams) (w : World) : Nat :=
  (realizedPnl env params w).elim 0 (·.profitAmount)

variable (env) in
/-- The funding fee that the position owes. -/
def fundingFeeDue (params : UpdatePositionParams) (w : World) : Nat :=
  (realizedPnl env params w).elim 0 (·.fees.funding.fundingFeeAmount)

variable (env) in
/-- All fees that the position owes. -/
def totalCostDue (params : UpdatePositionParams) (w : World) : Nat :=
  (realizedPnl env params w).elim 0 (·.fees.totalNetCostAmount)

section RealizedPnl

variable {params' : UpdatePositionParams} {prices : MarketPrices} {realized : RealizedPnl}
  (h : untilFees env params w = .ok ((params', prices, realized), w'))

include h

/-- The profit in the collateral token is what was realized. -/
theorem profitInCollateralToken_eq : profitInCollateralToken env params w =
    realized.profitAmount := by
  simp only [profitInCollateralToken, realizedPnl, h, Option.elim_some]

/-- The funding fee is the one that was charged. -/
theorem fundingFeeDue_eq : fundingFeeDue env params w =
    realized.fees.funding.fundingFeeAmount := by
  simp only [fundingFeeDue, realizedPnl, h, Option.elim_some]

/-- So are the costs. -/
theorem totalCostDue_eq : totalCostDue env params w = realized.fees.totalNetCostAmount := by
  simp only [totalCostDue, realizedPnl, h, Option.elim_some]

end RealizedPnl

/-- A force close moves the book by its payouts, the profit in the collateral token and what the
collateral pays of the funding fee. -/
theorem decreasePosition_moves_of_forceClose (hparams : params.Consistent)
    (hforce : takesForceClose env params w = true) {result : DecreasePositionResult}
    {fees : PositionFees} (h : decreasePosition env params w = .ok ((result, fees), w')) :
    Moves (entry params.market.marketToken params.position.collateralToken
      (-(profitInCollateralToken env params w +
        min params.position.collateralAmount (fundingFeeDue env params w) : Nat)) -
      payouts params.market.marketToken result) w w' := by
  obtain ⟨params', prices, pending, w₁, ⟨values, fees'⟩, w₂, hreached, hbranch, hfinish⟩ :=
    decreasePosition_eq_ok h
  rw [hforce, if_pos rfl] at hbranch
  obtain ⟨order, realized, w₀, rfl, hadjusted, hswaps, -, hrealize, hrealized, hpending⟩ :=
    untilComparison_eq_ok hreached
  have h₁ := untilComparison_moves hparams hreached hrealized
  obtain ⟨hcost, -⟩ := realizePnl_fees hrealize
  obtain ⟨costAmount, outputAmount, hfees, houtput, hremaining, -⟩ :=
    payFromProfit_eq_ok hcost hpending
  obtain ⟨secondaryOutputAmount, h₂, houtput', hkept, hpool, haffiliate⟩ :=
    processForceClose_moves hbranch.2
  obtain ⟨h₃, rfl⟩ := finishDecrease_moves (Consistent.adjusted hparams hadjusted)
    (Or.inr (by rw [houtput', hkept])) hfinish
  refine ((h₁.trans h₂).trans h₃).cast ?_
  rw [houtput', hfees, hremaining, houtput, hkept, hpool, haffiliate,
    profitInCollateralToken_eq hrealized, fundingFeeDue_eq hrealized]
  funext m t
  simp only [outputs, Pi.add_apply, Pi.sub_apply, entry, makeCache, pnlTokenOf, Nat.cast_add]
  split_ifs <;> omega

end DecreasePositionUtils

end GmxSynthetics
