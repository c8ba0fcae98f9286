import GmxSynthetics.Position.PositionStore
import GmxSynthetics.Position.UpdateRuns
import GmxSynthetics.Swap.SwapFootprint

/-!
# Footprints of position updates

The slots that an increase or a decrease of a position may change. The list is coarse: it
is read to show what stays as it is, above all the pending requests and the market list.
-/

namespace GmxSynthetics

variable {slots : List Slot} (env : Env)

-- ---------------------------------------------------------------------------
-- Position updates
-- ---------------------------------------------------------------------------

/-- What storing or removing a position writes besides its fields. -/
def positionListSlots : List Slot :=
  [.constant .POSITION_LIST, .constant .ACCOUNT_POSITION_LIST]

/-- The funding and borrowing state of a market. -/
def marketStateSlots : List Slot :=
  [.constant .FUNDING_AMOUNT_PER_SIZE, .constant .FUNDING_UPDATED_AT,
    .constant .CUMULATIVE_BORROWING_FACTOR, .constant .CUMULATIVE_BORROWING_FACTOR_UPDATED_AT]

/-- The open interest of a market. -/
def openInterestSlots : List Slot :=
  [.constant .OPEN_INTEREST, .constant .OPEN_INTEREST_IN_TOKENS,
    .constant .VIRTUAL_INVENTORY_FOR_POSITIONS]

/-- The amounts of a market that a position update moves. -/
def ledgerSlots : List Slot :=
  [.constant .POOL_AMOUNT, .constant .VIRTUAL_INVENTORY_FOR_SWAPS,
    .constant .POSITION_IMPACT_POOL_AMOUNT, .constant .CLAIMABLE_COLLATERAL_AMOUNT,
    .constant .CLAIMABLE_FUNDING_AMOUNT, .constant .CLAIMABLE_FEE_AMOUNT,
    .constant .CLAIMABLE_UI_FEE_AMOUNT, .constant .AFFILIATE_REWARD]

/-- The same without the position impact pool. -/
def paymentSlots : List Slot :=
  [.constant .POOL_AMOUNT, .constant .VIRTUAL_INVENTORY_FOR_SWAPS,
    .constant .CLAIMABLE_COLLATERAL_AMOUNT, .constant .CLAIMABLE_FUNDING_AMOUNT,
    .constant .CLAIMABLE_FEE_AMOUNT, .constant .CLAIMABLE_UI_FEE_AMOUNT,
    .constant .AFFILIATE_REWARD]

theorem paymentSlots_subset {slots : List Slot} (hslots : ledgerSlots ⊆ slots) :
    paymentSlots ⊆ slots :=
  List.Subset.trans (by decide) hslots

/-- What an increase of a position writes, and a decrease besides its swaps. -/
def positionUpdateSlots : List Slot :=
  .position :: positionListSlots ++ marketStateSlots ++ openInterestSlots ++ ledgerSlots ++
    [.constant .TOTAL_BORROWING, .constant .COLLATERAL_SUM]

/-- What a decrease writes once its collateral has been processed, besides its swaps. -/
def finishSlots : List Slot :=
  positionListSlots ++ openInterestSlots ++ paymentSlots ++
    [.constant .TOTAL_BORROWING, .constant .COLLATERAL_SUM]

variable (hslots : positionUpdateSlots ⊆ slots)

include hslots

theorem positionListSlots_subset : positionListSlots ⊆ slots :=
  List.Subset.trans (by decide) hslots

theorem marketStateSlots_subset : marketStateSlots ⊆ slots :=
  List.Subset.trans (by decide) hslots

theorem openInterestSlots_subset : openInterestSlots ⊆ slots :=
  List.Subset.trans (by decide) hslots

theorem ledgerSlots_subset : ledgerSlots ⊆ slots :=
  List.Subset.trans (by decide) hslots

theorem finishSlots_subset : finishSlots ⊆ slots :=
  List.Subset.trans (by decide) hslots

omit hslots

namespace PositionUtils

/-- The update of funding and borrowing writes the factors of the market. -/
theorem updateFundingAndBorrowingState_writes (hslots : marketStateSlots ⊆ slots)
    (params : UpdatePositionParams) (prices : MarketPrices) :
    Writes slots (updateFundingAndBorrowingState env params prices) := by
  have hfunding := MarketUtils.updateFundingAmountPerSize_writes (hslots (by decide))
    (hslots (by decide)) env params.market prices
  have hborrowing := MarketUtils.updateCumulativeBorrowingFactor_writes (hslots (by decide))
    (hslots (by decide)) env params.market prices params.order.isLong
  unfold updateFundingAndBorrowingState
  exact hfunding.bind fun _ => hborrowing

/-- Funding is credited in either token of the market. -/
theorem incrementClaimableFundingAmount_writes
    (h : Slot.constant .CLAIMABLE_FUNDING_AMOUNT ∈ slots) (params : UpdatePositionParams)
    (fees : PositionPricingUtils.PositionFees) :
    Writes slots (incrementClaimableFundingAmount params fees) := by
  have hcredit := fun token : Address =>
    MarketUtils.incrementClaimableFundingAmount_writes h params.market.marketToken token
      params.order.account
  unfold incrementClaimableFundingAmount
  refine (Writes.ite (hcredit params.market.longToken _) (.pure _)).bind fun _ => ?_
  exact .ite (hcredit params.market.shortToken _) (.pure _)

/-- The open interest changes in USD and in tokens, with the virtual inventory of the token. -/
theorem updateOpenInterest_writes (hslots : openInterestSlots ⊆ slots)
    (params : UpdatePositionParams) (sizeDeltaUsd sizeDeltaInTokens : Int) :
    Writes slots (updateOpenInterest params sizeDeltaUsd sizeDeltaInTokens) := by
  have husd := MarketUtils.applyDeltaToOpenInterest_writes (hslots (by decide))
    (hslots (by decide)) params.market params.position.collateralToken params.position.isLong
    sizeDeltaUsd
  have htokens := MarketUtils.applyDeltaToOpenInterestInTokens_writes (hslots (by decide))
    params.position.market params.position.collateralToken params.position.isLong
    sizeDeltaInTokens
  unfold updateOpenInterest
  refine .ite ?_ (.pure _)
  exact husd.bind fun _ => htokens.bind fun _ => .pure _

end PositionUtils

namespace IncreasePositionUtils

/-- The fees are charged to the collateral, and the part for the pool is added to it. -/
theorem processCollateral_writes (hslots : paymentSlots ⊆ slots)
    (hsum : Slot.constant .COLLATERAL_SUM ∈ slots) (params : PositionUtils.UpdatePositionParams)
    (prices : MarketPrices) (collateralDeltaAmount : Int) :
    Writes slots (processCollateral env params prices collateralDeltaAmount) := by
  have hpool := MarketUtils.applyDeltaToPoolAmount_writes (hslots (by decide))
    (hslots (by decide)) params.market.marketToken params.position.collateralToken
  unfold processCollateral
  refine (Writes.lift _).bind fun collateralTokenPrice => (Writes.viewStore _).bind fun fees => ?_
  refine (FeeUtils.incrementClaimableFeeAmount_writes (hslots (by decide)) _ _ _).bind fun _ => ?_
  refine (FeeUtils.incrementClaimableUiFeeAmount_writes (hslots (by decide)) _ _ _ _).bind
    fun _ => ?_
  refine (Writes.lift _).bind fun _ => (Writes.lift _).bind fun collateralDeltaAmount => ?_
  refine (MarketUtils.applyDeltaToCollateralSum_writes hsum _ _ _ _).bind fun _ => ?_
  exact (Writes.lift _).bind fun feeAmountForPool => (hpool feeAmountForPool).bind fun _ => .pure _

namespace IncreaseRun

variable {env} {params : PositionUtils.UpdatePositionParams} {collateralIncrementAmount : Nat}
  {fees : PositionPricingUtils.PositionFees} {w w' : World}
  (run : IncreaseRun env params collateralIncrementAmount fees w w')

include run

/-- What is written until an increase is priced. -/
theorem sameOff_charged (hstate : marketStateSlots ⊆ slots) (hslots : paymentSlots ⊆ slots)
    (hsum : Slot.constant .COLLATERAL_SUM ∈ slots) : World.SameOff slots w run.charged :=
  (PositionUtils.updateFundingAndBorrowingState_writes env hstate _ _ run.updating).trans
    (processCollateral_writes env hslots hsum _ _ _ run.charging)

/-- What is written from the price on until the position is stored, besides the impact pool. -/
theorem sameOff_stored (htotal : Slot.constant .TOTAL_BORROWING ∈ slots)
    (hfunding : Slot.constant .CLAIMABLE_FUNDING_AMOUNT ∈ slots)
    (hlists : positionListSlots ⊆ slots) (hkey : params.positionKey.slot ∈ slots) :
    World.SameOff slots run.impacted run.stored :=
  ((MarketUtils.updateTotalBorrowing_writes htotal _ _ _ _ _ _ run.borrowing).trans
    (PositionUtils.incrementClaimableFundingAmount_writes hfunding _ _ run.crediting)).trans
    (Writes.writeStore (positionStore.set_changesWithin hkey hlists _) run.storing)

/-- What is written once the position is stored. -/
theorem sameOff_referred (hslots : openInterestSlots ⊆ slots)
    (hreward : Slot.constant .AFFILIATE_REWARD ∈ slots) : World.SameOff slots run.stored w' :=
  (PositionUtils.updateOpenInterest_writes hslots _ _ _ run.opening).trans
    (ReferralUtils.incrementAffiliateReward_writes hreward _ _ _ _ run.referring)

end IncreaseRun

/-- An increase writes the position, the state of its market and its ledgers. -/
theorem increasePosition_writes (hslots : positionUpdateSlots ⊆ slots)
    (params : PositionUtils.UpdatePositionParams) (hkey : params.positionKey.slot = .position)
    (collateralIncrementAmount : Nat) :
    Writes slots (increasePosition env params collateralIncrementAmount) := by
  intro w fees w' h
  obtain ⟨run⟩ := increasePosition_run h
  have hposition : params.positionKey.slot ∈ slots := hkey ▸ hslots (by decide)
  have h₁ := run.sameOff_charged (marketStateSlots_subset hslots)
    (paymentSlots_subset (ledgerSlots_subset hslots)) (hslots (by decide))
  have h₂ : World.SameOff slots run.charged run.impacted :=
    MarketUtils.applyDeltaToPositionImpactPool_writes (hslots (by decide)) _ _ run.impacting
  have h₃ := run.sameOff_stored (hslots (by decide)) (hslots (by decide))
    (positionListSlots_subset hslots) hposition
  have h₄ := run.sameOff_referred (openInterestSlots_subset hslots) (hslots (by decide))
  exact ((h₁.trans h₂).trans h₃).trans h₄

end IncreasePositionUtils

namespace DecreasePositionSwapUtils

/-- The swap of a profit writes what a swap writes, and nothing where it fails. -/
theorem swapProfitToCollateralToken_writes (hslots : swapSlots ⊆ slots)
    (params : PositionUtils.UpdatePositionParams) (pnlToken : Address) (profitAmount : Nat) :
    Writes slots (swapProfitToCollateralToken env params pnlToken profitAmount) := by
  unfold swapProfitToCollateralToken
  refine .ite ((Writes.attempt (SwapUtils.swap_writes env hslots _)).bind ?_) (.pure _)
  intro swapped
  match swapped with
  | .ok (_, swapOutputAmount) => exact .pure _
  | .error _ => exact .pure _

/-- So does the swap of the withdrawn collateral. -/
theorem swapWithdrawnCollateralToPnlToken_writes (hslots : swapSlots ⊆ slots)
    (params : PositionUtils.UpdatePositionParams)
    (values : PositionUtils.DecreasePositionCollateralValues) :
    Writes slots (swapWithdrawnCollateralToPnlToken env params values) := by
  unfold swapWithdrawnCollateralToPnlToken
  refine .ite ((Writes.attempt (SwapUtils.swap_writes env hslots _)).bind ?_) (.pure _)
  intro swapped
  match swapped with
  | .ok (tokenOut, swapOutputAmount) =>
    exact (Writes.lift _).bind fun _ => (Writes.lift _).bind fun _ => .pure _
  | .error _ => exact .pure _

end DecreasePositionSwapUtils

namespace DecreasePositionCollateralUtils

open PositionUtils

variable (params : UpdatePositionParams) (cache : DecreasePositionCache)

/-- A profit leaves the pool; the part that pays for cut off impact becomes claimable. -/
theorem realizeProfit_writes (hslots : paymentSlots ⊆ slots) (hswap : swapSlots ⊆ slots)
    (positionPnlUsd adjustedPositionPnlUsd : Int) :
    Writes slots (realizeProfit env params cache positionPnlUsd adjustedPositionPnlUsd) := by
  have hclaimable := MarketUtils.incrementClaimableCollateralAmount_writes (hslots (by decide))
    env params.market.marketToken cache.pnlToken params.order.account
  have hpool := MarketUtils.applyDeltaToPoolAmount_writes (hslots (by decide))
    (hslots (by decide)) params.market.marketToken cache.pnlToken
  unfold realizeProfit
  refine .ite ?_ (.pure _)
  refine (Writes.lift _).bind fun _ => (Writes.lift _).bind fun deductionAmountForPool => ?_
  refine (Writes.lift _).bind fun _ => (Writes.lift _).bind fun pnlAmountForUser => ?_
  refine (Writes.lift _).bind fun pnlDiffAmount => ?_
  refine (Writes.ite (hclaimable pnlDiffAmount) (.pure _)).bind fun _ => ?_
  refine (Writes.lift _).bind fun _ => (Writes.lift _).bind fun delta => ?_
  refine (hpool delta).bind fun _ => ?_
  refine (DecreasePositionSwapUtils.swapProfitToCollateralToken_writes env hswap _ _ _).bind ?_
  intro swapped
  cases swapped with
  | some swapOutputAmount => exact .pure _
  | none => exact .ite (.pure _) (.pure _)

/-- Up to the payment of the fees only the profit is written. -/
theorem realizePnl_writes (hslots : paymentSlots ⊆ slots) (hswap : swapSlots ⊆ slots) :
    Writes slots (realizePnl env params cache) := by
  unfold realizePnl
  refine (Writes.lift _).bind fun collateralTokenPrice => (Writes.viewStore _).bind ?_
  rintro ⟨executionPrice, priceImpactAmount, priceImpactDiffUsd⟩
  refine (Writes.viewStore _).bind ?_
  rintro ⟨positionPnlUsd, sizeDeltaInTokens⟩
  refine (Writes.lift _).bind fun collateralCache => (Writes.viewStore _).bind fun fees => ?_
  exact (realizeProfit_writes env _ _ hslots hswap _ _).bind fun _ => .pure _

/-- The collateral pays losses to the pool, fees, cut off impact and the impact pool. -/
theorem payFromCollateral_writes (hslots : ledgerSlots ⊆ slots)
    (pending : PendingCollateral) : Writes slots (payFromCollateral env params pending) := by
  have hpool := MarketUtils.applyDeltaToPoolAmount_writes (hslots (by decide))
    (hslots (by decide)) params.market.marketToken params.position.collateralToken
  have himpact := MarketUtils.applyDeltaToPositionImpactPool_writes (hslots (by decide))
    params.market.marketToken
  have hclaimable := MarketUtils.incrementClaimableCollateralAmount_writes (hslots (by decide))
    env params.market.marketToken params.position.collateralToken params.order.account
  unfold payFromCollateral
  refine (Writes.ite ?_ (.pure _)).bind fun _ => ?_
  · -- a loss is paid to the pool
    refine (Writes.lift _).bind fun _ => (Writes.lift _).bind fun loss => ?_
    refine (Writes.lift _).bind fun amountForPool => (Writes.lift _).bind fun _ => ?_
    exact (Writes.lift _).bind fun delta => (hpool delta).bind fun _ => .pure _
  refine (Writes.lift _).bind fun _ => (Writes.lift _).bind fun impactDelta => ?_
  refine (himpact impactDelta).bind fun _ => ?_
  refine (Writes.ite ?_ (.pure _)).bind fun _ => ?_
  · -- cut off impact becomes claimable
    exact (Writes.lift _).bind fun _ => (hclaimable _).bind fun _ => .pure _
  refine (Writes.lift _).bind fun _ => (Writes.lift _).bind fun outputAmount => ?_
  refine (FeeUtils.incrementClaimableFeeAmount_writes (hslots (by decide)) _ _ _).bind fun _ => ?_
  exact (FeeUtils.incrementClaimableUiFeeAmount_writes (hslots (by decide)) _ _ _ _).bind
    fun _ => .pure _

/-- In a force close, what the collateral holds beyond the funding fee goes to the pool. -/
theorem payForceCloseFromCollateral_writes (hslots : paymentSlots ⊆ slots)
    (values : DecreasePositionCollateralValues) (fundingFeeAmount remainingCostAmount : Nat) :
    Writes slots
      (payForceCloseFromCollateral params values fundingFeeAmount remainingCostAmount) := by
  have hpool := MarketUtils.applyDeltaToPoolAmount_writes (hslots (by decide))
    (hslots (by decide)) params.market.marketToken params.position.collateralToken
  unfold payForceCloseFromCollateral
  refine .ite ?_ ?_
  · exact (Writes.lift _).bind fun _ => .pure _
  · refine (Writes.lift _).bind fun amountForPool => (Writes.lift _).bind fun _ => ?_
    exact (Writes.lift _).bind fun delta => (hpool delta).bind fun _ => .pure _

/-- The funding fee that is left becomes claimable by the holding address. -/
theorem payForceCloseFunding_writes (hslots : paymentSlots ⊆ slots)
    (secondaryOutputToken : Address) (secondaryOutputAmount remainingFundingFeeAmount : Nat)
    (collateralTokenPrice secondaryTokenPrice : Price) :
    Writes slots (payForceCloseFunding env params secondaryOutputToken secondaryOutputAmount
      remainingFundingFeeAmount collateralTokenPrice secondaryTokenPrice) := by
  have hclaimable := MarketUtils.incrementClaimableCollateralAmount_writes (hslots (by decide))
    env params.market.marketToken secondaryOutputToken
  unfold payForceCloseFunding
  refine .ite ?_ (.pure _)
  refine (Writes.readStore _).bind fun holdingAddress => (Writes.lift _).bind fun _ => ?_
  refine (Writes.lift _).bind fun _ => (Writes.lift _).bind fun secondaryFundingFeeAmount => ?_
  exact (hclaimable holdingAddress _).bind fun _ => .pure _

/-- The other costs that are left are paid to the pool of the secondary token. -/
theorem payForceCloseCosts_writes (hslots : paymentSlots ⊆ slots)
    (secondaryOutputToken : Address) (secondaryOutputAmount remainingCostAmount : Nat)
    (collateralTokenPrice secondaryTokenPrice : Price) :
    Writes slots (payForceCloseCosts params secondaryOutputToken secondaryOutputAmount
      remainingCostAmount collateralTokenPrice secondaryTokenPrice) := by
  have hpool := MarketUtils.applyDeltaToPoolAmount_writes (hslots (by decide))
    (hslots (by decide)) params.market.marketToken secondaryOutputToken
  unfold payForceCloseCosts
  refine .ite ?_ (.pure _)
  refine (Writes.lift _).bind fun _ => (Writes.lift _).bind fun secondaryAmountForPool => ?_
  exact (Writes.lift _).bind fun delta => (hpool delta).bind fun _ => .pure _

/-- A force close writes what its three payments write. -/
theorem processForceClose_writes (hslots : paymentSlots ⊆ slots)
    (values : DecreasePositionCollateralValues) (fees : PositionPricingUtils.PositionFees)
    (prices : MarketPrices) (collateralTokenPrice : Price) :
    Writes slots
      (processForceClose env params values fees prices collateralTokenPrice) := by
  unfold processForceClose
  refine (Writes.lift _).bind fun remainingCostAmount => ?_
  refine (payForceCloseFromCollateral_writes params hslots _ _ _).bind ?_
  rintro ⟨remainingFundingFeeAmount, remainingCostAmount⟩
  refine (Writes.lift _).bind fun secondaryTokenPrice => ?_
  refine (payForceCloseFunding_writes env params hslots _ _ _ _ _).bind fun _ => ?_
  exact (payForceCloseCosts_writes params hslots _ _ _ _ _).bind fun _ => .pure _

/-- The profit is taken first; the rest is a force close or a payment from the collateral. -/
theorem processCollateral_writes (hslots : ledgerSlots ⊆ slots) (hswap : swapSlots ⊆ slots) :
    Writes slots (processCollateral env params cache) := by
  have hpayments := paymentSlots_subset hslots
  unfold processCollateral
  refine (realizePnl_writes env params cache hpayments hswap).bind fun realized => ?_
  refine (Writes.lift _).bind fun pending => .ite (.ite ?_ (.lift _)) ?_
  · exact processForceClose_writes env params hpayments _ _ _ _
  · exact payFromCollateral_writes env params hslots pending

end DecreasePositionCollateralUtils

namespace DecreasePositionUtils

open PositionUtils

variable (params : UpdatePositionParams)

/-- Before the collateral is processed only the funding and borrowing state is written. -/
theorem prepareDecrease_writes (hslots : marketStateSlots ⊆ slots) :
    Writes slots (prepareDecrease env params) := by
  unfold prepareDecrease
  refine (Writes.lift _).bind fun prices => (Writes.viewStore _).bind fun order => ?_
  refine (updateFundingAndBorrowingState_writes env hslots _ _).bind fun _ => ?_
  refine (Writes.viewStore _).bind ?_
  rintro ⟨isLiquidatable, reason⟩
  exact (Writes.lift _).bind fun _ => .pure _

/-- The orders that the adjustment of an order can return. -/
def IsAdjusted (order order' : Order) : Prop :=
  ∃ sizeDeltaUsd initialCollateralDeltaAmount decreasePositionSwapType,
    order' = { order with sizeDeltaUsd, initialCollateralDeltaAmount, decreasePositionSwapType }

/-- Adjusting twice is adjusting. -/
theorem IsAdjusted.trans {order order' order'' : Order} (h : IsAdjusted order order')
    (h' : IsAdjusted order' order'') : IsAdjusted order order'' := by
  obtain ⟨_, _, _, rfl⟩ := h
  obtain ⟨sizeDeltaUsd, amount, swapType, rfl⟩ := h'
  exact ⟨sizeDeltaUsd, amount, swapType, rfl⟩

theorem IsAdjusted.refl (order : Order) : IsAdjusted order order :=
  ⟨order.sizeDeltaUsd, order.initialCollateralDeltaAmount, order.decreasePositionSwapType, rfl⟩

/-- A decrease is capped at the size of the position, where it may be. -/
theorem capSizeDelta_isAdjusted {order : Order} (h : capSizeDelta params = .ok order) :
    IsAdjusted params.order order ∧ order.sizeDeltaUsd ≤ params.position.sizeInUsd := by
  unfold capSizeDelta at h
  dsimp only at h
  split at h
  · split at h
    · obtain rfl := Evm.Result.pure_eq_ok.mp h
      exact ⟨⟨_, _, _, rfl⟩, le_refl _⟩
    · simp at h
  · rename_i hle
    obtain rfl := Evm.Result.pure_eq_ok.mp h
    exact ⟨.refl _, by omega⟩

/-- A partial decrease whose rest would be too small becomes a full one. -/
theorem adjustPartialDecrease_isAdjusted {dataStore : DataStore} {prices : MarketPrices}
    {order order' : Order} (hsize : order.sizeDeltaUsd ≤ params.position.sizeInUsd)
    (h : adjustPartialDecrease dataStore params prices order = .ok order') :
    IsAdjusted order order' ∧ order'.sizeDeltaUsd ≤ params.position.sizeInUsd := by
  simp only [adjustPartialDecrease, Evm.Result.bind_eq_ok, Evm.Result.pure_eq_ok] at h
  obtain ⟨_, -, ⟨order₁, _⟩, hwithdrawal, _, -, _, -, rfl⟩ := h
  have hadjusted : IsAdjusted order order₁ ∧ order₁.sizeDeltaUsd = order.sizeDeltaUsd := by
    split at hwithdrawal
    · simp only [Evm.Result.pure_eq_ok, Prod.mk.injEq] at hwithdrawal
      obtain ⟨rfl, -⟩ := hwithdrawal
      exact ⟨.refl _, rfl⟩
    · simp only [Evm.Result.bind_eq_ok, Evm.Result.pure_eq_ok, Prod.mk.injEq] at hwithdrawal
      obtain ⟨_, -, _, -, _, -, _, -, _, -, rfl, -⟩ := hwithdrawal
      exact ⟨⟨_, _, _, rfl⟩, rfl⟩
  obtain ⟨hadjusted, hsize₁⟩ := hadjusted
  -- either rule raises the size to that of the position
  have hclose (order₂ : Order) (c : Prop) [Decidable c]
      (h₂ : IsAdjusted order order₂ ∧ order₂.sizeDeltaUsd ≤ params.position.sizeInUsd) :
      IsAdjusted order
          (if c then { order₂ with sizeDeltaUsd := params.position.sizeInUsd } else order₂) ∧
        (if c then { order₂ with sizeDeltaUsd := params.position.sizeInUsd }
          else order₂).sizeDeltaUsd ≤ params.position.sizeInUsd := by
    split
    · exact ⟨h₂.1.trans ⟨_, _, _, rfl⟩, le_refl _⟩
    · exact h₂
  exact hclose _ _ (hclose _ _ ⟨hadjusted, hsize₁ ▸ hsize⟩)

/-- The adjusted order keeps to the size of the position, and swaps only between two tokens. -/
theorem adjustOrder_isAdjusted {dataStore : DataStore} {prices : MarketPrices} {order : Order}
    (h : adjustOrder dataStore params prices = .ok order) :
    IsAdjusted params.order order ∧ order.sizeDeltaUsd ≤ params.position.sizeInUsd ∧
      (order.decreasePositionSwapType ≠ .NoSwap →
        (if params.position.isLong then params.market.longToken else params.market.shortToken) ≠
          params.position.collateralToken) := by
  simp only [adjustOrder, Evm.Result.bind_eq_ok, Evm.Result.pure_eq_ok] at h
  obtain ⟨order₁, hcap, order₂, hpartial, rfl⟩ := h
  obtain ⟨hadjusted₁, hsize₁⟩ := capSizeDelta_isAdjusted params hcap
  have h₂ : IsAdjusted order₁ order₂ ∧ order₂.sizeDeltaUsd ≤ params.position.sizeInUsd := by
    split at hpartial
    · exact adjustPartialDecrease_isAdjusted params hsize₁ hpartial
    · obtain rfl := Evm.Result.pure_eq_ok.mp hpartial
      exact ⟨.refl _, hsize₁⟩
  let order₃ := if order₂.sizeDeltaUsd = params.position.sizeInUsd ∧
      order₂.initialCollateralDeltaAmount > 0 then { order₂ with initialCollateralDeltaAmount := 0 }
    else order₂
  have h₃ : IsAdjusted params.order order₃ ∧ order₃.sizeDeltaUsd ≤ params.position.sizeInUsd := by
    unfold order₃
    split
    · exact ⟨(hadjusted₁.trans h₂.1).trans ⟨_, _, _, rfl⟩, h₂.2⟩
    · exact ⟨hadjusted₁.trans h₂.1, h₂.2⟩
  by_cases hswap : order₃.decreasePositionSwapType ≠ .NoSwap ∧
      (if params.position.isLong then params.market.longToken else params.market.shortToken) =
        params.position.collateralToken
  · rw [if_pos hswap]
    exact ⟨h₃.1.trans ⟨_, _, _, rfl⟩, h₃.2, fun h => absurd rfl h⟩
  · rw [if_neg hswap]
    exact ⟨h₃.1, h₃.2, fun htype htoken => hswap ⟨htype, htoken⟩⟩

/-- The position is stored, or removed with its lists. -/
theorem closeOrStore_writes (hslots : positionListSlots ⊆ slots)
    (hkey : params.positionKey.slot ∈ slots) (position : Position)
    (values : DecreasePositionCollateralValues) (fees : PositionPricingUtils.PositionFees)
    (nextPositionBorrowingFactor : Nat) :
    Writes slots
      (closeOrStore params position values fees nextPositionBorrowingFactor) := by
  unfold closeOrStore
  split
  · refine (Writes.lift _).bind fun _ => ?_
    intro w a w' h
    simp only [Evm.Tx.bind_eq_ok, viewStore_eq_ok, writeStore_eq_ok, Evm.Tx.pure_eq_ok] at h
    obtain ⟨dataStore, _, ⟨hremove, rfl⟩, _, _, rfl, -, rfl⟩ := h
    exact positionStore.remove_sameOff hkey hslots hremove
  · exact (Writes.writeStore (positionStore.set_changesWithin hkey hslots _)).bind
      fun _ => .pure _

namespace FinishRun

variable {env params} {prices : MarketPrices} {values : DecreasePositionCollateralValues}
  {fees : PositionPricingUtils.PositionFees}
  {result : DecreasePositionResult × PositionPricingUtils.PositionFees} {w w' : World}
  (run : FinishRun env params prices values fees result w w')

include run

/-- What is written until the position is stored or removed. -/
theorem sameOff_closed (htotal : Slot.constant .TOTAL_BORROWING ∈ slots)
    (hfunding : Slot.constant .CLAIMABLE_FUNDING_AMOUNT ∈ slots)
    (hlists : positionListSlots ⊆ slots) (hkey : params.positionKey.slot ∈ slots) :
    World.SameOff slots w run.closed :=
  ((MarketUtils.updateTotalBorrowing_writes htotal _ _ _ _ _ _ run.borrowing).trans
    (incrementClaimableFundingAmount_writes hfunding _ _ run.crediting)).trans
    (closeOrStore_writes params hlists hkey _ _ _ _ run.closing)

/-- What is written from there until the open interest has been lowered. -/
theorem sameOff_lowered (hsum : Slot.constant .COLLATERAL_SUM ∈ slots)
    (hslots : openInterestSlots ⊆ slots) : World.SameOff slots run.closed run.lowered :=
  (MarketUtils.applyDeltaToCollateralSum_writes hsum _ _ _ _ run.summing).trans
    (updateOpenInterest_writes hslots _ _ _ run.lowering)

/-- What is written from there until the outputs are swapped. -/
theorem sameOff_referred (hpool : Slot.constant .POOL_AMOUNT ∈ slots)
    (hinventory : Slot.constant .VIRTUAL_INVENTORY_FOR_SWAPS ∈ slots)
    (hreward : Slot.constant .AFFILIATE_REWARD ∈ slots) :
    World.SameOff slots run.lowered run.referred :=
  (MarketUtils.applyDeltaToPoolAmount_writes hpool hinventory _ _ _ run.pooling).trans
    (ReferralUtils.incrementAffiliateReward_writes hreward _ _ _ _ run.referring)

end FinishRun

/-- From the collateral on, sums, the position and its output are written. -/
theorem finishDecrease_writes (hslots : finishSlots ⊆ slots)
    (hswap : swapSlots ⊆ slots) (hkey : params.positionKey.slot ∈ slots) (prices : MarketPrices)
    (values : DecreasePositionCollateralValues) (fees : PositionPricingUtils.PositionFees) :
    Writes slots (finishDecrease env params prices values fees) := by
  intro w result w' h
  obtain ⟨run⟩ := finishDecrease_run h
  have h₁ := run.sameOff_closed (hslots (by decide)) (hslots (by decide))
    (List.Subset.trans (by decide) hslots) hkey
  have h₂ := run.sameOff_lowered (hslots (by decide)) (List.Subset.trans (by decide) hslots)
  have h₃ := run.sameOff_referred (hslots (by decide)) (hslots (by decide)) (hslots (by decide))
  have h₄ := DecreasePositionSwapUtils.swapWithdrawnCollateralToPnlToken_writes env hswap _ _
    run.swapping
  exact ((h₁.trans h₂).trans h₃).trans h₄

/-- A decrease writes what an increase does, and what its swaps write. -/
theorem decreasePosition_writes (hslots : positionUpdateSlots ⊆ slots)
    (hswap : swapSlots ⊆ slots) (hkey : params.positionKey.slot = .position) :
    Writes slots (decreasePosition env params) := by
  intro w a w' h
  obtain ⟨run⟩ := decreasePosition_run h
  have h₁ := prepareDecrease_writes env params (marketStateSlots_subset hslots) run.preparing
  have h₂ := DecreasePositionCollateralUtils.processCollateral_writes env _ _
    (ledgerSlots_subset hslots) hswap run.charging
  have h₃ := finishDecrease_writes env { params with order := run.order }
    (finishSlots_subset hslots) hswap (hkey ▸ hslots (by decide)) run.prices run.values run.fees
    run.finishing
  exact (h₁.trans h₂).trans h₃

end DecreasePositionUtils

end GmxSynthetics
