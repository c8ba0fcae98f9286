import GmxSynthetics.Position.Conservation

/-!
# Completion of force closes

`processForceClose` subtracts the funding fee from the pending deduction, from which a realised
profit has been taken off before. Everything else it computes stays in range when the ledgers
have room.

* `fundingFee_le_pendingDeduction_iff` — when the subtraction goes through;
* `processForceClose_completes_iff` — a force close completes exactly then.
-/

namespace GmxSynthetics

open Evm MarketUtils PositionUtils PositionPricingUtils DecreasePositionCollateralUtils
  DecreasePositionUtils

-- ---------------------------------------------------------------------------
-- Room in the ledgers
-- ---------------------------------------------------------------------------

/-- The ledgers that a force close adds to, for either token of its outputs. -/
def forceCloseKeys (env : Env) (params : UpdatePositionParams) (dataStore : DataStore) :
    List Key :=
  [params.position.collateralToken, pnlTokenOf params].flatMap fun token =>
    [Keys.poolAmountKey params.market.marketToken token,
      Keys.virtualInventoryForSwapsKey
        (dataStore.getBytes32 (Keys.virtualMarketIdKey params.market.marketToken)) token,
      Keys.claimableCollateralAmountKey params.market.marketToken token,
      Keys.claimableCollateralAmountForAccountKey params.market.marketToken token
        (env.timestamp / dataStore.getUint (.base .CLAIMABLE_COLLATERAL_TIME_DIVISOR))
        (dataStore.getAddress (.base .HOLDING_ADDRESS))]

/-- The configuration of a force close is set, and every ledger it adds to can take another
`amount`. -/
structure ForceCloseReady (env : Env) (params : UpdatePositionParams) (amount : Nat) (w : World) :
    Prop where
  holdingAddress : w.dataStore.getAddress (.base .HOLDING_ADDRESS) ≠ 0
  timeDivisor : w.dataStore.getUint (.base .CLAIMABLE_COLLATERAL_TIME_DIVISOR) ≠ 0
  room : ∀ key ∈ forceCloseKeys env params w.dataStore,
    w.dataStore.getUint key + amount < uintBound

-- Adding a natural number never takes the branch of a negative delta.

theorem negationExceeds_natCast (value limit : Nat) :
    negationExceeds (value : Int) limit = .ok false := by
  unfold GmxSynthetics.negationExceeds Evm.negationExceeds
  rw [if_neg (by omega)]
  rfl

theorem sumReturnUint256_natCast {a b : Nat} (h : a + b < uintBound) :
    Calc.sumReturnUint256 a b = .ok (a + b) := by
  unfold Calc.sumReturnUint256
  split
  · exact add_eq_ok.mpr ⟨h, rfl⟩
  · obtain rfl : b = 0 := by omega
    exact sub_eq_ok.mpr ⟨Nat.zero_le _, rfl⟩

section Ready

variable {env : Env} {params : UpdatePositionParams} {w : World} {amount value : Nat} {key : Key}

theorem ForceCloseReady.mono {amount' : Nat} (h : ForceCloseReady env params amount w)
    (hle : amount' ≤ amount) : ForceCloseReady env params amount' w := by
  refine { h with room := ?_ }
  intro key hkey
  have hroom := h.room key hkey
  omega

theorem ne_base_of_mem_forceCloseKeys {dataStore : DataStore} {name : Base}
    (hkey : key ∈ forceCloseKeys env params dataStore) : Key.base name ≠ key := by
  rintro rfl
  simp [forceCloseKeys, Keys.poolAmountKey, Keys.virtualInventoryForSwapsKey,
    Keys.claimableCollateralAmountKey, Keys.claimableCollateralAmountForAccountKey] at hkey

/-- An increase by part of the room leaves the rest. -/
theorem ForceCloseReady.setUint (h : ForceCloseReady env params amount w)
    (hkey : key ∈ forceCloseKeys env params w.dataStore) (hle : value ≤ amount) :
    ForceCloseReady env params (amount - value)
      { w with dataStore := w.dataStore.setUint key (w.dataStore.getUint key + value) } := by
  have hdivisor : (w.dataStore.setUint key (w.dataStore.getUint key + value)).getUint
      (.base .CLAIMABLE_COLLATERAL_TIME_DIVISOR) =
        w.dataStore.getUint (.base .CLAIMABLE_COLLATERAL_TIME_DIVISOR) := by
    rw [getUint_setUint, if_neg (ne_base_of_mem_forceCloseKeys hkey)]
  refine ⟨h.holdingAddress, hdivisor ▸ h.timeDivisor, ?_⟩
  intro key' hkey'
  have hroom := h.room key' (by
    unfold forceCloseKeys at hkey' ⊢
    rwa [hdivisor] at hkey')
  dsimp only
  rw [getUint_setUint]
  split
  · rename_i heq
    subst heq
    omega
  · omega

variable (h : ForceCloseReady env params amount w)
  (hkey : key ∈ forceCloseKeys env params w.dataStore) (hvalue : value ≤ amount)

include h hkey hvalue

theorem incrementUint_completes :
    ∃ next w', DataStore.incrementUint key value w = .ok (next, w') ∧
      ForceCloseReady env params (amount - value) w' := by
  have hroom := h.room key hkey
  have hadd : add (w.dataStore.getUint key) value = .ok (w.dataStore.getUint key + value) :=
    add_eq_ok.mpr ⟨by omega, rfl⟩
  have hrun : DataStore.incrementUint key value w = .ok (w.dataStore.getUint key + value,
      { w with dataStore := w.dataStore.setUint key (w.dataStore.getUint key + value) }) :=
    readStore_bind_eq_ok.mpr (Tx.lift_bind_eq_ok.mpr ⟨_, hadd, writeStore_bind_eq_ok.mpr rfl⟩)
  exact ⟨_, _, hrun, h.setUint hkey hvalue⟩

theorem applyDeltaToUint_completes (errorMessage : String) :
    ∃ next w', DataStore.applyDeltaToUint key value errorMessage w = .ok (next, w') ∧
      ForceCloseReady env params (amount - value) w' := by
  have hroom := h.room key hkey
  have hsum : Calc.sumReturnUint256 (w.dataStore.getUint key) value =
      .ok (w.dataStore.getUint key + value) := sumReturnUint256_natCast (by omega)
  have hrun : DataStore.applyDeltaToUint key value errorMessage w =
      .ok (w.dataStore.getUint key + value,
        { w with dataStore := w.dataStore.setUint key (w.dataStore.getUint key + value) }) := by
    refine readStore_bind_eq_ok.mpr (Tx.lift_bind_eq_ok.mpr ⟨_, negationExceeds_natCast _ _, ?_⟩)
    refine Tx.lift_bind_eq_ok.mpr ⟨(), Result.revertIf_eq_ok.mpr Bool.false_ne_true, ?_⟩
    exact Tx.lift_bind_eq_ok.mpr ⟨_, hsum, writeStore_bind_eq_ok.mpr rfl⟩
  exact ⟨_, _, hrun, h.setUint hkey hvalue⟩

theorem applyBoundedDeltaToUint_completes :
    ∃ next w', DataStore.applyBoundedDeltaToUint key value w = .ok (next, w') ∧
      ForceCloseReady env params (amount - value) w' := by
  have hroom := h.room key hkey
  have hsum : Calc.sumReturnUint256 (w.dataStore.getUint key) value =
      .ok (w.dataStore.getUint key + value) := sumReturnUint256_natCast (by omega)
  have hrun : DataStore.applyBoundedDeltaToUint key value w =
      .ok (w.dataStore.getUint key + value,
        { w with dataStore := w.dataStore.setUint key (w.dataStore.getUint key + value) }) := by
    refine readStore_bind_eq_ok.mpr (Tx.lift_bind_eq_ok.mpr ⟨_, negationExceeds_natCast _ _, ?_⟩)
    exact Tx.lift_bind_eq_ok.mpr ⟨_, hsum, writeStore_bind_eq_ok.mpr rfl⟩
  exact ⟨_, _, hrun, h.setUint hkey hvalue⟩

omit hkey hvalue

variable {token : Address}
  (htoken : token ∈ [params.position.collateralToken, pnlTokenOf params])

include htoken

/-- The pool and the virtual inventory each take the amount. -/
theorem applyDeltaToPoolAmount_completes (hvalue : 2 * value ≤ amount) :
    ∃ next w', applyDeltaToPoolAmount params.market.marketToken token value w = .ok (next, w') ∧
      ForceCloseReady env params (amount - 2 * value) w' := by
  have hmem : ∀ (dataStore : DataStore),
      Keys.poolAmountKey params.market.marketToken token ∈ forceCloseKeys env params dataStore ∧
      Keys.virtualInventoryForSwapsKey (dataStore.getBytes32
        (Keys.virtualMarketIdKey params.market.marketToken)) token ∈
          forceCloseKeys env params dataStore := by
    intro dataStore
    exact ⟨List.mem_flatMap.mpr ⟨token, htoken, by simp⟩,
      List.mem_flatMap.mpr ⟨token, htoken, by simp⟩⟩
  obtain ⟨next, w₁, hpool, h₁⟩ := applyDeltaToUint_completes h (hmem _).1
    (show value ≤ amount by omega) "Invalid state, negative poolAmount"
  unfold applyDeltaToPoolAmount applyDeltaToVirtualInventoryForSwaps
  by_cases hmarketId : w₁.dataStore.getBytes32
      (Keys.virtualMarketIdKey params.market.marketToken) = 0
  · refine ⟨next, w₁, ?_, h₁.mono (by omega)⟩
    refine Tx.bind_eq_ok.mpr ⟨_, _, hpool, Tx.bind_eq_ok.mpr ⟨(), w₁, ?_, rfl⟩⟩
    refine readStore_bind_eq_ok.mpr ?_
    rw [if_pos hmarketId]
    rfl
  · obtain ⟨inventory, w₂, hinventory, h₂⟩ := applyBoundedDeltaToUint_completes h₁ (hmem _).2
      (show value ≤ amount - value by omega)
    refine ⟨next, w₂, ?_, h₂.mono (by omega)⟩
    refine Tx.bind_eq_ok.mpr ⟨_, _, hpool, Tx.bind_eq_ok.mpr ⟨(), w₂, ?_, rfl⟩⟩
    refine readStore_bind_eq_ok.mpr ?_
    rw [if_neg hmarketId]
    exact Tx.bind_eq_ok.mpr ⟨_, _, hinventory, rfl⟩

/-- The amount is booked for the holding address and in total. -/
theorem incrementClaimableCollateralAmount_completes (hvalue : 2 * value ≤ amount) :
    ∃ w', incrementClaimableCollateralAmount env params.market.marketToken token
        (w.dataStore.getAddress (.base .HOLDING_ADDRESS)) value w = .ok ((), w') ∧
      ForceCloseReady env params (amount - 2 * value) w' := by
  obtain ⟨_, w₁, haccount, h₁⟩ := incrementUint_completes h
    (List.mem_flatMap.mpr ⟨token, htoken, List.mem_cons_of_mem _ (List.mem_cons_of_mem _
      (List.mem_cons_of_mem _ List.mem_cons_self))⟩) (show value ≤ amount by omega)
  obtain ⟨_, w₂, htotal, h₂⟩ := incrementUint_completes h₁
    (List.mem_flatMap.mpr ⟨token, htoken, List.mem_cons_of_mem _ (List.mem_cons_of_mem _
      List.mem_cons_self)⟩) (show value ≤ amount - value by omega)
  refine ⟨w₂, ?_, h₂.mono (by omega)⟩
  refine readStore_bind_eq_ok.mpr (Tx.lift_bind_eq_ok.mpr
    ⟨_, div_eq_ok.mpr ⟨h.timeDivisor, rfl⟩, ?_⟩)
  exact Tx.bind_eq_ok.mpr ⟨_, _, haccount, Tx.bind_eq_ok.mpr ⟨_, _, htotal, rfl⟩⟩

end Ready

-- ---------------------------------------------------------------------------
-- The parts of a force close
-- ---------------------------------------------------------------------------

section Parts

variable (env : Env) (params : UpdatePositionParams) {w : World} {amount : Nat}

theorem payForceCloseFromCollateral_completes {values : DecreasePositionCollateralValues}
    (h : ForceCloseReady env params amount w)
    (hcollateral : 2 * values.remainingCollateralAmount ≤ amount)
    (hbound : values.remainingCollateralAmount < intBound)
    (fundingFeeAmount remainingCostAmount : Nat) :
    ∃ nextFunding nextCost w',
      payForceCloseFromCollateral params values fundingFeeAmount remainingCostAmount w =
        .ok ((nextFunding, nextCost), w') ∧
      nextFunding ≤ fundingFeeAmount ∧ nextCost ≤ remainingCostAmount ∧
      ForceCloseReady env params (amount - 2 * values.remainingCollateralAmount) w' := by
  unfold payForceCloseFromCollateral
  split
  · refine ⟨_, remainingCostAmount, w, Tx.lift_bind_eq_ok.mpr
      ⟨_, sub_eq_ok.mpr ⟨by omega, rfl⟩, rfl⟩, Nat.sub_le _ _, le_refl _, h.mono (by omega)⟩
  · obtain ⟨_, w₁, hpool, h₁⟩ := applyDeltaToPoolAmount_completes h List.mem_cons_self
      (show 2 * (values.remainingCollateralAmount - fundingFeeAmount) ≤ amount by omega)
    have hcost : ∃ nextCost, (if remainingCostAmount >
        values.remainingCollateralAmount - fundingFeeAmount then
          sub remainingCostAmount (values.remainingCollateralAmount - fundingFeeAmount)
        else pure 0 : Result Nat) = .ok nextCost ∧ nextCost ≤ remainingCostAmount := by
      split
      · exact ⟨_, sub_eq_ok.mpr ⟨by omega, rfl⟩, Nat.sub_le _ _⟩
      · exact ⟨0, rfl, Nat.zero_le _⟩
    obtain ⟨nextCost, hcost, hle⟩ := hcost
    refine ⟨0, nextCost, w₁, ?_, Nat.zero_le _, hle, h₁.mono (by omega)⟩
    refine Tx.lift_bind_eq_ok.mpr ⟨_, sub_eq_ok.mpr ⟨by omega, rfl⟩, ?_⟩
    refine Tx.lift_bind_eq_ok.mpr ⟨_, hcost, ?_⟩
    refine Tx.lift_bind_eq_ok.mpr ⟨_, toInt256_eq_ok.mpr ⟨by omega, rfl⟩, ?_⟩
    exact Tx.bind_eq_ok.mpr ⟨_, _, hpool, rfl⟩

variable {secondaryOutputAmount : Nat} {collateralTokenPrice secondaryTokenPrice : Price}

theorem payForceCloseFunding_completes {remainingFundingFeeAmount : Nat}
    (h : ForceCloseReady env params amount w) (hsecondary : 2 * secondaryOutputAmount ≤ amount)
    (hprice : secondaryTokenPrice.min ≠ 0)
    (hcost : remainingFundingFeeAmount * collateralTokenPrice.max < uintBound) :
    ∃ nextAmount w',
      payForceCloseFunding env params (pnlTokenOf params) secondaryOutputAmount
        remainingFundingFeeAmount collateralTokenPrice secondaryTokenPrice w =
        .ok (nextAmount, w') ∧
      nextAmount ≤ secondaryOutputAmount ∧
      ForceCloseReady env params (amount - 2 * secondaryOutputAmount) w' := by
  unfold payForceCloseFunding
  split
  · generalize hfee : remainingFundingFeeAmount * collateralTokenPrice.max /
      secondaryTokenPrice.min = fundingFee
    obtain ⟨nextAmount, taken, hsplit, htaken, hnext⟩ : ∃ nextAmount taken,
        (if secondaryOutputAmount ≥ fundingFee then
          (secondaryOutputAmount - fundingFee, fundingFee)
        else (0, secondaryOutputAmount)) = (nextAmount, taken) ∧
          taken ≤ secondaryOutputAmount ∧ nextAmount ≤ secondaryOutputAmount := by
      split
      · exact ⟨_, _, rfl, by omega, by omega⟩
      · exact ⟨_, _, rfl, by omega, by omega⟩
    obtain ⟨w₁, hclaimable, h₁⟩ := incrementClaimableCollateralAmount_completes h
      (List.mem_cons_of_mem _ List.mem_cons_self) (show 2 * taken ≤ amount by omega)
    refine ⟨nextAmount, w₁, ?_, hnext, h₁.mono (by omega)⟩
    refine readStore_bind_eq_ok.mpr ?_
    refine Tx.lift_bind_eq_ok.mpr ⟨(), Result.revertIf_eq_ok.mpr h.holdingAddress, ?_⟩
    refine Tx.lift_bind_eq_ok.mpr ⟨_, mul_eq_ok.mpr ⟨hcost, rfl⟩, ?_⟩
    refine Tx.lift_bind_eq_ok.mpr ⟨_, div_eq_ok.mpr ⟨hprice, hfee.symm⟩, ?_⟩
    simp only [hsplit]
    exact Tx.bind_eq_ok.mpr ⟨_, _, hclaimable, rfl⟩
  · exact ⟨_, w, rfl, le_refl _, h.mono (by omega)⟩

theorem payForceCloseCosts_completes {remainingCostAmount : Nat}
    (h : ForceCloseReady env params amount w) (hsecondary : 2 * secondaryOutputAmount ≤ amount)
    (hbound : secondaryOutputAmount < intBound) (hprice : secondaryTokenPrice.min ≠ 0)
    (hcost : remainingCostAmount * collateralTokenPrice.max < uintBound) :
    ∃ nextAmount w',
      payForceCloseCosts params (pnlTokenOf params) secondaryOutputAmount remainingCostAmount
        collateralTokenPrice secondaryTokenPrice w = .ok (nextAmount, w') := by
  unfold payForceCloseCosts
  split
  · generalize hfee : remainingCostAmount * collateralTokenPrice.max /
      secondaryTokenPrice.min = cost
    obtain ⟨nextAmount, taken, hsplit, htaken⟩ : ∃ nextAmount taken,
        (if secondaryOutputAmount > cost then (secondaryOutputAmount - cost, cost)
        else (0, secondaryOutputAmount)) = (nextAmount, taken) ∧
          taken ≤ secondaryOutputAmount := by
      split
      · exact ⟨_, _, rfl, by omega⟩
      · exact ⟨_, _, rfl, by omega⟩
    obtain ⟨_, w₁, hpool, -⟩ := applyDeltaToPoolAmount_completes h
      (List.mem_cons_of_mem _ List.mem_cons_self) (show 2 * taken ≤ amount by omega)
    refine ⟨nextAmount, w₁, ?_⟩
    refine Tx.lift_bind_eq_ok.mpr ⟨_, mul_eq_ok.mpr ⟨hcost, rfl⟩, ?_⟩
    refine Tx.lift_bind_eq_ok.mpr ⟨_, div_eq_ok.mpr ⟨hprice, hfee.symm⟩, ?_⟩
    simp only [hsplit]
    refine Tx.lift_bind_eq_ok.mpr ⟨_, toInt256_eq_ok.mpr ⟨by omega, rfl⟩, ?_⟩
    exact Tx.bind_eq_ok.mpr ⟨_, _, hpool, rfl⟩
  · exact ⟨_, w, rfl⟩

/-- Values in range: besides the room in the ledgers, prices without zeroes, and a pending
deduction whose value is below the bound of a word. -/
structure ForceCloseInRange (env : Env) (params : UpdatePositionParams) (prices : MarketPrices)
    (pending : PendingCollateral) (w : World) : Prop where
  ready : ForceCloseReady env params (2 * pending.values.remainingCollateralAmount +
    4 * pending.values.output.secondaryOutputAmount) w
  remainingCollateralAmount : pending.values.remainingCollateralAmount < intBound
  secondaryOutputAmount : pending.values.output.secondaryOutputAmount < intBound
  longTokenPrice : prices.longTokenPrice.min ≠ 0
  shortTokenPrice : prices.shortTokenPrice.min ≠ 0
  costs : max pending.values.pendingCollateralDeduction pending.fees.funding.fundingFeeAmount *
    pending.collateralTokenPrice.max < uintBound

instance (env : Env) (params : UpdatePositionParams) (prices : MarketPrices)
    (pending : PendingCollateral) (w : World) :
    Decidable (ForceCloseInRange env params prices pending w) :=
  decidable_of_iff
    (((w.dataStore.getAddress (.base .HOLDING_ADDRESS) ≠ 0 ∧
      w.dataStore.getUint (.base .CLAIMABLE_COLLATERAL_TIME_DIVISOR) ≠ 0 ∧
      ∀ key ∈ forceCloseKeys env params w.dataStore,
        w.dataStore.getUint key + (2 * pending.values.remainingCollateralAmount +
          4 * pending.values.output.secondaryOutputAmount) < uintBound) ∧
      pending.values.remainingCollateralAmount < intBound ∧
      pending.values.output.secondaryOutputAmount < intBound ∧
      prices.longTokenPrice.min ≠ 0 ∧ prices.shortTokenPrice.min ≠ 0) ∧
      max pending.values.pendingCollateralDeduction pending.fees.funding.fundingFeeAmount *
        pending.collateralTokenPrice.max < uintBound)
    ⟨fun ⟨⟨⟨holding, divisor, room⟩, h₁, h₂, h₃, h₄⟩, h₅⟩ =>
        ⟨⟨holding, divisor, room⟩, h₁, h₂, h₃, h₄, h₅⟩,
      fun ⟨⟨holding, divisor, room⟩, h₁, h₂, h₃, h₄, h₅⟩ =>
        ⟨⟨⟨holding, divisor, room⟩, h₁, h₂, h₃, h₄⟩, h₅⟩⟩

theorem pnlTokenOf_mem : pnlTokenOf params = params.market.longToken ∨
    pnlTokenOf params = params.market.shortToken := by
  unfold pnlTokenOf
  split
  · exact Or.inl rfl
  · exact Or.inr rfl

theorem getCachedTokenPrice_of_mem {market : Market} {token : Address}
    (htoken : token = market.longToken ∨ token = market.shortToken) (prices : MarketPrices) :
    getCachedTokenPrice token market prices = .ok prices.longTokenPrice ∨
      getCachedTokenPrice token market prices = .ok prices.shortTokenPrice := by
  unfold getCachedTokenPrice
  by_cases hlong : token = market.longToken
  · exact Or.inl (if_pos hlong)
  · rw [if_neg hlong, if_pos (htoken.resolve_left hlong)]
    exact Or.inr rfl

/-- In range, a force close fails at the first subtraction or not at all. -/
theorem processForceClose_completes {prices : MarketPrices} {pending : PendingCollateral}
    (hrange : ForceCloseInRange env params prices pending w)
    (htoken : pending.values.output.secondaryOutputToken = pnlTokenOf params)
    (hle : pending.fees.funding.fundingFeeAmount ≤ pending.values.pendingCollateralDeduction) :
    ∃ result w', processForceClose env params pending.values pending.fees prices
      pending.collateralTokenPrice w = .ok (result, w') := by
  have hcosts : ∀ amount ≤ max pending.values.pendingCollateralDeduction
      pending.fees.funding.fundingFeeAmount,
      amount * pending.collateralTokenPrice.max < uintBound := by
    intro amount hamount
    exact lt_of_le_of_lt (Nat.mul_le_mul_right _ hamount) hrange.costs
  obtain ⟨secondaryPrice, hsecondaryPrice, hprice⟩ : ∃ price,
      getCachedTokenPrice pending.values.output.secondaryOutputToken params.market prices =
        .ok price ∧ price.min ≠ 0 := by
    rcases getCachedTokenPrice_of_mem (htoken ▸ pnlTokenOf_mem params) prices with hlong | hshort
    · exact ⟨_, hlong, hrange.longTokenPrice⟩
    · exact ⟨_, hshort, hrange.shortTokenPrice⟩
  have hbound := hrange.secondaryOutputAmount
  obtain ⟨nextFunding, nextCost, w₁, hcollateral, hfunding, hcost, h₁⟩ :=
    payForceCloseFromCollateral_completes env params hrange.ready (by omega)
      hrange.remainingCollateralAmount pending.fees.funding.fundingFeeAmount
      (pending.values.pendingCollateralDeduction - pending.fees.funding.fundingFeeAmount)
  obtain ⟨secondary₁, w₂, hsecondary, hle₁, h₂⟩ := payForceCloseFunding_completes env params h₁
    (show 2 * pending.values.output.secondaryOutputAmount ≤ _ by omega) hprice
    (hcosts nextFunding (by omega))
  obtain ⟨secondary₂, w₃, hcostsPaid⟩ := payForceCloseCosts_completes env params h₂
    (show 2 * secondary₁ ≤ _ by omega) (by omega) hprice (hcosts nextCost (by omega))
  rw [← htoken] at hsecondary hcostsPaid
  exact ⟨_, w₃, Tx.lift_bind_eq_ok.mpr ⟨_, sub_eq_ok.mpr ⟨hle, rfl⟩,
    Tx.bind_eq_ok.mpr ⟨_, _, hcollateral, Tx.lift_bind_eq_ok.mpr ⟨_, hsecondaryPrice,
      Tx.bind_eq_ok.mpr ⟨_, _, hsecondary, Tx.bind_eq_ok.mpr ⟨_, _, hcostsPaid, rfl⟩⟩⟩⟩⟩⟩

end Parts

-- ---------------------------------------------------------------------------
-- The subtraction of the funding fee
-- ---------------------------------------------------------------------------

section Reached

variable {env : Env} {params params' : UpdatePositionParams} {w w₁ : World}
  {prices : MarketPrices} {pending : PendingCollateral}

/-- Where the force close branch is reached, the funding fee is part of the pending deduction
unless the profit paid for more than the other fees. -/
theorem fundingFee_le_pendingDeduction_iff
    (hreached : untilComparison env params w = .ok ((params', prices, pending), w₁))
    (hexceeds : pending.values.remainingCollateralAmount <
      pending.values.pendingCollateralDeduction) :
    pending.fees.funding.fundingFeeAmount ≤ pending.values.pendingCollateralDeduction ↔
      profitInCollateralToken env params w + fundingFeeDue env params w ≤
        totalCostDue env params w := by
  obtain ⟨order, realized, w₀, rfl, -, -, -, hrealize, hrealized, hpending⟩ :=
    untilComparison_eq_ok hreached
  obtain ⟨hcost, hsplit⟩ := realizePnl_fees hrealize
  obtain ⟨costAmount, outputAmount, hfees, -, -, hpaid, hzero, hle, hnoLoss⟩ :=
    payFromProfit_eq_ok hcost hpending
  rw [profitInCollateralToken_eq hrealized, fundingFeeDue_eq hrealized,
    totalCostDue_eq hrealized, hfees]
  dsimp only
  rcases realizePnl_profit hrealize with hprofit | hprofit
  · have hdeduction := hnoLoss (by omega)
    omega
  · omega

/-- **A force close completes** exactly when the profit realised in the collateral token and the
funding fee are together at most the fees that the position owes. -/
theorem processForceClose_completes_iff
    (hreached : untilComparison env params w = .ok ((params', prices, pending), w₁))
    (hexceeds : pending.values.remainingCollateralAmount <
      pending.values.pendingCollateralDeduction)
    (hrange : ForceCloseInRange env params' prices pending w₁) :
    (∃ result w₂, processForceClose env params' pending.values pending.fees prices
      pending.collateralTokenPrice w₁ = .ok (result, w₂)) ↔
      profitInCollateralToken env params w + fundingFeeDue env params w ≤
        totalCostDue env params w := by
  rw [← fundingFee_le_pendingDeduction_iff hreached hexceeds]
  constructor
  · rintro ⟨result, w₂, h⟩
    obtain ⟨_, hsub, -⟩ := Tx.lift_bind_eq_ok.mp h
    exact (sub_eq_ok.mp hsub).1
  · intro hle
    refine processForceClose_completes env _ hrange ?_ hle
    obtain ⟨order, realized, w₀, rfl, -, -, -, hrealize, -, hpending⟩ :=
      untilComparison_eq_ok hreached
    obtain ⟨costAmount, outputAmount, -, houtput, -⟩ :=
      payFromProfit_eq_ok (realizePnl_fees hrealize).1 hpending
    rw [houtput]
    rfl

end Reached

/-- With a funding fee of 2 tokens out of 10 the close of the sample position completes. -/
theorem processForceClose_completes_iff_sample :
    ∃ params' prices pending w₁,
      untilComparison (Env.plain 10 samplePrices) liquidation liquidationWorld =
        .ok ((params', prices, pending), w₁) ∧
      ((∃ result w₂, processForceClose (Env.plain 10 samplePrices) params' pending.values
        pending.fees prices pending.collateralTokenPrice w₁ = .ok (result, w₂)) ↔
        5 + 2 ≤ 10) := by
  have hrun : Result.Satisfies
      (untilComparison (Env.plain 10 samplePrices) liquidation liquidationWorld) fun reached =>
        reached.1.2.2.values.remainingCollateralAmount <
          reached.1.2.2.values.pendingCollateralDeduction ∧
        ForceCloseInRange (Env.plain 10 samplePrices) reached.1.1 reached.1.2.1 reached.1.2.2
          reached.2 := by
    decide +kernel
  obtain ⟨⟨⟨params', prices, pending⟩, w₁⟩, hreached, hexceeds, hrange⟩ := hrun.exists
  have hprofit : profitInCollateralToken (Env.plain 10 samplePrices) liquidation
      liquidationWorld = 5 := by decide +kernel
  have hfunding : fundingFeeDue (Env.plain 10 samplePrices) liquidation liquidationWorld = 2 := by
    decide +kernel
  have hcost : totalCostDue (Env.plain 10 samplePrices) liquidation liquidationWorld = 10 := by
    decide +kernel
  have hcompletes := processForceClose_completes_iff hreached hexceeds hrange
  rw [hprofit, hfunding, hcost] at hcompletes
  exact ⟨params', prices, pending, w₁, hreached, hcompletes⟩

/-- The same fees with 8 tokens of them for funding: the position is liquidatable and the
liquidation reaches the force close, which fails on the subtraction of the funding fee. -/
theorem processForceClose_underflows :
    ∃ (env : Env) (params params' : UpdatePositionParams) (w w₁ : World) (prices : MarketPrices)
      (pending : PendingCollateral),
      params.order.orderType = .Liquidation ∧
      untilComparison env params w = .ok ((params', prices, pending), w₁) ∧
      (∃ reason, isPositionLiquidatable env w₁.dataStore params'.position params'.market prices
        true = .ok (true, reason)) ∧
      pending.values.remainingCollateralAmount < pending.values.pendingCollateralDeduction ∧
      isForceClosable params' = true ∧
      ForceCloseInRange env params' prices pending w₁ ∧
      ¬ pending.fees.funding.fundingFeeAmount ≤ pending.values.pendingCollateralDeduction ∧
      processForceClose env params' pending.values pending.fees prices
        pending.collateralTokenPrice w₁ = .error (.panic .underflow) ∧
      decreasePosition env params w = .error (.panic .underflow) := by
  have hrun : Result.Satisfies (untilComparison (Env.plain 10 samplePrices) liquidation
      (sampleWorld 3 (25 * 10 ^ 27) (10 ^ 29))) fun reached =>
        Result.Satisfies (isPositionLiquidatable (Env.plain 10 samplePrices) reached.2.dataStore
          reached.1.1.position reached.1.1.market reached.1.2.1 true) (fun checked =>
            checked.1 = true) ∧
        reached.1.2.2.values.remainingCollateralAmount <
          reached.1.2.2.values.pendingCollateralDeduction ∧
        isForceClosable reached.1.1 = true ∧
        ForceCloseInRange (Env.plain 10 samplePrices) reached.1.1 reached.1.2.1 reached.1.2.2
          reached.2 ∧
        ¬ reached.1.2.2.fees.funding.fundingFeeAmount ≤
          reached.1.2.2.values.pendingCollateralDeduction ∧
        Result.FailsWith (processForceClose (Env.plain 10 samplePrices) reached.1.1
          reached.1.2.2.values reached.1.2.2.fees reached.1.2.1
          reached.1.2.2.collateralTokenPrice reached.2) (.panic .underflow) := by
    decide +kernel
  have hdecrease : Result.FailsWith (decreasePosition (Env.plain 10 samplePrices) liquidation
      (sampleWorld 3 (25 * 10 ^ 27) (10 ^ 29))) (.panic .underflow) := by decide +kernel
  obtain ⟨⟨⟨params', prices, pending⟩, w₁⟩, hreached, hliquidatable, hexceeds, hclosable, hrange,
    hfunding, hclose⟩ := hrun.exists
  obtain ⟨⟨_, reason⟩, hliquidatable, rfl⟩ := hliquidatable.exists
  exact ⟨Env.plain 10 samplePrices, liquidation, params', sampleWorld 3 (25 * 10 ^ 27) (10 ^ 29),
    w₁, prices, pending, rfl, hreached, ⟨reason, hliquidatable⟩, hexceeds, hclosable, hrange,
    hfunding, hclose.eq_error, hdecrease.eq_error⟩

end GmxSynthetics
