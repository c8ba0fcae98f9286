import GmxSynthetics.Position.PositionBook

/-!
# Conservation of tokens by position updates

What the sum of a market's ledgers does when a position is increased, decreased or force
closed.

* `positionUpdate_conserves` — an increase books its increment less the funding fee, and a
  decrease that the position pays for books what it pays out and the funding fee, to the unit;
* `forceClose_conserves_iff` — a force close does so exactly when no realised profit in the
  collateral token is lost.
-/

namespace GmxSynthetics

open Evm MarketUtils PositionUtils PositionPricingUtils DecreasePositionCollateralUtils
  DecreasePositionUtils

-- ---------------------------------------------------------------------------
-- Updates that the position pays for
-- ---------------------------------------------------------------------------

/-- **Ledger conservation.** The book of the market changes by the collateral increment less the
funding fee on an increase; on a decrease that is not force closed its change, the two outputs
and the funding fee add up to zero in every token. The books of other markets stay. -/
theorem positionUpdate_conserves (env : Env) (params : UpdatePositionParams) (w : World)
    (hparams : params.Consistent) :
    (∀ (collateralIncrementAmount : Nat) (fees : PositionFees) (w' : World),
      IncreasePositionUtils.increasePosition env params collateralIncrementAmount w =
        .ok (fees, w') →
      ∀ market token, book w'.dataStore market token - book w.dataStore market token =
        if market = params.market.marketToken ∧ token = params.position.collateralToken then
          (collateralIncrementAmount : Int) - fees.funding.fundingFeeAmount
        else 0) ∧
    (∀ (result : DecreasePositionResult) (fees : PositionFees) (w' : World),
      decreasePosition env params w = .ok ((result, fees), w') →
      takesForceClose env params w = false →
      (∀ token, book w'.dataStore params.market.marketToken token -
          book w.dataStore params.market.marketToken token +
          (if token = result.outputToken then (result.outputAmount : Int) else 0) +
          (if token = result.secondaryOutputToken then (result.secondaryOutputAmount : Int)
            else 0) +
          (if token = params.position.collateralToken then (fees.funding.fundingFeeAmount : Int)
            else 0) = 0) ∧
      ∀ market token, market ≠ params.market.marketToken →
        book w'.dataStore market token = book w.dataStore market token) := by
  refine ⟨?_, ?_⟩
  · intro collateralIncrementAmount fees w' h market token
    rw [IncreasePositionUtils.increasePosition_moves hparams h market token, entry]
    omega
  · intro result fees w' h hforce
    have hmoves := decreasePosition_moves hparams hforce h
    refine ⟨?_, ?_⟩
    · intro token
      have hbook := hmoves params.market.marketToken token
      simp only [payouts, Pi.sub_apply, Pi.add_apply, entry, true_and] at hbook
      split_ifs at hbook ⊢ <;> omega
    · intro market token hmarket
      have hbook := hmoves market token
      simp only [payouts, Pi.sub_apply, Pi.add_apply, entry, hmarket, false_and, if_false] at hbook
      omega

/-- A listed market with index token 2, long token 3 and short token 4. -/
def sampleMarket : Market := ⟨1, 2, 3, 4⟩

/-- Its short token costs a thousandth of the other two. -/
def samplePrices (token : Address) : Price :=
  if token = 4 then ⟨10 ^ 12, 10 ^ 12⟩ else ⟨10 ^ 15, 10 ^ 15⟩

/-- A long position that is five tokens in profit. -/
def samplePosition (collateralAmount : Nat) : Position :=
  { Position.empty with
    account := 9
    market := 1
    collateralToken := 3
    sizeInUsd := 80 * 10 ^ 15
    sizeInTokens := 85
    collateralAmount
    isLong := true }

/-- The market with that position, a position fee factor and an accrued funding amount. -/
def sampleWorld (collateralAmount positionFeeFactor : Nat) (fundingAmountPerSize : Int) :
    World where
  dataStore :=
    let dataStore : DataStore := { DataStore.empty with
      addressSets := Function.update DataStore.empty.addressSets (.base .MARKET_LIST) [1] }
    let dataStore := dataStore.setAddress (.marketField 1 .MARKET_TOKEN) 1
    let dataStore := dataStore.setAddress (.marketField 1 .INDEX_TOKEN) 2
    let dataStore := dataStore.setAddress (.marketField 1 .LONG_TOKEN) 3
    let dataStore := dataStore.setAddress (.marketField 1 .SHORT_TOKEN) 4
    let dataStore := dataStore.setUint (Keys.poolAmountKey 1 3) 1000
    let dataStore := dataStore.setUint (Keys.maxOpenInterestKey 1 true) (10 ^ 20)
    let dataStore := dataStore.setUint (Keys.reserveFactorKey 1 true) (10 ^ 30)
    let dataStore := dataStore.setUint (Keys.positionFeeFactorKey 1) positionFeeFactor
    let dataStore := dataStore.setUint (.base .CLAIMABLE_COLLATERAL_TIME_DIVISOR) 3600
    let dataStore := dataStore.setAddress (.base .HOLDING_ADDRESS) 8
    let dataStore := dataStore.setUint (Keys.openInterestKey 1 3 true) (80 * 10 ^ 15)
    let dataStore := dataStore.setUint (Keys.openInterestInTokensKey 1 3 true) 85
    let dataStore := dataStore.setUint (Keys.collateralSumKey 1 3 true) collateralAmount
    let dataStore := dataStore.setInt (Keys.fundingAmountPerSizeKey 1 3 true) fundingAmountPerSize
    PositionStoreUtils.set dataStore (.position 9 1 3 true) (samplePosition collateralAmount)
  balances _ _ := 0
  totalSupply _ := 0
  tokenBalances _ _ := 0

/-- An order on the position. -/
def sampleParams (collateralAmount : Nat) (orderType : OrderType) (sizeDeltaUsd : Nat) :
    UpdatePositionParams where
  market := sampleMarket
  order := { Order.empty with
    account := 9
    market := 1
    initialCollateralToken := 3
    sizeDeltaUsd
    acceptablePrice := 10 ^ 15
    orderType
    isLong := true }
  orderKey := .request 1
  position := samplePosition collateralAmount
  positionKey := .position 9 1 3 true
  secondaryOrderType := .None

theorem sampleParams_consistent (collateralAmount : Nat) (orderType : OrderType)
    (sizeDeltaUsd : Nat) : (sampleParams collateralAmount orderType sizeDeltaUsd).Consistent :=
  ⟨rfl, rfl, Or.inl rfl⟩

theorem positionUpdate_conserves_sample :
    (∃ fees w', IncreasePositionUtils.increasePosition (Env.plain 10 samplePrices)
        (sampleParams 50 .MarketDecrease (40 * 10 ^ 15)) 20
        (sampleWorld 50 (10 ^ 29) (25 * 10 ^ 27)) = .ok (fees, w') ∧
      ∀ market token, book w'.dataStore market token -
          book (sampleWorld 50 (10 ^ 29) (25 * 10 ^ 27)).dataStore market token =
        if market = 1 ∧ token = 3 then (20 : Int) - fees.funding.fundingFeeAmount else 0) ∧
    ∃ result fees w', decreasePosition (Env.plain 10 samplePrices)
        (sampleParams 50 .MarketDecrease (40 * 10 ^ 15))
        (sampleWorld 50 (10 ^ 29) (25 * 10 ^ 27)) = .ok ((result, fees), w') ∧
      ∀ token, book w'.dataStore 1 token -
          book (sampleWorld 50 (10 ^ 29) (25 * 10 ^ 27)).dataStore 1 token +
          (if token = result.outputToken then (result.outputAmount : Int) else 0) +
          (if token = result.secondaryOutputToken then (result.secondaryOutputAmount : Int)
            else 0) +
          (if token = 3 then (fees.funding.fundingFeeAmount : Int) else 0) = 0 := by
  have hconserves := positionUpdate_conserves (Env.plain 10 samplePrices)
    (sampleParams 50 .MarketDecrease (40 * 10 ^ 15)) (sampleWorld 50 (10 ^ 29) (25 * 10 ^ 27))
    (sampleParams_consistent _ _ _)
  have hincrease : Result.Satisfies (IncreasePositionUtils.increasePosition
      (Env.plain 10 samplePrices) (sampleParams 50 .MarketDecrease (40 * 10 ^ 15)) 20
      (sampleWorld 50 (10 ^ 29) (25 * 10 ^ 27))) fun _ => True := by decide +kernel
  have hdecrease : Result.Satisfies (decreasePosition (Env.plain 10 samplePrices)
      (sampleParams 50 .MarketDecrease (40 * 10 ^ 15))
      (sampleWorld 50 (10 ^ 29) (25 * 10 ^ 27))) fun _ => True := by decide +kernel
  obtain ⟨⟨fees, w₁⟩, hincrease, -⟩ := hincrease.exists
  obtain ⟨⟨⟨result, fees'⟩, w₂⟩, hdecrease, -⟩ := hdecrease.exists
  exact ⟨⟨fees, w₁, hincrease, hconserves.1 20 fees w₁ hincrease⟩,
    result, fees', w₂, hdecrease, (hconserves.2 result fees' w₂ hdecrease (by decide +kernel)).1⟩

-- ---------------------------------------------------------------------------
-- Force closes
-- ---------------------------------------------------------------------------

/-- **Ledger conservation of force closes.** What leaves the book is paid out or retained for
funding, at most the funding fee, exactly when the profit realised in the collateral token and
the collateral that the funding fee takes are together at most the funding fee. -/
theorem forceClose_conserves_iff (env : Env) (params : UpdatePositionParams) (w : World)
    (hparams : params.Consistent) (hforce : takesForceClose env params w = true)
    (result : DecreasePositionResult) (fees : PositionFees) (w' : World)
    (h : decreasePosition env params w = .ok ((result, fees), w')) :
    (∃ retained : Nat, retained ≤ fundingFeeDue env params w ∧
      ∀ token, book w.dataStore params.market.marketToken token -
          book w'.dataStore params.market.marketToken token =
        (if token = result.outputToken then (result.outputAmount : Int) else 0) +
          (if token = result.secondaryOutputToken then (result.secondaryOutputAmount : Int)
            else 0) +
          if token = params.position.collateralToken then (retained : Int) else 0) ↔
      profitInCollateralToken env params w +
          min params.position.collateralAmount (fundingFeeDue env params w) ≤
        fundingFeeDue env params w := by
  have hmoves := decreasePosition_moves_of_forceClose hparams hforce h
  constructor
  · rintro ⟨retained, hretained, hbook⟩
    have hbook' := hbook params.position.collateralToken
    have hmoves' := hmoves params.market.marketToken params.position.collateralToken
    simp only [payouts, Pi.sub_apply, Pi.add_apply, entry, true_and, if_true] at hmoves' hbook'
    split_ifs at hbook' hmoves' <;> omega
  · intro hretained
    refine ⟨_, hretained, ?_⟩
    intro token
    have hmoves' := hmoves params.market.marketToken token
    simp only [payouts, Pi.sub_apply, Pi.add_apply, entry, true_and] at hmoves'
    split_ifs at hmoves' ⊢ <;> omega

section LostProfit

/-- The liquidation of the position with a collateral of 3 tokens. Its profit of 5 does not
cover fees of 10, of which 2 are for funding. -/
abbrev liquidation : UpdatePositionParams := sampleParams 3 .Liquidation (80 * 10 ^ 15)

abbrev liquidationWorld : World := sampleWorld 3 (10 ^ 29) (25 * 10 ^ 27)

theorem liquidation_forceCloses :
    takesForceClose (Env.plain 10 samplePrices) liquidation liquidationWorld = true ∧
      fundingFeeDue (Env.plain 10 samplePrices) liquidation liquidationWorld = 2 ∧
      profitInCollateralToken (Env.plain 10 samplePrices) liquidation liquidationWorld = 5 ∧
      Result.Satisfies (decreasePosition (Env.plain 10 samplePrices) liquidation liquidationWorld)
        fun result => result.1.1.outputAmount = 0 ∧ result.1.1.secondaryOutputAmount = 0 := by
  decide +kernel

theorem forceClose_conserves_iff_sample :
    ∃ result fees w', decreasePosition (Env.plain 10 samplePrices) liquidation liquidationWorld =
        .ok ((result, fees), w') ∧
      ((∃ retained : Nat, retained ≤ 2 ∧
        ∀ token, book liquidationWorld.dataStore 1 token - book w'.dataStore 1 token =
          (if token = result.outputToken then (result.outputAmount : Int) else 0) +
            (if token = result.secondaryOutputToken then (result.secondaryOutputAmount : Int)
              else 0) +
            if token = 3 then (retained : Int) else 0) ↔ 5 + min 3 2 ≤ 2) := by
  obtain ⟨hforce, hfunding, hprofit, hclose⟩ := liquidation_forceCloses
  obtain ⟨⟨⟨result, fees⟩, w'⟩, hclose, -⟩ := hclose.exists
  have hconserves := forceClose_conserves_iff (Env.plain 10 samplePrices) liquidation
    liquidationWorld (sampleParams_consistent _ _ _) hforce result fees w' hclose
  rw [hfunding, hprofit] at hconserves
  exact ⟨result, fees, w', hclose, hconserves⟩

/-- The profit of 5 tokens that was applied against the fees is in no account after the close:
the book loses 7 tokens, nothing is paid out, and only 2 are retained for funding. -/
theorem forceClose_losesProfit :
    ∃ (env : Env) (params : UpdatePositionParams) (w : World) (result : DecreasePositionResult)
      (fees : PositionFees) (w' : World),
      params.Consistent ∧ params.order.orderType = .Liquidation ∧
      takesForceClose env params w = true ∧
      decreasePosition env params w = .ok ((result, fees), w') ∧
      ¬ ∃ retained : Nat, retained ≤ fundingFeeDue env params w ∧
        ∀ token, book w.dataStore params.market.marketToken token -
            book w'.dataStore params.market.marketToken token =
          (if token = result.outputToken then (result.outputAmount : Int) else 0) +
            (if token = result.secondaryOutputToken then (result.secondaryOutputAmount : Int)
              else 0) +
            if token = params.position.collateralToken then (retained : Int) else 0 := by
  obtain ⟨hforce, hfunding, hprofit, hclose⟩ := liquidation_forceCloses
  obtain ⟨⟨⟨result, fees⟩, w'⟩, hclose, houtput, hsecondary⟩ := hclose.exists
  refine ⟨Env.plain 10 samplePrices, liquidation, liquidationWorld, result, fees, w',
    sampleParams_consistent _ _ _, rfl, hforce, hclose, ?_⟩
  rintro ⟨retained, hretained, hbook⟩
  rw [hfunding] at hretained
  dsimp only at houtput hsecondary
  have hpayouts : payouts 1 result = 0 := by
    simp only [payouts, houtput, hsecondary, Nat.cast_zero, entry_zero, add_zero]
  have hmoves : book w'.dataStore 1 3 = book liquidationWorld.dataStore 1 3 + -(5 + 2) := by
    have hmoves := decreasePosition_moves_of_forceClose (sampleParams_consistent _ _ _) hforce
      hclose 1 3
    rw [hfunding, hprofit] at hmoves
    simpa [liquidation, sampleParams, sampleMarket, samplePosition, hpayouts] using hmoves
  have hlost : book liquidationWorld.dataStore 1 3 - book w'.dataStore 1 3 = retained := by
    simpa [liquidation, sampleParams, sampleMarket, samplePosition, houtput, hsecondary] using
      hbook 3
  omega

end LostProfit

end GmxSynthetics
