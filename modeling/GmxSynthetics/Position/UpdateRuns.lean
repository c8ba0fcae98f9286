import GmxSynthetics.Position.DecreasePosition
import GmxSynthetics.Position.IncreasePosition

/-!
# The runs of position updates

What a successful increase or decrease went through: the values that it computed and the worlds
between its writes, each with the call that led there. What an update does to a view of the store
is read off these steps, one after the other.

* `IncreaseRun`, `increasePosition_run` — an increase;
* `FinishRun`, `finishDecrease_run` — a decrease from the return of `processCollateral` on;
* `DecreaseRun`, `decreasePosition_run` — a decrease up to there.
-/

namespace GmxSynthetics

open Evm PositionUtils PositionPricingUtils

variable {env : Env} {params : UpdatePositionParams} {w w' : World}

-- ---------------------------------------------------------------------------
-- Increasing a position
-- ---------------------------------------------------------------------------

namespace IncreasePositionUtils

/-- A fresh position takes over the funding amounts of the market and nothing else. -/
theorem initFundingAmountPerSize_eq (dataStore : DataStore) (params : UpdatePositionParams) :
    ∃ longAmount shortAmount, initFundingAmountPerSize dataStore params =
      { params.position with
        longTokenFundingAmountPerSize := longAmount
        shortTokenFundingAmountPerSize := shortAmount } := by
  unfold initFundingAmountPerSize
  dsimp only
  split
  · exact ⟨_, _, rfl⟩
  · exact ⟨_, _, rfl⟩

/-- A successful increase. The worlds are named after the write that made them. -/
structure IncreaseRun (env : Env) (params : UpdatePositionParams) (collateralIncrementAmount : Nat)
    (fees : PositionFees) (w w' : World) where
  prices : MarketPrices
  position : Position
  collateralDeltaAmount : Int
  collateralAmount : Nat
  executionPrice : Nat
  priceImpactAmount : Int
  impactPoolAmount : Nat
  sizeDeltaInTokens : Nat
  next : Position
  updated : World
  charged : World
  impacted : World
  borrowed : World
  credited : World
  stored : World
  opened : World
  marketPrices : MarketUtils.getMarketPrices env params.market = .ok prices
  updating : updateFundingAndBorrowingState env params prices w = .ok ((), updated)
  position_eq : position = initFundingAmountPerSize updated.dataStore params
  increment : collateralIncrementAmount < intBound
  charging : processCollateral env { params with position } prices collateralIncrementAmount
    updated = .ok ((collateralDeltaAmount, fees), charged)
  sufficient : negationExceeds collateralDeltaAmount params.position.collateralAmount = .ok false
  collateral : Calc.sumReturnUint256 params.position.collateralAmount collateralDeltaAmount =
    .ok collateralAmount
  pricing : getExecutionPrice env charged.dataStore params prices =
    .ok (executionPrice, priceImpactAmount)
  impacting : MarketUtils.applyDeltaToPositionImpactPool params.market.marketToken
    (-priceImpactAmount) charged = .ok (impactPoolAmount, impacted)
  tokens : getSizeDeltaInTokens params.position.isLong params.order.sizeDeltaUsd executionPrice =
    .ok sizeDeltaInTokens
  borrowing : updateTotalBorrowing params next.sizeInUsd next.borrowingFactor impacted =
    .ok ((), borrowed)
  crediting : incrementClaimableFundingAmount params fees borrowed = .ok ((), credited)
  next_eq : next = { params.position with
    collateralAmount
    sizeInUsd := params.position.sizeInUsd + params.order.sizeDeltaUsd
    sizeInTokens := params.position.sizeInTokens + sizeDeltaInTokens
    longTokenFundingAmountPerSize := fees.funding.latestLongTokenFundingAmountPerSize
    shortTokenFundingAmountPerSize := fees.funding.latestShortTokenFundingAmountPerSize
    borrowingFactor := MarketUtils.getCumulativeBorrowingFactor impacted.dataStore
      params.market.marketToken params.position.isLong
    increasedAtBlock := env.blockNumber }
  storing : writeStore (PositionStoreUtils.set · params.positionKey next) credited =
    .ok ((), stored)
  opening : updateOpenInterest { params with position := next } params.order.sizeDeltaUsd
    sizeDeltaInTokens stored = .ok ((), opened)
  reserve : MarketUtils.validateReserve opened.dataStore params.market prices
    params.order.isLong = .ok ()
  collateralSuffices : validateCollateral opened.dataStore { params with position := next }
    prices = .ok ()
  referring : handleReferral { params with position := next } fees opened = .ok ((), w')
  valid : validatePosition env w'.dataStore next params.market prices true true = .ok ()

/-- The position that collateral is charged to. -/
theorem IncreaseRun.exists_position {collateralIncrementAmount : Nat} {fees : PositionFees}
    (run : IncreaseRun env params collateralIncrementAmount fees w w') :
    ∃ longAmount shortAmount, run.position = { params.position with
      longTokenFundingAmountPerSize := longAmount
      shortTokenFundingAmountPerSize := shortAmount } := by
  rw [run.position_eq]
  exact initFundingAmountPerSize_eq _ _

/-- What a successful increase went through. -/
theorem increasePosition_run {collateralIncrementAmount : Nat} {fees : PositionFees}
    (h : increasePosition env params collateralIncrementAmount w = .ok (fees, w')) :
    Nonempty (IncreaseRun env params collateralIncrementAmount fees w w') := by
  unfold increasePosition at h
  simp only [↓Tx.lift_bind_eq_ok] at h
  obtain ⟨prices, hprices, h⟩ := h
  obtain ⟨_, updated, hupdate, h⟩ := Tx.bind_eq_ok.mp h
  simp only [↓Tx.lift_bind_eq_ok, ↓readStore_bind_eq_ok, toInt256_eq_ok] at h
  obtain ⟨_, ⟨hincrement, rfl⟩, h⟩ := h
  obtain ⟨longAmount, shortAmount, hinit⟩ := initFundingAmountPerSize_eq updated.dataStore params
  rw [hinit] at h
  obtain ⟨⟨collateralDeltaAmount, fees'⟩, charged, hcharge, h⟩ := Tx.bind_eq_ok.mp h
  simp only [↓Tx.lift_bind_eq_ok, ↓viewStore_bind_eq_ok] at h
  obtain ⟨isInsufficient, hsufficient, _, hrevert, collateralAmount, hcollateral,
    ⟨executionPrice, priceImpactAmount⟩, hprice, _, hneg, h⟩ := h
  obtain rfl : isInsufficient = false := Bool.eq_false_iff.mpr (Result.revertIf_eq_ok.mp hrevert)
  obtain ⟨-, rfl⟩ := negInt_eq_ok.mp hneg
  obtain ⟨_, impacted, himpact, h⟩ := Tx.bind_eq_ok.mp h
  simp only [↓Tx.lift_bind_eq_ok, ↓readStore_bind_eq_ok, add_eq_ok] at h
  obtain ⟨sizeDeltaInTokens, htokens, _, ⟨-, rfl⟩, h⟩ := h
  obtain ⟨_, borrowed, hborrow, h⟩ := Tx.bind_eq_ok.mp h
  simp only [↓Tx.lift_bind_eq_ok, add_eq_ok] at h
  obtain ⟨_, ⟨-, rfl⟩, h⟩ := h
  obtain ⟨_, credited, hcredit, h⟩ := Tx.bind_eq_ok.mp h
  obtain ⟨_, stored, hstore, h⟩ := Tx.bind_eq_ok.mp h
  simp only [↓Tx.lift_bind_eq_ok, toInt256_eq_ok] at h
  obtain ⟨_, ⟨-, rfl⟩, _, ⟨-, rfl⟩, h⟩ := h
  obtain ⟨_, opened, hopen, h⟩ := Tx.bind_eq_ok.mp h
  simp only [↓viewStore_bind_eq_ok] at h
  obtain ⟨_, hreserve, _, hsuffices, h⟩ := h
  obtain ⟨_, referred, hrefer, h⟩ := Tx.bind_eq_ok.mp h
  simp only [↓viewStore_bind_eq_ok, Tx.pure_eq_ok] at h
  obtain ⟨_, hvalid, rfl, rfl⟩ := h
  exact ⟨{
    prices, collateralDeltaAmount, collateralAmount, executionPrice, priceImpactAmount,
    sizeDeltaInTokens, updated, charged, impacted, borrowed, credited, stored, opened
    position := { params.position with
      longTokenFundingAmountPerSize := longAmount, shortTokenFundingAmountPerSize := shortAmount }
    next := { params.position with
      collateralAmount
      sizeInUsd := params.position.sizeInUsd + params.order.sizeDeltaUsd
      sizeInTokens := params.position.sizeInTokens + sizeDeltaInTokens
      longTokenFundingAmountPerSize := fees'.funding.latestLongTokenFundingAmountPerSize
      shortTokenFundingAmountPerSize := fees'.funding.latestShortTokenFundingAmountPerSize
      borrowingFactor := MarketUtils.getCumulativeBorrowingFactor impacted.dataStore
        params.market.marketToken params.position.isLong
      increasedAtBlock := env.blockNumber }
    impactPoolAmount := _
    marketPrices := hprices
    updating := hupdate
    position_eq := hinit.symm
    increment := hincrement
    charging := hcharge
    sufficient := hsufficient
    collateral := hcollateral
    pricing := hprice
    impacting := himpact
    tokens := htokens
    next_eq := rfl
    borrowing := hborrow
    crediting := hcredit
    storing := hstore
    opening := hopen
    reserve := hreserve
    collateralSuffices := hsuffices
    referring := hrefer
    valid := hvalid }⟩

end IncreasePositionUtils

-- ---------------------------------------------------------------------------
-- Decreasing a position
-- ---------------------------------------------------------------------------

namespace DecreasePositionUtils

open DecreasePositionCollateralUtils

/-- A successful `finishDecrease`. The worlds are named after the write that made them. -/
structure FinishRun (env : Env) (params : UpdatePositionParams) (prices : MarketPrices)
    (values : DecreasePositionCollateralValues) (fees : PositionFees)
    (result : DecreasePositionResult × PositionFees) (w w' : World) where
  position : Position
  closedValues : DecreasePositionCollateralValues
  paidValues : DecreasePositionCollateralValues
  collateralSum : Nat
  poolAmount : Nat
  borrowed : World
  credited : World
  closed : World
  summed : World
  lowered : World
  pooled : World
  referred : World
  size_le : params.order.sizeDeltaUsd ≤ params.position.sizeInUsd
  tokens_le : values.sizeDeltaInTokens ≤ params.position.sizeInTokens
  borrowing : updateTotalBorrowing params (params.position.sizeInUsd - params.order.sizeDeltaUsd)
    (MarketUtils.getCumulativeBorrowingFactor w.dataStore params.market.marketToken
      params.position.isLong) w = .ok ((), borrowed)
  crediting : incrementClaimableFundingAmount params fees borrowed = .ok ((), credited)
  closing : closeOrStore params { params.position with
      sizeInUsd := params.position.sizeInUsd - params.order.sizeDeltaUsd
      sizeInTokens := params.position.sizeInTokens - values.sizeDeltaInTokens
      collateralAmount := values.remainingCollateralAmount
      decreasedAtBlock := env.blockNumber } values fees
    (MarketUtils.getCumulativeBorrowingFactor w.dataStore params.market.marketToken
      params.position.isLong) credited = .ok ((position, closedValues), closed)
  collateral_le : position.collateralAmount ≤ params.position.collateralAmount
  summing : MarketUtils.applyDeltaToCollateralSum position.market position.collateralToken
    position.isLong (-(params.position.collateralAmount - position.collateralAmount : Nat))
    closed = .ok (collateralSum, summed)
  lowering : updateOpenInterest { params with position } (-params.order.sizeDeltaUsd)
    (-closedValues.sizeDeltaInTokens) summed = .ok ((), lowered)
  pooling : MarketUtils.applyDeltaToPoolAmount params.market.marketToken position.collateralToken
    fees.feeAmountForPool lowered = .ok (poolAmount, pooled)
  referring : handleReferral { params with position } fees pooled = .ok ((), referred)
  valid : position.sizeInUsd ≠ 0 ∨ position.sizeInTokens ≠ 0 →
    validatePosition env referred.dataStore position params.market prices false false = .ok ()
  swapping : DecreasePositionSwapUtils.swapWithdrawnCollateralToPnlToken env
    { params with position } closedValues referred = .ok (paidValues, w')
  result_eq : result =
    ({ outputToken := paidValues.output.outputToken
       outputAmount := paidValues.output.outputAmount
       secondaryOutputToken := paidValues.output.secondaryOutputToken
       secondaryOutputAmount := paidValues.output.secondaryOutputAmount }, fees)

/-- What a successful `finishDecrease` went through. -/
theorem finishDecrease_run {prices : MarketPrices} {values : DecreasePositionCollateralValues}
    {fees : PositionFees} {result : DecreasePositionResult × PositionFees}
    (h : finishDecrease env params prices values fees w = .ok (result, w')) :
    Nonempty (FinishRun env params prices values fees result w w') := by
  unfold finishDecrease at h
  simp only [↓Tx.lift_bind_eq_ok, ↓readStore_bind_eq_ok, sub_eq_ok] at h
  obtain ⟨_, ⟨hsize, rfl⟩, h⟩ := h
  obtain ⟨_, borrowed, hborrow, h⟩ := Tx.bind_eq_ok.mp h
  simp only [↓Tx.lift_bind_eq_ok, sub_eq_ok] at h
  obtain ⟨_, ⟨htokens, rfl⟩, h⟩ := h
  obtain ⟨_, credited, hcredit, h⟩ := Tx.bind_eq_ok.mp h
  obtain ⟨⟨position, closedValues⟩, closed, hclose, h⟩ := Tx.bind_eq_ok.mp h
  simp only [↓Tx.lift_bind_eq_ok, sub_eq_ok, toInt256_eq_ok, negInt_eq_ok] at h
  obtain ⟨_, ⟨hle, rfl⟩, _, ⟨-, rfl⟩, _, ⟨-, rfl⟩, h⟩ := h
  obtain ⟨collateralSum, summed, hsum, h⟩ := Tx.bind_eq_ok.mp h
  simp only [↓Tx.lift_bind_eq_ok, toInt256_eq_ok, negInt_eq_ok] at h
  obtain ⟨_, ⟨-, rfl⟩, _, ⟨-, rfl⟩, _, ⟨-, rfl⟩, _, ⟨-, rfl⟩, h⟩ := h
  obtain ⟨_, lowered, hlower, h⟩ := Tx.bind_eq_ok.mp h
  simp only [↓Tx.lift_bind_eq_ok, toInt256_eq_ok] at h
  obtain ⟨_, ⟨-, rfl⟩, h⟩ := h
  obtain ⟨poolAmount, pooled, hpool, h⟩ := Tx.bind_eq_ok.mp h
  obtain ⟨_, referred, hrefer, h⟩ := Tx.bind_eq_ok.mp h
  obtain ⟨_, checked, hcheck, h⟩ := Tx.bind_eq_ok.mp h
  obtain ⟨paidValues, _, hswap, h⟩ := Tx.bind_eq_ok.mp h
  obtain ⟨rfl, rfl⟩ := Tx.pure_eq_ok.mp h
  obtain ⟨hvalid, rfl⟩ : (position.sizeInUsd ≠ 0 ∨ position.sizeInTokens ≠ 0 →
      validatePosition env referred.dataStore position params.market prices false false =
        .ok ()) ∧ referred = checked := by
    split at hcheck
    · obtain ⟨hvalid, hsame⟩ := viewStore_eq_ok.mp hcheck
      exact ⟨fun _ => hvalid, hsame⟩
    · rename_i hnone
      exact ⟨fun hsome => absurd hsome hnone, (Tx.pure_eq_ok.mp hcheck).2⟩
  exact ⟨{
    position, closedValues, paidValues, collateralSum, poolAmount, borrowed, credited, closed,
    summed, lowered, pooled, referred
    size_le := hsize
    tokens_le := htokens
    borrowing := hborrow
    crediting := hcredit
    closing := hclose
    collateral_le := hle
    summing := hsum
    lowering := hlower
    pooling := hpool
    referring := hrefer
    valid := hvalid
    swapping := hswap
    result_eq := rfl }⟩

/-- The parameters that `prepareDecrease` returns differ in the order only. -/
theorem prepareDecrease_eq_ok {params' : UpdatePositionParams}
    {prices : MarketPrices} (h : prepareDecrease env params w = .ok ((params', prices), w')) :
    ∃ order, MarketUtils.getMarketPrices env params.market = .ok prices ∧
      adjustOrder w.dataStore params prices = .ok order ∧ params' = { params with order } ∧
      updateFundingAndBorrowingState env params' prices w = .ok ((), w') := by
  unfold prepareDecrease at h
  simp only [↓Tx.lift_bind_eq_ok, ↓viewStore_bind_eq_ok] at h
  obtain ⟨_, hprices, order, horder, h⟩ := h
  obtain ⟨_, w₁, hstate, h⟩ := Tx.bind_eq_ok.mp h
  simp only [↓Tx.lift_bind_eq_ok, ↓viewStore_bind_eq_ok, Tx.pure_eq_ok,
    Prod.mk.injEq] at h
  obtain ⟨_, -, _, -, ⟨rfl, rfl⟩, rfl⟩ := h
  exact ⟨order, hprices, horder, rfl, hstate⟩

/-- A successful decrease up to `finishDecrease`. -/
structure DecreaseRun (env : Env) (params : UpdatePositionParams)
    (result : DecreasePositionResult × PositionFees) (w w' : World) where
  prices : MarketPrices
  order : Order
  values : DecreasePositionCollateralValues
  fees : PositionFees
  updated : World
  charged : World
  marketPrices : MarketUtils.getMarketPrices env params.market = .ok prices
  adjusting : adjustOrder w.dataStore params prices = .ok order
  preparing : prepareDecrease env params w = .ok (({ params with order }, prices), updated)
  updating : updateFundingAndBorrowingState env { params with order } prices w =
    .ok ((), updated)
  charging : processCollateral env { params with order } (makeCache { params with order } prices)
    updated = .ok ((values, fees), charged)
  finishing : finishDecrease env { params with order } prices values fees charged =
    .ok (result, w')

/-- What a successful decrease went through. -/
theorem decreasePosition_run {result : DecreasePositionResult × PositionFees}
    (h : decreasePosition env params w = .ok (result, w')) :
    Nonempty (DecreaseRun env params result w w') := by
  unfold decreasePosition at h
  obtain ⟨⟨params', prices⟩, updated, hprepare, h⟩ := Tx.bind_eq_ok.mp h
  obtain ⟨⟨values, fees⟩, charged, hcharge, hfinish⟩ := Tx.bind_eq_ok.mp h
  obtain ⟨order, hprices, hadjust, rfl, hupdate⟩ := prepareDecrease_eq_ok hprepare
  exact ⟨{
    prices, order, values, fees, updated, charged
    marketPrices := hprices
    adjusting := hadjust
    preparing := hprepare
    updating := hupdate
    charging := hcharge
    finishing := hfinish }⟩

end DecreasePositionUtils

end GmxSynthetics
