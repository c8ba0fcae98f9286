import GmxSynthetics.Order.ExecutionPrice
import GmxSynthetics.Pricing.ImpactRoundTrip
import GmxSynthetics.Reader.ReaderUtils

/-!
# The execution price that the reader reports

`ReaderUtils.getExecutionPrice` answers for increases and for decreases. It cuts a negative impact
off at the share of the size that the market allows, whatever the sign of the size; an execution
does so for a decrease only, since the impact of an increase is not capped.

* `getExecutionPrice_increase`, `getExecutionPrice_decrease` — the report in terms of the impact
  that an execution is priced with;
* `getExecutionPrice_matches_iff` — when the report is what an execution uses.
-/

namespace GmxSynthetics

open Evm

variable {env : Env} {dataStore : DataStore}

namespace ReaderUtils

/-- The impact of an increase is not below the share of its size that the market allows. -/
def WithinMaxImpact (env : Env) (dataStore : DataStore) (market : Market) (isLong : Bool)
    (indexTokenPrice : Price) (sizeDeltaUsd : Nat) : Prop :=
  ∀ priceImpactUsd maxImpactUsd,
    IncreasePositionUtils.getExecutionPriceImpactUsd env dataStore market isLong indexTokenPrice
      sizeDeltaUsd = .ok priceImpactUsd →
    Precision.applyFactor sizeDeltaUsd (MarketUtils.getMaxPositionImpactFactor dataStore
      market.marketToken false) = .ok maxImpactUsd →
    -(maxImpactUsd : Int) ≤ priceImpactUsd

variable {market : Market} {isLong : Bool} {indexTokenPrice : Price} {sizeDeltaUsd : Int}
  {result : ExecutionPriceResult}

/-- Cutting an impact off at the share of the size that the market allows. -/
theorem cutOff_eq_ok {size factor : Nat} {afterCap priceImpactUsd : Int} {diff : Nat}
    (h : (if afterCap < 0 then do
        let minPriceImpactUsd ←
          negInt (← toInt256 (← Precision.applyFactor size factor))
        if afterCap < minPriceImpactUsd then do
          let priceImpactDiffUsd ← toUint256 (← subInt minPriceImpactUsd afterCap)
          pure (minPriceImpactUsd, priceImpactDiffUsd)
        else pure (afterCap, 0)
      else pure (afterCap, 0) : Result (Int × Nat)) = .ok (priceImpactUsd, diff)) :
    (0 ≤ afterCap ∧ priceImpactUsd = afterCap) ∨
      ∃ maxImpactUsd, Precision.applyFactor size factor = .ok maxImpactUsd ∧
        priceImpactUsd = max afterCap (-maxImpactUsd) := by
  split at h
  · right
    simp only [Result.bind_eq_ok, toInt256_eq_ok, negInt_eq_ok] at h
    obtain ⟨maxImpactUsd, hmax, _, ⟨-, rfl⟩, _, ⟨-, rfl⟩, h⟩ := h
    refine ⟨maxImpactUsd, hmax, ?_⟩
    split at h
    · simp only [Result.bind_eq_ok, Result.pure_eq_ok, Prod.mk.injEq] at h
      obtain ⟨_, _, _, -, rfl, -⟩ := h
      omega
    · obtain ⟨rfl, -⟩ := Prod.mk.inj (Result.pure_eq_ok.mp h)
      omega
  · left
    obtain ⟨rfl, -⟩ := Prod.mk.inj (Result.pure_eq_ok.mp h)
    exact ⟨by omega, rfl⟩

/-- What the reader reports on an increase: the impact of the increase, cut off. -/
theorem getExecutionPrice_increase (hpos : 0 < sizeDeltaUsd)
    (hfits : sizeDeltaUsd.natAbs < intBound)
    (h : getExecutionPrice env dataStore market indexTokenPrice sizeDeltaUsd isLong =
      .ok result) :
    ∃ priceImpactUsd, IncreasePositionUtils.getExecutionPriceImpactUsd env dataStore market isLong
        indexTokenPrice sizeDeltaUsd.natAbs = .ok priceImpactUsd ∧
      (result.priceImpactUsd = priceImpactUsd ↔
        WithinMaxImpact env dataStore market isLong indexTokenPrice sizeDeltaUsd.natAbs) ∧
      result.executionPrice = BaseOrderUtils.adjustedPrice indexTokenPrice sizeDeltaUsd.natAbs
        result.priceImpactUsd isLong true := by
  unfold getExecutionPrice at h
  simp only [Result.bind_eq_ok] at h
  obtain ⟨beforeCap, hbeforeCap, size, hsize, afterCap, hafterCap, ⟨priceImpactUsd, diff⟩, hcut,
    executionPrice, hprice, h⟩ := h
  rw [if_neg (by omega), toUint256_eq_ok] at hsize
  obtain rfl : size = sizeDeltaUsd.natAbs := by omega
  obtain rfl := Result.pure_eq_ok.mp h
  have hisIncrease : decide (sizeDeltaUsd > 0) = true := decide_eq_true hpos
  rw [hisIncrease] at hprice
  have himpact : IncreasePositionUtils.getExecutionPriceImpactUsd env dataStore market isLong
      indexTokenPrice sizeDeltaUsd.natAbs = .ok afterCap := by
    simp only [IncreasePositionUtils.getExecutionPriceImpactUsd, Result.bind_eq_ok,
      toInt256_eq_ok]
    refine ⟨_, ⟨hfits, rfl⟩, beforeCap, ?_, hafterCap⟩
    rw [hsize]
    exact hbeforeCap
  refine ⟨afterCap, himpact, ?_, (BaseOrderUtils.getExecutionPrice_eq_ok hprice).1⟩
  show priceImpactUsd = afterCap ↔ _
  constructor
  · intro heq impact maxImpactUsd himpact' hmax
    obtain rfl : impact = afterCap := Except.ok.inj (himpact'.symm.trans himpact)
    rcases cutOff_eq_ok hcut with ⟨hnonneg, -⟩ | ⟨maxImpactUsd', hmax', hcutOff⟩
    · omega
    · obtain rfl : maxImpactUsd' = maxImpactUsd := Except.ok.inj (hmax'.symm.trans hmax)
      omega
  · intro hwithin
    rcases cutOff_eq_ok hcut with ⟨-, heq⟩ | ⟨maxImpactUsd, hmax, hcutOff⟩
    · exact heq
    · have hle := hwithin afterCap maxImpactUsd himpact hmax
      omega

/-- What the reader reports on a decrease: the impact of the decrease, which is cut off as well. -/
theorem getExecutionPrice_decrease (hneg : sizeDeltaUsd < 0)
    (h : getExecutionPrice env dataStore market indexTokenPrice sizeDeltaUsd isLong =
      .ok result) :
    DecreasePositionCollateralUtils.getExecutionPriceImpactUsd env dataStore market isLong
        indexTokenPrice sizeDeltaUsd.natAbs =
          .ok (result.priceImpactUsd, result.priceImpactDiffUsd) ∧
      result.executionPrice = BaseOrderUtils.adjustedPrice indexTokenPrice sizeDeltaUsd.natAbs
        result.priceImpactUsd isLong false := by
  unfold getExecutionPrice at h
  simp only [Result.bind_eq_ok] at h
  obtain ⟨beforeCap, hbeforeCap, size, hsize, afterCap, hafterCap, ⟨priceImpactUsd, diff⟩, hcut,
    executionPrice, hprice, h⟩ := h
  rw [if_pos hneg] at hsize
  simp only [Result.bind_eq_ok, negInt_eq_ok, toUint256_eq_ok] at hsize
  obtain ⟨_, ⟨hfits, rfl⟩, hsize⟩ := hsize
  obtain rfl : size = sizeDeltaUsd.natAbs := by omega
  obtain rfl := Result.pure_eq_ok.mp h
  have hisDecrease : decide (sizeDeltaUsd > 0) = false := decide_eq_false (by omega)
  rw [hisDecrease] at hprice
  refine ⟨?_, (BaseOrderUtils.getExecutionPrice_eq_ok hprice).1⟩
  simp only [DecreasePositionCollateralUtils.getExecutionPriceImpactUsd, Result.bind_eq_ok,
    toInt256_eq_ok, negInt_eq_ok]
  have hnat : sizeDeltaUsd.natAbs < intBound := by
    have hbound := hfits.2
    omega
  have hneg' : -(sizeDeltaUsd.natAbs : Int) = sizeDeltaUsd := by omega
  have hrange : IsInt256 (-(sizeDeltaUsd.natAbs : Int)) := by
    rw [hneg']
    obtain ⟨hlow, hhigh⟩ := hfits
    exact ⟨by omega, by omega⟩
  refine ⟨_, ⟨hnat, rfl⟩, _, ⟨hrange, rfl⟩, beforeCap, ?_, afterCap, hafterCap, hcut⟩
  rw [hneg']
  exact hbeforeCap

-- ---------------------------------------------------------------------------
-- Reports and executions
-- ---------------------------------------------------------------------------

section Execution

variable {params : PositionUtils.UpdatePositionParams} {prices : MarketPrices}

/-- **When the reader reports what an execution uses.** For the size and the side of an order, at
the prices of the execution: for an increase, if and only if the impact is within the share of the
size that bounds a decrease; for a decrease, always. -/
theorem getExecutionPrice_matches_iff
    (hsize : params.order.sizeDeltaUsd = sizeDeltaUsd.natAbs)
    (hside : params.position.isLong = params.order.isLong)
    (hprice : Oracle.getPrimaryPrice env params.market.indexToken = .ok prices.indexTokenPrice)
    (hreader : getExecutionPrice env dataStore params.market prices.indexTokenPrice sizeDeltaUsd
      params.order.isLong = .ok result) :
    (0 < sizeDeltaUsd → ∀ executionPrice priceImpactAmount,
      IncreasePositionUtils.getExecutionPrice env dataStore params prices =
        .ok (executionPrice, priceImpactAmount) →
      ∃ priceImpactUsd, IncreasePositionUtils.getExecutionPriceImpactUsd env dataStore
          params.market params.order.isLong prices.indexTokenPrice params.order.sizeDeltaUsd =
            .ok priceImpactUsd ∧
        (result.executionPrice = executionPrice ∧ result.priceImpactUsd = priceImpactUsd ↔
          WithinMaxImpact env dataStore params.market params.order.isLong prices.indexTokenPrice
            params.order.sizeDeltaUsd)) ∧
    (sizeDeltaUsd < 0 → ∀ executionPrice priceImpactAmount priceImpactDiffUsd,
      DecreasePositionCollateralUtils.getExecutionPrice env dataStore params prices
          params.order.sizeDeltaUsd = .ok (executionPrice, priceImpactAmount, priceImpactDiffUsd) →
      ∃ priceImpactUsd, DecreasePositionCollateralUtils.getExecutionPriceImpactUsd env dataStore
          params.market params.order.isLong prices.indexTokenPrice params.order.sizeDeltaUsd =
            .ok (priceImpactUsd, priceImpactDiffUsd) ∧
        result.executionPrice = executionPrice ∧ result.priceImpactUsd = priceImpactUsd ∧
        result.priceImpactDiffUsd = priceImpactDiffUsd) := by
  constructor
  case left =>
    intro hpos executionPrice priceImpactAmount hincrease
    rw [IncreasePositionUtils.getExecutionPrice_eq] at hincrease
    simp only [Result.bind_eq_ok, hprice, Except.ok.injEq, exists_eq_left'] at hincrease
    obtain ⟨priceImpactUsd, himpact, price, hexecution, _, -, h⟩ := hincrease
    obtain ⟨rfl, -⟩ := Prod.mk.inj (Result.pure_eq_ok.mp h)
    have hfits : sizeDeltaUsd.natAbs < intBound := by
      have hcast := himpact
      simp only [IncreasePositionUtils.getExecutionPriceImpactUsd, Result.bind_eq_ok,
        toInt256_eq_ok, hsize] at hcast
      obtain ⟨_, ⟨hlt, -⟩, -⟩ := hcast
      exact hlt
    obtain ⟨impact, himpact', hiff, hreport⟩ := getExecutionPrice_increase hpos hfits hreader
    rw [hsize] at himpact hexecution ⊢
    obtain rfl : impact = priceImpactUsd := Except.ok.inj (himpact'.symm.trans himpact)
    refine ⟨impact, himpact', ?_⟩
    rw [← hiff]
    constructor
    · exact And.right
    · intro heq
      rw [hreport, heq]
      exact ⟨(BaseOrderUtils.getExecutionPrice_eq_ok hexecution).1.symm, rfl⟩
  case right =>
    intro hneg executionPrice priceImpactAmount priceImpactDiffUsd hdecrease
    rw [DecreasePositionCollateralUtils.getExecutionPrice_eq] at hdecrease
    simp only [Result.bind_eq_ok, hprice, Except.ok.injEq, exists_eq_left'] at hdecrease
    obtain ⟨⟨priceImpactUsd, diff⟩, himpact, price, hexecution, _, -, h⟩ := hdecrease
    simp only [Result.pure_eq_ok, Prod.mk.injEq] at h
    obtain ⟨rfl, -, rfl⟩ := h
    obtain ⟨himpact', hreport⟩ := getExecutionPrice_decrease hneg hreader
    rw [hsize] at himpact hexecution ⊢
    rw [hside] at hexecution
    have heq := Prod.mk.inj (Except.ok.inj (himpact'.symm.trans himpact))
    refine ⟨priceImpactUsd, himpact, ?_, heq.1, heq.2⟩
    rw [hreport, heq.1]
    exact (BaseOrderUtils.getExecutionPrice_eq_ok hexecution).1.symm

end Execution

-- ---------------------------------------------------------------------------
-- Two runs
-- ---------------------------------------------------------------------------

/-- The market of `impactStore`, where a decrease bears at most a thousandth of its size. -/
def tightImpactStore : DataStore :=
  impactStore.setUint (Keys.maxPositionImpactFactorKey 1 false) (10 ^ 27)

def impactEnv : Env := { Env.plain 1 fun _ => ⟨2 * 10 ^ 15, 2 * 10 ^ 15⟩ with pow := wholePow }

/-- An order to increase a long position by 1024 dollars, at any price. -/
def increaseParams : PositionUtils.UpdatePositionParams where
  market := ⟨1, 2, 3, 4⟩
  order :=
    { Order.empty with
      sizeDeltaUsd := 1024 * 10 ^ 30, isLong := true, acceptablePrice := 10 ^ 20 }
  orderKey := .request 1
  position := { Position.empty with market := 1, collateralToken := 4, isLong := true }
  positionKey := .position 8 1 4 true
  secondaryOrderType := .None

def impactPrices : MarketPrices :=
  ⟨⟨2 * 10 ^ 15, 2 * 10 ^ 15⟩, ⟨2 * 10 ^ 15, 2 * 10 ^ 15⟩, ⟨2 * 10 ^ 15, 2 * 10 ^ 15⟩⟩

/-- The increase bears an impact of 5.24 dollars; the reader reports 1.02 dollars and a better
price. -/
theorem getExecutionPrice_differs :
    ¬ ∀ (env : Env) (dataStore : DataStore) (params : PositionUtils.UpdatePositionParams)
      (prices : MarketPrices) (sizeDeltaUsd : Int) (result : ExecutionPriceResult)
      (executionPrice : Nat) (priceImpactUsd priceImpactAmount : Int),
      0 < sizeDeltaUsd → params.order.sizeDeltaUsd = sizeDeltaUsd.natAbs →
      params.position.isLong = params.order.isLong →
      Oracle.getPrimaryPrice env params.market.indexToken = .ok prices.indexTokenPrice →
      getExecutionPrice env dataStore params.market prices.indexTokenPrice sizeDeltaUsd
        params.order.isLong = .ok result →
      IncreasePositionUtils.getExecutionPrice env dataStore params prices =
        .ok (executionPrice, priceImpactAmount) →
      IncreasePositionUtils.getExecutionPriceImpactUsd env dataStore params.market
        params.order.isLong prices.indexTokenPrice params.order.sizeDeltaUsd =
          .ok priceImpactUsd →
      result.executionPrice = executionPrice ∧ result.priceImpactUsd = priceImpactUsd := by
  intro hclaim
  have hmatches := hclaim impactEnv tightImpactStore increaseParams impactPrices (1024 * 10 ^ 30)
    ⟨-524288 * 10 ^ 25, -524288 * 10 ^ 25, -1024 * 10 ^ 27, 421888 * 10 ^ 25, 2002002002002002⟩
    2010292698616918 (-524288 * 10 ^ 25) (-262144 * 10 ^ 10) (by decide) (by decide) rfl
    (by decide +kernel) (by decide +kernel) (by decide +kernel) (by decide +kernel)
  exact absurd hmatches.1 (by decide)

theorem getExecutionPrice_matches_impactStore :
    (2010292698616918 = 2010292698616918 ∧ (-524288 * 10 ^ 25 : Int) = -524288 * 10 ^ 25 ↔
      WithinMaxImpact impactEnv impactStore increaseParams.market true impactPrices.indexTokenPrice
        (1024 * 10 ^ 30)) := by
  have hreader : getExecutionPrice impactEnv impactStore increaseParams.market
      impactPrices.indexTokenPrice (1024 * 10 ^ 30) increaseParams.order.isLong =
      .ok ⟨-524288 * 10 ^ 25, -524288 * 10 ^ 25, -524288 * 10 ^ 25, 0, 2010292698616918⟩ := by
    decide +kernel
  have hincrease : IncreasePositionUtils.getExecutionPrice impactEnv impactStore increaseParams
      impactPrices = .ok (2010292698616918, -262144 * 10 ^ 10) := by decide +kernel
  obtain ⟨priceImpactUsd, himpact, hiff⟩ := (getExecutionPrice_matches_iff (by decide) rfl
    (by decide +kernel) hreader).1 (by decide) _ _ hincrease
  have himpact' : IncreasePositionUtils.getExecutionPriceImpactUsd impactEnv impactStore
      increaseParams.market true impactPrices.indexTokenPrice (1024 * 10 ^ 30) =
      .ok (-524288 * 10 ^ 25) := by decide +kernel
  obtain rfl : priceImpactUsd = -524288 * 10 ^ 25 := Except.ok.inj (himpact.symm.trans himpact')
  exact hiff

end ReaderUtils

end GmxSynthetics
