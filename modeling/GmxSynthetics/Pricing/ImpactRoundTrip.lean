import GmxSynthetics.Evm.Rounding
import GmxSynthetics.Market.PoolValueSpread
import GmxSynthetics.Position.PositionAccounting

/-!
# Price impact of opening and closing

A position that is opened and closed at once is charged the price impact twice, once in
either direction. The impact is the difference of two values of the imbalance, floored at
the positive or the negative factor, and the positive factor never exceeds the negative one.

* `Impact.roundTrip_le_one` — the two values lose against each other but for one unit of
  rounding, whether the balance stays on its side or crosses over;
* `getExecutionPriceImpactUsd` — the capped impact that prices an increase, and a decrease;
* `AfterIncrease` — the open interest has grown by one increase, whatever happened to the
  impact pool and the virtual inventory;
* `roundTrip_priceImpactUsd_le_one` — opening and closing gains at most one unit.
-/

namespace GmxSynthetics

open Evm MarketUtils PositionPricingUtils

-- ---------------------------------------------------------------------------
-- The power function
-- ---------------------------------------------------------------------------

/-- `PRBMathUD60x18.pow` is monotone in its base. -/
def Env.PowMonotone (env : Env) : Prop :=
  ∀ base base' exponent x y, base ≤ base' →
    env.pow base exponent = .ok x → env.pow base' exponent = .ok y → x ≤ y

variable {env : Env}

/-- A monotone power makes the exponent factor monotone. -/
theorem Precision.applyExponentFactor_mono (hpow : env.PowMonotone)
    {floatValue floatValue' exponentFactor x y : Nat} (hle : floatValue ≤ floatValue')
    (hx : applyExponentFactor env floatValue exponentFactor = .ok x)
    (hy : applyExponentFactor env floatValue' exponentFactor = .ok y) : x ≤ y := by
  unfold applyExponentFactor at hx hy
  by_cases hsmall : floatValue < FLOAT_PRECISION
  · rw [if_pos hsmall] at hx
    rw [← Result.pure_eq_ok.mp hx]
    exact Nat.zero_le y
  have hlarge : ¬ floatValue' < FLOAT_PRECISION := by omega
  rw [if_neg hsmall] at hx
  rw [if_neg hlarge] at hy
  by_cases hone : exponentFactor = FLOAT_PRECISION
  · rw [if_pos hone] at hx hy
    rw [← Result.pure_eq_ok.mp hx, ← Result.pure_eq_ok.mp hy]
    exact hle
  · rw [if_neg hone] at hx hy
    simp only [Result.bind_eq_ok, weiToFloat, mul_eq_ok] at hx hy
    obtain ⟨wei, hwei, -, rfl⟩ := hx
    obtain ⟨wei', hwei', -, rfl⟩ := hy
    have hbase : floatToWei floatValue ≤ floatToWei floatValue' := Nat.div_le_div_right hle
    exact Nat.mul_le_mul_right _ (hpow _ _ _ _ _ hbase hwei hwei')

-- ---------------------------------------------------------------------------
-- The value of an imbalance
-- ---------------------------------------------------------------------------

/-- What an imbalance is worth at a factor: half the product, rounded down. -/
def Impact.value (exponentValue factor : Nat) : Nat :=
  exponentValue * factor / (Precision.FLOAT_PRECISION * 2)

/-- The impact grows with the difference. -/
theorem Impact.value_mono {x y : Nat} (hle : x ≤ y) (factor : Nat) :
    value x factor ≤ value y factor :=
  Nat.div_le_div_right (Nat.mul_le_mul_right _ hle)

/-- And with its factor. -/
theorem Impact.value_mono_factor (x : Nat) {f g : Nat} (hle : f ≤ g) : value x f ≤ value x g :=
  Nat.div_le_div_right (Nat.mul_le_mul_left _ hle)

/-- A difference with its sign is the signed difference. -/
theorem Calc.toSigned_diff {a b : Nat} {isPositive : Bool} {c : Int}
    (hpositive : isPositive = true → b ≤ a) (hnegative : isPositive = false → a ≤ b)
    (h : toSigned (diff a b) isPositive = .ok c) : c = a - b := by
  unfold toSigned at h
  cases isPositive with
  | true =>
    have hle := hpositive rfl
    obtain ⟨-, rfl⟩ := toInt256_eq_ok.mp h
    unfold diff
    split <;> omega
  | false =>
    have hle := hnegative rfl
    simp only [Bool.false_eq_true, if_false, Result.bind_eq_ok, toInt256_eq_ok, negInt_eq_ok] at h
    obtain ⟨_, ⟨-, rfl⟩, -, rfl⟩ := h
    unfold diff
    split <;> omega

namespace PricingUtils

variable {initialDiffUsd nextDiffUsd impactExponentFactor : Nat} {priceImpactUsd : Int}

/-- An impact factor is applied to the power of the difference. -/
theorem applyImpactFactor_eq_ok {diffUsd impactFactor amount : Nat}
    (h : applyImpactFactor env diffUsd impactFactor impactExponentFactor = .ok amount) :
    ∃ exponentValue, Precision.applyExponentFactor env diffUsd impactExponentFactor =
      .ok exponentValue ∧ amount = Impact.value exponentValue impactFactor := by
  simp only [applyImpactFactor, Result.bind_eq_ok, Precision.applyFactor,
    Precision.applyFraction, mulDiv_eq_ok, div_eq_ok] at h
  obtain ⟨exponentValue, hvalue, _, ⟨-, -, rfl⟩, -, rfl⟩ := h
  exact ⟨exponentValue, hvalue, Nat.div_div_eq_div_mul _ _ _⟩

/-- On the same side the impact is the difference of two values. -/
theorem sameSideRebalance_eq_ok (hpow : env.PowMonotone) {impactFactor : Nat}
    (h : getPriceImpactUsdForSameSideRebalance env initialDiffUsd nextDiffUsd impactFactor
      impactExponentFactor = .ok priceImpactUsd) :
    ∃ x y, Precision.applyExponentFactor env initialDiffUsd impactExponentFactor = .ok x ∧
      Precision.applyExponentFactor env nextDiffUsd impactExponentFactor = .ok y ∧
      priceImpactUsd = Impact.value x impactFactor - Impact.value y impactFactor := by
  simp only [getPriceImpactUsdForSameSideRebalance, Result.bind_eq_ok] at h
  obtain ⟨_, hinitial, _, hnext, h⟩ := h
  obtain ⟨x, hx, rfl⟩ := applyImpactFactor_eq_ok hinitial
  obtain ⟨y, hy, rfl⟩ := applyImpactFactor_eq_ok hnext
  refine ⟨x, y, hx, hy, Calc.toSigned_diff ?_ ?_ h⟩
  · intro hless
    have hle : nextDiffUsd ≤ initialDiffUsd := le_of_lt (of_decide_eq_true hless)
    exact Impact.value_mono (Precision.applyExponentFactor_mono hpow hle hy hx) _
  · intro hless
    have hle : initialDiffUsd ≤ nextDiffUsd := not_lt.mp (of_decide_eq_false hless)
    exact Impact.value_mono (Precision.applyExponentFactor_mono hpow hle hx hy) _

/-- Across the balance it is what one factor gives less what the other takes. -/
theorem crossoverRebalance_eq_ok {positiveImpactFactor negativeImpactFactor : Nat}
    (h : getPriceImpactUsdForCrossoverRebalance env initialDiffUsd nextDiffUsd
      positiveImpactFactor negativeImpactFactor impactExponentFactor = .ok priceImpactUsd) :
    ∃ x y, Precision.applyExponentFactor env initialDiffUsd impactExponentFactor = .ok x ∧
      Precision.applyExponentFactor env nextDiffUsd impactExponentFactor = .ok y ∧
      priceImpactUsd =
        Impact.value x positiveImpactFactor - Impact.value y negativeImpactFactor := by
  simp only [getPriceImpactUsdForCrossoverRebalance, Result.bind_eq_ok] at h
  obtain ⟨_, hinitial, _, hnext, h⟩ := h
  obtain ⟨x, hx, rfl⟩ := applyImpactFactor_eq_ok hinitial
  obtain ⟨y, hy, rfl⟩ := applyImpactFactor_eq_ok hnext
  refine ⟨x, y, hx, hy, Calc.toSigned_diff ?_ ?_ h⟩
  · intro hless
    exact le_of_lt (of_decide_eq_true hless)
  · intro hless
    exact not_lt.mp (of_decide_eq_false hless)

end PricingUtils

-- ---------------------------------------------------------------------------
-- One update and its reverse
-- ---------------------------------------------------------------------------

namespace PositionPricingUtils

namespace OpenInterestParams

variable (p : OpenInterestParams)

/-- The imbalance before the update. -/
def initialDiffUsd : Nat := Calc.diff p.longOpenInterest p.shortOpenInterest

/-- The imbalance after it. -/
def nextDiffUsd : Nat := Calc.diff p.nextLongOpenInterest p.nextShortOpenInterest

/-- The larger side stays the larger one. -/
def isSameSideRebalance : Bool :=
  decide (p.longOpenInterest ≤ p.shortOpenInterest) ==
    decide (p.nextLongOpenInterest ≤ p.nextShortOpenInterest)

/-- The update that takes this one back. -/
def reverse : OpenInterestParams where
  longOpenInterest := p.nextLongOpenInterest
  shortOpenInterest := p.nextShortOpenInterest
  nextLongOpenInterest := p.longOpenInterest
  nextShortOpenInterest := p.shortOpenInterest

/-- The way back is on the same side if the way there is. -/
theorem isSameSideRebalance_reverse :
    p.reverse.isSameSideRebalance = p.isSameSideRebalance := by
  unfold isSameSideRebalance
  exact Bool.beq_comm

end OpenInterestParams

/-- The factors at which an update values the imbalance before and after it. -/
def impactFactors (factors : Nat × Nat) (p : OpenInterestParams) : Nat × Nat :=
  if p.isSameSideRebalance then
    if p.nextDiffUsd < p.initialDiffUsd then (factors.1, factors.1) else (factors.2, factors.2)
  else factors

/-- The factors of the way back. -/
theorem impactFactors_reverse (factors : Nat × Nat) (p : OpenInterestParams) :
    impactFactors factors p.reverse =
      if p.isSameSideRebalance then
        if p.initialDiffUsd < p.nextDiffUsd then (factors.1, factors.1)
        else (factors.2, factors.2)
      else factors := by
  unfold impactFactors
  rw [p.isSameSideRebalance_reverse]
  rfl

/-- The impact of an update at the given factors: the branches of `_getPriceImpactUsd`, which are
the same for open interest and for pools. -/
def updatePriceImpactUsd (env : Env) (factors : Nat × Nat) (impactExponentFactor : Nat)
    (p : OpenInterestParams) : Result Int :=
  if p.isSameSideRebalance then
    PricingUtils.getPriceImpactUsdForSameSideRebalance env p.initialDiffUsd p.nextDiffUsd
      (if decide (p.nextDiffUsd < p.initialDiffUsd) then factors.1 else factors.2)
      impactExponentFactor
  else
    PricingUtils.getPriceImpactUsdForCrossoverRebalance env p.initialDiffUsd p.nextDiffUsd
      factors.1 factors.2 impactExponentFactor

/-- The impact is the value that the imbalance has lost. -/
theorem updatePriceImpactUsd_eq_ok (hpow : env.PowMonotone) {factors : Nat × Nat}
    {impactExponentFactor : Nat} {p : OpenInterestParams} {priceImpactUsd : Int}
    (h : updatePriceImpactUsd env factors impactExponentFactor p = .ok priceImpactUsd) :
    ∃ x y,
      Precision.applyExponentFactor env p.initialDiffUsd impactExponentFactor = .ok x ∧
      Precision.applyExponentFactor env p.nextDiffUsd impactExponentFactor = .ok y ∧
      priceImpactUsd = Impact.value x (impactFactors factors p).1 -
        Impact.value y (impactFactors factors p).2 := by
  unfold updatePriceImpactUsd at h
  unfold impactFactors
  by_cases hsame : p.isSameSideRebalance = true
  · rw [if_pos hsame] at h ⊢
    obtain ⟨x, y, hx, hy, rfl⟩ := PricingUtils.sameSideRebalance_eq_ok hpow h
    refine ⟨x, y, hx, hy, ?_⟩
    by_cases hless : p.nextDiffUsd < p.initialDiffUsd
    · simp only [hless, decide_true, if_true]
    · simp only [hless, decide_false, Bool.false_eq_true, if_false]
  · rw [if_neg hsame] at h ⊢
    exact PricingUtils.crossoverRebalance_eq_ok h

/-- The impact is computed from the differences and the factors. -/
theorem _getPriceImpactUsd_eq (dataStore : DataStore) (market : Address) (p : OpenInterestParams) :
    _getPriceImpactUsd env dataStore market p =
      updatePriceImpactUsd env (getAdjustedPositionImpactFactors dataStore market)
        (dataStore.getUint (Keys.positionImpactExponentFactorKey market)) p := rfl

/-- What it comes to on either side. -/
theorem _getPriceImpactUsd_eq_ok (hpow : env.PowMonotone) {dataStore : DataStore}
    {market : Address} {p : OpenInterestParams} {priceImpactUsd : Int}
    (h : _getPriceImpactUsd env dataStore market p = .ok priceImpactUsd) :
    let factors := impactFactors (getAdjustedPositionImpactFactors dataStore market) p
    let impactExponentFactor := dataStore.getUint (Keys.positionImpactExponentFactorKey market)
    ∃ x y,
      Precision.applyExponentFactor env p.initialDiffUsd impactExponentFactor = .ok x ∧
      Precision.applyExponentFactor env p.nextDiffUsd impactExponentFactor = .ok y ∧
      priceImpactUsd = Impact.value x factors.1 - Impact.value y factors.2 := by
  rw [_getPriceImpactUsd_eq] at h
  exact updatePriceImpactUsd_eq_ok hpow h

end PositionPricingUtils

/-- The positive factor is not above the negative one. -/
theorem MarketUtils.adjustedImpactFactors_le (positiveFactor negativeFactor : Nat) :
    (adjustedImpactFactors positiveFactor negativeFactor).1 ≤
      (adjustedImpactFactors positiveFactor negativeFactor).2 := by
  unfold adjustedImpactFactors
  split
  · exact le_refl _
  · rename_i hle
    exact not_lt.mp hle

/-- **An update and its reverse.** Whatever the balance does, the two impacts gain at most one
unit together. -/
theorem Impact.roundTrip_le_one (hpow : env.PowMonotone) {factors : Nat × Nat}
    (hfactors : factors.1 ≤ factors.2) {p : OpenInterestParams} {exponentFactor x y : Nat}
    (hx : Precision.applyExponentFactor env p.initialDiffUsd exponentFactor = .ok x)
    (hy : Precision.applyExponentFactor env p.nextDiffUsd exponentFactor = .ok y) :
    ((value x (impactFactors factors p).1 : Int) - value y (impactFactors factors p).2) +
      (value y (impactFactors factors p.reverse).1 -
        value x (impactFactors factors p.reverse).2) ≤ 1 := by
  rw [impactFactors_reverse, impactFactors]
  by_cases hsame : p.isSameSideRebalance = true
  · simp only [if_pos hsame]
    rcases lt_trichotomy p.nextDiffUsd p.initialDiffUsd with hless | heq | hmore
    -- towards the balance and away from it again
    · have hyx := Precision.applyExponentFactor_mono hpow (le_of_lt hless) hy hx
      have hswap : value x factors.1 + value y factors.2 ≤
          value y factors.1 + value x factors.2 + 1 :=
        Rounding.add_mul_div_le_swap hyx hfactors
      have hback : ¬ p.initialDiffUsd < p.nextDiffUsd := by omega
      simp only [if_pos hless, if_neg hback]
      omega
    · simp only [heq, lt_self_iff_false, if_false]
      omega
    · have hxy := Precision.applyExponentFactor_mono hpow (le_of_lt hmore) hx hy
      have hswap : value y factors.1 + value x factors.2 ≤
          value x factors.1 + value y factors.2 + 1 :=
        Rounding.add_mul_div_le_swap hxy hfactors
      have hback : ¬ p.nextDiffUsd < p.initialDiffUsd := by omega
      simp only [if_pos hmore, if_neg hback]
      omega
  -- both ways the balance that is left behind is valued at the smaller factor
  · simp only [if_neg hsame]
    have hinitial := value_mono_factor x hfactors
    have hnext := value_mono_factor y hfactors
    omega

-- ---------------------------------------------------------------------------
-- The impact that prices an update
-- ---------------------------------------------------------------------------

/-- The impact that an increase is priced with. -/
def IncreasePositionUtils.getExecutionPriceImpactUsd (env : Env) (dataStore : DataStore)
    (market : Market) (isLong : Bool) (indexTokenPrice : Price) (sizeDeltaUsd : Nat) :
    Result Int := do
  let priceImpactUsd ← PositionPricingUtils.getPriceImpactUsd env dataStore
    { market, usdDelta := ← toInt256 sizeDeltaUsd, isLong }
  getCappedPositionImpactUsd dataStore market.marketToken indexTokenPrice priceImpactUsd
    sizeDeltaUsd

/-- The impact that a decrease is priced with, and the part of a negative impact that is cut
off by its cap. -/
def DecreasePositionCollateralUtils.getExecutionPriceImpactUsd (env : Env)
    (dataStore : DataStore) (market : Market) (isLong : Bool) (indexTokenPrice : Price)
    (sizeDeltaUsd : Nat) : Result (Int × Nat) := do
  let priceImpactUsd ← PositionPricingUtils.getPriceImpactUsd env dataStore
    { market, usdDelta := ← negInt (← toInt256 sizeDeltaUsd), isLong }
  let priceImpactUsd ← getCappedPositionImpactUsd dataStore market.marketToken indexTokenPrice
    priceImpactUsd sizeDeltaUsd
  if priceImpactUsd < 0 then do
    let maxPriceImpactFactor := getMaxPositionImpactFactor dataStore market.marketToken false
    let minPriceImpactUsd ←
      negInt (← toInt256 (← Precision.applyFactor sizeDeltaUsd maxPriceImpactFactor))
    if priceImpactUsd < minPriceImpactUsd then do
      let priceImpactDiffUsd ← toUint256 (← subInt minPriceImpactUsd priceImpactUsd)
      pure (minPriceImpactUsd, priceImpactDiffUsd)
    else pure (priceImpactUsd, 0)
  else pure (priceImpactUsd, 0)

section ExecutionPrice

variable (env) (dataStore : DataStore) (params : PositionUtils.UpdatePositionParams)
  (prices : MarketPrices)

/-- The price of an increase is that of its impact. -/
theorem IncreasePositionUtils.getExecutionPrice_eq :
    getExecutionPrice env dataStore params prices = (do
      let priceImpactUsd ← getExecutionPriceImpactUsd env dataStore params.market
        params.order.isLong prices.indexTokenPrice params.order.sizeDeltaUsd
      let executionPrice ← BaseOrderUtils.getExecutionPrice
        (← Oracle.getPrimaryPrice env params.market.indexToken) params.order.sizeDeltaUsd
        priceImpactUsd params.order.acceptablePrice params.order.isLong true
      let priceImpactAmount ← getPriceImpactAmount priceImpactUsd prices.indexTokenPrice
        params.order.isLong true
      pure (executionPrice, priceImpactAmount)) := by
  simp only [getExecutionPrice, getExecutionPriceImpactUsd, bind_assoc]

/-- So is that of a decrease, up to the cap on its loss. -/
theorem DecreasePositionCollateralUtils.getExecutionPrice_eq (sizeDeltaUsd : Nat) :
    getExecutionPrice env dataStore params prices sizeDeltaUsd = (do
      let (priceImpactUsd, priceImpactDiffUsd) ← getExecutionPriceImpactUsd env dataStore
        params.market params.order.isLong prices.indexTokenPrice sizeDeltaUsd
      let executionPrice ← BaseOrderUtils.getExecutionPrice
        (← Oracle.getPrimaryPrice env params.market.indexToken) sizeDeltaUsd priceImpactUsd
        params.order.acceptablePrice params.position.isLong false
      let priceImpactAmount ← getPriceImpactAmount priceImpactUsd prices.indexTokenPrice
        params.position.isLong false
      pure (executionPrice, priceImpactAmount, priceImpactDiffUsd)) := by
  simp only [getExecutionPrice, getExecutionPriceImpactUsd, bind_assoc]

end ExecutionPrice

section Bounds

variable {dataStore dataStore' : DataStore} {market : Market} {isLong : Bool}

/-- A cap never raises the impact, and leaves no gain above the positive share of the size. -/
theorem MarketUtils.getCappedPositionImpactUsd_le {marketToken : Address} {tokenPrice : Price}
    {priceImpactUsd capped : Int} {sizeDeltaUsd : Nat}
    (h : getCappedPositionImpactUsd dataStore marketToken tokenPrice priceImpactUsd
      sizeDeltaUsd = .ok capped) :
    capped ≤ priceImpactUsd ∧
      capped ≤ (sizeDeltaUsd * getMaxPositionImpactFactor dataStore marketToken true /
        Precision.FLOAT_PRECISION : Nat) := by
  unfold getCappedPositionImpactUsd at h
  split at h
  · rw [Result.pure_eq_ok] at h
    have hmax := Int.natCast_nonneg (sizeDeltaUsd *
      getMaxPositionImpactFactor dataStore marketToken true / Precision.FLOAT_PRECISION)
    omega
  · simp only [Result.bind_eq_ok, mul_eq_ok, toInt256_eq_ok, Result.pure_eq_ok] at h
    obtain ⟨_, -, _, -, amount, hamount, _, ⟨-, rfl⟩, rfl⟩ := h
    rw [← Precision.applyFactor_eq_ok hamount]
    split <;> split <;> omega

namespace PositionPricingUtils

/-- The differences before and after the trade. -/
theorem getNextOpenInterestParams_eq_ok {params : GetPriceImpactUsdParams}
    {longOpenInterest shortOpenInterest : Nat} {p : OpenInterestParams}
    (h : getNextOpenInterestParams params longOpenInterest shortOpenInterest = .ok p) :
    p.longOpenInterest = longOpenInterest ∧ p.shortOpenInterest = shortOpenInterest ∧
    (p.nextLongOpenInterest : Int) =
      longOpenInterest + (if params.isLong then params.usdDelta else 0) ∧
    (p.nextShortOpenInterest : Int) =
      shortOpenInterest + (if params.isLong then 0 else params.usdDelta) := by
  unfold getNextOpenInterestParams at h
  cases hside : params.isLong with
  | true =>
    simp only [hside, if_true, Result.bind_eq_ok, Result.pure_eq_ok] at h
    obtain ⟨_, -, _, -, next, hnext, rfl⟩ := h
    exact ⟨rfl, rfl, by simpa using sumReturnUint256_eq hnext, by simp⟩
  | false =>
    simp only [hside, Bool.false_eq_true, if_false, Result.bind_eq_ok, Result.pure_eq_ok] at h
    obtain ⟨_, -, _, -, next, hnext, rfl⟩ := h
    exact ⟨rfl, rfl, by simp, by simpa using sumReturnUint256_eq hnext⟩

/-- They are those of the open interest of the market. -/
theorem getNextOpenInterest_eq_ok {params : GetPriceImpactUsdParams} {p : OpenInterestParams}
    (h : getNextOpenInterest dataStore params = .ok p) :
    getNextOpenInterestParams params (totalOpenInterest dataStore params.market true)
      (totalOpenInterest dataStore params.market false) = .ok p := by
  simp only [getNextOpenInterest, Result.bind_eq_ok, getOpenInterest_eq_ok] at h
  obtain ⟨_, ⟨-, rfl⟩, _, ⟨-, rfl⟩, h⟩ := h
  exact h

/-- The virtual inventory only makes an impact worse. -/
theorem getPriceImpactUsd_le {params : GetPriceImpactUsdParams} {priceImpactUsd : Int}
    (h : getPriceImpactUsd env dataStore params = .ok priceImpactUsd) :
    ∃ p realImpactUsd, getNextOpenInterest dataStore params = .ok p ∧
      _getPriceImpactUsd env dataStore params.market.marketToken p = .ok realImpactUsd ∧
      priceImpactUsd ≤ realImpactUsd := by
  unfold getPriceImpactUsd at h
  simp only [Result.bind_eq_ok] at h
  obtain ⟨p, hp, realImpactUsd, hreal, h⟩ := h
  refine ⟨p, realImpactUsd, hp, hreal, ?_⟩
  split at h
  · exact (Result.pure_eq_ok.mp h).ge
  · split at h
    · exact (Result.pure_eq_ok.mp h).ge
    · simp only [Result.bind_eq_ok, Result.pure_eq_ok] at h
      obtain ⟨_, -, virtualImpactUsd, -, rfl⟩ := h
      split <;> omega

end PositionPricingUtils

-- ---------------------------------------------------------------------------
-- Opening and closing
-- ---------------------------------------------------------------------------

/-- What an increase leaves for the decrease that follows it: the open interest has grown by
its size, and the factors are the same. The impact pool and the virtual inventory may have
changed in any way. -/
structure AfterIncrease (market : Market) (collateralToken : Address) (isLong : Bool)
    (sizeDeltaUsd : Nat) (dataStore dataStore' : DataStore) : Prop where
  isCollateral : collateralToken = market.longToken ∨ collateralToken = market.shortToken
  openInterest : ∀ token side,
    dataStore'.getUint (Keys.openInterestKey market.marketToken token side) =
      dataStore.getUint (Keys.openInterestKey market.marketToken token side) +
        if token = collateralToken ∧ side = isLong then sizeDeltaUsd else 0
  impactFactor : ∀ isPositive,
    dataStore'.getUint (Keys.positionImpactFactorKey market.marketToken isPositive) =
      dataStore.getUint (Keys.positionImpactFactorKey market.marketToken isPositive)
  impactExponentFactor :
    dataStore'.getUint (Keys.positionImpactExponentFactorKey market.marketToken) =
      dataStore.getUint (Keys.positionImpactExponentFactorKey market.marketToken)
  maxImpactFactor : ∀ isPositive,
    dataStore'.getUint (Keys.maxPositionImpactFactorKey market.marketToken isPositive) =
      dataStore.getUint (Keys.maxPositionImpactFactorKey market.marketToken isPositive)

/-- The open interest of a side, where the tokens differ. -/
theorem MarketUtils.totalOpenInterest_of_ne (hne : market.longToken ≠ market.shortToken)
    (side : Bool) :
    totalOpenInterest dataStore market side =
      dataStore.getUint (Keys.openInterestKey market.marketToken market.longToken side) +
        dataStore.getUint (Keys.openInterestKey market.marketToken market.shortToken side) := by
  simp only [totalOpenInterest, getOpenInterestForCollateral, getPoolDivisor, if_neg hne,
    Nat.div_one]

namespace AfterIncrease

variable {collateralToken : Address} {sizeDeltaUsd : Nat}
  (h : AfterIncrease market collateralToken isLong sizeDeltaUsd dataStore dataStore')

include h

/-- After the increase it is larger by the size, on its side. -/
theorem totalOpenInterest (hne : market.longToken ≠ market.shortToken) (side : Bool) :
    MarketUtils.totalOpenInterest dataStore' market side =
      MarketUtils.totalOpenInterest dataStore market side +
        if side = isLong then sizeDeltaUsd else 0 := by
  rw [totalOpenInterest_of_ne hne, totalOpenInterest_of_ne hne, h.openInterest, h.openInterest]
  rcases h.isCollateral with rfl | rfl
  · simp only [true_and, hne.symm, false_and, if_false]
    omega
  · simp only [true_and, hne, false_and, if_false]
    omega

/-- The factors are settings, which the increase leaves alone. -/
theorem adjustedImpactFactors :
    getAdjustedPositionImpactFactors dataStore' market.marketToken =
      getAdjustedPositionImpactFactors dataStore market.marketToken := by
  unfold getAdjustedPositionImpactFactors
  rw [h.impactFactor, h.impactFactor]

/-- So are their caps. -/
theorem maxImpactFactors :
    getMaxPositionImpactFactors dataStore' market.marketToken =
      getMaxPositionImpactFactors dataStore market.marketToken := by
  unfold getMaxPositionImpactFactors
  rw [h.maxImpactFactor, h.maxImpactFactor]

/-- The decrease takes back the update that the increase was. -/
theorem nextOpenInterest_eq_reverse (hne : market.longToken ≠ market.shortToken)
    {p p' : OpenInterestParams}
    (hp : getNextOpenInterest dataStore ⟨market, sizeDeltaUsd, isLong⟩ = .ok p)
    (hp' : getNextOpenInterest dataStore' ⟨market, -sizeDeltaUsd, isLong⟩ = .ok p') :
    p' = p.reverse := by
  obtain ⟨hlong, hshort, hnextLong, hnextShort⟩ :=
    getNextOpenInterestParams_eq_ok (getNextOpenInterest_eq_ok hp)
  obtain ⟨hlong', hshort', hnextLong', hnextShort'⟩ :=
    getNextOpenInterestParams_eq_ok (getNextOpenInterest_eq_ok hp')
  dsimp only at hlong hshort hnextLong hnextShort hlong' hshort' hnextLong' hnextShort'
  have htrue := h.totalOpenInterest hne true
  have hfalse := h.totalOpenInterest hne false
  obtain ⟨l, s, nl, ns⟩ := p
  obtain ⟨l', s', nl', ns'⟩ := p'
  dsimp only at hlong hshort hnextLong hnextShort hlong' hshort' hnextLong' hnextShort'
  simp only [OpenInterestParams.reverse, OpenInterestParams.mk.injEq]
  cases isLong with
  | true =>
    simp only [if_true, Bool.false_eq_true, if_false] at *
    omega
  | false =>
    simp only [if_true, Bool.true_eq_false, Bool.false_eq_true, if_false] at *
    omega

end AfterIncrease

/-- A successful increase is priced on a store of which it leaves such a state. -/
theorem IncreasePositionUtils.increasePosition_afterIncrease
    {params : PositionUtils.UpdatePositionParams} {w w' : World} (hparams : params.Consistent)
    (horder : params.order.isLong = params.position.isLong)
    (hkey : params.positionKey.slot = .position) {collateralIncrementAmount : Nat}
    {fees : PositionFees}
    (h : increasePosition env params collateralIncrementAmount w = .ok (fees, w')) :
    ∃ (prices : MarketPrices) (dataStore : DataStore) (priceImpactUsd : Int),
      MarketUtils.getMarketPrices env params.market = .ok prices ∧
      getExecutionPriceImpactUsd env dataStore params.market params.order.isLong
        prices.indexTokenPrice params.order.sizeDeltaUsd = .ok priceImpactUsd ∧
      AfterIncrease params.market params.position.collateralToken params.position.isLong
        params.order.sizeDeltaUsd dataStore w'.dataStore := by
  obtain ⟨next, -, -, hsize, -, -, -, hchanges⟩ :=
    increasePosition_changes hparams horder hkey h
  have hwrites := increasePosition_writes env (List.Subset.refl _) params hkey
    collateralIncrementAmount h
  obtain ⟨run⟩ := increasePosition_run h
  have hexecution := run.pricing
  rw [getExecutionPrice_eq] at hexecution
  obtain ⟨priceImpactUsd, himpact, -⟩ := Result.bind_eq_ok.mp hexecution
  refine ⟨run.prices, run.charged.dataStore, priceImpactUsd, run.marketPrices, himpact, ?_⟩
  have hbefore : World.SameOff positionUpdateSlots w run.charged :=
    run.sameOff_charged (by decide) (by decide) (by decide)
  have hsame : ∀ slot ∉ positionUpdateSlots, ∀ key : Key, key.slot = slot →
      w'.dataStore.getUint key = run.charged.dataStore.getUint key := by
    intro slot hslot key hkey
    rw [hwrites.uint slot hslot key hkey, hbefore.uint slot hslot key hkey]
  constructor
  case isCollateral => exact hparams.collateralToken
  case openInterest =>
    intro token side
    have hraise := (PositionUtils.updateFundingAndBorrowingState_raises run.updating).aggregate
      (.openInterest ⟨params.market.marketToken, token, side⟩)
    have hshift := (processCollateral_shifts run.charging).aggregate
      (.openInterest ⟨params.market.marketToken, token, side⟩)
    have htotal := hchanges.aggregate (.openInterest ⟨params.market.marketToken, token, side⟩)
    have hgroup : params.position.group = ⟨params.market.marketToken, token, side⟩ ↔
        token = params.position.collateralToken ∧ side = params.position.isLong := by
      rw [← hparams.positionMarket]
      simp only [Position.group, PositionGroup.mk.injEq, true_and, eq_comm]
    simp only [Aggregate.key, updateShift, hgroup, Pi.single_apply, reduceCtorEq, if_false]
      at hraise hshift htotal
    by_cases hself : token = params.position.collateralToken ∧ side = params.position.isLong
    · rw [if_pos hself] at htotal ⊢
      omega
    · rw [if_neg hself] at htotal ⊢
      omega
  case impactFactor =>
    exact fun _ => hsame (.constant .POSITION_IMPACT_FACTOR) (by decide) _ rfl
  case impactExponentFactor =>
    exact hsame (.constant .POSITION_IMPACT_EXPONENT_FACTOR) (by decide) _ rfl
  case maxImpactFactor =>
    exact fun _ => hsame (.constant .MAX_POSITION_IMPACT_FACTOR) (by decide) _ rfl

/-- The cap on a negative impact is the only thing that raises it. -/
theorem DecreasePositionCollateralUtils.getExecutionPriceImpactUsd_eq_ok
    {indexTokenPrice : Price} {sizeDeltaUsd priceImpactDiffUsd : Nat} {priceImpactUsd : Int}
    (h : getExecutionPriceImpactUsd env dataStore market isLong indexTokenPrice sizeDeltaUsd =
      .ok (priceImpactUsd, priceImpactDiffUsd)) :
    ∃ uncapped : Int, PositionPricingUtils.getPriceImpactUsd env dataStore
        ⟨market, -sizeDeltaUsd, isLong⟩ = .ok uncapped ∧
      (priceImpactUsd ≤ uncapped ∨ priceImpactUsd = -(sizeDeltaUsd *
        getMaxPositionImpactFactor dataStore market.marketToken false /
          Precision.FLOAT_PRECISION : Nat)) := by
  simp only [getExecutionPriceImpactUsd, Result.bind_eq_ok, toInt256_eq_ok, negInt_eq_ok] at h
  obtain ⟨_, ⟨-, rfl⟩, _, ⟨-, rfl⟩, uncapped, himpact, capped, hcapped, h⟩ := h
  refine ⟨uncapped, himpact, ?_⟩
  have hle := (getCappedPositionImpactUsd_le hcapped).1
  split at h
  · simp only [Result.bind_eq_ok, toInt256_eq_ok, negInt_eq_ok] at h
    obtain ⟨amount, hamount, _, ⟨-, rfl⟩, _, ⟨-, rfl⟩, h⟩ := h
    rw [← Precision.applyFactor_eq_ok hamount]
    split at h
    · simp only [Result.bind_eq_ok, Result.pure_eq_ok, Prod.mk.injEq] at h
      obtain ⟨_, -, _, -, rfl, -⟩ := h
      exact .inr rfl
    · simp only [Result.pure_eq_ok, Prod.mk.injEq] at h
      exact .inl (h.1 ▸ hle)
  · simp only [Result.pure_eq_ok, Prod.mk.injEq] at h
    exact .inl (h.1 ▸ hle)

/-- **No gain from opening and closing.** The impact that an increase is priced with and the
impact that the decrease of the same size after it is priced with gain at most one unit of
`10 ^ -30` dollars, whatever the caps and the virtual inventory do. -/
theorem roundTrip_priceImpactUsd_le_one (hpow : env.PowMonotone)
    (hne : market.longToken ≠ market.shortToken) {collateralToken : Address}
    {sizeDeltaUsd priceImpactDiffUsd : Nat} {indexTokenPrice indexTokenPrice' : Price}
    {increaseImpactUsd decreaseImpactUsd : Int}
    (hafter : AfterIncrease market collateralToken isLong sizeDeltaUsd dataStore dataStore')
    (hincrease : IncreasePositionUtils.getExecutionPriceImpactUsd env dataStore market isLong
      indexTokenPrice sizeDeltaUsd = .ok increaseImpactUsd)
    (hdecrease : DecreasePositionCollateralUtils.getExecutionPriceImpactUsd env dataStore' market
      isLong indexTokenPrice' sizeDeltaUsd = .ok (decreaseImpactUsd, priceImpactDiffUsd)) :
    increaseImpactUsd + decreaseImpactUsd ≤ 1 := by
  simp only [IncreasePositionUtils.getExecutionPriceImpactUsd, Result.bind_eq_ok,
    toInt256_eq_ok] at hincrease
  obtain ⟨_, ⟨-, rfl⟩, uncapped, himpact, hcapped⟩ := hincrease
  obtain ⟨hle, hmax⟩ := getCappedPositionImpactUsd_le hcapped
  obtain ⟨uncapped', himpact', hcases⟩ :=
    DecreasePositionCollateralUtils.getExecutionPriceImpactUsd_eq_ok hdecrease
  rcases hcases with hle' | hmin
  · obtain ⟨p, realImpactUsd, hp, hopen, hvirtual⟩ := getPriceImpactUsd_le himpact
    obtain ⟨p', realImpactUsd', hp', hclose, hvirtual'⟩ := getPriceImpactUsd_le himpact'
    obtain rfl := hafter.nextOpenInterest_eq_reverse hne hp hp'
    obtain ⟨x, y, hx, hy, hreal⟩ := _getPriceImpactUsd_eq_ok hpow hopen
    obtain ⟨y', x', hy', hx', hreal'⟩ := _getPriceImpactUsd_eq_ok hpow hclose
    rw [hafter.impactExponentFactor] at hy' hx'
    obtain rfl : y = y' := Except.ok.inj (hy.symm.trans hy')
    obtain rfl : x = x' := Except.ok.inj (hx.symm.trans hx')
    have hfactors : (getAdjustedPositionImpactFactors dataStore market.marketToken).1 ≤
        (getAdjustedPositionImpactFactors dataStore market.marketToken).2 :=
      adjustedImpactFactors_le _ _
    have hreverse := Impact.roundTrip_le_one hpow hfactors hx hy
    rw [hafter.adjustedImpactFactors] at hreal'
    dsimp only at hreal hreal'
    calc increaseImpactUsd + decreaseImpactUsd ≤ uncapped + uncapped' := add_le_add hle hle'
      _ ≤ realImpactUsd + realImpactUsd' := add_le_add hvirtual hvirtual'
      _ ≤ 1 := by rwa [hreal, hreal']
  -- the negative cap is at least as large as the positive one
  · have hfactors : getMaxPositionImpactFactor dataStore market.marketToken true ≤
        getMaxPositionImpactFactor dataStore' market.marketToken false := by
      simp only [getMaxPositionImpactFactor, hafter.maxImpactFactors, if_true,
        Bool.false_eq_true, if_false]
      exact adjustedImpactFactors_le _ _
    have hcaps : sizeDeltaUsd * getMaxPositionImpactFactor dataStore market.marketToken true /
          Precision.FLOAT_PRECISION ≤
        sizeDeltaUsd * getMaxPositionImpactFactor dataStore' market.marketToken false /
          Precision.FLOAT_PRECISION :=
      Nat.div_le_div_right (Nat.mul_le_mul_left _ hfactors)
    omega

end Bounds

-- A market with exponent two: a long of 1024 dollars pays 5.24288 dollars of impact on the way
-- in and is paid 2.62144 dollars on the way out.

/-- The powers with whole exponents, in 18 decimals. -/
def wholePow (base exponent : Nat) : Result Nat :=
  .ok (base ^ (exponent / 10 ^ 18) * 10 ^ 18 / (10 ^ 18) ^ (exponent / 10 ^ 18))

def impactStore : DataStore :=
  (((((DataStore.empty.setUint (Keys.positionImpactFactorKey 1 true) (5 * 10 ^ 24)).setUint
    (Keys.positionImpactFactorKey 1 false) (10 ^ 25)).setUint
    (Keys.positionImpactExponentFactorKey 1) (2 * 10 ^ 30)).setUint
    (Keys.maxPositionImpactFactorKey 1 true) (10 ^ 28)).setUint
    (Keys.maxPositionImpactFactorKey 1 false) (2 * 10 ^ 28)).setUint
    (Keys.positionImpactPoolAmountKey 1) (10 ^ 18)

/-- No open interest is stored at first. -/
theorem impactStore_openInterest (token : Address) (side : Bool) :
    impactStore.getUint (Keys.openInterestKey 1 token side) = 0 := by
  simp [impactStore, getUint_setUint, Keys.openInterestKey, Keys.positionImpactFactorKey,
    Keys.positionImpactExponentFactorKey, Keys.maxPositionImpactFactorKey,
    Keys.positionImpactPoolAmountKey]
  rfl

theorem impactStore_afterIncrease :
    AfterIncrease ⟨1, 2, 3, 4⟩ 4 true (1024 * 10 ^ 30) impactStore
      (impactStore.setUint (Keys.openInterestKey 1 4 true) (1024 * 10 ^ 30)) := by
  constructor
  case isCollateral => exact .inr rfl
  case openInterest =>
    intro token side
    have hkey : Keys.openInterestKey 1 token side = Keys.openInterestKey 1 4 true ↔
        token = 4 ∧ side = true := by
      cases side <;> simp [Keys.openInterestKey]
    dsimp only
    rw [getUint_setUint, impactStore_openInterest, Nat.zero_add]
    simp only [hkey]
  case impactFactor => intro isPositive; cases isPositive <;> decide +kernel
  case impactExponentFactor => decide +kernel
  case maxImpactFactor => intro isPositive; cases isPositive <;> decide +kernel

/-- A power that cuts off what is not whole. -/
theorem wholePow_monotone :
    Env.PowMonotone { Env.plain 1 fun _ => ⟨0, 0⟩ with pow := wholePow } := by
  intro base base' exponent x y hle hx hy
  rw [← Except.ok.inj hx, ← Except.ok.inj hy]
  exact Nat.div_le_div_right (Nat.mul_le_mul_right _ (Nat.pow_le_pow_left hle _))

theorem roundTrip_priceImpactUsd_le_one_impactStore :
    let env := { Env.plain 1 fun _ => ⟨0, 0⟩ with pow := wholePow }
    let price : Price := ⟨2 * 10 ^ 15, 2 * 10 ^ 15⟩
    IncreasePositionUtils.getExecutionPriceImpactUsd env impactStore ⟨1, 2, 3, 4⟩ true price
        (1024 * 10 ^ 30) = .ok (-524288 * 10 ^ 25) ∧
      DecreasePositionCollateralUtils.getExecutionPriceImpactUsd env
        (impactStore.setUint (Keys.openInterestKey 1 4 true) (1024 * 10 ^ 30)) ⟨1, 2, 3, 4⟩ true
        price (1024 * 10 ^ 30) = .ok (262144 * 10 ^ 25, 0) ∧
      (-524288 * 10 ^ 25 + 262144 * 10 ^ 25 : Int) ≤ 1 := by
  intro env price
  have hincrease : IncreasePositionUtils.getExecutionPriceImpactUsd env impactStore ⟨1, 2, 3, 4⟩
      true price (1024 * 10 ^ 30) = .ok (-524288 * 10 ^ 25) := by decide +kernel
  have hdecrease : DecreasePositionCollateralUtils.getExecutionPriceImpactUsd env
      (impactStore.setUint (Keys.openInterestKey 1 4 true) (1024 * 10 ^ 30)) ⟨1, 2, 3, 4⟩ true
      price (1024 * 10 ^ 30) = .ok (262144 * 10 ^ 25, 0) := by decide +kernel
  exact ⟨hincrease, hdecrease, roundTrip_priceImpactUsd_le_one wholePow_monotone (by decide)
    impactStore_afterIncrease hincrease hdecrease⟩

end GmxSynthetics
