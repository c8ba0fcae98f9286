import GmxSynthetics.Order.ExecutionPrice
import GmxSynthetics.Position.VirtualInventory
import GmxSynthetics.Pricing.ImpactRoundTrip

/-!
# When an execution price is well defined

`BaseOrderUtils.getExecutionPrice` reverts when the price impact uses up more than the size, and
divides by what is left of the size. The comparison is strict, so that an impact of exactly the
size reaches the division; and the quotient is rounded down, so that an impact that raises the
divisor enough makes the price zero, by which an increase then divides.

* `getExecutionPrice_eq` — the call as a case distinction on what is left of the size;
* `getExecutionPrice_wellDefined_iff` — when it reverts with one of its errors or returns a
  positive price;
* `executionPrice_wellDefined_iff` — the same, with the division of `increasePosition`.
-/

namespace GmxSynthetics

open Evm

namespace BaseOrderUtils

variable {primaryPrice : Price} {sizeDeltaUsd : Nat} {priceImpactUsd : Int}
  {acceptablePrice : Nat} {isLong isIncrease : Bool}

/-- The price is not worse than the acceptable price for the trader. -/
def Acceptable (executionPrice acceptablePrice : Nat) (isLong isIncrease : Bool) : Prop :=
  if isIncrease = isLong then executionPrice ≤ acceptablePrice
  else acceptablePrice ≤ executionPrice

instance (executionPrice : Nat) :
    Decidable (Acceptable executionPrice acceptablePrice isLong isIncrease) := by
  unfold Acceptable
  infer_instance

/-- The products and sums of a call fit in a word. -/
structure PriceFits (primaryPrice : Price) (sizeDeltaUsd : Nat) (priceImpactUsd : Int)
    (isLong isIncrease : Bool) : Prop where
  impact : IsInt256 priceImpactUsd
  product : primaryPrice.pickPrice (isIncrease == isLong) * sizeDeltaUsd < uintBound
  sum : sizeDeltaUsd + priceImpactUsd.natAbs < uintBound

/-- What is left of the size after the impact. -/
def remainingSize (sizeDeltaUsd : Nat) (priceImpactUsd : Int) (isLong isIncrease : Bool) : Int :=
  sizeDeltaUsd + impactForPriceAdjustment priceImpactUsd isLong isIncrease

/-- The smallest impact cannot be negated. -/
theorem getExecutionPrice_min (hmin : priceImpactUsd = -(intBound : Int)) :
    getExecutionPrice primaryPrice sizeDeltaUsd priceImpactUsd acceptablePrice isLong isIncrease =
      .error (.panic .arithmetic) := by
  have hpos := intBound_pos
  have hnegate : (Evm.negInt priceImpactUsd : Result Int) = .error (.panic .arithmetic) :=
    if_neg (by unfold IsInt256; omega)
  have hexceeds : (Evm.negationExceeds priceImpactUsd sizeDeltaUsd : Result Bool) =
      .error (.panic .arithmetic) := by
    rw [Evm.negationExceeds, if_pos (by omega), hnegate]
    rfl
  dsimp only [getExecutionPrice, negInt, negationExceeds]
  by_cases hflip : (if isIncrease = true then !isLong else isLong) = true
  · rw [if_pos hflip, hnegate]
    rfl
  · rw [if_neg hflip, pure_bind, hexceeds]
    rfl

theorem impactForPriceAdjustment_natAbs :
    (impactForPriceAdjustment priceImpactUsd isLong isIncrease).natAbs = priceImpactUsd.natAbs := by
  unfold impactForPriceAdjustment
  split
  · rfl
  · exact Int.natAbs_neg _

/-- The sign of the impact is flipped for a short increase and a long decrease. -/
theorem impactForPriceAdjustment_eq_ok (hnegate : IsInt256 (-priceImpactUsd)) :
    (if (if isIncrease = true then !isLong else isLong) = true then Evm.negInt priceImpactUsd
      else pure priceImpactUsd : Result Int) =
      .ok (impactForPriceAdjustment priceImpactUsd isLong isIncrease) := by
  have hflip : (Evm.negInt priceImpactUsd : Result Int) = .ok (-priceImpactUsd) :=
    negInt_eq_ok.mpr ⟨hnegate, rfl⟩
  unfold impactForPriceAdjustment
  cases isIncrease <;> cases isLong <;> first | exact hflip | rfl

/-- The comparison of the impact with the size. -/
theorem impactForPriceAdjustment_exceeds (hnegate : IsInt256 (-priceImpactUsd))
    (himpact : IsInt256 priceImpactUsd) :
    (Evm.negationExceeds (impactForPriceAdjustment priceImpactUsd isLong isIncrease) sizeDeltaUsd :
      Result Bool) =
        .ok (decide (remainingSize sizeDeltaUsd priceImpactUsd isLong isIncrease < 0)) := by
  have hrange : impactForPriceAdjustment priceImpactUsd isLong isIncrease < 0 →
      IsInt256 (-impactForPriceAdjustment priceImpactUsd isLong isIncrease) := by
    intro _
    unfold impactForPriceAdjustment
    split
    · exact hnegate
    · rw [neg_neg]
      exact himpact
  obtain ⟨b, hb⟩ := (@negationExceeds_ok_iff Errors _ sizeDeltaUsd).mpr hrange
  rw [hb, negationExceeds_eq_ok hb]
  rfl

/-- The division by what is left of the size. -/
theorem adjustedPrice_eq
    (hfits : PriceFits primaryPrice sizeDeltaUsd priceImpactUsd isLong isIncrease)
    (hremaining : 0 ≤ remainingSize sizeDeltaUsd priceImpactUsd isLong isIncrease) :
    (if sizeDeltaUsd > 0 then do
        Evm.div (← Evm.mul (primaryPrice.pickPrice (isIncrease == isLong)) sizeDeltaUsd)
          (← Calc.sumReturnUint256 sizeDeltaUsd
            (impactForPriceAdjustment priceImpactUsd isLong isIncrease))
      else pure (primaryPrice.pickPrice (isIncrease == isLong)) : Result Nat) =
      if 0 < sizeDeltaUsd ∧ remainingSize sizeDeltaUsd priceImpactUsd isLong isIncrease = 0 then
        .error (.panic .divisionByZero)
      else .ok (adjustedPrice primaryPrice sizeDeltaUsd priceImpactUsd isLong isIncrease) := by
  have habs := @impactForPriceAdjustment_natAbs priceImpactUsd isLong isIncrease
  have hsumFits := hfits.sum
  unfold adjustedPrice remainingSize at *
  by_cases hsize : sizeDeltaUsd > 0
  · obtain ⟨sum, hsum⟩ := @Calc.sumReturnUint256_ok sizeDeltaUsd
      (impactForPriceAdjustment priceImpactUsd isLong isIncrease) hremaining (by omega)
    have hsumEq := MarketUtils.sumReturnUint256_eq hsum
    have hnat : (sizeDeltaUsd + impactForPriceAdjustment priceImpactUsd isLong isIncrease).toNat =
        sum := by omega
    have hmul : (Evm.mul (primaryPrice.pickPrice (isIncrease == isLong)) sizeDeltaUsd :
        Result Nat) = .ok (primaryPrice.pickPrice (isIncrease == isLong) * sizeDeltaUsd) :=
      mul_eq_ok.mpr ⟨hfits.product, rfl⟩
    dsimp only
    rw [if_pos hsize, if_pos hsize, hmul, Result.ok_bind, hsum, Result.ok_bind, hnat, ← hsumEq]
    by_cases hzero : sum = 0
    · rw [if_pos ⟨hsize, by omega⟩]
      exact if_pos hzero
    · rw [if_neg fun h => hzero (by omega)]
      exact if_neg hzero
  · dsimp only
    rw [if_neg hsize, if_neg hsize, if_neg fun h => hsize h.1]
    rfl

/-- A call by what the impact leaves of the size. -/
theorem getExecutionPrice_eq
    (hfits : PriceFits primaryPrice sizeDeltaUsd priceImpactUsd isLong isIncrease)
    (hmin : priceImpactUsd ≠ -(intBound : Int)) :
    getExecutionPrice primaryPrice sizeDeltaUsd priceImpactUsd acceptablePrice isLong isIncrease =
      if remainingSize sizeDeltaUsd priceImpactUsd isLong isIncrease < 0 then
        .error (.custom (.PriceImpactLargerThanOrderSize
          (impactForPriceAdjustment priceImpactUsd isLong isIncrease) sizeDeltaUsd))
      else if 0 < sizeDeltaUsd ∧
          remainingSize sizeDeltaUsd priceImpactUsd isLong isIncrease = 0 then
        .error (.panic .divisionByZero)
      else
        if Acceptable (adjustedPrice primaryPrice sizeDeltaUsd priceImpactUsd isLong isIncrease)
          acceptablePrice isLong isIncrease then
          .ok (adjustedPrice primaryPrice sizeDeltaUsd priceImpactUsd isLong isIncrease)
        else .error (.custom (.OrderNotFulfillableDueToPriceImpact
          (adjustedPrice primaryPrice sizeDeltaUsd priceImpactUsd isLong isIncrease)
          acceptablePrice)) := by
  have himpact := hfits.impact
  have hnegate : IsInt256 (-priceImpactUsd) := by
    unfold IsInt256 at *
    omega
  have hside : (if isIncrease = true then isLong else !isLong) = (isIncrease == isLong) := by
    cases isIncrease <;> cases isLong <;> rfl
  dsimp only [getExecutionPrice, negInt, negationExceeds, mul, div]
  rw [impactForPriceAdjustment_eq_ok hnegate, Result.ok_bind,
    impactForPriceAdjustment_exceeds hnegate himpact, Result.ok_bind, hside]
  by_cases hexceeds : remainingSize sizeDeltaUsd priceImpactUsd isLong isIncrease < 0
  · rw [if_pos hexceeds, decide_eq_true hexceeds]
    rfl
  · rw [if_neg hexceeds, decide_eq_false hexceeds, revertIf,
      Result.revertIf_bind_of_not Bool.false_ne_true, adjustedPrice_eq hfits (by omega)]
    split
    · rfl
    · rw [Result.ok_bind]
      unfold Acceptable
      cases isIncrease <;> cases isLong <;> simp <;> rfl

/-- The price is rounded down to zero, and the acceptable price admits that. -/
def RoundsToZero (primaryPrice : Price) (sizeDeltaUsd : Nat) (priceImpactUsd : Int)
    (acceptablePrice : Nat) (isLong isIncrease : Bool) : Prop :=
  0 < sizeDeltaUsd ∧
    (primaryPrice.pickPrice (isIncrease == isLong) * sizeDeltaUsd : Nat) <
      remainingSize sizeDeltaUsd priceImpactUsd isLong isIncrease ∧
    (isIncrease = isLong ∨ acceptablePrice = 0)

theorem acceptable_zero_iff :
    Acceptable 0 acceptablePrice isLong isIncrease ↔ isIncrease = isLong ∨ acceptablePrice = 0 := by
  unfold Acceptable
  split
  · rename_i hsame
    exact iff_of_true (Nat.zero_le _) (Or.inl hsame)
  · rename_i hother
    rw [Nat.le_zero]
    exact ⟨Or.inr, fun h => h.resolve_left hother⟩

/-- The adjusted price is zero when what is left of the size exceeds the product. -/
theorem roundsToZero_iff (hprice : 0 < primaryPrice.pickPrice (isIncrease == isLong))
    (hremaining : 0 < sizeDeltaUsd →
      0 < remainingSize sizeDeltaUsd priceImpactUsd isLong isIncrease) :
    RoundsToZero primaryPrice sizeDeltaUsd priceImpactUsd acceptablePrice isLong isIncrease ↔
      adjustedPrice primaryPrice sizeDeltaUsd priceImpactUsd isLong isIncrease = 0 ∧
        Acceptable 0 acceptablePrice isLong isIncrease := by
  rw [RoundsToZero, acceptable_zero_iff, ← and_assoc]
  refine and_congr_left fun _ => ?_
  unfold adjustedPrice remainingSize at *
  dsimp only
  split
  · rename_i hsize
    have hpos := hremaining hsize
    rw [Nat.div_eq_zero_iff]
    omega
  · rename_i hsize
    exact iff_of_false (fun h => hsize h.1) (Nat.pos_iff_ne_zero.mp hprice)

/-- The call reverts with one of its two errors, or returns a positive price that is not worse
than the acceptable price. -/
def WellDefined (primaryPrice : Price) (sizeDeltaUsd : Nat) (priceImpactUsd : Int)
    (acceptablePrice : Nat) (isLong isIncrease : Bool) : Prop :=
  (∃ adjustment, getExecutionPrice primaryPrice sizeDeltaUsd priceImpactUsd acceptablePrice isLong
    isIncrease = .error (.custom (.PriceImpactLargerThanOrderSize adjustment sizeDeltaUsd))) ∨
  (∃ price, getExecutionPrice primaryPrice sizeDeltaUsd priceImpactUsd acceptablePrice isLong
    isIncrease = .error (.custom (.OrderNotFulfillableDueToPriceImpact price acceptablePrice))) ∨
  ∃ price, getExecutionPrice primaryPrice sizeDeltaUsd priceImpactUsd acceptablePrice isLong
      isIncrease = .ok price ∧ 0 < price ∧ Acceptable price acceptablePrice isLong isIncrease

theorem pickPrice_pos (hmin : 0 < primaryPrice.min) (hmax : primaryPrice.min ≤ primaryPrice.max)
    (maximize : Bool) : 0 < primaryPrice.pickPrice maximize := by
  unfold Price.pickPrice
  split <;> omega

/-- When a call is well defined: the impact can be negated, is not exactly the size, and does not
round the price to zero. -/
theorem getExecutionPrice_wellDefined_iff (hmin : 0 < primaryPrice.min)
    (hmax : primaryPrice.min ≤ primaryPrice.max)
    (hfits : PriceFits primaryPrice sizeDeltaUsd priceImpactUsd isLong isIncrease) :
    WellDefined primaryPrice sizeDeltaUsd priceImpactUsd acceptablePrice isLong isIncrease ↔
      priceImpactUsd ≠ -(intBound : Int) ∧
        ¬ (0 < sizeDeltaUsd ∧ remainingSize sizeDeltaUsd priceImpactUsd isLong isIncrease = 0) ∧
        ¬ RoundsToZero primaryPrice sizeDeltaUsd priceImpactUsd acceptablePrice isLong
          isIncrease := by
  have hprice := pickPrice_pos hmin hmax (isIncrease == isLong)
  unfold WellDefined
  by_cases hnegatable : priceImpactUsd = -(intBound : Int)
  · rw [getExecutionPrice_min hnegatable]
    refine iff_of_false ?_ fun h => h.1 hnegatable
    rintro (⟨_, h⟩ | ⟨_, h⟩ | ⟨_, h, -⟩) <;> nomatch h
  · rw [getExecutionPrice_eq hfits hnegatable]
    by_cases hexceeds : remainingSize sizeDeltaUsd priceImpactUsd isLong isIncrease < 0
    · rw [if_pos hexceeds]
      refine iff_of_true (Or.inl ⟨_, rfl⟩) ⟨hnegatable, by omega, ?_⟩
      rintro ⟨_, hlt, -⟩
      omega
    · rw [if_neg hexceeds]
      by_cases hwhole : 0 < sizeDeltaUsd ∧
          remainingSize sizeDeltaUsd priceImpactUsd isLong isIncrease = 0
      · rw [if_pos hwhole]
        refine iff_of_false ?_ fun h => h.2.1 hwhole
        rintro (⟨_, h⟩ | ⟨_, h⟩ | ⟨_, h, -⟩) <;> nomatch h
      · rw [if_neg hwhole, roundsToZero_iff hprice fun hsize => by omega]
        by_cases haccept : Acceptable (adjustedPrice primaryPrice sizeDeltaUsd priceImpactUsd isLong
          isIncrease) acceptablePrice isLong isIncrease
        · rw [if_pos haccept]
          constructor
          · rintro (⟨_, h⟩ | ⟨_, h⟩ | ⟨price, h, hpos, -⟩)
            · nomatch h
            · nomatch h
            · obtain rfl := Except.ok.inj h
              exact ⟨hnegatable, hwhole, fun hzero => Nat.pos_iff_ne_zero.mp hpos hzero.1⟩
          · rintro ⟨-, -, hzero⟩
            refine Or.inr (Or.inr ⟨_, rfl, Nat.pos_of_ne_zero fun h => hzero ⟨h, ?_⟩, haccept⟩)
            rw [h] at haccept
            exact haccept
        · rw [if_neg haccept]
          refine iff_of_true (Or.inr (Or.inl ⟨_, rfl⟩)) ⟨hnegatable, hwhole, fun hzero => ?_⟩
          rw [hzero.1] at haccept
          exact haccept hzero.2

/-- When a call returns zero. -/
theorem getExecutionPrice_eq_zero_iff (hmin : 0 < primaryPrice.min)
    (hmax : primaryPrice.min ≤ primaryPrice.max)
    (hfits : PriceFits primaryPrice sizeDeltaUsd priceImpactUsd isLong isIncrease) :
    getExecutionPrice primaryPrice sizeDeltaUsd priceImpactUsd acceptablePrice isLong isIncrease =
        .ok 0 ↔
      priceImpactUsd ≠ -(intBound : Int) ∧
        RoundsToZero primaryPrice sizeDeltaUsd priceImpactUsd acceptablePrice isLong
          isIncrease := by
  have hprice := pickPrice_pos hmin hmax (isIncrease == isLong)
  constructor
  · intro h
    have hnegatable : priceImpactUsd ≠ -(intBound : Int) := by
      intro hsmallest
      rw [getExecutionPrice_min hsmallest] at h
      nomatch h
    obtain ⟨hzero, hremaining, haccept⟩ := getExecutionPrice_eq_ok h
    exact ⟨hnegatable, (roundsToZero_iff hprice hremaining).mpr ⟨hzero.symm, haccept⟩⟩
  · rintro ⟨hnegatable, hrounds⟩
    have hpos : 0 < remainingSize sizeDeltaUsd priceImpactUsd isLong isIncrease := by
      obtain ⟨-, hlt, -⟩ := hrounds
      omega
    obtain ⟨hzero, haccept⟩ := (roundsToZero_iff hprice fun _ => hpos).mp hrounds
    rw [getExecutionPrice_eq hfits hnegatable, if_neg (by omega), if_neg (by omega), hzero,
      if_pos haccept]

end BaseOrderUtils

namespace IncreasePositionUtils

open PositionPricingUtils BaseOrderUtils

/-- An increase divides its size by an execution price of zero. -/
def DividesByZero (env : Env) (dataStore : DataStore) (params : PositionUtils.UpdatePositionParams)
    (prices : MarketPrices) : Prop :=
  ∃ executionPrice priceImpactAmount,
    getExecutionPrice env dataStore params prices = .ok (executionPrice, priceImpactAmount) ∧
    getSizeDeltaInTokens params.position.isLong params.order.sizeDeltaUsd executionPrice =
      .error (.panic .divisionByZero)

/-- The size is divided by the execution price, on both sides. -/
theorem getSizeDeltaInTokens_divisionByZero_iff {isLong : Bool}
    {sizeDeltaUsd executionPrice : Nat} (hsize : sizeDeltaUsd < uintBound)
    (hpos : executionPrice = 0 → 0 < sizeDeltaUsd) :
    getSizeDeltaInTokens isLong sizeDeltaUsd executionPrice = .error (.panic .divisionByZero) ↔
      executionPrice = 0 := by
  have hdiv : ∀ a : Nat, (Evm.div a executionPrice : Result Nat) =
      .error (.panic .divisionByZero) ↔ executionPrice = 0 := by
    intro a
    unfold Evm.div
    split
    · rename_i hzero
      exact iff_of_true rfl hzero
    · rename_i hne
      exact iff_of_false (fun h => nomatch h) hne
  unfold getSizeDeltaInTokens
  split
  · exact hdiv sizeDeltaUsd
  · unfold Calc.roundUpDivision
    by_cases hfits : sizeDeltaUsd + executionPrice < uintBound
    · have hadd : (add sizeDeltaUsd executionPrice : Result Nat) =
          .ok (sizeDeltaUsd + executionPrice) := add_eq_ok.mpr ⟨hfits, rfl⟩
      have hone : 1 ≤ sizeDeltaUsd + executionPrice := by omega
      rw [hadd, Result.ok_bind, sub_bind_of_le hone]
      exact hdiv _
    · have hadd : (add sizeDeltaUsd executionPrice : Result Nat) = .error (.panic .arithmetic) :=
        if_neg hfits
      rw [hadd]
      exact iff_of_false (fun h => nomatch h) (by omega)

/-- An increase divides by zero when the price that it computes is rounded down to zero. -/
theorem dividesByZero_iff {env : Env} {dataStore : DataStore}
    {params : PositionUtils.UpdatePositionParams} {prices : MarketPrices} {priceImpactUsd : Int}
    {primaryPrice : Price}
    (himpact : getExecutionPriceImpactUsd env dataStore params.market params.order.isLong
      prices.indexTokenPrice params.order.sizeDeltaUsd = .ok priceImpactUsd)
    (hprimary : Oracle.getPrimaryPrice env params.market.indexToken = .ok primaryPrice)
    (hmin : 0 < primaryPrice.min) (hmax : primaryPrice.min ≤ primaryPrice.max)
    (hfits : PriceFits primaryPrice params.order.sizeDeltaUsd priceImpactUsd params.order.isLong
      true) :
    DividesByZero env dataStore params prices ↔
      priceImpactUsd ≠ -(intBound : Int) ∧
        RoundsToZero primaryPrice params.order.sizeDeltaUsd priceImpactUsd
          params.order.acceptablePrice params.order.isLong true ∧
        ∃ priceImpactAmount, getPriceImpactAmount priceImpactUsd prices.indexTokenPrice
          params.order.isLong true = .ok priceImpactAmount := by
  have hsize : params.order.sizeDeltaUsd < uintBound := by
    have hsum := hfits.sum
    omega
  have hrun : ∀ executionPrice priceImpactAmount,
      getExecutionPrice env dataStore params prices = .ok (executionPrice, priceImpactAmount) ↔
        BaseOrderUtils.getExecutionPrice primaryPrice params.order.sizeDeltaUsd priceImpactUsd
          params.order.acceptablePrice params.order.isLong true = .ok executionPrice ∧
        getPriceImpactAmount priceImpactUsd prices.indexTokenPrice params.order.isLong true =
          .ok priceImpactAmount := by
    intro executionPrice priceImpactAmount
    rw [getExecutionPrice_eq, himpact, Result.ok_bind, hprimary, Result.ok_bind]
    simp only [Result.bind_eq_ok, Result.pure_eq_ok, Prod.mk.injEq]
    constructor
    · rintro ⟨_, hprice, _, hamount, rfl, rfl⟩
      exact ⟨hprice, hamount⟩
    · rintro ⟨hprice, hamount⟩
      exact ⟨_, hprice, _, hamount, rfl, rfl⟩
  have hzero :=
    @getExecutionPrice_eq_zero_iff _ _ _ params.order.acceptablePrice _ _ hmin hmax hfits
  have hpos : ∀ executionPrice, BaseOrderUtils.getExecutionPrice primaryPrice
      params.order.sizeDeltaUsd priceImpactUsd params.order.acceptablePrice params.order.isLong
      true = .ok executionPrice → executionPrice = 0 → 0 < params.order.sizeDeltaUsd := by
    rintro executionPrice hprice rfl
    exact (hzero.mp hprice).2.1
  unfold DividesByZero
  constructor
  · rintro ⟨executionPrice, priceImpactAmount, hreturns, hdivides⟩
    obtain ⟨hprice, hamount⟩ := (hrun _ _).mp hreturns
    obtain rfl := (getSizeDeltaInTokens_divisionByZero_iff hsize (hpos _ hprice)).mp hdivides
    obtain ⟨hnegatable, hrounds⟩ := hzero.mp hprice
    exact ⟨hnegatable, hrounds, priceImpactAmount, hamount⟩
  · rintro ⟨hnegatable, hrounds, priceImpactAmount, hamount⟩
    have hprice := hzero.mpr ⟨hnegatable, hrounds⟩
    exact ⟨0, priceImpactAmount, (hrun _ _).mpr ⟨hprice, hamount⟩,
      (getSizeDeltaInTokens_divisionByZero_iff hsize (hpos _ hprice)).mpr rfl⟩

end IncreasePositionUtils

open BaseOrderUtils IncreasePositionUtils PositionPricingUtils

/-- **Execution prices.** A call whose products and sums fit reverts with one of its two errors or
returns a positive price that the acceptable price admits, exactly when its impact can be negated,
is not the whole size, and does not round an admissible price to zero. An increase divides by zero
exactly in the last case. -/
theorem executionPrice_wellDefined_iff {primaryPrice : Price} (hmin : 0 < primaryPrice.min)
    (hmax : primaryPrice.min ≤ primaryPrice.max) :
    (∀ (sizeDeltaUsd : Nat) (priceImpactUsd : Int) (acceptablePrice : Nat)
      (isLong isIncrease : Bool),
      PriceFits primaryPrice sizeDeltaUsd priceImpactUsd isLong isIncrease →
      (WellDefined primaryPrice sizeDeltaUsd priceImpactUsd acceptablePrice isLong isIncrease ↔
        priceImpactUsd ≠ -(intBound : Int) ∧
          ¬ (0 < sizeDeltaUsd ∧
            remainingSize sizeDeltaUsd priceImpactUsd isLong isIncrease = 0) ∧
          ¬ RoundsToZero primaryPrice sizeDeltaUsd priceImpactUsd acceptablePrice isLong
            isIncrease)) ∧
    ∀ (env : Env) (dataStore : DataStore) (params : PositionUtils.UpdatePositionParams)
      (prices : MarketPrices) (priceImpactUsd : Int),
      getExecutionPriceImpactUsd env dataStore params.market params.order.isLong
        prices.indexTokenPrice params.order.sizeDeltaUsd = .ok priceImpactUsd →
      Oracle.getPrimaryPrice env params.market.indexToken = .ok primaryPrice →
      PriceFits primaryPrice params.order.sizeDeltaUsd priceImpactUsd params.order.isLong true →
      (¬ DividesByZero env dataStore params prices ↔
        ¬ (priceImpactUsd ≠ -(intBound : Int) ∧
          RoundsToZero primaryPrice params.order.sizeDeltaUsd priceImpactUsd
            params.order.acceptablePrice params.order.isLong true ∧
          ∃ priceImpactAmount, getPriceImpactAmount priceImpactUsd prices.indexTokenPrice
            params.order.isLong true = .ok priceImpactAmount)) := by
  constructor
  · intro sizeDeltaUsd priceImpactUsd acceptablePrice isLong isIncrease hfits
    exact getExecutionPrice_wellDefined_iff hmin hmax hfits
  · intro env dataStore params prices priceImpactUsd himpact hprimary hfits
    exact not_congr (dividesByZero_iff himpact hprimary hmin hmax hfits)

/-- A market whose negative impact is a multiple of the imbalance. -/
def steepImpactStore : DataStore :=
  (DataStore.empty.setUint (Keys.positionImpactFactorKey 1 false) (10 ^ 34)).setUint
    (Keys.positionImpactExponentFactorKey 1) (10 ^ 30)

/-- An order to increase a short position by one dollar. -/
def shortIncreaseParams (acceptablePrice : Nat) : PositionUtils.UpdatePositionParams where
  market := ⟨1, 2, 3, 4⟩
  order := { Order.empty with sizeDeltaUsd := 10 ^ 30, isLong := false, acceptablePrice }
  orderKey := .request 1
  position := { Position.empty with market := 1, collateralToken := 4, isLong := false }
  positionKey := .position 8 1 4 false
  secondaryOrderType := .None

theorem executionPrice_wellDefined_shortIncrease :
    WellDefined ⟨2000, 2000⟩ 5000 (-1000) 3000 true true ∧
      ¬ DividesByZero (Env.plain 1 fun _ => ⟨2000, 2000⟩) steepImpactStore (shortIncreaseParams 1)
        ⟨⟨2000, 2000⟩, ⟨2000, 2000⟩, ⟨1, 1⟩⟩ := by
  obtain ⟨hcall, hincrease⟩ := @executionPrice_wellDefined_iff ⟨2000, 2000⟩ (by decide) (by decide)
  constructor
  · refine (hcall _ _ _ _ _ ⟨by decide, by decide, by decide⟩).mpr ⟨by decide, by decide, ?_⟩
    rintro ⟨-, hlt, -⟩
    exact absurd hlt (by decide)
  · refine (hincrease _ _ _ _ (-(5 * 10 ^ 33)) (by decide +kernel) (by decide +kernel)
      ⟨by decide, by decide, by decide⟩).mpr ?_
    rintro ⟨-, ⟨-, -, haccept⟩, -⟩
    exact absurd haccept (by decide)

/-- An impact of exactly the size is divided by; an impact of 5000 dollars on a dollar brings the
price of a short increase to zero, and the increase divides by it. -/
theorem executionPrice_undefined :
    (PriceFits ⟨2000, 2000⟩ 1000 (-1000) true true ∧
      getExecutionPrice ⟨2000, 2000⟩ 1000 (-1000) 4000 true true =
        .error (.panic .divisionByZero) ∧
      ¬ WellDefined ⟨2000, 2000⟩ 1000 (-1000) 4000 true true) ∧
    getExecutionPrice ⟨2000, 2000⟩ (10 ^ 30) (-(5 * 10 ^ 33)) 0 false true = .ok 0 ∧
    DividesByZero (Env.plain 1 fun _ => ⟨2000, 2000⟩) steepImpactStore (shortIncreaseParams 0)
      ⟨⟨2000, 2000⟩, ⟨2000, 2000⟩, ⟨1, 1⟩⟩ := by
  have hdivides : getExecutionPrice ⟨2000, 2000⟩ 1000 (-1000) 4000 true true =
      .error (.panic .divisionByZero) := by decide +kernel
  refine ⟨⟨⟨by decide, by decide, by decide⟩, hdivides, ?_⟩, by decide +kernel, 0,
    -(5 * 10 ^ 33 / 2000), by decide +kernel, by decide +kernel⟩
  unfold WellDefined
  rw [hdivides]
  rintro (⟨_, h⟩ | ⟨_, h⟩ | ⟨_, h, -⟩) <;> nomatch h

end GmxSynthetics
