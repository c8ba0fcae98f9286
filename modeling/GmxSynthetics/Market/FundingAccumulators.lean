import GmxSynthetics.Market.Funding

/-!
# Funding accumulators

An update moves the four accumulators of a market by bounded additions and subtractions of amounts
that were converted from unsigned ones.

* `signedFundingAmountPerSizeDelta_saturates` — such an amount is never the smallest value, the
  only one that a bounded subtraction fails on;
* `getNextFundingAmountPerSize_of_accumulators` — whether an update goes through does not depend on
  the accumulators;
* `accumulators_saturate` — both, with the exact range on which the bounded operations saturate.
-/

namespace GmxSynthetics.MarketUtils

open Evm

variable {env : Env} {dataStore dataStore' : DataStore} {market : Market} {prices : MarketPrices}

/-- What an accumulator is moved by can always be added and subtracted. -/
theorem signedFundingAmountPerSizeDelta_saturates {fundingAmount openInterest : Nat}
    {roundUp : Bool} {a delta : Int} (ha : IsInt256 a)
    (h : signedFundingAmountPerSizeDelta fundingAmount openInterest roundUp = .ok delta) :
    Calc.Saturates a delta := by
  simp only [signedFundingAmountPerSizeDelta, Result.bind_eq_ok, toInt256_eq_ok] at h
  obtain ⟨amount, -, hlt, rfl⟩ := h
  have hrange : IsInt256 (amount : Int) := by
    unfold IsInt256
    omega
  rw [Calc.saturates_iff ha hrange]
  rintro ⟨-, hmin⟩
  have hpos := intBound_pos
  omega

/-- The four accumulators of a market. -/
def AccumulatorsInRange (dataStore : DataStore) (market : Market) : Prop :=
  ∀ token isLong, IsInt256 (getFundingAmountPerSize dataStore market.marketToken token isLong)

/-- The four accumulators that an update computes. -/
structure GetNextFundingAmountPerSizeResult.InRange (result : GetNextFundingAmountPerSizeResult) :
    Prop where
  longCollateral_LongPosition : IsInt256 result.fundingAmountPerSize_LongCollateral_LongPosition
  longCollateral_ShortPosition : IsInt256 result.fundingAmountPerSize_LongCollateral_ShortPosition
  shortCollateral_LongPosition : IsInt256 result.fundingAmountPerSize_ShortCollateral_LongPosition
  shortCollateral_ShortPosition :
    IsInt256 result.fundingAmountPerSize_ShortCollateral_ShortPosition

/-- The accumulators never decide whether an update goes through. -/
theorem getNextFundingAmountPerSize_of_accumulators {result : GetNextFundingAmountPerSizeResult}
    (hagree : ∀ key, dataStore'.getUint key = dataStore.getUint key)
    (hrange : AccumulatorsInRange dataStore' market)
    (h : getNextFundingAmountPerSize env dataStore market prices = .ok result) :
    ∃ result', getNextFundingAmountPerSize env dataStore' market prices = .ok result' ∧
      result'.InRange := by
  have hinterest : ∀ token isLong divisor,
      getOpenInterestForCollateral dataStore' market.marketToken token isLong divisor =
        getOpenInterestForCollateral dataStore market.marketToken token isLong divisor := by
    intro token isLong divisor
    unfold getOpenInterestForCollateral
    rw [hagree]
  have hseconds : getSecondsSinceFundingUpdated env dataStore' market.marketToken =
      getSecondsSinceFundingUpdated env dataStore market.marketToken := by
    unfold getSecondsSinceFundingUpdated
    rw [hagree]
  have hfactor : ∀ diffUsd total,
      getFundingFactorPerSecond env dataStore' market.marketToken diffUsd total =
        getFundingFactorPerSecond env dataStore market.marketToken diffUsd total := by
    intro diffUsd total
    unfold getFundingFactorPerSecond getFundingFactor getFundingExponentFactor
    simp only [hagree]
  have hadd : ∀ token isLong, ∀ {fundingAmount openInterest : Nat} {roundUp : Bool} {delta : Int},
      signedFundingAmountPerSizeDelta fundingAmount openInterest roundUp = .ok delta →
      Calc.boundedAdd (getFundingAmountPerSize dataStore' market.marketToken token isLong) delta =
        .ok (clampInt256 (getFundingAmountPerSize dataStore' market.marketToken token isLong +
          delta)) := fun token isLong _ _ _ _ hdelta =>
    (signedFundingAmountPerSizeDelta_saturates (hrange token isLong) hdelta).add
  have hsub : ∀ token isLong, ∀ {fundingAmount openInterest : Nat} {roundUp : Bool} {delta : Int},
      signedFundingAmountPerSizeDelta fundingAmount openInterest roundUp = .ok delta →
      Calc.boundedSub (getFundingAmountPerSize dataStore' market.marketToken token isLong) delta =
        .ok (clampInt256 (getFundingAmountPerSize dataStore' market.marketToken token isLong -
          delta)) := fun token isLong _ _ _ _ hdelta =>
    (signedFundingAmountPerSizeDelta_saturates (hrange token isLong) hdelta).sub
  unfold getNextFundingAmountPerSize at h ⊢
  simp only [hinterest, hseconds, hfactor]
  simp only [Result.bind_eq_ok] at h
  obtain ⟨longOpenInterest, hlong, shortOpenInterest, hshort, h⟩ := h
  rw [hlong, Result.ok_bind, hshort, Result.ok_bind]
  split at h
  · rename_i hempty
    rw [if_pos hempty]
    exact ⟨_, rfl, hrange _ _, hrange _ _, hrange _ _, hrange _ _⟩
  · rename_i hnonempty
    rw [if_neg hnonempty]
    simp only [Result.bind_eq_ok] at h
    obtain ⟨duration, hduration, total, htotal, factor, hfactor', product, hproduct, fundingUsd,
      hfundingUsd, h⟩ := h
    simp only [hduration, htotal, hfactor', hproduct, hfundingUsd, Result.ok_bind]
    split at h
    · rename_i hlonger
      rw [if_pos hlonger]
      simp only [Result.bind_eq_ok] at h
      obtain ⟨usdLong, husdLong, usdShort, husdShort, amountLong, hamountLong, amountShort,
        hamountShort, deltaLL, hLL, deltaSL, hSL, deltaLS, hLS, deltaSS, hSS, -⟩ := h
      simp only [husdLong, husdShort, hamountLong, hamountShort, hLL, hSL, hLS, hSS,
        hadd _ _ hLL, hadd _ _ hSL, hsub _ _ hLS, hsub _ _ hSS, Result.ok_bind]
      exact ⟨_, rfl, isInt256_clampInt256 _, isInt256_clampInt256 _, isInt256_clampInt256 _,
        isInt256_clampInt256 _⟩
    · rename_i hshorter
      rw [if_neg hshorter]
      simp only [Result.bind_eq_ok] at h
      obtain ⟨usdLong, husdLong, usdShort, husdShort, amountLong, hamountLong, amountShort,
        hamountShort, deltaLS, hLS, deltaSS, hSS, deltaLL, hLL, deltaSL, hSL, -⟩ := h
      simp only [husdLong, husdShort, hamountLong, hamountShort, hLL, hSL, hLS, hSS,
        hadd _ _ hLS, hadd _ _ hSS, hsub _ _ hLL, hsub _ _ hSL, Result.ok_bind]
      exact ⟨_, rfl, isInt256_clampInt256 _, isInt256_clampInt256 _, isInt256_clampInt256 _,
        isInt256_clampInt256 _⟩

/-- **When the bounded operations saturate.** For values of the range they return the exact result,
clamped to the range, unless the smallest value is taken from what is not negative. Funding never
does that: whether an update goes through does not depend on its accumulators, and they stay in
range. -/
theorem accumulators_saturate {a b : Int} (ha : IsInt256 a) (hb : IsInt256 b) :
    (Calc.Saturates a b ↔ ¬ (0 ≤ a ∧ b = -(intBound : Int))) ∧
      ∀ (env : Env) (dataStore dataStore' : DataStore) (market : Market) (prices : MarketPrices)
        (result : GetNextFundingAmountPerSizeResult),
        (∀ key, dataStore'.getUint key = dataStore.getUint key) →
        AccumulatorsInRange dataStore' market →
        getNextFundingAmountPerSize env dataStore market prices = .ok result →
        ∃ result', getNextFundingAmountPerSize env dataStore' market prices = .ok result' ∧
          result'.InRange := by
  constructor
  · exact Calc.saturates_iff ha hb
  · intro env dataStore dataStore' market prices result hagree hrange h
    exact getNextFundingAmountPerSize_of_accumulators hagree hrange h

/-- Nothing less the smallest value is not returned. -/
theorem boundedSub_reverts :
    ¬ ∀ a b : Int, IsInt256 a → IsInt256 b → Calc.Saturates a b := by
  intro hclaim
  have hsub := (hclaim 0 (-(intBound : Int)) (by decide) (by decide)).sub
  have hfails : Calc.boundedSub 0 (-(intBound : Int)) = .error (.panic .arithmetic) := by
    decide +kernel
  rw [hfails] at hsub
  cases hsub

theorem accumulators_saturate_min : Calc.Saturates (-1) (-(intBound : Int)) :=
  (accumulators_saturate (by decide) (by decide)).1.mpr (by decide)

end GmxSynthetics.MarketUtils
