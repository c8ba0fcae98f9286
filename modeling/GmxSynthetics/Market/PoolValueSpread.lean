import GmxSynthetics.Market.PoolValue
import GmxSynthetics.Evm.Rounding

/-!
# The spread of the pool value

`getPoolValueInfo` is called with `maximize = false` to pay withdrawals and with
`maximize = true` to price deposits. This file compares the two values.

* `poolValue_eq` — the value as one sum of five terms, each a function of the stored
  amounts and the picked prices;
* `tokenAndPnlSpread_nonneg` — the pool tokens and the capped pnl of both sides never
  make the minimised value the larger one;
* `poolValue_min_le_max_iff` — the impact pool is picked on the same side of the spread
  as the pool tokens although it is deducted, and the order of the two values holds
  exactly when its spread stays within the spread of the other terms.
-/

namespace GmxSynthetics.MarketUtils

open Evm

variable {env : Env} {dataStore : DataStore} {market : Market}

-- ---------------------------------------------------------------------------
-- The five terms
-- ---------------------------------------------------------------------------

/-- Open interest of a side, as the totals count it. -/
def totalOpenInterest (dataStore : DataStore) (market : Market) (isLong : Bool) : Nat :=
  let divisor := getPoolDivisor market.longToken market.shortToken
  getOpenInterestForCollateral dataStore market.marketToken market.longToken isLong divisor +
    getOpenInterestForCollateral dataStore market.marketToken market.shortToken isLong divisor

/-- Open interest in tokens of a side, as the totals count it. -/
def totalOpenInterestInTokens (dataStore : DataStore) (market : Market) (isLong : Bool) : Nat :=
  let divisor := getPoolDivisor market.longToken market.shortToken
  getOpenInterestInTokensForCollateral dataStore market.marketToken market.longToken isLong
      divisor +
    getOpenInterestInTokensForCollateral dataStore market.marketToken market.shortToken isLong
      divisor

/-- Pending pnl of a side at an index token price. -/
def pendingPnl (dataStore : DataStore) (market : Market) (isLong : Bool) (price : Nat) : Int :=
  let openInterest := totalOpenInterest dataStore market isLong
  let openInterestInTokens := totalOpenInterestInTokens dataStore market isLong
  if openInterest = 0 ∨ openInterestInTokens = 0 then 0
  else if isLong then (openInterestInTokens * price : Nat) - (openInterest : Int)
  else (openInterest : Int) - (openInterestInTokens * price : Nat)

/-- A gain is capped, a loss is not. -/
def capGain (pnl : Int) (cap : Nat) : Int := if pnl < 0 then pnl else min pnl cap

theorem getOpenInterest_eq_ok {isLong : Bool} {n : Nat} :
    getOpenInterest dataStore market isLong = .ok n ↔
      totalOpenInterest dataStore market isLong < uintBound ∧
        n = totalOpenInterest dataStore market isLong :=
  add_eq_ok

theorem getOpenInterestInTokens_eq_ok {isLong : Bool} {n : Nat} :
    getOpenInterestInTokens dataStore market isLong = .ok n ↔
      totalOpenInterestInTokens dataStore market isLong < uintBound ∧
        n = totalOpenInterestInTokens dataStore market isLong :=
  add_eq_ok

theorem getPnl_of_ok {isLong maximize : Bool} {indexTokenPrice : Price} {pnl : Int}
    (h : getPnl dataStore market indexTokenPrice isLong maximize = .ok pnl) :
    pnl = pendingPnl dataStore market isLong
      (indexTokenPrice.pickPriceForPnl isLong maximize) := by
  simp only [getPnl, Result.bind_eq_ok, getOpenInterest_eq_ok, getOpenInterestInTokens_eq_ok,
    toInt256_eq_ok] at h
  obtain ⟨_, ⟨-, rfl⟩, _, ⟨-, rfl⟩, _, ⟨-, rfl⟩, h⟩ := h
  unfold pendingPnl
  simp only [Int.natCast_eq_zero] at h
  split at h
  · rename_i hzero
    rw [if_pos hzero, Result.pure_eq_ok.mp h]
  · rename_i hzero
    rw [if_neg hzero]
    simp only [Result.bind_eq_ok, mul_eq_ok, toInt256_eq_ok] at h
    obtain ⟨_, ⟨-, rfl⟩, _, ⟨-, rfl⟩, h⟩ := h
    cases isLong with
    | true => exact (subInt_eq_ok.mp h).2
    | false => exact (subInt_eq_ok.mp h).2

theorem getCappedPnl_of_ok {isLong : Bool} {marketToken : Address} {pnl capped : Int}
    {poolUsd : Nat} {pnlFactorType : Base}
    (h : getCappedPnl dataStore marketToken isLong pnl poolUsd pnlFactorType = .ok capped) :
    capped = capGain pnl
      (poolUsd * getMaxPnlFactor dataStore pnlFactorType marketToken isLong /
        Precision.FLOAT_PRECISION) := by
  unfold getCappedPnl at h
  unfold capGain
  split at h
  · rename_i hneg
    rw [if_pos hneg, Result.pure_eq_ok.mp h]
  · rename_i hneg
    rw [if_neg hneg]
    simp only [Result.bind_eq_ok, Precision.applyFactor, Precision.applyFraction, mulDiv_eq_ok,
      toInt256_eq_ok, Result.pure_eq_ok] at h
    obtain ⟨_, ⟨-, -, rfl⟩, _, ⟨-, rfl⟩, rfl⟩ := h
    split
    · rename_i hgt
      exact (min_eq_right (Int.le_of_lt hgt)).symm
    · rename_i hle
      exact (min_eq_left (Int.not_lt.mp hle)).symm

/-- The cap on the gains of a side, for a pool of the given value. -/
def pnlCap (dataStore : DataStore) (market : Market) (isLong : Bool) (pnlFactorType : Base)
    (poolUsd : Nat) : Nat :=
  poolUsd * getMaxPnlFactor dataStore pnlFactorType market.marketToken isLong /
    Precision.FLOAT_PRECISION

/-- The pool amount backing one side: the long token for longs, the short token for
shorts. -/
def sidePoolAmount (dataStore : DataStore) (market : Market) (isLong : Bool) : Nat :=
  getPoolAmount dataStore market (if isLong then market.longToken else market.shortToken)

/-- What the pool owes to one side: its pending pnl at the price that is worse for the
pool when minimising and better when maximising, capped by a share of the pool tokens of
that side at the picked price. -/
def owedPnl (dataStore : DataStore) (market : Market) (indexTokenPrice tokenPrice : Price)
    (pnlFactorType : Base) (isLong maximize : Bool) : Int :=
  capGain
    (pendingPnl dataStore market isLong (indexTokenPrice.pickPriceForPnl isLong (!maximize)))
    (pnlCap dataStore market isLong pnlFactorType
      (sidePoolAmount dataStore market isLong * tokenPrice.pickPrice maximize))

/-- The pool value is the pool tokens plus the pool's borrowing fees, less what is owed to
both sides and the impact pool. The fees do not depend on `maximize`. -/
theorem poolValue_eq {indexTokenPrice longTokenPrice shortTokenPrice : Price}
    {pnlFactorType : Base} {maximize : Bool} {info : MarketPoolValueInfo}
    (h : getPoolValueInfo env dataStore market indexTokenPrice longTokenPrice shortTokenPrice
      pnlFactorType maximize = .ok info) :
    ∃ longFees shortFees,
      getTotalPendingBorrowingFees env dataStore market
        { indexTokenPrice, longTokenPrice, shortTokenPrice } true = .ok longFees ∧
      getTotalPendingBorrowingFees env dataStore market
        { indexTokenPrice, longTokenPrice, shortTokenPrice } false = .ok shortFees ∧
      info.poolValue =
        ((sidePoolAmount dataStore market true * longTokenPrice.pickPrice maximize +
          sidePoolAmount dataStore market false * shortTokenPrice.pickPrice maximize :
            Nat) : Int)
        + ((longFees + shortFees) *
            (Precision.FLOAT_PRECISION - dataStore.getUint (.base .BORROWING_FEE_RECEIVER_FACTOR))
            / Precision.FLOAT_PRECISION : Nat)
        - (owedPnl dataStore market indexTokenPrice longTokenPrice pnlFactorType true maximize
          + owedPnl dataStore market indexTokenPrice shortTokenPrice pnlFactorType false maximize)
        - (getPositionImpactPoolAmount dataStore market.marketToken *
            indexTokenPrice.pickPrice maximize : Nat) := by
  simp only [getPoolValueInfo, Result.bind_eq_ok, mul_eq_ok, add_eq_ok, addInt_eq_ok, sub_eq_ok,
    subInt_eq_ok, toInt256_eq_ok, Precision.applyFactor, Precision.applyFraction, mulDiv_eq_ok,
    Result.pure_eq_ok] at h
  obtain ⟨_, ⟨-, rfl⟩, _, ⟨-, rfl⟩, _, ⟨-, rfl⟩, _, ⟨-, rfl⟩, longFees, hlongFees, shortFees,
    hshortFees, _, ⟨-, rfl⟩, _, ⟨-, rfl⟩, _, ⟨-, -, rfl⟩, _, ⟨-, rfl⟩, _, ⟨-, rfl⟩, longPnl,
    hlongPnl, longCapped, hlongCapped, shortPnl, hshortPnl, shortCapped, hshortCapped, _,
    ⟨-, rfl⟩, _, ⟨-, rfl⟩, _, ⟨-, rfl⟩, _, ⟨-, rfl⟩, _, ⟨-, rfl⟩, rfl⟩ := h
  refine ⟨longFees, shortFees, hlongFees, hshortFees, ?_⟩
  have hlong : longCapped =
      owedPnl dataStore market indexTokenPrice longTokenPrice pnlFactorType true maximize := by
    rw [getCappedPnl_of_ok hlongCapped, getPnl_of_ok hlongPnl]
    rfl
  have hshort : shortCapped =
      owedPnl dataStore market indexTokenPrice shortTokenPrice pnlFactorType false maximize := by
    rw [getCappedPnl_of_ok hshortCapped, getPnl_of_ok hshortPnl]
    rfl
  simp only [hlong, hshort, sidePoolAmount, if_true, Bool.false_eq_true, if_false]

-- ---------------------------------------------------------------------------
-- The spread of each term
-- ---------------------------------------------------------------------------

/-- Capping two ordered gains with two caps loses at most the distance of the caps. -/
theorem capGain_le_add {low high : Int} {lowCap highCap : Nat} (hpnl : low ≤ high)
    (hcap : lowCap ≤ highCap) :
    capGain low highCap ≤ capGain high lowCap + (highCap - lowCap : Nat) := by
  unfold capGain
  split <;> split <;> omega

/-- The price for pnl moves the pending pnl of either side up. -/
theorem pendingPnl_mono (dataStore : DataStore) (market : Market) (isLong : Bool)
    {indexTokenPrice : Price} (hprice : indexTokenPrice.min ≤ indexTokenPrice.max) :
    pendingPnl dataStore market isLong (indexTokenPrice.pickPriceForPnl isLong false) ≤
      pendingPnl dataStore market isLong (indexTokenPrice.pickPriceForPnl isLong true) := by
  have hvalue := Nat.mul_le_mul_left (totalOpenInterestInTokens dataStore market isLong) hprice
  cases isLong with
  | true =>
    simp only [pendingPnl, Price.pickPriceForPnl, if_true]
    split
    · exact le_refl _
    · simp only [Bool.false_eq_true, if_false]
      omega
  | false =>
    simp only [pendingPnl, Price.pickPriceForPnl, Bool.false_eq_true, if_false, if_true]
    split
    · exact le_refl _
    · omega

/-- Minimising owes one side at most what maximising owes it, plus the spread of that side's
pool tokens. -/
theorem owedPnl_spread {indexTokenPrice tokenPrice : Price} {pnlFactorType : Base} {isLong : Bool}
    (hindex : indexTokenPrice.min ≤ indexTokenPrice.max) (htoken : tokenPrice.min ≤ tokenPrice.max)
    (hfactor : getMaxPnlFactor dataStore pnlFactorType market.marketToken isLong ≤
      Precision.FLOAT_PRECISION) :
    owedPnl dataStore market indexTokenPrice tokenPrice pnlFactorType isLong true ≤
      owedPnl dataStore market indexTokenPrice tokenPrice pnlFactorType isLong false +
        (sidePoolAmount dataStore market isLong * (tokenPrice.max - tokenPrice.min) : Nat) := by
  simp only [owedPnl, Price.pickPrice, Bool.not_true, Bool.not_false, if_true,
    Bool.false_eq_true, if_false]
  generalize sidePoolAmount dataStore market isLong = poolAmount
  have hpool : poolAmount * tokenPrice.min ≤ poolAmount * tokenPrice.max :=
    Nat.mul_le_mul_left _ htoken
  have hcap : pnlCap dataStore market isLong pnlFactorType (poolAmount * tokenPrice.min) ≤
      pnlCap dataStore market isLong pnlFactorType (poolAmount * tokenPrice.max) :=
    Nat.div_le_div_right (Nat.mul_le_mul_right _ hpool)
  have hshare : pnlCap dataStore market isLong pnlFactorType (poolAmount * tokenPrice.max) ≤
      pnlCap dataStore market isLong pnlFactorType (poolAmount * tokenPrice.min) +
        (poolAmount * tokenPrice.max - poolAmount * tokenPrice.min) :=
    Rounding.mul_div_le_add_sub hpool hfactor
  have hgain := capGain_le_add (pendingPnl_mono dataStore market isLong hindex) hcap
  rw [Nat.mul_sub]
  omega

/-- By how much the pool tokens and the pnl owed to traders raise the maximised value over
the minimised one. -/
def tokenAndPnlSpread (dataStore : DataStore) (market : Market)
    (indexTokenPrice longTokenPrice shortTokenPrice : Price) (pnlFactorType : Base) : Int :=
  (sidePoolAmount dataStore market true * (longTokenPrice.max - longTokenPrice.min) : Nat)
  + (sidePoolAmount dataStore market false * (shortTokenPrice.max - shortTokenPrice.min) : Nat)
  + (owedPnl dataStore market indexTokenPrice longTokenPrice pnlFactorType true false
    - owedPnl dataStore market indexTokenPrice longTokenPrice pnlFactorType true true)
  + (owedPnl dataStore market indexTokenPrice shortTokenPrice pnlFactorType false false
    - owedPnl dataStore market indexTokenPrice shortTokenPrice pnlFactorType false true)

-- ---------------------------------------------------------------------------
-- The two values compared
-- ---------------------------------------------------------------------------

section Spread

variable {indexTokenPrice longTokenPrice shortTokenPrice : Price} {pnlFactorType : Base}
  (hindex : 0 < indexTokenPrice.min ∧ indexTokenPrice.min ≤ indexTokenPrice.max)
  (hlong : 0 < longTokenPrice.min ∧ longTokenPrice.min ≤ longTokenPrice.max)
  (hshort : 0 < shortTokenPrice.min ∧ shortTokenPrice.min ≤ shortTokenPrice.max)
  (hfactor : ∀ isLong, getMaxPnlFactor dataStore pnlFactorType market.marketToken isLong ≤
    Precision.FLOAT_PRECISION)

include hindex hlong hshort hfactor

/-- With pnl factors of at most one, the pool tokens and the capped pnl of both sides are
valued consistently, whatever the open interest and wherever the caps bind. -/
theorem tokenAndPnlSpread_nonneg :
    0 ≤ tokenAndPnlSpread dataStore market indexTokenPrice longTokenPrice shortTokenPrice
      pnlFactorType := by
  have hlongs := owedPnl_spread hindex.2 hlong.2 (hfactor true)
  have hshorts := owedPnl_spread hindex.2 hshort.2 (hfactor false)
  unfold tokenAndPnlSpread
  omega

/-- **The spread of the pool value.** Whenever both calls succeed, the minimised pool value
is at most the maximised one exactly when the spread of the impact pool, which is picked
on the wrong side, fits into the spread of the remaining terms; and that spread is never
negative. -/
theorem poolValue_min_le_max_iff {minimized maximized : MarketPoolValueInfo}
    (hmin : getPoolValueInfo env dataStore market indexTokenPrice longTokenPrice shortTokenPrice
      pnlFactorType false = .ok minimized)
    (hmax : getPoolValueInfo env dataStore market indexTokenPrice longTokenPrice shortTokenPrice
      pnlFactorType true = .ok maximized) :
    0 ≤ tokenAndPnlSpread dataStore market indexTokenPrice longTokenPrice shortTokenPrice
        pnlFactorType ∧
      (minimized.poolValue ≤ maximized.poolValue ↔
        (getPositionImpactPoolAmount dataStore market.marketToken *
            (indexTokenPrice.max - indexTokenPrice.min) : Nat) ≤
          tokenAndPnlSpread dataStore market indexTokenPrice longTokenPrice shortTokenPrice
            pnlFactorType) := by
  refine ⟨tokenAndPnlSpread_nonneg hindex hlong hshort hfactor, ?_⟩
  obtain ⟨longFees, shortFees, hl, hs, hminValue⟩ := poolValue_eq hmin
  obtain ⟨longFees', shortFees', hl', hs', hmaxValue⟩ := poolValue_eq hmax
  obtain rfl : longFees = longFees' := Except.ok.inj (hl.symm.trans hl')
  obtain rfl : shortFees = shortFees' := Except.ok.inj (hs.symm.trans hs')
  have hsplit : ∀ (amount : Nat) (price : Price), price.min ≤ price.max →
      amount * price.max = amount * price.min + amount * (price.max - price.min) := by
    intro amount price hprice
    rw [← Nat.mul_add, Nat.add_sub_cancel' hprice]
  rw [hminValue, hmaxValue]
  simp only [Price.pickPrice, if_true, Bool.false_eq_true, if_false, tokenAndPnlSpread]
  rw [hsplit _ longTokenPrice hlong.2, hsplit _ shortTokenPrice hshort.2,
    hsplit _ indexTokenPrice hindex.2]
  omega

end Spread

/-- A market with a pool of one token and an impact pool, and no open interest. -/
def impactPoolStore : DataStore :=
  (DataStore.empty.setUint (Keys.poolAmountKey 1 3) 1000).setUint
    (Keys.positionImpactPoolAmountKey 1) 10

/-- What `getPoolValueInfo` returns for it, up to the pool value. -/
def impactPoolInfo (poolValue : Int) : MarketPoolValueInfo where
  poolValue := poolValue
  longPnl := 0
  shortPnl := 0
  netPnl := 0
  longTokenAmount := 1000
  shortTokenAmount := 0
  longTokenUsd := 5000000
  shortTokenUsd := 0
  totalBorrowingFees := 0
  borrowingFeePoolFactor := 10 ^ 30
  impactPoolAmount := 10

theorem poolValue_min_le_max_iff_impactPool :
    0 ≤ tokenAndPnlSpread impactPoolStore ⟨1, 2, 3, 4⟩ ⟨5000, 5010⟩ ⟨5000, 5000⟩ ⟨1, 1⟩
        .MAX_PNL_FACTOR_FOR_DEPOSITS ∧
      ((4950000 : Int) ≤ 4949900 ↔
        (getPositionImpactPoolAmount impactPoolStore 1 * (5010 - 5000) : Nat) ≤
          tokenAndPnlSpread impactPoolStore ⟨1, 2, 3, 4⟩ ⟨5000, 5010⟩ ⟨5000, 5000⟩ ⟨1, 1⟩
            .MAX_PNL_FACTOR_FOR_DEPOSITS) :=
  @poolValue_min_le_max_iff (Env.plain 1 fun _ => ⟨0, 0⟩) impactPoolStore ⟨1, 2, 3, 4⟩ ⟨5000, 5010⟩
    ⟨5000, 5000⟩ ⟨1, 1⟩ .MAX_PNL_FACTOR_FOR_DEPOSITS (by decide) (by decide) (by decide)
    (by decide) (impactPoolInfo 4950000) (impactPoolInfo 4949900) (by decide +kernel)
    (by decide +kernel)

/-- The minimised value is the larger one as soon as the impact pool is the only term with a
spread: 4950000 against 4949900. -/
theorem poolValue_min_gt_max :
    ∃ (env : Env) (dataStore : DataStore) (market : Market)
      (indexTokenPrice longTokenPrice shortTokenPrice : Price) (pnlFactorType : Base)
      (minimized maximized : MarketPoolValueInfo),
      (0 < indexTokenPrice.min ∧ indexTokenPrice.min ≤ indexTokenPrice.max) ∧
      (0 < longTokenPrice.min ∧ longTokenPrice.min ≤ longTokenPrice.max) ∧
      (0 < shortTokenPrice.min ∧ shortTokenPrice.min ≤ shortTokenPrice.max) ∧
      (∀ isLong, getMaxPnlFactor dataStore pnlFactorType market.marketToken isLong ≤
        Precision.FLOAT_PRECISION) ∧
      getPoolValueInfo env dataStore market indexTokenPrice longTokenPrice shortTokenPrice
        pnlFactorType false = .ok minimized ∧
      getPoolValueInfo env dataStore market indexTokenPrice longTokenPrice shortTokenPrice
        pnlFactorType true = .ok maximized ∧
      maximized.poolValue < minimized.poolValue := by
  refine ⟨Env.plain 1 fun _ => ⟨0, 0⟩, impactPoolStore, ⟨1, 2, 3, 4⟩, ⟨5000, 5010⟩, ⟨5000, 5000⟩,
    ⟨1, 1⟩, .MAX_PNL_FACTOR_FOR_DEPOSITS, impactPoolInfo 4950000, impactPoolInfo 4949900, ?_⟩
  decide +kernel

end GmxSynthetics.MarketUtils
