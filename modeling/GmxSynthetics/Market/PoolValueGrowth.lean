import GmxSynthetics.Data.Footprint
import GmxSynthetics.Market.PoolValueSpread

/-!
# The pool value of a growing pool

Between a deposit and a withdrawal that follows it at once, only the pool amounts of a market
change. This file compares the value that the deposit is priced at with the value that the
withdrawal is paid at.

* `getTotalPendingBorrowingFees_anti` — a larger pool is used less, so the fees that are pending
  fall;
* `poolValue_le_add_growth` — the second value exceeds the first by at most the tokens that came
  in, at their lower prices.
-/

namespace GmxSynthetics.MarketUtils

open Evm

variable {env env' : Env} {w w' : World} {market : Market}

/-- What the pool value is computed from, besides the pool amounts. -/
def valueSlots : List Slot :=
  [.constant .OPEN_INTEREST, .constant .OPEN_INTEREST_IN_TOKENS,
    .constant .CUMULATIVE_BORROWING_FACTOR, .constant .CUMULATIVE_BORROWING_FACTOR_UPDATED_AT,
    .constant .TOTAL_BORROWING, .constant .BORROWING_FACTOR, .constant .BORROWING_EXPONENT_FACTOR,
    .constant .BORROWING_FEE_RECEIVER_FACTOR, .constant .MAX_PNL_FACTOR,
    .constant .POSITION_IMPACT_POOL_AMOUNT]

/-- The two states agree on what the pool value is computed from, besides the pool amounts. -/
def ValuedAlike (w w' : World) : Prop :=
  ∀ slot ∈ valueSlots, ∀ key : Key, key.slot = slot →
    w'.dataStore.getUint key = w.dataStore.getUint key

/-- A world is valued alike where nothing is written that is valued. -/
theorem ValuedAlike.of_sameOff {slots : List Slot} (hsame : World.SameOff slots w w')
    (hslots : ∀ slot ∈ valueSlots, slot ∉ slots) : ValuedAlike w w' :=
  fun slot hslot key hkey => hsame.uint slot (hslots slot hslot) key hkey

theorem ValuedAlike.symm (h : ValuedAlike w w') : ValuedAlike w' w :=
  fun slot hslot key hkey => (h slot hslot key hkey).symm

theorem ValuedAlike.trans {w'' : World} (h : ValuedAlike w w') (h' : ValuedAlike w' w'') :
    ValuedAlike w w'' :=
  fun slot hslot key hkey => (h' slot hslot key hkey).trans (h slot hslot key hkey)

/-- The price of the token that backs one side. -/
def sidePrice (prices : MarketPrices) (isLong : Bool) : Price :=
  if isLong then prices.longTokenPrice else prices.shortTokenPrice

/-- The two blocks have one timestamp, and `pow` computes the same in both. -/
structure SameBlock (env env' : Env) : Prop where
  timestamp : env'.timestamp = env.timestamp
  pow : env'.pow = env.pow

-- ---------------------------------------------------------------------------
-- Pending borrowing fees
-- ---------------------------------------------------------------------------

namespace ValuedAlike

variable (h : ValuedAlike w w')

include h

/-- The open interest is the same. -/
theorem totalOpenInterest (market : Market) (isLong : Bool) :
    totalOpenInterest w'.dataStore market isLong = totalOpenInterest w.dataStore market isLong := by
  have hread := h (.constant .OPEN_INTEREST) (by decide)
  unfold MarketUtils.totalOpenInterest getOpenInterestForCollateral
  dsimp only
  rw [hread _ rfl, hread _ rfl]

/-- So it is in tokens. -/
theorem totalOpenInterestInTokens (market : Market) (isLong : Bool) :
    totalOpenInterestInTokens w'.dataStore market isLong =
      totalOpenInterestInTokens w.dataStore market isLong := by
  have hread := h (.constant .OPEN_INTEREST_IN_TOKENS) (by decide)
  unfold MarketUtils.totalOpenInterestInTokens getOpenInterestInTokensForCollateral
  dsimp only
  rw [hread _ rfl, hread _ rfl]

/-- So is the pending pnl. -/
theorem pendingPnl (market : Market) (isLong : Bool) (price : Nat) :
    pendingPnl w'.dataStore market isLong price = pendingPnl w.dataStore market isLong price := by
  unfold MarketUtils.pendingPnl
  rw [h.totalOpenInterest, h.totalOpenInterestInTokens]

/-- So is the checked open interest. -/
theorem getOpenInterest (market : Market) (isLong : Bool) :
    getOpenInterest w'.dataStore market isLong = getOpenInterest w.dataStore market isLong := by
  have hread := h (.constant .OPEN_INTEREST) (by decide)
  unfold MarketUtils.getOpenInterest getOpenInterestForCollateral
  dsimp only
  rw [hread _ rfl, hread _ rfl]

/-- So is what is reserved for it. -/
theorem getReservedUsd (market : Market) (prices : MarketPrices) (isLong : Bool) :
    getReservedUsd w'.dataStore market prices isLong =
      getReservedUsd w.dataStore market prices isLong := by
  have hread := h (.constant .OPEN_INTEREST_IN_TOKENS) (by decide)
  unfold MarketUtils.getReservedUsd getOpenInterestInTokens getOpenInterestInTokensForCollateral
  dsimp only
  rw [h.getOpenInterest, hread _ rfl, hread _ rfl]

/-- So is the checked pnl. -/
theorem getPnl (market : Market) (indexTokenPrice : Price) (isLong maximize : Bool) :
    getPnl w'.dataStore market indexTokenPrice isLong maximize =
      getPnl w.dataStore market indexTokenPrice isLong maximize := by
  have hread := h (.constant .OPEN_INTEREST_IN_TOKENS) (by decide)
  unfold MarketUtils.getPnl getOpenInterestInTokens getOpenInterestInTokensForCollateral
  rw [h.getOpenInterest, hread _ rfl, hread _ rfl]

/-- So are its caps. -/
theorem getMaxPnlFactor (pnlFactorType : Base) (isLong : Bool) (marketToken : Address) :
    getMaxPnlFactor w'.dataStore pnlFactorType marketToken isLong =
      getMaxPnlFactor w.dataStore pnlFactorType marketToken isLong :=
  h (.constant .MAX_PNL_FACTOR) (by decide) _ rfl

/-- So is the impact pool. -/
theorem getPositionImpactPoolAmount (marketToken : Address) :
    getPositionImpactPoolAmount w'.dataStore marketToken =
      getPositionImpactPoolAmount w.dataStore marketToken :=
  h (.constant .POSITION_IMPACT_POOL_AMOUNT) (by decide) _ rfl

end ValuedAlike

/-- A power does not depend on the time within a block. -/
theorem Precision.applyExponentFactor_sameBlock (hblock : SameBlock env env')
    (value exponentFactor : Nat) :
    Precision.applyExponentFactor env' value exponentFactor =
      Precision.applyExponentFactor env value exponentFactor := by
  unfold Precision.applyExponentFactor
  rw [hblock.pow]

/-- A factor is the share of the unit. -/
theorem Precision.toFactor_eq_ok {value divisor factor : Nat}
    (h : Precision.toFactor value divisor false = .ok factor) :
    factor = value * Precision.FLOAT_PRECISION / divisor := by
  unfold Precision.toFactor at h
  split at h
  · rename_i hzero
    rw [hzero, Nat.zero_mul, Nat.zero_div]
    exact (Result.pure_eq_ok.mp h).symm
  · rw [if_neg Bool.false_ne_true] at h
    exact (mulDiv_eq_ok.mp h).2.2

/-- The rate at which fees accrue: a power of what is reserved, over the pool it is reserved
in. -/
theorem getBorrowingFactorPerSecond_of_ok {dataStore : DataStore} {prices : MarketPrices}
    {isLong : Bool} {rate : Nat}
    (h : getBorrowingFactorPerSecond env dataStore market prices isLong = .ok rate) :
    ∃ reservedUsd, getReservedUsd dataStore market prices isLong = .ok reservedUsd ∧
      ((reservedUsd = 0 ∧ rate = 0) ∨
        (reservedUsd ≠ 0 ∧ ∃ exponentiated, Precision.applyExponentFactor env reservedUsd
            (getBorrowingExponentFactor dataStore market.marketToken isLong) =
              .ok exponentiated ∧
          0 < sidePoolAmount dataStore market isLong * (sidePrice prices isLong).min ∧
          rate = exponentiated * Precision.FLOAT_PRECISION /
              (sidePoolAmount dataStore market isLong * (sidePrice prices isLong).min) *
            getBorrowingFactor dataStore market.marketToken isLong /
              Precision.FLOAT_PRECISION)) := by
  simp only [getBorrowingFactorPerSecond, Result.bind_eq_ok] at h
  obtain ⟨reservedUsd, hreserved, h⟩ := h
  refine ⟨reservedUsd, hreserved, ?_⟩
  split at h
  · rename_i hzero
    exact .inl ⟨hzero, (Result.pure_eq_ok.mp h).symm⟩
  · rename_i hreservedPos
    simp only [Result.bind_eq_ok, getPoolUsdWithoutPnl, mul_eq_ok, Result.revertIf_eq_ok] at h
    obtain ⟨poolUsd, ⟨-, hpoolUsd⟩, _, hpool, exponentiated, hexponentiated, factor, hfactor,
      h⟩ := h
    have hpoolSide :
        poolUsd = sidePoolAmount dataStore market isLong * (sidePrice prices isLong).min := by
      rw [hpoolUsd]
      cases isLong
      · rfl
      · rfl
    refine .inr ⟨hreservedPos, exponentiated, hexponentiated, ?_, ?_⟩
    · rw [← hpoolSide]
      exact Nat.pos_of_ne_zero hpool
    · rw [Precision.applyFactor_eq_ok h, Precision.toFactor_eq_ok hfactor, hpoolSide]

/-- The pool value is computed from the pending pnl of both sides. -/
theorem getPnl_of_poolValueInfo {dataStore : DataStore}
    {indexTokenPrice longTokenPrice shortTokenPrice : Price} {pnlFactorType : Base}
    {maximize : Bool} {info : MarketPoolValueInfo}
    (h : getPoolValueInfo env dataStore market indexTokenPrice longTokenPrice shortTokenPrice
      pnlFactorType maximize = .ok info) (isLong : Bool) :
    ∃ pnl, getPnl dataStore market indexTokenPrice isLong (!maximize) = .ok pnl := by
  simp only [getPoolValueInfo, Result.bind_eq_ok] at h
  obtain ⟨_, -, _, -, _, -, _, -, _, -, _, -, _, -, _, -, _, -, _, -, _, -, longPnl, hlong, _, -,
    shortPnl, hshort, -⟩ := h
  cases isLong with
  | true => exact ⟨longPnl, hlong⟩
  | false => exact ⟨shortPnl, hshort⟩

section Grown

variable (hblock : SameBlock env env') (halike : ValuedAlike w w')
  (hgrown : ∀ isLong, sidePoolAmount w.dataStore market isLong ≤
    sidePoolAmount w'.dataStore market isLong)

include hblock halike hgrown

/-- A larger pool is borrowed from more cheaply. -/
theorem getBorrowingFactorPerSecond_anti {prices : MarketPrices} {isLong : Bool} {rate rate' : Nat}
    (h : getBorrowingFactorPerSecond env w.dataStore market prices isLong = .ok rate)
    (h' : getBorrowingFactorPerSecond env' w'.dataStore market prices isLong = .ok rate') :
    rate' ≤ rate := by
  obtain ⟨reserved, hreserved, hrate⟩ := getBorrowingFactorPerSecond_of_ok h
  obtain ⟨reserved', hreserved', hrate'⟩ := getBorrowingFactorPerSecond_of_ok h'
  rw [halike.getReservedUsd, hreserved] at hreserved'
  obtain rfl : reserved = reserved' := Except.ok.inj hreserved'
  rcases hrate' with ⟨-, rfl⟩ | ⟨hpos', exponentiated', hexponentiated', -, rfl⟩
  · exact Nat.zero_le _
  rcases hrate with ⟨hzero, -⟩ | ⟨-, exponentiated, hexponentiated, hpool, rfl⟩
  · exact absurd hzero hpos'
  have hexponent : getBorrowingExponentFactor w'.dataStore market.marketToken isLong =
      getBorrowingExponentFactor w.dataStore market.marketToken isLong :=
    halike (.constant .BORROWING_EXPONENT_FACTOR) (by decide) _ rfl
  have hfactor : getBorrowingFactor w'.dataStore market.marketToken isLong =
      getBorrowingFactor w.dataStore market.marketToken isLong :=
    halike (.constant .BORROWING_FACTOR) (by decide) _ rfl
  rw [hexponent, Precision.applyExponentFactor_sameBlock hblock, hexponentiated]
    at hexponentiated'
  obtain rfl : exponentiated = exponentiated' := Except.ok.inj hexponentiated'
  rw [hfactor]
  have hpools := Nat.mul_le_mul_right (sidePrice prices isLong).min (hgrown isLong)
  exact Nat.div_le_div_right (Nat.mul_le_mul_right _ (Nat.div_le_div_left hpools hpool))

/-- So its borrowing grows more slowly. -/
theorem getNextCumulativeBorrowingFactor_anti {prices : MarketPrices} {isLong : Bool}
    {next next' delta delta' : Nat}
    (h : getNextCumulativeBorrowingFactor env w.dataStore market prices isLong =
      .ok (next, delta))
    (h' : getNextCumulativeBorrowingFactor env' w'.dataStore market prices isLong =
      .ok (next', delta')) :
    next' ≤ next := by
  simp only [getNextCumulativeBorrowingFactor, Result.bind_eq_ok, add_eq_ok, mul_eq_ok,
    Result.pure_eq_ok, Prod.mk.injEq] at h h'
  obtain ⟨duration, hduration, rate, hrate, _, ⟨-, rfl⟩, _, ⟨-, rfl⟩, rfl, -⟩ := h
  obtain ⟨duration', hduration', rate', hrate', _, ⟨-, rfl⟩, _, ⟨-, rfl⟩, rfl, -⟩ := h'
  have hcumulative : getCumulativeBorrowingFactor w'.dataStore market.marketToken isLong =
      getCumulativeBorrowingFactor w.dataStore market.marketToken isLong :=
    halike (.constant .CUMULATIVE_BORROWING_FACTOR) (by decide) _ rfl
  have hupdatedAt : getCumulativeBorrowingFactorUpdatedAt w'.dataStore market.marketToken isLong =
      getCumulativeBorrowingFactorUpdatedAt w.dataStore market.marketToken isLong :=
    halike (.constant .CUMULATIVE_BORROWING_FACTOR_UPDATED_AT) (by decide) _ rfl
  have hdurations : duration' = duration := by
    unfold getSecondsSinceCumulativeBorrowingFactorUpdated at hduration hduration'
    rw [hupdatedAt, hblock.timestamp, hduration] at hduration'
    exact (Except.ok.inj hduration').symm
  have hrates := getBorrowingFactorPerSecond_anti hblock halike hgrown hrate hrate'
  rw [hcumulative, hdurations]
  exact Nat.add_le_add_left (Nat.mul_le_mul_left _ hrates) _

/-- A larger pool is used less, so the fees that are pending fall. -/
theorem getTotalPendingBorrowingFees_anti {prices : MarketPrices} {isLong : Bool}
    {fees fees' : Nat}
    (h : getTotalPendingBorrowingFees env w.dataStore market prices isLong = .ok fees)
    (h' : getTotalPendingBorrowingFees env' w'.dataStore market prices isLong = .ok fees') :
    fees' ≤ fees := by
  simp only [getTotalPendingBorrowingFees, Result.bind_eq_ok, mul_eq_ok, div_eq_ok,
    sub_eq_ok] at h h'
  obtain ⟨openInterest, hinterest, ⟨next, delta⟩, hnext, _, ⟨-, rfl⟩, _, ⟨-, rfl⟩, -, rfl⟩ := h
  obtain ⟨openInterest', hinterest', ⟨next', delta'⟩, hnext', _, ⟨-, rfl⟩, _, ⟨-, rfl⟩, -, rfl⟩ :=
    h'
  rw [halike.getOpenInterest, hinterest] at hinterest'
  obtain rfl : openInterest = openInterest' := Except.ok.inj hinterest'
  have htotal : getTotalBorrowing w'.dataStore market.marketToken isLong =
      getTotalBorrowing w.dataStore market.marketToken isLong :=
    halike (.constant .TOTAL_BORROWING) (by decide) _ rfl
  have hnexts := getNextCumulativeBorrowingFactor_anti hblock halike hgrown hnext hnext'
  rw [htotal]
  exact Nat.sub_le_sub_right (Nat.div_le_div_right (Nat.mul_le_mul_left _ hnexts)) _

-- ---------------------------------------------------------------------------
-- The two values
-- ---------------------------------------------------------------------------

omit hblock in
/-- A side whose gains are not capped at the smaller pool is owed at least as much at the larger
one, at the price that is worse for the pool. -/
theorem owedPnl_le_of_uncapped {prices : MarketPrices} {isLong : Bool}
    (hindex : prices.indexTokenPrice.min ≤ prices.indexTokenPrice.max)
    (huncapped : MarketUtils.pendingPnl w.dataStore market isLong
        (prices.indexTokenPrice.pickPriceForPnl isLong true) ≤
      pnlCap w.dataStore market isLong .MAX_PNL_FACTOR_FOR_WITHDRAWALS
        (sidePoolAmount w.dataStore market isLong * (sidePrice prices isLong).min)) :
    owedPnl w.dataStore market prices.indexTokenPrice (sidePrice prices isLong)
        .MAX_PNL_FACTOR_FOR_DEPOSITS isLong true ≤
      owedPnl w'.dataStore market prices.indexTokenPrice (sidePrice prices isLong)
        .MAX_PNL_FACTOR_FOR_WITHDRAWALS isLong false := by
  have hcaps : pnlCap w.dataStore market isLong .MAX_PNL_FACTOR_FOR_WITHDRAWALS
        (sidePoolAmount w.dataStore market isLong * (sidePrice prices isLong).min) ≤
      pnlCap w'.dataStore market isLong .MAX_PNL_FACTOR_FOR_WITHDRAWALS
        (sidePoolAmount w'.dataStore market isLong * (sidePrice prices isLong).min) := by
    unfold pnlCap
    rw [halike.getMaxPnlFactor]
    have hpools := Nat.mul_le_mul_right (sidePrice prices isLong).min (hgrown isLong)
    exact Nat.div_le_div_right (Nat.mul_le_mul_right _ hpools)
  have hpnl := pendingPnl_mono w.dataStore market isLong hindex
  simp only [owedPnl, Price.pickPrice, Bool.not_true, Bool.not_false, if_true,
    Bool.false_eq_true, if_false]
  rw [halike.pendingPnl]
  generalize pnlCap w.dataStore market isLong .MAX_PNL_FACTOR_FOR_WITHDRAWALS _ = cap
    at huncapped hcaps
  generalize pnlCap w'.dataStore market isLong .MAX_PNL_FACTOR_FOR_WITHDRAWALS _ = cap' at hcaps ⊢
  unfold capGain
  split <;> split <;> omega

/-- **What a withdrawal can be paid more than a deposit was priced at.** Only the pool amounts have
grown, no side's gains are capped, and the impact pool is empty: then the minimised value exceeds
the maximised one by at most what came in, at the lower prices. -/
theorem poolValue_le_add_growth {prices : MarketPrices} {info info' : MarketPoolValueInfo}
    (hindex : prices.indexTokenPrice.min ≤ prices.indexTokenPrice.max)
    (hside : ∀ isLong, (sidePrice prices isLong).min ≤ (sidePrice prices isLong).max)
    (himpactPool : MarketUtils.getPositionImpactPoolAmount w.dataStore market.marketToken = 0)
    (huncapped : ∀ isLong, MarketUtils.pendingPnl w.dataStore market isLong
        (prices.indexTokenPrice.pickPriceForPnl isLong true) ≤
      pnlCap w.dataStore market isLong .MAX_PNL_FACTOR_FOR_WITHDRAWALS
        (sidePoolAmount w.dataStore market isLong * (sidePrice prices isLong).min))
    (h : getPoolValueInfo env w.dataStore market prices.indexTokenPrice prices.longTokenPrice
      prices.shortTokenPrice .MAX_PNL_FACTOR_FOR_DEPOSITS true = .ok info)
    (h' : getPoolValueInfo env' w'.dataStore market prices.indexTokenPrice prices.longTokenPrice
      prices.shortTokenPrice .MAX_PNL_FACTOR_FOR_WITHDRAWALS false = .ok info') :
    info'.poolValue ≤ info.poolValue +
      ((sidePoolAmount w'.dataStore market true - sidePoolAmount w.dataStore market true) *
          prices.longTokenPrice.min +
        (sidePoolAmount w'.dataStore market false - sidePoolAmount w.dataStore market false) *
          prices.shortTokenPrice.min : Nat) := by
  obtain ⟨longFees, shortFees, hlongFees, hshortFees, hvalue⟩ := poolValue_eq h
  obtain ⟨longFees', shortFees', hlongFees', hshortFees', hvalue'⟩ := poolValue_eq h'
  have hlongs := getTotalPendingBorrowingFees_anti hblock halike hgrown hlongFees hlongFees'
  have hshorts := getTotalPendingBorrowingFees_anti hblock halike hgrown hshortFees hshortFees'
  have hreceiver : w'.dataStore.getUint (.base .BORROWING_FEE_RECEIVER_FACTOR) =
      w.dataStore.getUint (.base .BORROWING_FEE_RECEIVER_FACTOR) :=
    halike (.constant .BORROWING_FEE_RECEIVER_FACTOR) (by decide) _ rfl
  have hfees : (longFees' + shortFees') * (Precision.FLOAT_PRECISION -
        w'.dataStore.getUint (.base .BORROWING_FEE_RECEIVER_FACTOR)) / Precision.FLOAT_PRECISION ≤
      (longFees + shortFees) * (Precision.FLOAT_PRECISION -
        w.dataStore.getUint (.base .BORROWING_FEE_RECEIVER_FACTOR)) /
        Precision.FLOAT_PRECISION := by
    rw [hreceiver]
    exact Nat.div_le_div_right (Nat.mul_le_mul_right _ (Nat.add_le_add hlongs hshorts))
  have howedLong : owedPnl w.dataStore market prices.indexTokenPrice prices.longTokenPrice
        .MAX_PNL_FACTOR_FOR_DEPOSITS true true ≤
      owedPnl w'.dataStore market prices.indexTokenPrice prices.longTokenPrice
        .MAX_PNL_FACTOR_FOR_WITHDRAWALS true false :=
    owedPnl_le_of_uncapped halike hgrown hindex (huncapped true)
  have howedShort : owedPnl w.dataStore market prices.indexTokenPrice prices.shortTokenPrice
        .MAX_PNL_FACTOR_FOR_DEPOSITS false true ≤
      owedPnl w'.dataStore market prices.indexTokenPrice prices.shortTokenPrice
        .MAX_PNL_FACTOR_FOR_WITHDRAWALS false false :=
    owedPnl_le_of_uncapped halike hgrown hindex (huncapped false)
  -- a pool that has grown, at the lower price, against the pool before, at the upper one
  have htokens : ∀ (before after : Nat) (price : Price), price.min ≤ price.max →
      before ≤ after → after * price.min ≤ before * price.max + (after - before) * price.min := by
    intro before after price hprice hle
    have hspread := Nat.mul_le_mul_left before hprice
    calc after * price.min = before * price.min + (after - before) * price.min := by
          rw [← Nat.add_mul, Nat.add_sub_cancel' hle]
      _ ≤ _ := Nat.add_le_add_right hspread _
  have hlongTokens := htokens _ _ prices.longTokenPrice (hside true) (hgrown true)
  have hshortTokens := htokens _ _ prices.shortTokenPrice (hside false) (hgrown false)
  rw [hvalue, hvalue', halike.getPositionImpactPoolAmount, himpactPool]
  simp only [Price.pickPrice, if_true, Bool.false_eq_true, if_false, Nat.zero_mul]
  omega

end Grown

/-- The growth as what each side received. -/
theorem poolValue_le_add_received {prices : MarketPrices} {info info' : MarketPoolValueInfo}
    {isLong : Bool} {received received' : Nat} (hblock : SameBlock env env')
    (halike : ValuedAlike w w')
    (hin : sidePoolAmount w'.dataStore market isLong =
      sidePoolAmount w.dataStore market isLong + received)
    (hout : sidePoolAmount w'.dataStore market (!isLong) =
      sidePoolAmount w.dataStore market (!isLong) + received')
    (hindex : prices.indexTokenPrice.min ≤ prices.indexTokenPrice.max)
    (hside : ∀ isLong, (sidePrice prices isLong).min ≤ (sidePrice prices isLong).max)
    (himpactPool : MarketUtils.getPositionImpactPoolAmount w.dataStore market.marketToken = 0)
    (huncapped : ∀ isLong, MarketUtils.pendingPnl w.dataStore market isLong
        (prices.indexTokenPrice.pickPriceForPnl isLong true) ≤
      pnlCap w.dataStore market isLong .MAX_PNL_FACTOR_FOR_WITHDRAWALS
        (sidePoolAmount w.dataStore market isLong * (sidePrice prices isLong).min))
    (h : getPoolValueInfo env w.dataStore market prices.indexTokenPrice prices.longTokenPrice
      prices.shortTokenPrice .MAX_PNL_FACTOR_FOR_DEPOSITS true = .ok info)
    (h' : getPoolValueInfo env' w'.dataStore market prices.indexTokenPrice prices.longTokenPrice
      prices.shortTokenPrice .MAX_PNL_FACTOR_FOR_WITHDRAWALS false = .ok info') :
    info'.poolValue ≤ info.poolValue + (received * (sidePrice prices isLong).min +
      received' * (sidePrice prices (!isLong)).min : Nat) := by
  have hgrown : ∀ side, sidePoolAmount w.dataStore market side ≤
      sidePoolAmount w'.dataStore market side := by
    intro side
    rcases Bool.eq_or_eq_not side isLong with rfl | rfl
    · rw [hin]
      exact Nat.le_add_right _ _
    · rw [hout]
      exact Nat.le_add_right _ _
  have hvalues := poolValue_le_add_growth hblock halike hgrown hindex hside himpactPool huncapped
    h h'
  cases isLong with
  | true =>
    have hshortPool : sidePoolAmount w'.dataStore market false =
        sidePoolAmount w.dataStore market false + received' := hout
    rw [hin, hshortPool, Nat.add_sub_cancel_left, Nat.add_sub_cancel_left] at hvalues
    exact hvalues
  | false =>
    have hlongPool : sidePoolAmount w'.dataStore market true =
        sidePoolAmount w.dataStore market true + received' := hout
    rw [hin, hlongPool, Nat.add_sub_cancel_left, Nat.add_sub_cancel_left, Nat.add_comm] at hvalues
    exact hvalues

end GmxSynthetics.MarketUtils
