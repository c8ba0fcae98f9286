import GmxSynthetics.Evm.Rounding
import GmxSynthetics.Order.ExecutionPrice
import GmxSynthetics.Position.PositionUtils

/-!
# Price impact in the pnl

A decrease charges or pays its price impact through the execution price, and moves the position
impact pool by the tokens that the impact is worth. The execution price is moved in proportion to
the size of the order, which is a cost; the pnl that it changes is that of the tokens closed. The
two agree when the tokens closed are worth, at the index price, the size less the impact.

* `realizedPnl` — the pnl of a decrease at a price, when the trader's cap does not bind;
* `realizedPnl_sub` — how the realised pnl moves with the price;
* `impactPnl_iff` — when the impact pool moves by what the trader gains or loses;
* `impactPnl_of_worth_eq` — a size at which it does.
-/

namespace GmxSynthetics.PositionUtils

open Evm

-- ---------------------------------------------------------------------------
-- Realised pnl
-- ---------------------------------------------------------------------------

/-- The pnl of a whole position at a price, before the cap for traders. -/
def totalPnl (position : Position) (price : Nat) : Int :=
  if position.isLong then ((position.sizeInTokens * price : Nat) : Int) - position.sizeInUsd
  else position.sizeInUsd - ((position.sizeInTokens * price : Nat) : Int)

/-- The pnl of the tokens closed at a price. -/
def realizedPnl (position : Position) (sizeDeltaInTokens price : Nat) : Int :=
  (totalPnl position price * sizeDeltaInTokens).tdiv position.sizeInTokens

/-- The cap for traders leaves the pnl of a position at a price as it is. -/
def Uncapped (dataStore : DataStore) (market : Market) (prices : MarketPrices)
    (position : Position) (price : Nat) : Prop :=
  getCappedTotalPositionPnl dataStore market prices position (totalPnl position price) =
    .ok (totalPnl position price)

instance (dataStore : DataStore) (market : Market) (prices : MarketPrices) (position : Position)
    (price : Nat) : Decidable (Uncapped dataStore market prices position price) :=
  inferInstanceAs (Decidable (_ = _))

theorem getPositionPnlUsd_eq_ok {dataStore : DataStore} {market : Market} {prices : MarketPrices}
    {position : Position} {price sizeDeltaUsd sizeDeltaInTokens : Nat} {positionPnlUsd : Int}
    (huncapped : Uncapped dataStore market prices position price)
    (h : getPositionPnlUsd dataStore market prices position price sizeDeltaUsd =
      .ok (positionPnlUsd, sizeDeltaInTokens)) :
    getSizeDeltaInTokens position sizeDeltaUsd = .ok sizeDeltaInTokens ∧
      0 < position.sizeInTokens ∧
      positionPnlUsd = realizedPnl position sizeDeltaInTokens price := by
  simp only [getPositionPnlUsd, Result.bind_eq_ok, mul_eq_ok, toInt256_eq_ok, mulInt_eq_ok,
    divInt_eq_ok, Result.pure_eq_ok, Prod.mk.injEq] at h
  obtain ⟨_, ⟨-, rfl⟩, _, ⟨-, rfl⟩, _, ⟨-, rfl⟩, total, htotal, capped, hcapped, tokens, htokens,
    _, ⟨-, rfl⟩, _, ⟨-, rfl⟩, _, ⟨-, rfl⟩, _, ⟨hne, -, rfl⟩, rfl, rfl⟩ := h
  have htotal' : total = totalPnl position price := by
    unfold totalPnl
    split at htotal
    · rename_i hlong
      rw [if_pos hlong]
      exact (subInt_eq_ok.mp htotal).2
    · rename_i hshort
      rw [if_neg hshort]
      exact (subInt_eq_ok.mp htotal).2
  rw [htotal', huncapped] at hcapped
  obtain rfl := Except.ok.inj hcapped
  exact ⟨htokens, by omega, rfl⟩

/-- One, if the tokens closed are worth more than their cost and their cost is not a whole number:
the unit that truncating the pnl then takes off. -/
def truncatedUnit (position : Position) (sizeDeltaInTokens : Nat) (price : Int) : Int :=
  let cost := position.sizeInUsd * sizeDeltaInTokens
  if cost % position.sizeInTokens ≠ 0 ∧
      ((cost / position.sizeInTokens : Nat) : Int) < price * sizeDeltaInTokens then 1 else 0

/-- The realised pnl is the worth of the tokens closed less their cost, or the reverse. -/
theorem realizedPnl_eq (position : Position) (sizeDeltaInTokens price : Nat)
    (htokens : 0 < position.sizeInTokens) :
    let gain : Int := price * sizeDeltaInTokens -
      (position.sizeInUsd * sizeDeltaInTokens / position.sizeInTokens : Nat) -
      truncatedUnit position sizeDeltaInTokens price
    realizedPnl position sizeDeltaInTokens price = if position.isLong then gain else -gain := by
  intro gain
  have hfraction := Rounding.tdiv_mul_sub (price * sizeDeltaInTokens)
    (position.sizeInUsd * sizeDeltaInTokens) position.sizeInTokens htokens
  have hproduct : ∀ a b c : Int, (a * b - c) * sizeDeltaInTokens =
      b * sizeDeltaInTokens * a - c * sizeDeltaInTokens := by
    intro a b c
    rw [Int.sub_mul, Int.mul_assoc, Int.mul_comm a]
  unfold realizedPnl totalPnl
  split
  · rw [Nat.cast_mul, hproduct]
    rw [Nat.cast_mul] at hfraction
    exact hfraction
  · rw [← Int.neg_sub, Int.neg_mul, Int.neg_tdiv, Nat.cast_mul, hproduct]
    rw [Nat.cast_mul] at hfraction
    rw [hfraction]
    rfl

-- ---------------------------------------------------------------------------
-- The price that an impact moves
-- ---------------------------------------------------------------------------

open BaseOrderUtils (impactForPriceAdjustment adjustedPrice)

/-- What adjusting the size of an order adds to its price. -/
def priceMove (price sizeDeltaUsd : Nat) (adjustment : Int) : Int :=
  -(price * adjustment) / (sizeDeltaUsd + adjustment)

theorem adjustedPrice_eq (indexTokenPrice : Price) {sizeDeltaUsd : Nat} {priceImpactUsd : Int}
    {isLong : Bool} (hsize : 0 < sizeDeltaUsd)
    (hpositive : 0 < sizeDeltaUsd + impactForPriceAdjustment priceImpactUsd isLong false) :
    (adjustedPrice indexTokenPrice sizeDeltaUsd priceImpactUsd isLong false : Int) =
      indexTokenPrice.pickPriceForPnl isLong false +
        priceMove (indexTokenPrice.pickPriceForPnl isLong false) sizeDeltaUsd
          (impactForPriceAdjustment priceImpactUsd isLong false) := by
  have hpick : indexTokenPrice.pickPrice (false == isLong) =
      indexTokenPrice.pickPriceForPnl isLong false := by
    cases isLong <;> rfl
  unfold adjustedPrice priceMove
  dsimp only
  rw [if_pos hsize, hpick]
  generalize indexTokenPrice.pickPriceForPnl isLong false = price
  generalize impactForPriceAdjustment priceImpactUsd isLong false = adjustment at hpositive ⊢
  have hvalue : ((price * sizeDeltaUsd : Nat) : Int) =
      -(price * adjustment) + price * (sizeDeltaUsd + adjustment) := by
    rw [Int.mul_add, Nat.cast_mul]
    omega
  rw [Int.natCast_ediv, Int.toNat_of_nonneg hpositive.le, hvalue,
    Int.add_mul_ediv_right _ _ (ne_of_gt hpositive), Int.add_comm]

/-- The tokens that an impact is worth at a price, rounded as the impact pool is moved. -/
def impactTokens (priceImpactUsd : Int) (price : Nat) : Int :=
  if priceImpactUsd > 0 then (priceImpactUsd + price - 1).tdiv price else priceImpactUsd.tdiv price

theorem getPriceImpactAmount_eq_ok {indexTokenPrice : Price} {priceImpactUsd amount : Int}
    {isLong isIncrease : Bool}
    (h : PositionPricingUtils.getPriceImpactAmount priceImpactUsd indexTokenPrice isLong
      isIncrease = .ok amount) :
    amount = impactTokens priceImpactUsd (indexTokenPrice.pickPriceForPnl isLong isIncrease) := by
  unfold PositionPricingUtils.getPriceImpactAmount at h
  unfold impactTokens
  dsimp only at h
  split at h
  · rename_i hpositive
    rw [if_pos hpositive]
    unfold Calc.roundUpMagnitudeDivision at h
    rw [if_neg (by omega)] at h
    simp only [Result.bind_eq_ok, addInt_eq_ok, subInt_eq_ok, toInt256_eq_ok, divInt_eq_ok] at h
    obtain ⟨_, ⟨-, rfl⟩, _, ⟨-, rfl⟩, _, ⟨-, rfl⟩, _, ⟨-, rfl⟩, -, -, rfl⟩ := h
    rfl
  · rename_i hnonpos
    rw [if_neg hnonpos]
    simp only [Result.bind_eq_ok, toInt256_eq_ok, divInt_eq_ok] at h
    obtain ⟨_, ⟨-, rfl⟩, -, -, rfl⟩ := h
    rfl

-- ---------------------------------------------------------------------------
-- The impact pool and the pnl
-- ---------------------------------------------------------------------------

/-- The realised pnl differs from that at the index price by what the tokens moved in or out of
the impact pool are worth, up to one price unit for each token closed and one token. -/
def MovesAlike (positionPnlUsd indexPnlUsd priceImpactAmount : Int)
    (sizeDeltaInTokens price : Nat) : Prop :=
  (positionPnlUsd - indexPnlUsd - priceImpactAmount * price).natAbs ≤ sizeDeltaInTokens + price

/-- What the move of the price by an impact changes in the realised pnl. -/
def impactGain (position : Position) (sizeDeltaInTokens price sizeDeltaUsd : Nat)
    (priceImpactUsd : Int) : Int :=
  let move := priceMove price sizeDeltaUsd
    (impactForPriceAdjustment priceImpactUsd position.isLong false)
  let gain := move * sizeDeltaInTokens -
    (truncatedUnit position sizeDeltaInTokens (price + move) -
      truncatedUnit position sizeDeltaInTokens price)
  if position.isLong then gain else -gain

/-- The tokens closed, times the move of the price, are worth the tokens that the impact is worth,
up to one price unit for each token closed and one token. -/
def MatchesWorth (position : Position) (sizeDeltaInTokens price sizeDeltaUsd : Nat)
    (priceImpactUsd : Int) : Prop :=
  (impactGain position sizeDeltaInTokens price sizeDeltaUsd priceImpactUsd -
    impactTokens priceImpactUsd price * price).natAbs ≤ sizeDeltaInTokens + price

/-- How the realised pnl moves from one price to another. -/
theorem realizedPnl_sub {position : Position} (sizeDeltaInTokens : Nat)
    {price price' sizeDeltaUsd : Nat} {priceImpactUsd : Int} (htokens : 0 < position.sizeInTokens)
    (hprice : (price' : Int) = price + priceMove price sizeDeltaUsd
      (impactForPriceAdjustment priceImpactUsd position.isLong false)) :
    realizedPnl position sizeDeltaInTokens price' - realizedPnl position sizeDeltaInTokens price =
      impactGain position sizeDeltaInTokens price sizeDeltaUsd priceImpactUsd := by
  rw [realizedPnl_eq _ _ _ htokens, realizedPnl_eq _ _ _ htokens]
  unfold impactGain
  dsimp only
  rw [hprice, Int.add_mul]
  split <;> omega

/-- What the tokens moved are worth is the impact, rounded up to a whole token. -/
theorem impactTokens_mul_bounds (priceImpactUsd : Int) {price : Nat} (hprice : 0 < price) :
    priceImpactUsd ≤ impactTokens priceImpactUsd price * price ∧
      impactTokens priceImpactUsd price * price < priceImpactUsd + price := by
  unfold impactTokens
  split
  · rw [Int.tdiv_eq_ediv_of_nonneg (by omega)]
    have hlow := Int.ediv_mul_le (priceImpactUsd + price - 1) (b := price) (by omega)
    have hhigh := Int.lt_ediv_add_one_mul_self (priceImpactUsd + price - 1) (b := price) (by omega)
    rw [Int.add_mul] at hhigh
    omega
  · have hneg : priceImpactUsd.tdiv price = -(-priceImpactUsd / price) := by
      rw [← Int.tdiv_eq_ediv_of_nonneg (by omega), Int.neg_tdiv, Int.neg_neg]
    have hlow := Int.ediv_mul_le (-priceImpactUsd) (b := price) (by omega)
    have hhigh := Int.lt_ediv_add_one_mul_self (-priceImpactUsd) (b := price) (by omega)
    rw [Int.add_mul] at hhigh
    rw [hneg, Int.neg_mul]
    omega

theorem truncatedUnit_bounds (position : Position) (sizeDeltaInTokens : Nat) (price : Int) :
    0 ≤ truncatedUnit position sizeDeltaInTokens price ∧
      truncatedUnit position sizeDeltaInTokens price ≤ 1 := by
  unfold truncatedUnit
  dsimp only
  split <;> decide

/-- What a move of the price gains is the impact times the worth of the tokens closed for each
unit of the adjusted size, up to one price unit for each token and one more. -/
theorem impactGain_bounds {position : Position} (sizeDeltaInTokens price : Nat)
    {sizeDeltaUsd : Nat} {priceImpactUsd : Int}
    (hpositive : 0 < sizeDeltaUsd + impactForPriceAdjustment priceImpactUsd position.isLong false) :
    let size := sizeDeltaUsd + impactForPriceAdjustment priceImpactUsd position.isLong false
    let gain := impactGain position sizeDeltaInTokens price sizeDeltaUsd priceImpactUsd
    sizeDeltaInTokens * price * priceImpactUsd - (sizeDeltaInTokens + 1) * size ≤ gain * size ∧
      gain * size ≤
        sizeDeltaInTokens * price * priceImpactUsd + (sizeDeltaInTokens + 1) * size := by
  intro size gain
  have hfloor : priceMove price sizeDeltaUsd (impactForPriceAdjustment priceImpactUsd
      position.isLong false) * size ≤
        -(price * impactForPriceAdjustment priceImpactUsd position.isLong false) :=
    Int.ediv_mul_le _ (ne_of_gt hpositive)
  have hceil : -(price * impactForPriceAdjustment priceImpactUsd position.isLong false) <
      (priceMove price sizeDeltaUsd (impactForPriceAdjustment priceImpactUsd position.isLong
        false) + 1) * size := Int.lt_ediv_add_one_mul_self _ hpositive
  have hlow := Int.mul_le_mul_of_nonneg_left hfloor (Int.natCast_nonneg sizeDeltaInTokens)
  have hhigh := Int.mul_le_mul_of_nonneg_left hceil.le (Int.natCast_nonneg sizeDeltaInTokens)
  have hbefore := truncatedUnit_bounds position sizeDeltaInTokens price
  have hafter := truncatedUnit_bounds position sizeDeltaInTokens (price + priceMove price
    sizeDeltaUsd (impactForPriceAdjustment priceImpactUsd position.isLong false))
  have hgain : gain = impactGain position sizeDeltaInTokens price sizeDeltaUsd priceImpactUsd := rfl
  unfold impactGain at hgain
  dsimp only at hgain
  generalize priceMove price sizeDeltaUsd _ = move at hlow hhigh hafter hgain
  generalize truncatedUnit position sizeDeltaInTokens (price + move) = after at hafter hgain
  generalize truncatedUnit position sizeDeltaInTokens price = before at hbefore hgain
  have hunits : -size ≤ (after - before) * size ∧ (after - before) * size ≤ size := by
    constructor
    · have h := Int.mul_le_mul_of_nonneg_right (show -1 ≤ after - before by omega) hpositive.le
      linarith
    · have h := Int.mul_le_mul_of_nonneg_right (show after - before ≤ 1 by omega) hpositive.le
      linarith
  have hadjust : impactForPriceAdjustment priceImpactUsd position.isLong false =
      if position.isLong then -priceImpactUsd else priceImpactUsd := by
    unfold impactForPriceAdjustment
    cases position.isLong <;> rfl
  rw [hadjust] at hlow hhigh
  have htokens : 0 ≤ sizeDeltaInTokens * size := Int.mul_nonneg (Int.natCast_nonneg _) hpositive.le
  rw [hgain]
  split at hlow
  · rename_i hlong
    rw [if_pos hlong] at hhigh ⊢
    constructor <;> linarith
  · rename_i hshort
    rw [if_neg hshort] at hhigh ⊢
    constructor <;> linarith

section

variable {position : Position} {sizeDeltaInTokens price sizeDeltaUsd : Nat} {priceImpactUsd : Int}
  (hprice : 0 < price)
  (hpositive : 0 < sizeDeltaUsd + impactForPriceAdjustment priceImpactUsd position.isLong false)

include hprice hpositive

/-- A match, when there is no impact or the tokens closed are worth the adjusted size. -/
theorem matchesWorth_of_exact
    (hexact : sizeDeltaInTokens * price * priceImpactUsd = priceImpactUsd *
      (sizeDeltaUsd + impactForPriceAdjustment priceImpactUsd position.isLong false)) :
    MatchesWorth position sizeDeltaInTokens price sizeDeltaUsd priceImpactUsd := by
  obtain ⟨hlow, hhigh⟩ := impactGain_bounds sizeDeltaInTokens price hpositive
  obtain ⟨htokensLow, htokensHigh⟩ := impactTokens_mul_bounds priceImpactUsd hprice
  rw [hexact, ← Int.sub_mul] at hlow
  rw [hexact, ← Int.add_mul] at hhigh
  have hlow := Int.le_of_mul_le_mul_right hlow hpositive
  have hhigh := Int.le_of_mul_le_mul_right hhigh hpositive
  unfold MatchesWorth
  omega

/-- With a match, the worth of the tokens closed differs from the adjusted size by no more than
rounding, weighted by the impact. -/
theorem MatchesWorth.worth_close
    (h : MatchesWorth position sizeDeltaInTokens price sizeDeltaUsd priceImpactUsd) :
    let size := sizeDeltaUsd + impactForPriceAdjustment priceImpactUsd position.isLong false
    sizeDeltaInTokens * price * priceImpactUsd - priceImpactUsd * size ≤
        (2 * (sizeDeltaInTokens + price) + 1) * size ∧
      priceImpactUsd * size - sizeDeltaInTokens * price * priceImpactUsd ≤
        (2 * (sizeDeltaInTokens + price) + 1) * size := by
  intro size
  obtain ⟨hlow, hhigh⟩ := impactGain_bounds sizeDeltaInTokens price hpositive
  obtain ⟨htokensLow, htokensHigh⟩ := impactTokens_mul_bounds priceImpactUsd hprice
  unfold MatchesWorth at h
  generalize impactGain position sizeDeltaInTokens price sizeDeltaUsd priceImpactUsd = gain
    at h hlow hhigh
  generalize impactTokens priceImpactUsd price * price = worth at h htokensLow htokensHigh
  have hgainLow := Int.mul_le_mul_of_nonneg_right
    (show priceImpactUsd - (sizeDeltaInTokens + price) ≤ gain by omega) hpositive.le
  have hgainHigh := Int.mul_le_mul_of_nonneg_right
    (show gain ≤ priceImpactUsd + (sizeDeltaInTokens + 2 * price) by omega) hpositive.le
  have hpriceSize := Int.mul_nonneg (Int.natCast_nonneg price) hpositive.le
  constructor
  · linarith
  · linarith

end

/-- **When the impact pool moves by what the trader gains or loses.** For a decrease whose pnl is
not capped, if and only if the tokens closed, times the move of the price, match the worth of the
impact. -/
theorem impactPnl_iff {dataStore : DataStore} {market : Market} {prices : MarketPrices}
    {position : Position} {indexTokenPrice : Price}
    {sizeDeltaUsd sizeDeltaInTokens sizeDeltaInTokens' acceptablePrice executionPrice : Nat}
    {priceImpactUsd priceImpactAmount positionPnlUsd indexPnlUsd : Int}
    (hsize : 0 < sizeDeltaUsd)
    (hprice : BaseOrderUtils.getExecutionPrice indexTokenPrice sizeDeltaUsd priceImpactUsd
      acceptablePrice position.isLong false = .ok executionPrice)
    (hamount : PositionPricingUtils.getPriceImpactAmount priceImpactUsd indexTokenPrice
      position.isLong false = .ok priceImpactAmount)
    (hpnl : getPositionPnlUsd dataStore market prices position executionPrice sizeDeltaUsd =
      .ok (positionPnlUsd, sizeDeltaInTokens))
    (hindex : getPositionPnlUsd dataStore market prices position
      (indexTokenPrice.pickPriceForPnl position.isLong false) sizeDeltaUsd =
      .ok (indexPnlUsd, sizeDeltaInTokens'))
    (huncapped : Uncapped dataStore market prices position executionPrice)
    (huncapped' : Uncapped dataStore market prices position
      (indexTokenPrice.pickPriceForPnl position.isLong false)) :
    MovesAlike positionPnlUsd indexPnlUsd priceImpactAmount sizeDeltaInTokens
        (indexTokenPrice.pickPriceForPnl position.isLong false) ↔
      MatchesWorth position sizeDeltaInTokens
        (indexTokenPrice.pickPriceForPnl position.isLong false) sizeDeltaUsd priceImpactUsd := by
  obtain ⟨htokens, hpositive, rfl⟩ := getPositionPnlUsd_eq_ok huncapped hpnl
  obtain ⟨htokens', -, rfl⟩ := getPositionPnlUsd_eq_ok huncapped' hindex
  obtain rfl := Except.ok.inj (htokens.symm.trans htokens')
  obtain ⟨rfl, hadjusted, -⟩ := BaseOrderUtils.getExecutionPrice_eq_ok hprice
  obtain rfl := getPriceImpactAmount_eq_ok hamount
  have hmove := realizedPnl_sub sizeDeltaInTokens hpositive
    (adjustedPrice_eq indexTokenPrice hsize (hadjusted hsize))
  unfold MovesAlike MatchesWorth
  rw [hmove]

/-- A long of 2 million USD at 5000 USD, closed at that price with an impact of minus 1000 USD. -/
theorem impactPnl_misaligned :
    ¬ ∀ (dataStore : DataStore) (market : Market) (prices : MarketPrices) (position : Position)
      (indexTokenPrice : Price) (sizeDeltaUsd sizeDeltaInTokens sizeDeltaInTokens' acceptablePrice
        executionPrice : Nat) (priceImpactUsd priceImpactAmount positionPnlUsd indexPnlUsd : Int),
      0 < sizeDeltaUsd →
      BaseOrderUtils.getExecutionPrice indexTokenPrice sizeDeltaUsd priceImpactUsd acceptablePrice
        position.isLong false = .ok executionPrice →
      PositionPricingUtils.getPriceImpactAmount priceImpactUsd indexTokenPrice position.isLong
        false = .ok priceImpactAmount →
      getPositionPnlUsd dataStore market prices position executionPrice sizeDeltaUsd =
        .ok (positionPnlUsd, sizeDeltaInTokens) →
      getPositionPnlUsd dataStore market prices position
        (indexTokenPrice.pickPriceForPnl position.isLong false) sizeDeltaUsd =
        .ok (indexPnlUsd, sizeDeltaInTokens') →
      Uncapped dataStore market prices position executionPrice →
      Uncapped dataStore market prices position
        (indexTokenPrice.pickPriceForPnl position.isLong false) →
      MovesAlike positionPnlUsd indexPnlUsd priceImpactAmount sizeDeltaInTokens
        (indexTokenPrice.pickPriceForPnl position.isLong false) := by
  intro hclaim
  let price : Price := ⟨5000 * 10 ^ 12, 5000 * 10 ^ 12⟩
  have halike := hclaim .empty ⟨1, 2, 3, 4⟩ ⟨price, price, price⟩
    { Position.empty with
      sizeInUsd := 2000000 * 10 ^ 30, sizeInTokens := 400 * 10 ^ 18, isLong := true }
    price (2000000 * 10 ^ 30) (400 * 10 ^ 18) (400 * 10 ^ 18) 0 4997501249375312 (-1000 * 10 ^ 30)
    (-2 * 10 ^ 17) (-999500249875200 * 10 ^ 18) 0 (by decide) (by decide +kernel)
    (by decide +kernel) (by decide +kernel) (by decide +kernel) (by decide +kernel)
    (by decide +kernel)
  exact absurd halike (by unfold MovesAlike; decide)

/-- The same close of a position whose tokens are worth the size less the impact. -/
theorem impactPnl_aligned :
    MovesAlike (-1376 * 10 ^ 17) (1000 * 10 ^ 30) (-2 * 10 ^ 17) (4002 * 10 ^ 17)
      (5000 * 10 ^ 12) := by
  let price : Price := ⟨5000 * 10 ^ 12, 5000 * 10 ^ 12⟩
  let prices : MarketPrices := ⟨price, price, price⟩
  let position : Position :=
    { Position.empty with
      sizeInUsd := 2000000 * 10 ^ 30, sizeInTokens := 4002 * 10 ^ 17, isLong := true }
  have hprice : BaseOrderUtils.getExecutionPrice price (2000000 * 10 ^ 30) (-1000 * 10 ^ 30) 0
      position.isLong false = .ok 4997501249375312 := by decide +kernel
  have hpnl : getPositionPnlUsd .empty ⟨1, 2, 3, 4⟩ prices position 4997501249375312
      (2000000 * 10 ^ 30) = .ok (-1376 * 10 ^ 17, 4002 * 10 ^ 17) := by decide +kernel
  have hindex : getPositionPnlUsd .empty ⟨1, 2, 3, 4⟩ prices position
      (price.pickPriceForPnl position.isLong false) (2000000 * 10 ^ 30) =
      .ok (1000 * 10 ^ 30, 4002 * 10 ^ 17) := by decide +kernel
  exact (impactPnl_iff (by decide) hprice (by decide +kernel) hpnl hindex (by decide +kernel)
    (by decide +kernel)).mpr (matchesWorth_of_exact (by decide) (by decide +kernel)
      (by decide +kernel))

end GmxSynthetics.PositionUtils
