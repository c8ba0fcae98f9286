import GmxSynthetics.Evm.Rounding
import GmxSynthetics.Order.ExecutionPrice
import GmxSynthetics.Position.PositionFootprint

/-!
# The entry of an increase

An increase buys its size in tokens at the execution price. The exact entry is the size moved by
the price impact, at the index price. The tokens are rounded against the trader, but the execution
price is rounded down for both sides, which is in favour of a long.

* `increasePosition_adds` — the tokens that an increase adds to the stored position;
* `shortEntry_le` — a short never sells fewer tokens than its exact entry;
* `longEntry_le_iff` — when a long does not buy more;
* `entry_neverFavours_iff` — the two sides together.
-/

namespace GmxSynthetics.IncreasePositionUtils

open Evm

variable {env : Env} {w w' : World} {params : PositionUtils.UpdatePositionParams}

-- ---------------------------------------------------------------------------
-- The tokens of an increase
-- ---------------------------------------------------------------------------

/-- The tokens that an increase adds are those of its size at its execution price. -/
theorem increasePosition_adds (hkey : params.positionKey.slot = .position)
    {collateralIncrementAmount : Nat} {fees : PositionPricingUtils.PositionFees}
    (h : increasePosition env params collateralIncrementAmount w = .ok (fees, w')) :
    ∃ indexTokenPrice priceImpactUsd executionPrice sizeDeltaInTokens,
      Oracle.getPrimaryPrice env params.market.indexToken = .ok indexTokenPrice ∧
      BaseOrderUtils.getExecutionPrice indexTokenPrice params.order.sizeDeltaUsd priceImpactUsd
        params.order.acceptablePrice params.order.isLong true = .ok executionPrice ∧
      getSizeDeltaInTokens params.position.isLong params.order.sizeDeltaUsd executionPrice =
        .ok sizeDeltaInTokens ∧
      (PositionStoreUtils.get w'.dataStore params.positionKey).sizeInTokens =
        params.position.sizeInTokens + sizeDeltaInTokens := by
  obtain ⟨run⟩ := increasePosition_run h
  have hprice := run.pricing
  simp only [getExecutionPrice, Result.bind_eq_ok, Result.pure_eq_ok, Prod.mk.injEq] at hprice
  obtain ⟨_, -, priceImpactUsd, -, priceImpactUsd', -, indexTokenPrice, hindex, _, hprice, _, -,
    rfl, -⟩ := hprice
  refine ⟨indexTokenPrice, priceImpactUsd', _, run.sizeDeltaInTokens, hindex, hprice, run.tokens,
    ?_⟩
  -- nothing is written to the position after it is stored
  have hafter : World.SameOff (.constant .AFFILIATE_REWARD :: openInterestSlots) run.stored w' :=
    run.sameOff_referred (List.subset_cons_self _ _) List.mem_cons_self
  have hkeep : positionStore.get w'.dataStore params.positionKey =
      positionStore.get run.stored.dataStore params.positionKey :=
    positionStore.get_sameOff hafter (by decide) (by rw [hkey]; decide)
  have hstored := writeStore_eq_ok.mp run.storing
  show (positionStore.get _ _).sizeInTokens = _
  rw [hkeep, ← hstored]
  show (positionStore.get (positionStore.set _ _ _) _).sizeInTokens = _
  rw [positionStore.get_set_self, run.next_eq]

-- ---------------------------------------------------------------------------
-- The exact entry
-- ---------------------------------------------------------------------------

/-- The tokens of an increase are not a better entry than the exact one: a long gets at most what
its size and the impact are worth, a short owes at least that. -/
def NeverFavours (isLong : Bool) (indexTokenPrice : Price) (sizeDeltaUsd : Nat)
    (priceImpactUsd : Int) (sizeDeltaInTokens : Nat) : Prop :=
  if isLong then (sizeDeltaInTokens * indexTokenPrice.max : Nat) ≤ sizeDeltaUsd + priceImpactUsd
  else sizeDeltaUsd - priceImpactUsd ≤ (sizeDeltaInTokens * indexTokenPrice.min : Nat)

/-- A whole price lies between the exact execution price of a long, which it does not exceed, and
the price at which the size buys one token more than the exact entry, which it exceeds. -/
def SeparatingPrice (indexTokenPrice : Price) (sizeDeltaUsd : Nat) (priceImpactUsd : Int) : Prop :=
  let cost := (sizeDeltaUsd + priceImpactUsd).toNat
  ∃ price, price * cost ≤ indexTokenPrice.max * sizeDeltaUsd ∧
    sizeDeltaUsd < (cost / indexTokenPrice.max + 1) * price

variable {indexTokenPrice : Price} {sizeDeltaUsd executionPrice sizeDeltaInTokens : Nat}
  {priceImpactUsd : Int} {acceptablePrice : Nat}

/-- A short that is rounded twice still owes its exact entry: the lower price only makes it sell
more tokens. -/
theorem shortEntry_le (hsize : 0 < sizeDeltaUsd)
    (hprice : BaseOrderUtils.getExecutionPrice indexTokenPrice sizeDeltaUsd priceImpactUsd
      acceptablePrice false true = .ok executionPrice)
    (htokens : getSizeDeltaInTokens false sizeDeltaUsd executionPrice = .ok sizeDeltaInTokens) :
    sizeDeltaUsd - priceImpactUsd ≤ (sizeDeltaInTokens * indexTokenPrice.min : Nat) := by
  obtain ⟨rfl, hcost, -⟩ := BaseOrderUtils.getExecutionPrice_eq_ok hprice
  have hadjusted : BaseOrderUtils.adjustedPrice indexTokenPrice sizeDeltaUsd priceImpactUsd false
      true = indexTokenPrice.min * sizeDeltaUsd / (sizeDeltaUsd - priceImpactUsd).toNat :=
    if_pos hsize
  rw [hadjusted] at htokens
  obtain ⟨hpos, rfl⟩ := Calc.roundUpDivision_eq_ok htokens
  have hle := Rounding.le_ceil_div_floor_mul hsize hpos
  have hcost : 0 < sizeDeltaUsd - priceImpactUsd := hcost hsize
  omega

/-- A long that is rounded twice buys no more than its exact entry if and only if a whole price
separates its execution price from the entry of one token more. -/
theorem longEntry_le_iff (hsize : 0 < sizeDeltaUsd)
    (hprice : BaseOrderUtils.getExecutionPrice indexTokenPrice sizeDeltaUsd priceImpactUsd
      acceptablePrice true true = .ok executionPrice)
    (htokens : getSizeDeltaInTokens true sizeDeltaUsd executionPrice = .ok sizeDeltaInTokens) :
    ((sizeDeltaInTokens * indexTokenPrice.max : Nat) : Int) ≤ sizeDeltaUsd + priceImpactUsd ↔
      SeparatingPrice indexTokenPrice sizeDeltaUsd priceImpactUsd := by
  obtain ⟨rfl, hcost, -⟩ := BaseOrderUtils.getExecutionPrice_eq_ok hprice
  have hadjusted : BaseOrderUtils.adjustedPrice indexTokenPrice sizeDeltaUsd priceImpactUsd true
      true = indexTokenPrice.max * sizeDeltaUsd / (sizeDeltaUsd + priceImpactUsd).toNat :=
    if_pos hsize
  have hcost : 0 < sizeDeltaUsd + priceImpactUsd := hcost hsize
  rw [hadjusted] at htokens
  obtain ⟨hne, rfl⟩ := div_eq_ok.mp htokens
  have hcostNat : 0 < (sizeDeltaUsd + priceImpactUsd).toNat := by omega
  have hiff := Rounding.floor_div_floor_mul_le_iff hcostNat (Nat.pos_of_ne_zero hne)
  unfold SeparatingPrice
  rw [← hiff]
  omega

/-- **When rounding does not favour the trader.** The entry of an increase is never better than
the exact one if and only if, for a long, a whole price separates its execution price from the
entry of one token more. -/
theorem entry_neverFavours_iff {isLong : Bool} (hsize : 0 < sizeDeltaUsd)
    (hprice : BaseOrderUtils.getExecutionPrice indexTokenPrice sizeDeltaUsd priceImpactUsd
      acceptablePrice isLong true = .ok executionPrice)
    (htokens : getSizeDeltaInTokens isLong sizeDeltaUsd executionPrice = .ok sizeDeltaInTokens) :
    NeverFavours isLong indexTokenPrice sizeDeltaUsd priceImpactUsd sizeDeltaInTokens ↔
      (isLong = true → SeparatingPrice indexTokenPrice sizeDeltaUsd priceImpactUsd) := by
  cases isLong with
  | false =>
    have hshort := shortEntry_le hsize hprice htokens
    exact ⟨fun _ hlong => absurd hlong (by decide), fun _ => hshort⟩
  | true =>
    have hlong := longEntry_le_iff hsize hprice htokens
    exact ⟨fun hfavours _ => hlong.mp hfavours, fun hseparating => hlong.mpr (hseparating rfl)⟩

/-- A long of 10000 USD with an impact of minus 10 USD, at an index price of 2000 USD. -/
theorem entry_favours_long :
    ¬ ∀ (isLong : Bool) (indexTokenPrice : Price) (sizeDeltaUsd : Nat) (priceImpactUsd : Int)
      (acceptablePrice executionPrice sizeDeltaInTokens : Nat), 0 < sizeDeltaUsd →
      0 < indexTokenPrice.min → indexTokenPrice.min ≤ indexTokenPrice.max →
      0 < sizeDeltaUsd + priceImpactUsd →
      BaseOrderUtils.getExecutionPrice indexTokenPrice sizeDeltaUsd priceImpactUsd acceptablePrice
        isLong true = .ok executionPrice →
      getSizeDeltaInTokens isLong sizeDeltaUsd executionPrice = .ok sizeDeltaInTokens →
      NeverFavours isLong indexTokenPrice sizeDeltaUsd priceImpactUsd sizeDeltaInTokens := by
  intro hclaim
  have hfavours := hclaim true ⟨2000 * 10 ^ 12, 2000 * 10 ^ 12⟩ (10 ^ 34) (-10 ^ 31)
    (3000 * 10 ^ 12)
    2002002002002002 4995000000000000004 (by decide) (by decide) (by decide) (by decide)
    (by decide +kernel) (by decide +kernel)
  exact absurd hfavours (by unfold NeverFavours; decide)

/-- A long of 10000 USD with an impact of minus 30 USD, on a token of 8 decimals at 30000 USD: both
roundings lose something, and the entry is not in its favour. -/
theorem entry_neverFavours_negativeImpact :
    SeparatingPrice ⟨3 * 10 ^ 26, 3 * 10 ^ 26⟩ (10 ^ 34) (-3 * 10 ^ 31) := by
  have hprice : BaseOrderUtils.getExecutionPrice ⟨3 * 10 ^ 26, 3 * 10 ^ 26⟩ (10 ^ 34)
      (-3 * 10 ^ 31) (4 * 10 ^ 26) true true = .ok 300902708124373119358074222 := by decide +kernel
  have htokens : getSizeDeltaInTokens true (10 ^ 34) 300902708124373119358074222 =
      .ok 33233333 := by decide +kernel
  have hfavours : NeverFavours true ⟨3 * 10 ^ 26, 3 * 10 ^ 26⟩ (10 ^ 34) (-3 * 10 ^ 31)
      33233333 := by
    unfold NeverFavours
    decide
  exact (entry_neverFavours_iff (by decide) hprice htokens).mp hfavours rfl

end GmxSynthetics.IncreasePositionUtils
