import GmxSynthetics.Market.Book
import GmxSynthetics.Order.Order

/-!
# Execution prices

`BaseOrderUtils.getExecutionPrice` moves the picked oracle price so that the price impact becomes
a gain or a loss of the position. What it returns does not depend on the acceptable price.

* `adjustedPrice` — the execution price as a function;
* `getExecutionPrice_eq_ok` — a successful call returns it, and the acceptable price admits it.
-/

namespace GmxSynthetics.BaseOrderUtils

open Evm

/-- What the size is adjusted by: a gain lowers the price of a long increase and of a short
decrease, and raises the other two. -/
def impactForPriceAdjustment (priceImpactUsd : Int) (isLong isIncrease : Bool) : Int :=
  if isIncrease = isLong then priceImpactUsd else -priceImpactUsd

/-- The oracle price, moved by the price impact. -/
def adjustedPrice (primaryPrice : Price) (sizeDeltaUsd : Nat) (priceImpactUsd : Int)
    (isLong isIncrease : Bool) : Nat :=
  let price := primaryPrice.pickPrice (isIncrease == isLong)
  if sizeDeltaUsd > 0 then
    price * sizeDeltaUsd /
      (sizeDeltaUsd + impactForPriceAdjustment priceImpactUsd isLong isIncrease).toNat
  else price

variable {primaryPrice : Price} {sizeDeltaUsd : Nat} {priceImpactUsd : Int}
  {isLong isIncrease : Bool}

/-- A call that succeeds returns the adjusted price; the impact did not use up the size, and the
price is on the right side of the acceptable price. -/
theorem getExecutionPrice_eq_ok {acceptablePrice executionPrice : Nat}
    (h : getExecutionPrice primaryPrice sizeDeltaUsd priceImpactUsd acceptablePrice isLong
      isIncrease = .ok executionPrice) :
    executionPrice = adjustedPrice primaryPrice sizeDeltaUsd priceImpactUsd isLong isIncrease ∧
      (0 < sizeDeltaUsd →
        0 < sizeDeltaUsd + impactForPriceAdjustment priceImpactUsd isLong isIncrease) ∧
      if isIncrease = isLong then executionPrice ≤ acceptablePrice
      else acceptablePrice ≤ executionPrice := by
  unfold getExecutionPrice at h
  simp only [Result.bind_eq_ok, Result.revertIf_eq_ok] at h
  obtain ⟨adjustment, hadjustment, _, -, _, -, price, hprice, h⟩ := h
  have hside : (if isIncrease = true then isLong else !isLong) = (isIncrease == isLong) := by
    cases isIncrease <;> cases isLong <;> rfl
  have hadjust : adjustment = impactForPriceAdjustment priceImpactUsd isLong isIncrease := by
    unfold impactForPriceAdjustment
    cases isIncrease <;> cases isLong <;>
      simp_all [negInt_eq_ok, Result.pure_eq_ok]
  rw [hside] at hprice h
  rw [← hadjust]
  have hvalue : price = adjustedPrice primaryPrice sizeDeltaUsd priceImpactUsd isLong isIncrease ∧
      (0 < sizeDeltaUsd → 0 < sizeDeltaUsd + adjustment) := by
    unfold adjustedPrice
    rw [← hadjust]
    split at hprice
    · rename_i hpos
      simp only [Result.bind_eq_ok, mul_eq_ok, div_eq_ok] at hprice
      obtain ⟨_, ⟨-, rfl⟩, sum, hsum, hne, rfl⟩ := hprice
      have hsum' := MarketUtils.sumReturnUint256_eq hsum
      rw [if_pos hpos]
      have hnat : (sizeDeltaUsd + adjustment).toNat = sum := by omega
      rw [hnat]
      exact ⟨rfl, fun _ => by omega⟩
    · rename_i hzero
      rw [if_neg hzero]
      exact ⟨(Result.pure_eq_ok.mp hprice).symm, fun hpos => absurd hpos hzero⟩
  split at h
  · rename_i haccepted
    obtain rfl := Result.pure_eq_ok.mp h
    refine ⟨hvalue.1, hvalue.2, ?_⟩
    rcases haccepted with ⟨hsmaller, hle⟩ | ⟨hlarger, hle⟩
    · rw [if_pos (eq_of_beq hsmaller)]
      exact hle
    · rw [if_neg (fun heq => by simp [heq] at hlarger)]
      exact hle
  · simp at h

end GmxSynthetics.BaseOrderUtils
