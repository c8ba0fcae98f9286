import GmxSynthetics.Market.Book
import GmxSynthetics.Swap.SwapFootprint

/-!
# The book under a swap

A hop of a swap moves its market's book by the amount in and the amount out, to the unit:
fees and impact only move tokens between the ledgers of the market.
-/

namespace GmxSynthetics

open Evm MarketUtils

/-- The fees of a swap split its amount. -/
theorem SwapPricingUtils.getSwapFees_split {dataStore : DataStore} {marketToken : Address}
    {amount : Nat} {uiFeeReceiver : Address} {fees : SwapFees}
    (h : getSwapFees dataStore marketToken amount uiFeeReceiver = .ok fees) :
    fees.feeReceiverAmount + fees.feeAmountForPool + fees.uiFeeAmount + fees.amountAfterFees =
      amount := by
  simp only [getSwapFees, Result.bind_eq_ok, sub_eq_ok, Result.pure_eq_ok] at h
  obtain ⟨feeAmount, -, _, -, _, ⟨_, rfl⟩, _, -, _, ⟨_, rfl⟩, _, ⟨_, rfl⟩, rfl⟩ := h
  dsimp only
  omega

namespace SwapUtils

variable {env : Env} {w w' : World}

/-- What the impact branch returns: the amount in and the impact taken from the user add up to
the amount after fees, the amount out is the pool's part and the impact paid to the user. -/
theorem applyPriceImpact_moves {market tokenIn tokenOut : Address}
    {tokenInPrice tokenOutPrice : Price} {amountAfterFees : Nat} {priceImpactUsd : Int}
    {cache : SwapCache}
    (h : applyPriceImpact market tokenIn tokenOut tokenInPrice tokenOutPrice amountAfterFees
      priceImpactUsd w = .ok (cache, w')) :
    Moves (entry market tokenIn (amountAfterFees - cache.amountIn) +
      entry market tokenOut (cache.poolAmountOut - cache.amountOut)) w w' := by
  unfold applyPriceImpact at h
  split at h
  · simp only [Tx.bind_eq_ok, Tx.lift_eq_ok, add_eq_ok, toUint256_eq_ok, Tx.pure_eq_ok] at h
    obtain ⟨_, _, ⟨-, rfl⟩, poolAmountOut, _, ⟨-, rfl⟩, impact, _, himpact, impactAmount, _,
      ⟨hamount, rfl⟩, _, _, ⟨⟨-, rfl⟩, rfl⟩, rfl, rfl⟩ := h
    refine (applySwapImpactWithCap_moves himpact).cast ?_
    have hout : (poolAmountOut : Int) - ((poolAmountOut + impactAmount : Nat) : Int) = -impact := by
      omega
    simp only [sub_self, entry_zero, zero_add, hout]
  · simp only [Tx.bind_eq_ok, Tx.lift_eq_ok, negInt_eq_ok, toUint256_eq_ok, sub_eq_ok,
      Tx.pure_eq_ok] at h
    obtain ⟨impact, _, himpact, _, _, ⟨⟨-, rfl⟩, rfl⟩, impactAmount, _, ⟨hamount, rfl⟩, _, _,
      ⟨-, rfl⟩, _, _, ⟨⟨hle, rfl⟩, rfl⟩, _, _, ⟨-, rfl⟩, _, _, ⟨-, rfl⟩, rfl, rfl⟩ := h
    refine (applySwapImpactWithCap_moves himpact).cast ?_
    have hin : (amountAfterFees : Int) - ((amountAfterFees - impactAmount : Nat) : Int) =
        -impact := by
      omega
    simp only [sub_self, entry_zero, add_zero, hin]

/-- **A hop conserves tokens.** Whatever it charges, the book of the market is up by the amount
in and down by the amount out, and the two tokens are the market's two different tokens. -/
theorem _swap_moves {params : SwapParams} {_params : _SwapParams} {tokenOut : Address}
    {amountOut : Nat} (h : _swap env params _params w = .ok ((tokenOut, amountOut), w')) :
    Moves (entry _params.market.marketToken _params.tokenIn _params.amountIn +
      entry _params.market.marketToken tokenOut (-amountOut)) w w' ∧
    MarketUtils.getOppositeToken _params.tokenIn _params.market = .ok tokenOut := by
  obtain ⟨run⟩ := _swap_run h
  refine ⟨?_, run.opposite⟩
  have hsplit := SwapPricingUtils.getSwapFees_split run.swapFees
  have h₁ := FeeUtils.incrementClaimableFeeAmount_moves run.booking
  have h₂ := FeeUtils.incrementClaimableUiFeeAmount_moves run.uiBooking
  have h₃ := applyPriceImpact_moves run.impacting
  have h₄ : Moves 0 run.impacted run.transferred := Moves.of_writes
    (Writes.ite (Bank.transferOutUnwrapping_writes env (List.mem_singleton_self _) _ _ _ _ _)
      (.pure _)) (by decide) run.transferring
  have h₅ := applyDeltaToPoolAmount_moves run.receiving
  have h₆ := applyDeltaToPoolAmount_moves run.paying
  have hamount := run.amountOut_eq
  refine (((((h₁.trans h₂).trans h₃).trans h₄).trans h₅).trans h₆).cast ?_
  funext market token
  simp only [Pi.add_apply, Pi.zero_apply, entry]
  split_ifs <;> omega

theorem setSwapPathMarketFlag_writes (marketToken : Address) (value : Bool) :
    Writes [.constant .SWAP_PATH_MARKET_FLAG]
      (writeStore (·.setBool (Keys.swapPathMarketFlagKey marketToken) value)) := by
  have hslot : (Keys.swapPathMarketFlagKey marketToken).slot ∈
      [Slot.constant .SWAP_PATH_MARKET_FLAG] := List.mem_singleton_self _
  exact Writes.writeStore (.setBool hslot value)

/-- A swap on one market. An empty one returns its input. -/
theorem swap_moves_single {params : SwapParams} {market : Market} {tokenOut : Address}
    {amountOut : Nat} (hpath : params.swapPathMarkets = [market])
    (h : swap env params w = .ok ((tokenOut, amountOut), w')) :
    Moves (entry market.marketToken params.tokenIn params.amountIn +
      entry market.marketToken tokenOut (-amountOut)) w w' ∧
    (params.amountIn = 0 → amountOut = 0) ∧
    (params.amountIn ≠ 0 → MarketUtils.getOppositeToken params.tokenIn market = .ok tokenOut) := by
  unfold swap at h
  split at h
  · rename_i hzero
    simp only [Tx.pure_eq_ok, Prod.mk.injEq] at h
    obtain ⟨⟨rfl, rfl⟩, rfl⟩ := h
    refine ⟨?_, id, absurd hzero⟩
    refine (Moves.refl w).cast ?_
    simp only [hzero, Nat.cast_zero, neg_zero, add_zero, entry_zero]
  · rename_i hamount
    simp only [hpath] at h
    obtain ⟨_, w₁, htransfer, h⟩ := Tx.bind_eq_ok.mp h
    obtain ⟨⟨token, amount⟩, w₂, hpath', h⟩ := Tx.bind_eq_ok.mp h
    obtain ⟨_, w₃, hflags, h⟩ := Tx.bind_eq_ok.mp h
    simp only [↓Tx.lift_bind_eq_ok, Tx.pure_eq_ok, Prod.mk.injEq] at h
    obtain ⟨_, -, ⟨rfl, rfl⟩, rfl⟩ := h
    unfold swapAlongPath at hpath'
    simp only [↓readStore_bind_eq_ok, ↓Tx.lift_bind_eq_ok] at hpath'
    obtain ⟨_, -, hpath'⟩ := hpath'
    obtain ⟨_, w₄, hflag, hpath'⟩ := Tx.bind_eq_ok.mp hpath'
    obtain ⟨⟨token', amount'⟩, w₅, hhop, hpath'⟩ := Tx.bind_eq_ok.mp hpath'
    simp only [swapAlongPath, Tx.pure_eq_ok, Prod.mk.injEq] at hpath'
    obtain ⟨⟨rfl, rfl⟩, rfl⟩ := hpath'
    obtain ⟨hmoves, hopposite⟩ := _swap_moves hhop
    have h₁ : Moves 0 w w₁ := Moves.of_writes
      (Writes.ite (BankRef.transferOut_writes env (List.mem_singleton_self _) _ _ _ _ _) (.pure _))
      (by decide) htransfer
    have h₂ : Moves 0 w₁ w₄ :=
      Moves.of_writes (setSwapPathMarketFlag_writes _ _) (by decide) hflag
    have h₃ : Moves 0 w₅ w₃ :=
      Moves.of_writes (Writes.forM fun _ => setSwapPathMarketFlag_writes _ _) (by decide) hflags
    refine ⟨?_, fun hzero => absurd hzero hamount, fun _ => hopposite⟩
    refine (((h₁.trans h₂).trans hmoves).trans h₃).cast ?_
    simp only [zero_add, add_zero]

end SwapUtils

end GmxSynthetics
