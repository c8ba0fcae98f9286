import GmxSynthetics.Market.Claims
import GmxSynthetics.Reader.ReaderUtils
import GmxSynthetics.Swap.SwapBook

/-!
# The swap that the reader reports

`ReaderUtils.getSwapAmountOut` repeats a hop of a swap without its writes. The hop interleaves
them with its computation: it books the fees before it looks at the price impact, and moves the
swap impact pool in between. None of these writes is read again.

* `getPriceImpactUsd_congr` — what the price impact of a swap is read from;
* `applyPriceImpact_eq_ok` — the impact branch of a hop is the reader's, and moves one swap impact
  pool by the impact amount;
* `getSwapAmountOut_eq_swap` — the report of the reader is what a hop does.
-/

namespace GmxSynthetics

open Evm

variable {env : Env} {w w' : World}

-- ---------------------------------------------------------------------------
-- What the price impact reads
-- ---------------------------------------------------------------------------

namespace SwapPricingUtils

/-- What the price impact of a swap is computed from. -/
def priceImpactSlots : List Slot :=
  [.constant .POOL_AMOUNT, .constant .SWAP_IMPACT_FACTOR, .constant .SWAP_IMPACT_EXPONENT_FACTOR,
    .constant .VIRTUAL_MARKET_ID, .constant .VIRTUAL_INVENTORY_FOR_SWAPS]

theorem getPriceImpactUsd_congr {slots : List Slot} (hsame : World.SameOff slots w w')
    (hslots : ∀ slot ∈ priceImpactSlots, slot ∉ slots) (params : GetPriceImpactUsdParams) :
    getPriceImpactUsd env w'.dataStore params = getPriceImpactUsd env w.dataStore params := by
  have hpool := hsame.uint (.constant .POOL_AMOUNT) (hslots _ (by decide))
  have hfactor := hsame.uint (.constant .SWAP_IMPACT_FACTOR) (hslots _ (by decide))
  have hexponent := hsame.uint (.constant .SWAP_IMPACT_EXPONENT_FACTOR) (hslots _ (by decide))
  have hmarketId := hsame.bytes32 (.constant .VIRTUAL_MARKET_ID) (hslots _ (by decide))
  have hinventory := hsame.uint (.constant .VIRTUAL_INVENTORY_FOR_SWAPS) (hslots _ (by decide))
  have hpools : getNextPoolAmountsUsd w'.dataStore params =
      getNextPoolAmountsUsd w.dataStore params := by
    unfold getNextPoolAmountsUsd MarketUtils.getPoolAmount
    rw [hpool _ rfl, hpool _ rfl]
  have himpact : ∀ poolParams, _getPriceImpactUsd env w'.dataStore params.market poolParams =
      _getPriceImpactUsd env w.dataStore params.market poolParams := by
    intro poolParams
    unfold _getPriceImpactUsd MarketUtils.getAdjustedSwapImpactFactor
      MarketUtils.getAdjustedSwapImpactFactors
    rw [hexponent _ rfl, hfactor _ rfl, hfactor _ rfl]
  have hvirtual : ∀ token, MarketUtils.getVirtualInventoryForSwaps w'.dataStore
      params.market.marketToken token =
        MarketUtils.getVirtualInventoryForSwaps w.dataStore params.market.marketToken token := by
    intro token
    unfold MarketUtils.getVirtualInventoryForSwaps
    rw [hmarketId _ rfl]
    dsimp only
    rw [hinventory _ rfl]
  unfold getPriceImpactUsd
  rw [hpools, hvirtual, hvirtual]
  simp only [himpact]

end SwapPricingUtils

-- ---------------------------------------------------------------------------
-- The impact branch
-- ---------------------------------------------------------------------------

/-- The swap impact pool pays the impact amount. -/
theorem MarketUtils.applySwapImpactWithCap_eq_ok {market token : Address} {tokenPrice : Price}
    {priceImpactUsd impactAmount : Int}
    (h : applySwapImpactWithCap market token tokenPrice priceImpactUsd w =
      .ok (impactAmount, w')) :
    getSwapImpactAmountWithCap w.dataStore market token tokenPrice priceImpactUsd =
        .ok impactAmount ∧
      ∀ token', (getSwapImpactPoolAmount w'.dataStore market token' : Int) =
        getSwapImpactPoolAmount w.dataStore market token' -
          if token' = token then impactAmount else 0 := by
  simp only [applySwapImpactWithCap, ↓viewStore_bind_eq_ok, ↓Tx.lift_bind_eq_ok,
    negInt_eq_ok] at h
  obtain ⟨_, himpact, _, ⟨-, rfl⟩, h⟩ := h
  obtain ⟨_, _, hpool, h⟩ := Tx.bind_eq_ok.mp h
  obtain ⟨rfl, rfl⟩ := Tx.pure_eq_ok.mp h
  refine ⟨himpact, ?_⟩
  intro token'
  have hle := getSwapImpactAmountWithCap_le himpact
  simp only [applyDeltaToSwapImpactPool, DataStore.applyBoundedDeltaToUint,
    ↓readStore_bind_eq_ok, ↓Tx.lift_bind_eq_ok, ↓writeStore_bind_eq_ok, Tx.pure_eq_ok] at hpool
  obtain ⟨isNegative, hnegative, next, hsum, -, rfl⟩ := hpool
  obtain rfl := negationExceeds_eq_ok hnegative
  unfold getSwapImpactPoolAmount at hle ⊢
  rw [if_neg (by rw [decide_eq_true_iff]; omega)] at hsum
  have hnext := sumReturnUint256_eq hsum
  rw [getUint_setUint]
  have hkey : Keys.swapImpactPoolAmountKey market token' =
      Keys.swapImpactPoolAmountKey market token ↔ token' = token := by
    simp [Keys.swapImpactPoolAmountKey]
  by_cases heq : token' = token
  · rw [if_pos (hkey.mpr heq), if_pos heq, hnext, heq]
    omega
  · rw [if_neg (fun hk => heq (hkey.mp hk)), if_neg heq, sub_zero]

/-- The impact branch of a hop computes what the reader's does, on the state it finds. -/
theorem SwapUtils.applyPriceImpact_eq_ok {market tokenIn tokenOut : Address}
    {tokenInPrice tokenOutPrice : Price} {fees : SwapPricingUtils.SwapFees} {priceImpactUsd : Int}
    {cache : SwapCache}
    (h : applyPriceImpact market tokenIn tokenOut tokenInPrice tokenOutPrice fees.amountAfterFees
      priceImpactUsd w = .ok (cache, w')) :
    ∃ impactAmount : Int,
      (if priceImpactUsd > 0 then do
          let amountOut ← div (← mul fees.amountAfterFees tokenInPrice.min) tokenOutPrice.max
          let impactAmount ← MarketUtils.getSwapImpactAmountWithCap w.dataStore market tokenOut
            tokenOutPrice priceImpactUsd
          pure (← add amountOut (← toUint256 impactAmount), impactAmount, fees)
        else do
          let impactAmount ← MarketUtils.getSwapImpactAmountWithCap w.dataStore market tokenIn
            tokenInPrice priceImpactUsd
          let amountIn ← sub fees.amountAfterFees (← toUint256 (← negInt impactAmount))
          pure (← div (← mul amountIn tokenInPrice.min) tokenOutPrice.max, impactAmount, fees) :
        Result (Nat × Int × SwapPricingUtils.SwapFees)) =
          .ok (cache.amountOut, impactAmount, fees) ∧
      (∀ token, (MarketUtils.getSwapImpactPoolAmount w'.dataStore market token : Int) =
        MarketUtils.getSwapImpactPoolAmount w.dataStore market token -
          if token = (if impactAmount > 0 then tokenOut else tokenIn) then impactAmount else 0) ∧
      (cache.amountIn : Int) = fees.amountAfterFees + min impactAmount 0 ∧
      (cache.poolAmountOut : Int) = cache.amountOut - max impactAmount 0 := by
  unfold applyPriceImpact at h
  by_cases hpos : priceImpactUsd > 0
  · rw [if_pos hpos] at h
    simp only [↓Tx.lift_bind_eq_ok, mul_eq_ok] at h
    obtain ⟨_, hproduct, poolAmountOut, hpool, h⟩ := h
    obtain ⟨impactAmount, w₁, himpact, h⟩ := Tx.bind_eq_ok.mp h
    simp only [↓Tx.lift_bind_eq_ok, Tx.pure_eq_ok] at h
    obtain ⟨amount, hamount, amountOut, hout, rfl, rfl⟩ := h
    obtain ⟨hread, hpools⟩ := MarketUtils.applySwapImpactWithCap_eq_ok himpact
    have hpaid : poolAmountOut + amount = amountOut := (add_eq_ok.mp hout).2.symm
    have hnonneg : (amount : Int) = impactAmount := toUint256_eq_ok.mp hamount
    refine ⟨impactAmount, ?_, ?_, ?_, ?_⟩
    · rw [if_pos hpos]
      simp only [Result.bind_eq_ok, mul_eq_ok, Result.pure_eq_ok]
      exact ⟨_, hproduct, poolAmountOut, hpool, impactAmount, hread, amount, hamount, amountOut,
        hout, rfl⟩
    · intro token
      rw [hpools token]
      rw [toUint256_eq_ok] at hamount
      by_cases hzero : impactAmount > 0
      · rw [if_pos hzero]
      · have himpactZero : impactAmount = 0 := by omega
        simp [himpactZero]
    · dsimp only
      omega
    · dsimp only
      omega
  · rw [if_neg hpos] at h
    obtain ⟨impactAmount, w₁, himpact, h⟩ := Tx.bind_eq_ok.mp h
    simp only [↓Tx.lift_bind_eq_ok, mul_eq_ok, Tx.pure_eq_ok] at h
    obtain ⟨negated, hnegated, amount, hamount, _, -, amountIn, hsub, _, hproduct, amountOut, hout,
      rfl, rfl⟩ := h
    obtain ⟨hread, hpools⟩ := MarketUtils.applySwapImpactWithCap_eq_ok himpact
    obtain ⟨hcovered, hamountIn⟩ := sub_eq_ok.mp hsub
    obtain ⟨-, hnegated'⟩ := negInt_eq_ok.mp hnegated
    have hnonneg : (amount : Int) = negated := toUint256_eq_ok.mp hamount
    refine ⟨impactAmount, ?_, ?_, ?_, ?_⟩
    · rw [if_neg hpos]
      simp only [Result.bind_eq_ok, mul_eq_ok, Result.pure_eq_ok]
      exact ⟨impactAmount, hread, negated, hnegated, amount, hamount, amountIn, hsub, _, hproduct,
        amountOut, hout, rfl⟩
    · intro token
      rw [hpools token]
      rw [negInt_eq_ok] at hnegated
      rw [toUint256_eq_ok] at hamount
      rw [if_neg (show ¬ impactAmount > 0 by omega)]
    · dsimp only
      omega
    · dsimp only
      omega

-- ---------------------------------------------------------------------------
-- A hop
-- ---------------------------------------------------------------------------

theorem FeeUtils.incrementClaimableFeeAmount_eq_ok {market token : Address} {delta : Nat} {u : Unit}
    (h : incrementClaimableFeeAmount market token delta w = .ok (u, w')) :
    w'.dataStore.getUint (Keys.claimableFeeAmountKey market token) =
      w.dataStore.getUint (Keys.claimableFeeAmountKey market token) + delta := by
  unfold incrementClaimableFeeAmount at h
  split at h
  · rename_i hzero
    obtain ⟨-, rfl⟩ := Tx.pure_eq_ok.mp h
    rw [hzero, Nat.add_zero]
  · obtain ⟨_, _, hincrement, h⟩ := Tx.bind_eq_ok.mp h
    obtain ⟨-, rfl⟩ := Tx.pure_eq_ok.mp h
    rw [DataStore.incrementUint_eq_ok hincrement, MarketUtils.getUint_setUint, if_pos rfl]

theorem FeeUtils.incrementClaimableUiFeeAmount_eq_ok {uiFeeReceiver market token : Address}
    {delta : Nat} {u : Unit}
    (h : incrementClaimableUiFeeAmount uiFeeReceiver market token delta w = .ok (u, w')) :
    w'.dataStore.getUint (Keys.claimableUiFeeAmountForAccountKey market token uiFeeReceiver) =
      w.dataStore.getUint (Keys.claimableUiFeeAmountForAccountKey market token uiFeeReceiver) +
        delta := by
  unfold incrementClaimableUiFeeAmount at h
  split at h
  · rename_i hzero
    obtain ⟨-, rfl⟩ := Tx.pure_eq_ok.mp h
    rw [hzero, Nat.add_zero]
  · obtain ⟨_, _, haccount, h⟩ := Tx.bind_eq_ok.mp h
    obtain ⟨_, _, htotal, h⟩ := Tx.bind_eq_ok.mp h
    obtain ⟨-, rfl⟩ := Tx.pure_eq_ok.mp h
    have hkey : Keys.claimableUiFeeAmountForAccountKey market token uiFeeReceiver ≠
        Keys.claimableUiFeeAmountKey market token := by
      simp [Keys.claimableUiFeeAmountForAccountKey, Keys.claimableUiFeeAmountKey]
    rw [DataStore.incrementUint_eq_ok htotal, MarketUtils.getUint_setUint, if_neg hkey,
      DataStore.incrementUint_eq_ok haccount, MarketUtils.getUint_setUint, if_pos rfl]

/-- The prices handed in are those of the oracle. -/
theorem MarketUtils.getCachedTokenPrice_of_primary {market : Market} {prices : MarketPrices}
    (hlong : Oracle.getPrimaryPrice env market.longToken = .ok prices.longTokenPrice)
    (hshort : Oracle.getPrimaryPrice env market.shortToken = .ok prices.shortTokenPrice)
    {token : Address} (htoken : token = market.longToken ∨ token = market.shortToken)
    {price : Price} (hprice : Oracle.getPrimaryPrice env token = .ok price) :
    getCachedTokenPrice token market prices = .ok price := by
  unfold getCachedTokenPrice
  by_cases heq : token = market.longToken
  · rw [if_pos heq]
    rw [heq] at hprice
    exact hlong.symm.trans hprice
  · obtain rfl := htoken.resolve_left heq
    rw [if_neg heq, if_pos rfl]
    exact hshort.symm.trans hprice

/-- A market in which a hop can be made has two different tokens. -/
theorem SwapUtils.HopRun.tokens_ne {params : SwapParams} {_params : _SwapParams}
    {tokenOut : Address} {amountOut : Nat}
    (run : HopRun env params _params tokenOut amountOut w w') : _params.tokenIn ≠ tokenOut := by
  have hmarket : _params.market.longToken ≠ _params.market.shortToken :=
    Result.revertIf_eq_ok.mp run.swapMarket
  rcases MarketUtils.getOppositeToken_eq_ok run.opposite with ⟨hin, hout⟩ | ⟨hin, hout⟩
  · rw [hin, ← hout]
    exact hmarket
  · rw [hin, ← hout]
    exact hmarket.symm

namespace ReaderUtils

/-- **The reader reports what a hop does.** Whenever a hop succeeds, the report on the state before
it, at the prices of its two tokens, succeeds with the amount that the hop pays out, the fees that
it charges, and the impact amount that it takes out of the swap impact pools. The fees are booked
for the fee receiver and the ui fee receiver; the rest of them, with what they leave of the input
less a negative impact, is credited to the pool, which pays the output less a positive impact. -/
theorem getSwapAmountOut_eq_swap {params : SwapUtils.SwapParams} {_params : SwapUtils._SwapParams}
    {prices : MarketPrices} {tokenOut : Address} {amountOut : Nat}
    (hlong : Oracle.getPrimaryPrice env _params.market.longToken = .ok prices.longTokenPrice)
    (hshort : Oracle.getPrimaryPrice env _params.market.shortToken = .ok prices.shortTokenPrice)
    (h : SwapUtils._swap env params _params w = .ok ((tokenOut, amountOut), w')) :
    ∃ impactAmount fees,
      getSwapAmountOut env w.dataStore _params.market prices _params.tokenIn _params.amountIn
        params.uiFeeReceiver = .ok (amountOut, impactAmount, fees) ∧
      (∀ token, (MarketUtils.getSwapImpactPoolAmount w'.dataStore _params.market.marketToken token :
          Int) = MarketUtils.getSwapImpactPoolAmount w.dataStore _params.market.marketToken token -
        if token = (if impactAmount > 0 then tokenOut else _params.tokenIn) then impactAmount
        else 0) ∧
      w'.dataStore.getUint
          (Keys.claimableFeeAmountKey _params.market.marketToken _params.tokenIn) =
        w.dataStore.getUint
          (Keys.claimableFeeAmountKey _params.market.marketToken _params.tokenIn) +
          fees.feeReceiverAmount ∧
      w'.dataStore.getUint (Keys.claimableUiFeeAmountForAccountKey _params.market.marketToken
          _params.tokenIn params.uiFeeReceiver) =
        w.dataStore.getUint (Keys.claimableUiFeeAmountForAccountKey _params.market.marketToken
          _params.tokenIn params.uiFeeReceiver) + fees.uiFeeAmount ∧
      SwapPricingUtils.getSwapFees w.dataStore _params.market.marketToken _params.amountIn
        params.uiFeeReceiver = .ok fees ∧
      ∀ token, (w'.dataStore.getUint (Keys.poolAmountKey _params.market.marketToken token) : Int) =
        w.dataStore.getUint (Keys.poolAmountKey _params.market.marketToken token) +
          (if token = _params.tokenIn then
            fees.amountAfterFees + min impactAmount 0 + fees.feeAmountForPool else 0) -
          (if token = tokenOut then amountOut - max impactAmount 0 else 0) := by
  obtain ⟨run⟩ := SwapUtils._swap_run h
  -- what is written before the impact branch is not read by it, nor is what is written after
  -- it among the entries that are compared
  let laterSlots : List Slot :=
    [.constant .POOL_AMOUNT, .constant .VIRTUAL_INVENTORY_FOR_SWAPS, .tokens]
  have hfee : World.SameOff [.constant .CLAIMABLE_FEE_AMOUNT] w run.booked :=
    FeeUtils.incrementClaimableFeeAmount_writes (by decide) _ _ _ run.booking
  have hui : World.SameOff [.constant .CLAIMABLE_UI_FEE_AMOUNT] run.booked run.uiBooked :=
    FeeUtils.incrementClaimableUiFeeAmount_writes (by decide) _ _ _ _ run.uiBooking
  have hfees : World.SameOff
      [.constant .CLAIMABLE_FEE_AMOUNT, .constant .CLAIMABLE_UI_FEE_AMOUNT] w run.uiBooked :=
    run.sameOff_uiBooked (by decide) (by decide)
  have hbranch : World.SameOff [.constant .SWAP_IMPACT_POOL_AMOUNT] run.uiBooked run.impacted :=
    SwapUtils.applyPriceImpact_writes (by decide) _ _ _ _ _ _ _ run.impacting
  have hlater : World.SameOff laterSlots run.impacted w' :=
    run.sameOff_paid (by decide) (by decide) (by decide)
  have hpool : ∀ token, MarketUtils.getSwapImpactPoolAmount run.uiBooked.dataStore
      _params.market.marketToken token =
        MarketUtils.getSwapImpactPoolAmount w.dataStore _params.market.marketToken token :=
    fun token => hfees.uint (.constant .SWAP_IMPACT_POOL_AMOUNT) (by decide) _ rfl
  obtain ⟨impactAmount, hreport, hpools, hamountIn, hpoolAmountOut⟩ :=
    SwapUtils.applyPriceImpact_eq_ok run.impacting
  refine ⟨impactAmount, run.fees, ?_, ?_, ?_, ?_, run.swapFees, ?_⟩
  · have hinSide : _params.tokenIn = _params.market.longToken ∨
        _params.tokenIn = _params.market.shortToken := by
      rcases MarketUtils.getOppositeToken_eq_ok run.opposite with ⟨heq, -⟩ | ⟨heq, -⟩
      · exact Or.inl heq
      · exact Or.inr heq
    have houtSide : tokenOut = _params.market.longToken ∨
        tokenOut = _params.market.shortToken := by
      rcases MarketUtils.getOppositeToken_eq_ok run.opposite with ⟨-, heq⟩ | ⟨-, heq⟩
      · exact Or.inr heq.symm
      · exact Or.inl heq.symm
    have hcachedIn := MarketUtils.getCachedTokenPrice_of_primary hlong hshort hinSide run.primaryIn
    have hcachedOut :=
      MarketUtils.getCachedTokenPrice_of_primary hlong hshort houtSide run.primaryOut
    have hprice := run.pricing
    rw [SwapPricingUtils.getPriceImpactUsd_congr hfees (by decide)] at hprice
    simp only [MarketUtils.getSwapImpactAmountWithCap, hpool] at hreport
    obtain ⟨product, hproduct, husdDelta⟩ := Result.bind_eq_ok.mp run.valuing
    rw [← run.amountOut_eq] at hreport
    simp only [getSwapAmountOut, Result.bind_eq_ok]
    exact ⟨(), Result.revertIf_eq_ok.mpr run.tokenIn, (), run.swapMarket, tokenOut, run.opposite,
      run.tokenInPrice, hcachedIn, run.tokenOutPrice, hcachedOut, run.fees, run.swapFees,
      run.midPriceIn, run.midIn, product, hproduct, run.usdDelta, husdDelta, run.midPriceIn,
      run.midIn, run.midPriceOut, run.midOut, run.usdDeltaOut, run.negating, run.priceImpactUsd,
      hprice, hreport⟩
  · intro token
    have hafter : MarketUtils.getSwapImpactPoolAmount w'.dataStore _params.market.marketToken
        token = MarketUtils.getSwapImpactPoolAmount run.impacted.dataStore
          _params.market.marketToken token :=
      hlater.uint (.constant .SWAP_IMPACT_POOL_AMOUNT) (by decide) _ rfl
    rw [hafter, hpools token, hpool token]
  · have hslot : Slot.constant .CLAIMABLE_FEE_AMOUNT ∉ laterSlots := by decide
    rw [hlater.uint _ hslot _ rfl, hbranch.uint (.constant .CLAIMABLE_FEE_AMOUNT) (by decide) _ rfl,
      hui.uint (.constant .CLAIMABLE_FEE_AMOUNT) (by decide) _ rfl]
    exact FeeUtils.incrementClaimableFeeAmount_eq_ok run.booking
  · have hslot : Slot.constant .CLAIMABLE_UI_FEE_AMOUNT ∉ laterSlots := by decide
    rw [hlater.uint _ hslot _ rfl,
      hbranch.uint (.constant .CLAIMABLE_UI_FEE_AMOUNT) (by decide) _ rfl,
      FeeUtils.incrementClaimableUiFeeAmount_eq_ok run.uiBooking,
      hfee.uint (.constant .CLAIMABLE_UI_FEE_AMOUNT) (by decide) _ rfl]
  · intro token
    have htokens : _params.tokenIn ≠ tokenOut := run.tokens_ne
    have htransfer : World.SameOff [.tokens] run.impacted run.transferred :=
      Writes.ite (Bank.transferOutUnwrapping_writes env (by decide) _ _ _ _ _) (.pure _)
        run.transferring
    have hbefore : run.transferred.dataStore.getUint
        (Keys.poolAmountKey _params.market.marketToken token) =
          w.dataStore.getUint (Keys.poolAmountKey _params.market.marketToken token) := by
      rw [htransfer.uint (.constant .POOL_AMOUNT) (by decide) _ rfl,
        hbranch.uint (.constant .POOL_AMOUNT) (by decide) _ rfl,
        hfees.uint (.constant .POOL_AMOUNT) (by decide) _ rfl]
    obtain ⟨hreceived, hreceivedOthers⟩ := MarketUtils.applyDeltaToPoolAmount_eq_ok run.receiving
    obtain ⟨hpaid, hpaidOthers⟩ := MarketUtils.applyDeltaToPoolAmount_eq_ok run.paying
    have hamountOut := run.amountOut_eq
    by_cases hin : token = _params.tokenIn
    · subst hin
      rw [if_pos rfl, if_neg htokens, hpaidOthers _ htokens, hreceived, hbefore]
      push_cast
      omega
    · rw [if_neg hin]
      by_cases hout : token = tokenOut
      · subst hout
        rw [if_pos rfl, hpaid, hreceivedOthers _ hin, hbefore]
        omega
      · rw [if_neg hout, hpaidOthers _ hout, hreceivedOthers _ hin, hbefore]
        omega

/-- A balanced market with a swap fee, in which an imbalance costs a hundredth of it. -/
def balancedWorld : World where
  dataStore :=
    ((((DataStore.empty.setUint (Keys.poolAmountKey 1 3) (10 ^ 21)).setUint
      (Keys.poolAmountKey 1 4) (10 ^ 21)).setUint (Keys.maxPoolAmountKey 1 3) (10 ^ 22)).setUint
      (Keys.swapFeeFactorKey 1) (10 ^ 27)).setUint (Keys.swapImpactFactorKey 1 false) (10 ^ 28)
      |>.setUint (Keys.swapImpactExponentFactorKey 1) (10 ^ 30)
  balances token holder := if holder = 1 ∧ (token = 3 ∨ token = 4) then 10 ^ 21 else 0
  totalSupply _ := 1000
  tokenBalances _ _ := 0

theorem getSwapAmountOut_eq_swap_balancedWorld :
    let env := Env.plain 1 fun _ => ⟨10 ^ 12, 10 ^ 12⟩
    let prices : MarketPrices := ⟨⟨10 ^ 12, 10 ^ 12⟩, ⟨10 ^ 12, 10 ^ 12⟩, ⟨10 ^ 12, 10 ^ 12⟩⟩
    ∃ impactAmount fees, getSwapAmountOut env balancedWorld.dataStore ⟨1, 2, 3, 4⟩ prices 3
      (10 ^ 20) 0 = .ok (98901 * 10 ^ 15, impactAmount, fees) := by
  intro env prices
  let params : SwapUtils.SwapParams :=
    { bank := ⟨1, false⟩, tokenIn := 3, amountIn := 10 ^ 20, swapPathMarkets := [⟨1, 2, 3, 4⟩]
      minOutputAmount := 0, receiver := 1, uiFeeReceiver := 0, shouldUnwrapNativeToken := false }
  have hswap : Evm.Result.Satisfies
      (SwapUtils._swap env params ⟨⟨1, 2, 3, 4⟩, 3, 10 ^ 20, 1, false⟩ balancedWorld)
      (fun result => result.1 = (4, 98901 * 10 ^ 15)) := by
    decide +kernel
  obtain ⟨⟨output, w'⟩, hrun, houtput⟩ := hswap.exists
  obtain rfl : output = (4, 98901 * 10 ^ 15) := houtput
  have hlong : Oracle.getPrimaryPrice env 3 = .ok prices.longTokenPrice := by decide +kernel
  have hshort : Oracle.getPrimaryPrice env 4 = .ok prices.shortTokenPrice := by decide +kernel
  obtain ⟨impactAmount, fees, hreport, -⟩ := getSwapAmountOut_eq_swap hlong hshort hrun
  exact ⟨impactAmount, fees, hreport⟩

end ReaderUtils

end GmxSynthetics
