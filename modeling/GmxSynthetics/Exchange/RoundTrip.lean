import GmxSynthetics.Bank.MarketTokenSupply
import GmxSynthetics.Bank.Receipts
import GmxSynthetics.Evm.Shares
import GmxSynthetics.Exchange.RequestLifecycle
import GmxSynthetics.Market.PoolValueGrowth
import GmxSynthetics.Position.VirtualInventory
import GmxSynthetics.Reader.PositionInfo
import GmxSynthetics.Reader.SwapAmountOut
import GmxSynthetics.Swap.SwapOutput

/-!
# Deposits and withdrawals as a round trip

A deposit of one token is executed, and the market tokens that it minted are withdrawn at the same
prices with nothing in between. Both sides are shares of the pool: the deposit is given them at the
maximised value before it, the withdrawal is paid the minimised value after it.

* `ExecuteDepositUtils._executeDeposit_eq_ok` — what a deposit adds to the pool, and that its market
  tokens are fairly priced;
* `WithdrawalUtils._getOutputAmounts_le` — what a withdrawal is paid out of the value of the pool;
* `roundTrip_noProfit` — the trip pays no more than was deposited, and the price impact on top.
-/

namespace GmxSynthetics

open Evm MarketUtils

variable {env env' : Env} {w w' : World}

-- ---------------------------------------------------------------------------
-- Conversions
-- ---------------------------------------------------------------------------

/-- Market tokens are fairly priced, unless there are none. -/
theorem MarketUtils.usdToMarketTokenAmount_fair {usdValue poolValue supply amount : Nat}
    (hsupply : supply ≠ 0) (h : usdToMarketTokenAmount usdValue poolValue supply = .ok amount) :
    Shares.Fair poolValue supply usdValue amount := by
  unfold usdToMarketTokenAmount at h
  split at h
  · rename_i hempty
    rcases hempty with hnone | rfl
    · exact absurd hnone hsupply
    · exact Shares.Fair.of_worthless _ _ _
  · simp only [Result.bind_eq_ok, mul_eq_ok, div_eq_ok] at h
    obtain ⟨_, ⟨-, rfl⟩, -, rfl⟩ := h
    exact Shares.Fair.floor _ _ _

theorem MarketUtils.marketTokenAmountToUsd_eq {marketTokenAmount poolValue supply usd : Nat}
    (h : marketTokenAmountToUsd marketTokenAmount poolValue supply = .ok usd) :
    usd = marketTokenAmount * poolValue / supply := by
  unfold marketTokenAmountToUsd at h
  split at h
  · rename_i hempty
    obtain rfl := Result.pure_eq_ok.mp h
    rcases hempty with rfl | rfl
    · exact (Nat.div_zero _).symm
    · rw [Nat.mul_zero, Nat.zero_div]
  · simp only [Result.bind_eq_ok, mul_eq_ok, div_eq_ok] at h
    obtain ⟨_, ⟨-, rfl⟩, -, rfl⟩ := h
    rfl

-- ---------------------------------------------------------------------------
-- The deposit
-- ---------------------------------------------------------------------------

/-- The pool token that backs one side of a market. -/
def sideToken (market : Market) (isLong : Bool) : Address :=
  if isLong then market.longToken else market.shortToken

theorem sideToken_ne {market : Market} (htokens : market.longToken ≠ market.shortToken)
    (isLong : Bool) : sideToken market isLong ≠ sideToken market (!isLong) := by
  cases isLong with
  | true => exact htokens
  | false => exact htokens.symm

/-- With two different tokens, the pool of a side is all of its token. -/
theorem sidePoolAmount_eq {market : Market} (htokens : market.longToken ≠ market.shortToken)
    (dataStore : DataStore) (isLong : Bool) :
    sidePoolAmount dataStore market isLong =
      dataStore.getUint (Keys.poolAmountKey market.marketToken (sideToken market isLong)) := by
  unfold sidePoolAmount getPoolAmount getPoolDivisor
  rw [if_neg htokens, Nat.div_one]
  rfl

namespace ExecuteDepositUtils

/-- What a deposit of one token leaves in the pools: the tokens it brings, and the price impact in
the other token, which comes out of the swap impact pool. -/
structure Deposited (market tokenIn tokenOut : Address) (amountIn impactAmount : Nat)
    (w w' : World) : Prop where
  poolIn : w'.dataStore.getUint (Keys.poolAmountKey market tokenIn) =
    w.dataStore.getUint (Keys.poolAmountKey market tokenIn) + amountIn
  poolOut : w'.dataStore.getUint (Keys.poolAmountKey market tokenOut) =
    w.dataStore.getUint (Keys.poolAmountKey market tokenOut) + impactAmount
  impactPool : getSwapImpactPoolAmount w'.dataStore market tokenOut + impactAmount =
    getSwapImpactPoolAmount w.dataStore market tokenOut

/-- What happens around a deposit leaves the pools. -/
theorem Deposited.congr {market tokenIn tokenOut : Address} {amountIn impactAmount : Nat}
    {slots slots' : List Slot} {w₁ w₂ : World}
    (h : Deposited market tokenIn tokenOut amountIn impactAmount w₁ w₂)
    (hbefore : World.SameOff slots w w₁) (hafter : World.SameOff slots' w₂ w')
    (hslots : Slot.constant .POOL_AMOUNT ∉ slots ∧
      Slot.constant .SWAP_IMPACT_POOL_AMOUNT ∉ slots)
    (hslots' : Slot.constant .POOL_AMOUNT ∉ slots' ∧
      Slot.constant .SWAP_IMPACT_POOL_AMOUNT ∉ slots') :
    Deposited market tokenIn tokenOut amountIn impactAmount w w' := by
  have hpools := hbefore.uint _ hslots.1
  have hpools' := hafter.uint _ hslots'.1
  refine ⟨?_, ?_, ?_⟩
  · rw [hpools' _ rfl, h.poolIn, hpools _ rfl]
  · rw [hpools' _ rfl, h.poolOut, hpools _ rfl]
  · have himpact := h.impactPool
    unfold getSwapImpactPoolAmount at himpact ⊢
    rw [hafter.uint _ hslots'.2 _ rfl, himpact, hbefore.uint _ hslots.2 _ rfl]

/-- The price impact is taken from the deposit or fairly minted for. -/
theorem applyPriceImpact_eq_ok {_params : _ExecuteDepositParams}
    {amountAfterFees poolValue marketTokensSupply netAmount mintAmount : Nat}
    (htokens : _params.tokenIn ≠ _params.tokenOut) (hsupply : marketTokensSupply ≠ 0)
    (h : applyPriceImpact _params amountAfterFees poolValue marketTokensSupply w =
      .ok ((netAmount, mintAmount), w')) :
    netAmount ≤ amountAfterFees ∧ ∃ impactAmount,
      Deposited _params.market.marketToken _params.tokenIn _params.tokenOut 0 impactAmount w w' ∧
      Shares.Fair poolValue marketTokensSupply (impactAmount * _params.tokenOutPrice.max)
        mintAmount := by
  unfold applyPriceImpact at h
  split at h
  · obtain ⟨impact, w₁, himpact, h⟩ := Tx.bind_eq_ok.mp h
    simp only [↓Tx.lift_bind_eq_ok, toUint256_eq_ok, mul_eq_ok] at h
    obtain ⟨impactAmount, hamount, _, ⟨-, rfl⟩, mint, hmint, h⟩ := h
    obtain ⟨_, w₂, hpool, h⟩ := Tx.bind_eq_ok.mp h
    simp only [↓viewStore_bind_eq_ok, Tx.pure_eq_ok, Prod.mk.injEq] at h
    obtain ⟨_, -, ⟨rfl, rfl⟩, rfl⟩ := h
    have hpaid := (applySwapImpactWithCap_eq_ok himpact).2 _params.tokenOut
    rw [if_pos rfl] at hpaid
    obtain ⟨hgrown, hothers⟩ := applyDeltaToPoolAmount_eq_ok hpool
    have hsame₁ : World.SameOff [.constant .SWAP_IMPACT_POOL_AMOUNT] w w₁ :=
      applySwapImpactWithCap_writes (List.mem_singleton_self _) _ _ _ _ himpact
    have hsame₂ : World.SameOff
        [.constant .POOL_AMOUNT, .constant .VIRTUAL_INVENTORY_FOR_SWAPS] w₁ w₂ :=
      applyDeltaToPoolAmount_writes (by decide) (by decide) _ _ _ hpool
    have hpools := hsame₁.uint (.constant .POOL_AMOUNT) (by decide)
    have himpactPools := hsame₂.uint (.constant .SWAP_IMPACT_POOL_AMOUNT) (by decide)
    refine ⟨Nat.le_refl _, impactAmount, ⟨?_, ?_, ?_⟩, usdToMarketTokenAmount_fair hsupply hmint⟩
    · rw [hothers _ htokens, hpools _ rfl]
      rfl
    · rw [hpools _ rfl] at hgrown
      omega
    · unfold getSwapImpactPoolAmount at hpaid ⊢
      rw [himpactPools _ rfl]
      omega
  · obtain ⟨impact, w₁, himpact, h⟩ := Tx.bind_eq_ok.mp h
    simp only [↓Tx.lift_bind_eq_ok, sub_eq_ok, Tx.pure_eq_ok, Prod.mk.injEq] at h
    obtain ⟨_, -, _, -, _, ⟨-, rfl⟩, ⟨rfl, rfl⟩, rfl⟩ := h
    have hpaid := (applySwapImpactWithCap_eq_ok himpact).2 _params.tokenOut
    rw [if_neg htokens.symm, sub_zero, Int.natCast_inj] at hpaid
    have hsame : World.SameOff [.constant .SWAP_IMPACT_POOL_AMOUNT] w w₁ :=
      applySwapImpactWithCap_writes (List.mem_singleton_self _) _ _ _ _ himpact
    have hpools := hsame.uint (.constant .POOL_AMOUNT) (by decide)
    refine ⟨Nat.sub_le _ _, 0, ⟨hpools _ rfl, hpools _ rfl, hpaid⟩, ?_⟩
    show 0 * poolValue ≤ _
    rw [Nat.zero_mul]
    exact Nat.zero_le _

/-- The price impact moves between pools. -/
theorem applyPriceImpact_sameOff {_params : _ExecuteDepositParams}
    {amountAfterFees poolValue marketTokensSupply : Nat} {amounts : Nat × Nat}
    (h : applyPriceImpact _params amountAfterFees poolValue marketTokensSupply w =
      .ok (amounts, w')) :
    World.SameOff [.constant .SWAP_IMPACT_POOL_AMOUNT, .constant .POOL_AMOUNT,
      .constant .VIRTUAL_INVENTORY_FOR_SWAPS] w w' := by
  unfold applyPriceImpact at h
  refine Writes.ite ?_ ?_ h
  · exact (applySwapImpactWithCap_writes (by decide) _ _ _ _).bind fun _ =>
      (Writes.lift _).bind fun _ => (Writes.lift _).bind fun _ => (Writes.lift _).bind fun _ =>
      (applyDeltaToPoolAmount_writes (by decide) (by decide) _ _ _).bind fun _ =>
      (Writes.viewStore _).bind fun _ => .pure _
  · exact (applySwapImpactWithCap_writes (by decide) _ _ _ _).bind fun _ =>
      (Writes.lift _).bind fun _ => (Writes.lift _).bind fun _ => (Writes.lift _).bind fun _ =>
      .pure _

/-- A deposit of one token is priced at the maximised pool value before it. -/
theorem _executeDeposit_eq_ok {_params : _ExecuteDepositParams} {mintAmount : Nat}
    (htokens : _params.tokenIn ≠ _params.tokenOut)
    (hsupply : w.totalSupply _params.market.marketToken ≠ 0)
    (h : _executeDeposit env _params w = .ok (mintAmount, w')) :
    ∃ (indexTokenPrice : Price) (info : MarketPoolValueInfo) (w₁ : World)
      (amountIn impactAmount usdValue : Nat),
      World.SameOff [.constant .CLAIMABLE_FEE_AMOUNT, .constant .CLAIMABLE_UI_FEE_AMOUNT] w w₁ ∧
      Oracle.getPrimaryPrice env _params.market.indexToken = .ok indexTokenPrice ∧
      getPoolValueInfo env w₁.dataStore _params.market indexTokenPrice
        (if _params.tokenIn = _params.market.longToken then _params.tokenInPrice
          else _params.tokenOutPrice)
        (if _params.tokenIn = _params.market.shortToken then _params.tokenInPrice
          else _params.tokenOutPrice)
        .MAX_PNL_FACTOR_FOR_DEPOSITS true = .ok info ∧
      amountIn ≤ _params.amount ∧
      usdValue ≤ amountIn * _params.tokenInPrice.min + impactAmount * _params.tokenOutPrice.max ∧
      (∃ poolValue : Nat, (poolValue : Int) = info.poolValue ∧
        Shares.Fair poolValue (w.totalSupply _params.market.marketToken) usdValue mintAmount) ∧
      Deposited _params.market.marketToken _params.tokenIn _params.tokenOut amountIn impactAmount
        w w' ∧
      w'.totalSupply _params.market.marketToken =
        w.totalSupply _params.market.marketToken + mintAmount := by
  obtain ⟨run⟩ := _executeDeposit_run h
  -- the fees are booked before the pool value is read
  have hsame₁ : World.SameOff
      [.constant .CLAIMABLE_FEE_AMOUNT, .constant .CLAIMABLE_UI_FEE_AMOUNT] w run.uiBooked :=
    (FeeUtils.incrementClaimableFeeAmount_writes (by decide) _ _ _ run.booking).trans
      (FeeUtils.incrementClaimableUiFeeAmount_writes (by decide) _ _ _ _ run.uiBooking)
  have hsupply₁ : run.uiBooked.totalSupply = w.totalSupply := (hsame₁.tokens (by decide)).2.1
  have himpact := run.impacting
  have hprice := run.pricing
  rw [hsupply₁] at himpact hprice
  obtain ⟨hnet, impactAmount, hdeposited, hfairImpact⟩ :=
    applyPriceImpact_eq_ok htokens hsupply himpact
  have hfair := hfairImpact.add (usdToMarketTokenAmount_fair hsupply hprice)
  rw [← run.mintAmount_eq] at hfair
  -- then only pools are written, and the mint
  have hsame₂ := applyPriceImpact_sameOff himpact
  have hsame₃ : World.SameOff
      [.constant .POOL_AMOUNT, .constant .VIRTUAL_INVENTORY_FOR_SWAPS] run.impacted run.pooled :=
    applyDeltaToPoolAmount_writes (by decide) (by decide) _ _ _ run.pooling
  have hsame₄ : World.SameOff [.tokens] run.pooled w' :=
    MarketToken.mint_writes (List.mem_singleton_self _) _ _ _ run.minting
  obtain ⟨hgrown, hothers⟩ := applyDeltaToPoolAmount_eq_ok run.pooling
  have hsplit := SwapPricingUtils.getSwapFees_split run.swapFees
  have hpools := hsame₃.uint (.constant .SWAP_IMPACT_POOL_AMOUNT) (by decide)
  have hdeposited' : Deposited _params.market.marketToken _params.tokenIn _params.tokenOut
      (run.amountAfterFees + run.fees.feeAmountForPool) impactAmount run.uiBooked run.pooled := by
    refine ⟨?_, ?_, ?_⟩
    · have hbefore := hdeposited.poolIn
      omega
    · rw [hothers _ htokens.symm]
      exact hdeposited.poolOut
    · have hbefore := hdeposited.impactPool
      unfold getSwapImpactPoolAmount at hbefore ⊢
      rw [hpools _ rfl]
      exact hbefore
  refine ⟨run.indexTokenPrice, run.poolValueInfo, run.uiBooked,
    run.amountAfterFees + run.fees.feeAmountForPool, impactAmount,
    impactAmount * _params.tokenOutPrice.max + run.amountAfterFees * _params.tokenInPrice.min,
    hsame₁, run.primaryPrice, run.valuing, by omega, ?_, ⟨run.poolValue, run.poolValue_eq, hfair⟩,
    hdeposited'.congr hsame₁ hsame₄ (by decide) (by decide), ?_⟩
  · rw [Nat.add_mul, Nat.add_comm]
    exact Nat.add_le_add_right (Nat.le_add_right _ _) _
  · rw [MarketToken.mint_eq_ok run.minting, (hsame₃.tokens (by decide)).2.1,
      (hsame₂.tokens (by decide)).2.1, hsupply₁]

/-- The parameters of a deposit of the token of one side only. -/
def sideParams (deposit : Deposit) (market : Market) (prices : MarketPrices) (isLong : Bool)
    (amount : Nat) (priceImpactUsd : Int) : _ExecuteDepositParams where
  market := market
  receiver := deposit.receiver
  uiFeeReceiver := deposit.uiFeeReceiver
  tokenIn := sideToken market isLong
  tokenOut := sideToken market (!isLong)
  tokenInPrice := sidePrice prices isLong
  tokenOutPrice := sidePrice prices (!isLong)
  amount := amount
  priceImpactUsd := priceImpactUsd

/-- With an amount of one token only, that token is deposited and the other is not. -/
theorem depositAmounts_single {deposit : Deposit} {market : Market} {prices : MarketPrices}
    {isLong : Bool} {amount mintAmount : Nat} (hamount : amount ≠ 0)
    (h : depositAmounts env deposit market prices (if isLong then amount else 0)
      (if isLong then 0 else amount) w = .ok (mintAmount, w')) :
    ∃ priceImpactUsd, _executeDeposit env
      (sideParams deposit market prices isLong amount priceImpactUsd) w = .ok (mintAmount, w') := by
  have hpos : amount > 0 := Nat.pos_of_ne_zero hamount
  have hzero : ¬ 0 > 0 := Nat.lt_irrefl 0
  unfold depositAmounts at h
  simp only [↓Tx.lift_bind_eq_ok, ↓viewStore_bind_eq_ok] at h
  obtain ⟨_, -, _, -, _, -, _, -, _, -, _, -, _, -, _, -, _, -, h⟩ := h
  obtain ⟨mintForLong, w₁, hlong, h⟩ := Tx.bind_eq_ok.mp h
  obtain ⟨mintForShort, w₂, hshort, h⟩ := Tx.bind_eq_ok.mp h
  simp only [Tx.lift_eq_ok, add_eq_ok] at h
  obtain ⟨⟨-, rfl⟩, rfl⟩ := h
  cases isLong with
  | true =>
    rw [if_pos rfl, if_pos hpos] at hlong
    rw [if_pos rfl, if_neg hzero] at hshort
    obtain ⟨rfl, rfl⟩ := Tx.pure_eq_ok.mp hshort
    simp only [↓Tx.lift_bind_eq_ok] at hlong
    obtain ⟨_, -, _, -, _, -, _, -, priceImpactUsd, -, hlong⟩ := hlong
    exact ⟨priceImpactUsd, hlong⟩
  | false =>
    rw [if_neg Bool.false_ne_true, if_neg hzero] at hlong
    rw [if_neg Bool.false_ne_true, if_pos hpos] at hshort
    obtain ⟨rfl, rfl⟩ := Tx.pure_eq_ok.mp hlong
    simp only [↓Tx.lift_bind_eq_ok] at hshort
    obtain ⟨_, -, _, -, _, -, _, -, priceImpactUsd, -, hshort⟩ := hshort
    rw [Nat.zero_add]
    exact ⟨priceImpactUsd, hshort⟩

/-- Over an empty path the token is passed on. -/
theorem swap_empty {params : ExecuteDepositParams} {initialToken : Address} {inputAmount : Nat}
    {market expectedOutputToken uiFeeReceiver : Address} {outputAmount : Nat}
    (h : swap env params [] initialToken inputAmount market expectedOutputToken uiFeeReceiver w =
      .ok (outputAmount, w')) :
    outputAmount = inputAmount ∧ World.SameOff [.tokens] w w' ∧ SameSupply w w' := by
  unfold swap at h
  simp only [↓viewStore_bind_eq_ok] at h
  obtain ⟨markets, hmarkets, h⟩ := h
  obtain rfl : markets = [] := (Result.pure_eq_ok.mp hmarkets).symm
  obtain ⟨⟨outputToken, output⟩, w₁, hswap, h⟩ := Tx.bind_eq_ok.mp h
  simp only [↓Tx.lift_bind_eq_ok, ↓Tx.view_bind_eq_ok, Tx.pure_eq_ok] at h
  obtain ⟨_, -, _, -, rfl, rfl⟩ := h
  unfold SwapUtils.swap at hswap
  split at hswap
  · simp only [Tx.pure_eq_ok, Prod.mk.injEq] at hswap
    obtain ⟨⟨-, rfl⟩, rfl⟩ := hswap
    exact ⟨rfl, World.SameOff.refl _ _, rfl⟩
  · simp only [↓Tx.lift_bind_eq_ok] at hswap
    obtain ⟨_, -, hswap⟩ := hswap
    obtain ⟨_, w₂, htransfer, hswap⟩ := Tx.bind_eq_ok.mp hswap
    simp only [Tx.pure_eq_ok, Prod.mk.injEq] at hswap
    obtain ⟨⟨-, rfl⟩, rfl⟩ := hswap
    refine ⟨rfl, ?_, ?_⟩
    · exact Writes.ite (BankRef.transferOut_writes env (List.mem_singleton_self _) _ _ _ _ _)
        (.pure _) htransfer
    · exact KeepsSupply.ite (StrictBank.transferOutUnwrapping_keepsSupply env _ _ _ _ _)
        (.pure _) htransfer

/-- What an executed deposit writes before its market tokens are priced. -/
def pricingSlots : List Slot :=
  [.position, .request, .constant .DEPOSIT_LIST, .constant .ACCOUNT_DEPOSIT_LIST, .tokens,
    .constant .CLAIMABLE_FEE_AMOUNT, .constant .CLAIMABLE_UI_FEE_AMOUNT]

/-- The deposit is of an amount of the token of one side, and needs no swap. -/
structure IsSingle (deposit : Deposit) (isLong : Bool) (amount : Nat) : Prop where
  longTokenSwapPath : deposit.longTokenSwapPath = []
  shortTokenSwapPath : deposit.shortTokenSwapPath = []
  initialLongTokenAmount : deposit.initialLongTokenAmount = if isLong then amount else 0
  initialShortTokenAmount : deposit.initialShortTokenAmount = if isLong then 0 else amount

/-- **An executed deposit of one token.** It is priced at the maximised value of a pool that nothing
has been written to yet, and mints market tokens that are fairly priced. -/
theorem executeDeposit_single {params : ExecuteDepositParams} {market : Market}
    {prices : MarketPrices} {isLong : Bool} {amount : Nat} {u : Unit}
    (hsingle : IsSingle (DepositStoreUtils.get w.dataStore params.key) isLong amount)
    (hmarket : getEnabledMarket w.dataStore
      (DepositStoreUtils.get w.dataStore params.key).market = .ok market)
    (hprices : getMarketPrices env market = .ok prices)
    (htokens : market.longToken ≠ market.shortToken)
    (hsupply : w.totalSupply market.marketToken ≠ 0)
    (h : executeDeposit env params w = .ok (u, w')) :
    ∃ (info : MarketPoolValueInfo) (w₁ : World)
      (amountIn impactAmount usdValue poolValue mintAmount : Nat),
      World.SameOff pricingSlots w w₁ ∧
      getPoolValueInfo env w₁.dataStore market prices.indexTokenPrice prices.longTokenPrice
        prices.shortTokenPrice .MAX_PNL_FACTOR_FOR_DEPOSITS true = .ok info ∧
      (poolValue : Int) = info.poolValue ∧
      amountIn ≤ amount ∧
      usdValue ≤ amountIn * (sidePrice prices isLong).min +
        impactAmount * (sidePrice prices (!isLong)).max ∧
      Shares.Fair poolValue (w.totalSupply market.marketToken) usdValue mintAmount ∧
      Deposited market.marketToken (sideToken market isLong) (sideToken market (!isLong)) amountIn
        impactAmount w w' ∧
      w'.totalSupply market.marketToken = w.totalSupply market.marketToken + mintAmount := by
  obtain ⟨market', prices', longAmount, shortAmount, mintAmount, w₁, w₂, w₃, w₄, hremove,
    hmarket', hprices', hlong, hshort, hnonempty, hamounts, hfee⟩ := executeDeposit_eq_ok h
  obtain ⟨_, hdropped, rfl⟩ := DepositUtils.removeDeposit_eq_ok hremove
  have hsame₁ : World.SameOff pricingSlots w _ :=
    depositStore.remove_sameOff (params.key.slot_mem_of (by decide)) (by decide) hdropped
  rw [getEnabledMarket_congr hsame₁ (by decide), hmarket] at hmarket'
  obtain rfl : market = market' := Except.ok.inj hmarket'
  obtain rfl : prices = prices' := Except.ok.inj (hprices.symm.trans hprices')
  rw [hsingle.longTokenSwapPath] at hlong
  rw [hsingle.shortTokenSwapPath] at hshort
  obtain ⟨rfl, hsame₂, hsupply₂⟩ := swap_empty hlong
  obtain ⟨rfl, hsame₃, hsupply₃⟩ := swap_empty hshort
  rw [hsingle.initialLongTokenAmount, hsingle.initialShortTokenAmount] at hamounts hnonempty
  have hamount : amount ≠ 0 := by
    rintro rfl
    rw [ite_self] at hnonempty
    exact hnonempty ⟨rfl, rfl⟩
  obtain ⟨priceImpactUsd, hexecute⟩ := depositAmounts_single hamount hamounts
  have hbefore : World.SameOff pricingSlots w w₃ :=
    (hsame₁.trans (hsame₂.mono (by decide))).trans (hsame₃.mono (by decide))
  have hsupply₃' : w₃.totalSupply = w.totalSupply := Eq.trans hsupply₃ hsupply₂
  have hsupplyPos : w₃.totalSupply market.marketToken ≠ 0 := by
    rw [hsupply₃']
    exact hsupply
  obtain ⟨indexTokenPrice, info, w₅, amountIn, impactAmount, usdValue, hfees, hindex, hinfo,
    hamountIn, husdValue, ⟨poolValue, hpoolValue, hfair⟩, hdeposited, hminted⟩ :=
    _executeDeposit_eq_ok (sideToken_ne htokens isLong) hsupplyPos hexecute
  have hpaid : World.SameOff [.tokens] w₄ w' :=
    GasUtils.payExecutionFee_writes env (List.mem_singleton_self _) _ _ _ _ hfee
  have hpaidSupply : w'.totalSupply = w₄.totalSupply :=
    GasUtils.payExecutionFee_keepsSupply env _ _ _ _ hfee
  simp only [getMarketPrices, Result.bind_eq_ok, Result.pure_eq_ok] at hprices
  obtain ⟨index, hindex', long, hlongPrice, short, hshortPrice, rfl⟩ := hprices
  obtain rfl : index = indexTokenPrice := Except.ok.inj (hindex'.symm.trans hindex)
  refine ⟨info, w₅, amountIn, impactAmount, usdValue, poolValue, mintAmount,
    hbefore.trans (hfees.mono (by decide)), ?_, hpoolValue, hamountIn, husdValue, ?_,
    hdeposited.congr hbefore hpaid (by decide) (by decide), ?_⟩
  · cases isLong with
    | true =>
      simp only [sideParams, sideToken, sidePrice, if_true, Bool.not_true, Bool.false_eq_true,
        if_false, if_neg htokens] at hinfo
      exact hinfo
    | false =>
      simp only [sideParams, sideToken, sidePrice, if_true, Bool.not_false, Bool.false_eq_true,
        if_false, if_neg htokens.symm] at hinfo
      exact hinfo
  · rw [← hsupply₃']
    exact hfair
  · rw [hpaidSupply, ← hsupply₃']
    exact hminted

end ExecuteDepositUtils

-- ---------------------------------------------------------------------------
-- The withdrawal
-- ---------------------------------------------------------------------------

/-- The pool value depends on what it is computed from only. -/
theorem MarketUtils.getPoolValueInfo_congr {slots : List Slot} (hsame : World.SameOff slots w w')
    (hslots : ∀ slot ∈ Slot.constant .POOL_AMOUNT :: valueSlots, slot ∉ slots) (market : Market)
    (indexTokenPrice longTokenPrice shortTokenPrice : Price) (pnlFactorType : Base)
    (maximize : Bool) :
    getPoolValueInfo env w'.dataStore market indexTokenPrice longTokenPrice shortTokenPrice
        pnlFactorType maximize =
      getPoolValueInfo env w.dataStore market indexTokenPrice longTokenPrice shortTokenPrice
        pnlFactorType maximize := by
  have halike : ValuedAlike w w' :=
    .of_sameOff hsame fun slot hslot => hslots slot (List.mem_cons_of_mem _ hslot)
  have hpool : ∀ token, getPoolAmount w'.dataStore market token =
      getPoolAmount w.dataStore market token := by
    intro token
    unfold getPoolAmount
    rw [hsame.uint _ (hslots _ List.mem_cons_self) _ rfl]
  have hfees : ∀ prices isLong,
      getTotalPendingBorrowingFees env w'.dataStore market prices isLong =
        getTotalPendingBorrowingFees env w.dataStore market prices isLong := by
    intro prices isLong
    have htotal := halike (.constant .TOTAL_BORROWING) (by decide)
    unfold getTotalPendingBorrowingFees getTotalBorrowing
    rw [halike.getOpenInterest, htotal _ rfl, getNextCumulativeBorrowingFactor_congr hsame
      fun slot hslot => hslots slot (by revert slot; decide)]
  have hcapped : ∀ isLong pnl poolUsd,
      getCappedPnl w'.dataStore market.marketToken isLong pnl poolUsd pnlFactorType =
        getCappedPnl w.dataStore market.marketToken isLong pnl poolUsd pnlFactorType := by
    intro isLong pnl poolUsd
    unfold getCappedPnl
    rw [halike.getMaxPnlFactor]
  have hreceiver := halike (.constant .BORROWING_FEE_RECEIVER_FACTOR) (by decide)
    (.base .BORROWING_FEE_RECEIVER_FACTOR) rfl
  unfold getPoolValueInfo
  simp only [hpool, hfees, halike.getPnl, hcapped, hreceiver, halike.getPositionImpactPoolAmount]

namespace WithdrawalUtils

/-- What a withdrawal is paid is worth no more than the share of its market tokens in the
minimised pool value. -/
theorem _getOutputAmounts_le {market : Market} {prices : MarketPrices}
    {marketTokenAmount longAmount shortAmount : Nat}
    (hprices : getMarketPrices env market = .ok prices)
    (h : _getOutputAmounts env w market prices marketTokenAmount =
      .ok (longAmount, shortAmount)) :
    ∃ (info : MarketPoolValueInfo) (poolValue : Nat),
      getPoolValueInfo env w.dataStore market prices.indexTokenPrice prices.longTokenPrice
        prices.shortTokenPrice .MAX_PNL_FACTOR_FOR_WITHDRAWALS false = .ok info ∧
      (poolValue : Int) = info.poolValue ∧
      longAmount * prices.longTokenPrice.max + shortAmount * prices.shortTokenPrice.max ≤
        marketTokenAmount * poolValue / w.totalSupply market.marketToken := by
  simp only [getMarketPrices, Result.bind_eq_ok, Result.pure_eq_ok] at hprices
  obtain ⟨index, hindex, long, -, short, -, rfl⟩ := hprices
  simp only [_getOutputAmounts, Result.bind_eq_ok, toUint256_eq_ok, mul_eq_ok, add_eq_ok,
    Precision.applyFraction, mulDiv_eq_ok, div_eq_ok, Result.pure_eq_ok, Prod.mk.injEq] at h
  obtain ⟨index', hindex', info, hinfo, _, -, poolValue, hpoolValue, marketTokensUsd, husd, _,
    ⟨-, rfl⟩, _, ⟨-, rfl⟩, _, ⟨-, rfl⟩, _, ⟨-, -, rfl⟩, _, ⟨-, -, rfl⟩, _, ⟨-, rfl⟩, _, ⟨-, rfl⟩,
    rfl, rfl⟩ := h
  obtain rfl : index = index' := Except.ok.inj (hindex.symm.trans hindex')
  refine ⟨info, poolValue, hinfo, hpoolValue, ?_⟩
  rw [← marketTokenAmountToUsd_eq husd]
  exact (Nat.add_le_add (Nat.div_mul_le_self _ _) (Nat.div_mul_le_self _ _)).trans
    (Shares.split_le _ _ _)

/-- What is written between a deposit and the withdrawal of its market tokens: the withdrawal
request, and balances. -/
def betweenSlots : List Slot :=
  [.position, .request, .constant .NONCE, .constant .WITHDRAWAL_LIST,
    .constant .ACCOUNT_WITHDRAWAL_LIST, .tokens]

/-- From `w` to `w'` a withdrawal is requested or taken off the list, and tokens are sent; markets,
positions, settings and the supply of market tokens are the same. -/
structure NothingBetween (w w' : World) : Prop where
  store : World.SameOff betweenSlots w w'
  supply : SameSupply w w'

theorem NothingBetween.trans {w'' : World} (h : NothingBetween w w') (h' : NothingBetween w' w'') :
    NothingBetween w w'' where
  store := h.store.trans h'.store
  supply := Eq.trans h'.supply h.supply

/-- Market tokens are sent. -/
theorem NothingBetween.of_moveTokens (w : World) (token sender receiver : Address) (amount : Nat) :
    NothingBetween w (w.moveTokens token sender receiver amount) where
  store := .of_dataStore_eq (by decide) rfl
  supply := rfl

/-- A withdrawal is requested. -/
theorem NothingBetween.of_createWithdrawal {withdrawalVault account : Address}
    {params : CreateWithdrawalParams} {key : StoreKey}
    (h : createWithdrawal env withdrawalVault account params w = .ok (key, w')) :
    NothingBetween w w' := by
  obtain ⟨wntAmount, marketTokenAmount, w₁, w₂, -, hwnt, hmarket, rfl⟩ :=
    createWithdrawal_eq_ok h
  have hsame₁ : World.SameOff betweenSlots w w₁ :=
    StrictBank.recordTransferIn_writes (by decide) _ _ hwnt
  have hsame₂ : World.SameOff betweenSlots w₁ w₂ :=
    StrictBank.recordTransferIn_writes (by decide) _ _ hmarket
  have hnonce : DataStore.ChangesWithin betweenSlots
      (·.setUint (.base .NONCE) (NonceUtils.getCurrentNonce w₂.dataStore + 1)) :=
    .setUint (by decide) _
  have hkey : (StoreKey.request (NonceUtils.getCurrentNonce w₂.dataStore + 1)).slot ∈
      betweenSlots := List.mem_cons_of_mem _ List.mem_cons_self
  have hset := hnonce.comp (withdrawalStore.set_changesWithin hkey (by decide)
    (makeWithdrawal env account params marketTokenAmount wntAmount))
  refine ⟨(hsame₁.trans hsame₂).trans (hset w₂), ?_⟩
  have hsupply₁ := StrictBank.recordTransferIn_keepsSupply _ _ hwnt
  have hsupply₂ := StrictBank.recordTransferIn_keepsSupply _ _ hmarket
  exact Eq.trans hsupply₂ hsupply₁

/-- A withdrawal is taken off the list. -/
theorem NothingBetween.of_removeWithdrawal {key : StoreKey} {account : Address} {u : Unit}
    (h : removeWithdrawal key account w = .ok (u, w')) : NothingBetween w w' := by
  obtain ⟨dataStore, hremove, rfl⟩ := removeWithdrawal_eq_ok h
  exact ⟨withdrawalStore.remove_sameOff (key.slot_mem_of (by decide)) (by decide) hremove, rfl⟩

/-- It makes no difference to what a withdrawal is paid. -/
theorem _getOutputAmounts_congr (h : NothingBetween w w') (market : Market)
    (prices : MarketPrices) (marketTokenAmount : Nat) :
    _getOutputAmounts env w' market prices marketTokenAmount =
      _getOutputAmounts env w market prices marketTokenAmount := by
  have hpool : ∀ token, getPoolAmount w'.dataStore market token =
      getPoolAmount w.dataStore market token := by
    intro token
    unfold getPoolAmount
    rw [h.store.uint (.constant .POOL_AMOUNT) (by decide) _ rfl]
  have hsupply : w'.totalSupply = w.totalSupply := h.supply
  unfold _getOutputAmounts
  simp only [getPoolValueInfo_congr h.store (by decide), hpool, hsupply]

/-- Over an empty path a withdrawal sends what it is paid, and nobody is sent anything else. -/
theorem swap_nil {params : SwapUtils.SwapParams} {output : Address × Nat}
    (hbank : params.bank.isStrict = false) (hpath : params.swapPathMarkets = [])
    (h : SwapUtils.swap env params w = .ok (output, w')) :
    output = (params.tokenIn, params.amountIn) ∧
      Sends (tokenAmount params.tokenIn params.amountIn) w w' := by
  have hnothing : Sends (tokenAmount params.tokenIn params.amountIn) w w :=
    (Sends.refl w).mono fun _ => Nat.zero_le _
  unfold SwapUtils.swap at h
  rw [hpath] at h
  split at h
  · obtain ⟨rfl, rfl⟩ := Tx.pure_eq_ok.mp h
    exact ⟨rfl, hnothing⟩
  · simp only [↓Tx.lift_bind_eq_ok] at h
    obtain ⟨_, -, h⟩ := h
    obtain ⟨_, w₁, hpay, h⟩ := Tx.bind_eq_ok.mp h
    obtain ⟨rfl, rfl⟩ := Tx.pure_eq_ok.mp h
    refine ⟨rfl, ?_⟩
    split at hpay
    · unfold BankRef.transferOut at hpay
      rw [if_neg (by rw [hbank]; decide)] at hpay
      exact Bank.transferOutUnwrapping_sends hpay
    · obtain ⟨-, rfl⟩ := Tx.pure_eq_ok.mp hpay
      exact hnothing

/-- Until its swaps a withdrawal sends nothing. -/
theorem WithdrawalRun.sends_synced {params : ExecuteWithdrawalParams} {withdrawal : Withdrawal}
    (run : WithdrawalRun env params withdrawal w w') : Sends 0 w run.synced := by
  have hfees : ∀ {token : Address} {amount : Nat} {result : Nat × Nat} {w₁ w₂ : World},
      chargeFees withdrawal run.market.marketToken token amount w₁ = .ok (result, w₂) →
        Sends 0 w₁ w₂ := by
    intro token amount result w₁ w₂ hcharge
    have hwrites : Writes [.constant .CLAIMABLE_FEE_AMOUNT, .constant .CLAIMABLE_UI_FEE_AMOUNT]
        (chargeFees withdrawal run.market.marketToken token amount) :=
      chargeFees_writes (by decide) (by decide) _ _ _ _
    exact .of_writes hwrites (by decide) hcharge
  have hpools : ∀ {token : Address} {delta : Int} {next : Nat} {w₁ w₂ : World},
      applyDeltaToPoolAmount run.market.marketToken token delta w₁ = .ok (next, w₂) →
        Sends 0 w₁ w₂ := by
    intro token delta next w₁ w₂ hpool
    have hwrites : Writes [.constant .POOL_AMOUNT, .constant .VIRTUAL_INVENTORY_FOR_SWAPS]
        (applyDeltaToPoolAmount run.market.marketToken token delta) :=
      applyDeltaToPoolAmount_writes (by decide) (by decide) _ _ _
    exact .of_writes hwrites (by decide) hpool
  have hsynced : Sends 0 run.burned run.synced := by
    have hsync := run.syncing
    unfold StrictBank.syncTokenBalance at hsync
    simp only [↓Tx.write_bind_eq_ok, Tx.read_eq_ok] at hsync
    obtain ⟨-, hrecorded⟩ := hsync
    rw [← hrecorded]
    exact Sends.refl run.burned
  have hall := (((((hfees run.longCharging).trans (hfees run.shortCharging)).trans
    (hpools run.longPaying)).trans (hpools run.shortPaying)).trans
    (MarketToken.burn_sends run.burning)).trans hsynced
  simpa using hall

/-- **An executed withdrawal without swaps.** It is paid at the minimised pool value, and sends
what is left after fees; nobody is sent anything else but the execution fee. -/
theorem executeWithdrawal_eq_ok_nil {params : ExecuteWithdrawalParams} {market : Market}
    {prices : MarketPrices} {u : Unit}
    (hlongPath : (WithdrawalStoreUtils.get w.dataStore params.key).longTokenSwapPath = [])
    (hshortPath : (WithdrawalStoreUtils.get w.dataStore params.key).shortTokenSwapPath = [])
    (hmarket : getEnabledMarket w.dataStore
      (WithdrawalStoreUtils.get w.dataStore params.key).market = .ok market)
    (hprices : getMarketPrices env market = .ok prices)
    (h : executeWithdrawal env params w = .ok (u, w')) :
    let withdrawal := WithdrawalStoreUtils.get w.dataStore params.key
    ∃ (removed swapped : World) (run : WithdrawalRun env params withdrawal removed swapped)
      (longOutput shortOutput : Nat) (info : MarketPoolValueInfo) (poolValue : Nat),
      removeWithdrawal params.key withdrawal.account w = .ok ((), removed) ∧
      SwapUtils.swap env run.long run.synced =
        .ok ((market.longToken, longOutput), run.longSwapped) ∧
      SwapUtils.swap env run.short run.longSwapped =
        .ok ((market.shortToken, shortOutput), swapped) ∧
      GasUtils.payExecutionFee env params.withdrawalVault withdrawal.executionFee params.keeper
        withdrawal.account swapped = .ok ((), w') ∧
      Sends (tokenAmount market.longToken longOutput + tokenAmount market.shortToken shortOutput +
        tokenAmount (TokenUtils.wnt w.dataStore) withdrawal.executionFee) w w' ∧
      getPoolValueInfo env w.dataStore market prices.indexTokenPrice prices.longTokenPrice
        prices.shortTokenPrice .MAX_PNL_FACTOR_FOR_WITHDRAWALS false = .ok info ∧
      (poolValue : Int) = info.poolValue ∧
      longOutput * prices.longTokenPrice.max + shortOutput * prices.shortTokenPrice.max ≤
        withdrawal.marketTokenAmount * poolValue / w.totalSupply market.marketToken := by
  obtain ⟨removed, swapped, hremove, hexecute, hfee⟩ := executeWithdrawal_eq_ok h
  obtain ⟨run⟩ := _executeWithdrawal_run hexecute
  have hbetween := NothingBetween.of_removeWithdrawal hremove
  have henabled := run.enabledMarket
  rw [getEnabledMarket_congr hbetween.store (by decide), hmarket] at henabled
  obtain rfl : market = run.market := Except.ok.inj henabled
  obtain rfl : prices = run.prices := Except.ok.inj (hprices.symm.trans run.marketPrices)
  obtain ⟨hlongMarkets, hshortMarkets⟩ := run.paths
  rw [hlongPath] at hlongMarkets
  rw [hshortPath] at hshortMarkets
  obtain ⟨hlongOutput, hlongSent⟩ :=
    swap_nil rfl (Result.pure_eq_ok.mp hlongMarkets).symm run.longLeg
  obtain ⟨hshortOutput, hshortSent⟩ :=
    swap_nil rfl (Result.pure_eq_ok.mp hshortMarkets).symm run.shortLeg
  have hlong := run.longLeg
  have hshort := run.shortLeg
  rw [hlongOutput] at hlong
  rw [hshortOutput] at hshort
  have houtputs := run.outputs
  rw [_getOutputAmounts_congr hbetween] at houtputs
  obtain ⟨info, poolValue, hinfo, hpoolValue, hle⟩ := _getOutputAmounts_le hprices houtputs
  obtain ⟨longFees, hlongFees, hlongAmount⟩ := chargeFees_eq_ok run.longCharging
  obtain ⟨shortFees, hshortFees, hshortAmount⟩ := chargeFees_eq_ok run.shortCharging
  have hlongSplit := SwapPricingUtils.getSwapFees_split hlongFees
  have hshortSplit := SwapPricingUtils.getSwapFees_split hshortFees
  refine ⟨removed, swapped, run, run.longTokenOutputAmount, run.shortTokenOutputAmount, info,
    poolValue, hremove, hlong, hshort, hfee, ?_, hinfo, hpoolValue,
    (Nat.add_le_add ?_ ?_).trans hle⟩
  · have hexecuted := _executeWithdrawal_writes env (List.Subset.refl swapSlots) _ _ hexecute
    have hremoved : Sends 0 w removed := by
      obtain ⟨_, -, rfl⟩ := removeWithdrawal_eq_ok hremove
      exact Sends.refl w
    have hpaid := GasUtils.payExecutionFee_sends hfee
    rw [TokenUtils.wnt_sameOff hexecuted (by decide),
      TokenUtils.wnt_sameOff hbetween.store (by decide)] at hpaid
    have hall := (((hremoved.trans run.sends_synced).trans hlongSent).trans hshortSent).trans hpaid
    simp only [zero_add] at hall
    exact hall
  · have hpaid : run.longTokenOutputAmount ≤ run.outputAmounts.1 := by omega
    exact Nat.mul_le_mul_right _ hpaid
  · have hpaid : run.shortTokenOutputAmount ≤ run.outputAmounts.2 := by omega
    exact Nat.mul_le_mul_right _ hpaid

end WithdrawalUtils

-- ---------------------------------------------------------------------------
-- The round trip
-- ---------------------------------------------------------------------------

/-- A single deposit is executed from `w` to `w₁`, and a withdrawal of exactly the market tokens
that it minted from `w₂` to `w₃`, at one timestamp and one set of prices. -/
structure RoundTrip (env env' : Env) (deposit : ExecuteDepositUtils.ExecuteDepositParams)
    (withdrawal : WithdrawalUtils.ExecuteWithdrawalParams) (market : Market)
    (prices : MarketPrices) (isLong : Bool) (amount : Nat) (w w₁ w₂ w₃ : World) : Prop where
  depositMarket : getEnabledMarket w.dataStore
    (DepositStoreUtils.get w.dataStore deposit.key).market = .ok market
  single : ExecuteDepositUtils.IsSingle (DepositStoreUtils.get w.dataStore deposit.key) isLong
    amount
  deposited : ExecuteDepositUtils.executeDeposit env deposit w = .ok ((), w₁)
  between : WithdrawalUtils.NothingBetween w₁ w₂
  withdrawalMarket : (WithdrawalStoreUtils.get w₂.dataStore withdrawal.key).market =
    (DepositStoreUtils.get w.dataStore deposit.key).market
  longTokenSwapPath :
    (WithdrawalStoreUtils.get w₂.dataStore withdrawal.key).longTokenSwapPath = []
  shortTokenSwapPath :
    (WithdrawalStoreUtils.get w₂.dataStore withdrawal.key).shortTokenSwapPath = []
  marketTokenAmount : w.totalSupply market.marketToken +
      (WithdrawalStoreUtils.get w₂.dataStore withdrawal.key).marketTokenAmount =
    w₁.totalSupply market.marketToken
  withdrawn : WithdrawalUtils.executeWithdrawal env' withdrawal w₂ = .ok ((), w₃)
  sameBlock : SameBlock env env'
  depositPrices : getMarketPrices env market = .ok prices
  withdrawalPrices : getMarketPrices env' market = .ok prices

/-- **No profit from a round trip.** Of a market with two different tokens and market tokens in
circulation, with an empty position impact pool and neither side's pending pnl above its cap for
withdrawals: whoever deposits an amount of one token and withdraws at once is paid no more than the
amount at the lower price, and the price impact received in the other token at its upper price. The
two outputs are those of the withdrawal's own swaps, and they and its execution fee, in wrapped
native tokens, are all that the withdrawal brings anybody. -/
theorem roundTrip_noProfit {deposit : ExecuteDepositUtils.ExecuteDepositParams}
    {withdrawal : WithdrawalUtils.ExecuteWithdrawalParams} {market : Market}
    {prices : MarketPrices} {isLong : Bool} {amount : Nat} {w w₁ w₂ w₃ : World}
    (htokens : market.longToken ≠ market.shortToken)
    (hsupply : 0 < w.totalSupply market.marketToken)
    (himpactPool : getPositionImpactPoolAmount w.dataStore market.marketToken = 0)
    (huncapped : ∀ isLong pnl,
      getPnl w.dataStore market prices.indexTokenPrice isLong true = .ok pnl →
      pnl ≤ pnlCap w.dataStore market isLong .MAX_PNL_FACTOR_FOR_WITHDRAWALS
        (sidePoolAmount w.dataStore market isLong * (sidePrice prices isLong).min))
    (hindex : prices.indexTokenPrice.min ≤ prices.indexTokenPrice.max)
    (hside : ∀ isLong, (sidePrice prices isLong).min ≤ (sidePrice prices isLong).max)
    (h : RoundTrip env env' deposit withdrawal market prices isLong amount w w₁ w₂ w₃) :
    let positiveImpactAmount :=
      getSwapImpactPoolAmount w.dataStore market.marketToken (sideToken market (!isLong)) -
        getSwapImpactPoolAmount w₁.dataStore market.marketToken (sideToken market (!isLong))
    let request := WithdrawalStoreUtils.get w₂.dataStore withdrawal.key
    ∃ (removed swapped : World)
      (run : WithdrawalUtils.WithdrawalRun env' withdrawal request removed swapped)
      (longOutput shortOutput : Nat),
      WithdrawalUtils.removeWithdrawal withdrawal.key request.account w₂ = .ok ((), removed) ∧
      SwapUtils.swap env' run.long run.synced =
        .ok ((market.longToken, longOutput), run.longSwapped) ∧
      SwapUtils.swap env' run.short run.longSwapped =
        .ok ((market.shortToken, shortOutput), swapped) ∧
      GasUtils.payExecutionFee env' withdrawal.withdrawalVault request.executionFee
        withdrawal.keeper request.account swapped = .ok ((), w₃) ∧
      (∀ token account, w₃.balances token account ≤ w₂.balances token account +
        (tokenAmount market.longToken longOutput token +
          tokenAmount market.shortToken shortOutput token +
          tokenAmount (TokenUtils.wnt w₂.dataStore) request.executionFee token)) ∧
      longOutput * prices.longTokenPrice.max + shortOutput * prices.shortTokenPrice.max ≤
        amount * (sidePrice prices isLong).min +
          positiveImpactAmount * (sidePrice prices (!isLong)).max := by
  intro positiveImpactAmount request
  obtain ⟨info, wp, amountIn, impactAmount, usdValue, poolValue, mintAmount, hpricing, hinfo,
    hpoolValue, hamountIn, husdValue, hfair, hdeposited, hminted⟩ :=
    ExecuteDepositUtils.executeDeposit_single h.single h.depositMarket h.depositPrices htokens
      hsupply.ne' h.deposited
  have hrun : World.SameOff (Slot.position :: requestSlots) w w₁ :=
    ExecuteDepositUtils.executeDeposit_writes env (deposit.key.slot_mem_of (by decide))
      (List.subset_cons_self _ _) h.deposited
  have hmarket : getEnabledMarket w₂.dataStore
      (WithdrawalStoreUtils.get w₂.dataStore withdrawal.key).market = .ok market := by
    rw [h.withdrawalMarket, getEnabledMarket_congr h.between.store (by decide),
      getEnabledMarket_congr hrun (by decide)]
    exact h.depositMarket
  obtain ⟨removed, swapped, run, longOutput, shortOutput, info', poolValue', hremove, hlong, hshort,
    hfee, hsends, hinfo', hpoolValue', houtput⟩ :=
    WithdrawalUtils.executeWithdrawal_eq_ok_nil h.longTokenSwapPath h.shortTokenSwapPath hmarket
      h.withdrawalPrices h.withdrawn
  refine ⟨removed, swapped, run, longOutput, shortOutput, hremove, hlong, hshort, hfee, hsends,
    houtput.trans ?_⟩
  -- the pools at the two valuations
  have hbefore : ∀ isLong, sidePoolAmount wp.dataStore market isLong =
      sidePoolAmount w.dataStore market isLong := by
    intro isLong
    rw [sidePoolAmount_eq htokens, sidePoolAmount_eq htokens,
      hpricing.uint (.constant .POOL_AMOUNT) (by decide) _ rfl]
  have hafter : ∀ isLong, sidePoolAmount w₂.dataStore market isLong =
      sidePoolAmount w₁.dataStore market isLong := by
    intro isLong
    rw [sidePoolAmount_eq htokens, sidePoolAmount_eq htokens,
      h.between.store.uint (.constant .POOL_AMOUNT) (by decide) _ rfl]
  have hin : sidePoolAmount w₂.dataStore market isLong =
      sidePoolAmount wp.dataStore market isLong + amountIn := by
    rw [hafter, hbefore, sidePoolAmount_eq htokens, sidePoolAmount_eq htokens]
    exact hdeposited.poolIn
  have hout : sidePoolAmount w₂.dataStore market (!isLong) =
      sidePoolAmount wp.dataStore market (!isLong) + impactAmount := by
    rw [hafter, hbefore, sidePoolAmount_eq htokens, sidePoolAmount_eq htokens]
    exact hdeposited.poolOut
  have halike₁ : ValuedAlike w wp := .of_sameOff hpricing (by decide)
  have halike₂ : ValuedAlike w w₂ :=
    (ValuedAlike.of_sameOff hrun (by decide)).trans (.of_sameOff h.between.store (by decide))
  have hcaps : ∀ side, pendingPnl wp.dataStore market side
        (prices.indexTokenPrice.pickPriceForPnl side true) ≤
      pnlCap wp.dataStore market side .MAX_PNL_FACTOR_FOR_WITHDRAWALS
        (sidePoolAmount wp.dataStore market side * (sidePrice prices side).min) := by
    intro side
    obtain ⟨pnl, hpnl⟩ := getPnl_of_poolValueInfo hinfo' side
    rw [Bool.not_false, halike₂.getPnl] at hpnl
    have hle := huncapped side pnl hpnl
    rw [getPnl_of_ok hpnl] at hle
    unfold pnlCap at hle ⊢
    rw [halike₁.pendingPnl, halike₁.getMaxPnlFactor, hbefore]
    exact hle
  have himpact : getPositionImpactPoolAmount wp.dataStore market.marketToken = 0 := by
    rw [halike₁.getPositionImpactPoolAmount]
    exact himpactPool
  have hvalues := poolValue_le_add_received h.sameBlock (halike₁.symm.trans halike₂) hin hout
    hindex hside himpact hcaps hinfo hinfo'
  have hreceived : poolValue' ≤ poolValue + (amountIn * (sidePrice prices isLong).min +
      impactAmount * (sidePrice prices (!isLong)).min) := by omega
  have hpositive : positiveImpactAmount = impactAmount := by
    have himpactPools := hdeposited.impactPool
    show getSwapImpactPoolAmount w.dataStore market.marketToken (sideToken market (!isLong)) -
      getSwapImpactPoolAmount w₁.dataStore market.marketToken (sideToken market (!isLong)) = _
    omega
  have hwithdrawn : (WithdrawalStoreUtils.get w₂.dataStore withdrawal.key).marketTokenAmount =
      mintAmount := by
    have hexact := h.marketTokenAmount
    omega
  have hsupply₂ : w₂.totalSupply market.marketToken =
      w.totalSupply market.marketToken + mintAmount := by
    have hsame : w₂.totalSupply = w₁.totalSupply := h.between.supply
    rw [hsame]
    exact hminted
  rw [hwithdrawn, hsupply₂, hpositive]
  have hcost := Nat.mul_le_mul_right (sidePrice prices isLong).min hamountIn
  have hspread := Nat.mul_le_mul_left impactAmount (hside (!isLong))
  exact Shares.redeem_le hfair hreceived (by omega) (by omega)

/-- A market with more short tokens than long tokens, and tokens for a deposit. -/
def tripWorld : World where
  dataStore :=
    let dataStore := ((((DataStore.empty.addAddress (.base .MARKET_LIST) 1).setAddress
      (.marketField 1 .MARKET_TOKEN) 1).setAddress (.marketField 1 .INDEX_TOKEN) 2).setAddress
      (.marketField 1 .LONG_TOKEN) 3).setAddress (.marketField 1 .SHORT_TOKEN) 4
    let dataStore := dataStore.setAddress (.base .WNT) 5
    let dataStore := dataStore.setUint (Keys.poolAmountKey 1 3) 1000
    let dataStore := dataStore.setUint (Keys.poolAmountKey 1 4) 5000
    let dataStore := dataStore.setUint (Keys.swapImpactPoolAmountKey 1 4) 50
    let dataStore := dataStore.setUint (Keys.swapImpactFactorKey 1 true) (10 ^ 29)
    let dataStore := dataStore.setUint (Keys.swapImpactFactorKey 1 false) (10 ^ 29)
    let dataStore := dataStore.setUint (Keys.swapImpactExponentFactorKey 1) (10 ^ 30)
    let dataStore := dataStore.setUint (Keys.swapFeeFactorKey 1) (10 ^ 28)
    let dataStore := dataStore.setUint (Keys.maxPoolAmountKey 1 3) (10 ^ 6)
    let dataStore := dataStore.setUint (Keys.maxPoolAmountKey 1 4) (10 ^ 6)
    let dataStore := dataStore.setUint (Keys.tokenTransferGasLimit 3) 1
    dataStore.setUint (Keys.tokenTransferGasLimit 4) 1
  balances token account :=
    if account = 1 then if token = 3 then 1000 else if token = 4 then 5050 else 0
    else if account = 11 ∧ token = 3 then 100 else 0
  totalSupply _ := 6000
  tokenBalances _ _ := 0

/-- The long token has a spread of one percent. -/
def tripEnv : Env := Env.plain 1 fun token =>
  if token = 3 then ⟨99 * 10 ^ 28, 10 ^ 30⟩ else ⟨10 ^ 30, 10 ^ 30⟩

def tripPrices : MarketPrices :=
  ⟨⟨10 ^ 30, 10 ^ 30⟩, ⟨99 * 10 ^ 28, 10 ^ 30⟩, ⟨10 ^ 30, 10 ^ 30⟩⟩

def tripDeposit : DepositUtils.CreateDepositParams where
  receiver := 9
  callbackContract := 0
  uiFeeReceiver := 0
  market := 1
  initialLongToken := 3
  initialShortToken := 4
  longTokenSwapPath := []
  shortTokenSwapPath := []
  minMarketTokens := 0
  shouldUnwrapNativeToken := false
  executionFee := 0
  callbackGasLimit := 0

def tripWithdrawal : WithdrawalUtils.CreateWithdrawalParams where
  receiver := 9
  callbackContract := 0
  uiFeeReceiver := 0
  market := 1
  longTokenSwapPath := []
  shortTokenSwapPath := []
  minLongTokenAmount := 0
  minShortTokenAmount := 0
  shouldUnwrapNativeToken := false
  executionFee := 0
  callbackGasLimit := 0

/-- A deposit is created and executed, the minted market tokens are sent to the withdrawal vault,
and their withdrawal is created and executed. -/
def tripRun : Result (World × World × World × World) := do
  let (_, w) ← DepositUtils.createDeposit tripEnv 11 9 tripDeposit tripWorld
  let (_, w₁) ← ExecuteDepositUtils.executeDeposit tripEnv ⟨11, .request 1, [1], [1], 7⟩ w
  let sent := w₁.moveTokens 1 9 12 (w₁.totalSupply 1 - w.totalSupply 1)
  let (_, w₂) ← WithdrawalUtils.createWithdrawal tripEnv 12 9 tripWithdrawal sent
  let (_, w₃) ← WithdrawalUtils.executeWithdrawal tripEnv ⟨12, .request 2, [1], [1], 7⟩ w₂
  pure (w, w₁, w₂, w₃)

/-- Of 100 long tokens, charged one percent and rewarded with 4 short tokens, 18 long and 83 short
tokens come back. -/
theorem roundTrip_noProfit_trip :
    ∃ w w₁ w₂ w₃, RoundTrip tripEnv tripEnv ⟨11, .request 1, [1], [1], 7⟩
        ⟨12, .request 2, [1], [1], 7⟩ ⟨1, 2, 3, 4⟩ tripPrices true 100 w w₁ w₂ w₃ ∧
      w₃.balances 3 9 = 18 ∧ w₃.balances 4 9 = 83 ∧
      ∃ longOutput shortOutput : Nat,
        w₃.balances 3 9 ≤ w₂.balances 3 9 + longOutput ∧
        w₃.balances 4 9 ≤ w₂.balances 4 9 + shortOutput ∧
        longOutput * 10 ^ 30 + shortOutput * 10 ^ 30 ≤ 100 * (99 * 10 ^ 28) + 4 * 10 ^ 30 := by
  obtain ⟨⟨w, w₁, w₂, w₃⟩, hok, hsupply, himpactPool, hpnl, hmarket, hlongPath, hshortPath,
    hlongAmount, hshortAmount, hmarket', hlongPath', hshortPath', hamount, himpact, hwnt, hlong,
    hshort⟩ := (by decide +kernel : tripRun.Satisfies fun (w, w₁, w₂, w₃) =>
      let deposit := DepositStoreUtils.get w.dataStore (.request 1)
      let withdrawal := WithdrawalStoreUtils.get w₂.dataStore (.request 2)
      0 < w.totalSupply 1 ∧ getPositionImpactPoolAmount w.dataStore 1 = 0 ∧
      (∀ isLong, getPnl w.dataStore ⟨1, 2, 3, 4⟩ ⟨10 ^ 30, 10 ^ 30⟩ isLong true = .ok 0) ∧
      getEnabledMarket w.dataStore deposit.market = .ok ⟨1, 2, 3, 4⟩ ∧
      deposit.longTokenSwapPath = [] ∧ deposit.shortTokenSwapPath = [] ∧
      deposit.initialLongTokenAmount = 100 ∧ deposit.initialShortTokenAmount = 0 ∧
      withdrawal.market = deposit.market ∧ withdrawal.longTokenSwapPath = [] ∧
      withdrawal.shortTokenSwapPath = [] ∧
      w.totalSupply 1 + withdrawal.marketTokenAmount = w₁.totalSupply 1 ∧
      getSwapImpactPoolAmount w.dataStore 1 4 - getSwapImpactPoolAmount w₁.dataStore 1 4 = 4 ∧
      TokenUtils.wnt w₂.dataStore = 5 ∧
      w₃.balances 3 9 = 18 ∧ w₃.balances 4 9 = 83).exists
  simp only [tripRun, Result.bind_eq_ok, Result.pure_eq_ok, Prod.mk.injEq] at hok
  obtain ⟨⟨_, _⟩, -, ⟨_, _⟩, hdeposited, ⟨_, _⟩, hcreated, ⟨_, _⟩, hwithdrawn, rfl, rfl, rfl,
    rfl⟩ := hok
  have htrip : RoundTrip tripEnv tripEnv ⟨11, .request 1, [1], [1], 7⟩
      ⟨12, .request 2, [1], [1], 7⟩ ⟨1, 2, 3, 4⟩ tripPrices true 100 _ _ _ _ :=
    { depositMarket := hmarket
      single := ⟨hlongPath, hshortPath, hlongAmount, hshortAmount⟩
      deposited := hdeposited
      between := (WithdrawalUtils.NothingBetween.of_moveTokens _ _ _ _ _).trans
        (.of_createWithdrawal hcreated)
      withdrawalMarket := hmarket'
      longTokenSwapPath := hlongPath'
      shortTokenSwapPath := hshortPath'
      marketTokenAmount := hamount
      withdrawn := hwithdrawn
      sameBlock := ⟨rfl, rfl⟩
      depositPrices := by decide +kernel
      withdrawalPrices := by decide +kernel }
  obtain ⟨removed, swapped, run, longOutput, shortOutput, -, -, -, -, hsends, hle⟩ :=
    roundTrip_noProfit (by decide) hsupply himpactPool (by
      intro isLong pnl hpnl'
      obtain rfl : pnl = 0 := Except.ok.inj (hpnl'.symm.trans (hpnl isLong))
      exact Int.natCast_nonneg _) (by decide) (by decide) htrip
  refine ⟨_, _, _, _, htrip, hlong, hshort, longOutput, shortOutput, ?_, ?_, ?_⟩
  · have hreceived := hsends 3 9
    rw [hwnt] at hreceived
    exact hreceived
  · have hreceived := hsends 4 9
    rw [hwnt] at hreceived
    simpa [tokenAmount] using hreceived
  · rw [← himpact]
    exact hle

end GmxSynthetics
