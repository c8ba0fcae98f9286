import GmxSynthetics.Bank.BankFootprint
import GmxSynthetics.Market.LedgerFootprint
import GmxSynthetics.Swap.SwapUtils

/-!
# Hops, and the footprints of swaps

A hop changes the pools and the fees of its market, and balances; a swap also sets and
clears the flags of the markets on its path.

* `HopRun`, `_swap_run` — what a successful hop went through;
* `…_writes` — what hops and swaps write.
-/

namespace GmxSynthetics

open Evm

-- ---------------------------------------------------------------------------
-- A hop
-- ---------------------------------------------------------------------------

namespace SwapUtils

/-- A successful hop. The worlds are named after the write that made them. -/
structure HopRun (env : Env) (params : SwapParams) (_params : _SwapParams) (tokenOut : Address)
    (amountOut : Nat) (w w' : World) where
  tokenInPrice : Price
  tokenOutPrice : Price
  fees : SwapPricingUtils.SwapFees
  usdDelta : Int
  midPriceIn : Nat
  midPriceOut : Nat
  usdDeltaOut : Int
  priceImpactUsd : Int
  cache : SwapCache
  poolAmountIn : Nat
  poolAmountOut : Nat
  booked : World
  uiBooked : World
  impacted : World
  transferred : World
  received : World
  tokenIn : ¬ (_params.tokenIn ≠ _params.market.longToken ∧
    _params.tokenIn ≠ _params.market.shortToken)
  swapMarket : MarketUtils.validateSwapMarket _params.market = .ok ()
  opposite : MarketUtils.getOppositeToken _params.tokenIn _params.market = .ok tokenOut
  primaryIn : Oracle.getPrimaryPrice env _params.tokenIn = .ok tokenInPrice
  primaryOut : Oracle.getPrimaryPrice env tokenOut = .ok tokenOutPrice
  swapFees : SwapPricingUtils.getSwapFees w.dataStore _params.market.marketToken _params.amountIn
    params.uiFeeReceiver = .ok fees
  booking : FeeUtils.incrementClaimableFeeAmount _params.market.marketToken _params.tokenIn
    fees.feeReceiverAmount w = .ok ((), booked)
  uiBooking : FeeUtils.incrementClaimableUiFeeAmount params.uiFeeReceiver
    _params.market.marketToken _params.tokenIn fees.uiFeeAmount booked = .ok ((), uiBooked)
  midIn : tokenInPrice.midPrice = .ok midPriceIn
  midOut : tokenOutPrice.midPrice = .ok midPriceOut
  valuing : (do toInt256 (← mul fees.amountAfterFees midPriceIn) : Result Int) = .ok usdDelta
  negating : negInt usdDelta = .ok usdDeltaOut
  pricing : SwapPricingUtils.getPriceImpactUsd env uiBooked.dataStore
    { market := _params.market, tokenA := _params.tokenIn, tokenB := tokenOut
      priceForTokenA := midPriceIn, priceForTokenB := midPriceOut
      usdDeltaForTokenA := usdDelta, usdDeltaForTokenB := usdDeltaOut } = .ok priceImpactUsd
  impacting : applyPriceImpact _params.market.marketToken _params.tokenIn tokenOut tokenInPrice
    tokenOutPrice fees.amountAfterFees priceImpactUsd uiBooked = .ok (cache, impacted)
  transferring : (if _params.receiver ≠ _params.market.marketToken then
    Bank.transferOutUnwrapping env _params.market.marketToken tokenOut _params.receiver
      cache.amountOut _params.shouldUnwrapNativeToken
    else pure () : Tx Unit) impacted = .ok ((), transferred)
  receiving : MarketUtils.applyDeltaToPoolAmount _params.market.marketToken _params.tokenIn
    (cache.amountIn + fees.feeAmountForPool : Nat) transferred = .ok (poolAmountIn, received)
  paying : MarketUtils.applyDeltaToPoolAmount _params.market.marketToken tokenOut
    (-cache.poolAmountOut) received = .ok (poolAmountOut, w')
  valid : validateAfterSwap env w'.dataStore _params.market _params.tokenIn tokenOut tokenInPrice
    tokenOutPrice = .ok ()
  amountOut_eq : amountOut = cache.amountOut

/-- What a successful hop went through. -/
theorem _swap_run {env : Env} {params : SwapParams} {_params : _SwapParams} {tokenOut : Address}
    {amountOut : Nat} {w w' : World}
    (h : _swap env params _params w = .ok ((tokenOut, amountOut), w')) :
    Nonempty (HopRun env params _params tokenOut amountOut w w') := by
  unfold _swap at h
  simp only [↓Tx.lift_bind_eq_ok, ↓viewStore_bind_eq_ok, Result.revertIf_eq_ok] at h
  obtain ⟨_, htoken, _, hmarket, tokenOut, hopposite, tokenInPrice, hpriceIn, tokenOutPrice,
    hpriceOut, fees, hfees, h⟩ := h
  obtain ⟨_, booked, hbook, h⟩ := Tx.bind_eq_ok.mp h
  obtain ⟨_, uiBooked, huiBook, h⟩ := Tx.bind_eq_ok.mp h
  simp only [↓Tx.lift_bind_eq_ok, ↓viewStore_bind_eq_ok] at h
  obtain ⟨midPriceIn, hmidIn, product, hproduct, usdDelta, husdDelta, midPriceIn', hmidIn',
    midPriceOut, hmidOut, usdDeltaOut, hnegated, priceImpactUsd, hprice, h⟩ := h
  obtain rfl := Except.ok.inj (hmidIn.symm.trans hmidIn')
  obtain ⟨cache, impacted, himpact, h⟩ := Tx.bind_eq_ok.mp h
  obtain ⟨_, transferred, htransfer, h⟩ := Tx.bind_eq_ok.mp h
  simp only [↓Tx.lift_bind_eq_ok, add_eq_ok, toInt256_eq_ok] at h
  obtain ⟨_, ⟨-, rfl⟩, _, ⟨-, rfl⟩, h⟩ := h
  obtain ⟨poolAmountIn, received, hreceive, h⟩ := Tx.bind_eq_ok.mp h
  simp only [↓Tx.lift_bind_eq_ok, toInt256_eq_ok, negInt_eq_ok] at h
  obtain ⟨_, ⟨-, rfl⟩, _, ⟨-, rfl⟩, h⟩ := h
  obtain ⟨poolAmountOut, _, hpay, h⟩ := Tx.bind_eq_ok.mp h
  simp only [↓viewStore_bind_eq_ok, Tx.pure_eq_ok, Prod.mk.injEq] at h
  obtain ⟨_, hvalid, ⟨rfl, rfl⟩, rfl⟩ := h
  exact ⟨{
    tokenInPrice, tokenOutPrice, fees, usdDelta, midPriceIn, midPriceOut, usdDeltaOut,
    priceImpactUsd, cache, poolAmountIn, poolAmountOut, booked, uiBooked, impacted, transferred,
    received
    tokenIn := htoken
    swapMarket := hmarket
    opposite := hopposite
    primaryIn := hpriceIn
    primaryOut := hpriceOut
    swapFees := hfees
    booking := hbook
    uiBooking := huiBook
    midIn := hmidIn
    midOut := hmidOut
    valuing := Result.bind_eq_ok.mpr ⟨product, hproduct, husdDelta⟩
    negating := hnegated
    pricing := hprice
    impacting := himpact
    transferring := htransfer
    receiving := hreceive
    paying := hpay
    valid := hvalid
    amountOut_eq := rfl }⟩

end SwapUtils

-- ---------------------------------------------------------------------------
-- What is written
-- ---------------------------------------------------------------------------

variable {slots : List Slot} (env : Env)

/-- What a hop of a swap writes. -/
def hopSlots : List Slot :=
  [.constant .CLAIMABLE_FEE_AMOUNT, .constant .CLAIMABLE_UI_FEE_AMOUNT,
    .constant .SWAP_IMPACT_POOL_AMOUNT, .constant .POOL_AMOUNT,
    .constant .VIRTUAL_INVENTORY_FOR_SWAPS, .tokens]

/-- What a swap writes. -/
def swapSlots : List Slot := .constant .SWAP_PATH_MARKET_FLAG :: hopSlots

namespace SwapUtils

/-- The price impact of a hop moves only its impact pool. -/
theorem applyPriceImpact_writes (h : Slot.constant .SWAP_IMPACT_POOL_AMOUNT ∈ slots)
    (market tokenIn tokenOut : Address) (tokenInPrice tokenOutPrice : Price)
    (amountAfterFees : Nat) (priceImpactUsd : Int) :
    Writes slots (applyPriceImpact market tokenIn tokenOut tokenInPrice tokenOutPrice
      amountAfterFees priceImpactUsd) := by
  have himpact := MarketUtils.applySwapImpactWithCap_writes h market
  unfold applyPriceImpact
  refine .ite ?_ ?_
  · refine (Writes.lift _).bind fun _ => (Writes.lift _).bind fun amountOut => ?_
    refine (himpact _ _ _).bind fun _ => ?_
    exact (Writes.lift _).bind fun _ => (Writes.lift _).bind fun _ => .pure _
  · refine (himpact _ _ _).bind fun _ => ?_
    refine (Writes.lift _).bind fun _ => (Writes.lift _).bind fun _ => ?_
    refine (Writes.lift _).bind fun amountIn => (Writes.lift _).bind fun _ => ?_
    exact (Writes.lift _).bind fun _ => (Writes.lift _).bind fun amountOut => .pure _

namespace HopRun

variable {env} {params : SwapParams} {_params : _SwapParams} {tokenOut : Address} {amountOut : Nat}
  {w w' : World} (run : HopRun env params _params tokenOut amountOut w w')

include run

/-- What is written until the price impact is applied. -/
theorem sameOff_uiBooked (hfee : Slot.constant .CLAIMABLE_FEE_AMOUNT ∈ slots)
    (huiFee : Slot.constant .CLAIMABLE_UI_FEE_AMOUNT ∈ slots) :
    World.SameOff slots w run.uiBooked :=
  (FeeUtils.incrementClaimableFeeAmount_writes hfee _ _ _ run.booking).trans
    (FeeUtils.incrementClaimableUiFeeAmount_writes huiFee _ _ _ _ run.uiBooking)

/-- What is written once it is. -/
theorem sameOff_paid (htokens : Slot.tokens ∈ slots)
    (hpool : Slot.constant .POOL_AMOUNT ∈ slots)
    (hinventory : Slot.constant .VIRTUAL_INVENTORY_FOR_SWAPS ∈ slots) :
    World.SameOff slots run.impacted w' := by
  have htransfer : World.SameOff slots run.impacted run.transferred :=
    Writes.ite (Bank.transferOutUnwrapping_writes env htokens _ _ _ _ _) (.pure _)
      run.transferring
  exact (htransfer.trans
    (MarketUtils.applyDeltaToPoolAmount_writes hpool hinventory _ _ _ run.receiving)).trans
    (MarketUtils.applyDeltaToPoolAmount_writes hpool hinventory _ _ _ run.paying)

end HopRun

/-- A hop writes the ledgers of its market, and balances. -/
theorem _swap_writes (hslots : hopSlots ⊆ slots) (params : SwapParams) (_params : _SwapParams) :
    Writes slots (_swap env params _params) := by
  intro w output w' h
  obtain ⟨run⟩ := _swap_run h
  have himpact : World.SameOff slots run.uiBooked run.impacted :=
    applyPriceImpact_writes (hslots (by decide)) _ _ _ _ _ _ _ run.impacting
  have hbooked := run.sameOff_uiBooked (hslots (by decide)) (hslots (by decide))
  have hpaid := run.sameOff_paid (hslots (by decide)) (hslots (by decide)) (hslots (by decide))
  exact (hbooked.trans himpact).trans hpaid

/-- The hops of a path, each of which sets the flag of its market. -/
theorem swapAlongPath_writes (hslots : swapSlots ⊆ slots) (params : SwapParams)
    (markets : List Market) (tokenIn : Address) (amountIn : Nat) :
    Writes slots (swapAlongPath env params markets tokenIn amountIn) := by
  have hflag : Slot.constant .SWAP_PATH_MARKET_FLAG ∈ slots := hslots (by decide)
  have hhop : hopSlots ⊆ slots := fun _ hs => hslots (List.mem_cons_of_mem _ hs)
  induction markets generalizing tokenIn amountIn with
  | nil => exact .pure _
  | cons market nextMarkets ih =>
    unfold swapAlongPath
    refine (Writes.readStore _).bind fun flag => (Writes.lift _).bind fun _ => ?_
    refine (Writes.writeStore (.setBool hflag _)).bind fun _ => ?_
    refine (_swap_writes env hhop _ _).bind ?_
    rintro ⟨tokenOut, amountOut⟩
    exact ih tokenOut amountOut

/-- A swap also clears the flags that its hops have set. -/
theorem swap_writes (hslots : swapSlots ⊆ slots) (params : SwapParams) :
    Writes slots (swap env params) := by
  have htokens : Slot.tokens ∈ slots := hslots (by decide)
  have hflag : Slot.constant .SWAP_PATH_MARKET_FLAG ∈ slots := hslots (by decide)
  have hsend := BankRef.transferOut_writes env htokens params.bank params.tokenIn
  unfold swap
  split
  · exact .pure _
  · split
    · refine (Writes.lift _).bind fun _ => ?_
      exact (Writes.ite (hsend _ _ _) (.pure _)).bind fun _ => .pure _
    · refine (Writes.ite (hsend _ _ _) (.pure _)).bind fun _ => ?_
      refine (swapAlongPath_writes env hslots _ _ _ _).bind ?_
      rintro ⟨tokenOut, outputAmount⟩
      refine (Writes.forM fun _ => .writeStore (.setBool hflag _)).bind fun _ => ?_
      exact (Writes.lift _).bind fun _ => .pure _

end SwapUtils

end GmxSynthetics
