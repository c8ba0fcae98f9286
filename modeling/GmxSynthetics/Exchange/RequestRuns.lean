import GmxSynthetics.Deposit.DepositUtils
import GmxSynthetics.Withdrawal.WithdrawalUtils

/-!
# The runs of deposits and withdrawals

What a successful deposit of a token, and a successful withdrawal, went through: the values that
they computed and the worlds between their writes, each with the call that led there.

* `DepositRun`, `_executeDeposit_run` — the deposit of one token;
* `WithdrawalRun`, `_executeWithdrawal_run` — a withdrawal after its request is removed.
-/

namespace GmxSynthetics

open Evm

variable {env : Env} {w w' : World}

namespace ExecuteDepositUtils

/-- A successful deposit of one token. The worlds are named after the write that made them. -/
structure DepositRun (env : Env) (_params : _ExecuteDepositParams) (mintAmount : Nat)
    (w w' : World) where
  fees : SwapPricingUtils.SwapFees
  indexTokenPrice : Price
  poolValueInfo : MarketPoolValueInfo
  poolValue : Nat
  amountAfterFees : Nat
  mintAmountForImpact : Nat
  mintAmountForAmount : Nat
  poolAmount : Nat
  booked : World
  uiBooked : World
  impacted : World
  pooled : World
  swapFees : SwapPricingUtils.getSwapFees w.dataStore _params.market.marketToken _params.amount
    _params.uiFeeReceiver = .ok fees
  booking : FeeUtils.incrementClaimableFeeAmount _params.market.marketToken _params.tokenIn
    fees.feeReceiverAmount w = .ok ((), booked)
  uiBooking : FeeUtils.incrementClaimableUiFeeAmount _params.uiFeeReceiver
    _params.market.marketToken _params.tokenIn fees.uiFeeAmount booked = .ok ((), uiBooked)
  primaryPrice : Oracle.getPrimaryPrice env _params.market.indexToken = .ok indexTokenPrice
  valuing : MarketUtils.getPoolValueInfo env uiBooked.dataStore _params.market indexTokenPrice
    (if _params.tokenIn = _params.market.longToken then _params.tokenInPrice
      else _params.tokenOutPrice)
    (if _params.tokenIn = _params.market.shortToken then _params.tokenInPrice
      else _params.tokenOutPrice)
    .MAX_PNL_FACTOR_FOR_DEPOSITS true = .ok poolValueInfo
  poolValue_eq : (poolValue : Int) = poolValueInfo.poolValue
  impacting : applyPriceImpact _params fees.amountAfterFees poolValue
    (uiBooked.totalSupply _params.market.marketToken) uiBooked =
      .ok ((amountAfterFees, mintAmountForImpact), impacted)
  pricing : MarketUtils.usdToMarketTokenAmount (amountAfterFees * _params.tokenInPrice.min)
    poolValue (uiBooked.totalSupply _params.market.marketToken) = .ok mintAmountForAmount
  mintAmount_eq : mintAmount = mintAmountForImpact + mintAmountForAmount
  pooling : MarketUtils.applyDeltaToPoolAmount _params.market.marketToken _params.tokenIn
    (amountAfterFees + fees.feeAmountForPool : Nat) impacted = .ok (poolAmount, pooled)
  valid : MarketUtils.validatePoolAmount pooled.dataStore _params.market _params.tokenIn = .ok ()
  minting : MarketToken.mint _params.market.marketToken _params.receiver mintAmount pooled =
    .ok ((), w')

/-- What a successful deposit of one token went through. -/
theorem _executeDeposit_run {_params : _ExecuteDepositParams} {mintAmount : Nat}
    (h : _executeDeposit env _params w = .ok (mintAmount, w')) :
    Nonempty (DepositRun env _params mintAmount w w') := by
  unfold _executeDeposit at h
  simp only [↓viewStore_bind_eq_ok] at h
  obtain ⟨fees, hfees, h⟩ := h
  obtain ⟨_, booked, hbook, h⟩ := Tx.bind_eq_ok.mp h
  obtain ⟨_, uiBooked, huiBook, h⟩ := Tx.bind_eq_ok.mp h
  simp only [↓viewStore_bind_eq_ok, ↓Tx.lift_bind_eq_ok, ↓Tx.read_bind_eq_ok, Result.bind_eq_ok,
    toUint256_eq_ok] at h
  obtain ⟨poolValueInfo, ⟨indexTokenPrice, hindex, hinfo⟩, _, -, poolValue, hpoolValue, h⟩ := h
  obtain ⟨⟨amountAfterFees, mintAmountForImpact⟩, impacted, himpact, h⟩ := Tx.bind_eq_ok.mp h
  simp only [↓Tx.lift_bind_eq_ok, mul_eq_ok, add_eq_ok, toInt256_eq_ok] at h
  obtain ⟨_, ⟨-, rfl⟩, mintAmountForAmount, hprice, _, ⟨-, rfl⟩, _, ⟨-, rfl⟩, _, ⟨-, rfl⟩, h⟩ := h
  obtain ⟨poolAmount, pooled, hpool, h⟩ := Tx.bind_eq_ok.mp h
  simp only [↓viewStore_bind_eq_ok] at h
  obtain ⟨_, hvalid, h⟩ := h
  obtain ⟨_, _, hmint, h⟩ := Tx.bind_eq_ok.mp h
  obtain ⟨rfl, rfl⟩ := Tx.pure_eq_ok.mp h
  exact ⟨{
    fees, indexTokenPrice, poolValueInfo, poolValue, amountAfterFees, mintAmountForImpact,
    mintAmountForAmount, poolAmount, booked, uiBooked, impacted, pooled
    swapFees := hfees
    booking := hbook
    uiBooking := huiBook
    primaryPrice := hindex
    valuing := hinfo
    poolValue_eq := hpoolValue
    impacting := himpact
    pricing := hprice
    mintAmount_eq := rfl
    pooling := hpool
    valid := hvalid
    minting := hmint }⟩

/-- The swap of one of the two tokens of a deposit. -/
def legParams (params : ExecuteDepositParams) (initialToken : Address) (inputAmount : Nat)
    (swapPathMarkets : List Market) (market uiFeeReceiver : Address) : SwapUtils.SwapParams where
  bank := { address := params.depositVault, isStrict := true }
  tokenIn := initialToken
  amountIn := inputAmount
  swapPathMarkets := swapPathMarkets
  minOutputAmount := 0
  receiver := market
  uiFeeReceiver := uiFeeReceiver
  shouldUnwrapNativeToken := false

/-- A deposited token is swapped to the market, in the token that the market expects. -/
theorem swap_eq_ok {params : ExecuteDepositParams} {swapPath : List Address}
    {initialToken market expectedOutputToken uiFeeReceiver : Address}
    {inputAmount outputAmount : Nat}
    (h : swap env params swapPath initialToken inputAmount market expectedOutputToken
      uiFeeReceiver w = .ok (outputAmount, w')) :
    ∃ swapPathMarkets,
      MarketUtils.getEnabledMarkets w.dataStore swapPath = .ok swapPathMarkets ∧
      SwapUtils.swap env
        (legParams params initialToken inputAmount swapPathMarkets market uiFeeReceiver) w =
        .ok ((expectedOutputToken, outputAmount), w') := by
  unfold swap at h
  simp only [↓viewStore_bind_eq_ok] at h
  obtain ⟨swapPathMarkets, hpath, h⟩ := h
  obtain ⟨⟨outputToken, amount⟩, w₁, hswap, h⟩ := Tx.bind_eq_ok.mp h
  simp only [↓Tx.lift_bind_eq_ok, ↓Tx.view_bind_eq_ok, Tx.pure_eq_ok, Result.revertIf_eq_ok,
    not_not] at h
  obtain ⟨_, rfl, _, -, rfl, rfl⟩ := h
  exact ⟨swapPathMarkets, hpath, hswap⟩

end ExecuteDepositUtils

namespace WithdrawalUtils

/-- The swap of one of the two outputs of a withdrawal. -/
def legParams (market : Market) (tokenIn : Address) (amountIn : Nat)
    (swapPathMarkets : List Market) (minOutputAmount : Nat) (withdrawal : Withdrawal) :
    SwapUtils.SwapParams where
  bank := { address := market.marketToken, isStrict := false }
  tokenIn := tokenIn
  amountIn := amountIn
  swapPathMarkets := swapPathMarkets
  minOutputAmount := minOutputAmount
  receiver := withdrawal.receiver
  uiFeeReceiver := withdrawal.uiFeeReceiver
  shouldUnwrapNativeToken := withdrawal.shouldUnwrapNativeToken

/-- An output is swapped from the market to the receiver. -/
theorem swap_eq_ok {market : Market} {tokenIn : Address} {amountIn minOutputAmount : Nat}
    {swapPath : List Address} {withdrawal : Withdrawal} {u : Unit}
    (h : swap env market.marketToken tokenIn amountIn swapPath minOutputAmount withdrawal w =
      .ok (u, w')) :
    ∃ swapPathMarkets output,
      MarketUtils.getEnabledMarkets w.dataStore swapPath = .ok swapPathMarkets ∧
      SwapUtils.swap env
        (legParams market tokenIn amountIn swapPathMarkets minOutputAmount withdrawal) w =
        .ok (output, w') := by
  unfold swap at h
  simp only [↓viewStore_bind_eq_ok] at h
  obtain ⟨markets, hmarkets, h⟩ := h
  obtain ⟨output, w₁, hswap, h⟩ := Tx.bind_eq_ok.mp h
  obtain ⟨-, rfl⟩ := Tx.view_eq_ok.mp h
  exact ⟨markets, output, hmarkets, hswap⟩

/-- A successful withdrawal. The worlds are named after the write that made them; the long output
is swapped from `synced` to `longSwapped`, and the short one from there to the end. -/
structure WithdrawalRun (env : Env) (params : ExecuteWithdrawalParams) (withdrawal : Withdrawal)
    (w w' : World) where
  market : Market
  prices : MarketPrices
  outputAmounts : Nat × Nat
  longTokenPoolAmountDelta : Nat
  longTokenOutputAmount : Nat
  shortTokenPoolAmountDelta : Nat
  shortTokenOutputAmount : Nat
  longPoolAmount : Nat
  shortPoolAmount : Nat
  balance : Nat
  longPathMarkets : List Market
  shortPathMarkets : List Market
  longOutput : Address × Nat
  shortOutput : Address × Nat
  longCharged : World
  shortCharged : World
  longPaid : World
  shortPaid : World
  burned : World
  synced : World
  longSwapped : World
  enabledMarket : MarketUtils.getEnabledMarket w.dataStore withdrawal.market = .ok market
  marketPrices : MarketUtils.getMarketPrices env market = .ok prices
  outputs : _getOutputAmounts env w market prices withdrawal.marketTokenAmount =
    .ok outputAmounts
  longCharging : chargeFees withdrawal market.marketToken market.longToken outputAmounts.1 w =
    .ok ((longTokenPoolAmountDelta, longTokenOutputAmount), longCharged)
  shortCharging : chargeFees withdrawal market.marketToken market.shortToken outputAmounts.2
    longCharged = .ok ((shortTokenPoolAmountDelta, shortTokenOutputAmount), shortCharged)
  longPaying : MarketUtils.applyDeltaToPoolAmount market.marketToken market.longToken
    (-longTokenPoolAmountDelta) shortCharged = .ok (longPoolAmount, longPaid)
  shortPaying : MarketUtils.applyDeltaToPoolAmount market.marketToken market.shortToken
    (-shortTokenPoolAmountDelta) longPaid = .ok (shortPoolAmount, shortPaid)
  longReserve : MarketUtils.validateReserve shortPaid.dataStore market prices true = .ok ()
  shortReserve : MarketUtils.validateReserve shortPaid.dataStore market prices false = .ok ()
  maxPnl : MarketUtils.validateMaxPnl shortPaid.dataStore market prices
    .MAX_PNL_FACTOR_FOR_WITHDRAWALS .MAX_PNL_FACTOR_FOR_WITHDRAWALS = .ok ()
  burning : MarketToken.burn market.marketToken params.withdrawalVault
    withdrawal.marketTokenAmount shortPaid = .ok ((), burned)
  syncing : StrictBank.syncTokenBalance params.withdrawalVault market.marketToken burned =
    .ok (balance, synced)
  longSwapping : swap env market.marketToken market.longToken longTokenOutputAmount
    withdrawal.longTokenSwapPath withdrawal.minLongTokenAmount withdrawal synced =
      .ok ((), longSwapped)
  shortSwapping : swap env market.marketToken market.shortToken shortTokenOutputAmount
    withdrawal.shortTokenSwapPath withdrawal.minShortTokenAmount withdrawal longSwapped =
      .ok ((), w')
  longPath : MarketUtils.getEnabledMarkets synced.dataStore withdrawal.longTokenSwapPath =
    .ok longPathMarkets
  shortPath : MarketUtils.getEnabledMarkets longSwapped.dataStore withdrawal.shortTokenSwapPath =
    .ok shortPathMarkets
  longLeg : SwapUtils.swap env (legParams market market.longToken longTokenOutputAmount
    longPathMarkets withdrawal.minLongTokenAmount withdrawal) synced =
      .ok (longOutput, longSwapped)
  shortLeg : SwapUtils.swap env (legParams market market.shortToken shortTokenOutputAmount
    shortPathMarkets withdrawal.minShortTokenAmount withdrawal) longSwapped =
      .ok (shortOutput, w')
  valid : MarketUtils.validateMarketTokenBalance w' market = .ok ()

/-- What a successful withdrawal went through. -/
theorem _executeWithdrawal_run {params : ExecuteWithdrawalParams} {withdrawal : Withdrawal}
    {u : Unit} (h : _executeWithdrawal env params withdrawal w = .ok (u, w')) :
    Nonempty (WithdrawalRun env params withdrawal w w') := by
  unfold _executeWithdrawal at h
  simp only [↓viewStore_bind_eq_ok, ↓Tx.lift_bind_eq_ok, ↓Tx.view_bind_eq_ok] at h
  obtain ⟨market, hmarket, prices, hprices, outputAmounts, houtputs, h⟩ := h
  obtain ⟨⟨longTokenPoolAmountDelta, longTokenOutputAmount⟩, longCharged, hlongCharge, h⟩ :=
    Tx.bind_eq_ok.mp h
  obtain ⟨⟨shortTokenPoolAmountDelta, shortTokenOutputAmount⟩, shortCharged, hshortCharge, h⟩ :=
    Tx.bind_eq_ok.mp h
  simp only [↓Tx.lift_bind_eq_ok, toInt256_eq_ok, negInt_eq_ok] at h
  obtain ⟨_, ⟨-, rfl⟩, _, ⟨-, rfl⟩, h⟩ := h
  obtain ⟨longPoolAmount, longPaid, hlongPay, h⟩ := Tx.bind_eq_ok.mp h
  simp only [↓Tx.lift_bind_eq_ok, toInt256_eq_ok, negInt_eq_ok] at h
  obtain ⟨_, ⟨-, rfl⟩, _, ⟨-, rfl⟩, h⟩ := h
  obtain ⟨shortPoolAmount, shortPaid, hshortPay, h⟩ := Tx.bind_eq_ok.mp h
  simp only [↓viewStore_bind_eq_ok] at h
  obtain ⟨_, hlongReserve, _, hshortReserve, _, hmaxPnl, h⟩ := h
  obtain ⟨_, burned, hburn, h⟩ := Tx.bind_eq_ok.mp h
  obtain ⟨balance, synced, hsync, h⟩ := Tx.bind_eq_ok.mp h
  obtain ⟨_, longSwapped, hlongSwap, h⟩ := Tx.bind_eq_ok.mp h
  obtain ⟨_, _, hshortSwap, h⟩ := Tx.bind_eq_ok.mp h
  obtain ⟨hvalid, rfl⟩ := Tx.view_eq_ok.mp h
  obtain ⟨longPathMarkets, longOutput, hlongPath, hlongLeg⟩ := swap_eq_ok hlongSwap
  obtain ⟨shortPathMarkets, shortOutput, hshortPath, hshortLeg⟩ := swap_eq_ok hshortSwap
  exact ⟨{
    market, prices, outputAmounts, longTokenPoolAmountDelta, longTokenOutputAmount,
    shortTokenPoolAmountDelta, shortTokenOutputAmount, longPoolAmount, shortPoolAmount, balance,
    longPathMarkets, shortPathMarkets, longOutput, shortOutput, longCharged, shortCharged,
    longPaid, shortPaid, burned, synced, longSwapped
    enabledMarket := hmarket
    marketPrices := hprices
    outputs := houtputs
    longCharging := hlongCharge
    shortCharging := hshortCharge
    longPaying := hlongPay
    shortPaying := hshortPay
    longReserve := hlongReserve
    shortReserve := hshortReserve
    maxPnl := hmaxPnl
    burning := hburn
    syncing := hsync
    longSwapping := hlongSwap
    shortSwapping := hshortSwap
    longPath := hlongPath
    shortPath := hshortPath
    longLeg := hlongLeg
    shortLeg := hshortLeg
    valid := hvalid }⟩

section Legs

variable {params : ExecuteWithdrawalParams} {withdrawal : Withdrawal}

/-- The swap of the long output. -/
def WithdrawalRun.long (run : WithdrawalRun env params withdrawal w w') : SwapUtils.SwapParams :=
  legParams run.market run.market.longToken run.longTokenOutputAmount run.longPathMarkets
    withdrawal.minLongTokenAmount withdrawal

/-- The swap of the short output. -/
def WithdrawalRun.short (run : WithdrawalRun env params withdrawal w w') : SwapUtils.SwapParams :=
  legParams run.market run.market.shortToken run.shortTokenOutputAmount run.shortPathMarkets
    withdrawal.minShortTokenAmount withdrawal

end Legs

end WithdrawalUtils

end GmxSynthetics
