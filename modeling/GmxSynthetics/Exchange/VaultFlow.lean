import GmxSynthetics.Bank.VaultBalance
import GmxSynthetics.Exchange.RequestLifecycle
import GmxSynthetics.Market.MarketFactory
import GmxSynthetics.Position.PositionFootprint
import GmxSynthetics.Swap.SwapPath

/-!
# What requests take out of the vaults

Requests are paid by the vault that their tokens were sent to, and by no other. Everything that
follows, the hops of a swap, the update of a position, the output, is between markets and receivers.

* `…_guards` — calls that take nothing out of a vault, because they pay from elsewhere;
* `…_flow` — the calls of a vault's own requests, and the most that they take out of it.
-/

namespace GmxSynthetics

open Evm

variable {env : Env} {w w' : World} {vault : Address} {u : Unit}

/-- The address of an enabled market is no vault. -/
theorem MarketUtils.getEnabledMarket_ne {dataStore : DataStore} {key : Address} {market : Market}
    (hvault : NoMarket vault dataStore) (h : getEnabledMarket dataStore key = .ok market) :
    market.marketToken ≠ vault := by
  rw [(getEnabledMarket_eq_ok h).1]
  exact hvault key

/-- Nor is one of those on a path. -/
theorem MarketUtils.getEnabledMarkets_ne {dataStore : DataStore}
    (hvault : NoMarket vault dataStore) {swapPath : List Address} {markets : List Market}
    (h : getEnabledMarkets dataStore swapPath = .ok markets) :
    ∀ market ∈ markets, market.marketToken ≠ vault := by
  induction swapPath generalizing markets with
  | nil =>
    simp only [getEnabledMarkets, List.mapM_nil, Result.pure_eq_ok] at h
    subst h
    simp
  | cons key swapPath ih =>
    simp only [getEnabledMarkets, List.mapM_cons, Result.bind_eq_ok, Result.pure_eq_ok] at h
    obtain ⟨market, hmarket, rest, hrest, rfl⟩ := h
    intro market' hmem
    rcases List.mem_cons.mp hmem with rfl | hmem
    · exact getEnabledMarket_ne hvault hmarket
    · exact ih hrest market' hmem

-- ---------------------------------------------------------------------------
-- Ledgers
-- ---------------------------------------------------------------------------

namespace FeeUtils

/-- Booking a fee moves no token. -/
theorem incrementClaimableFeeAmount_guards (market token : Address) (delta : Nat) :
    Guards vault (incrementClaimableFeeAmount market token delta) :=
  .of_writes (incrementClaimableFeeAmount_writes (List.mem_singleton_self _) market token delta)
    (by decide)

/-- Nor does booking the fee of an interface. -/
theorem incrementClaimableUiFeeAmount_guards (uiFeeReceiver market token : Address)
    (delta : Nat) : Guards vault (incrementClaimableUiFeeAmount uiFeeReceiver market token delta) :=
  .of_writes (incrementClaimableUiFeeAmount_writes (List.mem_singleton_self _) uiFeeReceiver
    market token delta) (by decide)

end FeeUtils

namespace MarketUtils

/-- A pool amount is a number in the store. -/
theorem applyDeltaToPoolAmount_guards (market token : Address) (delta : Int) :
    Guards vault (applyDeltaToPoolAmount market token delta) := by
  have hwrites : Writes [.constant .POOL_AMOUNT, .constant .VIRTUAL_INVENTORY_FOR_SWAPS]
      (applyDeltaToPoolAmount market token delta) :=
    applyDeltaToPoolAmount_writes (by decide) (by decide) market token delta
  exact .of_writes hwrites (by decide)

/-- So is the impact pool of swaps. -/
theorem applySwapImpactWithCap_guards (market token : Address) (tokenPrice : Price)
    (priceImpactUsd : Int) :
    Guards vault (applySwapImpactWithCap market token tokenPrice priceImpactUsd) :=
  .of_writes (applySwapImpactWithCap_writes (List.mem_singleton_self _) market token tokenPrice
    priceImpactUsd) (by decide)

/-- So is what an account can claim. -/
theorem incrementClaimableCollateralAmount_guards (market token account : Address)
    (delta : Nat) :
    Guards vault (incrementClaimableCollateralAmount env market token account delta) :=
  .of_writes (incrementClaimableCollateralAmount_writes (List.mem_singleton_self _) env market
    token account delta) (by decide)

end MarketUtils

-- ---------------------------------------------------------------------------
-- Execution fees
-- ---------------------------------------------------------------------------

namespace GasUtils

/-- The keeper is paid out of the execution fee. -/
theorem getExecutionFeeForKeeper_le {dataStore : DataStore} {executionFee fee : Nat}
    (h : getExecutionFeeForKeeper env dataStore executionFee = .ok fee) : fee ≤ executionFee := by
  simp only [getExecutionFeeForKeeper, Result.bind_eq_ok, Result.pure_eq_ok] at h
  obtain ⟨_, -, _, -, h⟩ := h
  split_ifs at h <;> omega

/-- Keeper and user are sent the fee between them. -/
theorem payExecutionFee_flow {executionFee : Nat} {keeper user : Address}
    (h : payExecutionFee env vault executionFee keeper user w = .ok (u, w')) :
    Flow (w.vaultBalance vault) 0 (tokenAmount (TokenUtils.wnt w.dataStore) executionFee)
      (w'.vaultBalance vault) := by
  unfold payExecutionFee at h
  simp only [↓viewStore_bind_eq_ok] at h
  obtain ⟨keeperFee, hkeeperFee, h⟩ := h
  obtain ⟨_, w₁, hkeeper, h⟩ := Tx.bind_eq_ok.mp h
  simp only [↓Tx.lift_bind_eq_ok, sub_eq_ok] at h
  obtain ⟨_, ⟨-, rfl⟩, h⟩ := h
  have hle := getExecutionFeeForKeeper_le hkeeperFee
  have hwnt : TokenUtils.wnt w₁.dataStore = TokenUtils.wnt w.dataStore :=
    (StrictBank.transferOutNativeToken_writes env (List.mem_singleton_self _) _ _ _
      hkeeper).address (.constant .WNT) (by decide) _ rfl
  have hpaid := StrictBank.transferOutNativeToken_flow hkeeper
  split at h
  · obtain ⟨-, rfl⟩ := Tx.pure_eq_ok.mp h
    refine hpaid.mono (fun _ => Nat.le_refl _) fun t => ?_
    unfold tokenAmount
    split_ifs <;> omega
  · have hrefunded := StrictBank.transferOutNativeToken_flow h
    rw [hwnt] at hrefunded
    refine (hpaid.trans hrefunded).mono (fun _ => Nat.le_refl _) fun t => ?_
    simp only [Pi.add_apply, tokenAmount]
    split_ifs <;> omega

/-- A fee that another bank pays takes nothing out of the vault. -/
theorem payExecutionFee_guards {bank : Address} (hbank : bank ≠ vault) (executionFee : Nat)
    (keeper user : Address) :
    Guards vault (payExecutionFee env bank executionFee keeper user) := by
  unfold payExecutionFee
  refine (Guards.viewStore _).bind fun executionFeeForKeeper => ?_
  refine (StrictBank.transferOutNativeToken_guards hbank _ _).bind fun _ => ?_
  refine (Guards.lift _).bind fun refundFeeAmount => .ite (.pure _) ?_
  exact StrictBank.transferOutNativeToken_guards hbank _ _

end GasUtils

-- ---------------------------------------------------------------------------
-- Swaps
-- ---------------------------------------------------------------------------

namespace SwapUtils

/-- A hop is paid out of its market. -/
theorem _swap_guards {_params : _SwapParams} (hmarket : _params.market.marketToken ≠ vault)
    (params : SwapParams) : Guards vault (_swap env params _params) := by
  intro w output w' h
  obtain ⟨run⟩ := _swap_run h
  have hbooked : Guarded vault w run.uiBooked := trans_of (Guarded vault)
    (FeeUtils.incrementClaimableFeeAmount_guards _ _ _ run.booking)
    (FeeUtils.incrementClaimableUiFeeAmount_guards _ _ _ _ run.uiBooking)
  have himpacted : Guarded vault run.uiBooked run.impacted := .of_sameOff
    (applyPriceImpact_writes (List.mem_singleton_self _) _ _ _ _ _ _ _ run.impacting) (by decide)
  have htransferred : Guarded vault run.impacted run.transferred := Guards.ite
    (Bank.transferOutUnwrapping_guards hmarket _ _ _ _) (.pure _) run.transferring
  have hpaid : Guarded vault run.transferred w' := trans_of (Guarded vault)
    (MarketUtils.applyDeltaToPoolAmount_guards _ _ _ run.receiving)
    (MarketUtils.applyDeltaToPoolAmount_guards _ _ _ run.paying)
  exact trans_of (Guarded vault) (trans_of (Guarded vault) hbooked himpacted)
    (trans_of (Guarded vault) htransferred hpaid)

/-- The flags of the markets on a path are in the store. -/
theorem setSwapPathMarketFlag_guards (market : Address) (value : Bool) :
    Guards vault (writeStore (·.setBool (Keys.swapPathMarketFlagKey market) value)) :=
  .of_writes (setSwapPathMarketFlag_writes market value) (by decide)

/-- Clearing the flags of a path. -/
theorem clearSwapPathMarketFlags_guards (markets : List Market) :
    Guards vault (markets.forM fun market =>
      writeStore (·.setBool (Keys.swapPathMarketFlagKey market.marketToken) false)) :=
  .of_writes (Writes.forM fun _ => setSwapPathMarketFlag_writes _ false) (by decide)

/-- Every hop of a path is paid out of its market. -/
theorem swapAlongPath_guards (params : SwapParams) {markets : List Market}
    (hmarkets : ∀ market ∈ markets, market.marketToken ≠ vault) (tokenIn : Address)
    (amountIn : Nat) : Guards vault (swapAlongPath env params markets tokenIn amountIn) := by
  induction markets generalizing tokenIn amountIn with
  | nil => exact .pure _
  | cons market nextMarkets ih =>
    have hmarket : market.marketToken ≠ vault := hmarkets market List.mem_cons_self
    have hnext : ∀ next ∈ nextMarkets, next.marketToken ≠ vault := fun next hmem =>
      hmarkets next (List.mem_cons_of_mem _ hmem)
    unfold swapAlongPath
    refine (Guards.readStore _).bind fun flag => (Guards.lift _).bind fun _ => ?_
    refine (setSwapPathMarketFlag_guards _ true).bind fun _ => ?_
    refine (_swap_guards hmarket _).bind ?_
    rintro ⟨tokenOut, amountOut⟩
    exact ih hnext tokenOut amountOut

/-- A swap from another bank, through markets only. -/
theorem swap_guards {params : SwapParams} (hbank : params.bank.address ≠ vault)
    (hmarkets : ∀ market ∈ params.swapPathMarkets, market.marketToken ≠ vault) :
    Guards vault (swap env params) := by
  have hsend (receiver : Address) (shouldUnwrapNativeToken : Bool) : Guards vault
      (params.bank.transferOut env params.tokenIn receiver params.amountIn
        shouldUnwrapNativeToken) :=
    BankRef.transferOut_guards hbank _ _ _ _
  unfold swap
  split
  · exact .pure _
  · split
    · refine (Guards.lift _).bind fun _ => ?_
      exact (Guards.ite (hsend _ _) (.pure _)).bind fun _ => .pure _
    · refine (Guards.ite (hsend _ _) (.pure _)).bind fun _ => ?_
      refine (swapAlongPath_guards params hmarkets _ _).bind ?_
      rintro ⟨tokenOut, outputAmount⟩
      refine (clearSwapPathMarketFlags_guards _).bind fun _ => ?_
      exact (Guards.lift _).bind fun _ => .pure _

/-- A swap from the vault takes its input out of it. -/
theorem swap_flow {params : SwapParams} {result : Address × Nat}
    (hbank : params.bank = ⟨vault, true⟩)
    (hmarkets : ∀ market ∈ params.swapPathMarkets, market.marketToken ≠ vault)
    (h : swap env params w = .ok (result, w')) :
    Flow (w.vaultBalance vault) 0 (tokenAmount params.tokenIn params.amountIn)
      (w'.vaultBalance vault) := by
  have hstays : Flow (w.vaultBalance vault) 0 (tokenAmount params.tokenIn params.amountIn)
      (w.vaultBalance vault) :=
    (Flow.refl _).mono (fun _ => Nat.le_refl _) fun _ => Nat.zero_le _
  have hpay : ∀ {receiver : Address} {shouldUnwrapNativeToken : Bool} {w₁ : World} {u : Unit}
      {c : Prop} [Decidable c],
      (if c then params.bank.transferOut env params.tokenIn receiver params.amountIn
        shouldUnwrapNativeToken else pure ()) w = .ok (u, w₁) →
      Flow (w.vaultBalance vault) 0 (tokenAmount params.tokenIn params.amountIn)
        (w₁.vaultBalance vault) := by
    intro receiver shouldUnwrapNativeToken w₁ u c _ hpay
    split at hpay
    · rw [hbank] at hpay
      exact StrictBank.transferOutUnwrapping_flow hpay
    · obtain ⟨-, rfl⟩ := Tx.pure_eq_ok.mp hpay
      exact hstays
  unfold swap at h
  split at h
  · obtain ⟨-, rfl⟩ := Tx.pure_eq_ok.mp h
    exact hstays
  cases hpath : params.swapPathMarkets with
  | nil =>
    simp only [hpath, ↓Tx.lift_bind_eq_ok] at h
    obtain ⟨_, -, h⟩ := h
    obtain ⟨_, w₁, htransfer, h⟩ := Tx.bind_eq_ok.mp h
    obtain ⟨-, rfl⟩ := Tx.pure_eq_ok.mp h
    exact hpay htransfer
  | cons firstMarket nextMarkets =>
    simp only [hpath] at h
    obtain ⟨_, w₁, htransfer, h⟩ := Tx.bind_eq_ok.mp h
    rw [hpath] at hmarkets
    have hrest := ((swapAlongPath_guards params hmarkets params.tokenIn
      params.amountIn).bind fun _ => (clearSwapPathMarketFlags_guards _).bind fun _ =>
        (Guards.lift _).bind fun _ => .pure _) h
    exact (hpay htransfer).then_raised hrest

end SwapUtils

-- ---------------------------------------------------------------------------
-- Positions
-- ---------------------------------------------------------------------------

/-- An increase of a position moves no token. -/
theorem IncreasePositionUtils.increasePosition_guards
    {params : PositionUtils.UpdatePositionParams} (hkey : params.positionKey.slot = .position)
    (collateralIncrementAmount : Nat) :
    Guards vault (increasePosition env params collateralIncrementAmount) :=
  .of_writes (increasePosition_writes env (List.Subset.refl positionUpdateSlots) params hkey _)
    (by decide)

namespace DecreasePositionSwapUtils

variable {params : PositionUtils.UpdatePositionParams}
  (hmarket : params.market.marketToken ≠ vault)

include hmarket

theorem swapInMarket_guards (tokenIn : Address) (amountIn : Nat) :
    Guards vault (swapInMarket env params tokenIn amountIn) :=
  SwapUtils.swap_guards hmarket fun _ hmem => List.mem_singleton.mp hmem ▸ hmarket

/-- A profit is swapped within its market. -/
theorem swapProfitToCollateralToken_guards (pnlToken : Address) (profitAmount : Nat) :
    Guards vault (swapProfitToCollateralToken env params pnlToken profitAmount) := by
  unfold swapProfitToCollateralToken
  refine .ite ((Guards.attempt (swapInMarket_guards hmarket _ _)).bind ?_) (.pure _)
  intro swapped
  match swapped with
  | .ok (_, swapOutputAmount) => exact .pure _
  | .error _ => exact .pure _

/-- So is the collateral that is paid out. -/
theorem swapWithdrawnCollateralToPnlToken_guards
    (values : PositionUtils.DecreasePositionCollateralValues) :
    Guards vault (swapWithdrawnCollateralToPnlToken env params values) := by
  unfold swapWithdrawnCollateralToPnlToken
  refine .ite ((Guards.attempt (swapInMarket_guards hmarket _ _)).bind ?_) (.pure _)
  intro swapped
  match swapped with
  | .ok (tokenOut, swapOutputAmount) =>
    exact (Guards.lift _).bind fun _ => (Guards.lift _).bind fun _ => .pure _
  | .error _ => exact .pure _

end DecreasePositionSwapUtils

namespace DecreasePositionCollateralUtils

open PositionUtils

variable {params : UpdatePositionParams} (hmarket : params.market.marketToken ≠ vault)
  (cache : DecreasePositionCache)

include hmarket

/-- A profit leaves the pool in the books, and is swapped within the market. -/
theorem realizeProfit_guards (positionPnlUsd adjustedPositionPnlUsd : Int) :
    Guards vault (realizeProfit env params cache positionPnlUsd adjustedPositionPnlUsd) := by
  unfold realizeProfit
  refine .ite ?_ (.pure _)
  refine (Guards.lift _).bind fun _ => (Guards.lift _).bind fun deductionAmountForPool => ?_
  refine (Guards.lift _).bind fun _ => (Guards.lift _).bind fun pnlAmountForUser => ?_
  refine (Guards.lift _).bind fun pnlDiffAmount => ?_
  refine (Guards.ite ?_ (.pure _)).bind fun _ => ?_
  · exact MarketUtils.incrementClaimableCollateralAmount_guards _ _ _ pnlDiffAmount
  refine (Guards.lift _).bind fun _ => (Guards.lift _).bind fun delta => ?_
  refine (MarketUtils.applyDeltaToPoolAmount_guards _ _ delta).bind fun _ => ?_
  refine (DecreasePositionSwapUtils.swapProfitToCollateralToken_guards hmarket _ _).bind ?_
  intro swapped
  cases swapped with
  | some swapOutputAmount => exact .pure _
  | none => exact .ite (.pure _) (.pure _)

/-- Up to the payment of the fees no token leaves but through the market. -/
theorem realizePnl_guards : Guards vault (realizePnl env params cache) := by
  unfold realizePnl
  refine (Guards.lift _).bind fun collateralTokenPrice => (Guards.viewStore _).bind ?_
  rintro ⟨executionPrice, priceImpactAmount, priceImpactDiffUsd⟩
  refine (Guards.viewStore _).bind ?_
  rintro ⟨positionPnlUsd, sizeDeltaInTokens⟩
  refine (Guards.lift _).bind fun collateralCache => (Guards.viewStore _).bind fun fees => ?_
  exact (realizeProfit_guards hmarket _ _ _).bind fun _ => .pure _

/-- What the collateral pays is booked; the tokens stay with the market. -/
theorem processCollateral_guards : Guards vault (processCollateral env params cache) := by
  have hledger : Slot.tokens ∉ ledgerSlots := by decide
  have hpayments : paymentSlots ⊆ ledgerSlots := paymentSlots_subset (List.Subset.refl _)
  unfold processCollateral
  refine (realizePnl_guards hmarket cache).bind fun realized => ?_
  refine (Guards.lift _).bind fun pending => .ite (.ite ?_ (.lift _)) ?_
  · exact .of_writes (processForceClose_writes env params hpayments _ _ _ _) hledger
  · exact .of_writes (payFromCollateral_writes env params (List.Subset.refl _) _) hledger

end DecreasePositionCollateralUtils

namespace DecreasePositionUtils

open PositionUtils

variable {params : UpdatePositionParams}

/-- The output of a decrease is swapped within the market. -/
theorem finishDecrease_guards (hmarket : params.market.marketToken ≠ vault)
    (hkey : params.positionKey.slot = .position) (prices : MarketPrices)
    (values : DecreasePositionCollateralValues) (fees : PositionPricingUtils.PositionFees) :
    Guards vault (finishDecrease env params prices values fees) := by
  intro w a w' h
  obtain ⟨run⟩ := finishDecrease_run h
  have h₁ : World.SameOff positionUpdateSlots w run.closed :=
    run.sameOff_closed (by decide) (by decide) (by decide) (hkey ▸ List.mem_cons_self)
  have h₂ : World.SameOff positionUpdateSlots run.closed run.lowered :=
    run.sameOff_lowered (by decide) (by decide)
  have h₃ : World.SameOff positionUpdateSlots run.lowered run.referred :=
    run.sameOff_referred (by decide) (by decide) (by decide)
  -- up to here no token has moved
  have hsame := (h₁.trans h₂).trans h₃
  have hnext : ({ params with position := run.position } : UpdatePositionParams).market.marketToken
      ≠ vault := hmarket
  exact trans_of (Guarded vault) (.of_sameOff hsame (by decide))
    (DecreasePositionSwapUtils.swapWithdrawnCollateralToPnlToken_guards hnext _ run.swapping)

/-- What a decrease pays out is with the market until then. -/
theorem decreasePosition_guards (hmarket : params.market.marketToken ≠ vault)
    (hkey : params.positionKey.slot = .position) :
    Guards vault (decreasePosition env params) := by
  intro w a w' h
  obtain ⟨run⟩ := decreasePosition_run h
  have hadjusted : ({ params with order := run.order } : UpdatePositionParams).market.marketToken
      ≠ vault := hmarket
  have h₁ : Guarded vault w run.updated := .of_sameOff
    (prepareDecrease_writes env params (List.Subset.refl marketStateSlots) run.preparing)
    (by decide)
  have h₂ : Guarded vault run.updated run.charged :=
    DecreasePositionCollateralUtils.processCollateral_guards hadjusted _ run.charging
  have h₃ : Guarded vault run.charged w' :=
    finishDecrease_guards hadjusted hkey run.prices run.values run.fees run.finishing
  exact trans_of (Guarded vault) (trans_of (Guarded vault) h₁ h₂) h₃

end DecreasePositionUtils

-- ---------------------------------------------------------------------------
-- Orders
-- ---------------------------------------------------------------------------

/-- The markets of an order are not the vault. -/
structure BaseOrderUtils.ExecuteOrderParams.Away (params : BaseOrderUtils.ExecuteOrderParams)
    (vault : Address) : Prop where
  market : params.market.marketToken ≠ vault
  orderMarket : params.order.market ≠ vault
  path : ∀ market ∈ params.swapPathMarkets, market.marketToken ≠ vault

/-- Loaded orders are for stored markets. -/
theorem BaseOrderHandler._getExecuteOrderParams_away {deployment : Deployment}
    {dataStore : DataStore} {key : StoreKey} {oracleParams : OracleBlockNumbers} {keeper : Address}
    {secondaryOrderType : SecondaryOrderType} {params : BaseOrderUtils.ExecuteOrderParams}
    (hvault : vault ≠ 0) (hnone : NoMarket vault dataStore) (hkeyed : MarketsKeyed dataStore)
    (h : _getExecuteOrderParams deployment dataStore key oracleParams keeper secondaryOrderType =
      .ok params) : params.Away vault := by
  simp only [_getExecuteOrderParams, Result.bind_eq_ok, Result.pure_eq_ok] at h
  obtain ⟨path, hpath, market, hmarket, rfl⟩ := h
  have hpaths := MarketUtils.getEnabledMarkets_ne hnone hpath
  split at hmarket
  case isTrue hset =>
    obtain ⟨rfl, henabled⟩ := MarketUtils.getEnabledMarket_eq_ok hmarket
    refine ⟨hnone _, ?_, hpaths⟩
    show (OrderStoreUtils.get dataStore key).market ≠ vault
    rw [← hkeyed _ henabled]
    exact hnone _
  case isFalse hset =>
    obtain rfl := Result.pure_eq_ok.mp hmarket
    refine ⟨hvault.symm, ?_, hpaths⟩
    show (OrderStoreUtils.get dataStore key).market ≠ vault
    rw [not_not.mp hset]
    exact hvault.symm

/-- The collateral that an order has in the vault: a decrease order only names an amount. -/
def collateralEscrow (order : Order) : Address → Nat :=
  if BaseOrderUtils.isIncreaseOrder order.orderType = true ∨
      BaseOrderUtils.isSwapOrder order.orderType = true then
    tokenAmount order.initialCollateralToken order.initialCollateralDeltaAmount
  else 0

section Orders

variable {params : BaseOrderUtils.ExecuteOrderParams}

/-- The collateral of an increase is paid by the bank that holds it. -/
theorem IncreaseOrderUtils.processOrder_guards (haway : params.Away vault)
    (hbank : params.orderVault ≠ vault) : Guards vault (processOrder env params) := by
  unfold processOrder
  refine (Guards.viewStore _).bind fun _ => (SwapUtils.swap_guards hbank haway.path).bind ?_
  rintro ⟨collateralToken, collateralIncrementAmount⟩
  refine (Guards.lift _).bind fun _ => (Guards.viewStore _).bind fun _ => ?_
  refine (Guards.lift _).bind fun _ => ?_
  exact (IncreasePositionUtils.increasePosition_guards rfl _).bind fun _ => .pure _

/-- An increase takes its collateral out of the vault. -/
theorem IncreaseOrderUtils.processOrder_flow (haway : params.Away vault)
    (hbank : params.orderVault = vault) (h : processOrder env params w = .ok (u, w')) :
    Flow (w.vaultBalance vault) 0
      (tokenAmount params.order.initialCollateralToken params.order.initialCollateralDeltaAmount)
      (w'.vaultBalance vault) := by
  unfold processOrder at h
  simp only [↓viewStore_bind_eq_ok] at h
  obtain ⟨_, -, h⟩ := h
  obtain ⟨_, w₁, hswap, h⟩ := Tx.bind_eq_ok.mp h
  simp only [↓Tx.lift_bind_eq_ok, ↓viewStore_bind_eq_ok] at h
  obtain ⟨_, -, _, -, _, -, h⟩ := h
  obtain ⟨_, w₂, hincrease, h⟩ := Tx.bind_eq_ok.mp h
  obtain ⟨-, rfl⟩ := Tx.pure_eq_ok.mp h
  have hpaid := SwapUtils.swap_flow (by rw [← hbank]) haway.path hswap
  exact hpaid.then_raised (IncreasePositionUtils.increasePosition_guards rfl _ hincrease)

/-- The output of a decrease is sent from its market, swapped or not. -/
theorem DecreaseOrderUtils.payOutput_guards (haway : params.Away vault)
    (result : DecreasePositionUtils.DecreasePositionResult) :
    Guards vault (payOutput env params result) := by
  have hsend (token : Address) (amount : Nat) : Guards vault
      (Bank.transferOutUnwrapping env params.order.market token params.order.receiver amount
        params.order.shouldUnwrapNativeToken) :=
    Bank.transferOutUnwrapping_guards haway.orderMarket _ _ _ _
  unfold payOutput
  refine .ite ?_ ?_
  · refine (Guards.lift _).bind fun _ => (hsend _ _).bind fun _ => ?_
    exact hsend _ _
  · refine (Guards.attempt (SwapUtils.swap_guards haway.orderMarket haway.path)).bind ?_
    intro swapped
    cases swapped with
    | ok output => exact .lift _
    | error error => exact (Guards.lift _).bind fun _ => hsend _ _

/-- A decrease is paid by its market. -/
theorem DecreaseOrderUtils.processOrder_guards (haway : params.Away vault) :
    Guards vault (processOrder env params) := by
  unfold processOrder
  refine (Guards.viewStore _).bind fun _ => (Guards.readStore _).bind fun position => ?_
  refine (Guards.lift _).bind fun _ => (Guards.lift _).bind fun _ => ?_
  refine (DecreasePositionUtils.decreasePosition_guards haway.market rfl).bind ?_
  rintro ⟨result, fees⟩
  exact payOutput_guards haway result

/-- A swap order is paid by the bank that holds its input. -/
theorem SwapOrderUtils.processOrder_guards (haway : params.Away vault)
    (hbank : params.orderVault ≠ vault) : Guards vault (processOrder env params) := by
  unfold processOrder
  refine (Guards.lift _).bind fun _ => (Guards.lift _).bind fun _ => ?_
  exact (SwapUtils.swap_guards hbank haway.path).bind fun _ => .pure _

/-- A swap order takes its input out of the vault. -/
theorem SwapOrderUtils.processOrder_flow (haway : params.Away vault)
    (hbank : params.orderVault = vault) (h : processOrder env params w = .ok (u, w')) :
    Flow (w.vaultBalance vault) 0
      (tokenAmount params.order.initialCollateralToken params.order.initialCollateralDeltaAmount)
      (w'.vaultBalance vault) := by
  unfold processOrder at h
  simp only [↓Tx.lift_bind_eq_ok] at h
  obtain ⟨_, -, _, -, h⟩ := h
  obtain ⟨_, w₁, hswap, h⟩ := Tx.bind_eq_ok.mp h
  obtain ⟨-, rfl⟩ := Tx.pure_eq_ok.mp h
  exact SwapUtils.swap_flow (by rw [← hbank]) haway.path hswap

namespace OrderUtils

/-- Only an order that the vault holds is paid by it. -/
theorem processOrder_guards (haway : params.Away vault) (hbank : params.orderVault ≠ vault) :
    Guards vault (processOrder env params) := by
  unfold processOrder
  refine .ite ?_ (.ite ?_ (.ite ?_ (Tx.keeps_revert _)))
  · exact IncreaseOrderUtils.processOrder_guards haway hbank
  · exact DecreaseOrderUtils.processOrder_guards haway
  · exact SwapOrderUtils.processOrder_guards haway hbank

/-- Such an order takes its collateral out of the vault. -/
theorem processOrder_flow (haway : params.Away vault) (hbank : params.orderVault = vault)
    (h : processOrder env params w = .ok (u, w')) :
    Flow (w.vaultBalance vault) 0 (collateralEscrow params.order) (w'.vaultBalance vault) := by
  unfold collateralEscrow
  unfold processOrder at h
  split_ifs at h with hincrease hdecrease hswap
  · rw [if_pos (Or.inl hincrease)]
    exact IncreaseOrderUtils.processOrder_flow haway hbank h
  · refine Flow.mono (DecreaseOrderUtils.processOrder_guards haway h) (fun _ => Nat.le_refl _) ?_
    exact fun _ => Nat.zero_le _
  · rw [if_pos (Or.inr hswap)]
    exact SwapOrderUtils.processOrder_flow haway hbank h
  · exact absurd h (by simp)

/-- Executing an order takes its collateral and its fee out of the vault. -/
theorem executeOrder_flow (hkey : params.key.slot = .request) (haway : params.Away vault)
    (hbank : params.orderVault = vault) (h : executeOrder env params w = .ok (u, w')) :
    Flow (w.vaultBalance vault) 0 (collateralEscrow params.order +
      tokenAmount (TokenUtils.wnt w.dataStore) params.order.executionFee)
      (w'.vaultBalance vault) := by
  obtain ⟨-, w₁, w₂, hremove, hprocess, hfee⟩ := executeOrder_eq_ok h
  have hremoved : World.SameOff orderSlots w w₁ := removeOrder_writes
    (by rw [hkey]; decide) (List.Subset.refl _) _ hremove
  have hprocessed : World.SameOff processSlots w₁ w₂ :=
    processOrder_writes env (List.Subset.refl _) params hprocess
  have hwnt : TokenUtils.wnt w₂.dataStore = TokenUtils.wnt w.dataStore :=
    (hprocessed.address (.constant .WNT) (by decide) _ rfl).trans
      (hremoved.address (.constant .WNT) (by decide) _ rfl)
  obtain ⟨_, -, rfl⟩ := removeOrder_eq_ok hremove
  have h₁ := processOrder_flow haway hbank hprocess
  rw [hbank] at hfee
  have h₂ := GasUtils.payExecutionFee_flow hfee
  rw [hwnt] at h₂
  exact h₁.trans h₂

/-- Executing an order that another bank holds takes nothing out of the vault. -/
theorem executeOrder_guards (haway : params.Away vault) (hbank : params.orderVault ≠ vault)
    (h : executeOrder env params w = .ok (u, w')) : Guarded vault w w' := by
  obtain ⟨-, w₁, w₂, hremove, hprocess, hfee⟩ := executeOrder_eq_ok h
  obtain ⟨_, -, rfl⟩ := removeOrder_eq_ok hremove
  exact trans_of (Guarded vault) (processOrder_guards haway hbank hprocess)
    (GasUtils.payExecutionFee_guards hbank _ _ _ hfee)

end OrderUtils

end Orders

-- ---------------------------------------------------------------------------
-- Deposits
-- ---------------------------------------------------------------------------

/-- An address that is no market stays so where no market is written. -/
theorem NoMarket.of_sameOff {slots : List Slot} (hnone : NoMarket vault w.dataStore)
    (h : World.SameOff slots w w') (hlist : Slot.constant .MARKET_LIST ∉ slots)
    (hmarket : Slot.market ∉ slots) : NoMarket vault w'.dataStore :=
  hnone.of_market_eq (funext fun _ => MarketStoreUtils.get_sameOff h hlist hmarket _)

namespace ExecuteDepositUtils

variable {params : ExecuteDepositParams} {swapPath : List Address}
  {initialToken market expectedOutputToken uiFeeReceiver : Address} {inputAmount outputAmount : Nat}

/-- The swap of a deposited token takes its input out of the vault. -/
theorem swap_flow (hnone : NoMarket vault w.dataStore) (hbank : params.depositVault = vault)
    (h : swap env params swapPath initialToken inputAmount market expectedOutputToken
      uiFeeReceiver w = .ok (outputAmount, w')) :
    Flow (w.vaultBalance vault) 0 (tokenAmount initialToken inputAmount)
      (w'.vaultBalance vault) := by
  unfold swap at h
  simp only [↓viewStore_bind_eq_ok] at h
  obtain ⟨swapPathMarkets, hpath, h⟩ := h
  obtain ⟨_, w₁, hswap, h⟩ := Tx.bind_eq_ok.mp h
  simp only [↓Tx.lift_bind_eq_ok, ↓Tx.view_bind_eq_ok, Tx.pure_eq_ok] at h
  obtain ⟨_, -, _, -, -, rfl⟩ := h
  exact SwapUtils.swap_flow (by rw [← hbank]) (MarketUtils.getEnabledMarkets_ne hnone hpath) hswap

/-- One that another bank pays takes nothing. -/
theorem swap_guarded (hnone : NoMarket vault w.dataStore) (hbank : params.depositVault ≠ vault)
    (h : swap env params swapPath initialToken inputAmount market expectedOutputToken
      uiFeeReceiver w = .ok (outputAmount, w')) : Guarded vault w w' := by
  unfold swap at h
  simp only [↓viewStore_bind_eq_ok] at h
  obtain ⟨swapPathMarkets, hpath, h⟩ := h
  obtain ⟨_, w₁, hswap, h⟩ := Tx.bind_eq_ok.mp h
  simp only [↓Tx.lift_bind_eq_ok, ↓Tx.view_bind_eq_ok, Tx.pure_eq_ok] at h
  obtain ⟨_, -, _, -, -, rfl⟩ := h
  exact SwapUtils.swap_guards hbank (MarketUtils.getEnabledMarkets_ne hnone hpath) hswap

/-- The price impact of a deposit is booked. -/
theorem applyPriceImpact_guards (_params : _ExecuteDepositParams)
    (amountAfterFees poolValue marketTokensSupply : Nat) :
    Guards vault (applyPriceImpact _params amountAfterFees poolValue marketTokensSupply) := by
  have himpact (token : Address) (price : Price) (priceImpactUsd : Int) : Guards vault
      (MarketUtils.applySwapImpactWithCap _params.market.marketToken token price priceImpactUsd) :=
    MarketUtils.applySwapImpactWithCap_guards _ _ _ _
  unfold applyPriceImpact
  refine .ite ?_ ?_
  · refine (himpact _ _ _).bind fun positiveImpactAmount => (Guards.lift _).bind fun _ => ?_
    refine (Guards.lift _).bind fun usdValue => (Guards.lift _).bind fun mintAmount => ?_
    refine (MarketUtils.applyDeltaToPoolAmount_guards _ _ _).bind fun _ => ?_
    exact (Guards.viewStore _).bind fun _ => .pure _
  · refine (himpact _ _ _).bind fun negativeImpactAmount => (Guards.lift _).bind fun _ => ?_
    exact (Guards.lift _).bind fun _ => (Guards.lift _).bind fun _ => .pure _

/-- Market tokens are minted, nothing is taken from a vault. -/
theorem _executeDeposit_guards (_params : _ExecuteDepositParams) :
    Guards vault (_executeDeposit env _params) := by
  unfold _executeDeposit
  refine (Guards.viewStore _).bind fun fees => ?_
  refine (FeeUtils.incrementClaimableFeeAmount_guards _ _ _).bind fun _ => ?_
  refine (FeeUtils.incrementClaimableUiFeeAmount_guards _ _ _ _).bind fun _ => ?_
  refine (Guards.viewStore _).bind fun poolValueInfo => (Guards.lift _).bind fun _ => ?_
  refine (Guards.lift _).bind fun poolValue => (Guards.read _).bind fun marketTokensSupply => ?_
  refine (applyPriceImpact_guards _ _ _ _).bind ?_
  rintro ⟨amountAfterFees, mintAmountForImpact⟩
  refine (Guards.lift _).bind fun _ => (Guards.lift _).bind fun _ => ?_
  refine (Guards.lift _).bind fun mintAmount => (Guards.lift _).bind fun _ => ?_
  refine (Guards.lift _).bind fun delta => ?_
  refine (MarketUtils.applyDeltaToPoolAmount_guards _ _ delta).bind fun _ => ?_
  refine (Guards.viewStore _).bind fun _ => ?_
  exact (MarketToken.mint_guards _ _ _).bind fun _ => .pure _

/-- So for the two tokens of a deposit. -/
theorem depositAmounts_guards (deposit : Deposit) (market : Market) (prices : MarketPrices)
    (longTokenAmount shortTokenAmount : Nat) :
    Guards vault (depositAmounts env deposit market prices longTokenAmount shortTokenAmount) := by
  unfold depositAmounts
  refine (Guards.lift _).bind fun _ => (Guards.lift _).bind fun longTokenUsd => ?_
  refine (Guards.lift _).bind fun _ => (Guards.lift _).bind fun shortTokenUsd => ?_
  -- the parameters of the price impact
  refine (Guards.lift _).bind fun _ => (Guards.lift _).bind fun _ => ?_
  refine (Guards.lift _).bind fun _ => (Guards.lift _).bind fun _ => ?_
  refine (Guards.viewStore _).bind fun priceImpactUsd => ?_
  have hshare (usd : Nat) (params : Int → _ExecuteDepositParams) : Guards vault (do
      let totalUsd ← toInt256 (← add longTokenUsd shortTokenUsd)
      let share ← divInt (← mulInt priceImpactUsd (← toInt256 usd)) totalUsd
      _executeDeposit env (params share) : Tx Nat) := by
    refine (Guards.lift _).bind fun _ => (Guards.lift _).bind fun totalUsd => ?_
    refine (Guards.lift _).bind fun _ => (Guards.lift _).bind fun _ => ?_
    exact (Guards.lift _).bind fun share => _executeDeposit_guards (params share)
  refine (Guards.ite (hshare longTokenUsd _) (.pure _)).bind fun mintAmountForLong => ?_
  exact (Guards.ite (hshare shortTokenUsd _) (.pure _)).bind fun mintAmountForShort => .lift _

end ExecuteDepositUtils

-- ---------------------------------------------------------------------------
-- Withdrawals
-- ---------------------------------------------------------------------------

namespace WithdrawalUtils

/-- The output is paid by the market. -/
theorem swap_guarded {market tokenIn : Address} {amountIn minOutputAmount : Nat}
    {swapPath : List Address} {withdrawal : Withdrawal} (hnone : NoMarket vault w.dataStore)
    (hmarket : market ≠ vault)
    (h : swap env market tokenIn amountIn swapPath minOutputAmount withdrawal w = .ok (u, w')) :
    Guarded vault w w' := by
  unfold swap at h
  simp only [↓viewStore_bind_eq_ok] at h
  obtain ⟨swapPathMarkets, hpath, h⟩ := h
  obtain ⟨_, w₁, hswap, h⟩ := Tx.bind_eq_ok.mp h
  obtain ⟨-, rfl⟩ := Tx.view_eq_ok.mp h
  exact SwapUtils.swap_guards hmarket (MarketUtils.getEnabledMarkets_ne hnone hpath) hswap

/-- Charging the fees of a withdrawal moves no token. -/
theorem chargeFees_guards (withdrawal : Withdrawal) (market token : Address) (outputAmount : Nat) :
    Guards vault (chargeFees withdrawal market token outputAmount) := by
  have hwrites : Writes [.constant .CLAIMABLE_FEE_AMOUNT, .constant .CLAIMABLE_UI_FEE_AMOUNT]
      (chargeFees withdrawal market token outputAmount) :=
    chargeFees_writes (by decide) (by decide) _ _ _ _
  exact .of_writes hwrites (by decide)

/-- Only the burning of the market tokens concerns a vault. -/
theorem _executeWithdrawal_burns {params : ExecuteWithdrawalParams} {withdrawal : Withdrawal}
    (hnone : NoMarket vault w.dataStore)
    (h : _executeWithdrawal env params withdrawal w = .ok (u, w')) :
    ∃ (market : Market) (balance : Nat) (w₁ w₂ w₃ : World),
      MarketUtils.getEnabledMarket w.dataStore withdrawal.market = .ok market ∧
      Guarded vault w w₁ ∧
      MarketToken.burn market.marketToken params.withdrawalVault withdrawal.marketTokenAmount w₁ =
        .ok ((), w₂) ∧
      StrictBank.syncTokenBalance params.withdrawalVault market.marketToken w₂ =
        .ok (balance, w₃) ∧
      Guarded vault w₃ w' := by
  obtain ⟨run⟩ := _executeWithdrawal_run h
  -- before the burn no token moves, and the markets stay to the end
  have hall : swapSlots ⊆ swapSlots := List.Subset.refl _
  have hlong : World.SameOff swapSlots run.synced run.longSwapped :=
    swap_writes env hall _ _ _ _ _ _ run.longSwapping
  have hsynced : NoMarket vault run.synced.dataStore :=
    hnone.of_sameOff (run.sameOff_synced hall) (by decide) (by decide)
  have hswapped : NoMarket vault run.longSwapped.dataStore :=
    hsynced.of_sameOff hlong (by decide) (by decide)
  have hmarketToken : run.market.marketToken ≠ vault :=
    MarketUtils.getEnabledMarket_ne hnone run.enabledMarket
  refine ⟨run.market, run.balance, run.shortPaid, run.burned, run.synced, run.enabledMarket, ?_,
    run.burning, run.syncing, ?_⟩
  · have hfees := trans_of (Guarded vault) (chargeFees_guards _ _ _ _ run.longCharging)
      (chargeFees_guards _ _ _ _ run.shortCharging)
    have hpools := trans_of (Guarded vault)
      (MarketUtils.applyDeltaToPoolAmount_guards _ _ _ run.longPaying)
      (MarketUtils.applyDeltaToPoolAmount_guards _ _ _ run.shortPaying)
    exact trans_of (Guarded vault) hfees hpools
  · exact trans_of (Guarded vault) (swap_guarded hsynced hmarketToken run.longSwapping)
      (swap_guarded hswapped hmarketToken run.shortSwapping)

end WithdrawalUtils

end GmxSynthetics
