import GmxSynthetics.Position.PositionBook
import GmxSynthetics.Swap.SwapCustody

/-!
# Position updates and the custody of the market

An increase books what its order has sent the market. A decrease takes off the book what the order
will pay out, and moves no tokens yet: where it swaps, it swaps inside its market.

* `SameBalances` — calls that move no tokens;
* `increasePosition_gains`, `decreasePosition_gains` — the surplus of the market falls by the
  collateral that is booked, and grows by the payouts that are taken off the book.
-/

namespace GmxSynthetics

open Evm MarketUtils PositionUtils

variable {env : Env} {w w' : World} {account : Address} {params : UpdatePositionParams}

-- ---------------------------------------------------------------------------
-- Calls that move no tokens
-- ---------------------------------------------------------------------------

/-- Every account holds what it held. -/
def SameBalances (w w' : World) : Prop := w'.balances = w.balances

instance : IsPreorder World SameBalances where
  refl _ := rfl
  trans _ _ _ h h' := Eq.trans h' h

theorem SameBalances.of_sameOff {slots : List Slot} (h : World.SameOff slots w w')
    (hslots : Slot.tokens ∉ slots) : SameBalances w w' := (h.tokens hslots).1

/-- A call that never writes the token ledger moves no balance. -/
theorem SameBalances.of_writes {α : Type} {x : Tx α} {slots : List Slot} (hx : Writes slots x)
    (hslots : Slot.tokens ∉ slots) : Tx.Keeps SameBalances x :=
  fun _ _ _ h => .of_sameOff (hx h) hslots

/-- An account whose balances stay receives nothing. -/
theorem SameBalances.receives (h : SameBalances w w') : Receives account 0 w w' := by
  intro token
  rw [h, Pi.zero_apply, add_zero]

/-- Where no balance moves, the surplus shrinks by what is booked. -/
theorem SameBalances.gains {booked : Address → Address → Int} (h : SameBalances w w')
    (hbooked : Moves booked w w') : Gains account (-booked account) w w' := by
  have hgains : Gains account (0 - booked account) w w' := .of_moves h.receives hbooked
  rwa [zero_sub] at hgains

/-- A hop that is paid to its own market. -/
theorem SwapUtils._swap_sameBalances {swapParams : SwapParams} {_params : _SwapParams}
    (hreceiver : _params.receiver = _params.market.marketToken) :
    Tx.Keeps SameBalances (_swap env swapParams _params) := by
  rintro w ⟨tokenOut, amountOut⟩ w' h
  obtain ⟨run⟩ := _swap_run h
  have h₁ : SameBalances w run.booked := .of_writes
    (FeeUtils.incrementClaimableFeeAmount_writes (List.mem_singleton_self _) _ _ _) (by decide)
    run.booking
  have h₂ : SameBalances run.booked run.uiBooked := .of_writes
    (FeeUtils.incrementClaimableUiFeeAmount_writes (List.mem_singleton_self _) _ _ _ _) (by decide)
    run.uiBooking
  have h₃ : SameBalances run.uiBooked run.impacted := .of_writes
    (applyPriceImpact_writes (List.mem_singleton_self _) _ _ _ _ _ _ _) (by decide) run.impacting
  have h₄ := run.transferring
  rw [if_neg (not_not.mpr hreceiver)] at h₄
  obtain ⟨-, htransferred⟩ := Tx.pure_eq_ok.mp h₄
  have hpools (token : Address) (delta : Int) : Writes ledgerSlots
      (applyDeltaToPoolAmount _params.market.marketToken token delta) :=
    applyDeltaToPoolAmount_writes (by decide) (by decide) _ _ _
  have h₅ : SameBalances run.transferred run.received := .of_writes (hpools _ _) (by decide)
    run.receiving
  have h₆ : SameBalances run.received w' := .of_writes (hpools _ _) (by decide) run.paying
  rw [← htransferred] at h₅
  exact trans_of SameBalances (trans_of SameBalances (trans_of SameBalances
    (trans_of SameBalances h₁ h₂) h₃) h₅) h₆

namespace DecreasePositionSwapUtils

/-- The swaps of a decrease stay inside its market, which is bank, path and receiver. -/
theorem swapInMarket_sameBalances (params : UpdatePositionParams) (tokenIn : Address)
    (amountIn : Nat) : Tx.Keeps SameBalances (swapInMarket env params tokenIn amountIn) := by
  rintro w ⟨tokenOut, amountOut⟩ w' h
  unfold swapInMarket SwapUtils.swap at h
  split at h
  case isTrue =>
    obtain ⟨-, rfl⟩ := Tx.pure_eq_ok.mp h
    exact refl_of SameBalances w
  case isFalse =>
    dsimp only at h
    rw [if_neg (not_not.mpr rfl)] at h
    obtain ⟨_, w₁, hstart, h⟩ := Tx.bind_eq_ok.mp h
    obtain ⟨-, rfl⟩ := Tx.pure_eq_ok.mp hstart
    obtain ⟨⟨token, amount⟩, w₂, hwalk, h⟩ := Tx.bind_eq_ok.mp h
    obtain ⟨_, w₃, hclear, h⟩ := Tx.bind_eq_ok.mp h
    simp only [↓Tx.lift_bind_eq_ok, Tx.pure_eq_ok] at h
    obtain ⟨_, -, -, rfl⟩ := h
    unfold SwapUtils.swapAlongPath at hwalk
    simp only [↓readStore_bind_eq_ok, ↓Tx.lift_bind_eq_ok, ↓writeStore_bind_eq_ok] at hwalk
    obtain ⟨_, -, hwalk⟩ := hwalk
    obtain ⟨⟨token', amount'⟩, w₄, hhop, hrest⟩ := Tx.bind_eq_ok.mp hwalk
    simp only [SwapUtils.swapAlongPath, Tx.pure_eq_ok] at hrest
    obtain ⟨-, rfl⟩ := hrest
    have hhop := SwapUtils._swap_sameBalances (by rfl) hhop
    have hclear : SameBalances w₄ w₃ := .of_writes
      (Writes.forM fun _ => SwapUtils.setSwapPathMarketFlag_writes _ false) (by decide) hclear
    exact trans_of SameBalances hhop hclear

/-- Swapping the profit to the collateral token moves it between pools of one market. -/
theorem swapProfitToCollateralToken_sameBalances (params : UpdatePositionParams)
    (pnlToken : Address) (profitAmount : Nat) :
    Tx.Keeps SameBalances (swapProfitToCollateralToken env params pnlToken profitAmount) :=
  Tx.keeps_ite (Tx.keeps_bind (Tx.keeps_attempt (swapInMarket_sameBalances _ _ _)) fun swapped =>
    match swapped with
    | .ok (_, _) => Tx.keeps_pure _
    | .error _ => Tx.keeps_pure _) (Tx.keeps_pure _)

/-- So does swapping withdrawn collateral to the profit's token. -/
theorem swapWithdrawnCollateralToPnlToken_sameBalances (params : UpdatePositionParams)
    (values : DecreasePositionCollateralValues) :
    Tx.Keeps SameBalances (swapWithdrawnCollateralToPnlToken env params values) :=
  Tx.keeps_ite (Tx.keeps_bind (Tx.keeps_attempt (swapInMarket_sameBalances _ _ _)) fun swapped =>
    match swapped with
    | .ok (_, _) => Tx.keeps_bind (Tx.keeps_lift _) fun _ =>
      Tx.keeps_bind (Tx.keeps_lift _) fun _ => Tx.keeps_pure _
    | .error _ => Tx.keeps_pure _) (Tx.keeps_pure _)

end DecreasePositionSwapUtils

namespace DecreasePositionCollateralUtils

/-- Realizing a profit moves it from a pool to the output, in the books only. -/
theorem realizeProfit_sameBalances (params : UpdatePositionParams) (cache : DecreasePositionCache)
    (positionPnlUsd adjustedPositionPnlUsd : Int) :
    Tx.Keeps SameBalances
      (realizeProfit env params cache positionPnlUsd adjustedPositionPnlUsd) :=
  have hledger : Slot.tokens ∉ ledgerSlots := by decide
  Tx.keeps_ite
    (Tx.keeps_bind (Tx.keeps_lift _) fun _ => Tx.keeps_bind (Tx.keeps_lift _) fun _ =>
      Tx.keeps_bind (Tx.keeps_lift _) fun _ => Tx.keeps_bind (Tx.keeps_lift _) fun _ =>
      Tx.keeps_bind (Tx.keeps_lift _) fun _ =>
      Tx.keeps_bind (SameBalances.of_writes (.ite
        (incrementClaimableCollateralAmount_writes (by decide) _ _ _ _ _) (.pure _)) hledger)
        fun _ =>
      Tx.keeps_bind (Tx.keeps_lift _) fun _ => Tx.keeps_bind (Tx.keeps_lift _) fun _ =>
      Tx.keeps_bind (SameBalances.of_writes
        (applyDeltaToPoolAmount_writes (by decide) (by decide) _ _ _) hledger) fun _ =>
      Tx.keeps_bind
        (DecreasePositionSwapUtils.swapProfitToCollateralToken_sameBalances _ _ _)
        fun swapped =>
      match swapped with
      | some _ => Tx.keeps_pure _
      | none => Tx.keeps_ite (Tx.keeps_pure _) (Tx.keeps_pure _))
    (Tx.keeps_pure _)

/-- Settling collateral, fees and price impact is bookkeeping throughout. -/
theorem processCollateral_sameBalances (params : UpdatePositionParams)
    (cache : DecreasePositionCache) :
    Tx.Keeps SameBalances (processCollateral env params cache) :=
  have hledger : Slot.tokens ∉ ledgerSlots := by decide
  have hrealize : Tx.Keeps SameBalances (realizePnl env params cache) :=
    Tx.keeps_bind (Tx.keeps_lift _) fun _ => Tx.keeps_bind (Tx.keeps_view _) fun ⟨_, _, _⟩ =>
      Tx.keeps_bind (Tx.keeps_view _) fun ⟨_, _⟩ => Tx.keeps_bind (Tx.keeps_lift _) fun _ =>
      Tx.keeps_bind (Tx.keeps_view _) fun _ =>
      Tx.keeps_bind (realizeProfit_sameBalances _ _ _ _) fun ⟨_, _⟩ => Tx.keeps_pure _
  Tx.keeps_bind hrealize fun _ => Tx.keeps_bind (Tx.keeps_lift _) fun _ =>
    Tx.keeps_ite
      (Tx.keeps_ite (SameBalances.of_writes (processForceClose_writes env params
        (paymentSlots_subset (List.Subset.refl _)) _ _ _ _) hledger)
        (Tx.keeps_lift _))
      (SameBalances.of_writes (payFromCollateral_writes env params (List.Subset.refl _) _) hledger)

end DecreasePositionCollateralUtils

namespace DecreasePositionUtils

/-- A decrease moves no token: what it pays out is sent by the order that calls it. -/
theorem decreasePosition_sameBalances (hkey : params.positionKey.slot = .position) :
    Tx.Keeps SameBalances (decreasePosition env params) := by
  intro w result w' h
  obtain ⟨run⟩ := decreasePosition_run h
  obtain ⟨finish⟩ := finishDecrease_run run.finishing
  have h₁ : SameBalances w run.updated := .of_writes
    (prepareDecrease_writes env params (List.Subset.refl marketStateSlots)) (by decide)
    run.preparing
  have h₂ : SameBalances run.updated run.charged :=
    DecreasePositionCollateralUtils.processCollateral_sameBalances _ _ run.charging
  have hclosed : World.SameOff positionUpdateSlots run.charged finish.closed :=
    finish.sameOff_closed (by decide) (by decide) (by decide) (hkey ▸ List.mem_cons_self)
  have hlowered : World.SameOff positionUpdateSlots finish.closed finish.lowered :=
    finish.sameOff_lowered (by decide) (by decide)
  have hreferred : World.SameOff positionUpdateSlots finish.lowered finish.referred :=
    finish.sameOff_referred (by decide) (by decide) (by decide)
  have h₃ : SameBalances run.charged finish.referred :=
    .of_sameOff ((hclosed.trans hlowered).trans hreferred) (by decide)
  have h₄ := DecreasePositionSwapUtils.swapWithdrawnCollateralToPnlToken_sameBalances _ _
    finish.swapping
  exact trans_of SameBalances (trans_of SameBalances (trans_of SameBalances h₁ h₂) h₃) h₄

end DecreasePositionUtils

-- ---------------------------------------------------------------------------
-- The surplus
-- ---------------------------------------------------------------------------

/-- An increase books no more than the collateral that has arrived. -/
theorem IncreasePositionUtils.increasePosition_gains (hparams : params.Consistent)
    (hkey : params.positionKey.slot = .position) {collateralIncrementAmount : Nat}
    {fees : PositionPricingUtils.PositionFees}
    (h : increasePosition env params collateralIncrementAmount w = .ok (fees, w')) :
    Gains account (entry params.market.marketToken params.position.collateralToken
      (-collateralIncrementAmount) account) w w' := by
  have hsame : SameBalances w w' := .of_writes
    (increasePosition_writes env (List.Subset.refl positionUpdateSlots) params hkey _) (by decide) h
  refine (hsame.gains (increasePosition_moves hparams h)).mono fun token => ?_
  simp only [Pi.neg_apply, entry]
  split_ifs <;> omega

/-- A decrease takes its payouts off the book, and what it keeps for funding or loses. -/
theorem DecreasePositionUtils.decreasePosition_gains (hparams : params.Consistent)
    (hkey : params.positionKey.slot = .position) {result : DecreasePositionResult}
    {fees : PositionPricingUtils.PositionFees}
    (h : decreasePosition env params w = .ok ((result, fees), w')) :
    Gains account (payouts params.market.marketToken result account) w w' := by
  have hsame := decreasePosition_sameBalances hkey h
  cases hforce : takesForceClose env params w with
  | false =>
    refine (hsame.gains (decreasePosition_moves hparams hforce h)).mono fun token => ?_
    simp only [payouts, Pi.neg_apply, Pi.add_apply, Pi.sub_apply, entry]
    split_ifs <;> omega
  | true =>
    refine (hsame.gains (decreasePosition_moves_of_forceClose hparams hforce h)).mono
      fun token => ?_
    simp only [payouts, Pi.neg_apply, Pi.add_apply, Pi.sub_apply, entry]
    split_ifs <;> omega

/-- A decrease books in its own market only. -/
theorem DecreasePositionUtils.decreasePosition_untouched (hparams : params.Consistent)
    (hmarket : params.market.marketToken ≠ account) {result : DecreasePositionResult}
    {fees : PositionPricingUtils.PositionFees}
    (h : decreasePosition env params w = .ok ((result, fees), w')) : Untouched account w w' := by
  have hpayouts : payouts params.market.marketToken result account = 0 := by
    rw [payouts, Pi.add_apply, entry_apply_of_ne hmarket.symm, entry_apply_of_ne hmarket.symm,
      add_zero]
  cases hforce : takesForceClose env params w with
  | false =>
    refine .of_moves (decreasePosition_moves hparams hforce h) ?_
    rw [Pi.sub_apply, entry_apply_of_ne hmarket.symm, hpayouts, sub_zero]
  | true =>
    refine .of_moves (decreasePosition_moves_of_forceClose hparams hforce h) ?_
    rw [Pi.sub_apply, entry_apply_of_ne hmarket.symm, hpayouts, sub_zero]

end GmxSynthetics
