import GmxSynthetics.Exchange.OpenPositions
import GmxSynthetics.Position.ForceClose
import GmxSynthetics.Position.Underflows

/-!
# The cap of a withdrawal

A decrease may withdraw collateral. What losses, fees and capped impact leave is the most that
`processCollateral` hands out, but the estimate of a partial decrease subtracts the withdrawal from
the collateral before it is capped.

* `processCollateral_withdraws` — the withdrawal is capped by what is left of the collateral;
* `decreasePosition_of_exceeds` — an amount above the collateral ends a partial decrease;
* `decreasePosition_noUnderflow` — nothing else of it underflows, but for a force close;
* `decreasePosition_withdrawalCapped_iff` — when a partial decrease does not underflow.
-/

namespace GmxSynthetics.DecreasePositionUtils

open Evm Evm.Result MarketUtils PositionUtils PositionPricingUtils
  DecreasePositionCollateralUtils

variable {env : Env} {params : UpdatePositionParams} {prices : MarketPrices}
  {cache : DecreasePositionCache} {w w' : World}

-- ---------------------------------------------------------------------------
-- What is handed out
-- ---------------------------------------------------------------------------

/-- What losses, fees and capped impact leave of the collateral. -/
def collateralAfterCosts (pending : PendingCollateral) : Nat :=
  pending.values.remainingCollateralAmount - lossAmount pending -
    pending.fees.collateralCostAmount - pending.collateralCache.adjustedPriceImpactDiffAmount

/-- `withdrawn` of what is left of the collateral leaves the position, and nothing else is added to
the output. -/
structure Withdraws (pending : PendingCollateral) (values : DecreasePositionCollateralValues)
    (withdrawn : Nat) : Prop where
  remaining : values.remainingCollateralAmount + withdrawn = collateralAfterCosts pending
  output : values.output.outputAmount ≤ pending.values.output.outputAmount + withdrawn

variable {pending : PendingCollateral} {values : DecreasePositionCollateralValues}
  {fees : PositionFees}

/-- The withdrawal is the last thing that the collateral pays. -/
theorem payFromCollateral_withdraws
    (h : payFromCollateral env params pending w = .ok ((values, fees), w')) :
    ∃ withdrawn ≤ pending.initialCollateralDeltaAmount, Withdraws pending values withdrawn := by
  obtain ⟨left, withheld, withdrawn, hleft, hwithheld, hwithdrawn, -, -, hresult⟩ :=
    payFromCollateral_eq_ok h
  obtain ⟨rfl, -⟩ := Prod.mk.inj hresult
  refine ⟨withdrawn, by omega, ?_, Nat.le_refl _⟩
  unfold collateralAfterCosts
  dsimp only
  omega

/-- Nothing is handed out when a position is force closed. -/
theorem processForceClose_withdraws {collateralTokenPrice : Price}
    (hdeduction : pending.values.pendingCollateralDeduction =
      pending.fees.collateralCostAmount + lossAmount pending)
    (hexceeds : pending.values.pendingCollateralDeduction >
      pending.values.remainingCollateralAmount)
    (h : processForceClose env params pending.values pending.fees prices collateralTokenPrice w =
      .ok ((values, fees), w')) : Withdraws pending values 0 := by
  unfold processForceClose at h
  simp only [↓Tx.lift_bind_eq_ok] at h
  obtain ⟨_, -, h⟩ := h
  obtain ⟨_, w₁, -, h⟩ := Tx.bind_eq_ok.mp h
  simp only [↓Tx.lift_bind_eq_ok] at h
  obtain ⟨_, -, h⟩ := h
  obtain ⟨_, w₂, -, h⟩ := Tx.bind_eq_ok.mp h
  obtain ⟨_, w₃, -, h⟩ := Tx.bind_eq_ok.mp h
  obtain ⟨hresult, -⟩ := Tx.pure_eq_ok.mp h
  obtain ⟨rfl, -⟩ := Prod.mk.inj hresult
  refine ⟨?_, Nat.zero_le _⟩
  unfold collateralAfterCosts
  dsimp only
  omega

/-- What is compared with the collateral, and the withdrawal that the impact may have reduced. -/
theorem pendingCollateral_deduction {w₁ : World}
    (hpending : pendingCollateral env params cache w = .ok (pending, w₁)) :
    pending.values.pendingCollateralDeduction =
        pending.fees.collateralCostAmount + lossAmount pending ∧
      pending.initialCollateralDeltaAmount ≤ params.order.initialCollateralDeltaAmount := by
  obtain ⟨realized, w₂, hrealize, hpay⟩ := Tx.bind_eq_ok.mp hpending
  obtain ⟨hpaid, -⟩ := Tx.lift_eq_ok.mp hpay
  have hrealizes := realizePnl_eq_ok hrealize
  refine ⟨(pendingCollateral_eq_ok hrealizes.price hrealizes.pnl hpending).2.1, ?_⟩
  rw [(payFromProfit_takesOver hpaid).withdrawal, hrealizes.withdrawal]
  unfold adjustInitialCollateralDeltaAmount
  split_ifs <;> omega

/-- What is pending is paid from the collateral of the position. -/
theorem pendingCollateral_remaining {w₁ : World}
    (hpending : pendingCollateral env params cache w = .ok (pending, w₁)) :
    pending.values.remainingCollateralAmount = params.position.collateralAmount := by
  obtain ⟨realized, w₂, hrealize, hpay⟩ := Tx.bind_eq_ok.mp hpending
  obtain ⟨hpaid, -⟩ := Tx.lift_eq_ok.mp hpay
  obtain ⟨_, _, -, -, hremaining, -⟩ := payFromProfit_eq_ok (realizePnl_fees hrealize).1 hpaid
  exact hremaining

/-- **The cap of a withdrawal.** A decrease that succeeds hands out no more than was asked for and
no more than what losses, fees and capped impact leave of the collateral. -/
theorem processCollateral_withdraws {w₁ : World}
    (hpending : pendingCollateral env params cache w = .ok (pending, w₁))
    (h : processCollateral env params cache w = .ok ((values, fees), w')) :
    ∃ withdrawn ≤ params.order.initialCollateralDeltaAmount,
      Withdraws pending values withdrawn := by
  obtain ⟨hdeduction, hrequested⟩ := pendingCollateral_deduction hpending
  rcases Nat.lt_or_ge pending.values.remainingCollateralAmount
    pending.values.pendingCollateralDeduction with hexceeds | hcovered
  · rw [processCollateral_eq, Tx.bind_of_ok hpending, if_pos hexceeds] at h
    split at h
    · exact ⟨0, Nat.zero_le _, processForceClose_withdraws hdeduction hexceeds h⟩
    · cases h
  · obtain ⟨withdrawn, hle, hwithdraws⟩ :=
      payFromCollateral_withdraws (payFromCollateral_of_covered hpending hcovered h)
    exact ⟨withdrawn, Nat.le_trans hle hrequested, hwithdraws⟩

-- ---------------------------------------------------------------------------
-- The estimate of a partial decrease
-- ---------------------------------------------------------------------------

/-- What a partial decrease computes before it subtracts the withdrawal from the collateral: the
pnl that it is estimated to realise and to leave. -/
def estimatedPnl (dataStore : DataStore) (params : UpdatePositionParams) (prices : MarketPrices) :
    Result (Int × Int) := do
  let position := params.position
  let (estimatedPositionPnlUsd, _) ← getPositionPnlUsd dataStore params.market prices position
    (prices.indexTokenPrice.pickPriceForPnl position.isLong false) position.sizeInUsd
  let estimatedRealizedPnlUsd ←
    divInt (← mulInt estimatedPositionPnlUsd (← toInt256 params.order.sizeDeltaUsd))
      (← toInt256 position.sizeInUsd)
  let estimatedRemainingPnlUsd ← subInt estimatedPositionPnlUsd estimatedRealizedPnlUsd
  pure (estimatedRealizedPnlUsd, estimatedRemainingPnlUsd)

/-- The estimate continues with the withdrawal. -/
theorem estimateRemainingCollateral_eq (dataStore : DataStore)
    (hless : params.order.sizeDeltaUsd < params.position.sizeInUsd) :
    estimateRemainingCollateral dataStore params prices params.order = (do
      let (estimatedRealizedPnlUsd, estimatedRemainingPnlUsd) ←
        estimatedPnl dataStore params prices
      let positionCollateralAmount ←
        sub params.position.collateralAmount params.order.initialCollateralDeltaAmount
      let openInterestDelta ← negInt (← toInt256 params.order.sizeDeltaUsd)
      let (willBeSufficient, estimatedRemainingCollateralUsd) ←
        willPositionCollateralBeSufficient dataStore params.market prices
          params.position.collateralToken params.position.isLong
          { positionSizeInUsd := params.position.sizeInUsd - params.order.sizeDeltaUsd
            positionCollateralAmount
            realizedPnlUsd := estimatedRealizedPnlUsd
            openInterestDelta }
      pure (willBeSufficient, estimatedRemainingCollateralUsd, estimatedRemainingPnlUsd)) := by
  unfold estimateRemainingCollateral estimatedPnl
  simp only [bind_assoc, pure_bind, sub_bind_of_le (Nat.le_of_lt hless)]

/-- The order as a partial decrease first sees it. -/
theorem capSizeDelta_of_lt (hless : params.order.sizeDeltaUsd < params.position.sizeInUsd) :
    capSizeDelta params = .ok params.order := by
  unfold capSizeDelta
  dsimp only
  rw [if_neg (Nat.lt_asymm hless)]
  rfl

/-- A partial decrease fails as its estimate does. -/
theorem decreasePosition_of_estimate {e : Revert Errors}
    (hless : params.order.sizeDeltaUsd < params.position.sizeInUsd)
    (hprices : MarketUtils.getMarketPrices env params.market = .ok prices)
    (h : estimateRemainingCollateral w.dataStore params prices params.order = .error e) :
    decreasePosition env params w = .error e := by
  have hadjusts : adjustPartialDecrease w.dataStore params prices params.order = .error e := by
    unfold adjustPartialDecrease
    dsimp only
    rw [h]
    rfl
  have hadjust : adjustOrder w.dataStore params prices = .error e := by
    unfold adjustOrder
    rw [capSizeDelta_of_lt hless]
    show Except.bind (if params.order.sizeDeltaUsd < params.position.sizeInUsd then _ else _) _ = _
    rw [if_pos hless, hadjusts]
    rfl
  have hprepare : prepareDecrease env params w = .error e := by
    unfold prepareDecrease
    rw [Tx.bind_of_ok (Tx.lift_of_ok hprices)]
    exact Tx.bind_of_error (Tx.view_of_error hadjust)
  exact Tx.bind_of_error hprepare

/-- The run of a partial decrease reaches the withdrawal. -/
def ReachesWithdrawal (env : Env) (params : UpdatePositionParams) (dataStore : DataStore) : Prop :=
  ∃ prices pnl, MarketUtils.getMarketPrices env params.market = .ok prices ∧
    estimatedPnl dataStore params prices = .ok pnl

/-- A withdrawal of more than the collateral ends a partial decrease. -/
theorem decreasePosition_of_exceeds
    (hless : params.order.sizeDeltaUsd < params.position.sizeInUsd)
    (hreaches : ReachesWithdrawal env params w.dataStore)
    (hexceeds : params.position.collateralAmount < params.order.initialCollateralDeltaAmount) :
    decreasePosition env params w = .error (.panic .underflow) := by
  obtain ⟨prices, pnl, hprices, hestimate⟩ := hreaches
  have hunderflows : sub params.position.collateralAmount
      params.order.initialCollateralDeltaAmount =
        (.error (.panic .underflow) : Result Nat) := if_neg (Nat.not_le_of_lt hexceeds)
  refine decreasePosition_of_estimate hless hprices ?_
  rw [estimateRemainingCollateral_eq _ hless, hestimate]
  show Except.bind (sub params.position.collateralAmount _) _ = _
  rw [hunderflows]
  rfl

-- ---------------------------------------------------------------------------
-- What does not underflow
-- ---------------------------------------------------------------------------

section Stored

variable {residues : List Residue} (hparams : params.Consistent)
  (hstored : params.Stored w.dataStore) (hsound : (Accounting.of w.dataStore).Sound residues)

include hparams hstored hsound

/-- The open interest of the position's side covers what a partial decrease takes off it, also
where it is halved for each of two equal tokens. -/
theorem sizeDeltaUsd_le_openInterest
    (hless : params.order.sizeDeltaUsd < params.position.sizeInUsd) {openInterest : Nat}
    (h : getOpenInterest w.dataStore params.market params.position.isLong = .ok openInterest) :
    params.order.sizeDeltaUsd ≤ openInterest := by
  have hgroup : params.position.sizeInUsd ≤ w.dataStore.getUint (Keys.openInterestKey
      params.market.marketToken params.position.collateralToken params.position.isLong) := by
    rw [← hparams.positionMarket]
    exact (stored_covered hstored hsound).1
  simp only [getOpenInterest, getOpenInterestForCollateral, add_eq_ok] at h
  obtain ⟨-, rfl⟩ := h
  by_cases hsame : params.market.longToken = params.market.shortToken
  · have hcollateral : params.position.collateralToken = params.market.longToken :=
      hparams.collateralToken.elim id (·.trans hsame.symm)
    rw [hcollateral] at hgroup
    rw [← hsame, getPoolDivisor, if_pos rfl]
    omega
  · rw [getPoolDivisor, if_neg hsame, Nat.div_one, Nat.div_one]
    rcases hparams.collateralToken with hcollateral | hcollateral <;>
      rw [hcollateral] at hgroup <;> omega

/-- The estimate underflows at most where it subtracts the withdrawal. -/
theorem noUnderflow_estimateRemainingCollateral
    (hless : params.order.sizeDeltaUsd < params.position.sizeInUsd)
    (hcovered : ∀ pnl, estimatedPnl w.dataStore params prices = .ok pnl →
      params.order.initialCollateralDeltaAmount ≤ params.position.collateralAmount) :
    NoUnderflow (estimateRemainingCollateral w.dataStore params prices params.order) := by
  rw [estimateRemainingCollateral_eq _ hless]
  refine noUnderflow_bind.mpr ⟨?_, fun pnl hpnl => ?_⟩
  · simp [estimatedPnl, noUnderflow_getPositionPnlUsd (Nat.le_refl params.position.sizeInUsd)]
  · simp only [noUnderflow_bind, noUnderflow_sub, noUnderflow_toInt256, noUnderflow_negInt,
      hcovered pnl hpnl, noUnderflow_pure, implies_true, true_and, and_true]
    intro collateralAmount _ size hsize openInterestDelta hdelta
    obtain ⟨-, rfl⟩ := toInt256_eq_ok.mp hsize
    obtain ⟨-, rfl⟩ := negInt_eq_ok.mp hdelta
    refine noUnderflow_willPositionCollateralBeSufficient ?_ _ _
    intro openInterest hopenInterest
    have hle := sizeDeltaUsd_le_openInterest hparams hstored hsound hless hopenInterest
    dsimp only
    omega

/-- Adjusting the order underflows at most in the estimate. -/
theorem noUnderflow_adjustOrder
    (hless : params.order.sizeDeltaUsd < params.position.sizeInUsd)
    (hcovered : ∀ pnl, estimatedPnl w.dataStore params prices = .ok pnl →
      params.order.initialCollateralDeltaAmount ≤ params.position.collateralAmount) :
    NoUnderflow (adjustOrder w.dataStore params prices) := by
  have hestimate := noUnderflow_estimateRemainingCollateral hparams hstored hsound hless hcovered
  have hadjusts : NoUnderflow (adjustPartialDecrease w.dataStore params prices params.order) := by
    simp [adjustPartialDecrease, hestimate]
  unfold adjustOrder
  rw [capSizeDelta_of_lt hless]
  simp [hless, hadjusts]

/-- What a decrease prepares underflows at most in the estimate. -/
theorem noUnderflow_prepareDecrease
    (hconditions : UpdateConditions env params.market.marketToken params.order.isLong w.dataStore)
    (hless : params.order.sizeDeltaUsd < params.position.sizeInUsd)
    (hcovered : params.order.initialCollateralDeltaAmount ≤ params.position.collateralAmount ∨
      ¬ ReachesWithdrawal env params w.dataStore) :
    NoUnderflow (prepareDecrease env params w) := by
  simp only [prepareDecrease, ↓noUnderflow_lift_bind, ↓noUnderflow_viewStore_bind,
    noUnderflow_getMarketPrices, true_and]
  intro prices hprices
  refine ⟨noUnderflow_adjustOrder hparams hstored hsound hless fun pnl hpnl => ?_, ?_⟩
  · exact hcovered.resolve_right (not_not.mpr ⟨prices, pnl, hprices, hpnl⟩)
  · intro order hadjust
    obtain ⟨⟨_, _, _, rfl⟩, -⟩ := adjustOrder_isAdjusted params hadjust
    refine noUnderflow_tx_bind.mpr ⟨noUnderflow_updateFundingAndBorrowingState hconditions _, ?_⟩
    intro _ w₁ hupdate
    have hshares : FeeSharesInRange env w₁.dataStore := hconditions.shares.of_writes
      (updateFundingAndBorrowingState_writes env (by decide) _ _) hupdate
    simp [noUnderflow_isPositionLiquidatable hconditions.pow hshares]

end Stored

-- ---------------------------------------------------------------------------
-- The force close of a decrease that was raised to the whole position
-- ---------------------------------------------------------------------------

/-- A decrease runs into its force close where profit and funding fee exceed the fees: the order,
as it is adjusted, may be force closed, the collateral does not cover what is pending, and the
profit has paid for part of the funding fee. -/
structure ForceCloseFails (env : Env) (params : UpdatePositionParams) (w : World) : Prop where
  closable : ∃ prices order, MarketUtils.getMarketPrices env params.market = .ok prices ∧
    adjustOrder w.dataStore params prices = .ok order ∧
    isForceClosable { params with order } = true
  exceeds : takesForceClose env params w = true
  profit : totalCostDue env params w <
    profitInCollateralToken env params w + fundingFeeDue env params w

/-- The comparison comes after the preparation and the pending collateral. -/
theorem untilComparison_of_prepare {adjusted : UpdatePositionParams} {w₁ w₂ : World}
    (hprepare : prepareDecrease env params w = .ok ((adjusted, prices), w₁))
    (hpending : pendingCollateral env adjusted (makeCache adjusted prices) w₁ =
      .ok (pending, w₂)) :
    untilComparison env params w = .ok ((adjusted, prices, pending), w₂) := by
  obtain ⟨realized, w₃, hrealize, hpay⟩ := Tx.bind_eq_ok.mp hpending
  refine Tx.bind_eq_ok.mpr ⟨(adjusted, prices, realized), w₃, ?_, ?_⟩
  · exact Tx.bind_eq_ok.mpr ⟨_, _, hprepare, Tx.bind_eq_ok.mpr ⟨_, _, hrealize, rfl⟩⟩
  · exact Tx.bind_eq_ok.mpr ⟨_, _, hpay, rfl⟩

/-- Which comparison a force close has lost. -/
theorem takesForceClose_iff : takesForceClose env params w = true ↔
    ∃ adjusted prices w₁ pending w₂,
      prepareDecrease env params w = .ok ((adjusted, prices), w₁) ∧
      pendingCollateral env adjusted (makeCache adjusted prices) w₁ = .ok (pending, w₂) ∧
      pending.values.remainingCollateralAmount < pending.values.pendingCollateralDeduction := by
  constructor
  · intro h
    unfold takesForceClose at h
    cases hreached : untilComparison env params w with
    | error e =>
      rw [hreached] at h
      cases h
    | ok reached =>
      obtain ⟨⟨adjusted, prices, pending⟩, w₂⟩ := reached
      rw [hreached] at h
      obtain ⟨⟨adjusted, prices, realized⟩, w₃, hfees, hpay⟩ := Tx.bind_eq_ok.mp hreached
      obtain ⟨⟨adjusted, prices⟩, w₁, hprepare, hfees⟩ := Tx.bind_eq_ok.mp hfees
      obtain ⟨realized, w₃, hrealize, hfees⟩ := Tx.bind_eq_ok.mp hfees
      obtain ⟨heq, rfl⟩ := Tx.pure_eq_ok.mp hfees
      simp only [Prod.mk.injEq] at heq
      obtain ⟨rfl, rfl, rfl⟩ := heq
      obtain ⟨pending, w₄, hpaid, hpure⟩ := Tx.bind_eq_ok.mp hpay
      obtain ⟨heq, rfl⟩ := Tx.pure_eq_ok.mp hpure
      simp only [Prod.mk.injEq] at heq
      obtain ⟨rfl, rfl, rfl⟩ := heq
      exact ⟨_, _, w₁, _, _, hprepare, Tx.bind_eq_ok.mpr ⟨_, _, hrealize, hpaid⟩,
        of_decide_eq_true h⟩
  · rintro ⟨adjusted, prices, w₁, pending, w₂, hprepare, hpending, hexceeds⟩
    unfold takesForceClose
    rw [untilComparison_of_prepare hprepare hpending]
    exact decide_eq_true hexceeds

/-- Such a decrease fails on the subtraction of the funding fee. -/
theorem decreasePosition_of_forceCloseFails (h : ForceCloseFails env params w) :
    decreasePosition env params w = .error (.panic .underflow) := by
  obtain ⟨⟨prices, order, hprices, hadjust, hclosable⟩, hexceeds, hprofit⟩ := h
  obtain ⟨adjusted, prices', w₁, pending, w₂, hprepare, hpending, hexceeds⟩ :=
    takesForceClose_iff.mp hexceeds
  obtain ⟨order', hprices', hadjust', rfl, -⟩ := prepareDecrease_eq_ok hprepare
  obtain rfl : prices = prices' := Except.ok.inj (hprices.symm.trans hprices')
  obtain rfl : order = order' := Except.ok.inj (hadjust.symm.trans hadjust')
  have hreached := untilComparison_of_prepare hprepare hpending
  have hfunding : ¬ pending.fees.funding.fundingFeeAmount ≤
      pending.values.pendingCollateralDeduction := by
    rw [fundingFee_le_pendingDeduction_iff hreached hexceeds]
    exact not_le.mpr hprofit
  have hclose : processForceClose env { params with order } pending.values pending.fees prices
      pending.collateralTokenPrice w₂ = .error (.panic .underflow) := by
    have hsub : sub pending.values.pendingCollateralDeduction
        pending.fees.funding.fundingFeeAmount = (.error (.panic .underflow) : Result Nat) :=
      if_neg hfunding
    exact Tx.bind_of_error (Tx.lift_of_error hsub)
  unfold decreasePosition
  rw [Tx.bind_of_ok hprepare]
  refine Tx.bind_of_error ?_
  rw [processCollateral_eq, Tx.bind_of_ok hpending]
  dsimp only
  rw [if_pos hexceeds, if_pos hclosable]
  exact hclose

-- ---------------------------------------------------------------------------
-- When a withdrawal is capped
-- ---------------------------------------------------------------------------

/-- The tokens of a part of the position are no more than its tokens. -/
theorem getSizeDeltaInTokens_le {position : Position} {sizeDeltaUsd sizeDeltaInTokens : Nat}
    (hle : sizeDeltaUsd ≤ position.sizeInUsd)
    (h : getSizeDeltaInTokens position sizeDeltaUsd = .ok sizeDeltaInTokens) :
    sizeDeltaInTokens ≤ position.sizeInTokens := by
  have hscaled : position.sizeInTokens * sizeDeltaUsd ≤
      position.sizeInTokens * position.sizeInUsd := Nat.mul_le_mul_left _ hle
  unfold getSizeDeltaInTokens at h
  split at h
  · obtain rfl := Result.pure_eq_ok.mp h
    exact Nat.le_refl _
  · split at h
    · simp only [Result.bind_eq_ok, mul_eq_ok] at h
      obtain ⟨_, ⟨-, rfl⟩, h⟩ := h
      obtain ⟨hpos, rfl⟩ := Calc.roundUpDivision_eq_ok h
      refine Nat.le_of_lt_succ (Nat.div_lt_of_lt_mul ?_)
      rw [Nat.mul_succ, Nat.mul_comm position.sizeInUsd]
      omega
    · simp only [Result.bind_eq_ok, mul_eq_ok, div_eq_ok] at h
      obtain ⟨_, ⟨-, rfl⟩, -, rfl⟩ := h
      exact Nat.div_le_of_le_mul (by rwa [Nat.mul_comm position.sizeInUsd])

/-- Where neither the withdrawal nor the force close underflows, nothing else does. -/
theorem decreasePosition_noUnderflow {residues : List Residue} (hparams : params.Consistent)
    (hstored : params.Stored w.dataStore) (hsound : (Accounting.of w.dataStore).Sound residues)
    (hconditions : UpdateConditions env params.market.marketToken params.order.isLong w.dataStore)
    (hless : params.order.sizeDeltaUsd < params.position.sizeInUsd)
    (hcovered : params.order.initialCollateralDeltaAmount ≤ params.position.collateralAmount ∨
      ¬ ReachesWithdrawal env params w.dataStore)
    (hclose : ¬ ForceCloseFails env params w) : NoUnderflow (decreasePosition env params w) := by
  unfold decreasePosition
  refine noUnderflow_tx_bind.mpr
    ⟨noUnderflow_prepareDecrease hparams hstored hsound hconditions hless hcovered, ?_⟩
  rintro ⟨adjusted, prices⟩ w₁ hprepare
  obtain ⟨order, hprices, hadjust, rfl, hupdate⟩ := prepareDecrease_eq_ok hprepare
  obtain ⟨-, hsize, -⟩ := adjustOrder_isAdjusted params hadjust
  have hshares : FeeSharesInRange env w₁.dataStore := hconditions.shares.of_writes
    (updateFundingAndBorrowingState_writes env (by decide) _ _) hupdate
  have hkey : params.positionKey.slot = .position := slot_positionKey hstored
  refine noUnderflow_tx_bind.mpr ⟨?_, ?_⟩
  · refine noUnderflow_processCollateral hconditions.pow hshares hsize ?_
    intro pending w₂ hpending hexceeds hclosable
    rw [fundingFee_le_pendingDeduction_iff (untilComparison_of_prepare hprepare hpending) hexceeds]
    by_contra hprofit
    exact hclose ⟨⟨prices, order, hprices, hadjust, hclosable⟩,
      takesForceClose_iff.mpr ⟨_, _, _, _, _, hprepare, hpending, hexceeds⟩, not_le.mp hprofit⟩
  · rintro ⟨values, fees⟩ w₂ hprocess
    have hshares₂ : FeeSharesInRange env w₂.dataStore := hshares.of_writes
      (processCollateral_writes env _ _ (by decide) (by decide)) hprocess
    -- what is left to take off the position and off the total is part of them
    obtain ⟨pending, w₃, hpending, -⟩ := Tx.bind_eq_ok.mp
      ((processCollateral_eq env { params with order } (makeCache { params with order } prices)) ▸
        hprocess)
    obtain ⟨withdrawn, -, hwithdraws⟩ := processCollateral_withdraws hpending hprocess
    have hremaining := pendingCollateral_remaining hpending
    have htokens := getSizeDeltaInTokens_le hsize (processCollateral_sizeDeltaInTokens hprocess).1
    have hraises := processCollateral_raises hupdate hprocess
    have hborrowed := (stored_covered hstored hsound).2.2.2
    rw [← hraises.aggregate] at hborrowed
    have hleft : values.remainingCollateralAmount ≤ params.position.collateralAmount := by
      have hsplit := hwithdraws.remaining
      unfold collateralAfterCosts at hsplit
      dsimp only at hremaining
      omega
    have hclosing : NoUnderflow (closeDecreased env { params with order } values fees w₂) := by
      refine noUnderflow_closeDecreased { params with order } hsize htokens hleft ?_ fees
      dsimp only
      rw [← hparams.positionMarket]
      exact hborrowed
    dsimp only
    rw [finishDecrease_eq]
    refine noUnderflow_tx_bind.mpr ⟨hclosing, ?_⟩
    rintro ⟨nextPosition, values', collateralTaken⟩ w₄ hclosed
    refine noUnderflow_moveSums hconditions.pow ?_ _ _ _ _ _ _
    exact hshares₂.of_writes (closeDecreased_writes (by decide) { params with order } hkey _ _)
      hclosed

/-- An oversized withdrawal is capped, not fatal: the order does not fail with an arithmetic
underflow, and if it succeeds, what it withdraws is no more than what losses, fees and capped
impact leave. -/
structure WithdrawalCapped (env : Env) (params : UpdatePositionParams) (w : World) : Prop where
  notFatal : decreasePosition env params w ≠ .error (.panic .underflow)
  withdraws : ∀ result w', decreasePosition env params w = .ok (result, w') →
    ∃ adjusted prices w₁ pending w₂ values fees w₃ withdrawn,
      prepareDecrease env params w = .ok ((adjusted, prices), w₁) ∧
      pendingCollateral env adjusted (makeCache adjusted prices) w₁ = .ok (pending, w₂) ∧
      processCollateral env adjusted (makeCache adjusted prices) w₁ = .ok ((values, fees), w₃) ∧
      finishDecrease env adjusted prices values fees w₃ = .ok (result, w') ∧
      withdrawn ≤ collateralAfterCosts pending ∧ Withdraws pending values withdrawn

/-- What a decrease that succeeds withdraws. -/
theorem decreasePosition_withdraws {result : DecreasePositionResult × PositionFees}
    (h : decreasePosition env params w = .ok (result, w')) :
    ∃ adjusted prices w₁ pending w₂ values fees w₃ withdrawn,
      prepareDecrease env params w = .ok ((adjusted, prices), w₁) ∧
      pendingCollateral env adjusted (makeCache adjusted prices) w₁ = .ok (pending, w₂) ∧
      processCollateral env adjusted (makeCache adjusted prices) w₁ = .ok ((values, fees), w₃) ∧
      finishDecrease env adjusted prices values fees w₃ = .ok (result, w') ∧
      withdrawn ≤ collateralAfterCosts pending ∧ Withdraws pending values withdrawn := by
  obtain ⟨⟨adjusted, prices⟩, w₁, hprepare, h⟩ := Tx.bind_eq_ok.mp h
  obtain ⟨⟨values, fees⟩, w₃, hprocess, hfinish⟩ := Tx.bind_eq_ok.mp h
  obtain ⟨pending, w₂, hpending, -⟩ :=
    Tx.bind_eq_ok.mp (processCollateral_eq env adjusted (makeCache adjusted prices) ▸ hprocess)
  obtain ⟨withdrawn, -, hwithdraws⟩ := processCollateral_withdraws hpending hprocess
  refine ⟨adjusted, prices, w₁, pending, w₂, values, fees, w₃, withdrawn, hprepare, hpending,
    hprocess, hfinish, ?_, hwithdraws⟩
  rw [← hwithdraws.remaining]
  exact Nat.le_add_left _ _

/-- An order that closes half of the long position of account 9 and withdraws an amount. -/
def halveParams (initialCollateralDeltaAmount : Nat) (w : World) : UpdatePositionParams where
  market := ⟨1, 2, 3, 4⟩
  order := { Order.empty with
    account := 9
    market := 1
    initialCollateralToken := 3
    sizeDeltaUsd := 50 * 10 ^ 30
    initialCollateralDeltaAmount
    orderType := .MarketDecrease
    isLong := true }
  orderKey := .request 3
  position := PositionStoreUtils.get w.dataStore (.position 9 1 3 true)
  positionKey := .position 9 1 3 true
  secondaryOrderType := .None

/-- A state of the exchange in which that position is open, and what an update of it relies on. -/
structure HalveReady (env : Env) (w : World) : Prop where
  reachable : (exchange escrowDeployment).Reachable w
  consistent : ∀ amount, (halveParams amount w).Consistent
  stored : ∀ amount, (halveParams amount w).Stored w.dataStore
  conditions : UpdateConditions env 1 true w.dataStore
  size : (PositionStoreUtils.get w.dataStore (.position 9 1 3 true)).sizeInUsd = 100 * 10 ^ 30
  collateral : (PositionStoreUtils.get w.dataStore (.position 9 1 3 true)).collateralAmount = 1000

/-- The position has been opened, with 1000 tokens of collateral, and can be decreased. -/
theorem openLong_halveReady : ∃ w, HalveReady (openEnv 1 (60 * 10 ^ 30)) w ∧
    takesForceClose (openEnv 1 (60 * 10 ^ 30)) (halveParams 1000 w) w = false ∧
    Evm.Result.Satisfies (decreasePosition (openEnv 1 (60 * 10 ^ 30)) (halveParams 1000 w) w)
      (fun _ => True) ∧
    Evm.Result.FailsWith (decreasePosition (openEnv 1 (60 * 10 ^ 30)) (halveParams 1001 w) w)
      (.panic .underflow) := by
  obtain ⟨⟨w₁, w⟩, hok, hincrease, hmem, hposition, hclock, hshares, hruns⟩ := (by decide +kernel :
    openLong.Satisfies fun run =>
      BaseOrderUtils.isDecreaseOrder
        (OrderStoreUtils.get run.1.dataStore (.request 2)).orderType = false ∧
      .position 9 1 3 true ∈ run.2.dataStore.bytes32Sets (.base .POSITION_LIST) ∧
      (let position := PositionStoreUtils.get run.2.dataStore (.position 9 1 3 true)
       position.market = 1 ∧ position.collateralToken = 3 ∧ position.isLong = true ∧
        position.sizeInUsd = 100 * 10 ^ 30 ∧ position.collateralAmount = 1000) ∧
      (run.2.dataStore.getUint (Keys.fundingUpdatedAtKey 1) ≤ 1 ∧
        getCumulativeBorrowingFactorUpdatedAt run.2.dataStore 1 true ≤ 1) ∧
      (run.2.dataStore.getUint (.base .POSITION_FEE_RECEIVER_FACTOR) ≤
          Precision.FLOAT_PRECISION ∧
        run.2.dataStore.getUint (.base .BORROWING_FEE_RECEIVER_FACTOR) ≤
          Precision.FLOAT_PRECISION) ∧
      takesForceClose (openEnv 1 (60 * 10 ^ 30)) (halveParams 1000 run.2) run.2 = false ∧
      Evm.Result.Satisfies
        (decreasePosition (openEnv 1 (60 * 10 ^ 30)) (halveParams 1000 run.2) run.2)
        (fun _ => True) ∧
      Evm.Result.FailsWith
        (decreasePosition (openEnv 1 (60 * 10 ^ 30)) (halveParams 1001 run.2) run.2)
        (.panic .underflow)).exists
  obtain ⟨hmarket, hcollateral, hlong, hsize, hamount⟩ := hposition
  have hreach := (openLong_reachable hok hincrease).reachable
  obtain ⟨residues, hsound⟩ := exchange_sound escrowDeployment_sane hreach
  refine ⟨w, ⟨hreach, fun amount => ⟨rfl, hmarket, Or.inl hcollateral⟩, ?_, ?_, hsize, hamount⟩,
    hruns⟩
  · exact fun amount => stored_of_open hsound hmem rfl hlong.symm
  · exact ⟨hclock.1, hclock.2, fun x y => noUnderflow_ok _,
      ⟨fun _ => Nat.zero_le _, fun _ => Nat.zero_le _, fun _ => Nat.zero_le _⟩, hshares.1,
      hshares.2⟩

end GmxSynthetics.DecreasePositionUtils
