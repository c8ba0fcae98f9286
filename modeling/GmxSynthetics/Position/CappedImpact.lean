import GmxSynthetics.Market.ClaimAccounts
import GmxSynthetics.Position.PositionBook
import GmxSynthetics.Position.VirtualInventory

/-!
# Capped price impact

The part of a negative price impact that its cap removes is not given to the trader: a decrease
withholds it, first from the realised profit and then from the collateral, and makes it claimable.
The pool pays the whole profit.

* `ProfitRun` — how a profit leaves the pool and is then swapped;
* `payFromCollateral_eq_ok` — what the collateral pays, and in which order;
* `payFromCollateral_claims` — what is withheld from a collateral that suffices;
* `processCollateral_accounted_iff` — when the impact that the cap removed is accounted for.
-/

namespace GmxSynthetics.DecreasePositionCollateralUtils

open Evm MarketUtils PositionUtils PositionPricingUtils

variable {env : Env} {w w' : World} {params : UpdatePositionParams}
  {cache : DecreasePositionCache}

-- ---------------------------------------------------------------------------
-- What is made claimable
-- ---------------------------------------------------------------------------

/-- What the account of an order may claim of a token that is withheld now. -/
def claimableNow (env : Env) (params : UpdatePositionParams) (w : World) (token : Address) : Nat :=
  w.dataStore.getUint (Keys.claimableCollateralAmountForAccountKey params.market.marketToken token
    (claimableTimeKey env w.dataStore) params.order.account)

/-- An amount of one token. -/
def ofToken (token : Address) (amount : Nat) : Address → Nat :=
  fun token' => if token' = token then amount else 0

/-- From `w` to `w'` the given amounts are made claimable. -/
def Claims (env : Env) (params : UpdatePositionParams) (amounts : Address → Nat) (w w' : World) :
    Prop :=
  ∀ token, claimableNow env params w' token = claimableNow env params w token + amounts token

theorem ofToken_zero (token : Address) : ofToken token 0 = 0 := by
  funext token'
  unfold ofToken
  split <;> rfl

theorem Claims.trans {amounts amounts' : Address → Nat} {w₁ w₂ : World}
    (h : Claims env params amounts w w₁) (h' : Claims env params amounts' w₁ w₂) :
    Claims env params (amounts + amounts') w w₂ := by
  intro token
  rw [h' token, h token, Pi.add_apply, Nat.add_assoc]

theorem Claims.of_sameOff {slots : List Slot}
    (hslots : Slot.constant .CLAIMABLE_COLLATERAL_AMOUNT ∉ slots ∧
      Slot.constant .CLAIMABLE_COLLATERAL_TIME_DIVISOR ∉ slots)
    (h : World.SameOff slots w w') : Claims env params 0 w w' := by
  intro token
  have hdivisor := h.uint _ hslots.2 (.base .CLAIMABLE_COLLATERAL_TIME_DIVISOR) rfl
  unfold claimableNow claimableTimeKey
  rw [hdivisor, h.uint _ hslots.1 _ rfl]
  rfl

/-- Making an amount claimable makes that amount claimable. -/
theorem Claims.increment {token : Address} {delta : Nat} {u : Unit}
    (h : incrementClaimableCollateralAmount env params.market.marketToken token
      params.order.account delta w = .ok (u, w')) :
    Claims env params (ofToken token delta) w w' := by
  have hwrites : World.SameOff [.constant .CLAIMABLE_COLLATERAL_AMOUNT] w w' :=
    incrementClaimableCollateralAmount_writes (List.mem_singleton_self _) _ _ _ _ _ h
  have htimeKey : claimableTimeKey env w'.dataStore = claimableTimeKey env w.dataStore :=
    congrArg (env.timestamp / ·) (hwrites.uint (.constant .CLAIMABLE_COLLATERAL_TIME_DIVISOR)
      (by decide) (.base .CLAIMABLE_COLLATERAL_TIME_DIVISOR) rfl)
  have hamounts := incrementClaimableCollateralAmount_amounts h
  intro token'
  have hclaimable := congrFun hamounts (.claimable params.market.marketToken token'
    (claimableTimeKey env w.dataStore) params.order.account)
  unfold claimableNow
  rw [htimeKey]
  refine hclaimable.trans ?_
  unfold moveCollateral ofToken
  by_cases htoken : token' = token
  · simp [htoken, claimAmounts, ClaimKey.key]
  · simp [htoken, claimAmounts, ClaimKey.key]

-- ---------------------------------------------------------------------------
-- What is withheld from the profit
-- ---------------------------------------------------------------------------

/-- The amount of a token in the pool of a market, as it is stored. -/
def storedPoolAmount (w : World) (market token : Address) : Nat :=
  w.dataStore.getUint (Keys.poolAmountKey market token)

/-- What a profit adds to the output in the collateral token and to that in the pnl token. -/
def profitOutputs (params : UpdatePositionParams) (cache : DecreasePositionCache)
    (pnlAmountForUser : Nat) : Option Nat → Nat × Nat
  | some swapOutputAmount => (swapOutputAmount, 0)
  | none =>
    if params.position.collateralToken = cache.pnlToken then (pnlAmountForUser, 0)
    else (0, pnlAmountForUser)

/-- A run of `realizeProfit` from `w` to `w'`. In `taken` the profit has left the pool and is not
yet swapped. -/
inductive ProfitRun (env : Env) (params : UpdatePositionParams) (cache : DecreasePositionCache)
    (positionPnlUsd adjustedPositionPnlUsd : Int) (outputs : Nat × Nat) (w taken w' : World) :
    Prop
  | profit (deductionAmountForPool pnlAmountForUser poolAmount : Nat) (swapped : Option Nat)
      (claimed : World) (positive : 0 < adjustedPositionPnlUsd)
      (deduction : deductionAmountForPool = positionPnlUsd.toNat / cache.pnlTokenPrice.max)
      (kept : pnlAmountForUser = adjustedPositionPnlUsd.toNat / cache.pnlTokenPrice.max)
      (covered : pnlAmountForUser ≤ deductionAmountForPool)
      (claiming : (if deductionAmountForPool - pnlAmountForUser > 0 then
          incrementClaimableCollateralAmount env params.market.marketToken cache.pnlToken
            params.order.account (deductionAmountForPool - pnlAmountForUser)
        else pure ()) w = .ok ((), claimed))
      (taking : applyDeltaToPoolAmount params.market.marketToken cache.pnlToken
        (-deductionAmountForPool) claimed = .ok (poolAmount, taken))
      (swapping : DecreasePositionSwapUtils.swapProfitToCollateralToken env params cache.pnlToken
        pnlAmountForUser taken = .ok (swapped, w'))
      (paid : outputs = profitOutputs params cache pnlAmountForUser swapped)
  | nothing (nonpositive : adjustedPositionPnlUsd ≤ 0) (untaken : taken = w) (unchanged : w' = w)
      (unpaid : outputs = (0, 0))

variable {positionPnlUsd adjustedPositionPnlUsd : Int} {outputs : Nat × Nat} {taken : World}

/-- Whatever `realizeProfit` does is such a run. -/
theorem realizeProfit_run
    (h : realizeProfit env params cache positionPnlUsd adjustedPositionPnlUsd w =
      .ok (outputs, w')) :
    ∃ taken, ProfitRun env params cache positionPnlUsd adjustedPositionPnlUsd outputs w taken
      w' := by
  unfold realizeProfit at h
  split at h
  · rename_i hpositive
    simp only [↓Tx.lift_bind_eq_ok, toUint256_eq_ok, div_eq_ok, sub_eq_ok] at h
    obtain ⟨pnl, hpnl, deduction, ⟨-, hdeduction⟩, adjusted, hadjusted, kept, ⟨-, hkept⟩, _,
      ⟨hle, rfl⟩, h⟩ := h
    obtain ⟨_, claimed, hclaiming, h⟩ := Tx.bind_eq_ok.mp h
    simp only [↓Tx.lift_bind_eq_ok, toInt256_eq_ok, negInt_eq_ok] at h
    obtain ⟨_, ⟨-, rfl⟩, _, ⟨-, rfl⟩, h⟩ := h
    obtain ⟨next, taken, htaking, h⟩ := Tx.bind_eq_ok.mp h
    obtain ⟨swapped, w₃, hswapping, h⟩ := Tx.bind_eq_ok.mp h
    have hend : outputs = profitOutputs params cache kept swapped ∧ w₃ = w' := by
      cases swapped with
      | some swapOutputAmount =>
        obtain ⟨rfl, rfl⟩ := Tx.pure_eq_ok.mp h
        exact ⟨rfl, rfl⟩
      | none =>
        unfold profitOutputs
        dsimp only at h ⊢
        split at h
        · rename_i htoken
          obtain ⟨rfl, rfl⟩ := Tx.pure_eq_ok.mp h
          exact ⟨(if_pos htoken).symm, rfl⟩
        · rename_i htoken
          obtain ⟨rfl, rfl⟩ := Tx.pure_eq_ok.mp h
          exact ⟨(if_neg htoken).symm, rfl⟩
    obtain ⟨houtputs, rfl⟩ := hend
    refine ⟨taken, .profit deduction kept next swapped claimed hpositive ?_ ?_ hle hclaiming htaking
      hswapping houtputs⟩
    · rw [hdeduction, ← hpnl, Int.toNat_natCast]
    · rw [hkept, ← hadjusted, Int.toNat_natCast]
  · rename_i hnone
    obtain ⟨rfl, rfl⟩ := Tx.pure_eq_ok.mp h
    exact ⟨_, .nothing (not_lt.mp hnone) rfl rfl rfl⟩

/-- What a profit that is left after the adjustment takes out of the pool and makes claimable. -/
theorem ProfitRun.of_pos (hpositive : 0 < adjustedPositionPnlUsd)
    (run : ProfitRun env params cache positionPnlUsd adjustedPositionPnlUsd outputs w taken w') :
    storedPoolAmount taken params.market.marketToken cache.pnlToken +
        positionPnlUsd.toNat / cache.pnlTokenPrice.max =
        storedPoolAmount w params.market.marketToken cache.pnlToken ∧
      adjustedPositionPnlUsd.toNat / cache.pnlTokenPrice.max ≤
        positionPnlUsd.toNat / cache.pnlTokenPrice.max ∧
      Claims env params (ofToken cache.pnlToken
        (positionPnlUsd.toNat / cache.pnlTokenPrice.max -
          adjustedPositionPnlUsd.toNat / cache.pnlTokenPrice.max)) w w' := by
  cases run with
  | nothing hnone => exact absurd hpositive (not_lt.mpr hnone)
  | profit deduction kept next swapped claimed _ hdeduction hkept hle hclaiming htaking
      hswapping =>
    subst hdeduction hkept
    have hclaims : Claims env params (ofToken cache.pnlToken
          (positionPnlUsd.toNat / cache.pnlTokenPrice.max -
            adjustedPositionPnlUsd.toNat / cache.pnlTokenPrice.max)) w claimed ∧
        World.SameOff [.constant .CLAIMABLE_COLLATERAL_AMOUNT] w claimed := by
      split at hclaiming
      · exact ⟨Claims.increment hclaiming,
          incrementClaimableCollateralAmount_writes (List.mem_singleton_self _) _ _ _ _ _
            hclaiming⟩
      · rename_i hzero
        obtain ⟨-, rfl⟩ := Tx.pure_eq_ok.mp hclaiming
        rw [Nat.eq_zero_of_not_pos hzero, ofToken_zero]
        exact ⟨fun _ => rfl, World.SameOff.refl _ _⟩
    have htaken : World.SameOff [.constant .POOL_AMOUNT, .constant .VIRTUAL_INVENTORY_FOR_SWAPS]
        claimed taken := applyDeltaToPoolAmount_writes (by decide) (by decide) _ _ _ htaking
    have hswapped : World.SameOff swapSlots taken w' :=
      DecreasePositionSwapUtils.swapProfitToCollateralToken_writes env (List.Subset.refl _) _ _ _
        hswapping
    have hstored : storedPoolAmount claimed params.market.marketToken cache.pnlToken =
        storedPoolAmount w params.market.marketToken cache.pnlToken :=
      hclaims.2.uint (.constant .POOL_AMOUNT) (by decide) _ rfl
    have hdelta := (applyDeltaToPoolAmount_eq_ok htaking).1
    have htotal := (hclaims.1.trans (Claims.of_sameOff (by decide) htaken)).trans
      (Claims.of_sameOff (by decide) hswapped)
    rw [add_zero, add_zero] at htotal
    refine ⟨?_, hle, htotal⟩
    unfold storedPoolAmount at hstored ⊢
    omega

/-- Nothing is taken when nothing is left after the adjustment. -/
theorem ProfitRun.of_nonpos (hnonpos : adjustedPositionPnlUsd ≤ 0)
    (run : ProfitRun env params cache positionPnlUsd adjustedPositionPnlUsd outputs w taken w') :
    taken = w ∧ w' = w := by
  cases run with
  | profit _ _ _ _ _ hpositive => exact absurd hpositive (not_lt.mpr hnonpos)
  | nothing _ huntaken hunchanged => exact ⟨huntaken, hunchanged⟩

/-- An order that does not ask for the swap keeps what was taken. -/
theorem ProfitRun.unswapped
    (hnoSwap : params.order.decreasePositionSwapType ≠ .SwapPnlTokenToCollateralToken)
    (run : ProfitRun env params cache positionPnlUsd adjustedPositionPnlUsd outputs w taken w') :
    w' = taken := by
  cases run with
  | nothing _ huntaken hunchanged => rw [huntaken, hunchanged]
  | profit _ _ _ _ _ _ _ _ _ _ _ hswapping =>
    unfold DecreasePositionSwapUtils.swapProfitToCollateralToken at hswapping
    rw [if_neg hnoSwap] at hswapping
    exact (Tx.pure_eq_ok.mp hswapping).2.symm

-- ---------------------------------------------------------------------------
-- What is withheld from the collateral
-- ---------------------------------------------------------------------------

/-- How the removed impact is split between the profit and the collateral. -/
theorem adjustPositionPnl_eq_ok {positionPnlUsd : Int} {priceImpactDiffUsd : Nat}
    {collateralTokenPrice : Price} {collateralCache : ProcessCollateralCache}
    (h : adjustPositionPnl positionPnlUsd priceImpactDiffUsd collateralTokenPrice =
      .ok collateralCache) :
    0 < collateralTokenPrice.max ∧
      collateralCache.adjustedPriceImpactDiffAmount =
        collateralCache.adjustedPriceImpactDiffUsd / collateralTokenPrice.max ∧
      ((priceImpactDiffUsd < positionPnlUsd ∧
          collateralCache.adjustedPositionPnlUsd = positionPnlUsd - priceImpactDiffUsd ∧
          collateralCache.adjustedPriceImpactDiffUsd = 0) ∨
        (0 < positionPnlUsd ∧ positionPnlUsd ≤ priceImpactDiffUsd ∧
          collateralCache.adjustedPositionPnlUsd = 0 ∧
          (collateralCache.adjustedPriceImpactDiffUsd : Int) =
            priceImpactDiffUsd - positionPnlUsd) ∨
        (positionPnlUsd ≤ 0 ∧ collateralCache.adjustedPositionPnlUsd = positionPnlUsd ∧
          collateralCache.adjustedPriceImpactDiffUsd = priceImpactDiffUsd)) := by
  simp only [adjustPositionPnl, Result.bind_eq_ok, div_eq_ok, Result.pure_eq_ok] at h
  obtain ⟨⟨adjusted, diffUsd⟩, hadjust, amount, ⟨hne, rfl⟩, rfl⟩ := h
  refine ⟨Nat.pos_of_ne_zero hne, rfl, ?_⟩
  dsimp only
  split at hadjust
  · rename_i hboth
    simp only [Result.bind_eq_ok, toInt256_eq_ok] at hadjust
    obtain ⟨_, ⟨-, rfl⟩, hadjust⟩ := hadjust
    split at hadjust
    · simp only [Result.bind_eq_ok, subInt_eq_ok, Result.pure_eq_ok, Prod.mk.injEq] at hadjust
      obtain ⟨_, ⟨-, rfl⟩, rfl, rfl⟩ := hadjust
      exact Or.inl ⟨by omega, rfl, rfl⟩
    · simp only [Result.bind_eq_ok, toUint256_eq_ok, sub_eq_ok, Result.pure_eq_ok,
        Prod.mk.injEq] at hadjust
      obtain ⟨_, hpnl, _, ⟨hle, rfl⟩, rfl, rfl⟩ := hadjust
      exact Or.inr (Or.inl ⟨by omega, by omega, rfl, by omega⟩)
  · rename_i hnone
    simp only [Result.pure_eq_ok, Prod.mk.injEq] at hadjust
    obtain ⟨rfl, rfl⟩ := hadjust
    by_cases hpositive : 0 < positionPnlUsd
    · exact Or.inl ⟨by omega, by omega, by omega⟩
    · exact Or.inr (Or.inr ⟨by omega, rfl, rfl⟩)

/-- The collateral covers what is pending and the impact that is left to withhold. -/
def Suffices (pending : PendingCollateral) : Prop :=
  pending.values.pendingCollateralDeduction +
    pending.collateralCache.adjustedPriceImpactDiffAmount ≤
      pending.values.remainingCollateralAmount

/-- What a loss takes from the collateral. -/
def lossAmount (pending : PendingCollateral) : Nat :=
  if pending.collateralCache.adjustedPositionPnlUsd < 0 then
    (-pending.values.positionPnlUsd).toNat / pending.collateralTokenPrice.min
  else 0

/-- A loss leaves the collateral, and goes to the pool. -/
theorem payLoss_eq_ok (env : Env) {pending : PendingCollateral} {remainingCollateralAmount : Nat}
    (h : (if pending.collateralCache.adjustedPositionPnlUsd < 0 then do
        let loss ← toUint256 (← negInt pending.values.positionPnlUsd)
        let amountForPool ← div loss pending.collateralTokenPrice.min
        let remainingCollateralAmount ← sub pending.values.remainingCollateralAmount amountForPool
        let _ ← applyDeltaToPoolAmount params.market.marketToken params.position.collateralToken
          (← toInt256 amountForPool)
        pure remainingCollateralAmount
      else pure pending.values.remainingCollateralAmount : Tx Nat) w =
        .ok (remainingCollateralAmount, w')) :
    remainingCollateralAmount + lossAmount pending = pending.values.remainingCollateralAmount ∧
      Claims env params 0 w w' ∧
      (0 ≤ pending.collateralCache.adjustedPositionPnlUsd → w' = w) := by
  unfold lossAmount
  split at h
  · rename_i hnegative
    rw [if_pos hnegative]
    simp only [↓Tx.lift_bind_eq_ok, sub_eq_ok, toUint256_eq_ok, negInt_eq_ok, div_eq_ok] at h
    obtain ⟨_, ⟨-, rfl⟩, loss, hnegated, amountForPool, ⟨-, rfl⟩, _, ⟨hle, rfl⟩, _, -, h⟩ := h
    obtain ⟨_, w₀, hpool, h⟩ := Tx.bind_eq_ok.mp h
    obtain ⟨rfl, rfl⟩ := Tx.pure_eq_ok.mp h
    have hamount : (-pending.values.positionPnlUsd).toNat = loss := by omega
    rw [hamount]
    have hsame : World.SameOff
        [.constant .POOL_AMOUNT, .constant .VIRTUAL_INVENTORY_FOR_SWAPS] w w₀ :=
      applyDeltaToPoolAmount_writes (by decide) (by decide) _ _ _ hpool
    exact ⟨Nat.sub_add_cancel hle, Claims.of_sameOff (by decide) hsame,
      fun hnonneg => absurd hnegative (not_lt.mpr hnonneg)⟩
  · rename_i hnonneg
    obtain ⟨rfl, rfl⟩ := Tx.pure_eq_ok.mp h
    rw [if_neg hnonneg]
    exact ⟨rfl, fun _ => rfl, fun _ => rfl⟩

/-- What the collateral pays: the loss and the fees, then as much of the impact that is left to
withhold as it can, then as much of the withdrawal as it can. -/
theorem payFromCollateral_eq_ok {pending : PendingCollateral}
    {result : DecreasePositionCollateralValues × PositionFees}
    (h : payFromCollateral env params pending w = .ok (result, w')) :
    ∃ left withheld withdrawn,
      left + pending.fees.collateralCostAmount + lossAmount pending =
        pending.values.remainingCollateralAmount ∧
      withheld = min left pending.collateralCache.adjustedPriceImpactDiffAmount ∧
      withdrawn = min (left - withheld) pending.initialCollateralDeltaAmount ∧
      Claims env params (ofToken params.position.collateralToken withheld) w w' ∧
      (0 ≤ pending.collateralCache.adjustedPositionPnlUsd → ∀ market token,
        storedPoolAmount w' market token = storedPoolAmount w market token) ∧
      result =
        ({ pending.values with
            remainingCollateralAmount := left - withheld - withdrawn
            output := { pending.values.output with
              outputAmount := pending.values.output.outputAmount + withdrawn } },
          pending.fees) := by
  unfold payFromCollateral at h
  obtain ⟨remaining₁, w₁, hloss, h⟩ := Tx.bind_eq_ok.mp h
  simp only [↓Tx.lift_bind_eq_ok, sub_eq_ok] at h
  obtain ⟨_, ⟨hle₁, rfl⟩, _, -, h⟩ := h
  obtain ⟨_, w₂, himpact, h⟩ := Tx.bind_eq_ok.mp h
  obtain ⟨remaining₂, w₃, hdiff, h⟩ := Tx.bind_eq_ok.mp h
  simp only [↓Tx.lift_bind_eq_ok, sub_eq_ok, add_eq_ok] at h
  obtain ⟨_, ⟨hle₂, rfl⟩, _, ⟨-, rfl⟩, h⟩ := h
  obtain ⟨_, w₄, hfee, h⟩ := Tx.bind_eq_ok.mp h
  obtain ⟨_, w₅, hui, h⟩ := Tx.bind_eq_ok.mp h
  obtain ⟨rfl, rfl⟩ := Tx.pure_eq_ok.mp h
  have hlost := payLoss_eq_ok env hloss
  have hpool : World.SameOff [.constant .POSITION_IMPACT_POOL_AMOUNT] w₁ w₂ :=
    applyDeltaToPositionImpactPool_writes (List.mem_singleton_self _) _ _ himpact
  have hwithheld : ∃ withheld, withheld = min (remaining₁ - pending.fees.collateralCostAmount)
        pending.collateralCache.adjustedPriceImpactDiffAmount ∧
      remaining₂ = remaining₁ - pending.fees.collateralCostAmount - withheld ∧
      Claims env params (ofToken params.position.collateralToken withheld) w₂ w₃ ∧
      World.SameOff [.constant .CLAIMABLE_COLLATERAL_AMOUNT] w₂ w₃ := by
    split at hdiff
    · simp only [↓Tx.lift_bind_eq_ok, sub_eq_ok] at hdiff
      obtain ⟨_, ⟨-, rfl⟩, hdiff⟩ := hdiff
      obtain ⟨_, _, hclaimable, hdiff⟩ := Tx.bind_eq_ok.mp hdiff
      obtain ⟨rfl, rfl⟩ := Tx.pure_eq_ok.mp hdiff
      exact ⟨_, by split <;> omega, rfl, Claims.increment hclaimable,
        incrementClaimableCollateralAmount_writes (List.mem_singleton_self _) _ _ _ _ _
          hclaimable⟩
    · rename_i hzero
      obtain ⟨rfl, rfl⟩ := Tx.pure_eq_ok.mp hdiff
      refine ⟨0, by omega, rfl, ?_, World.SameOff.refl _ _⟩
      rw [ofToken_zero]
      exact fun _ => rfl
  obtain ⟨withheld, hmin, rfl, hclaims, hclaimSame⟩ := hwithheld
  have hfeeSame : World.SameOff [.constant .CLAIMABLE_FEE_AMOUNT] w₃ w₄ :=
    FeeUtils.incrementClaimableFeeAmount_writes (List.mem_singleton_self _) _ _ _ hfee
  have huiSame : World.SameOff [.constant .CLAIMABLE_UI_FEE_AMOUNT] w₄ w₅ :=
    FeeUtils.incrementClaimableUiFeeAmount_writes (List.mem_singleton_self _) _ _ _ _ hui
  have htotal := (((hlost.2.1.trans (Claims.of_sameOff (by decide) hpool)).trans hclaims).trans
    (Claims.of_sameOff (by decide) hfeeSame)).trans (Claims.of_sameOff (by decide) huiSame)
  have hstored : ∀ market token, storedPoolAmount w₅ market token =
      storedPoolAmount w₁ market token := by
    intro market token
    unfold storedPoolAmount
    rw [huiSame.uint (.constant .POOL_AMOUNT) (by decide) _ rfl,
      hfeeSame.uint (.constant .POOL_AMOUNT) (by decide) _ rfl,
      hclaimSame.uint (.constant .POOL_AMOUNT) (by decide) _ rfl,
      hpool.uint (.constant .POOL_AMOUNT) (by decide) _ rfl]
  refine ⟨remaining₁ - pending.fees.collateralCostAmount, withheld, _, ?_, hmin, ?_,
    by simpa using htotal, ?_, rfl⟩
  · rw [Nat.sub_add_cancel hle₁]
    exact hlost.1
  · split <;> omega
  · intro hnonneg market token
    rw [hstored, hlost.2.2 hnonneg]

/-- A collateral that suffices is not spared any of the impact that is left to withhold. -/
theorem payFromCollateral_claims {pending : PendingCollateral}
    {result : DecreasePositionCollateralValues × PositionFees}
    (hdeduction : pending.values.pendingCollateralDeduction =
      pending.fees.collateralCostAmount + lossAmount pending)
    (hsuffices : Suffices pending)
    (h : payFromCollateral env params pending w = .ok (result, w')) :
    Claims env params (ofToken params.position.collateralToken
      pending.collateralCache.adjustedPriceImpactDiffAmount) w w' := by
  obtain ⟨left, withheld, withdrawn, hleft, hwithheld, -, hclaims, -, -⟩ :=
    payFromCollateral_eq_ok h
  unfold Suffices at hsuffices
  have hall : withheld = pending.collateralCache.adjustedPriceImpactDiffAmount := by omega
  rwa [hall] at hclaims

-- ---------------------------------------------------------------------------
-- The account of the removed impact
-- ---------------------------------------------------------------------------

/-- `processCollateral` up to the comparison of what is pending with the collateral. -/
def pendingCollateral (env : Env) (params : UpdatePositionParams)
    (cache : DecreasePositionCache) : Tx PendingCollateral := do
  let realized ← realizePnl env params cache
  payFromProfit params cache realized

/-- The rest of `processCollateral` looks at what is pending. -/
theorem processCollateral_eq (env : Env) (params : UpdatePositionParams)
    (cache : DecreasePositionCache) :
    processCollateral env params cache = (do
      let pending ← pendingCollateral env params cache
      if pending.values.pendingCollateralDeduction > pending.values.remainingCollateralAmount then
        if isForceClosable params then
          processForceClose env params pending.values pending.fees cache.prices
            pending.collateralTokenPrice
        else
          revert (.InsufficientCollateral params.position.collateralAmount
            pending.values.pendingCollateralDeduction)
      else payFromCollateral env params pending) := by
  unfold processCollateral pendingCollateral
  simp only [bind_assoc]

variable {pending : PendingCollateral} {w₁ : World}

/-- What is not force closed is paid from the collateral. -/
theorem payFromCollateral_of_covered
    (hpending : pendingCollateral env params cache w = .ok (pending, w₁))
    (hcovered : pending.values.pendingCollateralDeduction ≤
      pending.values.remainingCollateralAmount)
    {result : DecreasePositionCollateralValues × PositionFees}
    (h : processCollateral env params cache w = .ok (result, w')) :
    payFromCollateral env params pending w₁ = .ok (result, w') := by
  rw [processCollateral_eq, Tx.bind_of_ok hpending] at h
  rwa [if_neg (not_lt.mpr hcovered)] at h

/-- What is pending is computed from the pnl at the capped execution price. -/
theorem pendingCollateral_eq_ok {executionPrice priceImpactDiffUsd sizeDeltaInTokens : Nat}
    {priceImpactAmount positionPnlUsd : Int}
    (hprice : getExecutionPrice env w.dataStore params cache.prices params.order.sizeDeltaUsd =
      .ok (executionPrice, priceImpactAmount, priceImpactDiffUsd))
    (hpnl : getPositionPnlUsd w.dataStore params.market cache.prices params.position
      executionPrice params.order.sizeDeltaUsd = .ok (positionPnlUsd, sizeDeltaInTokens))
    (hpending : pendingCollateral env params cache w = .ok (pending, w₁)) :
    adjustPositionPnl positionPnlUsd priceImpactDiffUsd pending.collateralTokenPrice =
        .ok pending.collateralCache ∧
      pending.values.pendingCollateralDeduction =
        pending.fees.collateralCostAmount + lossAmount pending ∧
      ∃ outputs, realizeProfit env params cache positionPnlUsd
        pending.collateralCache.adjustedPositionPnlUsd w = .ok (outputs, w₁) := by
  obtain ⟨realized, w₂, hrealize, hpay⟩ := Tx.bind_eq_ok.mp hpending
  obtain ⟨hpaid, rfl⟩ := Tx.lift_eq_ok.mp hpay
  have hrealizes := realizePnl_eq_ok hrealize
  have hsamePrice := Except.ok.inj (hrealizes.price.symm.trans hprice)
  simp only [Prod.mk.injEq] at hsamePrice
  obtain ⟨rfl, rfl, rfl⟩ := hsamePrice
  have hsamePnl := Except.ok.inj (hrealizes.pnl.symm.trans hpnl)
  simp only [Prod.mk.injEq] at hsamePnl
  obtain ⟨rfl, rfl⟩ := hsamePnl
  simp only [payFromProfit, Result.bind_eq_ok, Result.pure_eq_ok] at hpaid
  obtain ⟨⟨outputAmount, fees'⟩, -, deduction, hdeduction, rfl⟩ := hpaid
  refine ⟨hrealizes.adjusted, ?_, _, hrealizes.profit⟩
  have hadjusted := (adjustPositionPnl_eq_ok hrealizes.adjusted).2.2
  unfold lossAmount
  dsimp only at hdeduction ⊢
  split at hdeduction
  · rename_i hnegative
    simp only [Result.bind_eq_ok, add_eq_ok, div_eq_ok, toUint256_eq_ok, negInt_eq_ok] at hdeduction
    obtain ⟨_, ⟨-, rfl⟩, loss, hloss, _, ⟨-, rfl⟩, -, rfl⟩ := hdeduction
    have hamount : (-realized.positionPnlUsd).toNat = loss := by omega
    rw [if_pos hnegative, hamount]
  · rename_i hnonneg
    obtain rfl := Result.pure_eq_ok.mp hdeduction
    rw [if_neg hnonneg, Nat.add_zero]

/-- The removed impact is accounted for. The pool pays the whole realised profit: it has left the
pool when the swap of the profit begins, and it stays out of the pool when nothing is swapped. A
collateral that suffices makes amounts claimable that are worth the removed impact, up to one unit
of each token. -/
structure ImpactAccounted (env : Env) (params : UpdatePositionParams)
    (cache : DecreasePositionCache) (positionPnlUsd : Int) (priceImpactDiffUsd : Nat)
    (pending : PendingCollateral) (w w₁ w' : World) : Prop where
  pool : 0 < positionPnlUsd → ∃ outputs taken,
    ProfitRun env params cache positionPnlUsd pending.collateralCache.adjustedPositionPnlUsd outputs
      w taken w₁ ∧
    storedPoolAmount taken params.market.marketToken cache.pnlToken +
        positionPnlUsd.toNat / cache.pnlTokenPrice.max =
      storedPoolAmount w params.market.marketToken cache.pnlToken
  unswapped : 0 < positionPnlUsd →
    params.order.decreasePositionSwapType ≠ .SwapPnlTokenToCollateralToken →
    storedPoolAmount w' params.market.marketToken cache.pnlToken +
        positionPnlUsd.toNat / cache.pnlTokenPrice.max =
      storedPoolAmount w params.market.marketToken cache.pnlToken
  claimable : Suffices pending → ∃ pnlTokenAmount collateralAmount,
    Claims env params (ofToken cache.pnlToken pnlTokenAmount +
      ofToken params.position.collateralToken collateralAmount) w w' ∧
    priceImpactDiffUsd ≤ pnlTokenAmount * cache.pnlTokenPrice.max +
      collateralAmount * pending.collateralTokenPrice.max +
      (cache.pnlTokenPrice.max + pending.collateralTokenPrice.max) ∧
    pnlTokenAmount * cache.pnlTokenPrice.max +
      collateralAmount * pending.collateralTokenPrice.max ≤
      priceImpactDiffUsd + (cache.pnlTokenPrice.max + pending.collateralTokenPrice.max)

/-- **When a removed impact is accounted for.** A decrease that is not force closed accounts for
the impact that its cap removed unless the realised profit does not exceed it and is worth at
least one unit of the pnl token. -/
theorem processCollateral_accounted_iff
    {executionPrice priceImpactDiffUsd sizeDeltaInTokens : Nat}
    {priceImpactAmount positionPnlUsd : Int}
    {result : DecreasePositionCollateralValues × PositionFees}
    (hpnlTokenPrice : 0 < cache.pnlTokenPrice.max)
    (hprice : getExecutionPrice env w.dataStore params cache.prices params.order.sizeDeltaUsd =
      .ok (executionPrice, priceImpactAmount, priceImpactDiffUsd))
    (hpnl : getPositionPnlUsd w.dataStore params.market cache.prices params.position
      executionPrice params.order.sizeDeltaUsd = .ok (positionPnlUsd, sizeDeltaInTokens))
    (hpending : pendingCollateral env params cache w = .ok (pending, w₁))
    (hcovered : pending.values.pendingCollateralDeduction ≤
      pending.values.remainingCollateralAmount)
    (h : processCollateral env params cache w = .ok (result, w')) :
    ImpactAccounted env params cache positionPnlUsd priceImpactDiffUsd pending w w₁ w' ↔
      ¬ (cache.pnlTokenPrice.max ≤ positionPnlUsd ∧ positionPnlUsd ≤ priceImpactDiffUsd) := by
  have hcollateral := payFromCollateral_of_covered hpending hcovered h
  obtain ⟨hadjust, hdeduction, outputs, hprofit⟩ := pendingCollateral_eq_ok hprice hpnl hpending
  obtain ⟨hcollateralPrice, hamount, hcases⟩ := adjustPositionPnl_eq_ok hadjust
  obtain ⟨taken, run⟩ := realizeProfit_run hprofit
  obtain ⟨-, -, -, -, -, -, -, hstored, -⟩ := payFromCollateral_eq_ok hcollateral
  have hwithheld := fun hsuffices => payFromCollateral_claims hdeduction hsuffices hcollateral
  constructor
  · rintro haccounted ⟨hunit, hexceeded⟩
    -- nothing is left after the adjustment, so nothing leaves the pool
    have hzero : pending.collateralCache.adjustedPositionPnlUsd = 0 := by omega
    obtain ⟨_, taken', run', hpool⟩ := haccounted.pool (by omega)
    obtain ⟨rfl, -⟩ := run'.of_nonpos (by omega)
    have hpositive : 0 < positionPnlUsd.toNat / cache.pnlTokenPrice.max :=
      Nat.div_pos (by omega) hpnlTokenPrice
    omega
  · intro hnot
    rcases hcases with ⟨hexceeds, hadjusted, hdiff⟩ | ⟨hpositive, hexceeded, hadjusted, hdiff⟩ |
      ⟨hnonpos, hadjusted, hdiff⟩
    -- the profit pays for all of it
    case inl =>
      obtain ⟨hpool, hle, hclaims⟩ := run.of_pos (by omega)
      have hremoved : pending.collateralCache.adjustedPositionPnlUsd.toNat =
          positionPnlUsd.toNat - priceImpactDiffUsd := by omega
      have hzero : pending.collateralCache.adjustedPriceImpactDiffAmount = 0 := by
        rw [hamount, hdiff, Nat.zero_div]
      have hbounds := Rounding.div_sub_div_bounds cache.pnlTokenPrice.max positionPnlUsd.toNat
        priceImpactDiffUsd hpnlTokenPrice (by omega)
      rw [← hremoved] at hbounds
      refine ⟨fun _ => ⟨outputs, taken, run, hpool⟩, fun _ hnoSwap => ?_, fun hsuffices => ?_⟩
      · rw [hstored (by omega), run.unswapped hnoSwap]
        exact hpool
      · have hrest := hwithheld hsuffices
        rw [hzero] at hrest
        have htotal := hclaims.trans hrest
        exact ⟨_, 0, htotal, by omega, by omega⟩
    -- the profit pays for a part of it that is not worth a unit
    case inr.inl =>
      obtain ⟨rfl, rfl⟩ := run.of_nonpos (by omega)
      have hsmall : positionPnlUsd.toNat / cache.pnlTokenPrice.max = 0 :=
        Nat.div_eq_of_lt (by omega)
      have hvalue := Nat.div_add_mod' pending.collateralCache.adjustedPriceImpactDiffUsd
        pending.collateralTokenPrice.max
      have hmod := Nat.mod_lt pending.collateralCache.adjustedPriceImpactDiffUsd hcollateralPrice
      refine ⟨fun _ => ⟨outputs, _, run, by omega⟩, fun _ _ => ?_, fun hsuffices => ?_⟩
      · rw [hstored (by omega), hsmall, Nat.add_zero]
      · have htotal := hwithheld hsuffices
        rw [← zero_add (ofToken _ _), ← ofToken_zero cache.pnlToken, hamount] at htotal
        exact ⟨0, _, htotal, by omega, by omega⟩
    -- the collateral pays for all of it
    case inr.inr =>
      obtain ⟨rfl, rfl⟩ := run.of_nonpos (by omega)
      have hvalue := Nat.div_add_mod' pending.collateralCache.adjustedPriceImpactDiffUsd
        pending.collateralTokenPrice.max
      have hmod := Nat.mod_lt pending.collateralCache.adjustedPriceImpactDiffUsd hcollateralPrice
      refine ⟨fun hprofits => absurd hprofits (by omega),
        fun hprofits => absurd hprofits (by omega), fun hsuffices => ?_⟩
      have htotal := hwithheld hsuffices
      rw [← zero_add (ofToken _ _), ← ofToken_zero cache.pnlToken, hamount] at htotal
      exact ⟨0, _, htotal, by omega, by omega⟩

/-- A market in which closing a long of 1000 USD has an impact of minus 50 USD, and no negative
impact is charged. -/
def cappedWorld : World where
  dataStore :=
    let usd := Precision.FLOAT_PRECISION
    let dataStore := DataStore.empty.setUint (Keys.poolAmountKey 1 3) 5000
    let dataStore := dataStore.setUint (Keys.openInterestKey 1 4 true) (1000 * usd)
    let dataStore := dataStore.setUint (Keys.openInterestInTokensKey 1 4 true) 1000
    let dataStore := dataStore.setUint (Keys.openInterestKey 1 4 false) (1000 * usd)
    let dataStore := dataStore.setUint (Keys.openInterestInTokensKey 1 4 false) 1000
    let dataStore := dataStore.setUint (Keys.positionImpactFactorKey 1 false) (usd / 10)
    let dataStore := dataStore.setUint (Keys.positionImpactExponentFactorKey 1) usd
    dataStore.setUint (.base .CLAIMABLE_COLLATERAL_TIME_DIVISOR) 3600
  balances _ _ := 0
  totalSupply _ := 0
  tokenBalances _ _ := 0

/-- The close of that long. -/
def cappedParams : UpdatePositionParams where
  market := ⟨1, 2, 3, 4⟩
  order :=
    { Order.empty with
      account := 8, market := 1, initialCollateralToken := 4
      sizeDeltaUsd := 1000 * Precision.FLOAT_PRECISION, orderType := .MarketDecrease
      isLong := true }
  orderKey := .request 1
  position :=
    { Position.empty with
      account := 8, market := 1, collateralToken := 4, isLong := true
      sizeInUsd := 1000 * Precision.FLOAT_PRECISION, sizeInTokens := 1000
      collateralAmount := 500 }
  positionKey := .position 8 1 4 true
  secondaryOrderType := .None

def cappedEnv (indexPrice : Nat) : Env :=
  Env.plain 7200 fun token => if token = 4 then ⟨10 ^ 30, 10 ^ 30⟩ else ⟨indexPrice, indexPrice⟩

def cappedCache (indexPrice : Nat) : DecreasePositionCache where
  prices := ⟨⟨indexPrice, indexPrice⟩, ⟨indexPrice, indexPrice⟩, ⟨10 ^ 30, 10 ^ 30⟩⟩
  pnlToken := 3
  pnlTokenPrice := ⟨indexPrice, indexPrice⟩

/-- With the index token two percent up, a profit of 20 USD is smaller than the impact of 50 USD
that is not charged, and stays in the pool. -/
theorem processCollateral_unaccounted :
    ¬ ∀ (env : Env) (params : UpdatePositionParams) (cache : DecreasePositionCache)
      (w w₁ w' : World) (executionPrice priceImpactDiffUsd sizeDeltaInTokens : Nat)
      (priceImpactAmount positionPnlUsd : Int) (pending : PendingCollateral)
      (result : DecreasePositionCollateralValues × PositionFees),
      0 < cache.pnlTokenPrice.max →
      getExecutionPrice env w.dataStore params cache.prices params.order.sizeDeltaUsd =
        .ok (executionPrice, priceImpactAmount, priceImpactDiffUsd) →
      getPositionPnlUsd w.dataStore params.market cache.prices params.position
        executionPrice params.order.sizeDeltaUsd = .ok (positionPnlUsd, sizeDeltaInTokens) →
      pendingCollateral env params cache w = .ok (pending, w₁) →
      pending.values.pendingCollateralDeduction ≤ pending.values.remainingCollateralAmount →
      processCollateral env params cache w = .ok (result, w') →
      ImpactAccounted env params cache positionPnlUsd priceImpactDiffUsd pending w w₁ w' := by
  intro hclaim
  let env := cappedEnv (102 * 10 ^ 28)
  let cache := cappedCache (102 * 10 ^ 28)
  obtain ⟨⟨pending, w₁⟩, hpending, hcovered⟩ := (by decide +kernel :
    Evm.Result.Satisfies (pendingCollateral env cappedParams cache cappedWorld) fun result =>
      result.1.values.pendingCollateralDeduction ≤
        result.1.values.remainingCollateralAmount).exists
  obtain ⟨⟨result, w'⟩, hrun, hstored⟩ := (by decide +kernel :
    Evm.Result.Satisfies (processCollateral env cappedParams cache cappedWorld)
      fun result => storedPoolAmount result.2 1 3 = 5000).exists
  have haccounted := hclaim env cappedParams cache cappedWorld w₁ w' (102 * 10 ^ 28)
    (50 * 10 ^ 30) 1000 0 (20 * 10 ^ 30) pending result (by decide) (by decide +kernel)
    (by decide +kernel) hpending hcovered hrun
  have hpool : storedPoolAmount w' 1 3 + (20 * 10 ^ 30 : Int).toNat / (102 * 10 ^ 28) =
      storedPoolAmount cappedWorld 1 3 := haccounted.unswapped (by decide) (by decide)
  have hunits : (20 * 10 ^ 30 : Int).toNat / (102 * 10 ^ 28) = 19 := by decide
  have hbefore : storedPoolAmount cappedWorld 1 3 = 5000 := by decide +kernel
  dsimp only at hstored
  omega

/-- With the index token ten percent up, a profit of 100 USD pays for it. -/
theorem processCollateral_accounted_cappedWorld :
    ∃ pending w₁ w', ImpactAccounted (cappedEnv (110 * 10 ^ 28)) cappedParams
      (cappedCache (110 * 10 ^ 28)) (100 * 10 ^ 30) (50 * 10 ^ 30) pending cappedWorld w₁
      w' := by
  let env := cappedEnv (110 * 10 ^ 28)
  let cache := cappedCache (110 * 10 ^ 28)
  obtain ⟨⟨pending, w₁⟩, hpending, hcovered⟩ := (by decide +kernel :
    Evm.Result.Satisfies (pendingCollateral env cappedParams cache cappedWorld) fun result =>
      result.1.values.pendingCollateralDeduction ≤
        result.1.values.remainingCollateralAmount).exists
  obtain ⟨⟨result, w'⟩, hrun, -⟩ := (by decide +kernel :
    Evm.Result.Satisfies (processCollateral env cappedParams cache cappedWorld)
      fun _ => True).exists
  have hprice : getExecutionPrice env cappedWorld.dataStore cappedParams cache.prices
      cappedParams.order.sizeDeltaUsd = .ok (110 * 10 ^ 28, 0, 50 * 10 ^ 30) := by decide +kernel
  have hpnl : getPositionPnlUsd cappedWorld.dataStore cappedParams.market cache.prices
      cappedParams.position (110 * 10 ^ 28) cappedParams.order.sizeDeltaUsd =
      .ok (100 * 10 ^ 30, 1000) := by decide +kernel
  exact ⟨pending, w₁, w', (processCollateral_accounted_iff (by decide) hprice hpnl hpending
    hcovered hrun).mpr (by decide)⟩

end GmxSynthetics.DecreasePositionCollateralUtils
