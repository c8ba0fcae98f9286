import GmxSynthetics.Position.DecreaseCollateral
import GmxSynthetics.Swap.SwapOutput

/-!
# Swapping withdrawn collateral to the pnl token

At the end of a decrease the withdrawn collateral may be swapped to the pnl token. The swap is
made inside a `try`, so a swap that fails is harmless; the handler of a swap that succeeds checks
the token it returned, outside the `try`. A swap of nothing succeeds and returns the token it was
given, which that check rejects.

* `swapInMarket_token` — a swap of something inside the market returns the other token;
* `swapWithdrawnCollateralToPnlToken_returns_iff` — when the call returns.
-/

namespace GmxSynthetics.DecreasePositionSwapUtils

open Evm PositionUtils

variable {env : Env} {params : UpdatePositionParams} {w w' : World}

/-- The token in which the position's pnl is paid. -/
def pnlToken (params : UpdatePositionParams) : Address :=
  if params.position.isLong then params.market.longToken else params.market.shortToken

/-- The collateral token is the token of the market that is not the pnl token. -/
structure OtherToken (params : UpdatePositionParams) : Prop where
  isMarketToken : params.position.collateralToken = params.market.longToken ∨
    params.position.collateralToken = params.market.shortToken
  ne_pnlToken : params.position.collateralToken ≠ pnlToken params

/-- The outputs of a decrease after the whole output amount was swapped to the pnl token. -/
def merge (values : DecreasePositionCollateralValues) (swapOutputAmount : Nat) :
    DecreasePositionCollateralValues :=
  { values with
    output :=
      { values.output with
        outputToken := values.output.secondaryOutputToken
        outputAmount := values.output.secondaryOutputAmount + swapOutputAmount
        secondaryOutputAmount := 0 } }

/-- The output was converted and merged with the secondary output, or nothing has changed. -/
def Converts (env : Env) (params : UpdatePositionParams)
    (values values' : DecreasePositionCollateralValues) (w w' : World) : Prop :=
  (∃ swapOutputAmount,
    swapInMarket env params params.position.collateralToken values.output.outputAmount w =
      .ok ((values.output.secondaryOutputToken, swapOutputAmount), w') ∧
    values' = merge values swapOutputAmount) ∨
  values' = values ∧ w' = w

/-- Swapping something inside the market returns the other token. -/
theorem swapInMarket_token (hother : OtherToken params) {amountIn : Nat} (hamount : amountIn ≠ 0)
    {output : Address × Nat}
    (h : swapInMarket env params params.position.collateralToken amountIn w = .ok (output, w')) :
    output.1 = pnlToken params := by
  unfold swapInMarket at h
  have hend : SwapUtils.pathEnd params.position.collateralToken [params.market] = .ok output.1 :=
    (SwapUtils.swap_meets (by exact hamount) h).1
  obtain ⟨token, hopposite, htoken⟩ := Result.bind_eq_ok.mp hend
  obtain rfl : token = output.1 := Result.pure_eq_ok.mp htoken
  have hne := hother.ne_pnlToken
  unfold pnlToken at hne ⊢
  rcases MarketUtils.getOppositeToken_eq_ok hopposite with ⟨hlong, hshort⟩ | ⟨hshort, hlong⟩
  · rw [hlong] at hne
    split at hne
    · exact absurd rfl hne
    · rename_i hside
      rw [if_neg hside]
      exact hshort.symm
  · rw [hshort] at hne
    split at hne
    · rename_i hside
      rw [if_pos hside]
      exact hlong.symm
    · exact absurd rfl hne

variable {values : DecreasePositionCollateralValues}

/-- The run after a swap that succeeded. -/
theorem swapWithdrawnCollateralToPnlToken_of_ok
    (htype : params.order.decreasePositionSwapType = .SwapCollateralTokenToPnlToken)
    {output : Address × Nat}
    (hswap : swapInMarket env params params.position.collateralToken values.output.outputAmount w =
      .ok (output, w')) :
    swapWithdrawnCollateralToPnlToken env params values w =
      (do
        revertIf (output.1 ≠ values.output.secondaryOutputToken)
          (.InvalidOutputToken output.1 values.output.secondaryOutputToken)
        let outputAmount ← add values.output.secondaryOutputAmount output.2
        pure { values with
          output := { values.output with
            outputToken := output.1
            outputAmount
            secondaryOutputAmount := 0 } } : Tx DecreasePositionCollateralValues) w' := by
  unfold swapWithdrawnCollateralToPnlToken
  rw [if_pos htype, Tx.bind_of_ok (Tx.attempt_of_ok hswap)]

/-- The run after a swap that failed. -/
theorem swapWithdrawnCollateralToPnlToken_of_error
    (htype : params.order.decreasePositionSwapType = .SwapCollateralTokenToPnlToken)
    {e : Revert Errors}
    (hswap : swapInMarket env params params.position.collateralToken values.output.outputAmount w =
      .error e) :
    swapWithdrawnCollateralToPnlToken env params values w = .ok (values, w) := by
  unfold swapWithdrawnCollateralToPnlToken
  rw [if_pos htype, Tx.bind_of_ok (Tx.attempt_of_error hswap)]
  rfl

/-- **When the withdrawn collateral can be swapped.** For a position whose collateral token is not
its pnl token, the call returns, with the whole output converted or with everything as it was, if
and only if there is something to swap and the merged amount fits in a word. -/
theorem swapWithdrawnCollateralToPnlToken_returns_iff
    (htype : params.order.decreasePositionSwapType = .SwapCollateralTokenToPnlToken)
    (hother : OtherToken params)
    (hsecondary : values.output.secondaryOutputToken = pnlToken params) :
    (∃ values' w', swapWithdrawnCollateralToPnlToken env params values w = .ok (values', w') ∧
      Converts env params values values' w w') ↔
    values.output.outputAmount ≠ 0 ∧
      ∀ output w', swapInMarket env params params.position.collateralToken
        values.output.outputAmount w = .ok (output, w') →
        values.output.secondaryOutputAmount + output.2 < uintBound := by
  constructor
  · rintro ⟨values', w', hrun, -⟩
    refine ⟨?_, ?_⟩
    · intro hzero
      have hswap : swapInMarket env params params.position.collateralToken
          values.output.outputAmount w = .ok ((params.position.collateralToken, 0), w) := by
        rw [hzero]
        rfl
      rw [swapWithdrawnCollateralToPnlToken_of_ok htype hswap] at hrun
      simp only [↓Tx.lift_bind_eq_ok, Result.revertIf_eq_ok, not_not] at hrun
      obtain ⟨_, htoken, -⟩ := hrun
      rw [hsecondary] at htoken
      exact hother.ne_pnlToken htoken
    · intro output w₁ hswap
      rw [swapWithdrawnCollateralToPnlToken_of_ok htype hswap] at hrun
      simp only [↓Tx.lift_bind_eq_ok, add_eq_ok] at hrun
      obtain ⟨_, -, _, ⟨hfits, -⟩, -⟩ := hrun
      exact hfits
  · rintro ⟨hamount, hfits⟩
    cases hswap : swapInMarket env params params.position.collateralToken
        values.output.outputAmount w with
    | error e =>
      exact ⟨values, w, swapWithdrawnCollateralToPnlToken_of_error htype hswap,
        Or.inr ⟨rfl, rfl⟩⟩
    | ok result =>
      obtain ⟨⟨tokenOut, swapOutputAmount⟩, w₁⟩ := result
      have htoken : tokenOut = values.output.secondaryOutputToken := by
        rw [hsecondary]
        exact swapInMarket_token hother hamount hswap
      subst htoken
      refine ⟨merge values swapOutputAmount, w₁, ?_, Or.inl ⟨swapOutputAmount, hswap, rfl⟩⟩
      rw [swapWithdrawnCollateralToPnlToken_of_ok htype hswap]
      exact Tx.lift_bind_eq_ok.mpr ⟨(), Result.revertIf_eq_ok.mpr (not_not_intro rfl),
        Tx.lift_bind_eq_ok.mpr ⟨_, add_eq_ok.mpr ⟨hfits _ _ hswap, rfl⟩, rfl⟩⟩

/-- A market with 1000 tokens of each kind. -/
def evenWorld : World where
  dataStore :=
    (DataStore.empty.setUint (Keys.poolAmountKey 1 3) 1000).setUint (Keys.poolAmountKey 1 4) 1000
      |>.setUint (Keys.maxPoolAmountKey 1 4) 2000
  balances token holder := if holder = 1 ∧ (token = 3 ∨ token = 4) then 1000 else 0
  totalSupply _ := 1000
  tokenBalances _ _ := 0

/-- A decrease of a long position with short tokens as collateral, in that market. -/
def collateralSwapParams : UpdatePositionParams where
  market := ⟨1, 2, 3, 4⟩
  order := { Order.empty with decreasePositionSwapType := .SwapCollateralTokenToPnlToken }
  orderKey := .request 1
  position := { Position.empty with market := 1, collateralToken := 4, isLong := true }
  positionKey := .position 8 1 4 true
  secondaryOrderType := .None

def collateralSwapValues (outputAmount : Nat) : DecreasePositionCollateralValues where
  executionPrice := 0
  remainingCollateralAmount := 0
  positionPnlUsd := 0
  sizeDeltaInTokens := 0
  priceImpactAmount := 0
  priceImpactDiffUsd := 0
  pendingCollateralDeduction := 0
  output :=
    { outputToken := 4, outputAmount, secondaryOutputToken := 3, secondaryOutputAmount := 7 }

theorem collateralSwapParams_otherToken : OtherToken collateralSwapParams where
  isMarketToken := Or.inr rfl
  ne_pnlToken := by decide

/-- A decrease that withdraws no collateral aborts, in every state. -/
theorem swapWithdrawnCollateralToPnlToken_aborts :
    ¬ ∀ (env : Env) (params : UpdatePositionParams) (values : DecreasePositionCollateralValues)
      (w : World), params.order.decreasePositionSwapType = .SwapCollateralTokenToPnlToken →
        OtherToken params → values.output.secondaryOutputToken = pnlToken params →
        ∃ values' w', swapWithdrawnCollateralToPnlToken env params values w = .ok (values', w') ∧
          Converts env params values values' w w' := by
  intro hclaim
  obtain ⟨values', w', hrun, -⟩ := hclaim (Env.plain 1 fun _ => ⟨1, 1⟩) collateralSwapParams
    (collateralSwapValues 0) evenWorld rfl collateralSwapParams_otherToken rfl
  have hfails : swapWithdrawnCollateralToPnlToken (Env.plain 1 fun _ => ⟨1, 1⟩)
      collateralSwapParams (collateralSwapValues 0) evenWorld =
      .error (.custom (.InvalidOutputToken 4 3)) := rfl
  rw [hfails] at hrun
  cases hrun

theorem swapWithdrawnCollateralToPnlToken_returns_evenWorld :
    ∃ values' w', swapWithdrawnCollateralToPnlToken (Env.plain 1 fun _ => ⟨1, 1⟩)
        collateralSwapParams (collateralSwapValues 100) evenWorld = .ok (values', w') ∧
      Converts (Env.plain 1 fun _ => ⟨1, 1⟩) collateralSwapParams (collateralSwapValues 100) values'
        evenWorld w' := by
  have hswap : Evm.Result.Satisfies (swapInMarket (Env.plain 1 fun _ => ⟨1, 1⟩)
      collateralSwapParams 4 100 evenWorld) (fun result => result.1 = (3, 100)) := by
    decide +kernel
  obtain ⟨⟨output, w₁⟩, hrun, houtput⟩ := hswap.exists
  refine (swapWithdrawnCollateralToPnlToken_returns_iff rfl collateralSwapParams_otherToken
    rfl).mpr ⟨by decide, ?_⟩
  intro output' w' h
  have heq : (output', w') = (output, w₁) := Except.ok.inj (h.symm.trans hrun)
  cases heq
  obtain rfl : output = (3, 100) := houtput
  decide

end GmxSynthetics.DecreasePositionSwapUtils
