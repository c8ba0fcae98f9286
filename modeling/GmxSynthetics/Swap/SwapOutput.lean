import GmxSynthetics.Evm.Raises
import GmxSynthetics.Exchange.RequestBook

/-!
# What a swap returns

`SwapUtils.swap` has three exits: a swap of nothing, an empty path, and a walk over the path. The
last two check the minimum output and return the token at the end of the path. The first returns
what it was given, before either is looked at, so a caller that asked for a minimum, or for the
token at the other end of a path, gets neither.

* `pathEnd` — the token that a path turns a token into;
* `swap_meets_iff` — when the output of a swap is what its caller asked for;
* `WithdrawalUtils.legs` — the two swaps that a withdrawal makes, from the state before it;
* `ExecuteDepositUtils.swap_of_zero_rejected_iff` — when the empty leg of a deposit is rejected.
-/

namespace GmxSynthetics

open Evm

variable {env : Env} {w w' : World}

-- ---------------------------------------------------------------------------
-- Swaps
-- ---------------------------------------------------------------------------

namespace SwapUtils

/-- The token at the end of a path: the opposite token of each market in turn. -/
def pathEnd (tokenIn : Address) (swapPathMarkets : List Market) : Result Address :=
  swapPathMarkets.foldlM MarketUtils.getOppositeToken tokenIn

/-- The output is in the token at the end of the path, and not less than the minimum. -/
def Meets (params : SwapParams) (output : Address × Nat) : Prop :=
  pathEnd params.tokenIn params.swapPathMarkets = .ok output.1 ∧
    params.minOutputAmount ≤ output.2

/-- A swap of nothing asks for nothing: its path leads back to where it starts, and it sets no
minimum. -/
def AsksForNothing (params : SwapParams) : Prop :=
  pathEnd params.tokenIn params.swapPathMarkets = .ok params.tokenIn ∧ params.minOutputAmount = 0

variable {params : SwapParams}

theorem swapAlongPath_pathEnd {markets : List Market} {tokenIn tokenOut : Address}
    {amountIn amountOut : Nat}
    (h : swapAlongPath env params markets tokenIn amountIn w = .ok ((tokenOut, amountOut), w')) :
    pathEnd tokenIn markets = .ok tokenOut := by
  induction markets generalizing w tokenIn amountIn with
  | nil =>
    simp only [swapAlongPath, Tx.pure_eq_ok, Prod.mk.injEq] at h
    obtain ⟨⟨rfl, -⟩, -⟩ := h
    rfl
  | cons market nextMarkets ih =>
    unfold swapAlongPath at h
    simp only [↓readStore_bind_eq_ok, ↓Tx.lift_bind_eq_ok, ↓writeStore_bind_eq_ok] at h
    obtain ⟨_, -, h⟩ := h
    obtain ⟨⟨tokenOut', amountOut'⟩, w₁, hhop, hrest⟩ := Tx.bind_eq_ok.mp h
    have hopposite := (_swap_moves hhop).2
    show (MarketUtils.getOppositeToken tokenIn market >>= fun token =>
      pathEnd token nextMarkets) = .ok tokenOut
    exact Result.bind_eq_ok.mpr ⟨tokenOut', hopposite, ih hrest⟩

/-- With an amount to swap, the output is what was asked for. -/
theorem swap_meets (hamount : params.amountIn ≠ 0) {output : Address × Nat}
    (h : swap env params w = .ok (output, w')) : Meets params output := by
  unfold swap at h
  rw [if_neg hamount] at h
  unfold Meets
  cases hpath : params.swapPathMarkets with
  | nil =>
    simp only [hpath, ↓Tx.lift_bind_eq_ok, Result.revertIf_eq_ok] at h
    obtain ⟨_, hmin, h⟩ := h
    obtain ⟨_, w₁, -, h⟩ := Tx.bind_eq_ok.mp h
    obtain ⟨rfl, -⟩ := Tx.pure_eq_ok.mp h
    exact ⟨rfl, Nat.le_of_not_lt hmin⟩
  | cons firstMarket nextMarkets =>
    simp only [hpath] at h
    obtain ⟨_, w₁, -, h⟩ := Tx.bind_eq_ok.mp h
    obtain ⟨⟨token, amount⟩, w₂, hwalk, h⟩ := Tx.bind_eq_ok.mp h
    obtain ⟨_, w₃, -, h⟩ := Tx.bind_eq_ok.mp h
    simp only [↓Tx.lift_bind_eq_ok, Result.revertIf_eq_ok] at h
    obtain ⟨_, hmin, h⟩ := h
    obtain ⟨rfl, -⟩ := Tx.pure_eq_ok.mp h
    exact ⟨swapAlongPath_pathEnd hwalk, Nat.le_of_not_lt hmin⟩

/-- A swap of nothing returns what it was given. -/
theorem swap_of_zero (hamount : params.amountIn = 0) {output : Address × Nat}
    (h : swap env params w = .ok (output, w')) : output = (params.tokenIn, 0) ∧ w' = w := by
  unfold swap at h
  rw [if_pos hamount] at h
  obtain ⟨rfl, rfl⟩ := Tx.pure_eq_ok.mp h
  rw [hamount]
  exact ⟨rfl, rfl⟩

/-- **When a swap does what it was asked for.** -/
theorem swap_meets_iff {output : Address × Nat} (h : swap env params w = .ok (output, w')) :
    Meets params output ↔ (params.amountIn = 0 → AsksForNothing params) := by
  constructor
  · intro hmeets hamount
    obtain ⟨rfl, -⟩ := swap_of_zero hamount h
    exact ⟨hmeets.1, Nat.le_zero.mp hmeets.2⟩
  · intro hasks
    by_cases hamount : params.amountIn = 0
    · obtain ⟨rfl, -⟩ := swap_of_zero hamount h
      obtain ⟨hend, hmin⟩ := hasks hamount
      exact ⟨hend, hmin.le⟩
    · exact swap_meets hamount h

end SwapUtils

-- ---------------------------------------------------------------------------
-- Withdrawals
-- ---------------------------------------------------------------------------

/-- The fees of a swap depend on four factors only. -/
theorem SwapPricingUtils.getSwapFees_congr {slots : List Slot} (hsame : World.SameOff slots w w')
    (hslots : Slot.constant .SWAP_FEE_FACTOR ∉ slots ∧
      Slot.constant .SWAP_FEE_RECEIVER_FACTOR ∉ slots ∧
      Slot.constant .MAX_UI_FEE_FACTOR ∉ slots ∧ Slot.constant .UI_FEE_FACTOR ∉ slots)
    (marketToken : Address) (amount : Nat) (uiFeeReceiver : Address) :
    getSwapFees w'.dataStore marketToken amount uiFeeReceiver =
      getSwapFees w.dataStore marketToken amount uiFeeReceiver := by
  obtain ⟨hfee, hreceiver, hmaxUi, hui⟩ := hslots
  unfold getSwapFees MarketUtils.getUiFeeFactor
  rw [hsame.uint _ hfee _ rfl, hsame.uint _ hreceiver _ rfl, hsame.uint _ hmaxUi _ rfl,
    hsame.uint _ hui _ rfl]

namespace WithdrawalUtils

/-- The two swaps that a withdrawal executed in the given state makes. -/
def legs (env : Env) (w : World) (withdrawal : Withdrawal) :
    Result (SwapUtils.SwapParams × SwapUtils.SwapParams) := do
  let market ← MarketUtils.getEnabledMarket w.dataStore withdrawal.market
  let prices ← MarketUtils.getMarketPrices env market
  let (longTokenOutputAmount, shortTokenOutputAmount) ←
    _getOutputAmounts env w market prices withdrawal.marketTokenAmount
  let longTokenFees ← SwapPricingUtils.getSwapFees w.dataStore market.marketToken
    longTokenOutputAmount withdrawal.uiFeeReceiver
  let shortTokenFees ← SwapPricingUtils.getSwapFees w.dataStore market.marketToken
    shortTokenOutputAmount withdrawal.uiFeeReceiver
  let longPath ← MarketUtils.getEnabledMarkets w.dataStore withdrawal.longTokenSwapPath
  let shortPath ← MarketUtils.getEnabledMarkets w.dataStore withdrawal.shortTokenSwapPath
  pure
    (legParams market market.longToken longTokenFees.amountAfterFees longPath
      withdrawal.minLongTokenAmount withdrawal,
    legParams market market.shortToken shortTokenFees.amountAfterFees shortPath
      withdrawal.minShortTokenAmount withdrawal)

/-- What is handed on of an output is what its fees leave. -/
theorem chargeFees_eq_ok {withdrawal : Withdrawal} {market token : Address}
    {outputAmount poolAmountDelta amountAfterFees : Nat}
    (h : chargeFees withdrawal market token outputAmount w =
      .ok ((poolAmountDelta, amountAfterFees), w')) :
    ∃ fees, SwapPricingUtils.getSwapFees w.dataStore market outputAmount withdrawal.uiFeeReceiver =
      .ok fees ∧ amountAfterFees = fees.amountAfterFees := by
  unfold chargeFees at h
  simp only [↓viewStore_bind_eq_ok] at h
  obtain ⟨fees, hfees, h⟩ := h
  obtain ⟨_, _, -, h⟩ := Tx.bind_eq_ok.mp h
  obtain ⟨_, _, -, h⟩ := Tx.bind_eq_ok.mp h
  simp only [↓Tx.lift_bind_eq_ok, Tx.pure_eq_ok, Prod.mk.injEq] at h
  obtain ⟨_, -, ⟨-, rfl⟩, -⟩ := h
  exact ⟨fees, hfees, rfl⟩

/-- The two swaps that a withdrawal makes are those of the state before it. -/
theorem WithdrawalRun.legs_eq {params : ExecuteWithdrawalParams} {withdrawal : Withdrawal}
    (run : WithdrawalRun env params withdrawal w w') :
    legs env w withdrawal = .ok (run.long, run.short) := by
  -- none of the calls before a leg writes what the leg is computed from
  have hcharged : World.SameOff
      [.constant .CLAIMABLE_FEE_AMOUNT, .constant .CLAIMABLE_UI_FEE_AMOUNT] w run.longCharged :=
    chargeFees_writes (by decide) (by decide) _ _ _ _ run.longCharging
  obtain ⟨longFees, hlongFees, hlongAmount⟩ := chargeFees_eq_ok run.longCharging
  obtain ⟨shortFees, hshortFees, hshortAmount⟩ := chargeFees_eq_ok run.shortCharging
  obtain ⟨hlongPath, hshortPath⟩ := run.paths
  rw [SwapPricingUtils.getSwapFees_congr hcharged (by decide)] at hshortFees
  simp only [legs, Result.bind_eq_ok, Result.pure_eq_ok]
  refine ⟨run.market, run.enabledMarket, run.prices, run.marketPrices, _, run.outputs, longFees,
    hlongFees, shortFees, hshortFees, _, hlongPath, _, hshortPath, ?_⟩
  rw [← hlongAmount, ← hshortAmount]
  rfl

end WithdrawalUtils

-- ---------------------------------------------------------------------------
-- Deposits
-- ---------------------------------------------------------------------------

/-- The revert is not about the token that a swap returned. -/
def TokenAccepted (e : Revert Errors) : Prop :=
  ∀ outputToken expectedOutputToken,
    e ≠ .custom (.InvalidSwapOutputToken outputToken expectedOutputToken)

/-- The balance checks do not look at the tokens that a swap returns. -/
theorem MarketUtils.validateMarketTokenBalances_raises (w : World) (markets : List Market) :
    Evm.Result.Raises TokenAccepted (validateMarketTokenBalances w markets) := by
  have hpanic : TokenAccepted (.panic .arithmetic) := by
    intro outputToken expectedOutputToken h
    cases h
  have hexpected : ∀ market token, Evm.Result.Raises TokenAccepted
      (getExpectedMinTokenBalance w.dataStore market token) := fun market token =>
    .bind (.add hpanic _ _) fun _ _ => .bind (.add hpanic _ _) fun _ _ =>
      .bind (.add hpanic _ _) fun _ _ => .bind (.add hpanic _ _) fun _ _ => .add hpanic _ _
  have htoken : ∀ market token, Evm.Result.Raises TokenAccepted
      (validateMarketTokenBalanceForToken w market token) := fun market token =>
    .bind (.revertIf fun _ => by simp [TokenAccepted]) fun _ _ =>
      .bind (hexpected market token) fun _ _ =>
      .bind (.revertIf fun _ => by simp [TokenAccepted]) fun _ _ =>
      .bind (.add hpanic _ _) fun _ _ =>
      .bind (.revertIf fun _ => by simp [TokenAccepted]) fun _ _ =>
      .revertIf fun _ => by simp [TokenAccepted]
  exact .forM fun market => .bind (htoken market _) fun _ _ =>
    .ite (fun _ => .pure _) fun _ => htoken market _

/-- The empty leg of a deposit is rejected when the deposited token is not already the token of
the market, whatever its path leads to. -/
theorem ExecuteDepositUtils.swap_of_zero_rejected_iff {params : ExecuteDepositParams}
    {swapPath : List Address} {swapPathMarkets : List Market}
    (hpath : MarketUtils.getEnabledMarkets w.dataStore swapPath = .ok swapPathMarkets)
    (initialToken market expectedOutputToken uiFeeReceiver : Address) :
    (∃ outputToken, swap env params swapPath initialToken 0 market expectedOutputToken
        uiFeeReceiver w = .error (.custom
          (.InvalidSwapOutputToken outputToken expectedOutputToken))) ↔
      initialToken ≠ expectedOutputToken := by
  have hempty : SwapUtils.swap env
      { bank := { address := params.depositVault, isStrict := true }
        tokenIn := initialToken, amountIn := 0, swapPathMarkets, minOutputAmount := 0
        receiver := market, uiFeeReceiver, shouldUnwrapNativeToken := false } w =
      .ok ((initialToken, 0), w) := rfl
  have hview : viewStore (MarketUtils.getEnabledMarkets · swapPath) w = .ok (swapPathMarkets, w) :=
    Tx.view_of_ok hpath
  unfold swap
  rw [Tx.bind_of_ok hview, Tx.bind_of_ok hempty]
  dsimp only
  constructor
  · rintro ⟨outputToken, h⟩ heq
    have hcheck : revertIf (initialToken ≠ expectedOutputToken)
        (.InvalidSwapOutputToken initialToken expectedOutputToken) = .ok () :=
      if_neg (not_not_intro heq)
    have hbalances : Evm.Result.Raises TokenAccepted
        (Tx.view (MarketUtils.validateMarketTokenBalances · swapPathMarkets) w) :=
      .tx_view (MarketUtils.validateMarketTokenBalances_raises w swapPathMarkets)
    rw [Tx.bind_of_ok (Tx.lift_of_ok hcheck)] at h
    exact (Evm.Result.Raises.tx_bind hbalances fun _ w₁ _ => .tx_pure (0 : Nat) w₁) h
      outputToken expectedOutputToken rfl
  · intro hne
    have hcheck : revertIf (initialToken ≠ expectedOutputToken)
        (.InvalidSwapOutputToken initialToken expectedOutputToken) =
        .error (.custom (.InvalidSwapOutputToken initialToken expectedOutputToken)) :=
      if_pos hne
    exact ⟨initialToken, Tx.bind_of_error (Tx.lift_of_error hcheck)⟩

end GmxSynthetics
