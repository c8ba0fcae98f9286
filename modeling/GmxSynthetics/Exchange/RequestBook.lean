import GmxSynthetics.Evm.Machine
import GmxSynthetics.Exchange.RequestLifecycle
import GmxSynthetics.Market.MarketFactory
import GmxSynthetics.Swap.SwapPath

/-!
# The books under swaps, deposits and withdrawals

Deposits and withdrawals split what they receive and pay into fees, impact and pool amounts on
their own, next to the swaps that bring the tokens in and out. Neither creates nor loses a token.

* `ledger` — the pools of a market in a token, and all that can be claimed from it;
* `executeDeposit_moves`, `executeWithdrawal_moves` — the ledgers move by the hops of the swaps, by
  what the deposit brings after its swaps, and by what the withdrawal hands to its own;
* `ledgers_conserved` — the same for every swap, deposit and withdrawal of a run.
-/

namespace GmxSynthetics

open Evm MarketUtils

variable {env : Env} {w w' : World}

/-- The walk of a swap, and what it does to the books. -/
theorem SwapUtils.swap_walk {params : SwapParams} {output : Address × Nat}
    (h : swap env params w = .ok (output, w')) :
    ∃ hops, Walk env params hops output w w' ∧ Moves (pathDelta hops) w w' := by
  obtain ⟨hops, hwalk, -, hmoves, -⟩ := swap_chain h
  exact ⟨hops, hwalk, hmoves⟩

-- ---------------------------------------------------------------------------
-- Deposits
-- ---------------------------------------------------------------------------

namespace ExecuteDepositUtils

/-- What is left of the amount after the impact is short of it by what the impact pool takes. -/
theorem applyPriceImpact_moves {_params : _ExecuteDepositParams}
    {amountAfterFees poolValue marketTokensSupply amount mintAmount : Nat}
    (h : applyPriceImpact _params amountAfterFees poolValue marketTokensSupply w =
      .ok ((amount, mintAmount), w')) :
    Moves (entry _params.market.marketToken _params.tokenIn (amountAfterFees - amount)) w w' := by
  unfold applyPriceImpact at h
  split at h
  case isTrue hpositive =>
    obtain ⟨impact, w₁, himpact, h⟩ := Tx.bind_eq_ok.mp h
    simp only [↓Tx.lift_bind_eq_ok] at h
    obtain ⟨_, -, _, -, _, -, h⟩ := h
    obtain ⟨_, w₂, hpool, h⟩ := Tx.bind_eq_ok.mp h
    simp only [↓viewStore_bind_eq_ok, Tx.pure_eq_ok, Prod.mk.injEq] at h
    obtain ⟨_, -, ⟨rfl, rfl⟩, rfl⟩ := h
    refine ((applySwapImpactWithCap_moves himpact).trans (applyDeltaToPoolAmount_moves hpool)).cast
      ?_
    rw [entry_add, neg_add_cancel, sub_self, entry_zero, entry_zero]
  case isFalse hnegative =>
    obtain ⟨impact, w₁, himpact, h⟩ := Tx.bind_eq_ok.mp h
    simp only [↓Tx.lift_bind_eq_ok, negInt_eq_ok, toUint256_eq_ok, sub_eq_ok, Tx.pure_eq_ok,
      Prod.mk.injEq] at h
    obtain ⟨_, ⟨-, rfl⟩, taken, htaken, _, ⟨hle, rfl⟩, ⟨rfl, rfl⟩, rfl⟩ := h
    refine (applySwapImpactWithCap_moves himpact).cast ?_
    congr 1
    omega

/-- A deposit of one token brings its amount to the book. -/
theorem _executeDeposit_moves {_params : _ExecuteDepositParams} {mintAmount : Nat}
    (h : _executeDeposit env _params w = .ok (mintAmount, w')) :
    Moves (entry _params.market.marketToken _params.tokenIn _params.amount) w w' := by
  obtain ⟨run⟩ := _executeDeposit_run h
  have hsplit := SwapPricingUtils.getSwapFees_split run.swapFees
  have h₁ := FeeUtils.incrementClaimableFeeAmount_moves run.booking
  have h₂ := FeeUtils.incrementClaimableUiFeeAmount_moves run.uiBooking
  have h₃ := applyPriceImpact_moves run.impacting
  have h₄ := applyDeltaToPoolAmount_moves run.pooling
  have h₅ : Moves 0 run.pooled w' := Moves.of_writes
    (MarketToken.mint_writes (List.mem_singleton_self _) _ _ _) (by decide) run.minting
  refine ((((h₁.trans h₂).trans h₃).trans h₄).trans h₅).cast ?_
  rw [entry_add, entry_add, entry_add, add_zero]
  congr 1
  push_cast
  omega

/-- A deposit of both. -/
theorem depositAmounts_moves {deposit : Deposit} {market : Market} {prices : MarketPrices}
    {longTokenAmount shortTokenAmount mintAmount : Nat}
    (h : depositAmounts env deposit market prices longTokenAmount shortTokenAmount w =
      .ok (mintAmount, w')) :
    Moves (entry market.marketToken market.longToken longTokenAmount +
      entry market.marketToken market.shortToken shortTokenAmount) w w' := by
  unfold depositAmounts at h
  simp only [↓Tx.lift_bind_eq_ok, ↓viewStore_bind_eq_ok] at h
  obtain ⟨_, -, _, -, _, -, _, -, _, -, _, -, _, -, _, -, _, -, h⟩ := h
  obtain ⟨_, w₁, hlong, h⟩ := Tx.bind_eq_ok.mp h
  obtain ⟨_, w₂, hshort, h⟩ := Tx.bind_eq_ok.mp h
  obtain ⟨-, rfl⟩ := Tx.lift_eq_ok.mp h
  have h₁ : Moves (entry market.marketToken market.longToken longTokenAmount) w w₁ := by
    split at hlong
    case isTrue =>
      simp only [↓Tx.lift_bind_eq_ok] at hlong
      obtain ⟨_, -, _, -, _, -, _, -, _, -, hlong⟩ := hlong
      exact _executeDeposit_moves hlong
    case isFalse hzero =>
      obtain ⟨-, rfl⟩ := Tx.pure_eq_ok.mp hlong
      rw [Nat.eq_zero_of_not_pos hzero, Nat.cast_zero, entry_zero]
      exact Moves.refl w
  have h₂ : Moves (entry market.marketToken market.shortToken shortTokenAmount) w₁ w₂ := by
    split at hshort
    case isTrue =>
      simp only [↓Tx.lift_bind_eq_ok] at hshort
      obtain ⟨_, -, _, -, _, -, _, -, _, -, hshort⟩ := hshort
      exact _executeDeposit_moves hshort
    case isFalse hzero =>
      obtain ⟨-, rfl⟩ := Tx.pure_eq_ok.mp hshort
      rw [Nat.eq_zero_of_not_pos hzero, Nat.cast_zero, entry_zero]
      exact Moves.refl w₁
  exact h₁.trans h₂

/-- The swaps of an executed deposit, over its two paths: their hops, and what they bring the
market in its long and in its short token. -/
def Swaps (env : Env) (params : ExecuteDepositParams) (w : World)
    (longHops shortHops : List SwapUtils.Hop) (longTokenAmount shortTokenAmount : Nat) : Prop :=
  let deposit := DepositStoreUtils.get w.dataStore params.key
  let market := MarketStoreUtils.get w.dataStore deposit.market
  ∃ (longPath shortPath : List Market) (removed longSwapped shortSwapped : World),
    getEnabledMarkets w.dataStore deposit.longTokenSwapPath = .ok longPath ∧
    getEnabledMarkets w.dataStore deposit.shortTokenSwapPath = .ok shortPath ∧
    DepositUtils.removeDeposit params.key deposit.account w = .ok ((), removed) ∧
    SwapUtils.Walk env (legParams params deposit.initialLongToken deposit.initialLongTokenAmount
      longPath market.marketToken deposit.uiFeeReceiver) longHops
      (market.longToken, longTokenAmount) removed longSwapped ∧
    SwapUtils.Walk env (legParams params deposit.initialShortToken deposit.initialShortTokenAmount
      shortPath market.marketToken deposit.uiFeeReceiver) shortHops
      (market.shortToken, shortTokenAmount) longSwapped shortSwapped

/-- The execution of a deposit: the hops of its two swaps, and what they bring the market. -/
theorem executeDeposit_moves {params : ExecuteDepositParams} {u : Unit}
    (h : executeDeposit env params w = .ok (u, w')) :
    ∃ (longHops shortHops : List SwapUtils.Hop) (longTokenAmount shortTokenAmount : Nat),
      let market := MarketStoreUtils.get w.dataStore
        (DepositStoreUtils.get w.dataStore params.key).market
      Swaps env params w longHops shortHops longTokenAmount shortTokenAmount ∧
      Moves (SwapUtils.pathDelta longHops + SwapUtils.pathDelta shortHops +
        (entry market.marketToken market.longToken longTokenAmount +
          entry market.marketToken market.shortToken shortTokenAmount)) w w' := by
  obtain ⟨market, prices, longTokenAmount, shortTokenAmount, mintAmount, w₁, w₂, w₃, w₄, hremove,
    hmarket, -, hlong, hshort, -, hamounts, hfee⟩ := executeDeposit_eq_ok h
  have hremoved : World.SameOff ([.position, .request] ++ depositStore.listSlots) w w₁ :=
    depositStore.remove_writes_tx (List.mem_append_left _ params.key.slot_mem)
      (List.subset_append_right _ _) hremove
  have hswapped := swap_writes env (List.Subset.refl swapSlots) _ _ _ _ _ _ _ hlong
  obtain rfl : market = MarketStoreUtils.get w.dataStore
      (DepositStoreUtils.get w.dataStore params.key).market := by
    rw [(getEnabledMarket_eq_ok hmarket).1]
    exact MarketStoreUtils.get_sameOff hremoved (by decide) (by decide) _
  obtain ⟨longPath, hlongPath, hlong⟩ := swap_eq_ok hlong
  obtain ⟨shortPath, hshortPath, hshort⟩ := swap_eq_ok hshort
  rw [getEnabledMarkets_congr hswapped (by decide)] at hshortPath
  rw [getEnabledMarkets_congr hremoved (by decide)] at hlongPath hshortPath
  obtain ⟨longHops, hlongWalk, hlongMoves⟩ := SwapUtils.swap_walk hlong
  obtain ⟨shortHops, hshortWalk, hshortMoves⟩ := SwapUtils.swap_walk hshort
  refine ⟨longHops, shortHops, longTokenAmount, shortTokenAmount,
    ⟨longPath, shortPath, w₁, w₂, w₃, hlongPath, hshortPath, hremove, hlongWalk, hshortWalk⟩, ?_⟩
  have h₁ : Moves 0 w w₁ := Moves.of_sameOff hremoved (by decide)
  have h₄ := depositAmounts_moves hamounts
  have h₅ : Moves 0 w₄ w' := Moves.of_writes
    (GasUtils.payExecutionFee_writes env (List.mem_singleton_self _) _ _ _ _) (by decide) hfee
  refine ((((h₁.trans hlongMoves).trans hshortMoves).trans h₄).trans h₅).cast ?_
  rw [zero_add, add_zero]

end ExecuteDepositUtils

-- ---------------------------------------------------------------------------
-- Withdrawals
-- ---------------------------------------------------------------------------

namespace WithdrawalUtils

/-- The fees on an output are what leaves the pool without being paid out. -/
theorem chargeFees_moves {withdrawal : Withdrawal} {market token : Address}
    {outputAmount poolAmountDelta amountAfterFees : Nat}
    (h : chargeFees withdrawal market token outputAmount w =
      .ok ((poolAmountDelta, amountAfterFees), w')) :
    Moves (entry market token (poolAmountDelta - amountAfterFees)) w w' := by
  unfold chargeFees at h
  simp only [↓viewStore_bind_eq_ok] at h
  obtain ⟨fees, hfees, h⟩ := h
  obtain ⟨_, w₁, hfee, h⟩ := Tx.bind_eq_ok.mp h
  obtain ⟨_, w₂, hui, h⟩ := Tx.bind_eq_ok.mp h
  simp only [↓Tx.lift_bind_eq_ok, sub_eq_ok, Tx.pure_eq_ok, Prod.mk.injEq] at h
  obtain ⟨_, ⟨hle, rfl⟩, ⟨rfl, rfl⟩, rfl⟩ := h
  have hsplit := SwapPricingUtils.getSwapFees_split hfees
  have h₁ := FeeUtils.incrementClaimableFeeAmount_moves hfee
  have h₂ := FeeUtils.incrementClaimableUiFeeAmount_moves hui
  refine (h₁.trans h₂).cast ?_
  rw [entry_add]
  congr 1
  omega

/-- What the market has taken off its book and burned the market tokens for, before the swaps. -/
theorem WithdrawalRun.moves_synced {params : ExecuteWithdrawalParams} {withdrawal : Withdrawal}
    (run : WithdrawalRun env params withdrawal w w') :
    Moves (entry run.market.marketToken run.market.longToken (-run.longTokenOutputAmount) +
      entry run.market.marketToken run.market.shortToken (-run.shortTokenOutputAmount))
      w run.synced := by
  have h₁ := chargeFees_moves run.longCharging
  have h₂ := chargeFees_moves run.shortCharging
  have h₃ := applyDeltaToPoolAmount_moves run.longPaying
  have h₄ := applyDeltaToPoolAmount_moves run.shortPaying
  have h₅ : Moves 0 run.shortPaid run.burned := Moves.of_writes
    (MarketToken.burn_writes (List.mem_singleton_self _) _ _ _) (by decide) run.burning
  have h₆ : Moves 0 run.burned run.synced := Moves.of_writes
    (StrictBank.syncTokenBalance_writes (List.mem_singleton_self _) _ _) (by decide) run.syncing
  refine (((((h₁.trans h₂).trans h₃).trans h₄).trans h₅).trans h₆).cast ?_
  funext market token
  simp only [Pi.add_apply, Pi.zero_apply, entry]
  split_ifs <;> omega

/-- The markets of the two paths, as they are before the withdrawal. -/
theorem WithdrawalRun.paths {params : ExecuteWithdrawalParams} {withdrawal : Withdrawal}
    (run : WithdrawalRun env params withdrawal w w') :
    getEnabledMarkets w.dataStore withdrawal.longTokenSwapPath = .ok run.longPathMarkets ∧
      getEnabledMarkets w.dataStore withdrawal.shortTokenSwapPath = .ok run.shortPathMarkets := by
  have hall : swapSlots ⊆ swapSlots := List.Subset.refl _
  have hsynced := run.sameOff_synced hall
  have hswapped := swap_writes env hall _ _ _ _ _ _ run.longSwapping
  have hlong := run.longPath
  have hshort := run.shortPath
  rw [getEnabledMarkets_congr hsynced (by decide)] at hlong
  rw [getEnabledMarkets_congr (hsynced.trans hswapped) (by decide)] at hshort
  exact ⟨hlong, hshort⟩

/-- The swaps of an executed withdrawal, over its two paths: their hops, their parameters with the
amounts that the market hands to them, and the run that makes them. -/
def Swaps (env : Env) (params : ExecuteWithdrawalParams) (w w' : World)
    (longHops shortHops : List SwapUtils.Hop) (long short : SwapUtils.SwapParams) : Prop :=
  let withdrawal := WithdrawalStoreUtils.get w.dataStore params.key
  ∃ (removed swapped : World) (run : WithdrawalRun env params withdrawal removed swapped),
    removeWithdrawal params.key withdrawal.account w = .ok ((), removed) ∧
    getEnabledMarkets w.dataStore withdrawal.longTokenSwapPath = .ok long.swapPathMarkets ∧
    getEnabledMarkets w.dataStore withdrawal.shortTokenSwapPath = .ok short.swapPathMarkets ∧
    run.long = long ∧ run.short = short ∧
    SwapUtils.Walk env long longHops run.longOutput run.synced run.longSwapped ∧
    SwapUtils.Walk env short shortHops run.shortOutput run.longSwapped swapped ∧
    GasUtils.payExecutionFee env params.withdrawalVault withdrawal.executionFee params.keeper
      withdrawal.account swapped = .ok ((), w')

/-- The execution of a withdrawal: what the market hands to the two swaps, and their hops. -/
theorem executeWithdrawal_moves {params : ExecuteWithdrawalParams} {u : Unit}
    (h : executeWithdrawal env params w = .ok (u, w')) :
    ∃ (longHops shortHops : List SwapUtils.Hop) (long short : SwapUtils.SwapParams),
      let market := MarketStoreUtils.get w.dataStore
        (WithdrawalStoreUtils.get w.dataStore params.key).market
      Swaps env params w w' longHops shortHops long short ∧
      long.tokenIn = market.longToken ∧ short.tokenIn = market.shortToken ∧
      Moves (entry market.marketToken market.longToken (-long.amountIn) +
        entry market.marketToken market.shortToken (-short.amountIn) +
        (SwapUtils.pathDelta longHops + SwapUtils.pathDelta shortHops)) w w' := by
  obtain ⟨w₁, w₂, hremove, hexecute, hfee⟩ := executeWithdrawal_eq_ok h
  obtain ⟨run⟩ := _executeWithdrawal_run hexecute
  have hremoved : World.SameOff ([.position, .request] ++ withdrawalStore.listSlots) w w₁ :=
    withdrawalStore.remove_writes_tx (List.mem_append_left _ params.key.slot_mem)
      (List.subset_append_right _ _) hremove
  have hmarket : run.market = MarketStoreUtils.get w.dataStore
      (WithdrawalStoreUtils.get w.dataStore params.key).market := by
    rw [(getEnabledMarket_eq_ok run.enabledMarket).1]
    exact MarketStoreUtils.get_sameOff hremoved (by decide) (by decide) _
  obtain ⟨hlongPath, hshortPath⟩ := run.paths
  rw [getEnabledMarkets_congr hremoved (by decide)] at hlongPath hshortPath
  obtain ⟨longHops, hlongWalk, hlongMoves⟩ := SwapUtils.swap_walk run.longLeg
  obtain ⟨shortHops, hshortWalk, hshortMoves⟩ := SwapUtils.swap_walk run.shortLeg
  refine ⟨longHops, shortHops, run.long, run.short, ⟨w₁, w₂, run, hremove, hlongPath, hshortPath,
    rfl, rfl, hlongWalk, hshortWalk, hfee⟩, ?_⟩
  rw [← hmarket]
  refine ⟨rfl, rfl, ?_⟩
  have h₁ : Moves 0 w w₁ := Moves.of_sameOff hremoved (by decide)
  have h₅ : Moves 0 w₂ w' := Moves.of_writes
    (GasUtils.payExecutionFee_writes env (List.mem_singleton_self _) _ _ _ _) (by decide) hfee
  refine ((((h₁.trans run.moves_synced).trans hlongMoves).trans hshortMoves).trans h₅).cast ?_
  rw [zero_add, add_zero, add_assoc]
  rfl

end WithdrawalUtils

-- ---------------------------------------------------------------------------
-- Ledgers
-- ---------------------------------------------------------------------------

/-- The pools of a market in a token, and all that can be claimed from it. -/
def ledger (dataStore : DataStore) (market token : Address) : Int :=
  ([Keys.poolAmountKey market token, Keys.swapImpactPoolAmountKey market token,
    Keys.claimableFeeAmountKey market token, Keys.claimableUiFeeAmountKey market token,
    Keys.claimableCollateralAmountKey market token, Keys.claimableFundingAmountKey market token,
    Keys.affiliateRewardKey market token].map fun key => (dataStore.getUint key : Int)).sum

/-- The ledgers move as the book does where collateral and funding stay. -/
theorem ledger_of_moves {slots : List Slot} {δ : Address → Address → Int} (h : Moves δ w w')
    (hsame : World.SameOff slots w w') (hsum : Slot.constant .COLLATERAL_SUM ∉ slots)
    (hfunding : Slot.constant .CLAIMABLE_FUNDING_AMOUNT ∉ slots) (market token : Address) :
    ledger w'.dataStore market token = ledger w.dataStore market token + δ market token := by
  have hbook := h market token
  have hlong := hsame.uint _ hsum (Keys.collateralSumKey market token true) rfl
  have hshort := hsame.uint _ hsum (Keys.collateralSumKey market token false) rfl
  have hclaimable := hsame.uint _ hfunding (Keys.claimableFundingAmountKey market token) rfl
  simp only [book, bookKeys, List.map_cons, List.map_nil, List.sum_cons, List.sum_nil] at hbook
  simp only [ledger, List.map_cons, List.map_nil, List.sum_cons, List.sum_nil]
  omega

theorem requestSlots_keep (key : StoreKey) :
    Slot.constant .COLLATERAL_SUM ∉ key.slot :: requestSlots ∧
      Slot.constant .CLAIMABLE_FUNDING_AMOUNT ∉ key.slot :: requestSlots := by
  cases key with
  | position account market collateralToken isLong =>
    show Slot.constant .COLLATERAL_SUM ∉ Slot.position :: requestSlots ∧
      Slot.constant .CLAIMABLE_FUNDING_AMOUNT ∉ Slot.position :: requestSlots
    decide
  | request nonce =>
    show Slot.constant .COLLATERAL_SUM ∉ Slot.request :: requestSlots ∧
      Slot.constant .CLAIMABLE_FUNDING_AMOUNT ∉ Slot.request :: requestSlots
    decide

-- ---------------------------------------------------------------------------
-- Runs
-- ---------------------------------------------------------------------------

/-- Swaps, and all that leaves the flags of their paths alone. -/
inductive SwapCall where
  | swap (env : Env) (params : SwapUtils.SwapParams)
  | other

/-- Starts without a flag. -/
def swapMachine : Machine World SwapCall where
  init w := ∀ market, SwapUtils.flag w market = false
  next
    | .swap env params, w, w' => ∃ result, SwapUtils.swap env params w = .ok (result, w')
    | .other, w, w' => ∀ market, SwapUtils.flag w' market = SwapUtils.flag w market

theorem swapMachine_flags (h : swapMachine.Reachable w) (market : Address) :
    SwapUtils.flag w market = false := by
  revert market
  refine Machine.Reachable.invariant (P := fun w => ∀ market, SwapUtils.flag w market = false)
    (fun _ hinit => hinit) ?_ h
  intro call w w' _ hnext hclear market
  cases call with
  | swap env params =>
    obtain ⟨⟨tokenOut, amountOut⟩, hswap⟩ := hnext
    obtain ⟨hops, -, -, -, hflags⟩ := SwapUtils.swap_chain hswap
    rw [← Bool.not_eq_true]
    intro hflag
    have hbefore := hflags market hflag
    rw [hclear market] at hbefore
    exact absurd hbefore (by decide)
  | other => rw [hnext market, hclear market]

/-- **Ledgers are conserved.** In every run, a swap moves the ledgers of each market on its path by
what the market receives and pays for its hop, and leaves no flag; a path that would visit a market
twice is refused. A deposit moves the ledgers by the hops of its swaps over its two paths and by
what they bring the market, a withdrawal by what it hands to its swaps and by their hops. -/
theorem ledgers_conserved (h : swapMachine.Reachable w) :
    (∀ (env : Env) (params : SwapUtils.SwapParams) (output : Address × Nat) (w' : World),
      SwapUtils.swap env params w = .ok (output, w') →
      ∃ hops, SwapUtils.Walk env params hops output w w' ∧
        (∀ hop ∈ hops, ∀ token, ledger w'.dataStore hop.market.marketToken token =
          ledger w.dataStore hop.market.marketToken token + (hop.received token - hop.paid token)) ∧
        (∀ market ∉ hops.map (·.market.marketToken), ∀ token,
          ledger w'.dataStore market token = ledger w.dataStore market token) ∧
        ∀ market, SwapUtils.flag w' market = false) ∧
    (∀ (env : Env) (params : SwapUtils.SwapParams), params.amountIn ≠ 0 →
      ¬ (params.swapPathMarkets.map (·.marketToken)).Nodup →
      ∃ error, SwapUtils.swap env params w = .error error) ∧
    (∀ (env : Env) (params : ExecuteDepositUtils.ExecuteDepositParams) (w' : World),
      ExecuteDepositUtils.executeDeposit env params w = .ok ((), w') →
      ∃ (longHops shortHops : List SwapUtils.Hop) (longTokenAmount shortTokenAmount : Nat),
        let market := MarketStoreUtils.get w.dataStore
          (DepositStoreUtils.get w.dataStore params.key).market
        ExecuteDepositUtils.Swaps env params w longHops shortHops longTokenAmount
          shortTokenAmount ∧
        ∀ m token, ledger w'.dataStore m token = ledger w.dataStore m token +
          (SwapUtils.pathDelta longHops m token + SwapUtils.pathDelta shortHops m token +
            (entry market.marketToken market.longToken longTokenAmount m token +
              entry market.marketToken market.shortToken shortTokenAmount m token))) ∧
    ∀ (env : Env) (params : WithdrawalUtils.ExecuteWithdrawalParams) (w' : World),
      WithdrawalUtils.executeWithdrawal env params w = .ok ((), w') →
      ∃ (longHops shortHops : List SwapUtils.Hop) (long short : SwapUtils.SwapParams),
        let market := MarketStoreUtils.get w.dataStore
          (WithdrawalStoreUtils.get w.dataStore params.key).market
        WithdrawalUtils.Swaps env params w w' longHops shortHops long short ∧
        long.tokenIn = market.longToken ∧ short.tokenIn = market.shortToken ∧
        ∀ m token, ledger w'.dataStore m token = ledger w.dataStore m token +
          (entry market.marketToken market.longToken (-long.amountIn) m token +
            entry market.marketToken market.shortToken (-short.amountIn) m token +
            (SwapUtils.pathDelta longHops m token + SwapUtils.pathDelta shortHops m token)) := by
  have hclear := swapMachine_flags h
  refine ⟨?_, ?_, ?_, ?_⟩
  · intro env params output w' hswap
    obtain ⟨hops, hwalk, hnodup, hmoves, hflags⟩ := SwapUtils.swap_chain hswap
    have hledger := ledger_of_moves hmoves
      (SwapUtils.swap_writes env (List.Subset.refl swapSlots) _ hswap) (by decide) (by decide)
    refine ⟨hops, hwalk, ?_, ?_, ?_⟩
    · intro hop hmem token
      rw [hledger, SwapUtils.pathDelta_of_mem hnodup hmem]
    · intro market hmem token
      rw [hledger, SwapUtils.pathDelta_of_not_mem hmem, add_zero]
    · exact swapMachine_flags (h.next (i := SwapCall.swap env params) ⟨_, hswap⟩)
  · intro env params hamount hduplicate
    rcases hswap : SwapUtils.swap env params w with error | ⟨output, w'⟩
    · exact ⟨error, rfl⟩
    · obtain ⟨hops, ⟨-, hmarkets, -⟩, hnodup, -, -⟩ := SwapUtils.swap_chain hswap
      rw [if_neg hamount] at hmarkets
      rw [← hmarkets, List.map_map] at hduplicate
      exact absurd hnodup hduplicate
  · intro env params w' hexecute
    obtain ⟨longHops, shortHops, longTokenAmount, shortTokenAmount, hswaps, hmoves⟩ :=
      ExecuteDepositUtils.executeDeposit_moves hexecute
    have hkeep := requestSlots_keep params.key
    have hledger := ledger_of_moves hmoves (ExecuteDepositUtils.executeDeposit_writes env
      List.mem_cons_self (List.subset_cons_self _ _) hexecute) hkeep.1 hkeep.2
    exact ⟨longHops, shortHops, longTokenAmount, shortTokenAmount, hswaps, hledger⟩
  · intro env params w' hexecute
    obtain ⟨longHops, shortHops, long, short, hswaps, hlong, hshort, hmoves⟩ :=
      WithdrawalUtils.executeWithdrawal_moves hexecute
    have hkeep := requestSlots_keep params.key
    have hledger := ledger_of_moves hmoves (WithdrawalUtils.executeWithdrawal_writes env
      List.mem_cons_self (List.subset_cons_self _ _) hexecute) hkeep.1 hkeep.2
    exact ⟨longHops, shortHops, long, short, hswaps, hlong, hshort, hledger⟩

/-- A market with pools of its two tokens, next to a vault with a deposit of the long one. -/
def swapWorld : World where
  dataStore :=
    let dataStore := DataStore.empty.setUint (Keys.poolAmountKey 1 3) 5000
    let dataStore := dataStore.setUint (Keys.poolAmountKey 1 4) 5000
    let dataStore := dataStore.setUint (Keys.maxPoolAmountKey 1 3) 10000
    let dataStore := dataStore.setUint (Keys.swapFeeFactorKey 1) (5 * 10 ^ 28)
    let dataStore := dataStore.setUint (.base .SWAP_FEE_RECEIVER_FACTOR) (4 * 10 ^ 29)
    let dataStore := dataStore.setUint (Keys.tokenTransferGasLimit 3) 1
    dataStore.setUint (Keys.tokenTransferGasLimit 4) 1
  balances token account :=
    if account = 1 ∧ (token = 3 ∨ token = 4) then 5000
    else if account = 8 ∧ token = 3 then 1000
    else 0
  totalSupply _ := 0
  tokenBalances _ _ := 0

/-- A swap from the vault to a trader. -/
def swapParams (amountIn : Nat) (path : List Market) : SwapUtils.SwapParams where
  bank := ⟨8, true⟩
  tokenIn := 3
  amountIn := amountIn
  swapPathMarkets := path
  minOutputAmount := 0
  receiver := 9
  uiFeeReceiver := 0
  shouldUnwrapNativeToken := false

/-- A thousand tokens, of which fifty are a fee. -/
theorem ledgers_conserved_swapWorld :
    ∃ w', SwapUtils.swap (Env.plain 10 fun _ => ⟨1, 1⟩) (swapParams 1000 [⟨1, 2, 3, 4⟩]) swapWorld =
        .ok ((4, 950), w') ∧
      ledger w'.dataStore 1 3 = 6000 ∧ ledger w'.dataStore 1 4 = 4050 ∧
      ∃ hops : List SwapUtils.Hop, hops.map SwapUtils.Hop.market = [⟨1, 2, 3, 4⟩] ∧
        ∀ hop ∈ hops, ∀ token, ledger w'.dataStore hop.market.marketToken token =
          ledger swapWorld.dataStore hop.market.marketToken token +
            (hop.received token - hop.paid token) := by
  have hrun : Result.Satisfies
      (SwapUtils.swap (Env.plain 10 fun _ => ⟨1, 1⟩) (swapParams 1000 [⟨1, 2, 3, 4⟩]) swapWorld)
      fun result => result.1 = (4, 950) ∧ ledger result.2.dataStore 1 3 = 6000 ∧
        ledger result.2.dataStore 1 4 = 4050 := by
    decide +kernel
  obtain ⟨⟨_, w'⟩, hswap, rfl, hlong, hshort⟩ := hrun.exists
  have hinit : swapMachine.Reachable swapWorld := .init fun _ => rfl
  obtain ⟨hops, ⟨-, hmarkets, -⟩, hledger, -, -⟩ := (ledgers_conserved hinit).1 _ _ _ _ hswap
  exact ⟨w', hswap, hlong, hshort, hops, hmarkets, hledger⟩

/-- Nothing is refused when there is nothing to swap. -/
theorem swap_nothing_twice :
    ∃ (w w' : World) (env : Env) (params : SwapUtils.SwapParams) (result : Address × Nat),
      swapMachine.Reachable w ∧ ¬ (params.swapPathMarkets.map (·.marketToken)).Nodup ∧
        SwapUtils.swap env params w = .ok (result, w') :=
  ⟨swapWorld, swapWorld, Env.plain 10 fun _ => ⟨1, 1⟩,
    swapParams 0 [⟨1, 2, 3, 4⟩, ⟨1, 2, 3, 4⟩], (3, 0), .init fun _ => rfl, by decide, rfl⟩

end GmxSynthetics
