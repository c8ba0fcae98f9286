import GmxSynthetics.Exchange.CallCustody
import GmxSynthetics.Exchange.OrderTerms
import GmxSynthetics.Exchange.RequestAuthority
import GmxSynthetics.Exchange.WithdrawalProceeds

/-!
# Deposits and withdrawals are executed on their terms

A keeper that executes a deposit brings its receiver the minimum of market tokens, and one that
executes a withdrawal brings its receiver the outputs of its two swaps, each of which meets its
minimum. Where that is not possible the request is cancelled, and its account has back what it
had sent.

* `executeDeposit_delivers`, `executeWithdrawal_pays` — what an execution brings;
* `cancelDeposit_delivers`, `cancelWithdrawal_delivers` — what a cancellation brings back;
* `liquidity_terms` — one of the two happens, in every state that is reached.
-/

namespace GmxSynthetics

open Evm MarketUtils

variable {env : Env} {deployment : Deployment} {w w' : World} {account : Address} {u : Unit}
  {key : StoreKey}

-- ---------------------------------------------------------------------------
-- Mints
-- ---------------------------------------------------------------------------

theorem MarketToken.mint_receives {marketToken receiver : Address} {amount : Nat}
    (h : mint marketToken receiver amount w = .ok (u, w')) :
    Receives account (entry receiver marketToken amount account) w w' := by
  intro token
  unfold mint at h
  simp only [↓Tx.lift_bind_eq_ok, ↓Tx.read_bind_eq_ok, Tx.write_eq_ok] at h
  obtain ⟨_, -, _, -, rfl⟩ := h
  show _ ≤ (((w.setBalance marketToken receiver _).balances token account : Nat) : Int)
  rw [World.balances_setBalance, entry]
  by_cases hself : account = receiver ∧ token = marketToken
  · obtain ⟨rfl, rfl⟩ := hself
    simp
  · rw [if_neg hself, if_neg fun heq => hself ⟨heq.2, heq.1⟩]
    omega

namespace ExecuteDepositUtils

/-- The deposit of one token brings its receiver what is minted for it. -/
theorem _executeDeposit_receives {_params : _ExecuteDepositParams} {mintAmount : Nat}
    (h : _executeDeposit env _params w = .ok (mintAmount, w')) :
    Receives account (entry _params.receiver _params.market.marketToken mintAmount account) w
      w' := by
  obtain ⟨run⟩ := _executeDeposit_run h
  have h₁ : Receives account 0 w run.booked := .of_writes
    (FeeUtils.incrementClaimableFeeAmount_writes (List.mem_singleton_self _) _ _ _) (by decide)
    run.booking
  have h₂ : Receives account 0 run.booked run.uiBooked := .of_writes
    (FeeUtils.incrementClaimableUiFeeAmount_writes (List.mem_singleton_self _) _ _ _ _) (by decide)
    run.uiBooking
  have h₃ : Receives account 0 run.uiBooked run.impacted :=
    .of_guarded (applyPriceImpact_guards _ _ _ _ run.impacting)
  have h₄ : Receives account 0 run.impacted run.pooled := by
    have hwrites : Writes [.constant .POOL_AMOUNT, .constant .VIRTUAL_INVENTORY_FOR_SWAPS]
        (applyDeltaToPoolAmount _params.market.marketToken _params.tokenIn
          (run.amountAfterFees + run.fees.feeAmountForPool : Nat)) :=
      applyDeltaToPoolAmount_writes (by decide) (by decide) _ _ _
    exact .of_writes hwrites (by decide) run.pooling
  have hall := (((h₁.trans h₂).trans h₃).trans h₄).trans (MarketToken.mint_receives run.minting)
  simpa using hall

theorem depositAmounts_receives {deposit : Deposit} {market : Market} {prices : MarketPrices}
    {longTokenAmount shortTokenAmount mintAmount : Nat}
    (h : depositAmounts env deposit market prices longTokenAmount shortTokenAmount w =
      .ok (mintAmount, w')) :
    Receives account (entry deposit.receiver market.marketToken mintAmount account) w w' := by
  unfold depositAmounts at h
  simp only [↓Tx.lift_bind_eq_ok, ↓viewStore_bind_eq_ok] at h
  obtain ⟨_, -, _, -, _, -, _, -, _, -, _, -, _, -, _, -, _, -, h⟩ := h
  obtain ⟨mintAmountForLong, w₁, hlong, h⟩ := Tx.bind_eq_ok.mp h
  obtain ⟨mintAmountForShort, w₂, hshort, h⟩ := Tx.bind_eq_ok.mp h
  obtain ⟨hsum, rfl⟩ := Tx.lift_eq_ok.mp h
  obtain ⟨-, rfl⟩ := add_eq_ok.mp hsum
  have h₁ : Receives account (entry deposit.receiver market.marketToken mintAmountForLong account)
      w w₁ := by
    split at hlong
    case isTrue =>
      simp only [↓Tx.lift_bind_eq_ok] at hlong
      obtain ⟨_, -, _, -, _, -, _, -, _, -, hlong⟩ := hlong
      exact _executeDeposit_receives hlong
    case isFalse =>
      obtain ⟨rfl, rfl⟩ := Tx.pure_eq_ok.mp hlong
      refine (Receives.refl account w).mono fun token => ?_
      simp [entry]
  have h₂ : Receives account (entry deposit.receiver market.marketToken mintAmountForShort account)
      w₁ w₂ := by
    split at hshort
    case isTrue =>
      simp only [↓Tx.lift_bind_eq_ok] at hshort
      obtain ⟨_, -, _, -, _, -, _, -, _, -, hshort⟩ := hshort
      exact _executeDeposit_receives hshort
    case isFalse =>
      obtain ⟨rfl, rfl⟩ := Tx.pure_eq_ok.mp hshort
      refine (Receives.refl account w₁).mono fun token => ?_
      simp [entry]
  refine (h₁.trans h₂).mono fun token => ?_
  simp only [Pi.add_apply, entry]
  split_ifs <;> omega

/-- What is checked of a deposit when it is executed. -/
theorem executeDeposit_checks {params : ExecuteDepositParams}
    (h : executeDeposit env params w = .ok (u, w')) :
    let deposit := DepositStoreUtils.get w.dataStore params.key
    (∀ block ∈ params.minOracleBlockNumbers, block ≤ deposit.updatedAtBlock) ∧
      (∀ block ∈ params.maxOracleBlockNumbers, deposit.updatedAtBlock ≤ block) ∧
      ∃ (market : Market) (prices : MarketPrices) (longAmount shortAmount mintAmount : Nat)
        (w₁ w₂ w₃ w₄ : World),
        DepositUtils.removeDeposit params.key deposit.account w = .ok ((), w₁) ∧
        getEnabledMarket w₁.dataStore deposit.market = .ok market ∧
        swap env params deposit.longTokenSwapPath deposit.initialLongToken
          deposit.initialLongTokenAmount market.marketToken market.longToken
          deposit.uiFeeReceiver w₁ = .ok (longAmount, w₂) ∧
        swap env params deposit.shortTokenSwapPath deposit.initialShortToken
          deposit.initialShortTokenAmount market.marketToken market.shortToken
          deposit.uiFeeReceiver w₂ = .ok (shortAmount, w₃) ∧
        depositAmounts env deposit market prices longAmount shortAmount w₃ =
          .ok (mintAmount, w₄) ∧
        deposit.minMarketTokens ≤ mintAmount ∧
        GasUtils.payExecutionFee env params.depositVault deposit.executionFee params.keeper
          deposit.account w₄ = .ok ((), w') := by
  intro deposit
  unfold executeDeposit at h
  simp only [↓readStore_bind_eq_ok] at h
  obtain ⟨_, w₁, hremove, h⟩ := Tx.bind_eq_ok.mp h
  simp only [↓Tx.lift_bind_eq_ok, ↓viewStore_bind_eq_ok] at h
  obtain ⟨_, -, _, hdated, market, hmarket, prices, -, _, -, h⟩ := h
  obtain ⟨longAmount, w₂, hlong, h⟩ := Tx.bind_eq_ok.mp h
  obtain ⟨shortAmount, w₃, hshort, h⟩ := Tx.bind_eq_ok.mp h
  simp only [↓Tx.lift_bind_eq_ok] at h
  obtain ⟨_, -, h⟩ := h
  obtain ⟨mintAmount, w₄, hamounts, h⟩ := Tx.bind_eq_ok.mp h
  simp only [↓Tx.lift_bind_eq_ok, ↓Tx.view_bind_eq_ok, Result.revertIf_eq_ok] at h
  obtain ⟨_, hmin, _, -, hfee⟩ := h
  obtain ⟨hlower, hupper⟩ := OracleUtils.validateBlockNumberWithinRange_eq_ok hdated
  exact ⟨hlower, hupper, market, prices, longAmount, shortAmount, mintAmount, w₁, w₂, w₃, w₄,
    hremove, hmarket, hlong, hshort, hamounts, Nat.le_of_not_lt hmin, hfee⟩

/-- **An executed deposit** brings its receiver at least the minimum of market tokens. -/
theorem executeDeposit_delivers {params : ExecuteDepositParams} (hkeyed : MarketsKeyed w.dataStore)
    (h : executeDeposit env params w = .ok (u, w')) :
    let deposit := DepositStoreUtils.get w.dataStore params.key
    (∀ block ∈ params.minOracleBlockNumbers, block ≤ deposit.updatedAtBlock) ∧
      (∀ block ∈ params.maxOracleBlockNumbers, deposit.updatedAtBlock ≤ block) ∧
      (IsReceiver env params.depositVault deposit.receiver w →
        w.balances deposit.market deposit.receiver + deposit.minMarketTokens ≤
          w'.balances deposit.market deposit.receiver) := by
  have hchecks := executeDeposit_checks h
  dsimp only at hchecks ⊢
  generalize DepositStoreUtils.get w.dataStore params.key = deposit at hchecks ⊢
  obtain ⟨hlower, hupper, market, prices, longAmount, shortAmount, mintAmount, w₁, w₂, w₃, w₄,
    hremove, hmarket, hlong, hshort, hamounts, hmin, hfee⟩ := hchecks
  refine ⟨hlower, hupper, fun hreceiver => ?_⟩
  have hremoved : World.SameOff ([.position, .request] ++ depositStore.listSlots) w w₁ :=
    depositStore.remove_writes_tx (List.mem_append_left _ params.key.slot_mem)
      (List.subset_append_right _ _) hremove
  have hkeyed₁ : MarketsKeyed w₁.dataStore := hkeyed.of_market_eq <|
    funext fun _ => MarketStoreUtils.get_sameOff hremoved (by decide) (by decide) _
  have hnone₁ : NoMarket deposit.receiver w₁.dataStore :=
    hreceiver.noMarket.of_sameOff hremoved (by decide) (by decide)
  have hne := getEnabledMarket_ne hnone₁ hmarket
  obtain ⟨rfl, henabled⟩ := getEnabledMarket_eq_ok hmarket
  have hmarketToken := hkeyed₁ _ henabled
  have h₁ : Gains deposit.receiver 0 w w₁ := .of_sameOff hremoved (by decide) (by decide)
  have h₄ : Gains deposit.receiver _ w₃ w₄ := .of_moves (depositAmounts_receives hamounts)
    (depositAmounts_moves hamounts)
  have h₅ := GasUtils.payExecutionFee_gains hreceiver.vault_ne hfee
  have hall := (((h₁.trans (swap_gains hlong hreceiver.accepts)).trans
    (swap_gains hshort hreceiver.accepts)).trans h₄).trans h₅
  rw [Pi.add_apply, entry_apply_of_ne hreceiver.vault_ne.symm,
    entry_apply_of_ne hreceiver.vault_ne.symm, entry_apply_of_ne hne.symm,
    entry_apply_of_ne hne.symm] at hall
  have howed : book w'.dataStore deposit.receiver deposit.market =
      book w.dataStore deposit.receiver deposit.market :=
    congrFun (executeDeposit_untouched hreceiver.noMarket h) deposit.market
  have htoken := hall deposit.market
  simp only [Custody.surplus, World.custody, Pi.add_apply, Pi.sub_apply, Pi.zero_apply, entry,
    hmarketToken, and_self, if_true] at htoken
  omega

end ExecuteDepositUtils

-- ---------------------------------------------------------------------------
-- Withdrawals
-- ---------------------------------------------------------------------------

namespace WithdrawalUtils

/-- **An executed withdrawal** makes its two swaps one after the other, each of which meets its
minimum unless there is nothing to swap, and its receiver has both outputs. -/
def Pays (env : Env) (params : ExecuteWithdrawalParams) (withdrawal : Withdrawal)
    (w w' : World) : Prop :=
  ∃ (removed swapped : World) (run : WithdrawalRun env params withdrawal removed swapped),
    removeWithdrawal params.key withdrawal.account w = .ok ((), removed) ∧
    SwapUtils.swap env run.long run.synced = .ok (run.longOutput, run.longSwapped) ∧
    SwapUtils.swap env run.short run.longSwapped = .ok (run.shortOutput, swapped) ∧
    GasUtils.payExecutionFee env params.withdrawalVault withdrawal.executionFee params.keeper
      withdrawal.account swapped = .ok ((), w') ∧
    (run.long.amountIn ≠ 0 → SwapUtils.Meets run.long run.longOutput) ∧
    (run.short.amountIn ≠ 0 → SwapUtils.Meets run.short run.shortOutput) ∧
    (IsReceiver env params.withdrawalVault withdrawal.receiver w →
      Delivered withdrawal.receiver withdrawal.shouldUnwrapNativeToken
        [run.longOutput, run.shortOutput] w w')

/-- An executed withdrawal was last updated in a block that the prices are of. -/
theorem executeWithdrawal_dated {params : ExecuteWithdrawalParams}
    (h : executeWithdrawal env params w = .ok (u, w')) :
    let withdrawal := WithdrawalStoreUtils.get w.dataStore params.key
    (∀ block ∈ params.minOracleBlockNumbers, block ≤ withdrawal.updatedAtBlock) ∧
      ∀ block ∈ params.maxOracleBlockNumbers, withdrawal.updatedAtBlock ≤ block := by
  intro withdrawal
  unfold executeWithdrawal at h
  simp only [↓readStore_bind_eq_ok] at h
  obtain ⟨_, w₁, -, h⟩ := Tx.bind_eq_ok.mp h
  simp only [↓Tx.lift_bind_eq_ok] at h
  obtain ⟨_, -, _, -, _, hdated, -⟩ := h
  exact OracleUtils.validateBlockNumberWithinRange_eq_ok hdated

theorem executeWithdrawal_pays {params : ExecuteWithdrawalParams}
    (h : executeWithdrawal env params w = .ok (u, w')) :
    Pays env params (WithdrawalStoreUtils.get w.dataStore params.key) w w' := by
  have huntouched := fun hnone : NoMarket
      (WithdrawalStoreUtils.get w.dataStore params.key).receiver w.dataStore =>
    executeWithdrawal_untouched hnone h
  have hrun := executeWithdrawal_eq_ok h
  dsimp only at hrun
  generalize WithdrawalStoreUtils.get w.dataStore params.key = withdrawal at hrun huntouched ⊢
  obtain ⟨removed, swapped, hremove, hexecute, hfee⟩ := hrun
  obtain ⟨run⟩ := _executeWithdrawal_run hexecute
  refine ⟨removed, swapped, run, hremove, run.longLeg, run.shortLeg, hfee,
    fun hamount => SwapUtils.swap_meets hamount run.longLeg,
    fun hamount => SwapUtils.swap_meets hamount run.shortLeg, fun hreceiver => ?_⟩
  have hremoved : World.SameOff ([.position, .request] ++ withdrawalStore.listSlots) w removed :=
    withdrawalStore.remove_writes_tx (List.mem_append_left _ params.key.slot_mem)
      (List.subset_append_right _ _) hremove
  have h₁ : Gains withdrawal.receiver 0 w removed := .of_sameOff hremoved (by decide) (by decide)
  have h₂ := run.gains (hreceiver.of_sameOff hremoved (by decide) (by decide))
  have h₃ := GasUtils.payExecutionFee_gains hreceiver.vault_ne hfee
  rw [TokenUtils.wnt_sameOff hremoved (by decide)] at h₂
  refine Delivered.of_gains ?_ (huntouched hreceiver.noMarket)
  simpa using (h₁.trans h₂).trans h₃

end WithdrawalUtils

-- ---------------------------------------------------------------------------
-- Cancellations
-- ---------------------------------------------------------------------------

/-- What the vault sends back. -/
theorem StrictBank.transferOutUnwrapping_delivers {bank token : Address} {amount : Nat}
    {shouldUnwrapNativeToken : Bool} (haccepts : env.Accepts account) (hbank : bank ≠ account)
    (h : transferOutUnwrapping env bank token account amount shouldUnwrapNativeToken w =
      .ok (u, w')) :
    Gains account (delivery (TokenUtils.wnt w.dataStore) account token amount
      shouldUnwrapNativeToken account) w w' ∧ w'.dataStore = w.dataStore := by
  obtain ⟨_, w₁, hpay, h⟩ := Tx.bind_eq_ok.mp h
  have hgains := Bank.transferOutUnwrapping_delivers haccepts hpay
  have hstore : w₁.dataStore = w.dataStore := World.SameOff.dataStore_eq
    (Bank.transferOutUnwrapping_writes env (List.mem_singleton_self _) _ _ _ _ _ hpay)
  -- what the vault records changes no balance
  obtain rfl := Tx.write_eq_ok.mp h
  rw [entry_apply_of_ne hbank.symm, zero_add] at hgains
  exact ⟨hgains, hstore⟩

theorem StrictBank.transferPositive_delivers {bank token : Address} {amount : Nat}
    {shouldUnwrapNativeToken : Bool} (haccepts : env.Accepts account) (hbank : bank ≠ account)
    (h : (if amount > 0 then
        transferOutUnwrapping env bank token account amount shouldUnwrapNativeToken
      else pure ()) w = .ok (u, w')) :
    Gains account (delivery (TokenUtils.wnt w.dataStore) account token amount
      shouldUnwrapNativeToken account) w w' ∧ w'.dataStore = w.dataStore := by
  split at h
  case isTrue => exact transferOutUnwrapping_delivers haccepts hbank h
  case isFalse hzero =>
    obtain ⟨-, rfl⟩ := Tx.pure_eq_ok.mp h
    refine ⟨(Gains.refl account w).mono fun t => ?_, rfl⟩
    rw [Nat.eq_zero_of_not_pos hzero]
    unfold delivery entry
    split_ifs <;> simp

theorem DepositUtils.cancelDeposit_delivers {depositVault keeper : Address}
    (hkeys : RequestKeys w.dataStore)
    (h : cancelDeposit env depositVault key keeper w = .ok (u, w')) :
    let deposit := DepositStoreUtils.get w.dataStore key
    IsReceiver env depositVault deposit.account w →
      Delivered deposit.account deposit.shouldUnwrapNativeToken
        [(deposit.initialLongToken, deposit.initialLongTokenAmount),
          (deposit.initialShortToken, deposit.initialShortTokenAmount)] w w' := by
  have hpending : World.SameOff pendingSlots w w' := cancelDeposit_pending hkeys h
  have hrun := cancelDeposit_eq_ok h
  dsimp only at hrun ⊢
  generalize DepositStoreUtils.get w.dataStore key = deposit at hrun ⊢
  intro hreceiver
  obtain ⟨w₁, w₂, w₃, hremove, hlong, hshort, hfee⟩ := hrun
  have hremoved : World.SameOff ([.position, .request] ++ depositStore.listSlots) w w₁ :=
    depositStore.remove_writes_tx (List.mem_append_left _ key.slot_mem)
      (List.subset_append_right _ _) hremove
  have h₁ : Gains deposit.account 0 w w₁ := .of_sameOff hremoved (by decide) (by decide)
  obtain ⟨h₂, hstore⟩ := StrictBank.transferPositive_delivers hreceiver.accepts
    hreceiver.vault_ne hlong
  obtain ⟨h₃, -⟩ := StrictBank.transferPositive_delivers hreceiver.accepts
    hreceiver.vault_ne hshort
  rw [hstore] at h₃
  rw [TokenUtils.wnt_sameOff hremoved (by decide)] at h₂ h₃
  have h₄ := GasUtils.payExecutionFee_gains hreceiver.vault_ne hfee
  refine Delivered.of_gains ?_ (.of_moves (.of_sameOff hpending (by decide)) rfl)
  simpa [deliveries] using ((h₁.trans h₂).trans h₃).trans h₄

theorem WithdrawalUtils.cancelWithdrawal_delivers {withdrawalVault keeper : Address}
    (hkeys : RequestKeys w.dataStore)
    (h : cancelWithdrawal env withdrawalVault key keeper w = .ok (u, w')) :
    let withdrawal := WithdrawalStoreUtils.get w.dataStore key
    IsReceiver env withdrawalVault withdrawal.account w →
      Delivered withdrawal.account false [(withdrawal.market, withdrawal.marketTokenAmount)]
        w w' := by
  have hpending : World.SameOff pendingSlots w w' := cancelWithdrawal_pending hkeys h
  have hrun := cancelWithdrawal_eq_ok h
  dsimp only at hrun ⊢
  generalize WithdrawalStoreUtils.get w.dataStore key = withdrawal at hrun ⊢
  intro hreceiver
  obtain ⟨w₁, w₂, hremove, hpay, hfee⟩ := hrun
  have hremoved : World.SameOff ([.position, .request] ++ withdrawalStore.listSlots) w w₁ :=
    withdrawalStore.remove_writes_tx (List.mem_append_left _ key.slot_mem)
      (List.subset_append_right _ _) hremove
  have h₁ : Gains withdrawal.account 0 w w₁ := .of_sameOff hremoved (by decide) (by decide)
  obtain ⟨h₂, -⟩ := StrictBank.transferOutUnwrapping_delivers hreceiver.accepts
    hreceiver.vault_ne hpay
  rw [TokenUtils.wnt_sameOff hremoved (by decide)] at h₂
  have h₃ := GasUtils.payExecutionFee_gains hreceiver.vault_ne hfee
  refine Delivered.of_gains ?_ (.of_moves (.of_sameOff hpending (by decide)) rfl)
  simpa [deliveries] using (h₁.trans h₂).trans h₃

-- ---------------------------------------------------------------------------
-- Runs
-- ---------------------------------------------------------------------------

/-- What comes of a deposit that a keeper executes. -/
inductive Deposit.Served (env : Env) (params : ExecuteDepositUtils.ExecuteDepositParams)
    (deposit : Deposit) (w w' : World) : Prop where
  /-- Its receiver has at least the minimum of market tokens, at prices of the block it was last
  updated in. -/
  | executed (run : ExecuteDepositUtils.executeDeposit env params w = .ok ((), w'))
      (lower : ∀ block ∈ params.minOracleBlockNumbers, block ≤ deposit.updatedAtBlock)
      (upper : ∀ block ∈ params.maxOracleBlockNumbers, deposit.updatedAtBlock ≤ block)
      (receives : IsReceiver env params.depositVault deposit.receiver w →
        w.balances deposit.market deposit.receiver + deposit.minMarketTokens ≤
          w'.balances deposit.market deposit.receiver)
  /-- Its account has back what it sent. -/
  | cancelled (run : DepositUtils.cancelDeposit env params.depositVault params.key params.keeper w =
        .ok ((), w'))
      (returned : IsReceiver env params.depositVault deposit.account w →
        Delivered deposit.account deposit.shouldUnwrapNativeToken
          [(deposit.initialLongToken, deposit.initialLongTokenAmount),
            (deposit.initialShortToken, deposit.initialShortTokenAmount)] w w')

/-- What comes of a withdrawal that a keeper executes. -/
inductive Withdrawal.Served (env : Env) (params : WithdrawalUtils.ExecuteWithdrawalParams)
    (withdrawal : Withdrawal) (w w' : World) : Prop where
  /-- Its receiver has the outputs of the two swaps, at prices of the block it was last updated
  in. -/
  | executed (run : WithdrawalUtils.executeWithdrawal env params w = .ok ((), w'))
      (lower : ∀ block ∈ params.minOracleBlockNumbers, block ≤ withdrawal.updatedAtBlock)
      (upper : ∀ block ∈ params.maxOracleBlockNumbers, withdrawal.updatedAtBlock ≤ block)
      (pays : WithdrawalUtils.Pays env params withdrawal w w')
  /-- Its account has the market tokens back. -/
  | cancelled (run : WithdrawalUtils.cancelWithdrawal env params.withdrawalVault params.key
        params.keeper w = .ok ((), w'))
      (returned : IsReceiver env params.withdrawalVault withdrawal.account w →
        Delivered withdrawal.account false [(withdrawal.market, withdrawal.marketTokenAmount)]
          w w')

/-- **Deposits and withdrawals are executed on their terms.** In every state that is reached, what a
keeper executes is gone, and was served. -/
theorem liquidity_terms (hsane : deployment.Sane) (hreach : (exchange deployment).Reachable w)
    {oracleParams : OracleBlockNumbers} {keeper : Address} :
    (DepositHandler.executeDeposit env deployment key oracleParams keeper w = .ok (u, w') →
      RequestKind.deposit.pending w'.dataStore key = none ∧
        (DepositStoreUtils.get w.dataStore key).Served env
          { depositVault := deployment.depositVault
            key
            minOracleBlockNumbers := oracleParams.minOracleBlockNumbers
            maxOracleBlockNumbers := oracleParams.maxOracleBlockNumbers
            keeper } w w') ∧
    (WithdrawalHandler.executeWithdrawal env deployment key oracleParams keeper w = .ok (u, w') →
      RequestKind.withdrawal.pending w'.dataStore key = none ∧
        (WithdrawalStoreUtils.get w.dataStore key).Served env
          { withdrawalVault := deployment.withdrawalVault
            key
            minOracleBlockNumbers := oracleParams.minOracleBlockNumbers
            maxOracleBlockNumbers := oracleParams.maxOracleBlockNumbers
            keeper } w w') := by
  have hw := (exchange_escrowed hsane hreach).toSettleable
  refine ⟨fun h => ?_, fun h => ?_⟩
  · rcases DepositHandler.executeDeposit_eq_ok h with hexecute | hcancel
    · obtain ⟨hlower, hupper, hreceives⟩ :=
        ExecuteDepositUtils.executeDeposit_delivers hw.marketsKeyed hexecute
      exact ⟨(ExecuteDepositUtils.executeDeposit_drops hw.requestKeys hexecute).pending_self
        hw.requestKeys, .executed hexecute hlower hupper hreceives⟩
    · exact ⟨(DepositUtils.cancelDeposit_drops hw.requestKeys hcancel).pending_self
        hw.requestKeys,
        .cancelled hcancel (DepositUtils.cancelDeposit_delivers hw.requestKeys hcancel)⟩
  · rcases WithdrawalHandler.executeWithdrawal_eq_ok h with hexecute | hcancel
    · obtain ⟨hlower, hupper⟩ := WithdrawalUtils.executeWithdrawal_dated hexecute
      exact ⟨(WithdrawalUtils.executeWithdrawal_drops hw.requestKeys hexecute).pending_self
        hw.requestKeys,
        .executed hexecute hlower hupper (WithdrawalUtils.executeWithdrawal_pays hexecute)⟩
    · exact ⟨(WithdrawalUtils.cancelWithdrawal_drops hw.requestKeys hcancel).pending_self
        hw.requestKeys,
        .cancelled hcancel (WithdrawalUtils.cancelWithdrawal_delivers hw.requestKeys hcancel)⟩

/-- A deposit into a new market that asks for all that it is worth. -/
def exactDeposit : Result (World × World) := do
  let env := openEnv 1 (10 ^ 30)
  let (_, w) ← MarketFactory.createMarket 1 2 3 4 0 openWorld
  let (_, w) ← (Call.createDeposit 9
    { openDeposit 4 with minMarketTokens := 20000 * 10 ^ 18 }).run env escrowDeployment w
  let (_, w') ← (Call.executeDeposit (.request 1) ⟨[1], [1]⟩ 7).run env escrowDeployment w
  pure (w, w')

/-- Its receiver has nothing before, and that much afterwards. -/
theorem liquidity_terms_exactDeposit :
    ∃ w w', (exchange escrowDeployment).Reachable w ∧
      DepositHandler.executeDeposit (openEnv 1 (10 ^ 30)) escrowDeployment (.request 1)
        ⟨[1], [1]⟩ 7 w = .ok ((), w') ∧
      RequestKind.deposit.pending w'.dataStore (.request 1) = none ∧
      (DepositStoreUtils.get w.dataStore (.request 1)).Served (openEnv 1 (10 ^ 30))
        ⟨12, .request 1, [1], [1], 7⟩ w w' ∧
      w.balances 1 9 = 0 ∧ w'.balances 1 9 = 20000 * 10 ^ 18 := by
  obtain ⟨⟨w, w'⟩, hok, hbefore, hafter⟩ := (by decide +kernel :
    exactDeposit.Satisfies fun run =>
      run.1.balances 1 9 = 0 ∧ run.2.balances 1 9 = 20000 * 10 ^ 18).exists
  simp only [exactDeposit, Result.bind_eq_ok, Result.pure_eq_ok, Prod.mk.injEq] at hok
  obtain ⟨⟨market, w₁⟩, hmarket, ⟨_, w₂⟩, hcreate, ⟨_, w₃⟩, hexecute, rfl, rfl⟩ := hok
  have hvault : ∀ kind : RequestKind, (1 : Address) ≠ kind.vault escrowDeployment := by
    intro kind
    cases kind <;> decide
  have h₀ : (exchange escrowDeployment).Reachable openWorld := .init openWorld_fresh
  have h₁ := h₀.step (i := Action.createMarket 1 2 3 4 0) trivial
    ⟨⟨by decide, List.not_mem_nil, hvault⟩, market, hmarket⟩
  have h₂ := h₁.step (i := Action.call _ (.createDeposit 9 _)) trivial hcreate
  obtain ⟨hgone, hserved⟩ := (liquidity_terms escrowDeployment_sane h₂).1 hexecute
  exact ⟨_, _, h₂, hexecute, hgone, hserved, hbefore, hafter⟩

end GmxSynthetics
