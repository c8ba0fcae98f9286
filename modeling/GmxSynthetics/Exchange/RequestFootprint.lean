import GmxSynthetics.Exchange.RequestRuns
import GmxSynthetics.Exchange.RequestStores
import GmxSynthetics.Swap.SwapFootprint

/-!
# Footprints of requests

What deposits and withdrawals write: the request and the lists it is on, the ledgers that a swap
writes, and balances. Positions and what is summed over them are not among it.
-/

namespace GmxSynthetics

open Evm

/-- What deposits and withdrawals write. -/
def requestSlots : List Slot :=
  [.request, .constant .NONCE, .constant .DEPOSIT_LIST, .constant .ACCOUNT_DEPOSIT_LIST,
    .constant .WITHDRAWAL_LIST, .constant .ACCOUNT_WITHDRAWAL_LIST] ++ swapSlots

variable {slots : List Slot} (env : Env)

/-- A request is stored under a key of its own. -/
theorem StoreKey.slot_mem (key : StoreKey) : key.slot ∈ [Slot.position, .request] := by
  cases key with
  | position => exact List.mem_cons_self
  | request => exact List.mem_cons_of_mem _ (List.mem_singleton_self _)

theorem StoreKey.slot_mem_of (hslots : [Slot.position, .request] ⊆ slots) (key : StoreKey) :
    key.slot ∈ slots := hslots key.slot_mem

/-- The execution fee moves balances only. -/
theorem GasUtils.payExecutionFee_writes (htokens : Slot.tokens ∈ slots) (bank : Address)
    (executionFee : Nat) (keeper user : Address) :
    Writes slots (payExecutionFee env bank executionFee keeper user) := by
  have hsend := StrictBank.transferOutNativeToken_writes env htokens bank
  unfold payExecutionFee
  refine (Writes.viewStore _).bind fun executionFeeForKeeper => ?_
  refine (hsend keeper executionFeeForKeeper).bind fun _ => ?_
  exact (Writes.lift _).bind fun refundFeeAmount => .ite (.pure _) (hsend user refundFeeAmount)

/-- A new key is that of a request. -/
theorem NonceUtils.getNextKey_bind_writes {α : Type} {f : StoreKey → Tx α}
    (h : Slot.constant .NONCE ∈ slots) (hf : ∀ nonce, Writes slots (f (.request nonce))) :
    Writes slots (getNextKey >>= f) := by
  intro w a w' hrun
  obtain ⟨key, w₁, hkey, hrun⟩ := Tx.bind_eq_ok.mp hrun
  obtain ⟨nonce, w₂, hnonce, hkey⟩ := Tx.bind_eq_ok.mp hkey
  obtain ⟨rfl, rfl⟩ := Tx.pure_eq_ok.mp hkey
  exact (DataStore.incrementUint_writes h _ hnonce).trans (hf nonce hrun)

/-- Taking a request of a store off its lists. -/
theorem RecordStore.remove_writes_tx {α : Type} (store : RecordStore α) {key : StoreKey}
    {account : Address} (hkey : key.slot ∈ slots) (hslots : store.listSlots ⊆ slots) :
    Writes slots (viewStore (store.remove · key account) >>= fun dataStore =>
      writeStore fun _ => dataStore) := by
  intro w u w' h
  simp only [↓viewStore_bind_eq_ok, writeStore_eq_ok] at h
  obtain ⟨dataStore, hremove, rfl⟩ := h
  exact store.remove_sameOff hkey hslots hremove

-- ---------------------------------------------------------------------------
-- Deposits
-- ---------------------------------------------------------------------------

namespace DepositUtils

/-- What comes in is recorded as a balance. -/
theorem recordDepositAmounts_writes (htokens : Slot.tokens ∈ slots) (depositVault : Address)
    (params : CreateDepositParams) : Writes slots (recordDepositAmounts depositVault params) := by
  have hrecord := StrictBank.recordTransferIn_writes htokens depositVault
  unfold recordDepositAmounts
  refine (hrecord params.initialLongToken).bind fun _ => ?_
  refine (hrecord params.initialShortToken).bind fun _ => (Writes.readStore _).bind fun wnt => ?_
  refine .ite ?_ (.ite ?_ ?_)
  · exact (Writes.lift _).bind fun _ => .pure _
  · exact (Writes.lift _).bind fun _ => .pure _
  · exact (hrecord wnt).bind fun _ => (Writes.lift _).bind fun _ => .pure _

/-- The lists of deposits are among what requests write. -/
theorem depositStore_listSlots_subset (hslots : requestSlots ⊆ slots) :
    depositStore.listSlots ⊆ slots := by
  intro slot hslot
  apply hslots
  revert slot
  decide

/-- A deposit is stored under a new key. -/
theorem createDeposit_writes (hslots : requestSlots ⊆ slots) (depositVault account : Address)
    (params : CreateDepositParams) :
    Writes slots (createDeposit env depositVault account params) := by
  have hlists := depositStore_listSlots_subset hslots
  have hamounts := recordDepositAmounts_writes (hslots (by decide)) depositVault params
  unfold createDeposit
  refine (Writes.lift _).bind fun _ => (Writes.viewStore _).bind fun market => ?_
  refine (Writes.viewStore _).bind fun _ => (Writes.viewStore _).bind fun _ => hamounts.bind ?_
  rintro ⟨initialLongTokenAmount, initialShortTokenAmount, executionFee⟩
  -- what is checked writes nothing
  refine (Writes.lift _).bind fun _ => (Writes.lift _).bind fun _ => ?_
  refine (Writes.viewStore _).bind fun _ => (Writes.viewStore _).bind fun _ => ?_
  refine NonceUtils.getNextKey_bind_writes (hslots (by decide)) fun nonce => ?_
  have hkey : (StoreKey.request nonce).slot ∈ slots :=
    hslots (List.mem_append_left _ List.mem_cons_self)
  exact (Writes.writeStore (depositStore.set_changesWithin hkey hlists _)).bind fun _ => .pure _

/-- A cancelled deposit is removed, and what it holds is sent back. -/
theorem cancelDeposit_writes {key : StoreKey} (hkey : key.slot ∈ slots)
    (hslots : requestSlots ⊆ slots) (depositVault keeper : Address) :
    Writes slots (cancelDeposit env depositVault key keeper) := by
  have htokens : Slot.tokens ∈ slots := hslots (by decide)
  have hremove (account : Address) : Writes slots (removeDeposit key account) :=
    depositStore.remove_writes_tx hkey (depositStore_listSlots_subset hslots)
  have hsend := StrictBank.transferOutUnwrapping_writes env htokens depositVault
  unfold cancelDeposit
  refine (Writes.readStore _).bind fun deposit => ?_
  refine (Writes.lift _).bind fun _ => (Writes.lift _).bind fun _ => ?_
  refine (hremove deposit.account).bind fun _ => ?_
  refine (Writes.ite (hsend deposit.initialLongToken _ _ _) (.pure _)).bind fun _ => ?_
  refine (Writes.ite (hsend deposit.initialShortToken _ _ _) (.pure _)).bind fun _ => ?_
  exact GasUtils.payExecutionFee_writes env htokens _ _ _ _

end DepositUtils

namespace ExecuteDepositUtils

/-- A deposited token is swapped into a token of the market. -/
theorem swap_writes (hslots : swapSlots ⊆ slots) (params : ExecuteDepositParams)
    (swapPath : List Address) (initialToken : Address) (inputAmount : Nat)
    (market expectedOutputToken uiFeeReceiver : Address) :
    Writes slots (swap env params swapPath initialToken inputAmount market expectedOutputToken
      uiFeeReceiver) := by
  unfold swap
  refine (Writes.viewStore _).bind fun swapPathMarkets => ?_
  refine (SwapUtils.swap_writes env hslots _).bind ?_
  rintro ⟨outputToken, outputAmount⟩
  exact (Writes.lift _).bind fun _ => (Writes.view _).bind fun _ => .pure _

/-- A positive impact leaves the impact pool for the pool, a negative one enters it. -/
theorem applyPriceImpact_writes (hslots : swapSlots ⊆ slots) (_params : _ExecuteDepositParams)
    (amountAfterFees poolValue marketTokensSupply : Nat) :
    Writes slots (applyPriceImpact _params amountAfterFees poolValue marketTokensSupply) := by
  have himpact := MarketUtils.applySwapImpactWithCap_writes (hslots (by decide))
    _params.market.marketToken
  have hpool := MarketUtils.applyDeltaToPoolAmount_writes (hslots (by decide))
    (hslots (by decide)) _params.market.marketToken _params.tokenOut
  unfold applyPriceImpact
  refine .ite ?_ ?_
  · refine (himpact _ _ _).bind fun positiveImpactAmount => ?_
    refine (Writes.lift _).bind fun _ => (Writes.lift _).bind fun usdValue => ?_
    refine (Writes.lift _).bind fun mintAmount => (hpool positiveImpactAmount).bind fun _ => ?_
    exact (Writes.viewStore _).bind fun _ => .pure _
  · refine (himpact _ _ _).bind fun negativeImpactAmount => (Writes.lift _).bind fun _ => ?_
    exact (Writes.lift _).bind fun _ => (Writes.lift _).bind fun _ => .pure _

/-- The deposit of one token: its fees, its impact, the pool and the minted market tokens. -/
theorem _executeDeposit_writes (hslots : swapSlots ⊆ slots) (_params : _ExecuteDepositParams) :
    Writes slots (_executeDeposit env _params) := by
  have hpool := MarketUtils.applyDeltaToPoolAmount_writes (hslots (by decide))
    (hslots (by decide)) _params.market.marketToken _params.tokenIn
  unfold _executeDeposit
  refine (Writes.viewStore _).bind fun fees => ?_
  refine (FeeUtils.incrementClaimableFeeAmount_writes (hslots (by decide)) _ _ _).bind fun _ => ?_
  refine (FeeUtils.incrementClaimableUiFeeAmount_writes (hslots (by decide)) _ _ _ _).bind
    fun _ => ?_
  refine (Writes.viewStore _).bind fun poolValueInfo => (Writes.lift _).bind fun _ => ?_
  refine (Writes.lift _).bind fun poolValue => (Writes.read _).bind fun marketTokensSupply => ?_
  refine (applyPriceImpact_writes hslots _ _ _ _).bind ?_
  rintro ⟨amountAfterFees, mintAmountForImpact⟩
  refine (Writes.lift _).bind fun _ => (Writes.lift _).bind fun _ => ?_
  refine (Writes.lift _).bind fun mintAmount => (Writes.lift _).bind fun _ => ?_
  refine (Writes.lift _).bind fun delta => (hpool delta).bind fun _ => ?_
  refine (Writes.viewStore _).bind fun _ => ?_
  exact (MarketToken.mint_writes (hslots (by decide)) _ _ _).bind fun _ => .pure _

/-- The two tokens are deposited one after the other. -/
theorem depositAmounts_writes (hslots : swapSlots ⊆ slots) (deposit : Deposit) (market : Market)
    (prices : MarketPrices) (longTokenAmount shortTokenAmount : Nat) :
    Writes slots (depositAmounts env deposit market prices longTokenAmount shortTokenAmount) := by
  have hdeposit := _executeDeposit_writes env hslots
  unfold depositAmounts
  refine (Writes.lift _).bind fun _ => (Writes.lift _).bind fun longTokenUsd => ?_
  refine (Writes.lift _).bind fun _ => (Writes.lift _).bind fun shortTokenUsd => ?_
  -- the parameters of the price impact
  refine (Writes.lift _).bind fun _ => (Writes.lift _).bind fun _ => ?_
  refine (Writes.lift _).bind fun _ => (Writes.lift _).bind fun _ => ?_
  refine (Writes.viewStore _).bind fun priceImpactUsd => ?_
  have hshare (usd : Nat) (params : Int → _ExecuteDepositParams) : Writes slots (do
      let totalUsd ← toInt256 (← add longTokenUsd shortTokenUsd)
      let share ← divInt (← mulInt priceImpactUsd (← toInt256 usd)) totalUsd
      _executeDeposit env (params share) : Tx Nat) := by
    refine (Writes.lift _).bind fun _ => (Writes.lift _).bind fun totalUsd => ?_
    refine (Writes.lift _).bind fun _ => (Writes.lift _).bind fun _ => ?_
    exact (Writes.lift _).bind fun share => hdeposit (params share)
  refine (Writes.ite (hshare longTokenUsd _) (.pure _)).bind fun mintAmountForLong => ?_
  exact (Writes.ite (hshare shortTokenUsd _) (.pure _)).bind fun mintAmountForShort => .lift _

/-- An executed deposit is removed, swapped and deposited, and its fee is paid. -/
theorem executeDeposit_writes {params : ExecuteDepositParams} (hkey : params.key.slot ∈ slots)
    (hslots : requestSlots ⊆ slots) : Writes slots (executeDeposit env params) := by
  have hswapSlots : swapSlots ⊆ slots := fun _ hslot => hslots (List.mem_append_right _ hslot)
  have hlists := DepositUtils.depositStore_listSlots_subset hslots
  have hswap := swap_writes env hswapSlots params
  unfold executeDeposit
  refine (Writes.readStore _).bind fun deposit => ?_
  refine (depositStore.remove_writes_tx hkey hlists).bind fun _ => ?_
  refine (Writes.lift _).bind fun _ => (Writes.lift _).bind fun _ => ?_
  refine (Writes.viewStore _).bind fun market => (Writes.lift _).bind fun prices => ?_
  refine (Writes.viewStore _).bind fun _ => ?_
  refine (hswap deposit.longTokenSwapPath _ _ _ _ _).bind fun longTokenAmount => ?_
  refine (hswap deposit.shortTokenSwapPath _ _ _ _ _).bind fun shortTokenAmount => ?_
  refine (Writes.lift _).bind fun _ => ?_
  refine (depositAmounts_writes env hswapSlots deposit market prices _ _).bind fun _ => ?_
  refine (Writes.lift _).bind fun _ => (Writes.view _).bind fun _ => ?_
  exact GasUtils.payExecutionFee_writes env (hslots (by decide)) _ _ _ _

end ExecuteDepositUtils

-- ---------------------------------------------------------------------------
-- Withdrawals
-- ---------------------------------------------------------------------------

namespace WithdrawalUtils

/-- The lists of withdrawals are among what requests write. -/
theorem withdrawalStore_listSlots_subset (hslots : requestSlots ⊆ slots) :
    withdrawalStore.listSlots ⊆ slots := by
  intro slot hslot
  apply hslots
  revert slot
  decide

/-- A withdrawal is stored under a new key. -/
theorem createWithdrawal_writes (hslots : requestSlots ⊆ slots)
    (withdrawalVault account : Address) (params : CreateWithdrawalParams) :
    Writes slots (createWithdrawal env withdrawalVault account params) := by
  have hlists := withdrawalStore_listSlots_subset hslots
  have hrecord := StrictBank.recordTransferIn_writes (hslots (by decide)) withdrawalVault
  unfold createWithdrawal
  refine (Writes.lift _).bind fun _ => (Writes.readStore _).bind fun wnt => ?_
  refine (hrecord wnt).bind fun wntAmount => ?_
  refine (Writes.lift _).bind fun _ => (Writes.lift _).bind fun _ => ?_
  refine (hrecord params.market).bind fun marketTokenAmount => ?_
  -- what is checked writes nothing
  refine (Writes.lift _).bind fun _ => (Writes.viewStore _).bind fun _ => ?_
  refine (Writes.viewStore _).bind fun _ => (Writes.viewStore _).bind fun _ => ?_
  refine (Writes.viewStore _).bind fun _ => (Writes.viewStore _).bind fun _ => ?_
  refine NonceUtils.getNextKey_bind_writes (hslots (by decide)) fun nonce => ?_
  have hkey : (StoreKey.request nonce).slot ∈ slots :=
    hslots (List.mem_append_left _ List.mem_cons_self)
  exact (Writes.writeStore (withdrawalStore.set_changesWithin hkey hlists _)).bind
    fun _ => .pure _

/-- A cancelled withdrawal is removed, and its market tokens are sent back. -/
theorem cancelWithdrawal_writes {key : StoreKey} (hkey : key.slot ∈ slots)
    (hslots : requestSlots ⊆ slots) (withdrawalVault keeper : Address) :
    Writes slots (cancelWithdrawal env withdrawalVault key keeper) := by
  have htokens : Slot.tokens ∈ slots := hslots (by decide)
  have hlists := withdrawalStore_listSlots_subset hslots
  unfold cancelWithdrawal
  refine (Writes.readStore _).bind fun withdrawal => ?_
  refine (Writes.lift _).bind fun _ => (Writes.lift _).bind fun _ => ?_
  refine (withdrawalStore.remove_writes_tx hkey hlists).bind fun _ => ?_
  refine (StrictBank.transferOutUnwrapping_writes env htokens _ _ _ _ _).bind fun _ => ?_
  exact GasUtils.payExecutionFee_writes env htokens _ _ _ _

/-- The fees on an output are booked, and nothing else. -/
theorem chargeFees_writes (hfees : Slot.constant .CLAIMABLE_FEE_AMOUNT ∈ slots)
    (huiFees : Slot.constant .CLAIMABLE_UI_FEE_AMOUNT ∈ slots) (withdrawal : Withdrawal)
    (market token : Address) (outputAmount : Nat) :
    Writes slots (chargeFees withdrawal market token outputAmount) := by
  unfold chargeFees
  refine (Writes.viewStore _).bind fun fees => ?_
  refine (FeeUtils.incrementClaimableFeeAmount_writes hfees _ _ _).bind fun _ => ?_
  refine (FeeUtils.incrementClaimableUiFeeAmount_writes huiFees _ _ _ _).bind fun _ => ?_
  exact (Writes.lift _).bind fun _ => .pure _

/-- An output is swapped and sent to the receiver. -/
theorem swap_writes (hslots : swapSlots ⊆ slots) (market tokenIn : Address) (amountIn : Nat)
    (swapPath : List Address) (minOutputAmount : Nat) (withdrawal : Withdrawal) :
    Writes slots (swap env market tokenIn amountIn swapPath minOutputAmount withdrawal) := by
  unfold swap
  refine (Writes.viewStore _).bind fun swapPathMarkets => ?_
  exact (SwapUtils.swap_writes env hslots _).bind fun _ => .view _

/-- What a withdrawal writes until its outputs are swapped. -/
theorem WithdrawalRun.sameOff_synced {env : Env} {params : ExecuteWithdrawalParams}
    {withdrawal : Withdrawal} {w w' : World} (run : WithdrawalRun env params withdrawal w w')
    (hslots : swapSlots ⊆ slots) : World.SameOff slots w run.synced := by
  have hfees : Slot.constant .CLAIMABLE_FEE_AMOUNT ∈ slots := hslots (by decide)
  have huiFees : Slot.constant .CLAIMABLE_UI_FEE_AMOUNT ∈ slots := hslots (by decide)
  have h₁ := (chargeFees_writes hfees huiFees _ _ _ _ run.longCharging).trans
    (chargeFees_writes hfees huiFees _ _ _ _ run.shortCharging)
  have h₂ : World.SameOff slots run.shortCharged run.longPaid :=
    MarketUtils.applyDeltaToPoolAmount_writes (hslots (by decide)) (hslots (by decide)) _ _ _
      run.longPaying
  have h₃ : World.SameOff slots run.longPaid run.shortPaid :=
    MarketUtils.applyDeltaToPoolAmount_writes (hslots (by decide)) (hslots (by decide)) _ _ _
      run.shortPaying
  have h₄ : World.SameOff slots run.shortPaid run.burned :=
    MarketToken.burn_writes (hslots (by decide)) _ _ _ run.burning
  have h₅ : World.SameOff slots run.burned run.synced :=
    StrictBank.syncTokenBalance_writes (hslots (by decide)) _ _ run.syncing
  exact (((h₁.trans h₂).trans h₃).trans h₄).trans h₅

/-- A withdrawal writes the ledgers of its market and of the markets on its two paths. -/
theorem _executeWithdrawal_writes (hslots : swapSlots ⊆ slots) (params : ExecuteWithdrawalParams)
    (withdrawal : Withdrawal) : Writes slots (_executeWithdrawal env params withdrawal) := by
  intro w u w' h
  obtain ⟨run⟩ := _executeWithdrawal_run h
  have hlong := swap_writes env hslots _ _ _ _ _ _ run.longSwapping
  have hshort := swap_writes env hslots _ _ _ _ _ _ run.shortSwapping
  exact ((run.sameOff_synced hslots).trans hlong).trans hshort

/-- An executed withdrawal is removed and paid out, and its fee is paid. -/
theorem executeWithdrawal_writes {params : ExecuteWithdrawalParams}
    (hkey : params.key.slot ∈ slots) (hslots : requestSlots ⊆ slots) :
    Writes slots (executeWithdrawal env params) := by
  have hswap : swapSlots ⊆ slots := fun _ hslot => hslots (List.mem_append_right _ hslot)
  have hlists := withdrawalStore_listSlots_subset hslots
  unfold executeWithdrawal
  refine (Writes.readStore _).bind fun withdrawal => ?_
  refine (withdrawalStore.remove_writes_tx hkey hlists).bind fun _ => ?_
  refine (Writes.lift _).bind fun _ => (Writes.lift _).bind fun _ => ?_
  refine (Writes.lift _).bind fun _ => (Writes.read _).bind fun marketTokensBalance => ?_
  refine (Writes.lift _).bind fun _ => ?_
  refine (_executeWithdrawal_writes env hswap params withdrawal).bind fun _ => ?_
  exact GasUtils.payExecutionFee_writes env (hslots (by decide)) _ _ _ _

end WithdrawalUtils

end GmxSynthetics
