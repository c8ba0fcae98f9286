import GmxSynthetics.Exchange.RequestBook
import GmxSynthetics.Exchange.VaultFlow
import GmxSynthetics.Swap.SwapCustody

/-!
# Deposits, withdrawals and the custody of the markets

A deposit books what its two swaps bring the market, a withdrawal takes off the book what its two
swaps hand on. Both are paid by a vault or by the market itself.

* `executeDeposit_gains`, `executeWithdrawal_gains` — the surplus of no account falls, other than
  that of the vault;
* `…_untouched` — accounts that are no markets still owe what they owed.
-/

namespace GmxSynthetics

open Evm MarketUtils

variable {env : Env} {w w' : World} {account : Address} {u : Unit}

/-- Fees are paid by the vault, and booked nowhere. -/
theorem GasUtils.payExecutionFee_gains {bank keeper user : Address} {executionFee : Nat}
    (hbank : bank ≠ account)
    (h : payExecutionFee env bank executionFee keeper user w = .ok (u, w')) :
    Gains account 0 w w' := by
  have hbooked : Moves 0 w w' := .of_writes
    (payExecutionFee_writes env (List.mem_singleton_self _) _ _ _ _) (by decide) h
  have hgains := Gains.of_moves
    (Receives.of_guarded (payExecutionFee_guards hbank _ _ _ h)) hbooked
  rwa [Pi.zero_apply, sub_zero] at hgains

/-- Paying the execution fee writes no book. -/
theorem GasUtils.payExecutionFee_untouched {bank keeper user : Address} {executionFee : Nat}
    (h : payExecutionFee env bank executionFee keeper user w = .ok (u, w')) :
    Untouched account w w' :=
  .of_moves (.of_writes (payExecutionFee_writes env (List.mem_singleton_self _) _ _ _ _)
    (by decide) h) rfl

-- ---------------------------------------------------------------------------
-- Deposits
-- ---------------------------------------------------------------------------

namespace ExecuteDepositUtils

section Swap

variable {params : ExecuteDepositParams} {swapPath : List Address}
  {initialToken market expectedOutputToken uiFeeReceiver : Address} {inputAmount outputAmount : Nat}
  (h : swap env params swapPath initialToken inputAmount market expectedOutputToken uiFeeReceiver
    w = .ok (outputAmount, w'))

include h

/-- A deposited token is swapped from the vault to the market. -/
theorem swap_gains (haccepts : env.Accepts account) :
    Gains account (entry params.depositVault initialToken (-inputAmount) account +
      entry market expectedOutputToken outputAmount account) w w' := by
  obtain ⟨swapPathMarkets, -, hswap⟩ := swap_eq_ok h
  exact SwapUtils.swap_gains haccepts hswap

/-- A swap on a deposit's path books nothing for an account that is no market. -/
theorem swap_untouched (hnone : NoMarket account w.dataStore) : Untouched account w w' := by
  obtain ⟨swapPathMarkets, hpath, hswap⟩ := swap_eq_ok h
  exact SwapUtils.swap_untouched (getEnabledMarkets_ne hnone hpath) hswap

end Swap

variable {params : ExecuteDepositParams}

/-- What a deposit books for its market the vault has sent to the market. -/
theorem executeDeposit_gains (haccepts : env.Accepts account)
    (hvault : params.depositVault ≠ account) (h : executeDeposit env params w = .ok (u, w')) :
    Gains account 0 w w' := by
  obtain ⟨market, prices, longAmount, shortAmount, mintAmount, w₁, w₂, w₃, w₄, hremove, -, -,
    hlong, hshort, -, hamounts, hfee⟩ := executeDeposit_eq_ok h
  have h₁ : Gains account 0 w w₁ := .of_sameOff
    (depositStore.remove_writes_tx (List.mem_append_left _ params.key.slot_mem)
      (List.subset_append_right _ _) hremove) (by decide) (by decide)
  have h₄ : Gains account _ w₃ w₄ := .of_moves
    (Receives.of_guarded (depositAmounts_guards _ _ _ _ _ hamounts))
    (depositAmounts_moves hamounts)
  have h₅ := GasUtils.payExecutionFee_gains hvault hfee
  refine ((((h₁.trans (swap_gains hlong haccepts)).trans (swap_gains hshort haccepts)).trans
    h₄).trans h₅).mono fun token => ?_
  rw [entry_apply_of_ne hvault.symm, entry_apply_of_ne hvault.symm]
  simp only [Pi.add_apply, Pi.sub_apply, Pi.zero_apply]
  omega

/-- A deposit books nothing for an account that is no market. -/
theorem executeDeposit_untouched (hnone : NoMarket account w.dataStore)
    (h : executeDeposit env params w = .ok (u, w')) : Untouched account w w' := by
  obtain ⟨market, prices, longAmount, shortAmount, mintAmount, w₁, w₂, w₃, w₄, hremove, hmarket,
    -, hlong, hshort, -, hamounts, hfee⟩ := executeDeposit_eq_ok h
  have hremoved : World.SameOff ([.position, .request] ++ depositStore.listSlots) w w₁ :=
    depositStore.remove_writes_tx (List.mem_append_left _ params.key.slot_mem)
      (List.subset_append_right _ _) hremove
  have hnone₁ : NoMarket account w₁.dataStore := hnone.of_sameOff hremoved (by decide) (by decide)
  have hnone₂ : NoMarket account w₂.dataStore := hnone₁.of_sameOff
    (swap_writes env (List.Subset.refl swapSlots) _ _ _ _ _ _ _ hlong) (by decide) (by decide)
  have hne := getEnabledMarket_ne hnone₁ hmarket
  have h₁ : Untouched account w w₁ := .of_moves (.of_sameOff hremoved (by decide)) rfl
  have h₄ : Untouched account w₃ w₄ := by
    refine .of_moves (depositAmounts_moves hamounts) ?_
    rw [Pi.add_apply, entry_apply_of_ne hne.symm, entry_apply_of_ne hne.symm, add_zero]
  have h₂ := trans_of (Untouched account) h₁ (swap_untouched hlong hnone₁)
  have h₃ := trans_of (Untouched account) h₂ (swap_untouched hshort hnone₂)
  exact trans_of (Untouched account) (trans_of (Untouched account) h₃ h₄)
    (GasUtils.payExecutionFee_untouched hfee)

end ExecuteDepositUtils

-- ---------------------------------------------------------------------------
-- Withdrawals
-- ---------------------------------------------------------------------------

namespace WithdrawalUtils

section Swap

variable {market : Market} {tokenIn : Address} {amountIn minOutputAmount : Nat}
  {swapPath : List Address} {withdrawal : Withdrawal}
  (h : swap env market.marketToken tokenIn amountIn swapPath minOutputAmount withdrawal w =
    .ok (u, w'))

include h

/-- An output is swapped from the market to the receiver. -/
theorem swap_gains (haccepts : env.Accepts account) :
    Gains account (entry market.marketToken tokenIn (-amountIn) account) w w' := by
  obtain ⟨swapPathMarkets, ⟨tokenOut, amountOut⟩, -, hswap⟩ := swap_eq_ok h
  refine (SwapUtils.swap_gains haccepts hswap).mono fun token => ?_
  exact le_add_of_nonneg_right (arrival_nonneg _ _ _ _ account token)

/-- A swap on a withdrawal's path books nothing for an account that is no market. -/
theorem swap_untouched (hnone : NoMarket account w.dataStore) : Untouched account w w' := by
  obtain ⟨swapPathMarkets, output, hpath, hswap⟩ := swap_eq_ok h
  exact SwapUtils.swap_untouched (getEnabledMarkets_ne hnone hpath) hswap

end Swap

/-- Until the pools are synced a withdrawal only books and burns, and no market pays anything out.
-/
theorem WithdrawalRun.receives_synced {params : ExecuteWithdrawalParams} {withdrawal : Withdrawal}
    (run : WithdrawalRun env params withdrawal w w') (hvault : params.withdrawalVault ≠ account) :
    Receives account 0 w run.synced := by
  have hpools : ∀ {token : Address} {delta : Int} {next : Nat} {w₁ w₂ : World},
      applyDeltaToPoolAmount run.market.marketToken token delta w₁ = .ok (next, w₂) →
        Guarded account w₁ w₂ := by
    intro token delta next w₁ w₂ hpool
    have hwrites : Writes ledgerSlots (applyDeltaToPoolAmount run.market.marketToken token delta) :=
      applyDeltaToPoolAmount_writes (by decide) (by decide) _ _ _
    exact .of_sameOff (hwrites hpool) (by decide)
  have hfees := trans_of (Guarded account) (chargeFees_guards _ _ _ _ run.longCharging)
    (chargeFees_guards _ _ _ _ run.shortCharging)
  have hpaid := trans_of (Guarded account) (trans_of (Guarded account) hfees
    (hpools run.longPaying)) (hpools run.shortPaying)
  exact .of_guarded (trans_of (Guarded account) (trans_of (Guarded account) hpaid
    (MarketToken.burn_guards hvault _ _ run.burning))
    (StrictBank.syncTokenBalance_guards hvault _ run.syncing))

/-- What a withdrawal pays out it has taken off the market's book before. -/
theorem executeWithdrawal_gains {params : ExecuteWithdrawalParams} (haccepts : env.Accepts account)
    (hvault : params.withdrawalVault ≠ account)
    (h : executeWithdrawal env params w = .ok (u, w')) : Gains account 0 w w' := by
  obtain ⟨w₁, w₂, hremove, hexecute, hfee⟩ := executeWithdrawal_eq_ok h
  obtain ⟨run⟩ := _executeWithdrawal_run hexecute
  have h₁ : Gains account 0 w w₁ := .of_sameOff
    (withdrawalStore.remove_writes_tx (List.mem_append_left _ params.key.slot_mem)
      (List.subset_append_right _ _) hremove) (by decide) (by decide)
  have h₂ : Gains account _ w₁ run.synced :=
    .of_moves (run.receives_synced hvault) run.moves_synced
  refine ((((h₁.trans h₂).trans (swap_gains run.longSwapping haccepts)).trans
    (swap_gains run.shortSwapping haccepts)).trans
      (GasUtils.payExecutionFee_gains hvault hfee)).mono fun token => ?_
  simp only [Pi.add_apply, Pi.sub_apply, Pi.zero_apply, entry]
  split_ifs <;> omega

/-- Accounts that are no markets owe after the swaps what they owed before. -/
theorem WithdrawalRun.untouched {params : ExecuteWithdrawalParams} {withdrawal : Withdrawal}
    (run : WithdrawalRun env params withdrawal w w') (hnone : NoMarket account w.dataStore) :
    Untouched account w w' := by
  have hall : swapSlots ⊆ swapSlots := List.Subset.refl _
  have hsynced : NoMarket account run.synced.dataStore :=
    hnone.of_sameOff (run.sameOff_synced hall) (by decide) (by decide)
  have hswapped : NoMarket account run.longSwapped.dataStore := hsynced.of_sameOff
    (swap_writes env hall _ _ _ _ _ _ run.longSwapping) (by decide) (by decide)
  have hne := getEnabledMarket_ne hnone run.enabledMarket
  have hmoved : Untouched account w run.synced := by
    refine .of_moves run.moves_synced ?_
    rw [Pi.add_apply, entry_apply_of_ne hne.symm, entry_apply_of_ne hne.symm, add_zero]
  exact trans_of (Untouched account)
    (trans_of (Untouched account) hmoved (swap_untouched run.longSwapping hsynced))
    (swap_untouched run.shortSwapping hswapped)

/-- A withdrawal books nothing for an account that is no market. -/
theorem executeWithdrawal_untouched {params : ExecuteWithdrawalParams}
    (hnone : NoMarket account w.dataStore) (h : executeWithdrawal env params w = .ok (u, w')) :
    Untouched account w w' := by
  obtain ⟨w₁, w₂, hremove, hexecute, hfee⟩ := executeWithdrawal_eq_ok h
  obtain ⟨run⟩ := _executeWithdrawal_run hexecute
  have hremoved : World.SameOff ([.position, .request] ++ withdrawalStore.listSlots) w w₁ :=
    withdrawalStore.remove_writes_tx (List.mem_append_left _ params.key.slot_mem)
      (List.subset_append_right _ _) hremove
  have h₁ : Untouched account w w₁ := .of_moves (.of_sameOff hremoved (by decide)) rfl
  have h₂ := run.untouched (hnone.of_sameOff hremoved (by decide) (by decide))
  exact trans_of (Untouched account) (trans_of (Untouched account) h₁ h₂)
    (GasUtils.payExecutionFee_untouched hfee)

end WithdrawalUtils

end GmxSynthetics
