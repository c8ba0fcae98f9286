import GmxSynthetics.Exchange.RequestCustody
import GmxSynthetics.Swap.SwapDelivery

/-!
# What a withdrawal brings its receiver

A withdrawal swaps its long output, and then its short output, out of the market to the receiver.
The receiver has what the two swaps return. Each return is what the account asked for, unless there
was nothing to swap.

* `leg_delivers` — one of the two swaps;
* `WithdrawalRun.delivers` — both, and all that happens before them;
* `swap_postcondition` — what swaps return, what the receiver of a withdrawal has of it, and when
  the empty leg of a deposit is rejected.
-/

namespace GmxSynthetics

open Evm MarketUtils

variable {env : Env} {w w' : World}

/-- An account that can be sent every token, and is neither the vault nor a market. -/
structure IsReceiver (env : Env) (vault account : Address) (w : World) : Prop where
  accepts : env.Accepts account
  vault_ne : vault ≠ account
  noMarket : NoMarket account w.dataStore

/-- It is one still when no market is written. -/
theorem IsReceiver.of_sameOff {vault account : Address} {slots : List Slot}
    (h : IsReceiver env vault account w) (hsame : World.SameOff slots w w')
    (hlist : Slot.constant .MARKET_LIST ∉ slots) (hmarket : Slot.market ∉ slots) :
    IsReceiver env vault account w' where
  accepts := h.accepts
  vault_ne := h.vault_ne
  noMarket := h.noMarket.of_sameOff hsame hlist hmarket

namespace WithdrawalUtils

/-- A leg out of the market, which is not its receiver, brings the receiver its output. -/
theorem leg_delivers {market : Market} {tokenIn : Address} {amountIn minOutputAmount : Nat}
    {swapPathMarkets : List Market} {withdrawal : Withdrawal} {output : Address × Nat}
    (haccepts : env.Accepts withdrawal.receiver)
    (hmarket : market.marketToken ≠ withdrawal.receiver)
    (h : SwapUtils.swap env
      (legParams market tokenIn amountIn swapPathMarkets minOutputAmount withdrawal) w =
        .ok (output, w')) :
    Gains withdrawal.receiver (delivery (TokenUtils.wnt w.dataStore) withdrawal.receiver output.1
      output.2 withdrawal.shouldUnwrapNativeToken withdrawal.receiver) w w' := by
  have hgains := SwapUtils.swap_delivers haccepts h
  refine hgains.mono fun token => ?_
  show _ ≤ (entry market.marketToken _ _ withdrawal.receiver + _) token
  rw [entry_apply_of_ne hmarket.symm, zero_add]
  exact le_refl _

variable {params : ExecuteWithdrawalParams} {withdrawal : Withdrawal}

/-- The surplus of the receiver grows by the outputs of the two swaps. -/
theorem WithdrawalRun.gains (run : WithdrawalRun env params withdrawal w w')
    (hreceiver : IsReceiver env params.withdrawalVault withdrawal.receiver w) :
    Gains withdrawal.receiver (deliveries (TokenUtils.wnt w.dataStore) withdrawal.receiver
      withdrawal.shouldUnwrapNativeToken [run.longOutput, run.shortOutput]) w w' := by
  have hsynced := run.sameOff_synced (List.Subset.refl swapSlots)
  have hswapped := swap_writes env (List.Subset.refl swapSlots) _ _ _ _ _ _ run.longSwapping
  have hne := getEnabledMarket_ne hreceiver.noMarket run.enabledMarket
  -- until the swaps the receiver is sent nothing, and no market is in its book
  have h₁ : Gains withdrawal.receiver 0 w run.synced := by
    have hgains : Gains withdrawal.receiver _ w run.synced :=
      .of_moves (run.receives_synced hreceiver.vault_ne) run.moves_synced
    rwa [Pi.add_apply, entry_apply_of_ne hne.symm, entry_apply_of_ne hne.symm, add_zero,
      sub_zero] at hgains
  have h₂ := leg_delivers hreceiver.accepts hne run.longLeg
  have h₃ := leg_delivers hreceiver.accepts hne run.shortLeg
  rw [TokenUtils.wnt_sameOff hswapped (by decide)] at h₃
  rw [TokenUtils.wnt_sameOff hsynced (by decide)] at h₂ h₃
  have hall := (h₁.trans h₂).trans h₃
  simpa [deliveries] using hall

/-- **The receiver has the outputs of the two swaps.** -/
theorem WithdrawalRun.delivers (run : WithdrawalRun env params withdrawal w w')
    (hreceiver : IsReceiver env params.withdrawalVault withdrawal.receiver w) :
    Delivered withdrawal.receiver withdrawal.shouldUnwrapNativeToken
      [run.longOutput, run.shortOutput] w w' :=
  .of_gains (run.gains hreceiver) (run.untouched hreceiver.noMarket)

end WithdrawalUtils

-- ---------------------------------------------------------------------------
-- What callers get
-- ---------------------------------------------------------------------------

open SwapUtils in
/-- **What a swap returns, and what follows for its callers.** A swap that succeeds returns the
token at the end of its path and at least the minimum, except that a swap of nothing does so only
when nothing was asked for. A withdrawal that succeeds makes its two swaps one after the other, and
its receiver has what they return: both minima in the tokens at the ends of its paths, with the same
exception for each of the two, whose amounts the state before determines. The empty leg of a deposit
is rejected for its token unless the deposited token needs no swap. -/
theorem swap_postcondition (env : Env) :
    (∀ params w output w', SwapUtils.swap env params w = .ok (output, w') →
      (Meets params output ↔ (params.amountIn = 0 → AsksForNothing params))) ∧
    (∀ params withdrawal w u w',
      WithdrawalUtils._executeWithdrawal env params withdrawal w = .ok (u, w') →
      ∃ (long short : SwapParams)
        (run : WithdrawalUtils.WithdrawalRun env params withdrawal w w'),
        WithdrawalUtils.legs env w withdrawal = .ok (long, short) ∧
        run.long = long ∧ run.short = short ∧
        SwapUtils.swap env long run.synced = .ok (run.longOutput, run.longSwapped) ∧
        SwapUtils.swap env short run.longSwapped = .ok (run.shortOutput, w') ∧
        (Meets long run.longOutput ∧ Meets short run.shortOutput ↔
          (long.amountIn = 0 → AsksForNothing long) ∧
          (short.amountIn = 0 → AsksForNothing short)) ∧
        (IsReceiver env params.withdrawalVault withdrawal.receiver w →
          Delivered withdrawal.receiver withdrawal.shouldUnwrapNativeToken
            [run.longOutput, run.shortOutput] w w')) ∧
    (∀ params swapPath swapPathMarkets initialToken market expectedOutputToken uiFeeReceiver w,
      MarketUtils.getEnabledMarkets w.dataStore swapPath = .ok swapPathMarkets →
      ((¬ ∃ outputToken, ExecuteDepositUtils.swap env params swapPath initialToken 0 market
          expectedOutputToken uiFeeReceiver w =
            .error (.custom (.InvalidSwapOutputToken outputToken expectedOutputToken))) ↔
        initialToken = expectedOutputToken)) := by
  refine ⟨?_, ?_, ?_⟩
  · intro params w output w' h
    exact swap_meets_iff h
  · intro params withdrawal w u w' h
    obtain ⟨run⟩ := WithdrawalUtils._executeWithdrawal_run h
    exact ⟨run.long, run.short, run, run.legs_eq, rfl, rfl, run.longLeg, run.shortLeg,
      and_congr (swap_meets_iff run.longLeg) (swap_meets_iff run.shortLeg), run.delivers⟩
  · intro params swapPath swapPathMarkets initialToken market expectedOutputToken uiFeeReceiver w
      hpath
    rw [ExecuteDepositUtils.swap_of_zero_rejected_iff hpath, not_not]

/-- A market with long tokens only, in which all market tokens are worth 1000 of them. -/
def longOnlyWorld : World where
  dataStore :=
    (((((DataStore.empty.addAddress (.base .MARKET_LIST) 1).setAddress
      (.marketField 1 .MARKET_TOKEN) 1).setAddress (.marketField 1 .INDEX_TOKEN) 2).setAddress
      (.marketField 1 .LONG_TOKEN) 3).setAddress (.marketField 1 .SHORT_TOKEN) 4).setUint
      (Keys.poolAmountKey 1 3) 1000 |>.setUint (Keys.tokenTransferGasLimit 3) 1
  balances token holder :=
    if token = 3 ∧ holder = 1 then 1000 else if token = 1 ∧ holder = 9 then 100 else 0
  totalSupply _ := 1000
  tokenBalances _ _ := 0

/-- A withdrawal of 100 market tokens that asks for a short token. -/
def longOnlyWithdrawal : Withdrawal :=
  { Withdrawal.empty with
    account := 8, receiver := 8, market := 1, marketTokenAmount := 100, minShortTokenAmount := 1 }

def longOnlyParams : WithdrawalUtils.ExecuteWithdrawalParams where
  withdrawalVault := 9
  key := .request 0
  minOracleBlockNumbers := []
  maxOracleBlockNumbers := []
  keeper := 7

/-- The withdrawal is paid 100 long tokens and no short token. -/
theorem longOnlyWithdrawal_succeeds :
    Evm.Result.Satisfies (WithdrawalUtils._executeWithdrawal (Env.plain 1 fun _ => ⟨1, 1⟩)
      longOnlyParams longOnlyWithdrawal longOnlyWorld)
      (fun result => result.2.balances 3 8 = 100 ∧ result.2.balances 4 8 = 0) := by
  decide +kernel

/-- Its second swap: nothing is swapped, over an empty path, for a minimum of 1. -/
theorem swap_postcondition_fails :
    ¬ ∀ (env : Env) (params : SwapUtils.SwapParams) (w : World) (output : Address × Nat)
      (w' : World), SwapUtils.swap env params w = .ok (output, w') →
        SwapUtils.Meets params output := by
  intro hclaim
  have hmeets := hclaim (Env.plain 1 fun _ => ⟨1, 1⟩)
    (WithdrawalUtils.legParams ⟨1, 2, 3, 4⟩ 4 0 [] 1 longOnlyWithdrawal) longOnlyWorld (4, 0)
    longOnlyWorld rfl
  exact absurd hmeets.2 (by decide)

/-- The account asked for a short token, and its receiver has the 100 long tokens that the first
swap returns, and nothing of the second. -/
theorem swap_postcondition_longOnly :
    (∃ (w' : World) (run : WithdrawalUtils.WithdrawalRun (Env.plain 1 fun _ => ⟨1, 1⟩)
        longOnlyParams longOnlyWithdrawal longOnlyWorld w'),
      w'.balances 3 8 = 100 ∧ w'.balances 4 8 = 0 ∧
      Delivered 8 false [run.longOutput, run.shortOutput] longOnlyWorld w') ∧
    (¬ ∃ outputToken, ExecuteDepositUtils.swap (Env.plain 1 fun _ => ⟨1, 1⟩)
      ⟨9, .request 0, [], [], 7⟩ [1] 3 0 1 4 0 longOnlyWorld =
        .error (.custom (.InvalidSwapOutputToken outputToken 4))) = ((3 : Address) = 4) := by
  have hpostcondition := swap_postcondition (Env.plain 1 fun _ => ⟨1, 1⟩)
  obtain ⟨⟨u, w'⟩, hrun, hlong, hshort⟩ := longOnlyWithdrawal_succeeds.exists
  have hpath : MarketUtils.getEnabledMarkets longOnlyWorld.dataStore [1] = .ok [⟨1, 2, 3, 4⟩] := by
    decide +kernel
  have hreceiver : IsReceiver (Env.plain 1 fun _ => ⟨1, 1⟩) 9 8 longOnlyWorld := by
    refine ⟨fun _ => rfl, by decide, fun key hkey => ?_⟩
    have hlist : longOnlyWorld.dataStore.addressSets (.base .MARKET_LIST) = [1] := rfl
    by_cases hmarket : key = 1
    · subst hmarket
      exact absurd hkey (by decide +kernel)
    · rw [MarketStoreUtils.get_of_not_mem (by rw [hlist]; simpa using hmarket)] at hkey
      exact absurd hkey (by decide)
  refine ⟨?_, propext ?_⟩
  · obtain ⟨long, short, run, -, -, -, -, -, -, hdelivered⟩ := hpostcondition.2.1 _ _ _ _ _ hrun
    exact ⟨w', run, hlong, hshort, hdelivered hreceiver⟩
  · exact hpostcondition.2.2 ⟨9, .request 0, [], [], 7⟩ [1] _ 3 1 4 0 longOnlyWorld hpath

end GmxSynthetics
