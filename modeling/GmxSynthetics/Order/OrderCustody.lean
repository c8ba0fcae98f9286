import GmxSynthetics.Exchange.RequestCustody
import GmxSynthetics.Order.OrderRuns
import GmxSynthetics.Position.PositionCustody

/-!
# Orders and the custody of the markets

An increase order sends the market its collateral before the position books it, a decrease order
pays out what the position has taken off the book, and a swap order leaves every market on its path
what it had.

* `processOrder_gains`, `processOrder_untouched` — processing an order of each kind;
* `executeOrder_gains`, `executeOrder_untouched` — executing an order.
-/

namespace GmxSynthetics

open Evm BaseOrderUtils MarketUtils PositionUtils

variable {env : Env} {w w' : World} {account : Address} {u : Unit} {residues : List Residue}
  {params : ExecuteOrderParams}

-- ---------------------------------------------------------------------------
-- Increase orders
-- ---------------------------------------------------------------------------

namespace IncreaseOrderUtils

variable (hsound : (Accounting.of w.dataStore).Sound residues)
  (hkeyed : MarketsKeyed w.dataStore) (hloaded : params.Loaded w.dataStore)
  (h : processOrder env params w = .ok (u, w'))

include hsound hkeyed hloaded h

/-- The collateral is sent before the position books it, so the surplus does not shrink. -/
theorem processOrder_gains (haccepts : env.Accepts account)
    (hvault : params.orderVault ≠ account) : Gains account 0 w w' := by
  obtain ⟨run⟩ := processOrder_run hsound hkeyed hloaded h
  refine ((SwapUtils.swap_gains haccepts run.swapping).trans
    (IncreasePositionUtils.increasePosition_gains run.consistent rfl run.increasing)).mono
      fun token => ?_
  show 0 ≤ (entry params.orderVault _ _ account + arrival params.order.market _ _ false account +
    entry params.market.marketToken run.position.collateralToken _ account) token
  rw [entry_apply_of_ne hvault.symm, arrival_wrapped, run.orderMarket, run.positionCollateralToken]
  simp only [Pi.add_apply, Pi.zero_apply, entry]
  split_ifs <;> omega

/-- An increase books nothing for an account that is no market. -/
theorem processOrder_untouched (haway : params.Away account) : Untouched account w w' := by
  obtain ⟨run⟩ := processOrder_run hsound hkeyed hloaded h
  have hincreased : Untouched account run.swapped w' :=
    .of_moves (IncreasePositionUtils.increasePosition_moves run.consistent run.increasing)
      (entry_apply_of_ne haway.market.symm _ _)
  exact trans_of (Untouched account) (SwapUtils.swap_untouched haway.path run.swapping) hincreased

end IncreaseOrderUtils

-- ---------------------------------------------------------------------------
-- Decrease orders
-- ---------------------------------------------------------------------------

namespace DecreaseOrderUtils

open DecreasePositionUtils

/-- What a decrease order pays out is paid by its market. -/
theorem payOutput_gains (haccepts : env.Accepts account) {result : DecreasePositionResult}
    (h : payOutput env params result w = .ok (u, w')) :
    Gains account (-payouts params.order.market result account) w w' := by
  -- a plain transfer by the market
  have hpay : ∀ {token : Address} {amount : Nat} {w w' : World} {u : Unit},
      Bank.transferOutUnwrapping env params.order.market token params.order.receiver amount
        params.order.shouldUnwrapNativeToken w = .ok (u, w') →
        Gains account (entry params.order.market token (-amount) account) w w' := by
    intro token amount w w' u hpay
    have hbooked : Moves 0 w w' := .of_writes
      (Bank.transferOutUnwrapping_writes env (List.mem_singleton_self _) _ _ _ _ _) (by decide) hpay
    refine (Gains.of_moves (Bank.transferOutUnwrapping_receives haccepts hpay) hbooked).mono
      fun t => ?_
    have harrival := arrival_nonneg params.order.receiver token amount
      params.order.shouldUnwrapNativeToken account t
    simp only [Pi.add_apply, Pi.sub_apply, Pi.zero_apply]
    omega
  unfold payOutput at h
  split at h
  case isTrue =>
    simp only [↓Tx.lift_bind_eq_ok] at h
    obtain ⟨_, -, h⟩ := h
    obtain ⟨_, w₁, houtput, hsecondary⟩ := Tx.bind_eq_ok.mp h
    refine ((hpay houtput).trans (hpay hsecondary)).mono fun t => ?_
    simp only [payouts, Pi.neg_apply, Pi.add_apply, entry]
    split_ifs <;> omega
  case isFalse hzero =>
    have hsecondary : result.secondaryOutputAmount = 0 := by omega
    have hle : ∀ t, (-payouts params.order.market result account) t ≤
        entry params.order.market result.outputToken (-result.outputAmount) account t := by
      intro t
      simp only [payouts, hsecondary, Pi.neg_apply, Pi.add_apply, entry]
      split_ifs <;> omega
    obtain ⟨swapped, w₁, hswap, h⟩ := Tx.bind_eq_ok.mp h
    rcases Tx.attempt_eq_ok.mp hswap with ⟨⟨tokenOut, amountOut⟩, rfl, hrun⟩ | ⟨error, rfl, -, rfl⟩
    · obtain ⟨-, rfl⟩ := Tx.lift_eq_ok.mp h
      refine (SwapUtils.swap_gains haccepts hrun).mono fun t => ?_
      refine (hle t).trans ?_
      exact le_add_of_nonneg_right (arrival_nonneg _ _ _ _ account t)
    · -- the swap has left nothing behind
      simp only [↓Tx.lift_bind_eq_ok] at h
      obtain ⟨_, -, h⟩ := h
      exact (hpay h).mono hle

/-- Paying the output moves tokens only, and no book changes. -/
theorem payOutput_untouched (haway : params.Away account) {result : DecreasePositionResult} :
    Tx.Keeps (Untouched account) (payOutput env params result) := by
  have hpay : ∀ (token : Address) (amount : Nat), Tx.Keeps (Untouched account)
      (Bank.transferOutUnwrapping env params.order.market token params.order.receiver amount
        params.order.shouldUnwrapNativeToken) := fun _ _ _ _ _ hpay =>
    .of_moves (.of_writes
      (Bank.transferOutUnwrapping_writes env (List.mem_singleton_self _) _ _ _ _ _) (by decide)
      hpay) rfl
  refine Tx.keeps_ite ?_ ?_
  · exact Tx.keeps_bind (Tx.keeps_lift _) fun _ =>
      Tx.keeps_bind (hpay _ _) fun _ => hpay _ _
  · refine Tx.keeps_bind (Tx.keeps_attempt (SwapUtils.swap_untouched haway.path)) fun swapped => ?_
    cases swapped with
    | ok output => exact Tx.keeps_lift _
    | error error => exact Tx.keeps_bind (Tx.keeps_lift _) fun _ => hpay _ _

variable (hsound : (Accounting.of w.dataStore).Sound residues)
  (hkeyed : MarketsKeyed w.dataStore) (hloaded : params.Loaded w.dataStore)
  (h : processOrder env params w = .ok (u, w'))

include hsound hkeyed hloaded h

/-- What a decrease pays out the position has taken off the book before. -/
theorem processOrder_gains (haccepts : env.Accepts account) : Gains account 0 w w' := by
  obtain ⟨run⟩ := processOrder_run hkeyed hloaded h
  refine ((decreasePosition_gains (run.consistent hsound hloaded) rfl run.decreasing).trans
    (payOutput_gains haccepts run.paying)).mono fun token => ?_
  show 0 ≤ (payouts params.market.marketToken run.result account +
    -payouts params.order.market run.result account) token
  rw [run.orderMarket]
  simp only [Pi.add_apply, Pi.neg_apply]
  omega

/-- A decrease books nothing for an account that is no market. -/
theorem processOrder_untouched (haway : params.Away account) : Untouched account w w' := by
  obtain ⟨run⟩ := processOrder_run hkeyed hloaded h
  exact trans_of (Untouched account)
    (decreasePosition_untouched (run.consistent hsound hloaded) haway.market run.decreasing)
    (payOutput_untouched haway run.paying)

end DecreaseOrderUtils

-- ---------------------------------------------------------------------------
-- Swap orders, and all orders
-- ---------------------------------------------------------------------------

/-- Each market on the path of a swap order holds at least what the swap books for it. -/
theorem SwapOrderUtils.processOrder_gains (haccepts : env.Accepts account)
    (hvault : params.orderVault ≠ account) (h : processOrder env params w = .ok (u, w')) :
    Gains account 0 w w' := by
  unfold processOrder at h
  simp only [↓Tx.lift_bind_eq_ok] at h
  obtain ⟨_, -, _, -, h⟩ := h
  obtain ⟨⟨tokenOut, amountOut⟩, w₁, hswap, h⟩ := Tx.bind_eq_ok.mp h
  obtain ⟨-, rfl⟩ := Tx.pure_eq_ok.mp h
  refine (SwapUtils.swap_gains haccepts hswap).mono fun token => ?_
  show 0 ≤ (entry params.orderVault _ _ account + arrival _ _ _ _ account) token
  rw [entry_apply_of_ne hvault.symm, zero_add]
  exact arrival_nonneg _ _ _ _ _ _

/-- A swap order books nothing for an account that is no market. -/
theorem SwapOrderUtils.processOrder_untouched (haway : params.Away account)
    (h : processOrder env params w = .ok (u, w')) : Untouched account w w' := by
  unfold processOrder at h
  simp only [↓Tx.lift_bind_eq_ok] at h
  obtain ⟨_, -, _, -, h⟩ := h
  obtain ⟨_, w₁, hswap, h⟩ := Tx.bind_eq_ok.mp h
  obtain ⟨-, rfl⟩ := Tx.pure_eq_ok.mp h
  exact SwapUtils.swap_untouched haway.path hswap

namespace OrderUtils

/-- The surplus of an account outlasts an order of each kind. -/
theorem processOrder_gains (hsound : (Accounting.of w.dataStore).Sound residues)
    (hkeyed : MarketsKeyed w.dataStore) (hloaded : params.Loaded w.dataStore)
    (haccepts : env.Accepts account) (hvault : params.orderVault ≠ account)
    (h : processOrder env params w = .ok (u, w')) : Gains account 0 w w' := by
  unfold processOrder at h
  split_ifs at h with hincrease hdecrease hswap
  · exact IncreaseOrderUtils.processOrder_gains hsound hkeyed hloaded h haccepts hvault
  · exact DecreaseOrderUtils.processOrder_gains hsound hkeyed hloaded h haccepts
  · exact SwapOrderUtils.processOrder_gains haccepts hvault h
  · exact absurd h (by simp)

/-- An order of each kind books nothing for an account that is no market. -/
theorem processOrder_untouched (hsound : (Accounting.of w.dataStore).Sound residues)
    (hkeyed : MarketsKeyed w.dataStore) (hloaded : params.Loaded w.dataStore)
    (haway : params.Away account) (h : processOrder env params w = .ok (u, w')) :
    Untouched account w w' := by
  unfold processOrder at h
  split_ifs at h with hincrease hdecrease hswap
  · exact IncreaseOrderUtils.processOrder_untouched hsound hkeyed hloaded h haway
  · exact DecreaseOrderUtils.processOrder_untouched hsound hkeyed hloaded h haway
  · exact SwapOrderUtils.processOrder_untouched haway h
  · exact absurd h (by simp)

section Execute

variable (hkey : params.key.slot = .request)
  (hsound : (Accounting.of w.dataStore).Sound residues) (hkeyed : MarketsKeyed w.dataStore)
  (hloaded : params.Loaded w.dataStore) (h : executeOrder env params w = .ok (u, w'))

include hkey hsound hkeyed hloaded h

/-- The execution fee comes from the order vault, so an execution keeps the surplus too. -/
theorem executeOrder_gains (haccepts : env.Accepts account)
    (hvault : params.orderVault ≠ account) : Gains account 0 w w' := by
  obtain ⟨run⟩ := executeOrder_run hkey hkeyed hloaded h
  have h₁ : Gains account 0 w run.removed :=
    .of_sameOff run.sameOff_removed (by decide) (by decide)
  have h₂ := processOrder_gains (run.sound_removed hsound) run.marketsKeyed run.loaded haccepts
    hvault run.processing
  have hgains := (h₁.trans h₂).trans (GasUtils.payExecutionFee_gains hvault run.paying)
  rwa [add_zero, add_zero] at hgains

/-- An execution books nothing for an account that is no market. -/
theorem executeOrder_untouched (haway : params.Away account) : Untouched account w w' := by
  obtain ⟨run⟩ := executeOrder_run hkey hkeyed hloaded h
  have h₁ : Untouched account w run.removed :=
    .of_moves (.of_sameOff run.sameOff_removed (by decide)) rfl
  have h₂ := processOrder_untouched (run.sound_removed hsound) run.marketsKeyed run.loaded haway
    run.processing
  exact trans_of (Untouched account) (trans_of (Untouched account) h₁ h₂)
    (GasUtils.payExecutionFee_untouched run.paying)

end Execute

end OrderUtils

end GmxSynthetics
