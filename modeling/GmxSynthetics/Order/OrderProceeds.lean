import GmxSynthetics.Order.OrderCustody
import GmxSynthetics.Swap.SwapDelivery

/-!
# The proceeds of an order

What the decrease of a position pays out is worth the minimum of its order, and its receiver has it.

* `Order.Delivered`, `Order.Covers` — the proceeds arrive, and are worth the minimum;
* `payOutput_delivers` — whichever way a decrease is paid out.
-/

namespace GmxSynthetics

open Evm BaseOrderUtils MarketUtils

variable {env : Env} {w w' : World} {u : Unit}

/-- What the receiver has more of by the proceeds of an order. -/
def Order.deliveries (order : Order) (wnt : Address) (proceeds : List (Address × Nat)) :
    Address → Int :=
  GmxSynthetics.deliveries wnt order.receiver order.shouldUnwrapNativeToken proceeds

/-- The receiver of an order has its proceeds. -/
def Order.Delivered (order : Order) (proceeds : List (Address × Nat)) (w w' : World) : Prop :=
  GmxSynthetics.Delivered order.receiver order.shouldUnwrapNativeToken proceeds w w'

/-- What the proceeds are worth at the lowest prices. -/
def proceedsUsd (env : Env) (proceeds : List (Address × Nat)) : Result (List Nat) :=
  proceeds.mapM fun output => do
    let price ← Oracle.getPrimaryPrice env output.1
    mul output.2 price.min

/-- The proceeds are worth the order's minimum. -/
def Order.Covers (env : Env) (order : Order) (proceeds : List (Address × Nat)) : Prop :=
  ∃ values, proceedsUsd env proceeds = .ok values ∧ order.minOutputAmount ≤ values.sum

namespace DecreaseOrderUtils

open DecreasePositionUtils

variable {params : ExecuteOrderParams} {result : DecreasePositionResult}

theorem _validateOutputAmount_eq_ok {outputToken : Address} {outputAmount : Nat}
    (h : _validateOutputAmount env outputToken outputAmount params.order.minOutputAmount =
      .ok u) : params.order.Covers env [(outputToken, outputAmount)] := by
  simp only [_validateOutputAmount, Result.bind_eq_ok, Result.revertIf_eq_ok] at h
  obtain ⟨price, hprice, value, hvalue, hmin⟩ := h
  refine ⟨[value], ?_, ?_⟩
  · simp [proceedsUsd, hprice, hvalue, bind, Except.bind, pure, Except.pure]
  · simpa using Nat.le_of_not_lt hmin

theorem _validateOutputAmounts_eq_ok {outputToken secondaryOutputToken : Address}
    {outputAmount secondaryOutputAmount : Nat}
    (h : _validateOutputAmounts env outputToken outputAmount secondaryOutputToken
      secondaryOutputAmount params.order.minOutputAmount = .ok u) :
    params.order.Covers env
      [(outputToken, outputAmount), (secondaryOutputToken, secondaryOutputAmount)] := by
  simp only [_validateOutputAmounts, Result.bind_eq_ok, Result.revertIf_eq_ok, add_eq_ok] at h
  obtain ⟨price, hprice, value, hvalue, price', hprice', value', hvalue', _, ⟨-, rfl⟩, hmin⟩ := h
  refine ⟨[value, value'], ?_, ?_⟩
  · simp [proceedsUsd, hprice, hvalue, hprice', hvalue', bind, Except.bind, pure, Except.pure]
  · simpa using Nat.le_of_not_lt hmin

/-- **The output of a decrease** covers the order's minimum, and its receiver has it, whichever way
it is paid. -/
theorem payOutput_delivers (h : payOutput env params result w = .ok (u, w')) :
    ∃ proceeds, params.order.Covers env proceeds ∧
      (env.Accepts params.order.receiver → params.order.market ≠ params.order.receiver →
        Gains params.order.receiver
          (params.order.deliveries (TokenUtils.wnt w.dataStore) proceeds) w w') := by
  -- what is sent comes out of the market
  have hsent : ∀ {token : Address} {amount : Nat} {w w' : World} {u : Unit},
      Bank.transferOutUnwrapping env params.order.market token params.order.receiver amount
        params.order.shouldUnwrapNativeToken w = .ok (u, w') →
      env.Accepts params.order.receiver → params.order.market ≠ params.order.receiver →
      Gains params.order.receiver
        (params.order.deliveries (TokenUtils.wnt w.dataStore) [(token, amount)]) w w' := by
    intro token amount w w' u hpay haccepts hmarket
    have hgains := Bank.transferOutUnwrapping_delivers haccepts hpay
    rw [entry_apply_of_ne hmarket.symm, zero_add] at hgains
    rwa [Order.deliveries, GmxSynthetics.deliveries, List.map_singleton, List.sum_singleton]
  unfold payOutput at h
  split at h
  case isTrue =>
    simp only [↓Tx.lift_bind_eq_ok] at h
    obtain ⟨_, hcovers, h⟩ := h
    obtain ⟨_, w₁, houtput, hsecondary⟩ := Tx.bind_eq_ok.mp h
    have hwnt := TokenUtils.wnt_sameOff (Bank.transferOutUnwrapping_writes env
      (List.mem_singleton_self _) _ _ _ _ _ houtput) (by decide)
    refine ⟨_, _validateOutputAmounts_eq_ok hcovers, fun haccepts hmarket => ?_⟩
    have hgains := (hsent houtput haccepts hmarket).trans (hsent hsecondary haccepts hmarket)
    rw [hwnt] at hgains
    simpa [Order.deliveries, GmxSynthetics.deliveries] using hgains
  case isFalse =>
    obtain ⟨swapped, w₁, hswap, h⟩ := Tx.bind_eq_ok.mp h
    rcases Tx.attempt_eq_ok.mp hswap with ⟨⟨tokenOut, amountOut⟩, rfl, hrun⟩ | ⟨error, rfl, -, rfl⟩
    · obtain ⟨hcovers, rfl⟩ := Tx.lift_eq_ok.mp h
      refine ⟨_, _validateOutputAmount_eq_ok hcovers, fun haccepts hmarket => ?_⟩
      have hgains := SwapUtils.swap_delivers haccepts hrun
      rw [entry_apply_of_ne hmarket.symm, zero_add] at hgains
      rwa [Order.deliveries, GmxSynthetics.deliveries, List.map_singleton, List.sum_singleton]
    · simp only [↓Tx.lift_bind_eq_ok] at h
      obtain ⟨_, hcovers, h⟩ := h
      exact ⟨_, _validateOutputAmount_eq_ok hcovers, hsent h⟩

end DecreaseOrderUtils

end GmxSynthetics
