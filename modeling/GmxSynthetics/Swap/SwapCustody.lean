import GmxSynthetics.Market.MarketCustody
import GmxSynthetics.Swap.SwapPath

/-!
# Swaps and the custody of the markets

A hop books in its market what the market has been sent, and pays out what it takes off the book.
So along a path the surplus that one market is short of is with the next, and a swap as a whole
costs its bank the input and leaves the output with the receiver.

* `_swap_gains` — a hop;
* `swapAlongPath_gains` — the path, by induction over its markets;
* `swap_gains`, `swap_untouched` — a swap.
-/

namespace GmxSynthetics

open Evm MarketUtils

namespace SwapUtils

variable {env : Env} {w w' : World} {account : Address} {params : SwapParams}

/-- A hop takes its input, which its market has been sent, off the surplus of the market. -/
theorem _swap_gains (haccepts : env.Accepts account) {_params : _SwapParams} {tokenOut : Address}
    {amountOut : Nat} (h : _swap env params _params w = .ok ((tokenOut, amountOut), w')) :
    Gains account (entry _params.market.marketToken _params.tokenIn (-_params.amountIn) account +
      arrival _params.receiver tokenOut amountOut _params.shouldUnwrapNativeToken account)
      w w' := by
  obtain ⟨hbooked, -⟩ := _swap_moves h
  obtain ⟨run⟩ := _swap_run h
  have h₁ : Receives account 0 w run.booked := .of_writes
    (FeeUtils.incrementClaimableFeeAmount_writes (List.mem_singleton_self _) _ _ _) (by decide)
    run.booking
  have h₂ : Receives account 0 run.booked run.uiBooked := .of_writes
    (FeeUtils.incrementClaimableUiFeeAmount_writes (List.mem_singleton_self _) _ _ _ _) (by decide)
    run.uiBooking
  have h₃ : Receives account 0 run.uiBooked run.impacted := .of_writes
    (applyPriceImpact_writes (List.mem_singleton_self _) _ _ _ _ _ _ _) (by decide) run.impacting
  have h₅ : Receives account 0 run.transferred run.received := .of_writes
    (applyDeltaToPoolAmount_writes (List.mem_cons_self) (List.mem_cons_of_mem _
      (List.mem_singleton_self _)) _ _ _) (by decide) run.receiving
  have h₆ : Receives account 0 run.received w' := .of_writes
    (applyDeltaToPoolAmount_writes (List.mem_cons_self) (List.mem_cons_of_mem _
      (List.mem_singleton_self _)) _ _ _) (by decide) run.paying
  have hpay := run.transferring
  rw [← run.amountOut_eq] at hpay
  split at hpay
  case isTrue hreceiver =>
    have h₄ := Bank.transferOutUnwrapping_receives haccepts hpay
    have hreceives := ((((h₁.trans h₂).trans h₃).trans h₄).trans h₅).trans h₆
    refine (Gains.of_moves hreceives hbooked).mono fun t => ?_
    simp only [Pi.add_apply, Pi.sub_apply, Pi.zero_apply, entry]
    split_ifs <;> omega
  case isFalse hreceiver =>
    -- the output stays in the market, and is no longer in its book
    obtain ⟨-, htransferred⟩ := Tx.pure_eq_ok.mp hpay
    rw [← htransferred] at h₅
    have hreceives := (((h₁.trans h₂).trans h₃).trans h₅).trans h₆
    refine (Gains.of_moves hreceives hbooked).mono fun t => ?_
    have harrival := arrival_le _params.receiver tokenOut amountOut
      _params.shouldUnwrapNativeToken account t
    rw [not_not.mp hreceiver] at harrival ⊢
    simp only [Pi.add_apply, Pi.sub_apply, Pi.zero_apply, entry] at harrival ⊢
    split_ifs at harrival ⊢ <;> omega

/-- Where the input of a path is when it is walked. -/
def pathStart (params : SwapParams) : List Market → Address
  | [] => params.receiver
  | market :: _ => market.marketToken

/-- Setting and clearing flags concerns no custody. -/
theorem setSwapPathMarketFlag_gains (market : Address) (value : Bool) :
    Gains account 0 w { w with
      dataStore := w.dataStore.setBool (Keys.swapPathMarketFlagKey market) value } :=
  .of_sameOff (setSwapPathMarketFlag_writes market value (a := ()) (writeStore_eq_ok.mpr rfl))
    (by decide) (by decide)

/-- Walking a path, by induction over its markets: each hands what it pays out to the next. -/
theorem swapAlongPath_gains (haccepts : env.Accepts account) {markets : List Market}
    {tokenIn tokenOut : Address} {amountIn amountOut : Nat} (hmarkets : markets ≠ [])
    (h : swapAlongPath env params markets tokenIn amountIn w = .ok ((tokenOut, amountOut), w')) :
    Gains account (entry (pathStart params markets) tokenIn (-amountIn) account +
      arrival params.receiver tokenOut amountOut params.shouldUnwrapNativeToken account)
      w w' := by
  induction markets generalizing w tokenIn amountIn with
  | nil => exact absurd rfl hmarkets
  | cons market nextMarkets ih =>
    unfold swapAlongPath at h
    simp only [↓readStore_bind_eq_ok, ↓Tx.lift_bind_eq_ok, ↓writeStore_bind_eq_ok] at h
    obtain ⟨_, -, h⟩ := h
    obtain ⟨⟨token, amount⟩, w₁, hhop, hrest⟩ := Tx.bind_eq_ok.mp h
    have hhop := (setSwapPathMarketFlag_gains market.marketToken true).trans
      (_swap_gains haccepts hhop)
    cases nextMarkets with
    | nil =>
      simp only [swapAlongPath, Tx.pure_eq_ok, Prod.mk.injEq] at hrest
      obtain ⟨⟨rfl, rfl⟩, rfl⟩ := hrest
      refine hhop.mono fun t => ?_
      simp only [Pi.add_apply, Pi.zero_apply, pathStart, List.isEmpty_nil, Bool.true_and]
      omega
    | cons nextMarket rest =>
      refine (hhop.trans (ih (List.cons_ne_nil _ _) hrest)).mono fun t => ?_
      simp only [List.isEmpty_cons, Bool.false_and, arrival_wrapped, pathStart, Pi.add_apply,
        Pi.zero_apply, entry]
      split_ifs <;> omega

/-- **A swap** costs its bank the input, and brings the output to the receiver. Every market on the
path keeps its surplus. -/
theorem swap_gains (haccepts : env.Accepts account) {tokenOut : Address} {amountOut : Nat}
    (h : swap env params w = .ok ((tokenOut, amountOut), w')) :
    Gains account (entry params.bank.address params.tokenIn (-params.amountIn) account +
      arrival params.receiver tokenOut amountOut params.shouldUnwrapNativeToken account)
      w w' := by
  unfold swap at h
  split at h
  case isTrue hzero =>
    simp only [Tx.pure_eq_ok, Prod.mk.injEq] at h
    obtain ⟨⟨rfl, rfl⟩, rfl⟩ := h
    refine (Gains.refl account w).mono fun t => ?_
    have harrival := arrival_le params.receiver params.tokenIn params.amountIn
      params.shouldUnwrapNativeToken account t
    rw [hzero] at harrival ⊢
    simp only [Pi.add_apply, Pi.zero_apply, entry] at harrival ⊢
    split_ifs at harrival ⊢ <;> omega
  case isFalse hamount =>
    cases hpath : params.swapPathMarkets with
    | nil =>
      simp only [hpath, ↓Tx.lift_bind_eq_ok] at h
      obtain ⟨_, -, h⟩ := h
      obtain ⟨_, w₁, hpay, h⟩ := Tx.bind_eq_ok.mp h
      simp only [Tx.pure_eq_ok, Prod.mk.injEq] at h
      obtain ⟨⟨rfl, rfl⟩, rfl⟩ := h
      split at hpay
      case isTrue hbank =>
        have hbooked : Moves 0 w w₁ := .of_writes
          (BankRef.transferOut_writes env (List.mem_singleton_self _) _ _ _ _ _) (by decide) hpay
        refine (Gains.of_moves (BankRef.transferOut_receives haccepts hpay) hbooked).mono
          fun t => ?_
        simp only [Pi.add_apply, Pi.sub_apply, Pi.zero_apply]
        omega
      case isFalse hbank =>
        obtain ⟨-, rfl⟩ := Tx.pure_eq_ok.mp hpay
        refine (Gains.refl account w).mono fun t => ?_
        have harrival := arrival_le params.receiver params.tokenIn params.amountIn
          params.shouldUnwrapNativeToken account t
        rw [not_not.mp hbank]
        simp only [Pi.add_apply, Pi.zero_apply, entry] at harrival ⊢
        split_ifs at harrival ⊢ <;> omega
    | cons firstMarket nextMarkets =>
      simp only [hpath] at h
      obtain ⟨_, w₁, hpay, h⟩ := Tx.bind_eq_ok.mp h
      obtain ⟨⟨token, amount⟩, w₂, hwalk, h⟩ := Tx.bind_eq_ok.mp h
      obtain ⟨_, w₃, hclear, h⟩ := Tx.bind_eq_ok.mp h
      simp only [↓Tx.lift_bind_eq_ok, Tx.pure_eq_ok, Prod.mk.injEq] at h
      obtain ⟨_, -, ⟨rfl, rfl⟩, rfl⟩ := h
      have hwalked := swapAlongPath_gains haccepts (List.cons_ne_nil _ _) hwalk
      have hcleared : Gains account 0 w₂ w₃ := .of_sameOff
        (Writes.forM (fun _ => setSwapPathMarketFlag_writes _ false) hclear)
        (by decide) (by decide)
      have hstart : Gains account (entry params.bank.address params.tokenIn (-params.amountIn)
          account + entry firstMarket.marketToken params.tokenIn params.amountIn account) w w₁ := by
        split at hpay
        case isTrue hbank =>
          have hbooked : Moves 0 w w₁ := .of_writes
            (BankRef.transferOut_writes env (List.mem_singleton_self _) _ _ _ _ _) (by decide) hpay
          refine (Gains.of_moves (BankRef.transferOut_receives haccepts hpay) hbooked).mono
            fun t => ?_
          rw [arrival_wrapped, Pi.sub_apply, Pi.zero_apply, Pi.zero_apply, sub_zero]
        case isFalse hbank =>
          -- the bank is the first market
          obtain ⟨-, rfl⟩ := Tx.pure_eq_ok.mp hpay
          refine (Gains.refl account w).mono fun t => ?_
          rw [not_not.mp hbank]
          simp only [Pi.add_apply, Pi.zero_apply, entry]
          split_ifs <;> omega
      refine ((hstart.trans hwalked).trans hcleared).mono fun t => ?_
      simp only [pathStart, Pi.add_apply, Pi.zero_apply, entry]
      split_ifs <;> omega

/-- A swap leaves the books alone but those of the markets on its path. -/
theorem swap_untouched (hpath : ∀ market ∈ params.swapPathMarkets, market.marketToken ≠ account) :
    Tx.Keeps (Untouched account) (swap env params) := by
  rintro w ⟨tokenOut, amountOut⟩ w' h
  obtain ⟨hops, ⟨-, hmarkets, -⟩, -, hmoves, -⟩ := swap_chain h
  refine .of_moves hmoves (funext fun token => pathDelta_of_not_mem ?_ token)
  intro hmem
  obtain ⟨hop, hhop, rfl⟩ := List.mem_map.mp hmem
  have hmarket : hop.market ∈ hops.map Hop.market := List.mem_map_of_mem hhop
  rw [hmarkets] at hmarket
  split at hmarket
  · exact absurd hmarket List.not_mem_nil
  · exact hpath _ hmarket rfl

end SwapUtils

end GmxSynthetics
