import GmxSynthetics.Swap.SwapCustody
import GmxSynthetics.Swap.SwapOutput

/-!
# What a swap brings its receiver

The output of a swap is sent to its receiver, who has it afterwards in full. Only the wrapped native
token may arrive unwrapped, and then it is no balance of a token.

* `swap_wrapped` — a swap that does not end in the wrapped native token unwraps nothing;
* `Delivered` — a receiver has what it was sent;
* `swap_delivers`, `transferOutUnwrapping_delivers` — what swaps and payments bring.
-/

namespace GmxSynthetics

open Evm MarketUtils

variable {env : Env} {w w' : World} {account : Address} {u : Unit}

-- ---------------------------------------------------------------------------
-- Unwrapping
-- ---------------------------------------------------------------------------

/-- Only the wrapped native token is unwrapped. -/
theorem Bank.transferOutUnwrapping_wrapped {bank token receiver : Address} {amount : Nat}
    (hne : token ≠ TokenUtils.wnt w.dataStore) (shouldUnwrapNativeToken : Bool) :
    transferOutUnwrapping env bank token receiver amount shouldUnwrapNativeToken w =
      transferOutUnwrapping env bank token receiver amount false w := by
  show (if token = TokenUtils.wnt w.dataStore ∧ shouldUnwrapNativeToken = true then _ else _ :
    Tx Unit) w = (if token = TokenUtils.wnt w.dataStore ∧ false = true then _ else _ : Tx Unit) w
  rw [if_neg fun h => hne h.1, if_neg fun h => hne h.1]

theorem BankRef.transferOut_wrapped {bank : BankRef} {token receiver : Address} {amount : Nat}
    {shouldUnwrapNativeToken : Bool}
    (h : bank.transferOut env token receiver amount shouldUnwrapNativeToken w = .ok (u, w'))
    (hne : token ≠ TokenUtils.wnt w.dataStore) :
    bank.transferOut env token receiver amount false w = .ok (u, w') := by
  unfold transferOut at h ⊢
  split at h
  · rw [if_pos ‹_›]
    obtain ⟨_, w₁, hpay, h⟩ := Tx.bind_eq_ok.mp h
    rw [Bank.transferOutUnwrapping_wrapped hne] at hpay
    exact Tx.bind_eq_ok.mpr ⟨_, w₁, hpay, h⟩
  · rw [if_neg ‹_›, ← Bank.transferOutUnwrapping_wrapped hne shouldUnwrapNativeToken]
    exact h

namespace SwapUtils

variable {params : SwapParams}

/-- The same swap, with nothing unwrapped. -/
def SwapParams.wrapped (params : SwapParams) : SwapParams :=
  { params with shouldUnwrapNativeToken := false }

theorem _swap_wrapped {_params : _SwapParams} {tokenOut : Address} {amountOut : Nat}
    (h : _swap env params _params w = .ok ((tokenOut, amountOut), w'))
    (hne : tokenOut ≠ TokenUtils.wnt w.dataStore) :
    _swap env params.wrapped { _params with shouldUnwrapNativeToken := false } w =
      .ok ((tokenOut, amountOut), w') := by
  have hend := (_swap_moves h).2
  unfold _swap at h ⊢
  simp only [↓Tx.lift_bind_eq_ok, ↓viewStore_bind_eq_ok] at h ⊢
  obtain ⟨u₁, htoken, u₂, hmarket, token, hopposite, priceIn, hpriceIn, priceOut, hpriceOut, fees,
    hfees, h⟩ := h
  refine ⟨u₁, htoken, u₂, hmarket, token, hopposite, priceIn, hpriceIn, priceOut, hpriceOut, fees,
    hfees, ?_⟩
  obtain ⟨u₃, w₁, hbook, h⟩ := Tx.bind_eq_ok.mp h
  refine Tx.bind_eq_ok.mpr ⟨u₃, w₁, hbook, ?_⟩
  obtain ⟨u₄, w₂, huiBook, h⟩ := Tx.bind_eq_ok.mp h
  refine Tx.bind_eq_ok.mpr ⟨u₄, w₂, huiBook, ?_⟩
  simp only [↓Tx.lift_bind_eq_ok, ↓viewStore_bind_eq_ok] at h ⊢
  obtain ⟨a₁, h₁, a₂, h₂, a₃, h₃, a₄, h₄, a₅, h₅, a₆, h₆, a₇, h₇, h⟩ := h
  refine ⟨a₁, h₁, a₂, h₂, a₃, h₃, a₄, h₄, a₅, h₅, a₆, h₆, a₇, h₇, ?_⟩
  obtain ⟨cache, w₃, himpact, h⟩ := Tx.bind_eq_ok.mp h
  refine Tx.bind_eq_ok.mpr ⟨cache, w₃, himpact, ?_⟩
  obtain ⟨u₅, w₄, htransfer, h⟩ := Tx.bind_eq_ok.mp h
  refine Tx.bind_eq_ok.mpr ⟨u₅, w₄, ?_, h⟩
  have hsame : World.SameOff hopSlots w w₃ :=
    ((FeeUtils.incrementClaimableFeeAmount_writes (by decide) _ _ _ hbook).trans
      (FeeUtils.incrementClaimableUiFeeAmount_writes (by decide) _ _ _ _ huiBook)).trans
      (applyPriceImpact_writes (by decide) _ _ _ _ _ _ _ himpact)
  have hne₃ : token ≠ TokenUtils.wnt w₃.dataStore := by
    rw [TokenUtils.wnt_sameOff hsame (by decide), Except.ok.inj (hopposite.symm.trans hend)]
    exact hne
  split at htransfer
  · rw [if_pos ‹_›, ← Bank.transferOutUnwrapping_wrapped hne₃ _params.shouldUnwrapNativeToken]
    exact htransfer
  · rw [if_neg ‹_›]
    exact htransfer

/-- The walk along a path, by induction over its markets: the hops on the way unwrap nothing, and
the last one pays out in the token at the end. -/
theorem swapAlongPath_wrapped {markets : List Market} {tokenIn tokenOut : Address}
    {amountIn amountOut : Nat}
    (h : swapAlongPath env params markets tokenIn amountIn w = .ok ((tokenOut, amountOut), w'))
    (hne : tokenOut ≠ TokenUtils.wnt w.dataStore) :
    swapAlongPath env params.wrapped markets tokenIn amountIn w =
      .ok ((tokenOut, amountOut), w') := by
  induction markets generalizing w tokenIn amountIn with
  | nil => exact h
  | cons market nextMarkets ih =>
    unfold swapAlongPath at h ⊢
    simp only [↓readStore_bind_eq_ok, ↓Tx.lift_bind_eq_ok, ↓writeStore_bind_eq_ok] at h ⊢
    obtain ⟨_, hflag, h⟩ := h
    refine ⟨_, hflag, ?_⟩
    obtain ⟨⟨token, amount⟩, w₁, hhop, hrest⟩ := Tx.bind_eq_ok.mp h
    have hwnt : TokenUtils.wnt (w.dataStore.setBool
        (Keys.swapPathMarketFlagKey market.marketToken) true) = TokenUtils.wnt w.dataStore := rfl
    have hhopped := TokenUtils.wnt_sameOff
      (_swap_writes env (List.Subset.refl hopSlots) params _ hhop) (by decide)
    have hrest' := ih hrest (by rw [hhopped, hwnt]; exact hne)
    refine Tx.bind_eq_ok.mpr ⟨(token, amount), w₁, ?_, hrest'⟩
    have hlast : (nextMarkets.isEmpty && params.wrapped.shouldUnwrapNativeToken) = false :=
      Bool.and_false _
    rw [hlast]
    cases nextMarkets with
    | nil =>
      simp only [swapAlongPath, Tx.pure_eq_ok, Prod.mk.injEq] at hrest
      obtain ⟨⟨rfl, rfl⟩, rfl⟩ := hrest
      exact _swap_wrapped hhop hne
    | cons nextMarket rest => exact hhop

/-- A swap that does not end in the wrapped native token is the same swap with nothing
unwrapped. -/
theorem swap_wrapped {tokenOut : Address} {amountOut : Nat}
    (h : swap env params w = .ok ((tokenOut, amountOut), w'))
    (hne : tokenOut ≠ TokenUtils.wnt w.dataStore) :
    swap env params.wrapped w = .ok ((tokenOut, amountOut), w') := by
  unfold swap at h ⊢
  split at h
  case isTrue hzero =>
    rw [if_pos (show params.wrapped.amountIn = 0 from hzero)]
    exact h
  case isFalse hamount =>
    rw [if_neg (show ¬ params.wrapped.amountIn = 0 from hamount)]
    have hsamePath : params.wrapped.swapPathMarkets = params.swapPathMarkets := rfl
    rw [hsamePath]
    cases hpath : params.swapPathMarkets with
    | nil =>
      simp only [hpath, ↓Tx.lift_bind_eq_ok] at h ⊢
      obtain ⟨_, hmin, h⟩ := h
      refine ⟨_, hmin, ?_⟩
      obtain ⟨_, w₁, hpay, h⟩ := Tx.bind_eq_ok.mp h
      refine Tx.bind_eq_ok.mpr ⟨(), w₁, ?_, h⟩
      simp only [Tx.pure_eq_ok, Prod.mk.injEq] at h
      obtain ⟨⟨rfl, -⟩, -⟩ := h
      split at hpay
      · rw [if_pos ‹_›]
        exact BankRef.transferOut_wrapped hpay hne
      · rw [if_neg ‹_›]
        exact hpay
    | cons firstMarket nextMarkets =>
      simp only [hpath] at h ⊢
      obtain ⟨_, w₁, hpay, h⟩ := Tx.bind_eq_ok.mp h
      refine Tx.bind_eq_ok.mpr ⟨(), w₁, hpay, ?_⟩
      obtain ⟨⟨token, amount⟩, w₂, hwalk, h⟩ := Tx.bind_eq_ok.mp h
      refine Tx.bind_eq_ok.mpr ⟨(token, amount), w₂, ?_, h⟩
      have hsent : World.SameOff [.tokens] w w₁ :=
        Writes.ite (BankRef.transferOut_writes env (List.mem_singleton_self _) _ _ _ _ _) (.pure _)
          hpay
      obtain ⟨_, w₃, -, h⟩ := Tx.bind_eq_ok.mp h
      simp only [↓Tx.lift_bind_eq_ok, Tx.pure_eq_ok, Prod.mk.injEq] at h
      obtain ⟨_, -, ⟨rfl, -⟩, -⟩ := h
      refine swapAlongPath_wrapped hwalk ?_
      rw [TokenUtils.wnt_sameOff hsent (by decide)]
      exact hne

end SwapUtils

-- ---------------------------------------------------------------------------
-- Deliveries
-- ---------------------------------------------------------------------------

/-- What an account has more of when it is sent an amount: the wrapped native token is no balance
any more once it is unwrapped. -/
def delivery (wnt receiver token : Address) (amount : Nat) (shouldUnwrapNativeToken : Bool) :
    Address → Address → Int :=
  if token = wnt ∧ shouldUnwrapNativeToken = true then 0 else entry receiver token amount

theorem delivery_of_wrapped {wnt receiver token : Address} {amount : Nat}
    {shouldUnwrapNativeToken : Bool} (h : ¬(token = wnt ∧ shouldUnwrapNativeToken = true)) :
    delivery wnt receiver token amount shouldUnwrapNativeToken = entry receiver token amount :=
  if_neg h

/-- It is no more than what is sent as it is. -/
theorem delivery_le_arrival {wnt receiver token t : Address} {amount : Nat}
    {shouldUnwrapNativeToken : Bool} (h : token = wnt ∧ shouldUnwrapNativeToken = true) :
    delivery wnt receiver token amount shouldUnwrapNativeToken account t ≤
      arrival receiver token amount shouldUnwrapNativeToken account t := by
  rw [delivery, if_pos h]
  exact arrival_nonneg _ _ _ _ _ _

variable (haccepts : env.Accepts account)

include haccepts

/-- **A swap** costs its bank the input, and its receiver has the output. -/
theorem SwapUtils.swap_delivers {params : SwapParams} {tokenOut : Address} {amountOut : Nat}
    (h : swap env params w = .ok ((tokenOut, amountOut), w')) :
    Gains account (entry params.bank.address params.tokenIn (-params.amountIn) account +
      delivery (TokenUtils.wnt w.dataStore) params.receiver tokenOut amountOut
        params.shouldUnwrapNativeToken account) w w' := by
  by_cases hunwrapped : tokenOut = TokenUtils.wnt w.dataStore ∧
      params.shouldUnwrapNativeToken = true
  · refine (swap_gains haccepts h).mono fun t => ?_
    exact add_le_add (le_refl _) (delivery_le_arrival hunwrapped)
  · rw [delivery_of_wrapped hunwrapped]
    by_cases hflag : params.shouldUnwrapNativeToken = true
    · have hwrapped := swap_wrapped h fun hwnt => hunwrapped ⟨hwnt, hflag⟩
      exact swap_gains haccepts hwrapped
    · have hgains := swap_gains haccepts h
      rw [Bool.not_eq_true] at hflag
      rwa [hflag, arrival_wrapped] at hgains

/-- A payment of a market, which is not an entry of its book. -/
theorem Bank.transferOutUnwrapping_delivers {bank token receiver : Address} {amount : Nat}
    {shouldUnwrapNativeToken : Bool}
    (h : transferOutUnwrapping env bank token receiver amount shouldUnwrapNativeToken w =
      .ok (u, w')) :
    Gains account (entry bank token (-amount) account +
      delivery (TokenUtils.wnt w.dataStore) receiver token amount shouldUnwrapNativeToken account)
      w w' := by
  have hbooked : Moves 0 w w' := .of_writes
    (transferOutUnwrapping_writes env (List.mem_singleton_self _) _ _ _ _ _) (by decide) h
  have hgains : ∀ {flag : Bool},
      transferOutUnwrapping env bank token receiver amount flag w = .ok (u, w') →
      Gains account (entry bank token (-amount) account +
        arrival receiver token amount flag account) w w' := by
    intro flag hrun
    refine (Gains.of_moves (transferOutUnwrapping_receives haccepts hrun) hbooked).mono fun t => ?_
    rw [Pi.sub_apply, Pi.zero_apply, Pi.zero_apply, sub_zero]
  by_cases hunwrapped : token = TokenUtils.wnt w.dataStore ∧ shouldUnwrapNativeToken = true
  · refine (hgains h).mono fun t => ?_
    exact add_le_add (le_refl _) (delivery_le_arrival hunwrapped)
  · rw [delivery_of_wrapped hunwrapped]
    by_cases hflag : shouldUnwrapNativeToken = true
    · rw [transferOutUnwrapping_wrapped fun hwnt => hunwrapped ⟨hwnt, hflag⟩] at h
      exact hgains h
    · rw [Bool.not_eq_true] at hflag
      rw [hflag] at h
      exact hgains h

omit haccepts

-- ---------------------------------------------------------------------------
-- Proceeds
-- ---------------------------------------------------------------------------

/-- What a receiver has more of by all that it is sent. -/
def deliveries (wnt receiver : Address) (shouldUnwrapNativeToken : Bool)
    (proceeds : List (Address × Nat)) : Address → Int :=
  (proceeds.map fun output =>
    delivery wnt receiver output.1 output.2 shouldUnwrapNativeToken receiver).sum

/-- The receiver has the proceeds, but for the wrapped native token when that is unwrapped. -/
def Delivered (receiver : Address) (shouldUnwrapNativeToken : Bool)
    (proceeds : List (Address × Nat)) (w w' : World) : Prop :=
  ∀ token, (token = TokenUtils.wnt w.dataStore → shouldUnwrapNativeToken = false) →
    w.balances token receiver + (proceeds.map fun output =>
        tokenAmount output.1 output.2 token).sum ≤ w'.balances token receiver

theorem deliveries_apply {wnt receiver token : Address} {shouldUnwrapNativeToken : Bool}
    (hwrapped : token = wnt → shouldUnwrapNativeToken = false)
    (proceeds : List (Address × Nat)) :
    deliveries wnt receiver shouldUnwrapNativeToken proceeds token =
      ((proceeds.map fun output => tokenAmount output.1 output.2 token).sum : Nat) := by
  unfold deliveries
  induction proceeds with
  | nil => rfl
  | cons output rest ih =>
    rw [List.map_cons, List.sum_cons, List.map_cons, List.sum_cons, Pi.add_apply, ih, Nat.cast_add]
    congr 1
    unfold delivery tokenAmount
    by_cases htoken : token = output.1
    · subst htoken
      rw [if_neg, entry]
      · simp
      · rintro ⟨hwnt, hunwraps⟩
        rw [hwrapped hwnt] at hunwraps
        cases hunwraps
    · split_ifs <;> simp [entry, htoken]

/-- An account whose book stays has what it gains. -/
theorem Delivered.of_gains {receiver : Address} {shouldUnwrapNativeToken : Bool}
    {proceeds : List (Address × Nat)}
    (hgains : Gains receiver (deliveries (TokenUtils.wnt w.dataStore) receiver
      shouldUnwrapNativeToken proceeds) w w')
    (hbook : Untouched receiver w w') :
    Delivered receiver shouldUnwrapNativeToken proceeds w w' := by
  intro token hwrapped
  have htoken := hgains token
  have howed : book w'.dataStore receiver token = book w.dataStore receiver token :=
    congrFun hbook token
  simp only [Custody.surplus, World.custody, Pi.add_apply, Pi.sub_apply,
    deliveries_apply hwrapped] at htoken
  omega

end GmxSynthetics
