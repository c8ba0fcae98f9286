import GmxSynthetics.Swap.SwapBook

/-!
# Swaps along a path

A swap hands what a market pays out to the next market of its path. A flag for each market of the
path keeps it from being visited twice; the flags are cleared at the end.

* `Chain`, `Walk` — the hops of a swap, each fed by the one before it;
* `swapAlongPath_chain`, `swap_chain` — a swap is a chain of hops over its path; the books move by
  what each hop receives and pays, and no flag is left set.
-/

namespace GmxSynthetics

open Evm MarketUtils

namespace SwapUtils

-- ---------------------------------------------------------------------------
-- Hops
-- ---------------------------------------------------------------------------

/-- A visit to a market: what it receives, and what it pays to whom. -/
structure Hop where
  market : Market
  tokenIn : Address
  amountIn : Nat
  tokenOut : Address
  amountOut : Nat
  receiver : Address

namespace Hop

/-- What the market receives for the hop in a token. -/
def received (hop : Hop) (token : Address) : Nat := if token = hop.tokenIn then hop.amountIn else 0

/-- What the market pays for the hop in a token. -/
def paid (hop : Hop) (token : Address) : Nat := if token = hop.tokenOut then hop.amountOut else 0

/-- The entries of the hop in the book of its market. -/
def delta (hop : Hop) : Address → Address → Int :=
  entry hop.market.marketToken hop.tokenIn hop.amountIn +
    entry hop.market.marketToken hop.tokenOut (-hop.amountOut)

/-- The hop is the call of `_swap` from `w` to `w'`. -/
def Executed (env : Env) (params : SwapParams) (hop : Hop) (w w' : World) : Prop :=
  ∃ _params : _SwapParams,
    _params.market = hop.market ∧ _params.tokenIn = hop.tokenIn ∧
      _params.amountIn = hop.amountIn ∧ _params.receiver = hop.receiver ∧
      _swap env params _params w = .ok ((hop.tokenOut, hop.amountOut), w')

theorem delta_self (hop : Hop) (token : Address) :
    hop.delta hop.market.marketToken token = (hop.received token : Int) - hop.paid token := by
  unfold delta received paid
  simp only [Pi.add_apply, entry, true_and]
  split_ifs <;> omega

theorem delta_of_ne (hop : Hop) {market : Address} (h : market ≠ hop.market.marketToken)
    (token : Address) : hop.delta market token = 0 := by
  simp [delta, entry, h]

end Hop

/-- Where a hop sends its output: to the market of the next hop, and at the end to the receiver. -/
def nextReceiver (params : SwapParams) : List Hop → Address
  | [] => params.receiver
  | hop :: _ => hop.market.marketToken

/-- A market on the path is marked as visited. -/
def visit (w : World) (market : Address) : World :=
  { w with dataStore := w.dataStore.setBool (Keys.swapPathMarketFlagKey market) true }

/-- Hops from `w` to `w'` that turn an amount of one token into an amount of another, each fed by
the one before, in the state that the one before leaves. -/
inductive Chain (env : Env) (params : SwapParams) :
    World → World → Address → Nat → List Hop → Address → Nat → Prop where
  | nil (w : World) (token : Address) (amount : Nat) :
      Chain env params w w token amount [] token amount
  | cons {hop : Hop} {hops : List Hop} {tokenOut : Address} {amountOut : Nat} {w w₁ w' : World}
      (executed : hop.Executed env params (visit w hop.market.marketToken) w₁)
      (receiver : hop.receiver = nextReceiver params hops)
      (rest : Chain env params w₁ w' hop.tokenOut hop.amountOut hops tokenOut amountOut) :
      Chain env params w w' hop.tokenIn hop.amountIn (hop :: hops) tokenOut amountOut

/-- The hops of a swap from `w` to `w'`: once the tokens are with the first market, those of its
path in turn, and none when there is nothing to swap; then the flags are cleared. -/
structure Walk (env : Env) (params : SwapParams) (hops : List Hop) (output : Address × Nat)
    (w w' : World) : Prop where
  swapped : swap env params w = .ok (output, w')
  markets : hops.map Hop.market = if params.amountIn = 0 then [] else params.swapPathMarkets
  chain : ∃ started walked, World.SameOff [.tokens] w started ∧
    Chain env params started walked params.tokenIn params.amountIn hops output.1 output.2 ∧
    World.SameOff [.constant .SWAP_PATH_MARKET_FLAG] walked w'

/-- The entries of all hops. -/
def pathDelta (hops : List Hop) : Address → Address → Int := (hops.map Hop.delta).sum

theorem pathDelta_cons (hop : Hop) (hops : List Hop) :
    pathDelta (hop :: hops) = hop.delta + pathDelta hops := rfl

theorem pathDelta_of_not_mem {hops : List Hop} {market : Address}
    (h : market ∉ hops.map (·.market.marketToken)) (token : Address) :
    pathDelta hops market token = 0 := by
  induction hops with
  | nil => rfl
  | cons hop hops ih =>
    rw [List.map_cons, List.mem_cons, not_or] at h
    rw [pathDelta_cons, Pi.add_apply, Pi.add_apply, hop.delta_of_ne h.1, ih h.2, zero_add]

/-- Where no market is visited twice, a market's entries are those of its hop. -/
theorem pathDelta_of_mem {hops : List Hop}
    (hnodup : (hops.map (·.market.marketToken)).Nodup) {hop : Hop} (hmem : hop ∈ hops)
    (token : Address) :
    pathDelta hops hop.market.marketToken token = (hop.received token : Int) - hop.paid token := by
  induction hops with
  | nil => exact absurd hmem List.not_mem_nil
  | cons first hops ih =>
    rw [List.map_cons, List.nodup_cons] at hnodup
    rw [pathDelta_cons, Pi.add_apply, Pi.add_apply]
    rcases List.mem_cons.mp hmem with rfl | hrest
    · rw [pathDelta_of_not_mem hnodup.1, add_zero, hop.delta_self]
    · have hne : hop.market.marketToken ≠ first.market.marketToken := fun heq =>
        hnodup.1 (heq ▸ List.mem_map_of_mem hrest)
      rw [first.delta_of_ne hne, zero_add, ih hnodup.2 hrest]

-- ---------------------------------------------------------------------------
-- Flags
-- ---------------------------------------------------------------------------

/-- `swapPathMarketFlag`. -/
def flag (w : World) (market : Address) : Bool :=
  w.dataStore.getBool (Keys.swapPathMarketFlagKey market)

variable {env : Env} {params : SwapParams} {w w' : World}

theorem flag_setBool (w : World) (market market' : Address) (value : Bool) :
    flag { w with dataStore := w.dataStore.setBool (Keys.swapPathMarketFlagKey market) value }
      market' = if market' = market then value else flag w market' := by
  show Function.update _ _ _ _ = _
  rw [Function.update_apply]
  have hkey : Keys.swapPathMarketFlagKey market' = Keys.swapPathMarketFlagKey market ↔
      market' = market := by simp [Keys.swapPathMarketFlagKey]
  simp only [hkey]
  rfl

/-- Calls that do not write the flags leave them. -/
theorem flag_of_sameOff {slots : List Slot} (h : World.SameOff slots w w')
    (hslots : Slot.constant .SWAP_PATH_MARKET_FLAG ∉ slots) (market : Address) :
    flag w' market = flag w market :=
  h.bool _ hslots _ rfl

theorem forM_clears {markets : List Market} {u : Unit}
    (h : markets.forM (fun market =>
      writeStore (·.setBool (Keys.swapPathMarketFlagKey market.marketToken) false)) w =
        .ok (u, w')) (market : Address) :
    flag w' market = if market ∈ markets.map (·.marketToken) then false else flag w market := by
  induction markets generalizing w with
  | nil =>
    obtain ⟨-, rfl⟩ := Tx.pure_eq_ok.mp h
    rfl
  | cons first markets ih =>
    obtain ⟨_, w₁, hfirst, hrest⟩ := Tx.bind_eq_ok.mp h
    obtain rfl := writeStore_eq_ok.mp hfirst
    rw [ih hrest, flag_setBool, List.map_cons]
    by_cases hmem : market ∈ markets.map (·.marketToken)
    · rw [if_pos hmem, if_pos (List.mem_cons_of_mem _ hmem)]
    · rw [if_neg hmem]
      by_cases hfirst : market = first.marketToken
      · rw [if_pos hfirst, if_pos (List.mem_cons.mpr (Or.inl hfirst))]
      · rw [if_neg hfirst, if_neg fun hcons => (List.mem_cons.mp hcons).elim hfirst hmem]

-- ---------------------------------------------------------------------------
-- Paths
-- ---------------------------------------------------------------------------

/-- Walking a path: a chain of hops, which finds the flags of its markets clear and sets them. -/
theorem swapAlongPath_chain {markets : List Market} {tokenIn tokenOut : Address}
    {amountIn amountOut : Nat}
    (h : swapAlongPath env params markets tokenIn amountIn w = .ok ((tokenOut, amountOut), w')) :
    ∃ hops, Chain env params w w' tokenIn amountIn hops tokenOut amountOut ∧
      hops.map Hop.market = markets ∧ Moves (pathDelta hops) w w' ∧
      (markets.map (·.marketToken)).Nodup ∧
      (∀ market ∈ markets.map (·.marketToken), flag w market = false) ∧
      ∀ market, market ∉ markets.map (·.marketToken) → flag w' market = flag w market := by
  induction markets generalizing w tokenIn amountIn with
  | nil =>
    simp only [swapAlongPath, Tx.pure_eq_ok, Prod.mk.injEq] at h
    obtain ⟨⟨rfl, rfl⟩, rfl⟩ := h
    exact ⟨[], .nil _ _ _, rfl, Moves.refl w, List.nodup_nil, by simp, fun _ _ => rfl⟩
  | cons market nextMarkets ih =>
    unfold swapAlongPath at h
    simp only [↓readStore_bind_eq_ok, ↓Tx.lift_bind_eq_ok, ↓writeStore_bind_eq_ok,
      Result.revertIf_eq_ok, Bool.not_eq_true] at h
    obtain ⟨_, hclear, h⟩ := h
    obtain ⟨⟨tokenOut', amountOut'⟩, w₁, hhop, hrest⟩ := Tx.bind_eq_ok.mp h
    obtain ⟨hops, hchain, hmarkets, hmoves, hnodup, hflags, hkeep⟩ := ih hrest
    have hhopFlags : ∀ market', flag w₁ market' = if market' = market.marketToken then true
        else flag w market' := by
      intro market'
      rw [flag_of_sameOff (_swap_writes env (List.Subset.refl hopSlots) _ _ hhop) (by decide)]
      exact flag_setBool w market.marketToken market' true
    have hnext : market.marketToken ∉ nextMarkets.map (·.marketToken) := by
      intro hmem
      have hfalse := hflags _ hmem
      rw [hhopFlags, if_pos rfl] at hfalse
      exact absurd hfalse (by decide)
    let hop : Hop :=
      ⟨market, tokenIn, amountIn, tokenOut', amountOut', nextReceiver params hops⟩
    have hexecuted : hop.Executed env params (visit w market.marketToken) w₁ := by
      refine ⟨_, rfl, rfl, rfl, ?_, hhop⟩
      rw [← hmarkets]
      cases hops <;> rfl
    refine ⟨hop :: hops, .cons hexecuted rfl hchain, ?_, ?_, ?_, ?_, ?_⟩
    · rw [List.map_cons, hmarkets]
    · have hset : Moves 0 w { w with
          dataStore := w.dataStore.setBool (Keys.swapPathMarketFlagKey market.marketToken) true } :=
        Moves.of_writes (a := ()) (setSwapPathMarketFlag_writes _ true) (by decide)
          (writeStore_eq_ok.mpr rfl)
      refine ((hset.trans (_swap_moves hhop).1).trans hmoves).cast ?_
      rw [zero_add, pathDelta_cons]
      rfl
    · exact List.nodup_cons.mpr ⟨hnext, hnodup⟩
    · intro market' hmem
      rcases List.mem_cons.mp hmem with rfl | hmem
      · exact hclear
      · have hfalse := hflags market' hmem
        have hne : market' ≠ market.marketToken := fun heq => hnext (heq ▸ hmem)
        rw [hhopFlags, if_neg hne] at hfalse
        exact hfalse
    · intro market' hmem
      rw [List.map_cons, List.mem_cons, not_or] at hmem
      rw [hkeep market' hmem.2, hhopFlags, if_neg hmem.1]

/-- **A swap is a chain of hops.** With an amount to swap it visits the markets of its path, each
once; the books move by what the hops receive and pay, and no flag is set that was not before. -/
theorem swap_chain {output : Address × Nat} (h : swap env params w = .ok (output, w')) :
    ∃ hops, Walk env params hops output w w' ∧
      (hops.map (·.market.marketToken)).Nodup ∧ Moves (pathDelta hops) w w' ∧
      ∀ market, flag w' market = true → flag w market = true := by
  have hswap := h
  unfold swap at h
  split at h
  case isTrue hzero =>
    obtain ⟨rfl, rfl⟩ := Tx.pure_eq_ok.mp h
    refine ⟨[], ⟨hswap, ?_, w, w, .refl _ _, .nil _ _ _, .refl _ _⟩, List.nodup_nil, Moves.refl w,
      fun _ hflag => hflag⟩
    rw [if_pos hzero]
    rfl
  case isFalse hamount =>
    cases hpath : params.swapPathMarkets with
    | nil =>
      simp only [hpath, ↓Tx.lift_bind_eq_ok] at h
      obtain ⟨_, -, h⟩ := h
      obtain ⟨_, w₁, htransfer, h⟩ := Tx.bind_eq_ok.mp h
      obtain ⟨rfl, rfl⟩ := Tx.pure_eq_ok.mp h
      have hsame : World.SameOff [.tokens] w w₁ := Writes.ite
        (BankRef.transferOut_writes env (List.mem_singleton_self _) _ _ _ _ _) (.pure _) htransfer
      refine ⟨[], ⟨hswap, ?_, w₁, w₁, hsame, .nil _ _ _, .refl _ _⟩, List.nodup_nil,
        Moves.of_sameOff hsame (by decide), ?_⟩
      · rw [if_neg hamount, hpath]
        rfl
      · intro market hflag
        rw [← flag_of_sameOff hsame (by decide)]
        exact hflag
    | cons firstMarket nextMarkets =>
      simp only [hpath] at h
      obtain ⟨_, w₁, htransfer, h⟩ := Tx.bind_eq_ok.mp h
      obtain ⟨⟨token, amount⟩, w₂, hwalk, h⟩ := Tx.bind_eq_ok.mp h
      obtain ⟨_, w₃, hclears, h⟩ := Tx.bind_eq_ok.mp h
      simp only [↓Tx.lift_bind_eq_ok, Tx.pure_eq_ok] at h
      obtain ⟨_, -, rfl, rfl⟩ := h
      obtain ⟨hops, hchain, hmarkets, hmoves, hnodup, -, hkeep⟩ := swapAlongPath_chain hwalk
      have hsame : World.SameOff [.tokens] w w₁ := Writes.ite
        (BankRef.transferOut_writes env (List.mem_singleton_self _) _ _ _ _ _) (.pure _) htransfer
      have hcleared := forM_clears hclears
      have hsameCleared : World.SameOff [.constant .SWAP_PATH_MARKET_FLAG] w₂ w₃ :=
        Writes.forM (fun _ => setSwapPathMarketFlag_writes _ false) hclears
      have hclearMoves : Moves 0 w₂ w₃ := Moves.of_sameOff hsameCleared (by decide)
      refine ⟨hops, ⟨hswap, ?_, w₁, w₂, hsame, hchain, hsameCleared⟩, ?_, ?_, ?_⟩
      · rw [if_neg hamount, hpath, hmarkets]
      · rw [← hmarkets, List.map_map] at hnodup
        exact hnodup
      · refine (((Moves.of_sameOff hsame (by decide)).trans hmoves).trans hclearMoves).cast ?_
        rw [zero_add, add_zero]
      · intro market hflag
        rw [hcleared market] at hflag
        split at hflag
        · exact absurd hflag (by decide)
        · rename_i hmem
          rw [hkeep market hmem, flag_of_sameOff hsame (by decide)] at hflag
          exact hflag

end SwapUtils

end GmxSynthetics
