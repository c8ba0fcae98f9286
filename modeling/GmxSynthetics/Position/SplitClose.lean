import GmxSynthetics.Position.ImpactPnl
import GmxSynthetics.Position.PositionAccounting

/-!
# Closing a position in parts

A decrease closes tokens in proportion to its size, rounded up for a long and down for a short,
and realises the share of the pnl that these tokens have, rounded towards zero. What is left of
the position carries the rounding on.

* `ClosesPart` — one decrease, and what it leaves; `decreasePosition_closesPart` — the code's;
* `ClosesIn` — decreases at one price that end with the position removed;
* `ClosesPart.pnl_add_left_le` — a part realises no more than the position loses;
* `splitClose_le` — closing in parts gains nothing.
-/

namespace GmxSynthetics.PositionUtils

open Evm

-- ---------------------------------------------------------------------------
-- One part
-- ---------------------------------------------------------------------------

/-- One decrease of a position: the pnl and the tokens of the size that is closed, and the
position that is left. It is removed once its size or its tokens are used up. -/
structure ClosesPart (dataStore : DataStore) (market : Market) (prices : MarketPrices)
    (executionPrice : Nat) (position : Position) (sizeDeltaUsd : Nat) (positionPnlUsd : Int)
    (sizeDeltaInTokens : Nat) (next : Option Position) : Prop where
  pnl : getPositionPnlUsd dataStore market prices position executionPrice sizeDeltaUsd =
    .ok (positionPnlUsd, sizeDeltaInTokens)
  size_le : sizeDeltaUsd ≤ position.sizeInUsd
  tokens_le : sizeDeltaInTokens ≤ position.sizeInTokens
  removed : next = none ↔ position.sizeInUsd - sizeDeltaUsd = 0 ∨
    position.sizeInTokens - sizeDeltaInTokens = 0
  left : ∀ p, next = some p → p.isLong = position.isLong ∧
    p.sizeInUsd = position.sizeInUsd - sizeDeltaUsd ∧
    p.sizeInTokens = position.sizeInTokens - sizeDeltaInTokens

variable {dataStore : DataStore} {market : Market} {prices : MarketPrices}
  {position : Position} {executionPrice sizeDeltaUsd sizeDeltaInTokens : Nat}
  {positionPnlUsd : Int}

/-- The tokens closed cost at least the size closed for a long, and at most that for a short. -/
theorem getSizeDeltaInTokens_cost
    (h : getSizeDeltaInTokens position sizeDeltaUsd = .ok sizeDeltaInTokens) :
    if position.isLong then
      position.sizeInTokens * sizeDeltaUsd ≤ position.sizeInUsd * sizeDeltaInTokens
    else position.sizeInUsd * sizeDeltaInTokens ≤ position.sizeInTokens * sizeDeltaUsd := by
  unfold getSizeDeltaInTokens at h
  split at h
  · rename_i hfull
    obtain rfl := Result.pure_eq_ok.mp h
    rw [← hfull, Nat.mul_comm]
    split <;> exact le_refl _
  · split at h
    · rename_i hlong
      simp only [Result.bind_eq_ok, mul_eq_ok] at h
      obtain ⟨_, ⟨-, rfl⟩, h⟩ := h
      obtain ⟨hpos, rfl⟩ := Calc.roundUpDivision_eq_ok h
      have hceil := Rounding.le_mul_ceil hpos (position.sizeInTokens * sizeDeltaUsd)
      rw [← Nat.add_sub_assoc hpos] at hceil
      rw [if_pos hlong]
      exact hceil
    · rename_i hshort
      simp only [Result.bind_eq_ok, mul_eq_ok, div_eq_ok] at h
      obtain ⟨_, ⟨-, rfl⟩, -, rfl⟩ := h
      rw [if_neg hshort]
      exact Nat.mul_div_le _ _

/-- The pnl of all tokens is that of the position. -/
theorem realizedPnl_all (htokens : 0 < position.sizeInTokens) (price : Nat) :
    realizedPnl position position.sizeInTokens price = totalPnl position price :=
  Int.mul_tdiv_cancel _ (by omega)

/-- A part realises no more than its tokens are worth less the size closed, or the reverse. -/
theorem realizedPnl_le (htokens : 0 < position.sizeInTokens)
    (hcost : if position.isLong then
        position.sizeInTokens * sizeDeltaUsd ≤ position.sizeInUsd * sizeDeltaInTokens
      else position.sizeInUsd * sizeDeltaInTokens ≤ position.sizeInTokens * sizeDeltaUsd)
    (price : Nat) :
    realizedPnl position sizeDeltaInTokens price ≤
      if position.isLong then (price * sizeDeltaInTokens : Int) - sizeDeltaUsd
      else sizeDeltaUsd - (price * sizeDeltaInTokens : Int) := by
  unfold realizedPnl totalPnl
  have htokens' : (0 : Int) < position.sizeInTokens := by omega
  split at hcost
  · rename_i hlong
    rw [if_pos hlong, if_pos hlong]
    have hcost' : (position.sizeInTokens * sizeDeltaUsd : Int) ≤
        position.sizeInUsd * sizeDeltaInTokens := by exact_mod_cast hcost
    refine Rounding.tdiv_le_of_le_mul htokens' ?_
    push_cast
    linarith
  · rename_i hshort
    rw [if_neg hshort, if_neg hshort]
    have hcost' : (position.sizeInUsd * sizeDeltaInTokens : Int) ≤
        position.sizeInTokens * sizeDeltaUsd := by exact_mod_cast hcost
    refine Rounding.tdiv_le_of_le_mul htokens' ?_
    push_cast
    linarith

namespace ClosesPart

/-- A part that removes the position closes all of its tokens. -/
theorem closes_all (h : ClosesPart dataStore market prices executionPrice position sizeDeltaUsd
    positionPnlUsd sizeDeltaInTokens none)
    (huncapped : Uncapped dataStore market prices position executionPrice) :
    sizeDeltaInTokens = position.sizeInTokens ∧
      positionPnlUsd = totalPnl position executionPrice := by
  obtain ⟨htokens, hpos, hpnl⟩ := getPositionPnlUsd_eq_ok huncapped h.pnl
  have hall : sizeDeltaInTokens = position.sizeInTokens := by
    have hsize := h.size_le
    have hle := h.tokens_le
    rcases h.removed.mp rfl with hnone | hnone
    · have hfull : sizeDeltaUsd = position.sizeInUsd := by omega
      rw [hfull] at htokens
      exact getSizeDeltaInTokens_of_full htokens
    · omega
  refine ⟨hall, ?_⟩
  rw [hpnl, hall]
  exact realizedPnl_all hpos executionPrice

/-- A part realises no more than the position loses. -/
theorem pnl_add_left_le {next : Position}
    (h : ClosesPart dataStore market prices executionPrice position sizeDeltaUsd positionPnlUsd
      sizeDeltaInTokens (some next))
    (huncapped : Uncapped dataStore market prices position executionPrice) :
    positionPnlUsd + totalPnl next executionPrice ≤ totalPnl position executionPrice := by
  obtain ⟨htokens, hpos, rfl⟩ := getPositionPnlUsd_eq_ok huncapped h.pnl
  obtain ⟨hside, hsize, hleft⟩ := h.left next rfl
  have hrealized :=
    realizedPnl_le hpos (getSizeDeltaInTokens_cost htokens) executionPrice
  have hsizes : (next.sizeInUsd : Int) = position.sizeInUsd - sizeDeltaUsd := by
    rw [hsize, Nat.cast_sub h.size_le]
  have htokensLeft : (next.sizeInTokens : Int) = position.sizeInTokens - sizeDeltaInTokens := by
    rw [hleft, Nat.cast_sub h.tokens_le]
  have hworth : ((next.sizeInTokens * executionPrice : Nat) : Int) =
      (position.sizeInTokens * executionPrice : Nat) - executionPrice * sizeDeltaInTokens := by
    rw [Nat.cast_mul, Nat.cast_mul, htokensLeft, Int.sub_mul, Int.mul_comm executionPrice]
  unfold totalPnl
  rw [hside, hsizes, hworth]
  split at hrealized
  · rename_i hlong
    rw [if_pos hlong, if_pos hlong]
    omega
  · rename_i hshort
    rw [if_neg hshort, if_neg hshort]
    omega

end ClosesPart

end GmxSynthetics.PositionUtils

namespace GmxSynthetics.DecreasePositionUtils

open Evm PositionUtils PositionPricingUtils DecreasePositionCollateralUtils

variable {env : Env} {w w' : World} {params : UpdatePositionParams}
  {result : DecreasePositionResult × PositionFees}

/-- What `finishDecrease` writes after the position has been stored or removed. -/
def settledSlots : List Slot :=
  .constant .COLLATERAL_SUM :: .constant .AFFILIATE_REWARD :: openInterestSlots ++ swapSlots

/-- A decrease subtracts what it closes, and removes the position once its size or its tokens are
used up. -/
theorem finishDecrease_left {prices : MarketPrices} {values : DecreasePositionCollateralValues}
    {fees : PositionFees} (hkey : params.positionKey.slot = .position)
    (h : finishDecrease env params prices values fees w = .ok (result, w')) :
    ∃ next, params.order.sizeDeltaUsd ≤ params.position.sizeInUsd ∧
      values.sizeDeltaInTokens ≤ params.position.sizeInTokens ∧
      (next = none ↔ params.position.sizeInUsd - params.order.sizeDeltaUsd = 0 ∨
        params.position.sizeInTokens - values.sizeDeltaInTokens = 0) ∧
      ∀ p, next = some p → p.isLong = params.position.isLong ∧
        p.sizeInUsd = params.position.sizeInUsd - params.order.sizeDeltaUsd ∧
        p.sizeInTokens = params.position.sizeInTokens - values.sizeDeltaInTokens ∧
        PositionStoreUtils.get w'.dataStore params.positionKey = p := by
  obtain ⟨run⟩ := finishDecrease_run h
  obtain ⟨next, hstore, -, -, -, hremoved, hstored⟩ := closeOrStore_stores hkey run.closing
  have h₁ : World.SameOff settledSlots run.closed run.lowered :=
    run.sameOff_lowered (by decide) (by decide)
  have h₂ : World.SameOff settledSlots run.lowered run.referred :=
    run.sameOff_referred (by decide) (by decide) (by decide)
  have h₃ : World.SameOff settledSlots run.referred w' :=
    DecreasePositionSwapUtils.swapWithdrawnCollateralToPnlToken_writes env (by decide) _ _
      run.swapping
  have hkeep : PositionStoreUtils.get w'.dataStore params.positionKey =
      PositionStoreUtils.get run.closed.dataStore params.positionKey :=
    positionStore.get_sameOff ((h₁.trans h₂).trans h₃) (by decide) (by rw [hkey]; decide)
  refine ⟨next, run.size_le, run.tokens_le, ⟨hremoved, ?_⟩, ?_⟩
  · intro hnone
    cases next with
    | none => rfl
    | some p =>
      obtain ⟨-, -, -, -, -, hsizeLeft, htokensLeft⟩ := hstored p rfl
      exact absurd hnone (not_or.mpr ⟨hsizeLeft, htokensLeft⟩)
  · intro p hp
    obtain ⟨hgroup, -, hsizeLeft, htokensLeft, -⟩ := hstored p hp
    exact ⟨congrArg (·.isLong) hgroup, hsizeLeft, htokensLeft, hkeep.trans (hstore.stored p hp)⟩

/-- A decrease closes a part of its position, at the execution price of its order. -/
theorem decreasePosition_closesPart (hkey : params.positionKey.slot = .position)
    (h : decreasePosition env params w = .ok (result, w')) :
    ∃ adjusted prices w₁ executionPrice priceImpactAmount priceImpactDiffUsd positionPnlUsd
      sizeDeltaInTokens next,
      prepareDecrease env params w = .ok ((adjusted, prices), w₁) ∧
      getExecutionPrice env w₁.dataStore adjusted prices adjusted.order.sizeDeltaUsd =
        .ok (executionPrice, priceImpactAmount, priceImpactDiffUsd) ∧
      ClosesPart w₁.dataStore params.market prices executionPrice params.position
        adjusted.order.sizeDeltaUsd positionPnlUsd sizeDeltaInTokens next ∧
      ∀ p, next = some p → PositionStoreUtils.get w'.dataStore params.positionKey = p := by
  obtain ⟨run⟩ := decreasePosition_run h
  obtain ⟨⟨priceImpactAmount, priceImpactDiffUsd, hprice⟩, hpnl⟩ :=
    processCollateral_pnl run.charging
  have hkey' : ({ params with order := run.order } : UpdatePositionParams).positionKey.slot =
      .position := hkey
  obtain ⟨next, hsize, htokens, hremoved, hleft⟩ := finishDecrease_left hkey' run.finishing
  refine ⟨_, run.prices, run.updated, run.values.executionPrice, priceImpactAmount,
    priceImpactDiffUsd, run.values.positionPnlUsd, run.values.sizeDeltaInTokens, next,
    run.preparing, hprice, ⟨hpnl, hsize, htokens, hremoved, ?_⟩, ?_⟩
  · intro p hp
    obtain ⟨hside, hsizeLeft, htokensLeft, -⟩ := hleft p hp
    exact ⟨hside, hsizeLeft, htokensLeft⟩
  · intro p hp
    exact (hleft p hp).2.2.2

end GmxSynthetics.DecreasePositionUtils

namespace GmxSynthetics.PositionUtils

open Evm

variable {market : Market} {position : Position} {executionPrice : Nat}

-- ---------------------------------------------------------------------------
-- All parts
-- ---------------------------------------------------------------------------

/-- A position is closed at one price by decreases that end with its removal, none of which the
cap for traders binds: the pnl and the tokens of each. The state of the market may be another at
every decrease, and what else is stored in the position. -/
inductive ClosesIn (market : Market) (executionPrice : Nat) : Position → List (Int × Nat) → Prop
  | remove {dataStore : DataStore} {prices : MarketPrices} {position : Position}
      {sizeDeltaUsd sizeDeltaInTokens : Nat} {positionPnlUsd : Int}
      (huncapped : Uncapped dataStore market prices position executionPrice)
      (h : ClosesPart dataStore market prices executionPrice position sizeDeltaUsd
        positionPnlUsd sizeDeltaInTokens none) :
      ClosesIn market executionPrice position [(positionPnlUsd, sizeDeltaInTokens)]
  | decrease {dataStore : DataStore} {prices : MarketPrices} {position next : Position}
      {sizeDeltaUsd sizeDeltaInTokens : Nat} {positionPnlUsd : Int} {steps : List (Int × Nat)}
      (huncapped : Uncapped dataStore market prices position executionPrice)
      (h : ClosesPart dataStore market prices executionPrice position sizeDeltaUsd
        positionPnlUsd sizeDeltaInTokens (some next))
      (hrest : ClosesIn market executionPrice next steps) :
      ClosesIn market executionPrice position ((positionPnlUsd, sizeDeltaInTokens) :: steps)

namespace ClosesIn

variable {steps : List (Int × Nat)}

/-- The parts close all tokens. -/
theorem tokens_sum (h : ClosesIn market executionPrice position steps) :
    (steps.map Prod.snd).sum = position.sizeInTokens := by
  induction h with
  | remove huncapped h =>
    rw [List.map_singleton, List.sum_singleton]
    exact (h.closes_all huncapped).1
  | decrease huncapped h hrest ih =>
    obtain ⟨-, -, hleft⟩ := h.left _ rfl
    have hle := h.tokens_le
    rw [List.map_cons, List.sum_cons, ih]
    dsimp only
    omega

/-- The parts realise no more than the whole position. -/
theorem pnl_sum_le (h : ClosesIn market executionPrice position steps) :
    (steps.map Prod.fst).sum ≤ totalPnl position executionPrice := by
  induction h with
  | remove huncapped h =>
    rw [List.map_singleton, List.sum_singleton]
    exact (h.closes_all huncapped).2.le
  | decrease huncapped h hrest ih =>
    have hpart := h.pnl_add_left_le huncapped
    rw [List.map_cons, List.sum_cons]
    dsimp only
    omega

end ClosesIn

/-- **Closing in parts gains nothing.** The parts close the tokens of the position, and realise at
most what closing it at once does; a unit for each part is more than enough. -/
theorem splitClose_le {steps : List (Int × Nat)}
    (h : ClosesIn market executionPrice position steps) :
    (steps.map Prod.snd).sum = position.sizeInTokens ∧
      ∀ dataStore prices positionPnlUsd sizeDeltaInTokens,
        Uncapped dataStore market prices position executionPrice →
        getPositionPnlUsd dataStore market prices position executionPrice position.sizeInUsd =
          .ok (positionPnlUsd, sizeDeltaInTokens) →
        (steps.map Prod.fst).sum ≤ positionPnlUsd + steps.length := by
  refine ⟨h.tokens_sum, ?_⟩
  intro dataStore prices positionPnlUsd sizeDeltaInTokens huncapped hwhole
  obtain ⟨htokens, hpos, hpnl⟩ := getPositionPnlUsd_eq_ok huncapped hwhole
  obtain rfl := getSizeDeltaInTokens_of_full htokens
  rw [realizedPnl_all hpos] at hpnl
  have hsum := h.pnl_sum_le
  omega

/-- A long position of ten dollars in three tokens. -/
def threeTokens : Position :=
  { Position.empty with market := 1, sizeInUsd := 10, sizeInTokens := 3, isLong := true }

/-- At a price of four it gains two dollars at once. In halves it gains one, with the two tokens
that the first half closes, and loses one. -/
theorem splitClose_le_threeTokens :
    ∃ steps : List (Int × Nat), steps = [(1, 2), (-1, 1)] ∧
      (steps.map Prod.snd).sum = threeTokens.sizeInTokens ∧
      (steps.map Prod.fst).sum ≤ 2 + steps.length := by
  let prices : MarketPrices := ⟨⟨4, 4⟩, ⟨4, 4⟩, ⟨1, 1⟩⟩
  let oneToken : Position := { threeTokens with sizeInUsd := 5, sizeInTokens := 1 }
  have hfirst : ClosesPart DataStore.empty ⟨1, 2, 3, 4⟩ prices 4 threeTokens 5 1 2
      (some oneToken) := by
    refine ⟨by decide, by decide, by decide, by decide, ?_⟩
    rintro p ⟨⟩
    decide
  have hlast : ClosesPart DataStore.empty ⟨1, 2, 3, 4⟩ prices 4 oneToken 5 (-1) 1 none := by
    refine ⟨by decide, by decide, by decide, by decide, ?_⟩
    rintro p ⟨⟩
  have hcloses : ClosesIn ⟨1, 2, 3, 4⟩ 4 threeTokens [(1, 2), (-1, 1)] :=
    .decrease (by decide) hfirst (.remove (by decide) hlast)
  obtain ⟨htokens, hpnl⟩ := splitClose_le hcloses
  exact ⟨_, rfl, htokens, hpnl DataStore.empty prices 2 3 (by decide) (by decide)⟩

end GmxSynthetics.PositionUtils
