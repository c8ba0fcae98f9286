import GmxSynthetics.Position.FundingSettlement
import Mathlib.Algebra.BigOperators.Ring.Finset

/-!
# Funding covers what it pays

A funding update fixes an amount of each collateral token, spreads it over the open interest of
the side that pays, rounded up, and over that of the side that receives, rounded down. Positions
are settled at their size in whole units of `FLOAT_PRECISION_SQRT`.

* `FundingMove` — what an update does to the accumulators of a collateral token;
* `getNextFundingAmountPerSize_moves` — every update;
* `received_le`, `le_charged_add` — what each side settles, against the amount;
* `fundingSolvency` — what is credited is charged, up to the size that no unit covers;
* `fundingSolvency_shortfalls` — a position whose last half unit is not charged, and one whose
  accumulator is cut off.
-/

namespace GmxSynthetics

open Evm PositionPricingUtils

namespace FundingSolvency

open FundingSettlement MarketUtils

-- ---------------------------------------------------------------------------
-- The update
-- ---------------------------------------------------------------------------

/-- The units that the divisor of an update counts: whole ones, and the last one when part of it
is there. -/
def divisorUnits (openInterest : Nat) : Nat :=
  (openInterest + Precision.FLOAT_PRECISION_SQRT - 1) / Precision.FLOAT_PRECISION_SQRT

/-- How an update moves the accumulators of a collateral token: that of the side that pays, with
the open interest `paying` in this token, and that of the side that receives, with the open
interest `receiving` in both. An accumulator at the largest `int256` may have been cut off. -/
structure FundingMove (amount paying receiving : Nat)
    (paid paid' received received' : Int) : Prop where
  covers : paid' < intBound - 1 → paid ≤ paid' ∧
    (amount * Precision.FLOAT_PRECISION : Int) ≤ divisorUnits paying * (paid' - paid)
  within : divisorUnits receiving * (received - received') ≤
    (amount * Precision.FLOAT_PRECISION : Int)

theorem FundingMove.refl {paying receiving : Nat} (paid received : Int) :
    FundingMove 0 paying receiving paid paid received received where
  covers _ := by simp
  within := by simp

theorem divisor_eq_divisorUnits {openInterest divisor : Nat}
    (h : Calc.roundUpDivision openInterest Precision.FLOAT_PRECISION_SQRT = .ok divisor) :
    divisor = divisorUnits openInterest :=
  (Calc.roundUpDivision_eq_ok h).2

/-- Rounded up, the units of the divisor make up the amount. -/
theorem getFundingAmountPerSizeDelta_up {fundingAmount openInterest delta : Nat}
    (hempty : openInterest = 0 → fundingAmount = 0)
    (h : getFundingAmountPerSizeDelta fundingAmount openInterest true = .ok delta) :
    fundingAmount * Precision.FLOAT_PRECISION ≤ divisorUnits openInterest * delta := by
  unfold getFundingAmountPerSizeDelta at h
  split at h
  case isTrue hzero =>
    rw [hzero.elim id hempty, Nat.zero_mul]
    exact Nat.zero_le _
  case isFalse hpos =>
    simp only [Precision.toFactor, Result.bind_eq_ok, not_or.mp hpos, if_false, if_true] at h
    obtain ⟨divisor, hdivisor, h⟩ := h
    rw [← divisor_eq_divisorUnits hdivisor]
    obtain ⟨hne, rfl⟩ := mulDivUp_eq_ok h
    exact Rounding.le_mul_ceil (Nat.pos_of_ne_zero hne) _

/-- Rounded down, they stay within it. -/
theorem getFundingAmountPerSizeDelta_down {fundingAmount openInterest delta : Nat}
    (h : getFundingAmountPerSizeDelta fundingAmount openInterest false = .ok delta) :
    divisorUnits openInterest * delta ≤ fundingAmount * Precision.FLOAT_PRECISION := by
  unfold getFundingAmountPerSizeDelta at h
  split at h
  case isTrue hzero =>
    obtain rfl := Result.pure_eq_ok.mp h
    rw [Nat.mul_zero]
    exact Nat.zero_le _
  case isFalse hpos =>
    simp only [Precision.toFactor, Result.bind_eq_ok, not_or.mp hpos, if_false,
      Bool.false_eq_true] at h
    obtain ⟨divisor, hdivisor, h⟩ := h
    rw [← divisor_eq_divisorUnits hdivisor, (mulDiv_eq_ok.mp h).2.2]
    exact Nat.mul_div_le _ _

/-- A bounded sum is the sum, or the largest value. -/
theorem boundedAdd_eq_ok {a b c : Int} (hb : 0 ≤ b) (hc : c < intBound - 1)
    (h : Calc.boundedAdd a b = .ok c) : c = a + b := by
  unfold Calc.boundedAdd at h
  split_ifs at h
  · exact (addInt_eq_ok.mp h).2
  · omega
  · simp only [Result.bind_eq_ok, subInt_eq_ok] at h
    obtain ⟨_, ⟨-, rfl⟩, h⟩ := h
    split_ifs at h
    · obtain rfl := Result.pure_eq_ok.mp h
      omega
    · exact (addInt_eq_ok.mp h).2

/-- A bounded difference is the difference, or the smallest value. -/
theorem sub_le_boundedSub {a b c : Int} (hb : 0 ≤ b) (h : Calc.boundedSub a b = .ok c) :
    a - b ≤ c := by
  unfold Calc.boundedSub at h
  split_ifs at h
  · exact le_of_eq (subInt_eq_ok.mp h).2.symm
  · omega
  · simp only [Result.bind_eq_ok, negInt_eq_ok, subInt_eq_ok] at h
    obtain ⟨_, ⟨-, rfl⟩, _, ⟨-, rfl⟩, h⟩ := h
    split_ifs at h
    · obtain rfl := Result.pure_eq_ok.mp h
      omega
    · exact le_of_eq (subInt_eq_ok.mp h).2.symm

theorem move_of_deltas {amount paying receiving : Nat}
    {rise fall paid paid' received received' : Int}
    (hempty : paying = 0 → amount = 0)
    (hrise : signedFundingAmountPerSizeDelta amount paying true = .ok rise)
    (hfall : signedFundingAmountPerSizeDelta amount receiving false = .ok fall)
    (hpaid : Calc.boundedAdd paid rise = .ok paid')
    (hreceived : Calc.boundedSub received fall = .ok received') :
    FundingMove amount paying receiving paid paid' received received' := by
  simp only [signedFundingAmountPerSizeDelta, Result.bind_eq_ok, toInt256_eq_ok] at hrise hfall
  obtain ⟨rise, hrise, -, rfl⟩ := hrise
  obtain ⟨fall, hfall, -, rfl⟩ := hfall
  have hup := getFundingAmountPerSizeDelta_up hempty hrise
  have hdown := getFundingAmountPerSizeDelta_down hfall
  constructor
  case covers =>
    intro hbounded
    have hsum := boundedAdd_eq_ok (Int.natCast_nonneg _) hbounded hpaid
    refine ⟨by omega, ?_⟩
    rw [hsum, add_sub_cancel_left]
    exact_mod_cast hup
  case within =>
    have hle := sub_le_boundedSub (Int.natCast_nonneg _) hreceived
    calc (divisorUnits receiving : Int) * (received - received')
        ≤ divisorUnits receiving * fall :=
          mul_le_mul_of_nonneg_left (by omega) (Int.natCast_nonneg _)
      _ ≤ amount * Precision.FLOAT_PRECISION := by exact_mod_cast hdown

/-- Without open interest in a token, none of it is to be paid. -/
theorem fundingAmount_zero {fundingUsd openInterest total usd price : Nat}
    (h : Precision.applyFraction fundingUsd openInterest total = .ok usd)
    (hzero : openInterest = 0) : usd / price = 0 := by
  unfold Precision.applyFraction at h
  rw [(mulDiv_eq_ok.mp h).2.2, hzero, Nat.mul_zero, Nat.zero_div, Nat.zero_div]

/-- The market's token of a kind. -/
def collateralOf (market : Market) (ofLongToken : Bool) : Address :=
  if ofLongToken then market.longToken else market.shortToken

/-- The accumulator of a collateral token and side after an update. -/
def nextAccumulator (result : GetNextFundingAmountPerSizeResult) : (ofLongToken isLong : Bool) → Int
  | true, true => result.fundingAmountPerSize_LongCollateral_LongPosition
  | true, false => result.fundingAmountPerSize_LongCollateral_ShortPosition
  | false, true => result.fundingAmountPerSize_ShortCollateral_LongPosition
  | false, false => result.fundingAmountPerSize_ShortCollateral_ShortPosition

/-- The open interest that an update counts for a collateral token and side. -/
def countedOpenInterest (dataStore : DataStore) (market : Market) (token : Address)
    (isLong : Bool) : Nat :=
  getOpenInterestForCollateral dataStore market.marketToken token isLong
    (getPoolDivisor market.longToken market.shortToken)

/-- What an update does to the accumulators of one of the market's tokens. -/
def TokenMoves (dataStore : DataStore) (market : Market)
    (result : GetNextFundingAmountPerSizeResult) (ofLongToken : Bool) : Prop :=
  let token := collateralOf market ofLongToken
  let pays := result.longsPayShorts
  ∃ amount, FundingMove amount (countedOpenInterest dataStore market token pays)
    (countedOpenInterest dataStore market market.longToken (!pays) +
      countedOpenInterest dataStore market market.shortToken (!pays))
    (getFundingAmountPerSize dataStore market.marketToken token pays)
    (nextAccumulator result ofLongToken pays)
    (getFundingAmountPerSize dataStore market.marketToken token (!pays))
    (nextAccumulator result ofLongToken (!pays))

theorem getNextFundingAmountPerSize_moves {env : Env} {dataStore : DataStore} {market : Market}
    {prices : MarketPrices} {result : GetNextFundingAmountPerSizeResult}
    (h : getNextFundingAmountPerSize env dataStore market prices = .ok result)
    (ofLongToken : Bool) : TokenMoves dataStore market result ofLongToken := by
  simp only [getNextFundingAmountPerSize, Result.bind_eq_ok, add_eq_ok] at h
  obtain ⟨_, ⟨-, rfl⟩, _, ⟨-, rfl⟩, h⟩ := h
  split at h
  case isTrue hempty =>
    obtain rfl := Result.pure_eq_ok.mp h
    cases ofLongToken with
    | true => exact ⟨0, FundingMove.refl _ _⟩
    | false => exact ⟨0, FundingMove.refl _ _⟩
  case isFalse hopen =>
    simp only [Result.bind_eq_ok, add_eq_ok] at h
    obtain ⟨_, -, _, ⟨-, rfl⟩, factor, -, _, -, fundingUsd, -, h⟩ := h
    split at h
    case isTrue hlongs =>
      simp only [Result.bind_eq_ok, div_eq_ok, Result.pure_eq_ok] at h
      obtain ⟨_, husdLong, _, husdShort, _, ⟨-, rfl⟩, _, ⟨-, rfl⟩, _, hriseLong, _, hriseShort,
        _, hfallLong, _, hfallShort, _, hpaidLong, _, hpaidShort, _, hreceivedLong,
        _, hreceivedShort, rfl⟩ := h
      cases ofLongToken with
      | true =>
        exact ⟨_, move_of_deltas (fundingAmount_zero husdLong) hriseLong hfallLong hpaidLong
          hreceivedLong⟩
      | false =>
        exact ⟨_, move_of_deltas (fundingAmount_zero husdShort) hriseShort hfallShort hpaidShort
          hreceivedShort⟩
    case isFalse hshorts =>
      simp only [Result.bind_eq_ok, div_eq_ok, Result.pure_eq_ok] at h
      obtain ⟨_, husdLong, _, husdShort, _, ⟨-, rfl⟩, _, ⟨-, rfl⟩, _, hriseLong, _, hriseShort,
        _, hfallLong, _, hfallShort, _, hpaidLong, _, hpaidShort, _, hreceivedLong,
        _, hreceivedShort, rfl⟩ := h
      cases ofLongToken with
      | true =>
        exact ⟨_, move_of_deltas (fundingAmount_zero husdLong) hriseLong hfallLong hpaidLong
          hreceivedLong⟩
      | false =>
        exact ⟨_, move_of_deltas (fundingAmount_zero husdShort) hriseShort hfallShort hpaidShort
          hreceivedShort⟩

-- ---------------------------------------------------------------------------
-- The settlements
-- ---------------------------------------------------------------------------

/-- The whole units of a position's size, which is what it is settled at. -/
def wholeUnits (position : Position) : Nat :=
  position.sizeInUsd / Precision.FLOAT_PRECISION_SQRT

theorem share_eq_wholeUnits (position : Position) (fall : Int) :
    share position.sizeInUsd fall = fall * wholeUnits position / Precision.FLOAT_PRECISION := by
  rw [share, mul_comm]
  rfl

section Sums

variable {settlements : List (Position × PositionFundingFees)}

/-- Whole units of parts are no more than the units that the divisor counts for the sum. -/
theorem sum_wholeUnits_le (settlements : List (Position × PositionFundingFees)) :
    (settlements.map (wholeUnits ·.1)).sum ≤
      divisorUnits (settlements.map (·.1.sizeInUsd)).sum := by
  have hsum := Rounding.sum_mul_div_le settlements (·.1.sizeInUsd) (fun _ => 1) 1
    Precision.FLOAT_PRECISION_SQRT fun _ _ => le_rfl
  simp only [Nat.mul_one] at hsum
  calc (settlements.map (wholeUnits ·.1)).sum
      ≤ (settlements.map (·.1.sizeInUsd)).sum / Precision.FLOAT_PRECISION_SQRT := hsum
    _ ≤ divisorUnits (settlements.map (·.1.sizeInUsd)).sum := by
      unfold divisorUnits
      have hunit : 1 ≤ Precision.FLOAT_PRECISION_SQRT := by decide
      exact Nat.div_le_div_right (by omega)

/-- Sizes of whole units leave nothing to the divisor. -/
theorem sum_wholeUnits_eq
    (hwhole : ∀ s ∈ settlements, Precision.FLOAT_PRECISION_SQRT ∣ s.1.sizeInUsd) :
    (settlements.map (wholeUnits ·.1)).sum =
      divisorUnits (settlements.map (·.1.sizeInUsd)).sum := by
  have hunit : 0 < Precision.FLOAT_PRECISION_SQRT := by decide
  have hsum : (settlements.map (·.1.sizeInUsd)).sum =
      (settlements.map (wholeUnits ·.1)).sum * Precision.FLOAT_PRECISION_SQRT := by
    rw [← List.sum_map_mul_right]
    congr 1
    exact List.map_congr_left fun s hs => (Nat.div_mul_cancel (hwhole s hs)).symm
  rw [divisorUnits, hsum, Nat.add_sub_assoc hunit, Nat.mul_comm, Nat.mul_add_div hunit,
    Nat.div_eq_of_lt (by omega), Nat.add_zero]

/-- The floors of the shares of a fall add up to no more than the share of the whole units. -/
theorem sum_share_le (settlements : List (Position × PositionFundingFees)) (fall : Int) :
    (settlements.map fun s => share s.1.sizeInUsd fall).sum ≤
      fall * ((settlements.map (wholeUnits ·.1)).sum : Nat) / Precision.FLOAT_PRECISION := by
  have hsum := (Rounding.sum_mul_ediv_bounds (by decide : (0 : Int) < Precision.FLOAT_PRECISION)
    fall (settlements.map fun s => (wholeUnits s.1 : Int))).1
  rw [List.map_map] at hsum
  have hcast : (settlements.map fun s => (wholeUnits s.1 : Int)).sum =
      ((settlements.map (wholeUnits ·.1)).sum : Nat) := by
    rw [Nat.cast_list_sum, List.map_map]
    rfl
  rw [hcast] at hsum
  refine le_of_eq_of_le (congrArg List.sum (List.map_congr_left fun s _ => ?_)) hsum
  exact share_eq_wholeUnits s.1 fall

/-- The side that receives is credited no more than the amount. -/
theorem received_le {amount units : Nat} {fall : Int}
    (hunits : (settlements.map (wholeUnits ·.1)).sum ≤ units)
    (hwithin : units * fall ≤ (amount * Precision.FLOAT_PRECISION : Int)) :
    (settlements.map fun s => max 0 (share s.1.sizeInUsd fall)).sum ≤ amount := by
  have hprecision : (0 : Int) < Precision.FLOAT_PRECISION := by decide
  rcases le_total fall 0 with hrise | hfall
  · have hzero : ∀ s : Position × PositionFundingFees,
        max 0 (share s.1.sizeInUsd fall) = 0 := fun _ => max_eq_left (share_nonpos hrise)
    have hsum : (settlements.map fun s => max 0 (share s.1.sizeInUsd fall)).sum = 0 := by
      simp [hzero]
    rw [hsum]
    exact Int.natCast_nonneg _
  · have hshare : ∀ s : Position × PositionFundingFees,
        max 0 (share s.1.sizeInUsd fall) = share s.1.sizeInUsd fall :=
      fun _ => max_eq_right (share_nonneg hfall)
    simp only [hshare]
    refine (sum_share_le settlements fall).trans (Int.ediv_le_of_le_mul hprecision ?_)
    calc fall * ((settlements.map (wholeUnits ·.1)).sum : Nat) ≤ fall * units :=
          mul_le_mul_of_nonneg_left (by exact_mod_cast hunits) hfall
      _ ≤ amount * Precision.FLOAT_PRECISION := by
        rw [mul_comm]
        exact hwithin

/-- The side that pays is charged the amount, but for the units that no position has. -/
theorem le_charged_add {amount units : Nat} {rise : Int} (hrise : 0 ≤ rise)
    (hunits : (settlements.map (wholeUnits ·.1)).sum ≤ units)
    (hcovers : (amount * Precision.FLOAT_PRECISION : Int) ≤ units * rise) :
    (amount : Int) ≤ (settlements.map fun s => max 0 (-share s.1.sizeInUsd (-rise))).sum +
      (units - (settlements.map (wholeUnits ·.1)).sum : Nat) * rise /
        Precision.FLOAT_PRECISION := by
  have hprecision : (0 : Int) < Precision.FLOAT_PRECISION := by decide
  have hcharge : ∀ s : Position × PositionFundingFees,
      max 0 (-share s.1.sizeInUsd (-rise)) = -share s.1.sizeInUsd (-rise) := by
    intro s
    have hnonpos : share s.1.sizeInUsd (-rise) ≤ 0 := share_nonpos (by omega)
    exact max_eq_right (by omega)
  have hneg : (settlements.map fun s => -share s.1.sizeInUsd (-rise)).sum =
      -(settlements.map fun s => share s.1.sizeInUsd (-rise)).sum := by
    rw [List.sum_neg, List.map_map]
    rfl
  simp only [hcharge]
  rw [hneg]
  have hparts : (amount * Precision.FLOAT_PRECISION : Int) ≤
      rise * ((settlements.map (wholeUnits ·.1)).sum : Nat) +
        (units - (settlements.map (wholeUnits ·.1)).sum : Nat) * rise := by
    rw [Nat.cast_sub hunits, mul_comm rise, ← add_mul, add_sub_cancel]
    exact hcovers
  have hcovered := Rounding.le_ceil_add_floor hprecision hparts
  rw [← neg_mul] at hcovered
  have hsum := sum_share_le settlements (-rise)
  linarith

end Sums

-- ---------------------------------------------------------------------------
-- Solvency
-- ---------------------------------------------------------------------------

/-- What a settlement credits in a token. -/
def claimableAmount (market : Market) (fees : PositionFundingFees) (token : Address) : Nat :=
  if token = market.longToken then fees.claimableLongTokenAmount
  else fees.claimableShortTokenAmount

/-- Positions that are settled after a funding update, each with its fees. They carry the
accumulators from before the update, and make up the open interest that it counted. -/
structure SettledAfter (market : Market) (before after : DataStore)
    (settlements : List (Position × PositionFundingFees)) : Prop where
  stamped : ∀ s ∈ settlements, ∀ token, token = market.longToken ∨ token = market.shortToken →
    stored market s.1 token = latest market s.1.isLong token before
  settled : ∀ s ∈ settlements, ∃ position, settle market s.1 after = .ok (s.2, position)
  collateral : ∀ s ∈ settlements,
    s.1.collateralToken = market.longToken ∨ s.1.collateralToken = market.shortToken
  openInterest : ∀ token, token = market.longToken ∨ token = market.shortToken → ∀ isLong,
    ((settlements.filter fun s => s.1.isLong = isLong ∧ s.1.collateralToken = token).map
      (·.1.sizeInUsd)).sum = countedOpenInterest before market token isLong

/-- The settlements of the positions of a side with a collateral token. -/
def settledIn (settlements : List (Position × PositionFundingFees)) (isLong : Bool)
    (token : Address) : List (Position × PositionFundingFees) :=
  settlements.filter fun s => s.1.isLong = isLong ∧ s.1.collateralToken = token

section Settlement

variable {market : Market} {position position' : Position} {dataStore : DataStore}
  {fees : PositionFundingFees} {token : Address}
  (h : settle market position dataStore = .ok (fees, position'))

include h

theorem settle_claimable (htoken : token = market.longToken ∨ token = market.shortToken) :
    (claimableAmount market fees token : Int) = max 0 (share position.sizeInUsd
      (stored market position token - latest market position.isLong token dataStore)) := by
  simp only [settle, getFundingFees, Result.bind_eq_ok, Result.pure_eq_ok, Prod.mk.injEq] at h
  obtain ⟨_, ⟨longFee, hlong, shortFee, hshort, claimableLong, hclaimLong, claimableShort,
    hclaimShort, rfl⟩, rfl, -⟩ := h
  unfold claimableAmount stored
  split
  case isTrue heq =>
    rw [claimable_eq_ok hclaimLong, getFundingFeeAmount_eq_ok hlong, neg_neg, heq]
    rfl
  case isFalse heq =>
    rw [claimable_eq_ok hclaimShort, getFundingFeeAmount_eq_ok hshort, neg_neg,
      htoken.resolve_left heq]
    rfl

theorem settle_charged (hne : market.longToken ≠ market.shortToken)
    (hcollateral : position.collateralToken = token)
    (htoken : token = market.longToken ∨ token = market.shortToken) :
    (fees.fundingFeeAmount : Int) = max 0 (-share position.sizeInUsd
      (stored market position token - latest market position.isLong token dataStore)) := by
  simp only [settle, getFundingFees, Result.bind_eq_ok, Result.pure_eq_ok, Prod.mk.injEq] at h
  obtain ⟨_, ⟨longFee, hlong, shortFee, hshort, claimableLong, hclaimLong, claimableShort,
    hclaimShort, rfl⟩, rfl, -⟩ := h
  have hlong' := getFundingFeeAmount_eq_ok hlong
  have hshort' := getFundingFeeAmount_eq_ok hshort
  unfold stored latest
  rcases htoken with rfl | rfl
  · rw [if_pos rfl, ← hlong']
    simp only [hcollateral, hne, false_and, if_false, true_and]
    split_ifs <;> omega
  · rw [if_neg hne.symm, ← hshort']
    simp only [hcollateral, hne.symm, false_and, if_false, true_and]
    split_ifs <;> omega

end Settlement

/-- An update stores the accumulators that it computes. -/
theorem updateFundingAmountPerSize_latest {env : Env} {market : Market} {prices : MarketPrices}
    {result : GetNextFundingAmountPerSizeResult} {w w' : World}
    (hne : market.longToken ≠ market.shortToken)
    (hnext : getNextFundingAmountPerSize env w.dataStore market prices = .ok result)
    (hupdate : updateFundingAmountPerSize env market prices w = .ok ((), w'))
    (ofLongToken isLong : Bool) :
    latest market isLong (collateralOf market ofLongToken) w'.dataStore =
      nextAccumulator result ofLongToken isLong := by
  unfold updateFundingAmountPerSize at hupdate
  simp only [↓viewStore_bind_eq_ok, setFundingAmountPerSize, ↓writeStore_bind_eq_ok,
    writeStore_eq_ok] at hupdate
  obtain ⟨_, hresult, -, rfl⟩ := hupdate
  obtain rfl := Except.ok.inj (hnext.symm.trans hresult)
  cases ofLongToken <;> cases isLong <;>
    simp [latest, getFundingAmountPerSize, DataStore.getInt, DataStore.setInt, DataStore.setUint,
      Keys.fundingAmountPerSizeKey, hne, collateralOf, nextAccumulator]

/-- The sizes of a side add up to its open interest in both tokens. -/
theorem SettledAfter.sum_side {market : Market} {before after : DataStore}
    {settlements : List (Position × PositionFundingFees)}
    (h : SettledAfter market before after settlements)
    (hne : market.longToken ≠ market.shortToken) (isLong : Bool) :
    ((settlements.filter fun s => s.1.isLong = isLong).map (·.1.sizeInUsd)).sum =
      countedOpenInterest before market market.longToken isLong +
        countedOpenInterest before market market.shortToken isLong := by
  rw [← h.openInterest _ (Or.inl rfl), ← h.openInterest _ (Or.inr rfl)]
  have hcollateral := h.collateral
  clear h
  induction settlements with
  | nil => rfl
  | cons s settlements ih =>
    have hrest := ih fun s' hmem => hcollateral s' (List.mem_cons_of_mem s hmem)
    simp only [List.filter_cons, decide_eq_true_eq]
    by_cases hside : s.1.isLong = isLong
    · rcases hcollateral s List.mem_cons_self with hlong | hshort
      · simp only [hside, hlong, hne, and_true, and_false, if_true, if_false, List.map_cons,
          List.sum_cons]
        omega
      · simp only [hside, hshort, hne.symm, and_true, and_false, if_true, if_false, List.map_cons,
          List.sum_cons]
        omega
    · simp only [hside, false_and, if_false]
      exact hrest

section Sides

variable {market : Market} {before after : DataStore}
  {settlements : List (Position × PositionFundingFees)} {token : Address} {isLong : Bool}
  {amount : Nat} (h : SettledAfter market before after settlements)
  (htoken : token = market.longToken ∨ token = market.shortToken)

include h htoken

/-- What a side is credited stays within the amount that is spread over its open interest. -/
theorem SettledAfter.received_le (hne : market.longToken ≠ market.shortToken)
    (hwithin : divisorUnits (countedOpenInterest before market market.longToken isLong +
        countedOpenInterest before market market.shortToken isLong) *
        (latest market isLong token before - latest market isLong token after) ≤
      (amount * Precision.FLOAT_PRECISION : Int)) :
    ((((settlements.filter fun s => s.1.isLong = isLong).map
      fun s => claimableAmount market s.2 token).sum : Nat) : Int) ≤ amount := by
  rw [← h.sum_side hne] at hwithin
  have hle := FundingSolvency.received_le (sum_wholeUnits_le _) hwithin
  rw [Nat.cast_list_sum, List.map_map]
  refine le_of_eq_of_le (congrArg List.sum (List.map_congr_left fun s hs => ?_)) hle
  obtain ⟨hmem, hside⟩ := List.mem_filter.mp hs
  obtain ⟨position, hsettle⟩ := h.settled s hmem
  have hclaimable := settle_claimable hsettle htoken
  rw [h.stamped s hmem token htoken, of_decide_eq_true hside] at hclaimable
  exact hclaimable

/-- What a side is charged makes up the amount that is spread over its open interest, but for the
units that its positions have only part of. -/
theorem SettledAfter.le_charged (hne : market.longToken ≠ market.shortToken)
    (hrise : latest market isLong token before ≤ latest market isLong token after)
    (hcovers : (amount * Precision.FLOAT_PRECISION : Int) ≤
      divisorUnits (countedOpenInterest before market token isLong) *
        (latest market isLong token after - latest market isLong token before)) :
    (amount : Int) ≤
      (((settledIn settlements isLong token).map (·.2.fundingFeeAmount)).sum : Nat) +
        (divisorUnits ((settledIn settlements isLong token).map (·.1.sizeInUsd)).sum -
          ((settledIn settlements isLong token).map (wholeUnits ·.1)).sum : Nat) *
        (latest market isLong token after - latest market isLong token before) /
          Precision.FLOAT_PRECISION := by
  rw [← h.openInterest token htoken isLong] at hcovers
  have hle := le_charged_add (by omega) (sum_wholeUnits_le _) hcovers
  rw [Nat.cast_list_sum, List.map_map]
  refine hle.trans (le_of_eq (congrArg (· + _) (congrArg List.sum (List.map_congr_left ?_))))
  intro s hs
  obtain ⟨hmem, hside⟩ := List.mem_filter.mp hs
  obtain ⟨hlong, hcollateral⟩ := of_decide_eq_true hside
  obtain ⟨position, hsettle⟩ := h.settled s hmem
  have hcharged := settle_charged hsettle hne hcollateral htoken
  rw [h.stamped s hmem token htoken, hlong] at hcharged
  rw [Function.comp_apply, hcharged, neg_sub]

end Sides

/-- **Funding is covered.** After an update, the side that receives is credited no more of a token
than the side that pays is charged in it and would be charged for the units that its positions
have only part of; no more than it is charged when their sizes are whole units. -/
theorem fundingSolvency {env : Env} {market : Market} {prices : MarketPrices}
    {result : GetNextFundingAmountPerSizeResult} {w w' : World}
    {settlements : List (Position × PositionFundingFees)} {token : Address}
    (hne : market.longToken ≠ market.shortToken)
    (hnext : getNextFundingAmountPerSize env w.dataStore market prices = .ok result)
    (hupdate : updateFundingAmountPerSize env market prices w = .ok ((), w'))
    (hsettled : SettledAfter market w.dataStore w'.dataStore settlements)
    (htoken : token = market.longToken ∨ token = market.shortToken)
    (hbounded : latest market result.longsPayShorts token w'.dataStore < intBound - 1) :
    let payers := settledIn settlements result.longsPayShorts token
    let received := ((settlements.filter fun s => s.1.isLong = !result.longsPayShorts).map
      fun s => claimableAmount market s.2 token).sum
    let charged := (payers.map (·.2.fundingFeeAmount)).sum
    let uncharged := divisorUnits (payers.map (·.1.sizeInUsd)).sum -
      (payers.map (wholeUnits ·.1)).sum
    let rise := latest market result.longsPayShorts token w'.dataStore -
      latest market result.longsPayShorts token w.dataStore
    (received : Int) ≤ charged + uncharged * rise / Precision.FLOAT_PRECISION ∧
      ((∀ s ∈ payers, Precision.FLOAT_PRECISION_SQRT ∣ s.1.sizeInUsd) → received ≤ charged) := by
  intro payers received charged uncharged rise
  obtain ⟨ofLongToken, rfl⟩ : ∃ ofLongToken, token = collateralOf market ofLongToken :=
    htoken.elim (fun h => ⟨true, h⟩) fun h => ⟨false, h⟩
  have hlatest := updateFundingAmountPerSize_latest hne hnext hupdate ofLongToken
  obtain ⟨amount, hmove⟩ := getNextFundingAmountPerSize_moves hnext ofLongToken
  rw [← hlatest, ← hlatest] at hmove
  obtain ⟨hrise, hcovers⟩ := hmove.covers hbounded
  have hreceived : (received : Int) ≤ amount :=
    hsettled.received_le htoken hne hmove.within
  have hcharged : (amount : Int) ≤ charged + uncharged * rise / Precision.FLOAT_PRECISION :=
    hsettled.le_charged htoken hne hrise hcovers
  refine ⟨hreceived.trans hcharged, ?_⟩
  intro hwhole
  have hzero : uncharged = 0 :=
    Nat.sub_eq_zero_of_le (ge_of_eq (sum_wholeUnits_eq hwhole))
  rw [hzero, Nat.cast_zero, zero_mul, Int.zero_ediv, add_zero] at hcharged
  exact_mod_cast hreceived.trans hcharged

-- ---------------------------------------------------------------------------
-- Whole and partial units
-- ---------------------------------------------------------------------------

/-- An update and settlements in which a token is credited that nobody is charged. -/
structure Shortfall (env : Env) (market : Market) (prices : MarketPrices)
    (result : GetNextFundingAmountPerSizeResult) (w w' : World)
    (settlements : List (Position × PositionFundingFees)) (token : Address) : Prop where
  tokens_ne : market.longToken ≠ market.shortToken
  next : getNextFundingAmountPerSize env w.dataStore market prices = .ok result
  update : updateFundingAmountPerSize env market prices w = .ok ((), w')
  settled : SettledAfter market w.dataStore w'.dataStore settlements
  token_mem : token = market.longToken ∨ token = market.shortToken
  exceeds : ((settledIn settlements result.longsPayShorts token).map (·.2.fundingFeeAmount)).sum <
    ((settlements.filter fun s => s.1.isLong = !result.longsPayShorts).map
      fun s => claimableAmount market s.2 token).sum

section Sample

/-- A market with index token 2, long token 3 and short token 4: a long of the given size with
long collateral, whose accumulator is given, and a short of half a million dollars with short
collateral. -/
def solvencyWorld (size : Nat) (accumulator : Int) : World where
  dataStore :=
    let dataStore := DataStore.empty.setUint (Keys.openInterestKey 1 3 true) size
    let dataStore := dataStore.setUint (Keys.openInterestKey 1 4 false) (5 * 10 ^ 35)
    let dataStore := dataStore.setUint (Keys.fundingFactorKey 1) (10 ^ 27)
    let dataStore := dataStore.setUint (Keys.fundingExponentFactorKey 1) (10 ^ 30)
    let dataStore := dataStore.setUint (Keys.fundingUpdatedAtKey 1) 1000
    dataStore.setInt (Keys.fundingAmountPerSizeKey 1 3 true) accumulator
  balances _ _ := 0
  totalSupply _ := 0
  tokenBalances _ _ := 0

def solvencyMarket : Market := ⟨1, 2, 3, 4⟩

def longPosition (size : Nat) (accumulator : Int) : Position :=
  { Position.empty with
    account := 8
    market := 1
    collateralToken := 3
    sizeInUsd := size
    longTokenFundingAmountPerSize := accumulator
    isLong := true }

def shortPosition : Position :=
  { Position.empty with
    account := 9, market := 1, collateralToken := 4, sizeInUsd := 5 * 10 ^ 35 }

def solvencyEnv : Env := Env.plain 1010 fun _ => ⟨10 ^ 12, 10 ^ 12⟩

/-- Both tokens at one dollar for `10 ^ 18` units. -/
def solvencyPrices : MarketPrices :=
  ⟨⟨10 ^ 12, 10 ^ 12⟩, ⟨10 ^ 12, 10 ^ 12⟩, ⟨10 ^ 12, 10 ^ 12⟩⟩

theorem solvencyWorld_settled {size : Nat} {accumulator : Int} {w' : World}
    {longFees shortFees : PositionFundingFees} {long short : Position}
    (hlong : settle solvencyMarket (longPosition size accumulator) w'.dataStore =
      .ok (longFees, long))
    (hshort : settle solvencyMarket shortPosition w'.dataStore = .ok (shortFees, short)) :
    SettledAfter solvencyMarket (solvencyWorld size accumulator).dataStore w'.dataStore
      [(longPosition size accumulator, longFees), (shortPosition, shortFees)] := by
  constructor
  case stamped =>
    intro s hs token htoken
    simp only [List.mem_cons, List.not_mem_nil, or_false] at hs
    rcases hs with rfl | rfl <;> rcases htoken with rfl | rfl <;> rfl
  case settled =>
    intro s hs
    simp only [List.mem_cons, List.not_mem_nil, or_false] at hs
    rcases hs with rfl | rfl
    · exact ⟨long, hlong⟩
    · exact ⟨short, hshort⟩
  case collateral =>
    intro s hs
    simp only [List.mem_cons, List.not_mem_nil, or_false] at hs
    rcases hs with rfl | rfl
    · exact Or.inl rfl
    · exact Or.inr rfl
  case openInterest =>
    intro token htoken isLong
    rcases htoken with rfl | rfl <;> cases isLong <;>
      simp [countedOpenInterest, getOpenInterestForCollateral, getPoolDivisor, solvencyMarket,
        solvencyWorld, longPosition, shortPosition, DataStore.getUint, DataStore.setUint,
        DataStore.setInt, Keys.openInterestKey, Keys.fundingFactorKey,
        Keys.fundingExponentFactorKey, Keys.fundingUpdatedAtKey] <;> rfl

/-- The update and the two settlements, and what they come to. -/
def SolvencyRun (size : Nat) (accumulator : Int)
    (p : Int → PositionFundingFees → PositionFundingFees → Prop) : Prop :=
  Result.Satisfies (getNextFundingAmountPerSize solvencyEnv
      (solvencyWorld size accumulator).dataStore solvencyMarket solvencyPrices) fun result =>
    result.longsPayShorts = true ∧
    Result.Satisfies (updateFundingAmountPerSize solvencyEnv solvencyMarket solvencyPrices
      (solvencyWorld size accumulator)) fun updated =>
    Result.Satisfies (settle solvencyMarket (longPosition size accumulator)
      updated.2.dataStore) fun long =>
    Result.Satisfies (settle solvencyMarket shortPosition updated.2.dataStore) fun short =>
      p (latest solvencyMarket true 3 updated.2.dataStore) long.1 short.1

theorem SolvencyRun.exists {size : Nat} {accumulator : Int}
    {p : Int → PositionFundingFees → PositionFundingFees → Prop}
    (h : SolvencyRun size accumulator p) :
    ∃ (result : GetNextFundingAmountPerSizeResult) (w' : World)
      (longFees shortFees : PositionFundingFees),
      getNextFundingAmountPerSize solvencyEnv (solvencyWorld size accumulator).dataStore
        solvencyMarket solvencyPrices = .ok result ∧
      result.longsPayShorts = true ∧
      updateFundingAmountPerSize solvencyEnv solvencyMarket solvencyPrices
        (solvencyWorld size accumulator) = .ok ((), w') ∧
      SettledAfter solvencyMarket (solvencyWorld size accumulator).dataStore w'.dataStore
        [(longPosition size accumulator, longFees), (shortPosition, shortFees)] ∧
      p (latest solvencyMarket true 3 w'.dataStore) longFees shortFees := by
  obtain ⟨result, hnext, hlongs, h⟩ := Result.Satisfies.exists h
  obtain ⟨⟨_, w'⟩, hupdate, h⟩ := h.exists
  obtain ⟨⟨longFees, long⟩, hlong, h⟩ := h.exists
  obtain ⟨⟨shortFees, short⟩, hshort, h⟩ := h.exists
  exact ⟨result, w', longFees, shortFees, hnext, hlongs, hupdate,
    solvencyWorld_settled hlong hshort, h⟩

/-- Sizes of whole units, for which all that is credited is charged. -/
theorem fundingSolvency_wholeUnits :
    ∃ (w' : World) (longFees shortFees : PositionFundingFees),
      updateFundingAmountPerSize solvencyEnv solvencyMarket solvencyPrices
        (solvencyWorld (10 ^ 36) 0) = .ok ((), w') ∧
      0 < shortFees.claimableLongTokenAmount ∧
      shortFees.claimableLongTokenAmount ≤ longFees.fundingFeeAmount := by
  have hrun : SolvencyRun (10 ^ 36) 0 fun accumulator _ shortFees =>
      0 < shortFees.claimableLongTokenAmount ∧ accumulator < intBound - 1 := by
    unfold SolvencyRun
    decide +kernel
  obtain ⟨result, w', longFees, shortFees, hnext, hlongs, hupdate, hsettled, hpositive,
    hbounded⟩ := hrun.exists
  have htoken : (3 : Address) = solvencyMarket.longToken ∨ 3 = solvencyMarket.shortToken :=
    Or.inl rfl
  have hcovered := (fundingSolvency (by decide) hnext hupdate hsettled htoken
    (by rw [hlongs]; exact hbounded)).2
  rw [hlongs] at hcovered
  refine ⟨w', longFees, shortFees, hupdate, hpositive, hcovered ?_⟩
  intro s hs
  obtain rfl : s = (longPosition (10 ^ 36) 0, longFees) := List.mem_singleton.mp hs
  show Precision.FLOAT_PRECISION_SQRT ∣ 10 ^ 36
  decide

/-- A long whose last half unit counts in the divisor and is not charged; and one whose accumulator
is cut off at the largest value. -/
theorem fundingSolvency_shortfalls :
    (∃ env market prices result w w' settlements token,
      Shortfall env market prices result w w' settlements token ∧
        latest market result.longsPayShorts token w'.dataStore < intBound - 1) ∧
    ∃ env market prices result w w' settlements token,
      Shortfall env market prices result w w' settlements token ∧
        ∀ s ∈ settlements, Precision.FLOAT_PRECISION_SQRT ∣ s.1.sizeInUsd := by
  constructor
  · have hrun : SolvencyRun (10 ^ 36 + 5 * 10 ^ 14) 0 fun accumulator longFees shortFees =>
        longFees.fundingFeeAmount < shortFees.claimableLongTokenAmount ∧
          accumulator < intBound - 1 := by
      unfold SolvencyRun
      decide +kernel
    obtain ⟨result, w', longFees, shortFees, hnext, hlongs, hupdate, hsettled, hless,
      hbounded⟩ := hrun.exists
    refine ⟨_, _, _, result, _, w', _, 3, ⟨by decide, hnext, hupdate, hsettled, Or.inl rfl, ?_⟩, ?_⟩
    · rw [hlongs]
      exact hless
    · rw [hlongs]
      exact hbounded
  · have hrun : SolvencyRun (10 ^ 36) (intBound - 2) fun _ longFees shortFees =>
        longFees.fundingFeeAmount < shortFees.claimableLongTokenAmount := by
      unfold SolvencyRun
      decide +kernel
    obtain ⟨result, w', longFees, shortFees, hnext, hlongs, hupdate, hsettled, hless⟩ :=
      hrun.exists
    refine ⟨_, _, _, result, _, w', _, 3, ⟨by decide, hnext, hupdate, hsettled, Or.inl rfl, ?_⟩, ?_⟩
    · rw [hlongs]
      exact hless
    · intro s hs
      simp only [List.mem_cons, List.not_mem_nil, or_false] at hs
      rcases hs with rfl | rfl
      · show Precision.FLOAT_PRECISION_SQRT ∣ 10 ^ 36
        decide
      · show Precision.FLOAT_PRECISION_SQRT ∣ 5 * 10 ^ 35
        decide

end Sample

end FundingSolvency

end GmxSynthetics
