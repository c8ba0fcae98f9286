import GmxSynthetics.Evm.Rounding
import GmxSynthetics.Pricing.PositionPricing
import Mathlib.Algebra.Order.BigOperators.Group.List

/-!
# Settling funding once or often

A position is settled whenever it is updated: what it receives is credited, what it owes is
charged, and it is stamped with the current accumulators. Between two settlements a position
only sees the sum of what the accumulators moved, while a settlement drops what is owed in the
token that is not the collateral.

* `getFundingFeeAmount_eq_ok` — the amount owed is one ceiling;
* `settle_net` — what one settlement credits less what it charges;
* `settleOnce_eq_settleOften` — when the two runs agree.
-/

namespace GmxSynthetics

open Evm PositionPricingUtils

namespace FundingSettlement

-- ---------------------------------------------------------------------------
-- Settlements
-- ---------------------------------------------------------------------------

/-- The funding part of a position update: the fees at the accumulators of the store, and the
position stamped with them. -/
def settle (market : Market) (position : Position) (dataStore : DataStore) :
    Result (PositionFundingFees × Position) := do
  let fees ← getFundingFees position market.longToken market.shortToken
    (MarketUtils.getFundingAmountPerSize dataStore market.marketToken market.longToken
      position.isLong)
    (MarketUtils.getFundingAmountPerSize dataStore market.marketToken market.shortToken
      position.isLong)
  pure (fees, { position with
    longTokenFundingAmountPerSize := fees.latestLongTokenFundingAmountPerSize
    shortTokenFundingAmountPerSize := fees.latestShortTokenFundingAmountPerSize })

/-- The funding fees of a position update are those of a settlement. -/
theorem getPositionFees_settles {env : Env} {dataStore : DataStore} {market : Market}
    {params : GetPositionFeesParams} {fees : PositionFees}
    (hmarket : params.position.market = market.marketToken)
    (hlong : params.longToken = market.longToken) (hshort : params.shortToken = market.shortToken)
    (h : getPositionFees env dataStore params = .ok fees) :
    ∃ settled, settle market params.position dataStore = .ok (fees.funding, settled) := by
  simp only [getPositionFees, Result.bind_eq_ok, Result.pure_eq_ok] at h
  obtain ⟨_, -, _, -, _, -, _, -, _, -, _, -, funding, hfunding, h⟩ := h
  obtain ⟨_, -, _, -, _, -, _, -, _, -, h⟩ := h
  obtain rfl := h
  rw [hmarket, hlong, hshort] at hfunding
  exact ⟨_, Result.bind_eq_ok.mpr ⟨funding, hfunding, rfl⟩⟩

/-- What a settlement credits less what it charges in a token. -/
def net (market : Market) (position : Position) (fees : PositionFundingFees) (token : Address) :
    Int :=
  (if token = market.longToken then (fees.claimableLongTokenAmount : Int) else 0) +
    (if token = market.shortToken then (fees.claimableShortTokenAmount : Int) else 0) -
    if token = position.collateralToken then (fees.fundingFeeAmount : Int) else 0

/-- The total of settling at each of the stores in turn. -/
def total (market : Market) (token : Address) : Position → List DataStore → Result Int
  | _, [] => pure 0
  | position, dataStore :: dataStores => do
    let (fees, settled) ← settle market position dataStore
    let rest ← total market token settled dataStores
    pure (net market position fees token + rest)

-- ---------------------------------------------------------------------------
-- Runs of funding updates
-- ---------------------------------------------------------------------------

/-- The accumulators of a market agree. -/
def SameFunding (market : Market) (w w' : World) : Prop :=
  ∀ token isLong, MarketUtils.getFundingAmountPerSize w'.dataStore market.marketToken token isLong =
    MarketUtils.getFundingAmountPerSize w.dataStore market.marketToken token isLong

/-- A sequence of funding updates of a market, each in a block of its own, with anything that
leaves the accumulators alone between them. It lists the store after each update. -/
inductive FundingRun (market : Market) : World → List DataStore → Prop where
  | nil (w : World) : FundingRun market w []
  | cons {w w₁ w₂ : World} {dataStores : List DataStore} (env : Env) (prices : MarketPrices)
      (between : SameFunding market w w₁)
      (update : MarketUtils.updateFundingAmountPerSize env market prices w₁ = .ok ((), w₂))
      (rest : FundingRun market w₂ dataStores) :
      FundingRun market w (w₂.dataStore :: dataStores)

-- ---------------------------------------------------------------------------
-- One settlement
-- ---------------------------------------------------------------------------

/-- What a position of the given size receives when an accumulator falls by `fall`, rounded
down; negative when it rises. -/
def share (sizeInUsd : Nat) (fall : Int) : Int :=
  (sizeInUsd / Precision.FLOAT_PRECISION_SQRT : Nat) * fall / Precision.FLOAT_PRECISION

/-- A rounded up magnitude is a ceiling, and a truncated negative quotient is one as well. -/
theorem ceil_of_fundingQuotient {numerator amount : Int}
    (h : (if numerator = 0 then pure 0
      else if numerator < 0 then do
        divInt numerator (← toInt256 Precision.FLOAT_PRECISION)
      else Calc.roundUpMagnitudeDivision numerator Precision.FLOAT_PRECISION : Result Int) =
        .ok amount) :
    amount = -(-numerator / Precision.FLOAT_PRECISION) := by
  have hprecision : (0 : Int) < Precision.FLOAT_PRECISION := by decide
  split at h
  · rename_i hzero
    obtain rfl := Result.pure_eq_ok.mp h
    rw [hzero, neg_zero, Int.zero_ediv, neg_zero]
  · split at h
    · rename_i hnegative
      simp only [Result.bind_eq_ok, toInt256_eq_ok, divInt_eq_ok] at h
      obtain ⟨_, ⟨-, rfl⟩, -, -, rfl⟩ := h
      rw [← Int.tdiv_eq_ediv_of_nonneg (by omega), Int.neg_tdiv, neg_neg]
    · rename_i hzero hnegative
      unfold Calc.roundUpMagnitudeDivision at h
      rw [if_neg hnegative] at h
      simp only [Result.bind_eq_ok, toInt256_eq_ok, addInt_eq_ok, subInt_eq_ok, divInt_eq_ok] at h
      obtain ⟨_, ⟨-, rfl⟩, _, ⟨-, rfl⟩, _, ⟨-, rfl⟩, _, ⟨-, rfl⟩, -, -, rfl⟩ := h
      rw [Int.tdiv_eq_ediv_of_nonneg (by omega), Rounding.ceil_ediv_eq hprecision]

/-- The two roundings of `getFundingFeeAmount` are one: towards what the position loses. -/
theorem getFundingFeeAmount_eq_ok {latest stored amount : Int} {sizeInUsd : Nat}
    (h : MarketUtils.getFundingFeeAmount latest stored sizeInUsd = .ok amount) :
    amount = -share sizeInUsd (stored - latest) := by
  simp only [MarketUtils.getFundingFeeAmount, Result.bind_eq_ok, subInt_eq_ok, toInt256_eq_ok,
    mulInt_eq_ok] at h
  obtain ⟨_, ⟨-, rfl⟩, _, ⟨-, rfl⟩, _, ⟨-, rfl⟩, h⟩ := h
  unfold share
  rw [ceil_of_fundingQuotient h, ← mul_neg, neg_sub]

/-- The accumulator value that a position is stamped with. -/
def stored (market : Market) (position : Position) (token : Address) : Int :=
  if token = market.longToken then position.longTokenFundingAmountPerSize
  else position.shortTokenFundingAmountPerSize

/-- The accumulator that the positions of a side follow. -/
def latest (market : Market) (isLong : Bool) (token : Address) (dataStore : DataStore) : Int :=
  MarketUtils.getFundingAmountPerSize dataStore market.marketToken token isLong

/-- The position stamped with the accumulators of a store. -/
def stamp (market : Market) (position : Position) (dataStore : DataStore) : Position :=
  { position with
    longTokenFundingAmountPerSize := latest market position.isLong market.longToken dataStore
    shortTokenFundingAmountPerSize := latest market position.isLong market.shortToken dataStore }

theorem stored_stamp {market : Market} {position : Position} {dataStore : DataStore}
    {token : Address} (htoken : token = market.longToken ∨ token = market.shortToken) :
    stored market (stamp market position dataStore) token =
      latest market position.isLong token dataStore := by
  unfold stored
  split
  · rename_i hlong
    rw [hlong]
    rfl
  · rename_i hlong
    rw [htoken.resolve_left hlong]
    rfl

/-- What a fall of the accumulator is worth to the position in a token. In the collateral token it
receives or pays its share, in the other token it only receives; in a market of one token it
receives twice. -/
def worth (market : Market) (position : Position) (token : Address) (fall : Int) : Int :=
  if market.longToken = market.shortToken then
    2 * max 0 (share position.sizeInUsd fall) -
      if token = position.collateralToken then max 0 (-share position.sizeInUsd fall) else 0
  else if token = position.collateralToken then share position.sizeInUsd fall
  else max 0 (share position.sizeInUsd fall)

/-- A market of one token has one accumulator a side, so that both stamps of a position agree. -/
def SameStamps (market : Market) (position : Position) : Prop :=
  market.longToken = market.shortToken →
    position.longTokenFundingAmountPerSize = position.shortTokenFundingAmountPerSize

/-- A negative fee is what can be claimed. -/
theorem claimable_eq_ok {fee : Int} {claimable : Nat}
    (h : (if fee < 0 then do toUint256 (← negInt fee) else pure 0 : Result Nat) =
      .ok claimable) : (claimable : Int) = max 0 (-fee) := by
  split at h
  · simp only [Result.bind_eq_ok, negInt_eq_ok, toUint256_eq_ok] at h
    obtain ⟨_, ⟨-, rfl⟩, hclaimable⟩ := h
    omega
  · obtain rfl := Result.pure_eq_ok.mp h
    omega

section Settle

variable {market : Market} {position settled : Position} {dataStore : DataStore}
  {fees : PositionFundingFees} (h : settle market position dataStore = .ok (fees, settled))

include h

/-- A settlement stamps the position and changes nothing else of it. -/
theorem settle_stamps : settled = stamp market position dataStore := by
  simp only [settle, getFundingFees, Result.bind_eq_ok, Result.pure_eq_ok, Prod.mk.injEq] at h
  obtain ⟨_, ⟨_, -, _, -, _, -, _, -, rfl⟩, -, rfl⟩ := h
  rfl

/-- A settlement is worth what the accumulator has moved since the position was stamped. -/
theorem settle_net (hstamps : SameStamps market position) {token : Address}
    (htoken : token = market.longToken ∨ token = market.shortToken) :
    net market position fees token =
      worth market position token (stored market position token -
        latest market position.isLong token dataStore) := by
  simp only [settle, getFundingFees, Result.bind_eq_ok, Result.pure_eq_ok, Prod.mk.injEq] at h
  obtain ⟨_, ⟨longFee, hlong, shortFee, hshort, claimableLong, hclaimLong, claimableShort,
    hclaimShort, rfl⟩, rfl, -⟩ := h
  have hlong' := getFundingFeeAmount_eq_ok hlong
  have hshort' := getFundingFeeAmount_eq_ok hshort
  have hclaimLong' := claimable_eq_ok hclaimLong
  have hclaimShort' := claimable_eq_ok hclaimShort
  by_cases hmarket : market.longToken = market.shortToken
  · -- both accumulators are one, and so are the two fees
    have htoken' : token = market.longToken := htoken.elim id fun h => h.trans hmarket.symm
    subst htoken'
    have hshare : share position.sizeInUsd (stored market position market.longToken -
        latest market position.isLong market.longToken dataStore) = -longFee := by
      rw [hlong', neg_neg]
      simp only [stored, latest, if_true]
    have hfees : shortFee = longFee := by rw [hlong', hshort', hstamps hmarket, hmarket]
    rw [worth, hshare, if_pos hmarket]
    subst hfees
    by_cases hcollateral : market.longToken = position.collateralToken
    · simp only [net, hclaimLong', hclaimShort', ← hcollateral, ← hmarket, if_true, true_and]
      split_ifs <;> omega
    · simp only [net, hclaimLong', hclaimShort', hcollateral, ← hmarket, if_true, if_false]
      omega
  rw [worth, if_neg hmarket]
  rcases htoken with rfl | rfl
  · have hshare : share position.sizeInUsd (stored market position market.longToken -
        latest market position.isLong market.longToken dataStore) = -longFee := by
      rw [hlong', neg_neg]
      simp only [stored, latest, if_true]
    rw [hshare]
    by_cases hcollateral : market.longToken = position.collateralToken
    · simp only [net, hclaimLong', ← hcollateral, if_true, hmarket, false_and, if_false, true_and]
      split_ifs <;> omega
    · simp only [net, hclaimLong', hcollateral, if_true, hmarket, if_false]
      omega
  · have hmarket' : market.shortToken ≠ market.longToken := Ne.symm hmarket
    have hshare : share position.sizeInUsd (stored market position market.shortToken -
        latest market position.isLong market.shortToken dataStore) = -shortFee := by
      rw [hshort', neg_neg]
      simp only [stored, latest, if_neg hmarket']
    rw [hshare]
    by_cases hcollateral : market.shortToken = position.collateralToken
    · simp only [net, hclaimShort', ← hcollateral, if_true, hmarket', false_and, if_false,
        true_and]
      split_ifs <;> omega
    · simp only [net, hclaimShort', hcollateral, if_true, hmarket', if_false]
      omega

end Settle

-- ---------------------------------------------------------------------------
-- Settling once or often
-- ---------------------------------------------------------------------------

/-- By how much the accumulator falls from one store to the next, from a given value on. -/
def falls (market : Market) (isLong : Bool) (token : Address) : Int → List DataStore → List Int
  | _, [] => []
  | value, dataStore :: dataStores =>
    (value - latest market isLong token dataStore) ::
      falls market isLong token (latest market isLong token dataStore) dataStores

theorem falls_length (market : Market) (isLong : Bool) (token : Address) (value : Int)
    (dataStores : List DataStore) :
    (falls market isLong token value dataStores).length = dataStores.length := by
  induction dataStores generalizing value with
  | nil => rfl
  | cons dataStore dataStores ih =>
    simp only [falls, List.length_cons, ih]

/-- The falls add up to the fall from the first value to the last. -/
theorem falls_sum (market : Market) (isLong : Bool) (token : Address) (value : Int)
    {dataStores : List DataStore} (hne : dataStores ≠ []) :
    (falls market isLong token value dataStores).sum =
      value - latest market isLong token (dataStores.getLast hne) := by
  induction dataStores generalizing value with
  | nil => exact absurd rfl hne
  | cons dataStore dataStores ih =>
    cases dataStores with
    | nil => simp [falls]
    | cons next dataStores =>
      have hlast : (dataStore :: next :: dataStores).getLast hne =
          (next :: dataStores).getLast (List.cons_ne_nil _ _) := List.getLast_cons _
      rw [falls, List.sum_cons, ih _ (List.cons_ne_nil _ _), hlast]
      omega

/-- The total of a run is the worth of the falls, each rounded on its own. -/
theorem total_eq_ok {market : Market} {token : Address} {position : Position}
    {dataStores : List DataStore} {sum : Int} (hstamps : SameStamps market position)
    (htoken : token = market.longToken ∨ token = market.shortToken)
    (h : total market token position dataStores = .ok sum) :
    sum = ((falls market position.isLong token (stored market position token) dataStores).map
      (worth market position token)).sum := by
  induction dataStores generalizing position sum with
  | nil =>
    obtain rfl := Result.pure_eq_ok.mp h
    rfl
  | cons dataStore dataStores ih =>
    simp only [total, Result.bind_eq_ok, Result.pure_eq_ok] at h
    obtain ⟨⟨fees, settled⟩, hsettle, rest, hrest, rfl⟩ := h
    have hnet := settle_net hsettle hstamps htoken
    obtain rfl := settle_stamps hsettle
    have hvalue : stored market _ token = latest market position.isLong token dataStore :=
      stored_stamp htoken
    have hstamps' : SameStamps market (stamp market position dataStore) := by
      intro hmarket
      simp only [stamp, hmarket]
    rw [hnet, ih hstamps' hrest, hvalue]
    rfl

/-- The market's accumulators over a sequence of funding updates. -/
structure FundingHistory (market : Market) where
  start : World
  stores : List DataStore
  run : FundingRun market start stores

/-- The accumulator that the position follows in a token moves in one direction only: it never
falls, so that the position never receives, or it never rises, so that it never owes. -/
def MovesOneWay (market : Market) (position : Position) (token : Address)
    (dataStores : List DataStore) : Prop :=
  (∀ fall ∈ falls market position.isLong token (stored market position token) dataStores,
      fall ≤ 0) ∨
    ∀ fall ∈ falls market position.isLong token (stored market position token) dataStores,
      0 ≤ fall

/-- No settlement drops an amount that a later one would net, or credits an amount twice. -/
def SettlesAlike (market : Market) (position : Position) (token : Address)
    (dataStores : List DataStore) : Prop :=
  if market.longToken = market.shortToken then
    position.longTokenFundingAmountPerSize = position.shortTokenFundingAmountPerSize ∧
      ∀ fall ∈ falls market position.isLong token (stored market position token) dataStores,
        fall ≤ 0
  else token = position.collateralToken ∨ MovesOneWay market position token dataStores

theorem share_nonneg {sizeInUsd : Nat} {fall : Int} (h : 0 ≤ fall) : 0 ≤ share sizeInUsd fall :=
  Int.ediv_nonneg (mul_nonneg (Int.natCast_nonneg _) h) (by decide)

theorem share_nonpos {sizeInUsd : Nat} {fall : Int} (h : fall ≤ 0) : share sizeInUsd fall ≤ 0 := by
  have hnumerator := mul_nonpos_of_nonneg_of_nonpos
    (Int.natCast_nonneg (sizeInUsd / Precision.FLOAT_PRECISION_SQRT)) h
  exact Int.ediv_le_of_le_mul (by decide) (by omega)

/-- The shares of the parts of a fall add up to the share of the fall, up to one unit a part. -/
theorem sum_share_bounds (sizeInUsd : Nat) (ys : List Int) :
    (ys.map (share sizeInUsd)).sum ≤ share sizeInUsd ys.sum ∧
      share sizeInUsd ys.sum ≤ (ys.map (share sizeInUsd)).sum + ys.length :=
  Rounding.sum_mul_ediv_bounds (by decide) _ ys

/-- A worth that is a share on the parts and on the sum is additive up to one unit a part. -/
theorem sum_worth_bounds_of_share {market : Market} {position : Position} {token : Address}
    {ys : List Int} (hparts : ∀ y ∈ ys, worth market position token y = share position.sizeInUsd y)
    (hsum : worth market position token ys.sum = share position.sizeInUsd ys.sum) :
    |worth market position token ys.sum - (ys.map (worth market position token)).sum| ≤
      ys.length := by
  have hbounds := sum_share_bounds position.sizeInUsd ys
  rw [List.map_congr_left hparts, hsum, abs_le]
  omega

/-- Rises are worth nothing in a token that is not the collateral. -/
theorem sum_worth_bounds_of_zero {market : Market} {position : Position} {token : Address}
    {ys : List Int} (hrises : ∀ y ∈ ys, y ≤ 0)
    (hzero : ∀ y ≤ 0, worth market position token y = 0) :
    |worth market position token ys.sum - (ys.map (worth market position token)).sum| ≤
      ys.length := by
  have hsum : ys.sum ≤ 0 := by simpa using List.sum_le_card_nsmul ys 0 hrises
  rw [hzero _ hsum, List.map_congr_left fun y hy => hzero y (hrises y hy)]
  simp

/-- The worth of what the accumulator moves in all and of its parts, when they settle alike. -/
theorem sum_worth_bounds {market : Market} {position : Position} {token : Address} {ys : List Int}
    (halike : if market.longToken = market.shortToken then ∀ y ∈ ys, y ≤ 0
      else token = position.collateralToken ∨ (∀ y ∈ ys, y ≤ 0) ∨ ∀ y ∈ ys, 0 ≤ y) :
    |worth market position token ys.sum - (ys.map (worth market position token)).sum| ≤
      ys.length := by
  by_cases hmarket : market.longToken = market.shortToken
  · rw [if_pos hmarket] at halike
    by_cases hcollateral : token = position.collateralToken
    · have hshare : ∀ y ≤ 0, worth market position token y = share position.sizeInUsd y := by
        intro y hy
        have hnonpos : share position.sizeInUsd y ≤ 0 := share_nonpos hy
        rw [worth, if_pos hmarket, if_pos hcollateral]
        omega
      have hsum : ys.sum ≤ 0 := by simpa using List.sum_le_card_nsmul ys 0 halike
      exact sum_worth_bounds_of_share (fun y hy => hshare y (halike y hy)) (hshare _ hsum)
    · refine sum_worth_bounds_of_zero halike fun y hy => ?_
      rw [worth, if_pos hmarket, if_neg hcollateral, max_eq_left (share_nonpos hy)]
      rfl
  rw [if_neg hmarket] at halike
  by_cases hcollateral : token = position.collateralToken
  · have hshare : ∀ y, worth market position token y = share position.sizeInUsd y := by
      intro y
      rw [worth, if_neg hmarket, if_pos hcollateral]
    exact sum_worth_bounds_of_share (fun y _ => hshare y) (hshare _)
  have hworth : ∀ y, worth market position token y = max 0 (share position.sizeInUsd y) := by
    intro y
    rw [worth, if_neg hmarket, if_neg hcollateral]
  rcases halike.resolve_left hcollateral with hrises | hfalls
  · refine sum_worth_bounds_of_zero hrises fun y hy => ?_
    rw [hworth, max_eq_left (share_nonpos hy)]
  · have hshare : ∀ y, 0 ≤ y → worth market position token y = share position.sizeInUsd y := by
      intro y hy
      rw [hworth, max_eq_right (share_nonneg hy)]
    exact sum_worth_bounds_of_share (fun y hy => hshare y (hfalls y hy))
      (hshare _ (List.sum_nonneg hfalls))

/-- **Settling once or often.** The two runs agree up to one unit for each settlement, in a market
with two different tokens: in the collateral token always, and in the other token when its
accumulator moves in one direction only. -/
theorem settleOnce_eq_settleOften {market : Market} (history : FundingHistory market)
    (position : Position) (token : Address) (hne : history.stores ≠ [])
    (htoken : token = market.longToken ∨ token = market.shortToken)
    (halike : SettlesAlike market position token history.stores)
    {often once : Int} (hoften : total market token position history.stores = .ok often)
    (honce : total market token position [history.stores.getLast hne] = .ok once) :
    |once - often| ≤ history.stores.length := by
  have hstamps : SameStamps market position := by
    intro hmarket
    rw [SettlesAlike, if_pos hmarket] at halike
    exact halike.1
  rw [total_eq_ok hstamps htoken hoften, total_eq_ok hstamps htoken honce]
  have hfalls : if market.longToken = market.shortToken then
      ∀ y ∈ falls market position.isLong token (stored market position token) history.stores, y ≤ 0
      else token = position.collateralToken ∨
        MovesOneWay market position token history.stores := by
    unfold SettlesAlike at halike
    split_ifs at halike ⊢
    · exact halike.2
    · exact halike
  have hbound := sum_worth_bounds hfalls
  rw [falls_length, falls_sum market position.isLong token _ hne] at hbound
  simpa [falls] using hbound

-- ---------------------------------------------------------------------------
-- A change of direction
-- ---------------------------------------------------------------------------

section Sample

/-- A market with index token 2, long token 3 and short token 4, all at one dollar a unit: longs
of 300 dollars with long collateral, and shorts of 100 dollars with short collateral. -/
def fundingWorld : World where
  dataStore :=
    let dataStore := DataStore.empty.setUint (Keys.openInterestKey 1 3 true) (300 * 10 ^ 30)
    let dataStore := dataStore.setUint (Keys.openInterestKey 1 4 false) (100 * 10 ^ 30)
    let dataStore := dataStore.setUint (Keys.fundingFactorKey 1) (10 ^ 29)
    let dataStore := dataStore.setUint (Keys.fundingExponentFactorKey 1) (10 ^ 30)
    dataStore.setUint (Keys.fundingUpdatedAtKey 1) 1000
  balances _ _ := 0
  totalSupply _ := 0
  tokenBalances _ _ := 0

/-- Shorts with long collateral come in. -/
def withShorts (openInterest : Nat) (w : World) : World :=
  { w with dataStore := w.dataStore.setUint (Keys.openInterestKey 1 3 false) openInterest }

/-- The funding update of the market at a time. -/
def updateAt (timestamp : Nat) (w : World) : Evm.Result Errors (Unit × World) :=
  MarketUtils.updateFundingAmountPerSize (Env.plain timestamp fun _ => ⟨10 ^ 30, 10 ^ 30⟩)
    ⟨1, 2, 3, 4⟩ ⟨⟨10 ^ 30, 10 ^ 30⟩, ⟨10 ^ 30, 10 ^ 30⟩, ⟨10 ^ 30, 10 ^ 30⟩⟩ w

/-- The short position of 100 dollars. -/
def shortPosition : Position :=
  { Position.empty with
    account := 9, market := 1, collateralToken := 4, sizeInUsd := 100 * 10 ^ 30 }

theorem fundingRun_withShorts {w₁ w₂ : World} {openInterest : Nat}
    (h₁ : updateAt 1010 fundingWorld = .ok ((), w₁))
    (h₂ : updateAt 1020 (withShorts openInterest w₁) = .ok ((), w₂)) :
    FundingRun ⟨1, 2, 3, 4⟩ fundingWorld [w₁.dataStore, w₂.dataStore] := by
  have hbetween : SameFunding ⟨1, 2, 3, 4⟩ w₁ (withShorts openInterest w₁) := fun _ _ => rfl
  exact .cons _ _ (fun _ _ => rfl) h₁ (.cons _ _ hbetween h₂ (.nil w₂))

/-- Two updates in which longs pay, with what the position is credited in the long token. -/
theorem settleOnce_eq_settleOften_sample :
    ∃ (history : FundingHistory ⟨1, 2, 3, 4⟩) (hne : history.stores ≠ []) (often once : Int),
      total ⟨1, 2, 3, 4⟩ 3 shortPosition history.stores = .ok often ∧
      total ⟨1, 2, 3, 4⟩ 3 shortPosition [history.stores.getLast hne] = .ok once ∧
      0 < once ∧ |once - often| ≤ history.stores.length := by
  have hrun : Result.Satisfies (updateAt 1010 fundingWorld) fun first =>
      Result.Satisfies (updateAt 1020 (withShorts 0 first.2)) fun second =>
        Result.Satisfies
          (total ⟨1, 2, 3, 4⟩ 3 shortPosition [first.2.dataStore, second.2.dataStore])
          (fun _ => True) ∧
        Result.Satisfies (total ⟨1, 2, 3, 4⟩ 3 shortPosition [second.2.dataStore])
          (fun once => 0 < once) ∧
        ∀ fall ∈ falls ⟨1, 2, 3, 4⟩ false 3 (stored ⟨1, 2, 3, 4⟩ shortPosition 3)
          [first.2.dataStore, second.2.dataStore], 0 ≤ fall := by
    decide +kernel
  obtain ⟨⟨_, w₁⟩, h₁, hrun⟩ := hrun.exists
  obtain ⟨⟨_, w₂⟩, h₂, hoften, honce, hfalls⟩ := hrun.exists
  obtain ⟨often, hoften, -⟩ := hoften.exists
  obtain ⟨once, honce, hpositive⟩ := honce.exists
  have halike : SettlesAlike ⟨1, 2, 3, 4⟩ shortPosition 3 [w₁.dataStore, w₂.dataStore] :=
    Or.inr (Or.inr hfalls)
  exact ⟨⟨fundingWorld, _, fundingRun_withShorts h₁ h₂⟩, List.cons_ne_nil _ _, often, once,
    hoften, honce, hpositive, settleOnce_eq_settleOften
      ⟨fundingWorld, _, fundingRun_withShorts h₁ h₂⟩ shortPosition 3 (List.cons_ne_nil _ _)
      (Or.inl rfl) halike hoften honce⟩

/-- When shorts with long collateral come in and pay in the second update, what the position has
received in long tokens is cancelled: 150 tokens settled in two steps, 96 settled at the end. -/
theorem settleOnce_cancelsReceipts :
    ∃ (market : Market) (history : FundingHistory market) (position : Position) (token : Address)
      (hne : history.stores ≠ []) (often once : Int),
      (token = market.longToken ∨ token = market.shortToken) ∧
      total market token position history.stores = .ok often ∧
      total market token position [history.stores.getLast hne] = .ok once ∧
      ¬ |once - often| ≤ history.stores.length := by
  have hrun : Result.Satisfies (updateAt 1010 fundingWorld) fun first =>
      Result.Satisfies (updateAt 1020 (withShorts (900 * 10 ^ 30) first.2)) fun second =>
        total ⟨1, 2, 3, 4⟩ 3 shortPosition [first.2.dataStore, second.2.dataStore] = .ok 150 ∧
        total ⟨1, 2, 3, 4⟩ 3 shortPosition [second.2.dataStore] = .ok 96 := by
    decide +kernel
  obtain ⟨⟨_, w₁⟩, h₁, hrun⟩ := hrun.exists
  obtain ⟨⟨_, w₂⟩, h₂, hoften, honce⟩ := hrun.exists
  refine ⟨⟨1, 2, 3, 4⟩, ⟨fundingWorld, _, fundingRun_withShorts h₁ h₂⟩, shortPosition, 3,
    List.cons_ne_nil _ _, 150, 96, Or.inl rfl, hoften, honce, ?_⟩
  show ¬ |(96 : Int) - 150| ≤ (2 : Nat)
  decide

end Sample

end FundingSettlement

end GmxSynthetics
