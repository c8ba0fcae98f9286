import GmxSynthetics.Market.Claims
import GmxSynthetics.Market.MarketFactory
import GmxSynthetics.Position.FundingSolvency
import GmxSynthetics.Position.PositionFootprint
import GmxSynthetics.Reader.ReaderUtils

/-!
# The fees that the reader reports

`ReaderUtils.getPositionInfo` computes the fees of a position on the stored state, then replaces
the borrowing and the funding fee by what they will be once the state is brought up to the current
block. The totals that were computed from the stored ones stay.

* `withTotals` — how the totals of the fees come from their parts;
* `updateFundingAndBorrowingState_eq_ok` — what an execution brings up to date before it charges;
* `NothingPending` — neither fee has grown since the state was last brought up to date;
* `getPositionInfo_fees_iff` — the report is what is charged exactly when nothing is pending.
-/

namespace GmxSynthetics

open Evm MarketUtils PositionPricingUtils PositionUtils
open FundingSolvency (nextAccumulator)

variable {env : Env} {w w' : World}

-- ---------------------------------------------------------------------------
-- Totals
-- ---------------------------------------------------------------------------

namespace PositionPricingUtils

/-- The fees of a position from the part that does not depend on it, its borrowing and funding fees
and the ui fee. -/
def withTotals (base : PositionFees) (borrowing : PositionBorrowingFees)
    (funding : PositionFundingFees) (ui : PositionUiFees) : PositionFees :=
  let totalNetCostAmount := base.positionFeeAmount + funding.fundingFeeAmount +
    borrowing.borrowingFeeAmount + ui.uiFeeAmount - base.referral.traderDiscountAmount
  { base with
    borrowing, funding, ui
    feeAmountForPool := base.positionFeeAmountForPool + borrowing.borrowingFeeAmount -
      borrowing.borrowingFeeAmountForFeeReceiver
    feeReceiverAmount := base.feeReceiverAmount + borrowing.borrowingFeeAmountForFeeReceiver
    totalNetCostAmount
    collateralCostAmount := totalNetCostAmount }

/-- The parts of the fees of a position. -/
theorem getPositionFees_eq_ok {dataStore : DataStore} {params : GetPositionFeesParams}
    {fees : PositionFees} (h : getPositionFees env dataStore params = .ok fees) :
    ∃ base borrowingFeeUsd borrowing funding ui,
      getPositionFeesAfterReferral env dataStore params.collateralTokenPrice
        params.position.account params.position.market params.sizeDeltaUsd = .ok base ∧
      MarketUtils.getBorrowingFees dataStore params.position = .ok borrowingFeeUsd ∧
      getBorrowingFees dataStore params.collateralTokenPrice borrowingFeeUsd = .ok borrowing ∧
      getFundingFees params.position params.longToken params.shortToken
        (getFundingAmountPerSize dataStore params.position.market params.longToken
          params.position.isLong)
        (getFundingAmountPerSize dataStore params.position.market params.shortToken
          params.position.isLong) = .ok funding ∧
      getUiFees dataStore params.collateralTokenPrice params.sizeDeltaUsd params.uiFeeReceiver =
        .ok ui ∧
      borrowing.borrowingFeeAmountForFeeReceiver ≤
        base.positionFeeAmountForPool + borrowing.borrowingFeeAmount ∧
      base.referral.traderDiscountAmount ≤ base.positionFeeAmount + funding.fundingFeeAmount +
        borrowing.borrowingFeeAmount + ui.uiFeeAmount ∧
      fees = withTotals base borrowing funding ui := by
  simp only [getPositionFees, Result.bind_eq_ok, Result.pure_eq_ok, add_eq_ok, sub_eq_ok] at h
  obtain ⟨base, hbase, borrowingFeeUsd, hborrowingUsd, borrowing, hborrowing, _, ⟨-, rfl⟩, _,
    ⟨hpool, rfl⟩, _, ⟨-, rfl⟩, funding, hfunding, ui, hui, _, ⟨-, rfl⟩, _, ⟨-, rfl⟩, _, ⟨-, rfl⟩,
    _, ⟨hcost, rfl⟩, rfl⟩ := h
  exact ⟨base, borrowingFeeUsd, borrowing, funding, ui, hbase, hborrowingUsd, hborrowing, hfunding,
    hui, hpool, hcost, rfl⟩

theorem getBorrowingFees_eq_ok {dataStore : DataStore} {collateralTokenPrice : Price}
    {borrowingFeeUsd : Nat} {borrowing : PositionBorrowingFees}
    (h : getBorrowingFees dataStore collateralTokenPrice borrowingFeeUsd = .ok borrowing) :
    borrowing.borrowingFeeAmount = borrowingFeeUsd / collateralTokenPrice.min ∧
      Precision.applyFactor borrowing.borrowingFeeAmount
        (dataStore.getUint (.base .BORROWING_FEE_RECEIVER_FACTOR)) =
          .ok borrowing.borrowingFeeAmountForFeeReceiver := by
  simp only [getBorrowingFees, Result.bind_eq_ok, div_eq_ok, Result.pure_eq_ok] at h
  obtain ⟨_, ⟨-, rfl⟩, _, hreceiver, rfl⟩ := h
  exact ⟨rfl, hreceiver⟩

/-- The funding amounts that a funding fee was computed at are kept with it. -/
theorem getFundingFees_latest {position : Position} {longToken shortToken : Address}
    {latestLong latestShort : Int} {fees : PositionFundingFees}
    (h : getFundingFees position longToken shortToken latestLong latestShort = .ok fees) :
    fees.latestLongTokenFundingAmountPerSize = latestLong ∧
      fees.latestShortTokenFundingAmountPerSize = latestShort := by
  simp only [getFundingFees, Result.bind_eq_ok, Result.pure_eq_ok] at h
  obtain ⟨_, -, _, -, _, -, _, -, rfl⟩ := h
  exact ⟨rfl, rfl⟩

/-- The part of the fees that does not depend on the position depends on two factors only. -/
theorem getPositionFeesAfterReferral_congr {slots : List Slot} (hsame : World.SameOff slots w w')
    (hslots : Slot.constant .POSITION_FEE_FACTOR ∉ slots ∧
      Slot.constant .POSITION_FEE_RECEIVER_FACTOR ∉ slots)
    (collateralTokenPrice : Price) (account market : Address) (sizeDeltaUsd : Nat) :
    getPositionFeesAfterReferral env w'.dataStore collateralTokenPrice account market
        sizeDeltaUsd =
      getPositionFeesAfterReferral env w.dataStore collateralTokenPrice account market
        sizeDeltaUsd := by
  obtain ⟨hfee, hreceiver⟩ := hslots
  unfold getPositionFeesAfterReferral
  rw [hsame.uint _ hfee _ rfl, hsame.uint _ hreceiver _ rfl]

theorem getUiFees_congr {slots : List Slot} (hsame : World.SameOff slots w w')
    (hslots : Slot.constant .MAX_UI_FEE_FACTOR ∉ slots ∧ Slot.constant .UI_FEE_FACTOR ∉ slots)
    (collateralTokenPrice : Price) (sizeDeltaUsd : Nat) (uiFeeReceiver : Address) :
    getUiFees w'.dataStore collateralTokenPrice sizeDeltaUsd uiFeeReceiver =
      getUiFees w.dataStore collateralTokenPrice sizeDeltaUsd uiFeeReceiver := by
  obtain ⟨hmaxUi, hui⟩ := hslots
  unfold getUiFees MarketUtils.getUiFeeFactor
  rw [hsame.uint _ hmaxUi _ rfl, hsame.uint _ hui _ rfl]

theorem getBorrowingFees_congr {slots : List Slot} (hsame : World.SameOff slots w w')
    (hslots : Slot.constant .BORROWING_FEE_RECEIVER_FACTOR ∉ slots)
    (collateralTokenPrice : Price) (borrowingFeeUsd : Nat) :
    getBorrowingFees w'.dataStore collateralTokenPrice borrowingFeeUsd =
      getBorrowingFees w.dataStore collateralTokenPrice borrowingFeeUsd := by
  unfold getBorrowingFees
  rw [hsame.uint _ hslots _ rfl]

end PositionPricingUtils

-- ---------------------------------------------------------------------------
-- What an execution brings up to date
-- ---------------------------------------------------------------------------

/-- What the next cumulative borrowing factor is computed from. -/
def borrowingSlots : List Slot :=
  [.constant .CUMULATIVE_BORROWING_FACTOR, .constant .CUMULATIVE_BORROWING_FACTOR_UPDATED_AT,
    .constant .BORROWING_FACTOR, .constant .BORROWING_EXPONENT_FACTOR, .constant .POOL_AMOUNT,
    .constant .OPEN_INTEREST, .constant .OPEN_INTEREST_IN_TOKENS]

theorem MarketUtils.getNextCumulativeBorrowingFactor_congr {slots : List Slot}
    (hsame : World.SameOff slots w w') (hslots : ∀ slot ∈ borrowingSlots, slot ∉ slots)
    (market : Market) (prices : MarketPrices) (isLong : Bool) :
    getNextCumulativeBorrowingFactor env w'.dataStore market prices isLong =
      getNextCumulativeBorrowingFactor env w.dataStore market prices isLong := by
  have hread : ∀ slot ∈ borrowingSlots, ∀ key : Key, key.slot = slot →
      w'.dataStore.getUint key = w.dataStore.getUint key :=
    fun slot hslot key hkey => hsame.uint slot (hslots slot hslot) key hkey
  have hcumulative := hread (.constant .CUMULATIVE_BORROWING_FACTOR) (by decide)
  have hupdatedAt := hread (.constant .CUMULATIVE_BORROWING_FACTOR_UPDATED_AT) (by decide)
  have hfactor := hread (.constant .BORROWING_FACTOR) (by decide)
  have hexponent := hread (.constant .BORROWING_EXPONENT_FACTOR) (by decide)
  have hpool := hread (.constant .POOL_AMOUNT) (by decide)
  have hopenInterest := hread (.constant .OPEN_INTEREST) (by decide)
  have hinTokens := hread (.constant .OPEN_INTEREST_IN_TOKENS) (by decide)
  have hreserved : getReservedUsd w'.dataStore market prices isLong =
      getReservedUsd w.dataStore market prices isLong := by
    unfold getReservedUsd getOpenInterestInTokens getOpenInterest
      getOpenInterestInTokensForCollateral getOpenInterestForCollateral
    dsimp only
    rw [hinTokens _ rfl, hinTokens _ rfl, hopenInterest _ rfl, hopenInterest _ rfl]
  have hpoolUsd : getPoolUsdWithoutPnl w'.dataStore market prices isLong =
      getPoolUsdWithoutPnl w.dataStore market prices isLong := by
    unfold getPoolUsdWithoutPnl getPoolAmount
    dsimp only
    rw [hpool _ rfl]
  unfold getNextCumulativeBorrowingFactor getSecondsSinceCumulativeBorrowingFactorUpdated
    getCumulativeBorrowingFactorUpdatedAt getBorrowingFactorPerSecond getBorrowingFactor
    getBorrowingExponentFactor getCumulativeBorrowingFactor
  rw [hreserved, hpoolUsd, hupdatedAt _ rfl, hfactor _ rfl, hexponent _ rfl, hcumulative _ rfl]

/-- An execution stores the factors and the funding amounts that the reader computes. With one
token for both sides, what is stored for it is the amount computed last. -/
theorem PositionUtils.updateFundingAndBorrowingState_eq_ok {params : UpdatePositionParams}
    {prices : MarketPrices} {u : Unit}
    (h : updateFundingAndBorrowingState env params prices w = .ok (u, w')) :
    ∃ result next delta,
      getNextFundingAmountPerSize env w.dataStore params.market prices = .ok result ∧
      getNextCumulativeBorrowingFactor env w.dataStore params.market prices params.order.isLong =
        .ok (next, delta) ∧
      getCumulativeBorrowingFactor w'.dataStore params.market.marketToken params.order.isLong =
        next ∧
      (∀ isLong, getFundingAmountPerSize w'.dataStore params.market.marketToken
        params.market.shortToken isLong = nextAccumulator result false isLong) ∧
      (∀ isLong, getFundingAmountPerSize w'.dataStore params.market.marketToken
          params.market.longToken isLong =
        if params.market.longToken = params.market.shortToken then
          nextAccumulator result false isLong
        else nextAccumulator result true isLong) ∧
      World.SameOff marketStateSlots w w' := by
  have hwrites := updateFundingAndBorrowingState_writes env (List.Subset.refl marketStateSlots)
    params prices h
  unfold updateFundingAndBorrowingState at h
  obtain ⟨_, w₁, hfunding, hborrowing⟩ := Tx.bind_eq_ok.mp h
  have hsame : World.SameOff [.constant .FUNDING_AMOUNT_PER_SIZE, .constant .FUNDING_UPDATED_AT]
      w w₁ := updateFundingAmountPerSize_writes (by decide) (by decide) _ _ _ hfunding
  unfold updateFundingAmountPerSize at hfunding
  simp only [↓viewStore_bind_eq_ok, setFundingAmountPerSize, ↓writeStore_bind_eq_ok,
    writeStore_eq_ok] at hfunding
  obtain ⟨result, hresult, hw₁⟩ := hfunding
  unfold updateCumulativeBorrowingFactor incrementCumulativeBorrowingFactor at hborrowing
  simp only [↓viewStore_bind_eq_ok] at hborrowing
  obtain ⟨⟨next, delta⟩, hnext, hborrowing⟩ := hborrowing
  rw [getNextCumulativeBorrowingFactor_congr hsame (by decide)] at hnext
  obtain ⟨_, w₂, hwrite, hborrowing⟩ := Tx.bind_eq_ok.mp hborrowing
  obtain ⟨_, w₃, hincrement, hpure⟩ := Tx.bind_eq_ok.mp hwrite
  obtain ⟨-, rfl⟩ := Tx.pure_eq_ok.mp hpure
  have hw₃ := DataStore.incrementUint_eq_ok hincrement
  have hw' := writeStore_eq_ok.mp hborrowing
  have hint : ∀ key, w'.dataStore.getInt key = w₁.dataStore.getInt key := by
    intro key
    rw [← hw', hw₃]
    rfl
  have hadd : next = getCumulativeBorrowingFactor w.dataStore params.market.marketToken
      params.order.isLong + delta := by
    simp only [getNextCumulativeBorrowingFactor, Result.bind_eq_ok, mul_eq_ok, add_eq_ok,
      Result.pure_eq_ok, Prod.mk.injEq] at hnext
    obtain ⟨_, -, _, -, _, ⟨-, rfl⟩, _, ⟨-, rfl⟩, rfl, rfl⟩ := hnext
    rfl
  refine ⟨result, next, delta, hresult, hnext, ?_, ?_, ?_, hwrites⟩
  · have hstored : w₁.dataStore.getUint (Keys.cumulativeBorrowingFactorKey
        params.market.marketToken params.order.isLong) = getCumulativeBorrowingFactor w.dataStore
          params.market.marketToken params.order.isLong :=
      hsame.uint (.constant .CUMULATIVE_BORROWING_FACTOR) (by decide) _ rfl
    have hne : Keys.cumulativeBorrowingFactorKey params.market.marketToken params.order.isLong ≠
        Keys.cumulativeBorrowingFactorUpdatedAtKey params.market.marketToken
          params.order.isLong := by
      simp [Keys.cumulativeBorrowingFactorKey, Keys.cumulativeBorrowingFactorUpdatedAtKey]
    unfold getCumulativeBorrowingFactor at hadd hstored ⊢
    rw [← hw', getUint_setUint, if_neg hne, hw₃, getUint_setUint, if_pos rfl, hstored, hadd]
  · intro isLong
    unfold getFundingAmountPerSize
    rw [hint, ← hw₁]
    cases isLong <;> simp [DataStore.getInt, DataStore.setInt, DataStore.setUint,
      Keys.fundingAmountPerSizeKey, nextAccumulator]
  · intro isLong
    unfold getFundingAmountPerSize
    rw [hint, ← hw₁]
    by_cases hsameToken : params.market.longToken = params.market.shortToken
    · rw [if_pos hsameToken]
      cases isLong <;> simp [DataStore.getInt, DataStore.setInt, DataStore.setUint,
        Keys.fundingAmountPerSizeKey, nextAccumulator, hsameToken]
    · rw [if_neg hsameToken]
      cases isLong <;> simp [DataStore.getInt, DataStore.setInt, DataStore.setUint,
        Keys.fundingAmountPerSizeKey, nextAccumulator, hsameToken]

-- ---------------------------------------------------------------------------
-- The report and the charge
-- ---------------------------------------------------------------------------

/-- Nothing has accrued on a position since the state was last brought up to date: its borrowing
fee and its funding fee are worth the same amounts of its collateral token with and without what
is pending; and where one token backs both sides, the two funding amounts computed for it agree. -/
structure NothingPending (env : Env) (dataStore : DataStore) (position : Position) (market : Market)
    (prices : MarketPrices) (collateralTokenPrice : Price) : Prop where
  borrowing : ∀ feeUsd pendingFeeUsd,
    MarketUtils.getBorrowingFees dataStore position = .ok feeUsd →
    getNextBorrowingFees env dataStore position market prices = .ok pendingFeeUsd →
    feeUsd / collateralTokenPrice.min = pendingFeeUsd / collateralTokenPrice.min
  funding : ∀ result fees pendingFees,
    getNextFundingAmountPerSize env dataStore market prices = .ok result →
    getFundingFees position market.longToken market.shortToken
      (getFundingAmountPerSize dataStore market.marketToken market.longToken position.isLong)
      (getFundingAmountPerSize dataStore market.marketToken market.shortToken position.isLong) =
        .ok fees →
    getFundingFees position market.longToken market.shortToken
      (nextAccumulator result true position.isLong)
      (nextAccumulator result false position.isLong) = .ok pendingFees →
    fees.fundingFeeAmount = pendingFees.fundingFeeAmount
  sameToken : market.longToken = market.shortToken → ∀ result,
    getNextFundingAmountPerSize env dataStore market prices = .ok result →
    nextAccumulator result true position.isLong = nextAccumulator result false position.isLong

/-- Two fees that differ in their borrowing and funding parts at most. -/
theorem PositionPricingUtils.withTotals_overwritten_iff {base : PositionFees}
    {borrowing borrowing' : PositionBorrowingFees} {funding funding' : PositionFundingFees}
    {ui : PositionUiFees} {receiverFactor : Nat}
    (hreceiver : Precision.applyFactor borrowing.borrowingFeeAmount receiverFactor =
      .ok borrowing.borrowingFeeAmountForFeeReceiver)
    (hreceiver' : Precision.applyFactor borrowing'.borrowingFeeAmount receiverFactor =
      .ok borrowing'.borrowingFeeAmountForFeeReceiver)
    (hpool : borrowing.borrowingFeeAmountForFeeReceiver ≤
      base.positionFeeAmountForPool + borrowing.borrowingFeeAmount)
    (hpool' : borrowing'.borrowingFeeAmountForFeeReceiver ≤
      base.positionFeeAmountForPool + borrowing'.borrowingFeeAmount)
    (hcost : base.referral.traderDiscountAmount ≤ base.positionFeeAmount +
      funding.fundingFeeAmount + borrowing.borrowingFeeAmount + ui.uiFeeAmount)
    (hcost' : base.referral.traderDiscountAmount ≤ base.positionFeeAmount +
      funding'.fundingFeeAmount + borrowing'.borrowingFeeAmount + ui.uiFeeAmount)
    (reported : PositionFundingFees) :
    { withTotals base borrowing funding ui with borrowing := borrowing', funding := reported } =
        withTotals base borrowing' funding' ui ↔
      reported = funding' ∧ borrowing.borrowingFeeAmount = borrowing'.borrowingFeeAmount ∧
        funding.fundingFeeAmount = funding'.fundingFeeAmount := by
  constructor
  · intro heq
    have hfunding : reported = funding' := congrArg PositionFees.funding heq
    have hforPool := congrArg PositionFees.feeAmountForPool heq
    have hforReceiver := congrArg PositionFees.feeReceiverAmount heq
    have htotal := congrArg PositionFees.totalNetCostAmount heq
    simp only [withTotals] at hforPool hforReceiver htotal
    exact ⟨hfunding, by omega, by omega⟩
  · rintro ⟨rfl, hborrowing, hfunding⟩
    rw [hborrowing] at hreceiver
    have hforReceiver := Except.ok.inj (hreceiver.symm.trans hreceiver')
    simp only [withTotals, hborrowing, hfunding, hforReceiver]

namespace ReaderUtils

/-- **When the reader reports the fees that will be charged.** The fees that an execution at the
same block and prices charges, once it has brought the state up to date, are those reported if
and only if nothing was pending. -/
theorem getPositionInfo_fees_iff {positionKey : StoreKey} {params : UpdatePositionParams}
    {prices : MarketPrices} {sizeDeltaUsd : Nat} {uiFeeReceiver : Address}
    {usePositionSizeAsSizeDeltaUsd : Bool} {info : PositionInfo} {u : Unit}
    {collateralTokenPrice : Price} {fees : PositionFees}
    (hposition : params.position = PositionStoreUtils.get w.dataStore positionKey)
    (hmarket : params.market = MarketStoreUtils.get w.dataStore params.position.market)
    (hkeyed : params.market.marketToken = params.position.market)
    (hside : params.order.isLong = params.position.isLong)
    (hprice : getCachedTokenPrice params.position.collateralToken params.market prices =
      .ok collateralTokenPrice)
    (hreader : getPositionInfo env w.dataStore positionKey prices sizeDeltaUsd uiFeeReceiver
      usePositionSizeAsSizeDeltaUsd = .ok info)
    (hupdate : updateFundingAndBorrowingState env params prices w = .ok (u, w'))
    (hfees : getPositionFees env w'.dataStore
      { position := params.position, collateralTokenPrice
        longToken := params.market.longToken, shortToken := params.market.shortToken
        sizeDeltaUsd :=
          if usePositionSizeAsSizeDeltaUsd then params.position.sizeInUsd else sizeDeltaUsd
        uiFeeReceiver } = .ok fees) :
    info.fees = fees ↔ NothingPending env w.dataStore params.position params.market prices
      collateralTokenPrice := by
  unfold getPositionInfo at hreader
  rw [← hposition] at hreader
  dsimp only at hreader
  rw [← hmarket] at hreader
  simp only [Result.bind_eq_ok, hprice, Except.ok.injEq, exists_eq_left'] at hreader
  obtain ⟨staleFees, hstale, pendingFeeUsd, hpendingFeeUsd, pendingBorrowing, hpendingBorrowing,
    result, hresult, pendingFunding, hpendingFunding, hinfo⟩ := hreader
  obtain ⟨base, borrowingFeeUsd, borrowing, funding, ui, hbase, hborrowingUsd, hborrowing,
    hfunding, hui, hpool, hcost, rfl⟩ := getPositionFees_eq_ok hstale
  obtain ⟨base', borrowingFeeUsd', borrowing', funding', ui', hbase', hborrowingUsd', hborrowing',
    hfunding', hui', hpool', hcost', rfl⟩ := getPositionFees_eq_ok hfees
  obtain ⟨result', next, delta, hresult', hnext, hcumulative, hshort, hlong, hsame⟩ :=
    updateFundingAndBorrowingState_eq_ok hupdate
  rw [← hkeyed] at hfunding hfunding'
  dsimp only at hfunding hfunding'
  obtain rfl : result' = result := Except.ok.inj (hresult'.symm.trans hresult)
  -- what does not depend on the state that is brought up to date
  rw [getPositionFeesAfterReferral_congr hsame (by decide), hbase] at hbase'
  rw [getUiFees_congr hsame (by decide), hui] at hui'
  rw [PositionPricingUtils.getBorrowingFees_congr hsame (by decide)] at hborrowing'
  obtain rfl := Except.ok.inj hbase'
  obtain rfl := Except.ok.inj hui'
  -- the borrowing fee that is charged is the one that was pending
  have hpendingUsd' : borrowingFeeUsd' = pendingFeeUsd := by
    rw [hside] at hnext hcumulative
    rw [hkeyed] at hcumulative
    simp only [MarketUtils.getBorrowingFees, Result.bind_eq_ok, sub_eq_ok] at hborrowingUsd'
    obtain ⟨_, -, _, ⟨-, rfl⟩, hcharged⟩ := hborrowingUsd'
    simp only [getNextBorrowingFees, Result.bind_eq_ok, sub_eq_ok, hnext,
      Except.ok.injEq] at hpendingFeeUsd
    obtain ⟨_, rfl, _, -, _, ⟨-, rfl⟩, hpending⟩ := hpendingFeeUsd
    rw [hcumulative] at hcharged
    exact Except.ok.inj (hcharged.symm.trans hpending)
  subst hpendingUsd'
  obtain rfl := Except.ok.inj (hpendingBorrowing.symm.trans hborrowing')
  have hborrowingAmount := (getBorrowingFees_eq_ok hborrowing).1
  have hpendingAmount := (getBorrowingFees_eq_ok hpendingBorrowing).1
  -- the funding fee that is charged is at the amounts stored last
  have hreported : getFundingFees params.position params.market.longToken params.market.shortToken
      (nextAccumulator result' true params.position.isLong)
      (nextAccumulator result' false params.position.isLong) = .ok pendingFunding := by
    rw [← hpendingFunding]
    cases params.position.isLong <;> rfl
  rw [hshort, hlong] at hfunding'
  obtain rfl := Result.pure_eq_ok.mp hinfo
  show { withTotals base borrowing funding ui with
    borrowing := pendingBorrowing, funding := pendingFunding } = _ ↔ _
  rw [withTotals_overwritten_iff (getBorrowingFees_eq_ok hborrowing).2
    (getBorrowingFees_eq_ok hpendingBorrowing).2 hpool hpool' hcost hcost']
  constructor
  · rintro ⟨rfl, hborrowingEq, hfundingEq⟩
    refine ⟨?_, ?_, ?_⟩
    · intro feeUsd pendingUsd hfeeUsd hpendingUsd
      obtain rfl := Except.ok.inj (hfeeUsd.symm.trans hborrowingUsd)
      obtain rfl := Except.ok.inj (hpendingUsd.symm.trans hpendingFeeUsd)
      rw [← hborrowingAmount, ← hpendingAmount, hborrowingEq]
    · intro result fundingFees pendingFees hnextFunding hstored hpending
      obtain rfl := Except.ok.inj (hnextFunding.symm.trans hresult)
      obtain rfl := Except.ok.inj (hstored.symm.trans hfunding)
      obtain rfl := Except.ok.inj (hpending.symm.trans hreported)
      exact hfundingEq
    · intro hsameToken result hnextFunding
      obtain rfl := Except.ok.inj (hnextFunding.symm.trans hresult)
      rw [if_pos hsameToken] at hfunding'
      exact (getFundingFees_latest hreported).1.symm.trans (getFundingFees_latest hfunding').1
  · intro hnothing
    have hcharged : pendingFunding = funding' := by
      by_cases hsameToken : params.market.longToken = params.market.shortToken
      · rw [if_pos hsameToken] at hfunding'
        rw [hnothing.sameToken hsameToken _ hresult, hfunding'] at hreported
        exact (Except.ok.inj hreported).symm
      · rw [if_neg hsameToken, hreported] at hfunding'
        exact Except.ok.inj hfunding'
    refine ⟨hcharged, ?_, ?_⟩
    · rw [hborrowingAmount, hpendingAmount]
      exact hnothing.borrowing _ _ hborrowingUsd hpendingFeeUsd
    · rw [← hcharged]
      exact hnothing.funding _ _ _ hresult hfunding hreported

/-- A market of one long position, whose borrowing fee grows by its size every second. The fee was
last brought up to date in second one. -/
def accruingWorld : World where
  dataStore :=
    let usd := Precision.FLOAT_PRECISION
    let dataStore :=
      MarketStoreUtils.set DataStore.empty 1 (Keys.marketSaltHash 2 3 4 0) ⟨1, 2, 3, 4⟩
    let dataStore := PositionStoreUtils.set dataStore (.position 8 1 4 true)
      { Position.empty with
        account := 8, market := 1, collateralToken := 4, isLong := true
        sizeInUsd := 100 * usd, sizeInTokens := 100, collateralAmount := 500 }
    let dataStore := dataStore.setUint (Keys.poolAmountKey 1 3) 100
    let dataStore := dataStore.setUint (Keys.openInterestKey 1 4 true) (100 * usd)
    let dataStore := dataStore.setUint (Keys.openInterestInTokensKey 1 4 true) 100
    let dataStore := dataStore.setUint (Keys.borrowingExponentFactorKey 1 true) usd
    let dataStore := dataStore.setUint (Keys.borrowingFactorKey 1 true) usd
    dataStore.setUint (Keys.cumulativeBorrowingFactorUpdatedAtKey 1 true) 1
  balances _ _ := 0
  totalSupply _ := 0
  tokenBalances _ _ := 0

def oneUsdPrices : MarketPrices :=
  ⟨⟨10 ^ 30, 10 ^ 30⟩, ⟨10 ^ 30, 10 ^ 30⟩, ⟨10 ^ 30, 10 ^ 30⟩⟩

/-- An update of the position of that market. -/
def accruingParams : UpdatePositionParams where
  market := ⟨1, 2, 3, 4⟩
  order := { Order.empty with isLong := true }
  orderKey := .request 1
  position := PositionStoreUtils.get accruingWorld.dataStore (.position 8 1 4 true)
  positionKey := .position 8 1 4 true
  secondaryOrderType := .None

def accruingFeesParams : GetPositionFeesParams where
  position := accruingParams.position
  collateralTokenPrice := ⟨10 ^ 30, 10 ^ 30⟩
  longToken := 3
  shortToken := 4
  sizeDeltaUsd := 0
  uiFeeReceiver := 0

/-- What is reported for the position of that market, and what is then charged for it. -/
def reportAndCharge (env : Env) : Tx (PositionFees × PositionFees) := do
  let info ← viewStore (getPositionInfo env · (.position 8 1 4 true) oneUsdPrices 0 0 false)
  updateFundingAndBorrowingState env accruingParams oneUsdPrices
  let fees ← viewStore (getPositionFees env · accruingFeesParams)
  pure (info.fees, fees)

theorem reportAndCharge_eq_ok {reported charged : PositionFees}
    (h : reportAndCharge env w = .ok ((reported, charged), w')) :
    ∃ info, getPositionInfo env w.dataStore (.position 8 1 4 true) oneUsdPrices 0 0 false =
        .ok info ∧ info.fees = reported ∧
      updateFundingAndBorrowingState env accruingParams oneUsdPrices w = .ok ((), w') ∧
      getPositionFees env w'.dataStore accruingFeesParams = .ok charged := by
  unfold reportAndCharge at h
  simp only [↓viewStore_bind_eq_ok] at h
  obtain ⟨info, hinfo, h⟩ := h
  obtain ⟨_, w₁, hupdate, h⟩ := Tx.bind_eq_ok.mp h
  simp only [↓viewStore_bind_eq_ok, Tx.pure_eq_ok, Prod.mk.injEq] at h
  obtain ⟨fees, hfees, ⟨rfl, rfl⟩, rfl⟩ := h
  exact ⟨info, hinfo, rfl, hupdate, hfees⟩

/-- One second after the last update, the reader reports no cost for a position that is charged a
hundred tokens. -/
theorem getPositionInfo_fees_stale :
    ¬ ∀ (env : Env) (w w' : World) (positionKey : StoreKey) (params : UpdatePositionParams)
      (prices : MarketPrices) (sizeDeltaUsd : Nat) (uiFeeReceiver : Address)
      (usePositionSizeAsSizeDeltaUsd : Bool) (info : PositionInfo) (u : Unit)
      (collateralTokenPrice : Price) (fees : PositionFees),
      params.position = PositionStoreUtils.get w.dataStore positionKey →
      params.market = MarketStoreUtils.get w.dataStore params.position.market →
      params.market.marketToken = params.position.market →
      params.order.isLong = params.position.isLong →
      getCachedTokenPrice params.position.collateralToken params.market prices =
        .ok collateralTokenPrice →
      getPositionInfo env w.dataStore positionKey prices sizeDeltaUsd uiFeeReceiver
        usePositionSizeAsSizeDeltaUsd = .ok info →
      updateFundingAndBorrowingState env params prices w = .ok (u, w') →
      getPositionFees env w'.dataStore
        { position := params.position, collateralTokenPrice
          longToken := params.market.longToken, shortToken := params.market.shortToken
          sizeDeltaUsd :=
            if usePositionSizeAsSizeDeltaUsd then params.position.sizeInUsd else sizeDeltaUsd
          uiFeeReceiver } = .ok fees →
      info.fees = fees := by
  intro hclaim
  have hrun : Evm.Result.Satisfies (reportAndCharge (Env.plain 2 fun _ => ⟨1, 1⟩) accruingWorld)
      (fun result => result.1.1.totalNetCostAmount = 0 ∧ result.1.2.totalNetCostAmount = 100) := by
    decide +kernel
  obtain ⟨⟨⟨reported, charged⟩, w'⟩, hrun, hreported, hcharged⟩ := hrun.exists
  obtain ⟨info, hinfo, rfl, hupdate, hfees⟩ := reportAndCharge_eq_ok hrun
  have heq : info.fees = charged := hclaim _ accruingWorld w' (.position 8 1 4 true)
    accruingParams oneUsdPrices 0 0 false info () _ charged rfl (by decide +kernel)
    (by decide +kernel) (by decide +kernel) rfl hinfo hupdate hfees
  rw [heq, hcharged] at hreported
  omega

/-- In the second of the last update the report is exact. -/
theorem getPositionInfo_fees_accruingWorld :
    NothingPending (Env.plain 1 fun _ => ⟨1, 1⟩) accruingWorld.dataStore accruingParams.position
      accruingParams.market oneUsdPrices ⟨10 ^ 30, 10 ^ 30⟩ := by
  have hrun : Evm.Result.Satisfies (reportAndCharge (Env.plain 1 fun _ => ⟨1, 1⟩) accruingWorld)
      (fun result => result.1.1 = result.1.2) := by decide +kernel
  obtain ⟨⟨⟨reported, charged⟩, w'⟩, hrun, hequal⟩ := hrun.exists
  obtain ⟨info, hinfo, rfl, hupdate, hfees⟩ := reportAndCharge_eq_ok hrun
  exact (getPositionInfo_fees_iff (by rfl) (by decide +kernel) (by decide +kernel)
    (by decide +kernel) (by rfl) hinfo hupdate hfees).mp hequal

end ReaderUtils

end GmxSynthetics
