import GmxSynthetics.Config.Config
import GmxSynthetics.Position.FundingSettlement
import GmxSynthetics.Position.PositionBook
import GmxSynthetics.Swap.SwapBook

/-!
# Fees and their parts

A fee is cut several times, with a floor at each cut. With factors in the range that `Config`
admits no cut takes more than there is, so no subtraction underflows, and the parts make up the
whole to the unit.

* `FeeFactorsInRange.setUint` — the range checks of `Config` keep the factors in range;
* `getSwapFees_returns` — the fees of a swap are computed for every amount;
* `getPositionFees_returns_iff` — when the fees of a position are computed;
* `fees_decomposed` — both, with the sums.
-/

namespace GmxSynthetics

open Evm MarketUtils

-- ---------------------------------------------------------------------------
-- Configuration
-- ---------------------------------------------------------------------------

/-- The fee factors within the limits of `Config._validateRange`. -/
structure FeeFactorsInRange (dataStore : DataStore) : Prop where
  swapFee : ∀ market, dataStore.getUint (Keys.swapFeeFactorKey market) ≤
    5 * Precision.FLOAT_PRECISION / 100
  positionFee : ∀ market, dataStore.getUint (Keys.positionFeeFactorKey market) ≤
    5 * Precision.FLOAT_PRECISION / 100
  maxUiFee : dataStore.getUint (.base .MAX_UI_FEE_FACTOR) ≤ 5 * Precision.FLOAT_PRECISION / 100
  swapFeeReceiver : dataStore.getUint (.base .SWAP_FEE_RECEIVER_FACTOR) ≤ Precision.FLOAT_PRECISION
  positionFeeReceiver :
    dataStore.getUint (.base .POSITION_FEE_RECEIVER_FACTOR) ≤ Precision.FLOAT_PRECISION
  borrowingFeeReceiver :
    dataStore.getUint (.base .BORROWING_FEE_RECEIVER_FACTOR) ≤ Precision.FLOAT_PRECISION

namespace FeeFactorsInRange

theorem empty : FeeFactorsInRange .empty where
  swapFee _ := Nat.zero_le _
  positionFee _ := Nat.zero_le _
  maxUiFee := Nat.zero_le _
  swapFeeReceiver := Nat.zero_le _
  positionFeeReceiver := Nat.zero_le _
  borrowingFeeReceiver := Nat.zero_le _

/-- A fee factor that `Config` has let through. -/
theorem le_of_validateRange {baseKey : Base} {value : Nat} {u : Unit}
    (hfee : baseKey = .SWAP_FEE_FACTOR ∨ baseKey = .POSITION_FEE_FACTOR)
    (h : Config._validateRange baseKey value = .ok u) :
    value ≤ 5 * Precision.FLOAT_PRECISION / 100 := by
  simp only [Config._validateRange, Result.bind_eq_ok, revertIf, Result.revertIf_eq_ok] at h
  obtain ⟨_, -, _, hrange, -⟩ := h
  rcases hfee with rfl | rfl
  · exact Nat.le_of_not_lt fun hgt => hrange ⟨Or.inl rfl, hgt⟩
  · exact Nat.le_of_not_lt fun hgt => hrange ⟨Or.inr (Or.inl rfl), hgt⟩

/-- What `Config` writes keeps the fee factors in range. -/
theorem setUint {dataStore dataStore' : DataStore} {baseKey : Base} {data : List Word}
    {value : Nat} (hrange : FeeFactorsInRange dataStore)
    (h : Config.setUint dataStore baseKey data value = .ok dataStore') :
    FeeFactorsInRange dataStore' := by
  simp only [Config.setUint, Result.bind_eq_ok, Result.pure_eq_ok] at h
  obtain ⟨_, -, _, hvalid, rfl⟩ := h
  have hmarket : ∀ (base : Base) (market : Address),
      (base = .SWAP_FEE_FACTOR ∨ base = .POSITION_FEE_FACTOR) →
      dataStore.getUint (.derived base [market]) ≤ 5 * Precision.FLOAT_PRECISION / 100 →
      (dataStore.setUint (Config.fullKey baseKey data) value).getUint (.derived base [market]) ≤
        5 * Precision.FLOAT_PRECISION / 100 := by
    intro base market hfee hle
    by_cases hkey : (.derived base [market] : Key) = Config.fullKey baseKey data
    · obtain ⟨rfl, -⟩ := Key.derived.inj hkey
      have hself : (dataStore.setUint (Config.fullKey base data) value).getUint
          (Config.fullKey base data) = value := Function.update_self _ _ _
      rw [hkey, hself]
      exact le_of_validateRange hfee hvalid
    · have hother : (dataStore.setUint (Config.fullKey baseKey data) value).getUint
          (.derived base [market]) = dataStore.getUint (.derived base [market]) :=
        Function.update_of_ne hkey _ _
      rw [hother]
      exact hle
  exact
    { swapFee := fun market => hmarket _ market (Or.inl rfl) (hrange.swapFee market)
      positionFee := fun market => hmarket _ market (Or.inr rfl) (hrange.positionFee market)
      maxUiFee := hrange.maxUiFee
      swapFeeReceiver := hrange.swapFeeReceiver
      positionFeeReceiver := hrange.positionFeeReceiver
      borrowingFeeReceiver := hrange.borrowingFeeReceiver }

theorem uiFee {dataStore : DataStore} (hrange : FeeFactorsInRange dataStore) (account : Address) :
    getUiFeeFactor dataStore account ≤ 5 * Precision.FLOAT_PRECISION / 100 := by
  have hmax := hrange.maxUiFee
  unfold getUiFeeFactor
  dsimp only
  split <;> omega

end FeeFactorsInRange

/-- Rebates and discount shares of at most one, as `ReferralStorage` requires them. -/
structure ReferralSharesInRange (env : Env) : Prop where
  totalRebate : ∀ tier, (env.tiers tier).1 ≤ Precision.BASIS_POINTS_DIVISOR
  discountShare : ∀ tier, (env.tiers tier).2 ≤ Precision.BASIS_POINTS_DIVISOR
  customDiscountShare : ∀ affiliate,
    env.referrerDiscountShares affiliate ≤ Precision.BASIS_POINTS_DIVISOR

namespace Precision

/-- A factor of at most one can be applied to every amount. -/
theorem applyFactor_of_le {value factor : Nat} (hvalue : value < uintBound)
    (hfactor : factor ≤ FLOAT_PRECISION) :
    applyFactor value factor = .ok (value * factor / FLOAT_PRECISION) ∧
      value * factor / FLOAT_PRECISION ≤ value := by
  have hle : value * factor / FLOAT_PRECISION ≤ value := by
    apply Nat.div_le_of_le_mul
    rw [Nat.mul_comm]
    exact Nat.mul_le_mul_right value hfactor
  have hpos : FLOAT_PRECISION ≠ 0 := by decide
  exact ⟨mulDiv_eq_ok.mpr ⟨hpos, Nat.lt_of_le_of_lt hle hvalue, rfl⟩, hle⟩

theorem basisPointsToFloat_of_le {basisPoints : Nat} (h : basisPoints ≤ BASIS_POINTS_DIVISOR) :
    basisPointsToFloat basisPoints =
        .ok (basisPoints * FLOAT_PRECISION / BASIS_POINTS_DIVISOR) ∧
      basisPoints * FLOAT_PRECISION / BASIS_POINTS_DIVISOR ≤ FLOAT_PRECISION := by
  have hle : basisPoints * FLOAT_PRECISION ≤ BASIS_POINTS_DIVISOR * FLOAT_PRECISION :=
    Nat.mul_le_mul_right _ h
  have hfits : basisPoints * FLOAT_PRECISION < uintBound :=
    Nat.lt_of_le_of_lt hle (by decide)
  have hmul : (mul basisPoints FLOAT_PRECISION : Result Nat) =
      .ok (basisPoints * FLOAT_PRECISION) :=
    mul_eq_ok.mpr ⟨hfits, rfl⟩
  constructor
  · have hpos : BASIS_POINTS_DIVISOR ≠ 0 := by decide
    rw [basisPointsToFloat, hmul]
    exact div_eq_ok.mpr ⟨hpos, rfl⟩
  · exact Nat.div_le_of_le_mul hle

end Precision

-- ---------------------------------------------------------------------------
-- Swap fees
-- ---------------------------------------------------------------------------

variable {env : Env} {dataStore : DataStore}

/-- The fees of a swap are computed for every amount. -/
theorem SwapPricingUtils.getSwapFees_returns (hrange : FeeFactorsInRange dataStore)
    (marketToken : Address) {amount : Nat} (hamount : amount < uintBound)
    (uiFeeReceiver : Address) :
    ∃ fees, getSwapFees dataStore marketToken amount uiFeeReceiver = .ok fees := by
  have hswap := hrange.swapFee marketToken
  have hui := hrange.uiFee uiFeeReceiver
  have hpercent : 5 * Precision.FLOAT_PRECISION / 100 ≤ Precision.FLOAT_PRECISION := by decide
  have hfee := Precision.applyFactor_of_le hamount (Nat.le_trans hswap hpercent)
  have hreceiver := Precision.applyFactor_of_le (Nat.lt_of_le_of_lt hfee.2 hamount)
    hrange.swapFeeReceiver
  have huiFee := Precision.applyFactor_of_le hamount (Nat.le_trans hui hpercent)
  -- the two fees together are at most a tenth of the amount
  have hsum : amount * dataStore.getUint (Keys.swapFeeFactorKey marketToken) /
        Precision.FLOAT_PRECISION +
      amount * getUiFeeFactor dataStore uiFeeReceiver / Precision.FLOAT_PRECISION ≤ amount := by
    have hdiv := @Nat.div_add_div_le_add_div
      (amount * dataStore.getUint (Keys.swapFeeFactorKey marketToken))
      (amount * getUiFeeFactor dataStore uiFeeReceiver) Precision.FLOAT_PRECISION
    rw [← Nat.mul_add] at hdiv
    have hfactors : dataStore.getUint (Keys.swapFeeFactorKey marketToken) +
        getUiFeeFactor dataStore uiFeeReceiver ≤ Precision.FLOAT_PRECISION := by
      have htenth : 5 * Precision.FLOAT_PRECISION / 100 + 5 * Precision.FLOAT_PRECISION / 100 ≤
        Precision.FLOAT_PRECISION := by decide
      omega
    exact Nat.le_trans hdiv (Precision.applyFactor_of_le hamount hfactors).2
  simp only [getSwapFees, Result.bind_eq_ok, sub_eq_ok, Result.pure_eq_ok]
  exact ⟨_, _, hfee.1, _, hreceiver.1, _, ⟨hreceiver.2, rfl⟩, _, huiFee.1, _,
    ⟨hfee.2, rfl⟩, _, ⟨Nat.le_sub_of_add_le' hsum, rfl⟩, rfl⟩

-- ---------------------------------------------------------------------------
-- Position fees
-- ---------------------------------------------------------------------------

theorem ReferralUtils.getReferralInfo_returns (hshares : ReferralSharesInRange env)
    (trader : Address) :
    ∃ referralCode affiliate totalRebateFactor traderDiscountFactor,
      getReferralInfo env trader =
        .ok (referralCode, affiliate, totalRebateFactor, traderDiscountFactor) ∧
      totalRebateFactor ≤ Precision.FLOAT_PRECISION ∧
      traderDiscountFactor ≤ Precision.FLOAT_PRECISION := by
  unfold getReferralInfo
  dsimp only
  split
  · exact ⟨0, 0, 0, 0, rfl, Nat.zero_le _, Nat.zero_le _⟩
  · have hrebate := Precision.basisPointsToFloat_of_le (hshares.totalRebate
      (env.referrerTiers (env.codeOwners (env.traderReferralCodes trader))))
    split
    · have hdiscount := Precision.basisPointsToFloat_of_le (hshares.customDiscountShare
        (env.codeOwners (env.traderReferralCodes trader)))
      rw [hrebate.1, Result.ok_bind, hdiscount.1, Result.ok_bind]
      exact ⟨_, _, _, _, rfl, hrebate.2, hdiscount.2⟩
    · have hdiscount := Precision.basisPointsToFloat_of_le (hshares.discountShare
        (env.referrerTiers (env.codeOwners (env.traderReferralCodes trader))))
      rw [hrebate.1, Result.ok_bind, hdiscount.1, Result.ok_bind]
      exact ⟨_, _, _, _, rfl, hrebate.2, hdiscount.2⟩

namespace PositionPricingUtils

/-- The position fee in collateral tokens, before it is cut. -/
def positionFee (dataStore : DataStore) (market : Address) (sizeDeltaUsd : Nat)
    (collateralTokenPrice : Price) : Nat :=
  sizeDeltaUsd * dataStore.getUint (Keys.positionFeeFactorKey market) /
    Precision.FLOAT_PRECISION / collateralTokenPrice.min

/-- The cuts of the position fee. -/
structure PositionFeeCuts (base : PositionFees) : Prop where
  receiver_le : base.feeReceiverAmount + base.positionFeeAmountForPool ≤ base.positionFeeAmount
  discount_le : base.referral.traderDiscountAmount ≤ base.positionFeeAmount

/-- The position fee is computed for every size. -/
theorem getPositionFeesAfterReferral_returns (hrange : FeeFactorsInRange dataStore)
    (hshares : ReferralSharesInRange env) {collateralTokenPrice : Price}
    (hprice : 0 < collateralTokenPrice.min) (account market : Address) {sizeDeltaUsd : Nat}
    (hsize : sizeDeltaUsd < uintBound) :
    ∃ base, getPositionFeesAfterReferral env dataStore collateralTokenPrice account market
        sizeDeltaUsd = .ok base ∧
      base.positionFeeAmount = positionFee dataStore market sizeDeltaUsd collateralTokenPrice ∧
      PositionFeeCuts base := by
  obtain ⟨referralCode, affiliate, totalRebateFactor, traderDiscountFactor, hreferral, hrebateLe,
    hdiscountLe⟩ := ReferralUtils.getReferralInfo_returns hshares account
  have hpercent : 5 * Precision.FLOAT_PRECISION / 100 ≤ Precision.FLOAT_PRECISION := by decide
  have hcharged := Precision.applyFactor_of_le hsize
    (Nat.le_trans (hrange.positionFee market) hpercent)
  have hfee : positionFee dataStore market sizeDeltaUsd collateralTokenPrice < uintBound :=
    Nat.lt_of_le_of_lt (Nat.le_trans (Nat.div_le_self _ _) hcharged.2) hsize
  have hrebate := Precision.applyFactor_of_le hfee hrebateLe
  have hrebateFits := Nat.lt_of_le_of_lt hrebate.2 hfee
  have hdiscount := Precision.applyFactor_of_le hrebateFits hdiscountLe
  have hprotocolFits := Nat.lt_of_le_of_lt (Nat.sub_le _
    (positionFee dataStore market sizeDeltaUsd collateralTokenPrice * totalRebateFactor /
      Precision.FLOAT_PRECISION)) hfee
  have hreceiver := Precision.applyFactor_of_le hprotocolFits hrange.positionFeeReceiver
  simp only [getPositionFeesAfterReferral, Result.bind_eq_ok, sub_eq_ok, div_eq_ok,
    Result.pure_eq_ok]
  refine ⟨_, ⟨_, hreferral, _, hcharged.1, _, ⟨Nat.pos_iff_ne_zero.mp hprice, rfl⟩, _, hrebate.1, _,
    hdiscount.1, _, ⟨hdiscount.2, rfl⟩, _, ⟨hrebate.2, rfl⟩, _, hreceiver.1, _, ⟨hreceiver.2, rfl⟩,
    rfl⟩, rfl, ?_, ?_⟩
  · exact Nat.le_trans (Nat.le_of_eq (Nat.add_sub_of_le hreceiver.2)) (Nat.sub_le _ _)
  · exact Nat.le_trans hdiscount.2 hrebate.2

-- ---------------------------------------------------------------------------
-- Borrowing, funding and ui fees
-- ---------------------------------------------------------------------------

theorem getBorrowingFees_returns (hrange : FeeFactorsInRange dataStore)
    {collateralTokenPrice : Price} (hprice : 0 < collateralTokenPrice.min) {borrowingFeeUsd : Nat}
    (husd : borrowingFeeUsd < uintBound) :
    ∃ borrowing, getBorrowingFees dataStore collateralTokenPrice borrowingFeeUsd = .ok borrowing ∧
      borrowing.borrowingFeeAmount = borrowingFeeUsd / collateralTokenPrice.min ∧
      borrowing.borrowingFeeAmountForFeeReceiver ≤ borrowing.borrowingFeeAmount := by
  have hfits : borrowingFeeUsd / collateralTokenPrice.min < uintBound :=
    Nat.lt_of_le_of_lt (Nat.div_le_self _ _) husd
  have hreceiver := Precision.applyFactor_of_le hfits hrange.borrowingFeeReceiver
  simp only [getBorrowingFees, Result.bind_eq_ok, div_eq_ok, Result.pure_eq_ok]
  exact ⟨_, ⟨_, ⟨Nat.pos_iff_ne_zero.mp hprice, rfl⟩, _, hreceiver.1, rfl⟩, rfl, hreceiver.2⟩

/-- The ui fee in collateral tokens. -/
def uiFee (dataStore : DataStore) (uiFeeReceiver : Address) (sizeDeltaUsd : Nat)
    (collateralTokenPrice : Price) : Nat :=
  if uiFeeReceiver = 0 then 0
  else sizeDeltaUsd * getUiFeeFactor dataStore uiFeeReceiver / Precision.FLOAT_PRECISION /
    collateralTokenPrice.min

theorem getUiFees_returns (hrange : FeeFactorsInRange dataStore) {collateralTokenPrice : Price}
    (hprice : 0 < collateralTokenPrice.min) (uiFeeReceiver : Address) {sizeDeltaUsd : Nat}
    (hsize : sizeDeltaUsd < uintBound) :
    ∃ ui, getUiFees dataStore collateralTokenPrice sizeDeltaUsd uiFeeReceiver = .ok ui ∧
      ui.uiFeeAmount = uiFee dataStore uiFeeReceiver sizeDeltaUsd collateralTokenPrice := by
  unfold getUiFees uiFee
  split
  · exact ⟨_, rfl, rfl⟩
  · have hpercent : 5 * Precision.FLOAT_PRECISION / 100 ≤ Precision.FLOAT_PRECISION := by decide
    have hcharged := Precision.applyFactor_of_le hsize
      (Nat.le_trans (hrange.uiFee uiFeeReceiver) hpercent)
    simp only [Result.bind_eq_ok, div_eq_ok, Result.pure_eq_ok]
    exact ⟨_, ⟨_, hcharged.1, _, ⟨Nat.pos_iff_ne_zero.mp hprice, rfl⟩, rfl⟩, rfl⟩

/-- The values from which a funding fee is computed are in range. -/
structure FundingFits (latest stored : Int) (sizeInUsd : Nat) : Prop where
  diff : IsInt256 (latest - stored)
  size : sizeInUsd / Precision.FLOAT_PRECISION_SQRT < intBound
  numerator : IsInt256 ((sizeInUsd / Precision.FLOAT_PRECISION_SQRT : Nat) * (latest - stored))
  rounded : 0 < ((sizeInUsd / Precision.FLOAT_PRECISION_SQRT : Nat) : Int) * (latest - stored) →
    IsInt256 ((sizeInUsd / Precision.FLOAT_PRECISION_SQRT : Nat) * (latest - stored) +
      Precision.FLOAT_PRECISION)

/-- Dividing by the precision stays in range, on both sides of zero. -/
theorem isInt256_tdiv_precision {x : Int} (h : IsInt256 x) :
    IsInt256 (x.tdiv Precision.FLOAT_PRECISION) ∧ IsInt256 (-x.tdiv Precision.FLOAT_PRECISION) := by
  have hbound := intBound_pos
  unfold IsInt256 at *
  rcases Int.le_total 0 x with hpos | hneg
  · rw [Int.tdiv_eq_ediv_of_nonneg hpos]
    have hprecision : (Precision.FLOAT_PRECISION : Int) = 10 ^ 30 := rfl
    rw [hprecision]
    omega
  · rw [show x = -(-x) by omega, Int.neg_tdiv, Int.tdiv_eq_ediv_of_nonneg (by omega)]
    have hprecision : (Precision.FLOAT_PRECISION : Int) = 10 ^ 30 := rfl
    rw [hprecision]
    omega

theorem FundingFits.of_ok {latest stored amount : Int} {sizeInUsd : Nat}
    (h : getFundingFeeAmount latest stored sizeInUsd = .ok amount) :
    FundingFits latest stored sizeInUsd := by
  simp only [getFundingFeeAmount, Result.bind_eq_ok, subInt_eq_ok, toInt256_eq_ok,
    mulInt_eq_ok] at h
  obtain ⟨_, ⟨hdiff, rfl⟩, _, ⟨hsize, rfl⟩, _, ⟨hnumerator, rfl⟩, h⟩ := h
  refine ⟨hdiff, hsize, hnumerator, fun hpos => ?_⟩
  rw [if_neg (by omega), if_neg (by omega), Calc.roundUpMagnitudeDivision, if_neg (by omega)] at h
  simp only [Result.bind_eq_ok, toInt256_eq_ok, addInt_eq_ok] at h
  obtain ⟨_, ⟨-, rfl⟩, _, ⟨hrounded, -⟩, -⟩ := h
  exact hrounded

/-- A funding fee whose values are in range is computed, and can be negated. -/
theorem FundingFits.returns {latest stored : Int} {sizeInUsd : Nat}
    (h : FundingFits latest stored sizeInUsd) :
    ∃ amount, getFundingFeeAmount latest stored sizeInUsd = .ok amount ∧ IsInt256 (-amount) := by
  obtain ⟨hdiff, hsize, hnumerator, hrounded⟩ := h
  have hne : (Precision.FLOAT_PRECISION : Int) ≠ 0 := by decide
  have hfits : Precision.FLOAT_PRECISION < intBound := by decide
  simp only [getFundingFeeAmount, Result.bind_eq_ok, subInt_eq_ok, toInt256_eq_ok, mulInt_eq_ok]
  have hquotient := isInt256_tdiv_precision hnumerator
  rcases Int.lt_trichotomy
    (((sizeInUsd / Precision.FLOAT_PRECISION_SQRT : Nat) : Int) * (latest - stored)) 0 with
    hneg | hzero | hpos
  · refine ⟨_, ⟨_, ⟨hdiff, rfl⟩, _, ⟨hsize, rfl⟩, _, ⟨hnumerator, rfl⟩, ?_⟩, hquotient.2⟩
    rw [if_neg (by omega), if_pos hneg]
    simp only [Result.bind_eq_ok, toInt256_eq_ok]
    exact ⟨_, ⟨hfits, rfl⟩, divInt_eq_ok.mpr ⟨hne, hquotient.1, rfl⟩⟩
  · refine ⟨0, ⟨_, ⟨hdiff, rfl⟩, _, ⟨hsize, rfl⟩, _, ⟨hnumerator, rfl⟩, ?_⟩, by decide⟩
    rw [if_pos hzero]
    rfl
  · have hsum := hrounded hpos
    have hprev : IsInt256 (((sizeInUsd / Precision.FLOAT_PRECISION_SQRT : Nat) : Int) *
        (latest - stored) + Precision.FLOAT_PRECISION - 1) := by
      unfold IsInt256 at hsum ⊢
      omega
    have hup := isInt256_tdiv_precision hprev
    refine ⟨_, ⟨_, ⟨hdiff, rfl⟩, _, ⟨hsize, rfl⟩, _, ⟨hnumerator, rfl⟩, ?_⟩, hup.2⟩
    rw [if_neg (by omega), if_neg (by omega), Calc.roundUpMagnitudeDivision, if_neg (by omega)]
    simp only [Result.bind_eq_ok, toInt256_eq_ok, addInt_eq_ok, subInt_eq_ok]
    exact ⟨_, ⟨hfits, rfl⟩, _, ⟨hsum, rfl⟩, _, ⟨hprev, rfl⟩, _, ⟨hfits, rfl⟩,
      divInt_eq_ok.mpr ⟨hne, hup.1, rfl⟩⟩

/-- The funding fees are computed when the values of both tokens are in range. -/
theorem getFundingFees_returns_iff {position : Position} {longToken shortToken : Address}
    {latestLong latestShort : Int} :
    (∃ funding, getFundingFees position longToken shortToken latestLong latestShort =
        .ok funding) ↔
      FundingFits latestLong position.longTokenFundingAmountPerSize position.sizeInUsd ∧
        FundingFits latestShort position.shortTokenFundingAmountPerSize position.sizeInUsd := by
  constructor
  · rintro ⟨funding, h⟩
    simp only [getFundingFees, Result.bind_eq_ok] at h
    obtain ⟨_, hlong, _, hshort, -⟩ := h
    exact ⟨FundingFits.of_ok hlong, FundingFits.of_ok hshort⟩
  · rintro ⟨hlong, hshort⟩
    have hclaimable : ∀ amount : Int, IsInt256 (-amount) → ∃ claimable : Nat,
        (if amount < 0 then do toUint256 (← negInt amount) else pure 0 : Result Nat) =
          .ok claimable := by
      intro amount hneg
      split
      · simp only [Result.bind_eq_ok, negInt_eq_ok, toUint256_eq_ok]
        exact ⟨_, _, ⟨hneg, rfl⟩, Int.toNat_of_nonneg (by omega)⟩
      · exact ⟨0, rfl⟩
    obtain ⟨longFee, hlong, hlongNeg⟩ := hlong.returns
    obtain ⟨shortFee, hshort, hshortNeg⟩ := hshort.returns
    obtain ⟨claimableLong, hclaimLong⟩ := hclaimable longFee hlongNeg
    obtain ⟨claimableShort, hclaimShort⟩ := hclaimable shortFee hshortNeg
    simp only [getFundingFees, Result.bind_eq_ok, Result.pure_eq_ok]
    exact ⟨_, _, hlong, _, hshort, _, hclaimLong, _, hclaimShort, rfl⟩

theorem getBorrowingFeesUsd_eq_ok {position : Position} {borrowingFeeUsd : Nat} :
    MarketUtils.getBorrowingFees dataStore position = .ok borrowingFeeUsd ↔
      position.borrowingFactor ≤
          getCumulativeBorrowingFactor dataStore position.market position.isLong ∧
        position.sizeInUsd *
            (getCumulativeBorrowingFactor dataStore position.market position.isLong -
              position.borrowingFactor) / Precision.FLOAT_PRECISION < uintBound ∧
        borrowingFeeUsd = position.sizeInUsd *
            (getCumulativeBorrowingFactor dataStore position.market position.isLong -
              position.borrowingFactor) / Precision.FLOAT_PRECISION := by
  have hne : Precision.FLOAT_PRECISION ≠ 0 := by decide
  simp only [MarketUtils.getBorrowingFees, Result.bind_eq_ok, revertIf, Result.revertIf_eq_ok,
    sub_eq_ok, Precision.applyFactor, Precision.applyFraction, mulDiv_eq_ok, Nat.not_lt]
  constructor
  · rintro ⟨_, hle, _, ⟨-, rfl⟩, -, hfits, rfl⟩
    exact ⟨hle, hfits, rfl⟩
  · rintro ⟨hle, hfits, rfl⟩
    exact ⟨(), hle, _, ⟨hle, rfl⟩, hne, hfits, rfl⟩

/-- The borrowing fee of a position in usd, at the stored cumulative factor. -/
def borrowingFeeUsd (dataStore : DataStore) (position : Position) : Nat :=
  position.sizeInUsd * (getCumulativeBorrowingFactor dataStore position.market position.isLong -
    position.borrowingFactor) / Precision.FLOAT_PRECISION

/-- What the fees of a position are computed from is in range: the borrowing factor of the
position is not above the cumulative one, and no amount is too large for its type. -/
structure PositionFeesFit (dataStore : DataStore) (params : GetPositionFeesParams) : Prop where
  borrowingFactor : params.position.borrowingFactor ≤
    getCumulativeBorrowingFactor dataStore params.position.market params.position.isLong
  borrowingFee : borrowingFeeUsd dataStore params.position < uintBound
  longFunding : FundingFits (getFundingAmountPerSize dataStore params.position.market
    params.longToken params.position.isLong) params.position.longTokenFundingAmountPerSize
    params.position.sizeInUsd
  shortFunding : FundingFits (getFundingAmountPerSize dataStore params.position.market
    params.shortToken params.position.isLong) params.position.shortTokenFundingAmountPerSize
    params.position.sizeInUsd
  totalCost : ∀ funding, getFundingFees params.position params.longToken params.shortToken
      (getFundingAmountPerSize dataStore params.position.market params.longToken
        params.position.isLong)
      (getFundingAmountPerSize dataStore params.position.market params.shortToken
        params.position.isLong) = .ok funding →
    positionFee dataStore params.position.market params.sizeDeltaUsd params.collateralTokenPrice +
      funding.fundingFeeAmount +
      borrowingFeeUsd dataStore params.position / params.collateralTokenPrice.min +
      uiFee dataStore params.uiFeeReceiver params.sizeDeltaUsd params.collateralTokenPrice <
        uintBound

/-- The fees of a position are computed exactly when nothing is too large: no subtraction
underflows. -/
theorem getPositionFees_returns_iff (hrange : FeeFactorsInRange dataStore)
    (hshares : ReferralSharesInRange env) {params : GetPositionFeesParams}
    (hprice : 0 < params.collateralTokenPrice.min) (hsize : params.sizeDeltaUsd < uintBound) :
    (∃ fees, getPositionFees env dataStore params = .ok fees) ↔
      PositionFeesFit dataStore params := by
  obtain ⟨base, hbase, hpositionFee, hcuts⟩ := getPositionFeesAfterReferral_returns hrange hshares
    hprice params.position.account params.position.market hsize
  obtain ⟨ui, hui, huiFee⟩ := getUiFees_returns hrange hprice params.uiFeeReceiver hsize
  constructor
  · rintro ⟨fees, h⟩
    simp only [getPositionFees, hbase, Result.ok_bind, Result.bind_eq_ok, add_eq_ok] at h
    obtain ⟨usd, husd, borrowing, hborrowing, _, -, _, -, _, -, funding, hfunding, h⟩ := h
    obtain ⟨ui', hui', h⟩ := h
    rw [hui] at hui'
    obtain rfl := Except.ok.inj hui'
    obtain ⟨_, ⟨-, rfl⟩, _, ⟨-, rfl⟩, _, ⟨htotal, rfl⟩, -⟩ := h
    obtain ⟨hguard, hborrowingFits, rfl⟩ := getBorrowingFeesUsd_eq_ok.mp husd
    obtain ⟨hlong, hshort⟩ := getFundingFees_returns_iff.mp ⟨funding, hfunding⟩
    refine ⟨hguard, hborrowingFits, hlong, hshort, fun funding' hfunding' => ?_⟩
    obtain rfl := Except.ok.inj (hfunding.symm.trans hfunding')
    obtain ⟨borrowing', hborrowing', hamount, -⟩ :=
      getBorrowingFees_returns hrange hprice hborrowingFits
    obtain rfl := Except.ok.inj (hborrowing.symm.trans hborrowing')
    rw [← hpositionFee, ← huiFee]
    exact hamount ▸ htotal
  · intro h
    have husd := getBorrowingFeesUsd_eq_ok.mpr ⟨h.borrowingFactor, h.borrowingFee, rfl⟩
    obtain ⟨borrowing, hborrowing, hamount, hreceiver⟩ :=
      getBorrowingFees_returns hrange hprice h.borrowingFee
    obtain ⟨funding, hfunding⟩ := getFundingFees_returns_iff.mpr ⟨h.longFunding, h.shortFunding⟩
    have htotal := h.totalCost funding hfunding
    have hpool := hcuts.receiver_le
    have hdiscount := hcuts.discount_le
    rw [← hpositionFee, ← huiFee, ← hamount] at htotal
    simp only [getPositionFees, Result.bind_eq_ok, add_eq_ok, sub_eq_ok, Result.pure_eq_ok]
    exact ⟨_, base, hbase, _, husd, borrowing, hborrowing, _, ⟨by omega, rfl⟩, _,
      ⟨by omega, rfl⟩, _, ⟨by omega, rfl⟩, funding, hfunding, ui, hui, _, ⟨by omega, rfl⟩, _,
      ⟨by omega, rfl⟩, _, ⟨by omega, rfl⟩, _, ⟨by omega, rfl⟩, rfl⟩

end PositionPricingUtils

open SwapPricingUtils PositionPricingUtils

/-- **Fee decomposition.** With factors and referral shares in range, the fees of a swap are
computed for every amount, the fees of a position whenever nothing is too large, and the parts
make up the whole. -/
theorem fees_decomposed (hrange : FeeFactorsInRange dataStore)
    (hshares : ReferralSharesInRange env) :
    (∀ (marketToken : Address) (amount : Nat) (uiFeeReceiver : Address), amount < uintBound →
      ∃ fees, getSwapFees dataStore marketToken amount uiFeeReceiver = .ok fees ∧
        amount = fees.amountAfterFees + fees.feeAmountForPool + fees.feeReceiverAmount +
          fees.uiFeeAmount) ∧
    ∀ params : PositionPricingUtils.GetPositionFeesParams, 0 < params.collateralTokenPrice.min →
      params.collateralTokenPrice.min ≤ params.collateralTokenPrice.max →
      params.sizeDeltaUsd < uintBound →
      ((∃ fees, getPositionFees env dataStore params = .ok fees) ↔
        PositionFeesFit dataStore params) ∧
      ∀ fees, getPositionFees env dataStore params = .ok fees →
        fees.totalNetCostAmount = fees.feeReceiverAmount + fees.feeAmountForPool +
          fees.referral.affiliateRewardAmount + fees.funding.fundingFeeAmount +
          fees.ui.uiFeeAmount := by
  constructor
  · intro marketToken amount uiFeeReceiver hamount
    obtain ⟨fees, hfees⟩ := getSwapFees_returns hrange marketToken hamount uiFeeReceiver
    have hsplit := getSwapFees_split hfees
    refine ⟨fees, hfees, ?_⟩
    omega
  · intro params hprice _ hsize
    refine ⟨getPositionFees_returns_iff hrange hshares hprice hsize, fun fees hfees => ?_⟩
    exact (getPositionFees_split hfees).2

/-- A rebate of half the fee, of which a quarter goes to the trader. -/
def referredEnv : Env :=
  { Env.plain 0 (fun _ => ⟨0, 0⟩) with
    traderReferralCodes := fun _ => 1
    tiers := fun _ => (5000, 2500) }

/-- A swap fee and a position fee of 0.1% on market `1`, set through `Config`. -/
def feeStore : Result DataStore := do
  let dataStore ← Config.setUint .empty .SWAP_FEE_FACTOR [(1 : Nat)] (10 ^ 27)
  Config.setUint dataStore .POSITION_FEE_FACTOR [(1 : Nat)] (10 ^ 27)

/-- An increase of `10 ^ 36` at a price of `10 ^ 12` pays a position fee of `10 ^ 21`. -/
def feeParams : PositionPricingUtils.GetPositionFeesParams where
  position := { Position.empty with market := 1, account := 5, collateralToken := 3 }
  collateralTokenPrice := ⟨10 ^ 12, 10 ^ 12⟩
  longToken := 2
  shortToken := 3
  sizeDeltaUsd := 10 ^ 36
  uiFeeReceiver := 0

theorem fees_decomposed_referred :
    ∃ dataStore swapFees positionFees, feeStore = .ok dataStore ∧
      getSwapFees dataStore 1 1000000 0 = .ok swapFees ∧
      1000000 = swapFees.amountAfterFees + swapFees.feeAmountForPool +
        swapFees.feeReceiverAmount + swapFees.uiFeeAmount ∧
      getPositionFees referredEnv dataStore feeParams = .ok positionFees ∧
      0 < positionFees.referral.affiliateRewardAmount ∧
      positionFees.totalNetCostAmount = positionFees.feeReceiverAmount +
        positionFees.feeAmountForPool + positionFees.referral.affiliateRewardAmount +
        positionFees.funding.fundingFeeAmount + positionFees.ui.uiFeeAmount := by
  obtain ⟨dataStore, hstore, hfees⟩ :=
    (by decide +kernel : feeStore.Satisfies fun dataStore =>
      (getPositionFees referredEnv dataStore feeParams).Satisfies fun fees =>
        0 < fees.referral.affiliateRewardAmount).exists
  have hrange : FeeFactorsInRange dataStore := by
    simp only [feeStore, Result.bind_eq_ok] at hstore
    obtain ⟨_, hswap, hposition⟩ := hstore
    exact (FeeFactorsInRange.empty.setUint hswap).setUint hposition
  have hshares : ReferralSharesInRange referredEnv :=
    ⟨fun _ => (by decide : 5000 ≤ 10000), fun _ => (by decide : 2500 ≤ 10000),
      fun _ => Nat.zero_le _⟩
  obtain ⟨hswaps, hpositions⟩ := fees_decomposed hrange hshares
  obtain ⟨swapFees, hswapFees, hswapSum⟩ := hswaps 1 1000000 0 (by decide)
  obtain ⟨positionFees, hrun, haffiliate⟩ := hfees.exists
  have hsum := (hpositions feeParams (by decide) (by decide) (by decide)).2 positionFees hrun
  exact ⟨dataStore, swapFees, positionFees, hstore, hswapFees, hswapSum, hrun, haffiliate, hsum⟩

end GmxSynthetics
