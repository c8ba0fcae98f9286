import GmxSynthetics.Position.PositionAccounting

/-!
# What a decrease takes off the sums

A decrease stores or removes its position before it takes the difference off the collateral sum
and the open interest of the position's group. Split there, what it is about to take off is part
of what the sums hold.

* `decreasePosition_eq` — the two halves of a decrease;
* `untilSums_covered` — what the second half takes off is covered after the first.
-/

namespace GmxSynthetics

open Evm MarketUtils PositionUtils PositionPricingUtils DecreasePositionCollateralUtils

variable {env : Env} {params : UpdatePositionParams} {w w' : World}

namespace DecreasePositionUtils

/-- `finishDecrease` up to the collateral sum: the position that is left, and the collateral that
is taken off the sum. -/
def closeDecreased (env : Env) (params : UpdatePositionParams)
    (values : DecreasePositionCollateralValues) (fees : PositionFees) :
    Tx (Position × DecreasePositionCollateralValues × Nat) := do
  let initialCollateralAmount := params.position.collateralAmount
  let nextPositionSizeInUsd ← sub params.position.sizeInUsd params.order.sizeDeltaUsd
  let nextPositionBorrowingFactor ← readStore fun dataStore =>
    MarketUtils.getCumulativeBorrowingFactor dataStore params.market.marketToken
      params.position.isLong
  updateTotalBorrowing params nextPositionSizeInUsd nextPositionBorrowingFactor
  let nextPosition : Position :=
    { params.position with
      sizeInUsd := nextPositionSizeInUsd
      sizeInTokens := ← sub params.position.sizeInTokens values.sizeDeltaInTokens
      collateralAmount := values.remainingCollateralAmount
      decreasedAtBlock := env.blockNumber }
  incrementClaimableFundingAmount params fees
  let (nextPosition, values) ←
    closeOrStore params nextPosition values fees nextPositionBorrowingFactor
  let collateralTaken ← sub initialCollateralAmount nextPosition.collateralAmount
  pure (nextPosition, values, collateralTaken)

/-- `finishDecrease` from the collateral sum on. -/
def moveSums (env : Env) (params : UpdatePositionParams) (prices : MarketPrices)
    (fees : PositionFees) (nextPosition : Position) (values : DecreasePositionCollateralValues)
    (collateralTaken : Nat) : Tx (DecreasePositionResult × PositionFees) := do
  let params := { params with position := nextPosition }
  let _ ← MarketUtils.applyDeltaToCollateralSum nextPosition.market nextPosition.collateralToken
    nextPosition.isLong (← negInt (← toInt256 collateralTaken))
  updateOpenInterest params (← negInt (← toInt256 params.order.sizeDeltaUsd))
    (← negInt (← toInt256 values.sizeDeltaInTokens))
  let _ ← MarketUtils.applyDeltaToPoolAmount params.market.marketToken
    nextPosition.collateralToken (← toInt256 fees.feeAmountForPool)
  handleReferral params fees
  (if nextPosition.sizeInUsd ≠ 0 ∨ nextPosition.sizeInTokens ≠ 0 then
    viewStore fun dataStore =>
      validatePosition env dataStore nextPosition params.market prices false false
  else pure ())
  let values ←
    DecreasePositionSwapUtils.swapWithdrawnCollateralToPnlToken env params values
  pure
    ({ outputToken := values.output.outputToken
       outputAmount := values.output.outputAmount
       secondaryOutputToken := values.output.secondaryOutputToken
       secondaryOutputAmount := values.output.secondaryOutputAmount }, fees)

theorem finishDecrease_eq {prices : MarketPrices} {values : DecreasePositionCollateralValues}
    {fees : PositionFees} :
    finishDecrease env params prices values fees = (do
      let (nextPosition, values, collateralTaken) ← closeDecreased env params values fees
      moveSums env params prices fees nextPosition values collateralTaken) := by
  unfold finishDecrease closeDecreased moveSums
  simp only [bind_assoc, pure_bind]

/-- A decrease up to the collateral sum. -/
def untilSums (env : Env) (params : UpdatePositionParams) :
    Tx (UpdatePositionParams × MarketPrices × PositionFees × Position ×
      DecreasePositionCollateralValues × Nat) := do
  let (params, prices) ← prepareDecrease env params
  let (values, fees) ← processCollateral env params (makeCache params prices)
  let closed ← closeDecreased env params values fees
  pure (params, prices, fees, closed)

/-- The halves of a decrease. -/
theorem decreasePosition_eq (env : Env) (params : UpdatePositionParams) :
    decreasePosition env params = (do
      let (params, prices, fees, nextPosition, values, collateralTaken) ← untilSums env params
      moveSums env params prices fees nextPosition values collateralTaken) := by
  unfold decreasePosition untilSums
  simp only [bind_assoc, pure_bind, finishDecrease_eq]

/-- Until the sums are moved their entries hold what they held before. -/
theorem untilSums_eq_ok (hkey : params.positionKey.slot = .position)
    {params' : UpdatePositionParams} {prices : MarketPrices} {fees : PositionFees}
    {position : Position} {values : DecreasePositionCollateralValues} {collateralTaken : Nat}
    (h : untilSums env params w =
      .ok ((params', prices, fees, position, values, collateralTaken), w')) :
    position.group = params.position.group ∧
      collateralTaken ≤ params.position.collateralAmount ∧
      values.sizeDeltaInTokens ≤ params.position.sizeInTokens ∧
      (∀ g, w'.dataStore.getUint (Aggregate.collateralSum g).key =
        w.dataStore.getUint (Aggregate.collateralSum g).key) ∧
      ∀ g, w'.dataStore.getUint (Aggregate.openInterestInTokens g).key =
        w.dataStore.getUint (Aggregate.openInterestInTokens g).key := by
  unfold untilSums at h
  obtain ⟨⟨prepared, prices'⟩, w₁, hprepare, h⟩ := Tx.bind_eq_ok.mp h
  obtain ⟨⟨values', fees'⟩, w₂, hprocess, h⟩ := Tx.bind_eq_ok.mp h
  obtain ⟨closed, w₃, hclosed, h⟩ := Tx.bind_eq_ok.mp h
  obtain ⟨heq, rfl⟩ := Tx.pure_eq_ok.mp h
  obtain ⟨order, -, -, rfl, hstate⟩ := prepareDecrease_eq_ok hprepare
  have hraise := processCollateral_raises hstate hprocess
  unfold closeDecreased at hclosed
  simp only [↓Tx.lift_bind_eq_ok, ↓readStore_bind_eq_ok, sub_eq_ok] at hclosed
  obtain ⟨_, -, hclosed⟩ := hclosed
  obtain ⟨_, w₄, hborrowing, hclosed⟩ := Tx.bind_eq_ok.mp hclosed
  simp only [↓Tx.lift_bind_eq_ok, sub_eq_ok] at hclosed
  obtain ⟨_, ⟨htokens, rfl⟩, hclosed⟩ := hclosed
  obtain ⟨_, w₅, hfunding, hclosed⟩ := Tx.bind_eq_ok.mp hclosed
  obtain ⟨⟨next, values''⟩, w₆, hclose, hclosed⟩ := Tx.bind_eq_ok.mp hclosed
  simp only [↓Tx.lift_bind_eq_ok, sub_eq_ok, Tx.pure_eq_ok] at hclosed
  obtain ⟨_, ⟨hcollateral, rfl⟩, rfl, rfl⟩ := hclosed
  simp only [Prod.mk.injEq] at heq
  obtain ⟨rfl, rfl, rfl, rfl, rfl, rfl⟩ := heq
  obtain ⟨_, hstore, hgroup, -, hsame, -⟩ := closeOrStore_stores
    (show ({ params with order } : UpdatePositionParams).positionKey.slot = .position from hkey)
    hclose
  have hborrowed := MarketUtils.updateTotalBorrowing_shifts hborrowing
  have hclaimable : Shifts 0 w₄ w₅ := Shifts.of_writes
    (incrementClaimableFundingAmount_writes (List.mem_singleton_self _) _ _) (by decide) hfunding
  have hkept : ∀ x : Aggregate, (∀ side, x ≠ .totalBorrowing side) →
      w₆.dataStore.getUint x.key = w.dataStore.getUint x.key := by
    intro x hx
    have hmoved := (hborrowed.trans hclaimable).aggregate x
    rw [Pi.add_apply, Pi.single_eq_of_ne (hx _), Pi.zero_apply, add_zero, add_zero] at hmoved
    rw [hstore.aggregate x, ← hraise.aggregate x]
    exact_mod_cast hmoved
  refine ⟨hgroup, Nat.sub_le _ _, ?_, ?_, ?_⟩
  · rw [hsame]
    exact htokens
  · exact fun g => hkept (.collateralSum g) fun side => by simp
  · exact fun g => hkept (.openInterestInTokens g) fun side => by simp

/-- The aggregates of its group and side hold a stored position. -/
theorem stored_covered {residues : List Residue} (hstored : params.Stored w.dataStore)
    (hsound : (Accounting.of w.dataStore).Sound residues) :
    params.position.sizeInUsd ≤
        w.dataStore.getUint (Aggregate.openInterest params.position.group).key ∧
      params.position.sizeInTokens ≤
        w.dataStore.getUint (Aggregate.openInterestInTokens params.position.group).key ∧
      params.position.collateralAmount ≤
        w.dataStore.getUint (Aggregate.collateralSum params.position.group).key ∧
      borrowed params.position.sizeInUsd params.position.borrowingFactor ≤
        w.dataStore.getUint (Aggregate.totalBorrowing params.position.group.side).key := by
  rw [← hstored.sizeInUsd, ← hstored.sizeInTokens, ← hstored.collateralAmount,
    ← hstored.borrowingFactor]
  by_cases hmem : params.positionKey ∈ (Accounting.of w.dataStore).keys
  · obtain ⟨hkeyed, -⟩ := PositionGroup.key_inj.mp
      (hstored.positionKey.symm.trans (hsound.keyed _ hmem))
    have hside : ((Accounting.of w.dataStore).position params.positionKey).group.side =
        params.position.group.side := congrArg PositionGroup.side hkeyed.symm
    refine ⟨?_, ?_, ?_, ?_⟩
    · rw [show w.dataStore.getUint (Aggregate.openInterest params.position.group).key = _ from
        hsound.openInterest _]
      exact Nat.le_add_right_of_le (Accounting.le_sumOver (·.sizeInUsd) hmem hkeyed.symm)
    · rw [show w.dataStore.getUint (Aggregate.openInterestInTokens params.position.group).key = _
        from hsound.openInterestInTokens _]
      exact Accounting.le_sumOver (·.sizeInTokens) hmem hkeyed.symm
    · rw [show w.dataStore.getUint (Aggregate.collateralSum params.position.group).key = _ from
        hsound.collateralSum _]
      exact Accounting.le_sumOver (·.collateralAmount) hmem hkeyed.symm
    · rw [show w.dataStore.getUint (Aggregate.totalBorrowing params.position.group.side).key = _
        from hsound.totalBorrowing _]
      exact Nat.le_add_right_of_le (Accounting.le_sumOver
        (fun p => borrowed p.sizeInUsd p.borrowingFactor) hmem hside)
  · have hempty : PositionStoreUtils.get w.dataStore params.positionKey = Position.empty :=
      hsound.absent _ hmem
    rw [hempty]
    exact ⟨Nat.zero_le _, Nat.zero_le _, Nat.zero_le _, Nat.zero_le _⟩

/-- **What a decrease takes off is there.** -/
theorem untilSums_covered {residues : List Residue} (hstored : params.Stored w.dataStore)
    (hsound : (Accounting.of w.dataStore).Sound residues)
    {params' : UpdatePositionParams} {prices : MarketPrices} {fees : PositionFees}
    {position : Position} {values : DecreasePositionCollateralValues} {collateralTaken : Nat}
    (h : untilSums env params w =
      .ok ((params', prices, fees, position, values, collateralTaken), w')) :
    collateralTaken ≤ w'.dataStore.getUint
        (Keys.collateralSumKey position.market position.collateralToken position.isLong) ∧
      values.sizeDeltaInTokens ≤ w'.dataStore.getUint
        (Keys.openInterestInTokensKey position.market position.collateralToken
          position.isLong) := by
  obtain ⟨hgroup, hcollateral, htokens, hsum, hinterest⟩ :=
    untilSums_eq_ok (slot_positionKey hstored) h
  obtain ⟨-, htokens', hcollateral', -⟩ := stored_covered hstored hsound
  rw [← hgroup] at hcollateral' htokens'
  constructor
  · change _ ≤ w'.dataStore.getUint (Aggregate.collateralSum position.group).key
    rw [hsum]
    exact hcollateral.trans hcollateral'
  · change _ ≤ w'.dataStore.getUint (Aggregate.openInterestInTokens position.group).key
    rw [hinterest]
    exact htokens.trans htokens'

end DecreasePositionUtils

end GmxSynthetics
