import GmxSynthetics.Position.AggregateShift
import GmxSynthetics.Position.PositionBook

/-!
# Position updates are accounted for

An increase and a decrease of a position, as the code computes them, are updates in the sense
of `Accounting.Update`.

* `Changes` — the parts of an update put together: the factor is raised, the aggregates are
  shifted, the position is stored or removed;
* `increasePosition_update`, `decreasePosition_update`.
-/

namespace GmxSynthetics

open Evm MarketUtils PositionUtils PositionPricingUtils DecreasePositionCollateralUtils
  DecreasePositionUtils

variable {env : Env} {params : UpdatePositionParams} {w w' : World}

/-- What the handlers hand to a position update, in terms of the store: the position is what is
stored under its key, or a fresh one. -/
structure PositionUtils.UpdatePositionParams.Stored (params : UpdatePositionParams)
    (dataStore : DataStore) : Prop where
  positionKey : params.positionKey = params.position.group.key params.position.account
  account_ne : params.position.account ≠ 0
  isLong : params.order.isLong = params.position.isLong
  isCollateral : (Accounting.of dataStore).IsCollateral params.position.group
  sizeInUsd : (PositionStoreUtils.get dataStore params.positionKey).sizeInUsd =
    params.position.sizeInUsd
  sizeInTokens : (PositionStoreUtils.get dataStore params.positionKey).sizeInTokens =
    params.position.sizeInTokens
  collateralAmount : (PositionStoreUtils.get dataStore params.positionKey).collateralAmount =
    params.position.collateralAmount
  borrowingFactor : (PositionStoreUtils.get dataStore params.positionKey).borrowingFactor =
    params.position.borrowingFactor

/-- Parameters stay consistent with the position updated. -/
theorem PositionUtils.UpdatePositionParams.Consistent.withPosition {position : Position}
    (hparams : params.Consistent) (hmarket : position.market = params.position.market)
    (hcollateral : position.collateralToken = params.position.collateralToken) :
    UpdatePositionParams.Consistent { params with position } where
  orderMarket := hparams.orderMarket
  positionMarket := hmarket.trans hparams.positionMarket
  collateralToken := by
    dsimp only
    rw [hcollateral]
    exact hparams.collateralToken

-- ---------------------------------------------------------------------------
-- The parts of an update
-- ---------------------------------------------------------------------------

/-- The cumulative factors may rise, and nothing else of the view moves. -/
structure Raises (w w' : World) : Prop extends SamePositions w w' where
  aggregate : ∀ x : Aggregate, w'.dataStore.getUint x.key = w.dataStore.getUint x.key
  cumulativeBorrowingFactor : ∀ side : MarketSide,
    getCumulativeBorrowingFactor w.dataStore side.market side.isLong ≤
      getCumulativeBorrowingFactor w'.dataStore side.market side.isLong

/-- The list of positions when one is stored under a key, or removed. -/
def nextKeys (keys : List StoreKey) (key : StoreKey) : Option Position → List StoreKey
  | some _ => EnumerableSet.add keys key
  | none => EnumerableSet.remove keys key

section NextKeys

variable {keys : List StoreKey} {key : StoreKey} {next : Option Position}

/-- No key twice after an update. -/
theorem nodup_nextKeys (hnodup : keys.Nodup) : (nextKeys keys key next).Nodup := by
  cases next with
  | some position => exact EnumerableSet.nodup_add hnodup key
  | none => exact EnumerableSet.nodup_remove hnodup key

/-- The other keys are those of before. -/
theorem mem_nextKeys_of_ne (hnodup : keys.Nodup) {key' : StoreKey} (hne : key' ≠ key) :
    key' ∈ nextKeys keys key next ↔ key' ∈ keys := by
  cases next with
  | some position => exact EnumerableSet.mem_add.trans (or_iff_left hne)
  | none => exact (EnumerableSet.mem_remove hnodup).trans (and_iff_left hne)

/-- A position that is removed is off the list. -/
theorem not_mem_nextKeys_none (hnodup : keys.Nodup) : key ∉ nextKeys keys key none := by
  intro hmem
  exact ((EnumerableSet.mem_remove hnodup).mp hmem).2 rfl

end NextKeys

/-- A position is stored under a key, or removed. -/
structure Stores (key : StoreKey) (next : Option Position) (w w' : World) : Prop where
  keys : w'.dataStore.bytes32Sets (.base .POSITION_LIST) =
    nextKeys (w.dataStore.bytes32Sets (.base .POSITION_LIST)) key next
  stored : ∀ position, next = some position →
    PositionStoreUtils.get w'.dataStore key = position
  position : (w.dataStore.bytes32Sets (.base .POSITION_LIST)).Nodup → ∀ key' ≠ key,
    PositionStoreUtils.get w'.dataStore key' = PositionStoreUtils.get w.dataStore key'
  market : MarketStoreUtils.get w'.dataStore = MarketStoreUtils.get w.dataStore
  aggregate : ∀ x : Aggregate, w'.dataStore.getUint x.key = w.dataStore.getUint x.key
  cumulativeBorrowingFactor : ∀ side : MarketSide,
    getCumulativeBorrowingFactor w'.dataStore side.market side.isLong =
      getCumulativeBorrowingFactor w.dataStore side.market side.isLong

/-- An update as a whole. -/
structure Changes (δ : Aggregate → Int) (key : StoreKey) (next : Option Position) (w w' : World) :
    Prop where
  keys : w'.dataStore.bytes32Sets (.base .POSITION_LIST) =
    nextKeys (w.dataStore.bytes32Sets (.base .POSITION_LIST)) key next
  stored : ∀ position, next = some position →
    PositionStoreUtils.get w'.dataStore key = position
  position : (w.dataStore.bytes32Sets (.base .POSITION_LIST)).Nodup →
    ∀ key' : StoreKey, key'.slot = .position → key' ≠ key →
      PositionStoreUtils.get w'.dataStore key' = PositionStoreUtils.get w.dataStore key'
  market : MarketStoreUtils.get w'.dataStore = MarketStoreUtils.get w.dataStore
  aggregate : ∀ x : Aggregate,
    (w'.dataStore.getUint x.key : Int) = w.dataStore.getUint x.key + δ x
  cumulativeBorrowingFactor : ∀ side : MarketSide,
    getCumulativeBorrowingFactor w.dataStore side.market side.isLong ≤
      getCumulativeBorrowingFactor w'.dataStore side.market side.isLong

theorem Changes.cast {δ δ' : Aggregate → Int} {key : StoreKey} {next : Option Position}
    (h : Changes δ key next w w') (hδ : δ = δ') : Changes δ' key next w w' := hδ ▸ h

/-- An update is put together from what is written before and after the position is stored. -/
theorem Changes.of_parts {δ δ' : Aggregate → Int} {key : StoreKey} {next : Option Position}
    {w₁ w₂ w₃ : World} (hkey : key.slot = .position) (hraise : Raises w w₁)
    (hbefore : Shifts δ w₁ w₂) (hstore : Stores key next w₂ w₃) (hafter : Shifts δ' w₃ w') :
    Changes (δ + δ') key next w w' where
  keys := by rw [hafter.keys, hstore.keys, hbefore.keys, hraise.keys]
  stored position hnext := by rw [hafter.position key hkey, hstore.stored position hnext]
  position hnodup key' hkey' hne := by
    rw [hafter.position key' hkey', hstore.position (by rwa [hbefore.keys, hraise.keys]) key' hne,
      hbefore.position key' hkey', hraise.position key' hkey']
  market := by rw [hafter.market, hstore.market, hbefore.market, hraise.market]
  aggregate x := by
    rw [hafter.aggregate x, hstore.aggregate x, hbefore.aggregate x, hraise.aggregate x,
      Pi.add_apply, add_assoc]
  cumulativeBorrowingFactor side := by
    rw [hafter.cumulativeBorrowingFactor side, hstore.cumulativeBorrowingFactor side,
      hbefore.cumulativeBorrowingFactor side]
    exact hraise.cumulativeBorrowingFactor side

/-- What an update shifts: each aggregate from what the position was to what it is. -/
def updateShift (group : PositionGroup) (nextSizeInUsd factor : Nat) (previous next : Position) :
    Aggregate → Int
  | .openInterest g => if group = g then (nextSizeInUsd : Int) - previous.sizeInUsd else 0
  | .openInterestInTokens g =>
    if group = g then (next.sizeInTokens : Int) - previous.sizeInTokens else 0
  | .collateralSum g =>
    if group = g then (next.collateralAmount : Int) - previous.collateralAmount else 0
  | .totalBorrowing side =>
    if group.side = side then (borrowed nextSizeInUsd factor : Int) -
      borrowed previous.sizeInUsd previous.borrowingFactor else 0

/-- An update moves the sum of its group, its open interest and its borrowing. -/
theorem updateShift_eq (group : PositionGroup) (nextSizeInUsd factor : Nat)
    (previous next : Position) :
    updateShift group nextSizeInUsd factor previous next =
      Pi.single (.collateralSum group)
          ((next.collateralAmount : Int) - previous.collateralAmount) +
        Pi.single (.totalBorrowing group.side) ((borrowed nextSizeInUsd factor : Int) -
          borrowed previous.sizeInUsd previous.borrowingFactor) +
        Pi.single (.openInterest group) ((nextSizeInUsd : Int) - previous.sizeInUsd) +
        Pi.single (.openInterestInTokens group)
          ((next.sizeInTokens : Int) - previous.sizeInTokens) := by
  funext x
  cases x <;> simp [updateShift, Pi.single_apply, eq_comm]

/-- The parts of an update make up an update of the view. -/
theorem Changes.update {group : PositionGroup} {account : Address} {nextSizeInUsd : Nat}
    {next : Option Position}
    (h : Changes (updateShift group nextSizeInUsd
      (getCumulativeBorrowingFactor w'.dataStore group.market group.isLong)
      (PositionStoreUtils.get w.dataStore (group.key account)) (next.getD Position.empty))
      (group.key account) next w w')
    (hkeys : ∀ key ∈ (Accounting.of w.dataStore).keys, key.slot = .position)
    (hnodup : (Accounting.of w.dataStore).keys.Nodup) (haccount : account ≠ 0)
    (hcollateral : (Accounting.of w.dataStore).IsCollateral group)
    (hnext : ∀ position, next = some position → position.group = group ∧
      position.account = account ∧ position.sizeInUsd = nextSizeInUsd ∧
      position.borrowingFactor =
        getCumulativeBorrowingFactor w'.dataStore group.market group.isLong ∧
      0 < nextSizeInUsd ∧ 0 < position.sizeInTokens) :
    (Accounting.of w.dataStore).Update (Accounting.of w'.dataStore) group account
      nextSizeInUsd := by
  have hself : (Accounting.of w'.dataStore).position (group.key account) =
      next.getD Position.empty := by
    cases next with
    | some position => exact h.stored position rfl
    | none =>
      apply PositionStoreUtils.get_of_not_mem
      rw [h.keys]
      exact not_mem_nextKeys_none hnodup
  constructor
  case account_ne => exact haccount
  case isCollateral => exact hcollateral
  case market => exact h.market
  case nodup =>
    intro _
    show (w'.dataStore.bytes32Sets (.base .POSITION_LIST)).Nodup
    rw [h.keys]
    exact nodup_nextKeys hnodup
  case mem_keys =>
    intro key hne
    show key ∈ w'.dataStore.bytes32Sets (.base .POSITION_LIST) ↔ _
    rw [h.keys]
    exact mem_nextKeys_of_ne hnodup hne
  case position =>
    intro key hmem hne
    exact h.position hnodup key (hkeys key hmem) hne
  case absent =>
    intro key hmem
    exact PositionStoreUtils.get_of_not_mem hmem
  case stored =>
    intro hmem
    cases next with
    | some position =>
      rw [hself]
      obtain ⟨hgroup, hposition, hsize, hfactor, hpositive⟩ := hnext position rfl
      exact ⟨hgroup, hposition, hsize, hfactor, hpositive⟩
    | none =>
      change group.key account ∈ w'.dataStore.bytes32Sets (.base .POSITION_LIST) at hmem
      rw [h.keys] at hmem
      exact absurd hmem (not_mem_nextKeys_none hnodup)
  case openInterest =>
    intro g
    have hx := h.aggregate (.openInterest g)
    simp only [updateShift] at hx
    show w'.dataStore.getUint (Aggregate.openInterest g).key +
      (if group = g then (PositionStoreUtils.get w.dataStore (group.key account)).sizeInUsd
        else 0) = w.dataStore.getUint (Aggregate.openInterest g).key + _
    split_ifs at hx ⊢ <;> omega
  case openInterestInTokens =>
    intro g
    have hx := h.aggregate (.openInterestInTokens g)
    simp only [updateShift] at hx
    rw [hself]
    show w'.dataStore.getUint (Aggregate.openInterestInTokens g).key +
      (if group = g then (PositionStoreUtils.get w.dataStore (group.key account)).sizeInTokens
        else 0) = w.dataStore.getUint (Aggregate.openInterestInTokens g).key + _
    split_ifs at hx ⊢ <;> omega
  case collateralSum =>
    intro g
    have hx := h.aggregate (.collateralSum g)
    simp only [updateShift] at hx
    rw [hself]
    show w'.dataStore.getUint (Aggregate.collateralSum g).key +
      (if group = g then (PositionStoreUtils.get w.dataStore (group.key account)).collateralAmount
        else 0) = w.dataStore.getUint (Aggregate.collateralSum g).key + _
    split_ifs at hx ⊢ <;> omega
  case cumulativeBorrowingFactor => exact h.cumulativeBorrowingFactor
  case totalBorrowing =>
    intro side
    have hx := h.aggregate (.totalBorrowing side)
    simp only [updateShift] at hx
    show w'.dataStore.getUint (Aggregate.totalBorrowing side).key +
      (if group.side = side then
        borrowed (PositionStoreUtils.get w.dataStore (group.key account)).sizeInUsd
          (PositionStoreUtils.get w.dataStore (group.key account)).borrowingFactor
        else 0) = w.dataStore.getUint (Aggregate.totalBorrowing side).key +
      if group.side = side then borrowed nextSizeInUsd
        (getCumulativeBorrowingFactor w'.dataStore side.market side.isLong) else 0
    split_ifs at hx ⊢ with hside
    · obtain rfl := hside
      simp only [PositionGroup.side] at hx ⊢
      omega
    · omega

-- ---------------------------------------------------------------------------
-- The parts, one by one
-- ---------------------------------------------------------------------------

/-- What storing or removing a position writes is none of the aggregates. -/
theorem Stores.of_sameOff {key : StoreKey} {next : Option Position}
    (h : World.SameOff (.position :: positionListSlots) w w')
    (hkeys : w'.dataStore.bytes32Sets (.base .POSITION_LIST) =
      nextKeys (w.dataStore.bytes32Sets (.base .POSITION_LIST)) key next)
    (hstored : ∀ position, next = some position →
      PositionStoreUtils.get w'.dataStore key = position)
    (hposition : (w.dataStore.bytes32Sets (.base .POSITION_LIST)).Nodup → ∀ key' ≠ key,
      PositionStoreUtils.get w'.dataStore key' = PositionStoreUtils.get w.dataStore key') :
    Stores key next w w' where
  keys := hkeys
  stored := hstored
  position := hposition
  market := funext fun _ => MarketStoreUtils.get_sameOff h (by decide) (by decide) _
  aggregate x := by
    cases x with
    | openInterest g => exact h.uint (.constant .OPEN_INTEREST) (by decide) _ rfl
    | openInterestInTokens g =>
      exact h.uint (.constant .OPEN_INTEREST_IN_TOKENS) (by decide) _ rfl
    | collateralSum g => exact h.uint (.constant .COLLATERAL_SUM) (by decide) _ rfl
    | totalBorrowing side => exact h.uint (.constant .TOTAL_BORROWING) (by decide) _ rfl
  cumulativeBorrowingFactor _ :=
    h.uint (.constant .CUMULATIVE_BORROWING_FACTOR) (by decide) _ rfl

/-- Storing a position puts it under its key. -/
theorem setPosition_stores {key : StoreKey} {position : Position} {u : Unit}
    (hkey : key.slot = .position)
    (h : writeStore (PositionStoreUtils.set · key position) w = .ok (u, w')) :
    Stores key (some position) w w' := by
  obtain rfl := writeStore_eq_ok.mp h
  refine .of_sameOff (positionStore.set_changesWithin (hkey ▸ List.mem_cons_self)
    (by decide) position w) positionStore.keys_set ?_ ?_
  · rintro _ ⟨⟩
    exact positionStore.get_set_self
  · intro _ key' hne
    exact positionStore.get_set_of_ne hne

/-- Removing one takes it off. -/
theorem removePosition_stores {key : StoreKey} {account : Address} {dataStore : DataStore}
    (hkey : key.slot = .position)
    (h : PositionStoreUtils.remove w.dataStore key account = .ok dataStore) :
    Stores key none w { w with dataStore } := by
  refine .of_sameOff (positionStore.remove_sameOff (hkey ▸ List.mem_cons_self)
    (by decide) h) (positionStore.keys_remove h) ?_ ?_
  · rintro _ ⟨⟩
  · intro hnodup key' hne
    exact positionStore.get_remove_of_ne h hnodup hne

/-- Sums that stay are not lowered. -/
theorem Raises.of_shifts (h : Shifts 0 w w') : Raises w w' where
  toSamePositions := h.toSamePositions
  aggregate x := by
    have hx := h.aggregate x
    rw [Pi.zero_apply, add_zero] at hx
    exact_mod_cast hx
  cumulativeBorrowingFactor side := (h.cumulativeBorrowingFactor side).ge

/-- What is not lowered twice is not lowered. -/
theorem Raises.trans {w'' : World} (h : Raises w w') (h' : Raises w' w'') : Raises w w'' where
  toSamePositions := h.toSamePositions.trans h'.toSamePositions
  aggregate x := (h'.aggregate x).trans (h.aggregate x)
  cumulativeBorrowingFactor side :=
    (h.cumulativeBorrowingFactor side).trans (h'.cumulativeBorrowingFactor side)

/-- The borrowing factor grows. -/
theorem incrementCumulativeBorrowingFactor_raises {market : Address} {isLong : Bool}
    {delta : Nat} {u : Unit}
    (h : incrementCumulativeBorrowingFactor market isLong delta w = .ok (u, w')) :
    Raises w w' := by
  simp only [incrementCumulativeBorrowingFactor, DataStore.incrementUint, Tx.bind_eq_ok,
    readStore_eq_ok, Tx.lift_eq_ok, add_eq_ok, writeStore_eq_ok, Tx.pure_eq_ok] at h
  obtain ⟨_, _, ⟨_, _, ⟨rfl, rfl⟩, _, _, ⟨⟨-, rfl⟩, rfl⟩, _, _, rfl, -, rfl⟩, -, rfl⟩ := h
  have hslot : (Keys.cumulativeBorrowingFactorKey market isLong).slot ∈
      [Slot.constant .CUMULATIVE_BORROWING_FACTOR] := List.mem_singleton_self _
  have hwrite : World.SameOff [.constant .CUMULATIVE_BORROWING_FACTOR] w
      { w with
        dataStore := w.dataStore.setUint (Keys.cumulativeBorrowingFactorKey market isLong)
          (w.dataStore.getUint (Keys.cumulativeBorrowingFactorKey market isLong) + delta) } :=
    DataStore.ChangesWithin.setUint hslot _ w
  constructor
  case toSamePositions =>
    exact ⟨rfl, fun key hkey => positionStore.get_sameOff hwrite (by decide)
      (by rw [hkey]; decide), rfl⟩
  case aggregate =>
    intro x
    cases x with
    | openInterest g => exact hwrite.uint (.constant .OPEN_INTEREST) (by decide) _ rfl
    | openInterestInTokens g =>
      exact hwrite.uint (.constant .OPEN_INTEREST_IN_TOKENS) (by decide) _ rfl
    | collateralSum g => exact hwrite.uint (.constant .COLLATERAL_SUM) (by decide) _ rfl
    | totalBorrowing side => exact hwrite.uint (.constant .TOTAL_BORROWING) (by decide) _ rfl
  case cumulativeBorrowingFactor =>
    intro side
    simp only [getCumulativeBorrowingFactor, getUint_setUint]
    split_ifs with hkey
    · rw [hkey]
      omega
    · exact le_refl _

/-- Bringing the funding and borrowing state up to date raises cumulative factors only. -/
theorem PositionUtils.updateFundingAndBorrowingState_raises {prices : MarketPrices} {u : Unit}
    (h : updateFundingAndBorrowingState env params prices w = .ok (u, w')) : Raises w w' := by
  unfold updateFundingAndBorrowingState MarketUtils.updateCumulativeBorrowingFactor at h
  obtain ⟨_, w₁, hfunding, h⟩ := Tx.bind_eq_ok.mp h
  simp only [↓viewStore_bind_eq_ok] at h
  obtain ⟨_, -, h⟩ := h
  obtain ⟨_, w₂, hincrement, h⟩ := Tx.bind_eq_ok.mp h
  have h₁ : Shifts 0 w w₁ := Shifts.of_writes
    (updateFundingAmountPerSize_writes (List.mem_cons_self)
      (List.mem_cons_of_mem _ (List.mem_singleton_self _)) env _ _) (by decide) hfunding
  have h₂ := incrementCumulativeBorrowingFactor_raises hincrement
  have hslot : (Keys.cumulativeBorrowingFactorUpdatedAtKey params.market.marketToken
      params.order.isLong).slot ∈ [Slot.constant .CUMULATIVE_BORROWING_FACTOR_UPDATED_AT] :=
    List.mem_singleton_self _
  have hupdated := Writes.writeStore (DataStore.ChangesWithin.setUint hslot env.timestamp)
  have h₃ : Shifts 0 w₂ w' := Shifts.of_writes hupdated (by decide) h
  exact ((Raises.of_shifts h₁).trans h₂).trans (.of_shifts h₃)

/-- The open interest and the open interest in tokens move together. -/
theorem PositionUtils.updateOpenInterest_shifts (hparams : params.Consistent)
    {sizeDeltaUsd sizeDeltaInTokens : Int} {u : Unit}
    (hzero : sizeDeltaUsd = 0 → sizeDeltaInTokens = 0)
    (h : updateOpenInterest params sizeDeltaUsd sizeDeltaInTokens w = .ok (u, w')) :
    Shifts (Pi.single (.openInterest params.position.group) sizeDeltaUsd +
      Pi.single (.openInterestInTokens params.position.group) sizeDeltaInTokens) w w' := by
  unfold updateOpenInterest at h
  split at h
  · obtain ⟨_, w₁, hopen, h⟩ := Tx.bind_eq_ok.mp h
    obtain ⟨_, w₂, htokens, h⟩ := Tx.bind_eq_ok.mp h
    obtain ⟨-, rfl⟩ := Tx.pure_eq_ok.mp h
    have h₁ := applyDeltaToOpenInterest_shifts hopen
    have h₂ := applyDeltaToOpenInterestInTokens_shifts htokens
    rw [← hparams.positionMarket] at h₁
    exact h₁.trans h₂
  · rename_i hnone
    obtain ⟨-, rfl⟩ := Tx.pure_eq_ok.mp h
    have hsize : sizeDeltaUsd = 0 := not_not.mp hnone
    refine (Shifts.refl w).cast ?_
    rw [hzero hsize, hsize, Pi.single_zero, Pi.single_zero, add_zero]

-- ---------------------------------------------------------------------------
-- Increasing a position
-- ---------------------------------------------------------------------------

/-- Positions are stored under keys of positions. -/
theorem Accounting.Sound.slot_eq {a : Accounting} {residues : List Residue}
    (hsound : a.Sound residues) : ∀ key ∈ a.keys, key.slot = .position := by
  intro key hmem
  rw [hsound.keyed key hmem]
  rfl

/-- A position that passes the check has a size. -/
theorem PositionUtils.validatePosition_eq_ok {dataStore : DataStore} {position : Position}
    {market : Market} {prices : MarketPrices} {minPositionSize minCollateralUsd : Bool} {u : Unit}
    (h : validatePosition env dataStore position market prices minPositionSize minCollateralUsd =
      .ok u) : position.sizeInUsd ≠ 0 ∧ position.sizeInTokens ≠ 0 := by
  simp only [validatePosition, Result.bind_eq_ok, Result.revertIf_eq_ok] at h
  obtain ⟨_, hsize, -⟩ := h
  exact not_or.mp hsize

namespace IncreasePositionUtils

/-- The collateral of an increase is added to the sum of its group. -/
theorem processCollateral_shifts {prices : MarketPrices} {collateralDeltaAmount next : Int}
    {fees : PositionFees}
    (h : processCollateral env params prices collateralDeltaAmount w = .ok ((next, fees), w')) :
    Shifts (Pi.single (.collateralSum ⟨params.order.market, params.position.collateralToken,
      params.order.isLong⟩) next) w w' := by
  unfold processCollateral at h
  simp only [↓Tx.lift_bind_eq_ok, ↓viewStore_bind_eq_ok] at h
  obtain ⟨_, -, _, -, h⟩ := h
  obtain ⟨_, w₁, hfee, h⟩ := Tx.bind_eq_ok.mp h
  obtain ⟨_, w₂, hui, h⟩ := Tx.bind_eq_ok.mp h
  simp only [↓Tx.lift_bind_eq_ok] at h
  obtain ⟨_, -, _, -, h⟩ := h
  obtain ⟨_, w₃, hsum, h⟩ := Tx.bind_eq_ok.mp h
  simp only [↓Tx.lift_bind_eq_ok] at h
  obtain ⟨_, -, h⟩ := h
  obtain ⟨_, w₄, hpool, h⟩ := Tx.bind_eq_ok.mp h
  simp only [Tx.pure_eq_ok, Prod.mk.injEq] at h
  obtain ⟨⟨rfl, rfl⟩, rfl⟩ := h
  have h₁ : Shifts 0 w w₁ := Shifts.of_writes
    (FeeUtils.incrementClaimableFeeAmount_writes (List.mem_singleton_self _) _ _ _) (by decide) hfee
  have h₂ : Shifts 0 w₁ w₂ := Shifts.of_writes
    (FeeUtils.incrementClaimableUiFeeAmount_writes (List.mem_singleton_self _) _ _ _ _)
    (by decide) hui
  have h₃ := applyDeltaToCollateralSum_shifts hsum
  have h₄ : Shifts 0 w₃ w₄ := Shifts.of_writes
    (applyDeltaToPoolAmount_writes (List.mem_cons_self)
      (List.mem_cons_of_mem _ (List.mem_singleton_self _)) _ _ _) (by decide) hpool
  refine (((h₁.trans h₂).trans h₃).trans h₄).cast ?_
  rw [add_zero, zero_add, zero_add]

/-- A size that is zero adds no tokens. -/
theorem getSizeDeltaInTokens_zero {isLong : Bool} {executionPrice sizeDeltaInTokens : Nat}
    (h : getSizeDeltaInTokens isLong 0 executionPrice = .ok sizeDeltaInTokens) :
    sizeDeltaInTokens = 0 := by
  unfold getSizeDeltaInTokens at h
  split at h
  · obtain ⟨-, rfl⟩ := div_eq_ok.mp h
    exact Nat.zero_div _
  · obtain ⟨hpos, rfl⟩ := Calc.roundUpDivision_eq_ok h
    exact Nat.div_eq_of_lt (by omega)

/-- What an increase changes, and what it stores. -/
theorem increasePosition_changes (hparams : params.Consistent)
    (horder : params.order.isLong = params.position.isLong)
    (hkey : params.positionKey.slot = .position) {collateralIncrementAmount : Nat}
    {fees : PositionFees}
    (h : increasePosition env params collateralIncrementAmount w = .ok (fees, w')) :
    ∃ next : Position,
      next.group = params.position.group ∧ next.account = params.position.account ∧
      next.sizeInUsd = params.position.sizeInUsd + params.order.sizeDeltaUsd ∧
      next.borrowingFactor = getCumulativeBorrowingFactor w'.dataStore
        params.position.group.market params.position.group.isLong ∧
      next.sizeInUsd ≠ 0 ∧ next.sizeInTokens ≠ 0 ∧
      Changes (updateShift params.position.group next.sizeInUsd next.borrowingFactor
        params.position next) params.positionKey (some next) w w' := by
  obtain ⟨run⟩ := increasePosition_run h
  obtain ⟨_, _, hinit⟩ := run.exists_position
  have hnext := run.next_eq
  obtain ⟨hsize, htokens⟩ := validatePosition_eq_ok run.valid
  have hside : (⟨params.market.marketToken, params.position.isLong⟩ : MarketSide) =
      params.position.group.side := by
    rw [← hparams.positionMarket]
    rfl
  have hgroup : run.next.group = params.position.group := by
    rw [hnext]
    rfl
  have hordergroup : (⟨params.order.market, run.position.collateralToken, params.order.isLong⟩ :
      PositionGroup) = params.position.group := by
    rw [hinit, hparams.orderMarket, ← hparams.positionMarket, horder]
    rfl
  -- before the position is stored
  have hraise := updateFundingAndBorrowingState_raises run.updating
  have h₂ := processCollateral_shifts run.charging
  have h₃ : Shifts 0 run.charged run.impacted := Shifts.of_writes
    (applyDeltaToPositionImpactPool_writes (List.mem_singleton_self _) _ _) (by decide)
    run.impacting
  have h₄ := MarketUtils.updateTotalBorrowing_shifts run.borrowing
  have h₅ : Shifts 0 run.borrowed run.credited := Shifts.of_writes
    (incrementClaimableFundingAmount_writes (List.mem_singleton_self _) _ _) (by decide)
    run.crediting
  -- after it
  have hstore := setPosition_stores hkey run.storing
  have h₇ := updateOpenInterest_shifts
    (hparams.withPosition (congrArg (·.market) hgroup) (congrArg (·.collateralToken) hgroup))
    (fun hzero => by
      have hclosed := run.tokens
      rw [Nat.cast_eq_zero.mp hzero] at hclosed
      rw [getSizeDeltaInTokens_zero hclosed, Nat.cast_zero]) run.opening
  have h₈ : Shifts 0 run.opened w' := Shifts.of_writes
    (ReferralUtils.incrementAffiliateReward_writes (List.mem_singleton_self _) _ _ _ _)
    (by decide) run.referring
  have hfactor : run.next.borrowingFactor = getCumulativeBorrowingFactor w'.dataStore
      params.position.group.market params.position.group.isLong := by
    have hsame := ((h₇.trans h₈).cumulativeBorrowingFactor params.position.group.side).trans
      ((hstore.cumulativeBorrowingFactor _).trans ((h₄.trans h₅).cumulativeBorrowingFactor _))
    rw [hnext]
    refine Eq.trans ?_ hsame.symm
    rw [← hside]
  refine ⟨run.next, hgroup, ?_, ?_, hfactor, hsize, htokens, ?_⟩
  · rw [hnext]
  · rw [hnext]
  refine (Changes.of_parts hkey hraise (((h₂.trans h₃).trans h₄).trans h₅) hstore
    (h₇.trans h₈)).cast ?_
  have hcollateralDelta : (run.next.collateralAmount : Int) - params.position.collateralAmount =
      run.collateralDeltaAmount := by
    rw [hnext, sumReturnUint256_eq run.collateral, add_sub_cancel_left]
  have hsizeDelta : (run.next.sizeInUsd : Int) - params.position.sizeInUsd =
      params.order.sizeDeltaUsd := by
    rw [hnext, Nat.cast_add, add_sub_cancel_left]
  have htokensDelta : (run.next.sizeInTokens : Int) - params.position.sizeInTokens =
      run.sizeDeltaInTokens := by
    rw [hnext, Nat.cast_add, add_sub_cancel_left]
  dsimp only
  rw [hordergroup, hside, hgroup, updateShift_eq, hcollateralDelta, hsizeDelta, htokensDelta,
    add_zero, add_zero, add_zero, ← add_assoc]

end IncreasePositionUtils

-- ---------------------------------------------------------------------------
-- Decreasing a position
-- ---------------------------------------------------------------------------

section SizeDeltaInTokens

variable {position : Position} {sizeDeltaUsd sizeDeltaInTokens : Nat}

/-- A full decrease takes all tokens. -/
theorem PositionUtils.getSizeDeltaInTokens_of_full
    (h : getSizeDeltaInTokens position position.sizeInUsd = .ok sizeDeltaInTokens) :
    sizeDeltaInTokens = position.sizeInTokens := by
  unfold getSizeDeltaInTokens at h
  rw [if_pos rfl] at h
  exact (Result.pure_eq_ok.mp h).symm

/-- An empty one takes none. -/
theorem PositionUtils.getSizeDeltaInTokens_of_zero (hsize : position.sizeInUsd ≠ 0)
    (h : getSizeDeltaInTokens position 0 = .ok sizeDeltaInTokens) : sizeDeltaInTokens = 0 := by
  unfold getSizeDeltaInTokens at h
  rw [if_neg hsize] at h
  split at h
  · simp only [Result.bind_eq_ok, mul_eq_ok] at h
    obtain ⟨_, ⟨-, rfl⟩, h⟩ := h
    obtain ⟨hpos, rfl⟩ := Calc.roundUpDivision_eq_ok h
    rw [Nat.mul_zero]
    exact Nat.div_eq_of_lt (by omega)
  · simp only [Result.bind_eq_ok, mul_eq_ok, div_eq_ok] at h
    obtain ⟨_, ⟨-, rfl⟩, -, rfl⟩ := h
    rw [Nat.mul_zero, Nat.zero_div]

/-- A partial decrease takes all tokens of a long whose remaining size is worth less than one of
its tokens, and never those of a short. -/
theorem PositionUtils.getSizeDeltaInTokens_of_partial (hpos : 0 < position.sizeInTokens)
    (hlt : sizeDeltaUsd < position.sizeInUsd)
    (h : getSizeDeltaInTokens position sizeDeltaUsd = .ok position.sizeInTokens) :
    position.isLong = true ∧
      position.sizeInTokens * (position.sizeInUsd - sizeDeltaUsd) < position.sizeInUsd := by
  unfold getSizeDeltaInTokens at h
  rw [if_neg (by omega)] at h
  split at h
  · rename_i hlong
    refine ⟨hlong, ?_⟩
    simp only [Result.bind_eq_ok, mul_eq_ok] at h
    obtain ⟨_, ⟨-, rfl⟩, h⟩ := h
    obtain ⟨hsize, htokens⟩ := Calc.roundUpDivision_eq_ok h
    have hle := Nat.div_mul_le_self
      (position.sizeInTokens * sizeDeltaUsd + position.sizeInUsd - 1) position.sizeInUsd
    rw [← htokens] at hle
    rw [Nat.mul_sub]
    omega
  · exfalso
    simp only [Result.bind_eq_ok, mul_eq_ok, div_eq_ok] at h
    obtain ⟨_, ⟨-, rfl⟩, hsize, htokens⟩ := h
    have hless : position.sizeInTokens * sizeDeltaUsd / position.sizeInUsd <
        position.sizeInTokens :=
      (Nat.div_lt_iff_lt_mul (by omega)).mpr (Nat.mul_lt_mul_of_pos_left hlt hpos)
    omega

end SizeDeltaInTokens

namespace DecreasePositionUtils

/-- What the closing branch stores, and what it hands on. -/
theorem closeOrStore_stores {position position' : Position}
    {values values' : DecreasePositionCollateralValues} {fees : PositionFees}
    {nextPositionBorrowingFactor : Nat} (hkey : params.positionKey.slot = .position)
    (h : closeOrStore params position values fees nextPositionBorrowingFactor w =
      .ok ((position', values'), w')) :
    ∃ next : Option Position, Stores params.positionKey next w w' ∧
      position'.group = position.group ∧
      position'.collateralAmount = (next.getD Position.empty).collateralAmount ∧
      values'.sizeDeltaInTokens = values.sizeDeltaInTokens ∧
      (next = none → position.sizeInUsd = 0 ∨ position.sizeInTokens = 0) ∧
      ∀ p, next = some p → p.group = position.group ∧ p.account = position.account ∧
        p.sizeInUsd = position.sizeInUsd ∧ p.sizeInTokens = position.sizeInTokens ∧
        p.borrowingFactor = nextPositionBorrowingFactor ∧
        position.sizeInUsd ≠ 0 ∧ position.sizeInTokens ≠ 0 := by
  unfold closeOrStore at h
  split at h
  · rename_i hclose
    simp only [↓Tx.lift_bind_eq_ok, ↓viewStore_bind_eq_ok, ↓writeStore_bind_eq_ok,
      Tx.pure_eq_ok, Prod.mk.injEq] at h
    obtain ⟨_, -, _, hremove, ⟨rfl, rfl⟩, rfl⟩ := h
    refine ⟨none, removePosition_stores hkey hremove, rfl, rfl, rfl, fun _ => hclose, ?_⟩
    rintro _ ⟨⟩
  · rename_i hstore
    obtain ⟨_, w₁, hset, h⟩ := Tx.bind_eq_ok.mp h
    simp only [Tx.pure_eq_ok, Prod.mk.injEq] at h
    obtain ⟨⟨rfl, rfl⟩, rfl⟩ := h
    obtain ⟨hsize, htokens⟩ := not_or.mp hstore
    refine ⟨some _, setPosition_stores hkey hset, rfl, rfl, rfl, ?_, ?_⟩
    · rintro ⟨⟩
    · rintro _ ⟨⟩
      exact ⟨rfl, rfl, rfl, rfl, rfl, hsize, htokens⟩

/-- What a decrease changes from the return of `processCollateral` on. -/
theorem finishDecrease_changes (hparams : params.Consistent)
    (hkey : params.positionKey.slot = .position) {w₀ : World} (hraise : Raises w₀ w)
    {prices : MarketPrices} {values : DecreasePositionCollateralValues} {fees : PositionFees}
    {result : DecreasePositionResult × PositionFees}
    (hfull : params.order.sizeDeltaUsd = params.position.sizeInUsd →
      values.sizeDeltaInTokens = params.position.sizeInTokens)
    (hzero : params.order.sizeDeltaUsd = 0 → values.sizeDeltaInTokens = 0)
    (h : finishDecrease env params prices values fees w = .ok (result, w')) :
    ∃ next : Option Position, params.order.sizeDeltaUsd ≤ params.position.sizeInUsd ∧
      (next = none → params.order.sizeDeltaUsd = params.position.sizeInUsd ∨
        values.sizeDeltaInTokens = params.position.sizeInTokens) ∧
      (∀ p, next = some p → p.group = params.position.group ∧
        p.account = params.position.account ∧
        p.sizeInUsd = params.position.sizeInUsd - params.order.sizeDeltaUsd ∧
        p.borrowingFactor = getCumulativeBorrowingFactor w'.dataStore
          params.position.group.market params.position.group.isLong ∧
        0 < params.position.sizeInUsd - params.order.sizeDeltaUsd ∧ 0 < p.sizeInTokens) ∧
      Changes (updateShift params.position.group
        (params.position.sizeInUsd - params.order.sizeDeltaUsd)
        (getCumulativeBorrowingFactor w'.dataStore params.position.group.market
          params.position.group.isLong) params.position (next.getD Position.empty))
        params.positionKey next w₀ w' := by
  obtain ⟨run⟩ := finishDecrease_run h
  obtain ⟨next, hstore, hgroup, hkept, htokens, hremoved, hstored⟩ :=
    closeOrStore_stores hkey run.closing
  have hgroup : run.position.group = params.position.group := hgroup
  have hside : (⟨params.market.marketToken, params.position.isLong⟩ : MarketSide) =
      params.position.group.side := by
    rw [← hparams.positionMarket]
    rfl
  have hsizeDelta := run.size_le
  have htokensDelta := run.tokens_le
  have hle := run.collateral_le
  -- before the position is stored or removed
  have h₁ := MarketUtils.updateTotalBorrowing_shifts run.borrowing
  have h₂ : Shifts 0 run.borrowed run.credited := Shifts.of_writes
    (incrementClaimableFundingAmount_writes (List.mem_singleton_self _) _ _) (by decide)
    run.crediting
  -- after it
  have h₄ := applyDeltaToCollateralSum_shifts run.summing
  change Shifts (Pi.single (.collateralSum run.position.group) _) run.closed run.summed at h₄
  rw [hgroup] at h₄
  have h₅ := updateOpenInterest_shifts
    (hparams.withPosition (congrArg (·.market) hgroup) (congrArg (·.collateralToken) hgroup))
    (fun hdelta => by
      have hnone : params.order.sizeDeltaUsd = 0 := by omega
      rw [htokens, hzero hnone, Nat.cast_zero, neg_zero]) run.lowering
  dsimp only at h₅
  rw [hgroup] at h₅
  have h₆ : Shifts 0 run.lowered run.pooled := Shifts.of_writes
    (applyDeltaToPoolAmount_writes (List.mem_cons_self)
      (List.mem_cons_of_mem _ (List.mem_singleton_self _)) _ _ _) (by decide) run.pooling
  have h₇ : Shifts 0 run.pooled run.referred := Shifts.of_writes
    (ReferralUtils.incrementAffiliateReward_writes (List.mem_singleton_self _) _ _ _ _)
    (by decide) run.referring
  have h₈ : Shifts 0 run.referred w' := Shifts.of_writes
    (DecreasePositionSwapUtils.swapWithdrawnCollateralToPnlToken_writes env
      (List.Subset.refl swapSlots) _ _) (by decide) run.swapping
  have hafter := (((h₄.trans h₅).trans h₆).trans h₇).trans h₈
  have hfactor : getCumulativeBorrowingFactor w.dataStore params.market.marketToken
      params.position.isLong = getCumulativeBorrowingFactor w'.dataStore
        params.position.group.market params.position.group.isLong := by
    have hsame := (hafter.cumulativeBorrowingFactor params.position.group.side).trans
      ((hstore.cumulativeBorrowingFactor _).trans ((h₁.trans h₂).cumulativeBorrowingFactor _))
    rw [hparams.positionMarket.symm]
    exact hsame.symm
  dsimp only at htokens hremoved hstored
  have hclosed : next = none → params.order.sizeDeltaUsd = params.position.sizeInUsd ∨
      values.sizeDeltaInTokens = params.position.sizeInTokens := by
    intro hnext
    rcases hremoved hnext with hsize | htokens
    · exact Or.inl (by omega)
    · exact Or.inr (by omega)
  have hcollateralDelta : -((params.position.collateralAmount - run.position.collateralAmount :
      Nat) : Int) = ((next.getD Position.empty).collateralAmount : Int) -
        params.position.collateralAmount := by
    rw [← hkept]
    omega
  have husdDelta : -(params.order.sizeDeltaUsd : Int) =
      (params.position.sizeInUsd - params.order.sizeDeltaUsd : Nat) -
        (params.position.sizeInUsd : Int) := by
    omega
  have htokenDelta : -(run.closedValues.sizeDeltaInTokens : Int) =
      ((next.getD Position.empty).sizeInTokens : Int) - params.position.sizeInTokens := by
    rw [htokens]
    cases next with
    | none =>
      have hall : values.sizeDeltaInTokens = params.position.sizeInTokens :=
        (hclosed rfl).elim hfull id
      rw [hall]
      exact (zero_sub _).symm
    | some p =>
      have hkept : p.sizeInTokens = params.position.sizeInTokens - values.sizeDeltaInTokens :=
        (hstored p rfl).2.2.2.1
      rw [Option.getD_some, hkept]
      omega
  refine ⟨next, hsizeDelta, hclosed, ?_,
    (Changes.of_parts hkey hraise (h₁.trans h₂) hstore hafter).cast ?_⟩
  · intro p hp
    obtain ⟨hpgroup, haccount, hsize, hptokens, hpfactor, hne, hne'⟩ := hstored p hp
    exact ⟨hpgroup.trans rfl, haccount, hsize, hpfactor.trans hfactor, Nat.pos_of_ne_zero hne,
      hptokens ▸ Nat.pos_of_ne_zero hne'⟩
  · rw [hside, hfactor, hcollateralDelta, husdDelta, htokenDelta, updateShift_eq]
    simp only [add_zero]
    rw [← add_assoc, ← add_assoc]
    exact congrArg (· + _ + _) (add_comm _ _)

/-- `processCollateral` realises the pnl of the size at the execution price of the order. -/
theorem processCollateral_pnl {cache : DecreasePositionCache}
    {values : DecreasePositionCollateralValues} {fees : PositionFees}
    (h : processCollateral env params cache w = .ok ((values, fees), w')) :
    (∃ priceImpactAmount priceImpactDiffUsd,
      getExecutionPrice env w.dataStore params cache.prices params.order.sizeDeltaUsd =
        .ok (values.executionPrice, priceImpactAmount, priceImpactDiffUsd)) ∧
      getPositionPnlUsd w.dataStore params.market cache.prices params.position
        values.executionPrice params.order.sizeDeltaUsd =
          .ok (values.positionPnlUsd, values.sizeDeltaInTokens) := by
  unfold processCollateral at h
  obtain ⟨realized, w₁, hrealize, h⟩ := Tx.bind_eq_ok.mp h
  simp only [↓Tx.lift_bind_eq_ok] at h
  obtain ⟨pending, hpending, h⟩ := h
  have hrealizes := realizePnl_eq_ok hrealize
  have htakes := payFromProfit_takesOver hpending
  have hrealized : (∃ priceImpactAmount priceImpactDiffUsd,
      getExecutionPrice env w.dataStore params cache.prices params.order.sizeDeltaUsd =
        .ok (pending.values.executionPrice, priceImpactAmount, priceImpactDiffUsd)) ∧
      getPositionPnlUsd w.dataStore params.market cache.prices params.position
        pending.values.executionPrice params.order.sizeDeltaUsd =
          .ok (pending.values.positionPnlUsd, pending.values.sizeDeltaInTokens) := by
    rw [htakes.executionPrice, htakes.positionPnlUsd, htakes.sizeDeltaInTokens]
    exact ⟨⟨_, _, hrealizes.price⟩, hrealizes.pnl⟩
  split at h
  · split at h
    · unfold processForceClose at h
      simp only [↓Tx.lift_bind_eq_ok] at h
      obtain ⟨_, -, h⟩ := h
      obtain ⟨_, _, -, h⟩ := Tx.bind_eq_ok.mp h
      simp only [↓Tx.lift_bind_eq_ok] at h
      obtain ⟨_, -, h⟩ := h
      obtain ⟨_, _, -, h⟩ := Tx.bind_eq_ok.mp h
      obtain ⟨_, _, -, h⟩ := Tx.bind_eq_ok.mp h
      simp only [Tx.pure_eq_ok, Prod.mk.injEq] at h
      obtain ⟨⟨rfl, -⟩, -⟩ := h
      exact hrealized
    · obtain ⟨hrevert, -⟩ := Tx.lift_eq_ok.mp h
      simp at hrevert
  · unfold payFromCollateral at h
    obtain ⟨_, _, -, h⟩ := Tx.bind_eq_ok.mp h
    simp only [↓Tx.lift_bind_eq_ok] at h
    obtain ⟨_, -, _, -, h⟩ := h
    obtain ⟨_, _, -, h⟩ := Tx.bind_eq_ok.mp h
    obtain ⟨_, _, -, h⟩ := Tx.bind_eq_ok.mp h
    simp only [↓Tx.lift_bind_eq_ok] at h
    obtain ⟨_, -, _, -, h⟩ := h
    obtain ⟨_, _, -, h⟩ := Tx.bind_eq_ok.mp h
    obtain ⟨_, _, -, h⟩ := Tx.bind_eq_ok.mp h
    simp only [Tx.pure_eq_ok, Prod.mk.injEq] at h
    obtain ⟨⟨rfl, -⟩, -⟩ := h
    exact hrealized

/-- The tokens that `processCollateral` closes are those of the size, of a position with
tokens. -/
theorem processCollateral_sizeDeltaInTokens {cache : DecreasePositionCache}
    {values : DecreasePositionCollateralValues} {fees : PositionFees}
    (h : processCollateral env params cache w = .ok ((values, fees), w')) :
    getSizeDeltaInTokens params.position params.order.sizeDeltaUsd =
      .ok values.sizeDeltaInTokens ∧ params.position.sizeInTokens ≠ 0 := by
  obtain ⟨-, hpnl⟩ := processCollateral_pnl h
  simp only [getPositionPnlUsd, Result.bind_eq_ok, Result.pure_eq_ok, Prod.mk.injEq] at hpnl
  simp only [divInt_eq_ok, toInt256_eq_ok] at hpnl
  obtain ⟨_, -, _, -, _, -, _, -, _, -, tokens, hsize, _, -, _, -, _, ⟨-, rfl⟩, _, ⟨hne, -⟩, -,
    rfl⟩ := hpnl
  exact ⟨hsize, Nat.cast_ne_zero.mp hne⟩

/-- Until the position is stored only the cumulative factors have risen. -/
theorem processCollateral_raises {params' : UpdatePositionParams} {w₁ : World}
    {prices : MarketPrices} {cache : DecreasePositionCache}
    {values : DecreasePositionCollateralValues × PositionFees}
    (hstate : updateFundingAndBorrowingState env params' prices w = .ok ((), w₁))
    (h : processCollateral env params' cache w₁ = .ok (values, w')) : Raises w w' := by
  have hledger : ledgerSlots ⊆ ledgerSlots ++ swapSlots := List.subset_append_left _ _
  have hswap : swapSlots ⊆ ledgerSlots ++ swapSlots := List.subset_append_right _ _
  have hprocess : Shifts 0 w₁ w' := Shifts.of_writes
    (processCollateral_writes env _ _ hledger hswap) (by decide) h
  exact (updateFundingAndBorrowingState_raises hstate).trans (.of_shifts hprocess)

/-- What a decrease changes: some size is taken off the position. -/
theorem decreasePosition_changes (hparams : params.Consistent)
    (hkey : params.positionKey.slot = .position)
    (hsize : params.position.sizeInTokens ≠ 0 → params.position.sizeInUsd ≠ 0)
    {result : DecreasePositionResult × PositionFees}
    (h : decreasePosition env params w = .ok (result, w')) :
    ∃ (prices : MarketPrices) (order : Order) (next : Option Position),
      MarketUtils.getMarketPrices env params.market = .ok prices ∧
      adjustOrder w.dataStore params prices = .ok order ∧
      order.sizeDeltaUsd ≤ params.position.sizeInUsd ∧
      (next = none → order.sizeDeltaUsd < params.position.sizeInUsd →
        params.position.isLong = true ∧ params.position.sizeInTokens *
          (params.position.sizeInUsd - order.sizeDeltaUsd) < params.position.sizeInUsd) ∧
      (∀ p, next = some p → p.group = params.position.group ∧
        p.account = params.position.account ∧
        p.sizeInUsd = params.position.sizeInUsd - order.sizeDeltaUsd ∧
        p.borrowingFactor = getCumulativeBorrowingFactor w'.dataStore
          params.position.group.market params.position.group.isLong ∧
        0 < params.position.sizeInUsd - order.sizeDeltaUsd ∧ 0 < p.sizeInTokens) ∧
      Changes (updateShift params.position.group
        (params.position.sizeInUsd - order.sizeDeltaUsd)
        (getCumulativeBorrowingFactor w'.dataStore params.position.group.market
          params.position.group.isLong) params.position (next.getD Position.empty))
        params.positionKey next w w' := by
  obtain ⟨⟨prices, order, values, fees, updated, charged, hprices, hadjust, -, hupdate, hcharge,
    hfinish⟩⟩ := decreasePosition_run h
  obtain ⟨hadjusted, hle, -⟩ := adjustOrder_isAdjusted params hadjust
  obtain ⟨htokens, hne⟩ := processCollateral_sizeDeltaInTokens hcharge
  dsimp only at htokens hne
  have hfull : order.sizeDeltaUsd = params.position.sizeInUsd →
      values.sizeDeltaInTokens = params.position.sizeInTokens := by
    intro heq
    rw [heq] at htokens
    exact getSizeDeltaInTokens_of_full htokens
  have hzero : order.sizeDeltaUsd = 0 → values.sizeDeltaInTokens = 0 := by
    intro heq
    rw [heq] at htokens
    exact getSizeDeltaInTokens_of_zero (hsize hne) htokens
  have hraise := processCollateral_raises hupdate hcharge
  obtain ⟨next, -, hclosed, hstored, hchanges⟩ := finishDecrease_changes
    (Consistent.adjusted hparams hadjusted) hkey hraise hfull hzero hfinish
  refine ⟨prices, order, next, hprices, hadjust, hle, ?_, hstored, hchanges⟩
  intro hnext hlt
  rcases hclosed hnext with hsame | hall
  · exact absurd hsame hlt.ne
  · dsimp only at hall
    rw [hall] at htokens
    exact getSizeDeltaInTokens_of_partial (Nat.pos_of_ne_zero hne) hlt htokens

end DecreasePositionUtils

-- ---------------------------------------------------------------------------
-- Updates of the view
-- ---------------------------------------------------------------------------

section Update

variable {residues : List Residue} (hparams : params.Consistent)
  (hstored : params.Stored w.dataStore) (hsound : (Accounting.of w.dataStore).Sound residues)

include hstored

/-- The shift is from the position that is stored. -/
theorem updateShift_stored (nextSizeInUsd factor : Nat) (next : Position) :
    updateShift params.position.group nextSizeInUsd factor params.position next =
      updateShift params.position.group nextSizeInUsd factor
        (PositionStoreUtils.get w.dataStore params.positionKey) next := by
  funext x
  cases x <;> simp only [updateShift, hstored.sizeInUsd, hstored.sizeInTokens,
    hstored.collateralAmount, hstored.borrowingFactor]

theorem slot_positionKey : params.positionKey.slot = .position := by
  rw [hstored.positionKey]
  rfl

include hsound

/-- A position with tokens has a size. -/
theorem sizeInUsd_ne_zero (htokens : params.position.sizeInTokens ≠ 0) :
    params.position.sizeInUsd ≠ 0 := by
  rw [← hstored.sizeInTokens] at htokens
  rw [← hstored.sizeInUsd]
  by_cases hmem : params.positionKey ∈ (Accounting.of w.dataStore).keys
  · exact (hsound.sizeInUsd_pos _ hmem).ne'
  · exact absurd (congrArg (·.sizeInTokens) (hsound.absent _ hmem)) htokens

include hparams

/-- **An increase is accounted for.** The position stays open. -/
theorem IncreasePositionUtils.increasePosition_update {collateralIncrementAmount : Nat}
    {fees : PositionFees}
    (h : increasePosition env params collateralIncrementAmount w = .ok (fees, w')) :
    (Accounting.of w.dataStore).Update (Accounting.of w'.dataStore) params.position.group
        params.position.account (params.position.sizeInUsd + params.order.sizeDeltaUsd) ∧
      params.position.group.key params.position.account ∈ (Accounting.of w'.dataStore).keys := by
  obtain ⟨next, hgroup, haccount, hsize, hfactor, hne, htokens, hchanges⟩ :=
    increasePosition_changes hparams hstored.isLong (slot_positionKey hstored) h
  rw [updateShift_stored hstored, hfactor, hsize] at hchanges
  have hkeys := hchanges.keys
  rw [hstored.positionKey] at hchanges hkeys
  have hnext : ∀ position, some next = some position →
      position.group = params.position.group ∧ position.account = params.position.account ∧
      position.sizeInUsd = params.position.sizeInUsd + params.order.sizeDeltaUsd ∧
      position.borrowingFactor = getCumulativeBorrowingFactor w'.dataStore
        params.position.group.market params.position.group.isLong ∧
      0 < params.position.sizeInUsd + params.order.sizeDeltaUsd ∧ 0 < position.sizeInTokens := by
    rintro _ ⟨⟩
    exact ⟨hgroup, haccount, hsize, hfactor, hsize ▸ Nat.pos_of_ne_zero hne,
      Nat.pos_of_ne_zero htokens⟩
  constructor
  · refine Changes.update ?_ hsound.slot_eq hsound.nodup hstored.account_ne
      hstored.isCollateral hnext
    exact hchanges
  · show params.position.group.key params.position.account ∈
      w'.dataStore.bytes32Sets (.base .POSITION_LIST)
    rw [hkeys]
    exact EnumerableSet.mem_add.mpr (Or.inr rfl)

/-- **A decrease is accounted for.** A position that it removes before its whole size is closed
is a long whose remaining size is worth less than one of its tokens. -/
theorem DecreasePositionUtils.decreasePosition_update
    {result : DecreasePositionResult × PositionFees}
    (h : decreasePosition env params w = .ok (result, w')) :
    ∃ (prices : MarketPrices) (order : Order),
      MarketUtils.getMarketPrices env params.market = .ok prices ∧
      adjustOrder w.dataStore params prices = .ok order ∧
      (Accounting.of w.dataStore).Update (Accounting.of w'.dataStore) params.position.group
        params.position.account (params.position.sizeInUsd - order.sizeDeltaUsd) ∧
      (params.position.group.key params.position.account ∉ (Accounting.of w'.dataStore).keys →
        order.sizeDeltaUsd < params.position.sizeInUsd →
        params.position.isLong = true ∧ params.position.sizeInTokens *
          (params.position.sizeInUsd - order.sizeDeltaUsd) < params.position.sizeInUsd) := by
  obtain ⟨prices, order, next, hprices, hadjust, -, hremoved, hnext, hchanges⟩ :=
    decreasePosition_changes hparams (slot_positionKey hstored)
      (sizeInUsd_ne_zero hstored hsound) h
  rw [updateShift_stored hstored] at hchanges
  have hkeys := hchanges.keys
  rw [hstored.positionKey] at hchanges hkeys
  refine ⟨prices, order, hprices, hadjust, Changes.update hchanges hsound.slot_eq hsound.nodup
    hstored.account_ne hstored.isCollateral hnext, ?_⟩
  intro hmem
  apply hremoved
  cases next with
  | none => rfl
  | some p =>
    refine absurd ?_ hmem
    show params.position.group.key params.position.account ∈
      w'.dataStore.bytes32Sets (.base .POSITION_LIST)
    rw [hkeys]
    exact EnumerableSet.mem_add.mpr (Or.inr rfl)

end Update

end GmxSynthetics
