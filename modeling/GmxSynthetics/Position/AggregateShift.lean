import GmxSynthetics.Market.Book
import GmxSynthetics.Market.MarketFactory
import GmxSynthetics.Position.Accounting
import GmxSynthetics.Position.PositionFootprint
import GmxSynthetics.Position.PositionStore

/-!
# Shifts of the aggregates

The store seen as an `Accounting`, and the functions that move an aggregate by a delta. All
other calls of a position update leave the view alone.

* `Accounting.of` — the view of a store;
* `Shifts δ w w'` — the aggregates move by `δ` and the rest of the view stays.
-/

namespace GmxSynthetics

open Evm MarketUtils

-- ---------------------------------------------------------------------------
-- The view of a store
-- ---------------------------------------------------------------------------

/-- The entries of the store that account for positions. -/
inductive Aggregate where
  | openInterest (group : PositionGroup)
  | openInterestInTokens (group : PositionGroup)
  | collateralSum (group : PositionGroup)
  | totalBorrowing (side : MarketSide)
  deriving DecidableEq, Repr

def Aggregate.key : Aggregate → Key
  | openInterest g => Keys.openInterestKey g.market g.collateralToken g.isLong
  | openInterestInTokens g => Keys.openInterestInTokensKey g.market g.collateralToken g.isLong
  | collateralSum g => Keys.collateralSumKey g.market g.collateralToken g.isLong
  | totalBorrowing side => Keys.totalBorrowingKey side.market side.isLong

/-- Different sums are stored under different keys. -/
theorem Aggregate.key_inj {x y : Aggregate} : x.key = y.key ↔ x = y := by
  have htoNat : ∀ b b' : Bool, b.toNat = b'.toNat ↔ b = b' := by decide
  cases x <;> cases y <;> rename_i g g' <;> cases g <;> cases g' <;>
    simp [key, Keys.openInterestKey, Keys.openInterestInTokensKey, Keys.collateralSumKey,
      Keys.totalBorrowingKey, htoNat]

/-- What the store accounts for. -/
def Accounting.of (dataStore : DataStore) : Accounting where
  keys := dataStore.bytes32Sets (.base .POSITION_LIST)
  position := PositionStoreUtils.get dataStore
  market := MarketStoreUtils.get dataStore
  openInterest g := dataStore.getUint (Aggregate.openInterest g).key
  openInterestInTokens g := dataStore.getUint (Aggregate.openInterestInTokens g).key
  collateralSum g := dataStore.getUint (Aggregate.collateralSum g).key
  cumulativeBorrowingFactor side := getCumulativeBorrowingFactor dataStore side.market side.isLong
  totalBorrowing side := dataStore.getUint (Aggregate.totalBorrowing side).key

/-- The slots of the view. -/
def accountingSlots : List Slot :=
  [.constant .POSITION_LIST, .position, .constant .MARKET_LIST, .market,
    .constant .OPEN_INTEREST, .constant .OPEN_INTEREST_IN_TOKENS, .constant .COLLATERAL_SUM,
    .constant .CUMULATIVE_BORROWING_FACTOR, .constant .TOTAL_BORROWING]

theorem Aggregate.slot_mem (x : Aggregate) : x.key.slot ∈ accountingSlots := by
  cases x <;> simp [key, accountingSlots, Keys.openInterestKey, Keys.openInterestInTokensKey,
    Keys.collateralSumKey, Keys.totalBorrowingKey]

-- ---------------------------------------------------------------------------
-- Shifts
-- ---------------------------------------------------------------------------

/-- Everything of the view but the aggregates is the same. -/
structure SamePositions (w w' : World) : Prop where
  keys : w'.dataStore.bytes32Sets (.base .POSITION_LIST) =
    w.dataStore.bytes32Sets (.base .POSITION_LIST)
  position : ∀ key : StoreKey, key.slot = .position →
    PositionStoreUtils.get w'.dataStore key = PositionStoreUtils.get w.dataStore key
  market : MarketStoreUtils.get w'.dataStore = MarketStoreUtils.get w.dataStore

/-- Positions that stay twice stay. -/
theorem SamePositions.trans {w w' w'' : World} (h : SamePositions w w')
    (h' : SamePositions w' w'') : SamePositions w w'' :=
  ⟨h'.keys.trans h.keys, fun key hkey => (h'.position key hkey).trans (h.position key hkey),
    h'.market.trans h.market⟩

/-- Positions stay where none is written. -/
theorem SamePositions.of_sameOff {slots : List Slot} {w w' : World}
    (h : World.SameOff slots w w') (hslots : ∀ slot ∈ accountingSlots, slot ∉ slots) :
    SamePositions w w' where
  keys := h.bytes32Set _ (hslots (.constant .POSITION_LIST) (by decide)) _ rfl
  position _ hkey := positionStore.get_sameOff h
    (hslots (.constant .POSITION_LIST) (by decide)) (hkey ▸ hslots .position (by decide))
  market := funext fun key => MarketStoreUtils.get_sameOff h
    (hslots (.constant .MARKET_LIST) (by decide)) (hslots .market (by decide)) key

/-- The aggregates move by the given amounts, and nothing else of the view moves. -/
structure Shifts (δ : Aggregate → Int) (w w' : World) : Prop extends SamePositions w w' where
  aggregate : ∀ x : Aggregate,
    (w'.dataStore.getUint x.key : Int) = w.dataStore.getUint x.key + δ x
  cumulativeBorrowingFactor : ∀ side : MarketSide,
    getCumulativeBorrowingFactor w'.dataStore side.market side.isLong =
      getCumulativeBorrowingFactor w.dataStore side.market side.isLong

namespace Shifts

variable {δ δ' : Aggregate → Int} {w w' w'' : World}

/-- Two shifts add up. -/
theorem trans (h : Shifts δ w w') (h' : Shifts δ' w' w'') : Shifts (δ + δ') w w'' where
  toSamePositions := h.toSamePositions.trans h'.toSamePositions
  aggregate x := by rw [h'.aggregate x, h.aggregate x, Pi.add_apply, add_assoc]
  cumulativeBorrowingFactor side :=
    (h'.cumulativeBorrowingFactor side).trans (h.cumulativeBorrowingFactor side)

theorem cast (h : Shifts δ w w') (hδ : δ = δ') : Shifts δ' w w' := hδ ▸ h

/-- Nothing is shifted where no sum is written. -/
theorem of_sameOff {slots : List Slot} (h : World.SameOff slots w w')
    (hslots : ∀ slot ∈ accountingSlots, slot ∉ slots) : Shifts 0 w w' where
  toSamePositions := .of_sameOff h hslots
  aggregate x := by
    rw [h.uint _ (hslots _ x.slot_mem) x.key rfl, Pi.zero_apply, add_zero]
  cumulativeBorrowingFactor _ :=
    h.uint _ (hslots (.constant .CUMULATIVE_BORROWING_FACTOR) (by decide)) _ rfl

/-- So by a call that writes none. -/
theorem of_writes {α : Type} {slots : List Slot} {x : Tx α} {a : α} (hx : Writes slots x)
    (hslots : ∀ slot ∈ accountingSlots, slot ∉ slots) (h : x w = .ok (a, w')) : Shifts 0 w w' :=
  of_sameOff (hx h) hslots

theorem refl (w : World) : Shifts 0 w w := of_sameOff (World.SameOff.refl [] w) (by simp)

end Shifts

/-- Overwriting one aggregate. -/
theorem shifts_setUint (x : Aggregate) (w : World) (value : Nat) :
    Shifts (Pi.single x ((value : Int) - w.dataStore.getUint x.key)) w
      { w with dataStore := w.dataStore.setUint x.key value } := by
  have hwrite : World.SameOff [x.key.slot] w
      { w with dataStore := w.dataStore.setUint x.key value } :=
    DataStore.ChangesWithin.setUint (List.mem_singleton_self _) value w
  have hother : ∀ slot ∈ [Slot.constant .POSITION_LIST, .position, .constant .MARKET_LIST,
      .market, .constant .CUMULATIVE_BORROWING_FACTOR], slot ∉ [x.key.slot] := by
    cases x <;> simp [Aggregate.key, Keys.openInterestKey, Keys.openInterestInTokensKey,
      Keys.collateralSumKey, Keys.totalBorrowingKey]
  constructor
  case toSamePositions =>
    exact ⟨rfl, fun key hkey => positionStore.get_sameOff hwrite (hother _ (by decide))
      (hkey ▸ hother .position (by decide)), rfl⟩
  case aggregate =>
    intro y
    rw [getUint_setUint, Pi.single_apply]
    by_cases hxy : y = x
    · rw [hxy, if_pos rfl, if_pos rfl]
      omega
    · rw [if_neg fun h => hxy (Aggregate.key_inj.mp h), if_neg hxy, add_zero]
  case cumulativeBorrowingFactor =>
    intro side
    exact hwrite.uint _ (hother (.constant .CUMULATIVE_BORROWING_FACTOR) (by decide)) _ rfl

-- ---------------------------------------------------------------------------
-- The functions that move an aggregate
-- ---------------------------------------------------------------------------

variable {w w' : World}

/-- A sum to which a signed amount is added. -/
theorem applyDeltaToUint_shifts (x : Aggregate) {value : Int} {errorMessage : String}
    {next : Nat} (h : DataStore.applyDeltaToUint x.key value errorMessage w = .ok (next, w')) :
    Shifts (Pi.single x value) w w' := by
  simp only [DataStore.applyDeltaToUint, Tx.bind_eq_ok, readStore_eq_ok, Tx.lift_eq_ok,
    writeStore_eq_ok, Tx.pure_eq_ok] at h
  obtain ⟨_, _, ⟨rfl, rfl⟩, _, _, ⟨-, rfl⟩, _, _, ⟨-, rfl⟩, _, _, ⟨hsum, rfl⟩, _, _, rfl, -,
    rfl⟩ := h
  refine (shifts_setUint x _ _).cast ?_
  rw [sumReturnUint256_eq hsum, add_sub_cancel_left]

namespace MarketUtils

variable {market collateralToken : Address} {isLong : Bool} {delta : Int} {next : Nat}

/-- The open interest of a side. -/
theorem applyDeltaToOpenInterest_shifts {market : Market}
    (h : applyDeltaToOpenInterest market collateralToken isLong delta w = .ok (next, w')) :
    Shifts (Pi.single (.openInterest ⟨market.marketToken, collateralToken, isLong⟩) delta)
      w w' := by
  unfold applyDeltaToOpenInterest at h
  simp only [↓Tx.lift_bind_eq_ok] at h
  obtain ⟨_, -, h⟩ := h
  obtain ⟨_, w₁, hopen, h⟩ := Tx.bind_eq_ok.mp h
  simp only [↓Tx.lift_bind_eq_ok] at h
  obtain ⟨_, -, h⟩ := h
  obtain ⟨_, w₂, hinventory, h⟩ := Tx.bind_eq_ok.mp h
  obtain ⟨_, w₃, hvalidate, h⟩ := Tx.bind_eq_ok.mp h
  obtain ⟨-, rfl⟩ := Tx.pure_eq_ok.mp h
  have h₁ := applyDeltaToUint_shifts (.openInterest ⟨market.marketToken, collateralToken, isLong⟩)
    hopen
  have h₂ : Shifts 0 w₁ w₂ := Shifts.of_writes
    (applyDeltaToVirtualInventoryForPositions_writes (List.mem_singleton_self _) _ _)
    (by decide) hinventory
  have hnothing : ∀ (c : Prop) [Decidable c] (f : DataStore → Result Unit),
      Writes [] (if c then viewStore f else pure ()) := fun _ _ _ => .ite (.viewStore _) (.pure _)
  have h₃ : Shifts 0 w₂ w₃ := Shifts.of_writes (hnothing _ _) (by decide) hvalidate
  refine ((h₁.trans h₂).trans h₃).cast ?_
  rw [add_zero, add_zero]

/-- The same in tokens. -/
theorem applyDeltaToOpenInterestInTokens_shifts
    (h : applyDeltaToOpenInterestInTokens market collateralToken isLong delta w =
      .ok (next, w')) :
    Shifts (Pi.single (.openInterestInTokens ⟨market, collateralToken, isLong⟩) delta) w w' :=
  applyDeltaToUint_shifts (.openInterestInTokens ⟨market, collateralToken, isLong⟩) h

/-- The collateral of a side. -/
theorem applyDeltaToCollateralSum_shifts
    (h : applyDeltaToCollateralSum market collateralToken isLong delta w = .ok (next, w')) :
    Shifts (Pi.single (.collateralSum ⟨market, collateralToken, isLong⟩) delta) w w' :=
  applyDeltaToUint_shifts (.collateralSum ⟨market, collateralToken, isLong⟩) h

/-- The borrowing of a position is its size by the factor. -/
theorem applyFactor_eq_borrowed {size factor amount : Nat}
    (h : Precision.applyFactor size factor = .ok amount) : amount = borrowed size factor :=
  Precision.applyFactor_eq_ok h

/-- The total borrowing moves from what the position had to what it has. -/
theorem updateTotalBorrowing_shifts {prevSize prevFactor nextSize nextFactor : Nat} {u : Unit}
    (h : updateTotalBorrowing market isLong prevSize prevFactor nextSize nextFactor w =
      .ok (u, w')) :
    Shifts (Pi.single (.totalBorrowing ⟨market, isLong⟩)
      ((borrowed nextSize nextFactor : Int) - borrowed prevSize prevFactor)) w w' := by
  simp only [updateTotalBorrowing, getNextTotalBorrowing, ↓viewStore_bind_eq_ok, writeStore_eq_ok,
    Result.bind_eq_ok, sub_eq_ok, add_eq_ok] at h
  obtain ⟨_, ⟨_, hprev, _, ⟨hle, rfl⟩, _, hnext, -, rfl⟩, rfl⟩ := h
  obtain rfl := applyFactor_eq_borrowed hprev
  obtain rfl := applyFactor_eq_borrowed hnext
  refine (shifts_setUint (.totalBorrowing ⟨market, isLong⟩) _ _).cast ?_
  have hkey : getTotalBorrowing w.dataStore market isLong =
      w.dataStore.getUint (Aggregate.totalBorrowing ⟨market, isLong⟩).key := rfl
  rw [hkey] at hle ⊢
  congr 1
  omega

end MarketUtils

end GmxSynthetics
