import GmxSynthetics.Data.Footprint
import GmxSynthetics.Market.Borrowing
import GmxSynthetics.Market.Funding
import GmxSynthetics.Market.Ledger

/-!
# Footprints of market updates

One lemma for each function of `MarketUtils.sol` that writes: the slots it may change.
-/

namespace GmxSynthetics

variable {slots : List Slot}

namespace DataStore

variable {key : Key}

/-- An entry that is read, added to and written back is the only one that changes. -/
theorem incrementUint_writes (hkey : key.slot ∈ slots) (value : Nat) :
    Writes slots (incrementUint key value) := by
  unfold incrementUint
  refine (Writes.readStore _).bind fun currValue => (Writes.lift _).bind fun nextValue => ?_
  exact (Writes.writeStore (.setUint hkey nextValue)).bind fun _ => .pure _

/-- So it is when the delta is signed, and checked not to take more than there is. -/
theorem applyDeltaToUint_writes (hkey : key.slot ∈ slots) (value : Int) (errorMessage : String) :
    Writes slots (applyDeltaToUint key value errorMessage) := by
  unfold applyDeltaToUint
  refine (Writes.readStore _).bind fun currValue => (Writes.lift _).bind fun exceeds => ?_
  refine (Writes.lift _).bind fun _ => (Writes.lift _).bind fun nextValue => ?_
  exact (Writes.writeStore (.setUint hkey nextValue)).bind fun _ => .pure _

/-- So it is when what would go below zero is cut off. -/
theorem applyBoundedDeltaToUint_writes (hkey : key.slot ∈ slots) (value : Int) :
    Writes slots (applyBoundedDeltaToUint key value) := by
  unfold applyBoundedDeltaToUint
  refine (Writes.readStore _).bind fun currValue => (Writes.lift _).bind fun exceeds => ?_
  refine (Writes.lift _).bind fun nextValue => ?_
  exact (Writes.writeStore (.setUint hkey nextValue)).bind fun _ => .pure _

/-- So it is when the entry is signed. -/
theorem applyDeltaToInt_writes (hkey : key.slot ∈ slots) (value : Int) :
    Writes slots (applyDeltaToInt key value) := by
  unfold applyDeltaToInt
  refine (Writes.readStore _).bind fun currValue => (Writes.lift _).bind fun nextValue => ?_
  exact (Writes.writeStore (.setInt hkey nextValue)).bind fun _ => .pure _

end DataStore

namespace MarketUtils

-- ---------------------------------------------------------------------------
-- Claimable amounts and pools
-- ---------------------------------------------------------------------------

/-- What is claimable is booked for the account and in total. -/
theorem incrementClaimableCollateralAmount_writes
    (h : Slot.constant .CLAIMABLE_COLLATERAL_AMOUNT ∈ slots) (env : Env)
    (market token account : Address) (delta : Nat) :
    Writes slots (incrementClaimableCollateralAmount env market token account delta) := by
  unfold incrementClaimableCollateralAmount
  refine (Writes.readStore _).bind fun divisor => (Writes.lift _).bind fun timeKey => ?_
  refine (DataStore.incrementUint_writes h _).bind fun _ => ?_
  exact (DataStore.incrementUint_writes h _).bind fun _ => .pure _

/-- Claimable funding is added to its own slot, per account and in total. -/
theorem incrementClaimableFundingAmount_writes
    (h : Slot.constant .CLAIMABLE_FUNDING_AMOUNT ∈ slots) (market token account : Address)
    (delta : Nat) :
    Writes slots (incrementClaimableFundingAmount market token account delta) := by
  unfold incrementClaimableFundingAmount
  refine (DataStore.incrementUint_writes h _).bind fun _ => ?_
  exact (DataStore.incrementUint_writes h _).bind fun _ => .pure _

/-- A market without a virtual market has no virtual inventory. -/
theorem applyDeltaToVirtualInventoryForSwaps_writes
    (h : Slot.constant .VIRTUAL_INVENTORY_FOR_SWAPS ∈ slots) (market token : Address)
    (delta : Int) : Writes slots (applyDeltaToVirtualInventoryForSwaps market token delta) := by
  unfold applyDeltaToVirtualInventoryForSwaps
  refine (Writes.readStore _).bind fun virtualMarketId => .ite (.pure _) ?_
  exact (DataStore.applyBoundedDeltaToUint_writes h _).bind fun _ => .pure _

/-- Nor has a token without a virtual token. -/
theorem applyDeltaToVirtualInventoryForPositions_writes
    (h : Slot.constant .VIRTUAL_INVENTORY_FOR_POSITIONS ∈ slots) (token : Address)
    (delta : Int) : Writes slots (applyDeltaToVirtualInventoryForPositions token delta) := by
  unfold applyDeltaToVirtualInventoryForPositions
  refine (Writes.readStore _).bind fun virtualTokenId => .ite (.pure _) ?_
  exact (DataStore.applyDeltaToInt_writes h _).bind fun _ => .pure _

/-- A pool moves together with the virtual inventory of its market. -/
theorem applyDeltaToPoolAmount_writes (hpool : Slot.constant .POOL_AMOUNT ∈ slots)
    (hinventory : Slot.constant .VIRTUAL_INVENTORY_FOR_SWAPS ∈ slots) (market token : Address)
    (delta : Int) : Writes slots (applyDeltaToPoolAmount market token delta) := by
  unfold applyDeltaToPoolAmount
  refine (DataStore.applyDeltaToUint_writes hpool _ _).bind fun nextValue => ?_
  exact (applyDeltaToVirtualInventoryForSwaps_writes hinventory _ _ _).bind fun _ => .pure _

/-- The impact of a swap is paid from its impact pool, or into it. -/
theorem applySwapImpactWithCap_writes (h : Slot.constant .SWAP_IMPACT_POOL_AMOUNT ∈ slots)
    (market token : Address) (tokenPrice : Price) (priceImpactUsd : Int) :
    Writes slots (applySwapImpactWithCap market token tokenPrice priceImpactUsd) := by
  unfold applySwapImpactWithCap
  refine (Writes.viewStore _).bind fun impactAmount => (Writes.lift _).bind fun delta => ?_
  exact (DataStore.applyBoundedDeltaToUint_writes h _).bind fun _ => .pure _

/-- The pool that pays for price impact of positions is one slot. -/
theorem applyDeltaToPositionImpactPool_writes
    (h : Slot.constant .POSITION_IMPACT_POOL_AMOUNT ∈ slots) (market : Address) (delta : Int) :
    Writes slots (applyDeltaToPositionImpactPool market delta) :=
  DataStore.applyBoundedDeltaToUint_writes h _

-- ---------------------------------------------------------------------------
-- Open interest and collateral
-- ---------------------------------------------------------------------------

/-- The open interest moves against the virtual inventory of the index token. -/
theorem applyDeltaToOpenInterest_writes (hopen : Slot.constant .OPEN_INTEREST ∈ slots)
    (hinventory : Slot.constant .VIRTUAL_INVENTORY_FOR_POSITIONS ∈ slots) (market : Market)
    (collateralToken : Address) (isLong : Bool) (delta : Int) :
    Writes slots (applyDeltaToOpenInterest market collateralToken isLong delta) := by
  unfold applyDeltaToOpenInterest
  refine (Writes.lift _).bind fun _ => ?_
  refine (DataStore.applyDeltaToUint_writes hopen _ _).bind fun nextValue => ?_
  refine (Writes.lift _).bind fun inventoryDelta => ?_
  refine (applyDeltaToVirtualInventoryForPositions_writes hinventory _ _).bind fun _ => ?_
  exact (Writes.ite (.viewStore _) (.pure _)).bind fun _ => .pure _

/-- Open interest in tokens has a slot of its own beside that in USD. -/
theorem applyDeltaToOpenInterestInTokens_writes
    (h : Slot.constant .OPEN_INTEREST_IN_TOKENS ∈ slots) (market collateralToken : Address)
    (isLong : Bool) (delta : Int) :
    Writes slots (applyDeltaToOpenInterestInTokens market collateralToken isLong delta) :=
  DataStore.applyDeltaToUint_writes h _ _

/-- The collateral of all positions is summed in one slot. -/
theorem applyDeltaToCollateralSum_writes (h : Slot.constant .COLLATERAL_SUM ∈ slots)
    (market collateralToken : Address) (isLong : Bool) (delta : Int) :
    Writes slots (applyDeltaToCollateralSum market collateralToken isLong delta) :=
  DataStore.applyDeltaToUint_writes h _ _

-- ---------------------------------------------------------------------------
-- Borrowing and funding
-- ---------------------------------------------------------------------------

/-- The borrowing that is accounted for a side is one slot. -/
theorem updateTotalBorrowing_writes (h : Slot.constant .TOTAL_BORROWING ∈ slots)
    (market : Address) (isLong : Bool) (prevSize prevFactor nextSize nextFactor : Nat) :
    Writes slots
      (updateTotalBorrowing market isLong prevSize prevFactor nextSize nextFactor) := by
  unfold updateTotalBorrowing
  exact (Writes.viewStore _).bind fun totalBorrowing => .writeStore (.setUint h totalBorrowing)

/-- A factor is stored with the time that it is of. -/
theorem updateCumulativeBorrowingFactor_writes
    (hfactor : Slot.constant .CUMULATIVE_BORROWING_FACTOR ∈ slots)
    (hupdated : Slot.constant .CUMULATIVE_BORROWING_FACTOR_UPDATED_AT ∈ slots) (env : Env)
    (market : Market) (prices : MarketPrices) (isLong : Bool) :
    Writes slots (updateCumulativeBorrowingFactor env market prices isLong) := by
  unfold updateCumulativeBorrowingFactor
  refine (Writes.viewStore _).bind ?_
  rintro ⟨nextFactor, delta⟩
  refine Writes.bind ?_ fun _ => .writeStore (.setUint hupdated _)
  exact (DataStore.incrementUint_writes hfactor _).bind fun _ => .pure _

/-- So are the four funding amounts per size. -/
theorem updateFundingAmountPerSize_writes
    (hamount : Slot.constant .FUNDING_AMOUNT_PER_SIZE ∈ slots)
    (hupdated : Slot.constant .FUNDING_UPDATED_AT ∈ slots) (env : Env) (market : Market)
    (prices : MarketPrices) : Writes slots (updateFundingAmountPerSize env market prices) := by
  have hset : ∀ (collateralToken : Address) (isLong : Bool) (amount : Int),
      Writes slots (setFundingAmountPerSize market.marketToken collateralToken isLong amount) := by
    intro collateralToken isLong amount
    exact Writes.writeStore (.setInt hamount _)
  unfold updateFundingAmountPerSize
  refine (Writes.viewStore _).bind fun result => ?_
  refine (hset _ _ _).bind fun _ => (hset _ _ _).bind fun _ => ?_
  refine (hset _ _ _).bind fun _ => (hset _ _ _).bind fun _ => ?_
  exact .writeStore (.setUint hupdated _)

end MarketUtils

-- ---------------------------------------------------------------------------
-- Fees and affiliate rewards
-- ---------------------------------------------------------------------------

/-- Fees to be claimed are added to one slot. -/
theorem FeeUtils.incrementClaimableFeeAmount_writes
    (h : Slot.constant .CLAIMABLE_FEE_AMOUNT ∈ slots) (market token : Address) (delta : Nat) :
    Writes slots (incrementClaimableFeeAmount market token delta) := by
  unfold incrementClaimableFeeAmount
  exact .ite (.pure _) ((DataStore.incrementUint_writes h _).bind fun _ => .pure _)

/-- A ui fee is booked for its receiver and in total. -/
theorem FeeUtils.incrementClaimableUiFeeAmount_writes
    (h : Slot.constant .CLAIMABLE_UI_FEE_AMOUNT ∈ slots) (uiFeeReceiver market token : Address)
    (delta : Nat) :
    Writes slots (incrementClaimableUiFeeAmount uiFeeReceiver market token delta) := by
  unfold incrementClaimableUiFeeAmount
  refine .ite (.pure _) ?_
  refine (DataStore.incrementUint_writes h _).bind fun _ => ?_
  exact (DataStore.incrementUint_writes h _).bind fun _ => .pure _

/-- So is the reward of an affiliate. -/
theorem ReferralUtils.incrementAffiliateReward_writes
    (h : Slot.constant .AFFILIATE_REWARD ∈ slots) (market token affiliate : Address)
    (delta : Nat) : Writes slots (incrementAffiliateReward market token affiliate delta) := by
  unfold incrementAffiliateReward
  refine .ite (.pure _) ?_
  refine (DataStore.incrementUint_writes h _).bind fun _ => ?_
  exact (DataStore.incrementUint_writes h _).bind fun _ => .pure _

end GmxSynthetics
