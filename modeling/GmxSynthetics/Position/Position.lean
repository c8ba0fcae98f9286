import GmxSynthetics.Data.DataStore

/-!
# Positions

`Position.sol` and `PositionStoreUtils.sol`. A stored position is spread over one slot
per field, and its key is in the list of all positions and in that of its account; a
key that is not in the list reads as the empty position.
-/

namespace GmxSynthetics

open Evm

/-- `Position.Props`. -/
structure Position where
  account : Address
  market : Address
  collateralToken : Address
  sizeInUsd : Nat
  sizeInTokens : Nat
  collateralAmount : Nat
  borrowingFactor : Nat
  longTokenFundingAmountPerSize : Int
  shortTokenFundingAmountPerSize : Int
  increasedAtBlock : Nat
  decreasedAtBlock : Nat
  isLong : Bool
  deriving DecidableEq, Repr

/-- What an absent key reads as. -/
def Position.empty : Position where
  account := 0
  market := 0
  collateralToken := 0
  sizeInUsd := 0
  sizeInTokens := 0
  collateralAmount := 0
  borrowingFactor := 0
  longTokenFundingAmountPerSize := 0
  shortTokenFundingAmountPerSize := 0
  increasedAtBlock := 0
  decreasedAtBlock := 0
  isLong := false

/-- `PositionUtils.getPositionKey`. -/
def PositionUtils.getPositionKey (account market collateralToken : Address) (isLong : Bool) :
    StoreKey :=
  .position account market collateralToken isLong

namespace PositionStoreUtils

def get (dataStore : DataStore) (key : StoreKey) : Position :=
  if dataStore.containsBytes32 (.base .POSITION_LIST) key then
    { account := dataStore.getAddress (.field key .ACCOUNT)
      market := dataStore.getAddress (.field key .MARKET)
      collateralToken := dataStore.getAddress (.field key .COLLATERAL_TOKEN)
      sizeInUsd := dataStore.getUint (.field key .SIZE_IN_USD)
      sizeInTokens := dataStore.getUint (.field key .SIZE_IN_TOKENS)
      collateralAmount := dataStore.getUint (.field key .COLLATERAL_AMOUNT)
      borrowingFactor := dataStore.getUint (.field key .BORROWING_FACTOR)
      longTokenFundingAmountPerSize :=
        dataStore.getInt (.field key .LONG_TOKEN_FUNDING_AMOUNT_PER_SIZE)
      shortTokenFundingAmountPerSize :=
        dataStore.getInt (.field key .SHORT_TOKEN_FUNDING_AMOUNT_PER_SIZE)
      increasedAtBlock := dataStore.getUint (.field key .INCREASED_AT_BLOCK)
      decreasedAtBlock := dataStore.getUint (.field key .DECREASED_AT_BLOCK)
      isLong := dataStore.getBool (.field key .IS_LONG) }
  else Position.empty

/-- The field slots of a position. -/
def writeFields (dataStore : DataStore) (key : StoreKey) (position : Position) : DataStore :=
  let dataStore := dataStore.setAddress (.field key .ACCOUNT) position.account
  let dataStore := dataStore.setAddress (.field key .MARKET) position.market
  let dataStore := dataStore.setAddress (.field key .COLLATERAL_TOKEN) position.collateralToken
  let dataStore := dataStore.setUint (.field key .SIZE_IN_USD) position.sizeInUsd
  let dataStore := dataStore.setUint (.field key .SIZE_IN_TOKENS) position.sizeInTokens
  let dataStore := dataStore.setUint (.field key .COLLATERAL_AMOUNT) position.collateralAmount
  let dataStore := dataStore.setUint (.field key .BORROWING_FACTOR) position.borrowingFactor
  let dataStore := dataStore.setInt (.field key .LONG_TOKEN_FUNDING_AMOUNT_PER_SIZE)
    position.longTokenFundingAmountPerSize
  let dataStore := dataStore.setInt (.field key .SHORT_TOKEN_FUNDING_AMOUNT_PER_SIZE)
    position.shortTokenFundingAmountPerSize
  let dataStore := dataStore.setUint (.field key .INCREASED_AT_BLOCK) position.increasedAtBlock
  let dataStore := dataStore.setUint (.field key .DECREASED_AT_BLOCK) position.decreasedAtBlock
  dataStore.setBool (.field key .IS_LONG) position.isLong

def set (dataStore : DataStore) (key : StoreKey) (position : Position) : DataStore :=
  let dataStore := dataStore.addBytes32 (.base .POSITION_LIST) key
  let dataStore := dataStore.addBytes32 (Keys.accountPositionListKey position.account) key
  writeFields dataStore key position

/-- Deleting the field slots writes the empty position into them. -/
def remove (dataStore : DataStore) (key : StoreKey) (account : Address) : Result DataStore := do
  revertIf (¬ dataStore.containsBytes32 (.base .POSITION_LIST) key) (.PositionNotFound key)
  let dataStore := dataStore.removeBytes32 (.base .POSITION_LIST) key
  let dataStore := dataStore.removeBytes32 (Keys.accountPositionListKey account) key
  pure (writeFields dataStore key Position.empty)

end PositionStoreUtils

end GmxSynthetics
