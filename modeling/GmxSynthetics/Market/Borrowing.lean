import GmxSynthetics.Market.Market

/-!
# Borrowing fees

The borrowing part of `MarketUtils.sol`. A side of a market has one cumulative
factor; a position remembers the factor at its last update and owes
`size * (cumulative - remembered)`. `totalBorrowing` is the aggregate
`Σ size * remembered` that `getTotalPendingBorrowingFees` subtracts from
`openInterest * cumulative`.
-/

namespace GmxSynthetics.MarketUtils

open Evm

def getBorrowingFactor (dataStore : DataStore) (market : Address) (isLong : Bool) : Nat :=
  dataStore.getUint (Keys.borrowingFactorKey market isLong)

def getBorrowingExponentFactor (dataStore : DataStore) (market : Address) (isLong : Bool) : Nat :=
  dataStore.getUint (Keys.borrowingExponentFactorKey market isLong)

def getCumulativeBorrowingFactor (dataStore : DataStore) (market : Address) (isLong : Bool) :
    Nat :=
  dataStore.getUint (Keys.cumulativeBorrowingFactorKey market isLong)

def getCumulativeBorrowingFactorUpdatedAt (dataStore : DataStore) (market : Address)
    (isLong : Bool) : Nat :=
  dataStore.getUint (Keys.cumulativeBorrowingFactorUpdatedAtKey market isLong)

def getTotalBorrowing (dataStore : DataStore) (market : Address) (isLong : Bool) : Nat :=
  dataStore.getUint (Keys.totalBorrowingKey market isLong)

def getSecondsSinceCumulativeBorrowingFactorUpdated (env : Env) (dataStore : DataStore)
    (market : Address) (isLong : Bool) : Result Nat :=
  let updatedAt := getCumulativeBorrowingFactorUpdatedAt dataStore market isLong
  if updatedAt = 0 then pure 0 else sub env.timestamp updatedAt

def getBorrowingFactorPerSecond (env : Env) (dataStore : DataStore) (market : Market)
    (prices : MarketPrices) (isLong : Bool) : Result Nat := do
  let borrowingFactor := getBorrowingFactor dataStore market.marketToken isLong
  let reservedUsd ← getReservedUsd dataStore market prices isLong
  if reservedUsd = 0 then pure 0
  else
    let poolUsd ← getPoolUsdWithoutPnl dataStore market prices isLong
    revertIf (poolUsd = 0) .UnableToGetBorrowingFactorEmptyPoolUsd
    let borrowingExponentFactor := getBorrowingExponentFactor dataStore market.marketToken isLong
    let reservedUsdAfterExponent ←
      Precision.applyExponentFactor env reservedUsd borrowingExponentFactor
    let reservedUsdToPoolFactor ← Precision.toFactor reservedUsdAfterExponent poolUsd false
    Precision.applyFactor reservedUsdToPoolFactor borrowingFactor

/-- The cumulative factor brought up to the current block, and what it grew by. -/
def getNextCumulativeBorrowingFactor (env : Env) (dataStore : DataStore) (market : Market)
    (prices : MarketPrices) (isLong : Bool) : Result (Nat × Nat) := do
  let durationInSeconds ←
    getSecondsSinceCumulativeBorrowingFactorUpdated env dataStore market.marketToken isLong
  let borrowingFactorPerSecond ← getBorrowingFactorPerSecond env dataStore market prices isLong
  let cumulativeBorrowingFactor :=
    getCumulativeBorrowingFactor dataStore market.marketToken isLong
  let delta ← mul durationInSeconds borrowingFactorPerSecond
  let nextCumulativeBorrowingFactor ← add cumulativeBorrowingFactor delta
  pure (nextCumulativeBorrowingFactor, delta)

def getTotalPendingBorrowingFees (env : Env) (dataStore : DataStore) (market : Market)
    (prices : MarketPrices) (isLong : Bool) : Result Nat := do
  let openInterest ← getOpenInterest dataStore market isLong
  let (nextCumulativeBorrowingFactor, _) ←
    getNextCumulativeBorrowingFactor env dataStore market prices isLong
  let totalBorrowing := getTotalBorrowing dataStore market.marketToken isLong
  sub (← div (← mul openInterest nextCumulativeBorrowingFactor) Precision.FLOAT_PRECISION)
    totalBorrowing

def getNextTotalBorrowing (dataStore : DataStore) (market : Address) (isLong : Bool)
    (prevPositionSizeInUsd prevPositionBorrowingFactor nextPositionSizeInUsd
      nextPositionBorrowingFactor : Nat) : Result Nat := do
  let totalBorrowing := getTotalBorrowing dataStore market isLong
  let totalBorrowing ← sub totalBorrowing
    (← Precision.applyFactor prevPositionSizeInUsd prevPositionBorrowingFactor)
  add totalBorrowing (← Precision.applyFactor nextPositionSizeInUsd nextPositionBorrowingFactor)

def updateTotalBorrowing (market : Address) (isLong : Bool)
    (prevPositionSizeInUsd prevPositionBorrowingFactor nextPositionSizeInUsd
      nextPositionBorrowingFactor : Nat) : Tx Unit := do
  let totalBorrowing ← viewStore fun dataStore =>
    getNextTotalBorrowing dataStore market isLong prevPositionSizeInUsd
      prevPositionBorrowingFactor nextPositionSizeInUsd nextPositionBorrowingFactor
  writeStore (·.setUint (Keys.totalBorrowingKey market isLong) totalBorrowing)

def incrementCumulativeBorrowingFactor (market : Address) (isLong : Bool) (delta : Nat) :
    Tx Unit := do
  let _ ← DataStore.incrementUint (Keys.cumulativeBorrowingFactorKey market isLong) delta

def updateCumulativeBorrowingFactor (env : Env) (market : Market) (prices : MarketPrices)
    (isLong : Bool) : Tx Unit := do
  let (_, delta) ← viewStore fun dataStore =>
    getNextCumulativeBorrowingFactor env dataStore market prices isLong
  incrementCumulativeBorrowingFactor market.marketToken isLong delta
  writeStore (·.setUint
    (Keys.cumulativeBorrowingFactorUpdatedAtKey market.marketToken isLong) env.timestamp)

end GmxSynthetics.MarketUtils
