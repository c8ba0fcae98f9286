import GmxSynthetics.Market.Borrowing

/-!
# Pool value

`MarketUtils.getPoolValueInfo` and the conversions between market tokens and USD. The
`maximize` flag asks for the largest or the smallest value the price spreads allow:
deposits are priced with the first, withdrawals with the second.
-/

namespace GmxSynthetics

/-- `MarketPoolValueInfo.Props`. -/
structure MarketPoolValueInfo where
  poolValue : Int
  longPnl : Int
  shortPnl : Int
  netPnl : Int
  longTokenAmount : Nat
  shortTokenAmount : Nat
  longTokenUsd : Nat
  shortTokenUsd : Nat
  totalBorrowingFees : Nat
  borrowingFeePoolFactor : Nat
  impactPoolAmount : Nat
  deriving DecidableEq, Repr

namespace MarketUtils

/-- The worth of the pool tokens and of the pool's share of the pending borrowing fees,
less the pending pnl of traders and the impact pool. -/
def getPoolValueInfo (env : Env) (dataStore : DataStore) (market : Market)
    (indexTokenPrice longTokenPrice shortTokenPrice : Price) (pnlFactorType : Base)
    (maximize : Bool) : Result MarketPoolValueInfo := do
  let longTokenAmount := getPoolAmount dataStore market market.longToken
  let shortTokenAmount := getPoolAmount dataStore market market.shortToken
  let longTokenUsd ← mul longTokenAmount (longTokenPrice.pickPrice maximize)
  let shortTokenUsd ← mul shortTokenAmount (shortTokenPrice.pickPrice maximize)
  let poolValue ← toInt256 (← add longTokenUsd shortTokenUsd)
  let prices : MarketPrices := { indexTokenPrice, longTokenPrice, shortTokenPrice }
  let totalBorrowingFees ← getTotalPendingBorrowingFees env dataStore market prices true
  let totalBorrowingFees ← add totalBorrowingFees
    (← getTotalPendingBorrowingFees env dataStore market prices false)
  let borrowingFeePoolFactor ← sub Precision.FLOAT_PRECISION
    (dataStore.getUint (.base .BORROWING_FEE_RECEIVER_FACTOR))
  let poolValue ← addInt poolValue
    (← toInt256 (← Precision.applyFactor totalBorrowingFees borrowingFeePoolFactor))
  let longPnl ← getPnl dataStore market indexTokenPrice true (!maximize)
  let longPnl ← getCappedPnl dataStore market.marketToken true longPnl longTokenUsd pnlFactorType
  let shortPnl ← getPnl dataStore market indexTokenPrice false (!maximize)
  let shortPnl ←
    getCappedPnl dataStore market.marketToken false shortPnl shortTokenUsd pnlFactorType
  let netPnl ← addInt longPnl shortPnl
  let poolValue ← subInt poolValue netPnl
  let impactPoolAmount := getPositionImpactPoolAmount dataStore market.marketToken
  -- the comment in the source asks for `!maximize` here; the code passes `maximize`
  let impactPoolUsd ← mul impactPoolAmount (indexTokenPrice.pickPrice maximize)
  let poolValue ← subInt poolValue (← toInt256 impactPoolUsd)
  pure { poolValue, longPnl, shortPnl, netPnl, longTokenAmount, shortTokenAmount, longTokenUsd,
         shortTokenUsd, totalBorrowingFees, borrowingFeePoolFactor, impactPoolAmount }

def usdToMarketTokenAmount (usdValue poolValue supply : Nat) : Result Nat :=
  if supply = 0 ∨ poolValue = 0 then pure (Precision.floatToWei usdValue)
  -- round market tokens down
  else do div (← mul supply usdValue) poolValue

def marketTokenAmountToUsd (marketTokenAmount poolValue supply : Nat) : Result Nat :=
  if supply = 0 ∨ poolValue = 0 then pure 0
  else do div (← mul marketTokenAmount poolValue) supply

end MarketUtils

end GmxSynthetics
