import GmxSynthetics.Market.Market

/-!
# Funding fees

The funding part of `MarketUtils.sol`. A market has four signed accumulators, one per
collateral token and side, of the amount of that token paid per unit of position
size: an update adds to the paying side and subtracts from the receiving side. A
position owes, or is owed, its size times what the accumulator moved since the
position was last settled (`getFundingFeeAmount`).
-/

namespace GmxSynthetics.MarketUtils

structure GetNextFundingAmountPerSizeResult where
  longsPayShorts : Bool
  fundingFactorPerSecond : Nat
  fundingAmountPerSize_LongCollateral_LongPosition : Int
  fundingAmountPerSize_LongCollateral_ShortPosition : Int
  fundingAmountPerSize_ShortCollateral_LongPosition : Int
  fundingAmountPerSize_ShortCollateral_ShortPosition : Int
  deriving DecidableEq, Repr

def getFundingFactor (dataStore : DataStore) (market : Address) : Nat :=
  dataStore.getUint (Keys.fundingFactorKey market)

def getFundingExponentFactor (dataStore : DataStore) (market : Address) : Nat :=
  dataStore.getUint (Keys.fundingExponentFactorKey market)

def getFundingAmountPerSize (dataStore : DataStore) (market collateralToken : Address)
    (isLong : Bool) : Int :=
  dataStore.getInt (Keys.fundingAmountPerSizeKey market collateralToken isLong)

def setFundingAmountPerSize (market collateralToken : Address) (isLong : Bool) (value : Int) :
    Tx Unit :=
  writeStore (·.setInt (Keys.fundingAmountPerSizeKey market collateralToken isLong) value)

def getSecondsSinceFundingUpdated (env : Env) (dataStore : DataStore) (market : Address) :
    Result Nat :=
  let updatedAt := dataStore.getUint (Keys.fundingUpdatedAtKey market)
  if updatedAt = 0 then pure 0 else sub env.timestamp updatedAt

def getFundingFactorPerSecond (env : Env) (dataStore : DataStore) (market : Address)
    (diffUsd totalOpenInterest : Nat) : Result Nat :=
  if diffUsd = 0 then pure 0
  else do
    revertIf (totalOpenInterest = 0) .UnableToGetFundingFactorEmptyOpenInterest
    let fundingFactor := getFundingFactor dataStore market
    let fundingExponentFactor := getFundingExponentFactor dataStore market
    let diffUsdAfterExponent ← Precision.applyExponentFactor env diffUsd fundingExponentFactor
    let diffUsdToOpenInterestFactor ←
      Precision.toFactor diffUsdAfterExponent totalOpenInterest false
    Precision.applyFactor diffUsdToOpenInterestFactor fundingFactor

def getFundingAmountPerSizeDelta (fundingAmount openInterest : Nat) (roundUp : Bool) :
    Result Nat :=
  if fundingAmount = 0 ∨ openInterest = 0 then pure 0
  else do
    let divisor ← Calc.roundUpDivision openInterest Precision.FLOAT_PRECISION_SQRT
    Precision.toFactor fundingAmount divisor roundUp

/-- The amount an accumulator step pays or receives, as a signed value. -/
def signedFundingAmountPerSizeDelta (fundingAmount openInterest : Nat) (roundUp : Bool) :
    Result Int := do
  toInt256 (← getFundingAmountPerSizeDelta fundingAmount openInterest roundUp)

def getNextFundingAmountPerSize (env : Env) (dataStore : DataStore) (market : Market)
    (prices : MarketPrices) : Result GetNextFundingAmountPerSizeResult := do
  let marketToken := market.marketToken
  let divisor := getPoolDivisor market.longToken market.shortToken
  let longOpenInterestWithLongCollateral :=
    getOpenInterestForCollateral dataStore marketToken market.longToken true divisor
  let longOpenInterestWithShortCollateral :=
    getOpenInterestForCollateral dataStore marketToken market.shortToken true divisor
  let shortOpenInterestWithLongCollateral :=
    getOpenInterestForCollateral dataStore marketToken market.longToken false divisor
  let shortOpenInterestWithShortCollateral :=
    getOpenInterestForCollateral dataStore marketToken market.shortToken false divisor
  let longOpenInterest ←
    add longOpenInterestWithLongCollateral longOpenInterestWithShortCollateral
  let shortOpenInterest ←
    add shortOpenInterestWithLongCollateral shortOpenInterestWithShortCollateral
  let result : GetNextFundingAmountPerSizeResult :=
    { longsPayShorts := false
      fundingFactorPerSecond := 0
      fundingAmountPerSize_LongCollateral_LongPosition :=
        getFundingAmountPerSize dataStore marketToken market.longToken true
      fundingAmountPerSize_LongCollateral_ShortPosition :=
        getFundingAmountPerSize dataStore marketToken market.longToken false
      fundingAmountPerSize_ShortCollateral_LongPosition :=
        getFundingAmountPerSize dataStore marketToken market.shortToken true
      fundingAmountPerSize_ShortCollateral_ShortPosition :=
        getFundingAmountPerSize dataStore marketToken market.shortToken false }
  -- there would not be any user to pay the funding to
  if longOpenInterest = 0 ∨ shortOpenInterest = 0 then pure result
  else
    let durationInSeconds ← getSecondsSinceFundingUpdated env dataStore marketToken
    let diffUsd := Calc.diff longOpenInterest shortOpenInterest
    let totalOpenInterest ← add longOpenInterest shortOpenInterest
    let sizeOfLargerSide :=
      if longOpenInterest > shortOpenInterest then longOpenInterest else shortOpenInterest
    let fundingFactorPerSecond ←
      getFundingFactorPerSecond env dataStore marketToken diffUsd totalOpenInterest
    let fundingUsd ←
      Precision.applyFactor sizeOfLargerSide (← mul durationInSeconds fundingFactorPerSecond)
    if longOpenInterest > shortOpenInterest then
      let fundingUsdForLongCollateral ←
        Precision.applyFraction fundingUsd longOpenInterestWithLongCollateral longOpenInterest
      let fundingUsdForShortCollateral ←
        Precision.applyFraction fundingUsd longOpenInterestWithShortCollateral longOpenInterest
      let fundingAmountForLongCollateral ←
        div fundingUsdForLongCollateral prices.longTokenPrice.max
      let fundingAmountForShortCollateral ←
        div fundingUsdForShortCollateral prices.shortTokenPrice.max
      let longCollateral_LongPosition ← signedFundingAmountPerSizeDelta
        fundingAmountForLongCollateral longOpenInterestWithLongCollateral true
      let shortCollateral_LongPosition ← signedFundingAmountPerSizeDelta
        fundingAmountForShortCollateral longOpenInterestWithShortCollateral true
      let longCollateral_ShortPosition ← signedFundingAmountPerSizeDelta
        fundingAmountForLongCollateral shortOpenInterest false
      let shortCollateral_ShortPosition ← signedFundingAmountPerSizeDelta
        fundingAmountForShortCollateral shortOpenInterest false
      pure
        { longsPayShorts := true
          fundingFactorPerSecond
          fundingAmountPerSize_LongCollateral_LongPosition := ← Calc.boundedAdd
            result.fundingAmountPerSize_LongCollateral_LongPosition longCollateral_LongPosition
          fundingAmountPerSize_ShortCollateral_LongPosition := ← Calc.boundedAdd
            result.fundingAmountPerSize_ShortCollateral_LongPosition shortCollateral_LongPosition
          fundingAmountPerSize_LongCollateral_ShortPosition := ← Calc.boundedSub
            result.fundingAmountPerSize_LongCollateral_ShortPosition longCollateral_ShortPosition
          fundingAmountPerSize_ShortCollateral_ShortPosition := ← Calc.boundedSub
            result.fundingAmountPerSize_ShortCollateral_ShortPosition
              shortCollateral_ShortPosition }
    else
      let fundingUsdForLongCollateral ←
        Precision.applyFraction fundingUsd shortOpenInterestWithLongCollateral shortOpenInterest
      let fundingUsdForShortCollateral ←
        Precision.applyFraction fundingUsd shortOpenInterestWithShortCollateral shortOpenInterest
      let fundingAmountForLongCollateral ←
        div fundingUsdForLongCollateral prices.longTokenPrice.max
      let fundingAmountForShortCollateral ←
        div fundingUsdForShortCollateral prices.shortTokenPrice.max
      let longCollateral_ShortPosition ← signedFundingAmountPerSizeDelta
        fundingAmountForLongCollateral shortOpenInterestWithLongCollateral true
      let shortCollateral_ShortPosition ← signedFundingAmountPerSizeDelta
        fundingAmountForShortCollateral shortOpenInterestWithShortCollateral true
      let longCollateral_LongPosition ← signedFundingAmountPerSizeDelta
        fundingAmountForLongCollateral longOpenInterest false
      let shortCollateral_LongPosition ← signedFundingAmountPerSizeDelta
        fundingAmountForShortCollateral longOpenInterest false
      pure
        { longsPayShorts := false
          fundingFactorPerSecond
          fundingAmountPerSize_LongCollateral_ShortPosition := ← Calc.boundedAdd
            result.fundingAmountPerSize_LongCollateral_ShortPosition longCollateral_ShortPosition
          fundingAmountPerSize_ShortCollateral_ShortPosition := ← Calc.boundedAdd
            result.fundingAmountPerSize_ShortCollateral_ShortPosition
              shortCollateral_ShortPosition
          fundingAmountPerSize_LongCollateral_LongPosition := ← Calc.boundedSub
            result.fundingAmountPerSize_LongCollateral_LongPosition longCollateral_LongPosition
          fundingAmountPerSize_ShortCollateral_LongPosition := ← Calc.boundedSub
            result.fundingAmountPerSize_ShortCollateral_LongPosition
              shortCollateral_LongPosition }

def updateFundingAmountPerSize (env : Env) (market : Market) (prices : MarketPrices) :
    Tx Unit := do
  let result ← viewStore fun dataStore =>
    getNextFundingAmountPerSize env dataStore market prices
  setFundingAmountPerSize market.marketToken market.longToken true
    result.fundingAmountPerSize_LongCollateral_LongPosition
  setFundingAmountPerSize market.marketToken market.longToken false
    result.fundingAmountPerSize_LongCollateral_ShortPosition
  setFundingAmountPerSize market.marketToken market.shortToken true
    result.fundingAmountPerSize_ShortCollateral_LongPosition
  setFundingAmountPerSize market.marketToken market.shortToken false
    result.fundingAmountPerSize_ShortCollateral_ShortPosition
  writeStore (·.setUint (Keys.fundingUpdatedAtKey market.marketToken) env.timestamp)

/-- What a position of the given size owes since its last settlement; negative when the
amount is claimable. -/
def getFundingFeeAmount (latestFundingAmountPerSize positionFundingAmountPerSize : Int)
    (positionSizeInUsd : Nat) : Result Int := do
  let fundingDiffFactor ← subInt latestFundingAmountPerSize positionFundingAmountPerSize
  let adjustedPositionSizeInUsd := positionSizeInUsd / Precision.FLOAT_PRECISION_SQRT
  let numerator ← mulInt (← toInt256 adjustedPositionSizeInUsd) fundingDiffFactor
  if numerator = 0 then pure 0
  -- round down what is claimable
  else if numerator < 0 then divInt numerator (← toInt256 Precision.FLOAT_PRECISION)
  -- round up what is owed, so that frequent updates do not avoid the fee
  else Calc.roundUpMagnitudeDivision numerator Precision.FLOAT_PRECISION

end GmxSynthetics.MarketUtils
