import GmxSynthetics.Market.Market

/-!
# Market ledgers

The part of `MarketUtils.sol` that writes a market's amounts: pool, impact pools,
claimable amounts, open interest, collateral sums and virtual inventory; and
`validateMarketTokenBalance`, which checks a market's token balance against them.
Emitted events are left out.
-/

namespace GmxSynthetics.MarketUtils

-- ---------------------------------------------------------------------------
-- Claimable amounts
-- ---------------------------------------------------------------------------

def incrementClaimableCollateralAmount (env : Env) (market token account : Address)
    (delta : Nat) : Tx Unit := do
  let divisor ← readStore (·.getUint (.base .CLAIMABLE_COLLATERAL_TIME_DIVISOR))
  let timeKey ← div env.timestamp divisor
  let _ ← DataStore.incrementUint
    (Keys.claimableCollateralAmountForAccountKey market token timeKey account) delta
  let _ ← DataStore.incrementUint (Keys.claimableCollateralAmountKey market token) delta

def incrementClaimableFundingAmount (market token account : Address) (delta : Nat) :
    Tx Unit := do
  let _ ← DataStore.incrementUint
    (Keys.claimableFundingAmountForAccountKey market token account) delta
  let _ ← DataStore.incrementUint (Keys.claimableFundingAmountKey market token) delta

-- ---------------------------------------------------------------------------
-- Pools
-- ---------------------------------------------------------------------------

def applyDeltaToVirtualInventoryForSwaps (market token : Address) (delta : Int) : Tx Unit := do
  let marketId ← readStore (·.getBytes32 (Keys.virtualMarketIdKey market))
  if marketId = 0 then pure ()
  else
    let _ ← DataStore.applyBoundedDeltaToUint
      (Keys.virtualInventoryForSwapsKey marketId token) delta

def applyDeltaToVirtualInventoryForPositions (token : Address) (delta : Int) : Tx Unit := do
  let tokenId ← readStore (·.getBytes32 (Keys.virtualTokenIdKey token))
  if tokenId = 0 then pure ()
  else
    let _ ← DataStore.applyDeltaToInt (Keys.virtualInventoryForPositionsKey tokenId) delta

def applyDeltaToPoolAmount (market token : Address) (delta : Int) : Tx Nat := do
  let nextValue ← DataStore.applyDeltaToUint (Keys.poolAmountKey market token) delta
    "Invalid state, negative poolAmount"
  applyDeltaToVirtualInventoryForSwaps market token delta
  pure nextValue

def applyDeltaToSwapImpactPool (market token : Address) (delta : Int) : Tx Nat :=
  DataStore.applyBoundedDeltaToUint (Keys.swapImpactPoolAmountKey market token) delta

def applyDeltaToPositionImpactPool (market : Address) (delta : Int) : Tx Nat :=
  DataStore.applyBoundedDeltaToUint (Keys.positionImpactPoolAmountKey market) delta

/-- Moves the swap impact pool by the impact amount, capped by the pool. -/
def applySwapImpactWithCap (market token : Address) (tokenPrice : Price)
    (priceImpactUsd : Int) : Tx Int := do
  let impactAmount ← viewStore fun dataStore =>
    getSwapImpactAmountWithCap dataStore market token tokenPrice priceImpactUsd
  let _ ← applyDeltaToSwapImpactPool market token (← negInt impactAmount)
  pure impactAmount

-- ---------------------------------------------------------------------------
-- Open interest and collateral
-- ---------------------------------------------------------------------------

def applyDeltaToOpenInterest (market : Market) (collateralToken : Address) (isLong : Bool)
    (delta : Int) : Tx Nat := do
  revertIf (market.indexToken = 0)
    (.OpenInterestCannotBeUpdatedForSwapOnlyMarket market.marketToken)
  let nextValue ← DataStore.applyDeltaToUint
    (Keys.openInterestKey market.marketToken collateralToken isLong) delta
    "Invalid state: negative open interest"
  let inventoryDelta ← (if isLong then negInt delta else pure delta : Result Int)
  -- if the open interest for longs is increased then tokens were virtually bought from the pool
  applyDeltaToVirtualInventoryForPositions market.indexToken inventoryDelta
  (if delta > 0 then viewStore fun dataStore => validateOpenInterest dataStore market isLong
    else pure ())
  pure nextValue

def applyDeltaToOpenInterestInTokens (market collateralToken : Address) (isLong : Bool)
    (delta : Int) : Tx Nat :=
  DataStore.applyDeltaToUint (Keys.openInterestInTokensKey market collateralToken isLong) delta
    "Invalid state: negative open interest in tokens"

def applyDeltaToCollateralSum (market collateralToken : Address) (isLong : Bool)
    (delta : Int) : Tx Nat :=
  DataStore.applyDeltaToUint (Keys.collateralSumKey market collateralToken isLong) delta
    "Invalid state: negative collateralSum"

-- ---------------------------------------------------------------------------
-- Balance validation
-- ---------------------------------------------------------------------------

/-- The tokens a market must hold: its recorded amounts without collateral and funding. -/
def getExpectedMinTokenBalance (dataStore : DataStore) (market : Market) (token : Address) :
    Result Nat := do
  let poolAmount := dataStore.getUint (Keys.poolAmountKey market.marketToken token)
  let swapImpactPoolAmount := getSwapImpactPoolAmount dataStore market.marketToken token
  let claimableCollateralAmount :=
    dataStore.getUint (Keys.claimableCollateralAmountKey market.marketToken token)
  let claimableFeeAmount :=
    dataStore.getUint (Keys.claimableFeeAmountKey market.marketToken token)
  let claimableUiFeeAmount :=
    dataStore.getUint (Keys.claimableUiFeeAmountKey market.marketToken token)
  let affiliateRewardAmount :=
    dataStore.getUint (Keys.affiliateRewardKey market.marketToken token)
  let total ← add poolAmount swapImpactPoolAmount
  let total ← add total claimableCollateralAmount
  let total ← add total claimableFeeAmount
  let total ← add total claimableUiFeeAmount
  add total affiliateRewardAmount

def validateMarketTokenBalanceForToken (w : World) (market : Market) (token : Address) :
    Result Unit := do
  revertIf (market.marketToken = 0 ∨ token = 0)
    (.EmptyAddressInMarketTokenBalanceValidation market.marketToken token)
  let balance := w.balances token market.marketToken
  let expectedMinBalance ← getExpectedMinTokenBalance w.dataStore market token
  revertIf (balance < expectedMinBalance)
    (.InvalidMarketTokenBalance market.marketToken token balance expectedMinBalance)
  let collateralAmount ← add
    (getCollateralSum w.dataStore market.marketToken token true 1)
    (getCollateralSum w.dataStore market.marketToken token false 1)
  revertIf (balance < collateralAmount)
    (.InvalidMarketTokenBalanceForCollateralAmount market.marketToken token balance
      collateralAmount)
  let claimableFundingFeeAmount :=
    w.dataStore.getUint (Keys.claimableFundingAmountKey market.marketToken token)
  revertIf (balance < claimableFundingFeeAmount)
    (.InvalidMarketTokenBalanceForClaimableFunding market.marketToken token balance
      claimableFundingFeeAmount)

def validateMarketTokenBalance (w : World) (market : Market) : Result Unit := do
  validateMarketTokenBalanceForToken w market market.longToken
  if market.longToken = market.shortToken then pure ()
  else validateMarketTokenBalanceForToken w market market.shortToken

def validateMarketTokenBalances (w : World) (markets : List Market) : Result Unit :=
  markets.forM (validateMarketTokenBalance w)

end GmxSynthetics.MarketUtils

-- ---------------------------------------------------------------------------
-- Fees and affiliate rewards
-- ---------------------------------------------------------------------------

namespace GmxSynthetics

def FeeUtils.incrementClaimableFeeAmount (market token : Address) (delta : Nat) : Tx Unit :=
  if delta = 0 then pure ()
  else do
    let _ ← DataStore.incrementUint (Keys.claimableFeeAmountKey market token) delta

def FeeUtils.incrementClaimableUiFeeAmount (uiFeeReceiver market token : Address)
    (delta : Nat) : Tx Unit :=
  if delta = 0 then pure ()
  else do
    let _ ← DataStore.incrementUint
      (Keys.claimableUiFeeAmountForAccountKey market token uiFeeReceiver) delta
    let _ ← DataStore.incrementUint (Keys.claimableUiFeeAmountKey market token) delta

def ReferralUtils.incrementAffiliateReward (market token affiliate : Address) (delta : Nat) :
    Tx Unit :=
  if delta = 0 then pure ()
  else do
    let _ ← DataStore.incrementUint
      (Keys.affiliateRewardForAccountKey market token affiliate) delta
    let _ ← DataStore.incrementUint (Keys.affiliateRewardKey market token) delta

end GmxSynthetics
