import GmxSynthetics.Oracle.OracleUtils
import GmxSynthetics.Utils.Precision

/-!
# Oracle

`Oracle.sol`: prices enter as medians of signed reports or from price feeds, stay for one
execution and are cleared. The loops of `_setPrices` are recursions over the tokens and over the
signers; each iteration is a function of its own.
-/

namespace GmxSynthetics

open Evm OracleUtils

/-- The storage of the oracle. -/
structure Oracle where
  tokensWithPrices : List Address
  primaryPrices : Address → Price

/-- What a call of the oracle reads from outside its storage and the `DataStore`. -/
structure OracleEnv where
  /-- `Chain.currentTimestamp`. -/
  timestamp : Nat
  /-- `Chain.currentBlockNumber`. -/
  blockNumber : Nat
  /-- `Chain.getBlockHash`. -/
  getBlockHash : Nat → Nat
  /-- `block.chainid`. -/
  chainId : Nat
  oracleStore : OracleStore
  /-- `IPriceFeed.latestRoundData` of a feed: its answer and its timestamp. -/
  latestRoundData : Address → Int × Nat
  /-- `ECDSA.recover`, a third-party library. -/
  recover : Digest → Bytes → Result Address

namespace Oracle

/-- The oracle of a fresh deployment. -/
def empty : Oracle where
  tokensWithPrices := []
  primaryPrices _ := ⟨0, 0⟩

def SIGNER_INDEX_LENGTH : Nat := 16

def MAX_SIGNERS : Nat := 256 / SIGNER_INDEX_LENGTH - 1

def MAX_SIGNER_INDEX : Nat := 256

/-- `primaryPrices[token] = price` and `tokensWithPrices.add(token)`. -/
def setPrice (oracle : Oracle) (token : Address) (price : Price) : Oracle where
  tokensWithPrices := EnumerableSet.add oracle.tokensWithPrices token
  primaryPrices := Function.update oracle.primaryPrices token price

/-- `delete primaryPrices[token]` and `tokensWithPrices.remove(token)`. -/
def clearPrice (oracle : Oracle) (token : Address) : Oracle where
  tokensWithPrices := EnumerableSet.remove oracle.tokensWithPrices token
  primaryPrices := Function.update oracle.primaryPrices token ⟨0, 0⟩

-- ---------------------------------------------------------------------------
-- Price feeds
-- ---------------------------------------------------------------------------

def getStablePrice (dataStore : DataStore) (token : Address) : Nat :=
  dataStore.getUint (Keys.stablePriceKey token)

def getPriceFeedMultiplier (dataStore : DataStore) (token : Address) : Result Nat := do
  let multiplier := dataStore.getUint (Keys.priceFeedMultiplierKey token)
  revertIf (multiplier = 0) (.EmptyPriceFeedMultiplier token)
  pure multiplier

def _getPriceFeedPrice (env : OracleEnv) (dataStore : DataStore) (token : Address) :
    Result (Bool × Nat) := do
  let priceFeedAddress := dataStore.getAddress (Keys.priceFeedKey token)
  if priceFeedAddress = 0 then pure (false, 0) else do
    let (price, timestamp) := env.latestRoundData priceFeedAddress
    revertIf (price ≤ 0) (.InvalidFeedPrice token price)
    let heartbeatDuration := dataStore.getUint (Keys.priceFeedHeartbeatDurationKey token)
    revertIf (env.timestamp > timestamp ∧ env.timestamp - timestamp > heartbeatDuration)
      (.PriceFeedNotUpdated token timestamp heartbeatDuration)
    let price ← toUint256 price
    let precision ← getPriceFeedMultiplier dataStore token
    let adjustedPrice ← div (← mul price precision) Precision.FLOAT_PRECISION
    pure (true, adjustedPrice)

/-- The price of a feed, put in order with the stable price. -/
def feedPrice (dataStore : DataStore) (token : Address) (price : Nat) : Price :=
  let stablePrice := getStablePrice dataStore token
  if stablePrice > 0 then
    { min := if price < stablePrice then price else stablePrice
      max := if price < stablePrice then stablePrice else price }
  else { min := price, max := price }

def _setPricesFromPriceFeeds (env : OracleEnv) (dataStore : DataStore) :
    List Address → Oracle → Result Oracle
  | [], oracle => pure oracle
  | token :: priceFeedTokens, oracle => do
    revertIf (¬ (oracle.primaryPrices token).isEmpty = true) (.PriceAlreadySet token
      (oracle.primaryPrices token).min (oracle.primaryPrices token).max)
    let (hasPriceFeed, price) ← _getPriceFeedPrice env dataStore token
    revertIf (hasPriceFeed = false) (.EmptyPriceFeed token)
    _setPricesFromPriceFeeds env dataStore priceFeedTokens
      (oracle.setPrice token (feedPrice dataStore token price))

-- ---------------------------------------------------------------------------
-- Signed prices
-- ---------------------------------------------------------------------------

def _getSalt (env : OracleEnv) : Salt := ⟨env.chainId, "xget-oracle-v1"⟩

def validateRefPrice (token : Address) (price refPrice maxRefPriceDeviationFactor : Nat) :
    Result Unit := do
  let diff := Calc.diff price refPrice
  let diffFactor ← Precision.toFactor diff refPrice false
  revertIf (diffFactor > maxRefPriceDeviationFactor)
    (.MaxRefPriceDeviationExceeded token price refPrice maxRefPriceDeviationFactor)

/-- The signers from index `i` on, with the mask of the indices before. -/
def getSignersFrom (env : OracleEnv) (signerInfo : Nat) :
    (count i : Nat) → Uint256Mask.Mask → Result (List Address)
  | 0, _, _ => pure []
  | count + 1, i, signerIndexMask => do
    let signerIndex := (signerInfo >>> (16 + 16 * i)) &&& Bits.BITMASK_16
    revertIf (signerIndex ≥ MAX_SIGNER_INDEX) (.MaxSignerIndex signerIndex MAX_SIGNER_INDEX)
    let signerIndexMask ←
      Uint256Mask.validateUniqueAndSetIndex signerIndexMask signerIndex "signerIndex"
    let signer ← env.oracleStore.getSigner signerIndex
    revertIf (signer = 0) (.EmptySigner signerIndex)
    let signers ← getSignersFrom env signerInfo count (i + 1) signerIndexMask
    pure (signer :: signers)

/-- The part of `setPrices` that reads the signers. -/
def getSigners (env : OracleEnv) (dataStore : DataStore) (params : SetPricesParams) :
    Result (List Address) := do
  let signersLength := params.signerInfo &&& Bits.BITMASK_16
  revertIf (signersLength < dataStore.getUint (.base .MIN_ORACLE_SIGNERS))
    (.MinOracleSigners signersLength (dataStore.getUint (.base .MIN_ORACLE_SIGNERS)))
  revertIf (signersLength > MAX_SIGNERS) (.MaxOracleSigners signersLength MAX_SIGNERS)
  getSignersFrom env params.signerInfo signersLength 0 .empty

/-- The head of an iteration of `_setPrices`: what all signers of the token have to sign. The
prices are filled in for each signer. -/
def getReportInfo (env : OracleEnv) (dataStore : DataStore) (params : SetPricesParams)
    (prevMinOracleBlockNumber i : Nat) (token : Address) : Result ReportInfo := do
  let minOracleBlockNumber ←
    getUncompactedOracleBlockNumber params.compactedMinOracleBlockNumbers i
  let maxOracleBlockNumber ←
    getUncompactedOracleBlockNumber params.compactedMaxOracleBlockNumbers i
  revertIf (minOracleBlockNumber > maxOracleBlockNumber)
    (.InvalidMinMaxBlockNumber minOracleBlockNumber maxOracleBlockNumber)
  let oracleTimestamp ← getUncompactedOracleTimestamp params.compactedOracleTimestamps i
  revertIf (minOracleBlockNumber > env.blockNumber) (.InvalidBlockNumber minOracleBlockNumber)
  let maxPriceAge := dataStore.getUint (.base .MAX_ORACLE_PRICE_AGE)
  revertIf ((← add oracleTimestamp maxPriceAge) < env.timestamp)
    (.MaxPriceAgeExceeded oracleTimestamp)
  revertIf (minOracleBlockNumber < prevMinOracleBlockNumber)
    (.BlockNumbersNotSorted minOracleBlockNumber prevMinOracleBlockNumber)
  let minBlockConfirmations := dataStore.getUint (.base .MIN_ORACLE_BLOCK_CONFIRMATIONS)
  let blockHash := if (← sub env.blockNumber maxOracleBlockNumber) ≤ minBlockConfirmations then
    env.getBlockHash maxOracleBlockNumber else 0
  let decimal ← getUncompactedDecimal params.compactedDecimals i
  let precision ← checkUint (10 ^ decimal)
  pure
    { minOracleBlockNumber := minOracleBlockNumber
      maxOracleBlockNumber := maxOracleBlockNumber
      oracleTimestamp := oracleTimestamp
      blockHash := blockHash
      token := token
      tokenOracleType := dataStore.getBytes32 (Keys.oracleTypeKey token)
      precision := precision
      minPrice := 0
      maxPrice := 0 }

/-- Compare a price with the one before it; the first one is not compared. -/
def validateSorted (error : (price prevPrice : Nat) → Errors) (prices : List Nat) (price : Nat) :
    Result Unit :=
  match prices.getLast? with
  | some prevPrice => revertIf (prevPrice > price) (error price prevPrice)
  | none => pure ()

/-- `minPrices` and `maxPrices` after `j` iterations of the first inner loop. -/
def getSignerPrices (params : SetPricesParams) (signersLength i : Nat) (token : Address) :
    (j : Nat) → Result (List Nat × List Nat)
  | 0 => pure ([], [])
  | j + 1 => do
    let (minPrices, maxPrices) ← getSignerPrices params signersLength i token j
    let priceIndex ← add (← mul i signersLength) j
    let minPrice ← getUncompactedPrice params.compactedMinPrices priceIndex
    let maxPrice ← getUncompactedPrice params.compactedMaxPrices priceIndex
    validateSorted (.MinPricesNotSorted token) minPrices minPrice
    validateSorted (.MaxPricesNotSorted token) maxPrices maxPrice
    pure (minPrices ++ [minPrice], maxPrices ++ [maxPrice])

/-- The second inner loop, from signer `j` on. -/
def validateSigners (env : OracleEnv) (params : SetPricesParams) (signersLength i : Nat)
    (info : ReportInfo) (minPrices maxPrices : List Nat) :
    (j : Nat) → List Address → (minPriceIndexMask maxPriceIndexMask : Uint256Mask.Mask) →
      Result Unit
  | _, [], _, _ => pure ()
  | j, signer :: signers, minPriceIndexMask, maxPriceIndexMask => do
    let signatureIndex ← add (← mul i signersLength) j
    let minPriceIndex ← getUncompactedPriceIndex params.compactedMinPricesIndexes signatureIndex
    let maxPriceIndex ← getUncompactedPriceIndex params.compactedMaxPricesIndexes signatureIndex
    revertIf (signatureIndex ≥ params.signatures.length)
      (.ArrayOutOfBoundsBytes params.signatures signatureIndex "signatures")
    revertIf (minPriceIndex ≥ minPrices.length)
      (.ArrayOutOfBoundsUint256 minPrices minPriceIndex "minPrices")
    revertIf (maxPriceIndex ≥ maxPrices.length)
      (.ArrayOutOfBoundsUint256 maxPrices maxPriceIndex "maxPrices")
    let minPriceIndexMask ←
      Uint256Mask.validateUniqueAndSetIndex minPriceIndexMask minPriceIndex "minPriceIndex"
    let maxPriceIndexMask ←
      Uint256Mask.validateUniqueAndSetIndex maxPriceIndexMask maxPriceIndex "maxPriceIndex"
    let minPrice ← Array.read minPrices minPriceIndex
    let maxPrice ← Array.read maxPrices maxPriceIndex
    revertIf (minPrice > maxPrice) (.InvalidSignerMinMaxPrice minPrice maxPrice)
    validateSigner env.recover (_getSalt env)
      { info with minPrice := minPrice, maxPrice := maxPrice }
      (← Array.read params.signatures signatureIndex) signer
    validateSigners env params signersLength i info minPrices maxPrices (j + 1) signers
      minPriceIndexMask maxPriceIndexMask

/-- The medians against the price feed of the token, if it has one. -/
def validateRefPrices (env : OracleEnv) (dataStore : DataStore) (token : Address)
    (medianMinPrice medianMaxPrice : Nat) : Result Unit := do
  let (hasPriceFeed, refPrice) ← _getPriceFeedPrice env dataStore token
  if hasPriceFeed then do
    let maxRefPriceDeviationFactor :=
      dataStore.getUint (.base .MAX_ORACLE_REF_PRICE_DEVIATION_FACTOR)
    validateRefPrice token medianMinPrice refPrice maxRefPriceDeviationFactor
    validateRefPrice token medianMaxPrice refPrice maxRefPriceDeviationFactor
  else pure ()

/-- The tail of an iteration of `_setPrices`: the price that is stored. -/
def getMedianPrice (env : OracleEnv) (dataStore : DataStore) (oracle : Oracle)
    (info : ReportInfo) (minPrices maxPrices : List Nat) : Result Price := do
  let medianMinPrice ← mul (← Array.getMedian minPrices) info.precision
  let medianMaxPrice ← mul (← Array.getMedian maxPrices) info.precision
  validateRefPrices env dataStore info.token medianMinPrice medianMaxPrice
  revertIf (medianMinPrice = 0 ∨ medianMaxPrice = 0) (.InvalidOraclePrice info.token)
  revertIf (medianMinPrice > medianMaxPrice)
    (.InvalidMedianMinMaxPrice medianMinPrice medianMaxPrice)
  revertIf (¬ (oracle.primaryPrices info.token).isEmpty = true) (.DuplicateTokenPrice info.token)
  pure ⟨medianMinPrice, medianMaxPrice⟩

/-- The loop of `_setPrices`, from token `i` on. -/
def setPricesFrom (env : OracleEnv) (dataStore : DataStore) (signers : List Address)
    (params : SetPricesParams) : (prevMinOracleBlockNumber i : Nat) → List Address → Oracle →
      Result Oracle
  | _, _, [], oracle => pure oracle
  | prevMinOracleBlockNumber, i, token :: tokens, oracle => do
    let info ← getReportInfo env dataStore params prevMinOracleBlockNumber i token
    let (minPrices, maxPrices) ← getSignerPrices params signers.length i token signers.length
    validateSigners env params signers.length i info minPrices maxPrices 0 signers .empty .empty
    let price ← getMedianPrice env dataStore oracle info minPrices maxPrices
    setPricesFrom env dataStore signers params info.minOracleBlockNumber (i + 1) tokens
      (oracle.setPrice token price)

def _setPrices (env : OracleEnv) (dataStore : DataStore) (signers : List Address)
    (params : SetPricesParams) (oracle : Oracle) : Result Oracle :=
  setPricesFrom env dataStore signers params 0 0 params.tokens oracle

-- ---------------------------------------------------------------------------
-- Calls
-- ---------------------------------------------------------------------------

def setPrices (env : OracleEnv) (dataStore : DataStore) (params : SetPricesParams)
    (oracle : Oracle) : Result Oracle := do
  revertIf (oracle.tokensWithPrices.length ≠ 0)
    (.NonEmptyTokensWithPrices oracle.tokensWithPrices.length)
  let oracle ← _setPricesFromPriceFeeds env dataStore params.priceFeedTokens oracle
  if params.tokens.length = 0 then pure oracle else do
    let signers ← getSigners env dataStore params
    _setPrices env dataStore signers params oracle

/-- `length` iterations of the loop of `clearAllPrices`. -/
def clearPrices : (length : Nat) → Oracle → Result Oracle
  | 0, oracle => pure oracle
  | length + 1, oracle => do
    let token ← Array.read oracle.tokensWithPrices 0
    clearPrices length (oracle.clearPrice token)

def clearAllPrices (oracle : Oracle) : Result Oracle :=
  clearPrices oracle.tokensWithPrices.length oracle

end Oracle

end GmxSynthetics
