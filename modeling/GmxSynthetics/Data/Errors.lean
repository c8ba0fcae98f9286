import GmxSynthetics.Data.Keys

/-!
# Custom errors

`Errors.sol`, restricted to the errors the modelled contracts raise, with the values
each one reports.
-/

namespace GmxSynthetics

/-- A `bytes` value. -/
abbrev Bytes := List UInt8

inductive Errors where
  | ActionAlreadySignalled
  | ActionNotSignalled
  | SignalTimeNotYetPassed (signalTime : Nat)
  | InvalidTimelockDelay (timelockDelay : Nat)
  | MaxTimelockDelayExceeded (timelockDelay : Nat)
  | InvalidFeeReceiver (receiver : Address)
  | InvalidOracleSigner (receiver : Address)
  | EmptyAccount
  | EmptyReceiver
  | InvalidSizeDeltaForAdl (sizeDeltaUsd positionSizeInUsd : Nat)
  | AdlNotEnabled
  | SelfTransferNotSupported (receiver : Address)
  | MaxCallbackGasLimitExceeded (callbackGasLimit maxCallbackGasLimit : Nat)
  | DepositNotFound (key : StoreKey)
  | EmptyDeposit
  | EmptyDepositAmounts
  | MinMarketTokens (received expected : Nat)
  | EmptyDepositAmountsAfterSwap
  | InvalidPoolValueForDeposit (poolValue : Int)
  | InvalidSwapOutputToken (outputToken expectedOutputToken : Address)
  | AdlNotRequired (pnlToPoolFactor : Int) (maxPnlFactorForAdl : Nat)
  | InvalidAdl (nextPnlToPoolFactor pnlToPoolFactor : Int)
  | PnlOvercorrected (nextPnlToPoolFactor : Int) (minPnlFactorForAdl : Nat)
  | OrderNotUpdatable (orderType : Nat)
  | InvalidKeeperForFrozenOrder (keeper : Address)
  | DisabledFeature (key : Key)
  | InsufficientExecutionFee (minExecutionFee executionFee : Nat)
  | InsufficientWntAmountForExecutionFee (wntAmount executionFee : Nat)
  | InsufficientExecutionGas (startingGas minHandleErrorGas : Nat)
  | EmptyMarket
  | MarketAlreadyExists (salt : Key) (existingMarketAddress : Address)
  | DisabledMarket (market : Address)
  | CollateralAlreadyClaimed (adjustedClaimableAmount claimedAmount : Nat)
  | MaxSwapPathLengthExceeded (swapPathLengh maxSwapPathLength : Nat)
  | InsufficientReserve (reservedUsd maxReservedUsd : Nat)
  | UnableToGetOppositeToken (inputToken market : Address)
  | InvalidSwapMarket (market : Address)
  | UnableToGetCachedTokenPrice (token market : Address)
  | OpenInterestCannotBeUpdatedForSwapOnlyMarket (market : Address)
  | MaxOpenInterestExceeded (openInterest maxOpenInterest : Nat)
  | MaxPoolAmountExceeded (poolAmount maxPoolAmount : Nat)
  | UnexpectedBorrowingFactor (positionBorrowingFactor cumulativeBorrowingFactor : Nat)
  | UnableToGetBorrowingFactorEmptyPoolUsd
  | UnableToGetFundingFactorEmptyOpenInterest
  | InvalidPositionMarket (market : Address)
  | InvalidCollateralTokenForMarket (market token : Address)
  | PnlFactorExceededForLongs (pnlToPoolFactor : Int) (maxPnlFactor : Nat)
  | PnlFactorExceededForShorts (pnlToPoolFactor : Int) (maxPnlFactor : Nat)
  | EmptyAddressInMarketTokenBalanceValidation (market token : Address)
  | InvalidMarketTokenBalance (market token : Address) (balance expectedMinBalance : Nat)
  | InvalidMarketTokenBalanceForCollateralAmount (market token : Address)
      (balance collateralAmount : Nat)
  | InvalidMarketTokenBalanceForClaimableFunding (market token : Address)
      (balance claimableFundingFeeAmount : Nat)
  | EmptyPrimaryPrice (token : Address)
  | OracleBlockNumbersAreSmallerThanRequired (oracleBlockNumbers : List Nat)
      (expectedBlockNumber : Nat)
  | OracleBlockNumberNotWithinRange (minOracleBlockNumbers maxOracleBlockNumbers : List Nat)
      (blockNumber : Nat)
  | RequestNotYetCancellable (requestAge requestExpirationAge : Nat) (requestType : String)
  | Unauthorized (msgSender : Address) (role : String)
  | ThereMustBeAtLeastOneRoleAdmin
  | ThereMustBeAtLeastOneTimelockMultiSig
  | EmptyOrder
  | UnsupportedOrderType
  | InvalidOrderPrices (primaryPriceMin primaryPriceMax triggerPrice orderType : Nat)
  | PriceImpactLargerThanOrderSize (priceImpactUsdForPriceAdjustment : Int) (sizeDeltaUsd : Nat)
  | OrderNotFulfillableDueToPriceImpact (price acceptablePrice : Nat)
  | UnexpectedPositionState
  | OrderTypeCannotBeCreated (orderType : Nat)
  | OrderAlreadyFrozen
  | OrderNotFound (key : StoreKey)
  | UnexpectedMarket
  | InsufficientCollateral (collateralAmount pendingCollateralDeduction : Nat)
  | InvalidOutputToken (tokenOut expectedTokenOut : Address)
  | InvalidDecreaseOrderSize (sizeDeltaUsd positionSizeInUsd : Nat)
  | UnableToWithdrawCollateral (estimatedRemainingCollateralUsd : Int)
  | PositionShouldNotBeLiquidated
  | InsufficientCollateralAmount (collateralAmount : Nat) (collateralDeltaAmount : Int)
  | InsufficientCollateralUsd (remainingCollateralUsd : Int)
  | PositionNotFound (key : StoreKey)
  | LiquidatablePosition (reason : String)
  | EmptyPosition
  | InvalidPositionSizeValues (sizeInUsd sizeInTokens : Nat)
  | MinPositionSize (positionSizeInUsd minPositionSizeUsd : Nat)
  | UsdDeltaExceedsLongOpenInterest (usdDelta : Int) (longOpenInterest : Nat)
  | UsdDeltaExceedsShortOpenInterest (usdDelta : Int) (shortOpenInterest : Nat)
  | UsdDeltaExceedsPoolValue (usdDelta : Int) (poolUsd : Nat)
  | InvalidTokenIn (tokenIn market : Address)
  | InsufficientOutputAmount (outputAmount minOutputAmount : Nat)
  | InsufficientSwapOutputAmount (outputAmount minOutputAmount : Nat)
  | DuplicatedMarketInSwapPath (market : Address)
  | SwapPriceImpactExceedsAmountIn (amountAfterFees : Nat) (negativeImpactAmount : Int)
  | EmptyTokenTranferGasLimit (token : Address)
  | TokenTransferError (token receiver : Address) (amount : Nat)
  | EmptyHoldingAddress
  | WithdrawalNotFound (key : StoreKey)
  | EmptyWithdrawal
  | EmptyWithdrawalAmount
  | InsufficientMarketTokens (balance expected : Nat)
  | InsufficientWntAmount (wntAmount executionFee : Nat)
  | InvalidPoolValueForWithdrawal (poolValue : Int)
  | InvalidBaseKey (baseKey : Base)
  | InvalidFeeFactor (baseKey : Base) (value : Nat)
  | MaskIndexOutOfBounds (index : Nat) (label : String)
  | DuplicatedIndex (index : Nat) (label : String)
  | CompactedArrayOutOfBounds (compactedValues : List Nat) (index slotIndex : Nat)
      (label : String)
  | ArrayOutOfBoundsUint256 (values : List Nat) (index : Nat) (label : String)
  | ArrayOutOfBoundsBytes (values : List Bytes) (index : Nat) (label : String)
  | NonEmptyTokensWithPrices (tokensWithPricesLength : Nat)
  | MinOracleSigners (oracleSigners minOracleSigners : Nat)
  | MaxOracleSigners (oracleSigners maxOracleSigners : Nat)
  | MaxSignerIndex (signerIndex maxSignerIndex : Nat)
  | EmptySigner (signerIndex : Nat)
  | InvalidMinMaxBlockNumber (minOracleBlockNumber maxOracleBlockNumber : Nat)
  | InvalidBlockNumber (blockNumber : Nat)
  | MaxPriceAgeExceeded (oracleTimestamp : Nat)
  | BlockNumbersNotSorted (minOracleBlockNumber prevMinOracleBlockNumber : Nat)
  | MinPricesNotSorted (token : Address) (price prevPrice : Nat)
  | MaxPricesNotSorted (token : Address) (price prevPrice : Nat)
  | InvalidSignerMinMaxPrice (minPrice maxPrice : Nat)
  | InvalidSignature (recoveredSigner expectedSigner : Address)
  | MaxRefPriceDeviationExceeded (token : Address) (price refPrice maxRefPriceDeviationFactor : Nat)
  | InvalidOraclePrice (token : Address)
  | InvalidMedianMinMaxPrice (minPrice maxPrice : Nat)
  | DuplicateTokenPrice (token : Address)
  | InvalidFeedPrice (token : Address) (price : Int)
  | PriceFeedNotUpdated (token : Address) (timestamp heartbeatDuration : Nat)
  | EmptyPriceFeedMultiplier (token : Address)
  | PriceAlreadySet (token : Address) (minPrice maxPrice : Nat)
  | EmptyPriceFeed (token : Address)
  | EmptyCompactedPrice (index : Nat)
  | EmptyCompactedBlockNumber (index : Nat)
  | EmptyCompactedTimestamp (index : Nat)
  | InvalidClaimFeesInput (marketsLength tokensLength : Nat)
  | InvalidClaimFundingFeesInput (marketsLength tokensLength : Nat)
  | InvalidClaimCollateralInput (marketsLength tokensLength timeKeysLength : Nat)
  | InvalidClaimAffiliateRewardsInput (marketsLength tokensLength : Nat)
  | InvalidClaimUiFeesInput (marketsLength tokensLength : Nat)
  | InvalidUiFeeFactor (uiFeeFactor maxUiFeeFactor : Nat)
  deriving DecidableEq, Repr

end GmxSynthetics
