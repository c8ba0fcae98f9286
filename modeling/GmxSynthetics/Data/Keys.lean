import Mathlib.Tactic.Common

/-!
# DataStore keys

`Keys.sol` names a slot of the `DataStore` by hashing a constant with arguments.
The hash is taken to be collision free: a key *is* the tuple that gets hashed, so two
keys are equal exactly when their preimages are.

* `Base` — the constants `keccak256(abi.encode("NAME"))`;
* `Word` — one 32-byte word of an encoded argument list;
* `StoreKey` — what identifies a position (`getPositionKey`) or a request
  (`NonceUtils.getNextKey`);
* `Key` — a slot of the store.
-/

namespace GmxSynthetics

/-- An address; the zero address is `0`. -/
abbrev Address := Nat

/-- The constants of `Keys.sol`. -/
inductive Base where
  | WNT | NONCE | FEE_RECEIVER | HOLDING_ADDRESS
  | MARKET_LIST | MARKET_SALT
  | DEPOSIT_LIST | ACCOUNT_DEPOSIT_LIST
  | WITHDRAWAL_LIST | ACCOUNT_WITHDRAWAL_LIST
  | POSITION_LIST | ACCOUNT_POSITION_LIST
  | ORDER_LIST | ACCOUNT_ORDER_LIST
  | IS_MARKET_DISABLED
  | MAX_SWAP_PATH_LENGTH | SWAP_PATH_MARKET_FLAG
  | MIN_MARKET_TOKENS_FOR_FIRST_DEPOSIT
  | CREATE_DEPOSIT_FEATURE_DISABLED | CANCEL_DEPOSIT_FEATURE_DISABLED
  | EXECUTE_DEPOSIT_FEATURE_DISABLED
  | CREATE_WITHDRAWAL_FEATURE_DISABLED | CANCEL_WITHDRAWAL_FEATURE_DISABLED
  | EXECUTE_WITHDRAWAL_FEATURE_DISABLED
  | CREATE_ORDER_FEATURE_DISABLED | EXECUTE_ORDER_FEATURE_DISABLED
  | EXECUTE_ADL_FEATURE_DISABLED | UPDATE_ORDER_FEATURE_DISABLED
  | CANCEL_ORDER_FEATURE_DISABLED
  | MIN_COLLATERAL_FACTOR | MIN_COLLATERAL_FACTOR_FOR_OPEN_INTEREST_MULTIPLIER
  | MIN_COLLATERAL_USD | MIN_POSITION_SIZE_USD
  | VIRTUAL_TOKEN_ID | VIRTUAL_MARKET_ID
  | VIRTUAL_INVENTORY_FOR_SWAPS | VIRTUAL_INVENTORY_FOR_POSITIONS
  | POSITION_IMPACT_FACTOR | POSITION_IMPACT_EXPONENT_FACTOR
  | MAX_POSITION_IMPACT_FACTOR | MAX_POSITION_IMPACT_FACTOR_FOR_LIQUIDATIONS
  | POSITION_FEE_FACTOR
  | SWAP_IMPACT_FACTOR | SWAP_IMPACT_EXPONENT_FACTOR | SWAP_FEE_FACTOR
  | OPEN_INTEREST | OPEN_INTEREST_IN_TOKENS | COLLATERAL_SUM
  | POOL_AMOUNT | MAX_POOL_AMOUNT | MAX_OPEN_INTEREST
  | POSITION_IMPACT_POOL_AMOUNT | SWAP_IMPACT_POOL_AMOUNT
  | SWAP_FEE_RECEIVER_FACTOR | POSITION_FEE_RECEIVER_FACTOR | BORROWING_FEE_RECEIVER_FACTOR
  | RESERVE_FACTOR
  | MAX_PNL_FACTOR | MAX_PNL_FACTOR_FOR_TRADERS | MAX_PNL_FACTOR_FOR_ADL
  | MIN_PNL_FACTOR_AFTER_ADL
  | MAX_PNL_FACTOR_FOR_DEPOSITS | MAX_PNL_FACTOR_FOR_WITHDRAWALS
  | LATEST_ADL_BLOCK | IS_ADL_ENABLED
  | FUNDING_FACTOR | FUNDING_EXPONENT_FACTOR | FUNDING_AMOUNT_PER_SIZE | FUNDING_UPDATED_AT
  | CLAIMABLE_FUNDING_AMOUNT
  | CLAIMABLE_COLLATERAL_AMOUNT | CLAIMABLE_COLLATERAL_FACTOR
  | CLAIMABLE_COLLATERAL_TIME_DIVISOR | CLAIMED_COLLATERAL_AMOUNT
  | CLAIMABLE_FEE_AMOUNT | CLAIMABLE_UI_FEE_AMOUNT
  | MAX_UI_FEE_FACTOR | UI_FEE_FACTOR
  | BORROWING_FACTOR | BORROWING_EXPONENT_FACTOR
  | CUMULATIVE_BORROWING_FACTOR | CUMULATIVE_BORROWING_FACTOR_UPDATED_AT
  | TOTAL_BORROWING | AFFILIATE_REWARD
  | DEPOSIT_GAS_LIMIT | WITHDRAWAL_GAS_LIMIT | SINGLE_SWAP_GAS_LIMIT
  | INCREASE_ORDER_GAS_LIMIT | DECREASE_ORDER_GAS_LIMIT | SWAP_ORDER_GAS_LIMIT
  | MAX_CALLBACK_GAS_LIMIT | MIN_HANDLE_EXECUTION_ERROR_GAS | REQUEST_EXPIRATION_BLOCK_AGE
  | ESTIMATED_GAS_FEE_BASE_AMOUNT | ESTIMATED_GAS_FEE_MULTIPLIER_FACTOR
  | EXECUTION_GAS_FEE_BASE_AMOUNT | EXECUTION_GAS_FEE_MULTIPLIER_FACTOR
  | NATIVE_TOKEN_TRANSFER_GAS_LIMIT | TOKEN_TRANSFER_GAS_LIMIT
  | CLAIM_FUNDING_FEES_FEATURE_DISABLED | CLAIM_COLLATERAL_FEATURE_DISABLED
  | CLAIM_AFFILIATE_REWARDS_FEATURE_DISABLED | CLAIM_UI_FEES_FEATURE_DISABLED
  | MIN_ORACLE_SIGNERS | MIN_ORACLE_BLOCK_CONFIRMATIONS | MAX_ORACLE_PRICE_AGE
  | MAX_ORACLE_REF_PRICE_DEVIATION_FACTOR | ORACLE_TYPE
  | PRICE_FEED | PRICE_FEED_MULTIPLIER | PRICE_FEED_HEARTBEAT_DURATION | STABLE_PRICE
  deriving DecidableEq, Repr

/-- The field constants of the `…StoreUtils` libraries. -/
inductive Field where
  | ACCOUNT | RECEIVER | CALLBACK_CONTRACT | UI_FEE_RECEIVER
  | MARKET | MARKET_TOKEN | INDEX_TOKEN | LONG_TOKEN | SHORT_TOKEN
  | INITIAL_LONG_TOKEN | INITIAL_SHORT_TOKEN
  | LONG_TOKEN_SWAP_PATH | SHORT_TOKEN_SWAP_PATH
  | COLLATERAL_TOKEN | INITIAL_COLLATERAL_TOKEN | SWAP_PATH
  | SIZE_IN_USD | SIZE_IN_TOKENS | COLLATERAL_AMOUNT
  | BORROWING_FACTOR
  | LONG_TOKEN_FUNDING_AMOUNT_PER_SIZE | SHORT_TOKEN_FUNDING_AMOUNT_PER_SIZE
  | INCREASED_AT_BLOCK | DECREASED_AT_BLOCK
  | IS_LONG
  | ORDER_TYPE | DECREASE_POSITION_SWAP_TYPE | SIZE_DELTA_USD
  | INITIAL_COLLATERAL_DELTA_AMOUNT | TRIGGER_PRICE | ACCEPTABLE_PRICE
  | EXECUTION_FEE | CALLBACK_GAS_LIMIT | MIN_OUTPUT_AMOUNT | UPDATED_AT_BLOCK
  | SHOULD_UNWRAP_NATIVE_TOKEN | IS_FROZEN
  | INITIAL_LONG_TOKEN_AMOUNT | INITIAL_SHORT_TOKEN_AMOUNT | MIN_MARKET_TOKENS
  | MARKET_TOKEN_AMOUNT | MIN_LONG_TOKEN_AMOUNT | MIN_SHORT_TOKEN_AMOUNT
  deriving DecidableEq, Repr

/-- A word of an encoded argument list: a number, an address or a flag, or one of the
constants itself (`maxPnlFactorKey` takes a constant as its first argument). -/
inductive Word where
  | num (value : Nat)
  | hash (name : Base)
  deriving DecidableEq, Repr

instance : Coe Nat Word := ⟨.num⟩

instance : Coe Bool Word := ⟨fun b => .num b.toNat⟩

/-- The key of a stored position or of a stored request. -/
inductive StoreKey where
  /-- `PositionUtils.getPositionKey`. -/
  | position (account market collateralToken : Address) (isLong : Bool)
  /-- `NonceUtils.getNextKey`. -/
  | request (nonce : Nat)
  deriving DecidableEq, Repr

/-- A slot of the `DataStore`. -/
inductive Key where
  /-- `keccak256(abi.encode("NAME"))`. -/
  | base (name : Base)
  /-- `keccak256(abi.encode(NAME, arguments))`. -/
  | derived (name : Base) (args : List Word)
  /-- `keccak256(abi.encode(key, FIELD))` for a position or a request. -/
  | field (key : StoreKey) (name : Field)
  /-- `keccak256(abi.encode(market, FIELD))`. -/
  | marketField (market : Address) (name : Field)
  deriving DecidableEq, Repr

-- ---------------------------------------------------------------------------
-- Key functions
-- ---------------------------------------------------------------------------

namespace Keys

def accountDepositListKey (account : Address) : Key := .derived .ACCOUNT_DEPOSIT_LIST [account]

def accountWithdrawalListKey (account : Address) : Key :=
  .derived .ACCOUNT_WITHDRAWAL_LIST [account]

def accountPositionListKey (account : Address) : Key := .derived .ACCOUNT_POSITION_LIST [account]

def accountOrderListKey (account : Address) : Key := .derived .ACCOUNT_ORDER_LIST [account]

def claimableFeeAmountKey (market token : Address) : Key :=
  .derived .CLAIMABLE_FEE_AMOUNT [market, token]

def claimableUiFeeAmountKey (market token : Address) : Key :=
  .derived .CLAIMABLE_UI_FEE_AMOUNT [market, token]

def claimableUiFeeAmountForAccountKey (market token account : Address) : Key :=
  .derived .CLAIMABLE_UI_FEE_AMOUNT [market, token, account]

def swapPathMarketFlagKey (market : Address) : Key := .derived .SWAP_PATH_MARKET_FLAG [market]

def uiFeeFactorKey (account : Address) : Key := .derived .UI_FEE_FACTOR [account]

def tokenTransferGasLimit (token : Address) : Key := .derived .TOKEN_TRANSFER_GAS_LIMIT [token]

def minCollateralFactorKey (market : Address) : Key := .derived .MIN_COLLATERAL_FACTOR [market]

def minCollateralFactorForOpenInterestMultiplierKey (market : Address) (isLong : Bool) : Key :=
  .derived .MIN_COLLATERAL_FACTOR_FOR_OPEN_INTEREST_MULTIPLIER [market, isLong]

def virtualTokenIdKey (token : Address) : Key := .derived .VIRTUAL_TOKEN_ID [token]

def virtualMarketIdKey (market : Address) : Key := .derived .VIRTUAL_MARKET_ID [market]

def virtualInventoryForPositionsKey (virtualTokenId : Nat) : Key :=
  .derived .VIRTUAL_INVENTORY_FOR_POSITIONS [virtualTokenId]

def virtualInventoryForSwapsKey (virtualMarketId : Nat) (token : Address) : Key :=
  .derived .VIRTUAL_INVENTORY_FOR_SWAPS [virtualMarketId, token]

def positionImpactFactorKey (market : Address) (isPositive : Bool) : Key :=
  .derived .POSITION_IMPACT_FACTOR [market, isPositive]

def positionImpactExponentFactorKey (market : Address) : Key :=
  .derived .POSITION_IMPACT_EXPONENT_FACTOR [market]

def maxPositionImpactFactorKey (market : Address) (isPositive : Bool) : Key :=
  .derived .MAX_POSITION_IMPACT_FACTOR [market, isPositive]

def maxPositionImpactFactorForLiquidationsKey (market : Address) : Key :=
  .derived .MAX_POSITION_IMPACT_FACTOR_FOR_LIQUIDATIONS [market]

def positionFeeFactorKey (market : Address) : Key := .derived .POSITION_FEE_FACTOR [market]

def swapImpactFactorKey (market : Address) (isPositive : Bool) : Key :=
  .derived .SWAP_IMPACT_FACTOR [market, isPositive]

def swapImpactExponentFactorKey (market : Address) : Key :=
  .derived .SWAP_IMPACT_EXPONENT_FACTOR [market]

def swapFeeFactorKey (market : Address) : Key := .derived .SWAP_FEE_FACTOR [market]

def openInterestKey (market collateralToken : Address) (isLong : Bool) : Key :=
  .derived .OPEN_INTEREST [market, collateralToken, isLong]

def openInterestInTokensKey (market collateralToken : Address) (isLong : Bool) : Key :=
  .derived .OPEN_INTEREST_IN_TOKENS [market, collateralToken, isLong]

def collateralSumKey (market collateralToken : Address) (isLong : Bool) : Key :=
  .derived .COLLATERAL_SUM [market, collateralToken, isLong]

def poolAmountKey (market token : Address) : Key := .derived .POOL_AMOUNT [market, token]

def maxPoolAmountKey (market token : Address) : Key := .derived .MAX_POOL_AMOUNT [market, token]

def maxOpenInterestKey (market : Address) (isLong : Bool) : Key :=
  .derived .MAX_OPEN_INTEREST [market, isLong]

def positionImpactPoolAmountKey (market : Address) : Key :=
  .derived .POSITION_IMPACT_POOL_AMOUNT [market]

def swapImpactPoolAmountKey (market token : Address) : Key :=
  .derived .SWAP_IMPACT_POOL_AMOUNT [market, token]

def reserveFactorKey (market : Address) (isLong : Bool) : Key :=
  .derived .RESERVE_FACTOR [market, isLong]

def maxPnlFactorKey (pnlFactorType : Base) (market : Address) (isLong : Bool) : Key :=
  .derived .MAX_PNL_FACTOR [.hash pnlFactorType, market, isLong]

def minPnlFactorAfterAdlKey (market : Address) (isLong : Bool) : Key :=
  .derived .MIN_PNL_FACTOR_AFTER_ADL [market, isLong]

def latestAdlBlockKey (market : Address) (isLong : Bool) : Key :=
  .derived .LATEST_ADL_BLOCK [market, isLong]

def isAdlEnabledKey (market : Address) (isLong : Bool) : Key :=
  .derived .IS_ADL_ENABLED [market, isLong]

def fundingFactorKey (market : Address) : Key := .derived .FUNDING_FACTOR [market]

def fundingExponentFactorKey (market : Address) : Key :=
  .derived .FUNDING_EXPONENT_FACTOR [market]

def fundingAmountPerSizeKey (market collateralToken : Address) (isLong : Bool) : Key :=
  .derived .FUNDING_AMOUNT_PER_SIZE [market, collateralToken, isLong]

def fundingUpdatedAtKey (market : Address) : Key := .derived .FUNDING_UPDATED_AT [market]

def claimableFundingAmountKey (market token : Address) : Key :=
  .derived .CLAIMABLE_FUNDING_AMOUNT [market, token]

def claimableFundingAmountForAccountKey (market token account : Address) : Key :=
  .derived .CLAIMABLE_FUNDING_AMOUNT [market, token, account]

def claimableCollateralAmountKey (market token : Address) : Key :=
  .derived .CLAIMABLE_COLLATERAL_AMOUNT [market, token]

def claimableCollateralAmountForAccountKey (market token : Address) (timeKey : Nat)
    (account : Address) : Key :=
  .derived .CLAIMABLE_COLLATERAL_AMOUNT [market, token, timeKey, account]

def claimableCollateralFactorKey (market token : Address) (timeKey : Nat) : Key :=
  .derived .CLAIMABLE_COLLATERAL_FACTOR [market, token, timeKey]

def claimableCollateralFactorForAccountKey (market token : Address) (timeKey : Nat)
    (account : Address) : Key :=
  .derived .CLAIMABLE_COLLATERAL_FACTOR [market, token, timeKey, account]

def claimedCollateralAmountKey (market token : Address) (timeKey : Nat) (account : Address) :
    Key :=
  .derived .CLAIMED_COLLATERAL_AMOUNT [market, token, timeKey, account]

def borrowingFactorKey (market : Address) (isLong : Bool) : Key :=
  .derived .BORROWING_FACTOR [market, isLong]

def borrowingExponentFactorKey (market : Address) (isLong : Bool) : Key :=
  .derived .BORROWING_EXPONENT_FACTOR [market, isLong]

def cumulativeBorrowingFactorKey (market : Address) (isLong : Bool) : Key :=
  .derived .CUMULATIVE_BORROWING_FACTOR [market, isLong]

def cumulativeBorrowingFactorUpdatedAtKey (market : Address) (isLong : Bool) : Key :=
  .derived .CUMULATIVE_BORROWING_FACTOR_UPDATED_AT [market, isLong]

def totalBorrowingKey (market : Address) (isLong : Bool) : Key :=
  .derived .TOTAL_BORROWING [market, isLong]

def affiliateRewardKey (market token : Address) : Key :=
  .derived .AFFILIATE_REWARD [market, token]

def affiliateRewardForAccountKey (market token account : Address) : Key :=
  .derived .AFFILIATE_REWARD [market, token, account]

/-- `MarketStoreUtils.getMarketSaltHash`, with the salt's own preimage. -/
def marketSaltHash (indexToken longToken shortToken : Address) (marketType : Nat) : Key :=
  .derived .MARKET_SALT [indexToken, longToken, shortToken, marketType]

def isMarketDisabledKey (market : Address) : Key := .derived .IS_MARKET_DISABLED [market]

def createDepositFeatureDisabledKey (module : Address) : Key :=
  .derived .CREATE_DEPOSIT_FEATURE_DISABLED [module]

def cancelDepositFeatureDisabledKey (module : Address) : Key :=
  .derived .CANCEL_DEPOSIT_FEATURE_DISABLED [module]

def executeDepositFeatureDisabledKey (module : Address) : Key :=
  .derived .EXECUTE_DEPOSIT_FEATURE_DISABLED [module]

def createWithdrawalFeatureDisabledKey (module : Address) : Key :=
  .derived .CREATE_WITHDRAWAL_FEATURE_DISABLED [module]

def cancelWithdrawalFeatureDisabledKey (module : Address) : Key :=
  .derived .CANCEL_WITHDRAWAL_FEATURE_DISABLED [module]

def executeWithdrawalFeatureDisabledKey (module : Address) : Key :=
  .derived .EXECUTE_WITHDRAWAL_FEATURE_DISABLED [module]

def createOrderFeatureDisabledKey (module : Address) (orderType : Nat) : Key :=
  .derived .CREATE_ORDER_FEATURE_DISABLED [module, orderType]

def executeOrderFeatureDisabledKey (module : Address) (orderType : Nat) : Key :=
  .derived .EXECUTE_ORDER_FEATURE_DISABLED [module, orderType]

def executeAdlFeatureDisabledKey (module : Address) (orderType : Nat) : Key :=
  .derived .EXECUTE_ADL_FEATURE_DISABLED [module, orderType]

def updateOrderFeatureDisabledKey (module : Address) (orderType : Nat) : Key :=
  .derived .UPDATE_ORDER_FEATURE_DISABLED [module, orderType]

def cancelOrderFeatureDisabledKey (module : Address) (orderType : Nat) : Key :=
  .derived .CANCEL_ORDER_FEATURE_DISABLED [module, orderType]

def claimFundingFeesFeatureDisabledKey (module : Address) : Key :=
  .derived .CLAIM_FUNDING_FEES_FEATURE_DISABLED [module]

def claimCollateralFeatureDisabledKey (module : Address) : Key :=
  .derived .CLAIM_COLLATERAL_FEATURE_DISABLED [module]

def claimAffiliateRewardsFeatureDisabledKey (module : Address) : Key :=
  .derived .CLAIM_AFFILIATE_REWARDS_FEATURE_DISABLED [module]

def claimUiFeesFeatureDisabledKey (module : Address) : Key :=
  .derived .CLAIM_UI_FEES_FEATURE_DISABLED [module]

def depositGasLimitKey (singleToken : Bool) : Key := .derived .DEPOSIT_GAS_LIMIT [singleToken]

def withdrawalGasLimitKey (singleToken : Bool) : Key :=
  .derived .WITHDRAWAL_GAS_LIMIT [singleToken]

def singleSwapGasLimitKey : Key := .base .SINGLE_SWAP_GAS_LIMIT

def increaseOrderGasLimitKey : Key := .base .INCREASE_ORDER_GAS_LIMIT

def decreaseOrderGasLimitKey : Key := .base .DECREASE_ORDER_GAS_LIMIT

def swapOrderGasLimitKey : Key := .base .SWAP_ORDER_GAS_LIMIT

def oracleTypeKey (token : Address) : Key := .derived .ORACLE_TYPE [token]

def priceFeedKey (token : Address) : Key := .derived .PRICE_FEED [token]

def priceFeedMultiplierKey (token : Address) : Key := .derived .PRICE_FEED_MULTIPLIER [token]

def priceFeedHeartbeatDurationKey (token : Address) : Key :=
  .derived .PRICE_FEED_HEARTBEAT_DURATION [token]

def stablePriceKey (token : Address) : Key := .derived .STABLE_PRICE [token]

end Keys

end GmxSynthetics
