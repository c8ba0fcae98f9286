import GmxSynthetics.Config.Config

/-!
# What a config write reaches

A setter hashes the base key with the arguments; the protocol reads a setting without arguments
at the base key itself. A write to such a setting lands in a slot that nothing reads.

* `Setting` — the settings of the protocol, with the slot each is read from;
* `Setting.key_eq` — that slot, as a function of the base key and the arguments;
* `set_reaches_iff` — a write reaches its reader exactly when the setting has arguments;
* `set_swapFeeReceiverFactor` — one that does not.
-/

namespace GmxSynthetics

open Evm

-- ---------------------------------------------------------------------------
-- Values
-- ---------------------------------------------------------------------------

/-- The types of values in the store that a config keeper can set. -/
inductive ValueType where
  | bool
  | address
  | bytes32
  | uint
  | int
  deriving DecidableEq, Repr

def ValueType.Value : ValueType → Type
  | bool => Bool
  | address => Address
  | bytes32 => Nat
  | uint => Nat
  | int => Int

def DataStore.read (dataStore : DataStore) : (type : ValueType) → Key → type.Value
  | .bool, key => dataStore.getBool key
  | .address, key => dataStore.getAddress key
  | .bytes32, key => dataStore.getBytes32 key
  | .uint, key => dataStore.getUint key
  | .int, key => dataStore.getInt key

def DataStore.write (dataStore : DataStore) : (type : ValueType) → Key → type.Value → DataStore
  | .bool, key, value => dataStore.setBool key value
  | .address, key, value => dataStore.setAddress key value
  | .bytes32, key, value => dataStore.setBytes32 key value
  | .uint, key, value => dataStore.setUint key value
  | .int, key, value => dataStore.setInt key value

theorem DataStore.read_write_self (dataStore : DataStore) (type : ValueType) (key : Key)
    (value : type.Value) : (dataStore.write type key value).read type key = value := by
  cases type <;> exact Function.update_self _ _ _

/-- A write is seen under its key only. -/
theorem DataStore.read_write_of_ne (dataStore : DataStore) {type type' : ValueType}
    {key key' : Key} (value : type.Value) (h : key' ≠ key) :
    (dataStore.write type key value).read type' key' = dataStore.read type' key' := by
  cases type <;> cases type' <;> first | rfl | exact Function.update_of_ne h _ _

-- ---------------------------------------------------------------------------
-- Settings
-- ---------------------------------------------------------------------------

namespace Config

/-- The setter for a type of values. -/
def set (dataStore : DataStore) : (type : ValueType) → Base → List Word → type.Value →
    Result DataStore
  | .bool, baseKey, data, value => setBool dataStore baseKey data value
  | .address, baseKey, data, value => setAddress dataStore baseKey data value
  | .bytes32, baseKey, data, value => setBytes32 dataStore baseKey data value
  | .uint, baseKey, data, value => setUint dataStore baseKey data value
  | .int, baseKey, data, value => setInt dataStore baseKey data value

/-- The value passes the range check. Only `setUint` has one. -/
def InRange (baseKey : Base) : (type : ValueType) → type.Value → Prop
  | .uint, value => _validateRange baseKey value = .ok ()
  | _, _ => True

/-- A write of an allowed key goes to the hash of the key with the data. -/
theorem set_eq_ok (dataStore : DataStore) {baseKey : Base} (data : List Word) {type : ValueType}
    {value : type.Value} (hkey : baseKey ∈ allowedBaseKeys) (hrange : InRange baseKey type value) :
    set dataStore type baseKey data value =
      .ok (dataStore.write type (fullKey baseKey data) value) := by
  have hvalid : _validateKey baseKey = .ok () := by
    rw [_validateKey, revertIf, Result.revertIf_eq_ok, not_not]
    exact hkey
  cases type with
  | uint =>
    have hcheck : _validateRange baseKey value = .ok () := hrange
    simp only [set, setUint, hvalid, hcheck]
    rfl
  | bool => simp only [set, setBool, hvalid]; rfl
  | address => simp only [set, setAddress, hvalid]; rfl
  | bytes32 => simp only [set, setBytes32, hvalid]; rfl
  | int => simp only [set, setInt, hvalid]; rfl

/-- The settings that a config keeper may set: a base key with its arguments, the type of the
value, and the key under which the protocol reads it. -/
inductive Setting : Base → List Word → ValueType → Key → Prop where
  | holdingAddress : Setting .HOLDING_ADDRESS [] .address (.base .HOLDING_ADDRESS)
  | minHandleExecutionErrorGas :
    Setting .MIN_HANDLE_EXECUTION_ERROR_GAS [] .uint (.base .MIN_HANDLE_EXECUTION_ERROR_GAS)
  | isMarketDisabled (market : Address) :
    Setting .IS_MARKET_DISABLED [market] .bool (Keys.isMarketDisabledKey market)
  | maxSwapPathLength : Setting .MAX_SWAP_PATH_LENGTH [] .uint (.base .MAX_SWAP_PATH_LENGTH)
  | maxCallbackGasLimit :
    Setting .MAX_CALLBACK_GAS_LIMIT [] .uint (.base .MAX_CALLBACK_GAS_LIMIT)
  | minPositionSizeUsd : Setting .MIN_POSITION_SIZE_USD [] .uint (.base .MIN_POSITION_SIZE_USD)
  | maxPositionImpactFactorForLiquidations (market : Address) :
    Setting .MAX_POSITION_IMPACT_FACTOR_FOR_LIQUIDATIONS [market] .uint
      (Keys.maxPositionImpactFactorForLiquidationsKey market)
  | maxPoolAmount (market token : Address) :
    Setting .MAX_POOL_AMOUNT [market, token] .uint (Keys.maxPoolAmountKey market token)
  | maxOpenInterest (market : Address) (isLong : Bool) :
    Setting .MAX_OPEN_INTEREST [market, isLong] .uint (Keys.maxOpenInterestKey market isLong)
  | createDepositFeatureDisabled (module : Address) :
    Setting .CREATE_DEPOSIT_FEATURE_DISABLED [module] .bool
      (Keys.createDepositFeatureDisabledKey module)
  | cancelDepositFeatureDisabled (module : Address) :
    Setting .CANCEL_DEPOSIT_FEATURE_DISABLED [module] .bool
      (Keys.cancelDepositFeatureDisabledKey module)
  | executeDepositFeatureDisabled (module : Address) :
    Setting .EXECUTE_DEPOSIT_FEATURE_DISABLED [module] .bool
      (Keys.executeDepositFeatureDisabledKey module)
  | createWithdrawalFeatureDisabled (module : Address) :
    Setting .CREATE_WITHDRAWAL_FEATURE_DISABLED [module] .bool
      (Keys.createWithdrawalFeatureDisabledKey module)
  | cancelWithdrawalFeatureDisabled (module : Address) :
    Setting .CANCEL_WITHDRAWAL_FEATURE_DISABLED [module] .bool
      (Keys.cancelWithdrawalFeatureDisabledKey module)
  | executeWithdrawalFeatureDisabled (module : Address) :
    Setting .EXECUTE_WITHDRAWAL_FEATURE_DISABLED [module] .bool
      (Keys.executeWithdrawalFeatureDisabledKey module)
  | createOrderFeatureDisabled (module : Address) (orderType : Nat) :
    Setting .CREATE_ORDER_FEATURE_DISABLED [module, orderType] .bool
      (Keys.createOrderFeatureDisabledKey module orderType)
  | executeOrderFeatureDisabled (module : Address) (orderType : Nat) :
    Setting .EXECUTE_ORDER_FEATURE_DISABLED [module, orderType] .bool
      (Keys.executeOrderFeatureDisabledKey module orderType)
  | executeAdlFeatureDisabled (module : Address) (orderType : Nat) :
    Setting .EXECUTE_ADL_FEATURE_DISABLED [module, orderType] .bool
      (Keys.executeAdlFeatureDisabledKey module orderType)
  | updateOrderFeatureDisabled (module : Address) (orderType : Nat) :
    Setting .UPDATE_ORDER_FEATURE_DISABLED [module, orderType] .bool
      (Keys.updateOrderFeatureDisabledKey module orderType)
  | cancelOrderFeatureDisabled (module : Address) (orderType : Nat) :
    Setting .CANCEL_ORDER_FEATURE_DISABLED [module, orderType] .bool
      (Keys.cancelOrderFeatureDisabledKey module orderType)
  | claimFundingFeesFeatureDisabled (module : Address) :
    Setting .CLAIM_FUNDING_FEES_FEATURE_DISABLED [module] .bool
      (Keys.claimFundingFeesFeatureDisabledKey module)
  | claimCollateralFeatureDisabled (module : Address) :
    Setting .CLAIM_COLLATERAL_FEATURE_DISABLED [module] .bool
      (Keys.claimCollateralFeatureDisabledKey module)
  | claimAffiliateRewardsFeatureDisabled (module : Address) :
    Setting .CLAIM_AFFILIATE_REWARDS_FEATURE_DISABLED [module] .bool
      (Keys.claimAffiliateRewardsFeatureDisabledKey module)
  | claimUiFeesFeatureDisabled (module : Address) :
    Setting .CLAIM_UI_FEES_FEATURE_DISABLED [module] .bool
      (Keys.claimUiFeesFeatureDisabledKey module)
  | minOracleBlockConfirmations :
    Setting .MIN_ORACLE_BLOCK_CONFIRMATIONS [] .uint (.base .MIN_ORACLE_BLOCK_CONFIRMATIONS)
  | maxOraclePriceAge : Setting .MAX_ORACLE_PRICE_AGE [] .uint (.base .MAX_ORACLE_PRICE_AGE)
  | maxOracleRefPriceDeviationFactor :
    Setting .MAX_ORACLE_REF_PRICE_DEVIATION_FACTOR [] .uint
      (.base .MAX_ORACLE_REF_PRICE_DEVIATION_FACTOR)
  | positionFeeReceiverFactor :
    Setting .POSITION_FEE_RECEIVER_FACTOR [] .uint (.base .POSITION_FEE_RECEIVER_FACTOR)
  | swapFeeReceiverFactor :
    Setting .SWAP_FEE_RECEIVER_FACTOR [] .uint (.base .SWAP_FEE_RECEIVER_FACTOR)
  | borrowingFeeReceiverFactor :
    Setting .BORROWING_FEE_RECEIVER_FACTOR [] .uint (.base .BORROWING_FEE_RECEIVER_FACTOR)
  | estimatedGasFeeBaseAmount :
    Setting .ESTIMATED_GAS_FEE_BASE_AMOUNT [] .uint (.base .ESTIMATED_GAS_FEE_BASE_AMOUNT)
  | estimatedGasFeeMultiplierFactor :
    Setting .ESTIMATED_GAS_FEE_MULTIPLIER_FACTOR [] .uint
      (.base .ESTIMATED_GAS_FEE_MULTIPLIER_FACTOR)
  | executionGasFeeBaseAmount :
    Setting .EXECUTION_GAS_FEE_BASE_AMOUNT [] .uint (.base .EXECUTION_GAS_FEE_BASE_AMOUNT)
  | executionGasFeeMultiplierFactor :
    Setting .EXECUTION_GAS_FEE_MULTIPLIER_FACTOR [] .uint
      (.base .EXECUTION_GAS_FEE_MULTIPLIER_FACTOR)
  | depositGasLimit (singleToken : Bool) :
    Setting .DEPOSIT_GAS_LIMIT [singleToken] .uint (Keys.depositGasLimitKey singleToken)
  | withdrawalGasLimit (singleToken : Bool) :
    Setting .WITHDRAWAL_GAS_LIMIT [singleToken] .uint (Keys.withdrawalGasLimitKey singleToken)
  | singleSwapGasLimit : Setting .SINGLE_SWAP_GAS_LIMIT [] .uint Keys.singleSwapGasLimitKey
  | increaseOrderGasLimit :
    Setting .INCREASE_ORDER_GAS_LIMIT [] .uint Keys.increaseOrderGasLimitKey
  | decreaseOrderGasLimit :
    Setting .DECREASE_ORDER_GAS_LIMIT [] .uint Keys.decreaseOrderGasLimitKey
  | swapOrderGasLimit : Setting .SWAP_ORDER_GAS_LIMIT [] .uint Keys.swapOrderGasLimitKey
  | tokenTransferGasLimit (token : Address) :
    Setting .TOKEN_TRANSFER_GAS_LIMIT [token] .uint (Keys.tokenTransferGasLimit token)
  | nativeTokenTransferGasLimit :
    Setting .NATIVE_TOKEN_TRANSFER_GAS_LIMIT [] .uint (.base .NATIVE_TOKEN_TRANSFER_GAS_LIMIT)
  | requestExpirationBlockAge :
    Setting .REQUEST_EXPIRATION_BLOCK_AGE [] .uint (.base .REQUEST_EXPIRATION_BLOCK_AGE)
  | minCollateralFactor (market : Address) :
    Setting .MIN_COLLATERAL_FACTOR [market] .uint (Keys.minCollateralFactorKey market)
  | minCollateralFactorForOpenInterestMultiplier (market : Address) (isLong : Bool) :
    Setting .MIN_COLLATERAL_FACTOR_FOR_OPEN_INTEREST_MULTIPLIER [market, isLong] .uint
      (Keys.minCollateralFactorForOpenInterestMultiplierKey market isLong)
  | minCollateralUsd : Setting .MIN_COLLATERAL_USD [] .uint (.base .MIN_COLLATERAL_USD)
  | virtualTokenId (token : Address) :
    Setting .VIRTUAL_TOKEN_ID [token] .bytes32 (Keys.virtualTokenIdKey token)
  | virtualMarketId (market : Address) :
    Setting .VIRTUAL_MARKET_ID [market] .bytes32 (Keys.virtualMarketIdKey market)
  | virtualInventoryForSwaps (virtualMarketId : Nat) (token : Address) :
    Setting .VIRTUAL_INVENTORY_FOR_SWAPS [virtualMarketId, token] .uint
      (Keys.virtualInventoryForSwapsKey virtualMarketId token)
  | virtualInventoryForPositions (virtualTokenId : Nat) :
    Setting .VIRTUAL_INVENTORY_FOR_POSITIONS [virtualTokenId] .int
      (Keys.virtualInventoryForPositionsKey virtualTokenId)
  | positionImpactFactor (market : Address) (isPositive : Bool) :
    Setting .POSITION_IMPACT_FACTOR [market, isPositive] .uint
      (Keys.positionImpactFactorKey market isPositive)
  | positionImpactExponentFactor (market : Address) :
    Setting .POSITION_IMPACT_EXPONENT_FACTOR [market] .uint
      (Keys.positionImpactExponentFactorKey market)
  | maxPositionImpactFactor (market : Address) (isPositive : Bool) :
    Setting .MAX_POSITION_IMPACT_FACTOR [market, isPositive] .uint
      (Keys.maxPositionImpactFactorKey market isPositive)
  | positionFeeFactor (market : Address) :
    Setting .POSITION_FEE_FACTOR [market] .uint (Keys.positionFeeFactorKey market)
  | swapImpactFactor (market : Address) (isPositive : Bool) :
    Setting .SWAP_IMPACT_FACTOR [market, isPositive] .uint
      (Keys.swapImpactFactorKey market isPositive)
  | swapImpactExponentFactor (market : Address) :
    Setting .SWAP_IMPACT_EXPONENT_FACTOR [market] .uint (Keys.swapImpactExponentFactorKey market)
  | swapFeeFactor (market : Address) :
    Setting .SWAP_FEE_FACTOR [market] .uint (Keys.swapFeeFactorKey market)
  | maxUiFeeFactor : Setting .MAX_UI_FEE_FACTOR [] .uint (.base .MAX_UI_FEE_FACTOR)
  | oracleType (token : Address) :
    Setting .ORACLE_TYPE [token] .bytes32 (Keys.oracleTypeKey token)
  | reserveFactor (market : Address) (isLong : Bool) :
    Setting .RESERVE_FACTOR [market, isLong] .uint (Keys.reserveFactorKey market isLong)
  | maxPnlFactor (pnlFactorType : Base) (market : Address) (isLong : Bool) :
    Setting .MAX_PNL_FACTOR [.hash pnlFactorType, market, isLong] .uint
      (Keys.maxPnlFactorKey pnlFactorType market isLong)
  | maxPnlFactorForTraders :
    Setting .MAX_PNL_FACTOR_FOR_TRADERS [] .uint (.base .MAX_PNL_FACTOR_FOR_TRADERS)
  | maxPnlFactorForAdl : Setting .MAX_PNL_FACTOR_FOR_ADL [] .uint (.base .MAX_PNL_FACTOR_FOR_ADL)
  | minPnlFactorAfterAdl (market : Address) (isLong : Bool) :
    Setting .MIN_PNL_FACTOR_AFTER_ADL [market, isLong] .uint
      (Keys.minPnlFactorAfterAdlKey market isLong)
  | maxPnlFactorForDeposits :
    Setting .MAX_PNL_FACTOR_FOR_DEPOSITS [] .uint (.base .MAX_PNL_FACTOR_FOR_DEPOSITS)
  | maxPnlFactorForWithdrawals :
    Setting .MAX_PNL_FACTOR_FOR_WITHDRAWALS [] .uint (.base .MAX_PNL_FACTOR_FOR_WITHDRAWALS)
  | fundingFactor (market : Address) :
    Setting .FUNDING_FACTOR [market] .uint (Keys.fundingFactorKey market)
  | fundingExponentFactor (market : Address) :
    Setting .FUNDING_EXPONENT_FACTOR [market] .uint (Keys.fundingExponentFactorKey market)
  | borrowingFactor (market : Address) (isLong : Bool) :
    Setting .BORROWING_FACTOR [market, isLong] .uint (Keys.borrowingFactorKey market isLong)
  | borrowingExponentFactor (market : Address) (isLong : Bool) :
    Setting .BORROWING_EXPONENT_FACTOR [market, isLong] .uint
      (Keys.borrowingExponentFactorKey market isLong)
  | claimableCollateralFactor (market token : Address) (timeKey : Nat) :
    Setting .CLAIMABLE_COLLATERAL_FACTOR [market, token, timeKey] .uint
      (Keys.claimableCollateralFactorKey market token timeKey)
  | claimableCollateralFactorForAccount (market token : Address) (timeKey : Nat)
      (account : Address) :
    Setting .CLAIMABLE_COLLATERAL_FACTOR [market, token, timeKey, account] .uint
      (Keys.claimableCollateralFactorForAccountKey market token timeKey account)
  | priceFeedHeartbeatDuration (token : Address) :
    Setting .PRICE_FEED_HEARTBEAT_DURATION [token] .uint
      (Keys.priceFeedHeartbeatDurationKey token)

variable {baseKey : Base} {args : List Word} {type : ValueType} {key : Key}

namespace Setting

/-- A setting is read at the hash of its base key with its arguments, or at the base key itself
where it has none. -/
theorem key_eq (h : Setting baseKey args type key) :
    key = if args = [] then .base baseKey else .derived baseKey args := by
  cases h <;> rfl

theorem baseKey_mem (h : Setting baseKey args type key) : baseKey ∈ allowedBaseKeys := by
  cases h <;> decide

theorem isSet (h : Setting baseKey args type key) :
    ∃ args type key, Setting baseKey args type key :=
  ⟨args, type, key, h⟩

end Setting

/-- Every allowed base key has a setting. -/
theorem exists_setting {baseKey : Base} (h : baseKey ∈ allowedBaseKeys) :
    ∃ args type key, Setting baseKey args type key := by
  -- by cases on the base key: it is not allowed, or there is a setting, for some arguments
  cases baseKey
  all_goals first
    | exact absurd h (by decide)
    | apply Setting.isSet
      constructor
      all_goals first | exact (0 : Nat) | exact true | exact Base.WNT

/-- A key of `Keys.sol`: none of its functions hashes a base key without arguments. -/
def IsProtocolKey (key : Key) : Prop := ∀ baseKey, key ≠ .derived baseKey []

namespace Setting

theorem isProtocolKey (h : Setting baseKey args type key) : IsProtocolKey key := by
  intro other hkey
  rw [h.key_eq] at hkey
  split at hkey
  · simp at hkey
  · rename_i hne
    exact hne (Key.derived.inj hkey).2

end Setting

/-- After the write the setting reads as the value, and nothing else has changed. -/
def Reaches (dataStore dataStore' : DataStore) (type : ValueType) (key : Key)
    (value : type.Value) : Prop :=
  dataStore'.read type key = value ∧
    ∀ key' ≠ key, IsProtocolKey key' →
      ∀ type', dataStore'.read type' key' = dataStore.read type' key'

/-- A write with arguments goes to the key that is read. -/
theorem reaches_of_args (h : Setting baseKey args type key) (hargs : args ≠ [])
    (dataStore : DataStore) (value : type.Value) :
    Reaches dataStore (dataStore.write type (fullKey baseKey args) value) type key value := by
  have hkey : fullKey baseKey args = key := by
    rw [h.key_eq, if_neg hargs]
    rfl
  rw [hkey]
  constructor
  · exact dataStore.read_write_self type key value
  · intro key' hne _ type'
    exact dataStore.read_write_of_ne value hne

/-- A write without arguments changes no key of the protocol. -/
theorem read_of_no_args (dataStore : DataStore) (baseKey : Base) (value : type.Value)
    (type' : ValueType) {key' : Key} (hkey : IsProtocolKey key') :
    (dataStore.write type (fullKey baseKey []) value).read type' key' =
      dataStore.read type' key' :=
  dataStore.read_write_of_ne value (hkey baseKey)

/-- A write reaches its reader exactly when the setting has arguments, or had the value already. -/
theorem reaches_iff_of_setting (h : Setting baseKey args type key) (dataStore : DataStore)
    {value : type.Value} (hrange : InRange baseKey type value) :
    ∃ dataStore', set dataStore type baseKey args value = .ok dataStore' ∧
      (Reaches dataStore dataStore' type key value ↔
        args ≠ [] ∨ dataStore.read type key = value) := by
  refine ⟨_, set_eq_ok dataStore args h.baseKey_mem hrange, ?_⟩
  by_cases hargs : args = []
  · subst hargs
    have hsame := read_of_no_args dataStore baseKey value type h.isProtocolKey
    constructor
    · intro hreaches
      exact Or.inr (hsame.symm.trans hreaches.1)
    · rintro (hne | hvalue)
      · exact absurd rfl hne
      · refine ⟨hsame.trans hvalue, fun key' _ hkey' type' => ?_⟩
        exact read_of_no_args dataStore baseKey value type' hkey'
  · constructor
    · intro _
      exact Or.inl hargs
    · intro _
      exact reaches_of_args h hargs dataStore value

/-- **A config write reaches its reader** exactly when the setting has arguments, or had the value
already; and every key that may be written has a setting. -/
theorem set_reaches_iff {baseKey : Base} (hallowed : baseKey ∈ allowedBaseKeys) :
    (∃ args type key, Setting baseKey args type key) ∧
    ∀ (args : List Word) (type : ValueType) (key : Key),
      Setting baseKey args type key → ∀ (dataStore : DataStore) (value : type.Value),
      InRange baseKey type value →
      ∃ dataStore', set dataStore type baseKey args value = .ok dataStore' ∧
        (Reaches dataStore dataStore' type key value ↔
          args ≠ [] ∨ dataStore.read type key = value) := by
  constructor
  · exact exists_setting hallowed
  · intro args type key hsetting dataStore value hrange
    exact reaches_iff_of_setting hsetting dataStore hrange

/-- The swap fee factor of a market is read where it was written. -/
theorem set_reaches_swapFeeFactor :
    ∃ dataStore', setUint .empty .SWAP_FEE_FACTOR [(7 : Nat)] 500 = .ok dataStore' ∧
      Reaches .empty dataStore' .uint (Keys.swapFeeFactorKey 7) (500 : Nat) := by
  have hrange : InRange .SWAP_FEE_FACTOR .uint (500 : Nat) := by
    have hcheck : _validateRange .SWAP_FEE_FACTOR 500 = .ok () := by decide +kernel
    exact hcheck
  have hallowed : Base.SWAP_FEE_FACTOR ∈ allowedBaseKeys := by decide
  obtain ⟨dataStore', hset, hiff⟩ :=
    (set_reaches_iff hallowed).2 _ _ _ (.swapFeeFactor 7) .empty _ hrange
  exact ⟨dataStore', hset, hiff.mpr (Or.inl (List.cons_ne_nil _ _))⟩

/-- The share of swap fees that goes to the fee receiver stays at zero. -/
theorem set_swapFeeReceiverFactor :
    ∃ dataStore', setUint .empty .SWAP_FEE_RECEIVER_FACTOR [] (37 * 10 ^ 28) = .ok dataStore' ∧
      dataStore'.getUint (.base .SWAP_FEE_RECEIVER_FACTOR) = 0 := by
  have hset : (setUint .empty .SWAP_FEE_RECEIVER_FACTOR [] (37 * 10 ^ 28)).Satisfies
      fun dataStore' => dataStore'.getUint (.base .SWAP_FEE_RECEIVER_FACTOR) = 0 := by
    decide +kernel
  exact hset.exists

end Config

end GmxSynthetics
