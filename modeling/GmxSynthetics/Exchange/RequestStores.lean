import GmxSynthetics.Data.RecordStore
import GmxSynthetics.Deposit.DepositStore
import GmxSynthetics.Order.OrderStore
import GmxSynthetics.Withdrawal.WithdrawalStore

/-!
# Request stores

Orders, deposits and withdrawals as record stores.
-/

namespace GmxSynthetics

open Evm

variable {dataStore dataStore' : DataStore} {key : StoreKey}

-- ---------------------------------------------------------------------------
-- Orders
-- ---------------------------------------------------------------------------

namespace OrderStoreUtils

/-- An order that is not listed reads as empty. -/
theorem get_of_not_mem (h : key ∉ dataStore.bytes32Sets (.base .ORDER_LIST)) :
    get dataStore key = Order.empty :=
  if_neg (by simpa [DataStore.containsBytes32] using h)

/-- An order is read from its list and its own fields. -/
theorem get_congr (hlist : key ∈ dataStore'.bytes32Sets (.base .ORDER_LIST) ↔
      key ∈ dataStore.bytes32Sets (.base .ORDER_LIST))
    (hfields : ∀ f, DataStore.AgreeAt (.field key f) dataStore dataStore') :
    get dataStore' key = get dataStore key := by
  have hcontains : dataStore'.containsBytes32 (.base .ORDER_LIST) key =
      dataStore.containsBytes32 (.base .ORDER_LIST) key := decide_eq_decide.mpr hlist
  simp only [get, hcontains, (hfields _).uint, (hfields _).address, (hfields _).bool,
    (hfields _).addressArray]

/-- What is written for a listed order is read back. -/
theorem get_writeFields (h : key ∈ dataStore.bytes32Sets (.base .ORDER_LIST))
    (order : Order) : get (writeFields dataStore key order) key = order := by
  have hmem : key ∈ (writeFields dataStore key order).bytes32Sets (.base .ORDER_LIST) := h
  unfold get DataStore.containsBytes32
  rw [if_pos (decide_eq_true hmem)]
  simp [writeFields, DataStore.setUint, DataStore.setAddress, DataStore.setBool,
    DataStore.setAddressArray, DataStore.getUint, DataStore.getAddress, DataStore.getBool,
    DataStore.getAddressArray]

/-- Only the fields of the order are written. -/
theorem writeFields_agreeAt (dataStore : DataStore) (order : Order) {k : Key}
    (h : ∀ f, k ≠ .field key f) :
    DataStore.AgreeAt k dataStore (writeFields dataStore key order) := by
  constructor <;>
    simp [writeFields, DataStore.setUint, DataStore.setAddress, DataStore.setBool,
      DataStore.setAddressArray, DataStore.getUint, DataStore.getInt, DataStore.getAddress,
      DataStore.getBool, DataStore.getAddressArray, h]

/-- They are under its key. -/
theorem writeFields_changesWithin {slots : List Slot} (hkey : key.slot ∈ slots)
    (order : Order) : DataStore.ChangesWithin slots (writeFields · key order) :=
  .comp (.setAddress hkey _) <| .comp (.setAddress hkey _) <| .comp (.setAddress hkey _) <|
    .comp (.setAddress hkey _) <| .comp (.setAddress hkey _) <| .comp (.setAddress hkey _) <|
    .comp (.setAddressArray hkey _) <| .comp (.setUint hkey _) <| .comp (.setUint hkey _) <|
    .comp (.setUint hkey _) <| .comp (.setUint hkey _) <| .comp (.setUint hkey _) <|
    .comp (.setUint hkey _) <| .comp (.setUint hkey _) <| .comp (.setUint hkey _) <|
    .comp (.setUint hkey _) <| .comp (.setUint hkey _) <| .comp (.setBool hkey _) <|
    .comp (.setBool hkey _) (.setBool hkey _)

/-- No set is written. -/
theorem writeFields_bytes32Sets (dataStore : DataStore) (key : StoreKey) (order : Order) :
    (writeFields dataStore key order).bytes32Sets = dataStore.bytes32Sets := by
  simp only [writeFields, DataStore.setUint, DataStore.setAddress, DataStore.setBool,
    DataStore.setAddressArray]

end OrderStoreUtils

/-- `OrderStoreUtils.sol` as a record store. -/
def orderStore : RecordStore Order where
  list := .ORDER_LIST
  accountList := .ACCOUNT_ORDER_LIST
  account := Order.account
  empty := Order.empty
  notFound := .OrderNotFound
  writeFields := OrderStoreUtils.writeFields
  get := OrderStoreUtils.get
  set := OrderStoreUtils.set
  remove := OrderStoreUtils.remove
  accountList_ne := by decide
  account_empty := rfl
  set_eq _ _ _ := rfl
  remove_eq _ _ _ := rfl
  get_of_not_mem := OrderStoreUtils.get_of_not_mem
  get_congr := OrderStoreUtils.get_congr
  get_writeFields := OrderStoreUtils.get_writeFields
  writeFields_agreeAt _ _ _ _ h := OrderStoreUtils.writeFields_agreeAt _ _ h
  writeFields_bytes32Sets := OrderStoreUtils.writeFields_bytes32Sets
  writeFields_changesWithin := OrderStoreUtils.writeFields_changesWithin

-- ---------------------------------------------------------------------------
-- Deposits
-- ---------------------------------------------------------------------------

namespace DepositStoreUtils

/-- A deposit that is not listed reads as empty. -/
theorem get_of_not_mem (h : key ∉ dataStore.bytes32Sets (.base .DEPOSIT_LIST)) :
    get dataStore key = Deposit.empty :=
  if_neg (by simpa [DataStore.containsBytes32] using h)

/-- A deposit is read from its list and its own fields. -/
theorem get_congr (hlist : key ∈ dataStore'.bytes32Sets (.base .DEPOSIT_LIST) ↔
      key ∈ dataStore.bytes32Sets (.base .DEPOSIT_LIST))
    (hfields : ∀ f, DataStore.AgreeAt (.field key f) dataStore dataStore') :
    get dataStore' key = get dataStore key := by
  have hcontains : dataStore'.containsBytes32 (.base .DEPOSIT_LIST) key =
      dataStore.containsBytes32 (.base .DEPOSIT_LIST) key := decide_eq_decide.mpr hlist
  simp only [get, hcontains, (hfields _).uint, (hfields _).address, (hfields _).bool,
    (hfields _).addressArray]

/-- What is written for a listed deposit is read back. -/
theorem get_writeFields (h : key ∈ dataStore.bytes32Sets (.base .DEPOSIT_LIST))
    (deposit : Deposit) : get (writeFields dataStore key deposit) key = deposit := by
  have hmem : key ∈ (writeFields dataStore key deposit).bytes32Sets (.base .DEPOSIT_LIST) := h
  unfold get DataStore.containsBytes32
  rw [if_pos (decide_eq_true hmem)]
  simp [writeFields, DataStore.setUint, DataStore.setAddress, DataStore.setBool,
    DataStore.setAddressArray, DataStore.getUint, DataStore.getAddress, DataStore.getBool,
    DataStore.getAddressArray]

/-- Only the fields of the deposit are written. -/
theorem writeFields_agreeAt (dataStore : DataStore) (deposit : Deposit) {k : Key}
    (h : ∀ f, k ≠ .field key f) :
    DataStore.AgreeAt k dataStore (writeFields dataStore key deposit) := by
  constructor <;>
    simp [writeFields, DataStore.setUint, DataStore.setAddress, DataStore.setBool,
      DataStore.setAddressArray, DataStore.getUint, DataStore.getInt, DataStore.getAddress,
      DataStore.getBool, DataStore.getAddressArray, h]

/-- They are under its key. -/
theorem writeFields_changesWithin {slots : List Slot} (hkey : key.slot ∈ slots)
    (deposit : Deposit) : DataStore.ChangesWithin slots (writeFields · key deposit) :=
  .comp (.setAddress hkey _) <| .comp (.setAddress hkey _) <| .comp (.setAddress hkey _) <|
    .comp (.setAddress hkey _) <| .comp (.setAddress hkey _) <| .comp (.setAddress hkey _) <|
    .comp (.setAddress hkey _) <| .comp (.setAddressArray hkey _) <|
    .comp (.setAddressArray hkey _) <| .comp (.setUint hkey _) <| .comp (.setUint hkey _) <|
    .comp (.setUint hkey _) <| .comp (.setUint hkey _) <| .comp (.setUint hkey _) <|
    .comp (.setUint hkey _) (.setBool hkey _)

/-- No set is written. -/
theorem writeFields_bytes32Sets (dataStore : DataStore) (key : StoreKey) (deposit : Deposit) :
    (writeFields dataStore key deposit).bytes32Sets = dataStore.bytes32Sets := by
  simp only [writeFields, DataStore.setUint, DataStore.setAddress, DataStore.setBool,
    DataStore.setAddressArray]

end DepositStoreUtils

/-- `DepositStoreUtils.sol` as a record store. -/
def depositStore : RecordStore Deposit where
  list := .DEPOSIT_LIST
  accountList := .ACCOUNT_DEPOSIT_LIST
  account := Deposit.account
  empty := Deposit.empty
  notFound := .DepositNotFound
  writeFields := DepositStoreUtils.writeFields
  get := DepositStoreUtils.get
  set := DepositStoreUtils.set
  remove := DepositStoreUtils.remove
  accountList_ne := by decide
  account_empty := rfl
  set_eq _ _ _ := rfl
  remove_eq _ _ _ := rfl
  get_of_not_mem := DepositStoreUtils.get_of_not_mem
  get_congr := DepositStoreUtils.get_congr
  get_writeFields := DepositStoreUtils.get_writeFields
  writeFields_agreeAt _ _ _ _ h := DepositStoreUtils.writeFields_agreeAt _ _ h
  writeFields_bytes32Sets := DepositStoreUtils.writeFields_bytes32Sets
  writeFields_changesWithin := DepositStoreUtils.writeFields_changesWithin

-- ---------------------------------------------------------------------------
-- Withdrawals
-- ---------------------------------------------------------------------------

namespace WithdrawalStoreUtils

/-- A withdrawal that is not listed reads as empty. -/
theorem get_of_not_mem (h : key ∉ dataStore.bytes32Sets (.base .WITHDRAWAL_LIST)) :
    get dataStore key = Withdrawal.empty :=
  if_neg (by simpa [DataStore.containsBytes32] using h)

/-- A withdrawal is read from its list and its own fields. -/
theorem get_congr (hlist : key ∈ dataStore'.bytes32Sets (.base .WITHDRAWAL_LIST) ↔
      key ∈ dataStore.bytes32Sets (.base .WITHDRAWAL_LIST))
    (hfields : ∀ f, DataStore.AgreeAt (.field key f) dataStore dataStore') :
    get dataStore' key = get dataStore key := by
  have hcontains : dataStore'.containsBytes32 (.base .WITHDRAWAL_LIST) key =
      dataStore.containsBytes32 (.base .WITHDRAWAL_LIST) key := decide_eq_decide.mpr hlist
  simp only [get, hcontains, (hfields _).uint, (hfields _).address, (hfields _).bool,
    (hfields _).addressArray]

/-- What is written for a listed withdrawal is read back. -/
theorem get_writeFields (h : key ∈ dataStore.bytes32Sets (.base .WITHDRAWAL_LIST))
    (withdrawal : Withdrawal) : get (writeFields dataStore key withdrawal) key = withdrawal := by
  have hmem : key ∈ (writeFields dataStore key withdrawal).bytes32Sets (.base .WITHDRAWAL_LIST) := h
  unfold get DataStore.containsBytes32
  rw [if_pos (decide_eq_true hmem)]
  simp [writeFields, DataStore.setUint, DataStore.setAddress, DataStore.setBool,
    DataStore.setAddressArray, DataStore.getUint, DataStore.getAddress, DataStore.getBool,
    DataStore.getAddressArray]

/-- Only the fields of the withdrawal are written. -/
theorem writeFields_agreeAt (dataStore : DataStore) (withdrawal : Withdrawal) {k : Key}
    (h : ∀ f, k ≠ .field key f) :
    DataStore.AgreeAt k dataStore (writeFields dataStore key withdrawal) := by
  constructor <;>
    simp [writeFields, DataStore.setUint, DataStore.setAddress, DataStore.setBool,
      DataStore.setAddressArray, DataStore.getUint, DataStore.getInt, DataStore.getAddress,
      DataStore.getBool, DataStore.getAddressArray, h]

/-- They are under its key. -/
theorem writeFields_changesWithin {slots : List Slot} (hkey : key.slot ∈ slots)
    (withdrawal : Withdrawal) : DataStore.ChangesWithin slots (writeFields · key withdrawal) :=
  .comp (.setAddress hkey _) <| .comp (.setAddress hkey _) <| .comp (.setAddress hkey _) <|
    .comp (.setAddress hkey _) <| .comp (.setAddress hkey _) <|
    .comp (.setAddressArray hkey _) <| .comp (.setAddressArray hkey _) <|
    .comp (.setUint hkey _) <| .comp (.setUint hkey _) <| .comp (.setUint hkey _) <|
    .comp (.setUint hkey _) <| .comp (.setUint hkey _) <|
    .comp (.setUint hkey _) (.setBool hkey _)

/-- No set is written. -/
theorem writeFields_bytes32Sets (dataStore : DataStore) (key : StoreKey) (withdrawal : Withdrawal) :
    (writeFields dataStore key withdrawal).bytes32Sets = dataStore.bytes32Sets := by
  simp only [writeFields, DataStore.setUint, DataStore.setAddress, DataStore.setBool,
    DataStore.setAddressArray]

end WithdrawalStoreUtils

/-- `WithdrawalStoreUtils.sol` as a record store. -/
def withdrawalStore : RecordStore Withdrawal where
  list := .WITHDRAWAL_LIST
  accountList := .ACCOUNT_WITHDRAWAL_LIST
  account := Withdrawal.account
  empty := Withdrawal.empty
  notFound := .WithdrawalNotFound
  writeFields := WithdrawalStoreUtils.writeFields
  get := WithdrawalStoreUtils.get
  set := WithdrawalStoreUtils.set
  remove := WithdrawalStoreUtils.remove
  accountList_ne := by decide
  account_empty := rfl
  set_eq _ _ _ := rfl
  remove_eq _ _ _ := rfl
  get_of_not_mem := WithdrawalStoreUtils.get_of_not_mem
  get_congr := WithdrawalStoreUtils.get_congr
  get_writeFields := WithdrawalStoreUtils.get_writeFields
  writeFields_agreeAt _ _ _ _ h := WithdrawalStoreUtils.writeFields_agreeAt _ _ h
  writeFields_bytes32Sets := WithdrawalStoreUtils.writeFields_bytes32Sets
  writeFields_changesWithin := WithdrawalStoreUtils.writeFields_changesWithin

end GmxSynthetics
