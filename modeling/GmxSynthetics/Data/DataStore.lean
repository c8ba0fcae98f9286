import GmxSynthetics.Data.Errors
import GmxSynthetics.Evm.Transaction
import GmxSynthetics.Evm.EnumerableSet
import Mathlib.Logic.Function.Basic

/-!
# The chain state

`DataStore.sol` is one storage contract shared by all others. `World` puts the other
storage the protocol moves next to it: ERC20 balances and supplies, and the balances
each `StrictBank` has recorded. `Env` is what a transaction reads from outside: the
block, the oracle, the referral registry, and the code that is not part of the
repository.

A function of the contracts that only reads takes the store as an argument, as its
Solidity signature does; one that writes is a `Tx`.
-/

namespace GmxSynthetics

open Evm

/-- A call that only reads. -/
abbrev Result (α : Type) := Evm.Result Errors α

-- ---------------------------------------------------------------------------
-- Arithmetic at the protocol's errors
-- ---------------------------------------------------------------------------

abbrev add (a b : Nat) : Result Nat := Evm.add a b

abbrev sub (a b : Nat) : Result Nat := Evm.sub a b

abbrev mul (a b : Nat) : Result Nat := Evm.mul a b

abbrev div (a b : Nat) : Result Nat := Evm.div a b

abbrev addInt (a b : Int) : Result Int := Evm.addInt a b

abbrev subInt (a b : Int) : Result Int := Evm.subInt a b

abbrev mulInt (a b : Int) : Result Int := Evm.mulInt a b

abbrev divInt (a b : Int) : Result Int := Evm.divInt a b

abbrev negInt (a : Int) : Result Int := Evm.negInt a

abbrev toInt256 (a : Nat) : Result Int := Evm.toInt256 a

abbrev toUint256 (a : Int) : Result Nat := Evm.toUint256 a

abbrev negationExceeds (value : Int) (limit : Nat) : Result Bool :=
  Evm.negationExceeds value limit

/-- `if (condition) { revert Errors.… }`. -/
abbrev revertIf (condition : Prop) [Decidable condition] (error : Errors) : Result Unit :=
  Evm.Result.revertIf condition (.custom error)

/-- `revert Errors.…`. -/
abbrev revert {α : Type} (error : Errors) : Result α := Evm.Result.revert error

-- ---------------------------------------------------------------------------
-- DataStore.sol
-- ---------------------------------------------------------------------------

/-- `DataStore`: typed mappings from keys, and the enumerable sets. -/
structure DataStore where
  uintValues : Key → Nat
  intValues : Key → Int
  addressValues : Key → Address
  boolValues : Key → Bool
  /-- A `bytes32` value is a number here; `bytes32(0)` is `0`. -/
  bytes32Values : Key → Nat
  addressArrayValues : Key → List Address
  bytes32Sets : Key → List StoreKey
  addressSets : Key → List Address

namespace DataStore

/-- The store of a fresh deployment. -/
def empty : DataStore where
  uintValues _ := 0
  intValues _ := 0
  addressValues _ := 0
  boolValues _ := false
  bytes32Values _ := 0
  addressArrayValues _ := []
  bytes32Sets _ := []
  addressSets _ := []

variable (dataStore : DataStore)

def getUint (key : Key) : Nat := dataStore.uintValues key

def getInt (key : Key) : Int := dataStore.intValues key

def getAddress (key : Key) : Address := dataStore.addressValues key

def getBool (key : Key) : Bool := dataStore.boolValues key

def getBytes32 (key : Key) : Nat := dataStore.bytes32Values key

def getAddressArray (key : Key) : List Address := dataStore.addressArrayValues key

def containsBytes32 (setKey : Key) (value : StoreKey) : Bool :=
  decide (value ∈ dataStore.bytes32Sets setKey)

def containsAddress (setKey : Key) (value : Address) : Bool :=
  decide (value ∈ dataStore.addressSets setKey)

def setUint (key : Key) (value : Nat) : DataStore :=
  { dataStore with uintValues := Function.update dataStore.uintValues key value }

def setInt (key : Key) (value : Int) : DataStore :=
  { dataStore with intValues := Function.update dataStore.intValues key value }

def setAddress (key : Key) (value : Address) : DataStore :=
  { dataStore with addressValues := Function.update dataStore.addressValues key value }

def setBool (key : Key) (value : Bool) : DataStore :=
  { dataStore with boolValues := Function.update dataStore.boolValues key value }

def setBytes32 (key : Key) (value : Nat) : DataStore :=
  { dataStore with bytes32Values := Function.update dataStore.bytes32Values key value }

def setAddressArray (key : Key) (value : List Address) : DataStore :=
  { dataStore with
    addressArrayValues := Function.update dataStore.addressArrayValues key value }

def addBytes32 (setKey : Key) (value : StoreKey) : DataStore :=
  { dataStore with
    bytes32Sets := Function.update dataStore.bytes32Sets setKey
      (EnumerableSet.add (dataStore.bytes32Sets setKey) value) }

/-- The set overload of `removeBytes32`. -/
def removeBytes32 (setKey : Key) (value : StoreKey) : DataStore :=
  { dataStore with
    bytes32Sets := Function.update dataStore.bytes32Sets setKey
      (EnumerableSet.remove (dataStore.bytes32Sets setKey) value) }

def addAddress (setKey : Key) (value : Address) : DataStore :=
  { dataStore with
    addressSets := Function.update dataStore.addressSets setKey
      (EnumerableSet.add (dataStore.addressSets setKey) value) }

end DataStore

-- ---------------------------------------------------------------------------
-- State and environment
-- ---------------------------------------------------------------------------

/-- `Price.Props`. -/
structure Price where
  min : Nat
  max : Nat
  deriving DecidableEq, Repr

/-- All storage a transaction of the protocol can change. -/
structure World where
  dataStore : DataStore
  /-- `balanceOf`: token, then holder. -/
  balances : Address → Address → Nat
  /-- `totalSupply` of a market token. -/
  totalSupply : Address → Nat
  /-- `StrictBank.tokenBalances`: bank, then token. -/
  tokenBalances : Address → Address → Nat

/-- A state-changing call of the protocol. -/
abbrev Tx (α : Type) := Evm.Tx World Errors α

/-- What a transaction reads from outside the protocol's storage. -/
structure Env where
  /-- `Chain.currentTimestamp`. -/
  timestamp : Nat
  /-- `Chain.currentBlockNumber`. -/
  blockNumber : Nat
  /-- `Oracle.primaryPrices`. -/
  primaryPrices : Address → Price
  /-- `PRBMathUD60x18.pow`, a third-party library. -/
  pow : Nat → Nat → Result Nat
  /-- `ReferralStorage.traderReferralCodes`; `bytes32(0)` is `0`. -/
  traderReferralCodes : Address → Nat
  /-- `ReferralStorage.codeOwners`. -/
  codeOwners : Nat → Address
  /-- `ReferralStorage.referrerTiers`. -/
  referrerTiers : Address → Nat
  /-- `ReferralStorage.tiers`: total rebate and discount share, in basis points. -/
  tiers : Nat → Nat × Nat
  /-- `ReferralStorage.referrerDiscountShares`. -/
  referrerDiscountShares : Address → Nat
  /-- Whether the token contract performs a covered `transfer` to the receiver. -/
  transferAccepted : Address → Address → Bool
  /-- Whether the receiver takes a native token transfer. -/
  nativeTransferAccepted : Address → Bool
  /-- `gasleft()` when the handler is entered. -/
  startingGas : Nat
  /-- What the handler has used of it when the execution fee is paid. -/
  gasUsed : Nat
  /-- `tx.gasprice`. -/
  gasPrice : Nat
  /-- Whether the gas handed to the inner call of a handler suffices. -/
  executionGasSuffices : Bool
  /-- Whether the keeper has the role `FROZEN_ORDER_KEEPER`. -/
  isFrozenOrderKeeper : Address → Bool

/-- A block with the given timestamp and prices, in which no account has a referral code,
every token transfer is accepted, gas is free and `pow` is never reached. -/
def Env.plain (timestamp : Nat) (primaryPrices : Address → Price) : Env where
  timestamp := timestamp
  blockNumber := timestamp
  primaryPrices := primaryPrices
  pow base _ := .ok base
  traderReferralCodes _ := 0
  codeOwners _ := 0
  referrerTiers _ := 0
  tiers _ := (0, 0)
  referrerDiscountShares _ := 0
  transferAccepted _ _ := true
  nativeTransferAccepted _ := true
  startingGas := 0
  gasUsed := 0
  gasPrice := 0
  executionGasSuffices := true
  isFrozenOrderKeeper _ := true

/-- Read the store. -/
def readStore {α : Type} (f : DataStore → α) : Tx α := Tx.read fun w => f w.dataStore

/-- Call a view function on the store. -/
def viewStore {α : Type} (f : DataStore → Result α) : Tx α := Tx.view fun w => f w.dataStore

/-- Write to the store. -/
def writeStore (f : DataStore → DataStore) : Tx Unit :=
  Tx.write fun w => { w with dataStore := f w.dataStore }

/-- A getter of the data store returns what it reads and changes nothing. -/
theorem readStore_eq_ok {α : Type} {f : DataStore → α} {w w' : World} {a : α} :
    readStore f w = .ok (a, w') ↔ f w.dataStore = a ∧ w = w' :=
  Tx.read_eq_ok

/-- A reading function that may revert changes nothing either. -/
theorem viewStore_eq_ok {α : Type} {f : DataStore → Result α} {w w' : World} {a : α} :
    viewStore f w = .ok (a, w') ↔ f w.dataStore = .ok a ∧ w = w' :=
  Tx.view_eq_ok

/-- A setter changes the data store alone. -/
theorem writeStore_eq_ok {f : DataStore → DataStore} {w w' : World} {u : Unit} :
    writeStore f w = .ok (u, w') ↔ { w with dataStore := f w.dataStore } = w' :=
  Tx.write_eq_ok

theorem readStore_bind_eq_ok {α β : Type} {g : DataStore → α} {f : α → Tx β} {w w' : World}
    {b : β} : (readStore g >>= f) w = .ok (b, w') ↔ f (g w.dataStore) w = .ok (b, w') :=
  Tx.read_bind_eq_ok

theorem viewStore_bind_eq_ok {α β : Type} {g : DataStore → Result α} {f : α → Tx β}
    {w w' : World} {b : β} :
    (viewStore g >>= f) w = .ok (b, w') ↔
      ∃ a, g w.dataStore = .ok a ∧ f a w = .ok (b, w') :=
  Tx.view_bind_eq_ok

theorem writeStore_bind_eq_ok {β : Type} {g : DataStore → DataStore} {f : Unit → Tx β}
    {w w' : World} {b : β} :
    (writeStore g >>= f) w = .ok (b, w') ↔
      f () { w with dataStore := g w.dataStore } = .ok (b, w') :=
  Tx.write_bind_eq_ok

end GmxSynthetics
