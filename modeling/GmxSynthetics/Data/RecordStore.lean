import GmxSynthetics.Data.Footprint

/-!
# Record stores

`PositionStoreUtils.sol`, `OrderStoreUtils.sol`, `DepositStoreUtils.sol` and
`WithdrawalStoreUtils.sol` store their records in one way: a list of all keys, a list of the
keys of each account, and one slot per field. Here is that way, and what follows from it.

* `RecordStore` — the lists, the fields and their laws;
* `get_set_self`, `get_set_of_ne`, `get_remove_of_ne` — what reads back.
-/

namespace GmxSynthetics

open Evm

/-- How the records of one kind are stored. -/
structure RecordStore (α : Type) where
  list : Base
  accountList : Base
  account : α → Address
  empty : α
  notFound : StoreKey → Errors
  writeFields : DataStore → StoreKey → α → DataStore
  get : DataStore → StoreKey → α
  set : DataStore → StoreKey → α → DataStore
  remove : DataStore → StoreKey → Address → Result DataStore
  accountList_ne : accountList ≠ list
  account_empty : account empty = 0
  set_eq (dataStore : DataStore) (key : StoreKey) (record : α) : set dataStore key record =
    writeFields ((dataStore.addBytes32 (.base list) key).addBytes32
      (.derived accountList [account record]) key) key record
  remove_eq (dataStore : DataStore) (key : StoreKey) (account : Address) :
    remove dataStore key account = do
      revertIf (¬ dataStore.containsBytes32 (.base list) key) (notFound key)
      pure (writeFields ((dataStore.removeBytes32 (.base list) key).removeBytes32
        (.derived accountList [account]) key) key empty)
  get_of_not_mem {dataStore : DataStore} {key : StoreKey}
    (h : key ∉ dataStore.bytes32Sets (.base list)) : get dataStore key = empty
  get_congr {dataStore dataStore' : DataStore} {key : StoreKey}
    (hlist : key ∈ dataStore'.bytes32Sets (.base list) ↔ key ∈ dataStore.bytes32Sets (.base list))
    (hfields : ∀ f, DataStore.AgreeAt (.field key f) dataStore dataStore') :
    get dataStore' key = get dataStore key
  get_writeFields {dataStore : DataStore} {key : StoreKey}
    (h : key ∈ dataStore.bytes32Sets (.base list)) (record : α) :
    get (writeFields dataStore key record) key = record
  writeFields_agreeAt (dataStore : DataStore) {key : StoreKey} (record : α) {k : Key}
    (h : ∀ f, k ≠ .field key f) : DataStore.AgreeAt k dataStore (writeFields dataStore key record)
  writeFields_bytes32Sets (dataStore : DataStore) (key : StoreKey) (record : α) :
    (writeFields dataStore key record).bytes32Sets = dataStore.bytes32Sets
  writeFields_changesWithin {slots : List Slot} {key : StoreKey} (hkey : key.slot ∈ slots)
    (record : α) : DataStore.ChangesWithin slots (writeFields · key record)

namespace RecordStore

variable {α : Type} (store : RecordStore α)

/-- The keys of the stored records. -/
def keys (dataStore : DataStore) : List StoreKey := dataStore.bytes32Sets (.base store.list)

/-- The keys of the records of an account. -/
def accountKeys (dataStore : DataStore) (account : Address) : List StoreKey :=
  dataStore.bytes32Sets (.derived store.accountList [account])

/-- What storing or removing a record writes besides its fields. -/
def listSlots : List Slot := [.constant store.list, .constant store.accountList]

variable {dataStore dataStore' : DataStore} {key key' : StoreKey} {record : α}

-- ---------------------------------------------------------------------------
-- Reading
-- ---------------------------------------------------------------------------

section SameOff

variable {slots : List Slot} {w w' : World} (h : World.SameOff slots w w')
  (hlist : Slot.constant store.list ∉ slots)

include h hlist

/-- A list outside the footprint is the same. -/
theorem keys_sameOff : store.keys w'.dataStore = store.keys w.dataStore :=
  h.bytes32Set _ hlist (.base store.list) rfl

/-- What leaves the list and the fields alone leaves every record. -/
theorem get_sameOff (hkey : key.slot ∉ slots) :
    store.get w'.dataStore key = store.get w.dataStore key := by
  refine store.get_congr ?_ fun f => h.agreeAt _ hkey
  exact iff_of_eq (congrArg (key ∈ ·) (store.keys_sameOff h hlist))

end SameOff

-- ---------------------------------------------------------------------------
-- Setting
-- ---------------------------------------------------------------------------

/-- Setting a record lists its key. -/
theorem keys_set : store.keys (store.set dataStore key record) =
    EnumerableSet.add (store.keys dataStore) key := by
  simp [keys, store.set_eq, store.writeFields_bytes32Sets, DataStore.addBytes32]

/-- The keys are those of before, and the one that is set. -/
theorem mem_keys_set :
    key' ∈ store.keys (store.set dataStore key record) ↔
      key' ∈ store.keys dataStore ∨ key' = key := by
  rw [keys_set, EnumerableSet.mem_add]

/-- The record that is set is read. -/
theorem get_set_self : store.get (store.set dataStore key record) key = record := by
  rw [store.set_eq]
  apply store.get_writeFields
  simp [DataStore.addBytes32, EnumerableSet.mem_add]

/-- It is listed for its account. -/
theorem accountKeys_set_self :
    store.accountKeys (store.set dataStore key record) (store.account record) =
      EnumerableSet.add (store.accountKeys dataStore (store.account record)) key := by
  simp [accountKeys, store.set_eq, store.writeFields_bytes32Sets, DataStore.addBytes32]

/-- No other set is written. -/
theorem bytes32Sets_set {k : Key} (hlist : k ≠ .base store.list)
    (haccount : k ≠ .derived store.accountList [store.account record]) :
    (store.set dataStore key record).bytes32Sets k = dataStore.bytes32Sets k := by
  simp [store.set_eq, store.writeFields_bytes32Sets, DataStore.addBytes32, hlist, haccount]

/-- No other field is written. -/
theorem set_agreeAt {k : Key} (h : ∀ f, k ≠ .field key f) :
    DataStore.AgreeAt k dataStore (store.set dataStore key record) := by
  rw [store.set_eq]
  have hfields := store.writeFields_agreeAt ((dataStore.addBytes32 (.base store.list)
    key).addBytes32 (.derived store.accountList [store.account record]) key) record h
  exact ⟨hfields.uint, hfields.int, hfields.address, hfields.bool, hfields.addressArray⟩

/-- The other records are those of before. -/
theorem get_set_of_ne (h : key' ≠ key) :
    store.get (store.set dataStore key record) key' = store.get dataStore key' := by
  refine store.get_congr ?_ fun f => store.set_agreeAt fun f' hkey => h (Key.field.inj hkey).1
  exact (store.mem_keys_set).trans (or_iff_left h)

/-- A record is written under its key, and on its lists. -/
theorem set_changesWithin {slots : List Slot} (hkey : key.slot ∈ slots)
    (hslots : store.listSlots ⊆ slots) (record : α) :
    DataStore.ChangesWithin slots (store.set · key record) := by
  have hlist : Slot.constant store.list ∈ slots := hslots List.mem_cons_self
  have haccount : Slot.constant store.accountList ∈ slots :=
    hslots (List.mem_cons_of_mem _ (List.mem_singleton_self _))
  simp only [store.set_eq]
  exact .comp (.addBytes32 hlist _) (.comp (.addBytes32 haccount _)
    (store.writeFields_changesWithin hkey record))

-- ---------------------------------------------------------------------------
-- Removing
-- ---------------------------------------------------------------------------

section Remove

variable {account : Address} (h : store.remove dataStore key account = .ok dataStore')

include h

/-- Removing a record takes its key off both lists and empties its fields. -/
theorem remove_writes : key ∈ store.keys dataStore ∧
    dataStore' = store.writeFields ((dataStore.removeBytes32 (.base store.list)
      key).removeBytes32 (.derived store.accountList [account]) key) key store.empty := by
  simp only [store.remove_eq, DataStore.containsBytes32, Result.bind_eq_ok, Result.revertIf_eq_ok,
    Result.pure_eq_ok, decide_eq_true_eq, not_not] at h
  obtain ⟨_, hmem, rfl⟩ := h
  exact ⟨hmem, rfl⟩

/-- The key is off the list. -/
theorem keys_remove : store.keys dataStore' = EnumerableSet.remove (store.keys dataStore) key := by
  obtain ⟨-, rfl⟩ := store.remove_writes h
  simp [keys, store.writeFields_bytes32Sets, DataStore.removeBytes32]

/-- Only a record that is listed is removed. -/
theorem mem_of_remove : key ∈ store.keys dataStore := (store.remove_writes h).1

/-- The key is off the list of the account. -/
theorem accountKeys_remove_self : store.accountKeys dataStore' account =
    EnumerableSet.remove (store.accountKeys dataStore account) key := by
  obtain ⟨-, rfl⟩ := store.remove_writes h
  simp [accountKeys, store.writeFields_bytes32Sets, DataStore.removeBytes32]

/-- No other set is written. -/
theorem bytes32Sets_remove {k : Key} (hlist : k ≠ .base store.list)
    (haccount : k ≠ .derived store.accountList [account]) :
    dataStore'.bytes32Sets k = dataStore.bytes32Sets k := by
  obtain ⟨-, rfl⟩ := store.remove_writes h
  simp [store.writeFields_bytes32Sets, DataStore.removeBytes32, hlist, haccount]

/-- No other field is written. -/
theorem remove_agreeAt {k : Key} (hk : ∀ f, k ≠ .field key f) :
    DataStore.AgreeAt k dataStore dataStore' := by
  obtain ⟨-, rfl⟩ := store.remove_writes h
  have hfields := store.writeFields_agreeAt ((dataStore.removeBytes32 (.base store.list)
    key).removeBytes32 (.derived store.accountList [account]) key) store.empty hk
  exact ⟨hfields.uint, hfields.int, hfields.address, hfields.bool, hfields.addressArray⟩

/-- The other keys stay. -/
theorem mem_keys_remove (hnodup : (store.keys dataStore).Nodup) :
    key' ∈ store.keys dataStore' ↔ key' ∈ store.keys dataStore ∧ key' ≠ key := by
  rw [store.keys_remove h, EnumerableSet.mem_remove hnodup]

/-- The other records are those of before. -/
theorem get_remove_of_ne (hnodup : (store.keys dataStore).Nodup) (hne : key' ≠ key) :
    store.get dataStore' key' = store.get dataStore key' := by
  refine store.get_congr ?_ fun f =>
    store.remove_agreeAt h fun f' hkey => hne (Key.field.inj hkey).1
  exact (store.mem_keys_remove h hnodup).trans (and_iff_left hne)

end Remove

/-- Removing a record writes under its key, and its lists. -/
theorem remove_sameOff {slots : List Slot} {account : Address} {w : World}
    (hkey : key.slot ∈ slots) (hslots : store.listSlots ⊆ slots)
    (h : store.remove w.dataStore key account = .ok dataStore') :
    World.SameOff slots w { w with dataStore := dataStore' } := by
  obtain ⟨-, rfl⟩ := store.remove_writes h
  have hchange : DataStore.ChangesWithin slots fun dataStore =>
      store.writeFields ((dataStore.removeBytes32 (.base store.list) key).removeBytes32
        (.derived store.accountList [account]) key) key store.empty :=
    .comp (.removeBytes32 (hslots List.mem_cons_self) _) <|
      .comp (.removeBytes32 (hslots (List.mem_cons_of_mem _ (List.mem_singleton_self _))) _) <|
        store.writeFields_changesWithin hkey store.empty
  exact hchange w

end RecordStore

end GmxSynthetics
