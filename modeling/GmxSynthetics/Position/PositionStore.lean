import GmxSynthetics.Data.RecordStore
import GmxSynthetics.Position.Position

/-!
# Reading positions back

A position that is set reads back as it was, a removed one as the empty position, and either
write leaves every other position alone.
-/

namespace GmxSynthetics

open Evm

namespace PositionStoreUtils

variable {dataStore dataStore' : DataStore} {key key' : StoreKey} {position : Position}

/-- A key that is not listed reads as the empty position. -/
theorem get_of_not_mem (h : key ∉ dataStore.bytes32Sets (.base .POSITION_LIST)) :
    get dataStore key = Position.empty :=
  if_neg (by simpa [DataStore.containsBytes32] using h)

/-- What is read depends on the list and on the fields of the key, on nothing else. -/
theorem get_congr (hlist : key ∈ dataStore'.bytes32Sets (.base .POSITION_LIST) ↔
      key ∈ dataStore.bytes32Sets (.base .POSITION_LIST))
    (hfields : ∀ f, DataStore.AgreeAt (.field key f) dataStore dataStore') :
    get dataStore' key = get dataStore key := by
  have hcontains : dataStore'.containsBytes32 (.base .POSITION_LIST) key =
      dataStore.containsBytes32 (.base .POSITION_LIST) key := decide_eq_decide.mpr hlist
  simp only [get, hcontains, (hfields _).uint, (hfields _).int, (hfields _).address,
    (hfields _).bool]

/-- Writing every field of a listed position and reading it back. -/
theorem get_writeFields (h : key ∈ dataStore.bytes32Sets (.base .POSITION_LIST))
    (position : Position) : get (writeFields dataStore key position) key = position := by
  have hmem : key ∈ (writeFields dataStore key position).bytes32Sets (.base .POSITION_LIST) := h
  unfold get DataStore.containsBytes32
  rw [if_pos (decide_eq_true hmem)]
  simp [writeFields, DataStore.setUint, DataStore.setInt, DataStore.setAddress,
    DataStore.setBool, DataStore.getUint, DataStore.getInt, DataStore.getAddress,
    DataStore.getBool]

/-- The fields of one key are the only ones written. -/
theorem writeFields_agreeAt (dataStore : DataStore) (position : Position) {k : Key}
    (h : ∀ f, k ≠ .field key f) :
    DataStore.AgreeAt k dataStore (writeFields dataStore key position) := by
  constructor <;>
    simp [writeFields, DataStore.setUint, DataStore.setInt, DataStore.setAddress,
      DataStore.setBool, DataStore.getUint, DataStore.getInt, DataStore.getAddress,
      DataStore.getBool, DataStore.getAddressArray, h]

/-- Writing the fields of a position writes its own slot. -/
theorem writeFields_changesWithin {slots : List Slot} (hkey : key.slot ∈ slots)
    (position : Position) : DataStore.ChangesWithin slots (writeFields · key position) :=
  .comp (.setAddress hkey _) <| .comp (.setAddress hkey _) <| .comp (.setAddress hkey _) <|
    .comp (.setUint hkey _) <| .comp (.setUint hkey _) <| .comp (.setUint hkey _) <|
    .comp (.setUint hkey _) <| .comp (.setInt hkey _) <| .comp (.setInt hkey _) <|
    .comp (.setUint hkey _) <| .comp (.setUint hkey _) (.setBool hkey _)

end PositionStoreUtils

/-- `PositionStoreUtils.sol` as a record store. -/
def positionStore : RecordStore Position where
  list := .POSITION_LIST
  accountList := .ACCOUNT_POSITION_LIST
  account := Position.account
  empty := Position.empty
  notFound := .PositionNotFound
  writeFields := PositionStoreUtils.writeFields
  get := PositionStoreUtils.get
  set := PositionStoreUtils.set
  remove := PositionStoreUtils.remove
  accountList_ne := by decide
  account_empty := rfl
  set_eq _ _ _ := rfl
  remove_eq _ _ _ := rfl
  get_of_not_mem := PositionStoreUtils.get_of_not_mem
  get_congr := PositionStoreUtils.get_congr
  get_writeFields := PositionStoreUtils.get_writeFields
  writeFields_agreeAt _ _ _ _ h := PositionStoreUtils.writeFields_agreeAt _ _ h
  writeFields_bytes32Sets _ _ _ := rfl
  writeFields_changesWithin := PositionStoreUtils.writeFields_changesWithin

end GmxSynthetics
