import GmxSynthetics.Data.DataStore

/-!
# Footprints

What a call leaves alone. Every key of the store belongs to a `Slot`, and `Writes slots x`
says that a successful run of `x` changes the store at keys of the listed slots only. A
footprint is proved once per function, by following its binds, and read back with
`SameOff.uint` and its siblings.

* `World.SameOff slots` — two states agree off the slots; reflexive and transitive;
* `Writes.bind`, `Writes.attempt`, … — footprints of the constructs of a call;
* `SameOff.setUint`, … — footprints of the primitive writes.
-/

namespace GmxSynthetics

open Evm

-- ---------------------------------------------------------------------------
-- Slots
-- ---------------------------------------------------------------------------

/-- A group of keys: those of one constant of `Keys.sol`, or the fields of one kind of
record. Token balances and supplies are a group of their own. -/
inductive Slot where
  | constant (name : Base)
  | position
  | request
  | market
  | tokens
  deriving DecidableEq, Repr

def StoreKey.slot : StoreKey → Slot
  | .position _ _ _ _ => .position
  | .request _ => .request

def Key.slot : Key → Slot
  | .base name => .constant name
  | .derived name _ => .constant name
  | .field key _ => key.slot
  | .marketField _ _ => .market

@[simp] theorem Key.slot_base (name : Base) : (Key.base name).slot = .constant name := rfl

@[simp] theorem Key.slot_derived (name : Base) (args : List Word) :
    (Key.derived name args).slot = .constant name := rfl

@[simp] theorem Key.slot_field (key : StoreKey) (f : Field) :
    (Key.field key f).slot = key.slot := rfl

@[simp] theorem Key.slot_market (m : Address) (f : Field) :
    (Key.marketField m f).slot = .market := rfl

/-- Keys of different slots are different keys. -/
theorem Key.ne_of_slot {slots : List Slot} {key key' : Key} (h : key.slot ∈ slots)
    (h' : key'.slot ∉ slots) : key' ≠ key := by
  rintro rfl
  exact h' h

-- ---------------------------------------------------------------------------
-- Agreement at a key
-- ---------------------------------------------------------------------------

/-- The two stores hold the same values under a key. -/
structure DataStore.AgreeAt (key : Key) (dataStore dataStore' : DataStore) : Prop where
  uint : dataStore'.getUint key = dataStore.getUint key
  int : dataStore'.getInt key = dataStore.getInt key
  address : dataStore'.getAddress key = dataStore.getAddress key
  bool : dataStore'.getBool key = dataStore.getBool key
  addressArray : dataStore'.getAddressArray key = dataStore.getAddressArray key

-- ---------------------------------------------------------------------------
-- Agreement off a list of slots
-- ---------------------------------------------------------------------------

/-- The two states agree at every key whose slot is not listed. -/
structure World.SameOff (slots : List Slot) (w w' : World) : Prop where
  uintValues : ∀ key, key.slot ∉ slots → w'.dataStore.uintValues key = w.dataStore.uintValues key
  intValues : ∀ key, key.slot ∉ slots → w'.dataStore.intValues key = w.dataStore.intValues key
  addressValues : ∀ key, key.slot ∉ slots →
    w'.dataStore.addressValues key = w.dataStore.addressValues key
  boolValues : ∀ key, key.slot ∉ slots → w'.dataStore.boolValues key = w.dataStore.boolValues key
  bytes32Values : ∀ key, key.slot ∉ slots →
    w'.dataStore.bytes32Values key = w.dataStore.bytes32Values key
  addressArrayValues : ∀ key, key.slot ∉ slots →
    w'.dataStore.addressArrayValues key = w.dataStore.addressArrayValues key
  bytes32Sets : ∀ key, key.slot ∉ slots →
    w'.dataStore.bytes32Sets key = w.dataStore.bytes32Sets key
  addressSets : ∀ key, key.slot ∉ slots →
    w'.dataStore.addressSets key = w.dataStore.addressSets key
  tokens : Slot.tokens ∉ slots →
    w'.balances = w.balances ∧ w'.totalSupply = w.totalSupply ∧ w'.tokenBalances = w.tokenBalances

namespace World.SameOff

variable {slots slots' : List Slot} {w w' w'' : World}

/-- Nothing written is nothing changed. -/
theorem refl (slots : List Slot) (w : World) : SameOff slots w w :=
  ⟨fun _ _ => rfl, fun _ _ => rfl, fun _ _ => rfl, fun _ _ => rfl, fun _ _ => rfl,
    fun _ _ => rfl, fun _ _ => rfl, fun _ _ => rfl, fun _ => ⟨rfl, rfl, rfl⟩⟩

/-- What two writes leave alone, they leave alone together. -/
theorem trans (h : SameOff slots w w') (h' : SameOff slots w' w'') : SameOff slots w w'' where
  uintValues key hkey := (h'.uintValues key hkey).trans (h.uintValues key hkey)
  intValues key hkey := (h'.intValues key hkey).trans (h.intValues key hkey)
  addressValues key hkey := (h'.addressValues key hkey).trans (h.addressValues key hkey)
  boolValues key hkey := (h'.boolValues key hkey).trans (h.boolValues key hkey)
  bytes32Values key hkey := (h'.bytes32Values key hkey).trans (h.bytes32Values key hkey)
  addressArrayValues key hkey :=
    (h'.addressArrayValues key hkey).trans (h.addressArrayValues key hkey)
  bytes32Sets key hkey := (h'.bytes32Sets key hkey).trans (h.bytes32Sets key hkey)
  addressSets key hkey := (h'.addressSets key hkey).trans (h.addressSets key hkey)
  tokens htokens :=
    ⟨(h'.tokens htokens).1.trans (h.tokens htokens).1,
      (h'.tokens htokens).2.1.trans (h.tokens htokens).2.1,
      (h'.tokens htokens).2.2.trans (h.tokens htokens).2.2⟩

/-- A coarser list of slots claims less. -/
theorem mono (h : SameOff slots w w') (hslots : slots ⊆ slots') : SameOff slots' w w' where
  uintValues key hkey := h.uintValues key fun hmem => hkey (hslots hmem)
  intValues key hkey := h.intValues key fun hmem => hkey (hslots hmem)
  addressValues key hkey := h.addressValues key fun hmem => hkey (hslots hmem)
  boolValues key hkey := h.boolValues key fun hmem => hkey (hslots hmem)
  bytes32Values key hkey := h.bytes32Values key fun hmem => hkey (hslots hmem)
  addressArrayValues key hkey := h.addressArrayValues key fun hmem => hkey (hslots hmem)
  bytes32Sets key hkey := h.bytes32Sets key fun hmem => hkey (hslots hmem)
  addressSets key hkey := h.addressSets key fun hmem => hkey (hslots hmem)
  tokens htokens := h.tokens fun hmem => htokens (hslots hmem)

instance : IsPreorder World (SameOff slots) where
  refl := refl slots
  trans _ _ _ := trans

-- The readings below take the slot as an argument, so that its absence from a concrete
-- footprint is a closed fact.

/-- A number outside the footprint is the same. -/
theorem uint (h : SameOff slots w w') (slot : Slot) (hslot : slot ∉ slots) (key : Key)
    (hkey : key.slot = slot) : w'.dataStore.getUint key = w.dataStore.getUint key :=
  h.uintValues key (hkey ▸ hslot)

/-- So is a signed one. -/
theorem int (h : SameOff slots w w') (slot : Slot) (hslot : slot ∉ slots) (key : Key)
    (hkey : key.slot = slot) : w'.dataStore.getInt key = w.dataStore.getInt key :=
  h.intValues key (hkey ▸ hslot)

/-- So is an address. -/
theorem address (h : SameOff slots w w') (slot : Slot) (hslot : slot ∉ slots) (key : Key)
    (hkey : key.slot = slot) : w'.dataStore.getAddress key = w.dataStore.getAddress key :=
  h.addressValues key (hkey ▸ hslot)

/-- So is a flag. -/
theorem bool (h : SameOff slots w w') (slot : Slot) (hslot : slot ∉ slots) (key : Key)
    (hkey : key.slot = slot) : w'.dataStore.getBool key = w.dataStore.getBool key :=
  h.boolValues key (hkey ▸ hslot)

/-- So is a key. -/
theorem bytes32 (h : SameOff slots w w') (slot : Slot) (hslot : slot ∉ slots) (key : Key)
    (hkey : key.slot = slot) : w'.dataStore.getBytes32 key = w.dataStore.getBytes32 key :=
  h.bytes32Values key (hkey ▸ hslot)

/-- So is a list of addresses. -/
theorem addressArray (h : SameOff slots w w') (slot : Slot) (hslot : slot ∉ slots) (key : Key)
    (hkey : key.slot = slot) :
    w'.dataStore.getAddressArray key = w.dataStore.getAddressArray key :=
  h.addressArrayValues key (hkey ▸ hslot)

/-- So is a set of keys. -/
theorem bytes32Set (h : SameOff slots w w') (slot : Slot) (hslot : slot ∉ slots) (key : Key)
    (hkey : key.slot = slot) : w'.dataStore.bytes32Sets key = w.dataStore.bytes32Sets key :=
  h.bytes32Sets key (hkey ▸ hslot)

/-- So is a set of addresses. -/
theorem addressSet (h : SameOff slots w w') (slot : Slot) (hslot : slot ∉ slots) (key : Key)
    (hkey : key.slot = slot) : w'.dataStore.addressSets key = w.dataStore.addressSets key :=
  h.addressSets key (hkey ▸ hslot)

/-- All that is stored under a key outside the footprint is the same. -/
theorem agreeAt (h : SameOff slots w w') (key : Key) (hkey : key.slot ∉ slots) :
    DataStore.AgreeAt key w.dataStore w'.dataStore :=
  ⟨h.uint _ hkey _ rfl, h.int _ hkey _ rfl, h.address _ hkey _ rfl, h.bool _ hkey _ rfl,
    h.addressArray _ hkey _ rfl⟩

/-- A change of balances only. -/
theorem of_dataStore_eq (hslots : Slot.tokens ∈ slots) (h : w'.dataStore = w.dataStore) :
    SameOff slots w w' := by
  refine ⟨?_, ?_, ?_, ?_, ?_, ?_, ?_, ?_, fun htokens => absurd hslots htokens⟩ <;>
    · intro key _
      rw [h]

/-- What writes balances only leaves the store. -/
theorem dataStore_eq (h : SameOff [.tokens] w w') : w'.dataStore = w.dataStore := by
  have hslot : ∀ key : Key, key.slot ∉ ([.tokens] : List Slot) := by
    intro key
    rw [List.mem_singleton]
    cases key with
    | field key f => cases key <;> simp [StoreKey.slot]
    | _ => simp
  obtain ⟨⟨⟩, _, _, _⟩ := w
  obtain ⟨⟨⟩, _, _, _⟩ := w'
  simp only [DataStore.mk.injEq]
  exact ⟨funext fun key => h.uintValues key (hslot key),
    funext fun key => h.intValues key (hslot key),
    funext fun key => h.addressValues key (hslot key),
    funext fun key => h.boolValues key (hslot key),
    funext fun key => h.bytes32Values key (hslot key),
    funext fun key => h.addressArrayValues key (hslot key),
    funext fun key => h.bytes32Sets key (hslot key),
    funext fun key => h.addressSets key (hslot key)⟩

end World.SameOff

-- ---------------------------------------------------------------------------
-- Primitive writes
-- ---------------------------------------------------------------------------

/-- A change of the store within the slots. -/
def DataStore.ChangesWithin (slots : List Slot) (f : DataStore → DataStore) : Prop :=
  ∀ w : World, World.SameOff slots w { w with dataStore := f w.dataStore }

namespace DataStore.ChangesWithin

variable {slots : List Slot} {f g : DataStore → DataStore} {key : Key}

/-- Changes one after the other. -/
theorem comp (hf : ChangesWithin slots f) (hg : ChangesWithin slots g) :
    ChangesWithin slots fun dataStore => g (f dataStore) := fun w =>
  (hf w).trans (hg { w with dataStore := f w.dataStore })

theorem setUint (hkey : key.slot ∈ slots) (value : Nat) :
    ChangesWithin slots (·.setUint key value) := fun w =>
  { World.SameOff.refl slots w with
    uintValues := fun _ hkey' =>
      Function.update_of_ne (Key.ne_of_slot hkey hkey') _ _ }

theorem setInt (hkey : key.slot ∈ slots) (value : Int) :
    ChangesWithin slots (·.setInt key value) := fun w =>
  { World.SameOff.refl slots w with
    intValues := fun _ hkey' =>
      Function.update_of_ne (Key.ne_of_slot hkey hkey') _ _ }

theorem setAddress (hkey : key.slot ∈ slots) (value : Address) :
    ChangesWithin slots (·.setAddress key value) := fun w =>
  { World.SameOff.refl slots w with
    addressValues := fun _ hkey' =>
      Function.update_of_ne (Key.ne_of_slot hkey hkey') _ _ }

theorem setBool (hkey : key.slot ∈ slots) (value : Bool) :
    ChangesWithin slots (·.setBool key value) := fun w =>
  { World.SameOff.refl slots w with
    boolValues := fun _ hkey' =>
      Function.update_of_ne (Key.ne_of_slot hkey hkey') _ _ }

theorem setAddressArray (hkey : key.slot ∈ slots) (value : List Address) :
    ChangesWithin slots (·.setAddressArray key value) := fun w =>
  { World.SameOff.refl slots w with
    addressArrayValues := fun _ hkey' =>
      Function.update_of_ne (Key.ne_of_slot hkey hkey') _ _ }

theorem addBytes32 (hkey : key.slot ∈ slots) (value : StoreKey) :
    ChangesWithin slots (·.addBytes32 key value) := fun w =>
  { World.SameOff.refl slots w with
    bytes32Sets := fun _ hkey' =>
      Function.update_of_ne (Key.ne_of_slot hkey hkey') _ _ }

theorem removeBytes32 (hkey : key.slot ∈ slots) (value : StoreKey) :
    ChangesWithin slots (·.removeBytes32 key value) := fun w =>
  { World.SameOff.refl slots w with
    bytes32Sets := fun _ hkey' =>
      Function.update_of_ne (Key.ne_of_slot hkey hkey') _ _ }

theorem addAddress (hkey : key.slot ∈ slots) (value : Address) :
    ChangesWithin slots (·.addAddress key value) := fun w =>
  { World.SameOff.refl slots w with
    addressSets := fun _ hkey' =>
      Function.update_of_ne (Key.ne_of_slot hkey hkey') _ _ }

end DataStore.ChangesWithin

-- ---------------------------------------------------------------------------
-- Footprints of calls
-- ---------------------------------------------------------------------------

/-- A successful run of `x` changes nothing off the slots. -/
def Writes {α : Type} (slots : List Slot) (x : Tx α) : Prop := Tx.Keeps (World.SameOff slots) x

namespace Writes

variable {α β : Type} {slots : List Slot}

/-- What follows a call is written by either. -/
theorem bind {x : Tx α} {f : α → Tx β} (hx : Writes slots x) (hf : ∀ a, Writes slots (f a)) :
    Writes slots (x >>= f) :=
  Tx.keeps_bind hx hf

/-- Returning writes nothing. -/
theorem pure (a : α) : Writes slots (pure a : Tx α) := Tx.keeps_pure a

/-- Nor does a computation. -/
theorem lift (r : Result α) : Writes slots (liftM r : Tx α) := Tx.keeps_lift r

/-- Nor does a view of the world. -/
theorem view (f : World → Result α) : Writes slots (Tx.view f : Tx α) := Tx.keeps_view f

/-- Nor does reading it. -/
theorem read (f : World → α) : Writes slots (Tx.read f : Tx α) := Tx.keeps_read f

theorem viewStore (f : DataStore → Result α) : Writes slots (viewStore f) := Tx.keeps_view _

theorem readStore (f : DataStore → α) : Writes slots (readStore f) := Tx.keeps_read _

/-- A call that reverts leaves nothing behind. -/
theorem revert (e : Errors) : Writes slots (Tx.revert e : Tx α) := Tx.keeps_revert e

/-- Nor does one that is caught. -/
theorem attempt {x : Tx α} (hx : Writes slots x) : Writes slots (Tx.attempt x) :=
  Tx.keeps_attempt hx

/-- Both branches keep to the footprint. -/
theorem ite {c : Prop} [Decidable c] {x y : Tx α} (hx : Writes slots x) (hy : Writes slots y) :
    Writes slots (if c then x else y) :=
  Tx.keeps_ite hx hy

/-- A write of the store keeps to the footprint of its function. -/
theorem writeStore {f : DataStore → DataStore} (hf : DataStore.ChangesWithin slots f) :
    Writes slots (writeStore f) := by
  intro w u w' hrun
  obtain rfl := writeStore_eq_ok.mp hrun
  exact hf w

/-- Loops over a list. -/
theorem forM {xs : List α} {f : α → Tx Unit} (hf : ∀ a, Writes slots (f a)) :
    Writes slots (xs.forM f) := by
  induction xs with
  | nil => exact pure ()
  | cons a xs ih =>
    change Writes slots (f a >>= fun _ => xs.forM f)
    exact (hf a).bind fun _ => ih

/-- A write of balances only. -/
theorem writeTokens {f : World → World} (hslots : Slot.tokens ∈ slots)
    (hf : ∀ w, (f w).dataStore = w.dataStore) : Writes slots (Tx.write f : Tx Unit) := by
  intro w u w' hrun
  obtain rfl := Tx.write_eq_ok.mp hrun
  exact World.SameOff.of_dataStore_eq hslots (hf w)

end Writes

end GmxSynthetics
