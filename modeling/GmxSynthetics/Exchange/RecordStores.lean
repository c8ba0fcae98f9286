import GmxSynthetics.Exchange.RequestStores
import GmxSynthetics.Position.PositionStore

/-!
# The four record stores

Orders, deposits, withdrawals and positions are kept in one `DataStore`. Seen from outside it
is four maps from keys to records.

* `Records` — the four maps;
* `Represents` — a `DataStore` holds them, and lists their keys for everyone and per account;
* `RecordRun.represents` — it does so after any writes.
-/

namespace GmxSynthetics

open Evm

inductive RecordKind where
  | order
  | deposit
  | withdrawal
  | position
  deriving DecidableEq, Repr

namespace RecordKind

/-- What a store of the kind holds. -/
def Record : RecordKind → Type
  | order => Order
  | deposit => Deposit
  | withdrawal => Withdrawal
  | position => Position

def store : (kind : RecordKind) → RecordStore kind.Record
  | order => orderStore
  | deposit => depositStore
  | withdrawal => withdrawalStore
  | position => positionStore

theorem list_inj {kind kind' : RecordKind} : kind.store.list = kind'.store.list → kind = kind' := by
  cases kind <;> cases kind' <;> decide

theorem accountList_inj {kind kind' : RecordKind} :
    kind.store.accountList = kind'.store.accountList → kind = kind' := by
  cases kind <;> cases kind' <;> decide

end RecordKind

-- ---------------------------------------------------------------------------
-- Maps from keys to records
-- ---------------------------------------------------------------------------

/-- The records that are set. -/
abbrev Records := (kind : RecordKind) → StoreKey → Option kind.Record

def Records.empty : Records := fun _ _ => none

/-- A write to one of the maps. -/
def Records.write (records : Records) (kind : RecordKind) (key : StoreKey)
    (record : Option kind.Record) : Records :=
  Function.update records kind (Function.update (records kind) key record)

section Write

variable {records : Records} {kind kind' : RecordKind} {key key' : StoreKey}
  {record : Option kind.Record}

theorem Records.write_self : records.write kind key record kind key = record := by
  simp [write]

theorem Records.write_of_kind_ne (h : kind' ≠ kind) :
    records.write kind key record kind' = records kind' :=
  Function.update_of_ne h _ _

theorem Records.write_of_key_ne (h : key' ≠ key) :
    records.write kind key record kind key' = records kind key' := by
  simp [write, h]

end Write

/-- The store holds the records, and lists their keys. -/
structure Represents (dataStore : DataStore) (records : Records) : Prop where
  nodup : ∀ kind : RecordKind, (kind.store.keys dataStore).Nodup
  accountNodup : ∀ (kind : RecordKind) account, (kind.store.accountKeys dataStore account).Nodup
  get : ∀ (kind : RecordKind) key,
    kind.store.get dataStore key = (records kind key).getD kind.store.empty
  mem_keys : ∀ (kind : RecordKind) key,
    key ∈ kind.store.keys dataStore ↔ (records kind key).isSome
  mem_accountKeys : ∀ (kind : RecordKind) key account,
    key ∈ kind.store.accountKeys dataStore account ↔
      ∃ record, records kind key = some record ∧ kind.store.account record = account

-- ---------------------------------------------------------------------------
-- Writes
-- ---------------------------------------------------------------------------

/-- A write to one of the stores. -/
inductive RecordWrite where
  | set (kind : RecordKind) (key : StoreKey) (record : kind.Record)
  | remove (kind : RecordKind) (key : StoreKey) (account : Address)

namespace RecordWrite

def kind : RecordWrite → RecordKind
  | set kind _ _ => kind
  | remove kind _ _ => kind

def key : RecordWrite → StoreKey
  | set _ key _ => key
  | remove _ key _ => key

/-- The record that is stored under the key afterwards. -/
def record : (write : RecordWrite) → Option write.kind.Record
  | set _ _ record => some record
  | remove _ _ _ => none

def run : RecordWrite → DataStore → Result DataStore
  | set kind key record, dataStore => pure (kind.store.set dataStore key record)
  | remove kind key account, dataStore => kind.store.remove dataStore key account

/-- The account that a caller passes: a record that is overwritten keeps its account, and one that
is removed is removed from the list of its account. -/
def KeepsAccount (records : Records) : RecordWrite → Prop
  | set kind key record => ∀ previous, records kind key = some previous →
    kind.store.account previous = kind.store.account record
  | remove kind key account => ∀ previous, records kind key = some previous →
    kind.store.account previous = account

end RecordWrite

section Writes

variable {dataStore dataStore' : DataStore} {records : Records} {op : RecordWrite}

/-- What a write does to the lists of the other stores, and to the other fields. -/
theorem RecordWrite.run_frame (h : op.run dataStore = .ok dataStore') :
    (∀ kind ≠ op.kind, kind.store.keys dataStore' = kind.store.keys dataStore ∧
      kind.store.accountKeys dataStore' = kind.store.accountKeys dataStore) ∧
      ∀ key ≠ op.key, ∀ f, DataStore.AgreeAt (.field key f) dataStore dataStore' := by
  cases op with
  | set kind key record =>
    obtain rfl := Result.pure_eq_ok.mp h
    refine ⟨fun kind' hkind => ⟨?_, ?_⟩, fun key' hkey f => ?_⟩
    · refine kind.store.bytes32Sets_set (fun hk => hkind ?_) (by simp)
      exact RecordKind.list_inj (Key.base.inj hk)
    · funext account
      refine kind.store.bytes32Sets_set (by simp) (fun hk => hkind ?_)
      exact RecordKind.accountList_inj (Key.derived.inj hk).1
    · exact kind.store.set_agreeAt fun f' hk => hkey (Key.field.inj hk).1
  | remove kind key account =>
    refine ⟨fun kind' hkind => ⟨?_, ?_⟩, fun key' hkey f => ?_⟩
    · refine kind.store.bytes32Sets_remove h (fun hk => hkind ?_) (by simp)
      exact RecordKind.list_inj (Key.base.inj hk)
    · funext account'
      refine kind.store.bytes32Sets_remove h (by simp) (fun hk => hkind ?_)
      exact RecordKind.accountList_inj (Key.derived.inj hk).1
    · exact kind.store.remove_agreeAt h fun f' hk => hkey (Key.field.inj hk).1

/-- What a write does to the lists of its own store. -/
theorem RecordWrite.run_lists (hrep : Represents dataStore records)
    (hkeep : op.KeepsAccount records) (h : op.run dataStore = .ok dataStore') :
    ((op.kind.store.keys dataStore').Nodup ∧
      ∀ key, key ∈ op.kind.store.keys dataStore' ↔
        (records.write op.kind op.key op.record op.kind key).isSome) ∧
      ∀ account, (op.kind.store.accountKeys dataStore' account).Nodup ∧
        ∀ key, key ∈ op.kind.store.accountKeys dataStore' account ↔
          ∃ record, records.write op.kind op.key op.record op.kind key =
            some record ∧ op.kind.store.account record = account := by
  cases op with
  | set kind key record =>
    obtain rfl := Result.pure_eq_ok.mp h
    dsimp only [RecordWrite.kind, RecordWrite.key, RecordWrite.record]
    refine ⟨⟨?_, fun key' => ?_⟩, fun account => ?_⟩
    · rw [kind.store.keys_set]
      exact EnumerableSet.nodup_add (hrep.nodup kind) key
    · rw [kind.store.mem_keys_set, hrep.mem_keys]
      by_cases hkey : key' = key
      · rw [hkey, Records.write_self]
        simp
      · rw [Records.write_of_key_ne hkey, or_iff_left hkey]
    · by_cases haccount : account = kind.store.account record
      · rw [haccount, kind.store.accountKeys_set_self]
        refine ⟨EnumerableSet.nodup_add (hrep.accountNodup kind _) key, fun key' => ?_⟩
        rw [EnumerableSet.mem_add, hrep.mem_accountKeys]
        by_cases hkey : key' = key
        · rw [hkey, Records.write_self]
          simp
        · rw [Records.write_of_key_ne hkey, or_iff_left hkey]
      · have hsame : kind.store.accountKeys (kind.store.set dataStore key record) account =
            kind.store.accountKeys dataStore account :=
          kind.store.bytes32Sets_set (by simp) (by simpa using haccount)
        rw [hsame]
        refine ⟨hrep.accountNodup kind _, fun key' => ?_⟩
        rw [hrep.mem_accountKeys]
        by_cases hkey : key' = key
        · rw [hkey, Records.write_self]
          constructor
          · rintro ⟨previous, hprevious, rfl⟩
            exact absurd (hkeep previous hprevious) haccount
          · rintro ⟨_, ⟨⟩, hrecord⟩
            exact absurd hrecord.symm haccount
        · rw [Records.write_of_key_ne hkey]
  | remove kind key account =>
    have hmem := kind.store.mem_of_remove h
    dsimp only [RecordWrite.kind, RecordWrite.key, RecordWrite.record]
    refine ⟨⟨?_, fun key' => ?_⟩, fun account' => ?_⟩
    · rw [kind.store.keys_remove h]
      exact EnumerableSet.nodup_remove (hrep.nodup kind) key
    · rw [kind.store.mem_keys_remove h (hrep.nodup kind), hrep.mem_keys]
      by_cases hkey : key' = key
      · rw [hkey, Records.write_self]
        simp
      · rw [Records.write_of_key_ne hkey, and_iff_left hkey]
    · obtain ⟨previous, hprevious⟩ := Option.isSome_iff_exists.mp ((hrep.mem_keys _ _).mp hmem)
      by_cases haccount : account' = account
      · rw [haccount, kind.store.accountKeys_remove_self h]
        refine ⟨EnumerableSet.nodup_remove (hrep.accountNodup kind _) key, fun key' => ?_⟩
        rw [EnumerableSet.mem_remove (hrep.accountNodup kind _), hrep.mem_accountKeys]
        by_cases hkey : key' = key
        · rw [hkey, Records.write_self]
          simp
        · rw [Records.write_of_key_ne hkey, and_iff_left hkey]
      · have hsame : kind.store.accountKeys dataStore' account' =
            kind.store.accountKeys dataStore account' :=
          kind.store.bytes32Sets_remove h (by simp) (by simpa using haccount)
        rw [hsame]
        refine ⟨hrep.accountNodup kind _, fun key' => ?_⟩
        rw [hrep.mem_accountKeys]
        by_cases hkey : key' = key
        · rw [hkey, Records.write_self, hprevious]
          constructor
          · rintro ⟨_, ⟨⟩, hrecord⟩
            exact absurd (hrecord.symm.trans (hkeep previous hprevious)) haccount
          · rintro ⟨_, ⟨⟩, -⟩
        · rw [Records.write_of_key_ne hkey]

/-- A write stores its record under its key, and the other stores have none there. -/
theorem Represents.write (hrep : Represents dataStore records)
    (hkeep : op.KeepsAccount records)
    (hother : ∀ kind ≠ op.kind, records kind op.key = none)
    (h : op.run dataStore = .ok dataStore') :
    Represents dataStore' (records.write op.kind op.key op.record) := by
  obtain ⟨hlists, hfields⟩ := op.run_frame h
  obtain ⟨⟨hnodup, hkeys⟩, haccounts⟩ := RecordWrite.run_lists hrep hkeep h
  constructor
  case nodup =>
    intro kind
    by_cases hkind : kind = op.kind
    · rw [hkind]
      exact hnodup
    · rw [(hlists kind hkind).1]
      exact hrep.nodup kind
  case accountNodup =>
    intro kind account
    by_cases hkind : kind = op.kind
    · rw [hkind]
      exact (haccounts account).1
    · rw [(hlists kind hkind).2]
      exact hrep.accountNodup kind account
  case mem_keys =>
    intro kind key
    by_cases hkind : kind = op.kind
    · rw [hkind]
      exact hkeys key
    · rw [(hlists kind hkind).1, Records.write_of_kind_ne hkind]
      exact hrep.mem_keys kind key
  case mem_accountKeys =>
    intro kind key account
    by_cases hkind : kind = op.kind
    · rw [hkind]
      exact (haccounts account).2 key
    · rw [(hlists kind hkind).2, Records.write_of_kind_ne hkind]
      exact hrep.mem_accountKeys kind key account
  case get =>
    intro kind key
    by_cases hkey : key = op.key
    · by_cases hkind : kind = op.kind
      · rw [hkind, hkey, Records.write_self]
        cases op with
        | set kind key record =>
          obtain rfl := Result.pure_eq_ok.mp h
          exact kind.store.get_set_self
        | remove kind key account =>
          apply kind.store.get_of_not_mem
          intro hmem
          exact ((kind.store.mem_keys_remove h (hrep.nodup kind)).mp hmem).2 rfl
      · rw [hkey, Records.write_of_kind_ne hkind, hother kind hkind, Option.getD_none]
        apply kind.store.get_of_not_mem
        show op.key ∉ kind.store.keys dataStore'
        rw [(hlists kind hkind).1, hrep.mem_keys, hother kind hkind]
        exact Bool.false_ne_true
    · have hrecord : records.write op.kind op.key op.record kind key =
          records kind key := by
        by_cases hkind : kind = op.kind
        · rw [hkind, Records.write_of_key_ne hkey]
        · rw [Records.write_of_kind_ne hkind]
      rw [hrecord, ← hrep.get kind key]
      refine kind.store.get_congr ?_ (hfields key hkey)
      by_cases hkind : kind = op.kind
      · rw [hkind]
        refine (hkeys key).trans ?_
        rw [Records.write_of_key_ne hkey]
        exact (hrep.mem_keys _ key).symm
      · exact iff_of_eq (congrArg (key ∈ ·) (hlists kind hkind).1)

end Writes

-- ---------------------------------------------------------------------------
-- Runs
-- ---------------------------------------------------------------------------

/-- No record is stored. -/
structure NoRecords (dataStore : DataStore) : Prop where
  keys : ∀ kind : RecordKind, kind.store.keys dataStore = []
  accountKeys : ∀ (kind : RecordKind) account, kind.store.accountKeys dataStore account = []

/-- What the writes set: under a key of a store the record that was set last, if it has not been
removed since. -/
def Records.after (ops : List RecordWrite) : Records :=
  ops.foldl (fun records op => records.write op.kind op.key op.record) .empty

theorem Records.after_snoc (ops : List RecordWrite) (op : RecordWrite) :
    after (ops ++ [op]) = (after ops).write op.kind op.key op.record := by
  rw [after, List.foldl_append]
  rfl

/-- A write that a caller may make after some writes: a key is used in one of the stores only. -/
structure RecordWrite.Follows (op : RecordWrite) (ops : List RecordWrite) : Prop where
  account : op.KeepsAccount (Records.after ops)
  kind : ∀ previous ∈ ops, previous.key = op.key → previous.kind = op.kind

/-- Writes that succeed, one after the other, from a store without records on. -/
inductive RecordRun : List RecordWrite → DataStore → Prop where
  | nil {dataStore : DataStore} (h : NoRecords dataStore) : RecordRun [] dataStore
  | snoc {ops : List RecordWrite} {dataStore dataStore' : DataStore} {op : RecordWrite}
      (hrun : RecordRun ops dataStore) (hop : op.Follows ops)
      (h : op.run dataStore = .ok dataStore') : RecordRun (ops ++ [op]) dataStore'

namespace RecordRun

variable {ops : List RecordWrite} {dataStore : DataStore}

theorem exists_of_isSome (h : RecordRun ops dataStore) {kind : RecordKind} {key : StoreKey}
    (hsome : (Records.after ops kind key).isSome) : ∃ op ∈ ops, op.kind = kind ∧ op.key = key := by
  induction h with
  | nil => simp [Records.after, Records.empty] at hsome
  | @snoc ops _ _ op _ _ _ ih =>
    rw [Records.after_snoc] at hsome
    by_cases hop : op.kind = kind ∧ op.key = key
    · exact ⟨op, by simp, hop⟩
    · have hsame : (Records.after ops).write op.kind op.key op.record kind key =
          Records.after ops kind key := by
        by_cases hkind : kind = op.kind
        · subst hkind
          exact Records.write_of_key_ne fun hkey => hop ⟨rfl, hkey.symm⟩
        · rw [Records.write_of_kind_ne hkind]
      rw [hsame] at hsome
      obtain ⟨previous, hmem, hprevious⟩ := ih hsome
      exact ⟨previous, List.mem_append_left _ hmem, hprevious⟩

/-- After any run the store holds the records that are set. -/
theorem represents (h : RecordRun ops dataStore) : Represents dataStore (Records.after ops) := by
  induction h with
  | nil h =>
    constructor
    case nodup => intro kind; rw [h.keys]; exact List.nodup_nil
    case accountNodup => intro kind account; rw [h.accountKeys]; exact List.nodup_nil
    case get =>
      intro kind key
      apply kind.store.get_of_not_mem
      exact (congrArg (key ∉ ·) (h.keys kind)).mpr List.not_mem_nil
    case mem_keys =>
      intro kind key
      rw [h.keys]
      simp [Records.after, Records.empty]
    case mem_accountKeys =>
      intro kind key account
      rw [h.accountKeys]
      simp [Records.after, Records.empty]
  | snoc hrun hfollows hop ih =>
    rw [Records.after_snoc]
    refine ih.write hfollows.account (fun kind hne => ?_) hop
    by_contra hsome
    obtain ⟨previous, hmem, rfl, hkey⟩ := hrun.exists_of_isSome (Option.ne_none_iff_isSome.mp hsome)
    exact hne (hfollows.kind previous hmem hkey)

end RecordRun

/-- A key is in the list of its record's account exactly when it is set, and in no other
account's list. -/
theorem Represents.mem_accountKeys_iff {dataStore : DataStore} {records : Records}
    (h : Represents dataStore records) (kind : RecordKind) (key : StoreKey) (account : Address) :
    key ∈ kind.store.accountKeys dataStore account ↔
      (records kind key).isSome ∧ kind.store.account (kind.store.get dataStore key) = account := by
  rw [h.mem_accountKeys, h.get]
  cases records kind key with
  | none => simp
  | some record => simp

/-- **Records read back as they were set.** After any writes each key reads as the record that was
set last, or as the empty one; a write moves no other record; and the lists of all keys and of an
account's keys hold exactly the keys that are set. -/
theorem recordStores_roundTrip {ops : List RecordWrite} {dataStore : DataStore}
    (h : RecordRun ops dataStore) :
    (∀ (kind : RecordKind) key,
      kind.store.get dataStore key = (Records.after ops kind key).getD kind.store.empty) ∧
    (∀ (op : RecordWrite) dataStore', op.Follows ops → op.run dataStore = .ok dataStore' →
      ∀ kind key, ¬ (kind = op.kind ∧ key = op.key) →
        kind.store.get dataStore' key = kind.store.get dataStore key) ∧
    ∀ (kind : RecordKind) key,
      (key ∈ kind.store.keys dataStore ↔ (Records.after ops kind key).isSome) ∧
      (key ∈ kind.store.accountKeys dataStore (kind.store.account (kind.store.get dataStore key)) ↔
        (Records.after ops kind key).isSome) ∧
      ∀ account ≠ kind.store.account (kind.store.get dataStore key),
        key ∉ kind.store.accountKeys dataStore account := by
  have hrep := h.represents
  refine ⟨hrep.get, ?_, fun kind key => ⟨hrep.mem_keys kind key, ?_, ?_⟩⟩
  · intro op dataStore' hop hrun kind key hne
    have hrep' := (RecordRun.snoc h hop hrun).represents
    rw [hrep'.get, hrep.get, Records.after_snoc]
    by_cases hkind : kind = op.kind
    · subst hkind
      rw [Records.write_of_key_ne fun hkey => hne ⟨rfl, hkey⟩]
    · rw [Records.write_of_kind_ne hkind]
  · rw [hrep.mem_accountKeys_iff, and_iff_left rfl]
  · intro account hne hmem
    exact hne ((hrep.mem_accountKeys_iff kind key account).mp hmem).2.symm

theorem noRecords_empty : NoRecords .empty := ⟨fun _ => rfl, fun _ _ => rfl⟩

/-- An order that is set, set again under its key, and removed; a position under another key
stays. -/
theorem recordStores_roundTrip_sample :
    let order : Order := { Order.empty with account := 7, swapPath := [3, 4] }
    let position : Position := { Position.empty with account := 7, sizeInUsd := 5 }
    let key : StoreKey := .position 7 1 2 true
    ∃ dataStore, RecordRun [.set .order (.request 1) order, .set .position key position,
        .set .order (.request 1) { order with executionFee := 9 }, .remove .order (.request 1) 7]
        dataStore ∧
      RecordKind.position.store.get dataStore key = position ∧
      RecordKind.order.store.get dataStore (.request 1) = Order.empty := by
  intro order position key
  have hset : RecordRun [.set .order (.request 1) order] _ :=
    .snoc (.nil noRecords_empty) ⟨by rintro _ ⟨⟩, by simp⟩ rfl
  have hposition : RecordRun [.set .order (.request 1) order, .set .position key position] _ :=
    .snoc hset ⟨by rintro _ ⟨⟩, by simp [RecordWrite.key, key]⟩ rfl
  have hagain : RecordRun [.set .order (.request 1) order, .set .position key position,
      .set .order (.request 1) { order with executionFee := 9 }] _ :=
    .snoc hposition ⟨by rintro _ ⟨⟩; rfl, by simp [RecordWrite.key, RecordWrite.kind, key]⟩ rfl
  have hremoved : RecordRun [.set .order (.request 1) order, .set .position key position,
      .set .order (.request 1) { order with executionFee := 9 }, .remove .order (.request 1) 7] _ :=
    .snoc hagain ⟨by rintro _ ⟨⟩; rfl, by simp [RecordWrite.key, RecordWrite.kind, key]⟩ rfl
  obtain ⟨hget, -, -⟩ := recordStores_roundTrip hremoved
  exact ⟨_, hremoved, hget .position key, hget .order (.request 1)⟩

end GmxSynthetics
