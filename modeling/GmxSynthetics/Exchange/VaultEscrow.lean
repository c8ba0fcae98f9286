import GmxSynthetics.Exchange.VaultFlow

/-!
# What the vaults owe

Each vault holds the tokens of one kind of request. What it owes a request can be read off the
stored record, so the vault, its requests and its balance are an escrow account.

* `RequestKind` — orders, deposits and withdrawals, and what a stored one is owed;
* `RequestKind.escrow` — the escrow account that a state shows for a kind;
* `Settled` — a call for one request of one kind: its vault settles it, the other vaults and their
  requests are as before;
* `…_settled` — every call of the handlers.
-/

namespace GmxSynthetics

open Evm BaseOrderUtils

-- ---------------------------------------------------------------------------
-- Kinds of requests
-- ---------------------------------------------------------------------------

/-- The collateral of an order, and its execution fee. -/
def orderEscrow (wnt : Address) (order : Order) : Address → Nat :=
  collateralEscrow order + tokenAmount wnt order.executionFee

/-- The two amounts of a deposit, and its execution fee. -/
def depositEscrow (wnt : Address) (deposit : Deposit) : Address → Nat :=
  tokenAmount deposit.initialLongToken deposit.initialLongTokenAmount +
    tokenAmount deposit.initialShortToken deposit.initialShortTokenAmount +
    tokenAmount wnt deposit.executionFee

/-- The market tokens of a withdrawal, and its execution fee. -/
def withdrawalEscrow (wnt : Address) (withdrawal : Withdrawal) : Address → Nat :=
  tokenAmount withdrawal.market withdrawal.marketTokenAmount +
    tokenAmount wnt withdrawal.executionFee

inductive RequestKind where
  | order
  | deposit
  | withdrawal
  deriving DecidableEq, Repr

namespace RequestKind

/-- What is stored for a request. -/
def Record : RequestKind → Type
  | .order => Order
  | .deposit => Deposit
  | .withdrawal => Withdrawal

def store : (kind : RequestKind) → RecordStore kind.Record
  | .order => orderStore
  | .deposit => depositStore
  | .withdrawal => withdrawalStore

def vault (deployment : Deployment) : RequestKind → Address
  | .order => deployment.orderVault
  | .deposit => deployment.depositVault
  | .withdrawal => deployment.withdrawalVault

/-- What a request has in its vault. -/
def owed : (kind : RequestKind) → (wnt : Address) → kind.Record → Address → Nat
  | .order => orderEscrow
  | .deposit => depositEscrow
  | .withdrawal => withdrawalEscrow

/-- A request that is not there is owed nothing. -/
theorem owed_empty (kind : RequestKind) (wnt : Address) : kind.owed wnt kind.store.empty = 0 := by
  cases kind with
  | order =>
    show tokenAmount 0 0 + tokenAmount wnt 0 = 0
    rw [tokenAmount_zero, tokenAmount_zero, add_zero]
  | deposit =>
    show tokenAmount 0 0 + tokenAmount 0 0 + tokenAmount wnt 0 = 0
    rw [tokenAmount_zero, tokenAmount_zero, add_zero, add_zero]
  | withdrawal =>
    show tokenAmount 0 0 + tokenAmount wnt 0 = 0
    rw [tokenAmount_zero, tokenAmount_zero, add_zero]

variable {kind : RequestKind} {deployment : Deployment} {w w' w'' : World}

/-- The escrow account of a kind of request. -/
def escrow (kind : RequestKind) (deployment : Deployment) (w : World) :
    Escrow StoreKey Address where
  toBalance := w.vaultBalance (kind.vault deployment)
  keys := kind.store.keys w.dataStore
  owed key := kind.owed (TokenUtils.wnt w.dataStore) (kind.store.get w.dataStore key)

/-- A request that is not pending is owed nothing. -/
theorem owed_of_not_mem {key : StoreKey} (h : key ∉ kind.store.keys w.dataStore) :
    (kind.escrow deployment w).owed key = 0 := by
  show kind.owed _ (kind.store.get w.dataStore key) = 0
  rw [kind.store.get_of_not_mem h, owed_empty]

-- ---------------------------------------------------------------------------
-- Requests that stay as they are
-- ---------------------------------------------------------------------------

/-- The pending requests of a kind are the same. -/
structure Same (kind : RequestKind) (w w' : World) : Prop where
  keys : kind.store.keys w'.dataStore = kind.store.keys w.dataStore
  get : kind.store.get w'.dataStore = kind.store.get w.dataStore
  wnt : TokenUtils.wnt w'.dataStore = TokenUtils.wnt w.dataStore

/-- What two steps leave alone stays. -/
theorem Same.trans (h : kind.Same w w') (h' : kind.Same w' w'') : kind.Same w w'' :=
  ⟨h'.keys.trans h.keys, h'.get.trans h.get, h'.wnt.trans h.wnt⟩

/-- A kind stays where its list and its listed requests do. -/
theorem Same.of_get (hkeys : kind.store.keys w'.dataStore = kind.store.keys w.dataStore)
    (hget : ∀ key ∈ kind.store.keys w.dataStore,
      kind.store.get w'.dataStore key = kind.store.get w.dataStore key)
    (hwnt : TokenUtils.wnt w'.dataStore = TokenUtils.wnt w.dataStore) : kind.Same w w' := by
  refine ⟨hkeys, funext fun key => ?_, hwnt⟩
  by_cases hmem : key ∈ kind.store.keys w.dataStore
  · exact hget key hmem
  · rw [kind.store.get_of_not_mem hmem]
    apply kind.store.get_of_not_mem
    change key ∉ kind.store.keys w'.dataStore
    rwa [hkeys]

/-- It stays where nothing of it is written. -/
theorem Same.of_sameOff {slots : List Slot} (h : World.SameOff slots w w')
    (hkeys : ∀ key ∈ kind.store.keys w.dataStore, key.slot = .request)
    (hlist : Slot.constant kind.store.list ∉ slots) (hrequest : Slot.request ∉ slots)
    (hwnt : Slot.constant .WNT ∉ slots) : kind.Same w w' := by
  refine .of_get (kind.store.keys_sameOff h hlist) ?_ (h.address _ hwnt _ rfl)
  intro key hmem
  apply kind.store.get_sameOff h hlist
  rwa [hkeys key hmem]

/-- The fields of a request of another kind have been written. -/
theorem Same.of_agreeAt {key : StoreKey}
    (hkeys : kind.store.keys w'.dataStore = kind.store.keys w.dataStore)
    (hmem : key ∉ kind.store.keys w.dataStore)
    (h : ∀ k : Key, (∀ f, k ≠ .field key f) → DataStore.AgreeAt k w.dataStore w'.dataStore) :
    kind.Same w w' := by
  refine .of_get hkeys ?_ (h _ fun f => by simp).address
  intro key' hmem'
  apply kind.store.get_congr
  · exact iff_of_eq (congrArg (key' ∈ ·) hkeys)
  · intro f
    refine h _ fun f' hfield => hmem ?_
    rwa [← (Key.field.inj hfield).1]

/-- Nothing is taken out for a request that stays. -/
theorem Same.settles (h : kind.Same w w') (hguarded : Guarded (kind.vault deployment) w w')
    (key : StoreKey) :
    Escrow.Settles key 0 0 (kind.escrow deployment w) (kind.escrow deployment w') := by
  refine .of_flow key (fun hmem t => ?_) h.keys ?_ hguarded
  · rw [owed_of_not_mem hmem]
    rfl
  · funext key'
    show kind.owed _ (kind.store.get w'.dataStore key') = _
    rw [h.wnt, h.get]
    rfl

end RequestKind

-- ---------------------------------------------------------------------------
-- Keys of requests
-- ---------------------------------------------------------------------------

/-- The pending requests have keys of their own, which have been given out. -/
structure RequestKeys (dataStore : DataStore) : Prop where
  nodup : ∀ kind : RequestKind, (kind.store.keys dataStore).Nodup
  given : ∀ (kind : RequestKind), ∀ key ∈ kind.store.keys dataStore,
    ∃ nonce ≤ NonceUtils.getCurrentNonce dataStore, key = .request nonce
  disjoint : ∀ (kind kind' : RequestKind) (key : StoreKey), key ∈ kind.store.keys dataStore →
    key ∈ kind'.store.keys dataStore → kind = kind'

namespace RequestKeys

variable {dataStore : DataStore} {kind : RequestKind} {key : StoreKey}

/-- A pending request is under a key of requests. -/
theorem slot (h : RequestKeys dataStore) (hmem : key ∈ kind.store.keys dataStore) :
    key.slot = .request := by
  obtain ⟨_, -, rfl⟩ := h.given kind key hmem
  rfl

/-- The next key is nobody's. -/
theorem next_not_mem (h : RequestKeys dataStore) (kind : RequestKind) :
    .request (NonceUtils.getCurrentNonce dataStore + 1) ∉ kind.store.keys dataStore := by
  intro hmem
  obtain ⟨nonce, hle, hkey⟩ := h.given kind _ hmem
  have hnonce := StoreKey.request.inj hkey
  omega

end RequestKeys

-- ---------------------------------------------------------------------------
-- What a call does to the requests
-- ---------------------------------------------------------------------------

variable {w w' w'' : World} {kind : RequestKind} {key : StoreKey} {deployment : Deployment}

/-- Where the requests are stored. -/
def requestStateSlots : List Slot :=
  [.request, .constant .ORDER_LIST, .constant .DEPOSIT_LIST, .constant .WITHDRAWAL_LIST,
    .constant .NONCE, .constant .WNT]

theorem RequestKind.list_mem (kind : RequestKind) :
    Slot.constant kind.store.list ∈ requestStateSlots := by
  cases kind <;> decide

/-- No request has changed, and no key has been given out. -/
structure SameRequests (w w' : World) : Prop where
  same : ∀ kind : RequestKind, kind.Same w w'
  nonce : NonceUtils.getCurrentNonce w'.dataStore = NonceUtils.getCurrentNonce w.dataStore

namespace SameRequests

/-- All requests stay where none is written. -/
theorem of_sameOff {slots : List Slot} (hkeys : RequestKeys w.dataStore)
    (h : World.SameOff slots w w') (hslots : ∀ slot ∈ requestStateSlots, slot ∉ slots) :
    SameRequests w w' where
  same kind := .of_sameOff h (fun _ hmem => hkeys.slot hmem) (hslots _ kind.list_mem)
    (hslots _ (by decide)) (hslots _ (by decide))
  nonce := h.uint (.constant .NONCE) (hslots _ (by decide)) _ rfl

/-- And where the store is the same. -/
theorem of_dataStore_eq (h : w'.dataStore = w.dataStore) : SameRequests w w' where
  same kind := by
    refine ⟨?_, ?_, ?_⟩ <;> rw [h]
  nonce := by rw [h]

/-- The keys of the requests are still apart. -/
theorem requestKeys (hkeys : RequestKeys w.dataStore) (h : SameRequests w w') :
    RequestKeys w'.dataStore where
  nodup kind := by
    rw [(h.same kind).keys]
    exact hkeys.nodup kind
  given kind := by
    rw [(h.same kind).keys, h.nonce]
    exact hkeys.given kind
  disjoint kind kind' := by
    rw [(h.same kind).keys, (h.same kind').keys]
    exact hkeys.disjoint kind kind'

end SameRequests

/-- One record of a kind has been set, under a key that it has or that is new. -/
structure Sets (kind : RequestKind) (key : StoreKey) (record : kind.Record) (w w' : World) :
    Prop where
  keys : kind.store.keys w'.dataStore = EnumerableSet.add (kind.store.keys w.dataStore) key
  get_self : kind.store.get w'.dataStore key = record
  get_of_ne : ∀ key' ≠ key, kind.store.get w'.dataStore key' = kind.store.get w.dataStore key'
  wnt : TokenUtils.wnt w'.dataStore = TokenUtils.wnt w.dataStore
  others : ∀ kind' ≠ kind, kind'.Same w w'

/-- One record of a kind has been removed. -/
structure Drops (kind : RequestKind) (key : StoreKey) (w w' : World) : Prop where
  mem : key ∈ kind.store.keys w.dataStore
  keys : kind.store.keys w'.dataStore = EnumerableSet.remove (kind.store.keys w.dataStore) key
  get_of_ne : ∀ key' ≠ key, kind.store.get w'.dataStore key' = kind.store.get w.dataStore key'
  wnt : TokenUtils.wnt w'.dataStore = TokenUtils.wnt w.dataStore
  others : ∀ kind' ≠ kind, kind'.Same w w'
  nonce : NonceUtils.getCurrentNonce w'.dataStore = NonceUtils.getCurrentNonce w.dataStore

/-- Two kinds of requests are stored apart. -/
theorem RequestKind.list_ne {kind kind' : RequestKind} (h : kind' ≠ kind) :
    kind'.store.list ≠ kind.store.list ∧ kind'.store.list ≠ kind.store.accountList := by
  cases kind <;> cases kind' <;> first
    | exact absurd rfl h
    | exact ⟨by decide, by decide⟩

/-- Setting a request under a key that no other kind has. -/
theorem Sets.of_set (kind : RequestKind) {record : kind.Record}
    (hown : ∀ kind' : RequestKind, kind' ≠ kind →
      key ∉ kind'.store.keys w.dataStore) :
    Sets kind key record w { w with dataStore := kind.store.set w.dataStore key record } where
  keys := kind.store.keys_set
  get_self := kind.store.get_set_self
  get_of_ne _ hne := kind.store.get_set_of_ne hne
  wnt := (kind.store.set_agreeAt fun f => by simp).address
  others kind' hne := by
    have hlists := RequestKind.list_ne hne
    refine .of_agreeAt ?_ (hown kind' hne) fun k hk => kind.store.set_agreeAt hk
    exact kind.store.bytes32Sets_set (by simpa using hlists.1) (by simp)

/-- Removing one. -/
theorem Drops.of_remove (kind : RequestKind) {account : Address} {dataStore : DataStore}
    (hkeys : RequestKeys w.dataStore)
    (h : kind.store.remove w.dataStore key account = .ok dataStore) :
    Drops kind key w { w with dataStore } where
  mem := kind.store.mem_of_remove h
  keys := kind.store.keys_remove h
  get_of_ne _ hne := kind.store.get_remove_of_ne h (hkeys.nodup kind) hne
  wnt := (kind.store.remove_agreeAt h fun f => by simp).address
  nonce := (kind.store.remove_agreeAt h fun f => by simp).uint
  others kind' hne := by
    have hlists := RequestKind.list_ne hne
    have hmem : key ∉ kind'.store.keys w.dataStore := fun hmem =>
      hne (hkeys.disjoint _ _ key hmem (kind.store.mem_of_remove h))
    refine .of_agreeAt ?_ hmem fun k hk => kind.store.remove_agreeAt h hk
    exact kind.store.bytes32Sets_remove h (by simpa using hlists.1) (by simp)

/-- What follows leaves the requests alone. -/
theorem Sets.trans_same {record : kind.Record} (h : Sets kind key record w w')
    (h' : ∀ kind' : RequestKind, kind'.Same w' w'') : Sets kind key record w w'' where
  keys := (h' kind).keys.trans h.keys
  get_self := by rw [(h' kind).get, h.get_self]
  get_of_ne key' hne := by rw [(h' kind).get, h.get_of_ne key' hne]
  wnt := (h' kind).wnt.trans h.wnt
  others kind' hne := (h.others kind' hne).trans (h' kind')

/-- What comes before left them alone. -/
theorem Sets.after_same {record : kind.Record} (h : ∀ kind' : RequestKind, kind'.Same w w')
    (h' : Sets kind key record w' w'') : Sets kind key record w w'' where
  keys := by rw [h'.keys, (h kind).keys]
  get_self := h'.get_self
  get_of_ne key' hne := by rw [h'.get_of_ne key' hne, (h kind).get]
  wnt := h'.wnt.trans (h kind).wnt
  others kind' hne := (h kind').trans (h'.others kind' hne)

/-- What follows leaves the requests alone. -/
theorem Drops.trans_same (h : Drops kind key w w') (h' : SameRequests w' w'') :
    Drops kind key w w'' where
  mem := h.mem
  keys := (h'.same kind).keys.trans h.keys
  get_of_ne key' hne := by rw [(h'.same kind).get, h.get_of_ne key' hne]
  wnt := (h'.same kind).wnt.trans h.wnt
  nonce := h'.nonce.trans h.nonce
  others kind' hne := (h.others kind' hne).trans (h'.same kind')

/-- What comes before left them alone. -/
theorem Drops.after_same (h : SameRequests w w') (h' : Drops kind key w' w'') :
    Drops kind key w w'' where
  mem := by
    rw [← (h.same kind).keys]
    exact h'.mem
  keys := by rw [h'.keys, (h.same kind).keys]
  get_of_ne key' hne := by rw [h'.get_of_ne key' hne, (h.same kind).get]
  wnt := h'.wnt.trans (h.same kind).wnt
  nonce := h'.nonce.trans h.nonce
  others kind' hne := (h.same kind').trans (h'.others kind' hne)

/-- The keys are still apart. -/
theorem Drops.requestKeys (hkeys : RequestKeys w.dataStore) (h : Drops kind key w w') :
    RequestKeys w'.dataStore := by
  have hold : ∀ (kind' : RequestKind), ∀ key' ∈ kind'.store.keys w'.dataStore,
      key' ∈ kind'.store.keys w.dataStore := by
    intro kind' key' hmem
    by_cases hne : kind' = kind
    · subst hne
      rw [h.keys, EnumerableSet.mem_remove (hkeys.nodup kind')] at hmem
      exact hmem.1
    · rwa [(h.others kind' hne).keys] at hmem
  constructor
  case nodup =>
    intro kind'
    by_cases hne : kind' = kind
    · subst hne
      rw [h.keys]
      exact EnumerableSet.nodup_remove (hkeys.nodup kind') key
    · rw [(h.others kind' hne).keys]
      exact hkeys.nodup kind'
  case given =>
    intro kind' key' hmem
    rw [h.nonce]
    exact hkeys.given kind' key' (hold kind' key' hmem)
  case disjoint =>
    exact fun kind₁ kind₂ key' h₁ h₂ =>
      hkeys.disjoint kind₁ kind₂ key' (hold kind₁ key' h₁) (hold kind₂ key' h₂)

/-- A call for one request of a kind: its vault settles it, and the other vaults and their requests
are as before. A request that is new has a key that has not been given out before. -/
structure Settled (deployment : Deployment) (kind : RequestKind) (key : StoreKey) (w w' : World) :
    Prop where
  settles : ∃ received spent, Escrow.Settles key received spent (kind.escrow deployment w)
    (kind.escrow deployment w')
  others : ∀ kind' ≠ kind, kind'.Same w w' ∧ Guarded (kind'.vault deployment) w w'
  nonce_le : NonceUtils.getCurrentNonce w.dataStore ≤ NonceUtils.getCurrentNonce w'.dataStore
  given : ∀ key' ∈ kind.store.keys w'.dataStore, key' ∈ kind.store.keys w.dataStore ∨
    key' = key ∧ ∃ nonce, key = .request nonce ∧
      NonceUtils.getCurrentNonce w.dataStore < nonce ∧
      nonce ≤ NonceUtils.getCurrentNonce w'.dataStore

/-- A request that is set settles the vault with what comes in for it. -/
theorem Sets.settled {record : kind.Record} {received spent : Address → Nat}
    (h : Sets kind key record w w')
    (hnonce : key ∈ kind.store.keys w.dataStore ∧
        NonceUtils.getCurrentNonce w'.dataStore = NonceUtils.getCurrentNonce w.dataStore ∨
      key = .request (NonceUtils.getCurrentNonce w.dataStore + 1) ∧
        NonceUtils.getCurrentNonce w'.dataStore = NonceUtils.getCurrentNonce w.dataStore + 1)
    (hflow : Flow (w.vaultBalance (kind.vault deployment)) received spent
      (w'.vaultBalance (kind.vault deployment)))
    (htaken : ∀ t, kind.owed (TokenUtils.wnt w.dataStore) record t ≤
      kind.owed (TokenUtils.wnt w.dataStore) (kind.store.get w.dataStore key) t + received t)
    (hpaid : ∀ t, kind.owed (TokenUtils.wnt w.dataStore) record t + spent t ≤
      kind.owed (TokenUtils.wnt w.dataStore) (kind.store.get w.dataStore key) t ∨ spent t = 0)
    (hothers : ∀ kind' ≠ kind, Guarded (kind'.vault deployment) w w') :
    Settled deployment kind key w w' := by
  have howed : (kind.escrow deployment w').owed key =
      kind.owed (TokenUtils.wnt w.dataStore) record := by
    show kind.owed _ (kind.store.get w'.dataStore key) = _
    rw [h.wnt, h.get_self]
  have hmem : ∀ key', key' ∈ kind.store.keys w'.dataStore ↔
      key' ∈ kind.store.keys w.dataStore ∨ key' = key := by
    intro key'
    rw [h.keys, EnumerableSet.mem_add]
  constructor
  case settles =>
    refine ⟨received, spent, hflow, ?_, ?_, ?_, ?_, ?_, ?_⟩
    · intro hnodup
      show (kind.store.keys w'.dataStore).Nodup
      rw [h.keys]
      exact EnumerableSet.nodup_add hnodup key
    · intro key' hne
      exact (hmem key').trans (or_iff_left hne)
    · intro key' hne
      show kind.owed _ (kind.store.get w'.dataStore key') = _
      rw [h.wnt, h.get_of_ne key' hne]
      rfl
    · intro habsent
      exact absurd ((hmem key).mpr (Or.inr rfl)) habsent
    · intro t
      rw [howed]
      exact htaken t
    · intro t
      rw [howed]
      exact hpaid t
  case others => exact fun kind' hne => ⟨h.others kind' hne, hothers kind' hne⟩
  case nonce_le =>
    rcases hnonce with ⟨-, hnonce⟩ | ⟨-, hnonce⟩
    · exact hnonce.ge
    · omega
  case given =>
    intro key' hmem'
    rcases (hmem key').mp hmem' with hold | rfl
    · exact Or.inl hold
    · rcases hnonce with ⟨hold, -⟩ | ⟨hkey, hnew⟩
      · exact Or.inl hold
      · exact Or.inr ⟨rfl, _, hkey, Nat.lt_succ_self _, hnew.ge⟩

/-- One that is dropped settles it with what is paid out for it. -/
theorem Drops.settled {spent : Address → Nat} (hkeys : RequestKeys w.dataStore)
    (h : Drops kind key w w')
    (hflow : Flow (w.vaultBalance (kind.vault deployment)) 0 spent
      (w'.vaultBalance (kind.vault deployment)))
    (hspent : ∀ t, spent t ≤
      kind.owed (TokenUtils.wnt w.dataStore) (kind.store.get w.dataStore key) t)
    (hothers : ∀ kind' ≠ kind, Guarded (kind'.vault deployment) w w') :
    Settled deployment kind key w w' := by
  have hmem : ∀ key', key' ∈ kind.store.keys w'.dataStore ↔
      key' ∈ kind.store.keys w.dataStore ∧ key' ≠ key := by
    intro key'
    rw [h.keys, EnumerableSet.mem_remove (hkeys.nodup kind)]
  have howed : (kind.escrow deployment w').owed key = 0 :=
    RequestKind.owed_of_not_mem fun hkey => ((hmem key).mp hkey).2 rfl
  constructor
  case settles =>
    refine ⟨0, spent, hflow, ?_, ?_, ?_, ?_, ?_, ?_⟩
    · intro hnodup
      show (kind.store.keys w'.dataStore).Nodup
      rw [h.keys]
      exact EnumerableSet.nodup_remove hnodup key
    · intro key' hne
      exact (hmem key').trans (and_iff_left hne)
    · intro key' hne
      show kind.owed _ (kind.store.get w'.dataStore key') = _
      rw [h.wnt, h.get_of_ne key' hne]
      rfl
    · intro _ t
      rw [howed]
      rfl
    · intro t
      rw [howed]
      exact Nat.zero_le _
    · intro t
      rw [howed]
      refine Or.inl ?_
      show 0 + spent t ≤ _
      rw [Nat.zero_add]
      exact hspent t
  case others => exact fun kind' hne => ⟨h.others kind' hne, hothers kind' hne⟩
  case nonce_le => exact h.nonce.ge
  case given => exact fun key' hkey => Or.inl ((hmem key').mp hkey).1

/-- The keys stay apart. -/
theorem Settled.requestKeys (hkeys : RequestKeys w.dataStore)
    (h : Settled deployment kind key w w') : RequestKeys w'.dataStore := by
  have hold : ∀ kind' ≠ kind, kind'.store.keys w'.dataStore = kind'.store.keys w.dataStore :=
    fun kind' hne => (h.others kind' hne).1.keys
  have hnew : ∀ (kind' : RequestKind), ∀ key' ∈ kind'.store.keys w'.dataStore,
      key' ∈ kind'.store.keys w.dataStore ∨ kind' = kind ∧ key' = key ∧
        ∃ nonce, key' = .request nonce ∧ NonceUtils.getCurrentNonce w.dataStore < nonce ∧
          nonce ≤ NonceUtils.getCurrentNonce w'.dataStore := by
    intro kind' key' hmem
    by_cases hne : kind' = kind
    · subst hne
      rcases h.given key' hmem with hmem | ⟨rfl, nonce, hnonce⟩
      · exact Or.inl hmem
      · exact Or.inr ⟨rfl, rfl, nonce, hnonce⟩
    · rw [hold kind' hne] at hmem
      exact Or.inl hmem
  -- a new key is later than every key of before
  have hlate : ∀ (kind' : RequestKind), ∀ nonce, NonceUtils.getCurrentNonce w.dataStore < nonce →
      StoreKey.request nonce ∉ kind'.store.keys w.dataStore := by
    intro kind' nonce hlt hmem
    obtain ⟨nonce', hle, hkey⟩ := hkeys.given kind' _ hmem
    have hnonce := StoreKey.request.inj hkey
    omega
  constructor
  case nodup =>
    intro kind'
    by_cases hne : kind' = kind
    · subst hne
      obtain ⟨_, _, hsettles⟩ := h.settles
      exact hsettles.nodup (hkeys.nodup kind')
    · rw [hold kind' hne]
      exact hkeys.nodup kind'
  case given =>
    intro kind' key' hmem
    rcases hnew kind' key' hmem with hmem | ⟨-, -, nonce, rfl, -, hle⟩
    · obtain ⟨nonce, hle, rfl⟩ := hkeys.given kind' key' hmem
      exact ⟨nonce, hle.trans h.nonce_le, rfl⟩
    · exact ⟨nonce, hle, rfl⟩
  case disjoint =>
    intro kind₁ kind₂ key' h₁ h₂
    rcases hnew kind₁ key' h₁ with h₁ | ⟨hkind₁, -, nonce, rfl, hlt, -⟩
    · rcases hnew kind₂ key' h₂ with h₂ | ⟨-, -, nonce, rfl, hlt, -⟩
      · exact hkeys.disjoint kind₁ kind₂ key' h₁ h₂
      · exact absurd h₁ (hlate kind₁ nonce hlt)
    · rcases hnew kind₂ _ h₂ with h₂ | ⟨hkind₂, -⟩
      · exact absurd h₂ (hlate kind₂ nonce hlt)
      · exact hkind₁.trans hkind₂.symm

end GmxSynthetics
